import MyRtspServer.Library.Scan
import MyRtspServer.Net.RtpInstance

/-!
# The request parser of `RtspConnection`

`ParseRequest` takes the first CRLF of the input buffer as the end of the request
line and the last one as the end of the header block. What it finds goes into
members of the connection as it is found, also when the request is refused. The
first component of a result is the return value.
-/
namespace MyRtspServer.Net

open Library Library.Octets Library.Scan

/-- `Buffer::KCRLF`. -/
def kCrlf : Octets := [13, 10]

/-- The `strcmp` chain of `ParseRequest1`. -/
def methodOf (method : Octets) : Option Method :=
  if method = ascii "OPTIONS" then some .options
  else if method = ascii "DESCRIBE" then some .describe
  else if method = ascii "SETUP" then some .setup
  else if method = ascii "PLAY" then some .play
  else if method = ascii "TEARDOWN" then some .teardown
  else if method = ascii "GET_PARAMETER" then some .getParameter
  else if method = ascii "PAUSE" then some .pause
  else none

/-- `"%s %s %s"` into `method[64]`, `url[512]` and `version[64]`. -/
def requestLineFormat : List Directive :=
  [.word 64, .space, .word 512, .space, .word 64]

/-- `"%[^:]:%hu/%s"` into `ip[64]`, `port` and `suffix[64]`. -/
def hostPortFormat : List Directive :=
  [.until_ 58 64, .char 58, .unsigned 16, .char 47, .word 64]

/-- `"%[^/]/%s"` into `ip[64]` and `suffix[64]`. -/
def hostFormat : List Directive := [.until_ 47 64, .char 47, .word 64]

/-- `"%*[^:]: %u"`. -/
def numberHeaderFormat : List Directive := [.skipUntil 58, .char 58, .space, .unsigned 32]

/-- `"%*[^;];%*[^=]=%hu-%hu"`, and the same with `%hhu`. -/
def transportFormat (bits : Nat) : List Directive :=
  [.skipUntil 59, .char 59, .skipUntil 61, .char 61, .unsigned bits, .char 45, .unsigned bits]

namespace Request

/-- What follows `rtsp://` in the URL: a host, perhaps a port, and the suffix. -/
def parseUrl (url : Octets) : Except Fault (Option Octets) :=
  match sscanf hostPortFormat (url.drop 7) with
  | none => .error .bufferOverflow
  | some [.text _, .number _, .text suffix] => .ok (some suffix)
  | some _ =>
    match sscanf hostFormat (url.drop 7) with
    | none => .error .bufferOverflow
    | some [.text _, .text suffix] => .ok (some suffix)
    | some _ => .ok none

def parseRequest1 (r : Request) (message : Octets) : Except Fault (Bool × Request) :=
  match sscanf requestLineFormat (cstr message) with
  | none => .error .bufferOverflow
  | some [.text method, .text url, .text _] =>
    match methodOf method with
    | none => .ok (false, { r with method := .none_ })
    | some m =>
      let r := { r with method := m }
      if (ascii "rtsp://").isPrefixOf url then
        match parseUrl url with
        | .error e => .error e
        | .ok none => .ok (false, r)
        | .ok (some suffix) => .ok (true, { r with url := url, suffix := suffix })
      else .ok (false, r)
  | some _ => .ok (false, r)

/-- The number behind the first `name` in the header block and the next colon. -/
def numberAfter (name message : Octets) : Option Nat :=
  match splitFirst name message with
  | none => none
  | some (_, rest) =>
    match sscanf numberHeaderFormat (cstr rest) with
    | some [.number n] => some n
    | _ => none

def parseCSeq (r : Request) (message : Octets) : Bool × Request :=
  match numberAfter (ascii "CSeq") message with
  | some n => (true, { r with cseq := UInt32.ofNat n })
  | none => (false, r)

def parseAccept (message : Octets) : Bool :=
  contains (ascii "Accept") message && contains (ascii "sdp") message

/-- The part of `ParseTransport` for `RTP/AVP/TCP`, from where that text stands. -/
def parseInterleaved (r : Request) (transport : Octets) : Bool × Request :=
  let r := { r with isRtpOverTcp := true }
  match sscanf (transportFormat 8) (cstr transport) with
  | some (.number a :: rest) =>
    (decide (rest.length = 1), { r with rtpChannel := UInt8.ofNat a })
  | _ => (false, r)

/-- The part of `ParseTransport` for `RTP/AVP`. -/
def parseUdp (r : Request) (transport : Octets) : Bool × Request :=
  if contains (ascii "unicast") transport then
    match sscanf (transportFormat 16) (cstr transport) with
    | some [.number a, .number b] =>
      (true, { r with peerRtpPort := UInt16.ofNat a, peerRtcpPort := UInt16.ofNat b })
    | some [.number a] => (false, { r with peerRtpPort := UInt16.ofNat a })
    | _ => (false, r)
  else (contains (ascii "multicast") transport, r)

def parseTransport (r : Request) (message : Octets) : Bool × Request :=
  if contains (ascii "Transport") message then
    match splitFirst (ascii "RTP/AVP/TCP") message with
    | some (_, transport) => r.parseInterleaved transport
    | none =>
      match splitFirst (ascii "RTP/AVP") message with
      | some (_, transport) => r.parseUdp transport
      | none => (false, r)
  else (false, r)

def parseMediaTrack (r : Request) : Bool × Request :=
  if contains (ascii "track0") r.url then (true, { r with trackId := some 0 })
  else if contains (ascii "track1") r.url then (true, { r with trackId := some 1 })
  else (false, r)

/-- The number itself is not kept. -/
def parseSessionId (message : Octets) : Bool := (numberAfter (ascii "Session") message).isSome

def parseRequest2 (r : Request) (message : Octets) : Bool × Request :=
  match r.parseCSeq message with
  | (false, r) => (false, r)
  | (true, r) =>
    match r.method with
    | .options => (true, r)
    | .describe => (parseAccept message, r)
    | .setup =>
      match r.parseTransport message with
      | (false, r) => (false, r)
      | (true, r) => r.parseMediaTrack
    | .play => (parseSessionId message, r)
    | .teardown | .getParameter | .pause => (true, r)
    | .rtcp | .none_ => (false, r)

/-- `ParseRequest`: the last component is the input buffer afterwards. Every
failure throws the buffer away. -/
def parseRequest (r : Request) (buffer : Octets) : Except Fault (Bool × Request × Octets) :=
  match splitFirst kCrlf buffer with
  | none => .ok (false, r, [])
  | some (line, rest) =>
    match r.parseRequest1 line with
    | .error e => .error e
    | .ok (false, r) => .ok (false, r, [])
    | .ok (true, r) =>
      match splitLast kCrlf (rest.drop 2) with
      | none => .ok (false, r, [])
      | some (block, rest) =>
        match r.parseRequest2 block with
        | (false, r) => .ok (false, r, [])
        | (true, r) => .ok (true, r, rest.drop 2)

end Request
end MyRtspServer.Net
