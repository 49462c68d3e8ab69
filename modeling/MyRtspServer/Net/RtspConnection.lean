import MyRtspServer.Net.MediaSession
import MyRtspServer.Net.Request

/-!
# `RtspConnection`

One request at a time: `HandleReadBytes` parses what is in the input buffer and
calls the handler of the method. A handler sees the shared `Media` and the
connection without its input buffer; its first result is its return value. What
the kernel, the allocator and uninitialised memory contribute to one call is the
`World`.
-/
namespace MyRtspServer.Net

open Library Library.Octets Library.Scan

/-- One round of the loop in `CreateRtpRtcpOverUdp`: the two sockets, if they can
be created, the value of `rand()`, and whether each port can be bound. -/
structure UdpAttempt where
  rtpSockfd : Option Nat
  rtcpSockfd : Option Nat
  rand : Nat
  rtpBound : Bool
  rtcpBound : Bool

structure World where
  localIp : Octets
  time : Int
  udp : Nat → UdpAttempt
  /-- The address `new RtpInstance` would like to return. -/
  newRtp : Nat
  answer : WriteAnswer
  /-- What stands behind the received bytes in the input buffer. -/
  stale : Nat → UInt8

/-- The members of `RtspConnection` but for the input buffer. `m_session_` is the
name of a registered session, or `none` while nothing has been stored in it. -/
structure RtspConnection where
  request : Request
  sockFd : Nat
  peerIp : Octets
  sessionId : UInt32
  rtpInstances : TrackId → Option Nat := fun _ => none
  rtcpInstances : TrackId → Option RtcpInstance := fun _ => none
  session : Option Octets := none
  outputBuffer : Octets := []

/-- What a handler leaves behind. -/
structure Handled where
  ok : Bool
  media : Media
  conn : RtspConnection
  effects : List Effect

namespace RtspConnection

/-- The text `snprintf` leaves in `m_buffer_`, up to `strlen`. -/
def format (text : Octets) : Octets := cstr (text.take 2047)

/-- `SendMessage`: the message goes through the output buffer, which is emptied
whatever `Write` has taken. -/
def sendMessage (c : RtspConnection) (message : Octets) (answer : WriteAnswer) :
    Bool × RtspConnection × List Effect :=
  (answer.isSome, { c with outputBuffer := [] },
    [.reply c.sockFd (c.outputBuffer ++ message) answer])

/-- A handler that only sends a message. -/
def respond (w : World) (m : Media) (c : RtspConnection) (text : Octets) : Handled :=
  let (ok, c, effects) := c.sendMessage (format text) w.answer
  ⟨ok, m, c, effects⟩

/-- `%d` of an unsigned 32-bit number. -/
def signed (n : UInt32) : Int := if n.toNat < 2 ^ 31 then n.toNat else (n.toNat : Int) - 2 ^ 32

/-! ## The texts of the replies -/

def optionText (c : RtspConnection) : Octets :=
  ascii "RTSP/1.0 200 OK\r\nCSeq: " ++ dec c.request.cseq.toNat ++
    ascii "\r\nPublic: OPTIONS, DESCRIBE, SETUP, TEARDOWN, PLAY\r\n\r\n"

def describeText (c : RtspConnection) (sdp : Octets) : Octets :=
  ascii "RTSP/1.0 200 OK\r\nCSeq: " ++ dec c.request.cseq.toNat ++
    ascii "\r\nContent-Length: " ++ dec (UInt32.ofNat sdp.length).toNat ++
    ascii "\r\nContent-Type: application/sdp\r\n\r\n" ++ cstr sdp

def setupMulticastText (c : RtspConnection) (destAddr localIp : Octets) (port : UInt16) : Octets :=
  ascii "RTP/1.0 200 OK\r\nCSeq: " ++ intDec (signed c.request.cseq) ++
    ascii "\r\nTransport: RTP/AVP;multicast\r\ndestination=" ++ cstr destAddr ++
    ascii ";source=" ++ cstr localIp ++ ascii ";port:" ++ dec port.toNat ++ ascii "-" ++
    dec (port.toNat + 1) ++ ascii ";ttl=255\r\nSession: " ++ hex 8 c.sessionId.toNat ++
    ascii "\r\n\r\n"

/-- `%hhu` of `m_rtp_channel_ + 1` wraps. -/
def setupTcpText (c : RtspConnection) : Octets :=
  ascii "RTSP/1.0 200 OK\r\nCSeq: " ++ intDec (signed c.request.cseq) ++
    ascii "\r\nTransport: RTP/AVP/TCP;unicast;interleaved=" ++ dec c.request.rtpChannel.toNat ++
    ascii "-" ++ dec (c.request.rtpChannel + 1).toNat ++ ascii "\r\nSession: " ++
    hex 8 c.sessionId.toNat ++ ascii "\r\n\r\n"

def setupUdpText (c : RtspConnection) (rtpPort rtcpPort : UInt16) : Octets :=
  ascii "RTSP/1.0 200 OK\r\nCSeq: " ++ dec c.request.cseq.toNat ++
    ascii "\r\nTransport: RTP/AVP;unicast;client_port=" ++ dec c.request.peerRtpPort.toNat ++
    ascii "-" ++ dec c.request.peerRtcpPort.toNat ++ ascii ";server_port=" ++ dec rtpPort.toNat ++
    ascii "-" ++ dec rtcpPort.toNat ++ ascii "\r\nSession: " ++ hex 8 c.sessionId.toNat ++
    ascii "\r\n\r\n"

def playText (c : RtspConnection) : Octets :=
  ascii "RTSP/1.0 200 OK\r\nCSeq: " ++ intDec (signed c.request.cseq) ++
    ascii "\r\nRange: npt=0.000-\r\nSession: " ++ hex 8 c.sessionId.toNat ++
    ascii "; timeout=60\r\n\r\n"

/-- The reply to TEARDOWN and to PAUSE. -/
def plainText (c : RtspConnection) : Octets :=
  ascii "RTSP/1.0 200 OK\r\nCSeq: " ++ intDec (signed c.request.cseq) ++ ascii "\r\n\r\n"

/-! ## The handlers -/

def handleCmdOption (w : World) (m : Media) (c : RtspConnection) : Handled :=
  respond w m c c.optionText

def handleCmdDescribe (w : World) (m : Media) (c : RtspConnection) : Except Fault Handled :=
  match m.sessions.lookup c.request.suffix with
  | none => .ok ⟨false, m, c, []⟩
  | some session =>
    let c := { c with session := some c.request.suffix }
    match session.generateSdpDescription m.rtpInstances w.localIp w.time with
    | .error e => .error e
    | .ok (sdp, session) =>
      .ok (respond w (m.setSession c.request.suffix session) c (c.describeText sdp))

/-- The loop of `CreateRtpRtcpOverUdp`, `left` of whose ten rounds remain: the
two sockets and their ports. `uint16_t` arithmetic. -/
def openUdpPair (udp : Nat → UdpAttempt) :
    Nat → Nat → Option (Nat × UInt16 × Nat × UInt16) × List Effect
  | 0, _ => (none, [])
  | left + 1, i =>
    match (udp i).rtpSockfd with
    | none => (none, [])
    | some rtp =>
      match (udp i).rtcpSockfd with
      | none => (none, [.opened rtp, .closed rtp])
      | some rtcp =>
        let drawn := UInt16.ofNat ((udp i).rand % 0xfffe)
        let port := if drawn < 10000 then drawn + 10000 else drawn
        if (udp i).rtpBound && (udp i).rtcpBound then
          (some (rtp, port + 1, rtcp, port + 2), [.opened rtp, .opened rtcp])
        else
          let (pair, effects) := openUdpPair udp left (i + 1)
          (pair, .opened rtp :: .opened rtcp :: .closed rtp :: .closed rtcp :: effects)

def setRtpInstance (c : RtspConnection) (track : TrackId) (rtp : Nat) : RtspConnection :=
  { c with rtpInstances := Function.update c.rtpInstances track (some rtp) }

def setRtcpInstance (c : RtspConnection) (track : TrackId) (rtcp : Option RtcpInstance) :
    RtspConnection :=
  { c with rtcpInstances := Function.update c.rtcpInstances track rtcp }

/-- The branch of `HandleCmdSetup` for interleaved transport. -/
def setupOverTcp (w : World) (m : Media) (c : RtspConnection) (name : Octets)
    (session : MediaSession) (track : TrackId) : Handled :=
  let instance_ := { RtpInstance.createNewOverTcp c.sockFd c.request.rtpChannel with
    sessionId := c.sessionId.toUInt16 }
  let (rtp, m) := m.newRtpInstance w.newRtp instance_
  let c := c.setRtpInstance track rtp
  respond w (m.setSession name (session.addRtpInstance track rtp)) c c.setupTcpText

/-- The branch of `HandleCmdSetup` for UDP, with `CreateRtpRtcpOverUdp`. -/
def setupOverUdp (w : World) (m : Media) (c : RtspConnection) (name : Octets)
    (session : MediaSession) (track : TrackId) : Handled :=
  match openUdpPair w.udp 10 0 with
  | (none, effects) => ⟨false, m, c, effects⟩
  | (some (rtpSockfd, rtpPort, rtcpSockfd, rtcpPort), effects) =>
    let instance_ := { RtpInstance.createNewOverUdp rtpSockfd rtpPort c.peerIp
      c.request.peerRtpPort with sessionId := c.sessionId.toUInt16 }
    let rtcp : RtcpInstance :=
      { localSockfd := rtcpSockfd, localPort := rtcpPort, destIp := c.peerIp
        destPort := c.request.peerRtcpPort, sessionId := c.sessionId.toUInt16 }
    let (rtp, m) := m.newRtpInstance w.newRtp instance_
    let c := (c.setRtpInstance track rtp).setRtcpInstance track (some rtcp)
    let r := respond w (m.setSession name (session.addRtpInstance track rtp)) c
      (c.setupUdpText instance_.getLocalPort rtcp.localPort)
    { r with effects := effects ++ r.effects }

/-- `sscanf(m_suffix_.c_str(), "%[^/]/", session_name)` into 100 bytes. -/
def sessionNameOf (suffix : Octets) : Except Fault (Option Octets) :=
  match sscanf [.until_ 47 100, .char 47] suffix with
  | none => .error .bufferOverflow
  | some [.text name] => .ok (some name)
  | some _ => .ok none

/-- `HandleCmdSetup`. The session of the URL gets the instance; whether it is
multicast is asked of `m_session_`. -/
def handleCmdSetup (w : World) (m : Media) (c : RtspConnection) : Except Fault Handled :=
  match sessionNameOf c.request.suffix with
  | .error e => .error e
  | .ok none => .ok ⟨false, m, c, []⟩
  | .ok (some name) =>
    match m.sessions.lookup name with
    | none => .ok ⟨false, m, c, []⟩
    | some session =>
      match c.request.trackId with
      | none => .error .outOfBounds
      | some track =>
        if (c.rtpInstances track).isSome ∨ (c.rtcpInstances track).isSome then .ok ⟨false, m, c, []⟩
        else
          match c.session with
          | none => .error .uninitialised
          | some described =>
            match m.sessions.lookup described with
            | none => .error .dangling
            | some describedSession =>
              if describedSession.isStartMulticast then
                match session.getMulticastDestRtpPort m.rtpInstances track with
                | .error e => .error e
                | .ok port =>
                  .ok (respond w m c (c.setupMulticastText session.getMulticastDestAddr w.localIp port))
              else if c.request.isRtpOverTcp then .ok (setupOverTcp w m c name session track)
              else .ok (setupOverUdp w m c name session track)

/-- `SetAlive(true)` on the instances of one track. -/
def setTrackAlive (m : Media) (c : RtspConnection) (track : TrackId) :
    Except Fault (Media × RtspConnection) :=
  let c := c.setRtcpInstance track
    ((c.rtcpInstances track).map fun rtcp => { rtcp with isAlive := true })
  match c.rtpInstances track with
  | none => .ok (m, c)
  | some rtp =>
    match m.modifyRtpInstance rtp fun i => { i with isAlive := true } with
    | .error e => .error e
    | .ok m => .ok (m, c)

def handleCmdPlay (w : World) (m : Media) (c : RtspConnection) : Except Fault Handled :=
  let r := respond w m c c.playText
  if r.ok then
    match setTrackAlive r.media r.conn 0 with
    | .error e => .error e
    | .ok (m, c) =>
      match setTrackAlive m c 1 with
      | .error e => .error e
      | .ok (m, c) => .ok { r with media := m, conn := c }
  else .ok r

def handleCmdTeardown (w : World) (m : Media) (c : RtspConnection) : Handled :=
  respond w m c c.plainText

def handleCmdGetParamter (_ : World) (m : Media) (c : RtspConnection) : Handled :=
  ⟨true, m, c, []⟩

def handleCmdPause (w : World) (m : Media) (c : RtspConnection) : Handled :=
  respond w m c c.plainText

/-- The `switch` of `HandleReadBytes`. -/
def handleCmd (w : World) (m : Media) (c : RtspConnection) : Except Fault Handled :=
  match c.request.method with
  | .options => .ok (handleCmdOption w m c)
  | .describe => handleCmdDescribe w m c
  | .setup => handleCmdSetup w m c
  | .play => handleCmdPlay w m c
  | .teardown => .ok (handleCmdTeardown w m c)
  | .getParameter => .ok (handleCmdGetParamter w m c)
  | .pause => .ok (handleCmdPause w m c)
  | .rtcp | .none_ => .ok ⟨false, m, c, []⟩

end RtspConnection

/-- A connection with `m_input_buffer_`: the bytes received and not yet consumed. -/
structure Connection where
  rtsp : RtspConnection
  inputBuffer : Octets := []

/-- What `HandleReadBytes` leaves behind; `ok` says that it did not end in
`HandleDisconnection`. -/
structure ReadResult where
  ok : Bool
  media : Media
  conn : Connection
  effects : List Effect

namespace Connection

/-- `HandleRtpOverTcp`. The length is taken from bytes 2 and 3, received or not; that they
lie in the allocation is the matter of `Server.stepInside`. -/
def handleRtpOverTcp (w : World) (buffer : Octets) : Octets :=
  let byte := fun i => buffer.getD i (w.stale (i - buffer.length))
  let size := (byte 2).toNat * 256 + (byte 3).toNat
  if buffer.length < size + 4 then buffer else buffer.drop (size + 4)

def handleReadBytes (w : World) (m : Media) (c : Connection) : Except Fault ReadResult :=
  if c.rtsp.request.isRtpOverTcp ∧ c.inputBuffer.head? = some 36 then
    .ok ⟨true, m, { c with inputBuffer := handleRtpOverTcp w c.inputBuffer }, []⟩
  else
    match c.rtsp.request.parseRequest c.inputBuffer with
    | .error e => .error e
    | .ok (false, request, buffer) =>
      .ok ⟨false, m, ⟨{ c.rtsp with request := request }, buffer⟩,
        [.disconnected c.rtsp.sockFd]⟩
    | .ok (true, request, buffer) =>
      match RtspConnection.handleCmd w m { c.rtsp with request := request } with
      | .error e => .error e
      | .ok r =>
        .ok ⟨r.ok, r.media, ⟨r.conn, buffer⟩,
          .dispatched c.rtsp.sockFd request :: (r.effects ++
            [if r.ok then .accepted c.rtsp.sockFd request else .disconnected c.rtsp.sockFd])⟩

/-- `HandleRead` when `Read` has returned a positive number. -/
def handleRead (w : World) (m : Media) (c : Connection) (bytes : Octets) :
    Except Fault ReadResult :=
  handleReadBytes w m { c with inputBuffer := c.inputBuffer ++ bytes }

end Connection
end MyRtspServer.Net
