import MyRtspServer.Net.Clients
import MyRtspServer.Net.Replies
import MyRtspServer.Net.TakenRequest

/-!
# The transport of a SETUP

The Transport header of a request asks for interleaved TCP, for UDP to two ports,
or for multicast. `ParseTransport` looks for the protocol anywhere in the header
block and leaves what it reads in members that live as long as the connection; the
TCP flag is never taken back. So a SETUP gets what an earlier one has asked for,
unless its own header writes all that the answer is made of.
-/
namespace MyRtspServer.Net

open Library Library.Octets Library.Lines Library.Scan Library.Transition

inductive Transport where
  | interleaved (channel : Nat)
  | clientPorts (rtp rtcp : Nat)
  | multicast
  deriving DecidableEq, Repr

/-! ## What the request asks for -/

/-- The value of the Transport header of a request, from the text behind its request
line: other requests may follow behind the empty line. -/
def transportHeader (text : Octets) : Option Octets :=
  (((linesOf text).takeWhile fun l => decide (l ≠ [])).find? fun l =>
    (ascii "Transport:").isPrefixOf l).map fun l => l.drop 10

/-- The two numbers of a parameter of the header. -/
def transportParameter (name value : Octets) : Option (Nat × Nat) :=
  match splitFirst name value with
  | none => none
  | some (_, rest) =>
    match sscanf [.unsigned 64, .char 45, .unsigned 64] (rest.drop name.length) with
    | some [.number a, .number b] => some (a, b)
    | _ => none

def transportOfHeader (value : Octets) : Option Transport :=
  if contains (ascii "RTP/AVP/TCP") value then
    (transportParameter (ascii "interleaved=") value).map fun p => .interleaved p.1
  else if contains (ascii "RTP/AVP") value then
    if contains (ascii "unicast") value then
      (transportParameter (ascii "client_port=") value).map fun p => .clientPorts p.1 p.2
    else if contains (ascii "multicast") value then some .multicast
    else none
  else none

/-- The text behind the request line in the input buffer. -/
def textBehindLine (buffer : Octets) : Octets :=
  match splitFirst kCrlf buffer with
  | none => []
  | some (_, rest) => rest.drop 2

/-- The transport that the first request in the buffer asks for. -/
def askedTransport (buffer : Octets) : Option Transport :=
  (transportHeader (textBehindLine buffer)).bind transportOfHeader

/-! ## What stands in the header block -/

/-- The numbers behind the next semicolon and the equals sign that follows. -/
def numbersBehind (bits : Nat) (transport : Octets) : Option (Nat × Nat) :=
  match sscanf (transportFormat bits) (cstr transport) with
  | some [.number a, .number b] => some (a, b)
  | _ => none

/-- The first protocol name in a text and the numbers behind it. -/
def firstTransport (text : Octets) : Option Transport :=
  match splitFirst (ascii "RTP/AVP/TCP") text with
  | some (_, transport) => (numbersBehind 8 transport).map fun p => .interleaved p.1
  | none =>
    match splitFirst (ascii "RTP/AVP") text with
    | none => none
    | some (_, transport) =>
      if contains (ascii "unicast") transport then
        (numbersBehind 16 transport).map fun p => .clientPorts p.1 p.2
      else if contains (ascii "multicast") transport then some .multicast
      else none

/-- What ends with the last line end in the buffer. -/
def blockBehindLine (buffer : Octets) : Octets :=
  match splitLast kCrlf (textBehindLine buffer) with
  | none => []
  | some (block, _) => block

/-- The first protocol name that has arrived belongs to the Transport header of the
first request, and the numbers behind it are the ones that the header carries. -/
def AskedFirst (buffer : Octets) (transport : Transport) : Prop :=
  askedTransport buffer = some transport ∧ firstTransport (blockBehindLine buffer) = some transport

/-! ## What the request gets -/

/-- The transport of a track after SETUP; a multicast session serves the tracks that
have no instance of their own. -/
def usedTransport (m : Media) (c : RtspConnection) (track : TrackId) : Option Transport :=
  match c.rtpInstances track with
  | none => some .multicast
  | some rtp =>
    match m.rtpInstances.lookup rtp with
    | none => none
    | some i =>
      match i.transport, c.rtcpInstances track with
      | .overTcp channel, _ => some (.interleaved channel.toNat)
      | .overUdp _ _ rtpPort, some rtcp => some (.clientPorts rtpPort.toNat rtcp.destPort.toNat)
      | .overUdp _ _ _, none => none

section UsedTransport

variable {m : Media} {c : RtspConnection} {track : TrackId} {rtp : Nat} {i : RtpInstance}

theorem usedTransport_free (hslot : c.rtpInstances track = none) :
    usedTransport m c track = some .multicast := by
  rw [usedTransport, hslot]

theorem usedTransport_overTcp {channel : UInt16} (hslot : c.rtpInstances track = some rtp)
    (hi : m.rtpInstances.lookup rtp = some i) (htcp : i.transport = .overTcp channel) :
    usedTransport m c track = some (.interleaved channel.toNat) := by
  rw [usedTransport, hslot]
  dsimp only
  rw [hi]
  dsimp only
  rw [htcp]

theorem usedTransport_overUdp {localPort destPort : UInt16} {destIp : Octets} (rtcp : RtcpInstance)
    (hslot : c.rtpInstances track = some rtp) (hi : m.rtpInstances.lookup rtp = some i)
    (hudp : i.transport = .overUdp localPort destIp destPort)
    (hrtcp : c.rtcpInstances track = some rtcp) :
    usedTransport m c track = some (.clientPorts destPort.toNat rtcp.destPort.toNat) := by
  rw [usedTransport, hslot]
  dsimp only
  rw [hi]
  dsimp only
  rw [hudp, hrtcp]

end UsedTransport

/-- How a reply announces the transport. -/
def Transport.announcement : Transport → Octets
  | .interleaved channel =>
    ascii "\r\nTransport: RTP/AVP/TCP;unicast;interleaved=" ++ dec channel ++ ascii "-"
  | .clientPorts rtp rtcp =>
    ascii "\r\nTransport: RTP/AVP;unicast;client_port=" ++ dec rtp ++ ascii "-" ++ dec rtcp ++
      ascii ";"
  | .multicast => ascii "\r\nTransport: RTP/AVP;multicast\r\n"

/-- The track uses the transport, and the reply announces it. -/
structure Grants (c : RtspConnection) (r : Handled) (track : TrackId) (transport : Transport) :
    Prop where
  used : usedTransport r.media r.conn track = some transport
  announced : ∃ message answer, Effect.reply c.sockFd message answer ∈ r.effects ∧
    transport.announcement <:+: message

/-- The unicast transport that the members of the connection stand for. -/
def Request.memberTransport (r : Request) : Transport :=
  if r.isRtpOverTcp then .interleaved r.rtpChannel.toNat
  else .clientPorts r.peerRtpPort.toNat r.peerRtcpPort.toNat

namespace RtspConnection

/-- What SETUP grants. -/
def grantedTransport (m : Media) (c : RtspConnection) : Transport :=
  if describedMulticast m c then .multicast else c.request.memberTransport

/-- What stands early enough in a text is in the message. -/
theorem infix_format {text front middle : Octets} (htext : front ++ middle <+: text)
    (hlen : front.length + middle.length ≤ 2047) (hfront : 0 ∉ front) (hmiddle : 0 ∉ middle) :
    middle <:+: format text := by
  have hstart : front ++ middle <+: format text := by
    refine prefix_format htext (by rwa [List.length_append]) ?_
    exact fun h => (List.mem_append.mp h).elim hfront hmiddle
  exact (List.suffix_append front middle).isInfix.trans hstart.isInfix

/-- A status line and a number are short and have no zero. -/
theorem replyStart (start : Octets) {number : Octets} (hstart : start.length ≤ 100 ∧ 0 ∉ start)
    (hnumber : Printed 200 number) : (start ++ number).length ≤ 300 ∧ 0 ∉ start ++ number := by
  refine ⟨?_, fun h => (List.mem_append.mp h).elim hstart.2 (hnumber.not_mem (by decide))⟩
  have hlength := hnumber.1
  rw [List.length_append]
  omega

section Announcements

variable (c : RtspConnection)

theorem announced_multicast (destAddr localIp : Octets) (port : UInt16) :
    Transport.multicast.announcement <:+: format (c.setupMulticastText destAddr localIp port) := by
  have hsplit : ascii "\r\nTransport: RTP/AVP;multicast\r\ndestination=" =
      Transport.multicast.announcement ++ ascii "destination=" := by decide
  have hmiddle : Transport.multicast.announcement.length ≤ 100 := by decide
  obtain ⟨hlength, hzero⟩ := replyStart (ascii "RTP/1.0 200 OK\r\nCSeq: ") (by decide)
    (printed_signed c.request.cseq)
  refine infix_format ?_ (by omega) hzero (by decide)
  rw [setupMulticastText, hsplit]
  simp only [List.append_assoc, List.prefix_append_right_inj, List.prefix_append]

theorem announced_interleaved :
    (Transport.interleaved c.request.rtpChannel.toNat).announcement <:+: format c.setupTcpText := by
  have hparts : (ascii "\r\nTransport: RTP/AVP/TCP;unicast;interleaved=").length ≤ 100 ∧
      0 ∉ ascii "\r\nTransport: RTP/AVP/TCP;unicast;interleaved=" ∧ (ascii "-").length ≤ 1 ∧
      0 ∉ ascii "-" := by decide
  have hchannel := printed_u8 c.request.rtpChannel
  obtain ⟨hlength, hzero⟩ := replyStart (ascii "RTSP/1.0 200 OK\r\nCSeq: ") (by decide)
    (printed_signed c.request.cseq)
  refine infix_format ?_ ?_ hzero ?_
  · rw [setupTcpText, Transport.announcement]
    simp only [List.append_assoc, List.prefix_append_right_inj, List.prefix_append]
  · have hdigits := hchannel.1
    simp only [Transport.announcement, List.length_append] at hlength ⊢
    omega
  · simp only [Transport.announcement, List.mem_append, not_or]
    exact ⟨⟨hparts.2.1, hchannel.not_mem (by decide)⟩, hparts.2.2.2⟩

theorem announced_clientPorts (rtpPort rtcpPort : UInt16) :
    (Transport.clientPorts c.request.peerRtpPort.toNat c.request.peerRtcpPort.toNat).announcement <:+:
      format (c.setupUdpText rtpPort rtcpPort) := by
  have hsplit : ascii ";server_port=" = ascii ";" ++ ascii "server_port=" := by decide
  have hparts : (ascii "\r\nTransport: RTP/AVP;unicast;client_port=").length ≤ 100 ∧
      0 ∉ ascii "\r\nTransport: RTP/AVP;unicast;client_port=" ∧ (ascii "-").length ≤ 1 ∧
      0 ∉ ascii "-" ∧ (ascii ";").length ≤ 1 ∧ 0 ∉ ascii ";" := by decide
  have hrtp := printed_u16 c.request.peerRtpPort
  have hrtcp := printed_u16 c.request.peerRtcpPort
  obtain ⟨hlength, hzero⟩ := replyStart (ascii "RTSP/1.0 200 OK\r\nCSeq: ") (by decide)
    (printed_unsigned c.request.cseq)
  refine infix_format ?_ ?_ hzero ?_
  · rw [setupUdpText, hsplit, Transport.announcement]
    simp only [List.append_assoc, List.prefix_append_right_inj, List.prefix_append]
  · have hdigits := hrtp.1
    have hdigits' := hrtcp.1
    simp only [Transport.announcement, List.length_append] at hlength ⊢
    omega
  · simp only [Transport.announcement, List.mem_append, not_or]
    exact ⟨⟨⟨⟨hparts.2.1, hrtp.not_mem (by decide)⟩, hparts.2.2.2.1⟩, hrtcp.not_mem (by decide)⟩,
      hparts.2.2.2.2.2⟩

end Announcements

theorem describedMulticast_found {m : Media} {c : RtspConnection} {name : Octets}
    {session : MediaSession} {track : TrackId} {described : Octets} {describedSession : MediaSession}
    (h : SetupFound m c name session track described describedSession) :
    describedMulticast m c = describedSession.isStartMulticast := by
  rw [describedMulticast, h.remembered]
  simp only [h.described]

/-- A reply that is sent announces what its text says. -/
theorem respond_announces {w : World} {m : Media} {c c' : RtspConnection} {text : Octets}
    {transport : Transport} (hfd : c'.sockFd = c.sockFd)
    (h : transport.announcement <:+: format text) :
    ∃ message answer, Effect.reply c.sockFd message answer ∈ (respond w m c' text).effects ∧
      transport.announcement <:+: message :=
  ⟨c'.outputBuffer ++ format text, w.answer, hfd ▸ List.mem_singleton_self _,
    h.trans (List.suffix_append _ _).isInfix⟩

/-- **What an accepted SETUP grants** is made of the session described last and of
the members about the transport. -/
theorem handleCmdSetup_grants {w : World} {m : Media} {c : RtspConnection} {r : Handled}
    (h : handleCmdSetup w m c = .ok r) (hok : r.ok = true) :
    ∃ track, c.request.trackId = some track ∧ Grants c r track (grantedTransport m c) := by
  cases handleCmdSetup_answer h with
  | refused => cases hok
  | multicast name session track described describedSession port found group dest =>
    refine ⟨track, found.asked, ?_⟩
    rw [grantedTransport, describedMulticast_found found, if_pos group]
    exact ⟨usedTransport_free found.rtpFree, respond_announces rfl (announced_multicast c _ _ _)⟩
  | overTcp name session track described describedSession found unicast tcp =>
    refine ⟨track, found.asked, ?_⟩
    rw [grantedTransport, describedMulticast_found found, if_neg (by rw [unicast]; decide),
      Request.memberTransport, if_pos tcp]
    refine ⟨?_, respond_announces rfl (announced_interleaved _)⟩
    rw [← UInt8.toNat_toUInt16]
    exact usedTransport_overTcp (Function.update_self ..) (AList.lookup_insert _) rfl
  | overUdp name session track described describedSession found unicast udp =>
    refine ⟨track, found.asked, ?_⟩
    rw [grantedTransport, describedMulticast_found found, if_neg (by rw [unicast]; decide),
      Request.memberTransport, if_neg (by rw [udp]; decide)]
    unfold setupOverUdp at hok ⊢
    split at hok
    · cases hok
    · rename_i rtpSockfd rtpPort rtcpSockfd rtcpPort effects hpair
      let rtcp : RtcpInstance :=
        { localSockfd := rtcpSockfd, localPort := rtcpPort, destIp := c.peerIp
          destPort := c.request.peerRtcpPort, sessionId := c.sessionId.toUInt16 }
      exact ⟨usedTransport_overUdp rtcp (Function.update_self ..) (AList.lookup_insert _) rfl
        (Function.update_self ..), _, _, List.mem_append_right _ (List.mem_singleton_self _),
        (announced_clientPorts c _ _).trans (List.suffix_append _ _).isInfix⟩

end RtspConnection

/-! ## What the members keep -/

namespace Request

/-- The unicast transport that is left in the members once the text is read. -/
def carried (r : Request) : Transport → Transport
  | .interleaved channel => .interleaved channel
  | .clientPorts rtp rtcp =>
    if r.isRtpOverTcp then .interleaved r.rtpChannel.toNat else .clientPorts rtp rtcp
  | .multicast => r.memberTransport

theorem TransportTaken.carried {r r' : Request} {block : Octets} (h : TransportTaken r block r') :
    ∃ transport, firstTransport block = some transport ∧
      r'.memberTransport = r.carried transport := by
  cases h with
  | interleaved before transport a b found scanned =>
    have ha := (sscanf_transport_lt scanned).1
    refine ⟨.interleaved a, ?_, ?_⟩
    · rw [firstTransport, found]
      simp only [numbersBehind, scanned, Option.map_some]
    · rw [memberTransport, if_pos rfl, Request.carried]
      exact congrArg _ (UInt8.toNat_ofNat_of_lt' ha)
  | unicast before transport a b udp found unicast scanned =>
    obtain ⟨ha, hb⟩ := sscanf_transport_lt scanned
    refine ⟨.clientPorts a b, ?_, ?_⟩
    · rw [firstTransport, udp]
      dsimp only
      rw [found]
      simp only [numbersBehind, unicast, scanned, Option.map_some, if_true]
    · rw [memberTransport, Request.carried]
      dsimp only
      rw [UInt16.toNat_ofNat_of_lt' ha, UInt16.toNat_ofNat_of_lt' hb]
  | multicast before transport udp found no multicast =>
    refine ⟨.multicast, ?_, rfl⟩
    rw [firstTransport, udp]
    dsimp only
    rw [found]
    simp only [no, multicast, Bool.false_eq_true, if_false, if_true]

/-- The members fit what is asked for: the session described last is multicast just
when multicast is asked for, and no earlier request has left the TCP flag behind when
UDP is. -/
structure FitsTransport (m : Media) (c : RtspConnection) (transport : Transport) : Prop where
  multicast : describedMulticast m c = true ↔ transport = .multicast
  udp : ∀ rtp rtcp, transport = .clientPorts rtp rtcp → c.request.isRtpOverTcp = false

theorem memberTransport_unicast (r : Request) : r.memberTransport ≠ .multicast := by
  unfold memberTransport
  split
  · exact Transport.noConfusion
  · exact Transport.noConfusion

theorem carried_fits {m : Media} {c : RtspConnection} {transport : Transport} :
    (if describedMulticast m c then .multicast
      else c.request.carried transport) = transport ↔ FitsTransport m c transport := by
  cases hgroup : describedMulticast m c with
  | true =>
    rw [if_pos rfl]
    constructor
    · rintro rfl
      exact ⟨⟨fun _ => rfl, fun _ => hgroup⟩, fun _ _ h => by cases h⟩
    · exact fun h => (h.multicast.mp hgroup).symm
  | false =>
    rw [if_neg Bool.false_ne_true]
    constructor
    · intro h
      refine ⟨⟨fun htrue => ?_, fun heq => ?_⟩, fun rtp rtcp heq => ?_⟩
      · rw [hgroup] at htrue
        cases htrue
      · rw [heq] at h
        exact absurd h (memberTransport_unicast _)
      · rw [heq, carried] at h
        split at h
        · cases h
        · exact Bool.eq_false_of_not_eq_true ‹_›
    · intro h
      cases transport with
      | interleaved channel => rfl
      | clientPorts rtp rtcp =>
        rw [carried, h.udp rtp rtcp rfl, if_neg Bool.false_ne_true]
      | multicast =>
        have htrue := h.multicast.mpr rfl
        rw [hgroup] at htrue
        cases htrue

end Request

/-! ## One SETUP that is read -/

namespace Connection

variable {w : World} {m : Media} {c : Connection} {bytes : Octets} {request : Request}

/-- What the members stand for when SETUP is handled. -/
theorem nextRequest_transport (h : c.nextRequest bytes = some request)
    (hsetup : request.method = .setup) :
    ∃ transport, firstTransport (blockBehindLine (c.inputBuffer ++ bytes)) = some transport ∧
      request.memberTransport = c.rtsp.request.carried transport := by
  obtain ⟨line, block, first, htaken⟩ := nextRequest_taken h
  obtain ⟨rest, hline, last, hblock⟩ := htaken.ended
  obtain ⟨method, url, suffix, rfl⟩ := Request.parseRequest1_taken htaken.parsed
  have hmethod := (Request.parseRequest2_line htaken.accepted).1
  obtain ⟨cseq, r', track, htransport, -, rfl⟩ :=
    Request.parseRequest2_setup (hmethod.symm.trans hsetup) htaken.accepted
  obtain ⟨transport, hfirst, hcarried⟩ := htransport.carried
  have htext : blockBehindLine (c.inputBuffer ++ bytes) = block := by
    rw [blockBehindLine, textBehindLine, hline]
    dsimp only
    rw [hblock]
  refine ⟨transport, htext ▸ hfirst, hcarried.trans ?_⟩
  cases transport <;> rfl

/-- An accepted SETUP is what its own Transport header asks for. -/
def Honours (w : World) (m : Media) (c : Connection) (bytes : Octets) : Prop :=
  ∀ request r, c.nextRequest bytes = some request → request.method = .setup →
    RtspConnection.handleCmd w m { c.rtsp with request := request } = .ok r → r.ok = true →
      ∃ track transport, request.trackId = some track ∧
        askedTransport (c.inputBuffer ++ bytes) = some transport ∧ Grants c.rtsp r track transport

/-- What an accepted SETUP asks for stands first in what has arrived. -/
def SaysFirst (w : World) (m : Media) (c : Connection) (bytes : Octets) : Prop :=
  ∀ request r, c.nextRequest bytes = some request → request.method = .setup →
    RtspConnection.handleCmd w m { c.rtsp with request := request } = .ok r → r.ok = true →
      ∃ transport, AskedFirst (c.inputBuffer ++ bytes) transport

/-- It does, and the members of the connection fit it. -/
def Fits (w : World) (m : Media) (c : Connection) (bytes : Octets) : Prop :=
  ∀ request r, c.nextRequest bytes = some request → request.method = .setup →
    RtspConnection.handleCmd w m { c.rtsp with request := request } = .ok r → r.ok = true →
      ∃ transport, AskedFirst (c.inputBuffer ++ bytes) transport ∧
        Request.FitsTransport m c.rtsp transport

theorem handleCmd_grants {r : Handled} (h : c.nextRequest bytes = some request)
    (hsetup : request.method = .setup)
    (hhandled : RtspConnection.handleCmd w m { c.rtsp with request := request } = .ok r)
    (hok : r.ok = true) :
    ∃ track transport, request.trackId = some track ∧
      firstTransport (blockBehindLine (c.inputBuffer ++ bytes)) = some transport ∧
      Grants c.rtsp r track (if describedMulticast m c.rtsp then .multicast
        else c.rtsp.request.carried transport) := by
  obtain ⟨transport, hfirst, hcarried⟩ := nextRequest_transport h hsetup
  have hcmd : RtspConnection.handleCmd w m { c.rtsp with request := request } =
      RtspConnection.handleCmdSetup w m { c.rtsp with request := request } := by
    rw [RtspConnection.handleCmd, hsetup]
  rw [hcmd] at hhandled
  obtain ⟨track, htrack, hgrants⟩ := RtspConnection.handleCmdSetup_grants hhandled hok
  rw [RtspConnection.grantedTransport, hcarried] at hgrants
  exact ⟨track, transport, htrack, hfirst, hgrants.used, hgrants.announced⟩

theorem honours_of_fits (h : c.Fits w m bytes) : c.Honours w m bytes := by
  intro request r hnext hsetup hhandled hok
  obtain ⟨asked, hasked, hfits⟩ := h request r hnext hsetup hhandled hok
  obtain ⟨track, transport, htrack, hfirst, hgrants⟩ := handleCmd_grants hnext hsetup hhandled hok
  obtain rfl : asked = transport := Option.some.inj (hasked.2.symm.trans hfirst)
  rw [Request.carried_fits.mpr hfits] at hgrants
  exact ⟨track, asked, htrack, hasked.1, hgrants⟩

theorem fits_of_honours (hfirst : c.SaysFirst w m bytes) (h : c.Honours w m bytes) :
    c.Fits w m bytes := by
  intro request r hnext hsetup hhandled hok
  obtain ⟨asked, hasked⟩ := hfirst request r hnext hsetup hhandled hok
  obtain ⟨track, granted, htrack, hheader, hhonoured⟩ := h request r hnext hsetup hhandled hok
  obtain ⟨track', transport, htrack', htransport, hgrants⟩ :=
    handleCmd_grants hnext hsetup hhandled hok
  obtain rfl : track = track' := Option.some.inj (htrack.symm.trans htrack')
  obtain rfl : asked = transport := Option.some.inj (hasked.2.symm.trans htransport)
  obtain rfl : asked = granted := Option.some.inj (hasked.1.symm.trans hheader)
  refine ⟨asked, hasked, Request.carried_fits.mp (Option.some.inj ?_)⟩
  exact hgrants.used.symm.trans hhonoured.used

end Connection

/-! ## Every SETUP of a run -/

namespace Server

/-- A property of the connection and the bytes that are read, if any are. -/
def ReadMeets (P : World → Media → Connection → Octets → Prop) (s : Server) : ServerAct → Prop
  | .read sockfd bytes w =>
    ∀ conn, s.readable sockfd = some conn → bytes ≠ [] → P w s.media conn bytes
  | _ => True

theorem ReadMeets.imp {P Q R : World → Media → Connection → Octets → Prop} {s : Server}
    {act : ServerAct} (h : ∀ w m c bytes, P w m c bytes → Q w m c bytes → R w m c bytes)
    (hp : s.ReadMeets P act) (hq : s.ReadMeets Q act) : s.ReadMeets R act := by
  cases act with
  | read sockfd bytes w =>
    exact fun conn hconn hbytes => h w s.media conn bytes (hp conn hconn hbytes) (hq conn hconn hbytes)
  | _ => trivial

/-- **In every run, SETUPs that fit get the transport they ask for**; and those that
say it first get it only if they fit. -/
theorem setup_transport (acts : List ServerAct) :
    (Meets step (ReadMeets Connection.Fits) {} acts →
      Meets step (ReadMeets Connection.Honours) {} acts) ∧
    (Meets step (ReadMeets Connection.SaysFirst) {} acts →
      (Meets step (ReadMeets Connection.Honours) {} acts ↔
        Meets step (ReadMeets Connection.Fits) {} acts)) := by
  have hhonours : Meets step (ReadMeets Connection.Fits) {} acts →
      Meets step (ReadMeets Connection.Honours) {} acts :=
    meets_mono fun _ _ h => h.imp (fun _ _ _ _ hfits _ => Connection.honours_of_fits hfits) h
  refine ⟨hhonours, fun hfirst => ⟨fun h => ?_, hhonours⟩⟩
  exact meets_mono (fun _ _ hboth =>
    hboth.1.imp (fun _ _ _ _ => Connection.fits_of_honours) hboth.2) (meets_and hfirst h)

/-! ## Two clients -/

/-- What an accepted SETUP that is read asks for, and what its track uses then. -/
def setupTransports (s : Server) (sockfd : Nat) (bytes : Octets) (w : World) :
    Option (Option Transport × Option Transport) :=
  match s.readable sockfd with
  | none => none
  | some conn =>
    match conn.nextRequest bytes with
    | none => none
    | some request =>
      match RtspConnection.handleCmd w s.media { conn.rtsp with request := request },
          request.trackId with
      | .ok r, some track =>
        if bytes ≠ [] ∧ request.method = .setup ∧ r.ok = true then
          some (askedTransport (conn.inputBuffer ++ bytes), usedTransport r.media r.conn track)
        else none
      | _, _ => none

theorem setupTransports_honours {s : Server} {sockfd : Nat} {bytes : Octets} {w : World}
    {asked used : Option Transport} (h : s.ReadMeets Connection.Honours (.read sockfd bytes w))
    (hfound : s.setupTransports sockfd bytes w = some (asked, used)) : asked = used := by
  unfold setupTransports at hfound
  split at hfound
  · cases hfound
  rename_i conn hconn
  split at hfound
  · cases hfound
  rename_i request hrequest
  split at hfound
  · rename_i r track hhandled htrack
    split at hfound
    · rename_i hsetup
      cases hfound
      obtain ⟨track', transport, htrack', hasked, hgrants⟩ :=
        h conn hconn hsetup.1 request r hrequest hsetup.2.1 hhandled hsetup.2.2
      obtain rfl : track = track' := Option.some.inj (htrack.symm.trans htrack')
      exact hasked.trans hgrants.used.symm
    · cases hfound
  · cases hfound

/-- One session, described by a client. -/
def describedClient : List ServerAct :=
  sampleSession "a" ++
    [sampleConnect, sampleRequest "DESCRIBE rtsp://h/a" "Accept: application/sdp\r\n"]

def setupBytes (track transport : String) : Octets :=
  ascii "SETUP rtsp://h/a/" ++ ascii track ++ ascii " RTSP/1.0\r\nCSeq: 1\r\nTransport: " ++
    ascii transport ++ ascii "\r\n\r\n"

/-- A client that has set up its first track over TCP. -/
def tcpClient : List ServerAct :=
  describedClient ++
    [.read 7 (setupBytes "track0" "RTP/AVP/TCP;unicast;interleaved=0-1") sampleWorld]

/-- `Fits`, tested for every SETUP, accepted or not. -/
def fitsTest (s : Server) : ServerAct → Bool
  | .read sockfd bytes _ =>
    match s.readable sockfd with
    | none => true
    | some conn =>
      let asked := askedTransport (conn.inputBuffer ++ bytes)
      match conn.nextRequest bytes with
      | none => true
      | some request =>
        decide (request.method ≠ .setup) ||
          (asked.isSome && decide (firstTransport (blockBehindLine (conn.inputBuffer ++ bytes)) = asked) &&
            decide (describedMulticast s.media conn.rtsp = true ↔ asked = some .multicast) &&
            (!conn.rtsp.request.isRtpOverTcp || asked.any fun t => decide (t matches .interleaved _)))
  | _ => true

theorem fitsTest_fits (s : Server) (act : ServerAct) (h : s.fitsTest act = true) :
    s.ReadMeets Connection.Fits act := by
  cases act with
  | read sockfd bytes w =>
    intro conn hconn hbytes request r hnext hsetup hhandled hok
    simp only [fitsTest, hconn, hnext, hsetup, ne_eq, not_true_eq_false, decide_false,
      Bool.false_or, Bool.and_eq_true, decide_eq_true_eq] at h
    obtain ⟨⟨⟨hsome, hfirst⟩, hgroup⟩, hudp⟩ := h
    obtain ⟨transport, hasked⟩ := Option.isSome_iff_exists.mp hsome
    rw [hasked] at hfirst hgroup hudp
    refine ⟨transport, ⟨hasked, hfirst⟩, ⟨hgroup.trans Option.some_inj, ?_⟩⟩
    rintro rtp rtcp rfl
    simpa using hudp
  | _ => trivial

theorem setup_transport_sample : Meets step (ReadMeets Connection.Honours) {} tcpClient :=
  (setup_transport tcpClient).1 (meets_of_checkMeets fitsTest_fits (by decide +kernel))

theorem setupTransports_fail {acts : List ServerAct} {bytes : Octets} {w : World}
    (asked used : Option Transport) (hwrong : asked ≠ used)
    (hrun : checkRun step {} acts (fun s _ =>
      decide (s.setupTransports 7 bytes w = some (asked, used))) = true) :
    ¬ Meets step (ReadMeets Connection.Honours) {} (acts ++ [.read 7 bytes w]) := by
  intro hmeets
  obtain ⟨s, effects, hacts, hfound⟩ := checkRun_true hrun
  exact hwrong (setupTransports_honours (meets_append hmeets hacts).2.1 (of_decide_eq_true hfound))

/-- **Neither client gets what it asks for**: the one that has used TCP gets it again
where it asks for UDP, and the one that asks for multicast gets UDP to no port of its. -/
theorem setup_transport_fails :
    ¬ Meets step (ReadMeets Connection.Honours) {} (tcpClient ++
        [.read 7 (setupBytes "track1" "RTP/AVP;unicast;client_port=8000-8001") sampleWorld]) ∧
      ¬ Meets step (ReadMeets Connection.Honours) {} (describedClient ++
        [.read 7 (setupBytes "track0" "RTP/AVP;multicast") sampleWorld]) := by
  constructor
  · exact setupTransports_fail (some (.clientPorts 8000 8001)) (some (.interleaved 0)) (by decide)
      (by decide +kernel)
  · exact setupTransports_fail (some .multicast) (some (.clientPorts 0 0))
      (by decide) (by decide +kernel)

end Server

end MyRtspServer.Net
