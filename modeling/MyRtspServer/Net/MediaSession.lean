import MyRtspServer.Net.RtpInstance
import MyRtspServer.Net.SinkDescription

/-!
# `MediaSession`

A session has two tracks; a track is alive once it has a sink, and keeps the
addresses of the instances its packets go to. `Media` is what all connections
share: the registered sessions and the live instances.
-/
namespace MyRtspServer.Net

open Library Library.Octets

/-- `m_is_alive_` is set together with `m_rtp_sink_`. -/
structure Track where
  rtpSink : Option Sink := none
  rtpInstances : List Nat := []

def Track.isAlive (t : Track) : Bool := t.rtpSink.isSome

/-- What `StartMulticast` sets up, all at once. -/
structure MulticastGroup where
  addr : Octets
  rtpInstances : TrackId → Nat
  rtcpInstances : TrackId → RtcpInstance

structure MediaSession where
  sessionName : Octets
  sdp : Octets := []
  tracks : TrackId → Track := fun _ => {}
  multicast : Option MulticastGroup := none

/-- `m_media_sessions_`, and the `RtpInstance` objects by address. -/
structure Media where
  sessions : AList fun _ : Octets => MediaSession := ∅
  rtpInstances : AList fun _ : Nat => RtpInstance := ∅

namespace MediaSession

def isStartMulticast (s : MediaSession) : Bool := s.multicast.isSome

def getMulticastDestAddr (s : MediaSession) : Octets :=
  match s.multicast with
  | none => []
  | some group => group.addr

/-- The session with another list of instances on one track. -/
def setRtpInstances (s : MediaSession) (track : TrackId) (rtps : List Nat) : MediaSession :=
  let changed : Track := { s.tracks track with rtpInstances := rtps }
  { s with tracks := Function.update s.tracks track changed }

/-- `AddRtpInstance`: only a live track takes it. -/
def addRtpInstance (s : MediaSession) (track : TrackId) (rtp : Nat) : MediaSession :=
  if (s.tracks track).isAlive then
    s.setRtpInstances track ((s.tracks track).rtpInstances ++ [rtp])
  else s

/-- `RemoveRtpInstance`: from the first live track that has it. -/
def removeRtpInstance (s : MediaSession) (rtp : Nat) : MediaSession :=
  if (s.tracks 0).isAlive ∧ rtp ∈ (s.tracks 0).rtpInstances then
    s.setRtpInstances 0 ((s.tracks 0).rtpInstances.erase rtp)
  else if (s.tracks 1).isAlive ∧ rtp ∈ (s.tracks 1).rtpInstances then
    s.setRtpInstances 1 ((s.tracks 1).rtpInstances.erase rtp)
  else s

/-- `GetMulticastDestRtpPort`; -1 becomes 65535. -/
def getMulticastDestRtpPort (s : MediaSession) (instances : AList fun _ : Nat => RtpInstance)
    (track : TrackId) : Except Fault UInt16 :=
  match s.multicast with
  | none => .ok 65535
  | some group =>
    match instances.lookup (group.rtpInstances track) with
    | none => .error .dangling
    | some i => .ok i.getPeerPort

/-- The lines of one live track in the SDP. -/
def trackDescription (s : MediaSession) (instances : AList fun _ : Nat => RtpInstance)
    (track : TrackId) : Except Fault Octets :=
  match (s.tracks track).rtpSink with
  | none => .ok []
  | some sink =>
    match if s.isStartMulticast then s.getMulticastDestRtpPort instances track else .ok 0 with
    | .error e => .error e
    | .ok port =>
      .ok (cstr (sink.getMediaDescription port) ++ ascii "\r\n" ++
        (if s.isStartMulticast then ascii "c=IN IP4 " ++ cstr s.getMulticastDestAddr ++ ascii "/255\r\n"
          else ascii "c=IN IP4 0.0.0.0\r\n") ++
        cstr sink.getAttribute ++ ascii "\r\n" ++
        ascii "a=control:track" ++ dec track ++ ascii "\r\n")

/-- The text of the 2048 byte buffer in `GenerateSdpDescription`: each `snprintf`
goes on behind the one before, until the buffer is full. -/
def sdpText (s : MediaSession) (instances : AList fun _ : Nat => RtpInstance) (localIp : Octets)
    (time : Int) : Except Fault Octets :=
  match s.trackDescription instances 0 with
  | .error e => .error e
  | .ok track0 =>
    match s.trackDescription instances 1 with
    | .error e => .error e
    | .ok track1 =>
      .ok ((ascii "v=0\r\no=- 9" ++ intDec time ++ ascii " 1 IN IP4 " ++ cstr localIp ++
        ascii "\r\nt=0 0\r\na=control:*\r\na=type:broadcast\r\n" ++
        (if s.isStartMulticast then ascii "a=rtcp-unicast: reflection\r\n" else []) ++
        track0 ++ track1).take 2047)

/-- `GenerateSdpDescription`: the text is built once and kept. -/
def generateSdpDescription (s : MediaSession) (instances : AList fun _ : Nat => RtpInstance)
    (localIp : Octets) (time : Int) : Except Fault (Octets × MediaSession) :=
  if s.sdp ≠ [] then .ok (s.sdp, s)
  else
    match s.sdpText instances localIp time with
    | .error e => .error e
    | .ok text => .ok (text, { s with sdp := text })

end MediaSession

/-- `SendPacket`: every instance of the list is looked at, the live ones are sent
to. `answers` are those of the interleaved writes, by position in the list. -/
def sendPacket (instances : AList fun _ : Nat => RtpInstance) (answers : Nat → WriteAnswer) :
    List Nat → Nat → MediaPacket → Except Fault (List Effect)
  | [], _, _ => .ok []
  | rtp :: rest, position, packet =>
    match instances.lookup rtp with
    | none => .error .dangling
    | some i =>
      if i.isAlive then
        let (packet, effect) := i.send rtp packet (answers position)
        match sendPacket instances answers rest (position + 1) packet with
        | .error e => .error e
        | .ok effects => .ok (effect :: effects)
      else sendPacket instances answers rest (position + 1) packet

namespace Media

/-- An address `new` can return: any that is not in use. -/
def freshAddress (m : Media) (wanted : Nat) : Nat :=
  if wanted ∈ m.rtpInstances then m.rtpInstances.keys.foldr max 0 + 1 else wanted

theorem freshAddress_fresh (m : Media) (wanted : Nat) :
    m.freshAddress wanted ∉ m.rtpInstances := by
  unfold freshAddress
  split
  · intro h
    have hle : ∀ (l : List Nat) (a : Nat), a ∈ l → a ≤ l.foldr max 0 := by
      intro l
      induction l with
      | nil => intro a ha; cases ha
      | cons b l ih =>
        intro a ha
        rcases List.mem_cons.mp ha with rfl | ha
        · exact Nat.le_max_left _ _
        · exact Nat.le_trans (ih a ha) (Nat.le_max_right _ _)
    have := hle _ _ (AList.mem_keys.mp h)
    omega
  · assumption

/-- `new RtpInstance`. -/
def newRtpInstance (m : Media) (wanted : Nat) (i : RtpInstance) : Nat × Media :=
  (m.freshAddress wanted,
    { m with rtpInstances := m.rtpInstances.insert (m.freshAddress wanted) i })

/-- A change of the instance at an address. -/
def modifyRtpInstance (m : Media) (rtp : Nat) (f : RtpInstance → RtpInstance) :
    Except Fault Media :=
  match m.rtpInstances.lookup rtp with
  | none => .error .dangling
  | some i => .ok { m with rtpInstances := m.rtpInstances.insert rtp (f i) }

/-- `delete` of an instance, whose destructor closes its socket. -/
def deleteRtpInstance (m : Media) (rtp : Nat) : Except Fault (Media × List Effect) :=
  match m.rtpInstances.lookup rtp with
  | none => .error .dangling
  | some i => .ok ({ m with rtpInstances := m.rtpInstances.erase rtp },
      [.closed i.sockFd, .deleted rtp])

/-- A change of a registered session. -/
def setSession (m : Media) (name : Octets) (s : MediaSession) : Media :=
  { m with sessions := m.sessions.insert name s }

end Media

/-! ## Setting a session up -/

/-- `AddRtpSink`. -/
def MediaSession.addRtpSink (s : MediaSession) (track : TrackId) (sink : Sink) : MediaSession :=
  let changed : Track := { s.tracks track with rtpSink := some sink }
  { s with tracks := Function.update s.tracks track changed }

/-- What the kernel, `rand()` and the allocator contribute to `StartMulticast`:
the sockets in the order in which they are created, the address as text, and the
number the ports are drawn from. -/
structure MulticastWorld where
  addr : Octets
  sockfd : Fin 4 → Option Nat
  rand : Nat
  newRtp : TrackId → Nat

namespace Media

/-- `RtspServer::AddMediaSession` of a session without sinks; a name is taken once. -/
def addMediaSession (m : Media) (name : Octets) : Media :=
  if name ∈ m.sessions then m else m.setSession name { sessionName := name }

def addRtpSink (m : Media) (name : Octets) (track : TrackId) (sink : Sink) : Media :=
  match m.sessions.lookup name with
  | none => m
  | some s => m.setSession name (s.addRtpSink track sink)

/-- `StartMulticast`, called at most once for a session. -/
def startMulticast (m : Media) (name : Octets) (w : MulticastWorld) :
    Except Fault (Media × List Effect) :=
  match m.sessions.lookup name with
  | none => .ok (m, [])
  | some s =>
    if s.isStartMulticast then .ok (m, [])
    else
      match w.sockfd 0, w.sockfd 1, w.sockfd 2, w.sockfd 3 with
      | some (rtpSockfd1 + 1), some (rtpSockfd2 + 1), some (rtcpSockfd1 + 1),
          some (rtcpSockfd2 + 1) =>
        let drawn := UInt16.ofNat w.rand &&& (0xfffe : UInt16)
        let port := if drawn < 10000 then drawn + 10000 else drawn
        let (rtp1, m) := m.newRtpInstance (w.newRtp 0)
          (.createNewOverUdp (rtpSockfd1 + 1) 0 w.addr port)
        let (rtp2, m) := m.newRtpInstance (w.newRtp 1)
          (.createNewOverUdp (rtpSockfd2 + 1) 0 w.addr (port + 2))
        let group : MulticastGroup := {
          addr := w.addr
          rtpInstances := fun track => if track = 0 then rtp1 else rtp2
          rtcpInstances := fun track => {
            localSockfd := if track = 0 then rtcpSockfd1 + 1 else rtcpSockfd2 + 1
            localPort := 0, destIp := w.addr
            destPort := if track = 0 then port + 1 else port + 3 } }
        let s := { (s.addRtpInstance 0 rtp1).addRtpInstance 1 rtp2 with multicast := some group }
        .ok (m.setSession name s,
          [.opened (rtpSockfd1 + 1), .opened (rtpSockfd2 + 1), .opened (rtcpSockfd1 + 1),
            .opened (rtcpSockfd2 + 1)])
      | _, _, _, _ => .error .assertion

end Media

/-- `StartMulticast` as it stands: a second call makes new sockets and instances and
forgets the first ones. -/
def MediaSession.startMulticast (s : MediaSession) (m : Media) (w : MulticastWorld) :
    Except Fault (MediaSession × Media × List Effect) :=
  match w.sockfd 0, w.sockfd 1, w.sockfd 2, w.sockfd 3 with
  | some (rtpSockfd1 + 1), some (rtpSockfd2 + 1), some (rtcpSockfd1 + 1),
      some (rtcpSockfd2 + 1) =>
    let drawn := UInt16.ofNat w.rand &&& (0xfffe : UInt16)
    let port := if drawn < 10000 then drawn + 10000 else drawn
    let (rtp1, m) := m.newRtpInstance (w.newRtp 0)
      (.createNewOverUdp (rtpSockfd1 + 1) 0 w.addr port)
    let (rtp2, m) := m.newRtpInstance (w.newRtp 1)
      (.createNewOverUdp (rtpSockfd2 + 1) 0 w.addr (port + 2))
    let group : MulticastGroup := {
      addr := w.addr
      rtpInstances := fun track => if track = 0 then rtp1 else rtp2
      rtcpInstances := fun track => {
        localSockfd := if track = 0 then rtcpSockfd1 + 1 else rtcpSockfd2 + 1
        localPort := 0, destIp := w.addr
        destPort := if track = 0 then port + 1 else port + 3 } }
    .ok ({ (s.addRtpInstance 0 rtp1).addRtpInstance 1 rtp2 with multicast := some group }, m,
      [.opened (rtpSockfd1 + 1), .opened (rtpSockfd2 + 1), .opened (rtcpSockfd1 + 1),
        .opened (rtcpSockfd2 + 1)])
  | _, _, _, _ => .error .assertion

end MyRtspServer.Net
