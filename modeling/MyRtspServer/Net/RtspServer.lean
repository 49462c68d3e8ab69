import MyRtspServer.Library.Transition
import MyRtspServer.Net.RtspConnection

/-!
# `RtspServer` and the event loop around it

The loop accepts connections, reads from them, lets the sinks' timers send
packets, and in its trigger phase destroys the connections whose disconnection
was noted. Each of these is one action. The kernel gives a new connection a
descriptor that is not open, and the poller reports each descriptor once between
two trigger phases, so a connection that waits for its destruction is not read
again; such actions change nothing.
-/
namespace MyRtspServer.Net

open Library Library.Octets Library.Transition

structure Server where
  media : Media := {}
  connections : AList fun _ : Nat => Connection := ∅
  disconnectedList : List Nat := []

/-- What the kernel, `rand()` and the memory of a new connection contribute. -/
structure Accepted where
  peerIp : Octets
  sessionId : UInt32
  cseq : UInt32 := 0
  peerRtpPort : UInt16 := 0
  peerRtcpPort : UInt16 := 0
  rtpChannel : UInt8 := 0

/-- The first three are what `main` does with a session, at any time. -/
inductive ServerAct where
  | addMediaSession (name : Octets)
  | addRtpSink (name : Octets) (track : TrackId) (sink : Sink)
  | startMulticast (name : Octets) (world : MulticastWorld)
  | accept (connfd : Nat) (peer : Accepted)
  | read (sockfd : Nat) (bytes : Octets) (world : World)
  /-- `Read` returns zero or an error. -/
  | hangup (sockfd : Nat)
  | trigger
  | packet (name : Octets) (track : TrackId) (packet : MediaPacket) (answers : Nat → WriteAnswer)

/-- The constructor of `RtspConnection`. -/
def RtspConnection.create (connfd : Nat) (peer : Accepted) : RtspConnection :=
  { request :=
      { cseq := peer.cseq, peerRtpPort := peer.peerRtpPort, peerRtcpPort := peer.peerRtcpPort
        rtpChannel := peer.rtpChannel }
    sockFd := connfd, peerIp := peer.peerIp, sessionId := peer.sessionId }

/-- The round of `~RtspConnection` for one track: `m_session_` forgets the
instance, and it is deleted. -/
def RtspConnection.destroyTrack (c : RtspConnection) (m : Media) (track : TrackId) :
    Except Fault (Media × List Effect) :=
  let rtcpEffects := match c.rtcpInstances track with
    | none => []
    | some rtcp => [.closed rtcp.localSockfd]
  match c.rtpInstances track with
  | none => .ok (m, rtcpEffects)
  | some rtp =>
    match c.session with
    | none => .error .uninitialised
    | some name =>
      match m.sessions.lookup name with
      | none => .error .dangling
      | some session =>
        match (m.setSession name (session.removeRtpInstance rtp)).deleteRtpInstance rtp with
        | .error e => .error e
        | .ok (m, effects) => .ok (m, effects ++ rtcpEffects)

/-- `~RtspConnection`, and `~TcpSocket` behind it. -/
def RtspConnection.destroy (c : RtspConnection) (m : Media) : Except Fault (Media × List Effect) :=
  match c.destroyTrack m 0 with
  | .error e => .error e
  | .ok (m, effects0) =>
    match c.destroyTrack m 1 with
    | .error e => .error e
    | .ok (m, effects1) => .ok (m, effects0 ++ effects1 ++ [.closed c.sockFd])

namespace Server

/-- `HandleNewConnection`. -/
def handleNewConnection (s : Server) (connfd : Nat) (peer : Accepted) : Server :=
  { s with connections := s.connections.insert connfd { rtsp := .create connfd peer } }

/-- `HandleDisconnection`. -/
def handleDisconnection (s : Server) (sockfd : Nat) : Server :=
  { s with disconnectedList := s.disconnectedList ++ [sockfd] }

/-- The loop of `HandleDisconnectionList`. -/
def destroyAll (s : Server) : List Nat → Except Fault (Server × List Effect)
  | [] => .ok (s, [])
  | sockfd :: rest =>
    match s.connections.lookup sockfd with
    | none => .error .assertion
    | some conn =>
      match conn.rtsp.destroy s.media with
      | .error e => .error e
      | .ok (media, effects) =>
        match destroyAll
            { s with media := media, connections := s.connections.erase sockfd } rest with
        | .error e => .error e
        | .ok (s, effects') => .ok (s, effects ++ effects')

/-- `HandleDisconnectionList`. -/
def handleDisconnectionList (s : Server) : Except Fault (Server × List Effect) :=
  match s.destroyAll s.disconnectedList with
  | .error e => .error e
  | .ok (s, effects) => .ok ({ s with disconnectedList := [] }, effects)

/-- A connection the poller can report: registered and not given up. -/
def readable (s : Server) (sockfd : Nat) : Option Connection :=
  if sockfd ∈ s.disconnectedList then none else s.connections.lookup sockfd

/-- `HandleRead` of a connection that has received `bytes`. -/
def handleRead (s : Server) (sockfd : Nat) (conn : Connection) (bytes : Octets) (w : World) :
    Except Fault (Server × List Effect) :=
  match conn.handleRead w s.media bytes with
  | .error e => .error e
  | .ok r =>
    let s := { s with media := r.media, connections := s.connections.insert sockfd r.conn }
    .ok (if r.ok then s else s.handleDisconnection sockfd, r.effects)

def step (s : Server) : ServerAct → Except Fault (Server × List Effect)
  | .addMediaSession name => .ok ({ s with media := s.media.addMediaSession name }, [])
  | .addRtpSink name track sink =>
    .ok ({ s with media := s.media.addRtpSink name track sink }, [])
  | .startMulticast name w =>
    match s.media.startMulticast name w with
    | .error e => .error e
    | .ok (media, effects) => .ok ({ s with media := media }, effects)
  | .accept connfd peer =>
    if connfd ∈ s.connections then .ok (s, [])
    else .ok (s.handleNewConnection connfd peer, [.connected connfd])
  | .read sockfd bytes w =>
    match s.readable sockfd with
    | none => .ok (s, [])
    | some conn => if bytes = [] then .ok (s, []) else s.handleRead sockfd conn bytes w
  | .hangup sockfd =>
    match s.readable sockfd with
    | none => .ok (s, [])
    | some _ => .ok (s.handleDisconnection sockfd, [.disconnected sockfd])
  | .trigger => s.handleDisconnectionList
  | .packet name track packet answers =>
    match s.media.sessions.lookup name with
    | none => .ok (s, [])
    | some session =>
      match sendPacket s.media.rtpInstances answers (session.tracks track).rtpInstances 0 packet with
      | .error e => .error e
      | .ok effects => .ok (s, effects)

end Server

/-! ## A client to run the server with -/

def sampleWorld : World :=
  { localIp := ascii "10.0.0.1", time := 0
    udp := fun i => ⟨some (20 + 2 * i), some (21 + 2 * i), 5000, true, true⟩
    newRtp := 64, answer := some 4096, stale := fun _ => 0 }

/-- A session with a video sink on its first track. -/
def sampleSession (name : String) : List ServerAct :=
  [.addMediaSession (ascii name),
    .addRtpSink (ascii name) 0
      (.h264 { base := { payloadType := rtpPayloadTypeH264 }, fps := 25 })]

/-- A request that arrives whole on descriptor 7. -/
def sampleRequest (line headers : String) : ServerAct :=
  .read 7 (ascii line ++ ascii " RTSP/1.0\r\nCSeq: 1\r\n" ++ ascii headers ++ ascii "\r\n")
    sampleWorld

def sampleConnect : ServerAct := .accept 7 { peerIp := ascii "10.0.0.2", sessionId := 77 }

/-- A client that plays one track over TCP; a PAUSE before PLAY does no harm. -/
def samplePlay : List ServerAct :=
  sampleSession "a" ++
    [sampleConnect, sampleRequest "DESCRIBE rtsp://h/a" "Accept: application/sdp\r\n",
      sampleRequest "SETUP rtsp://h/a/track0" "Transport: RTP/AVP/TCP;unicast;interleaved=0-1\r\n",
      sampleRequest "PAUSE rtsp://h/a" "", sampleRequest "PLAY rtsp://h/a" "Session: 4d\r\n"]

/-- A packet without payload for the session of that client. -/
def samplePacketAct (answer : WriteAnswer) : ServerAct :=
  .packet (ascii "a") 0
    { memory := fun _ => 0, size := rtpHeaderSize, nonneg := by decide, fits := by decide }
    fun _ => answer

end MyRtspServer.Net
