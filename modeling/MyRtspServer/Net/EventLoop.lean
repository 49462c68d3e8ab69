import MyRtspServer.Library.Descriptors
import MyRtspServer.Net.RtspServer

/-!
# `EventScheduler::Loop`, the poller and the descriptors

The loop around `RtspServer` with what the server's own model leaves out: which
callback the poller keeps for a descriptor, which object `m_connections_` keeps
under it, the trigger events, and the kernel's table of open descriptors. Objects
are numbered as they are constructed, so a reused descriptor does not confuse two
connections. One round of the loop is a trigger phase, a call of `epoll_wait` and
a turn for each descriptor that is ready.
-/
namespace MyRtspServer.Net

open Library Library.Octets Library.Transition Library.Descriptors

/-- Who closes a descriptor: a member of the connection object with that number,
the local variables of its `CreateRtpRtcpOverUdp`, a session, or the process. -/
inductive Owner where
  | client (id : Nat)
  | rtp (id : Nat) (track : TrackId)
  | rtcp (id : Nat) (track : TrackId)
  | setup (id : Nat)
  | session (name : Octets)
  | system
  deriving DecidableEq

/-- The connection a descriptor serves. -/
def Owner.connection : Owner → Option Nat
  | .client id | .rtp id _ | .rtcp id _ | .setup id => some id
  | .session _ | .system => none

/-- What the kernel knows: the open descriptors, and those `epoll_wait` watches.
A closed descriptor is watched no longer. -/
structure Kernel where
  descriptors : Table Owner := fun _ => none
  interest : Nat → Bool := fun _ => false

namespace Kernel

def move (k : Kernel) (m : Move Owner) : Kernel :=
  { descriptors := k.descriptors.apply m
    interest := match m with
      | .close _ fd => Function.update k.interest fd false
      | _ => k.interest }

def moves (k : Kernel) (ms : List (Move Owner)) : Kernel := ms.foldl move k

/-- `EPOLL_CTL_ADD`. -/
def epollAdd (k : Kernel) (fd : Nat) : Kernel :=
  { k with interest := Function.update k.interest fd true }

/-- `EPOLL_CTL_DEL`. -/
def epollDel (k : Kernel) (fd : Nat) : Kernel :=
  { k with interest := Function.update k.interest fd false }

end Kernel

/-- The object an `IOEvent` calls back. -/
inductive Callback where
  | acceptor
  | timerManager
  | scheduler
  | connection (id : Nat)
  deriving DecidableEq

/-- `m_epoll_event_lists_[i]`. -/
structure Ready where
  fd : Nat
  epollIn : Bool := false
  epollPri : Bool := false
  epollRdHup : Bool := false
  epollOut : Bool := false
  epollErr : Bool := false
  deriving DecidableEq

namespace Ready

/-- `EVENT_READ` of `ret_event`. -/
def isRead (r : Ready) : Bool := r.epollIn || r.epollPri || r.epollRdHup

/-- `EVENT_WRITE` of `ret_event`. -/
def isWrite (r : Ready) : Bool := r.epollOut

/-- `EVENT_ERROR` of `ret_event`. -/
def isError (r : Ready) : Bool := r.epollErr

end Ready

/-- A packet a sink's timer event sends. -/
structure TimedPacket where
  name : Octets
  track : TrackId
  packet : MediaPacket
  answers : Nat → WriteAnswer

def TimedPacket.act (p : TimedPacket) : ServerAct := .packet p.name p.track p.packet p.answers

/-- What the kernel and the sinks contribute to one turn, whichever callback it is:
the accepted connection, the bytes `Read` has put into the buffer (none when it
returns zero or an error), and the packets that are due. -/
structure Turn where
  connfd : Nat
  peer : Accepted
  received : Octets
  world : World
  packets : List TimedPacket := []

/-- What `main` does with a session. -/
inductive SessionCall where
  | addMediaSession (name : Octets)
  | addRtpSink (name : Octets) (track : TrackId) (sink : Sink)
  | startMulticast (name : Octets) (world : MulticastWorld)

namespace SessionCall

def act : SessionCall → ServerAct
  | .addMediaSession name => .addMediaSession name
  | .addRtpSink name track sink => .addRtpSink name track sink
  | .startMulticast name world => .startMulticast name world

def name : SessionCall → Octets
  | .addMediaSession name | .addRtpSink name _ _ | .startMulticast name _ => name

end SessionCall

/-- Where the loop stands. -/
inductive Control where
  /-- `HandleTriggleEvents` is next. -/
  | triggering
  /-- `epoll_wait` is next. -/
  | polling
  /-- These are still to be handled. -/
  | dispatching (rest : List Ready)

inductive LoopAct where
  | session (call : SessionCall)
  | trigger
  | poll (ready : List Ready)
  | turn (t : Turn)

/-- The two assertions, the use of a destroyed connection, and the faults of
`~RtspConnection` and of what a callback calls. -/
inductive LoopFault where
  | handleEvent
  | handleDisconnectionList
  | destroyed
  | destructor (fault : Fault)
  | callback (fault : Fault)
  deriving DecidableEq, Repr

inductive LoopEffect where
  /-- A move, and whether the poller's map has the descriptor at that time. -/
  | descriptor (m : Move Owner) (registered : Bool)
  | created (id : Nat)
  | called (id : Nat)
  /-- `HandleDisconnection`. -/
  | givenUp (id : Nat)
  | destroyed (id : Nat)
  deriving DecidableEq

def LoopEffect.move : LoopEffect → Option (Move Owner)
  | .descriptor m _ => some m
  | _ => none

/-- The moves of the descriptors among all that was seen. -/
def descriptorMoves (out : List LoopEffect) : List (Move Owner) := out.filterMap LoopEffect.move

/-- `ids` is the object `m_connections_` keeps under a descriptor; `eventMap` is
`m_event_map_`, and of `m_trigger_events_` only the number matters. -/
structure EventLoop where
  server : Server := {}
  ids : Nat → Option Nat := fun _ => none
  nextId : Nat := 0
  eventMap : Nat → Option Callback := fun _ => none
  triggerEvents : Nat := 0
  control : Control := .triggering
  kernel : Kernel := {}

namespace EventLoop

/-- The effects of moves made now. -/
def shown (l : EventLoop) (ms : List (Move Owner)) : List LoopEffect :=
  ms.map fun m => .descriptor m (l.eventMap m.fd).isSome

/-- `UpdateIOEvent`: an event that is there already stays. -/
def updateIOEvent (l : EventLoop) (fd : Nat) (callback : Callback) : EventLoop :=
  match l.eventMap fd with
  | none =>
    { l with kernel := l.kernel.epollAdd fd
             eventMap := Function.update l.eventMap fd (some callback) }
  | some _ => l

/-- `RemoveIOEvent`. -/
def removeIOEvent (l : EventLoop) (fd : Nat) : EventLoop :=
  match l.eventMap fd with
  | none => l
  | some _ =>
    { l with kernel := l.kernel.epollDel fd, eventMap := Function.update l.eventMap fd none }

/-- A descriptor of the process, and the event registered for it. -/
def openSystem (l : EventLoop) (fd : Nat) (callback : Callback) : EventLoop :=
  { l with kernel := l.kernel.move (.acquire .system fd) }.updateIOEvent fd callback

/-- The loop when it starts: the wake-up event, the timer and the acceptor are
registered. -/
def create (wakeupFd timerFd listenFd : Nat) : EventLoop :=
  ((openSystem {} wakeupFd .scheduler).openSystem timerFd .timerManager).openSystem listenFd .acceptor

/-! ## The callbacks -/

/-- `HandleNewConnection` of a descriptor `accept` has returned. `insert` leaves a
connection that is there already. -/
def handleNewConnection (l : EventLoop) (connfd : Nat) (peer : Accepted) :
    EventLoop × List LoopEffect :=
  let accepted : Move Owner := .acquire (.client l.nextId) connfd
  let registered :=
    { l with kernel := l.kernel.move accepted, nextId := l.nextId + 1 }.updateIOEvent connfd
      (.connection l.nextId)
  let inserted := match l.ids connfd with
    | some _ => registered
    | none =>
      { registered with ids := Function.update l.ids connfd (some l.nextId)
                        server := l.server.handleNewConnection connfd peer }
  (inserted, l.shown [accepted] ++ [.created l.nextId])

/-- `HandleDisconnection`. -/
def handleDisconnection (l : EventLoop) (sockfd : Nat) : EventLoop :=
  { l with server := l.server.handleDisconnection sockfd, triggerEvents := l.triggerEvents + 1 }

/-- The sockets a call opens and closes itself. -/
def socketMoves (owner : Owner) (effects : List Effect) : List (Move Owner) :=
  effects.filterMap fun
    | .opened fd => some (.acquire owner fd)
    | .closed fd => some (.close owner fd)
    | _ => none

/-- The sockets that the new instances of a track have taken over; an interleaved
instance is only told the number of the client's descriptor. -/
def instanceMoves (id : Nat) (before after : RtspConnection) (m : Media) (track : TrackId) :
    List (Move Owner) :=
  match before.rtpInstances track, after.rtpInstances track with
  | none, some rtp =>
    match m.rtpInstances.lookup rtp, after.rtcpInstances track with
    | some ⟨.overUdp .., sockFd, _, _⟩, some rtcp =>
      [.transfer (.setup id) (.rtp id track) sockFd,
        .transfer (.setup id) (.rtcp id track) rtcp.localSockfd]
    | _, _ => []
  | _, _ => []

/-- The moves of one call of `HandleReadBytes`. -/
def readMoves (id : Nat) (before : RtspConnection) (r : ReadResult) : List (Move Owner) :=
  socketMoves (.setup id) r.effects ++ instanceMoves id before r.conn.rtsp r.media 0 ++
    instanceMoves id before r.conn.rtsp r.media 1

/-- `HandleRead` of connection `id`. -/
def handleRead (l : EventLoop) (id sockfd : Nat) (conn : Connection) (t : Turn) :
    Except LoopFault (EventLoop × List LoopEffect) :=
  if t.received = [] then .ok (l.handleDisconnection sockfd, [.called id, .givenUp id])
  else
    match conn.handleRead t.world l.server.media t.received with
    | .error e => .error (.callback e)
    | .ok r =>
      let moves := readMoves id conn.rtsp r
      let l' :=
        { l with
          server :=
            { l.server with media := r.media, connections := l.server.connections.insert sockfd r.conn }
          kernel := l.kernel.moves moves }
      .ok (if r.ok then l' else l'.handleDisconnection sockfd,
        .called id :: (l.shown moves ++ if r.ok then [] else [.givenUp id]))

/-- `HandleWrite` of connection `id`. -/
def handleWrite (l : EventLoop) (id sockfd : Nat) : EventLoop × List LoopEffect :=
  match l.server.connections.lookup sockfd with
  | none => (l, [.called id])
  | some conn =>
    let emptied := { conn with rtsp := { conn.rtsp with outputBuffer := [] } }
    ({ l with server :=
        { l.server with connections := l.server.connections.insert sockfd emptied } }, [.called id])

/-- `IOEvent::HandleEvent` of a connection; `HandleError` does nothing. -/
def handleConnectionEvent (l : EventLoop) (id sockfd : Nat) (conn : Connection) (r : Ready)
    (t : Turn) : Except LoopFault (EventLoop × List LoopEffect) :=
  match if r.isRead then l.handleRead id sockfd conn t else .ok (l, []) with
  | .error e => .error e
  | .ok (l, readOut) =>
    let (l, writeOut) := if r.isWrite then l.handleWrite id sockfd else (l, [])
    .ok (l, readOut ++ writeOut ++ if r.isError then [.called id] else [])

/-- The body of `EpollEpoller::HandleEvent` for one ready descriptor. Only
connections have callbacks for writing and for errors. -/
def handleEvent (l : EventLoop) (r : Ready) (t : Turn) :
    Except LoopFault (EventLoop × List LoopEffect) :=
  match l.eventMap r.fd with
  | none => .error .handleEvent
  | some .scheduler => .ok (l, [])
  | some .timerManager =>
    if r.isRead then
      match run Server.step l.server (t.packets.map TimedPacket.act) with
      | .error e => .error (.callback e)
      | .ok (s, _) => .ok ({ l with server := s }, [])
    else .ok (l, [])
  | some .acceptor => .ok (if r.isRead then l.handleNewConnection t.connfd t.peer else (l, []))
  | some (.connection id) =>
    match l.server.connections.lookup r.fd with
    | none => .error .destroyed
    | some conn =>
      if l.ids r.fd = some id then l.handleConnectionEvent id r.fd conn r t else .error .destroyed

/-! ## The trigger phase -/

/-- What `~RtspConnection` closes for one track, with the two instances. -/
def trackCloses (id : Nat) (c : RtspConnection) (m : Media) (track : TrackId) :
    List (Move Owner) :=
  (match c.rtpInstances track with
    | none => []
    | some rtp =>
      match m.rtpInstances.lookup rtp with
      | none => []
      | some i => [.close (.rtp id track) i.sockFd]) ++
  (match c.rtcpInstances track with
    | none => []
    | some rtcp => [.close (.rtcp id track) rtcp.localSockfd])

/-- `delete it->second; m_connections_.erase(iter)`: `~RtspConnection`, then
`~TcpConnection` and last `~TcpSocket`. -/
def destroyConnection (l : EventLoop) (sockfd : Nat) :
    Except LoopFault (EventLoop × List LoopEffect) :=
  match l.ids sockfd, l.server.connections.lookup sockfd with
  | some id, some conn =>
    match conn.rtsp.destroy l.server.media with
    | .error e => .error (.destructor e)
    | .ok (media, _) =>
      let closes := trackCloses id conn.rtsp l.server.media 0 ++
        trackCloses id conn.rtsp l.server.media 1
      let unregistered :=
        { l with kernel := l.kernel.moves closes }.removeIOEvent conn.rtsp.sockFd
      let close : Move Owner := .close (.client id) conn.rtsp.sockFd
      .ok ({ unregistered with
          server :=
            { l.server with media := media, connections := l.server.connections.erase sockfd }
          ids := Function.update l.ids sockfd none
          kernel := unregistered.kernel.move close },
        l.shown closes ++ unregistered.shown [close] ++ [.destroyed id])
  | _, _ => .error .handleDisconnectionList

/-- `HandleDisconnectionList`. -/
def handleDisconnectionList (l : EventLoop) : Except LoopFault (EventLoop × List LoopEffect) :=
  match run destroyConnection l l.server.disconnectedList with
  | .error e => .error e
  | .ok (l, out) => .ok ({ l with server := { l.server with disconnectedList := [] } }, out)

/-- `HandleTriggleEvents`. -/
def handleTriggleEvents (l : EventLoop) : Except LoopFault (EventLoop × List LoopEffect) :=
  match run (fun l _ => handleDisconnectionList l) l (List.replicate l.triggerEvents ()) with
  | .error e => .error e
  | .ok (l, out) => .ok ({ l with triggerEvents := 0 }, out)

/-! ## The loop -/

/-- Where the loop stands when these are left of the batch; `HandleOtherEvent`
finds its queue empty. -/
def dispatchingOf : List Ready → Control
  | [] => .triggering
  | rest => .dispatching rest

/-- One step; an act that is not next changes nothing. -/
def step (l : EventLoop) : LoopAct → Except LoopFault (EventLoop × List LoopEffect)
  | .session call =>
    match l.server.step call.act with
    | .error e => .error (.callback e)
    | .ok (s, effects) =>
      let moves := socketMoves (.session call.name) effects
      .ok ({ l with server := s, kernel := l.kernel.moves moves }, l.shown moves)
  | .trigger =>
    match l.control with
    | .triggering =>
      match l.handleTriggleEvents with
      | .error e => .error e
      | .ok (l, out) => .ok ({ l with control := .polling }, out)
    | _ => .ok (l, [])
  | .poll ready =>
    match l.control with
    | .polling => .ok ({ l with control := dispatchingOf ready }, [])
    | _ => .ok (l, [])
  | .turn t =>
    match l.control with
    | .dispatching (r :: rest) =>
      match l.handleEvent r t with
      | .error e => .error e
      | .ok (l, out) => .ok ({ l with control := dispatchingOf rest }, out)
    | _ => .ok (l, [])

/-- What the kernel promises: `epoll_wait` reports watched descriptors, each once,
and what is opened was not open. -/
def KernelKeeps (l : EventLoop) (act : LoopAct) : Prop :=
  (∀ ready, act = .poll ready →
    (ready.map Ready.fd).Nodup ∧ ∀ r ∈ ready, l.kernel.interest r.fd = true) ∧
  ∀ l' out, l.step act = .ok (l', out) → l.kernel.descriptors.Fresh (descriptorMoves out)

end EventLoop
end MyRtspServer.Net
