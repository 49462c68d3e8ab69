import MyRtspServer.Net.DeferredDestruction
import MyRtspServer.Net.Faults
import MyRtspServer.Net.Streaming

/-!
# The loop refines the server

What the loop does in a turn is an action of the server, or several, and nothing else
happens to the server. So every run of the loop is a run of the server, with the same
descriptors opened and closed in the same order, and what holds in all runs of the server
holds in the loop.
-/
namespace MyRtspServer.Net

open Library Library.Octets Library.Transition Library.Descriptors

namespace Server

/-! ## The order of the connections -/

/-- The two agree but for the order in which the map keeps its connections. -/
structure Alike (s t : Server) : Prop where
  media : s.media = t.media
  list : s.disconnectedList = t.disconnectedList
  lookup : ∀ fd, s.connections.lookup fd = t.connections.lookup fd

namespace Alike

variable {s t u : Server}

theorem refl (s : Server) : s.Alike s := ⟨rfl, rfl, fun _ => rfl⟩

theorem trans (h : s.Alike t) (h' : t.Alike u) : s.Alike u :=
  ⟨h.media.trans h'.media, h.list.trans h'.list, fun fd => (h.lookup fd).trans (h'.lookup fd)⟩

theorem mem (h : s.Alike t) (fd : Nat) : fd ∈ s.connections ↔ fd ∈ t.connections := by
  rw [← AList.lookup_isSome, h.lookup, AList.lookup_isSome]

theorem readable (h : s.Alike t) (fd : Nat) : s.readable fd = t.readable fd := by
  rw [Server.readable, Server.readable, h.list, h.lookup]

/-- A connection is put in, or put back. -/
theorem insert (h : s.Alike t) (m : Media) (sockfd : Nat) (conn : Connection) :
    Alike { s with media := m, connections := s.connections.insert sockfd conn }
      { t with media := m, connections := t.connections.insert sockfd conn } := by
  refine ⟨rfl, h.list, fun fd => ?_⟩
  by_cases heq : fd = sockfd
  · subst heq
    rw [AList.lookup_insert, AList.lookup_insert]
  · rw [AList.lookup_insert_ne heq, AList.lookup_insert_ne heq]
    exact h.lookup fd

theorem erase (h : s.Alike t) (m : Media) (sockfd : Nat) :
    Alike { s with media := m, connections := s.connections.erase sockfd }
      { t with media := m, connections := t.connections.erase sockfd } := by
  refine ⟨rfl, h.list, fun fd => ?_⟩
  by_cases heq : fd = sockfd
  · subst heq
    rw [AList.lookup_erase, AList.lookup_erase]
  · rw [AList.lookup_erase_ne heq, AList.lookup_erase_ne heq]
    exact h.lookup fd

theorem withMedia (h : s.Alike t) (m : Media) : Alike { s with media := m } { t with media := m } :=
  ⟨rfl, h.list, h.lookup⟩

theorem withList (h : s.Alike t) (list : List Nat) :
    Alike { s with disconnectedList := list } { t with disconnectedList := list } :=
  ⟨h.media, rfl, h.lookup⟩

theorem give (h : s.Alike t) (sockfd : Nat) :
    (s.handleDisconnection sockfd).Alike (t.handleDisconnection sockfd) :=
  ⟨h.media, congrArg (· ++ [sockfd]) h.list, h.lookup⟩

/-- A connection is put back as it is. -/
theorem same {sockfd : Nat} {conn : Connection} (h : s.connections.lookup sockfd = some conn) :
    Alike { s with connections := s.connections.insert sockfd conn } s := by
  refine ⟨rfl, rfl, fun fd => ?_⟩
  by_cases heq : fd = sockfd
  · subst heq
    rw [AList.lookup_insert, h]
  · rw [AList.lookup_insert_ne heq]

end Alike

theorem destroyAll_alike {fds : List Nat} : ∀ {s t s' : Server} {effects : List Effect},
    s.Alike t → s.destroyAll fds = .ok (s', effects) →
      ∃ t', t.destroyAll fds = .ok (t', effects) ∧ s'.Alike t' := by
  induction fds with
  | nil =>
    intro s t s' effects h hd
    cases hd
    exact ⟨t, rfl, h⟩
  | cons sockfd rest ih =>
    intro s t s' effects h hd
    rw [destroyAll, h.lookup, h.media] at hd
    rw [destroyAll]
    split at hd
    · cases hd
    split at hd
    · cases hd
    split at hd
    · cases hd
    rename_i hrest
    cases hd
    obtain ⟨t', ht, halike⟩ := ih (h.erase _ sockfd) hrest
    rw [ht]
    exact ⟨t', rfl, halike⟩

/-- **The order makes no difference to any action.** -/
theorem step_alike {s t s' : Server} {act : ServerAct} {effects : List Effect} (h : s.Alike t)
    (hstep : s.step act = .ok (s', effects)) :
    ∃ t', t.step act = .ok (t', effects) ∧ s'.Alike t' := by
  cases act with
  | addMediaSession name =>
    cases hstep
    exact ⟨_, by rw [step, ← h.media], h.withMedia _⟩
  | addRtpSink name track sink =>
    cases hstep
    exact ⟨_, by rw [step, ← h.media], h.withMedia _⟩
  | startMulticast name w =>
    simp only [step, h.media] at hstep ⊢
    split at hstep
    · cases hstep
    · cases hstep
      exact ⟨_, rfl, h.withMedia _⟩
  | accept connfd peer =>
    simp only [step, h.mem] at hstep ⊢
    split at hstep
    · rename_i hin
      cases hstep
      exact ⟨t, if_pos hin, h⟩
    · rename_i hnew
      cases hstep
      have hinsert := h.insert s.media connfd { rtsp := .create connfd peer }
      exact ⟨_, if_neg hnew, ⟨h.media, hinsert.list, hinsert.lookup⟩⟩
  | read sockfd bytes w =>
    simp only [step, h.readable] at hstep ⊢
    split at hstep
    · cases hstep
      exact ⟨t, rfl, h⟩
    rename_i conn hconn
    split at hstep
    · rename_i hempty
      cases hstep
      exact ⟨t, if_pos hempty, h⟩
    rename_i hsome
    rw [if_neg hsome]
    simp only [handleRead, h.media] at hstep ⊢
    split at hstep
    · cases hstep
    rename_i r hr
    cases hstep
    have hput := h.insert r.media sockfd r.conn
    refine ⟨_, rfl, ?_⟩
    split
    · exact hput
    · exact hput.give sockfd
  | hangup sockfd =>
    simp only [step, h.readable] at hstep ⊢
    split at hstep
    · cases hstep
      exact ⟨t, rfl, h⟩
    · cases hstep
      exact ⟨_, rfl, h.give sockfd⟩
  | trigger =>
    simp only [step, handleDisconnectionList, h.list] at hstep ⊢
    split at hstep
    · cases hstep
    rename_i hdestroyed
    cases hstep
    obtain ⟨t', ht, halike⟩ := destroyAll_alike h hdestroyed
    rw [ht]
    exact ⟨_, rfl, halike.withList []⟩
  | packet name track p answers =>
    simp only [step, h.media] at hstep ⊢
    split at hstep
    · cases hstep
      exact ⟨t, rfl, h⟩
    split at hstep
    · cases hstep
    cases hstep
    exact ⟨t, rfl, h⟩

end Server

/-! ## What is opened and closed -/

/-- A descriptor that is opened, or closed. -/
def Effect.touch : Effect → Option (Bool × Nat)
  | .connected fd | .opened fd => some (true, fd)
  | .closed fd => some (false, fd)
  | _ => none

namespace EventLoop

def moveTouch : Move Owner → Option (Bool × Nat)
  | .acquire _ fd => some (true, fd)
  | .transfer .. => none
  | .close _ fd => some (false, fd)

/-- The descriptors that are opened and closed, in order. -/
def touches (log : List LoopEffect) : List (Bool × Nat) := (descriptorMoves log).filterMap moveTouch

theorem touches_append (log out : List LoopEffect) :
    touches (log ++ out) = touches log ++ touches out := by
  rw [touches, descriptorMoves_append, List.filterMap_append]
  rfl

theorem touches_shown (l : EventLoop) (ms : List (Move Owner)) :
    touches (l.shown ms) = ms.filterMap moveTouch := by
  rw [touches, descriptorMoves_shown]

theorem touch_socketMoves (owner : Owner) {effects : List Effect}
    (h : ∀ e ∈ effects, ∀ fd, e ≠ .connected fd) :
    (socketMoves owner effects).filterMap moveTouch = effects.filterMap Effect.touch := by
  induction effects with
  | nil => rfl
  | cons e rest ih =>
    have hrest := ih fun e he => h e (List.mem_cons_of_mem _ he)
    have hhead := h e List.mem_cons_self
    have hmoves : socketMoves owner (e :: rest) = socketMoves owner [e] ++ socketMoves owner rest :=
      socketMoves_append owner [e] rest
    rw [hmoves, List.filterMap_append, hrest]
    cases e with
    | connected fd => exact absurd rfl (hhead fd)
    | _ => rfl

theorem touch_closes {ms : List (Move Owner)} (h : ∀ m ∈ ms, ∃ o f, m = Move.close o f) :
    ms.filterMap moveTouch = (ms.map Move.fd).map fun fd => (false, fd) := by
  induction ms with
  | nil => rfl
  | cons m ms ih =>
    obtain ⟨o, f, rfl⟩ := h m List.mem_cons_self
    rw [List.filterMap_cons, List.map_cons, List.map_cons,
      ih fun m hm => h m (List.mem_cons_of_mem _ hm)]
    rfl

theorem socketMoves_teardown (owner : Owner) {effects : List Effect}
    (h : ∀ e ∈ effects, Teardown e) : ∀ m ∈ socketMoves owner effects, ∃ o f, m = Move.close o f := by
  intro m hm
  obtain ⟨e, he, hmove⟩ := List.mem_filterMap.mp hm
  have hteardown := h e he
  revert hmove
  cases e with
  | closed fd =>
    intro hmove
    cases hmove
    exact ⟨_, _, rfl⟩
  | deleted rtp =>
    intro hmove
    cases hmove
  | _ => exact hteardown.elim

theorem touch_teardown (owner : Owner) {effects : List Effect} (h : ∀ e ∈ effects, Teardown e) :
    effects.filterMap Effect.touch =
      ((socketMoves owner effects).map Move.fd).map fun fd => (false, fd) := by
  rw [← touch_closes (socketMoves_teardown owner h), touch_socketMoves owner]
  intro e he fd heq
  have hteardown := h e he
  rw [heq] at hteardown
  exact hteardown

theorem touch_instanceMoves (id : Nat) (before after : RtspConnection) (m : Media) (track : TrackId) :
    (instanceMoves id before after m track).filterMap moveTouch = [] := by
  unfold instanceMoves
  split
  · split <;> rfl
  · rfl

theorem touch_readMoves (id : Nat) (before : RtspConnection) (r : ReadResult)
    (h : ∀ e ∈ r.effects, ∀ fd, e ≠ .connected fd) :
    (readMoves id before r).filterMap moveTouch = r.effects.filterMap Effect.touch := by
  rw [readMoves, List.filterMap_append, List.filterMap_append, touch_instanceMoves,
    touch_instanceMoves, List.append_nil, List.append_nil, touch_socketMoves _ h]

/-! ## One step -/

/-- What a turn is to the server. -/
def turnActs (l : EventLoop) (r : Ready) (t : Turn) : List ServerAct :=
  if r.isRead then
    match l.eventMap r.fd with
    | some .timerManager => t.packets.map TimedPacket.act
    | some .acceptor => [.accept t.connfd t.peer]
    | some (.connection _) =>
      [if t.received = [] then .hangup r.fd else .read r.fd t.received t.world]
    | _ => []
  else []

/-- What a step of the loop is to the server. -/
def serverActs (l : EventLoop) : LoopAct → List ServerAct
  | .session call => [call.act]
  | .trigger =>
    match l.control with
    | .triggering => List.replicate l.triggerEvents .trigger
    | _ => []
  | .poll _ => []
  | .turn t =>
    match l.control with
    | .dispatching (r :: _) => l.turnActs r t
    | _ => []

/-- The server takes these actions, and opens and closes the same descriptors. -/
def Follows (s : Server) (acts : List ServerAct) (l' : EventLoop) (out : List LoopEffect) : Prop :=
  ∃ s' effects, run Server.step s acts = .ok (s', effects) ∧ l'.server.Alike s' ∧
    touches out = effects.filterMap Effect.touch

theorem follows_idle {s : Server} {l : EventLoop} (h : l.server.Alike s) {out : List LoopEffect}
    (hout : touches out = []) : Follows s [] l out := ⟨s, [], rfl, h, hout⟩

theorem follows_step {s : Server} {l l' : EventLoop} {act : ServerAct} {out : List LoopEffect}
    {s1 : Server} {effects : List Effect} (h : l.server.Alike s)
    (hstep : l.server.step act = .ok (s1, effects)) (halike : l'.server.Alike s1)
    (hout : touches out = effects.filterMap Effect.touch) : Follows s [act] l' out := by
  obtain ⟨s', hs', hsame⟩ := Server.step_alike h hstep
  refine ⟨s', effects, ?_, halike.trans hsame, hout⟩
  rw [run, hs']
  simp [run]

/-- The loop of `HandleDisconnectionList`. -/
theorem destroyAll_follows {fds : List Nat} : ∀ {l l' : EventLoop} {out : List LoopEffect},
    l.Consistent → run destroyConnection l fds = .ok (l', out) →
      ∃ effects, l.server.destroyAll fds = .ok (l'.server, effects) ∧
        touches out = effects.filterMap Effect.touch ∧ l'.Consistent := by
  induction fds with
  | nil =>
    intro l l' out hc h
    cases h
    exact ⟨[], rfl, rfl, hc⟩
  | cons sockfd rest ih =>
    intro l l' out hc h
    obtain ⟨m, first, later, hfirst, hrest, rfl⟩ := run_cons h
    obtain ⟨id, hid⟩ : ∃ id, l.ids sockfd = some id := by
      unfold destroyConnection at hfirst
      split at hfirst
      · exact ⟨_, ‹_›⟩
      · cases hfirst
    obtain ⟨conn, m', out', hconn, hdestroyed, hd⟩ := hc.destroy hid
    cases hfirst.symm.trans hdestroyed
    obtain ⟨effects, hall, htouches, hc'⟩ := ih hd.consistent hrest
    obtain ⟨media, closed, hdestroy, -⟩ := Server.destroy_settled hc.settled hconn
    have hserver : m.server =
        { l.server with media := media, connections := l.server.connections.erase sockfd } := by
      rw [destroyConnection, hid, hconn] at hdestroyed
      dsimp only at hdestroyed
      rw [hdestroy] at hdestroyed
      cases hdestroyed
      rfl
    have hclosed : touches first = closed.filterMap Effect.touch := by
      have hmoves : descriptorMoves first = Consistent.closesOf id conn.rtsp l.server.media := by
        rw [hd.shows, Consistent.closesOf, hc.settled.registered.sockFd hconn]
        simp
      rw [touch_teardown .system (destroy_tracks hdestroy).2,
        hc.destroy_closes hconn hdestroy id .system, touches, hmoves,
        touch_closes (Consistent.closesOf_close _ _ _)]
    refine ⟨closed ++ effects, ?_, ?_, hc'⟩
    · rw [Server.destroyAll, hconn]
      dsimp only
      rw [hdestroy]
      dsimp only
      rw [← hserver, hall]
    · rw [touches_append, List.filterMap_append, hclosed, htouches]

/-- `HandleDisconnectionList` is the trigger action. -/
theorem handleDisconnectionList_follows {l l' : EventLoop} {out : List LoopEffect}
    (hc : l.Consistent) (h : l.handleDisconnectionList = .ok (l', out)) :
    ∃ effects, l.server.step .trigger = .ok (l'.server, effects) ∧
      touches out = effects.filterMap Effect.touch ∧ l'.Consistent := by
  unfold handleDisconnectionList at h
  split at h
  · cases h
  rename_i m out' hrun
  cases h
  obtain ⟨effects, hall, htouches, hc'⟩ := destroyAll_follows hc hrun
  refine ⟨effects, ?_, htouches, ?_⟩
  · rw [Server.step, Server.handleDisconnectionList, hall]
  · exact ⟨hc'.settled.withList [], hc'.known, hc'.events, hc'.below, hc'.apart, hc'.watched,
      hc'.held⟩

/-- One trigger action for each trigger event. -/
theorem triggers_follow (n : Nat) : ∀ {l l' : EventLoop} {out : List LoopEffect}, l.Consistent →
    run (fun l _ => handleDisconnectionList l) l (List.replicate n ()) = .ok (l', out) →
      ∃ effects, run Server.step l.server (List.replicate n .trigger) = .ok (l'.server, effects) ∧
        touches out = effects.filterMap Effect.touch := by
  induction n with
  | zero =>
    intro l l' out _ h
    cases h
    exact ⟨[], rfl, rfl⟩
  | succ n ih =>
    intro l l' out hc h
    rw [List.replicate_succ] at h
    obtain ⟨m, first, later, hfirst, hrest, rfl⟩ := run_cons h
    obtain ⟨effects, hstep, htouches, hc'⟩ := handleDisconnectionList_follows hc hfirst
    obtain ⟨effects', hrun, htouches'⟩ := ih hc' hrest
    refine ⟨effects ++ effects', ?_, ?_⟩
    · rw [List.replicate_succ, run, hstep]
      dsimp only
      rw [hrun]
    · rw [touches_append, List.filterMap_append, htouches, htouches']

end EventLoop

theorem Server.run_alike {acts : List ServerAct} : ∀ {s t s' : Server} {effects : List Effect},
    s.Alike t → run Server.step s acts = .ok (s', effects) →
      ∃ t', run Server.step t acts = .ok (t', effects) ∧ s'.Alike t' := by
  induction acts with
  | nil =>
    intro s t s' effects h hrun
    cases hrun
    exact ⟨t, rfl, h⟩
  | cons act acts ih =>
    intro s t s' effects h hrun
    obtain ⟨m, first, rest, hstep, hrest, rfl⟩ := run_cons hrun
    obtain ⟨m', hstep', halike⟩ := step_alike h hstep
    obtain ⟨t', hrun', halike'⟩ := ih halike hrest
    refine ⟨t', ?_, halike'⟩
    rw [run, hstep']
    dsimp only
    rw [hrun']

namespace EventLoop

theorem follows_run {s : Server} {l l' : EventLoop} {acts : List ServerAct} {out : List LoopEffect}
    {effects : List Effect} (h : l.server.Alike s)
    (hrun : run Server.step l.server acts = .ok (l'.server, effects))
    (hout : touches out = effects.filterMap Effect.touch) : Follows s acts l' out := by
  obtain ⟨s', hs', hsame⟩ := Server.run_alike h hrun
  exact ⟨s', effects, hs', hsame, hout⟩

/-! ## A turn -/

section Turn

variable {l l' : EventLoop} {s : Server} {out : List LoopEffect} {t : Turn} {r : Ready}

theorem read_unconnected {c : Connection} {w : World} {m : Media} {bytes : Octets} {r : ReadResult}
    (h : c.handleRead w m bytes = .ok r) : ∀ e ∈ r.effects, ∀ fd, e ≠ .connected fd := by
  rintro e he fd rfl
  cases Connection.handleRead_outcome h with
  | unhandled media slots sockFd outputBuffer effects =>
    rcases effects with ⟨heq, -⟩ | ⟨heq, -⟩ <;> rw [heq] at he
    · cases he
    · cases List.mem_singleton.mp he
  | handled request buffer handled parsed handler result =>
    subst result
    rcases List.mem_cons.mp he with heq | he
    · cases heq
    rcases List.mem_append.mp he with he | he
    · exact (RtspConnection.handleCmd_keeps handler).effects _ he
    · have heq := List.mem_singleton.mp he
      split at heq <;> cases heq

/-- The callback for reading. -/
theorem handleRead_follows {id sockfd : Nat} {conn : Connection}
    (hconn : l.server.readable sockfd = some conn) (h : l.handleRead id sockfd conn t = .ok (l', out)) :
    ∃ effects, l.server.step (if t.received = [] then .hangup sockfd
        else .read sockfd t.received t.world) = .ok (l'.server, effects) ∧
      touches out = effects.filterMap Effect.touch := by
  unfold handleRead at h
  by_cases hnothing : t.received = []
  · rw [if_pos hnothing] at h ⊢
    cases h
    refine ⟨[.disconnected sockfd], ?_, rfl⟩
    rw [Server.step, hconn]
    rfl
  · rw [if_neg hnothing] at h ⊢
    split at h
    · cases h
    rename_i r hr
    cases h
    refine ⟨r.effects, ?_, ?_⟩
    · rw [Server.step, hconn]
      dsimp only
      rw [if_neg hnothing, Server.handleRead, hr]
      dsimp only
      split <;> rfl
    · have hlast : touches (if r.ok then [] else [.givenUp id]) = [] := by
        split <;> rfl
      rw [← List.singleton_append, touches_append, touches_append, touches_shown,
        touch_readMoves id conn.rtsp r (read_unconnected hr), hlast, List.append_nil]
      rfl

/-- The callback for writing empties a buffer that is empty. -/
theorem handleWrite_alike {id sockfd : Nat} (hr : Registered l.server) :
    (l.handleWrite id sockfd).1.server.Alike l.server ∧ touches (l.handleWrite id sockfd).2 = [] := by
  unfold handleWrite
  split
  · exact ⟨.refl _, rfl⟩
  · rename_i conn hconn
    refine ⟨?_, rfl⟩
    have hempty : { conn with rtsp := { conn.rtsp with outputBuffer := [] } } = conn := by
      have hout := hr.outputBuffer hconn
      rw [← hout]
    rw [hempty]
    exact .same hconn

theorem packets_untouched {packets : List TimedPacket} {s s' : Server} {effects : List Effect}
    (h : run Server.step s (packets.map TimedPacket.act) = .ok (s', effects)) :
    effects.filterMap Effect.touch = [] := by
  refine List.filterMap_eq_nil_iff.mpr ?_
  have hpackets : Meets Server.step (fun _ act => ∃ p : TimedPacket, act = p.act) s
      (packets.map TimedPacket.act) :=
    meets_of_forall fun act hact => by
      obtain ⟨p, -, rfl⟩ := List.mem_map.mp hact
      exact ⟨p, rfl⟩
  refine run_outputs (fun _ => True) (fun e => e.touch = none) ?_ trivial hpackets h
  rintro s act s' out - ⟨p, rfl⟩ hstep
  refine ⟨trivial, fun e he => ?_⟩
  obtain ⟨rtp, i, packet, n, -, -, rfl⟩ := Server.packet_sent hstep e he
  unfold RtpInstance.send
  split <;> rfl

/-- What follows the callback for reading does nothing to the server. -/
theorem afterRead_alike (l : EventLoop) (r : Ready) (id sockfd : Nat) (hr : Registered l.server) :
    (if r.isWrite then l.handleWrite id sockfd else (l, [])).1.server.Alike l.server ∧
      touches ((if r.isWrite then l.handleWrite id sockfd else (l, [])).2 ++
        if r.isError then [.called id] else []) = [] := by
  have hlast : touches (if r.isError then [.called id] else []) = [] := by
    split <;> rfl
  rw [touches_append, hlast, List.append_nil]
  split
  · exact handleWrite_alike hr
  · exact ⟨.refl _, rfl⟩

/-- The callbacks of a connection. -/
theorem handleConnectionEvent_follows {id : Nat} {conn : Connection} (hc : l.Consistent)
    (h : l.server.Alike s) (hconn : l.server.readable r.fd = some conn)
    (hevent : l.handleConnectionEvent id r.fd conn r t = .ok (l', out)) :
    Follows s (if r.isRead then
      [if t.received = [] then .hangup r.fd else .read r.fd t.received t.world] else []) l' out := by
  unfold handleConnectionEvent at hevent
  cases hisRead : r.isRead with
  | false =>
    rw [hisRead] at hevent
    cases hevent
    obtain ⟨halike, htouches⟩ := afterRead_alike l r id r.fd hc.settled.registered
    exact follows_idle (halike.trans h) htouches
  | true =>
    rw [hisRead, if_pos rfl] at hevent
    rw [if_pos rfl]
    split at hevent
    · cases hevent
    rename_i l1 readOut hread
    cases hevent
    obtain ⟨effects, hstep, hout⟩ := handleRead_follows hconn hread
    have hsettled := Server.step_settled hc.settled hstep
    obtain ⟨halike, htouches⟩ := afterRead_alike l1 r id r.fd hsettled.registered
    refine follows_step h hstep halike ((congrArg touches (List.append_assoc _ _ _)).trans ?_)
    refine (touches_append _ _).trans ((congrArg (touches readOut ++ ·) htouches).trans ?_)
    exact (List.append_nil _).trans hout

/-- The body of `EpollEpoller::HandleEvent`. -/
theorem handleEvent_follows (hc : l.Consistent) (h : l.server.Alike s)
    (hopen : r.fd ∉ l.server.disconnectedList)
    (hfresh : l.kernel.descriptors.Fresh (descriptorMoves out))
    (hevent : l.handleEvent r t = .ok (l', out)) : Follows s (l.turnActs r t) l' out := by
  unfold handleEvent at hevent
  unfold turnActs
  cases hcallback : l.eventMap r.fd with
  | none =>
    rw [hcallback] at hevent
    cases hevent
  | some callback =>
    rw [hcallback] at hevent
    cases callback with
    | scheduler =>
      cases hevent
      split <;> exact follows_idle h rfl
    | timerManager =>
      dsimp only at hevent ⊢
      cases hisRead : r.isRead with
      | false =>
        rw [hisRead] at hevent
        cases hevent
        exact follows_idle h rfl
      | true =>
        rw [hisRead, if_pos rfl] at hevent
        rw [if_pos rfl]
        split at hevent
        · cases hevent
        rename_i s1 effects hrun
        cases hevent
        have hfollows : Follows s (t.packets.map TimedPacket.act) { l with server := s1 } [] :=
          follows_run h hrun (packets_untouched hrun).symm
        exact hfollows
    | acceptor =>
      dsimp only at hevent ⊢
      cases hisRead : r.isRead with
      | false =>
        rw [hisRead] at hevent
        cases hevent
        exact follows_idle h rfl
      | true =>
        rw [hisRead, if_pos rfl] at hevent
        rw [if_pos rfl]
        have hevent := Except.ok.inj hevent
        have hclosed : l.kernel.descriptors t.connfd = none := by
          rw [handleNewConnection] at hevent
          obtain ⟨-, rfl⟩ := Prod.mk.inj hevent
          rw [descriptorMoves_append, descriptorMoves_shown] at hfresh
          exact hfresh.1
        rw [hc.handleNewConnection_eq hclosed] at hevent
        cases hevent
        have hnew : t.connfd ∉ l.server.connections := by
          rw [hc.known, (hc.registered_open hclosed).2]
          decide
        exact follows_step h (if_neg hnew) (.refl _) rfl
    | connection id =>
      dsimp only at hevent ⊢
      split at hevent
      · cases hevent
      rename_i conn hconn
      split at hevent
      · have hreadable : l.server.readable r.fd = some conn := (if_neg hopen).trans hconn
        exact handleConnectionEvent_follows hc h hreadable hevent
      · cases hevent

end Turn

/-! ## Every step, and every run -/

/-- A state of the loop and one of the server, with all that was seen. -/
structure Related (l : EventLoop) (log : List LoopEffect) (s : Server) (effects : List Effect) :
    Prop where
  good : Good l log
  alike : l.server.Alike s
  touched : touches log = effects.filterMap Effect.touch

theorem session_follows {l l' : EventLoop} {s : Server} {call : SessionCall}
    {out : List LoopEffect} (hc : l.Consistent) (h : l.server.Alike s)
    (hstep : l.step (.session call) = .ok (l', out)) : Follows s [call.act] l' out := by
  simp only [step] at hstep
  split at hstep
  · cases hstep
  rename_i s1 effects hserver
  cases hstep
  obtain ⟨-, -, -, -, -, hopened⟩ := Server.sessionCall_settled hc.settled hserver
  refine follows_step h hserver (.refl _) ?_
  rw [touches_shown, touch_socketMoves]
  intro e he fd heq
  obtain ⟨fd', hfd'⟩ := hopened e he
  rw [hfd'] at heq
  cases heq

theorem step_follows {l l' : EventLoop} {act : LoopAct} {s : Server} {log out : List LoopEffect}
    (hgood : Good l log) (h : l.server.Alike s) (hok : KernelKeeps l act)
    (hstep : l.step act = .ok (l', out)) : Follows s (l.serverActs act) l' out := by
  obtain ⟨hc, hp, -⟩ := hgood
  have hfresh := hok.2 l' out hstep
  cases act with
  | session call => exact session_follows hc h hstep
  | trigger =>
    simp only [step, serverActs] at hstep ⊢
    cases hcontrol : l.control with
    | triggering =>
      simp only [hcontrol, handleTriggleEvents] at hstep ⊢
      split at hstep
      · cases hstep
      rename_i l1 out1 htriggered
      cases hstep
      split at htriggered
      · cases htriggered
      rename_i l2 out2 hrun
      cases htriggered
      obtain ⟨effects, hserver, htouches⟩ := triggers_follow _ hc hrun
      exact follows_run h hserver htouches
    | polling =>
      simp only [hcontrol] at hstep ⊢
      cases hstep
      exact follows_idle h rfl
    | dispatching rest =>
      simp only [hcontrol] at hstep ⊢
      cases hstep
      exact follows_idle h rfl
  | poll ready =>
    simp only [step] at hstep
    split at hstep <;> cases hstep <;> exact follows_idle h rfl
  | turn t =>
    simp only [step, serverActs] at hstep ⊢
    cases hcontrol : l.control with
    | triggering =>
      simp only [hcontrol] at hstep ⊢
      cases hstep
      exact follows_idle h rfl
    | polling =>
      simp only [hcontrol] at hstep ⊢
      cases hstep
      exact follows_idle h rfl
    | dispatching batch =>
      cases batch with
      | nil =>
        simp only [hcontrol] at hstep ⊢
        cases hstep
        exact follows_idle h rfl
      | cons r rest =>
        obtain ⟨hopen, -⟩ := (hp.batch hcontrol).2 r List.mem_cons_self
        simp only [hcontrol] at hstep ⊢
        split at hstep
        · cases hstep
        rename_i l1 out1 hevent
        cases hstep
        have hfollows : Follows s (l.turnActs r t) l1 out :=
          handleEvent_follows hc h hopen hfresh hevent
        exact hfollows

/-- The actions of the server in a run of the loop. -/
def serverRun (l : EventLoop) (acts : List LoopAct) : List ServerAct :=
  projected step serverActs l acts

/-- **Every run of the loop is a run of the server.** The same descriptors are opened and
closed in the same order, and the server ends in the same state. -/
theorem refines_server (wakeupFd timerFd listenFd : Nat) (acts : List LoopAct)
    (hok : Meets step KernelKeeps (create wakeupFd timerFd listenFd) acts) (l : EventLoop)
    (log : List LoopEffect)
    (hrun : run step (create wakeupFd timerFd listenFd) acts = .ok (l, log)) :
    ∃ s effects,
      run Server.step {} ((create wakeupFd timerFd listenFd).serverRun acts) = .ok (s, effects) ∧
        l.server.Alike s ∧ touches log = effects.filterMap Effect.touch := by
  have hfirst : Related (create wakeupFd timerFd listenFd) [] {} [] := by
    refine ⟨create_good wakeupFd timerFd listenFd, ?_, rfl⟩
    rw [(create_initial wakeupFd timerFd listenFd).server]
    exact .refl _
  obtain ⟨s, effects, hserver, hrelated⟩ := run_simulates serverActs Related
    (fun m act m' log out s effects h hok hstep => by
      obtain ⟨s', effects', hs', halike, htouches⟩ := step_follows h.good h.alike hok hstep
      rcases step_good h.good hok with ⟨fault, hfault⟩ | ⟨m'', out', hstep', hstepped⟩
      · cases hstep.symm.trans hfault
      · cases hstep.symm.trans hstep'
        refine ⟨s', effects', hs', hstepped.good, halike, ?_⟩
        rw [touches_append, List.filterMap_append, h.touched, htouches])
    hfirst hok hrun
  exact ⟨s, effects, hserver, hrelated.alike, hrelated.touched⟩

theorem refines_server_sample : ∃ l log s effects,
    run step (create 3 4 5) (sampleVisit overUdpHeader) = .ok (l, log) ∧
      run Server.step {} ((create 3 4 5).serverRun (sampleVisit overUdpHeader)) = .ok (s, effects) ∧
        l.server.Alike s ∧ touches log = effects.filterMap Effect.touch := by
  have hok : Meets step KernelKeeps (create 3 4 5) (sampleVisit overUdpHeader) :=
    meets_of_checkMeets (fun _ _ => keeps_of_check) (by decide +kernel)
  obtain ⟨l, log, hrun, -⟩ := checkRun_true (show checkRun step (create 3 4 5)
    (sampleVisit overUdpHeader) (fun _ _ => true) = true by decide +kernel)
  obtain ⟨s, effects, hserver, hsame⟩ := refines_server 3 4 5 _ hok l log hrun
  exact ⟨l, log, s, effects, hrun, hserver, hsame⟩

end EventLoop
end MyRtspServer.Net
