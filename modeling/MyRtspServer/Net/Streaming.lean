import MyRtspServer.Net.Registered

/-!
# Streaming and the session state

`HandleCmdPlay` sets the instances of its connection alive, and nothing sets them
back: `HandleCmdPause` and `HandleCmdTeardown` only reply. The requests a
connection has accepted say when it should be streaming; the alive flags agree
with them until a PAUSE or a TEARDOWN is accepted while an instance is alive.
-/
namespace MyRtspServer.Net

open Library Library.Octets Library.Transition

/-! ## The history of a connection -/

/-- The requests each connection has accepted, seen from the effects. -/
def seeAccepted (history : Nat → List Request) : Effect → Nat → List Request
  | .connected fd => Function.update history fd []
  | .accepted fd request => Function.update history fd (history fd ++ [request])
  | _ => history

def acceptedOn (effects : List Effect) : Nat → List Request :=
  effects.foldl seeAccepted fun _ => []

def IsSetup (t : TrackId) (r : Request) : Prop := r.method = .setup ∧ r.trackId = some t

/-- The connection has accepted the SETUP of the track, then a PLAY, and since
then neither PAUSE nor TEARDOWN. A track is set up once, so its SETUP is the one
that made its instance. -/
def Streaming (t : TrackId) (history : List Request) : Prop :=
  ∃ before play after, history = before ++ play :: after ∧ play.method = .play ∧
    (∃ r ∈ before, IsSetup t r) ∧
    ∀ r ∈ after, r.method ≠ .pause ∧ r.method ≠ .teardown ∧ ¬ IsSetup t r

theorem Streaming.concat {t : TrackId} {history : List Request} {r : Request}
    (h : Streaming t history) (hpause : r.method ≠ .pause) (hteardown : r.method ≠ .teardown)
    (hsetup : ¬ IsSetup t r) : Streaming t (history ++ [r]) := by
  obtain ⟨before, play, after, rfl, hplay, hbefore, hafter⟩ := h
  refine ⟨before, play, after ++ [r], by simp, hplay, hbefore, fun q hq => ?_⟩
  rcases List.mem_append.mp hq with hq | hq
  · exact hafter q hq
  · rw [List.mem_singleton.mp hq]
    exact ⟨hpause, hteardown, hsetup⟩

theorem Streaming.play {t : TrackId} {history : List Request} {r : Request}
    (hsetup : ∃ q ∈ history, IsSetup t q) (hplay : r.method = .play) :
    Streaming t (history ++ [r]) :=
  ⟨history, r, [], rfl, hplay, hsetup, fun _ hq => by cases hq⟩

/-- After a PAUSE or a TEARDOWN nothing streams until the next PLAY. -/
theorem not_streaming_of_last {t : TrackId} {history : List Request} {r : Request}
    (hr : r.method = .pause ∨ r.method = .teardown) : ¬ Streaming t (history ++ [r]) := by
  rintro ⟨before, play, after, heq, hplay, -, hafter⟩
  rcases List.eq_nil_or_concat after with rfl | ⟨rest, last, rfl⟩
  · obtain rfl : r = play := List.append_inj_right' heq rfl |> List.singleton_inj.mp
    rw [hplay] at hr
    rcases hr with hr | hr <;> cases hr
  · have hlast : r = last := by
      have heq' : history ++ [r] = (before ++ play :: rest) ++ [last] := by
        rw [heq, List.concat_eq_append, List.append_assoc, List.cons_append]
      exact List.singleton_inj.mp (List.append_inj_right' heq' rfl)
    have hno := hafter last (by simp)
    rw [← hlast] at hno
    exact hr.elim hno.1 hno.2.1

/-- Effects that are in no history. -/
def Unrecorded : Effect → Prop
  | .connected _ | .accepted _ _ => False
  | _ => True

theorem foldl_unrecorded {effects : List Effect} (h : ∀ e ∈ effects, Unrecorded e)
    (history : Nat → List Request) : effects.foldl seeAccepted history = history := by
  induction effects with
  | nil => rfl
  | cons e effects ih =>
    have he : seeAccepted history e = history := by
      have hu := h e List.mem_cons_self
      cases e with
      | connected => cases hu
      | accepted => cases hu
      | _ => rfl
    rw [List.foldl_cons, he]
    exact ih fun e' he' => h e' (List.mem_cons_of_mem _ he')

theorem Teardown.unrecorded {e : Effect} (h : Teardown e) : Unrecorded e := by
  cases e <;> trivial

theorem RtspConnection.FromHandler.unrecorded {c : RtspConnection} {e : Effect}
    (h : FromHandler c e) : Unrecorded e := by
  cases e <;> trivial

/-- The histories after a handled request: it is recorded when it is accepted. -/
def record (history : Nat → List Request) (fd : Nat) (request : Request) (ok : Bool) :
    Nat → List Request :=
  if ok then Function.update history fd (history fd ++ [request]) else history

theorem foldl_handled {c : RtspConnection} {r : Handled} {fd : Nat} {request : Request}
    (h : ∀ e ∈ r.effects, RtspConnection.FromHandler c e) (history : Nat → List Request) :
    (Effect.dispatched fd request :: (r.effects ++
      [if r.ok then .accepted fd request else .disconnected fd])).foldl seeAccepted history =
      record history fd request r.ok := by
  rw [List.foldl_cons, List.foldl_append,
    foldl_unrecorded fun e he => (h e he).unrecorded, record]
  split <;> rfl

section Record

variable {history : Nat → List Request} {fd other : Nat} {request : Request} {ok : Bool}

theorem record_other (h : other ≠ fd) : record history fd request ok other = history other := by
  unfold record
  split
  · exact Function.update_of_ne h _ _
  · rfl

theorem record_accepted (h : ok = true) :
    record history fd request ok fd = history fd ++ [request] := by
  rw [record, if_pos h, Function.update_self]

theorem record_refused (h : ¬ ok = true) : record history fd request ok = history := by
  rw [record, if_neg h]

theorem mem_record {q : Request} (h : q ∈ history other) :
    q ∈ record history fd request ok other := by
  by_cases hfd : other = fd
  · subst hfd
    by_cases hok : ok = true
    · rw [record_accepted hok]
      exact List.mem_append_left _ h
    · rw [record_refused hok]
      exact h
  · rw [record_other hfd]
    exact h

end Record

/-! ## Sending -/

/-- The instance a packet is handed to. -/
def Effect.handedTo : Effect → Option Nat
  | .frame _ rtp _ _ | .datagram _ rtp _ _ _ => some rtp
  | _ => none

theorem send_handedTo (i : RtpInstance) (rtp : Nat) (p : MediaPacket) (answer : WriteAnswer) :
    (i.send rtp p answer).2.handedTo = some rtp := by
  unfold RtpInstance.send
  split <;> rfl

/-- `SendPacket` sends to live instances of the list, and does nothing else. -/
theorem sendPacket_sent {instances : AList fun _ : Nat => RtpInstance} {answers : Nat → WriteAnswer}
    {rtps : List Nat} : ∀ {position : Nat} {packet : MediaPacket} {effects : List Effect},
      sendPacket instances answers rtps position packet = .ok effects →
      ∀ e ∈ effects, ∃ rtp i p n, rtp ∈ rtps ∧ instances.lookup rtp = some i ∧ i.isAlive = true ∧
        e = (i.send rtp p (answers n)).2 := by
  induction rtps with
  | nil =>
    intro position packet effects h e he
    cases h
    cases he
  | cons rtp rest ih =>
    intro position packet effects h e he
    rw [sendPacket] at h
    split at h
    · cases h
    rename_i i hi
    split at h
    · rename_i halive
      dsimp only at h
      split at h
      · cases h
      rename_i later hlater
      cases h
      rcases List.mem_cons.mp he with rfl | he
      · exact ⟨rtp, i, packet, position, List.mem_cons_self, hi, halive, rfl⟩
      · obtain ⟨a, j, p, n, ha, hj⟩ := ih hlater e he
        exact ⟨a, j, p, n, List.mem_cons_of_mem _ ha, hj⟩
    · obtain ⟨a, j, p, n, ha, hj⟩ := ih h e he
      exact ⟨a, j, p, n, List.mem_cons_of_mem _ ha, hj⟩

theorem Server.packet_sent {s s' : Server} {name : Octets} {track : TrackId} {packet : MediaPacket}
    {answers : Nat → WriteAnswer} {sent : List Effect}
    (h : s.step (.packet name track packet answers) = .ok (s', sent)) :
    ∀ e ∈ sent, ∃ rtp i p n, s.media.rtpInstances.lookup rtp = some i ∧
      i.isAlive = true ∧ e = (i.send rtp p (answers n)).2 := by
  intro e he
  cases step_outcome h with
  | ignored => cases he
  | packet name track packet answers session effects registered hsend =>
    obtain ⟨rtp, i, p, n, -, hi⟩ := sendPacket_sent hsend e he
    exact ⟨rtp, i, p, n, hi⟩

/-! ## The invariant -/

/-- A SETUP is refused when its track has an instance. -/
theorem handleCmdSetup_ok_free {w : World} {m : Media} {c : RtspConnection} {r : Handled}
    {t : TrackId} (h : RtspConnection.handleCmdSetup w m c = .ok r) (hok : r.ok = true)
    (ht : c.request.trackId = some t) : c.rtpInstances t = none := by
  cases RtspConnection.handleCmdSetup_outcome h with
  | refused => cases hok
  | multicast session track port slot free =>
    obtain rfl : t = track := Option.some.inj (ht.symm.trans slot)
    exact free
  | overTcp name session track registered slot free =>
    obtain rfl : t = track := Option.some.inj (ht.symm.trans slot)
    exact free
  | overUdp name session track registered slot free =>
    obtain rfl : t = track := Option.some.inj (ht.symm.trans slot)
    exact free

theorem handleCmd_setup_free {w : World} {m : Media} {c : RtspConnection} {r : Handled}
    {t : TrackId} (h : RtspConnection.handleCmd w m c = .ok r) (hok : r.ok = true)
    (ht : IsSetup t c.request) : c.rtpInstances t = none := by
  unfold RtspConnection.handleCmd at h
  rw [ht.1] at h
  exact handleCmdSetup_ok_free h hok ht.2

/-- What the slots and the alive flags say about the histories. -/
structure Watched (s : Server) (history : Nat → List Request) : Prop where
  asked : ∀ {fd t a}, s.slotOf fd t = some a →
    fd ∈ s.disconnectedList ∨ ∃ r ∈ history fd, IsSetup t r
  alive : ∀ {fd t a i}, s.slotOf fd t = some a → s.media.rtpInstances.lookup a = some i →
    i.isAlive = true → Streaming t (history fd)

theorem watched_empty : Watched {} fun _ => [] := by
  constructor
  · intro fd t a h
    cases h
  · intro fd t a i h
    cases h

namespace Watched

variable {s s' : Server} {history : Nat → List Request}

/-- Nothing happens to a connection or to its instances. -/
theorem same (h : Watched s history) (hslots : s'.slotOf = s.slotOf)
    (hheap : ∀ {fd t a}, s.slotOf fd t = some a →
      s'.media.rtpInstances.lookup a = s.media.rtpInstances.lookup a)
    (hlist : ∀ fd ∈ s.disconnectedList, fd ∈ s'.disconnectedList) : Watched s' history := by
  constructor
  · intro fd t a hs
    rw [hslots] at hs
    exact (h.asked hs).imp_left (hlist fd)
  · intro fd t a i hs hi
    rw [hslots] at hs
    rw [hheap hs] at hi
    exact h.alive hs hi

/-- A new connection has no instances and no history. -/
theorem accept (h : Watched s history) (connfd : Nat) (peer : Accepted) :
    Watched (s.handleNewConnection connfd peer) (Function.update history connfd []) := by
  have hslots : ∀ {fd t a}, (s.handleNewConnection connfd peer).slotOf fd t = some a →
      fd ≠ connfd ∧ s.slotOf fd t = some a := by
    intro fd t a hs
    rw [Server.handleNewConnection, Server.slotOf_insert] at hs
    split at hs
    · cases hs
    · exact ⟨‹_›, hs⟩
  constructor
  · intro fd t a hs
    obtain ⟨hne, hold⟩ := hslots hs
    rw [Function.update_of_ne hne]
    exact h.asked hold
  · intro fd t a i hs hi hi'
    obtain ⟨hne, hold⟩ := hslots hs
    rw [Function.update_of_ne hne]
    exact h.alive hold hi hi'

end Watched

/-- A PAUSE or TEARDOWN that is going to be answered finds no live instance. -/
def PausesIdle (s : Server) : ServerAct → Prop
  | .read sockfd bytes w => ∀ conn request, s.readable sockfd = some conn →
      conn.nextRequest bytes = some request →
      (request.method = .pause ∨ request.method = .teardown) → w.answer.isSome →
      ∀ t a i, conn.rtsp.rtpInstances t = some a → s.media.rtpInstances.lookup a = some i →
        i.isAlive = false
  | _ => True

namespace Server

section Handled

variable {s : Server} {history : Nat → List Request} {sockfd : Nat} {conn : Connection}
variable {request : Request} {w : World} {r : Handled}

/-- An instance that was alive keeps streaming. -/
theorem handled_still (h : Watched s history) (hconn : s.connections.lookup sockfd = some conn)
    (hhandler : RtspConnection.handleCmd w s.media { conn.rtsp with request := request } = .ok r)
    (hidle : r.ok = true → (request.method = .pause ∨ request.method = .teardown) →
      ∀ t a i, conn.rtsp.rtpInstances t = some a → s.media.rtpInstances.lookup a = some i →
        i.isAlive = false)
    {fd a : Nat} {t : TrackId} {i : RtpInstance} (hs : s.slotOf fd t = some a)
    (hi : s.media.rtpInstances.lookup a = some i) (halive : i.isAlive = true) :
    Streaming t (record history sockfd request r.ok fd) := by
  have hold := h.alive hs hi halive
  by_cases hfd : fd = sockfd
  · subst hfd
    rw [slotOf_of_lookup hconn] at hs
    by_cases hok : r.ok = true
    · rw [record_accepted hok]
      have hlive : ¬ i.isAlive = false := by rw [halive]; decide
      refine hold.concat ?_ ?_ ?_
      · exact fun hpause => hlive (hidle hok (Or.inl hpause) t a i hs hi)
      · exact fun hteardown => hlive (hidle hok (Or.inr hteardown) t a i hs hi)
      · intro hsetup
        have hfree := handleCmd_setup_free hhandler hok hsetup
        rw [hs] at hfree
        cases hfree
    · rw [record_refused hok]
      exact hold
  · rw [record_other hfd]
    exact hold

/-- The server after a handled request. -/
def afterHandled (s : Server) (sockfd : Nat) (r : Handled) (buffer : Octets) : Server :=
  ⟨r.media, s.connections.insert sockfd ⟨r.conn, buffer⟩,
    if r.ok then s.disconnectedList else s.disconnectedList ++ [sockfd]⟩

/-- After a SETUP one slot is new, and the others are as they were. -/
theorem afterHandled_slot {track t : TrackId} {rtp fd a : Nat} {buffer : Octets}
    (hconn : s.connections.lookup sockfd = some conn)
    (hslots : r.conn.rtpInstances = Function.update conn.rtsp.rtpInstances track (some rtp))
    (hs : (s.afterHandled sockfd r buffer).slotOf fd t = some a) :
    (fd = sockfd ∧ t = track ∧ a = rtp) ∨ s.slotOf fd t = some a := by
  rw [afterHandled, slotOf_insert] at hs
  split at hs
  · rename_i hfd
    rw [hslots, Function.update_apply] at hs
    split at hs
    · exact Or.inl ⟨hfd, ‹_›, (Option.some.inj hs).symm⟩
    · refine Or.inr ?_
      rw [hfd, slotOf_of_lookup hconn]
      exact hs
  · exact Or.inr hs

theorem handled_asked (h : Watched s history) {fd a : Nat} {t : TrackId} {buffer : Octets}
    (hs : s.slotOf fd t = some a) : fd ∈ (s.afterHandled sockfd r buffer).disconnectedList ∨
      ∃ q ∈ record history sockfd request r.ok fd, IsSetup t q := by
  rcases h.asked hs with hfd | ⟨q, hq, hsetup⟩
  · refine Or.inl ?_
    unfold afterHandled
    dsimp only
    split
    · exact hfd
    · exact List.mem_append_left _ hfd
  · exact Or.inr ⟨q, mem_record hq, hsetup⟩

/-- **A handled request keeps the invariant**, whichever handler it is. -/
theorem handled_watched (h : Watched s history) (ho : Ownership s.slotOf s.media)
    (hconn : s.connections.lookup sockfd = some conn) (hopen : sockfd ∉ s.disconnectedList)
    (hhandler : RtspConnection.handleCmd w s.media { conn.rtsp with request := request } = .ok r)
    (hidle : r.ok = true → (request.method = .pause ∨ request.method = .teardown) →
      ∀ t a i, conn.rtsp.rtpInstances t = some a → s.media.rtpInstances.lookup a = some i →
        i.isAlive = false) (buffer : Octets) :
    Watched (s.afterHandled sockfd r buffer) (record history sockfd request r.ok) := by
  have hslots := slotOf_of_lookup hconn
  cases RtspConnection.handleCmd_change hhandler with
  | quiet slots heap tracks multicast =>
    have hsame : (s.afterHandled sockfd r buffer).slotOf = s.slotOf := slotOf_insert_same hconn slots
    constructor
    · intro fd t a hs
      exact handled_asked h (hsame ▸ hs)
    · intro fd t a i hs hi
      exact handled_still h hconn hhandler hidle (hsame ▸ hs) (heap ▸ hi)
  | setup track rtp i name asked free fresh idle slots heap tracks multicast =>
    constructor
    · intro fd t a hs
      rcases afterHandled_slot hconn slots hs with ⟨rfl, rfl, rfl⟩ | hold
      · by_cases hok : r.ok = true
        · refine Or.inr ⟨request, ?_, asked⟩
          rw [record_accepted hok]
          exact List.mem_append_right _ (List.mem_singleton_self _)
        · refine Or.inl ?_
          rw [afterHandled, if_neg hok]
          exact List.mem_append_right _ (List.mem_singleton_self _)
      · exact handled_asked h hold
    · intro fd t a j hs hj halive
      change r.media.rtpInstances.lookup a = some j at hj
      rw [heap] at hj
      rcases afterHandled_slot hconn slots hs with ⟨rfl, rfl, rfl⟩ | hold
      · rw [AList.lookup_insert] at hj
        cases hj
        rw [idle] at halive
        cases halive
      · have hne : a ≠ rtp := fun heq => fresh (heq ▸ ho.slotsLive hold)
        rw [AList.lookup_insert_ne hne] at hj
        exact handled_still h hconn hhandler hidle hold hj halive
  | play asked ok slots heap tracks multicast =>
    have hsame : (s.afterHandled sockfd r buffer).slotOf = s.slotOf := slotOf_insert_same hconn slots
    constructor
    · intro fd t a hs
      exact handled_asked h (hsame ▸ hs)
    · intro fd t a i hs hi halive
      rw [hsame] at hs
      by_cases hfd : fd = sockfd
      · subst hfd
        rw [record_accepted ok]
        exact Streaming.play ((h.asked hs).resolve_left hopen) asked
      · change r.media.rtpInstances.lookup a = some i at hi
        have hapart : ∀ t', conn.rtsp.rtpInstances t' ≠ some a := by
          intro t' hslot
          exact hfd (ho.slotsApart hs ((congrFun hslots t').trans hslot)).1
        rw [heap, Option.map_eq_some_iff] at hi
        obtain ⟨j, hj, heq⟩ := hi
        rw [if_neg (not_or.mpr ⟨hapart 0, hapart 1⟩)] at heq
        exact handled_still h hconn hhandler hidle hs (heq ▸ hj) halive

end Handled

/-- PAUSE and TEARDOWN are accepted when their reply can be sent. -/
theorem handleCmd_pause_ok {s : Server} {w : World} {c : RtspConnection} {r : Handled}
    (h : RtspConnection.handleCmd w s.media c = .ok r) (hok : r.ok = true)
    (hmethod : c.request.method = .pause ∨ c.request.method = .teardown) : w.answer.isSome := by
  unfold RtspConnection.handleCmd at h
  rcases hmethod with hmethod | hmethod <;> rw [hmethod] at h <;> cases h <;> exact hok

/-- What a read without a handler shows. -/
theorem unhandled_unrecorded {r : ReadResult} {fd : Nat}
    (h : (r.effects = [] ∧ r.ok = true) ∨ (r.effects = [.disconnected fd] ∧ r.ok = false)) :
    ∀ e ∈ r.effects, Unrecorded e := by
  intro e he
  rcases h with ⟨heq, -⟩ | ⟨heq, -⟩ <;> rw [heq] at he
  · cases he
  · rw [List.mem_singleton.mp he]
    trivial

theorem handleRead_watched {s : Server} {history : Nat → List Request} {sockfd : Nat}
    {conn : Connection} {bytes : Octets} {w : World} {r : ReadResult}
    (h : Watched s history) (ho : Ownership s.slotOf s.media) (hr : Registered s)
    (hconn : s.readable sockfd = some conn) (hidle : PausesIdle s (.read sockfd bytes w))
    (hread : Connection.ReadOutcome w s.media conn bytes r) :
    Watched (s.afterRead sockfd r) (r.effects.foldl seeAccepted history) := by
  obtain ⟨hlookup, hopen⟩ := readable_some hconn
  cases hread with
  | unhandled media slots sockFd outputBuffer effects =>
    rw [foldl_unrecorded (unhandled_unrecorded effects)]
    refine h.same (slotOf_insert_same hlookup slots) (fun _ => by rw [afterRead, media])
      fun fd hfd => ?_
    unfold afterRead
    dsimp only
    split
    · exact hfd
    · exact List.mem_append_left _ hfd
  | handled request buffer handled parsed handler result =>
    subst result
    have hfd := hr.sockFd hlookup
    rw [hfd, foldl_handled (RtspConnection.handleCmd_keeps handler).effects]
    refine handled_watched h ho hlookup hopen handler (fun hok hmethod => ?_) buffer
    exact hidle conn request hconn parsed hmethod (handleCmd_pause_ok handler hok hmethod)

theorem trigger_watched {s s' : Server} {history : Nat → List Request} {effects : List Effect}
    (h : Watched s history) (ho : Ownership s.slotOf s.media)
    (hd : s.destroyAll s.disconnectedList = .ok (s', effects)) :
    Watched { s' with disconnectedList := [] } (effects.foldl seeAccepted history) := by
  rw [foldl_unrecorded fun e he => (destroyAll_teardown hd e he).unrecorded]
  have hgone : ∀ {fd t a}, s'.slotOf fd t = some a → fd ∉ s.disconnectedList := by
    intro fd t a hs hfd
    have hlookup := destroyAll_connections hd fd
    rw [if_pos hfd] at hlookup
    rw [slotOf, hlookup] at hs
    cases hs
  constructor
  · intro fd t a hs
    obtain ⟨hold, -⟩ := destroyAll_heap ho hd hs
    exact Or.inr ((h.asked hold).resolve_left (hgone hs))
  · intro fd t a i hs hi halive
    obtain ⟨hold, hheap⟩ := destroyAll_heap ho hd hs
    exact h.alive hold (hheap ▸ hi) halive

theorem sendPacket_unrecorded {instances : AList fun _ : Nat => RtpInstance}
    {answers : Nat → WriteAnswer} {rtps : List Nat} {k : Nat} {packet : MediaPacket}
    {effects : List Effect} (h : sendPacket instances answers rtps k packet = .ok effects) :
    ∀ e ∈ effects, Unrecorded e := by
  intro e he
  obtain ⟨rtp, i, p, n, -, -, -, rfl⟩ := sendPacket_sent h e he
  have hhanded := send_handedTo i rtp p (answers n)
  revert hhanded
  cases (i.send rtp p (answers n)).2 <;> intro hhanded <;> trivial

/-- **The step lemma**: every admissible action keeps the invariant. -/
theorem step_watched {s s' : Server} {history : Nat → List Request} {act : ServerAct}
    {effects : List Effect} (h : Watched s history) (ho : Ownership s.slotOf s.media)
    (hr : Registered s) (hidle : PausesIdle s act) (hstep : s.step act = .ok (s', effects)) :
    Watched s' (effects.foldl seeAccepted history) := by
  cases step_outcome hstep with
  | ignored => exact h
  | session name =>
    refine h.same rfl (fun _ => ?_) fun _ => id
    unfold Media.addMediaSession
    split <;> rfl
  | sink name track sink =>
    refine h.same rfl (fun _ => ?_) fun _ => id
    unfold Media.addRtpSink
    split <;> rfl
  | multicast name w m effects started =>
    rw [foldl_unrecorded fun e he => by obtain ⟨fd, rfl⟩ := started.all_opened e he; trivial]
    exact h.same rfl (fun hs => started.lookup (ho.slotsLive hs)) fun _ => id
  | accept connfd peer new => exact h.accept connfd peer
  | read sockfd bytes w conn r reported outcome =>
    exact handleRead_watched h ho hr reported hidle outcome
  | hangup => exact h.same rfl (fun _ => rfl) fun fd hfd => List.mem_append_left _ hfd
  | trigger s'' effects destroyed => exact trigger_watched h ho destroyed
  | packet name track packet answers session effects registered sent =>
    rw [foldl_unrecorded (sendPacket_unrecorded sent)]
    exact h

/-! ## Runs -/

/-- **The run lemma**: the histories an observer of the run keeps agree with the
slots and the alive flags. -/
theorem run_watched {acts : List ServerAct} {s : Server} {effects : List Effect}
    (hidle : Meets step PausesIdle {} acts) (hrun : run step {} acts = .ok (s, effects)) :
    Watched s (acceptedOn effects) := by
  let inv : Server × (Nat → List Request) → Prop := fun p =>
    Watched p.1 p.2 ∧ Ownership p.1.slotOf p.1.media ∧ Registered p.1
  have hkept : ∀ p act q out, inv p → PausesIdle p.1 act →
      watch seeAccepted step p act = .ok (q, out) → inv q := by
    intro ⟨s, history⟩ act ⟨s', history'⟩ out ⟨hwatched, ho, hr⟩ hok hwatch
    obtain ⟨hstep, rfl⟩ := watch_step hwatch
    exact ⟨step_watched hwatched ho hr hok hstep, step_ownership ho hstep,
      step_registered hr hstep⟩
  exact (run_invariant inv hkept ⟨watched_empty, ownership_empty, registered_empty⟩
    (meets_watch (fun _ => []) hidle) (run_watch (fun _ => []) hrun)).1

/-- Whatever is sent next goes to instances whose connection should be streaming. -/
def StreamsAsAsked (s : Server) (effects : List Effect) : Prop :=
  ∀ name track packet answers s' sent, s.step (.packet name track packet answers) = .ok (s', sent) →
    ∀ e ∈ sent, ∀ rtp, e.handedTo = some rtp → ∀ fd t, s.slotOf fd t = some rtp →
      Streaming t (acceptedOn effects fd)

/-- **Streaming follows the session state** at every point of every run in which
PAUSE and TEARDOWN are only accepted while nothing of the connection is alive. -/
theorem streams_as_asked (acts : List ServerAct) (hidle : Meets step PausesIdle {} acts)
    (s : Server) (effects : List Effect) (hrun : run step {} acts = .ok (s, effects)) :
    StreamsAsAsked s effects := by
  intro name track packet answers s' sent hstep e he rtp hhanded fd t hslot
  obtain ⟨a, i, p, n, hi, halive, rfl⟩ := packet_sent hstep e he
  rw [send_handedTo] at hhanded
  cases hhanded
  exact (run_watched hidle hrun).alive hslot hi halive

/-- `PausesIdle`, as a test. -/
def pausesIdle (s : Server) : ServerAct → Bool
  | .read sockfd bytes w =>
    match s.readable sockfd with
    | none => true
    | some conn =>
      match conn.nextRequest bytes with
      | none => true
      | some request =>
        decide ((request.method = .pause ∨ request.method = .teardown) → w.answer.isSome →
          ∀ t, ∀ a ∈ conn.rtsp.rtpInstances t, ∀ i ∈ s.media.rtpInstances.lookup a,
            i.isAlive = false)
  | _ => true

theorem pausesIdle_test (s : Server) (act : ServerAct) (h : pausesIdle s act = true) :
    PausesIdle s act := by
  cases act with
  | read sockfd bytes w =>
    intro conn request hconn hrequest hmethod hanswer t a i hslot hi
    simp only [pausesIdle, hconn, hrequest] at h
    exact of_decide_eq_true h hmethod hanswer t a hslot i hi
  | _ => trivial

theorem streams_as_asked_sample :
    ∃ s effects, run step {} samplePlay = .ok (s, effects) ∧ StreamsAsAsked s effects := by
  have hmeets : Meets step PausesIdle {} samplePlay :=
    meets_of_checkMeets pausesIdle_test (by decide +kernel)
  obtain ⟨s, effects, hrun, -⟩ := checkRun_true
    (show checkRun step {} samplePlay (fun _ _ => true) = true by decide +kernel)
  exact ⟨s, effects, hrun, streams_as_asked _ hmeets s effects hrun⟩

/-- A PAUSE after the PLAY is accepted, and the next packet is sent all the same. -/
theorem paused_client_streams :
    ∃ s effects, run step {} (samplePlay ++ [sampleRequest "PAUSE rtsp://h/a" ""]) =
      .ok (s, effects) ∧ ¬ StreamsAsAsked s effects := by
  obtain ⟨s, effects, hrun, hcheck⟩ := checkRun_true
    (show checkRun step {} (samplePlay ++ [sampleRequest "PAUSE rtsp://h/a" ""])
      (fun s effects => decide (s.slotOf 7 0 = some 64) &&
        decide ((acceptedOn effects 7).getLast?.map Request.method = some .pause) &&
        checkRun step s [samplePacketAct (some 4096)] fun _ sent =>
          sent.any fun e => e.handedTo = some 64) = true by decide +kernel)
  simp only [Bool.and_eq_true, decide_eq_true_eq] at hcheck
  obtain ⟨⟨hslot, hlast⟩, hpacket⟩ := hcheck
  refine ⟨s, effects, hrun, fun h => ?_⟩
  obtain ⟨s', sent, hsent, hany⟩ := checkRun_true hpacket
  obtain ⟨m, first, rest, hstep, hnil, rfl⟩ := run_cons hsent
  cases hnil
  rw [List.append_nil] at hany
  obtain ⟨e, he, hhanded⟩ := List.any_eq_true.mp hany
  have hstreams := h _ _ _ _ _ _ hstep e he 64 (of_decide_eq_true hhanded) 7 0 hslot
  obtain ⟨r, hr, hmethod⟩ := Option.map_eq_some_iff.mp hlast
  obtain ⟨before, hhistory⟩ := List.getLast?_eq_some_iff.mp hr
  rw [hhistory] at hstreams
  exact not_streaming_of_last (Or.inl hmethod) hstreams

end Server
end MyRtspServer.Net
