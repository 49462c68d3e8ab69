import MyRtspServer.Net.DeferredDestruction

/-!
# When `accept` fails

Nobody looks at the descriptor `accept` returns. `Sockets::Accept`, the acceptor,
the server and the constructor of the connection hand -1 on, so a connection is
made for it; the maps take -1 as a key, and only the kernel refuses it. The loop
is the one of `EventLoop`, beside what the maps keep under -1.
-/
namespace MyRtspServer.Net

open Library Library.Transition Library.Descriptors

/-- What `m_connections_` and `m_event_map_` have under -1; everything else is in
`loop`. `epoll_wait` never reports -1, so nothing here is ever called. -/
structure AcceptLoop where
  loop : EventLoop
  badConnection : Option Nat := none
  badEvent : Option Callback := none

/-- An act of the loop in which `accept`, if it is called, returns a descriptor, or
a turn in which it returns -1. -/
inductive AcceptAct where
  | accepts (act : LoopAct)
  | acceptFails (t : Turn)

/-- The act of the loop alone. -/
def AcceptAct.inner : AcceptAct → LoopAct
  | .accepts act => act
  | .acceptFails t => .turn t

namespace AcceptLoop

def create (wakeupFd timerFd listenFd : Nat) : AcceptLoop :=
  { loop := EventLoop.create wakeupFd timerFd listenFd }

/-- `m_connections_`. -/
def connections (s : AcceptLoop) : Int → Option Nat
  | .ofNat fd => s.loop.ids fd
  | .negSucc 0 => s.badConnection
  | .negSucc (_ + 1) => none

/-- `m_event_map_`. -/
def eventMap (s : AcceptLoop) : Int → Option Callback
  | .ofNat fd => s.loop.eventMap fd
  | .negSucc 0 => s.badEvent
  | .negSucc (_ + 1) => none

/-- `UpdateIOEvent` of an event with descriptor -1: `epoll_ctl` fails, whatever it
is asked to do. -/
def updateIOEvent (s : AcceptLoop) (callback : Callback) : AcceptLoop :=
  match s.badEvent with
  | none => { s with badEvent := some callback }
  | some _ => s

/-- `HandleNewConnection(-1)`. `insert` leaves a connection that is there already. -/
def handleNewConnection (s : AcceptLoop) : AcceptLoop × List LoopEffect :=
  let id := s.loop.nextId
  let registered :=
    { s with loop := { s.loop with nextId := id + 1 } }.updateIOEvent (.connection id)
  let inserted := match s.badConnection with
    | some _ => registered
    | none => { registered with badConnection := some id }
  (inserted, [.created id])

/-- An act in which `accept` does not fail. -/
def stepAccepting (s : AcceptLoop) (act : LoopAct) :
    Except LoopFault (AcceptLoop × List LoopEffect) :=
  match s.loop.step act with
  | .error e => .error e
  | .ok (l, out) => .ok ({ s with loop := l }, out)

/-- One step. `accept` is called in the turn of the acceptor, when it can be read. -/
def step (s : AcceptLoop) : AcceptAct → Except LoopFault (AcceptLoop × List LoopEffect)
  | .accepts act => s.stepAccepting act
  | .acceptFails t =>
    match s.loop.control with
    | .dispatching (r :: rest) =>
      if s.loop.eventMap r.fd = some .acceptor ∧ r.isRead = true then
        let (s, out) := s.handleNewConnection
        .ok ({ s with loop := { s.loop with control := EventLoop.dispatchingOf rest } }, out)
      else s.stepAccepting (.turn t)
    | _ => s.stepAccepting (.turn t)

/-- `accept` is called in this step, and fails. -/
def AcceptFails (s : AcceptLoop) (act : AcceptAct) : Prop :=
  ∃ t r rest, act = .acceptFails t ∧ s.loop.control = .dispatching (r :: rest) ∧
    s.loop.eventMap r.fd = some .acceptor ∧ r.isRead = true

/-- What the kernel promises, as it does of `EventLoop`. -/
def KernelKeeps (s : AcceptLoop) (act : AcceptAct) : Prop :=
  (∀ ready, act = .accepts (.poll ready) →
    (ready.map Ready.fd).Nodup ∧ ∀ r ∈ ready, s.loop.kernel.interest r.fd = true) ∧
  ∀ s' out, s.step act = .ok (s', out) → s.loop.kernel.descriptors.Fresh (descriptorMoves out)

/-! ## What is asked of a failed `accept` -/

/-- No connection is made, and neither map nor what `epoll_wait` watches changes. -/
structure NothingChanged (s s' : AcceptLoop) (out : List LoopEffect) : Prop where
  created : ∀ id, .created id ∉ out
  connections : s'.connections = s.connections
  eventMap : s'.eventMap = s.eventMap
  interest : s'.loop.kernel.interest = s.loop.kernel.interest

/-- A descriptor that is open. -/
def Valid (s : AcceptLoop) (key : Int) : Prop :=
  ∃ fd : Nat, key = fd ∧ (s.loop.kernel.descriptors fd).isSome = true

/-- An object that was made and not destroyed since. -/
def Alive (s : AcceptLoop) (log : List LoopEffect) (id : Nat) : Prop :=
  id < s.loop.nextId ∧ .destroyed id ∉ log

/-- Every key is an open descriptor, and every living connection can be found. -/
structure WellKept (s : AcceptLoop) (log : List LoopEffect) : Prop where
  connections : ∀ {key id}, s.connections key = some id → s.Valid key
  eventMap : ∀ {key callback}, s.eventMap key = some callback → s.Valid key
  reachable : ∀ {id}, s.Alive log id → ∃ key, s.connections key = some id

/-! ## The loop alone -/

/-- Every object made so far is in `m_connections_`, or was destroyed. -/
def Listed (l : EventLoop) (log : List LoopEffect) : Prop :=
  ∀ id < l.nextId, (∃ fd, l.ids fd = some id) ∨ .destroyed id ∈ log

theorem Listed.mono {l l' : EventLoop} {log : List LoopEffect} (h : Listed l log)
    (hnext : l'.nextId = l.nextId) (hids : l'.ids = l.ids) (out : List LoopEffect) :
    Listed l' (log ++ out) := by
  intro id hid
  rw [hids]
  exact (h id (hnext ▸ hid)).imp_right fun hin => List.mem_append_left _ hin

theorem Listed.turned {l l' : EventLoop} {log out : List LoopEffect} {sockfd : Nat}
    (h : Listed l log) (ht : EventLoop.Turned l sockfd l' out) : Listed l' (log ++ out) := by
  cases ht with
  | idle idle => exact h.mono idle.nextId idle.ids out
  | called id gaveUp called => exact h.mono called.nextId called.ids out
  | accepted connfd new ids nextId =>
    intro id hid
    rw [nextId] at hid
    rw [ids]
    by_cases hnew : id = l.nextId
    · exact Or.inl ⟨connfd, by rw [Function.update_self, hnew]⟩
    · rcases h id (by omega) with ⟨fd, hfd⟩ | hgone
      · have hne : fd ≠ connfd := fun heq => by
          rw [heq, new] at hfd
          cases hfd
        exact Or.inl ⟨fd, by rwa [Function.update_of_ne hne]⟩
      · exact Or.inr (List.mem_append_left _ hgone)

/-- The trigger phase takes out of the map what it destroys, and nothing else. -/
theorem Listed.swept {l l' : EventLoop} {log out : List LoopEffect} (h : Listed l log)
    (hg : EventLoop.Good l log) (hs : EventLoop.Swept l l' log out)
    (hnext : l'.nextId = l.nextId) : Listed l' (log ++ out) := by
  intro id hid
  rcases h id (hnext ▸ hid) with ⟨fd, hfd⟩ | hgone
  · by_cases hnoted : fd ∈ l.server.disconnectedList
    · right
      have hgivenUp : .givenUp id ∈ log := by
        have hcount := (hg.recorded.live hfd).2
        rw [if_pos hnoted] at hcount
        exact List.count_pos_iff.mp (by omega)
      have hone := hs.recorded.swept hs.list (List.mem_append_left out hgivenUp)
      exact List.count_pos_iff.mp (by omega)
    · exact Or.inl ⟨fd, by rw [hs.ids, if_neg hnoted, hfd]⟩
  · exact Or.inr (List.mem_append_left _ hgone)

theorem destroyConnection_nextId {l l' : EventLoop} {fd : Nat} {out : List LoopEffect}
    (h : l.destroyConnection fd = .ok (l', out)) : l'.nextId = l.nextId := by
  unfold EventLoop.destroyConnection at h
  split at h
  · split at h
    · cases h
    · cases h
      unfold EventLoop.removeIOEvent
      dsimp only
      split <;> rfl
  · cases h

theorem handleDisconnectionList_nextId {l l' : EventLoop} {out : List LoopEffect}
    (h : l.handleDisconnectionList = .ok (l', out)) : l'.nextId = l.nextId := by
  unfold EventLoop.handleDisconnectionList at h
  split at h
  · cases h
  · rename_i m seen hrun
    have hkept : m.nextId = l.nextId := run_invariant (fun m : EventLoop => m.nextId = l.nextId)
      (fun _ _ _ _ hm _ hstep => (destroyConnection_nextId hstep).trans hm) rfl meets_true hrun
    cases h
    exact hkept

theorem handleTriggleEvents_nextId {l l' : EventLoop} {out : List LoopEffect}
    (h : l.handleTriggleEvents = .ok (l', out)) : l'.nextId = l.nextId := by
  unfold EventLoop.handleTriggleEvents at h
  split at h
  · cases h
  · rename_i m seen hrun
    have hkept : m.nextId = l.nextId := run_invariant (fun m : EventLoop => m.nextId = l.nextId)
      (fun _ _ _ _ hm _ hstep => (handleDisconnectionList_nextId hstep).trans hm) rfl meets_true
      hrun
    cases h
    exact hkept

/-- **Every act of the loop keeps its objects listed.** -/
theorem Listed.step {l l' : EventLoop} {log out : List LoopEffect} {act : LoopAct}
    (h : Listed l log) (hg : EventLoop.Good l log) (hok : EventLoop.KernelKeeps l act)
    (hstep : l.step act = .ok (l', out)) : Listed l' (log ++ out) := by
  have hfresh := hok.2
  cases act with
  | session call =>
    rcases EventLoop.session_idle hg.consistent hfresh with ⟨fault, hfault⟩ |
      ⟨m, seen, hm, -, hidle, -⟩
    · rw [hstep] at hfault
      cases hfault
    · cases hstep.symm.trans hm
      exact h.mono hidle.nextId hidle.ids out
  | trigger =>
    simp only [EventLoop.step] at hstep
    split at hstep
    · obtain ⟨m, seen, htrigger, hswept, -⟩ :=
        EventLoop.handleTriggleEvents_swept hg.consistent hg.pending hg.recorded
      have hlisted := h.swept hg hswept (handleTriggleEvents_nextId htrigger)
      rw [htrigger] at hstep
      cases hstep
      exact fun id hid => hlisted id hid
    · cases hstep
      exact h.mono rfl rfl []
  | poll ready =>
    simp only [EventLoop.step] at hstep
    split at hstep
    · cases hstep
      exact h.mono rfl rfl []
    · cases hstep
      exact h.mono rfl rfl []
  | turn t =>
    simp only [EventLoop.step] at hstep hfresh
    split at hstep
    · rename_i r rest hcontrol
      simp only [hcontrol] at hfresh
      have hregistered := ((hg.pending.batch hcontrol).2 r List.mem_cons_self).2
      have hopens : ∀ m seen, l.handleEvent r t = .ok (m, seen) →
          l.kernel.descriptors.Fresh (descriptorMoves seen) := fun m seen hevent =>
        hfresh _ _ (by rw [hevent])
      rcases EventLoop.handleEvent_turned hg.consistent hregistered hopens with ⟨fault, hevent⟩ |
        ⟨m, seen, hevent, -, hturned⟩
      · rw [hevent] at hstep
        cases hstep
      · rw [hevent] at hstep
        cases hstep
        have hlisted := h.turned hturned
        exact fun id hid => hlisted id hid
    · cases hstep
      exact h.mono rfl rfl []

/-! ## One step -/

/-- What a failed `accept` does: an object more, which the maps take or do not take. -/
structure FailedStep (s s' : AcceptLoop) (out : List LoopEffect) : Prop where
  loop : ∃ r rest, s.loop.control = .dispatching (r :: rest) ∧
    s'.loop = { s.loop with nextId := s.loop.nextId + 1, control := EventLoop.dispatchingOf rest }
  badConnection : s'.badConnection = some (s.badConnection.getD s.loop.nextId)
  badEvent : s'.badEvent = some (s.badEvent.getD (.connection s.loop.nextId))
  out_eq : out = [.created s.loop.nextId]

theorem handleNewConnection_eq (s : AcceptLoop) : s.handleNewConnection =
    ({ loop := { s.loop with nextId := s.loop.nextId + 1 }
       badConnection := some (s.badConnection.getD s.loop.nextId)
       badEvent := some (s.badEvent.getD (.connection s.loop.nextId)) },
      [.created s.loop.nextId]) := by
  obtain ⟨l, badConnection, badEvent⟩ := s
  unfold handleNewConnection updateIOEvent
  cases badConnection <;> cases badEvent <;> rfl

theorem step_failed {s : AcceptLoop} {act : AcceptAct} (h : AcceptFails s act) :
    ∃ s' out, s.step act = .ok (s', out) ∧ FailedStep s s' out := by
  obtain ⟨t, r, rest, rfl, hcontrol, hacceptor, hread⟩ := h
  refine ⟨{
      loop :=
        { s.loop with nextId := s.loop.nextId + 1, control := EventLoop.dispatchingOf rest }
      badConnection := some (s.badConnection.getD s.loop.nextId)
      badEvent := some (s.badEvent.getD (.connection s.loop.nextId)) },
    [.created s.loop.nextId], ?_, ⟨r, rest, hcontrol, rfl⟩, rfl, rfl, rfl⟩
  simp only [step, hcontrol, if_pos (And.intro hacceptor hread), handleNewConnection_eq]

theorem step_accepting {s : AcceptLoop} {act : AcceptAct} (h : ¬ AcceptFails s act) :
    s.step act = s.stepAccepting act.inner := by
  cases act with
  | accepts act => rfl
  | acceptFails t =>
    simp only [step]
    split
    · rename_i r rest hcontrol
      exact if_neg fun hcalled => h ⟨t, r, rest, rfl, hcontrol, hcalled.1, hcalled.2⟩
    · rfl

/-- **What a step can do.** -/
theorem step_cases {s s' : AcceptLoop} {act : AcceptAct} {out : List LoopEffect}
    (h : s.step act = .ok (s', out)) :
    (AcceptFails s act ∧ FailedStep s s' out) ∨
      (¬ AcceptFails s act ∧ ∃ l', s.loop.step act.inner = .ok (l', out) ∧
        s' = { s with loop := l' }) := by
  by_cases hfails : AcceptFails s act
  · obtain ⟨m, seen, hm, hfailed⟩ := step_failed hfails
    cases h.symm.trans hm
    exact Or.inl ⟨hfails, hfailed⟩
  · rw [step_accepting hfails, stepAccepting] at h
    cases hinner : s.loop.step act.inner with
    | error e =>
      rw [hinner] at h
      cases h
    | ok result =>
      rw [hinner] at h
      cases h
      exact Or.inr ⟨hfails, result.1, rfl, rfl⟩

theorem keeps_inner {s : AcceptLoop} {act : AcceptAct} (h : KernelKeeps s act)
    (hfails : ¬ AcceptFails s act) : EventLoop.KernelKeeps s.loop act.inner := by
  refine ⟨fun ready hready => ?_, fun l' out hstep => ?_⟩
  · cases act with
    | accepts act => exact h.1 ready (congrArg AcceptAct.accepts hready)
    | acceptFails t => cases hready
  · refine h.2 { s with loop := l' } out ?_
    rw [step_accepting hfails, stepAccepting, hstep]

/-- A turn in which the loop itself does nothing but make an object. -/
theorem good_failed {s s' : AcceptLoop} {log out : List LoopEffect}
    (hg : EventLoop.Good s.loop log) (hf : FailedStep s s' out) :
    EventLoop.Good s'.loop (log ++ out) := by
  obtain ⟨r, rest, hcontrol, hloop⟩ := hf.loop
  obtain ⟨hc, hp, hr⟩ := hg
  have hidle : EventLoop.Idle s.loop s.loop out := by
    refine ⟨rfl, rfl, rfl, rfl, rfl, fun id => ?_⟩
    simp [hf.out_eq]
  have hspared : ∀ id, .destroyed id ∉ out := fun id => by simp [hf.out_eq]
  have hr' := hr.idle hspared hidle
  have hp' := hp.turned hcontrol (EventLoop.turned_refl s.loop r.fd)
  rw [hloop]
  refine ⟨⟨hc.settled, hc.known, hc.events, fun hid => ?_, hc.apart, hc.watched, hc.held⟩,
    ⟨hp'.nodup, hp'.known, hp'.trigger, hp'.polling, hp'.batch⟩,
    ⟨hr'.live, hr'.dead, fun hunborn => hr'.unborn (Nat.le_of_succ_le hunborn), hr'.order⟩⟩
  exact Nat.lt_succ_of_lt (hc.below hid)

/-- The loop stays good, whatever `accept` returns. -/
theorem good_step {s s' : AcceptLoop} {act : AcceptAct} {log out : List LoopEffect}
    (hg : EventLoop.Good s.loop log) (hok : KernelKeeps s act)
    (hstep : s.step act = .ok (s', out)) : EventLoop.Good s'.loop (log ++ out) := by
  rcases step_cases hstep with ⟨-, hfailed⟩ | ⟨hfails, l', hinner, rfl⟩
  · exact good_failed hg hfailed
  · rcases EventLoop.step_good hg (keeps_inner hok hfails) with ⟨fault, hfault⟩ |
      ⟨m, seen, hm, hstepped⟩
    · rw [hinner] at hfault
      cases hfault
    · cases hinner.symm.trans hm
      exact hstepped.good

/-! ## Runs without a failure -/

/-- No `accept` has failed. -/
structure Unspoilt (s : AcceptLoop) (log : List LoopEffect) : Prop where
  good : EventLoop.Good s.loop log
  badConnection : s.badConnection = none
  badEvent : s.badEvent = none
  listed : Listed s.loop log

theorem Unspoilt.step {s s' : AcceptLoop} {act : AcceptAct} {log out : List LoopEffect}
    (h : Unspoilt s log) (hok : KernelKeeps s act) (hfails : ¬ AcceptFails s act)
    (hstep : s.step act = .ok (s', out)) : Unspoilt s' (log ++ out) := by
  refine ⟨good_step h.good hok hstep, ?_, ?_, ?_⟩ <;>
    rcases step_cases hstep with ⟨hfailed, -⟩ | ⟨-, l', hinner, rfl⟩
  · exact absurd hfailed hfails
  · exact h.badConnection
  · exact absurd hfailed hfails
  · exact h.badEvent
  · exact absurd hfailed hfails
  · exact h.listed.step h.good (keeps_inner hok hfails) hinner

theorem Unspoilt.wellKept {s : AcceptLoop} {log : List LoopEffect} (h : Unspoilt s log) :
    WellKept s log := by
  have hopen : ∀ fd, s.loop.kernel.descriptors fd = none →
      s.loop.eventMap fd = none ∧ s.loop.ids fd = none := fun fd =>
    h.good.consistent.registered_open
  have hvalid : ∀ fd, s.loop.kernel.descriptors fd ≠ none → s.Valid fd := fun fd hfd =>
    ⟨fd, rfl, Option.isSome_iff_ne_none.mpr hfd⟩
  refine ⟨fun {key id} hkey => ?_, fun {key callback} hkey => ?_, fun {id} halive => ?_⟩
  · match key with
    | .ofNat fd =>
      refine hvalid fd fun hclosed => ?_
      rw [connections, (hopen fd hclosed).2] at hkey
      cases hkey
    | .negSucc 0 =>
      rw [connections, h.badConnection] at hkey
      cases hkey
    | .negSucc (_ + 1) => cases hkey
  · match key with
    | .ofNat fd =>
      refine hvalid fd fun hclosed => ?_
      rw [eventMap, (hopen fd hclosed).1] at hkey
      cases hkey
    | .negSucc 0 =>
      rw [eventMap, h.badEvent] at hkey
      cases hkey
    | .negSucc (_ + 1) => cases hkey
  · rcases h.listed id halive.1 with ⟨fd, hfd⟩ | hgone
    · exact ⟨fd, hfd⟩
    · exact absurd hgone halive.2

theorem create_unspoilt (wakeupFd timerFd listenFd : Nat) :
    Unspoilt (create wakeupFd timerFd listenFd) [] := by
  refine ⟨EventLoop.create_good wakeupFd timerFd listenFd, rfl, rfl, fun id hid => ?_⟩
  have hnext : (EventLoop.create wakeupFd timerFd listenFd).nextId = 0 := by
    unfold EventLoop.create EventLoop.openSystem EventLoop.updateIOEvent
    dsimp only
    split <;> split <;> rfl
  change id < (EventLoop.create wakeupFd timerFd listenFd).nextId at hid
  rw [hnext] at hid
  exact absurd hid (Nat.not_lt_zero id)

/-! ## Runs -/

/-- An entry under -1 is never taken out. -/
theorem step_bad {s s' : AcceptLoop} {act : AcceptAct} {out : List LoopEffect}
    (h : s.step act = .ok (s', out)) (hnone : s'.badConnection = none) :
    s.badConnection = none ∧ ¬ AcceptFails s act := by
  rcases step_cases h with ⟨-, hfailed⟩ | ⟨hfails, l', -, rfl⟩
  · rw [hfailed.badConnection] at hnone
    cases hnone
  · exact ⟨hnone, hfails⟩

theorem run_bad {acts : List AcceptAct} : ∀ {s s' : AcceptLoop} {out : List LoopEffect},
    run step s acts = .ok (s', out) → s'.badConnection = none →
      s.badConnection = none ∧ Meets step (fun s act => ¬ AcceptFails s act) s acts := by
  induction acts with
  | nil =>
    intro s s' out hrun hnone
    cases hrun
    exact ⟨hnone, trivial⟩
  | cons act acts ih =>
    intro s s' out hrun hnone
    obtain ⟨m, first, rest, hstep, hlater, -⟩ := run_cons hrun
    obtain ⟨hmiddle, hmeets⟩ := ih hlater hnone
    obtain ⟨hbefore, hfails⟩ := step_bad hstep hmiddle
    refine ⟨hbefore, hfails, fun m' first' hstep' => ?_⟩
    cases hstep.symm.trans hstep'
    exact hmeets

theorem WellKept.unspoilt {s : AcceptLoop} {log : List LoopEffect} (h : WellKept s log) :
    s.badConnection = none := by
  by_contra hne
  obtain ⟨id, hid⟩ := Option.ne_none_iff_exists'.mp hne
  have hvalid : s.Valid (.negSucc 0) := h.connections hid
  obtain ⟨fd, hfd, -⟩ := hvalid
  cases hfd

/-- **A failed `accept` is never without consequences**: it makes a connection, and
from then on a map has -1 as a key. As long as none has failed, every key is an open
descriptor and every living connection can be found. -/
theorem failed_accept_exact (wakeupFd timerFd listenFd : Nat) (acts : List AcceptAct)
    (hok : Meets step KernelKeeps (create wakeupFd timerFd listenFd) acts) :
    ∀ s log, run step (create wakeupFd timerFd listenFd) acts = .ok (s, log) →
      (∀ act s' out, AcceptFails s act → s.step act = .ok (s', out) →
        ¬ NothingChanged s s' out) ∧
      (WellKept s log ↔ Meets step (fun s act => ¬ AcceptFails s act)
        (create wakeupFd timerFd listenFd) acts) := by
  intro s log hrun
  refine ⟨fun act s' out hfails hstep hsame => ?_, fun hkept => ?_, fun hnone => ?_⟩
  · obtain ⟨m, seen, hm, hfailed⟩ := step_failed hfails
    cases hstep.symm.trans hm
    refine hsame.created s.loop.nextId ?_
    rw [hfailed.out_eq]
    exact List.mem_singleton_self _
  · exact (run_bad hrun hkept.unspoilt).2
  · have hlogged := run_logged Unspoilt
      (fun s act s' log out h hboth hstep => h.step hboth.1 hboth.2 hstep)
      (create_unspoilt wakeupFd timerFd listenFd) (meets_and hok hnone) hrun
    exact hlogged.wellKept

/-! ## A visitor, and two failures -/

/-- `KernelKeeps`, tested. -/
def checkKernel (s : AcceptLoop) (act : AcceptAct) : Bool :=
  (match act with
    | .accepts (.poll ready) =>
      decide (ready.map Ready.fd).Nodup && ready.all fun r => s.loop.kernel.interest r.fd
    | _ => true) &&
  match s.step act with
  | .ok (_, out) => Table.checkFresh s.loop.kernel.descriptors (descriptorMoves out)
  | .error _ => true

theorem keeps_of_check {s : AcceptLoop} {act : AcceptAct} (h : s.checkKernel act = true) :
    KernelKeeps s act := by
  unfold checkKernel at h
  rw [Bool.and_eq_true] at h
  refine ⟨fun ready hready => ?_, fun s' out hstep => ?_⟩
  · subst hready
    have hpoll := h.1
    rw [Bool.and_eq_true, decide_eq_true_iff, List.all_eq_true] at hpoll
    exact hpoll
  · have hfresh := h.2
    rw [hstep] at hfresh
    exact Table.fresh_of_check hfresh

/-- The acceptor, on descriptor 5, is ready and accepts descriptor 7. -/
def sampleAccept : List AcceptAct := (EventLoop.sampleRound 5 []).map .accepts

/-- The acceptor is ready, and `accept` fails. -/
def sampleFailure : List AcceptAct :=
  [.accepts .trigger, .accepts (.poll [{ fd := 5, epollIn := true }]),
    .acceptFails (EventLoop.sampleTurn [])]

theorem failed_accept_exact_sample : ∃ s log,
    run step (create 3 4 5) sampleAccept = .ok (s, log) ∧ s.connections 7 = some 0 ∧
      WellKept s log := by
  have hok : Meets step KernelKeeps (create 3 4 5) sampleAccept :=
    meets_of_checkMeets (fun _ _ => keeps_of_check) (by decide +kernel)
  obtain ⟨s, log, hrun, hseven⟩ : ∃ s log, run step (create 3 4 5) sampleAccept = .ok (s, log) ∧
      decide (s.connections 7 = some 0) = true := checkRun_true (by decide +kernel)
  have hnone : Meets step (fun s act => ¬ AcceptFails s act) (create 3 4 5) sampleAccept := by
    have hall : ∀ act ∈ sampleAccept, ∀ t, act ≠ .acceptFails t := by
      intro act hact t heq
      obtain ⟨inner, -, hinner⟩ := List.mem_map.mp hact
      cases hinner.trans heq
    refine meets_mono (fun s act hact hfails => ?_) (meets_of_forall hall)
    obtain ⟨t, -, -, heq, -⟩ := hfails
    exact hact t heq
  exact ⟨s, log, hrun, of_decide_eq_true hseven,
    ((failed_accept_exact 3 4 5 _ hok s log hrun).2).mpr hnone⟩

/-- After two failures -1 is a key of both maps, and the second connection is in none. -/
theorem failed_accept_twice : ∃ s log,
    run step (create 3 4 5) (sampleFailure ++ sampleFailure) = .ok (s, log) ∧
      s.connections (-1) = some 0 ∧ s.eventMap (-1) = some (.connection 0) ∧
        s.Alive log 1 ∧ (∀ key, s.connections key ≠ some 1) ∧ ¬ WellKept s log := by
  refine ⟨_, _, rfl, rfl, rfl, ⟨by decide, by decide⟩, fun key => ?_, fun hkept => ?_⟩
  · match key with
    | .ofNat fd => exact nofun
    | .negSucc 0 => decide
    | .negSucc (_ + 1) => exact nofun
  · exact absurd hkept.unspoilt nofun

end AcceptLoop
end MyRtspServer.Net
