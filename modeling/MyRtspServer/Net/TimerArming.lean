import Mathlib.Order.Bounds.Basic
import MyRtspServer.Net.TimerCallbacks

/-!
# The timerfd and the earliest deadline

Every call of the scheduler's timer API, and every `HandleTimerEvent`, ends in
`ModifyTimeout`, which hands the deadline of the first event to the timerfd. The
kernel takes a positive one. Zero disarms it and a negative one is refused.
-/
namespace MyRtspServer.Net

open Library.Transition TimerManager TimerLoop

/-- Armed for the earliest pending deadline, and disarmed when there is none. -/
structure Armed (m : TimerManager) : Prop where
  earliest : m.eventsMap ≠ [] → ∃ deadline period, m.timerFd = some (deadline, period) ∧
    IsLeast {d | ∃ e ∈ m.eventsMap, e.1.1 = d} deadline
  disarmed : m.timerFd = none ↔ m.eventsMap = []

/-! ## `TimerFdSetTime` -/

theorem timerFdSetTime_zero (fd : TimerFd) : timerFdSetTime fd 0 0 = none := rfl

theorem timerFdSetTime_pos (fd : TimerFd) {deadline : Int} (h : 0 < deadline) (period : Nat) :
    timerFdSetTime fd deadline period = some (deadline, period) := by
  have hsplit := Int.mul_tdiv_add_tmod deadline 1000
  have hsec : 0 ≤ deadline.tdiv 1000 := Int.tdiv_nonneg h.le (by decide)
  have hmilli : 0 ≤ deadline.tmod 1000 := Int.tmod_nonneg 1000 h.le
  unfold timerFdSetTime
  dsimp only
  rw [if_neg (by omega), if_neg (by omega)]

/-- The kernel never keeps an expiry that is not positive. -/
theorem timerFdSetTime_nonpos (fd : TimerFd) {deadline : Int} (h : deadline ≤ 0) (period : Nat) :
    timerFdSetTime fd deadline period = fd ∨ timerFdSetTime fd deadline period = none := by
  have hsplit := Int.mul_tdiv_add_tmod deadline 1000
  have hsec : (-deadline).tdiv 1000 = -(deadline.tdiv 1000) := Int.neg_tdiv _ _
  have hmilli : (-deadline).tmod 1000 = -(deadline.tmod 1000) := Int.neg_tmod _ _
  have hsec' : 0 ≤ (-deadline).tdiv 1000 := Int.tdiv_nonneg (by omega) (by decide)
  have hmilli' : 0 ≤ (-deadline).tmod 1000 := Int.tmod_nonneg 1000 (by omega)
  unfold timerFdSetTime
  dsimp only
  split
  · exact Or.inl rfl
  · rw [if_pos (by omega)]
    exact Or.inr rfl

/-- The expiry the timerfd holds, if it holds one, is positive. -/
def PositiveExpiry (m : TimerManager) : Prop :=
  ∀ deadline period, m.timerFd = some (deadline, period) → 0 < deadline

theorem timerFdSetTime_positive {fd : TimerFd} (h : ∀ d p, fd = some (d, p) → 0 < d)
    (deadline : Int) (period : Nat) :
    ∀ d p, timerFdSetTime fd deadline period = some (d, p) → 0 < d := by
  intro d p hset
  by_cases hpos : 0 < deadline
  · rw [timerFdSetTime_pos fd hpos] at hset
    cases hset
    exact hpos
  · rcases timerFdSetTime_nonpos fd (not_lt.mp hpos) period with hfd | hnone
    · exact h d p (hfd ▸ hset)
    · rw [hnone] at hset
      cases hset

/-! ## `ModifyTimeout` -/

namespace TimerManager

theorem modifyTimeout_positiveExpiry {m : TimerManager} (h : PositiveExpiry m) :
    PositiveExpiry m.modifyTimeout := by
  unfold modifyTimeout PositiveExpiry
  split
  · exact timerFdSetTime_positive h _ _
  · exact timerFdSetTime_positive h 0 0

theorem modifyTimeout_armed {m : TimerManager} (h : m.Ordered)
    (hpos : ∀ e ∈ m.eventsMap, 0 < e.1.1) : Armed m.modifyTimeout := by
  unfold modifyTimeout
  split
  · rename_i key timer rest he
    have hmem : (key, timer) ∈ m.eventsMap := by rw [he]; exact List.mem_cons_self
    have hkey : timer.timeStamp = key.1 := h.keyed _ hmem
    have hasc := h.ascending
    rw [he] at hasc
    rw [hkey, timerFdSetTime_pos m.timerFd (hpos _ hmem)]
    refine ⟨fun _ => ⟨key.1, _, rfl, ⟨_, hmem, rfl⟩, ?_⟩, iff_of_false nofun ?_⟩
    · rintro d ⟨e, hmem', rfl⟩
      change e ∈ m.eventsMap at hmem'
      rw [he] at hmem'
      rcases List.mem_cons.mp hmem' with rfl | hlater
      · exact le_refl _
      · exact hasc.deadline_le hlater
    · exact List.ne_nil_of_mem hmem
  · rename_i he
    exact ⟨fun hne => absurd he hne, iff_of_true (timerFdSetTime_zero m.timerFd) he⟩

/-- Each call ends in `ModifyTimeout`, after it has done its part. -/
theorem call_modifyTimeout (m : TimerManager) (c : TimerCall) :
    ∃ k : TimerManager, m.call c = k.modifyTimeout ∧ k.timerFd = m.timerFd := by
  cases c with
  | addTimer event stamp interval => exact ⟨_, rfl, rfl⟩
  | removeTimer id =>
    change ∃ k : TimerManager, m.removeTimer id = _ ∧ _
    unfold removeTimer
    split
    · exact ⟨_, rfl, rfl⟩
    · exact ⟨m, rfl, rfl⟩

theorem call_ordered {m : TimerManager} (h : m.Ordered) (c : TimerCall) : (m.call c).Ordered := by
  cases c with
  | addTimer event stamp interval => exact addTimer_ordered h event stamp interval
  | removeTimer id => exact removeTimer_ordered h id

theorem call_positiveExpiry {m : TimerManager} (h : PositiveExpiry m) (c : TimerCall) :
    PositiveExpiry (m.call c) := by
  obtain ⟨k, hcall, hfd⟩ := m.call_modifyTimeout c
  rw [hcall]
  exact modifyTimeout_positiveExpiry fun d p hk => h d p (hfd ▸ hk)

theorem call_armed {m : TimerManager} (h : m.Ordered) (c : TimerCall)
    (hpos : ∀ e ∈ (m.call c).eventsMap, 0 < e.1.1) : Armed (m.call c) := by
  have hord := call_ordered h c
  obtain ⟨k, hcall, -⟩ := m.call_modifyTimeout c
  rw [hcall] at hord hpos ⊢
  rw [modifyTimeout_eventsMap] at hpos
  exact modifyTimeout_armed (hord.of_sublist (by rw [modifyTimeout_eventsMap])) hpos

end TimerManager

/-! ## The timer API of `EventScheduler` -/

namespace EventScheduler

/-- `Timer::GetCurTime`: milliseconds on a clock that starts at zero. -/
abbrev CurTime := Nat

def addTimerEventRunAfter (event : Option Nat) (delay : Nat) (now : CurTime) : TimerCall :=
  .addTimer event (now + delay) 0

def addTimerEventRunAt (event : Option Nat) (when_ : Int) : TimerCall := .addTimer event when_ 0

def addTimerEventRunEvery (event : Option Nat) (interval : Nat) (now : CurTime) : TimerCall :=
  .addTimer event (now + interval) interval

def removeTimerEvent (id : Nat) : TimerCall := .removeTimer id

end EventScheduler

open EventScheduler

/-- A call of the scheduler's timer API, with the clock it reads. -/
inductive SchedulerCall where
  | runAfter (event : Option Nat) (delay : Nat) (now : CurTime)
  | runAt (event : Option Nat) (when_ : Int)
  | runEvery (event : Option Nat) (interval : Nat) (now : CurTime)
  | remove (id : Nat)
  deriving DecidableEq, Repr

namespace SchedulerCall

def timerCall : SchedulerCall → TimerCall
  | .runAfter event delay now => addTimerEventRunAfter event delay now
  | .runAt event when_ => addTimerEventRunAt event when_
  | .runEvery event interval now => addTimerEventRunEvery event interval now
  | .remove id => removeTimerEvent id

/-- The deadline that a call gives to a new timer. -/
def deadline : SchedulerCall → Option Int
  | .runAfter _ delay now => some (now + delay)
  | .runAt _ when_ => some when_
  | .runEvery _ interval now => some (now + interval)
  | .remove _ => none

/-- The events after a call are old ones and that of the timer it adds. -/
theorem mem_call {m : TimerManager} (c : SchedulerCall) {e : TimerIndex × Timer}
    (he : e ∈ (m.call c.timerCall).eventsMap) : e ∈ m.eventsMap ∨ c.deadline = some e.1.1 := by
  have hadd : ∀ event stamp interval, e ∈ (m.addTimer event stamp interval).eventsMap →
      e ∈ m.eventsMap ∨ stamp = e.1.1 := by
    intro event stamp interval hmem
    rw [addTimer_eventsMap] at hmem
    rcases mem_insertEvent.mp hmem with rfl | hold
    · exact Or.inr rfl
    · exact Or.inl hold
  cases c with
  | remove id => exact Or.inl (mem_removeTimer he)
  | runAfter event delay now => exact (hadd _ _ _ he).imp_right (congrArg some)
  | runAt event when_ => exact (hadd _ _ _ he).imp_right (congrArg some)
  | runEvery event interval now => exact (hadd _ _ _ he).imp_right (congrArg some)

/-- A call that adds a timer leaves an event with its deadline. -/
theorem deadline_mem {m : TimerManager} {c : SchedulerCall} {d : Int} (h : c.deadline = some d) :
    ∃ e ∈ (m.call c.timerCall).eventsMap, e.1.1 = d := by
  have hadd : ∀ event stamp interval,
      ∃ e ∈ (m.addTimer event stamp interval).eventsMap, e.1.1 = stamp := by
    intro event stamp interval
    rw [addTimer_eventsMap]
    exact ⟨_, mem_insertEvent.mpr (Or.inl rfl), rfl⟩
  cases c with
  | remove id => cases h
  | runAfter event delay now => cases h; exact hadd _ _ _
  | runAt event when_ => cases h; exact hadd _ _ _
  | runEvery event interval now => cases h; exact hadd _ _ _

end SchedulerCall

/-- The scheduler's API, called from callbacks or between expirations, and the
steps of `HandleTimerEvent`, which is entered when the timerfd has expired. -/
inductive SchedulerAct where
  | call (c : SchedulerCall)
  | expire (now : CurTime)
  | test
  | callbackReturns
  deriving DecidableEq, Repr

def SchedulerAct.expiryAct : SchedulerAct → ExpiryAct
  | .call c => .call c.timerCall
  | .expire now => .expire now
  | .test => .test
  | .callbackReturns => .callbackReturns

def schedulerStep (s : TimerLoop) (act : SchedulerAct) :
    Except TimerFault (TimerLoop × List Firing) :=
  TimerLoop.step s act.expiryAct

/-! ## Runs -/

/-- `act` leads from `s` to where a step is over: a call has returned, or
`HandleTimerEvent` is not running. -/
def StepOver (s : TimerLoop) (act : SchedulerAct) (s' : TimerLoop) : Prop :=
  s'.phase = .idle ∨ s.phase.RunsHandlers ∧ ∃ c, act = .call c

/-- The timerfd is right whenever a step is over. -/
def ArmedThroughout (acts : List SchedulerAct) : Prop :=
  ∀ pre act post s log s' fired, acts = pre ++ act :: post →
    run schedulerStep {} pre = .ok (s, log) → schedulerStep s act = .ok (s', fired) →
    StepOver s act s' → Armed s'.manager

/-- A timer that is added gets a deadline after the start of the clock. -/
def DeadlineAfterStart (s : TimerLoop) (act : SchedulerAct) : Prop :=
  s.phase.RunsHandlers → ∀ c d, act = .call c → c.deadline = some d → 0 < d

/-- What keeps the timerfd right: see `modifyTimeout_armed`. -/
structure Timed (s : TimerLoop) : Prop where
  ordered : s.manager.Ordered
  positive : ∀ e ∈ s.manager.eventsMap, 0 < e.1.1
  clock : ∀ now, s.phase.timePoint = some now → 0 ≤ now
  armed : s.phase = .idle → Armed s.manager

theorem timed_start : Timed {} where
  ordered := ordered_empty
  positive := nofun
  clock := nofun
  armed _ := ⟨fun h => absurd rfl h, iff_of_true rfl rfl⟩

theorem Timed.call {s : TimerLoop} (h : Timed s) {c : SchedulerCall}
    (hpos : ∀ d, c.deadline = some d → 0 < d) :
    Timed { s with manager := s.manager.call c.timerCall } ∧
      Armed (s.manager.call c.timerCall) := by
  have hevents : ∀ e ∈ (s.manager.call c.timerCall).eventsMap, 0 < e.1.1 := by
    intro e he
    rcases c.mem_call he with hold | hnew
    · exact h.positive e hold
    · exact hpos _ hnew
  have harmed := call_armed h.ordered c.timerCall hevents
  exact ⟨⟨call_ordered h.ordered _, hevents, h.clock, fun _ => harmed⟩, harmed⟩

theorem Timed.settles {m : TimerManager} {now : Int} {id : Nat} {timer : Timer}
    {first : TimerIndex × Timer} {rest : List (TimerIndex × Timer)}
    (h : Timed ⟨m, .calling now id timer⟩) (he : m.eventsMap = first :: rest) :
    Timed ⟨m.settle now id timer rest, .testing now⟩ := by
  refine ⟨settle_ordered h.ordered he now id timer, fun e hmem => ?_, h.clock, nofun⟩
  rcases mem_settle hmem with hmem | hlater
  · exact h.positive e (by rw [he]; exact List.mem_cons_of_mem _ hmem)
  · exact (h.clock now rfl).trans_lt hlater

/-- The loop's own steps. -/
theorem Timed.loopMove {s s' : TimerLoop} {act : ExpiryAct} {fired : List Firing} (h : Timed s)
    (hcall : ∀ c, act ≠ .call c) (hclock : ∀ now, act = .expire now → 0 ≤ now)
    (hmove : LoopMove s act s' fired) : Timed s' := by
  cases hmove with
  | outOfTurn => exact h
  | call c _ => exact absurd rfl (hcall c)
  | expire m now =>
    refine ⟨h.ordered, h.positive, fun t ht => ?_, nofun⟩
    cases ht
    exact hclock now rfl
  | leaves m now =>
    have harmed := modifyTimeout_armed h.ordered h.positive
    refine ⟨modifyTimeout_ordered h.ordered, ?_, nofun, fun _ => harmed⟩
    rw [modifyTimeout_eventsMap]
    exact h.positive
  | fires => exact ⟨h.ordered, h.positive, h.clock, nofun⟩
  | settles now id timer he => exact h.settles he

theorem Timed.over {s s' : TimerLoop} {act : SchedulerAct} (h : Timed s')
    (hact : ∀ c, act ≠ .call c) (hover : StepOver s act s') : Armed s'.manager :=
  h.armed (hover.resolve_right fun hcall => hcall.2.elim hact)

theorem schedulerStep_timed {s s' : TimerLoop} {act : SchedulerAct} {fired : List Firing}
    (h : Timed s) (hafter : DeadlineAfterStart s act)
    (hstep : schedulerStep s act = .ok (s', fired)) :
    Timed s' ∧ (StepOver s act s' → Armed s'.manager) := by
  have hmove := step_loopMove hstep
  cases act with
  | call c =>
    by_cases hruns : s.phase.RunsHandlers
    · have hcall := step_call hruns c.timerCall
      cases hcall.symm.trans hstep
      obtain ⟨ht, harmed⟩ := h.call (hafter hruns c · rfl)
      exact ⟨ht, fun _ => harmed⟩
    · obtain ⟨m, phase⟩ := s
      cases phase with
      | idle => exact absurd ExpiryPhase.runsHandlers_idle hruns
      | calling now id timer =>
        exact absurd (ExpiryPhase.runsHandlers_calling now id timer) hruns
      | testing now =>
        -- out of turn: nothing happens, and no step is over
        cases hstep
        exact ⟨h, fun hover => absurd (hover.resolve_left nofun).1 hruns⟩
  | expire now =>
    have ht : Timed s' := h.loopMove (fun c heq => by cases heq)
      (fun t heq => by cases heq; exact Int.natCast_nonneg now) hmove
    exact ⟨ht, ht.over fun c heq => by cases heq⟩
  | test =>
    have ht : Timed s' := h.loopMove (fun c heq => by cases heq) (fun t heq => by cases heq) hmove
    exact ⟨ht, ht.over fun c heq => by cases heq⟩
  | callbackReturns =>
    have ht : Timed s' := h.loopMove (fun c heq => by cases heq) (fun t heq => by cases heq) hmove
    exact ⟨ht, ht.over fun c heq => by cases heq⟩

/-- No step makes the timerfd hold an expiry that is not positive. -/
theorem TimerLoop.LoopMove.positiveExpiry {s s' : TimerLoop} {act : ExpiryAct}
    {fired : List Firing} (hmove : LoopMove s act s' fired) (h : PositiveExpiry s.manager) :
    PositiveExpiry s'.manager := by
  cases hmove with
  | outOfTurn => exact h
  | expire => exact h
  | fires => exact h
  | call c _ => exact call_positiveExpiry h c
  | leaves m now => exact modifyTimeout_positiveExpiry h
  | @settles m first rest now id timer he =>
    have hfd : (m.settle now id timer rest).timerFd = m.timerFd := by
      unfold settle
      split <;> rfl
    exact fun d p hd => h d p (hfd ▸ hd)

/-- A timer whose deadline is not positive cannot be armed for. -/
theorem deadline_pos_of_armed {m : TimerManager} {c : SchedulerCall} {d : Int}
    (h : PositiveExpiry m) (hd : c.deadline = some d) (harmed : Armed (m.call c.timerCall)) :
    0 < d := by
  obtain ⟨e, he, rfl⟩ := c.deadline_mem (m := m) hd
  obtain ⟨deadline, period, hfd, hleast⟩ := harmed.earliest (List.ne_nil_of_mem he)
  exact (call_positiveExpiry h c.timerCall deadline period hfd).trans_le (hleast.2 ⟨e, he, rfl⟩)

/-- **The timerfd is armed for the earliest deadline exactly when no timer is
added for a time that is not after the start of the clock.** -/
theorem armed_throughout_iff (acts : List SchedulerAct) :
    ArmedThroughout acts ↔ Meets schedulerStep DeadlineAfterStart {} acts := by
  constructor
  · intro harmed
    rw [meets_iff_forall]
    intro pre act post s log hacts hpre hruns c d hcall hd
    have hexpiry : PositiveExpiry s.manager :=
      run_invariant (fun s => PositiveExpiry s.manager)
        (fun _ _ _ _ h _ hstep => (step_loopMove hstep).positiveExpiry h)
        (fun d p h => by cases h) meets_true hpre
    subst hcall
    refine deadline_pos_of_armed hexpiry hd ?_
    exact harmed pre _ post s log _ [] hacts hpre (step_call hruns _) (Or.inr ⟨hruns, c, rfl⟩)
  · intro hmeets pre act post s log s' fired hacts hpre hstep hover
    subst hacts
    have htimed : Timed s := run_invariant Timed
      (fun _ _ _ _ h hok hs => (schedulerStep_timed h hok hs).1) timed_start
      (meets_left hmeets) hpre
    exact (schedulerStep_timed htimed (meets_append hmeets hpre).2.1 hstep).2 hover

/-- A timer for the time 0 disarms the timerfd that should be armed for it. -/
theorem run_at_zero_disarms : ¬ ArmedThroughout [.call (.runAt (some 1) 0)] := by
  intro h
  have harmed := h [] _ [] {} [] _ [] rfl rfl rfl (Or.inl rfl)
  exact absurd (harmed.disarmed.mp rfl) (List.cons_ne_nil _ _)

end MyRtspServer.Net
