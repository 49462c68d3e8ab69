import MyRtspServer.Net.TimerFirings

/-!
# `HandleTimerEvent`, one step at a time

A callback may use the timer API while the loop that runs it is in the middle of
a round. Here the loop stops at the test of its condition and inside each
callback, so that the calls of any callback, whatever it bases them on, are steps
of their own. An act out of turn changes nothing.
-/
namespace MyRtspServer.Net

open Library.Transition TimerManager

/-- What a callback, or any other code between two expirations, may call. -/
inductive TimerCall where
  | addTimer (event : Option Nat) (stamp : Int) (interval : Nat)
  | removeTimer (id : Nat)
  deriving DecidableEq, Repr

namespace TimerManager

def call (m : TimerManager) : TimerCall → TimerManager
  | .addTimer event stamp interval => m.addTimer event stamp interval
  | .removeTimer id => m.removeTimer id

def calls (m : TimerManager) (cs : List TimerCall) : TimerManager := cs.foldl call m

end TimerManager

/-- Where `HandleTimerEvent` stands; `now` is its `time_point`. -/
inductive ExpiryPhase where
  | idle
  | testing (now : Int)
  | calling (now : Int) (id : Nat) (timer : Timer)
  deriving DecidableEq

/-- The `time_point` of the call that is running. -/
def ExpiryPhase.timePoint : ExpiryPhase → Option Int
  | .idle => none
  | .testing now => some now
  | .calling now _ _ => some now

/-- The timer whose callback is running. -/
def ExpiryPhase.called : ExpiryPhase → Option Nat
  | .calling _ id _ => some id
  | _ => none

/-- Nothing but the loop itself runs while it tests its condition. -/
def ExpiryPhase.RunsHandlers (phase : ExpiryPhase) : Prop := ∀ now, phase ≠ .testing now

theorem ExpiryPhase.runsHandlers_idle : ExpiryPhase.idle.RunsHandlers := by
  intro now h
  cases h

theorem ExpiryPhase.runsHandlers_calling (now : Int) (id : Nat) (timer : Timer) :
    (ExpiryPhase.calling now id timer).RunsHandlers := by
  intro t h
  cases h

structure TimerLoop where
  manager : TimerManager := {}
  phase : ExpiryPhase := .idle

/-- `expire` is the entry of `HandleTimerEvent` with the clock it reads. -/
inductive ExpiryAct where
  | call (c : TimerCall)
  | expire (now : Int)
  | test
  | callbackReturns
  deriving DecidableEq, Repr

namespace TimerLoop

/-- The condition of the loop. The `if` around the loop asks the first half of it
once more, so it has no step of its own. -/
def test (now : Int) (m : TimerManager) : Except TimerFault (TimerLoop × List Firing) :=
  if m.timersMap.entries = [] then .ok (⟨m.modifyTimeout, .idle⟩, [])
  else
    match m.eventsMap with
    | [] => .error .beginOfEmpty
    | ((stamp, id), timer) :: _ =>
      if stamp ≤ now then .ok (⟨m, .calling now id timer⟩, [⟨id, timer⟩])
      else .ok (⟨m.modifyTimeout, .idle⟩, [])

/-- The end of a round: whatever event is first by now is erased. -/
def callbackReturns (now : Int) (id : Nat) (timer : Timer) (m : TimerManager) :
    Except TimerFault (TimerLoop × List Firing) :=
  match m.eventsMap with
  | [] => .error .beginOfEmpty
  | _ :: rest => .ok (⟨m.settle now id timer rest, .testing now⟩, [])

def step (s : TimerLoop) : ExpiryAct → Except TimerFault (TimerLoop × List Firing)
  | .call c =>
    match s.phase with
    | .testing _ => .ok (s, [])
    | _ => .ok ({ s with manager := s.manager.call c }, [])
  | .expire now =>
    match s.phase with
    | .idle => .ok ({ s with phase := .testing now }, [])
    | _ => .ok (s, [])
  | .test =>
    match s.phase with
    | .testing now => test now s.manager
    | _ => .ok (s, [])
  | .callbackReturns =>
    match s.phase with
    | .calling now id timer => callbackReturns now id timer s.manager
    | _ => .ok (s, [])

/-! ## What a step can do -/

inductive LoopMove : TimerLoop → ExpiryAct → TimerLoop → List Firing → Prop where
  | outOfTurn (s : TimerLoop) (act : ExpiryAct) : LoopMove s act s []
  | call {s : TimerLoop} (c : TimerCall) (h : s.phase.RunsHandlers) :
    LoopMove s (.call c) { s with manager := s.manager.call c } []
  | expire (m : TimerManager) (now : Int) : LoopMove ⟨m, .idle⟩ (.expire now) ⟨m, .testing now⟩ []
  | leaves (m : TimerManager) (now : Int) :
    LoopMove ⟨m, .testing now⟩ .test ⟨m.modifyTimeout, .idle⟩ []
  | fires {m : TimerManager} {now : Int} {e : TimerIndex × Timer}
    {rest : List (TimerIndex × Timer)} (he : m.eventsMap = e :: rest) (hdue : e.1.1 ≤ now) :
    LoopMove ⟨m, .testing now⟩ .test ⟨m, .calling now e.1.2 e.2⟩ [firing e]
  | settles {m : TimerManager} {first : TimerIndex × Timer} {rest : List (TimerIndex × Timer)}
    (now : Int) (id : Nat) (timer : Timer) (he : m.eventsMap = first :: rest) :
    LoopMove ⟨m, .calling now id timer⟩ .callbackReturns
      ⟨m.settle now id timer rest, .testing now⟩ []

theorem test_loopMove {m : TimerManager} {now : Int} {s' : TimerLoop} {fired : List Firing}
    (h : test now m = .ok (s', fired)) : LoopMove ⟨m, .testing now⟩ .test s' fired := by
  unfold test at h
  split at h
  · cases h
    exact .leaves m now
  · split at h
    · cases h
    · rename_i he
      split at h
      · rename_i hdue
        cases h
        exact .fires he hdue
      · cases h
        exact .leaves m now

theorem step_loopMove {s s' : TimerLoop} {act : ExpiryAct} {fired : List Firing}
    (h : step s act = .ok (s', fired)) : LoopMove s act s' fired := by
  obtain ⟨m, phase⟩ := s
  cases act with
  | call c =>
    cases phase with
    | testing now =>
      cases h
      exact .outOfTurn _ _
    | idle =>
      cases h
      exact .call c ExpiryPhase.runsHandlers_idle
    | calling now id timer =>
      cases h
      exact .call c (ExpiryPhase.runsHandlers_calling now id timer)
  | expire now =>
    cases phase with
    | idle =>
      cases h
      exact .expire m now
    | testing now => cases h; exact .outOfTurn _ _
    | calling now id timer => cases h; exact .outOfTurn _ _
  | test =>
    cases phase with
    | testing now => exact test_loopMove h
    | idle => cases h; exact .outOfTurn _ _
    | calling now id timer => cases h; exact .outOfTurn _ _
  | callbackReturns =>
    cases phase with
    | calling now id timer =>
      change callbackReturns now id timer m = _ at h
      unfold callbackReturns at h
      split at h
      · cases h
      · rename_i he
        cases h
        exact .settles now id timer he
    | idle => cases h; exact .outOfTurn _ _
    | testing now => cases h; exact .outOfTurn _ _

/-! ## The loop taken as a whole -/

theorem step_call {s : TimerLoop} (h : s.phase.RunsHandlers) (c : TimerCall) :
    step s (.call c) = .ok ({ s with manager := s.manager.call c }, []) := by
  obtain ⟨m, phase⟩ := s
  cases phase with
  | testing now => exact absurd rfl (h now)
  | idle => rfl
  | calling now id timer => rfl

theorem run_calls (cs : List TimerCall) (phase : ExpiryPhase) (h : phase.RunsHandlers) :
    ∀ {m : TimerManager}, run step ⟨m, phase⟩ (cs.map .call) = .ok (⟨m.calls cs, phase⟩, []) := by
  induction cs with
  | nil => exact rfl
  | cons c cs ih =>
    intro m
    rw [List.map_cons, run_cons_eq (step_call h c), ih]
    rfl

/-- **The steps do what the loop does** with a callback that makes the calls of
`script`, faults included. -/
theorem fireDue_steps (script : Timer → TimerManager → List TimerCall) (now : Int) (fuel : Nat) :
    ∀ m : TimerManager, ∃ acts, run step ⟨m, .testing now⟩ acts =
      (fireDue (fun timer m => m.calls (script timer m)) now fuel m).map
        fun r => (⟨r.1, .testing now⟩, r.2) := by
  induction fuel with
  | zero => exact fun m => ⟨[], rfl⟩
  | succ fuel ih =>
    intro m
    rw [fireDue]
    by_cases ht : m.timersMap.entries = []
    · exact ⟨[], by rw [if_pos ht]; rfl⟩
    rw [if_neg ht]
    cases he : m.eventsMap with
    | nil => exact ⟨[.test], by simp [run, step, test, ht, he, Except.map]⟩
    | cons e rest =>
      obtain ⟨⟨stamp, id⟩, timer⟩ := e
      by_cases hdue : stamp ≤ now
      swap
      · exact ⟨[], by simp only [if_neg hdue]; rfl⟩
      simp only [if_pos hdue]
      have hcalls := run_calls (script timer m) (.calling now id timer)
        (ExpiryPhase.runsHandlers_calling now id timer) (m := m)
      have hfire : step ⟨m, .testing now⟩ .test =
          .ok (⟨m, .calling now id timer⟩, [⟨id, timer⟩]) := by
        simp [step, test, ht, he, hdue]
      cases hcalled : (m.calls (script timer m)).eventsMap with
      | nil =>
        refine ⟨.test :: ((script timer m).map .call ++ [.callbackReturns]), ?_⟩
        rw [run_cons_eq hfire, run_append_eq hcalls]
        simp only [run, step, callbackReturns, hcalled]
        rfl
      | cons first later =>
        have hreturns : step ⟨m.calls (script timer m), .calling now id timer⟩ .callbackReturns =
            .ok (⟨(m.calls (script timer m)).settle now id timer later, .testing now⟩, []) := by
          simp only [step, callbackReturns, hcalled]
        obtain ⟨acts, hacts⟩ := ih ((m.calls (script timer m)).settle now id timer later)
        refine ⟨.test :: ((script timer m).map .call ++ .callbackReturns :: acts), ?_⟩
        rw [run_cons_eq hfire, run_append_eq hcalls, run_cons_eq hreturns, hacts]
        dsimp only
        cases fireDue (fun timer m => m.calls (script timer m)) now fuel
          ((m.calls (script timer m)).settle now id timer later) <;> rfl

/-- `HandleTimerEvent` with callbacks that call nothing, as a run. -/
theorem handleTimerEvent_steps {m m' : TimerManager} {now : Int} {fired : List Firing}
    (h : m.WellKept) (hcall : handleTimerEvent now m = .ok (m', fired)) :
    ∃ acts, run step ⟨m, .idle⟩ acts = .ok (⟨m', .idle⟩, fired) := by
  obtain ⟨last, hlast, hsettled, hfuel⟩ := fireDue_due now _ h rfl
  have hlength : (m.due now).length ≤ m.eventsMap.length := List.length_filter_le _ _
  have hround := hfuel (m.eventsMap.length + 1) (by omega)
  rw [handleTimerEvent, handleTimerEventWith, hround] at hcall
  cases hcall
  obtain ⟨acts, hacts⟩ := fireDue_steps (fun _ _ => []) now (m.eventsMap.length + 1) m
  change run step ⟨m, .testing now⟩ acts = (fireDue quiet now _ m).map _ at hacts
  have hstop : step ⟨last, .testing now⟩ .test = .ok (⟨last.modifyTimeout, .idle⟩, []) := by
    change test now last = _
    unfold test
    split
    · rfl
    · rename_i ht
      cases he : last.eventsMap with
      | nil => exact absurd he (events_ne_nil hlast.inStep ht)
      | cons e rest =>
        have hlater := hsettled.later e (by rw [he]; exact List.mem_cons_self)
        exact if_neg (not_le.mpr hlater)
  have hexpire : step ⟨m, .idle⟩ (.expire now) = .ok (⟨m, .testing now⟩, []) := rfl
  refine ⟨.expire now :: (acts ++ [.test]), ?_⟩
  rw [run_cons_eq hexpire, run_append_eq (hacts.trans (by rw [hround]; rfl)), run_cons_eq hstop]
  simp [run, Except.map]

end TimerLoop
end MyRtspServer.Net
