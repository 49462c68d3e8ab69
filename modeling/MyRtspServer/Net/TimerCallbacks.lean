import MyRtspServer.Net.TimerLoop

/-!
# Callbacks that use the timer API

After a callback the loop erases the first event, taking it for the one it fired.
As long as that is so, and no periodic timer is removed after it has been
rescheduled, the two maps stay in step through every call a callback makes.
-/
namespace MyRtspServer.Net

open Library.Transition TimerManager

namespace TimerLoop

/-- When a callback returns, the event it was called for is still the first one;
removals find their event, and ids do not wrap. -/
def Undisturbed (s : TimerLoop) : ExpiryAct → Prop
  | .call (.addTimer ..) => s.phase.RunsHandlers → s.manager.lastTimerId + 1 < 2 ^ 32
  | .call (.removeTimer id) => s.phase.RunsHandlers → s.manager.Removable id
  | .callbackReturns => ∀ now id timer, s.phase = .calling now id timer →
    s.manager.eventsMap.head? = some ((timer.timeStamp, id), timer)
  | _ => True

/-- A manager in step has an event wherever the loop looks for one. -/
theorem step_defined {s : TimerLoop} (h : s.manager.InStep) {act : ExpiryAct}
    (hu : Undisturbed s act) : ∃ s' fired, step s act = .ok (s', fired) := by
  obtain ⟨m, phase⟩ := s
  cases act with
  | call c => cases phase <;> exact ⟨_, _, rfl⟩
  | expire now => cases phase <;> exact ⟨_, _, rfl⟩
  | test =>
    cases phase with
    | idle => exact ⟨_, _, rfl⟩
    | calling now id timer => exact ⟨_, _, rfl⟩
    | testing now =>
      change ∃ s' fired, test now m = .ok (s', fired)
      unfold test
      by_cases ht : m.timersMap.entries = []
      · exact ⟨_, _, if_pos ht⟩
      rw [if_neg ht]
      cases he : m.eventsMap with
      | nil => exact absurd he (events_ne_nil h ht)
      | cons e rest =>
        by_cases hdue : e.1.1 ≤ now
        · exact ⟨_, _, if_pos hdue⟩
        · exact ⟨_, _, if_neg hdue⟩
  | callbackReturns =>
    cases phase with
    | idle => exact ⟨_, _, rfl⟩
    | testing now => exact ⟨_, _, rfl⟩
    | calling now id timer =>
      have hfirst := hu now id timer rfl
      cases he : m.eventsMap with
      | nil => rw [he] at hfirst; cases hfirst
      | cons e rest => exact ⟨_, _, by simp only [step, callbackReturns, he]; rfl⟩

/-- Everything an undisturbed step does to maps in step. -/
structure Kept (s : TimerLoop) (act : ExpiryAct) (s' : TimerLoop) (fired : List Firing) :
    Prop where
  inStep : s'.manager.InStep
  grows : s.manager.lastTimerId ≤ s'.manager.lastTimerId
  known : ∀ f ∈ fired, f.timerId ∈ s.manager.timersMap
  fresh : ∀ id ∈ s'.manager.timersMap, id ∈ s.manager.timersMap ∨ s.manager.lastTimerId < id
  keeps : ∀ id ∈ s.manager.timersMap, act ≠ .call (.removeTimer id) →
    id ∈ s'.manager.timersMap ∨ ∃ now timer, s.phase = .calling now id timer ∧ timer.repeats = false

theorem Kept.of_same {s s' : TimerLoop} {act : ExpiryAct} {fired : List Firing}
    (h : s'.manager.InStep) (ht : s'.manager.timersMap = s.manager.timersMap)
    (hlast : s'.manager.lastTimerId = s.manager.lastTimerId)
    (hknown : ∀ f ∈ fired, f.timerId ∈ s.manager.timersMap) : Kept s act s' fired where
  inStep := h
  grows := hlast.ge
  known := hknown
  fresh _ hid := Or.inl (ht ▸ hid)
  keeps _ hid _ := Or.inl (ht ▸ hid)

theorem Kept.of_stepped {m m' : TimerManager} {phase : ExpiryPhase} {act : TimerAct}
    {c : TimerCall} (h : Stepped m act m' [])
    (hact : ∀ id, act = .remove id → c = .removeTimer id) :
    Kept ⟨m, phase⟩ (.call c) ⟨m', phase⟩ [] where
  inStep := h.inStep
  grows := by
    show m.lastTimerId ≤ m'.lastTimerId
    rw [h.lastTimerId]
    exact Nat.le_add_right _ _
  known := h.known
  fresh := h.fresh
  keeps id hid hne := by
    rcases h.keeps id hid (fun heq => hne (by rw [hact id heq])) with hk | ⟨f, hf, -⟩
    · exact Or.inl hk
    · cases hf

theorem LoopMove.kept {s s' : TimerLoop} {act : ExpiryAct} {fired : List Firing}
    (h : s.manager.InStep) (hu : Undisturbed s act) (hmove : LoopMove s act s' fired) :
    Kept s act s' fired := by
  cases hmove with
  | outOfTurn => exact .of_same h rfl rfl fun f hf => by cases hf
  | expire => exact .of_same h rfl rfl fun f hf => by cases hf
  | leaves m now =>
    exact .of_same (modifyTimeout_inStep h) (modifyTimeout_timersMap m)
      (modifyTimeout_lastTimerId m) fun f hf => by cases hf
  | call c hruns =>
    cases c with
    | addTimer event stamp interval =>
      exact .of_stepped (stepped_add h event stamp interval (hu hruns)) fun id heq => by cases heq
    | removeTimer id =>
      exact .of_stepped (stepped_remove h (hu hruns)) fun other heq => by cases heq; rfl
  | @fires m now e rest he hdue =>
    refine .of_same h rfl rfl fun f hf => ?_
    rw [List.mem_singleton] at hf
    exact hf ▸ (h.same e.1.2).mpr (by simp [eventIds, he])
  | @settles m first rest now id timer he =>
    have hfirst := hu now id timer rfl
    change m.eventsMap.head? = _ at hfirst
    rw [he, List.head?_cons, Option.some.injEq] at hfirst
    subst hfirst
    refine ⟨settle_inStep now he h, (settle_lastTimerId ..).ge, fun f hf => ?_, ?_, ?_⟩
    · cases hf
    · exact fun other ho => Or.inl ((settle_mem he h).mp ho).1
    · intro other ho _
      by_cases hone : other = id → timer.repeats = true
      · exact Or.inl ((settle_mem he h).mpr ⟨ho, hone⟩)
      · rw [Classical.not_imp] at hone
        exact Or.inr ⟨now, timer, by rw [hone.1], Bool.eq_false_iff.mpr hone.2⟩

theorem step_kept {s s' : TimerLoop} {act : ExpiryAct} {fired : List Firing}
    (h : s.manager.InStep) (hu : Undisturbed s act) (hstep : step s act = .ok (s', fired)) :
    Kept s act s' fired :=
  (step_loopMove hstep).kept h hu

/-- Undisturbed runs meet no undefined operation. -/
theorem undisturbed_run {acts : List ExpiryAct} : ∀ {s : TimerLoop}, s.manager.InStep →
    Meets step Undisturbed s acts →
      ∃ s' fired, run step s acts = .ok (s', fired) ∧ s'.manager.InStep := by
  induction acts with
  | nil => exact fun h _ => ⟨_, [], rfl, h⟩
  | cons act acts ih =>
    intro s h hm
    obtain ⟨k, fired, hok⟩ := step_defined h hm.1
    obtain ⟨t, rest, hrun, ht⟩ := ih (step_kept h hm.1 hok).inStep (hm.2 _ _ hok)
    exact ⟨t, fired ++ rest, by rw [run_cons_eq hok, hrun]; rfl, ht⟩

theorem gone_kept {id : Nat} {s s' : TimerLoop} {act : ExpiryAct} {fired : List Firing}
    (h : Gone id s.manager) (hu : Undisturbed s act) (hstep : step s act = .ok (s', fired)) :
    Gone id s'.manager ∧ ∀ f ∈ fired, f.timerId ≠ id := by
  have hk := step_kept h.inStep hu hstep
  refine ⟨⟨hk.inStep, fun hm => ?_, h.issued.trans hk.grows⟩,
    fun f hf heq => h.absent (heq ▸ hk.known f hf)⟩
  rcases hk.fresh id hm with hold | hnew
  · exact h.absent hold
  · exact absurd h.issued (Nat.not_le.mpr hnew)

/-! ## A timer keeps its event -/

/-- A callback that is running has been logged, and `id` has its event unless it
has fired as a one-shot. -/
structure Pending (id : Nat) (s : TimerLoop) (log : List Firing) : Prop where
  inStep : s.manager.InStep
  logged : ∀ now id timer, s.phase = .calling now id timer → ⟨id, timer⟩ ∈ log
  pending : (∀ f ∈ log, f.timerId = id → f.timer.repeats = true) → id ∈ s.manager.timersMap

theorem LoopMove.logged {s s' : TimerLoop} {act : ExpiryAct} {fired log : List Firing}
    (hmove : LoopMove s act s' fired)
    (h : ∀ now id timer, s.phase = .calling now id timer → ⟨id, timer⟩ ∈ log) :
    ∀ now id timer, s'.phase = .calling now id timer → ⟨id, timer⟩ ∈ log ++ fired := by
  intro now id timer hphase
  cases hmove with
  | outOfTurn => exact List.mem_append_left _ (h now id timer hphase)
  | call c _ => exact List.mem_append_left _ (h now id timer hphase)
  | expire => cases hphase
  | leaves => cases hphase
  | settles => cases hphase
  | fires he hdue =>
    cases hphase
    exact List.mem_append_right _ (List.mem_singleton.mpr rfl)

theorem Pending.step {id : Nat} {s s' : TimerLoop} {act : ExpiryAct} {fired log : List Firing}
    (h : Pending id s log) (hu : Undisturbed s act) (hne : act ≠ .call (.removeTimer id))
    (hstep : step s act = .ok (s', fired)) : Pending id s' (log ++ fired) := by
  have hk := step_kept h.inStep hu hstep
  refine ⟨hk.inStep, (step_loopMove hstep).logged h.logged, fun hone => ?_⟩
  have hold := h.pending fun f hf => hone f (List.mem_append_left _ hf)
  rcases hk.keeps id hold hne with hkept | ⟨now, timer, hphase, hshot⟩
  · exact hkept
  · have := hone _ (List.mem_append_left _ (h.logged now id timer hphase)) rfl
    rw [hshot] at this
    cases this

/-! ## One call fires a timer once -/

/-- `log` is what one call has fired so far: no timer twice, and none of them has
an event that is due, but for the one whose callback is running. -/
structure FiredOnce (s : TimerLoop) (log : List Firing) : Prop where
  inStep : s.manager.InStep
  once : (log.map fun f => f.timerId).Nodup
  issued : ∀ f ∈ log, f.timerId ≤ s.manager.lastTimerId
  later : ∀ now, s.phase.timePoint = some now → ∀ f ∈ log, s.phase.called ≠ some f.timerId →
    ∀ e ∈ s.manager.eventsMap, e.1.2 = f.timerId → now < e.1.1

/-- A call that a callback makes adds no event of a timer handed out before. -/
theorem mem_call {s : TimerLoop} {c : TimerCall} (hruns : s.phase.RunsHandlers)
    (hu : Undisturbed s (.call c)) {e : TimerIndex × Timer}
    (he : e ∈ (s.manager.call c).eventsMap) (hid : e.1.2 ≤ s.manager.lastTimerId) :
    e ∈ s.manager.eventsMap := by
  cases c with
  | removeTimer id => exact mem_removeTimer he
  | addTimer event stamp interval =>
    have hnext : s.manager.nextTimerId = s.manager.lastTimerId + 1 := Nat.mod_eq_of_lt (hu hruns)
    change e ∈ (s.manager.addTimer event stamp interval).eventsMap at he
    rw [addTimer_eventsMap, hnext] at he
    rcases mem_insertEvent.mp he with rfl | hold
    · exact absurd hid (Nat.not_succ_le_self _)
    · exact hold

theorem FiredOnce.fires {m : TimerManager} {now : Int} {log : List Firing}
    {e : TimerIndex × Timer} {rest : List (TimerIndex × Timer)}
    (h : FiredOnce ⟨m, .testing now⟩ log) (he : m.eventsMap = e :: rest) (hdue : e.1.1 ≤ now) :
    FiredOnce ⟨m, .calling now e.1.2 e.2⟩ (log ++ [firing e]) := by
  have hmem : e ∈ m.eventsMap := by rw [he]; exact List.mem_cons_self
  have hnew : e.1.2 ∉ log.map fun f => f.timerId := by
    intro hlog
    obtain ⟨f, hf, hid⟩ := List.mem_map.mp hlog
    exact not_lt.mpr hdue (h.later now rfl f hf nofun e hmem hid.symm)
  refine ⟨h.inStep, ?_, fun f hf => ?_, fun t ht f hf hother d hd hid => ?_⟩
  · rw [List.map_append]
    refine List.nodup_append.mpr ⟨h.once, List.nodup_singleton _, fun a ha b hb heq => hnew ?_⟩
    have hb : b = e.1.2 := List.mem_singleton.mp hb
    exact hb ▸ heq ▸ ha
  · rcases List.mem_append.mp hf with hf | hf
    · exact h.issued f hf
    · rw [List.mem_singleton.mp hf]
      exact (h.inStep.issued _ ((h.inStep.same _).mpr (List.mem_map.mpr ⟨e, hmem, rfl⟩))).2
  · cases ht
    rcases List.mem_append.mp hf with hf | hf
    · exact h.later now rfl f hf nofun d hd hid
    · exact absurd (by rw [List.mem_singleton.mp hf]; rfl) hother

theorem FiredOnce.settles {m : TimerManager} {now : Int} {id : Nat} {timer : Timer}
    {log : List Firing} {rest : List (TimerIndex × Timer)}
    (h : FiredOnce ⟨m, .calling now id timer⟩ log)
    (he : m.eventsMap = ((timer.timeStamp, id), timer) :: rest) :
    FiredOnce ⟨m.settle now id timer rest, .testing now⟩ log := by
  have hnot : ∀ d ∈ rest, d.1.2 ≠ id := fun d hd heq =>
    h.inStep.head_once he (List.mem_map.mpr ⟨d, hd, heq⟩)
  have hrest : ∀ f ∈ log, ∀ d ∈ rest, d.1.2 = f.timerId → now < d.1.1 := by
    intro f hf d hd hid
    refine h.later now rfl f hf ?_ d (by rw [he]; exact List.mem_cons_of_mem _ hd) hid
    exact fun hc => hnot d hd (hid.trans (Option.some.inj hc).symm)
  refine ⟨settle_inStep now he h.inStep, h.once, fun f hf => ?_, fun t ht f hf _ d hd hid => ?_⟩
  · exact (h.issued f hf).trans (settle_lastTimerId ..).ge
  · cases ht
    rcases mem_settle hd with hd | hlater
    · exact hrest f hf d hd hid
    · exact hlater

theorem FiredOnce.step {s s' : TimerLoop} {act : ExpiryAct} {fired log : List Firing}
    (h : FiredOnce s log) (hu : Undisturbed s act) (hne : ∀ now, act ≠ .expire now)
    (hstep : step s act = .ok (s', fired)) : FiredOnce s' (log ++ fired) := by
  have hk := step_kept h.inStep hu hstep
  cases step_loopMove hstep with
  | outOfTurn => rwa [List.append_nil]
  | expire m now => exact absurd rfl (hne now)
  | leaves m now =>
    rw [List.append_nil]
    exact ⟨hk.inStep, h.once, fun f hf => (h.issued f hf).trans hk.grows, nofun⟩
  | fires he hdue => exact h.fires he hdue
  | call c hruns =>
    rw [List.append_nil]
    refine ⟨hk.inStep, h.once, fun f hf => (h.issued f hf).trans hk.grows, ?_⟩
    intro now hnow f hf hother e he hid
    exact h.later now hnow f hf hother e
      (mem_call hruns hu he (hid ▸ h.issued f hf)) hid
  | @settles m first rest now id timer he =>
    have hfirst := hu now id timer rfl
    change m.eventsMap.head? = _ at hfirst
    rw [he, List.head?_cons, Option.some.injEq] at hfirst
    rw [List.append_nil]
    exact h.settles (hfirst ▸ he)

/-! ## The promise of the timer API to callbacks -/

/-- In every run of the loop, of callbacks that add and remove timers, and of
calls made between expirations: `m_events_map_` is never looked at or erased at
its end; whenever `HandleTimerEvent` has returned, a timer that was neither
removed nor fired as a one-shot has kept its event; one call fires no event
twice; and a removed timer does not fire. -/
structure CallbacksSafe (acts : List ExpiryAct) : Prop where
  defined : ∃ s fired, run step {} acts = .ok (s, fired)
  pending : ∀ pre mid post s log s' later id, acts = pre ++ (mid ++ post) →
    run step {} pre = .ok (s, log) → id ∈ s.manager.eventIds →
    run step s mid = .ok (s', later) → s'.phase = .idle → .call (.removeTimer id) ∉ mid →
    (∀ f ∈ log ++ later, f.timerId = id → f.timer.repeats = true) → id ∈ s'.manager.eventIds
  once : ∀ pre mid post s log s' fired, acts = pre ++ (mid ++ post) →
    run step {} pre = .ok (s, log) → (∀ now, .expire now ∉ mid) →
    run step s mid = .ok (s', fired) →
    (fired.map fun f => (f.timer.timeStamp, f.timerId)).Nodup
  silent : ∀ pre id post s log s' later, acts = pre ++ .call (.removeTimer id) :: post →
    run step {} pre = .ok (s, log) → s.phase.RunsHandlers → id ≤ s.manager.lastTimerId →
    run step s (.call (.removeTimer id) :: post) = .ok (s', later) → ∀ f ∈ later, f.timerId ≠ id

/-- What holds wherever an undisturbed run has come. -/
theorem run_held {acts : List ExpiryAct} {s : TimerLoop} {log : List Firing}
    (hm : Meets step Undisturbed {} acts) (hrun : run step {} acts = .ok (s, log)) :
    s.manager.InStep ∧ ∀ now id timer, s.phase = .calling now id timer → ⟨id, timer⟩ ∈ log := by
  have hstart : ∀ now id timer, ({} : TimerLoop).phase = .calling now id timer →
      ⟨id, timer⟩ ∈ ([] : List Firing) := by
    intro now id timer h
    cases h
  exact run_logged (fun (s : TimerLoop) log => s.manager.InStep ∧
    ∀ now id timer, s.phase = .calling now id timer → ⟨id, timer⟩ ∈ log)
    (fun s act s' log out h hu hstep =>
      ⟨(step_kept h.1 hu hstep).inStep, (step_loopMove hstep).logged h.2⟩)
    ⟨inStep_empty, hstart⟩ hm hrun

theorem run_pending {id : Nat} {acts : List ExpiryAct} {s s' : TimerLoop} {log later : List Firing}
    (h : Pending id s log) (hm : Meets step Undisturbed s acts)
    (hno : .call (.removeTimer id) ∉ acts) (hrun : run step s acts = .ok (s', later)) :
    Pending id s' (log ++ later) := by
  have hkept : ∀ act ∈ acts, act ≠ .call (.removeTimer id) := fun act hact heq => hno (heq ▸ hact)
  exact run_logged (Pending id)
    (fun _ _ _ _ _ hp hok hstep => hp.step hok.1 hok.2 hstep) h
    (meets_and hm (meets_of_forall hkept)) hrun

theorem run_firedOnce {acts : List ExpiryAct} {s s' : TimerLoop} {fired : List Firing}
    (h : s.manager.InStep) (hm : Meets step Undisturbed s acts)
    (hno : ∀ now, .expire now ∉ acts) (hrun : run step s acts = .ok (s', fired)) :
    FiredOnce s' fired := by
  have hkept : ∀ act ∈ acts, ∀ now, act ≠ .expire now :=
    fun act hact now heq => hno now (heq ▸ hact)
  have hstart : FiredOnce s [] := ⟨h, List.nodup_nil, nofun, nofun⟩
  exact run_logged FiredOnce
    (fun _ _ _ _ _ hf hok hstep => hf.step hok.1 hok.2 hstep) hstart
    (meets_and hm (meets_of_forall hkept)) hrun

/-- **Callbacks may use the timer API** in every run in which the event of a
callback is still the first one when the callback returns. -/
theorem callbacks_safe (acts : List ExpiryAct) (hacts : Meets step Undisturbed {} acts) :
    CallbacksSafe acts := by
  constructor
  · obtain ⟨s, fired, hrun, -⟩ := undisturbed_run inStep_empty hacts
    exact ⟨s, fired, hrun⟩
  · intro pre mid post s log s' later id heq hpre hid hmid _ hno hone
    subst heq
    obtain ⟨hbefore, hafter⟩ := meets_append hacts hpre
    obtain ⟨hin, hlogged⟩ := run_held hbefore hpre
    have hend := run_pending ⟨hin, hlogged, fun _ => (hin.same id).mpr hid⟩
      (meets_append hafter hmid).1 hno hmid
    exact (hend.inStep.same id).mp (hend.pending hone)
  · intro pre mid post s log s' fired heq hpre hno hmid
    subst heq
    obtain ⟨hbefore, hafter⟩ := meets_append hacts hpre
    have hwithin := (meets_append hafter hmid).1
    have honce := (run_firedOnce (run_held hbefore hpre).1 hwithin hno hmid).once
    refine List.Nodup.of_map Prod.snd ?_
    rwa [List.map_map]
  · intro pre id post s log s' later heq hpre hruns hid hpost
    subst heq
    obtain ⟨hbefore, hafter⟩ := meets_append hacts hpre
    have hin := (run_held hbefore hpre).1
    have hcall := step_call hruns (.removeTimer id)
    have hremove : s.manager.Removable id := hafter.1 hruns
    obtain ⟨k, first, rest, hk, hrest, rfl⟩ := run_cons hpost
    rw [hcall] at hk
    cases hk
    refine run_outputs (fun t => Gone id t.manager) (fun f => f.timerId ≠ id)
      (fun _ _ _ _ hg hu hstep => gone_kept hg hu hstep) ?_ (hafter.2 _ _ hcall) hrest
    have hgone := stepped_remove hin hremove
    exact ⟨hgone.inStep, hgone.removed id rfl, hid.trans hgone.lastTimerId.ge⟩

/-- A test of `Undisturbed`. -/
def checkUndisturbed (s : TimerLoop) : ExpiryAct → Bool
  | .call (.addTimer ..) => decide (s.manager.lastTimerId + 1 < 2 ^ 32)
  | .call (.removeTimer id) =>
    match s.manager.timersMap.lookup id with
    | none => true
    | some timer => s.manager.eventsMap.any fun e => decide (e.1 = (timer.timeStamp, id))
  | .callbackReturns =>
    match s.phase with
    | .calling _ id timer =>
      decide (s.manager.eventsMap.head? = some ((timer.timeStamp, id), timer))
    | _ => true
  | _ => true

theorem undisturbed_of_check (s : TimerLoop) (act : ExpiryAct)
    (h : checkUndisturbed s act = true) : Undisturbed s act := by
  cases act with
  | expire now => trivial
  | test => trivial
  | call c =>
    cases c with
    | addTimer event stamp interval => exact fun _ => of_decide_eq_true h
    | removeTimer id =>
      intro _ timer hl
      simp only [checkUndisturbed, hl, List.any_eq_true, decide_eq_true_eq] at h
      exact h
  | callbackReturns =>
    intro now id timer hphase
    simp only [checkUndisturbed, hphase, decide_eq_true_eq] at h
    exact h

/-- The callback of a periodic timer adds a one-shot for later and removes the
timer behind it; the timer it added is removed from outside. -/
theorem callbacks_safe_sample :
    CallbacksSafe [.call (.addTimer (some 1) 10 10), .call (.addTimer (some 2) 12 0), .expire 15,
      .test, .call (.addTimer (some 3) 20 0), .call (.removeTimer 2), .callbackReturns, .test,
      .call (.removeTimer 3)] :=
  callbacks_safe _ (meets_of_checkMeets undisturbed_of_check (by decide +kernel))

/-- The callback of the only timer adds a timer for an earlier time: the new
event is erased instead of the one that was fired, which is fired again. -/
theorem earlier_timer_disturbs :
    ¬ CallbacksSafe [.call (.addTimer (some 1) 10 0), .expire 10, .test,
      .call (.addTimer (some 2) 5 0), .callbackReturns, .test] := by
  intro h
  have honce := h.once [.call (.addTimer (some 1) 10 0), .expire 10]
    [.test, .call (.addTimer (some 2) 5 0), .callbackReturns, .test] [] _ _ _ _ rfl rfl
    (by intro now; simp) rfl
  exact absurd honce (by decide)

/-- What is lost where the condition fails: the loop erases nothing at all, or
the event of a timer that it has not fired. -/
theorem disturbed_return {m : TimerManager} {now : Int} {id : Nat} {timer : Timer}
    (h : m.InStep) (hother : ∀ e ∈ m.eventsMap.head?, e.1.2 ≠ id) :
    step ⟨m, .calling now id timer⟩ .callbackReturns = .error .beginOfEmpty ∨
      ∃ e ∈ m.eventsMap, e.1.2 ≠ id ∧ ∃ s' fired,
        step ⟨m, .calling now id timer⟩ .callbackReturns = .ok (s', fired) ∧
          e.1.2 ∉ s'.manager.eventIds := by
  cases he : m.eventsMap with
  | nil => exact Or.inl (by simp [step, callbackReturns, he])
  | cons e rest =>
    have hne : e.1.2 ≠ id := hother e (by rw [he]; rfl)
    have hlost := h.head_once he
    refine Or.inr ⟨e, List.mem_cons_self, hne, ⟨m.settle now id timer rest, .testing now⟩, [],
      ?_, ?_⟩
    · simp only [step, callbackReturns, he]
    · show e.1.2 ∉ (m.settle now id timer rest).eventIds
      unfold settle eventIds
      split
      · rw [(eventIds_insertEvent _ rest).mem_iff, List.mem_cons, not_or]
        exact ⟨hne, hlost⟩
      · exact hlost

end TimerLoop
end MyRtspServer.Net
