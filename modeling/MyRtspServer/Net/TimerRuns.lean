import MyRtspServer.Net.TimerInvariant

/-!
# Runs of the timer manager

Ids are handed out in increasing order, so an id that has been removed never
comes back while fewer than 2^32 timers are added. Together with the two maps
being in step this says that a removed timer never fires again and that no
other timer loses its event. The clock may read anything at all.
-/
namespace MyRtspServer.Net

open Library.Transition TimerManager

/-- A removal finds the event where `m_timers_map_` says it is. -/
def SafeRemoval (m : TimerManager) : TimerAct → Prop
  | .remove id => m.Removable id
  | _ => True

/-- A step with a safe removal that does not wrap `last_timer_id_`. -/
structure SoundStep (m : TimerManager) (act : TimerAct) : Prop where
  safe : SafeRemoval m act
  room : act.isAdd = true → m.lastTimerId + 1 < 2 ^ 32

/-- Everything a sound step does to maps in step. -/
structure Stepped (m : TimerManager) (act : TimerAct) (m' : TimerManager)
    (fired : List Firing) : Prop where
  inStep : m'.InStep
  lastTimerId : m'.lastTimerId = m.lastTimerId + if act.isAdd then 1 else 0
  known : ∀ f ∈ fired, f.timerId ∈ m.timersMap
  fresh : ∀ id ∈ m'.timersMap, id ∈ m.timersMap ∨ m.lastTimerId < id
  removed : ∀ id, act = .remove id → id ∉ m'.timersMap
  keeps : ∀ id ∈ m.timersMap, act ≠ .remove id →
    id ∈ m'.timersMap ∨ ∃ f ∈ fired, f.timerId = id ∧ f.timer.repeats = false

theorem stepped_add {m : TimerManager} (h : m.InStep) (event : Option Nat) (stamp : Int)
    (interval : Nat) (hw : m.lastTimerId + 1 < 2 ^ 32) :
    Stepped m (.add event stamp interval) (m.addTimer event stamp interval) [] := by
  have hnext : m.nextTimerId = m.lastTimerId + 1 := Nat.mod_eq_of_lt hw
  have hin := addTimer_inStep h hw event stamp interval
  have hids : ∀ id, id ∈ (m.addTimer event stamp interval).timersMap ↔
      id = m.lastTimerId + 1 ∨ id ∈ m.timersMap := by
    intro id
    rw [hin.same, eventIds, addTimer_eventsMap, hnext,
      (eventIds_insertEvent _ m.eventsMap).mem_iff, List.mem_cons, h.same]
    rfl
  constructor
  · exact hin
  · rw [addTimer_lastTimerId, hnext]
    rfl
  · intro f hf
    cases hf
  · intro id hid
    rcases (hids id).mp hid with rfl | hid
    · exact Or.inr (Nat.lt_succ_self _)
    · exact Or.inl hid
  · intro id hact
    cases hact
  · intro id hid _
    exact Or.inl ((hids id).mpr (Or.inr hid))

theorem stepped_remove {m : TimerManager} (h : m.InStep) {id : Nat} (hr : m.Removable id) :
    Stepped m (.remove id) (m.removeTimer id) [] := by
  constructor
  · exact removeTimer_inStep h hr
  · rw [removeTimer_lastTimerId]
    rfl
  · intro f hf
    cases hf
  · intro other ho
    exact Or.inl (removeTimer_mem.mp ho).2
  · intro other hact
    cases hact
    exact fun hm => (removeTimer_mem.mp hm).1 rfl
  · intro other ho hne
    exact Or.inl (removeTimer_mem.mpr ⟨fun heq => hne (by rw [heq]), ho⟩)

theorem timerStep_stepped {m : TimerManager} (h : m.InStep) {act : TimerAct}
    (hs : SoundStep m act) :
    ∃ m' fired, timerStep m act = .ok (m', fired) ∧ Stepped m act m' fired := by
  cases act with
  | add event stamp interval =>
    exact ⟨_, [], rfl, stepped_add h event stamp interval (hs.room rfl)⟩
  | remove id => exact ⟨_, [], rfl, stepped_remove h hs.safe⟩
  | handle now =>
    obtain ⟨m', fired, hf, hr⟩ := handleTimerEvent_fired now h
    refine ⟨m', fired, hf, hr.inStep, hr.lastTimerId, hr.known, ?_, ?_, ?_⟩
    · exact fun id hid => Or.inl (hr.shrinks id hid)
    · intro id hact
      cases hact
    · exact fun id hid _ => hr.keeps id hid

/-- Below 2^32 additions no step wraps the id counter. -/
theorem meets_sound {acts : List TimerAct} : ∀ {m : TimerManager}, m.InStep →
    m.lastTimerId + acts.countP TimerAct.isAdd < 2 ^ 32 →
    Meets timerStep SafeRemoval m acts → Meets timerStep SoundStep m acts := by
  induction acts with
  | nil => intro m _ _ _; trivial
  | cons act acts ih =>
    intro m h hw hm
    rw [List.countP_cons] at hw
    have hsound : SoundStep m act := ⟨hm.1, fun ha => by rw [ha] at hw; simp at hw; omega⟩
    refine ⟨hsound, fun m' out hstep => ?_⟩
    obtain ⟨k, fired, hok, hk⟩ := timerStep_stepped h hsound
    rw [hok] at hstep
    cases hstep
    refine ih hk.inStep ?_ (hm.2 _ _ hok)
    rw [hk.lastTimerId]
    omega

/-- Sound runs meet no undefined operation. -/
theorem sound_run {acts : List TimerAct} : ∀ {m : TimerManager}, m.InStep →
    Meets timerStep SoundStep m acts →
      ∃ m' fired, run timerStep m acts = .ok (m', fired) ∧ m'.InStep := by
  induction acts with
  | nil => intro m h _; exact ⟨m, [], rfl, h⟩
  | cons act acts ih =>
    intro m h hm
    obtain ⟨k, fired, hok, hk⟩ := timerStep_stepped h hm.1
    obtain ⟨t, rest, hrun, ht⟩ := ih hk.inStep (hm.2 _ _ hok)
    refine ⟨t, fired ++ rest, ?_, ht⟩
    rw [run, hok]
    simp only [hrun]

/-- The manager has forgotten `id` and will not hand it out again. -/
structure Gone (id : Nat) (m : TimerManager) : Prop where
  inStep : m.InStep
  absent : id ∉ m.timersMap
  issued : id ≤ m.lastTimerId

theorem gone_step {id : Nat} {m m' : TimerManager} {act : TimerAct} {fired : List Firing}
    (h : Gone id m) (hs : SoundStep m act) (hstep : timerStep m act = .ok (m', fired)) :
    Gone id m' ∧ ∀ f ∈ fired, f.timerId ≠ id := by
  obtain ⟨k, out, hok, hk⟩ := timerStep_stepped h.inStep hs
  rw [hok] at hstep
  cases hstep
  refine ⟨⟨hk.inStep, fun hm => ?_, ?_⟩, fun f hf heq => h.absent (heq ▸ hk.known f hf)⟩
  · rcases hk.fresh id hm with hold | hnew
    · exact h.absent hold
    · exact absurd h.issued (Nat.not_le.mpr hnew)
  · rw [hk.lastTimerId]
    have := h.issued
    omega

/-- A timer keeps its event until it is removed or fires as a one-shot. -/
theorem pending_kept {id : Nat} {acts : List TimerAct} : ∀ {m m' : TimerManager}
    {fired : List Firing}, m.InStep → Meets timerStep SoundStep m acts → id ∈ m.timersMap →
    run timerStep m acts = .ok (m', fired) → .remove id ∉ acts →
    (∀ f ∈ fired, f.timerId = id → f.timer.repeats = true) → id ∈ m'.eventIds := by
  induction acts with
  | nil =>
    intro m m' fired h _ hid hrun _ _
    cases hrun
    exact (h.same id).mp hid
  | cons act acts ih =>
    intro m m' fired h hm hid hrun hno hone
    obtain ⟨k, first, rest, hstep, hr, rfl⟩ := run_cons hrun
    obtain ⟨k', out, hok, hk⟩ := timerStep_stepped h hm.1
    rw [hok] at hstep
    cases hstep
    rw [List.mem_cons, not_or] at hno
    refine ih hk.inStep (hm.2 _ _ hok) ?_ hr hno.2
      fun f hf => hone f (List.mem_append_right _ hf)
    rcases hk.keeps id hid (fun heq => hno.1 heq.symm) with hkept | ⟨f, hf, hfi, hshot⟩
    · exact hkept
    · have := hone f (List.mem_append_left _ hf) hfi
      rw [hshot] at this
      cases this

/-! ## The promise of `RemoveTimer` -/

/-- In every state of the run the two maps hold the same ids, each once; once
`RemoveTimer(id)` has returned for an id handed out before, `id` never fires;
and a timer neither removed nor fired as a one-shot has its pending event. -/
structure TimersHold (acts : List TimerAct) : Prop where
  defined : ∃ m fired, run timerStep {} acts = .ok (m, fired)
  inStep : ∀ pre post m fired, acts = pre ++ post → run timerStep {} pre = .ok (m, fired) →
    m.timersMap.keys.Nodup ∧ m.eventIds.Nodup ∧ ∀ id, id ∈ m.timersMap.keys ↔ id ∈ m.eventIds
  silent : ∀ pre id post m fired m' later, acts = pre ++ .remove id :: post →
    run timerStep {} (pre ++ [.remove id]) = .ok (m, fired) → id ≤ m.lastTimerId →
    run timerStep m post = .ok (m', later) → ∀ f ∈ later, f.timerId ≠ id
  pending : ∀ pre post m fired m' later id, acts = pre ++ post →
    run timerStep {} pre = .ok (m, fired) → id ∈ m.timersMap →
    run timerStep m post = .ok (m', later) → .remove id ∉ post →
    (∀ f ∈ later, f.timerId = id → f.timer.repeats = true) → id ∈ m'.eventIds

/-- **Removed timers never fire**, in every run of fewer than 2^32 additions in
which no periodic timer is removed after it has been rescheduled. -/
theorem timers_hold (acts : List TimerAct) (hadds : acts.countP TimerAct.isAdd < 2 ^ 32)
    (hsafe : Meets timerStep SafeRemoval {} acts) : TimersHold acts := by
  have hsound : Meets timerStep SoundStep {} acts :=
    meets_sound inStep_empty (by simpa using hadds) hsafe
  constructor
  · obtain ⟨m, fired, hrun, -⟩ := sound_run inStep_empty hsound
    exact ⟨m, fired, hrun⟩
  · intro pre post m fired hacts hrun
    subst hacts
    obtain ⟨k, out, hok, hk⟩ := sound_run inStep_empty (meets_append hsound hrun).1
    rw [hok] at hrun
    cases hrun
    exact ⟨m.timersMap.keys_nodup, hk.once, hk.same⟩
  · intro pre id post m fired m' later hacts hrun hid hpost
    rw [List.append_cons] at hacts
    subst hacts
    obtain ⟨hpre, hmeets⟩ := meets_append hsound hrun
    obtain ⟨k, a, b, hk, hlast, -⟩ := run_append hrun
    obtain ⟨k', out, hok, hin⟩ := sound_run inStep_empty (meets_append hpre hk).1
    rw [hk] at hok
    cases hok
    obtain ⟨n, first, rest, hstep, hnil, -⟩ := run_cons hlast
    cases hnil
    obtain ⟨n', out', hok', hn⟩ := timerStep_stepped hin (meets_append hpre hk).2.1
    rw [hstep] at hok'
    cases hok'
    refine run_outputs (Gone id) (fun f => f.timerId ≠ id)
      (fun _ _ _ _ hg hs ht => gone_step hg hs ht) ?_ hmeets hpost
    exact ⟨hn.inStep, hn.removed id rfl, hid⟩
  · intro pre post m fired m' later id hacts hrun hid hpost hno hone
    subst hacts
    obtain ⟨hpre, hmeets⟩ := meets_append hsound hrun
    obtain ⟨k, out, hok, hk⟩ := sound_run inStep_empty hpre
    rw [hok] at hrun
    cases hrun
    exact pending_kept hk hmeets hid hpost hno hone

/-- A one-shot and a periodic timer, one firing of each, and the removal of a
periodic timer before it fires. -/
theorem timers_hold_sample :
    TimersHold [.add (some 1) 5 0, .add (some 2) 10 10, .add (some 3) 40 10, .handle 12,
      .remove 3, .handle 30] := by
  apply timers_hold
  · decide
  · refine ⟨trivial, fun _ _ h => ?_⟩
    cases h
    refine ⟨trivial, fun _ _ h => ?_⟩
    cases h
    refine ⟨trivial, fun _ _ h => ?_⟩
    cases h
    refine ⟨trivial, fun _ _ h => ?_⟩
    cases h
    refine ⟨fun timer ht => ?_, fun _ _ h => ?_⟩
    · cases ht
      decide
    cases h
    exact ⟨trivial, fun _ _ _ => trivial⟩

/-- A periodic timer fires at 10, is rescheduled for 20 and removed; another
timer keeps `m_timers_map_` from being empty. -/
def rescheduledRun : List TimerAct :=
  [.add (some 1) 10 10, .add (some 2) 100 0, .handle 10, .remove 1, .handle 20]

theorem removed_timer_fires : ¬ TimersHold rescheduledRun := by
  intro h
  have hsilent := h.silent [.add (some 1) 10 10, .add (some 2) 100 0, .handle 10] 1 [.handle 20]
    _ _ _ _ rfl rfl (by decide) rfl
  exact absurd hsilent (by decide)

end MyRtspServer.Net
