import MyRtspServer.Net.Timer

/-!
# The two maps of the timer manager

`AddTimer`, `RemoveTimer` and `HandleTimerEvent` keep `m_timers_map_` and
`m_events_map_` on the same ids as long as no periodic timer is removed after it
has been rescheduled: `HandleTimerEvent` writes the new deadline into one map
only, and `RemoveTimer` looks for the event under the deadline of the other.
-/
namespace MyRtspServer.Net

open Library.Transition

namespace TimerManager

/-- The ids with a pending event, in firing order. -/
def eventIds (m : TimerManager) : List Nat := m.eventsMap.map fun e => e.1.2

/-- Both maps hold the same ids, each once, and all of them were handed out. -/
structure InStep (m : TimerManager) : Prop where
  once : m.eventIds.Nodup
  same : ∀ id, id ∈ m.timersMap ↔ id ∈ m.eventIds
  issued : ∀ id ∈ m.timersMap, 0 < id ∧ id ≤ m.lastTimerId

/-- The event of `id`, if it has one, still stands under the deadline that
`m_timers_map_` keeps: `id` is not a periodic timer that has fired. -/
def Removable (m : TimerManager) (id : Nat) : Prop :=
  ∀ timer, m.timersMap.lookup id = some timer →
    ∃ e ∈ m.eventsMap, e.1 = (timer.timeStamp, id)

/-- The id of the first event has no other event. -/
theorem InStep.head_once {m : TimerManager} {e : TimerIndex × Timer}
    {rest : List (TimerIndex × Timer)} (h : m.InStep) (he : m.eventsMap = e :: rest) :
    e.1.2 ∉ rest.map fun d => d.1.2 := by
  have honce := h.once
  rw [eventIds, he, List.map_cons, List.nodup_cons] at honce
  exact honce.1

theorem inStep_empty : InStep {} where
  once := List.nodup_nil
  same id := by simp [eventIds]
  issued id h := absurd h (AList.notMem_empty id)

theorem modifyTimeout_inStep {m : TimerManager} (h : m.InStep) : m.modifyTimeout.InStep where
  once := by simpa [eventIds] using h.once
  same := by simpa [eventIds] using h.same
  issued := by simpa using h.issued

theorem eventIds_insertEvent (entry : TimerIndex × Timer) (l : List (TimerIndex × Timer)) :
    ((insertEvent entry l).map fun e => e.1.2).Perm (entry.1.2 :: l.map fun e => e.1.2) :=
  (insertEvent_perm entry l).map _

theorem addTimer_inStep {m : TimerManager} (h : m.InStep) (hw : m.lastTimerId + 1 < 2 ^ 32)
    (event : Option Nat) (stamp : Int) (interval : Nat) :
    (m.addTimer event stamp interval).InStep := by
  have hnext : m.nextTimerId = m.lastTimerId + 1 := Nat.mod_eq_of_lt hw
  have hnew : m.lastTimerId + 1 ∉ m.timersMap := by
    intro hmem
    have := (h.issued _ hmem).2
    omega
  have htimers : (m.addTimer event stamp interval).timersMap =
      m.timersMap.insert (m.lastTimerId + 1) (Timer.create event stamp interval) := by
    simp [addTimer, hnext, hnew]
  have hperm := eventIds_insertEvent
    ((stamp, m.lastTimerId + 1), Timer.create event stamp interval) m.eventsMap
  constructor
  · rw [eventIds, addTimer_eventsMap, hnext]
    refine hperm.nodup_iff.mpr (List.nodup_cons.mpr ⟨fun hmem => hnew ?_, h.once⟩)
    exact (h.same _).mpr hmem
  · intro id
    rw [htimers, AList.mem_insert, eventIds, addTimer_eventsMap, hnext, hperm.mem_iff,
      List.mem_cons]
    exact or_congr_right (h.same id)
  · intro id hid
    rw [htimers, AList.mem_insert] at hid
    rw [addTimer_lastTimerId, hnext]
    rcases hid with rfl | hid
    · omega
    · have := h.issued id hid
      omega

theorem removeTimer_of_lookup {m : TimerManager} {id : Nat} {timer : Timer}
    (hl : m.timersMap.lookup id = some timer) :
    (m.removeTimer id).timersMap = m.timersMap.erase id ∧
      (m.removeTimer id).eventsMap =
        m.eventsMap.filter fun e => decide (e.1 ≠ (timer.timeStamp, id)) := by
  simp [removeTimer, hl]

theorem removeTimer_of_absent {m : TimerManager} {id : Nat}
    (hl : m.timersMap.lookup id = none) :
    (m.removeTimer id).timersMap = m.timersMap ∧ (m.removeTimer id).eventsMap = m.eventsMap := by
  simp [removeTimer, hl]

theorem mem_removeTimer {m : TimerManager} {id : Nat} {e : TimerIndex × Timer}
    (he : e ∈ (m.removeTimer id).eventsMap) : e ∈ m.eventsMap := by
  cases hl : m.timersMap.lookup id with
  | none => rwa [(removeTimer_of_absent hl).2] at he
  | some timer =>
    rw [(removeTimer_of_lookup hl).2] at he
    exact List.mem_of_mem_filter he

/-- With ids unique, the event of `id` is the one under the key looked up. -/
theorem event_key {m : TimerManager} (h : m.InStep) {id : Nat} {stamp : Int}
    (hkey : ∃ e ∈ m.eventsMap, e.1 = (stamp, id)) {e : TimerIndex × Timer}
    (he : e ∈ m.eventsMap) : e.1 = (stamp, id) ↔ e.1.2 = id := by
  refine ⟨fun hk => by rw [hk], fun hid => ?_⟩
  obtain ⟨d, hd, hdk⟩ := hkey
  have hde : d = e :=
    List.inj_on_of_nodup_map h.once hd he (by rw [hdk, hid])
  rw [← hde, hdk]

theorem removeTimer_eventIds {m : TimerManager} (h : m.InStep) {id : Nat} {timer : Timer}
    (hl : m.timersMap.lookup id = some timer) (hr : m.Removable id) :
    (m.removeTimer id).eventIds = m.eventIds.filter fun i => decide (i ≠ id) := by
  rw [eventIds, (removeTimer_of_lookup hl).2, eventIds, List.filter_map]
  congr 1
  apply List.filter_congr
  intro e he
  have hk := event_key h (hr timer hl) he
  simp only [Function.comp_apply, ne_eq, hk]

theorem removeTimer_mem {m : TimerManager} {id other : Nat} :
    other ∈ (m.removeTimer id).timersMap ↔ other ≠ id ∧ other ∈ m.timersMap := by
  cases hl : m.timersMap.lookup id with
  | some timer => rw [(removeTimer_of_lookup hl).1, AList.mem_erase]
  | none =>
    rw [(removeTimer_of_absent hl).1]
    refine ⟨fun ho => ⟨fun he => ?_, ho⟩, fun ho => ho.2⟩
    exact AList.lookup_eq_none.mp hl (he ▸ ho)

theorem removeTimer_inStep {m : TimerManager} (h : m.InStep) {id : Nat}
    (hr : m.Removable id) : (m.removeTimer id).InStep := by
  cases hl : m.timersMap.lookup id with
  | none =>
    obtain ⟨ht, he⟩ := removeTimer_of_absent hl
    refine ⟨?_, ?_, ?_⟩
    · rw [eventIds, he]; exact h.once
    · intro i; rw [ht, eventIds, he]; exact h.same i
    · intro i hi; rw [ht] at hi; rw [removeTimer_lastTimerId]; exact h.issued i hi
  | some timer =>
    have hids := removeTimer_eventIds h hl hr
    refine ⟨?_, ?_, ?_⟩
    · rw [hids]; exact h.once.filter _
    · intro i
      rw [removeTimer_mem, hids, List.mem_filter, decide_eq_true_eq, h.same i, and_comm]
    · intro i hi
      rw [removeTimer_lastTimerId]
      exact h.issued i (removeTimer_mem.mp hi).2

/-- Removing a rescheduled timer leaves its event behind. -/
theorem removeTimer_leaves_event {m : TimerManager} (h : m.InStep) {id : Nat}
    (hr : ¬ m.Removable id) :
    id ∉ (m.removeTimer id).timersMap ∧ id ∈ (m.removeTimer id).eventIds := by
  refine ⟨fun hm => (removeTimer_mem.mp hm).1 rfl, ?_⟩
  simp only [Removable, not_forall] at hr
  obtain ⟨timer, hl, hno⟩ := hr
  have hmem : id ∈ m.eventIds :=
    (h.same id).mp (AList.lookup_isSome.mp (by rw [hl]; rfl))
  obtain ⟨e, he, hid⟩ := List.mem_map.mp hmem
  rw [eventIds, (removeTimer_of_lookup hl).2]
  refine List.mem_map.mpr ⟨e, List.mem_filter.mpr ⟨he, ?_⟩, hid⟩
  exact decide_eq_true fun hk => hno ⟨e, he, hk⟩

/-! ## Firing -/

section Round

variable {m : TimerManager} {now : Int} {stamp : Int} {id : Nat} {timer : Timer}
  {rest : List (TimerIndex × Timer)}

theorem settle_mem (he : m.eventsMap = ((stamp, id), timer) :: rest) (h : m.InStep)
    {other : Nat} :
    other ∈ (m.settle now id timer rest).timersMap ↔
      (other ∈ m.timersMap ∧ (other = id → timer.repeats = true)) := by
  have hid : id ∈ m.timersMap := (h.same id).mpr (by simp [eventIds, he])
  unfold settle
  split
  · rename_i hr
    simp [hr]
  · rename_i hr
    simp only [AList.mem_erase, hr, Bool.false_eq_true, imp_false]
    exact and_comm

theorem settle_eventIds (now : Int) (he : m.eventsMap = ((stamp, id), timer) :: rest) :
    (m.settle now id timer rest).eventIds.Perm
      (if timer.repeats then m.eventIds else rest.map fun e => e.1.2) := by
  unfold settle eventIds
  split
  · rw [he]
    exact eventIds_insertEvent _ rest
  · exact List.Perm.refl _

/-- One round keeps the two maps in step: a one-shot leaves both, a periodic
timer changes its key in the second only. -/
theorem settle_inStep (now : Int) (he : m.eventsMap = ((stamp, id), timer) :: rest) (h : m.InStep) :
    (m.settle now id timer rest).InStep := by
  have hperm := settle_eventIds now he
  have hnot : id ∉ rest.map fun e => e.1.2 := h.head_once he
  have hall : m.eventIds = id :: rest.map fun e => e.1.2 := by rw [eventIds, he]; rfl
  constructor
  · refine hperm.nodup_iff.mpr ?_
    split
    · exact h.once
    · exact h.once.sublist (by rw [hall]; exact List.sublist_cons_self _ _)
  · intro other
    rw [settle_mem he h, hperm.mem_iff, h.same other, hall]
    cases hr : timer.repeats with
    | true => simp
    | false =>
      simp only [Bool.false_eq_true, if_false, imp_false, List.mem_cons]
      constructor
      · rintro ⟨rfl | hm, hne⟩
        · exact absurd rfl hne
        · exact hm
      · intro hm
        exact ⟨Or.inr hm, fun heq => hnot (heq ▸ hm)⟩
  · intro other ho
    rw [settle_lastTimerId]
    exact h.issued other ((settle_mem he h).mp ho).1

end Round

/-- What a run of the loop does to managers whose maps are in step. -/
structure Fired (m m' : TimerManager) (fired : List Firing) : Prop where
  inStep : m'.InStep
  lastTimerId : m'.lastTimerId = m.lastTimerId
  known : ∀ f ∈ fired, f.timerId ∈ m.timersMap
  shrinks : ∀ id ∈ m'.timersMap, id ∈ m.timersMap
  keeps : ∀ id ∈ m.timersMap,
    id ∈ m'.timersMap ∨ ∃ f ∈ fired, f.timerId = id ∧ f.timer.repeats = false

theorem Fired.refl {m : TimerManager} (h : m.InStep) : Fired m m [] where
  inStep := h
  lastTimerId := rfl
  known f hf := by cases hf
  shrinks _ h := h
  keeps _ h := Or.inl h

/-- A manager with a timer has an event to look at. -/
theorem events_ne_nil {m : TimerManager} (h : m.InStep) (ht : m.timersMap.entries ≠ []) :
    m.eventsMap ≠ [] := by
  intro hnil
  obtain ⟨entry, hentry⟩ := List.exists_mem_of_ne_nil _ ht
  have hk : entry.1 ∈ m.timersMap := List.mem_map.mpr ⟨entry, hentry, rfl⟩
  have := (h.same entry.1).mp hk
  simp [eventIds, hnil] at this

theorem fireDue_fired (now : Int) (fuel : Nat) :
    ∀ {m : TimerManager}, m.InStep →
      ∃ m' fired, fireDue quiet now fuel m = .ok (m', fired) ∧ Fired m m' fired := by
  induction fuel with
  | zero =>
    intro m h
    exact ⟨m, [], rfl, .refl h⟩
  | succ fuel ih =>
    intro m h
    by_cases ht : m.timersMap.entries = []
    · exact ⟨m, [], by rw [fireDue, if_pos ht], .refl h⟩
    cases he : m.eventsMap with
    | nil => exact absurd he (events_ne_nil h ht)
    | cons e rest =>
      obtain ⟨⟨stamp, id⟩, timer⟩ := e
      by_cases hdue : stamp ≤ now
      · obtain ⟨m', fired, hf, hr⟩ := ih (settle_inStep now he h)
        refine ⟨m', ⟨id, timer⟩ :: fired, ?_, ?_⟩
        · rw [fireDue, if_neg ht, he]
          simp only [if_pos hdue, quiet, he, hf]
        · have hid : id ∈ m.timersMap := (h.same id).mpr (by simp [eventIds, he])
          constructor
          · exact hr.inStep
          · rw [hr.lastTimerId, settle_lastTimerId]
          · intro f hmem
            rcases List.mem_cons.mp hmem with rfl | hmem
            · exact hid
            · exact ((settle_mem he h).mp (hr.known f hmem)).1
          · intro i hi
            exact ((settle_mem he h).mp (hr.shrinks i hi)).1
          · intro i hi
            by_cases hone : i = id → timer.repeats = true
            · rcases hr.keeps i ((settle_mem he h).mpr ⟨hi, hone⟩) with hk | ⟨f, hf, hfi⟩
              · exact Or.inl hk
              · exact Or.inr ⟨f, List.mem_cons_of_mem _ hf, hfi⟩
            · rw [Classical.not_imp] at hone
              exact Or.inr ⟨⟨id, timer⟩, List.mem_cons_self, hone.1.symm,
                Bool.eq_false_iff.mpr hone.2⟩
      · refine ⟨m, [], ?_, .refl h⟩
        rw [fireDue, if_neg ht, he]
        simp only [if_neg hdue]

/-- The events the loop has to take away before it can stop. -/
def dueCount (now : Int) (m : TimerManager) : Nat :=
  m.eventsMap.countP fun e => decide (e.1.1 ≤ now)

theorem settle_dueCount {m : TimerManager} {now stamp : Int} {id : Nat} {timer : Timer}
    {rest : List (TimerIndex × Timer)} (he : m.eventsMap = ((stamp, id), timer) :: rest)
    (hdue : stamp ≤ now) :
    dueCount now (m.settle now id timer rest) + 1 = dueCount now m := by
  have hm : dueCount now m = rest.countP (fun e => decide (e.1.1 ≤ now)) + 1 := by
    rw [dueCount, he, List.countP_cons]
    simp [hdue]
  rw [hm]
  congr 1
  unfold settle dueCount
  split
  · rename_i hr
    have hpos : 0 < timer.timeInterval := by
      have := timer.periodic
      rw [hr] at this
      exact of_decide_eq_true this.symm
    rw [(insertEvent_perm _ rest).countP_eq, List.countP_cons]
    have hlater : ¬ now + (timer.timeInterval : Int) ≤ now := by omega
    simp [hlater]
  · rfl

/-- **The loop ends by its own test.** With a round for each due event and one
more, it stops on an empty `m_timers_map_` or on a deadline in the future. -/
theorem fireDue_exhausts (now : Int) (fuel : Nat) :
    ∀ {m m' : TimerManager} {fired : List Firing}, dueCount now m < fuel →
      fireDue quiet now fuel m = .ok (m', fired) →
      m'.timersMap.entries = [] ∨ ∀ e ∈ m'.eventsMap.head?, now < e.1.1 := by
  induction fuel with
  | zero => intro m m' fired hf; omega
  | succ fuel ih =>
    intro m m' fired hf h
    rw [fireDue] at h
    by_cases ht : m.timersMap.entries = []
    · rw [if_pos ht] at h
      cases h
      exact Or.inl ht
    rw [if_neg ht] at h
    cases he : m.eventsMap with
    | nil => rw [he] at h; cases h
    | cons e rest =>
      obtain ⟨⟨stamp, id⟩, timer⟩ := e
      rw [he] at h
      by_cases hdue : stamp ≤ now
      · simp only [if_pos hdue, quiet, he] at h
        cases hr : fireDue quiet now fuel (m.settle now id timer rest) with
        | error e => rw [hr] at h; cases h
        | ok r =>
          rw [hr] at h
          cases h
          have := settle_dueCount he hdue
          exact ih (by omega) hr
      · simp only [if_neg hdue] at h
        cases h
        right
        intro e hmem
        rw [he, List.head?_cons, Option.mem_some_iff] at hmem
        rw [← hmem]
        exact Int.not_le.mp hdue

theorem handleTimerEvent_fired (now : Int) {m : TimerManager} (h : m.InStep) :
    ∃ m' fired, m.handleTimerEvent now = .ok (m', fired) ∧ Fired m m' fired := by
  obtain ⟨m', fired, hf, hr⟩ := fireDue_fired now (m.eventsMap.length + 1) h
  refine ⟨m'.modifyTimeout, fired, ?_, ?_⟩
  · rw [handleTimerEvent, handleTimerEventWith, hf]
  · constructor
    · exact modifyTimeout_inStep hr.inStep
    · rw [modifyTimeout_lastTimerId, hr.lastTimerId]
    · exact hr.known
    · simpa using hr.shrinks
    · simpa using hr.keeps

end TimerManager
end MyRtspServer.Net
