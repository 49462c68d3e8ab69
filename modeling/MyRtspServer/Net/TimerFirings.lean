import MyRtspServer.Net.TimerOrder
import MyRtspServer.Net.TimerRuns

/-!
# What one call of `HandleTimerEvent` fires

While timers are only added and fired, the two maps hold the same timers and
`m_events_map_` is in order. A round of the loop then takes the first due event
away and puts nothing due in its place, since a periodic timer has a positive
interval: the due events are what the loop counts down.
-/
namespace MyRtspServer.Net

open Library.Transition TimerManager

namespace TimerManager

/-- The events that `HandleTimerEvent` has to fire at the time `now`. -/
def due (now : Int) (m : TimerManager) : List (TimerIndex × Timer) :=
  m.eventsMap.filter fun e => decide (e.1.1 ≤ now)

def firing (e : TimerIndex × Timer) : Firing := ⟨e.1.2, e.2⟩

/-- The event a periodic timer gets when it has fired at `now`. -/
def reschedule (now : Int) (e : TimerIndex × Timer) : TimerIndex × Timer :=
  ((now + e.2.timeInterval, e.1.2), { e.2 with timeStamp := now + e.2.timeInterval })

/-- Each event is one of the timer that `m_timers_map_` holds under its id. -/
def SameTimers (m : TimerManager) : Prop :=
  ∀ e ∈ m.eventsMap, ∃ timer, m.timersMap.lookup e.1.2 = some timer ∧
    e.2.timerEvent = timer.timerEvent ∧ e.2.timeInterval = timer.timeInterval

/-- What additions and firings keep. -/
structure WellKept (m : TimerManager) : Prop where
  inStep : m.InStep
  ordered : m.Ordered
  sameTimers : m.SameTimers

theorem wellKept_empty : WellKept {} :=
  ⟨inStep_empty, ordered_empty, fun e he => by cases he⟩

theorem addTimer_wellKept {m : TimerManager} (h : m.WellKept)
    (hw : m.lastTimerId + 1 < 2 ^ 32) (event : Option Nat) (stamp : Int) (interval : Nat) :
    (m.addTimer event stamp interval).WellKept := by
  have hnext : m.nextTimerId = m.lastTimerId + 1 := Nat.mod_eq_of_lt hw
  have hfresh : ∀ id ∈ m.timersMap, id ≠ m.nextTimerId := by
    intro id hid
    have := (h.inStep.issued id hid).2
    omega
  have hnew : m.nextTimerId ∉ m.timersMap := fun hmem => hfresh _ hmem rfl
  have htimers : (m.addTimer event stamp interval).timersMap =
      m.timersMap.insert m.nextTimerId (Timer.create event stamp interval) := by
    simp [addTimer, hnew]
  refine ⟨addTimer_inStep h.inStep hw event stamp interval, addTimer_ordered h.ordered _ _ _, ?_⟩
  intro e he
  rw [addTimer_eventsMap] at he
  rw [htimers]
  rcases mem_insertEvent.mp he with rfl | hold
  · exact ⟨_, AList.lookup_insert _, rfl, rfl⟩
  · obtain ⟨timer, hl, hsame⟩ := h.sameTimers e hold
    refine ⟨timer, ?_, hsame⟩
    rw [AList.lookup_insert_ne (hfresh _ (AList.lookup_isSome.mp (by rw [hl]; rfl)))]
    exact hl

theorem modifyTimeout_wellKept {m : TimerManager} (h : m.WellKept) :
    m.modifyTimeout.WellKept := by
  refine ⟨modifyTimeout_inStep h.inStep, modifyTimeout_ordered h.ordered, ?_⟩
  simpa [SameTimers] using h.sameTimers

/-! ## One round -/

section Round

variable {m : TimerManager} {now : Int} {e : TimerIndex × Timer} {rest : List (TimerIndex × Timer)}

theorem settle_lookup (id : Nat) :
    (m.settle now e.1.2 e.2 rest).timersMap.lookup id =
      if id = e.1.2 ∧ e.2.repeats = false then none else m.timersMap.lookup id := by
  unfold settle
  split
  · rename_i hr
    rw [if_neg (fun hc => by rw [hr] at hc; cases hc.2)]
  · rename_i hr
    rw [Bool.not_eq_true] at hr
    by_cases hid : id = e.1.2
    · rw [if_pos ⟨hid, hr⟩, hid]
      exact AList.lookup_erase _ _
    · rw [if_neg (fun hc => hid hc.1)]
      exact AList.lookup_erase_ne hid

theorem settle_events (now : Int) :
    (m.settle now e.1.2 e.2 rest).eventsMap =
      if e.2.repeats then insertEvent (reschedule now e) rest else rest := by
  unfold settle
  split <;> rfl

theorem settle_wellKept (h : m.WellKept) (he : m.eventsMap = e :: rest) :
    (m.settle now e.1.2 e.2 rest).WellKept := by
  refine ⟨settle_inStep now he h.inStep, settle_ordered h.ordered he _ _ _, ?_⟩
  have hrest : ∀ d ∈ rest, ∃ timer,
      (m.settle now e.1.2 e.2 rest).timersMap.lookup d.1.2 = some timer ∧
        d.2.timerEvent = timer.timerEvent ∧ d.2.timeInterval = timer.timeInterval := by
    intro d hd
    have hne : d.1.2 ≠ e.1.2 := fun heq =>
      h.inStep.head_once he (heq ▸ List.mem_map.mpr ⟨d, hd, rfl⟩)
    rw [settle_lookup, if_neg (fun hc => hne hc.1)]
    exact h.sameTimers d (by rw [he]; exact List.mem_cons_of_mem _ hd)
  intro d hd
  rw [settle_events] at hd
  split at hd
  · rename_i hr
    rcases mem_insertEvent.mp hd with rfl | hd
    · obtain ⟨timer, hl, hsame⟩ := h.sameTimers e (by rw [he]; exact List.mem_cons_self)
      refine ⟨timer, ?_, hsame⟩
      rw [settle_lookup, if_neg (fun hc => by rw [hr] at hc; cases hc.2)]
      exact hl
    · exact hrest d hd
  · exact hrest d hd

/-- A rescheduled event is not due: the interval is positive. -/
theorem lt_reschedule (now : Int) (hr : e.2.repeats = true) : now < (reschedule now e).1.1 := by
  have hpos : 0 < e.2.timeInterval := of_decide_eq_true (e.2.periodic.symm.trans hr)
  show now < now + (e.2.timeInterval : Int)
  omega

/-- What a round leaves was there before, or is what it puts back for later. -/
theorem mem_settle {id : Nat} {timer : Timer} {d : TimerIndex × Timer}
    (hd : d ∈ (m.settle now id timer rest).eventsMap) : d ∈ rest ∨ now < d.1.1 := by
  change d ∈ (m.settle now ((timer.timeStamp, id), timer).1.2 timer rest).eventsMap at hd
  rw [settle_events] at hd
  split at hd
  · rename_i hr
    rcases mem_insertEvent.mp hd with rfl | hd
    · exact Or.inr (lt_reschedule now hr)
    · exact Or.inl hd
  · exact Or.inl hd

theorem due_cons (he : m.eventsMap = e :: rest) (hdue : e.1.1 ≤ now) :
    m.due now = e :: rest.filter fun d => decide (d.1.1 ≤ now) := by
  rw [due, he, List.filter_cons_of_pos (by simpa using hdue)]

theorem settle_due (he : m.eventsMap = e :: rest) (hdue : e.1.1 ≤ now) :
    m.due now = e :: (m.settle now e.1.2 e.2 rest).due now := by
  rw [due_cons he hdue, due, settle_events]
  split
  · rename_i hr
    rw [insertEvent_filter (decide_eq_false (not_le.mpr (lt_reschedule now hr)))]
  · rfl

theorem due_eq_nil (h : m.Ordered) (hlater : ∀ e ∈ m.eventsMap.head?, now < e.1.1) :
    m.due now = [] := by
  rw [due, List.filter_eq_nil_iff]
  intro d hd
  cases he : m.eventsMap with
  | nil =>
    rw [he] at hd
    cases hd
  | cons e rest =>
    have hfirst : now < e.1.1 := hlater e (by rw [he]; rfl)
    have hasc := h.ascending
    rw [he] at hd hasc
    rcases List.mem_cons.mp hd with rfl | hd
    · simpa using hfirst
    · simpa using hfirst.trans_le (hasc.deadline_le hd)

theorem fireDue_stop (h : m.InStep) (hlater : ∀ e ∈ m.eventsMap.head?, now < e.1.1) (fuel : Nat) :
    fireDue quiet now fuel m = .ok (m, []) := by
  cases fuel with
  | zero => rfl
  | succ fuel =>
    rw [fireDue]
    split
    · rfl
    · rename_i ht
      cases he : m.eventsMap with
      | nil => exact absurd he (events_ne_nil h ht)
      | cons e rest => exact if_neg (not_le.mpr (hlater e (by rw [he]; rfl)))

theorem fireDue_round (h : m.InStep) (he : m.eventsMap = e :: rest) (hdue : e.1.1 ≤ now)
    {fuel : Nat} {m' : TimerManager} {fired : List Firing}
    (hrest : fireDue quiet now fuel (m.settle now e.1.2 e.2 rest) = .ok (m', fired)) :
    fireDue quiet now (fuel + 1) m = .ok (m', firing e :: fired) := by
  have hid : e.1.2 ∈ m.timersMap := (h.same _).mpr (by simp [eventIds, he])
  have hne : m.timersMap.entries ≠ [] := List.ne_nil_of_mem (List.mem_map.mp hid).choose_spec.1
  rw [fireDue, if_neg hne, he]
  simp only [if_pos hdue, quiet, he, hrest, firing]

end Round

/-! ## The whole call -/

/-- What a call at `now` leaves: the fired one-shots are forgotten and nothing
else is, the fired periodic timers are back at `now` plus their intervals, and
nothing due is left. -/
structure Settled (now : Int) (m m' : TimerManager) : Prop where
  forgets : ∀ id, id ∈ m'.timersMap ↔
    id ∈ m.timersMap ∧ ¬ ∃ e ∈ m.due now, e.1.2 = id ∧ e.2.repeats = false
  keeps : ∀ id ∈ m'.timersMap, m'.timersMap.lookup id = m.timersMap.lookup id
  events : m'.eventsMap.Perm ((m.eventsMap.filter fun e => decide (now < e.1.1)) ++
    ((m.due now).filter fun e => e.2.repeats).map (reschedule now))
  later : ∀ e ∈ m'.eventsMap, now < e.1.1

theorem settled_refl {now : Int} {m : TimerManager} (h : m.Ordered)
    (hlater : ∀ e ∈ m.eventsMap.head?, now < e.1.1) : Settled now m m := by
  have hnil := due_eq_nil h hlater
  have hall : ∀ e ∈ m.eventsMap, now < e.1.1 := by
    intro e he
    have := List.filter_eq_nil_iff.mp hnil e he
    simpa using this
  refine ⟨by simp [hnil], fun _ _ => rfl, ?_, hall⟩
  rw [hnil, List.filter_eq_self.mpr (fun e he => decide_eq_true (hall e he))]
  simp

theorem Settled.round {now : Int} {m m' : TimerManager} {e : TimerIndex × Timer}
    {rest : List (TimerIndex × Timer)} (hk : m.WellKept) (he : m.eventsMap = e :: rest)
    (hdue : e.1.1 ≤ now) (h : Settled now (m.settle now e.1.2 e.2 rest) m') :
    Settled now m m' := by
  have hcons := settle_due he hdue
  have hfirst : m.eventsMap = ((e.1.1, e.1.2), e.2) :: rest := he
  refine ⟨fun id => ?_, fun id hid => ?_, ?_, h.later⟩
  · rw [h.forgets, hcons, settle_mem hfirst hk.inStep]
    simp only [List.exists_mem_cons_iff, not_or, and_assoc]
    refine and_congr_right fun _ => and_congr_left fun _ => ?_
    rw [not_and, Bool.not_eq_false]
    exact ⟨fun hc heq => hc heq.symm, fun hc heq => hc heq.symm⟩
  · rw [h.keeps id hid, settle_lookup, if_neg]
    rintro ⟨rfl, hone⟩
    have := ((settle_mem hfirst hk.inStep).mp ((h.forgets _).mp hid).1).2 rfl
    rw [hone] at this
    cases this
  · have hnot : ¬ now < e.1.1 := not_lt.mpr hdue
    refine h.events.trans ?_
    rw [settle_events, hcons, he, List.filter_cons_of_neg (by simpa using hdue)]
    cases hr : e.2.repeats with
    | false => rw [List.filter_cons_of_neg (by simp [hr])]; exact List.Perm.refl _
    | true =>
      have hlater := lt_reschedule now hr
      rw [List.filter_cons_of_pos (by simpa using hr), List.map_cons]
      refine (((insertEvent_perm _ rest).filter _).append_right _).trans ?_
      rw [List.filter_cons_of_pos (by simpa using hlater)]
      exact List.perm_middle.symm

/-- **The loop counts the due events down**: any number of rounds above theirs
gives the same result, the firings of the due events in their order. -/
theorem fireDue_due (now : Int) (count : Nat) : ∀ {m : TimerManager}, m.WellKept →
    (m.due now).length = count → ∃ m', m'.WellKept ∧ Settled now m m' ∧ ∀ fuel, count < fuel →
      fireDue quiet now fuel m = .ok (m', (m.due now).map firing) := by
  induction count with
  | zero =>
    intro m h hcount
    have hnil : m.due now = [] := List.length_eq_zero_iff.mp hcount
    have hlater : ∀ e ∈ m.eventsMap.head?, now < e.1.1 := by
      intro e he
      have := List.filter_eq_nil_iff.mp hnil e (List.mem_of_mem_head? he)
      simpa using this
    refine ⟨m, h, settled_refl h.ordered hlater, fun fuel _ => ?_⟩
    rw [fireDue_stop h.inStep hlater, hnil, List.map_nil]
  | succ count ih =>
    intro m h hcount
    cases he : m.eventsMap with
    | nil =>
      rw [due, he] at hcount
      cases hcount
    | cons e rest =>
      have hdue : e.1.1 ≤ now := by
        by_contra hlater
        have hnil : m.due now = [] := due_eq_nil h.ordered fun d hd => by
          rw [he, List.head?_cons, Option.mem_some_iff] at hd
          exact hd ▸ not_le.mp hlater
        rw [hnil] at hcount
        cases hcount
      have hcons := settle_due he hdue
      rw [hcons, List.length_cons, Nat.add_right_cancel_iff] at hcount
      obtain ⟨m', hk, hsettled, hfuel⟩ := ih (settle_wellKept h he) hcount
      refine ⟨m', hk, hsettled.round h he hdue, fun fuel hlt => ?_⟩
      obtain ⟨fuel, rfl⟩ := Nat.exists_eq_add_of_lt (Nat.zero_lt_of_lt hlt)
      rw [hcons, List.map_cons]
      exact fireDue_round h.inStep he hdue (hfuel _ (by omega))

theorem due_once {m : TimerManager} (h : m.InStep) (now : Int) :
    ((m.due now).map fun e => e.1.2).Nodup :=
  h.once.sublist (List.filter_sublist.map _)

/-- Keys do not repeat, so ascending is strictly ascending. -/
theorem due_ascending {m : TimerManager} (h : m.WellKept) (now : Int) :
    (m.due now).Pairwise fun a b => toLex a.1 < toLex b.1 := by
  have hasc : (m.due now).Pairwise fun a b => toLex a.1 ≤ toLex b.1 :=
    h.ordered.ascending.sublist List.filter_sublist
  have hne : (m.due now).Pairwise fun a b => a.1.2 ≠ b.1.2 :=
    List.pairwise_map.mp (due_once h.inStep now)
  refine (hasc.and hne).imp fun hab => lt_of_le_of_ne hab.1 fun heq => hab.2 ?_
  exact congrArg Prod.snd (toLex.injective heq)

end TimerManager

/-! ## The promise of `HandleTimerEvent` -/

/-- One call at `now`, from `m`: it returns, having fired the timers that were
due, each once, in the order of their keys and with the callback they were added
with; and it leaves what `Settled` says. -/
structure FiresDue (now : Int) (m m' : TimerManager) (fired : List Firing) : Prop where
  returns : ∀ fuel, m.eventsMap.length < fuel →
    handleTimerEventWith quiet fuel now m = .ok (m', fired)
  due : ∀ id, (∃ f ∈ fired, f.timerId = id) ↔ ∃ e ∈ m.eventsMap, e.1.2 = id ∧ e.1.1 ≤ now
  once : (fired.map fun f => f.timerId).Nodup
  ascending : fired.Pairwise fun f g =>
    toLex (f.timer.timeStamp, f.timerId) < toLex (g.timer.timeStamp, g.timerId)
  registered : ∀ f ∈ fired, ∃ timer, m.timersMap.lookup f.timerId = some timer ∧
    f.timer.timerEvent = timer.timerEvent ∧ f.timer.timeInterval = timer.timeInterval
  settled : Settled now m m'

theorem firesDue_of_wellKept {m : TimerManager} (h : m.WellKept) (now : Int) :
    ∃ m', m'.WellKept ∧ FiresDue now m m' ((m.due now).map firing) := by
  obtain ⟨m', hk, hsettled, hfuel⟩ := fireDue_due now _ h rfl
  refine ⟨m'.modifyTimeout, modifyTimeout_wellKept hk, ?_⟩
  constructor
  · intro fuel hlt
    have hlength : (m.due now).length ≤ m.eventsMap.length := List.length_filter_le _ _
    rw [handleTimerEventWith, hfuel fuel (by omega)]
  · intro id
    simp only [List.mem_map, TimerManager.due, List.mem_filter, decide_eq_true_eq]
    constructor
    · rintro ⟨_, ⟨e, ⟨he, hdue⟩, rfl⟩, rfl⟩
      exact ⟨e, he, rfl, hdue⟩
    · rintro ⟨e, he, rfl, hdue⟩
      exact ⟨_, ⟨e, ⟨he, hdue⟩, rfl⟩, rfl⟩
  · rw [List.map_map]
    exact due_once h.inStep now
  · refine List.pairwise_map.mpr ((due_ascending h now).imp_of_mem fun {a b} ha hb hlt => ?_)
    rw [firing, firing, h.ordered.keyed a (List.mem_of_mem_filter ha),
      h.ordered.keyed b (List.mem_of_mem_filter hb)]
    exact hlt
  · intro f hf
    obtain ⟨e, he, rfl⟩ := List.mem_map.mp hf
    exact h.sameTimers e (List.mem_of_mem_filter he)
  · refine ⟨?_, ?_, ?_, ?_⟩
    · simpa using hsettled.forgets
    · simpa using hsettled.keeps
    · simpa using hsettled.events
    · simpa using hsettled.later

theorem timerStep_wellKept {m m' : TimerManager} {act : TimerAct} {fired : List Firing}
    (h : m.WellKept) (hw : act.isAdd = true → m.lastTimerId + 1 < 2 ^ 32)
    (hact : ∀ id, act ≠ .remove id) (hstep : timerStep m act = .ok (m', fired)) :
    m'.WellKept := by
  cases act with
  | add event stamp interval =>
    cases hstep
    exact addTimer_wellKept h (hw rfl) event stamp interval
  | remove id => exact absurd rfl (hact id)
  | handle now =>
    obtain ⟨k, hk, hfires⟩ := firesDue_of_wellKept h now
    have hreturns := hfires.returns _ (Nat.lt_succ_self _)
    rw [timerStep, handleTimerEvent, hreturns] at hstep
    cases hstep
    exact hk

/-- **`HandleTimerEvent` fires exactly the due timers**, in every state that
additions and firings lead to. -/
theorem fires_due (acts : List TimerAct) (hacts : ∀ id, .remove id ∉ acts)
    (hadds : acts.countP TimerAct.isAdd < 2 ^ 32) (m : TimerManager) (before : List Firing)
    (hrun : run timerStep {} acts = .ok (m, before)) (now : Int) :
    ∃ m' fired, FiresDue now m m' fired := by
  have hsafe : ∀ s act, (∀ id, act ≠ .remove id) → SafeRemoval s act := by
    intro s act hact
    cases act with
    | remove id => exact absurd rfl (hact id)
    | _ => exact trivial
  have hnone : ∀ act ∈ acts, ∀ id, act ≠ .remove id := fun act hact id heq =>
    hacts id (heq ▸ hact)
  have hno : Meets timerStep (fun _ act => ∀ id, act ≠ TimerAct.remove id) {} acts :=
    meets_of_forall hnone
  have hsound : Meets timerStep SoundStep {} acts :=
    meets_sound inStep_empty (by simpa using hadds) (meets_mono hsafe hno)
  have hkept : m.WellKept := by
    refine run_invariant WellKept ?_ wellKept_empty (meets_and hsound hno) hrun
    exact fun s act s' out h hok hstep => timerStep_wellKept h hok.1.room hok.2 hstep
  obtain ⟨m', -, hfires⟩ := firesDue_of_wellKept hkept now
  exact ⟨m', _, hfires⟩

/-- A one-shot and two periodic timers; at 12 the last two have been waiting. -/
theorem fires_due_sample :
    ∃ m before, run timerStep {} [.add (some 1) 5 0, .add (some 2) 10 10, .handle 5,
        .add (some 3) 4 3] = .ok (m, before) ∧
      ∃ m' fired, FiresDue 12 m m' fired ∧ fired.map (fun f => f.timerId) = [3, 2] := by
  have hrun : run timerStep {} [.add (some 1) 5 0, .add (some 2) 10 10, .handle 5,
      .add (some 3) 4 3] = .ok _ := rfl
  obtain ⟨m', fired, hfires⟩ := fires_due _ (fun id h => by simp at h) (by decide) _ _ hrun 12
  refine ⟨_, _, hrun, m', fired, hfires, ?_⟩
  have hcall := (hfires.returns 3 (by decide)).symm
  have hfired : Except.ok (m', fired) = Except.ok _ := hcall.trans rfl
  cases hfired
  rfl

end MyRtspServer.Net
