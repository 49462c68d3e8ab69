import Mathlib.Data.List.Count
import MyRtspServer.Library.GrowingVector
import MyRtspServer.Library.Transition

/-!
# Trigger events

`HandleTriggleEvents` runs through `m_trigger_events_` with a range-for and then
clears it. The range is fixed before the first callback is called: what a
callback adds is not in it, and when the vector moves the iterators of the loop
stay behind.
-/
namespace MyRtspServer.Net.EventScheduler

open Library Library.GrowingVector Library.Transition

/-- A `TriggerEvent`, known by its address. -/
abbrev TriggerEvent := Nat

/-- What becomes of trigger events: `AddTriggerEvent` was called with one, or its
callback was called. -/
inductive TriggerOut where
  | added (event : TriggerEvent)
  | invoked (event : TriggerEvent)
  deriving DecidableEq, Repr

/-- The loop follows an iterator that an append has invalidated. -/
inductive TriggerFault where
  | invalidIterator
  deriving DecidableEq, Repr

abbrev TriggerEvents := GrowingVector TriggerEvent

/-- `adds i` are the events that callback number `i` of the call adds. -/
inductive TriggerAct where
  | addTriggerEvent (event : TriggerEvent)
  | handleTriggleEvents (adds : Nat → List TriggerEvent)

/-- The rest of the range-for, `left` elements from `position` on. -/
def handleEvents (g : Growth) (adds : Nat → List TriggerEvent) (block : Nat) :
    (left position : Nat) → TriggerEvents → Except TriggerFault (TriggerEvents × List TriggerOut)
  | 0, _, v => .ok (v, [])
  | left + 1, position, v =>
    match v.deref block position with
    | none => .error .invalidIterator
    | some event =>
      match handleEvents g adds block left (position + 1) (v.emplaceAll g (adds position)) with
      | .error e => .error e
      | .ok (v', out) => .ok (v', .invoked event :: (adds position).map .added ++ out)

def handleTriggleEvents (g : Growth) (adds : Nat → List TriggerEvent) (v : TriggerEvents) :
    Except TriggerFault (TriggerEvents × List TriggerOut) :=
  if v.items = [] then .ok (v, [])
  else
    match handleEvents g adds v.block v.items.length 0 v with
    | .error e => .error e
    | .ok (v', out) => .ok (v'.clear, out)

def triggerStep (g : Growth) (v : TriggerEvents) :
    TriggerAct → Except TriggerFault (TriggerEvents × List TriggerOut)
  | .addTriggerEvent event => .ok (v.emplaceBack g event, [.added event])
  | .handleTriggleEvents adds => handleTriggleEvents g adds v

/-- Callbacks that add nothing. -/
def addNothing (_ : Nat) : List TriggerEvent := []

/-- At no time has an event been invoked more often than added. -/
def InvokedLater (log : List TriggerOut) : Prop :=
  ∀ n event, (log.take n).count (.invoked event) ≤ (log.take n).count (.added event)

/-- Every event that has been added has been invoked once for it, and later. -/
structure Answered (log : List TriggerOut) : Prop where
  later : InvokedLater log
  once : ∀ event, log.count (.invoked event) = log.count (.added event)

/-- Wherever the run has come, it has followed no invalid iterator, and the next
call of `HandleTriggleEvents` answers what has not been answered yet. -/
def NoneLost (g : Growth) (acts : List TriggerAct) : Prop :=
  ∀ pre post, acts = pre ++ post → ∃ v log v' out, run (triggerStep g) empty pre = .ok (v, log) ∧
    handleTriggleEvents g addNothing v = .ok (v', out) ∧ Answered (log ++ out)

/-! ## One call -/

section Call

variable {g : Growth} {adds : Nat → List TriggerEvent} {block : Nat}

theorem handleEvents_quiet {v : TriggerEvents} (left : Nat) : ∀ position : Nat,
    position + left = v.items.length → (∀ i, position ≤ i → i < v.items.length → adds i = []) →
      handleEvents g adds v.block left position v =
        .ok (v, (v.items.drop position).map .invoked) := by
  induction left with
  | zero =>
    intro position hend _
    rw [List.drop_of_length_le (by omega)]
    rfl
  | succ left ih =>
    intro position hend hquiet
    have hlt : position < v.items.length := by omega
    have hnone : adds position = [] := hquiet position (Nat.le_refl _) hlt
    have hrest := ih (position + 1) (by omega)
      fun i hi hi' => hquiet i (Nat.le_of_succ_le hi) hi'
    rw [handleEvents, deref_getElem hlt]
    simp only [hnone, emplaceAll, List.foldl_nil, hrest]
    rw [List.drop_eq_getElem_cons hlt]
    rfl

theorem handleTriggleEvents_quiet {v : TriggerEvents}
    (hquiet : ∀ i, i < v.items.length → adds i = []) :
    handleTriggleEvents g adds v = .ok (v.clear, v.items.map .invoked) := by
  unfold handleTriggleEvents
  split
  · rename_i hnil
    rw [clear_of_nil hnil, hnil]
    rfl
  · rw [handleEvents_quiet _ 0 (Nat.zero_add _) fun i _ hi => hquiet i hi]
    rfl

theorem handleTriggleEvents_addNothing (g : Growth) (v : TriggerEvents) :
    handleTriggleEvents g addNothing v = .ok (v.clear, v.items.map .invoked) :=
  handleTriggleEvents_quiet fun _ _ => rfl

/-- What a call that returns has called: the events in the range, each once, and
nothing that was added meanwhile. -/
theorem handleEvents_calls (left : Nat) : ∀ (position : Nat) {v v' : TriggerEvents}
    {out : List TriggerOut}, position + left ≤ v.items.length →
    handleEvents g adds block left position v = .ok (v', out) →
      (∀ event, out.count (.invoked event) = ((v.items.drop position).take left).count event) ∧
        ∀ i, position ≤ i → i < position + left → ∀ event ∈ adds i, .added event ∈ out := by
  induction left with
  | zero =>
    intro position v v' out _ h
    cases h
    exact ⟨fun _ => rfl, fun i hi hi' => absurd hi' (Nat.not_lt.mpr hi)⟩
  | succ left ih =>
    intro position v v' out hend h
    have hlt : position < v.items.length := by omega
    rw [handleEvents] at h
    split at h
    · cases h
    rename_i event hderef
    split at h
    · cases h
    rename_i k rest hrest
    cases h
    have hevent : v.items[position] = event := by
      have hget := (deref_some hderef).2
      rwa [List.getElem?_eq_getElem hlt, Option.some.injEq] at hget
    obtain ⟨hcounts, hadds⟩ := ih (position + 1) (by
      rw [emplaceAll_items, List.length_append]
      omega) hrest
    constructor
    · intro other
      have hsame : (((v.emplaceAll g (adds position)).items.drop (position + 1)).take left) =
          (v.items.drop (position + 1)).take left := by
        rw [emplaceAll_items, List.drop_append_of_le_length (by omega),
          List.take_append_of_le_length (by rw [List.length_drop]; omega)]
      have hnone : ((adds position).map TriggerOut.added).count (.invoked other) = 0 := by
        simp [List.count_eq_zero]
      rw [List.cons_append, List.count_cons, List.count_append, hnone, hcounts, hsame,
        List.drop_eq_getElem_cons hlt, List.take_succ_cons, List.count_cons, hevent]
      simp
    · intro i hi hi' other hother
      rcases Nat.eq_or_lt_of_le hi with rfl | hi
      · exact List.mem_append_left _ (List.mem_cons_of_mem _ (List.mem_map_of_mem hother))
      · exact List.mem_append_right _ (hadds i hi (by omega) other hother)

theorem handleTriggleEvents_calls {v v' : TriggerEvents} {out : List TriggerOut}
    (h : handleTriggleEvents g adds v = .ok (v', out)) : v'.items = [] ∧
      (∀ event, out.count (.invoked event) = v.items.count event) ∧
        ∀ i, i < v.items.length → ∀ event ∈ adds i, .added event ∈ out := by
  unfold handleTriggleEvents at h
  split at h
  · rename_i hnil
    cases h
    refine ⟨hnil, fun _ => by rw [hnil]; rfl, fun i hi => ?_⟩
    rw [hnil] at hi
    cases hi
  · split at h
    · cases h
    · rename_i k rest hrest
      cases h
      obtain ⟨hcounts, hadds⟩ := handleEvents_calls _ 0 (Nat.le_of_eq (Nat.zero_add _)) hrest
      refine ⟨rfl, fun event => ?_, fun i hi => hadds i (Nat.zero_le i) (by omega)⟩
      rw [hcounts, List.drop_zero, List.take_length]

end Call

/-! ## Runs -/

/-- None of the callbacks that the act calls adds an event. -/
def AddsNothing (v : TriggerEvents) (act : TriggerAct) : Prop :=
  ∀ adds, act = .handleTriggleEvents adds → ∀ i, i < v.items.length → adds i = []

/-- What has been added has been invoked or is waiting. -/
structure Waiting (v : TriggerEvents) (log : List TriggerOut) : Prop where
  later : InvokedLater log
  balance : ∀ event, log.count (.added event) = log.count (.invoked event) + v.items.count event

theorem InvokedLater.append {log out : List TriggerOut} (h : InvokedLater log)
    (hout : ∀ n event, log.count (.invoked event) + (out.take n).count (.invoked event) ≤
      log.count (.added event) + (out.take n).count (.added event)) :
    InvokedLater (log ++ out) := by
  intro n event
  rw [List.take_append, List.count_append, List.count_append]
  by_cases hn : n ≤ log.length
  · rw [Nat.sub_eq_zero_of_le hn]
    simpa using h n event
  · rw [List.take_of_length_le (by omega)]
    exact hout _ event

theorem count_invoked_map (events : List TriggerEvent) (event : TriggerEvent) :
    (events.map TriggerOut.invoked).count (.invoked event) = events.count event :=
  List.count_map_of_injective events _ (fun _ _ h => TriggerOut.invoked.inj h) event

theorem count_added_map (events : List TriggerEvent) (event : TriggerEvent) :
    (events.map TriggerOut.invoked).count (.added event) = 0 := by
  simp [List.count_eq_zero]

theorem Waiting.add {v : TriggerEvents} {log : List TriggerOut} (h : Waiting v log) (g : Growth)
    (event : TriggerEvent) : Waiting (v.emplaceBack g event) (log ++ [.added event]) := by
  refine ⟨h.later.append fun n other => ?_, fun other => ?_⟩
  · have hbalance := h.balance other
    have hnone : (([TriggerOut.added event]).take n).count (.invoked other) = 0 := by
      rw [List.count_eq_zero]
      intro hmem
      simpa using List.mem_of_mem_take hmem
    omega
  · rw [List.count_append, List.count_append, emplaceBack_items, List.count_append, h.balance]
    simp [List.count_singleton]
    omega

/-- A call whose callbacks add nothing answers everything. -/
theorem Waiting.answered {v : TriggerEvents} {log : List TriggerOut} (h : Waiting v log) :
    Answered (log ++ v.items.map .invoked) := by
  refine ⟨h.later.append fun n event => ?_, fun event => ?_⟩
  · have hbalance := h.balance event
    have htake : (v.items.take n).count event ≤ v.items.count event :=
      (List.take_sublist n v.items).count_le event
    rw [← List.map_take, count_invoked_map, count_added_map]
    omega
  · rw [List.count_append, List.count_append, count_invoked_map, count_added_map, h.balance]
    rfl

theorem Waiting.step {g : Growth} {v : TriggerEvents} {log : List TriggerOut} {act : TriggerAct}
    (h : Waiting v log) (hadds : AddsNothing v act) :
    ∃ v' out, triggerStep g v act = .ok (v', out) ∧ Waiting v' (log ++ out) := by
  cases act with
  | addTriggerEvent event => exact ⟨_, _, rfl, h.add g event⟩
  | handleTriggleEvents adds =>
    refine ⟨_, _, handleTriggleEvents_quiet (hadds adds rfl), h.answered.later, fun event => ?_⟩
    rw [h.answered.once, clear_items, List.count_nil, Nat.add_zero]

theorem run_waiting {g : Growth} {acts : List TriggerAct} : ∀ {v : TriggerEvents}
    {log : List TriggerOut}, Waiting v log → Meets (triggerStep g) AddsNothing v acts →
      ∃ v' out, run (triggerStep g) v acts = .ok (v', out) ∧ Waiting v' (log ++ out) := by
  induction acts with
  | nil => exact fun h _ => ⟨_, [], rfl, by rwa [List.append_nil]⟩
  | cons act acts ih =>
    intro v log h hm
    obtain ⟨k, first, hstep, hk⟩ := h.step hm.1
    obtain ⟨v', rest, hrun, hv⟩ := ih hk (hm.2 _ _ hstep)
    refine ⟨v', first ++ rest, ?_, by rwa [← List.append_assoc]⟩
    rw [run_cons_eq hstep, hrun]
    rfl

/-- Where nothing is lost, no callback that is called adds an event: it would be
cleared away before it is invoked. -/
theorem addsNothing_of_answered (g : Growth) {v : TriggerEvents} {log : List TriggerOut}
    {act : TriggerAct} (hbefore : Answered (log ++ v.items.map .invoked))
    (hafter : ∃ v' out v'' last, triggerStep g v act = .ok (v', out) ∧
      handleTriggleEvents g addNothing v' = .ok (v'', last) ∧ Answered (log ++ out ++ last)) :
    AddsNothing v act := by
  rintro adds rfl i hi
  obtain ⟨v', out, v'', last, hstep, hlast, hanswered⟩ := hafter
  obtain ⟨hnil, hcounts, hadds⟩ := handleTriggleEvents_calls hstep
  rw [handleTriggleEvents_addNothing, hnil, List.map_nil] at hlast
  cases hlast
  rw [List.append_nil] at hanswered
  by_contra hne
  obtain ⟨event, hevent⟩ := List.exists_mem_of_ne_nil _ hne
  have hadded : 0 < out.count (.added event) := List.count_pos_iff.mpr (hadds i hi event hevent)
  have hwas := hbefore.once event
  have his := hanswered.once event
  rw [List.count_append, List.count_append, count_invoked_map, count_added_map] at hwas
  rw [List.count_append, List.count_append, hcounts] at his
  omega

/-- **No trigger event is lost exactly when no callback that `HandleTriggleEvents`
calls adds one.** -/
theorem none_lost_iff (g : Growth) (acts : List TriggerAct) :
    NoneLost g acts ↔ Meets (triggerStep g) AddsNothing empty acts := by
  constructor
  · intro hnone
    rw [meets_iff_forall]
    intro pre act post v log hacts hpre
    obtain ⟨k, seen, k', out, hrun, hquiet, hbefore⟩ := hnone pre (act :: post) hacts
    cases hrun.symm.trans hpre
    rw [handleTriggleEvents_addNothing] at hquiet
    cases hquiet
    refine addsNothing_of_answered g hbefore ?_
    obtain ⟨t, seen, t', last, hrun, hlast, hafter⟩ :=
      hnone (pre ++ [act]) post (by rw [hacts, List.append_assoc]; rfl)
    obtain ⟨m, first, second, hm, hact, rfl⟩ := run_append hrun
    cases hm.symm.trans hpre
    obtain ⟨t'', out, rest, hstep, hnil, rfl⟩ := run_cons hact
    cases hnil
    exact ⟨t, out, t', last, hstep, hlast, by rwa [List.append_nil] at hafter⟩
  · intro hm pre post hacts
    subst hacts
    have hstart : Waiting empty [] := ⟨fun _ _ => by simp, fun _ => rfl⟩
    obtain ⟨v, log, hrun, hv⟩ := run_waiting hstart (meets_left hm)
    exact ⟨v, log, _, _, hrun, handleTriggleEvents_addNothing g v, hv.answered⟩

theorem lt_double (n : Nat) : n < n + max n 1 := by omega

/-- A full vector doubles its capacity. -/
def doubling : Growth := ⟨fun n => n + max n 1, lt_double⟩

/-- Two events are added, and the callback of the first adds a third: the vector
moves, and the loop goes on in the old block. -/
theorem added_in_callback_lost :
    ¬ NoneLost doubling [.addTriggerEvent 1, .addTriggerEvent 2,
      .handleTriggleEvents fun i => if i = 0 then [3] else []] := by
  intro h
  obtain ⟨v, log, v', out, hrun, -⟩ := h _ [] (List.append_nil _).symm
  cases hrun

/-- With room in the vector the loop ends well, and the event is cleared away. -/
example : (run (triggerStep doubling) empty [.addTriggerEvent 1, .addTriggerEvent 2,
    .handleTriggleEvents addNothing, .addTriggerEvent 1,
    .handleTriggleEvents fun _ => [3]]).toOption.map (fun r => (r.1.items, r.2)) =
      some ([], [.added 1, .added 2, .invoked 1, .invoked 2, .added 1, .invoked 1, .added 3]) := by
  decide

end MyRtspServer.Net.EventScheduler
