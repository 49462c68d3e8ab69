import Mathlib.Data.Prod.Lex
import MyRtspServer.Net.TimerInvariant

/-!
# The order of `m_events_map_`

Every operation keeps `m_events_map_` ascending and each event under the time
stamp of its own timer. Neither needs the ids to be unique, so both hold of
every manager there is.
-/
namespace MyRtspServer.Net

open TimerManager

theorem TimerIndex.before_iff (a b : TimerIndex) : a.before b = true ↔ toLex a < toLex b := by
  rw [Prod.Lex.toLex_lt_toLex]
  simp [TimerIndex.before]

/-- Ascending by deadline, and by id where deadlines are equal. -/
def Ascending (l : List (TimerIndex × Timer)) : Prop :=
  l.Pairwise fun a b => toLex a.1 ≤ toLex b.1

theorem Ascending.deadline_le {e d : TimerIndex × Timer} {rest : List (TimerIndex × Timer)}
    (h : Ascending (e :: rest)) (hd : d ∈ rest) : e.1.1 ≤ d.1.1 :=
  Prod.Lex.monotone_fst _ _ ((List.pairwise_cons.mp h).1 d hd)

theorem insertEvent_ascending (entry : TimerIndex × Timer) {l : List (TimerIndex × Timer)}
    (h : Ascending l) : Ascending (insertEvent entry l) := by
  induction l with
  | nil => exact List.pairwise_singleton _ _
  | cons e rest ih =>
    obtain ⟨hfirst, hrest⟩ := List.pairwise_cons.mp h
    rw [insertEvent]
    split
    · rename_i hbefore
      have hlt := (TimerIndex.before_iff _ _).mp hbefore
      refine List.pairwise_cons.mpr ⟨fun d hd => ?_, h⟩
      rcases List.mem_cons.mp hd with rfl | hd
      · exact hlt.le
      · exact hlt.le.trans (hfirst d hd)
    · rename_i hbefore
      rw [TimerIndex.before_iff, not_lt] at hbefore
      refine List.pairwise_cons.mpr ⟨fun d hd => ?_, ih hrest⟩
      rcases List.mem_cons.mp ((insertEvent_perm entry rest).mem_iff.mp hd) with rfl | hd
      · exact hbefore
      · exact hfirst d hd

theorem insertEvent_filter {p : TimerIndex × Timer → Bool} {entry : TimerIndex × Timer}
    (hp : p entry = false) (l : List (TimerIndex × Timer)) :
    (insertEvent entry l).filter p = l.filter p := by
  induction l with
  | nil => rw [insertEvent, List.filter_cons, hp]; rfl
  | cons e rest ih =>
    rw [insertEvent]
    split
    · rw [List.filter_cons_of_neg (by rw [hp]; exact Bool.false_ne_true)]
    · rw [List.filter_cons, List.filter_cons, ih]

theorem mem_insertEvent {entry e : TimerIndex × Timer} {l : List (TimerIndex × Timer)} :
    e ∈ insertEvent entry l ↔ e = entry ∨ e ∈ l := by
  rw [(insertEvent_perm entry l).mem_iff, List.mem_cons]

namespace TimerManager

/-- The events in firing order, each under its timer's time stamp. -/
structure Ordered (m : TimerManager) : Prop where
  ascending : Ascending m.eventsMap
  keyed : ∀ e ∈ m.eventsMap, e.2.timeStamp = e.1.1

theorem ordered_empty : Ordered {} where
  ascending := List.Pairwise.nil
  keyed e he := by cases he

/-- Taking events away leaves the rest in order. -/
theorem Ordered.of_sublist {m m' : TimerManager} (h : m.Ordered)
    (hsub : m'.eventsMap.Sublist m.eventsMap) : m'.Ordered where
  ascending := h.ascending.sublist hsub
  keyed e he := h.keyed e (hsub.subset he)

theorem Ordered.insert {m m' : TimerManager} (h : m.Ordered) {entry : TimerIndex × Timer}
    (hkey : entry.2.timeStamp = entry.1.1)
    (he : m'.eventsMap = insertEvent entry m.eventsMap) : m'.Ordered where
  ascending := by
    rw [he]
    exact insertEvent_ascending _ h.ascending
  keyed e hmem := by
    rw [he] at hmem
    rcases mem_insertEvent.mp hmem with rfl | hold
    · exact hkey
    · exact h.keyed e hold

theorem addTimer_ordered {m : TimerManager} (h : m.Ordered) (event : Option Nat) (stamp : Int)
    (interval : Nat) : (m.addTimer event stamp interval).Ordered :=
  h.insert rfl (addTimer_eventsMap m event stamp interval)

theorem removeTimer_ordered {m : TimerManager} (h : m.Ordered) (id : Nat) :
    (m.removeTimer id).Ordered := by
  cases hl : m.timersMap.lookup id with
  | none => exact h.of_sublist (by rw [(removeTimer_of_absent hl).2])
  | some timer =>
    refine h.of_sublist ?_
    rw [(removeTimer_of_lookup hl).2]
    exact List.filter_sublist

theorem modifyTimeout_ordered {m : TimerManager} (h : m.Ordered) : m.modifyTimeout.Ordered :=
  h.of_sublist (by rw [modifyTimeout_eventsMap])

/-- Whatever stands first when the callback returns, the events stay in order. -/
theorem settle_ordered {m : TimerManager} (h : m.Ordered) {first : TimerIndex × Timer}
    {rest : List (TimerIndex × Timer)} (he : m.eventsMap = first :: rest) (now : Int) (id : Nat)
    (timer : Timer) : (m.settle now id timer rest).Ordered := by
  have hrest : ({ m with eventsMap := rest } : TimerManager).Ordered :=
    h.of_sublist (by rw [he]; exact List.sublist_cons_self _ _)
  unfold settle
  split
  · exact hrest.insert rfl rfl
  · exact ⟨hrest.ascending, hrest.keyed⟩

end TimerManager
end MyRtspServer.Net
