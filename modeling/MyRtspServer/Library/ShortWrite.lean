import Mathlib.Data.List.Basic

/-!
# A byte stream written with non-blocking writes

A write offers a message; the other side takes a prefix of it, or nothing. What
has been received is the concatenation of what was taken. It consists of whole
messages, but for the last, as long as nothing is taken after a message that was
cut short.
-/
namespace MyRtspServer.Library.ShortWrite

universe u

variable {α : Type u}

/-- One `write`: what it offers, and how much of it is accepted at most. -/
structure Write (α : Type u) where
  offered : List α
  answer : Option Nat

namespace Write

def taken (w : Write α) : List α :=
  match w.answer with
  | none => []
  | some k => w.offered.take k

/-- Some of the message was taken, and not all. -/
def Cut (w : Write α) : Prop := w.taken ≠ [] ∧ w.taken ≠ w.offered

instance [DecidableEq α] (w : Write α) : Decidable w.Cut :=
  inferInstanceAs (Decidable (w.taken ≠ [] ∧ w.taken ≠ w.offered))

theorem taken_isPrefix (w : Write α) : w.taken <+: w.offered := by
  unfold taken
  split
  · exact List.nil_prefix
  · exact List.take_prefix _ _

end Write

/-- All that was offered, whatever became of it. -/
def offered (log : List (Write α)) : List (List α) := log.map Write.offered

def arrived (log : List (Write α)) : List α := (log.map Write.taken).flatten

/-- Once a message was cut nothing more is taken. -/
def NothingAfterCut (log : List (Write α)) : Prop :=
  log.Pairwise fun w later => w.Cut → later.taken = []

instance [DecidableEq α] (log : List (Write α)) : Decidable (NothingAfterCut log) :=
  inferInstanceAs (Decidable (log.Pairwise fun w later => w.Cut → later.taken = []))

/-- What was received is a prefix of a sequence of offered messages. -/
def Whole (log : List (Write α)) : Prop :=
  ∃ whole : List (List α), (∀ m ∈ whole, m ∈ offered log) ∧ arrived log <+: whole.flatten

theorem arrived_cons (w : Write α) (log : List (Write α)) :
    arrived (w :: log) = w.taken ++ arrived log := rfl

theorem arrived_nil {log : List (Write α)} (h : ∀ w ∈ log, w.taken = []) : arrived log = [] := by
  rw [arrived, List.flatten_eq_nil_iff]
  intro bytes hbytes
  obtain ⟨w, hw, rfl⟩ := List.mem_map.mp hbytes
  exact h w hw

/-- The messages received whole are some of the offered ones, in their order. -/
theorem arrived_sublist {log : List (Write α)} (h : NothingAfterCut log) :
    ∃ whole : List (List α), whole.Sublist (offered log) ∧ arrived log <+: whole.flatten := by
  induction log with
  | nil => exact ⟨[], List.Sublist.refl _, List.nil_prefix⟩
  | cons w log ih =>
    obtain ⟨hcut, hlog⟩ := List.pairwise_cons.mp h
    obtain ⟨whole, hsub, hpre⟩ := ih hlog
    by_cases hnone : w.taken = []
    · refine ⟨whole, hsub.cons _, ?_⟩
      rw [arrived_cons, hnone]
      exact hpre
    by_cases hall : w.taken = w.offered
    · refine ⟨w.offered :: whole, hsub.cons_cons _, ?_⟩
      rw [arrived_cons, hall, List.flatten_cons]
      exact (List.prefix_append_right_inj _).mpr hpre
    · refine ⟨[w.offered], (List.nil_sublist _).cons_cons _, ?_⟩
      rw [arrived_cons, arrived_nil fun v hv => hcut v hv ⟨hnone, hall⟩, List.append_nil,
        List.flatten_singleton]
      exact w.taken_isPrefix

/-- **Without a message that follows a cut one, only whole messages arrive.** -/
theorem whole_of_nothingAfterCut {log : List (Write α)} (h : NothingAfterCut log) : Whole log := by
  obtain ⟨whole, hsub, hpre⟩ := arrived_sublist h
  exact ⟨whole, fun m hm => hsub.subset hm, hpre⟩

/-! ## What was taken whole -/

/-- Nothing, or less than a message that was offered. -/
def LeftOver (log : List (Write α)) (piece : List α) : Prop :=
  piece = [] ∨ ∃ w ∈ log, piece <+: w.offered ∧ piece ≠ w.offered

theorem LeftOver.cons {w : Write α} {log : List (Write α)} {piece : List α}
    (h : LeftOver log piece) : LeftOver (w :: log) piece := by
  rcases h with h | ⟨v, hv, hpiece⟩
  · exact Or.inl h
  · exact Or.inr ⟨v, List.mem_cons_of_mem _ hv, hpiece⟩

section Delivered

variable [DecidableEq α]

/-- The messages that were taken whole. -/
def delivered (log : List (Write α)) : List (List α) :=
  offered (log.filter fun w => decide (w.taken = w.offered))

theorem delivered_cons (w : Write α) (log : List (Write α)) :
    delivered (w :: log) =
      if w.taken = w.offered then w.offered :: delivered log else delivered log := by
  unfold delivered offered
  rw [List.filter_cons]
  by_cases h : w.taken = w.offered
  · rw [if_pos (decide_eq_true h), if_pos h, List.map_cons]
  · rw [if_neg (by rw [decide_eq_true_iff]; exact h), if_neg h]

theorem delivered_nothing {log : List (Write α)} (h : ∀ w ∈ log, w.taken = []) :
    (delivered log).flatten = [] := by
  rw [List.flatten_eq_nil_iff]
  intro m hm
  obtain ⟨w, hw, rfl⟩ := List.mem_map.mp hm
  obtain ⟨hmem, hwhole⟩ := List.mem_filter.mp hw
  rw [← of_decide_eq_true hwhole, h w hmem]

/-- **What arrives are the messages that were taken whole**, and less than one more. -/
theorem arrived_delivered {log : List (Write α)} (h : NothingAfterCut log) :
    ∃ piece, arrived log = (delivered log).flatten ++ piece ∧ LeftOver log piece := by
  induction log with
  | nil => exact ⟨[], rfl, Or.inl rfl⟩
  | cons w log ih =>
    obtain ⟨hcut, hlog⟩ := List.pairwise_cons.mp h
    obtain ⟨piece, hpiece, hleft⟩ := ih hlog
    rw [arrived_cons, delivered_cons]
    by_cases hall : w.taken = w.offered
    · refine ⟨piece, ?_, hleft.cons⟩
      rw [if_pos hall, hall, hpiece, List.flatten_cons, List.append_assoc]
    rw [if_neg hall]
    by_cases hnone : w.taken = []
    · refine ⟨piece, ?_, hleft.cons⟩
      rw [hnone, List.nil_append, hpiece]
    · -- nothing is taken any more
      have hnothing : ∀ v ∈ log, v.taken = [] := fun v hv => hcut v hv ⟨hnone, hall⟩
      refine ⟨w.taken, ?_, Or.inr ⟨w, List.mem_cons_self, w.taken_isPrefix, hall⟩⟩
      rw [arrived_nil hnothing, delivered_nothing hnothing, List.append_nil, List.nil_append]

end Delivered

/-! ## Testing for whole messages -/

/-- The bytes can be laid out with the messages, the last one perhaps cut. -/
def tiles [DecidableEq α] (messages : List (List α)) : Nat → List α → Bool
  | 0, s => s.isEmpty
  | fuel + 1, s => messages.any fun m =>
      s.isPrefixOf m || (m.isPrefixOf s && tiles messages fuel (s.drop m.length))

theorem tiles_nil [DecidableEq α] {messages : List (List α)} (hmem : messages ≠ []) (fuel : Nat) :
    tiles messages fuel [] = true := by
  cases fuel with
  | zero => rfl
  | succ fuel =>
    obtain ⟨m, rest, rfl⟩ := List.exists_cons_of_ne_nil hmem
    simp [tiles]

theorem tiles_of_whole [DecidableEq α] {messages : List (List α)} (hne : ∀ m ∈ messages, m ≠ [])
    {whole : List (List α)} : (∀ m ∈ whole, m ∈ messages) → messages ≠ [] →
      ∀ {fuel : Nat} {s : List α}, s.length ≤ fuel → s <+: whole.flatten →
        tiles messages fuel s = true := by
  induction whole with
  | nil =>
    intro _ hmem fuel s _ hpre
    rw [List.flatten_nil, List.prefix_nil] at hpre
    rw [hpre]
    exact tiles_nil hmem fuel
  | cons m whole ih =>
    intro hall hmem fuel s hfuel hpre
    have hm := hall m List.mem_cons_self
    cases fuel with
    | zero =>
      rw [List.length_eq_zero_iff.mp (Nat.le_zero.mp hfuel)]
      exact tiles_nil hmem 0
    | succ fuel =>
      rw [List.flatten_cons] at hpre
      rw [tiles, List.any_eq_true]
      refine ⟨m, hm, Bool.or_eq_true _ _ |>.mpr ?_⟩
      rcases List.prefix_or_prefix_of_prefix hpre (List.prefix_append m _) with hs | hms
      · exact Or.inl (List.isPrefixOf_iff_prefix.mpr hs)
      · -- a whole message first: the rest is shorter
        obtain ⟨rest, rfl⟩ := hms
        have hpos : 0 < m.length := List.length_pos_iff.mpr (hne m hm)
        rw [List.length_append] at hfuel
        refine Or.inr (Bool.and_eq_true _ _ |>.mpr
          ⟨List.isPrefixOf_iff_prefix.mpr (List.prefix_append m rest), ?_⟩)
        rw [List.drop_left]
        exact ih (fun m' hm' => hall m' (List.mem_cons_of_mem _ hm')) hmem (by omega)
          ((List.prefix_append_right_inj m).mp hpre)

/-- What cannot be laid out with the offered messages is not whole. -/
theorem not_whole_of_tiles [DecidableEq α] {log : List (Write α)} (hne : ∀ m ∈ offered log, m ≠ [])
    (hsome : log ≠ []) (h : tiles (offered log) (arrived log).length (arrived log) = false) :
    ¬ Whole log := by
  rintro ⟨whole, hall, hpre⟩
  have hmem : offered log ≠ [] := by simpa [offered] using hsome
  rw [tiles_of_whole hne hall hmem (Nat.le_refl _) hpre] at h
  cases h

end MyRtspServer.Library.ShortWrite
