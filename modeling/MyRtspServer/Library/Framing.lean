import Mathlib.Data.List.Basic

/-!
# Items that arrive in pieces

A stream is a sequence of items, and each is encoded by at least one symbol. What
has arrived of it is some whole items and less than one of the next.
-/
namespace MyRtspServer.Library.Framing

universe u v

variable {Item : Type u} {Symbol : Type v}

/-- What has arrived: whole items, and a piece of the first that is still to come. -/
structure Arrived (Item : Type u) (Symbol : Type v) where
  whole : List Item
  rest : List Item
  left : List Symbol

/-- The piece is less than one item. -/
def LessThanOne (encode : Item → List Symbol) : List Item → List Symbol → Prop
  | [], left => left = []
  | item :: _, left => left <+: encode item ∧ left ≠ encode item

/-- What a buffer holds of the items that are expected. -/
def arrived [BEq Symbol] (encode : Item → List Symbol) :
    List Item → List Symbol → Arrived Item Symbol
  | [], buffer => ⟨[], [], buffer⟩
  | item :: items, buffer =>
    if (encode item).isPrefixOf buffer then
      let later := arrived encode items (buffer.drop (encode item).length)
      ⟨item :: later.whole, later.rest, later.left⟩
    else ⟨[], item :: items, buffer⟩

section Rules

variable [BEq Symbol] [LawfulBEq Symbol] {encode : Item → List Symbol}

theorem arrived_whole {item : Item} {items : List Item} (left : List Symbol) :
    arrived encode (item :: items) (encode item ++ left) =
      ⟨item :: (arrived encode items left).whole, (arrived encode items left).rest,
        (arrived encode items left).left⟩ := by
  have hbegins : (encode item).isPrefixOf (encode item ++ left) = true :=
    List.isPrefixOf_iff_prefix.mpr (List.prefix_append _ _)
  rw [arrived, if_pos hbegins, List.drop_left]

theorem arrived_piece {item : Item} {items : List Item} {buffer : List Symbol}
    (h : ¬ encode item <+: buffer) :
    arrived encode (item :: items) buffer = ⟨[], item :: items, buffer⟩ := by
  rw [arrived, if_neg fun hp => h (List.isPrefixOf_iff_prefix.mp hp)]

/-- **What has arrived is a beginning of the stream**, cut where the last whole item
ends. -/
theorem arrived_split (encode : Item → List Symbol) (items : List Item) : ∀ buffer : List Symbol,
    (arrived encode items buffer).whole ++ (arrived encode items buffer).rest = items ∧
      (arrived encode items buffer).whole.flatMap encode ++ (arrived encode items buffer).left =
        buffer := by
  induction items with
  | nil => exact fun _ => ⟨rfl, rfl⟩
  | cons item items ih =>
    intro buffer
    by_cases h : encode item <+: buffer
    · obtain ⟨left, rfl⟩ := h
      obtain ⟨hitems, hbuffer⟩ := ih left
      rw [arrived_whole]
      refine ⟨congrArg (item :: ·) hitems, ?_⟩
      rw [List.flatMap_cons, List.append_assoc, hbuffer]
    · rw [arrived_piece h]
      exact ⟨rfl, rfl⟩

/-- What is left belongs to the items still to come. -/
theorem arrived_left {items : List Item} : ∀ {buffer more : List Symbol},
    buffer ++ more = items.flatMap encode →
      (arrived encode items buffer).left ++ more =
        (arrived encode items buffer).rest.flatMap encode := by
  induction items with
  | nil => exact fun h => h
  | cons item items ih =>
    intro buffer more h
    by_cases hp : encode item <+: buffer
    · obtain ⟨left, rfl⟩ := hp
      rw [List.flatMap_cons, List.append_assoc] at h
      rw [arrived_whole]
      exact ih (List.append_cancel_left h)
    · rw [arrived_piece hp]
      exact h

/-- **What is left is less than one item.** -/
theorem arrived_less {items : List Item} : ∀ {buffer : List Symbol},
    buffer <+: items.flatMap encode →
      LessThanOne encode (arrived encode items buffer).rest (arrived encode items buffer).left := by
  induction items with
  | nil => exact fun h => List.prefix_nil.mp h
  | cons item items ih =>
    intro buffer h
    by_cases hp : encode item <+: buffer
    · obtain ⟨left, rfl⟩ := hp
      rw [List.flatMap_cons, List.prefix_append_right_inj] at h
      rw [arrived_whole]
      exact ih h
    · rw [arrived_piece hp]
      rw [List.flatMap_cons] at h
      rcases List.prefix_or_prefix_of_prefix h (List.prefix_append _ _) with hless | hmore
      · exact ⟨hless, fun heq => hp (heq ▸ List.prefix_refl _)⟩
      · exact absurd hmore hp

/-- **A buffer can be taken in two steps**: what is left of the first one goes on. -/
theorem arrived_append (encode : Item → List Symbol) (items : List Item) :
    ∀ buffer more : List Symbol,
    arrived encode items (buffer ++ more) =
      let first := arrived encode items buffer
      let second := arrived encode first.rest (first.left ++ more)
      ⟨first.whole ++ second.whole, second.rest, second.left⟩ := by
  induction items with
  | nil => exact fun _ _ => rfl
  | cons item items ih =>
    intro buffer more
    by_cases hp : encode item <+: buffer
    · obtain ⟨left, rfl⟩ := hp
      rw [List.append_assoc, arrived_whole, arrived_whole, ih]
      rfl
    · rw [arrived_piece hp]
      rfl

/-- The items that become whole with each piece, one piece after the other. -/
def brought (encode : Item → List Symbol) (items : List Item) (left : List Symbol) :
    List (List Symbol) → List Item
  | [] => []
  | piece :: pieces =>
    (arrived encode items (left ++ piece)).whole ++
      brought encode (arrived encode items (left ++ piece)).rest
        (arrived encode items (left ++ piece)).left pieces

/-- **However the stream is cut, the same items become whole**, each once and in order. -/
theorem brought_eq (encode : Item → List Symbol) (items : List Item)
    (pieces : List (List Symbol)) : ∀ buffer : List Symbol,
    (arrived encode items buffer).whole ++ brought encode (arrived encode items buffer).rest
      (arrived encode items buffer).left pieces =
        (arrived encode items (buffer ++ pieces.flatten)).whole := by
  induction pieces with
  | nil =>
    intro buffer
    rw [brought, List.append_nil, List.flatten_nil, List.append_nil]
  | cons piece pieces ih =>
    intro buffer
    have happend := arrived_append encode items buffer piece
    rw [brought, List.flatten_cons, ← List.append_assoc buffer, ← ih, happend, List.append_assoc]

theorem arrived_all (items : List Item) :
    arrived encode items (items.flatMap encode) = ⟨items, [], []⟩ := by
  induction items with
  | nil => rfl
  | cons item items ih => rw [List.flatMap_cons, arrived_whole, ih]

/-- A stream that has arrived in full is whole. -/
theorem brought_all {items : List Item} {left : List Symbol} {pieces : List (List Symbol)}
    (hstart : LessThanOne encode items left) (h : left ++ pieces.flatten = items.flatMap encode) :
    brought encode items left pieces = items := by
  have hbegin : arrived encode items left = ⟨[], items, left⟩ := by
    cases items with
    | nil => rfl
    | cons item items =>
      exact arrived_piece fun hwhole =>
        hstart.2 (hstart.1.eq_of_length (Nat.le_antisymm hstart.1.length_le hwhole.length_le))
  have hall := brought_eq encode items pieces left
  rw [hbegin, h, arrived_all] at hall
  exact hall

end Rules
end MyRtspServer.Library.Framing
