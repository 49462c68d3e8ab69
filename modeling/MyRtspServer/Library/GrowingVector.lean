import Mathlib.Data.List.Basic

/-!
# A vector that moves when it grows

Appending to a full vector moves the elements into a larger block, and whatever
points into the old one is invalid from then on. Blocks are numbered, so an
iterator is a block and a position, and it can be followed while they agree.
-/
namespace MyRtspServer.Library

universe u

/-- The capacity of the block that a full vector moves to. -/
structure Growth where
  size : Nat → Nat
  grows : ∀ n, n < size n

structure GrowingVector (α : Type u) where
  items : List α
  capacity : Nat
  block : Nat
  fits : items.length ≤ capacity

namespace GrowingVector

variable {α : Type u}

theorem length_append_singleton_le {items : List α} {capacity : Nat} {x : α}
    (h : items.length < capacity) : (items ++ [x]).length ≤ capacity := by
  rw [List.length_append]
  exact h

def empty : GrowingVector α := ⟨[], 0, 0, Nat.le_refl 0⟩

/-- Appending moves the vector if it is full. -/
def emplaceBack (g : Growth) (v : GrowingVector α) (x : α) : GrowingVector α :=
  if h : v.items.length < v.capacity then
    ⟨v.items ++ [x], v.capacity, v.block, length_append_singleton_le h⟩
  else
    ⟨v.items ++ [x], g.size v.items.length, v.block + 1,
      length_append_singleton_le (g.grows v.items.length)⟩

/-- The block is kept for later. -/
def clear (v : GrowingVector α) : GrowingVector α := ⟨[], v.capacity, v.block, Nat.zero_le _⟩

/-- The element that an iterator into `block` points at. -/
def deref (v : GrowingVector α) (block position : Nat) : Option α :=
  if v.block = block then v.items[position]? else none

@[simp] theorem emplaceBack_items (g : Growth) (v : GrowingVector α) (x : α) :
    (v.emplaceBack g x).items = v.items ++ [x] := by
  unfold emplaceBack
  split <;> rfl

@[simp] theorem empty_items : (empty : GrowingVector α).items = [] := rfl

@[simp] theorem clear_items (v : GrowingVector α) : v.clear.items = [] := rfl

theorem clear_of_nil {v : GrowingVector α} (h : v.items = []) : v.clear = v := by
  obtain ⟨items, capacity, block, fits⟩ := v
  cases h
  rfl

/-- Appending any number of elements. -/
def emplaceAll (g : Growth) (v : GrowingVector α) (xs : List α) : GrowingVector α :=
  xs.foldl (emplaceBack g) v

@[simp] theorem emplaceAll_items (g : Growth) (xs : List α) :
    ∀ v : GrowingVector α, (v.emplaceAll g xs).items = v.items ++ xs := by
  induction xs with
  | nil => exact fun v => (List.append_nil _).symm
  | cons x xs ih =>
    intro v
    change ((v.emplaceBack g x).emplaceAll g xs).items = _
    rw [ih, emplaceBack_items, List.append_assoc, List.singleton_append]

theorem deref_some {v : GrowingVector α} {block position : Nat} {x : α}
    (h : v.deref block position = some x) : v.block = block ∧ v.items[position]? = some x := by
  unfold deref at h
  split at h
  · exact ⟨‹_›, h⟩
  · cases h

theorem deref_getElem {v : GrowingVector α} {position : Nat} (h : position < v.items.length) :
    v.deref v.block position = some v.items[position] := by
  rw [deref, if_pos rfl, List.getElem?_eq_getElem h]

end GrowingVector
end MyRtspServer.Library
