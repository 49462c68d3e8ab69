import Mathlib.Algebra.Group.Int.Defs
import Mathlib.Data.List.Basic

/-!
# A flat byte memory

An allocation is a function from offsets to bytes. Its size is not part of it:
whoever copies into it says which offsets belong to the allocation. `store` and
`load` satisfy the laws of independent copies.
-/
namespace MyRtspServer.Library

abbrev Memory := Nat → UInt8

namespace Memory

def load (m : Memory) (off len : Nat) : List UInt8 :=
  (List.range len).map fun i => m (off + i)

def store (m : Memory) (off : Nat) (bytes : List UInt8) : Memory :=
  fun i => if off ≤ i ∧ i < off + bytes.length then bytes.getD (i - off) 0 else m i

@[simp] theorem load_length (m : Memory) (off len : Nat) : (m.load off len).length = len := by
  simp [load]

@[simp] theorem load_zero (m : Memory) (off : Nat) : m.load off 0 = [] := rfl

theorem load_getElem? (m : Memory) {off len i : Nat} (h : i < len) :
    (m.load off len)[i]? = some (m (off + i)) := by
  simp [load, h]

/-- Consecutive ranges are read one after the other. -/
theorem load_add (m : Memory) (off a b : Nat) :
    m.load off (a + b) = m.load off a ++ m.load (off + a) b := by
  simp [load, List.range_add, Nat.add_assoc]

/-- Reading what was just written. -/
theorem load_store (m : Memory) (off : Nat) (bytes : List UInt8) :
    (m.store off bytes).load off bytes.length = bytes := by
  apply List.ext_getElem?
  intro i
  by_cases h : i < bytes.length
  · rw [load_getElem? _ h]
    simp [store, h]
  · rw [List.getElem?_eq_none (by simpa using h), List.getElem?_eq_none (by omega)]

/-- A range that does not meet the written one is unchanged. -/
theorem load_store_disjoint (m : Memory) {off from_ len : Nat} {bytes : List UInt8}
    (h : from_ + len ≤ off ∨ off + bytes.length ≤ from_) :
    (m.store off bytes).load from_ len = m.load from_ len := by
  apply List.map_congr_left
  intro i hi
  have hi' : i < len := List.mem_range.mp hi
  have hno : ¬ (off ≤ from_ + i ∧ from_ + i < off + bytes.length) := by omega
  simp only [store, hno, if_false]

/-- Bytes stored right behind a range continue it. -/
theorem load_store_next (m : Memory) (off n : Nat) (bytes : List UInt8) :
    (m.store (off + n) bytes).load off (n + bytes.length) = m.load off n ++ bytes := by
  rw [load_add, load_store_disjoint _ (Or.inl (Nat.le_refl _)), load_store]

/-- A longer range begins with the shorter one. -/
theorem load_take (m : Memory) {off a b : Nat} (h : a ≤ b) : (m.load off b).take a = m.load off a := by
  obtain ⟨c, rfl⟩ := Nat.le.dest h
  rw [load_add, List.take_append_of_le_length (by simp), List.take_of_length_le (by simp)]

theorem load_drop (m : Memory) {off a b : Nat} (h : a ≤ b) :
    (m.load off b).drop a = m.load (off + a) (b - a) := by
  obtain ⟨c, rfl⟩ := Nat.le.dest h
  rw [load_add, List.drop_left' (by simp), Nat.add_sub_cancel_left]

/-! ## Copying inside one memory -/

/-- `std::copy` of `len` bytes, one byte after the other from the front. -/
def copy (m : Memory) (src dst : Nat) : Nat → Memory
  | 0 => m
  | len + 1 =>
    let copied := copy m src dst len
    copied.store (dst + len) [copied (src + len)]

theorem copy_outside (m : Memory) (src dst : Nat) {i : Nat} :
    ∀ len, i < dst ∨ dst + len ≤ i → m.copy src dst len i = m i
  | 0, _ => rfl
  | len + 1, h => by
    have hno : ¬ (dst + len ≤ i ∧ i < dst + len + 1) := by omega
    simp only [copy, store, List.length_singleton, hno, if_false]
    exact copy_outside m src dst len (by omega)

/-- **Overlapping ranges do no harm** when the copy goes to a lower address. -/
theorem load_copy (m : Memory) {src dst : Nat} (h : dst ≤ src) :
    ∀ len, (m.copy src dst len).load dst len = m.load src len
  | 0 => rfl
  | len + 1 => by
    -- the next source byte has not been overwritten yet
    have hsource : m.copy src dst len (src + len) = m (src + len) :=
      copy_outside m src dst len (by omega)
    have hlast : (m.copy src dst (len + 1)).load (dst + len) 1 = m.load (src + len) 1 := by
      simp [load, copy, store, hsource]
    have hfront : (m.copy src dst (len + 1)).load dst len = m.load src len := by
      rw [copy, load_store_disjoint _ (Or.inl (Nat.le_refl _))]
      exact load_copy m h len
    rw [load_add, load_add, hfront, hlast]

/-! ## Growing an allocation -/

/-- `realloc`: the first `kept` bytes stay, the others are whatever `fresh` says. -/
def realloc (m : Memory) (kept : Nat) (fresh : Memory) : Memory :=
  fun i => if i < kept then m i else fresh i

theorem load_realloc (m fresh : Memory) {off len kept : Nat} (h : off + len ≤ kept) :
    (m.realloc kept fresh).load off len = m.load off len := by
  apply List.map_congr_left
  intro i hi
  have hi' : off + i < kept := Nat.lt_of_lt_of_le (Nat.add_lt_add_left (List.mem_range.mp hi) off) h
  simp only [realloc, hi', if_true]

end Memory
end MyRtspServer.Library
