import MyRtspServer.Library.RtpFormat

/-!
# Numbers packed into bits

Fields of given widths stand one behind the other, the first in the highest bits,
and the whole is spelled in bytes from the left. A field is found again by the
number of bits behind it.
-/
namespace MyRtspServer.Library.BitFields

open RtpFormat

/-- The number of bits a value takes, and the value. -/
abbrev Field := Nat × Nat

def width : List Field → Nat
  | [] => 0
  | f :: fs => f.1 + width fs

def pack : List Field → Nat
  | [] => 0
  | f :: fs => f.2 * 2 ^ width fs + pack fs

def Fits (fs : List Field) : Prop := ∀ f ∈ fs, f.2 < 2 ^ f.1

/-- The field of `w` bits with `start` bits behind it. -/
def bits (n start w : Nat) : Nat := n / 2 ^ start % 2 ^ w

theorem width_append (before after : List Field) :
    width (before ++ after) = width before + width after := by
  induction before with
  | nil => exact (Nat.zero_add _).symm
  | cons f before ih => rw [List.cons_append, width, width, ih, Nat.add_assoc]

theorem pack_append (before after : List Field) :
    pack (before ++ after) = pack before * 2 ^ width after + pack after := by
  induction before with
  | nil => rw [List.nil_append, pack, Nat.zero_mul, Nat.zero_add]
  | cons f before ih =>
    rw [List.cons_append, pack, pack, ih, width_append, Nat.pow_add, Nat.add_mul, Nat.mul_assoc,
      Nat.add_assoc]

theorem pack_lt {fs : List Field} (h : Fits fs) : pack fs < 2 ^ width fs := by
  induction fs with
  | nil => exact Nat.one_pos
  | cons f fs ih =>
    have hf := h f List.mem_cons_self
    have hrest := ih fun g hg => h g (List.mem_cons_of_mem _ hg)
    calc pack (f :: fs) = f.2 * 2 ^ width fs + pack fs := rfl
      _ < f.2 * 2 ^ width fs + 2 ^ width fs := Nat.add_lt_add_left hrest _
      _ = (f.2 + 1) * 2 ^ width fs := by rw [Nat.add_mul, Nat.one_mul]
      _ ≤ 2 ^ f.1 * 2 ^ width fs := Nat.mul_le_mul_right _ hf
      _ = 2 ^ width (f :: fs) := by rw [width, Nat.pow_add]

/-- **Every field is found again**, whatever stands in front of it. -/
theorem bits_pack (before after : List Field) {w v : Nat} (hv : v < 2 ^ w) (hafter : Fits after) :
    bits (pack (before ++ (w, v) :: after)) (width after) w = v := by
  have hpack : pack (before ++ (w, v) :: after) =
      pack after + 2 ^ width after * (pack before * 2 ^ w + v) := by
    rw [pack_append, pack, width, Nat.pow_add, ← Nat.mul_assoc, ← Nat.add_assoc, ← Nat.add_mul,
      Nat.mul_comm _ (2 ^ width after), Nat.add_comm]
  rw [bits, hpack, Nat.add_mul_div_left _ _ (Nat.two_pow_pos _), Nat.div_eq_of_lt (pack_lt hafter),
    Nat.zero_add, Nat.mul_comm, Nat.mul_add_mod, Nat.mod_eq_of_lt hv]

/-- How many bits follow each field, and its width. -/
def positions : List Field → List (Nat × Nat)
  | [] => []
  | f :: fs => (width fs, f.1) :: positions fs

/-- The fields `spots` says where to find. -/
def fieldsAt (n : Nat) (spots : List (Nat × Nat)) : List Nat := spots.map fun p => bits n p.1 p.2

theorem fieldsAt_positions_append {fs : List Field} (h : Fits fs) : ∀ before : List Field,
    fieldsAt (pack (before ++ fs)) (positions fs) = fs.map Prod.snd := by
  induction fs with
  | nil => exact fun _ => rfl
  | cons f fs ih =>
    intro before
    have hrest : Fits fs := fun g hg => h g (List.mem_cons_of_mem _ hg)
    have hfirst : bits (pack (before ++ f :: fs)) (width fs) f.1 = f.2 :=
      bits_pack before fs (h f List.mem_cons_self) hrest
    have htail := ih hrest (before ++ [f])
    rw [List.append_assoc, List.singleton_append] at htail
    exact List.cons_eq_cons.mpr ⟨hfirst, htail⟩

theorem fieldsAt_positions {fs : List Field} (h : Fits fs) :
    fieldsAt (pack fs) (positions fs) = fs.map Prod.snd :=
  fieldsAt_positions_append h []

/-- A part of a field. -/
theorem bits_bits (n : Nat) {start w part k : Nat} (h : part + k ≤ w) :
    bits (bits n start w) part k = bits n (start + part) k := by
  obtain ⟨rest, rfl⟩ := Nat.exists_eq_add_of_le h
  rw [bits, bits, bits, Nat.add_assoc part, Nat.pow_add 2 part, Nat.mod_mul_right_div_self,
    Nat.div_div_eq_div_mul, ← Nat.pow_add,
    Nat.mod_mod_of_dvd _ (Nat.pow_dvd_pow 2 (Nat.le_add_right k rest))]

/-! ## Bytes -/

/-- `count` bytes of a number, the lowest on the right. -/
def spell : Nat → Nat → Octets
  | 0, _ => []
  | count + 1, n => spell count (n / 256) ++ [UInt8.ofNat (n % 256)]

theorem spell_length (count : Nat) : ∀ n, (spell count n).length = count := by
  induction count with
  | zero => exact fun _ => rfl
  | succ count ih =>
    intro n
    rw [spell, List.length_append, ih, List.length_singleton]

theorem bigEndian_concat (s : Octets) (b : UInt8) :
    bigEndian (s ++ [b]) = bigEndian s * 256 + b.toNat := by
  simp [bigEndian]

theorem bigEndian_spell (count : Nat) : ∀ n, n < 256 ^ count → bigEndian (spell count n) = n := by
  induction count with
  | zero =>
    intro n hn
    rw [Nat.pow_zero, Nat.lt_one_iff] at hn
    rw [hn]
    rfl
  | succ count ih =>
    intro n hn
    have hbyte : (UInt8.ofNat (n % 256)).toNat = n % 256 := by
      rw [UInt8.toNat_ofNat']
      exact Nat.mod_mod n 256
    rw [spell, bigEndian_concat, ih (n / 256) (by rw [Nat.pow_succ] at hn; omega), hbyte]
    omega

end MyRtspServer.Library.BitFields
