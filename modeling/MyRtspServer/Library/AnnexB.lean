import MyRtspServer.Library.Octets

/-!
# Byte streams of NAL units

A stream is a sequence of NAL units, each behind a start code of three or four
bytes. A unit holds no start code and does not end in a zero, so the next start
code behind the one in front is where the unit ends.
-/
namespace MyRtspServer.Library.AnnexB

def code3 : Octets := [0, 0, 1]

def code4 : Octets := [0, 0, 0, 1]

/-- A NAL unit and the start code in front of it. -/
structure NalUnit where
  long : Bool
  nal : Octets
  nonempty : nal ≠ []
  clean : ¬ code3 <:+: nal
  ends : nal.getLast nonempty ≠ 0

/-- A start code stands here. -/
def StartsCode (s : Octets) : Prop := code3 <+: s ∨ code4 <+: s

instance (s : Octets) : Decidable (StartsCode s) := inferInstanceAs (Decidable (_ ∨ _))

namespace NalUnit

def code (u : NalUnit) : Octets := if u.long then code4 else code3

def bytes (u : NalUnit) : Octets := u.code ++ u.nal

theorem code_length (u : NalUnit) : u.code.length = if u.long then 4 else 3 := by
  unfold code
  split <;> rfl

theorem bytes_length (u : NalUnit) : u.bytes.length = u.code.length + u.nal.length :=
  List.length_append

theorem four_le_bytes (u : NalUnit) : 4 ≤ u.bytes.length := by
  have hpos := List.length_pos_of_ne_nil u.nonempty
  rw [bytes_length, code_length]
  split <;> omega

end NalUnit

/-- The stream of some units. -/
def stream (units : List NalUnit) : Octets := units.flatMap NalUnit.bytes

/-! ## Where start codes are -/

/-- A start code ends in a one. -/
theorem StartsCode.one_mem {s : Octets} (h : StartsCode s) : (1 : UInt8) ∈ s := by
  rcases h with h | h
  · exact h.subset (by simp [code3])
  · exact h.subset (by simp [code4])

theorem startsCode_of_code (u : NalUnit) {s : Octets} (h : u.code <+: s) : StartsCode s := by
  rw [NalUnit.code] at h
  split at h
  · exact Or.inr h
  · exact Or.inl h

theorem startsCode_bytes (u : NalUnit) (rest : Octets) : StartsCode (u.bytes ++ rest) := by
  rw [NalUnit.bytes, List.append_assoc]
  exact startsCode_of_code u (List.prefix_append _ _)

theorem StartsCode.three_le {s : Octets} (h : StartsCode s) : 3 ≤ s.length := by
  rcases h with h | h
  · exact h.length_le
  · exact Nat.le_trans (Nat.le_succ 3) h.length_le

/-- A pattern of zeros and one byte more does not begin inside a text that has none
of it and does not end in a zero. -/
theorem not_prefix_drop {pat text : Octets} (hzeros : ∀ b ∈ pat.dropLast, b = 0)
    (hclean : ¬ pat <:+: text) (hne : text ≠ []) (hends : text.getLast hne ≠ 0) (rest : Octets)
    {i : Nat} (hi : i < text.length) : ¬ pat <+: (text ++ rest).drop i := by
  intro h
  rw [List.drop_append_of_le_length hi.le] at h
  have htail : text.drop i ≠ [] := by simpa using hi
  have hinside : ¬ pat <+: text.drop i :=
    fun hp => hclean (hp.isInfix.trans (List.drop_suffix i text).isInfix)
  rcases List.prefix_or_prefix_of_prefix h (List.prefix_append _ rest) with hp | hp
  · exact hinside hp
  · -- the text ends within the pattern, before its last byte
    have hshort : text.drop i <+: pat.dropLast := by
      obtain ⟨more, hmore⟩ := hp
      have hmore_ne : more ≠ [] := by
        rintro rfl
        rw [List.append_nil] at hmore
        exact hinside (hmore ▸ List.prefix_refl _)
      rw [← hmore, List.dropLast_append_of_ne_nil hmore_ne]
      exact List.prefix_append _ _
    have hlast := hzeros _ (hshort.subset (List.getLast_mem htail))
    rw [List.getLast_drop] at hlast
    exact hends hlast

theorem code3_zeros : ∀ b ∈ code3.dropLast, b = 0 := by simp [code3]

theorem code4_zeros : ∀ b ∈ code4.dropLast, b = 0 := by simp [code4]

/-- What is cut off a code ends in front of its last byte. -/
theorem take_prefix_dropLast {code : Octets} {k : Nat} (hk : k < code.length) :
    code.take k <+: code.dropLast := by
  rw [List.dropLast_eq_take]
  exact List.take_prefix_take_left (Nat.le_sub_one_of_lt hk)

/-- A start code that is cut off is no start code. -/
theorem NalUnit.not_startsCode_cut (u : NalUnit) {k : Nat} (hk : k < u.code.length) (i : Nat) :
    ¬ StartsCode ((u.code.take k).drop i) := by
  intro h
  have hone : (1 : UInt8) ∈ u.code.dropLast :=
    (take_prefix_dropLast hk).subset (List.mem_of_mem_drop h.one_mem)
  have hzeros : ∀ b ∈ u.code.dropLast, b = 0 := by
    rw [NalUnit.code]
    split
    · exact code4_zeros
    · exact code3_zeros
  exact absurd (hzeros 1 hone) (by decide)

theorem not_startsCode_nal (u : NalUnit) (rest : Octets) {i : Nat} (hi : i < u.nal.length) :
    ¬ StartsCode ((u.nal ++ rest).drop i) := by
  have hclean4 : ¬ code4 <:+: u.nal :=
    fun h => u.clean ((List.suffix_cons 0 code3).isInfix.trans h)
  rintro (h | h)
  · exact not_prefix_drop code3_zeros u.clean u.nonempty u.ends rest hi h
  · exact not_prefix_drop code4_zeros hclean4 u.nonempty u.ends rest hi h

/-- **Behind its own start code a unit holds no other**, whatever follows it. -/
theorem not_startsCode_bytes (u : NalUnit) (rest : Octets) {i : Nat} (hstart : 3 ≤ i)
    (hi : i < u.bytes.length) : ¬ StartsCode ((u.bytes ++ rest).drop i) := by
  rw [NalUnit.bytes_length, NalUnit.code_length] at hi
  rw [NalUnit.bytes, NalUnit.code]
  split at hi
  · rename_i hlong
    rw [if_pos hlong, List.append_assoc]
    by_cases hfirst : i = 3
    · subst hfirst
      rintro (h | h)
      · exact absurd (List.cons_prefix_cons.mp h).1 (by decide)
      · exact absurd (List.cons_prefix_cons.mp h).1 (by decide)
    · obtain ⟨j, rfl⟩ : ∃ j, i = j + 4 := ⟨i - 4, by omega⟩
      exact not_startsCode_nal u rest (by omega)
  · rename_i hlong
    rw [if_neg hlong, List.append_assoc]
    obtain ⟨j, rfl⟩ : ∃ j, i = j + 3 := ⟨i - 3, by omega⟩
    exact not_startsCode_nal u rest (by omega)

/-! ## The first start code -/

/-- The offset of the first start code. -/
def firstCode : Octets → Option Nat
  | [] => none
  | b :: s => if StartsCode (b :: s) then some 0 else (firstCode s).map (· + 1)

theorem not_startsCode_nil : ¬ StartsCode [] := fun h => absurd h.three_le (by decide)

theorem firstCode_starts {b : UInt8} {s : Octets} (h : StartsCode (b :: s)) :
    firstCode (b :: s) = some 0 := if_pos h

theorem firstCode_next {b : UInt8} {s : Octets} (h : ¬ StartsCode (b :: s)) :
    firstCode (b :: s) = (firstCode s).map (· + 1) := if_neg h

/-- A text too short for a start code has none. -/
theorem firstCode_short {s : Octets} (h : s.length < 3) : firstCode s = none := by
  induction s with
  | nil => rfl
  | cons b s ih =>
    have hno : ¬ StartsCode (b :: s) := fun hstarts => absurd hstarts.three_le (Nat.not_le.mpr h)
    rw [firstCode_next hno, ih (Nat.lt_of_succ_lt h), Option.map_none]

/-- **The first start code**: one stands there, and none in front of it. -/
theorem firstCode_eq_some_iff {s : Octets} {n : Nat} :
    firstCode s = some n ↔ StartsCode (s.drop n) ∧ ∀ i < n, ¬ StartsCode (s.drop i) := by
  induction s generalizing n with
  | nil => simp [firstCode, not_startsCode_nil]
  | cons b s ih =>
    by_cases hstarts : StartsCode (b :: s)
    · rw [firstCode_starts hstarts]
      constructor
      · intro h
        obtain rfl := Option.some.inj h
        exact ⟨hstarts, fun i hi => absurd hi (Nat.not_lt_zero i)⟩
      · rintro ⟨-, hfirst⟩
        cases n with
        | zero => rfl
        | succ n => exact absurd hstarts (hfirst 0 (Nat.succ_pos n))
    · rw [firstCode_next hstarts]
      cases n with
      | zero => simp [hstarts]
      | succ n =>
        rw [Option.map_eq_some_iff, List.drop_succ_cons]
        constructor
        · rintro ⟨k, hk, hkn⟩
          obtain rfl := Nat.succ.inj hkn
          obtain ⟨hthere, hfirst⟩ := ih.mp hk
          refine ⟨hthere, fun i hi => ?_⟩
          cases i with
          | zero => exact hstarts
          | succ i => exact hfirst i (Nat.lt_of_succ_lt_succ hi)
        · rintro ⟨hthere, hfirst⟩
          exact ⟨n, ih.mpr ⟨hthere, fun i hi => hfirst (i + 1) (Nat.succ_lt_succ hi)⟩, rfl⟩

theorem firstCode_eq_none_iff {s : Octets} :
    firstCode s = none ↔ ∀ i, ¬ StartsCode (s.drop i) := by
  constructor
  · intro h i
    -- the first of those at or in front of `i` would have been found
    induction i using Nat.strong_induction_on with
    | _ i ih =>
      intro hthere
      exact absurd (h.symm.trans (firstCode_eq_some_iff.mpr ⟨hthere, ih⟩)) (by simp)
  · intro h
    cases hfirst : firstCode s with
    | none => rfl
    | some n => exact absurd (firstCode_eq_some_iff.mp hfirst).1 (h n)

end MyRtspServer.Library.AnnexB
