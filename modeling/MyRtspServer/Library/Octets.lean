import Mathlib.Data.List.Basic
import Mathlib.Data.List.Induction
import Mathlib.Data.List.TakeWhile
import Mathlib.Tactic.IntervalCases

/-!
# Byte strings

What C code does with text, on lists of bytes: searching, cutting at a zero, and
the number formats of `printf`.
-/
namespace MyRtspServer.Library

abbrev Octets := List UInt8

namespace Octets

/-- The bytes of an ASCII literal. -/
def ascii (s : String) : Octets := s.toList.map fun c => UInt8.ofNat c.toNat

/-- `isspace` of the C locale. -/
def isSpace (b : UInt8) : Bool := decide (9 ≤ b ∧ b ≤ 13) || decide (b = 32)

def isDigit (b : UInt8) : Bool := decide (48 ≤ b ∧ b ≤ 57)

/-- The text a C string function sees: up to the first zero. -/
def cstr (s : Octets) : Octets := s.takeWhile fun b => decide (b ≠ 0)

theorem cstr_eq_self {s : Octets} (h : 0 ∉ s) : cstr s = s :=
  List.takeWhile_eq_self_iff.mpr fun _ hb => decide_eq_true fun heq => h (heq ▸ hb)

theorem cstr_append {s : Octets} (h : 0 ∉ s) (t : Octets) : cstr (s ++ t) = s ++ cstr t :=
  List.takeWhile_append_of_pos fun _ hb => decide_eq_true fun heq => h (heq ▸ hb)

theorem zero_not_mem_cstr (s : Octets) : 0 ∉ cstr s := by
  intro h
  have hne := List.mem_takeWhile_imp h
  exact absurd hne (by decide)

theorem mem_of_mem_cstr {s : Octets} {b : UInt8} (h : b ∈ cstr s) : b ∈ s :=
  (List.takeWhile_prefix _).subset h

/-- What holds of all 256 bytes. -/
theorem forall_octet {P : UInt8 → Prop} (h : ∀ n : Fin 256, P (UInt8.ofNat n)) (b : UInt8) :
    P b := by
  have hb := h ⟨b.toNat, b.toNat_lt⟩
  rwa [UInt8.ofNat_toNat] at hb

/-! ## Searching -/

/-- `find` and `std::search`: what stands before the first match, and the rest
from the match on. -/
def splitFirst (pat : Octets) : Octets → Option (Octets × Octets)
  | [] => none
  | b :: s =>
    if pat.isPrefixOf (b :: s) then some ([], b :: s)
    else
      match splitFirst pat s with
      | some (before, rest) => some (b :: before, rest)
      | none => none

/-- `std::find_end`: the same for the last match. -/
def splitLast (pat : Octets) : Octets → Option (Octets × Octets)
  | [] => none
  | b :: s =>
    match splitLast pat s with
    | some (before, rest) => some (b :: before, rest)
    | none => if pat.isPrefixOf (b :: s) then some ([], b :: s) else none

theorem infix_of_splitFirst {pat s : Octets} : ∀ {p : Octets × Octets}, splitFirst pat s = some p →
    pat <:+: s := by
  induction s with
  | nil => intro p h; cases h
  | cons b s ih =>
    intro p h
    rw [splitFirst] at h
    split at h
    · exact (List.isPrefixOf_iff_prefix.mp ‹_›).isInfix
    · split at h
      · exact (ih ‹_›).trans (List.suffix_cons b s).isInfix
      · cases h

def contains (pat s : Octets) : Bool := (splitFirst pat s).isSome

theorem splitFirst_of_infix {pat s : Octets} (hne : pat ≠ []) (h : pat <:+: s) :
    (splitFirst pat s).isSome = true := by
  induction s with
  | nil => exact absurd (List.infix_nil.mp h) hne
  | cons b s ih =>
    rw [splitFirst]
    split
    · rfl
    · rename_i hfirst
      rcases List.infix_cons_iff.mp h with hstart | hlater
      · exact absurd (List.isPrefixOf_iff_prefix.mpr hstart) hfirst
      · obtain ⟨p, hp⟩ := Option.isSome_iff_exists.mp (ih hlater)
        rw [hp]
        rfl

theorem contains_iff {pat s : Octets} (hne : pat ≠ []) : contains pat s = true ↔ pat <:+: s := by
  refine ⟨fun h => ?_, splitFirst_of_infix hne⟩
  obtain ⟨p, hp⟩ := Option.isSome_iff_exists.mp h
  exact infix_of_splitFirst hp

theorem infix_of_contains {pat s : Octets} (h : contains pat s = true) : pat <:+: s := by
  obtain ⟨p, hp⟩ := Option.isSome_iff_exists.mp h
  exact infix_of_splitFirst hp

theorem not_infix_of_contains {pat s : Octets} (hne : pat ≠ []) (h : contains pat s = false) :
    ¬ pat <:+: s := by
  intro hin
  rw [(contains_iff hne).mpr hin] at h
  cases h

theorem splitFirst_start {pat s : Octets} (hne : pat ≠ []) (h : pat <+: s) :
    splitFirst pat s = some ([], s) := by
  cases s with
  | nil => exact absurd (List.prefix_nil.mp h) hne
  | cons b s => rw [splitFirst, if_pos (List.isPrefixOf_iff_prefix.mpr h)]

/-- The first match is not behind a match that is known. -/
theorem splitFirst_before {pat rest : Octets} (hne : pat ≠ []) (h : pat <+: rest) (front : Octets) :
    ∃ before more, splitFirst pat (front ++ rest) = some (before, more ++ rest) := by
  induction front with
  | nil => exact ⟨[], [], splitFirst_start hne h⟩
  | cons b front ih =>
    rw [List.cons_append, splitFirst]
    split
    · exact ⟨[], b :: front, rfl⟩
    · obtain ⟨before, more, hfound⟩ := ih
      rw [hfound]
      exact ⟨b :: before, more, rfl⟩

/-- What has no separator in it ends in front of the separator. -/
theorem prefix_of_separator {pat before after : Octets} {b : UInt8} (hb : b ∉ pat)
    (h : pat <+: before ++ b :: after) : pat <+: before := by
  obtain ⟨rest, hrest⟩ := h
  rcases List.append_eq_append_iff.mp hrest with ⟨left, hleft, -⟩ | ⟨left, hleft, hback⟩
  · exact ⟨left, hleft.symm⟩
  · cases left with
    | nil => exact ⟨[], by rw [hleft, List.append_nil, List.append_nil]⟩
    | cons d left =>
      rw [List.cons_append, List.cons.injEq] at hback
      exact absurd (hleft ▸ List.mem_append_right _ (hback.1 ▸ List.mem_cons_self)) hb

/-- What has no separator in it lies on one side of the separator. -/
theorem infix_of_separator {pat before after : Octets} {b : UInt8} (hb : b ∉ pat)
    (h : pat <:+: before ++ b :: after) : pat <:+: before ∨ pat <:+: after := by
  induction before with
  | nil =>
    rcases List.infix_cons_iff.mp h with hstart | hlater
    · have hnil : pat <+: [] ++ b :: after := hstart
      exact Or.inl (prefix_of_separator hb hnil).isInfix
    · exact Or.inr hlater
  | cons c before ih =>
    rcases List.infix_cons_iff.mp h with hstart | hlater
    · have hcons : pat <+: (c :: before) ++ b :: after := hstart
      exact Or.inl (prefix_of_separator hb hcons).isInfix
    · exact (ih hlater).imp (fun hin => hin.trans (List.suffix_cons c before).isInfix) id

/-- What is found is found in front of more bytes. -/
theorem splitFirst_more {pat s : Octets} (later : Octets) : ∀ {before rest : Octets},
    splitFirst pat s = some (before, rest) →
      splitFirst pat (s ++ later) = some (before, rest ++ later) := by
  induction s with
  | nil => exact fun h => by cases h
  | cons b s ih =>
    intro before rest h
    rw [splitFirst] at h
    rw [List.cons_append, splitFirst]
    split at h
    · rename_i hstart
      cases h
      have hprefix : pat <+: b :: (s ++ later) :=
        (List.isPrefixOf_iff_prefix.mp hstart).trans (List.prefix_append (b :: s) later)
      rw [if_pos (List.isPrefixOf_iff_prefix.mpr hprefix)]
      rfl
    · rename_i hstart
      split at h
      · rename_i front found hfound
        cases h
        -- a match that began here would be longer than what is left
        have hlonger : ¬ pat.isPrefixOf (b :: (s ++ later)) = true := by
          intro hp
          have hinfix := (infix_of_splitFirst hfound).length_le
          have hprefix : pat <+: (b :: s) ++ later := List.isPrefixOf_iff_prefix.mp hp
          refine hstart (List.isPrefixOf_iff_prefix.mpr ?_)
          exact List.prefix_of_prefix_length_le hprefix (List.prefix_append _ _)
            (Nat.le_succ_of_le hinfix)
        rw [if_neg hlonger, ih hfound]
      · cases h

/-- The rest begins with what was looked for. -/
theorem splitFirst_rest {pat s : Octets} : ∀ {before rest : Octets},
    splitFirst pat s = some (before, rest) → s = before ++ rest ∧ pat <+: rest := by
  induction s with
  | nil => exact fun h => by cases h
  | cons b s ih =>
    intro before rest h
    rw [splitFirst] at h
    split at h
    · rename_i hstart
      cases h
      exact ⟨rfl, List.isPrefixOf_iff_prefix.mp hstart⟩
    · split at h
      · rename_i hfound
        cases h
        obtain ⟨hsplit, hpat⟩ := ih hfound
        exact ⟨congrArg (b :: ·) hsplit, hpat⟩
      · cases h

theorem splitLast_suffix {pat s : Octets} : ∀ {before rest : Octets},
    splitLast pat s = some (before, rest) → rest <:+ s := by
  induction s with
  | nil => exact fun h => by cases h
  | cons b s ih =>
    intro before rest h
    rw [splitLast] at h
    split at h
    · rename_i hfound
      cases h
      exact (ih hfound).trans (List.suffix_cons b s)
    · split at h
      · cases h
        exact List.suffix_refl _
      · cases h

/-- The search goes on behind a separator. -/
theorem splitFirst_separator {pat before : Octets} {b : UInt8} (hne : pat ≠ []) (hb : b ∉ pat)
    (hno : ¬ pat <:+: before) (rest : Octets) :
    splitFirst pat (before ++ b :: rest) =
      (splitFirst pat rest).map fun p => (before ++ b :: p.1, p.2) := by
  induction before with
  | nil =>
    have hstart : ¬ pat.isPrefixOf (b :: rest) = true := by
      intro h
      have hnil : pat <+: [] ++ b :: rest := List.isPrefixOf_iff_prefix.mp h
      exact hne (List.prefix_nil.mp (prefix_of_separator hb hnil))
    rw [List.nil_append, splitFirst, if_neg hstart]
    cases splitFirst pat rest <;> rfl
  | cons c before ih =>
    have hstart : ¬ pat.isPrefixOf (c :: (before ++ b :: rest)) = true := by
      intro h
      have hcons : pat <+: (c :: before) ++ b :: rest := List.isPrefixOf_iff_prefix.mp h
      exact hno (prefix_of_separator hb hcons).isInfix
    have hlater : ¬ pat <:+: before := fun h => hno (h.trans (List.suffix_cons c before).isInfix)
    rw [List.cons_append, splitFirst, if_neg hstart, ih hlater]
    cases splitFirst pat rest <;> rfl

/-- The search goes on behind bytes that are not looked for. -/
theorem splitFirst_clean {pat front : Octets} (hne : pat ≠ []) (h : ∀ b ∈ front, b ∉ pat)
    (rest : Octets) :
    splitFirst pat (front ++ rest) = (splitFirst pat rest).map fun p => (front ++ p.1, p.2) := by
  induction front with
  | nil =>
    rw [List.nil_append]
    cases splitFirst pat rest <;> rfl
  | cons b front ih =>
    have hempty : ¬ pat <:+: [] := fun hin => hne (List.infix_nil.mp hin)
    have hstep := splitFirst_separator hne (h b List.mem_cons_self) hempty (front ++ rest)
    rw [List.nil_append, ih fun c hc => h c (List.mem_cons_of_mem b hc)] at hstep
    rw [List.cons_append, hstep]
    cases splitFirst pat rest <;> rfl

/-! ## Numbers -/

/-- The decimal digits of `n`, most significant first; `fuel` bounds their number. -/
def decDigits : Nat → Nat → Octets
  | 0, _ => []
  | fuel + 1, n =>
    if n < 10 then [UInt8.ofNat (48 + n)]
    else decDigits fuel (n / 10) ++ [UInt8.ofNat (48 + n % 10)]

/-- `%u`. -/
def dec (n : Nat) : Octets := decDigits (n + 1) n

/-- `%d`. -/
def intDec (i : Int) : Octets := if i < 0 then 45 :: dec (-i).toNat else dec i.toNat

def hexDigit (n : Nat) : UInt8 := UInt8.ofNat (if n < 10 then 48 + n else 87 + n)

/-- `%0<width>x`, for numbers that fit in `width` digits. -/
def hex : Nat → Nat → Octets
  | 0, _ => []
  | width + 1, n => hex width (n / 16) ++ [hexDigit (n % 16)]

/-- The number a run of digits stands for. -/
def decValue (s : Octets) : Nat := s.foldl (fun n b => 10 * n + (b.toNat - 48)) 0

/-! ## What the formats print -/

theorem digit_isDigit {d : Nat} (h : d < 10) : isDigit (UInt8.ofNat (48 + d)) = true := by
  interval_cases d <;> decide

theorem decDigits_isDigit (fuel : Nat) : ∀ n, ∀ b ∈ decDigits fuel n, isDigit b = true := by
  induction fuel with
  | zero => intro n b hb; cases hb
  | succ fuel ih =>
    intro n b hb
    rw [decDigits] at hb
    split at hb
    · rw [List.mem_singleton] at hb
      exact hb ▸ digit_isDigit ‹_›
    · rcases List.mem_append.mp hb with hb | hb
      · exact ih _ b hb
      · rw [List.mem_singleton] at hb
        exact hb ▸ digit_isDigit (Nat.mod_lt n (by decide))

theorem dec_isDigit {n : Nat} {b : UInt8} (h : b ∈ dec n) : isDigit b = true :=
  decDigits_isDigit _ n b h

theorem decValue_concat (s : Octets) (b : UInt8) :
    decValue (s ++ [b]) = 10 * decValue s + (b.toNat - 48) := by
  simp [decValue]

theorem digit_toNat {d : Nat} (h : d < 10) : (UInt8.ofNat (48 + d)).toNat - 48 = d := by
  interval_cases d <;> decide

theorem decValue_decDigits (fuel : Nat) : ∀ n, n < fuel → decValue (decDigits fuel n) = n := by
  induction fuel with
  | zero => intro n h; omega
  | succ fuel ih =>
    intro n h
    rw [decDigits]
    split
    · rename_i hn
      simpa [decValue] using digit_toNat hn
    · rename_i hn
      have hlt : n / 10 < fuel := by omega
      rw [decValue_concat, ih _ hlt, digit_toNat (Nat.mod_lt n (by decide))]
      omega

/-- Reading back what `%u` prints. -/
theorem decValue_dec (n : Nat) : decValue (dec n) = n :=
  decValue_decDigits _ n (Nat.lt_succ_self n)

theorem dec_ne_nil (n : Nat) : dec n ≠ [] := by
  rw [dec, decDigits]
  split <;> simp

theorem intDec_natCast (n : Nat) : intDec n = dec n := by
  rw [intDec, if_neg (by omega), Int.toNat_natCast]

def isVisible (b : UInt8) : Bool := decide (32 ≤ b ∧ b ≤ 126)

/-- At most `k` bytes, all of them visible or blanks. -/
def Printed (k : Nat) (s : Octets) : Prop := s.length ≤ k ∧ s.all isVisible = true

instance (k : Nat) (s : Octets) : Decidable (Printed k s) :=
  inferInstanceAs (Decidable (s.length ≤ k ∧ s.all isVisible = true))

theorem Printed.append {j k : Nat} {s t : Octets} (hs : Printed j s) (ht : Printed k t) :
    Printed (j + k) (s ++ t) := by
  constructor
  · rw [List.length_append]
    exact Nat.add_le_add hs.1 ht.1
  · rw [List.all_append, hs.2, ht.2]
    rfl

theorem Printed.mono {j k : Nat} {s : Octets} (h : Printed j s) (hle : j ≤ k) : Printed k s :=
  ⟨Nat.le_trans h.1 hle, h.2⟩

/-- No control character is printed. -/
theorem Printed.not_mem {k : Nat} {s : Octets} (h : Printed k s) {b : UInt8} (hb : b < 32) :
    b ∉ s := by
  intro hmem
  have hvisible := of_decide_eq_true (List.all_eq_true.mp h.2 b hmem)
  rw [UInt8.le_iff_toNat_le] at hvisible
  exact absurd (UInt8.lt_iff_toNat_lt.mp hb) (Nat.not_lt.mpr hvisible.1)

theorem isDigit_visible {b : UInt8} (h : isDigit b = true) : isVisible b = true := by
  simp only [isDigit, isVisible, decide_eq_true_eq, UInt8.le_iff_toNat_le] at h ⊢
  exact ⟨Nat.le_trans (by decide) h.1, Nat.le_trans h.2 (by decide)⟩

theorem decDigits_length (fuel : Nat) : ∀ n k, n < 10 ^ (k + 1) →
    (decDigits fuel n).length ≤ k + 1 := by
  induction fuel with
  | zero => exact fun _ _ _ => Nat.zero_le _
  | succ fuel ih =>
    intro n k h
    rw [decDigits]
    split
    · simp
    · rename_i hn
      cases k with
      | zero => exact absurd h (by omega)
      | succ k =>
        have hlt : n / 10 < 10 ^ (k + 1) := by
          rw [Nat.div_lt_iff_lt_mul (by decide), ← Nat.pow_succ]
          exact h
        have := ih _ k hlt
        rw [List.length_append, List.length_singleton]
        omega

theorem printed_dec {n k : Nat} (h : n < 10 ^ (k + 1)) : Printed (k + 1) (dec n) :=
  ⟨decDigits_length _ n k h, List.all_eq_true.mpr fun _ hb => isDigit_visible (dec_isDigit hb)⟩

theorem printed_intDec {i : Int} {k : Nat} (h : i.natAbs < 10 ^ (k + 1)) :
    Printed (k + 2) (intDec i) := by
  unfold intDec
  split
  · have hdec : Printed (k + 1) (dec (-i).toNat) := printed_dec (by omega)
    have hminus : Printed 1 [45] := by decide
    exact (hminus.append hdec).mono (by omega)
  · exact (printed_dec (by omega)).mono (Nat.le_succ _)

theorem hexDigit_visible {n : Nat} (h : n < 16) : isVisible (hexDigit n) = true := by
  interval_cases n <;> decide

theorem printed_hex (width : Nat) : ∀ n, Printed width (hex width n) := by
  induction width with
  | zero => exact fun _ => ⟨Nat.le_refl _, rfl⟩
  | succ width ih =>
    intro n
    refine (ih (n / 16)).append ⟨Nat.le_refl _, ?_⟩
    rw [List.all_cons, hexDigit_visible (Nat.mod_lt n (by decide))]
    rfl

/-- A C string of at most `k` bytes. -/
structure Written (k : Nat) (s : Octets) : Prop where
  length : s.length ≤ k
  noZero : 0 ∉ s

theorem Printed.written {k : Nat} {s : Octets} (h : Printed k s) : Written k s :=
  ⟨h.1, h.not_mem (by decide)⟩

theorem Written.append {j k : Nat} {s t : Octets} (hs : Written j s) (ht : Written k t) :
    Written (j + k) (s ++ t) := by
  constructor
  · rw [List.length_append]
    exact Nat.add_le_add hs.length ht.length
  · intro hmem
    exact (List.mem_append.mp hmem).elim hs.noZero ht.noZero

theorem Written.mono {j k : Nat} {s : Octets} (h : Written j s) (hle : j ≤ k) : Written k s :=
  ⟨Nat.le_trans h.length hle, h.noZero⟩

theorem Written.flatMap {α : Type} {k n : Nat} {f : α → Octets} {l : List α}
    (h : ∀ x ∈ l, Written k (f x)) (hfew : l.length ≤ n) : Written (n * k) (l.flatMap f) := by
  induction l generalizing n with
  | nil => exact ⟨Nat.zero_le _, List.not_mem_nil⟩
  | cons x l ih =>
    obtain ⟨n, rfl⟩ := Nat.exists_eq_succ_of_ne_zero (Nat.ne_zero_of_lt hfew)
    rw [List.flatMap_cons, Nat.succ_mul, Nat.add_comm]
    exact (h x List.mem_cons_self).append
      (ih (fun y hy => h y (List.mem_cons_of_mem x hy)) (Nat.le_of_succ_le_succ hfew))

theorem Written.cstr {k : Nat} {s : Octets} (h : Written k s) : cstr s = s := cstr_eq_self h.noZero

instance (k : Nat) (s : Octets) : Decidable (Written k s) :=
  decidable_of_iff (s.length ≤ k ∧ 0 ∉ s) ⟨fun h => ⟨h.1, h.2⟩, fun h => ⟨h.length, h.noZero⟩⟩

theorem decValue_lt {s : Octets} (h : ∀ b ∈ s, isDigit b = true) : decValue s < 10 ^ s.length := by
  induction s using List.reverseRecOn with
  | nil => exact Nat.one_pos
  | append_singleton s b ih =>
    have hlt := ih fun c hc => h c (List.mem_append_left _ hc)
    have hb := of_decide_eq_true (h b (List.mem_append_right _ (List.mem_singleton_self _)))
    have hnine : b.toNat ≤ 57 := UInt8.le_iff_toNat_le.mp hb.2
    rw [decValue_concat, List.length_append, List.length_singleton, Nat.pow_succ]
    omega

/-! ## Hexadecimal digits in base ten -/

theorem hexDigit_isDigit {d : Nat} (h : d < 16) : isDigit (hexDigit d) = decide (d < 10) := by
  interval_cases d <;> decide

/-- The number that the digits in front of a text stand for in base ten. -/
def decPrefix (s : Octets) : Nat := decValue (s.takeWhile isDigit)

theorem decPrefix_concat (s : Octets) (b : UInt8) :
    decPrefix (s ++ [b]) =
      if s.all isDigit ∧ isDigit b = true then 10 * decValue s + (b.toNat - 48) else decPrefix s := by
  rw [decPrefix, decPrefix, List.takeWhile_append]
  by_cases hall : s.all isDigit = true
  · have hself : s.takeWhile isDigit = s :=
      List.takeWhile_eq_self_iff.mpr (List.all_eq_true.mp hall)
    rw [hself, if_pos rfl]
    by_cases hb : isDigit b = true
    · rw [if_pos ⟨hall, hb⟩, List.takeWhile_cons_of_pos hb, List.takeWhile_nil, decValue_concat]
    · rw [if_neg fun h => hb h.2, List.takeWhile_cons_of_neg hb, List.append_nil]
  · have hshort : (s.takeWhile isDigit).length ≠ s.length := fun hlen =>
      hall (List.all_eq_true.mpr (List.takeWhile_eq_self_iff.mp
        ((List.takeWhile_prefix isDigit).eq_of_length hlen)))
    rw [if_neg hshort, if_neg fun h => hall h.1]

/-- **Hexadecimal digits that are read in base ten** never give more than the number,
and the number itself below ten only. -/
theorem decPrefix_hex (width : Nat) :
    ∀ n, decPrefix (hex width n) ≤ n ∧ (decPrefix (hex width n) = n → n < 10) := by
  induction width with
  | zero =>
    intro n
    have hnone : decPrefix (hex 0 n) = 0 := rfl
    omega
  | succ width ih =>
    intro n
    obtain ⟨hle, -⟩ := ih (n / 16)
    rw [hex, decPrefix_concat]
    split
    · rename_i hdigits
      have hself : decPrefix (hex width (n / 16)) = decValue (hex width (n / 16)) := by
        rw [decPrefix, List.takeWhile_eq_self_iff.mpr (List.all_eq_true.mp hdigits.1)]
      have hten : n % 16 < 10 :=
        of_decide_eq_true ((hexDigit_isDigit (Nat.mod_lt n (by decide))).symm.trans hdigits.2)
      rw [hexDigit, if_pos hten, digit_toNat hten, ← hself]
      omega
    · omega

theorem hex_small (width : Nat) {n : Nat} (hn : n < 10) :
    (hex (width + 1) n).all isDigit = true ∧ decValue (hex (width + 1) n) = n := by
  induction width generalizing n with
  | zero =>
    have hmod : n % 16 = n := Nat.mod_eq_of_lt (Nat.lt_trans hn (by decide))
    rw [hex, hex, List.nil_append, hmod]
    refine ⟨?_, ?_⟩
    · rw [List.all_cons, hexDigit_isDigit (Nat.lt_trans hn (by decide)), decide_eq_true hn]
      rfl
    · rw [hexDigit, if_pos hn]
      simpa [decValue] using digit_toNat hn
  | succ width ih =>
    have hmod : n % 16 = n := Nat.mod_eq_of_lt (Nat.lt_trans hn (by decide))
    have hdiv : n / 16 = 0 := Nat.div_eq_of_lt (Nat.lt_trans hn (by decide))
    obtain ⟨hall, hvalue⟩ := ih (n := 0) (by decide)
    rw [hex, hmod, hdiv]
    refine ⟨?_, ?_⟩
    · rw [List.all_append, hall, List.all_cons, hexDigit_isDigit (Nat.lt_trans hn (by decide)),
        decide_eq_true hn]
      rfl
    · rw [decValue_concat, hvalue, hexDigit, if_pos hn, digit_toNat hn, Nat.mul_zero, Nat.zero_add]

/-- `%u` reads back what `%0<width>x` prints below ten only. -/
theorem decPrefix_hex_iff {width n : Nat} : decPrefix (hex (width + 1) n) = n ↔ n < 10 := by
  refine ⟨(decPrefix_hex (width + 1) n).2, fun hn => ?_⟩
  obtain ⟨hall, hvalue⟩ := hex_small width hn
  rw [decPrefix, List.takeWhile_eq_self_iff.mpr (List.all_eq_true.mp hall), hvalue]

end Octets
end MyRtspServer.Library
