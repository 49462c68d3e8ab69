import Mathlib.Data.List.DropRight
import MyRtspServer.Library.Octets

/-!
# `sscanf`

A format is a list of directives. The result is the list of the fields assigned
before the first directive that failed; its length is the return value. A text
field that does not fit into its array with the terminating zero is undefined
behaviour, whatever the rest of the input says.
-/
namespace MyRtspServer.Library

namespace Scan

open Octets

inductive Directive where
  /-- White space in the format: skips white space. -/
  | space
  /-- An ordinary character. -/
  | char (b : UInt8)
  /-- `%s` into an array of `size` bytes. -/
  | word (size : Nat)
  /-- `%[^stop]` into an array of `size` bytes. -/
  | until_ (stop : UInt8) (size : Nat)
  /-- `%*[^stop]`. -/
  | skipUntil (stop : UInt8)
  /-- `%u`, `%hu` and `%hhu` for 32, 16 and 8 `bits`. -/
  | unsigned (bits : Nat)
  deriving DecidableEq

inductive Field where
  | text (s : Octets)
  | number (n : Nat)
  deriving DecidableEq, Repr

def skipSpace (s : Octets) : Octets := s.dropWhile isSpace

/-- `strtoul` in base 10 saturates at 2^64 - 1, and negates below that. -/
def strtoul (negative : Bool) (digits : Octets) : Nat :=
  if 2 ^ 64 ≤ decValue digits then 2 ^ 64 - 1
  else if negative then (2 ^ 64 - decValue digits) % 2 ^ 64
  else decValue digits

/-- Whether a minus sign stands in front, and what follows the sign. -/
def splitSign : Octets → Bool × Octets
  | 43 :: rest => (false, rest)
  | 45 :: rest => (true, rest)
  | s => (false, s)

/-- The number in front of `s`, cut to `bits` bits, and what follows it. -/
def scanUnsigned (bits : Nat) (s : Octets) : Option (Nat × Octets) :=
  let (negative, s) := splitSign (skipSpace s)
  let digits := s.takeWhile isDigit
  if digits = [] then none
  else some (strtoul negative digits % 2 ^ bits, s.dropWhile isDigit)

/-- The fields assigned from the C string `s`, or `none` where an array overflows. -/
def sscanf : List Directive → Octets → Option (List Field)
  | [], _ => some []
  | .space :: format, s => sscanf format (skipSpace s)
  | .char b :: format, s =>
    match s with
    | c :: rest => if c = b then sscanf format rest else some []
    | [] => some []
  | .word size :: format, s =>
    let s := skipSpace s
    let field := s.takeWhile fun b => !isSpace b
    if field = [] then some []
    else if size ≤ field.length then none
    else (sscanf format (s.dropWhile fun b => !isSpace b)).map (.text field :: ·)
  | .until_ stop size :: format, s =>
    let field := s.takeWhile fun b => decide (b ≠ stop)
    if field = [] then some []
    else if size ≤ field.length then none
    else (sscanf format (s.dropWhile fun b => decide (b ≠ stop))).map (.text field :: ·)
  | .skipUntil stop :: format, s =>
    if (s.takeWhile fun b => decide (b ≠ stop)) = [] then some []
    else sscanf format (s.dropWhile fun b => decide (b ≠ stop))
  | .unsigned bits :: format, s =>
    match scanUnsigned bits s with
    | none => some []
    | some (n, rest) => (sscanf format rest).map (.number n :: ·)

/-! ## One directive -/

section Directives

variable {size bits : Nat} {b c stop : UInt8} {format : List Directive} {s : Octets}

theorem sscanf_space_eq : sscanf (.space :: format) s = sscanf format (skipSpace s) := rfl

theorem sscanf_char_eq :
    sscanf (.char b :: format) (c :: s) = if c = b then sscanf format s else some [] := rfl

theorem sscanf_word_eq : sscanf (.word size :: format) s =
    if ((skipSpace s).takeWhile fun b => !isSpace b) = [] then some []
    else if size ≤ ((skipSpace s).takeWhile fun b => !isSpace b).length then none
    else (sscanf format ((skipSpace s).dropWhile fun b => !isSpace b)).map
      (.text ((skipSpace s).takeWhile fun b => !isSpace b) :: ·) := rfl

theorem sscanf_until_eq : sscanf (.until_ stop size :: format) s =
    if (s.takeWhile fun b => decide (b ≠ stop)) = [] then some []
    else if size ≤ (s.takeWhile fun b => decide (b ≠ stop)).length then none
    else (sscanf format (s.dropWhile fun b => decide (b ≠ stop))).map
      (.text (s.takeWhile fun b => decide (b ≠ stop)) :: ·) := rfl

theorem sscanf_skipUntil_eq : sscanf (.skipUntil stop :: format) s =
    if (s.takeWhile fun b => decide (b ≠ stop)) = [] then some []
    else sscanf format (s.dropWhile fun b => decide (b ≠ stop)) := rfl

theorem sscanf_unsigned_none (h : scanUnsigned bits s = none) :
    sscanf (.unsigned bits :: format) s = some [] := by
  show (match scanUnsigned bits s with
    | none => some []
    | some (n, rest) => (sscanf format rest).map (Field.number n :: ·)) = _
  rw [h]

theorem sscanf_unsigned_some {n : Nat} {rest : Octets} (h : scanUnsigned bits s = some (n, rest)) :
    sscanf (.unsigned bits :: format) s = (sscanf format rest).map (.number n :: ·) := by
  show (match scanUnsigned bits s with
    | none => some []
    | some (n, rest) => (sscanf format rest).map (Field.number n :: ·)) = _
  rw [h]

end Directives

/-! ## Numbers -/

theorem scanUnsigned_lt {bits n : Nat} {s rest : Octets} (h : scanUnsigned bits s = some (n, rest)) :
    n < 2 ^ bits := by
  unfold scanUnsigned at h
  dsimp only at h
  split at h <;> cases h
  exact Nat.mod_lt _ (Nat.two_pow_pos _)

theorem isDigit_not_space {d : UInt8} (h : isDigit d = true) : isSpace d = false := by
  simp only [isDigit, decide_eq_true_eq, UInt8.le_iff_toNat_le] at h
  simp only [isSpace, Bool.or_eq_false_iff, decide_eq_false_iff_not, UInt8.le_iff_toNat_le]
  refine ⟨fun hle => absurd (Nat.le_trans h.1 hle.2) (by decide), ?_⟩
  rintro rfl
  exact absurd h.1 (by decide)

theorem splitSign_digit {d : UInt8} (h : isDigit d = true) (s : Octets) :
    splitSign (d :: s) = (false, d :: s) := by
  unfold splitSign
  split
  · rename_i heq
    exact absurd ((List.cons.inj heq).1 ▸ h) (by decide)
  · rename_i heq
    exact absurd ((List.cons.inj heq).1 ▸ h) (by decide)
  · rfl

/-- The digits of a number. -/
structure Digits (s : Octets) : Prop where
  ne_nil : s ≠ []
  digit : ∀ b ∈ s, isDigit b = true

theorem digits_of_all {s : Octets} (hne : s ≠ []) (h : s.all isDigit = true) : Digits s :=
  ⟨hne, List.all_eq_true.mp h⟩

theorem digits_dec (n : Nat) : Digits (dec n) := ⟨dec_ne_nil n, fun _ hb => dec_isDigit hb⟩

/-- What `%u` takes: digits, perhaps behind a sign. -/
inductive Number : Octets → Prop
  | plain {digits : Octets} (h : Digits digits) : Number digits
  | signed {sign : UInt8} {digits : Octets} (hsign : sign = 43 ∨ sign = 45) (h : Digits digits) :
      Number (sign :: digits)

/-- The digits end where no digit stands. -/
theorem scanUnsigned_digits {bits : Nat} {negative : Bool} {s digits after : Octets}
    (hstart : splitSign (skipSpace s) = (negative, digits ++ after)) (hdigits : Digits digits)
    (hafter : ∀ b ∈ after.head?, isDigit b = false) :
    scanUnsigned bits s = some (strtoul negative digits % 2 ^ bits, after) := by
  have hend : after.takeWhile isDigit = [] ∧ after.dropWhile isDigit = after := by
    cases after with
    | nil => exact ⟨rfl, rfl⟩
    | cons b after =>
      have hb := hafter b rfl
      exact ⟨List.takeWhile_cons_of_neg (by simp [hb]), List.dropWhile_cons_of_neg (by simp [hb])⟩
  rw [scanUnsigned, hstart]
  dsimp only
  rw [List.takeWhile_append_of_pos hdigits.digit, List.dropWhile_append_of_pos hdigits.digit,
    hend.1, hend.2, List.append_nil, if_neg hdigits.ne_nil]

theorem Digits.splitSign_append {digits : Octets} (h : Digits digits) (after : Octets) :
    splitSign (skipSpace (digits ++ after)) = (false, digits ++ after) := by
  obtain ⟨d, ds, rfl⟩ := List.exists_cons_of_ne_nil h.ne_nil
  have hfirst : isDigit d = true := h.digit d List.mem_cons_self
  rw [skipSpace, List.cons_append, List.dropWhile_cons_of_neg (by simp [isDigit_not_space hfirst]),
    splitSign_digit hfirst]

theorem Number.scanned {number after : Octets} (h : Number number)
    (hafter : ∀ b ∈ after.head?, isDigit b = false) (bits : Nat) :
    ∃ n, scanUnsigned bits (number ++ after) = some (n, after) := by
  cases h with
  | plain hdigits => exact ⟨_, scanUnsigned_digits (hdigits.splitSign_append after) hdigits hafter⟩
  | @signed sign digits hsign hdigits =>
    rcases hsign with rfl | rfl
    · exact ⟨_, scanUnsigned_digits rfl hdigits hafter⟩
    · exact ⟨_, scanUnsigned_digits rfl hdigits hafter⟩

/-- What has been taken from a text without white space is a number. -/
theorem number_of_scanned {bits n : Nat} {s rest : Octets}
    (h : scanUnsigned bits s = some (n, rest)) (hclean : ∀ b ∈ s, isSpace b = false) :
    ∃ number, Number number ∧ s = number ++ rest := by
  have hskip : skipSpace s = s := by
    cases s with
    | nil => rfl
    | cons b s => exact List.dropWhile_cons_of_neg (by simp [hclean b List.mem_cons_self])
  rw [scanUnsigned, hskip] at h
  have htaken : ∀ t : Octets, t.takeWhile isDigit ≠ [] → Digits (t.takeWhile isDigit) :=
    fun t ht => ⟨ht, fun _ hb => List.mem_takeWhile_imp hb⟩
  dsimp only at h
  split at h
  · cases h
  rename_i hne
  cases h
  revert hne
  unfold splitSign
  split
  · exact fun hne => ⟨_, .signed (.inl rfl) (htaken _ hne),
      congrArg (_ :: ·) (List.takeWhile_append_dropWhile).symm⟩
  · exact fun hne => ⟨_, .signed (.inr rfl) (htaken _ hne),
      congrArg (_ :: ·) (List.takeWhile_append_dropWhile).symm⟩
  · exact fun hne => ⟨_, .plain (htaken _ hne), (List.takeWhile_append_dropWhile).symm⟩

/-- A run of digits that is small enough is read as it is. -/
theorem scanUnsigned_small {bits : Nat} {digits after : Octets} (hdigits : Digits digits)
    (hbits : bits ≤ 64) (hfits : decValue digits < 2 ^ bits)
    (hafter : ∀ b ∈ after.head?, isDigit b = false) :
    scanUnsigned bits (digits ++ after) = some (decValue digits, after) := by
  have hlt : decValue digits < 2 ^ 64 :=
    Nat.lt_of_lt_of_le hfits (Nat.pow_le_pow_right (by decide) hbits)
  rw [scanUnsigned_digits (hdigits.splitSign_append after) hdigits hafter, strtoul,
    if_neg (Nat.not_le.mpr hlt), if_neg Bool.false_ne_true, Nat.mod_eq_of_lt hfits]

/-- **`%u` reads back what `%u` has printed**, up to the first other character. -/
theorem scanUnsigned_dec {bits n : Nat} {after : Octets} (hn : n < 2 ^ bits) (hbits : bits ≤ 64)
    (hafter : ∀ b ∈ after.head?, isDigit b = false) :
    scanUnsigned bits (dec n ++ after) = some (n, after) := by
  have hread := scanUnsigned_small (digits_dec n) hbits (by rwa [decValue_dec]) hafter
  rwa [decValue_dec] at hread

/-! ## Reading back what a format prints -/

theorem sscanf_char {b : UInt8} {format : List Directive} {s : Octets} :
    sscanf (.char b :: format) (b :: s) = sscanf format s := by
  rw [sscanf_char_eq, if_pos rfl]

theorem sscanf_char_some {b : UInt8} {format : List Directive} {s : Octets} {fields : List Field}
    (h : sscanf (.char b :: format) s = some fields) :
    fields = [] ∨ ∃ rest, s = b :: rest ∧ sscanf format rest = some fields := by
  cases s with
  | nil =>
    cases h
    exact Or.inl rfl
  | cons c rest =>
    rw [sscanf_char_eq] at h
    split at h
    · rename_i heq
      exact Or.inr ⟨rest, by rw [heq], h⟩
    · cases h
      exact Or.inl rfl

theorem sscanf_until {stop : UInt8} {size : Nat} {format : List Directive} {field after : Octets}
    (hne : field ≠ []) (hsize : field.length < size) (hstop : stop ∉ field)
    (hafter : ∀ b ∈ after.head?, b = stop) :
    sscanf (.until_ stop size :: format) (field ++ after) =
      (sscanf format after).map (.text field :: ·) := by
  have hfield : ∀ b ∈ field, decide (b ≠ stop) = true := fun b hb =>
    decide_eq_true fun heq => hstop (heq ▸ hb)
  have hend : after.takeWhile (fun b => decide (b ≠ stop)) = [] ∧
      after.dropWhile (fun b => decide (b ≠ stop)) = after := by
    cases after with
    | nil => exact ⟨rfl, rfl⟩
    | cons b after => simp [hafter b rfl]
  rw [sscanf_until_eq, List.takeWhile_append_of_pos hfield, List.dropWhile_append_of_pos hfield, hend.1,
    hend.2, List.append_nil, if_neg hne, if_neg (Nat.not_le.mpr hsize)]

theorem skipSpace_word {field after : Octets} (hne : field ≠ [])
    (hclean : ∀ b ∈ field, isSpace b = false) : skipSpace (field ++ after) = field ++ after := by
  obtain ⟨b, field, rfl⟩ := List.exists_cons_of_ne_nil hne
  exact List.dropWhile_cons_of_neg (by simp [hclean b List.mem_cons_self])

theorem sscanf_word {size : Nat} {format : List Directive} {field after : Octets}
    (hne : field ≠ []) (hsize : field.length < size) (hclean : ∀ b ∈ field, isSpace b = false)
    (hafter : ∀ b ∈ after.head?, isSpace b = true) :
    sscanf (.word size :: format) (field ++ after) =
      (sscanf format after).map (.text field :: ·) := by
  have hfield : ∀ b ∈ field, (!isSpace b) = true := fun b hb => by rw [hclean b hb]; rfl
  have hend : after.takeWhile (fun b => !isSpace b) = [] ∧
      after.dropWhile (fun b => !isSpace b) = after := by
    cases after with
    | nil => exact ⟨rfl, rfl⟩
    | cons b after => simp [hafter b rfl]
  rw [sscanf_word_eq, skipSpace_word hne hclean, List.takeWhile_append_of_pos hfield,
    List.dropWhile_append_of_pos hfield, hend.1, hend.2, List.append_nil, if_neg hne,
    if_neg (Nat.not_le.mpr hsize)]

/-- A blank in the format, where the next field begins behind one blank. -/
theorem sscanf_space {format : List Directive} {field after : Octets} (hne : field ≠ [])
    (hclean : ∀ b ∈ field, isSpace b = false) :
    sscanf (.space :: format) (32 :: (field ++ after)) = sscanf format (field ++ after) := by
  rw [sscanf_space_eq, skipSpace, List.dropWhile_cons_of_pos (by decide)]
  exact congrArg (sscanf format) (skipSpace_word hne hclean)

/-! ## What a format takes of any text -/

/-- What stands in front of the first `stop`, or the whole text. -/
def front (stop : UInt8) (s : Octets) : Octets := s.takeWhile fun b => decide (b ≠ stop)

theorem front_append {stop : UInt8} {before : Octets} (h : stop ∉ before) (behind : Octets) :
    front stop (before ++ stop :: behind) = before := by
  have hbefore : ∀ b ∈ before, decide (b ≠ stop) = true := fun b hb =>
    decide_eq_true fun heq => h (heq ▸ hb)
  rw [front, List.takeWhile_append_of_pos hbefore, List.takeWhile_cons_of_neg (by simp),
    List.append_nil]

theorem front_eq_self {stop : UInt8} {s : Octets} (h : stop ∉ s) : front stop s = s :=
  List.takeWhile_eq_self_iff.mpr fun _ hb => decide_eq_true fun heq => h (heq ▸ hb)

/-- A text has one first `stop`. -/
theorem cut_unique {stop : UInt8} {before before' behind behind' : Octets} (h : stop ∉ before)
    (h' : stop ∉ before') (heq : before ++ stop :: behind = before' ++ stop :: behind') :
    before = before' ∧ behind = behind' := by
  have hbefore : before = before' := by
    rw [← front_append h behind, heq, front_append h' behind']
  subst hbefore
  exact ⟨rfl, (List.cons.inj (List.append_cancel_left heq)).2⟩

section Cut

variable {stop : UInt8} {size : Nat} {format : List Directive}

/-- A text that is too long for the array overflows it. -/
theorem sscanf_until_overflow {s : Octets} (hsize : 0 < size)
    (hlen : size ≤ (front stop s).length) : sscanf (.until_ stop size :: format) s = none := by
  have hne : front stop s ≠ [] := List.ne_nil_of_length_pos (Nat.lt_of_lt_of_le hsize hlen)
  rw [sscanf_until_eq]
  exact (if_neg hne).trans (if_pos hlen)

/-- `%[^stop]` and the `stop` itself. -/
theorem sscanf_cut {before behind : Octets} (hne : before ≠ []) (hsize : before.length < size)
    (hstop : stop ∉ before) :
    sscanf (.until_ stop size :: .char stop :: format) (before ++ stop :: behind) =
      (sscanf format behind).map (.text before :: ·) := by
  rw [sscanf_until hne hsize hstop fun b hb => by cases hb; rfl, sscanf_char]

/-- Nothing is taken behind a `stop` that is not there, or that stands in front. -/
theorem sscanf_uncut {s : Octets} (hsize : (front stop s).length < size)
    (h : ∀ before behind, before ≠ [] → stop ∉ before → s ≠ before ++ stop :: behind) :
    ∃ fields, sscanf (.until_ stop size :: .char stop :: format) s = some fields ∧
      fields.length ≤ 1 := by
  by_cases hin : stop ∈ s
  · obtain ⟨before, behind, rfl, hstop⟩ := List.eq_append_cons_of_mem hin
    by_cases hne : before = []
    · subst hne
      exact ⟨[], by simp [sscanf_until_eq], Nat.zero_le 1⟩
    · exact absurd rfl (h before behind hne hstop)
  · by_cases hne : s = []
    · subst hne
      exact ⟨[], rfl, Nat.zero_le 1⟩
    · rw [front_eq_self hin] at hsize
      have hscan : sscanf (.until_ stop size :: .char stop :: format) (s ++ []) =
          some [.text s] := by
        rw [sscanf_until hne hsize hin fun b hb => by cases hb]
        rfl
      rw [List.append_nil] at hscan
      exact ⟨_, hscan, Nat.le_refl 1⟩

/-- `%s` takes all of a text without white space. -/
theorem sscanf_rest {s : Octets} (hclean : ∀ b ∈ s, isSpace b = false) (hne : s ≠ []) :
    sscanf [.word size] s = if s.length < size then some [.text s] else none := by
  have hskip : skipSpace (s ++ []) = s ++ [] := skipSpace_word hne hclean
  rw [List.append_nil] at hskip
  have hall : (s.takeWhile fun b => !isSpace b) = s :=
    List.takeWhile_eq_self_iff.mpr fun b hb => by simp [hclean b hb]
  rw [sscanf_word_eq, hskip, hall, if_neg hne]
  by_cases hlen : s.length < size
  · rw [if_neg (Nat.not_le.mpr hlen), if_pos hlen]
    rfl
  · rw [if_pos (Nat.not_lt.mp hlen), if_neg hlen]

end Cut

/-! ## The number in front of a text -/

/-- `%u` finds a number: a digit, perhaps behind white space and a sign. -/
def startsNumber (s : Octets) : Bool := (splitSign (skipSpace s)).2.head?.any isDigit

/-- The number in front of a text, before it is cut to the size of a variable. -/
def numeral (s : Octets) : Nat :=
  strtoul (splitSign (skipSpace s)).1 ((splitSign (skipSpace s)).2.takeWhile isDigit)

theorem takeWhile_digits {s : Octets} : s.takeWhile isDigit = [] ↔ s.head?.any isDigit = false := by
  cases s with
  | nil => exact ⟨fun _ => rfl, fun _ => rfl⟩
  | cons b s => simp [List.takeWhile_cons]

theorem scanUnsigned_none_iff {bits : Nat} {s : Octets} :
    scanUnsigned bits s = none ↔ startsNumber s = false := by
  rw [startsNumber, ← takeWhile_digits, scanUnsigned]
  dsimp only
  split
  · exact ⟨fun _ => ‹_›, fun _ => rfl⟩
  · exact ⟨fun h => (nomatch h), fun h => absurd h ‹_›⟩

theorem scanUnsigned_isSome {s : Octets} (h : startsNumber s = true) (bits : Nat) :
    ∃ rest, scanUnsigned bits s = some (numeral s % 2 ^ bits, rest) := by
  have hdigits : (splitSign (skipSpace s)).2.takeWhile isDigit ≠ [] := fun hnil =>
    absurd (takeWhile_digits.mp hnil) (by rw [← startsNumber, h]; exact Bool.noConfusion)
  rw [scanUnsigned]
  dsimp only
  rw [if_neg hdigits]
  exact ⟨_, rfl⟩

theorem skipSpace_skipSpace (s : Octets) : skipSpace (skipSpace s) = skipSpace s :=
  List.dropWhile_idempotent _ _

theorem scanUnsigned_skipSpace (bits : Nat) (s : Octets) :
    scanUnsigned bits (skipSpace s) = scanUnsigned bits s := by
  rw [scanUnsigned, skipSpace_skipSpace, scanUnsigned]

/-! A number is the same in a text that is cut behind it. -/

section Cutting

variable {q : UInt8 → Bool} {s : Octets}

theorem skipSpace_eq_self_iff : skipSpace s = s ↔ ∀ b ∈ s.head?, isSpace b = false := by
  cases s with
  | nil => exact ⟨fun _ _ hb => (nomatch hb), fun _ => rfl⟩
  | cons b s =>
    rw [skipSpace, List.dropWhile_eq_self_iff]
    simp

theorem splitSign_other {b : UInt8} (hplus : b ≠ 43) (hminus : b ≠ 45) :
    splitSign (b :: s) = (false, b :: s) := by
  unfold splitSign
  split
  · exact absurd (List.cons.inj ‹_›).1 hplus
  · exact absurd (List.cons.inj ‹_›).1 hminus
  · rfl

theorem splitSign_takeWhile (hplus : q 43 = true) (hminus : q 45 = true) :
    splitSign (s.takeWhile q) = ((splitSign s).1, (splitSign s).2.takeWhile q) := by
  cases s with
  | nil => rfl
  | cons b s =>
    by_cases hb : b = 43
    · rw [hb, List.takeWhile_cons_of_pos hplus]
      rfl
    by_cases hb' : b = 45
    · rw [hb', List.takeWhile_cons_of_pos hminus]
      rfl
    rw [splitSign_other hb hb']
    by_cases hq : q b = true
    · rw [List.takeWhile_cons_of_pos hq, splitSign_other hb hb']
    · rw [List.takeWhile_cons_of_neg hq]
      rfl

/-- What cuts neither signs nor digits leaves the number as it is. -/
theorem number_takeWhile (hplus : q 43 = true) (hminus : q 45 = true)
    (hdigit : ∀ b, isDigit b = true → q b = true) (htop : skipSpace s = s) :
    startsNumber (s.takeWhile q) = startsNumber s ∧ numeral (s.takeWhile q) = numeral s := by
  have hcut : skipSpace (s.takeWhile q) = s.takeWhile q := by
    rw [skipSpace_eq_self_iff] at htop ⊢
    cases s with
    | nil => exact htop
    | cons b s =>
      by_cases hq : q b = true
      · rw [List.takeWhile_cons_of_pos hq]
        exact htop
      · rw [List.takeWhile_cons_of_neg hq]
        exact fun _ hb => by cases hb
  have hdigits : ∀ t : Octets, (t.takeWhile q).takeWhile isDigit = t.takeWhile isDigit := by
    intro t
    rw [List.takeWhile_takeWhile]
    refine congrArg (fun p => t.takeWhile p) (funext fun b => ?_)
    by_cases hb : isDigit b = true
    · simp [hb, hdigit b hb]
    · simp [hb]
  constructor
  · rw [Bool.eq_iff_iff, ← Bool.not_eq_false, ← Bool.not_eq_false, startsNumber, startsNumber,
      hcut, htop, splitSign_takeWhile hplus hminus, ← takeWhile_digits, ← takeWhile_digits,
      hdigits]
  · rw [numeral, numeral, hcut, htop, splitSign_takeWhile hplus hminus, hdigits]

theorem number_skipSpace (s : Octets) :
    startsNumber (skipSpace s) = startsNumber s ∧ numeral (skipSpace s) = numeral s := by
  rw [startsNumber, numeral, skipSpace_skipSpace]
  exact ⟨rfl, rfl⟩

theorem skipSpace_cstr (s : Octets) : skipSpace (cstr s) = cstr (skipSpace s) := by
  induction s with
  | nil => rfl
  | cons b s ih =>
    by_cases hb : isSpace b = true
    · have hzero : b ≠ 0 := by
        rintro rfl
        exact absurd hb (by decide)
      have hcstr : cstr (b :: s) = b :: cstr s := List.takeWhile_cons_of_pos (decide_eq_true hzero)
      rw [hcstr, skipSpace, skipSpace, List.dropWhile_cons_of_pos hb, List.dropWhile_cons_of_pos hb]
      exact ih
    · have hsame : skipSpace (b :: s) = b :: s := List.dropWhile_cons_of_neg hb
      rw [hsame, skipSpace_eq_self_iff]
      intro c hc
      by_cases hzero : b = 0
      · subst hzero
        cases hc
      · have hcstr : cstr (b :: s) = b :: cstr s :=
          List.takeWhile_cons_of_pos (decide_eq_true hzero)
        rw [hcstr] at hc
        cases hc
        exact Bool.eq_false_of_not_eq_true hb

/-- A C string begins with the number that the text begins with. -/
theorem number_cstr (s : Octets) :
    startsNumber (cstr s) = startsNumber s ∧ numeral (cstr s) = numeral s := by
  have hdigit : ∀ b, isDigit b = true → decide (b ≠ 0) = true := by
    intro b hb
    refine decide_eq_true ?_
    rintro rfl
    exact absurd hb (by decide)
  obtain ⟨hstarts, hvalue⟩ :=
    number_takeWhile (q := fun b => decide (b ≠ 0)) (by decide) (by decide) hdigit
      (skipSpace_skipSpace s)
  rw [← (number_skipSpace (cstr s)).1, ← (number_skipSpace (cstr s)).2, skipSpace_cstr,
    ← (number_skipSpace s).1, ← (number_skipSpace s).2]
  exact ⟨hstarts, hvalue⟩

end Cutting

/-- What stands behind the first `stop`, if anything stands in front of it. -/
def behind (stop : UInt8) (s : Octets) : Option Octets :=
  if front stop s = [] then none
  else
    match s.dropWhile fun b => decide (b ≠ stop) with
    | [] => none
    | _ :: rest => some rest

theorem behind_append {stop : UInt8} {before : Octets} (hne : before ≠ []) (hstop : stop ∉ before)
    (rest : Octets) : behind stop (before ++ stop :: rest) = some rest := by
  have hbefore : ∀ b ∈ before, decide (b ≠ stop) = true := fun b hb =>
    decide_eq_true fun heq => hstop (heq ▸ hb)
  rw [behind, front_append hstop, if_neg hne, List.dropWhile_append_of_pos hbefore,
    List.dropWhile_cons_of_neg (by simp)]

theorem sscanf_behind_none {stop : UInt8} {format : List Directive} {s : Octets}
    (h : behind stop s = none) :
    sscanf (.skipUntil stop :: .char stop :: format) s = some [] := by
  rw [sscanf_skipUntil_eq]
  unfold behind at h
  split at h
  · exact if_pos ‹_›
  rename_i hne
  split at h
  · rename_i hnil
    rw [if_neg (by exact hne), hnil]
    rfl
  · cases h

theorem sscanf_behind_some {stop : UInt8} {format : List Directive} {s rest : Octets}
    (h : behind stop s = some rest) :
    sscanf (.skipUntil stop :: .char stop :: format) s = sscanf format rest := by
  rw [sscanf_skipUntil_eq]
  unfold behind at h
  split at h
  · cases h
  rename_i hne
  split at h
  · cases h
  rename_i b later hcons
  cases h
  have hb : b = stop := by
    have hhead := List.head?_dropWhile_not (fun b => decide (b ≠ stop)) s
    rw [hcons] at hhead
    simpa using hhead
  rw [if_neg (by exact hne), hcons, hb, sscanf_char]

/-! ## Two numbers with a hyphen between them -/

/-- The number in front of a text, and the one behind the hyphen that follows. -/
def hyphened (bits : Nat) (s : Octets) : Option (Nat × Option Nat) :=
  match scanUnsigned bits s with
  | none => none
  | some (a, 45 :: rest) => some (a, (scanUnsigned bits rest).map Prod.fst)
  | some (a, _) => some (a, none)

theorem hyphened_of_hyphen {bits a : Nat} {s rest : Octets}
    (h : scanUnsigned bits s = some (a, 45 :: rest)) :
    hyphened bits s = some (a, (scanUnsigned bits rest).map Prod.fst) := by
  rw [hyphened, h]
  rfl

def hyphenedFields : Option (Nat × Option Nat) → List Field
  | none => []
  | some (a, none) => [.number a]
  | some (a, some b) => [.number a, .number b]

/-- `%u-%u`. -/
theorem sscanf_hyphened (bits : Nat) (s : Octets) :
    sscanf [.unsigned bits, .char 45, .unsigned bits] s =
      some (hyphenedFields (hyphened bits s)) := by
  unfold hyphened
  split
  · rename_i hfirst
    rw [sscanf_unsigned_none hfirst]
    rfl
  · rename_i a rest hfirst
    rw [sscanf_unsigned_some hfirst, sscanf_char]
    cases hsecond : scanUnsigned bits rest with
    | none =>
      rw [sscanf_unsigned_none hsecond]
      rfl
    | some p =>
      rw [sscanf_unsigned_some hsecond]
      rfl
  · rename_i a rest hno hfirst
    rw [sscanf_unsigned_some hfirst]
    cases rest with
    | nil => rfl
    | cons b rest =>
      have hb : b ≠ 45 := by
        rintro rfl
        exact hno rest rfl
      rw [sscanf_char_eq, if_neg hb]
      rfl

theorem hyphened_lt {bits a : Nat} {s : Octets} {second : Option Nat}
    (h : hyphened bits s = some (a, second)) :
    a < 2 ^ bits ∧ ∀ b ∈ second, b < 2 ^ bits := by
  unfold hyphened at h
  split at h
  · cases h
  · rename_i rest hfirst
    cases h
    refine ⟨scanUnsigned_lt hfirst, fun b hb => ?_⟩
    obtain ⟨p, hp, rfl⟩ := Option.map_eq_some_iff.mp hb
    exact scanUnsigned_lt hp
  · rename_i hfirst
    cases h
    exact ⟨scanUnsigned_lt hfirst, fun b hb => (nomatch hb)⟩

/-- Two runs of digits that are small enough are read as they are. -/
theorem hyphened_digits {bits : Nat} {first second after : Octets} (hfirst : Digits first)
    (hsecond : Digits second) (hbits : bits ≤ 64) (hfits : decValue first < 2 ^ bits)
    (hfits' : decValue second < 2 ^ bits) (hafter : ∀ b ∈ after.head?, isDigit b = false) :
    hyphened bits (first ++ 45 :: (second ++ after)) =
      some (decValue first, some (decValue second)) := by
  have hhyphen : ∀ b ∈ (45 :: (second ++ after)).head?, isDigit b = false := fun b hb => by
    cases hb
    decide
  rw [hyphened_of_hyphen (scanUnsigned_small hfirst hbits hfits hhyphen),
    scanUnsigned_small hsecond hbits hfits' hafter]
  rfl

/-! ## What is copied into the arrays -/

/-- The first word of a text. -/
def word (s : Octets) : Octets := (skipSpace s).takeWhile fun b => !isSpace b

/-- What follows it. -/
def behindWord (s : Octets) : Octets := (skipSpace s).dropWhile fun b => !isSpace b

/-- A text that is copied into an array of `size` bytes. -/
structure Store where
  size : Nat
  text : Octets
  deriving DecidableEq

/-- There is room for the text and the zero behind it. -/
def Store.Fits (p : Store) : Prop := p.text.length < p.size

instance (p : Store) : Decidable p.Fits := inferInstanceAs (Decidable (_ < _))

/-- A text and what is copied later; behind a text that does not fit all is lost. -/
def storing (size : Nat) (text : Octets) (later : List Store) : List Store :=
  if text = [] then []
  else ⟨size, text⟩ :: if size ≤ text.length then [] else later

/-- The texts that `sscanf` copies. -/
def stores : List Directive → Octets → List Store
  | [], _ => []
  | .space :: format, s => stores format (skipSpace s)
  | .char b :: format, s =>
    match s with
    | c :: rest => if c = b then stores format rest else []
    | [] => []
  | .word size :: format, s => storing size (word s) (stores format (behindWord s))
  | .until_ stop size :: format, s =>
    storing size (front stop s) (stores format (s.dropWhile fun b => decide (b ≠ stop)))
  | .skipUntil stop :: format, s =>
    if front stop s = [] then [] else stores format (s.dropWhile fun b => decide (b ≠ stop))
  | .unsigned bits :: format, s =>
    match scanUnsigned bits s with
    | none => []
    | some (_, rest) => stores format rest

/-- All the texts of these scans fit. -/
def AllFit (ps : List Store) : Prop := ∀ p ∈ ps, p.Fits

instance (ps : List Store) : Decidable (AllFit ps) := inferInstanceAs (Decidable (∀ p ∈ ps, p.Fits))

theorem allFit_nil : AllFit [] := fun _ h => absurd h List.not_mem_nil

theorem allFit_append {ps qs : List Store} : AllFit (ps ++ qs) ↔ AllFit ps ∧ AllFit qs :=
  List.forall_mem_append

theorem allFit_storing {size : Nat} {text : Octets} {later : List Store} :
    AllFit (storing size text later) ↔ text = [] ∨ text.length < size ∧ AllFit later := by
  unfold storing
  by_cases hempty : text = []
  · rw [if_pos hempty]
    exact ⟨fun _ => Or.inl hempty, fun _ => allFit_nil⟩
  · rw [if_neg hempty]
    by_cases hfits : text.length < size
    · rw [if_neg (Nat.not_le.mpr hfits)]
      exact ⟨fun h => Or.inr ⟨hfits, fun p hp => h p (List.mem_cons_of_mem _ hp)⟩,
        fun h => List.forall_mem_cons.mpr ⟨hfits, (h.resolve_left hempty).2⟩⟩
    · exact ⟨fun h => absurd (h _ List.mem_cons_self) hfits,
        fun h => absurd (h.resolve_left hempty).1 hfits⟩

/-- A directive that copies is defined when its text fits and the rest is defined. -/
theorem isSome_storing {size : Nat} {text : Octets} {later : List Store}
    {scanned : Option (List Field)} {field : List Field → List Field}
    (h : scanned.isSome = true ↔ AllFit later) :
    (if text = [] then some [] else if size ≤ text.length then none else scanned.map field).isSome =
      true ↔ AllFit (storing size text later) := by
  rw [allFit_storing, ← h]
  by_cases hempty : text = []
  · rw [if_pos hempty]
    exact ⟨fun _ => Or.inl hempty, fun _ => rfl⟩
  · rw [if_neg hempty]
    by_cases hlong : size ≤ text.length
    · rw [if_pos hlong]
      exact ⟨fun hsome => absurd hsome (by simp),
        fun hfits => absurd (hfits.resolve_left hempty).1 (Nat.not_lt.mpr hlong)⟩
    · rw [if_neg hlong, Option.isSome_map]
      exact ⟨fun hsome => Or.inr ⟨Nat.not_le.mp hlong, hsome⟩,
        fun hfits => (hfits.resolve_left hempty).2⟩

/-- **`sscanf` is defined exactly where all it copies fits.** -/
theorem sscanf_isSome_iff (format : List Directive) : ∀ s : Octets,
    (sscanf format s).isSome = true ↔ AllFit (stores format s) := by
  induction format with
  | nil => exact fun _ => ⟨fun _ => allFit_nil, fun _ => rfl⟩
  | cons directive format ih =>
    intro s
    cases directive with
    | space => exact ih (skipSpace s)
    | char b =>
      cases s with
      | nil => exact ⟨fun _ => allFit_nil, fun _ => rfl⟩
      | cons c rest =>
        rw [sscanf_char_eq, stores]
        by_cases hc : c = b
        · rw [if_pos hc, if_pos hc]
          exact ih rest
        · rw [if_neg hc, if_neg hc]
          exact ⟨fun _ => allFit_nil, fun _ => rfl⟩
    | word size =>
      rw [sscanf_word_eq]
      exact isSome_storing (ih _)
    | until_ stop size =>
      rw [sscanf_until_eq]
      exact isSome_storing (ih _)
    | skipUntil stop =>
      rw [stores, sscanf_skipUntil_eq, front]
      by_cases hempty : (s.takeWhile fun b => decide (b ≠ stop)) = []
      · rw [if_pos hempty, if_pos hempty]
        exact ⟨fun _ => allFit_nil, fun _ => rfl⟩
      · rw [if_neg hempty, if_neg hempty]
        exact ih _
    | unsigned bits =>
      cases hscan : scanUnsigned bits s with
      | none =>
        rw [sscanf_unsigned_none hscan, stores, hscan]
        exact ⟨fun _ => allFit_nil, fun _ => rfl⟩
      | some taken =>
        obtain ⟨n, rest⟩ := taken
        rw [sscanf_unsigned_some hscan, stores, hscan, Option.isSome_map]
        exact ih rest

end Scan
end MyRtspServer.Library
