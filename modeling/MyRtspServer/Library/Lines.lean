import MyRtspServer.Library.Octets

/-!
# Lines that end in CR LF

A line is any byte string without a line feed; what looks like a line end inside
the text is one. A sequence of lines is encoded by putting CR LF behind each.
-/
namespace MyRtspServer.Library.Lines

open Octets

def crlf : Octets := [13, 10]

def encodeLines (lines : List Octets) : Octets := lines.flatMap (· ++ crlf)

@[simp] theorem encodeLines_nil : encodeLines [] = [] := rfl

@[simp] theorem encodeLines_cons (l : Octets) (lines : List Octets) :
    encodeLines (l :: lines) = l ++ (crlf ++ encodeLines lines) := by
  rw [encodeLines, List.flatMap_cons, List.append_assoc]
  rfl

@[simp] theorem encodeLines_append (front back : List Octets) :
    encodeLines (front ++ back) = encodeLines front ++ encodeLines back :=
  List.flatMap_append

theorem encodeLines_length {k : Nat} {lines : List Octets} (h : ∀ l ∈ lines, l.length ≤ k) :
    (encodeLines lines).length ≤ lines.length * (k + 2) := by
  induction lines with
  | nil => exact Nat.zero_le _
  | cons l lines ih =>
    have hl := h l List.mem_cons_self
    have hlines := ih fun l' hl' => h l' (List.mem_cons_of_mem _ hl')
    simp only [encodeLines_cons, List.length_append, List.length_cons, crlf, List.length_nil]
    rw [Nat.add_mul]
    omega

theorem le_encodeLines_length (lines : List Octets) : lines.length ≤ (encodeLines lines).length := by
  induction lines with
  | nil => exact Nat.le_refl 0
  | cons l lines ih =>
    simp only [encodeLines_cons, List.length_append, List.length_cons, crlf, List.length_nil]
    omega

theorem not_mem_encodeLines {b : UInt8} (hb : b ∉ crlf) {lines : List Octets}
    (h : ∀ l ∈ lines, b ∉ l) : b ∉ encodeLines lines := by
  intro hmem
  obtain ⟨l, hl, hmem⟩ := List.mem_flatMap.mp hmem
  exact (List.mem_append.mp hmem).elim (h l hl) hb

theorem infix_encodeLines {l : Octets} {lines : List Octets} (h : l ∈ lines) :
    l <:+: encodeLines lines := by
  obtain ⟨front, back, rfl⟩ := List.append_of_mem h
  rw [encodeLines_append, encodeLines_cons]
  exact ⟨encodeLines front, crlf ++ encodeLines back, by rw [List.append_assoc]⟩

theorem written_encodeLines {k n : Nat} {lines : List Octets} (h : ∀ l ∈ lines, Written k l)
    (hfew : lines.length ≤ n) : Written (n * (k + 2)) (encodeLines lines) :=
  Written.flatMap (fun l hl => (h l hl).append (by decide)) hfew

/-- The lines of a text; what stands behind the last line end is one, too. -/
def linesOf : Octets → List Octets
  | [] => [[]]
  | 13 :: 10 :: s => [] :: linesOf s
  | b :: s =>
    match linesOf s with
    | [] => [[b]]
    | l :: lines => (b :: l) :: lines

/-! ## Searching for a line end -/

theorem crlf_isPrefixOf {s : Octets} (h : crlf.isPrefixOf s = true) : 10 ∈ s := by
  obtain ⟨t, rfl⟩ := List.isPrefixOf_iff_prefix.mp h
  simp [crlf]

theorem splitFirst_none {s : Octets} (h : 10 ∉ s) : splitFirst crlf s = none := by
  induction s with
  | nil => rfl
  | cons b s ih =>
    rw [splitFirst, if_neg fun hp => h (crlf_isPrefixOf hp),
      ih fun hs => h (List.mem_cons_of_mem _ hs)]

/-- Without a line feed there is no line end. -/
theorem no_crlf {s : Octets} (h : 10 ∉ s) : ¬ crlf <:+: s := fun hin => h (hin.subset (by decide))

theorem splitLast_none {s : Octets} (h : ¬ crlf <:+: s) : splitLast crlf s = none := by
  induction s with
  | nil => rfl
  | cons b s ih =>
    rw [splitLast, ih fun hs => h (hs.trans (List.suffix_cons b s).isInfix)]
    exact if_neg fun hp => h (List.isPrefixOf_iff_prefix.mp hp).isInfix

/-- A line end in the second part is found there. -/
theorem splitLast_append {s : Octets} (front : Octets) {before rest : Octets}
    (h : splitLast crlf s = some (before, rest)) :
    splitLast crlf (front ++ s) = some (front ++ before, rest) := by
  induction front with
  | nil => exact h
  | cons b front ih => rw [List.cons_append, splitLast, ih, List.cons_append]

theorem splitLast_of_infix {s : Octets} (h : crlf <:+: s) : splitLast crlf s ≠ none := by
  induction s with
  | nil => exact absurd (List.infix_nil.mp h) (by decide)
  | cons b s ih =>
    rw [splitLast]
    cases hs : splitLast crlf s with
    | some p => exact Option.some_ne_none _
    | none =>
      have hstart := (List.infix_cons_iff.mp h).resolve_right fun hlater => ih hlater hs
      dsimp only
      rw [if_pos (List.isPrefixOf_iff_prefix.mpr hstart)]
      exact Option.some_ne_none _

/-- Behind the last line end there is none. -/
theorem splitLast_last {s : Octets} : ∀ {before rest : Octets},
    splitLast crlf s = some (before, rest) → ¬ crlf <:+: rest.drop 2 := by
  induction s with
  | nil => exact fun h => by cases h
  | cons b s ih =>
    intro before rest h
    rw [splitLast] at h
    cases hs : splitLast crlf s with
    | some p =>
      rw [hs] at h
      cases h
      exact ih hs
    | none =>
      simp only [hs] at h
      split at h
      · cases h
        intro hin
        exact splitLast_of_infix (hin.trans (List.drop_suffix 1 s).isInfix) hs
      · cases h

/-- The first line end stands behind the first line. -/
theorem splitFirst_line {l : Octets} (h : 10 ∉ l) (s : Octets) :
    splitFirst crlf (l ++ (crlf ++ s)) = some (l, crlf ++ s) := by
  induction l with
  | nil => rfl
  | cons b l ih =>
    have hl : 10 ∉ l := fun hm => h (List.mem_cons_of_mem _ hm)
    have hno : ¬ crlf.isPrefixOf (b :: (l ++ (crlf ++ s))) = true := by
      intro hp
      cases l with
      | nil => simp [crlf] at hp
      | cons b' l =>
        simp only [crlf, List.cons_append, List.isPrefixOf, Bool.and_eq_true, beq_iff_eq] at hp
        exact hl (hp.2.1 ▸ List.mem_cons_self)
    rw [List.cons_append, splitFirst, if_neg hno, ih hl]

theorem splitLast_tail {t : Octets} (h : ¬ crlf <:+: t) :
    splitLast crlf (crlf ++ t) = some ([], crlf ++ t) := by
  have h10 : splitLast crlf (10 :: t) = none := by
    rw [splitLast, splitLast_none h]
    exact if_neg fun hp => by simp [crlf] at hp
  change splitLast crlf (13 :: 10 :: t) = _
  rw [splitLast, h10]
  exact if_pos (List.isPrefixOf_iff_prefix.mpr (List.prefix_append crlf t))

/-- The last line end stands in front of what has none. -/
theorem splitLast_line (s : Octets) {t : Octets} (h : ¬ crlf <:+: t) :
    splitLast crlf (s ++ (crlf ++ t)) = some (s, crlf ++ t) := by
  have hlast := splitLast_append s (splitLast_tail h)
  rwa [List.append_nil] at hlast

/-- A word without line ends is searched line by line. -/
theorem splitFirst_lines {pat : Octets} (hne : pat ≠ []) (hcr : 13 ∉ pat) (hlf : 10 ∉ pat)
    {lines : List Octets} (hno : ∀ l ∈ lines, ¬ pat <:+: l) (rest : Octets) :
    splitFirst pat (encodeLines lines ++ rest) =
      (splitFirst pat rest).map fun p => (encodeLines lines ++ p.1, p.2) := by
  induction lines with
  | nil =>
    rw [encodeLines_nil, List.nil_append]
    cases splitFirst pat rest <;> rfl
  | cons l lines ih =>
    have hline : encodeLines (l :: lines) ++ rest =
        l ++ 13 :: ([] ++ 10 :: (encodeLines lines ++ rest)) := by
      rw [encodeLines_cons, List.append_assoc, List.append_assoc]
      rfl
    have hempty : ¬ pat <:+: [] := fun h => hne (List.infix_nil.mp h)
    rw [hline, splitFirst_separator hne hcr (hno l List.mem_cons_self),
      splitFirst_separator hne hlf hempty, ih fun l' hl' => hno l' (List.mem_cons_of_mem _ hl'),
      encodeLines_cons]
    cases splitFirst pat rest with
    | none => rfl
    | some p => simp [crlf]

/-! ## Lines are determined by their encoding -/

theorem line_inj {l l' s s' : Octets} (h : 10 ∉ l) (h' : 10 ∉ l')
    (heq : l ++ (crlf ++ s) = l' ++ (crlf ++ s')) : l = l' ∧ s = s' := by
  have hsplit := splitFirst_line h s
  rw [heq, splitFirst_line h' s'] at hsplit
  simp only [Option.some.injEq, Prod.mk.injEq] at hsplit
  exact ⟨hsplit.1.symm, (List.append_cancel_left hsplit.2).symm⟩

/-- A block of non-empty lines that an empty line ends. -/
theorem encodeLines_inj {lines : List Octets} : ∀ {lines' : List Octets} {s s' : Octets},
    (∀ l ∈ lines, 10 ∉ l ∧ l ≠ []) → (∀ l ∈ lines', 10 ∉ l ∧ l ≠ []) →
    encodeLines lines ++ (crlf ++ s) = encodeLines lines' ++ (crlf ++ s') → lines = lines' := by
  induction lines with
  | nil =>
    intro lines' s s' _ h' heq
    cases lines' with
    | nil => rfl
    | cons l' lines' =>
      rw [encodeLines_cons, List.append_assoc, List.append_assoc] at heq
      have hl := h' l' List.mem_cons_self
      exact absurd (line_inj (by simp) hl.1 heq).1.symm hl.2
  | cons l lines ih =>
    intro lines' s s' h h' heq
    have hl := h l List.mem_cons_self
    cases lines' with
    | nil =>
      rw [encodeLines_cons, List.append_assoc, List.append_assoc] at heq
      exact absurd (line_inj hl.1 (by simp) heq).1 hl.2
    | cons l' lines' =>
      have hl' := h' l' List.mem_cons_self
      simp only [encodeLines_cons, List.append_assoc] at heq
      obtain ⟨rfl, hrest⟩ := line_inj hl.1 hl'.1 heq
      rw [ih (fun k hk => h k (List.mem_cons_of_mem _ hk))
        (fun k hk => h' k (List.mem_cons_of_mem _ hk)) hrest]

/-! ## A stream that arrives in pieces -/

/-- What has arrived of a stream of lines: some whole lines, and a piece without
a line feed. -/
theorem encodeLines_arrived {lines : List Octets} : ∀ {buffer more : Octets},
    (∀ l ∈ lines, 10 ∉ l) → buffer ++ more = encodeLines lines →
    ∃ front back carry, lines = front ++ back ∧ buffer = encodeLines front ++ carry ∧ 10 ∉ carry ∧
      carry ++ more = encodeLines back := by
  induction lines with
  | nil =>
    intro buffer more _ h
    obtain ⟨rfl, rfl⟩ := List.append_eq_nil_iff.mp h
    exact ⟨[], [], [], rfl, rfl, by simp, rfl⟩
  | cons l lines ih =>
    intro buffer more hlines h
    have hl := hlines l List.mem_cons_self
    rcases Nat.lt_or_ge buffer.length (l.length + 2) with hshort | hlong
    · -- the first line is not complete
      refine ⟨[], l :: lines, buffer, rfl, rfl, ?_, h⟩
      have hpre : buffer <+: l ++ [13] := by
        have htake : buffer <+: l ++ [13] ++ ([10] ++ encodeLines lines) := by
          refine ⟨more, h.trans ?_⟩
          simp [crlf]
        exact List.prefix_of_prefix_length_le htake (List.prefix_append _ _) (by simp; omega)
      intro hmem
      rcases List.mem_append.mp (hpre.subset hmem) with hm | hm
      · exact hl hm
      · simp at hm
    · have hpre : l ++ crlf <+: buffer := by
        have hfull : l ++ crlf <+: encodeLines (l :: lines) :=
          ⟨encodeLines lines, by simp⟩
        rw [← h] at hfull
        exact List.prefix_of_prefix_length_le hfull (List.prefix_append _ _)
          (by simpa [crlf] using hlong)
      obtain ⟨rest, rfl⟩ := hpre
      have hrest : rest ++ more = encodeLines lines := by
        simp only [encodeLines_cons, List.append_assoc] at h
        exact List.append_cancel_left (List.append_cancel_left h)
      obtain ⟨front, back, carry, rfl, rfl, hcarry, hmore⟩ :=
        ih (fun k hk => hlines k (List.mem_cons_of_mem _ hk)) hrest
      exact ⟨l :: front, back, carry, rfl, by simp, hcarry, hmore⟩

end MyRtspServer.Library.Lines
