import MyRtspServer.Net.H264Backed

/-!
# `FindNextStartCode` on any buffer

The H264 reader passes a part of its frame buffer. The function itself is given a
pointer and a length only, so here the buffer has no size: what is recorded is
which positions are looked at.
-/
namespace MyRtspServer.Net.StartCodeSearch

open Library Library.AnnexB

/-- What a function returns and the positions it looks at, in order. -/
structure Looked (α : Type) where
  value : α
  reads : List Nat

/-- Compares the bytes at `p` with `code`, from the left up to the first difference. -/
def bytesAre (buf : Memory) : List UInt8 → Nat → Looked Bool
  | [], _ => ⟨true, []⟩
  | b :: code, p =>
    if buf p = b then
      let rest := bytesAre buf code (p + 1)
      ⟨rest.value, p :: rest.reads⟩
    else ⟨false, [p]⟩

def startCode3 (buf : Memory) (p : Nat) : Looked Bool := bytesAre buf code3 p

def startCode4 (buf : Memory) (p : Nat) : Looked Bool := bytesAre buf code4 p

/-- `StartCode3(buf) || StartCode4(buf)`. -/
def startCode (buf : Memory) (p : Nat) : Looked Bool :=
  let three := startCode3 buf p
  if three.value then three
  else
    let four := startCode4 buf p
    ⟨four.value, three.reads ++ four.reads⟩

/-- The loop with `left` rounds to go, and the test behind it. -/
def scanStartCode (buf : Memory) : Nat → Nat → Looked (Option Nat)
  | 0, p =>
    let last := startCode3 buf p
    ⟨if last.value then some p else none, last.reads⟩
  | left + 1, p =>
    let here := startCode buf p
    if here.value then ⟨some p, here.reads⟩
    else
      let rest := scanStartCode buf left (p + 1)
      ⟨rest.value, here.reads ++ rest.reads⟩

/-- `FindNextStartCode(buf + p, len)`; `none` is `nullptr`. -/
def findNextStartCode (buf : Memory) (p : Nat) (len : UInt32) : Looked (Option Nat) :=
  if len < 3 then ⟨none, []⟩ else scanStartCode buf (len - 3).toNat p

/-! ## One comparison -/

section Compare

variable {buf : Memory} {p : Nat}

theorem load_cons (buf : Memory) (p n : Nat) :
    buf.load p (n + 1) = buf p :: buf.load (p + 1) n := by
  rw [Nat.add_comm n, Memory.load_add]
  rfl

theorem bytesAre_value (code : List UInt8) : ∀ {p : Nat},
    (bytesAre buf code p).value = decide (buf.load p code.length = code) := by
  induction code with
  | nil => exact fun {_} => rfl
  | cons b code ih =>
    intro p
    rw [bytesAre, List.length_cons, load_cons]
    by_cases hb : buf p = b
    · rw [if_pos hb, hb]
      simp [ih]
    · rw [if_neg hb]
      simp [hb]

theorem bytesAre_reads (code : List UInt8) : ∀ {p q : Nat},
    q ∈ (bytesAre buf code p).reads → p ≤ q ∧ q < p + code.length := by
  induction code with
  | nil =>
    intro p q hq
    cases hq
  | cons b code ih =>
    intro p q hq
    rw [List.length_cons]
    rw [bytesAre] at hq
    split at hq
    · rw [List.mem_cons] at hq
      rcases hq with rfl | hq
      · omega
      · have := ih hq
        omega
    · rw [List.mem_singleton] at hq
      omega

/-- A comparison inside a range finds out whether the range begins with the code. -/
theorem bytesAre_within {code : List UInt8} {n : Nat} (h : code.length ≤ n) :
    (bytesAre buf code p).value = decide (code <+: buf.load p n) := by
  rw [bytesAre_value]
  apply decide_eq_decide.mpr
  rw [List.prefix_iff_eq_take, Memory.load_take buf h, eq_comm]

theorem startCode_value {n : Nat} (h : 4 ≤ n) :
    (startCode buf p).value = decide (StartsCode (buf.load p n)) := by
  have h3 : (startCode3 buf p).value = decide (code3 <+: buf.load p n) :=
    bytesAre_within (Nat.le_of_succ_le h)
  have h4 : (startCode4 buf p).value = decide (code4 <+: buf.load p n) := bytesAre_within h
  rw [startCode]
  by_cases hthree : code3 <+: buf.load p n
  · simp [h3, hthree, StartsCode]
  · simp [h3, h4, hthree, StartsCode]

theorem startCode_reads {q : Nat} (hq : q ∈ (startCode buf p).reads) : p ≤ q ∧ q < p + 4 := by
  have hthree : q ∈ (startCode3 buf p).reads → p ≤ q ∧ q < p + 4 := by
    intro h
    obtain ⟨hle, hlt⟩ := bytesAre_reads code3 h
    exact ⟨hle, Nat.lt_succ_of_lt hlt⟩
  rw [startCode] at hq
  split at hq
  · exact hthree hq
  · rcases List.mem_append.mp hq with hq | hq
    · exact hthree hq
    · exact bytesAre_reads code4 hq

end Compare

/-! ## The loop -/

/-- In three bytes only the short code fits. -/
theorem firstCode_three {b₀ b₁ b₂ : UInt8} :
    firstCode [b₀, b₁, b₂] = if code3 <+: [b₀, b₁, b₂] then some 0 else none := by
  by_cases h : code3 <+: [b₀, b₁, b₂]
  · rw [if_pos h, firstCode_starts (Or.inl h)]
  · have hlong : ¬ code4 <+: [b₀, b₁, b₂] := fun hfour => absurd hfour.length_le (by simp [code4])
    rw [if_neg h, firstCode_next (fun hstarts => hstarts.elim h hlong),
      firstCode_short (by simp), Option.map_none]

/-- **The loop finds the first start code** of what is left for it. -/
theorem scanStartCode_value (buf : Memory) (left : Nat) : ∀ p : Nat,
    (scanStartCode buf left p).value = (firstCode (buf.load p (left + 3))).map (p + ·) := by
  induction left with
  | zero =>
    intro p
    have hlast : (startCode3 buf p).value = decide (code3 <+: buf.load p 3) :=
      bytesAre_within (Nat.le_refl 3)
    have hthree : buf.load p 3 = [buf p, buf (p + 1), buf (p + 2)] := rfl
    rw [scanStartCode, hlast, Nat.zero_add, hthree, firstCode_three]
    by_cases h : code3 <+: [buf p, buf (p + 1), buf (p + 2)]
    · simp [h]
    · simp [h]
  | succ left ih =>
    intro p
    have hhere : (startCode buf p).value = decide (StartsCode (buf.load p (left + 1 + 3))) :=
      startCode_value (Nat.le_add_left 4 left)
    have hcons : buf.load p (left + 1 + 3) = buf p :: buf.load (p + 1) (left + 3) :=
      load_cons buf p (left + 3)
    rw [scanStartCode, hhere, hcons]
    by_cases h : StartsCode (buf p :: buf.load (p + 1) (left + 3))
    · rw [firstCode_starts h]
      simp [h]
    · rw [firstCode_next h]
      simp only [h, decide_false, Bool.false_eq_true, if_false, ih, Option.map_map]
      congr 1
      funext k
      simp only [Function.comp_apply]
      omega

theorem scanStartCode_reads (buf : Memory) (left : Nat) : ∀ {p q : Nat},
    q ∈ (scanStartCode buf left p).reads → p ≤ q ∧ q < p + (left + 3) := by
  induction left with
  | zero => exact fun hq => bytesAre_reads code3 hq
  | succ left ih =>
    intro p q hq
    have hfront : q ∈ (startCode buf p).reads → p ≤ q ∧ q < p + (left + 1 + 3) := by
      intro h
      have := startCode_reads h
      omega
    rw [scanStartCode] at hq
    split at hq
    · exact hfront hq
    · rcases List.mem_append.mp hq with hq | hq
      · exact hfront hq
      · have := ih hq
        omega

/-! ## The function -/

section Search

variable {len : UInt32}

theorem rounds_toNat (h : ¬ len < 3) : (len - 3).toNat + 3 = len.toNat := by
  have hlen : 3 ≤ len := UInt32.not_lt.mp h
  rw [UInt32.toNat_sub_of_le _ _ hlen]
  have hlen' : (3 : UInt32).toNat ≤ len.toNat := UInt32.le_iff_toNat_le.mp hlen
  exact Nat.sub_add_cancel hlen'

/-- The search returns the first start code of the bytes it is given. -/
theorem findNextStartCode_value (buf : Memory) (p : Nat) (len : UInt32) :
    (findNextStartCode buf p len).value = (firstCode (buf.load p len.toNat)).map (p + ·) := by
  rw [findNextStartCode]
  split
  · rename_i hshort
    have hlen : (buf.load p len.toNat).length < 3 := by
      rw [Memory.load_length]
      exact UInt32.lt_iff_toNat_lt.mp hshort
    rw [firstCode_short hlen, Option.map_none]
  · rename_i hlong
    rw [scanStartCode_value, rounds_toNat hlong]

theorem findNextStartCode_reads {buf : Memory} {p q : Nat}
    (hq : q ∈ (findNextStartCode buf p len).reads) : p ≤ q ∧ q < p + len.toNat := by
  rw [findNextStartCode] at hq
  split at hq
  · cases hq
  · rename_i hlong
    rw [← rounds_toNat hlong]
    exact scanStartCode_reads buf _ hq

end Search

/-- **`FindNextStartCode` finds the first start code**: it looks at no byte behind
the length, returns the smallest offset at which one of the two codes stands whole,
and nothing exactly when neither stands anywhere. -/
theorem findNextStartCode_finds_first (buf : Memory) (p : Nat) (len : UInt32) :
    (∀ q ∈ (findNextStartCode buf p len).reads, p ≤ q ∧ q < p + len.toNat) ∧
      (∀ next, (findNextStartCode buf p len).value = some next ↔
        ∃ off, next = p + off ∧ StartsCode ((buf.load p len.toNat).drop off) ∧
          ∀ i < off, ¬ StartsCode ((buf.load p len.toNat).drop i)) ∧
        ((findNextStartCode buf p len).value = none ↔
          ∀ off, ¬ StartsCode ((buf.load p len.toNat).drop off)) := by
  refine ⟨fun q hq => findNextStartCode_reads hq, fun next => ?_, ?_⟩
  · rw [findNextStartCode_value, Option.map_eq_some_iff]
    constructor
    · rintro ⟨off, hoff, rfl⟩
      exact ⟨off, rfl, firstCode_eq_some_iff.mp hoff⟩
    · rintro ⟨off, rfl, hoff⟩
      exact ⟨off, firstCode_eq_some_iff.mpr hoff, rfl⟩
  · rw [findNextStartCode_value, Option.map_eq_none_iff]
    exact firstCode_eq_none_iff

/-! ## The frame buffer of the H264 reader -/

section Frame

variable (buf : Memory)

theorem bytesAre_frame (code : List UInt8) : ∀ {p : Nat}, p + code.length ≤ frameMaxSize →
    Net.bytesAre buf code p = .ok (bytesAre buf code p).value ∧
      bytesAreReads buf code p = (bytesAre buf code p).reads := by
  induction code with
  | nil => exact fun _ => ⟨rfl, rfl⟩
  | cons b code ih =>
    intro p h
    rw [List.length_cons] at h
    have hp : p < frameMaxSize := by omega
    rw [Net.bytesAre, bytesAreReads, bytesAre, if_pos hp]
    by_cases hb : buf p = b
    · rw [if_pos hb, if_pos hb, if_pos ⟨hp, hb⟩]
      obtain ⟨hvalue, hreads⟩ := ih (p := p + 1) (by omega)
      exact ⟨hvalue, congrArg (p :: ·) hreads⟩
    · rw [if_neg hb, if_neg hb, if_neg fun h => hb h.2]
      exact ⟨rfl, rfl⟩

theorem startCode_frame {p : Nat} (h : p + 4 ≤ frameMaxSize) :
    Net.startCode buf p = .ok (startCode buf p).value ∧
      startCodeReads buf p = (startCode buf p).reads := by
  obtain ⟨hvalue3, hreads3⟩ := bytesAre_frame buf code3 (p := p) (Nat.le_of_succ_le h)
  obtain ⟨hvalue4, hreads4⟩ := bytesAre_frame buf code4 h
  have h3 : Net.startCode3 buf p = .ok (startCode3 buf p).value := hvalue3
  have h4 : Net.startCode4 buf p = .ok (startCode4 buf p).value := hvalue4
  have hr3 : bytesAreReads buf [0, 0, 1] p = (startCode3 buf p).reads := hreads3
  have hr4 : bytesAreReads buf [0, 0, 0, 1] p = (startCode4 buf p).reads := hreads4
  rw [Net.startCode, startCodeReads, startCode, h3, hr3]
  cases hthree : (startCode3 buf p).value with
  | true =>
    rw [if_pos rfl, hthree]
    exact ⟨rfl, List.append_nil _⟩
  | false => exact ⟨h4, congrArg (_ ++ ·) hr4⟩

theorem scanStartCode_frame (left : Nat) : ∀ {p : Nat}, p + left + 3 ≤ frameMaxSize →
    Net.scanStartCode buf left p = .ok (scanStartCode buf left p).value ∧
      scanReads buf left p = (scanStartCode buf left p).reads := by
  induction left with
  | zero =>
    intro p h
    obtain ⟨hvalue, hreads⟩ := bytesAre_frame buf code3 (p := p) h
    have h3 : Net.startCode3 buf p = .ok (startCode3 buf p).value := hvalue
    rw [Net.scanStartCode, scanReads, scanStartCode, h3]
    exact ⟨rfl, hreads⟩
  | succ left ih =>
    intro p h
    obtain ⟨hvalue, hreads⟩ := startCode_frame buf (p := p) (by omega)
    obtain ⟨hlater, hlaterReads⟩ := ih (p := p + 1) (by omega)
    rw [Net.scanStartCode, scanReads, scanStartCode, hvalue, hreads]
    cases (startCode buf p).value with
    | true => exact ⟨rfl, List.append_nil _⟩
    | false => exact ⟨hlater, congrArg (_ ++ ·) hlaterReads⟩

/-- **Inside a frame buffer this is the search of the H264 reader**, with the same
positions looked at. -/
theorem findNextStartCode_frame {p : Nat} {len : UInt32} (h : p + len.toNat ≤ frameMaxSize) :
    Net.findNextStartCode buf p len.toNat = .ok (findNextStartCode buf p len).value ∧
      findNextReads buf p len.toNat = (findNextStartCode buf p len).reads := by
  have hthree : len.toNat < 3 ↔ len < 3 := (UInt32.lt_iff_toNat_lt (b := 3)).symm
  rw [Net.findNextStartCode, findNextReads, findNextStartCode]
  by_cases hshort : len < 3
  · rw [if_pos (hthree.mpr hshort), if_pos (hthree.mpr hshort), if_pos hshort]
    exact ⟨rfl, rfl⟩
  · rw [if_neg (hthree.not.mpr hshort), if_neg (hthree.not.mpr hshort), if_neg hshort]
    have hrounds := rounds_toNat hshort
    rw [show len.toNat - 3 = (len - 3).toNat by omega]
    exact scanStartCode_frame buf _ (by omega)

end Frame

end MyRtspServer.Net.StartCodeSearch
