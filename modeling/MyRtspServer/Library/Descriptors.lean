import Mathlib.Data.List.Basic
import Mathlib.Logic.Function.Basic

/-!
# Descriptors and their owners

A table says which descriptors are open, and which object each one belongs to.
A move acquires a descriptor for an object, hands it from one object to another,
or is an object's `close` of it. The kernel closes what it is told to close; a
clean list of moves closes only what is open and belongs to the closing object.
-/
namespace MyRtspServer.Library.Descriptors

universe u v

variable {Owner : Type u}

inductive Move (Owner : Type u) where
  | acquire (owner : Owner) (fd : Nat)
  | transfer (owner heir : Owner) (fd : Nat)
  | close (owner : Owner) (fd : Nat)
  deriving DecidableEq

def Move.fd : Move Owner → Nat
  | .acquire _ fd | .transfer _ _ fd | .close _ fd => fd

/-- Who makes the move. -/
def Move.mover : Move Owner → Owner
  | .acquire owner _ | .transfer owner _ _ | .close owner _ => owner

abbrev Table (Owner : Type u) := Nat → Option Owner

namespace Table

def apply (d : Table Owner) : Move Owner → Table Owner
  | .acquire owner fd => Function.update d fd (some owner)
  | .transfer _ heir fd => Function.update d fd (some heir)
  | .close _ fd => Function.update d fd none

def after (d : Table Owner) (moves : List (Move Owner)) : Table Owner := moves.foldl apply d

/-- The kernel hands out a descriptor that is not open. -/
def Hands (d : Table Owner) : Move Owner → Prop
  | .acquire _ fd => d fd = none
  | _ => True

/-- Besides, only an owner hands a descriptor on or closes it. -/
def Allows (d : Table Owner) : Move Owner → Prop
  | .acquire _ fd => d fd = none
  | .transfer owner _ fd => d fd = some owner
  | .close owner fd => d fd = some owner

/-- Every move meets `ok` in the table before it. -/
def Each (ok : Table Owner → Move Owner → Prop) : Table Owner → List (Move Owner) → Prop
  | _, [] => True
  | d, m :: moves => ok d m ∧ Each ok (d.apply m) moves

abbrev Fresh (d : Table Owner) (moves : List (Move Owner)) : Prop := Each Hands d moves

abbrev Clean (d : Table Owner) (moves : List (Move Owner)) : Prop := Each Allows d moves

theorem after_append (d : Table Owner) (moves more : List (Move Owner)) :
    d.after (moves ++ more) = (d.after moves).after more := List.foldl_append

theorem each_append {ok : Table Owner → Move Owner → Prop} {moves more : List (Move Owner)} :
    ∀ {d : Table Owner}, Each ok d (moves ++ more) ↔ Each ok d moves ∧ Each ok (d.after moves) more := by
  induction moves with
  | nil => exact ⟨fun h => ⟨trivial, h⟩, And.right⟩
  | cons m moves ih =>
    intro d
    rw [List.cons_append, Each, ih, ← and_assoc]
    rfl

/-- Clean moves of one owner do not touch what belongs to another. -/
theorem clean_untouched {o x : Owner} {f : Nat} {ms : List (Move Owner)} : ∀ {d : Table Owner},
    d.Clean ms → (∀ m ∈ ms, m.mover = o) → d f = some x → x ≠ o → ∀ m ∈ ms, m.fd ≠ f := by
  induction ms with
  | nil => exact fun _ _ _ _ m hm => by cases hm
  | cons m ms ih =>
    intro d h hmover hd hx
    have hfirst : m.fd ≠ f := by
      have hallows := h.1
      have hm := hmover m List.mem_cons_self
      rintro rfl
      cases m with
      | acquire owner fd =>
        cases hallows.symm.trans hd
      | transfer owner heir fd =>
        exact hx ((Option.some.inj (hd.symm.trans hallows)).trans hm)
      | close owner fd => exact hx ((Option.some.inj (hd.symm.trans hallows)).trans hm)
    have hlater : d.apply m f = some x := by
      cases m <;> exact (Function.update_of_ne (Ne.symm hfirst) _ _).trans hd
    intro m' hm'
    rcases List.mem_cons.mp hm' with rfl | hm'
    · exact hfirst
    · exact ih h.2 (fun m'' hm'' => hmover m'' (List.mem_cons_of_mem _ hm'')) hlater hx m' hm'

theorem clean_acquires {ms : List (Move Owner)} : ∀ {d : Table Owner}, d.Fresh ms →
    (∀ m ∈ ms, ∃ o f, m = .acquire o f) → d.Clean ms := by
  induction ms with
  | nil => exact fun _ _ => trivial
  | cons m ms ih =>
    intro d h hms
    obtain ⟨o, f, rfl⟩ := hms m List.mem_cons_self
    exact ⟨h.1, ih h.2 fun m hm => hms m (List.mem_cons_of_mem _ hm)⟩

/-- Owners that each close one descriptor of their own do so cleanly. -/
theorem clean_closes {closes : List (Move Owner)} : ∀ {d : Table Owner},
    (∀ m ∈ closes, ∃ o f, m = .close o f ∧ d f = some o) → closes.Nodup → d.Clean closes := by
  induction closes with
  | nil => exact fun _ _ => trivial
  | cons m closes ih =>
    intro d h hnodup
    obtain ⟨o, f, rfl, hd⟩ := h m List.mem_cons_self
    obtain ⟨hnew, hrest⟩ := List.nodup_cons.mp hnodup
    refine ⟨hd, ih (fun m hm => ?_) hrest⟩
    obtain ⟨o', f', rfl, hd'⟩ := h m (List.mem_cons_of_mem _ hm)
    refine ⟨o', f', rfl, ?_⟩
    have hne : f' ≠ f := by
      rintro rfl
      rw [hd, Option.some.injEq] at hd'
      exact hnew (hd' ▸ hm)
    exact (Function.update_of_ne hne _ _).trans hd'

/-- `Fresh`, tested along the moves. -/
def checkFresh : Table Owner → List (Move Owner) → Bool
  | _, [] => true
  | d, .acquire owner fd :: moves => (d fd).isNone && checkFresh (d.apply (.acquire owner fd)) moves
  | d, m :: moves => checkFresh (d.apply m) moves

theorem fresh_of_check {ms : List (Move Owner)} : ∀ {d : Table Owner},
    checkFresh d ms = true → d.Fresh ms := by
  induction ms with
  | nil => exact fun _ => trivial
  | cons m ms ih =>
    intro d h
    cases m with
    | acquire owner fd =>
      rw [checkFresh, Bool.and_eq_true, Option.isNone_iff_eq_none] at h
      exact ⟨h.1, ih h.2⟩
    | transfer owner heir fd => exact ⟨trivial, ih h⟩
    | close owner fd => exact ⟨trivial, ih h⟩

/-- Clean closes are closes of what was open before any of them. -/
theorem closes_owned {closes : List (Move Owner)} : ∀ {d : Table Owner}, d.Clean closes →
    (∀ m ∈ closes, ∃ o f, m = .close o f) → ∀ {o f}, .close o f ∈ closes → d f = some o := by
  induction closes with
  | nil => exact fun _ _ _ _ hm => absurd hm List.not_mem_nil
  | cons m closes ih =>
    intro d h hcloses o f hm
    rcases List.mem_cons.mp hm with rfl | hin
    · exact h.1
    · obtain ⟨o', f', rfl⟩ := hcloses m List.mem_cons_self
      have hlater := ih h.2 (fun m hm => hcloses m (List.mem_cons_of_mem _ hm)) hin
      change Function.update d f' none f = some o at hlater
      by_cases heq : f = f'
      · subst heq
        rw [Function.update_self] at hlater
        cases hlater
      · rwa [Function.update_of_ne heq] at hlater

/-! ## What the objects should hold -/

/-- The owners in question hold what the relation says, and no more. -/
def Matches (d : Table Owner) (who : Owner → Prop) (held : Owner → Nat → Prop) : Prop :=
  ∀ o f, who o → (d f = some o ↔ held o f)

section Matches

variable {d : Table Owner} {who : Owner → Prop} {held held' : Owner → Nat → Prop}

theorem Matches.same (h : d.Matches who held) (hsame : ∀ o f, who o → (held' o f ↔ held o f)) :
    d.Matches who held' := fun o f ho => (h o f ho).trans (hsame o f ho).symm

theorem Matches.acquire (h : d.Matches who held) {o : Owner} {f : Nat} (hfree : d f = none)
    (hnew : ∀ o' f', who o' → (held' o' f' ↔ held o' f' ∨ (o' = o ∧ f' = f))) :
    Matches (Function.update d f (some o)) who held' := by
  intro o' f' ho'
  rw [hnew o' f' ho']
  by_cases hf : f' = f
  · subst hf
    have hnone : ¬ held o' f' := by
      rw [← h o' f' ho', hfree]
      exact fun heq => by cases heq
    rw [Function.update_self]
    constructor
    · intro heq
      exact Or.inr ⟨(Option.some.inj heq).symm, rfl⟩
    · rintro (hheld | ⟨rfl, -⟩)
      · exact absurd hheld hnone
      · rfl
  · rw [Function.update_of_ne hf, h o' f' ho']
    exact ⟨Or.inl, fun hor => hor.resolve_right fun hand => hf hand.2⟩

/-- A descriptor opened by somebody else. -/
theorem Matches.foreign (h : d.Matches who held) {o : Owner} {f : Nat} (hfree : d f = none)
    (ho : ¬ who o) : Matches (Function.update d f (some o)) who held :=
  h.acquire hfree fun _ _ ho' => ⟨Or.inl, fun hor => hor.resolve_right fun hand => ho (hand.1 ▸ ho')⟩

/-- Some owners are gone, and all they had is closed. -/
theorem Matches.release (h : d.Matches who held) {d' : Table Owner} (gone : Owner → Prop)
    (hclosed : ∀ f o, gone o → d f = some o → d' f = none)
    (hkept : ∀ f, (∀ o, gone o → d f ≠ some o) → d' f = d f)
    (hleft : ∀ o f, who o → (held' o f ↔ held o f ∧ ¬ gone o)) : d'.Matches who held' := by
  intro o f ho
  rw [hleft o f ho, ← h o f ho]
  by_cases hgone : ∃ o', gone o' ∧ d f = some o'
  · obtain ⟨o', ho', hd⟩ := hgone
    rw [hclosed f o' ho' hd, hd]
    constructor
    · intro heq
      cases heq
    · rintro ⟨heq, hnot⟩
      exact absurd (Option.some.inj heq ▸ ho') hnot
  · rw [hkept f fun o' ho' hd => hgone ⟨o', ho', hd⟩]
    exact ⟨fun hd => ⟨hd, fun ho' => hgone ⟨o, ho', hd⟩⟩, And.left⟩

/-- What somebody else opens changes nothing. -/
theorem Matches.after_foreign {ms : List (Move Owner)} : ∀ {d : Table Owner},
    d.Matches who held → d.Fresh ms → (∀ m ∈ ms, ∃ o f, m = .acquire o f ∧ ¬ who o) →
      (d.after ms).Matches who held := by
  induction ms with
  | nil => exact fun h _ _ => h
  | cons m ms ih =>
    intro d h hfresh hms
    obtain ⟨o, f, rfl, ho⟩ := hms m List.mem_cons_self
    exact ih (h.foreign hfresh.1 ho) hfresh.2 fun m hm => hms m (List.mem_cons_of_mem _ hm)

end Matches

theorem after_closes {closes : List (Move Owner)} : ∀ {d : Table Owner},
    (∀ m ∈ closes, ∃ o f, m = .close o f) → ∀ f,
      d.after closes f = if f ∈ closes.map Move.fd then none else d f := by
  induction closes with
  | nil => exact fun _ _ => rfl
  | cons m closes ih =>
    intro d h f
    obtain ⟨o, g, rfl⟩ := h m List.mem_cons_self
    change (d.apply (.close o g)).after closes f = _
    rw [ih (fun m hm => h m (List.mem_cons_of_mem _ hm)), apply]
    by_cases hf : f = g
    · subst hf
      simp [Move.fd]
    · simp [Move.fd, hf]

/-! ## Opened as often as closed -/

/-- The acquisitions of a descriptor for objects of one kind. -/
def acquired {Kind : Type v} [DecidableEq Kind] (kind : Owner → Kind) (k : Kind) (fd : Nat)
    (moves : List (Move Owner)) : Nat :=
  moves.countP fun
    | .acquire owner f => decide (kind owner = k ∧ f = fd)
    | _ => false

/-- The closes of a descriptor by objects of one kind. -/
def closed {Kind : Type v} [DecidableEq Kind] (kind : Owner → Kind) (k : Kind) (fd : Nat)
    (moves : List (Move Owner)) : Nat :=
  moves.countP fun
    | .close owner f => decide (kind owner = k ∧ f = fd)
    | _ => false

/-- The descriptor belongs to an object of the kind. -/
def holds {Kind : Type v} [DecidableEq Kind] (kind : Owner → Kind) (k : Kind) (fd : Nat)
    (d : Table Owner) : Nat :=
  if (d fd).map kind = some k then 1 else 0

/-- Descriptors are handed on within a kind. -/
def Within {Kind : Type v} (kind : Owner → Kind) : Move Owner → Prop
  | .transfer owner heir _ => kind owner = kind heir
  | _ => True

variable {Kind : Type v} [DecidableEq Kind] {kind : Owner → Kind}

theorem apply_balance {d : Table Owner} {m : Move Owner} (h : d.Allows m)
    (hwithin : Within kind m) (k : Kind) (fd : Nat) :
    acquired kind k fd [m] + holds kind k fd d = closed kind k fd [m] + holds kind k fd (d.apply m) := by
  cases m with
  | acquire owner f =>
    have hclosed : d f = none := h
    by_cases hf : fd = f
    · subst hf
      by_cases hk : kind owner = k <;> simp [acquired, closed, holds, apply, hclosed, hk]
    · simp [acquired, closed, holds, apply, Function.update_of_ne hf, Ne.symm hf]
  | transfer owner heir f =>
    have howned : d f = some owner := h
    have hkind : kind owner = kind heir := hwithin
    by_cases hf : fd = f
    · subst hf
      simp [acquired, closed, holds, apply, howned, hkind]
    · simp [acquired, closed, holds, apply, Function.update_of_ne hf]
  | close owner f =>
    have howned : d f = some owner := h
    by_cases hf : fd = f
    · subst hf
      by_cases hk : kind owner = k <;> simp [acquired, closed, holds, apply, howned, hk]
    · simp [acquired, closed, holds, apply, Function.update_of_ne hf, Ne.symm hf]

/-- **The balance of a clean list of moves**: objects of a kind have closed a
descriptor as often as it was acquired for them, but for one that is still open. -/
theorem clean_balance {moves : List (Move Owner)} : ∀ {d : Table Owner}, d.Clean moves →
    (∀ m ∈ moves, Within kind m) → ∀ (k : Kind) (fd : Nat),
    acquired kind k fd moves + holds kind k fd d =
      closed kind k fd moves + holds kind k fd (d.after moves) := by
  induction moves with
  | nil => exact fun _ _ _ _ => rfl
  | cons m moves ih =>
    intro d h hwithin k fd
    have hfirst := apply_balance (k := k) h.1 (hwithin m List.mem_cons_self) fd
    have hrest := ih h.2 (fun m' hm' => hwithin m' (List.mem_cons_of_mem _ hm')) k fd
    have hacquired : acquired kind k fd ([m] ++ moves) =
        acquired kind k fd [m] + acquired kind k fd moves := List.countP_append
    have hclosed : closed kind k fd ([m] ++ moves) =
        closed kind k fd [m] + closed kind k fd moves := List.countP_append
    rw [List.singleton_append] at hacquired hclosed
    rw [hacquired, hclosed]
    change _ = _ + holds kind k fd ((d.apply m).after moves)
    omega

end Table
end MyRtspServer.Library.Descriptors
