import Mathlib.Data.List.Basic

/-!
# A loop with a guard

One round of the body gives the next state and what it lets an observer see, or
`none` where the guard is false. The loop itself may never end, so it is given
fuel, and comes to no result when that runs out.
-/
namespace MyRtspServer.Library.Loop

universe u v

variable {State : Type u} {Out : Type v} {body : State → Option (State × List Out)}

def loop (body : State → Option (State × List Out)) : Nat → State → Option (State × List Out)
  | 0, _ => none
  | fuel + 1, s =>
    match body s with
    | none => some (s, [])
    | some (s', out) => (loop body fuel s').map fun r => (r.1, out ++ r.2)

/-- What the first `n` rounds lead to, where there are as many. -/
def rounds (body : State → Option (State × List Out)) : Nat → State → Option (State × List Out)
  | 0, s => some (s, [])
  | n + 1, s =>
    match body s with
    | none => none
    | some (s', out) => (rounds body n s').map fun r => (r.1, out ++ r.2)

theorem loop_stops {s : State} (h : body s = none) (fuel : Nat) :
    loop body (fuel + 1) s = some (s, []) := by
  rw [loop, h]

/-- **A loop diverges** from where its guard holds and each round leads back to
such a state: no fuel is enough. -/
theorem loop_diverges (inv : State → Prop)
    (hround : ∀ s, inv s → ∃ s' out, body s = some (s', out) ∧ inv s') (fuel : Nat) :
    ∀ {s : State}, inv s → loop body fuel s = none := by
  induction fuel with
  | zero => exact fun _ => rfl
  | succ fuel ih =>
    intro s hs
    obtain ⟨s', out, hbody, hinv⟩ := hround s hs
    rw [loop, hbody]
    simp only [ih hinv, Option.map_none]

/-- A round that changes nothing is made over and over. -/
theorem rounds_repeat {s : State} {out : List Out} (h : body s = some (s, out)) (n : Nat) :
    rounds body n s = some (s, (List.replicate n out).flatten) := by
  induction n with
  | zero => rfl
  | succ n ih =>
    rw [rounds, h]
    simp only [ih, Option.map_some, List.replicate_succ, List.flatten_cons]

end MyRtspServer.Library.Loop
