import Mathlib.Data.List.Perm.Basic

/-!
# A pool of slots between a producer and a consumer

Free slots are filled in order and published at the back of a queue; the
consumer takes the front one, holds it, and gives it back. A move is one such
step, together with what it published and what it took.
-/
namespace MyRtspServer.Library

universe u v

structure Pool (Slot : Type u) (Content : Type v) where
  free : List Slot
  ready : List (Slot × Content)
  held : Option (Slot × Content)

namespace Pool

variable {Slot : Type u} {Content : Type v}

/-- Where the slots are: free, published, or with the consumer. -/
def slots (p : Pool Slot Content) : List Slot :=
  p.free ++ p.ready.map Prod.fst ++ (p.held.map Prod.fst).toList

/-- `Move p q published taken`. -/
inductive Move : Pool Slot Content → Pool Slot Content →
    List (Slot × Content) → List (Slot × Content) → Prop
  | stay (p) : Move p p [] []
  | publish (slot free ready held content) :
      Move ⟨slot :: free, ready, held⟩ ⟨free, ready ++ [(slot, content)], held⟩
        [(slot, content)] []
  | take (free x ready) : Move ⟨free, x :: ready, none⟩ ⟨free, ready, some x⟩ [] [x]
  | give (free ready x) : Move ⟨free, ready, some x⟩ ⟨free ++ [x.1], ready, none⟩ [] []

/-- Moves one after the other, with everything published and taken on the way. -/
inductive Moves : Pool Slot Content → Pool Slot Content →
    List (Slot × Content) → List (Slot × Content) → Prop
  | refl (p) : Moves p p [] []
  | step {p q r published taken published' taken'} : Move p q published taken →
      Moves q r published' taken' → Moves p r (published ++ published') (taken ++ taken')

variable {p q : Pool Slot Content} {published taken : List (Slot × Content)}

/-- No move makes a slot, loses one or puts it in two places. -/
theorem Move.slots_perm (h : Move p q published taken) : q.slots.Perm p.slots := by
  cases h with
  | stay => exact List.Perm.refl _
  | publish slot free ready held content =>
    simp only [slots, List.map_append, List.map_cons, List.map_nil, List.append_assoc,
      List.cons_append, List.nil_append]
    rw [← List.append_assoc]
    exact (List.perm_middle).trans (by simp)
  | take free x ready =>
    simp only [slots, List.map_cons, Option.map_some, Option.toList_some, Option.map_none,
      Option.toList_none, List.append_nil, List.append_assoc]
    exact (List.perm_append_singleton x.1 (ready.map Prod.fst)).append_left free
  | give free ready x =>
    simp only [slots, Option.map_some, Option.toList_some, Option.map_none, Option.toList_none,
      List.append_nil, List.append_assoc]
    have hcomm : ([x.1] ++ ready.map Prod.fst).Perm (ready.map Prod.fst ++ [x.1]) :=
      List.perm_append_comm
    exact hcomm.append_left free

/-- What was ready and what is published come out in order. -/
theorem Move.fifo (h : Move p q published taken) : p.ready ++ published = taken ++ q.ready := by
  cases h with
  | stay => exact List.append_nil _
  | publish => rfl
  | take => exact List.append_nil _
  | give => exact List.append_nil _

theorem Moves.slots_perm (h : Moves p q published taken) : q.slots.Perm p.slots := by
  induction h with
  | refl => exact List.Perm.refl _
  | step hmove _ ih => exact ih.trans hmove.slots_perm

theorem Moves.fifo (h : Moves p q published taken) : p.ready ++ published = taken ++ q.ready := by
  induction h with
  | refl => exact List.append_nil _
  | step hmove _ ih => rw [← List.append_assoc, hmove.fifo, List.append_assoc, ih, List.append_assoc]

end Pool
end MyRtspServer.Library
