import Mathlib.Data.List.Basic

/-!
# First in, first out

The queue a buffer stands for, over items of any type. Items come in at the
back, may be taken back from there, and come out at the front; a step shows the
items that come out.
-/
namespace MyRtspServer.Library

universe u

namespace Fifo

inductive Op (Item : Type u) where
  | push (items : List Item)
  /-- The last `n` items are taken back. -/
  | unpush (n : Nat)
  | pop (n : Nat)
  | clear

variable {Item : Type u}

def step (queue : List Item) : Op Item → List Item × List Item
  | .push items => (queue ++ items, [])
  | .unpush n => (queue.take (queue.length - n), [])
  | .pop n => (queue.drop n, queue.take n)
  | .clear => ([], queue)

/-- The queue after the operations, and everything that has come out. -/
def run (queue : List Item) : List (Op Item) → List Item × List Item
  | [] => (queue, [])
  | op :: ops =>
    ((run (step queue op).1 ops).1, (step queue op).2 ++ (run (step queue op).1 ops).2)

/-- The items an operation brings. -/
def Op.pushed : Op Item → List Item
  | .push items => items
  | _ => []

/-- Nothing is taken back. -/
def Op.Forward : Op Item → Prop
  | .unpush _ => False
  | _ => True

theorem step_conserves (queue : List Item) {op : Op Item} (h : op.Forward) :
    queue ++ op.pushed = (step queue op).2 ++ (step queue op).1 := by
  cases op with
  | push items => rfl
  | unpush n => cases h
  | pop n => exact (List.append_nil queue).trans (List.take_append_drop n queue).symm
  | clear => rfl

/-- **First in, first out**: what has come out, and then what is still there, is
what was there and what came in, in order. -/
theorem run_conserves {ops : List (Op Item)} : ∀ (queue : List Item), (∀ op ∈ ops, op.Forward) →
    queue ++ ops.flatMap Op.pushed = (run queue ops).2 ++ (run queue ops).1 := by
  induction ops with
  | nil =>
    intro queue _
    rw [List.flatMap_nil, List.append_nil]
    rfl
  | cons op ops ih =>
    intro queue h
    have hop := step_conserves queue (h op List.mem_cons_self)
    have hops := ih (step queue op).1 fun o ho => h o (List.mem_cons_of_mem _ ho)
    rw [List.flatMap_cons, ← List.append_assoc, hop, List.append_assoc, hops, run,
      List.append_assoc]

end Fifo
end MyRtspServer.Library
