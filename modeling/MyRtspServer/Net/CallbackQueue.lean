import MyRtspServer.Library.Loop

/-!
# The queue of `RunInLocalThread`

`HandleOtherEvent` looks at the front of `m_callback_que_` and calls it, and its
guard asks again whether the queue is empty. Nothing takes the front away.
-/
namespace MyRtspServer.Net.EventScheduler

open Library.Loop

/-- A function and the argument it is to be called with, both by address. -/
structure QueuedCallback where
  cb : Nat
  arg : Nat
  deriving DecidableEq, Repr

/-- `RunInLocalThread`; `std::queue::emplace` appends. -/
def runInLocalThread (que : List QueuedCallback) (callback : QueuedCallback) :
    List QueuedCallback :=
  que ++ [callback]

/-- What the queue holds when these have been registered, the first one first. -/
def queued (callbacks : List QueuedCallback) : List QueuedCallback :=
  callbacks.foldl runInLocalThread []

/-- One round of `HandleOtherEvent`, with a callback that registers nothing: it
would wait for the mutex that the loop is holding. -/
def handleOtherRound : List QueuedCallback → Option (List QueuedCallback × List QueuedCallback)
  | [] => none
  | event :: rest => some (event :: rest, [event])

/-- `HandleOtherEvent`, and the callbacks it calls, in order. -/
def handleOtherEvent (fuel : Nat) (que : List QueuedCallback) :
    Option (List QueuedCallback × List QueuedCallback) :=
  loop handleOtherRound fuel que

/-- `HandleOtherEvent` returns, having called each callback once, in the order
they were registered in, and the queue is empty. -/
def Drains (callbacks : List QueuedCallback) : Prop :=
  ∃ fuel, handleOtherEvent fuel (queued callbacks) = some ([], callbacks)

theorem foldl_runInLocalThread (callbacks : List QueuedCallback) :
    ∀ que, callbacks.foldl runInLocalThread que = que ++ callbacks := by
  induction callbacks with
  | nil => exact fun que => (List.append_nil que).symm
  | cons callback rest ih =>
    intro que
    rw [List.foldl_cons, ih, runInLocalThread, List.append_assoc, List.singleton_append]

theorem queued_eq (callbacks : List QueuedCallback) : queued callbacks = callbacks :=
  foldl_runInLocalThread callbacks []

/-- A queue that is not empty stays as it is, and the loop goes on. -/
theorem handleOtherEvent_diverges {que : List QueuedCallback} (h : que ≠ []) (fuel : Nat) :
    handleOtherEvent fuel que = none := by
  refine loop_diverges (fun q => q ≠ []) (fun q hq => ?_) fuel h
  obtain ⟨event, rest, rfl⟩ := List.exists_cons_of_ne_nil hq
  exact ⟨_, _, rfl, hq⟩

/-- The first callback is called in every round, and no other one is. -/
theorem handleOtherEvent_repeats (event : QueuedCallback) (rest : List QueuedCallback) (n : Nat) :
    rounds handleOtherRound n (event :: rest) = some (event :: rest, List.replicate n event) := by
  rw [rounds_repeat rfl]
  simp

/-- **The queue is drained exactly when nothing has been queued.** -/
theorem drains_iff (callbacks : List QueuedCallback) : Drains callbacks ↔ callbacks = [] := by
  rw [Drains, queued_eq]
  constructor
  · rintro ⟨fuel, hdrained⟩
    by_contra hne
    rw [handleOtherEvent_diverges hne] at hdrained
    cases hdrained
  · rintro rfl
    exact ⟨1, loop_stops rfl 0⟩

/-- One callback is enough. -/
theorem one_callback_blocks : ¬ Drains [⟨1, 0⟩] := by
  rintro ⟨fuel, hdrained⟩
  rw [queued_eq, handleOtherEvent_diverges (List.cons_ne_nil _ _)] at hdrained
  cases hdrained

end MyRtspServer.Net.EventScheduler
