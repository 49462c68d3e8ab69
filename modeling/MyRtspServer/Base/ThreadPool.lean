import Mathlib.Data.List.FinRange
import MyRtspServer.Library.Transition

/-!
# `ThreadPool`

What a worker does between two points at which others can interfere is one step:
reading `m_quit_` at the head of the loop without the lock, the part of the loop
body in front of `m_cond_.wait` and the part behind it under `m_mtx_`, and the
task itself. `wait` blocks and lets go of the lock in one step; a worker leaves it
when it is notified, or for no reason. `CancelThreads` sets `m_quit_` under the
lock, notifies after it, and joins the workers in order. A step that cannot be
taken changes nothing.
-/
namespace MyRtspServer.Base

open Library.Transition

universe u

/-- Where a worker is in `HandleTask`. -/
inductive Worker (Task : Type u) where
  /-- At the head of the loop, in front of the test of `m_quit_`. -/
  | testing
  /-- It has found `m_quit_` false and is going to lock `m_mtx_`. -/
  | entering
  /-- Blocked in `m_cond_.wait`. -/
  | waiting
  /-- Leaving `m_cond_.wait`, which locks `m_mtx_` again. -/
  | woken
  | running (task : Task)
  | returned
  deriving DecidableEq

/-- Where `CancelThreads` is. -/
inductive Canceller where
  | idle
  | quitSet
  /-- `notify_all` is done, and the workers below `next` are joined. -/
  | joining (next : Nat)
  | done
  deriving DecidableEq

structure ThreadPool (Task : Type u) (num : Nat) where
  taskQue : List Task := []
  quit : Bool := false
  workers : Fin num → Worker Task := fun _ => .testing
  canceller : Canceller := .idle

/-- `preference` is the order in which `notify_one` looks for a waiting worker. -/
inductive PoolAct (Task : Type u) (num : Nat) where
  | addTask (task : Task) (preference : List (Fin num))
  | test (i : Fin num)
  | enter (i : Fin num)
  | wakeSpuriously (i : Fin num)
  | resume (i : Fin num)
  | finish (i : Fin num)
  | setQuit
  | notifyAll
  | join

inductive PoolEvent (Task : Type u) (num : Nat) where
  | added (task : Task)
  | dequeued (i : Fin num) (task : Task)
  | handled (i : Fin num) (task : Task)
  deriving DecidableEq

variable {Task : Type u} {num : Nat}

namespace Worker

def isWaiting : Worker Task → Bool
  | .waiting => true
  | _ => false

theorem isWaiting_iff {w : Worker Task} : w.isWaiting = true ↔ w = .waiting := by
  cases w <;> simp [isWaiting]

/-- What a notification makes of a worker. -/
def notified : Worker Task → Worker Task
  | .waiting => .woken
  | w => w

theorem notified_ne_waiting (w : Worker Task) : w.notified ≠ .waiting := by
  cases w <;> simp [notified]

/-- The task the worker runs. -/
def task : Worker Task → Option Task
  | .running task => some task
  | _ => none

theorem task_eq_some {w : Worker Task} {task : Task} :
    w.task = some task ↔ w = .running task := by
  cases w <;> simp [Worker.task]

end Worker

/-- `notify_one`: one waiting worker, if there is any. -/
def notifyOne (workers : Fin num → Worker Task) (preference : List (Fin num)) :
    Fin num → Worker Task :=
  match (preference ++ List.finRange num).find? fun i => (workers i).isWaiting with
  | some i => Function.update workers i .woken
  | none => workers

namespace ThreadPool

def create (Task : Type u) (num : Nat) : ThreadPool Task num := {}

def setWorker (p : ThreadPool Task num) (i : Fin num) (w : Worker Task) : ThreadPool Task num :=
  { p with workers := Function.update p.workers i w }

/-- The loop body behind the wait, up to the end of the lock. -/
def takeTask (p : ThreadPool Task num) (i : Fin num) :
    ThreadPool Task num × List (PoolEvent Task num) :=
  if p.quit then (p.setWorker i .returned, [])
  else
    match p.taskQue with
    | [] => (p.setWorker i .testing, [])
    | task :: rest =>
      ({ p with taskQue := rest }.setWorker i (.running task), [.dequeued i task])

def act (p : ThreadPool Task num) :
    PoolAct Task num → ThreadPool Task num × List (PoolEvent Task num)
  | .addTask task preference =>
    ({ p with
      taskQue := p.taskQue ++ [task]
      workers := notifyOne p.workers preference }, [.added task])
  | .test i =>
    match p.workers i with
    | .testing => (p.setWorker i (if p.quit then .returned else .entering), [])
    | _ => (p, [])
  | .enter i =>
    match p.workers i with
    | .entering => if p.taskQue.isEmpty then (p.setWorker i .waiting, []) else p.takeTask i
    | _ => (p, [])
  | .wakeSpuriously i =>
    match p.workers i with
    | .waiting => (p.setWorker i .woken, [])
    | _ => (p, [])
  | .resume i =>
    match p.workers i with
    | .woken => p.takeTask i
    | _ => (p, [])
  | .finish i =>
    match p.workers i with
    | .running task => (p.setWorker i .testing, [.handled i task])
    | _ => (p, [])
  | .setQuit =>
    match p.canceller with
    | .idle => ({ p with quit := true, canceller := .quitSet }, [])
    | _ => (p, [])
  | .notifyAll =>
    match p.canceller with
    | .quitSet =>
      ({ p with workers := fun i => (p.workers i).notified, canceller := .joining 0 }, [])
    | _ => (p, [])
  | .join =>
    match p.canceller with
    | .joining next =>
      if h : next < num then
        match p.workers ⟨next, h⟩ with
        | .returned => ({ p with canceller := .joining (next + 1) }, [])
        | _ => (p, [])
      else ({ p with canceller := .done }, [])
    | _ => (p, [])

/-- No step is a fault. -/
def step (p : ThreadPool Task num) (a : PoolAct Task num) :
    Except Empty (ThreadPool Task num × List (PoolEvent Task num)) := .ok (p.act a)

/-! ## What the steps do -/

@[simp] theorem setWorker_taskQue (p : ThreadPool Task num) (i : Fin num) (w : Worker Task) :
    (p.setWorker i w).taskQue = p.taskQue := rfl

@[simp] theorem setWorker_quit (p : ThreadPool Task num) (i : Fin num) (w : Worker Task) :
    (p.setWorker i w).quit = p.quit := rfl

@[simp] theorem setWorker_canceller (p : ThreadPool Task num) (i : Fin num) (w : Worker Task) :
    (p.setWorker i w).canceller = p.canceller := rfl

@[simp] theorem setWorker_workers (p : ThreadPool Task num) (i : Fin num) (w : Worker Task) :
    (p.setWorker i w).workers = Function.update p.workers i w := rfl

/-- What each action does to the pool, and what it shows. -/
inductive Outcome (p : ThreadPool Task num) : PoolAct Task num →
    ThreadPool Task num → List (PoolEvent Task num) → Prop
  | ignored (a) : Outcome p a p []
  | added (task preference) :
      Outcome p (.addTask task preference) { p with
        taskQue := p.taskQue ++ [task]
        workers := notifyOne p.workers preference } [.added task]
  | entering (a i) (here : p.workers i = .testing) (going : p.quit = false) :
      Outcome p a (p.setWorker i .entering) []
  | waiting (a i) (here : p.workers i = .entering) (empty : p.taskQue = []) :
      Outcome p a (p.setWorker i .waiting) []
  | woken (a i) (here : p.workers i = .waiting) : Outcome p a (p.setWorker i .woken) []
  | tested (a i) (here : p.workers i = .woken) (going : p.quit = false) (empty : p.taskQue = []) :
      Outcome p a (p.setWorker i .testing) []
  | dequeued (a i task rest) (here : p.workers i = .entering ∨ p.workers i = .woken)
      (going : p.quit = false) (front : p.taskQue = task :: rest) :
      Outcome p a ({ p with taskQue := rest }.setWorker i (.running task)) [.dequeued i task]
  | returned (a i) (here : p.workers i = .testing ∨ p.workers i = .entering ∧ p.taskQue ≠ [] ∨
      p.workers i = .woken) (quit : p.quit = true) : Outcome p a (p.setWorker i .returned) []
  | handled (a i task) (here : p.workers i = .running task) :
      Outcome p a (p.setWorker i .testing) [.handled i task]
  | quit (a) (first : p.canceller = .idle) :
      Outcome p a { p with quit := true, canceller := .quitSet } []
  | notified (set : p.canceller = .quitSet) :
      Outcome p .notifyAll
        { p with workers := fun i => (p.workers i).notified, canceller := .joining 0 } []
  | joined (a next canceller) (joining : p.canceller = .joining next)
      (further : canceller = .joining (next + 1) ∨ canceller = .done) :
      Outcome p a { p with canceller := canceller } []

theorem takeTask_outcome {p : ThreadPool Task num} {i : Fin num} (a : PoolAct Task num)
    (here : p.workers i = .entering ∧ p.taskQue ≠ [] ∨ p.workers i = .woken) :
    Outcome p a (p.takeTask i).1 (p.takeTask i).2 := by
  unfold takeTask
  split
  · exact .returned a i (Or.inr here) ‹_›
  · rename_i hquit
    have hgoing : p.quit = false := Bool.eq_false_of_not_eq_true hquit
    split
    · rename_i hempty
      rcases here with ⟨-, hne⟩ | hwoken
      · exact absurd hempty hne
      · exact .tested a i hwoken hgoing hempty
    · rename_i task rest hfront
      exact .dequeued a i task rest (here.imp_left And.left) hgoing hfront

/-- **The inversion of a step.** -/
theorem act_outcome (p : ThreadPool Task num) (a : PoolAct Task num) :
    Outcome p a (p.act a).1 (p.act a).2 := by
  cases a with
  | addTask task preference => exact .added task preference
  | test i =>
    simp only [act]
    split
    · cases hquit : p.quit with
      | true => exact .returned _ i (Or.inl ‹_›) hquit
      | false => exact .entering _ i ‹_› hquit
    · exact .ignored _
  | enter i =>
    simp only [act]
    split
    · split
      · exact .waiting _ i ‹_› (List.isEmpty_iff.mp ‹_›)
      · rename_i hne
        exact takeTask_outcome _ (Or.inl ⟨‹_›, fun hnil => hne (List.isEmpty_iff.mpr hnil)⟩)
    · exact .ignored _
  | wakeSpuriously i =>
    simp only [act]
    split
    · exact .woken _ i ‹_›
    · exact .ignored _
  | resume i =>
    simp only [act]
    split
    · exact takeTask_outcome _ (Or.inr ‹_›)
    · exact .ignored _
  | finish i =>
    simp only [act]
    split
    · exact .handled _ i _ ‹_›
    · exact .ignored _
  | setQuit =>
    simp only [act]
    split
    · exact .quit _ ‹_›
    · exact .ignored _
  | notifyAll =>
    simp only [act]
    split
    · exact .notified ‹_›
    · exact .ignored _
  | join =>
    simp only [act]
    split
    · split
      · split
        · exact .joined _ _ _ ‹_› (Or.inl rfl)
        · exact .ignored _
      · exact .joined _ _ _ ‹_› (Or.inr rfl)
    · exact .ignored _

theorem step_outcome {p p' : ThreadPool Task num} {a : PoolAct Task num}
    {events : List (PoolEvent Task num)} (h : p.step a = .ok (p', events)) :
    Outcome p a p' events := by
  have hact := act_outcome p a
  rw [Except.ok.inj h] at hact
  exact hact

/-! ## The tasks -/

theorem setWorker_task {p : ThreadPool Task num} {i : Fin num} {w : Worker Task}
    (h : w.task = (p.workers i).task) (j : Fin num) :
    ((p.setWorker i w).workers j).task = (p.workers j).task := by
  rw [setWorker_workers]
  by_cases hj : j = i
  · subst hj
    rw [Function.update_self, h]
  · rw [Function.update_of_ne hj]

/-- A worker that looks at the queue takes the task in front, or none. -/
inductive Turned (p : ThreadPool Task num) (i : Fin num) :
    ThreadPool Task num × List (PoolEvent Task num) → Prop
  | idle (p') (que : p'.taskQue = p.taskQue)
      (tasks : ∀ j, (p'.workers j).task = (p.workers j).task) : Turned p i (p', [])
  | taken (task rest) (front : p.taskQue = task :: rest) (free : (p.workers i).task = none) :
      Turned p i ({ p with taskQue := rest }.setWorker i (.running task), [.dequeued i task])

theorem turned_same (p : ThreadPool Task num) (i : Fin num) : Turned p i (p, []) :=
  .idle p rfl fun _ => rfl

theorem turned_setWorker {p : ThreadPool Task num} {i : Fin num} {w : Worker Task}
    (h : w.task = (p.workers i).task) : Turned p i (p.setWorker i w, []) :=
  .idle _ rfl (setWorker_task h)

theorem takeTask_turned {p : ThreadPool Task num} {i : Fin num} (h : (p.workers i).task = none) :
    Turned p i (p.takeTask i) := by
  unfold takeTask
  split
  · exact turned_setWorker h.symm
  · split
    · exact turned_setWorker h.symm
    · rename_i task rest hfront
      exact .taken task rest hfront h

theorem enter_turned (p : ThreadPool Task num) (i : Fin num) : Turned p i (p.act (.enter i)) := by
  simp only [act]
  split
  · rename_i hhere
    have hfree : (p.workers i).task = none := by rw [hhere]; rfl
    split
    · exact turned_setWorker hfree.symm
    · exact takeTask_turned hfree
  · exact turned_same p i

theorem resume_turned (p : ThreadPool Task num) (i : Fin num) : Turned p i (p.act (.resume i)) := by
  simp only [act]
  split
  · rename_i hhere
    exact takeTask_turned (by rw [hhere]; rfl)
  · exact turned_same p i

theorem test_turned (p : ThreadPool Task num) (i : Fin num) : Turned p i (p.act (.test i)) := by
  simp only [act]
  split
  · rename_i hhere
    refine turned_setWorker ?_
    rw [hhere]
    split <;> rfl
  · exact turned_same p i

theorem wakeSpuriously_turned (p : ThreadPool Task num) (i : Fin num) :
    Turned p i (p.act (.wakeSpuriously i)) := by
  simp only [act]
  split
  · rename_i hhere
    exact turned_setWorker (by rw [hhere]; rfl)
  · exact turned_same p i

/-- Only `CancelThreads` sets `m_quit_`. -/
theorem act_quit (p : ThreadPool Task num) {a : PoolAct Task num} (ha : a ≠ .setQuit) :
    (p.act a).1.quit = p.quit := by
  cases a with
  | setQuit => exact absurd rfl ha
  | _ =>
    simp only [act, takeTask]
    repeat' split
    all_goals rfl

end ThreadPool

/-- `notify_one` wakes a worker unless none waits. -/
theorem notifyOne_cases (workers : Fin num → Worker Task) (preference : List (Fin num)) :
    (∃ i, workers i = .waiting ∧ notifyOne workers preference = Function.update workers i .woken) ∨
      ((∀ i, workers i ≠ .waiting) ∧ notifyOne workers preference = workers) := by
  unfold notifyOne
  split
  · rename_i i hfind
    have hwaits : (workers i).isWaiting = true := by simpa using List.find?_some hfind
    exact Or.inl ⟨i, Worker.isWaiting_iff.mp hwaits, rfl⟩
  · rename_i hfind
    refine Or.inr ⟨fun i hi => ?_, rfl⟩
    have hno := List.find?_eq_none.mp hfind i
      (List.mem_append_right _ (List.mem_finRange i))
    exact hno (Worker.isWaiting_iff.mpr hi)

end MyRtspServer.Base
