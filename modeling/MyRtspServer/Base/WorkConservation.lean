import MyRtspServer.Base.ThreadPool

/-!
# Every task is handed to one worker, in order

The tasks that were added are those that were dequeued and those that wait, in
this order, and each worker has handled what it dequeued but for the task it
runs. While the pool is not being cancelled, tasks that wait have a worker that
is not blocked: a worker blocks only on an empty queue, and a task that is added
while all are blocked wakes one of them.
-/
namespace MyRtspServer.Base

open Library.Transition

universe u

variable {Task : Type u} {num : Nat}

def addedOf (events : List (PoolEvent Task num)) : List Task :=
  events.filterMap fun
    | .added task => some task
    | _ => none

def dequeuedOf (events : List (PoolEvent Task num)) : List Task :=
  events.filterMap fun
    | .dequeued _ task => some task
    | _ => none

def dequeuedBy (i : Fin num) (events : List (PoolEvent Task num)) : List Task :=
  events.filterMap fun
    | .dequeued j task => if j = i then some task else none
    | _ => none

def handledBy (i : Fin num) (events : List (PoolEvent Task num)) : List Task :=
  events.filterMap fun
    | .handled j task => if j = i then some task else none
    | _ => none

@[simp] theorem addedOf_append (l m : List (PoolEvent Task num)) :
    addedOf (l ++ m) = addedOf l ++ addedOf m := List.filterMap_append

@[simp] theorem dequeuedOf_append (l m : List (PoolEvent Task num)) :
    dequeuedOf (l ++ m) = dequeuedOf l ++ dequeuedOf m := List.filterMap_append

@[simp] theorem dequeuedBy_append (i : Fin num) (l m : List (PoolEvent Task num)) :
    dequeuedBy i (l ++ m) = dequeuedBy i l ++ dequeuedBy i m := List.filterMap_append

@[simp] theorem handledBy_append (i : Fin num) (l m : List (PoolEvent Task num)) :
    handledBy i (l ++ m) = handledBy i l ++ handledBy i m := List.filterMap_append

namespace ThreadPool

/-- A worker that is going to look at the queue. -/
def Alert (p : ThreadPool Task num) : Prop :=
  ∃ i, p.workers i ≠ .waiting ∧ p.workers i ≠ .returned

structure Conserved (p : ThreadPool Task num) (events : List (PoolEvent Task num)) : Prop where
  fifo : addedOf events = dequeuedOf events ++ p.taskQue
  handed : ∀ i, dequeuedBy i events = handledBy i events ++ (p.workers i).task.toList
  alert : p.quit = false → p.taskQue ≠ [] → p.Alert
  staying : p.quit = false → ∀ i, p.workers i ≠ .returned

theorem conserved_create : Conserved (create Task num) [] := by
  refine ⟨rfl, fun i => rfl, fun _ hne => absurd rfl hne, fun _ i h => ?_⟩
  cases h

variable {p p' : ThreadPool Task num} {log : List (PoolEvent Task num)}

/-- Waking a worker does not touch what the workers run. -/
theorem notifyOne_task (workers : Fin num → Worker Task) (preference : List (Fin num))
    (i : Fin num) : (notifyOne workers preference i).task = (workers i).task := by
  rcases notifyOne_cases workers preference with ⟨j, hj, heq⟩ | ⟨-, heq⟩
  · rw [heq]
    by_cases hi : i = j
    · subst hi
      rw [Function.update_self, hj]
      rfl
    · rw [Function.update_of_ne hi]
  · rw [heq]

/-- A task that is added finds or makes a worker that is not blocked. -/
theorem notifyOne_alert (hnum : 0 < num) {workers : Fin num → Worker Task}
    (preference : List (Fin num)) (hstaying : ∀ i, workers i ≠ .returned) :
    (∃ i, notifyOne workers preference i ≠ .waiting ∧ notifyOne workers preference i ≠ .returned) ∧
      ∀ i, notifyOne workers preference i ≠ .returned := by
  rcases notifyOne_cases workers preference with ⟨j, hj, heq⟩ | ⟨hnone, heq⟩
  · rw [heq]
    refine ⟨⟨j, ?_, ?_⟩, fun i => ?_⟩
    · rw [Function.update_self]
      exact fun h => by cases h
    · rw [Function.update_self]
      exact fun h => by cases h
    · by_cases hi : i = j
      · subst hi
        rw [Function.update_self]
        exact fun h => by cases h
      · rw [Function.update_of_ne hi]
        exact hstaying i
  · rw [heq]
    exact ⟨⟨⟨0, hnum⟩, hnone _, hstaying _⟩, hstaying⟩

namespace Conserved

/-- One worker goes on, and the events are its own. -/
theorem turned (h : Conserved p log) {i : Fin num} {w : Worker Task}
    {events : List (PoolEvent Task num)} (hworkers : p'.workers = Function.update p.workers i w)
    (hquit : p'.quit = p.quit)
    (hfifo : addedOf (log ++ events) = dequeuedOf (log ++ events) ++ p'.taskQue)
    (hself : dequeuedBy i (log ++ events) = handledBy i (log ++ events) ++ w.task.toList)
    (hother : ∀ j, j ≠ i → dequeuedBy j events = [] ∧ handledBy j events = [])
    (hblock : p.quit = false → p'.taskQue ≠ [] → w ≠ .waiting)
    (hstays : p.quit = false → w ≠ .returned) : Conserved p' (log ++ events) := by
  refine ⟨hfifo, fun j => ?_, fun hno hne => ⟨i, ?_, ?_⟩, fun hno j => ?_⟩
  · rw [hworkers]
    by_cases hj : j = i
    · subst hj
      rw [Function.update_self]
      exact hself
    · obtain ⟨hdequeued, hhandled⟩ := hother j hj
      rw [dequeuedBy_append, handledBy_append, hdequeued, hhandled, List.append_nil,
        List.append_nil, Function.update_of_ne hj]
      exact h.handed j
  · rw [hworkers, Function.update_self]
    exact hblock (hquit ▸ hno) hne
  · rw [hworkers, Function.update_self]
    exact hstays (hquit ▸ hno)
  · rw [hworkers]
    by_cases hj : j = i
    · subst hj
      rw [Function.update_self]
      exact hstays (hquit ▸ hno)
    · rw [Function.update_of_ne hj]
      exact h.staying (hquit ▸ hno) j

/-- One worker goes on, without taking or finishing a task. -/
theorem moved (h : Conserved p log) {i : Fin num} {w : Worker Task}
    (htask : w.task = (p.workers i).task)
    (hblock : p.quit = false → p.taskQue ≠ [] → w ≠ .waiting)
    (hstays : p.quit = false → w ≠ .returned) : Conserved (p.setWorker i w) (log ++ []) := by
  refine h.turned rfl rfl ?_ ?_ (fun _ _ => ⟨rfl, rfl⟩) hblock hstays
  · rw [List.append_nil]
    exact h.fifo
  · rw [List.append_nil, htask]
    exact h.handed i

/-- The pool is being cancelled, and the workers keep their tasks. -/
theorem cancelled (h : Conserved p log) (hque : p'.taskQue = p.taskQue)
    (htask : ∀ i, (p'.workers i).task = (p.workers i).task) (hquit : p'.quit = true) :
    Conserved p' (log ++ []) := by
  rw [List.append_nil]
  refine ⟨hque ▸ h.fifo, fun i => ?_, fun hno => ?_, fun hno => ?_⟩
  · rw [htask]
    exact h.handed i
  · rw [hquit] at hno
    cases hno
  · rw [hquit] at hno
    cases hno

end Conserved

/-- The flag says where `CancelThreads` is. -/
def Flagged (p : ThreadPool Task num) : Prop := p.canceller ≠ .idle → p.quit = true

theorem step_flagged {a : PoolAct Task num} {events : List (PoolEvent Task num)} (h : Flagged p)
    (hstep : p.step a = .ok (p', events)) : Flagged p' := by
  cases step_outcome hstep with
  | quit => exact fun _ => rfl
  | notified set =>
    intro _
    exact h fun hidle => by rw [set] at hidle; cases hidle
  | joined _ next canceller joining =>
    intro _
    exact h fun hidle => by rw [joining] at hidle; cases hidle
  | _ => exact h

/-- **Each step keeps the account.** -/
theorem step_conserved (hnum : 0 < num) {a : PoolAct Task num}
    {events : List (PoolEvent Task num)} (hflag : Flagged p) (h : Conserved p log)
    (hstep : p.step a = .ok (p', events)) : Conserved p' (log ++ events) := by
  cases step_outcome hstep with
  | ignored =>
    rw [List.append_nil]
    exact h
  | added task preference =>
    refine ⟨?_, fun i => ?_, fun hquit _ => ?_, fun hquit => ?_⟩
    · rw [addedOf_append, dequeuedOf_append, h.fifo]
      simp [addedOf, dequeuedOf]
    · rw [dequeuedBy_append, handledBy_append, h.handed i]
      change _ = _ ++ (notifyOne p.workers preference i).task.toList
      rw [notifyOne_task]
      simp [dequeuedBy, handledBy]
    · exact (notifyOne_alert hnum preference (h.staying hquit)).1
    · exact (notifyOne_alert hnum preference (h.staying hquit)).2
  | entering _ i here going =>
    exact h.moved (by rw [here]; rfl) (fun _ _ hw => by cases hw) fun _ hw => by cases hw
  | waiting _ i here empty =>
    exact h.moved (by rw [here]; rfl) (fun _ hne => absurd empty hne) fun _ hw => by cases hw
  | woken _ i here =>
    exact h.moved (by rw [here]; rfl) (fun _ _ hw => by cases hw) fun _ hw => by cases hw
  | tested _ i here going empty =>
    exact h.moved (by rw [here]; rfl) (fun _ _ hw => by cases hw) fun _ hw => by cases hw
  | dequeued _ i task rest here going front =>
    have hidle : (p.workers i).task = none := by
      rcases here with here | here <;> rw [here] <;> rfl
    refine h.turned rfl rfl ?_ ?_ (fun j hj => ?_) (fun _ _ hw => by cases hw)
      (fun _ hw => by cases hw)
    · rw [addedOf_append, dequeuedOf_append, h.fifo, front]
      simp [addedOf, dequeuedOf]
    · rw [dequeuedBy_append, handledBy_append, h.handed i, hidle]
      simp [dequeuedBy, handledBy, Worker.task]
    · simp [dequeuedBy, handledBy, Ne.symm hj]
  | returned _ i here quit =>
    refine h.cancelled rfl (fun j => ?_) quit
    rw [setWorker_workers]
    by_cases hj : j = i
    · subst hj
      rw [Function.update_self]
      rcases here with here | ⟨here, -⟩ | here <;> rw [here] <;> rfl
    · rw [Function.update_of_ne hj]
  | handled _ i task here =>
    refine h.turned rfl rfl ?_ ?_ (fun j hj => ?_) (fun _ _ hw => by cases hw)
      (fun _ hw => by cases hw)
    · rw [addedOf_append, dequeuedOf_append, h.fifo]
      simp [addedOf, dequeuedOf]
    · rw [dequeuedBy_append, handledBy_append, h.handed i, here]
      simp [dequeuedBy, handledBy, Worker.task]
    · simp [dequeuedBy, handledBy, Ne.symm hj]
  | quit => exact h.cancelled rfl (fun _ => rfl) rfl
  | notified set =>
    have hquit := hflag fun hidle => by rw [set] at hidle; cases hidle
    refine h.cancelled rfl (fun i => ?_) hquit
    cases hw : p.workers i <;> simp [Worker.notified, Worker.task, hw]
  | joined _ next canceller joining =>
    have hquit := hflag fun hidle => by rw [joining] at hidle; cases hidle
    exact h.cancelled rfl (fun _ => rfl) hquit

theorem run_conserved (hnum : 0 < num) {acts : List (PoolAct Task num)} {p : ThreadPool Task num}
    {events : List (PoolEvent Task num)}
    (hrun : run step (create Task num) acts = .ok (p, events)) : Conserved p events := by
  have hlogged : Flagged p ∧ Conserved p ([] ++ events) := run_logged
    (fun (p : ThreadPool Task num) log => Flagged p ∧ Conserved p log)
    (fun p a p' log out h _ hstep => ⟨step_flagged h.1 hstep, step_conserved hnum h.1 h.2 hstep⟩)
    ⟨fun hno => absurd rfl hno, conserved_create⟩ meets_true hrun
  exact hlogged.2

/-- **Work conservation.** In every run of a pool with a worker, the tasks added
are the tasks dequeued, in order, and then those in the queue; what a worker has
dequeued it has handled or runs; and while the pool is not being cancelled a task
that waits has a worker that is neither blocked nor gone. -/
theorem work_conserved (hnum : 0 < num) (acts : List (PoolAct Task num)) (p : ThreadPool Task num)
    (events : List (PoolEvent Task num))
    (hrun : run step (create Task num) acts = .ok (p, events)) :
    addedOf events = dequeuedOf events ++ p.taskQue ∧
      (∀ i, dequeuedBy i events = handledBy i events ++ (p.workers i).task.toList) ∧
      (p.quit = false → p.taskQue ≠ [] → p.Alert) := by
  have h := run_conserved hnum hrun
  exact ⟨h.fifo, h.handed, h.alert⟩

/-- Two tasks for a pool of two workers, one of which blocked before they came. -/
def sampleWork : List (PoolAct Nat 2) :=
  [.test 0, .enter 0, .addTask 5 [], .test 1, .enter 1, .addTask 6 [], .finish 1]

theorem work_conserved_sample :
    ∃ p events, run step (create Nat 2) sampleWork = .ok (p, events) ∧
      addedOf events = dequeuedOf events ++ p.taskQue ∧ p.taskQue = [6] ∧ p.Alert := by
  obtain ⟨p, events, hrun, hcheck⟩ := checkRun_true
    (show checkRun step (create Nat 2) sampleWork (fun p _ =>
      decide (p.quit = false ∧ p.taskQue = [6])) = true by decide)
  obtain ⟨hquit, hque⟩ := of_decide_eq_true hcheck
  obtain ⟨hfifo, -, halert⟩ := work_conserved (by decide) sampleWork p events hrun
  exact ⟨p, events, hrun, hfifo, hque, halert hquit (by rw [hque]; exact List.cons_ne_nil _ _)⟩

end ThreadPool
end MyRtspServer.Base
