import MyRtspServer.Base.ThreadPool

/-!
# Cancelling the pool

`CancelThreads` sets `m_quit_` and then notifies the workers that wait. A worker
that has tested `m_quit_` before that and locks `m_mtx_` after the notification
blocks on an empty queue, and nobody wakes it: `HandleTask` does not test
`m_quit_` again in front of the wait. With no worker at that point, or with a task
in the queue, all workers return and all joins complete.
-/
namespace MyRtspServer.Base

open Library.Transition

universe u

variable {Task : Type u} {num : Nat}

namespace ThreadPool

/-- `CancelThreads` has issued `notify_all`. -/
def Notified (p : ThreadPool Task num) : Prop :=
  (∃ next, p.canceller = .joining next) ∨ p.canceller = .done

/-- No worker is between its test of `m_quit_` and the lock, or it will not have
to wait. -/
def NoneEntering (p : ThreadPool Task num) : Prop :=
  p.taskQue ≠ [] ∨ ∀ i, p.workers i ≠ .entering

/-- `notify_all` is issued while no worker is about to block. -/
def NotifiesAll (p : ThreadPool Task num) : PoolAct Task num → Prop
  | .notifyAll => p.canceller = .quitSet → p.NoneEntering
  | _ => True

/-- What holds from then on. -/
structure ShuttingDown (p : ThreadPool Task num) : Prop where
  flagged : p.canceller ≠ .idle → p.quit = true
  awake : p.Notified → ∀ i, p.workers i ≠ .waiting
  passing : p.Notified → p.NoneEntering

theorem shuttingDown_create : ShuttingDown (create Task num) := by
  have hidle : ¬ (create Task num).Notified := by
    rintro (⟨next, h⟩ | h) <;> cases h
  exact ⟨fun hno => absurd rfl hno, fun h => absurd h hidle, fun h => absurd h hidle⟩

theorem Notified.quit {p : ThreadPool Task num} (h : p.Notified) (hs : p.ShuttingDown) :
    p.quit = true := by
  refine hs.flagged ?_
  rcases h with ⟨next, h⟩ | h <;> rw [h] <;> exact fun hidle => by cases hidle

/-- A worker goes on that neither blocks nor comes in from the test. -/
theorem ShuttingDown.moved {p : ThreadPool Task num} (h : p.ShuttingDown) {i : Fin num}
    {w : Worker Task} (hawake : p.Notified → w ≠ .waiting)
    (hpassing : p.Notified → w = .entering → p.workers i = .entering) :
    (p.setWorker i w).ShuttingDown := by
  refine ⟨h.flagged, fun hn j => ?_, fun hn => ?_⟩
  · rw [setWorker_workers]
    by_cases hj : j = i
    · subst hj
      rw [Function.update_self]
      exact hawake hn
    · rw [Function.update_of_ne hj]
      exact h.awake hn j
  · refine (h.passing hn).imp_right fun hnone j => ?_
    rw [setWorker_workers]
    by_cases hj : j = i
    · subst hj
      rw [Function.update_self]
      exact fun hw => hnone j (hpassing hn hw)
    · rw [Function.update_of_ne hj]
      exact hnone j

/-- **Each admissible step keeps the workers awake.** -/
theorem step_shuttingDown {p p' : ThreadPool Task num} {a : PoolAct Task num}
    {events : List (PoolEvent Task num)} (h : p.ShuttingDown) (hok : NotifiesAll p a)
    (hstep : p.step a = .ok (p', events)) : p'.ShuttingDown := by
  cases step_outcome hstep with
  | ignored => exact h
  | added task preference =>
    refine ⟨h.flagged, fun hn => ?_, fun _ => Or.inl (by simp)⟩
    rcases notifyOne_cases p.workers preference with ⟨i, hi, -⟩ | ⟨hnone, heq⟩
    · exact absurd hi (h.awake hn i)
    · intro i
      change notifyOne p.workers preference i ≠ .waiting
      rw [heq]
      exact hnone i
  | entering _ i here going =>
    have hno : ¬ p.Notified := fun hn => by
      have hquit := hn.quit h
      rw [going] at hquit
      cases hquit
    exact h.moved (fun hn => absurd hn hno) fun hn => absurd hn hno
  | waiting _ i here empty =>
    -- a worker that is entering finds a task, once the workers are notified
    have hno : ¬ p.Notified := fun hn =>
      (h.passing hn).elim (fun hne => hne empty) fun hnone => hnone i here
    exact h.moved (fun hn => absurd hn hno) fun hn => absurd hn hno
  | woken _ i here => exact h.moved (fun _ hw => by cases hw) fun _ hw => by cases hw
  | tested _ i here going empty =>
    exact h.moved (fun _ hw => by cases hw) fun _ hw => by cases hw
  | dequeued _ i task rest here going front =>
    have hno : ¬ p.Notified := fun hn => by
      have hquit := hn.quit h
      rw [going] at hquit
      cases hquit
    exact ⟨h.flagged, fun hn => absurd hn hno, fun hn => absurd hn hno⟩
  | returned _ i here quit => exact h.moved (fun _ hw => by cases hw) fun _ hw => by cases hw
  | handled _ i task here => exact h.moved (fun _ hw => by cases hw) fun _ hw => by cases hw
  | quit _ first =>
    have hno : ¬ Notified { p with quit := true, canceller := .quitSet } := by
      rintro (⟨next, hn⟩ | hn) <;> cases hn
    exact ⟨fun _ => rfl, fun hn => absurd hn hno, fun hn => absurd hn hno⟩
  | notified set =>
    have hflag := h.flagged fun hidle => by rw [set] at hidle; cases hidle
    refine ⟨fun _ => hflag, fun _ i => Worker.notified_ne_waiting _, fun _ => ?_⟩
    refine (hok set).imp_right fun hnone i hi => hnone i ?_
    change (p.workers i).notified = .entering at hi
    cases hw : p.workers i <;> simp_all [Worker.notified]
  | joined _ next canceller joining further =>
    have hn : p.Notified := Or.inl ⟨next, joining⟩
    have hquit := hn.quit h
    exact ⟨fun _ => hquit, fun _ => h.awake hn, fun _ => h.passing hn⟩

/-! ## The joins complete -/

/-- The steps a worker still has to take. -/
def lastActs (w : Worker Task) (i : Fin num) : List (PoolAct Task num) :=
  match w with
  | .testing => [.test i]
  | .entering => [.enter i]
  | .woken => [.resume i]
  | .running _ => [.finish i, .test i]
  | .waiting | .returned => []

theorem setWorker_same {p : ThreadPool Task num} {i : Fin num} {w : Worker Task}
    (h : p.workers i = w) : p.setWorker i w = p := by
  rw [setWorker, ← h, Function.update_eq_self]

theorem takeTask_quit {p : ThreadPool Task num} (hquit : p.quit = true) (i : Fin num) :
    p.takeTask i = (p.setWorker i .returned, []) := by
  rw [takeTask, if_pos hquit]

/-- They end in its return. -/
theorem lastActs_run {p : ThreadPool Task num} (h : p.ShuttingDown) (hn : p.Notified)
    (i : Fin num) :
    ∃ events, run step p (lastActs (p.workers i) i) = .ok (p.setWorker i .returned, events) := by
  have hquit := hn.quit h
  cases hw : p.workers i with
  | testing =>
    have hact : p.act (.test i) = (p.setWorker i .returned, []) := by
      simp only [act, hw, hquit, if_true]
    exact ⟨[], by simp only [lastActs, run, step, hact, List.append_nil]⟩
  | entering =>
    have hne : p.taskQue ≠ [] := (h.passing hn).resolve_right fun hnone => hnone i hw
    have hempty : ¬ p.taskQue.isEmpty = true := fun he => hne (List.isEmpty_iff.mp he)
    have hact : p.act (.enter i) = (p.setWorker i .returned, []) := by
      simp only [act, hw, if_neg hempty, takeTask_quit hquit]
    exact ⟨[], by simp only [lastActs, run, step, hact, List.append_nil]⟩
  | waiting => exact absurd hw (h.awake hn i)
  | woken =>
    have hact : p.act (.resume i) = (p.setWorker i .returned, []) := by
      simp only [act, hw, takeTask_quit hquit]
    exact ⟨[], by simp only [lastActs, run, step, hact, List.append_nil]⟩
  | running task =>
    have hfinish : p.act (.finish i) = (p.setWorker i .testing, [.handled i task]) := by
      simp only [act, hw]
    have htest : (p.setWorker i .testing).act (.test i) = (p.setWorker i .returned, []) := by
      simp only [act, setWorker_workers, Function.update_self, setWorker_quit, hquit, if_true]
      simp only [setWorker, Function.update_idem]
    exact ⟨[.handled i task], by
      simp only [lastActs, run, step, hfinish, htest, List.append_nil]⟩
  | returned => exact ⟨[], by simp only [lastActs, run, setWorker_same hw]⟩

/-- `CancelThreads` joins one worker after the other. -/
theorem joining_done : ∀ (left next : Nat) (p : ThreadPool Task num), num - next = left →
    p.canceller = .joining next → p.ShuttingDown →
    ∃ acts q events, run step p acts = .ok (q, events) ∧ q.canceller = .done := by
  intro left
  induction left with
  | zero =>
    intro next p hleft hjoining _
    have hno : ¬ next < num := by omega
    refine ⟨[.join], { p with canceller := .done }, [], ?_, rfl⟩
    simp only [run, step, act, hjoining, dif_neg hno, List.append_nil]
  | succ left ih =>
    intro next p hleft hjoining h
    have hlt : next < num := by omega
    have hn : p.Notified := Or.inl ⟨next, hjoining⟩
    obtain ⟨events, hreturns⟩ := lastActs_run h hn ⟨next, hlt⟩
    have hreturned : (p.setWorker ⟨next, hlt⟩ .returned).workers ⟨next, hlt⟩ = .returned := by
      rw [setWorker_workers, Function.update_self]
    have h1 : (p.setWorker ⟨next, hlt⟩ .returned).ShuttingDown :=
      h.moved (fun _ hw => by cases hw) fun _ hw => by cases hw
    have hjoin : (p.setWorker ⟨next, hlt⟩ .returned).step .join =
        .ok ({ p.setWorker ⟨next, hlt⟩ .returned with canceller := .joining (next + 1) }, []) := by
      simp only [step, act, setWorker_canceller, hjoining, dif_pos hlt, hreturned]
    obtain ⟨acts, q, later, hrun, hdone⟩ := ih (next + 1) _ (by omega) rfl
      (step_shuttingDown (a := .join) h1 trivial hjoin)
    refine ⟨lastActs (p.workers ⟨next, hlt⟩) ⟨next, hlt⟩ ++ .join :: acts, q, events ++ later,
      run_append_ok hreturns ?_, hdone⟩
    rw [run, hjoin]
    simp only [hrun, List.nil_append]

/-! ## Runs -/

/-- Once issued, `notify_all` stays issued. -/
theorem step_notified {p p' : ThreadPool Task num} {a : PoolAct Task num}
    {events : List (PoolEvent Task num)} (h : p.Notified) (hstep : p.step a = .ok (p', events)) :
    p'.Notified := by
  cases step_outcome hstep with
  | quit _ first => rcases h with ⟨next, h⟩ | h <;> rw [first] at h <;> cases h
  | notified => exact Or.inl ⟨0, rfl⟩
  | joined _ next canceller joining further =>
    rcases further with rfl | rfl
    · exact Or.inl ⟨_, rfl⟩
    · exact Or.inr rfl
  | _ => exact h

theorem Notified.notifiesAll {p : ThreadPool Task num} (h : p.Notified) (a : PoolAct Task num) :
    NotifiesAll p a := by
  cases a with
  | notifyAll =>
    intro set
    rcases h with ⟨next, h⟩ | h <;> rw [set] at h <;> cases h
  | _ => trivial

/-- **Shutdown cannot hang** when `notify_all` is issued while no worker is between
its test of `m_quit_` and the lock, or a task is in the queue: from then on no
worker is or becomes blocked, and the joins can complete. -/
theorem shutdown_completes (acts : List (PoolAct Task num))
    (hok : Meets step NotifiesAll (create Task num) acts) (p : ThreadPool Task num)
    (events : List (PoolEvent Task num))
    (hrun : run step (create Task num) acts = .ok (p, events)) (hnotified : p.Notified) :
    (∀ more q events', run step p more = .ok (q, events') → ∀ i, q.workers i ≠ .waiting) ∧
      ∃ more q events', run step p more = .ok (q, events') ∧ q.canceller = .done := by
  have h : p.ShuttingDown := run_invariant ShuttingDown
    (fun _ _ _ _ h hok hstep => step_shuttingDown h hok hstep) shuttingDown_create hok hrun
  constructor
  · intro more q events' hmore
    have hlater := run_invariant (fun q : ThreadPool Task num => q.ShuttingDown ∧ q.Notified)
      (fun _ a _ _ hq _ hstep =>
        ⟨step_shuttingDown hq.1 (hq.2.notifiesAll a) hstep, step_notified hq.2 hstep⟩)
      ⟨h, hnotified⟩ meets_true hmore
    exact hlater.1.awake hlater.2
  · rcases hnotified with ⟨next, hjoining⟩ | hdone
    · exact joining_done _ next p rfl hjoining h
    · exact ⟨[], p, [], rfl, hdone⟩

/-- A pool of one worker that is cancelled while it waits. -/
def cancelWaiting : List (PoolAct Nat 1) := [.test 0, .enter 0, .setQuit, .notifyAll]

theorem shutdown_completes_sample :
    ∃ p events, run step (create Nat 1) cancelWaiting = .ok (p, events) ∧
      ∃ more q events', run step p more = .ok (q, events') ∧ q.canceller = .done := by
  have hok : Meets step NotifiesAll (create Nat 1) cancelWaiting :=
    ⟨trivial, fun _ _ h1 => ⟨trivial, fun _ _ h2 => ⟨trivial, fun _ _ h3 =>
      ⟨fun _ => by cases h1; cases h2; cases h3; exact Or.inr (by decide), fun _ _ _ => trivial⟩⟩⟩⟩
  exact ⟨_, _, rfl, (shutdown_completes cancelWaiting hok _ _ rfl (Or.inl ⟨0, rfl⟩)).2⟩

/-- The worker has tested `m_quit_`, and locks `m_mtx_` after the notification. -/
def cancelEntering : List (PoolAct Nat 1) := [.test 0, .setQuit, .notifyAll, .enter 0]

theorem lost_notification_hangs :
    ∃ p events, run step (create Nat 1) cancelEntering = .ok (p, events) ∧ p.Notified ∧
      p.workers 0 = .waiting :=
  ⟨_, _, rfl, Or.inl ⟨0, rfl⟩, rfl⟩

/-- Every shutdown that does not meet the condition can hang. -/
theorem entering_can_hang {p : ThreadPool Task num} (hset : p.canceller = .quitSet)
    (hentering : ¬ p.NoneEntering) :
    ∃ i q events, run step p [.notifyAll, .enter i] = .ok (q, events) ∧ q.Notified ∧
      q.workers i = .waiting := by
  obtain ⟨hempty, i, hi⟩ : p.taskQue = [] ∧ ∃ i, p.workers i = .entering := by
    rw [NoneEntering, not_or, not_not, not_forall] at hentering
    obtain ⟨hempty, i, hi⟩ := hentering
    exact ⟨hempty, i, not_not.mp hi⟩
  have hnotify : p.act .notifyAll =
      ({ p with workers := fun i => (p.workers i).notified, canceller := .joining 0 }, []) := by
    simp only [act, hset]
  refine ⟨i, _, _, by simp only [run, step, hnotify]; rfl, ?_, ?_⟩
  all_goals simp only [act, hi, Worker.notified, hempty, List.isEmpty_nil, if_true]
  · exact Or.inl ⟨0, rfl⟩
  · rw [setWorker_workers, Function.update_self]

end ThreadPool
end MyRtspServer.Base
