import MyRtspServer.Base.WorkConservation
import MyRtspServer.Net.Program

/-!
# The program with its thread pool

`main` starts one thread pool for both sources. Its workers take the tasks of either
track in the order in which they were added, and a worker that has taken one calls
`ReadFrame` of that track's source. The main thread constructs the sources, which add
their first tasks while the workers run already, and then loops. Seen from the two
tracks this is the program in which each pipeline counts its own tasks.
-/
namespace MyRtspServer.Net

open Library Library.Transition Base

/-- A source with its sink, and the frame the event loop has of it. -/
structure Station where
  source : MediaSource
  sink : Sink
  phase : SinkPhase := .idle

namespace Station

/-- `TaskCallback`. -/
def readFrame (s : Station) (env : ReadEnv) : Except RtpFault (Station × List FrameEvent) :=
  match s.source.readFrame env with
  | .error e => .error e
  | .ok (source, events) => .ok ({ s with source := source }, events)

/-! `TimeoutCallback` in three parts. -/

def getFrame (s : Station) : Station × List FrameEvent :=
  match s.phase with
  | .idle =>
    match s.source.getFrame with
    | (_, none) => (s, [])
    | (source, some i) =>
      ({ s with source := source, phase := .got i }, [.obtained i (s.source.frames i)])
  | _ => (s, [])

def handleFrame (s : Station) : Except RtpFault (Station × List SentPacket) :=
  match s.phase with
  | .got i =>
    match s.sink.handleFrame (s.source.frames i) with
    | .error e => .error e
    | .ok (sink, sent) => .ok ({ s with sink := sink, phase := .handled i }, sent)
  | _ => .ok (s, [])

/-- The frame goes back, if there is one. -/
def putFrame (s : Station) : Option Station :=
  match s.phase with
  | .handled i => some { s with source := s.source.putFrame i, phase := .idle }
  | _ => none

/-- The station as a pipeline with this many tasks. -/
def pipeline (s : Station) (queued started returning : Nat) : Pipeline where
  source := s.source
  sink := s.sink
  phase := s.phase
  queuedTasks := queued
  startedTasks := started
  returningTasks := returning

variable (s : Station) (queued started returning : Nat)

theorem takeTask_pipeline :
    (s.pipeline (queued + 1) started returning).stepSending .takeTask =
      .ok (s.pipeline queued (started + 1) returning, []) := rfl

theorem taskReturns_pipeline :
    (s.pipeline queued started (returning + 1)).stepSending .taskReturns =
      .ok (s.pipeline queued started returning, []) := rfl

theorem readFrame_pipeline (env : ReadEnv) :
    (s.pipeline queued (started + 1) returning).stepSending (.readFrame env) =
      (s.readFrame env).map fun r =>
        (r.1.pipeline queued started (returning + 1), r.2.map .frame) := by
  simp only [Pipeline.stepSending, Pipeline.step, Pipeline.readFrame, readFrame, pipeline,
    Nat.succ_ne_zero, if_false]
  cases s.source.readFrame env <;> rfl

theorem getFrame_pipeline : (s.pipeline queued started returning).stepSending .getFrame =
    .ok (s.getFrame.1.pipeline queued started returning, s.getFrame.2.map .frame) := by
  obtain ⟨source, sink, phase⟩ := s
  cases phase with
  | idle =>
    simp only [Pipeline.stepSending, Pipeline.step, Pipeline.getFrame, getFrame, pipeline]
    rcases source.getFrame with ⟨source', _ | i⟩ <;> rfl
  | got i => rfl
  | handled i => rfl

theorem handleFrame_pipeline : (s.pipeline queued started returning).stepSending .handleFrame =
    s.handleFrame.map fun r => (r.1.pipeline queued started returning, r.2.map .sent) := by
  obtain ⟨source, sink, phase⟩ := s
  cases phase with
  | got i =>
    simp only [Pipeline.stepSending, Pipeline.sendFrame, handleFrame, pipeline]
    cases sink.handleFrame (source.frames i) <;> rfl
  | idle => rfl
  | handled i => rfl

theorem putFrame_pipeline : (s.pipeline queued started returning).stepSending .putFrame =
    .ok (match s.putFrame with
      | none => s.pipeline queued started returning
      | some s => s.pipeline (queued + 1) started returning, []) := by
  obtain ⟨source, sink, phase⟩ := s
  cases phase <;> rfl

end Station

/-- `hasRead` says that the worker has left `ReadFrame` of the task it runs, `starting` are
the tasks that the constructors still have to add. -/
structure ThreadedProgram (num : Nat) where
  server : Server
  stations : TrackId → Station
  pool : ThreadPool TrackId num := .create TrackId num
  hasRead : Fin num → Bool := fun _ => false
  starting : List TrackId

inductive WorkerAct where
  | test
  | enter
  | wakeSpuriously
  | resume
  | readFrame (env : ReadEnv)
  | finish

inductive MainAct (num : Nat) where
  /-- `AddTask` in the constructor of a source. -/
  | construct (preference : List (Fin num))
  | network (act : NetworkAct)
  | getFrame (track : TrackId)
  | handleFrame (track : TrackId) (answers : Nat → Nat → WriteAnswer)
  | putFrame (track : TrackId) (preference : List (Fin num))

inductive ThreadedAct (num : Nat) where
  | worker (i : Fin num) (act : WorkerAct)
  | main (act : MainAct num)

namespace ThreadedProgram

variable {num : Nat}

/-- A step of the pool alone. -/
def turn (p : ThreadedProgram num) (a : PoolAct TrackId num) : ThreadedProgram num :=
  { p with pool := (p.pool.act a).1 }

def setStation (p : ThreadedProgram num) (track : TrackId) (s : Station) : ThreadedProgram num :=
  { p with stations := Function.update p.stations track s }

def workerStep (p : ThreadedProgram num) (i : Fin num) :
    WorkerAct → Except ProgramFault (ThreadedProgram num × List ProgramEvent)
  | .test => .ok (p.turn (.test i), [])
  | .enter => .ok (p.turn (.enter i), [])
  | .wakeSpuriously => .ok (p.turn (.wakeSpuriously i), [])
  | .resume => .ok (p.turn (.resume i), [])
  | .readFrame env =>
    match p.pool.workers i with
    | .running track =>
      if p.hasRead i then .ok (p, [])
      else
        match (p.stations track).readFrame env with
        | .error e => .error (.pipeline e)
        | .ok (station, events) =>
          .ok ({ p.setStation track station with hasRead := Function.update p.hasRead i true },
            events.map fun e => .pipeline track (.frame e))
    | _ => .ok (p, [])
  | .finish =>
    if p.hasRead i then
      .ok ({ p.turn (.finish i) with hasRead := Function.update p.hasRead i false }, [])
    else .ok (p, [])

def mainStep (p : ThreadedProgram num) (act : MainAct num) :
    Except ProgramFault (ThreadedProgram num × List ProgramEvent) :=
  match p.starting with
  | track :: rest =>
    match act with
    | .construct preference =>
      .ok ({ p.turn (.addTask track preference) with starting := rest }, [])
    | _ => .ok (p, [])
  | [] =>
    match act with
    | .construct _ => .ok (p, [])
    | .network act =>
      match p.server.step act.act with
      | .error e => .error (.server e)
      | .ok (s, effects) => .ok ({ p with server := s }, effects.map .server)
    | .getFrame track =>
      let (station, events) := (p.stations track).getFrame
      .ok (p.setStation track station, events.map fun e => .pipeline track (.frame e))
    | .handleFrame track answers =>
      match (p.stations track).handleFrame with
      | .error e => .error (.pipeline e)
      | .ok (station, sent) =>
        match run Server.step p.server (callbacks track answers 0 sent) with
        | .error e => .error (.server e)
        | .ok (s, effects) =>
          .ok ({ p.setStation track station with server := s },
            (sent.map fun q => .pipeline track (.sent q)) ++ effects.map .server)
    | .putFrame track preference =>
      match (p.stations track).putFrame with
      | none => .ok (p, [])
      | some station => .ok ((p.turn (.addTask track preference)).setStation track station, [])

def step (p : ThreadedProgram num) :
    ThreadedAct num → Except ProgramFault (ThreadedProgram num × List ProgramEvent)
  | .worker i act => p.workerStep i act
  | .main act => p.mainStep act

/-! ## The tasks of a track -/

/-- The tasks in the queue, and those that are still to be added. -/
def queued (p : ThreadedProgram num) (track : TrackId) : Nat :=
  (p.starting ++ p.pool.taskQue).count track

/-- The worker runs a task of the track, and has left `ReadFrame` or not. -/
def runs (p : ThreadedProgram num) (track : TrackId) (read : Bool) (i : Fin num) : Bool :=
  decide ((p.pool.workers i).task = some track) && p.hasRead i == read

def running (p : ThreadedProgram num) (track : TrackId) (read : Bool) : Nat :=
  (List.finRange num).countP (p.runs track read)

/-- The program that counts the tasks of each track. -/
def program (p : ThreadedProgram num) : Program where
  server := p.server
  pipelines := fun track => (p.stations track).pipeline (p.queued track) (p.running track false)
    (p.running track true)

/-- The callback gets no packet. -/
def silent : Nat → Nat → WriteAnswer := fun _ _ => none

/-- The tasks that were taken. -/
def takes (events : List (PoolEvent TrackId num)) : List ProgramAct :=
  (dequeuedOf events).map fun track => .pipeline track .takeTask silent

/-- What a step is to the tracks. -/
def programActs (p : ThreadedProgram num) : ThreadedAct num → List ProgramAct
  | .worker i .test => takes (p.pool.act (.test i)).2
  | .worker i .enter => takes (p.pool.act (.enter i)).2
  | .worker i .wakeSpuriously => takes (p.pool.act (.wakeSpuriously i)).2
  | .worker i .resume => takes (p.pool.act (.resume i)).2
  | .worker i (.readFrame env) =>
    match p.pool.workers i with
    | .running track => if p.hasRead i then [] else [.pipeline track (.readFrame env) silent]
    | _ => []
  | .worker i .finish =>
    match p.pool.workers i with
    | .running track => if p.hasRead i then [.pipeline track .taskReturns silent] else []
    | _ => []
  | .main act =>
    match p.starting, act with
    | [], .network act => [.network act]
    | [], .getFrame track => [.pipeline track .getFrame silent]
    | [], .handleFrame track answers => [.pipeline track .handleFrame answers]
    | [], .putFrame track _ => [.pipeline track .putFrame silent]
    | _, _ => []

def programRun (p : ThreadedProgram num) (acts : List (ThreadedAct num)) : List ProgramAct :=
  projected step programActs p acts

/-! ## Counting -/

/-- One worker goes on. -/
theorem countP_finRange {q q' : Fin num → Bool} {i : Fin num} (h : ∀ j, j ≠ i → q' j = q j) :
    (List.finRange num).countP q' + (q i).toNat = (List.finRange num).countP q + (q' i).toNat := by
  obtain ⟨front, back, hsplit⟩ := List.append_of_mem (List.mem_finRange i)
  have hnodup := List.nodup_finRange num
  rw [hsplit] at hnodup ⊢
  obtain ⟨-, hback, happart⟩ := List.nodup_append.mp hnodup
  have hfront : front.countP q' = front.countP q :=
    List.countP_congr fun j hj => by rw [h j (happart j hj i List.mem_cons_self)]
  have hrest : back.countP q' = back.countP q :=
    List.countP_congr fun j hj => by
      rw [h j fun heq => (List.nodup_cons.mp hback).1 (heq ▸ hj)]
  simp only [List.countP_append, List.countP_cons, hfront, hrest]
  cases q i <;> cases q' i <;> simp <;> omega

variable {p p' : ThreadedProgram num}

theorem running_same (htask : ∀ i, (p'.pool.workers i).task = (p.pool.workers i).task)
    (hread : p'.hasRead = p.hasRead) : p'.running = p.running := by
  funext track read
  refine List.countP_congr fun i _ => ?_
  rw [runs, runs, htask, hread]

theorem program_same (hserver : p'.server = p.server) (hstations : p'.stations = p.stations)
    (hqueued : p'.queued = p.queued) (hrunning : p'.running = p.running) :
    p'.program = p.program := by
  rw [program, program, hserver, hstations, hqueued, hrunning]

/-- Only a worker that runs a task has read for it. -/
def Tidy (p : ThreadedProgram num) : Prop :=
  ∀ i, p.hasRead i = true → ∃ track, p.pool.workers i = .running track

theorem pipeline_of (p : ThreadedProgram num) (track : TrackId) :
    p.program.pipelines track = (p.stations track).pipeline (p.queued track)
      (p.running track false) (p.running track true) := rfl

/-- One pipeline goes on, and sends nothing. -/
theorem run_quiet {track : TrackId} {a : PipelineAct} {events : List FrameEvent}
    (hmoved : (p.program.pipelines track).stepSending a =
      .ok (p'.program.pipelines track, events.map .frame))
    (hserver : p'.server = p.server)
    (hother : ∀ t, t ≠ track → p'.program.pipelines t = p.program.pipelines t) :
    run Program.step p.program [.pipeline track a silent] =
      .ok (p'.program, events.map fun e => .pipeline track (.frame e)) := by
  have hpipelines : p'.program.pipelines =
      Function.update p.program.pipelines track (p'.program.pipelines track) := by
    funext t
    by_cases ht : t = track
    · rw [ht, Function.update_self]
    · rw [Function.update_of_ne ht, hother t ht]
  have hprogram : p'.program = { p.program with
      pipelines := Function.update p.program.pipelines track (p'.program.pipelines track) } := by
    rw [← hpipelines, program, program, hserver]
  have hstep : Program.step p.program (.pipeline track a silent) =
      .ok (p'.program, events.map fun e => .pipeline track (.frame e)) := by
    rw [hprogram]
    simp [Program.step, hmoved, callbacks, run, List.map_map]
  rw [run, hstep]
  simp only [run, List.append_nil]

/-! ## Workers -/

variable {i : Fin num} {track : TrackId}

theorem runs_free (hfree : (p.pool.workers i).task = none) (t : TrackId) (read : Bool) :
    p.runs t read i = false := by
  rw [runs, hfree]
  rfl

theorem Tidy.unread (h : p.Tidy) (hfree : (p.pool.workers i).task = none) :
    p.hasRead i = false := by
  cases hread : p.hasRead i with
  | false => rfl
  | true =>
    obtain ⟨track, hrunning⟩ := h i hread
    rw [hrunning] at hfree
    cases hfree

/-- A worker takes the task in front of the queue. -/
theorem run_taken {task : TrackId} {rest : List TrackId} (h : p.Tidy)
    (hfront : p.pool.taskQue = task :: rest) (hfree : (p.pool.workers i).task = none) :
    run Program.step p.program [.pipeline task .takeTask silent] =
      .ok (program { p with pool := { p.pool with taskQue := rest }.setWorker i (.running task) },
        []) := by
  generalize hp' : ({ p with pool := { p.pool with taskQue := rest }.setWorker i (.running task) } :
    ThreadedProgram num) = p'
  have hworker : p'.pool.workers i = .running task := by
    rw [← hp']
    exact Function.update_self ..
  have hread : p'.hasRead i = false := by
    rw [← hp']
    exact h.unread hfree
  have hothers : ∀ t read j, j ≠ i → p'.runs t read j = p.runs t read j := by
    intro t read j hj
    subst hp'
    simp only [runs, ThreadPool.setWorker_workers, Function.update_of_ne hj]
  have hrunning : ∀ t read, p'.running t read =
      p.running t read + (decide (task = t) && (false == read)).toNat := by
    intro t read
    have hcount := countP_finRange (hothers t read)
    rw [runs_free hfree, Bool.toNat_false, Nat.add_zero] at hcount
    unfold running
    rw [hcount, runs, hworker, hread]
    simp only [Worker.task, Option.some.injEq]
  have hqueued : ∀ t, p.queued t = p'.queued t + if task = t then 1 else 0 := by
    intro t
    subst hp'
    simp only [queued, hfront, List.count_append, List.count_cons, ThreadPool.setWorker_taskQue,
      beq_iff_eq]
    omega
  have hstations : p'.stations = p.stations := by rw [← hp']
  have hmoved : (p.program.pipelines task).stepSending .takeTask =
      .ok (p'.program.pipelines task, ([] : List FrameEvent).map .frame) := by
    have hbefore : p.queued task = p'.queued task + 1 := by rw [hqueued, if_pos rfl]
    have hstarted : p'.running task false = p.running task false + 1 := by
      rw [hrunning, decide_eq_true rfl]
      rfl
    have hreturning : p'.running task true = p.running task true := by
      rw [hrunning, decide_eq_true rfl]
      rfl
    rw [pipeline_of, pipeline_of, hstations, hbefore, hstarted, hreturning]
    exact Station.takeTask_pipeline ..
  have hother : ∀ t, t ≠ task → p'.program.pipelines t = p.program.pipelines t := by
    intro t ht
    have hsame : ∀ read, p'.running t read = p.running t read := by
      intro read
      rw [hrunning, decide_eq_false (Ne.symm ht)]
      rfl
    rw [pipeline_of, pipeline_of, hstations, hqueued, if_neg (Ne.symm ht), hsame, hsame]
    rfl
  exact run_quiet hmoved (by rw [← hp']) hother

/-- A worker leaves `ReadFrame`. -/
theorem running_read (hworker : p.pool.workers i = .running track) (hread : p.hasRead i = false)
    (hpool : p'.pool = p.pool) (hnow : p'.hasRead = Function.update p.hasRead i true)
    (t : TrackId) : p.running t false = p'.running t false + (decide (track = t)).toNat ∧
      p'.running t true = p.running t true + (decide (track = t)).toNat := by
  have hothers : ∀ read j, j ≠ i → p'.runs t read j = p.runs t read j := by
    intro read j hj
    rw [runs, runs, hpool, hnow, Function.update_of_ne hj]
  have hbefore : ∀ read, p.runs t read i = (decide (track = t) && !read) := by
    intro read
    rw [runs, hworker, hread]
    simp only [Worker.task, Option.some.injEq]
    cases read <;> rfl
  have hafter : ∀ read, p'.runs t read i = (decide (track = t) && read) := by
    intro read
    rw [runs, hpool, hworker, hnow, Function.update_self]
    simp only [Worker.task, Option.some.injEq]
    cases read <;> rfl
  have hfalse := countP_finRange (hothers false)
  have htrue := countP_finRange (hothers true)
  rw [hbefore, hafter] at hfalse htrue
  simp only [Bool.not_false, Bool.not_true, Bool.and_true, Bool.and_false, Bool.toNat_false,
    Nat.add_zero] at hfalse htrue
  exact ⟨hfalse.symm, htrue⟩

/-- A worker is done with its task. -/
theorem running_finished (hworker : p.pool.workers i = .running track) (hread : p.hasRead i = true)
    (hpool : p'.pool = p.pool.setWorker i .testing)
    (hnow : p'.hasRead = Function.update p.hasRead i false) (t : TrackId) :
    p'.running t false = p.running t false ∧
      p.running t true = p'.running t true + (decide (track = t)).toNat := by
  have hothers : ∀ read j, j ≠ i → p'.runs t read j = p.runs t read j := by
    intro read j hj
    rw [runs, runs, hpool, hnow, ThreadPool.setWorker_workers, Function.update_of_ne hj,
      Function.update_of_ne hj]
  have hbefore : ∀ read, p.runs t read i = (decide (track = t) && read) := by
    intro read
    rw [runs, hworker, hread]
    simp only [Worker.task, Option.some.injEq]
    cases read <;> rfl
  have hfree : (p'.pool.workers i).task = none := by
    rw [hpool, ThreadPool.setWorker_workers, Function.update_self]
    rfl
  have hfalse := countP_finRange (hothers false)
  have htrue := countP_finRange (hothers true)
  rw [hbefore, runs_free hfree] at hfalse htrue
  simp only [Bool.and_true, Bool.and_false, Bool.toNat_false, Nat.add_zero] at hfalse htrue
  exact ⟨hfalse, htrue.symm⟩

/-! ## Every step, seen from the tracks -/

/-- The program does what the step does, faults included. -/
def Mirrors (p : ThreadedProgram num) (act : ThreadedAct num) : Prop :=
  run Program.step p.program (p.programActs act) = (p.step act).map fun r => (r.1.program, r.2)

theorem ignored_mirrors {act : ThreadedAct num} (hacts : p.programActs act = [])
    (hstep : p.step act = .ok (p', [])) (hsame : p'.program = p.program) : p.Mirrors act := by
  rw [Mirrors, hacts, hstep, ← hsame]
  rfl

/-- A worker looks at the queue. -/
theorem run_turned (h : p.Tidy) {a : PoolAct TrackId num}
    (hturned : ThreadPool.Turned p.pool i (p.pool.act a)) :
    run Program.step p.program (takes (p.pool.act a).2) = .ok ((p.turn a).program, []) := by
  unfold turn
  generalize p.pool.act a = result at hturned ⊢
  cases hturned with
  | idle pool que tasks =>
    have hsame : ({ p with pool := pool } : ThreadedProgram num).program = p.program := by
      refine program_same rfl rfl ?_ (running_same tasks rfl)
      funext track
      rw [queued, queued, que]
    rw [hsame]
    rfl
  | taken task rest front free => exact run_taken h front free

theorem readFrame_mirrors (env : ReadEnv) : p.Mirrors (.worker i (.readFrame env)) := by
  cases hworker : p.pool.workers i with
  | running track =>
    cases hread : p.hasRead i with
    | true =>
      exact ignored_mirrors (by simp [programActs, hworker, hread])
        (by simp only [step, workerStep, hworker, hread, if_true]) rfl
    | false =>
      have hacts : p.programActs (.worker i (.readFrame env)) =
          [.pipeline track (.readFrame env) silent] := by
        simp [programActs, hworker, hread]
      let q : ThreadedProgram num := { p with hasRead := Function.update p.hasRead i true }
      have hcounts := running_read hworker hread (show q.pool = p.pool from rfl) rfl
      have hself := hcounts track
      rw [decide_eq_true rfl] at hself
      cases hstation : (p.stations track).readFrame env with
      | error e =>
        have hmoved : (p.program.pipelines track).stepSending (.readFrame env) = .error e := by
          rw [pipeline_of, hself.1]
          exact (Station.readFrame_pipeline ..).trans (by rw [hstation]; rfl)
        simp [Mirrors, hacts, run, Program.step, hmoved, step, workerStep, hworker, hread,
          hstation, Except.map]
      | ok result =>
        obtain ⟨station, events⟩ := result
        have hstep : p.step (.worker i (.readFrame env)) =
            .ok (q.setStation track station, events.map fun e => .pipeline track (.frame e)) := by
          simp only [step, workerStep, hworker, hread, hstation, Bool.false_eq_true, if_false]
          rfl
        have hmoved : (p.program.pipelines track).stepSending (.readFrame env) =
            .ok ((q.setStation track station).program.pipelines track, events.map .frame) := by
          have hnow : (q.setStation track station).stations track = station :=
            Function.update_self ..
          rw [pipeline_of, pipeline_of, hself.1, hnow]
          change _ = Except.ok (station.pipeline (p.queued track) (q.running track false)
            (q.running track true), _)
          rw [hself.2]
          exact (Station.readFrame_pipeline ..).trans (by rw [hstation]; rfl)
        have hother : ∀ t, t ≠ track →
            (q.setStation track station).program.pipelines t = p.program.pipelines t := by
          intro t ht
          have hsame := hcounts t
          rw [decide_eq_false (Ne.symm ht)] at hsame
          have hstill : (q.setStation track station).stations t = p.stations t :=
            Function.update_of_ne ht ..
          rw [pipeline_of, pipeline_of, hstill, hsame.1]
          change Station.pipeline _ _ _ (q.running t true) = _
          rw [hsame.2]
          rfl
        rw [Mirrors, hacts, hstep, run_quiet hmoved rfl hother]
        rfl
  | _ =>
    exact ignored_mirrors (by simp only [programActs, hworker])
      (by simp only [step, workerStep, hworker]) rfl

theorem finish_mirrors (h : p.Tidy) : p.Mirrors (.worker i .finish) := by
  cases hread : p.hasRead i with
  | false =>
    refine ignored_mirrors ?_
      (by simp only [step, workerStep, hread, Bool.false_eq_true, if_false]) rfl
    cases hworker : p.pool.workers i <;> simp [programActs, hworker, hread]
  | true =>
    obtain ⟨track, hworker⟩ := h i hread
    have hacts : p.programActs (.worker i .finish) = [.pipeline track .taskReturns silent] := by
      simp [programActs, hworker, hread]
    let q : ThreadedProgram num :=
      { p.turn (.finish i) with hasRead := Function.update p.hasRead i false }
    have hpool : q.pool = p.pool.setWorker i .testing := by
      simp [q, turn, ThreadPool.act, hworker]
    have hcounts := running_finished hworker hread hpool rfl
    have hqueued : q.queued = p.queued := by
      funext t
      rw [queued, queued, hpool]
      rfl
    have hstep : p.step (.worker i .finish) = .ok (q, []) := by
      simp only [step, workerStep, hread, if_true]
      rfl
    have hmoved : (p.program.pipelines track).stepSending .taskReturns =
        .ok (q.program.pipelines track, ([] : List FrameEvent).map .frame) := by
      have hself := hcounts track
      rw [decide_eq_true rfl] at hself
      rw [pipeline_of, pipeline_of, hqueued, hself.1, hself.2]
      exact Station.taskReturns_pipeline ..
    have hother : ∀ t, t ≠ track → q.program.pipelines t = p.program.pipelines t := by
      intro t ht
      have hsame := hcounts t
      rw [decide_eq_false (Ne.symm ht)] at hsame
      rw [pipeline_of, pipeline_of, hqueued, hsame.1, hsame.2]
      rfl
    rw [Mirrors, hacts, hstep, run_quiet hmoved rfl hother]
    rfl

theorem worker_mirrors (h : p.Tidy) (act : WorkerAct) : p.Mirrors (.worker i act) := by
  cases act with
  | test => exact run_turned h (ThreadPool.test_turned p.pool i)
  | enter => exact run_turned h (ThreadPool.enter_turned p.pool i)
  | wakeSpuriously => exact run_turned h (ThreadPool.wakeSpuriously_turned p.pool i)
  | resume => exact run_turned h (ThreadPool.resume_turned p.pool i)
  | readFrame env => exact readFrame_mirrors env
  | finish => exact finish_mirrors h

/-! ## The main thread -/

/-- A task more is in the queue, and the workers run what they ran. -/
theorem running_added (preference : List (Fin num)) :
    (p.turn (.addTask track preference)).running = p.running :=
  running_same (fun i => ThreadPool.notifyOne_task p.pool.workers preference i) rfl

theorem queued_added (preference : List (Fin num)) (t : TrackId) :
    (p.turn (.addTask track preference)).queued t = p.queued t + if track = t then 1 else 0 := by
  simp only [queued, turn, ThreadPool.act, List.count_append, List.count_cons, List.count_nil,
    beq_iff_eq]
  omega

theorem construct_mirrors (preference : List (Fin num)) :
    p.Mirrors (.main (.construct preference)) := by
  cases hstarting : p.starting with
  | nil =>
    exact ignored_mirrors (by simp only [programActs, hstarting])
      (by simp only [step, mainStep, hstarting]) rfl
  | cons track rest =>
    have hstep : p.step (.main (.construct preference)) =
        .ok ({ p.turn (.addTask track preference) with starting := rest }, []) := by
      simp only [step, mainStep, hstarting]
    refine ignored_mirrors (by simp only [programActs, hstarting]) hstep ?_
    refine program_same rfl rfl ?_ (running_added preference)
    funext t
    simp only [queued, turn, ThreadPool.act, hstarting, List.count_append, List.count_cons,
      List.count_nil]
    omega

/-- As long as a constructor has a task to add, the loop does not run. -/
theorem main_waits {track : TrackId} {rest : List TrackId} (hstarting : p.starting = track :: rest)
    {act : MainAct num} (hact : ∀ preference, act ≠ .construct preference) :
    p.Mirrors (.main act) := by
  cases act with
  | construct preference => exact absurd rfl (hact preference)
  | _ =>
    exact ignored_mirrors (by simp only [programActs, hstarting])
      (by simp only [step, mainStep, hstarting]) rfl

theorem network_mirrors (hstarting : p.starting = []) (act : NetworkAct) :
    p.Mirrors (.main (.network act)) := by
  have hacts : p.programActs (.main (.network act)) = [.network act] := by
    simp only [programActs, hstarting]
  rw [Mirrors, hacts]
  cases hserver : p.server.step act.act with
  | error e => simp [run, Program.step, program, step, mainStep, hstarting, hserver, Except.map]
  | ok result =>
    obtain ⟨s, effects⟩ := result
    have hstep : p.step (.main (.network act)) =
        .ok ({ p with server := s }, effects.map .server) := by
      simp only [step, mainStep, hserver]
      rw [hstarting]
    have hprogram : Program.step p.program (.network act) =
        .ok (program { p with server := s }, effects.map .server) := by
      simp only [Program.step, show p.program.server = p.server from rfl, hserver]
      rfl
    rw [hstep, run, hprogram]
    simp only [run, List.append_nil, Except.map]

/-- A station goes on, and neither the tasks nor the server do. -/
theorem setStation_other (track : TrackId) (s : Station) :
    ∀ t, t ≠ track → (p.setStation track s).program.pipelines t = p.program.pipelines t := by
  intro t ht
  have hstill : (p.setStation track s).stations t = p.stations t := Function.update_of_ne ht ..
  rw [pipeline_of, pipeline_of, hstill]
  rfl

theorem setStation_station (track : TrackId) (s : Station) :
    (p.setStation track s).stations track = s := Function.update_self ..

theorem setStation_self (track : TrackId) (s : Station) :
    (p.setStation track s).program.pipelines track =
      s.pipeline (p.queued track) (p.running track false) (p.running track true) := by
  rw [pipeline_of, setStation_station]
  rfl

theorem getFrame_mirrors (hstarting : p.starting = []) (track : TrackId) :
    p.Mirrors (.main (.getFrame track)) := by
  have hacts : p.programActs (.main (.getFrame track)) = [.pipeline track .getFrame silent] := by
    simp only [programActs, hstarting]
  have hstep : p.step (.main (.getFrame track)) =
      .ok (p.setStation track (p.stations track).getFrame.1,
        (p.stations track).getFrame.2.map fun e => .pipeline track (.frame e)) := by
    simp only [step, mainStep]
    rw [hstarting]
  have hmoved : (p.program.pipelines track).stepSending .getFrame =
      .ok ((p.setStation track (p.stations track).getFrame.1).program.pipelines track,
        (p.stations track).getFrame.2.map .frame) := by
    rw [setStation_self]
    exact Station.getFrame_pipeline ..
  rw [Mirrors, hacts, hstep, run_quiet hmoved rfl (setStation_other track _)]
  rfl

theorem putFrame_mirrors (hstarting : p.starting = []) (track : TrackId)
    (preference : List (Fin num)) : p.Mirrors (.main (.putFrame track preference)) := by
  have hacts : p.programActs (.main (.putFrame track preference)) =
      [.pipeline track .putFrame silent] := by
    simp only [programActs, hstarting]
  have hpipeline := Station.putFrame_pipeline (p.stations track) (p.queued track)
    (p.running track false) (p.running track true)
  rw [Mirrors, hacts]
  cases hput : (p.stations track).putFrame with
  | none =>
    have hstep : p.step (.main (.putFrame track preference)) = .ok (p, []) := by
      simp only [step, mainStep, hput]
      rw [hstarting]
    rw [hput] at hpipeline
    have hmoved : (p.program.pipelines track).stepSending .putFrame =
        .ok (p.program.pipelines track, ([] : List FrameEvent).map .frame) := hpipeline
    rw [hstep, run_quiet hmoved rfl fun _ _ => rfl]
    rfl
  | some station =>
    let q := (p.turn (.addTask track preference)).setStation track station
    have hstep : p.step (.main (.putFrame track preference)) = .ok (q, []) := by
      simp only [step, mainStep, hput]
      rw [hstarting]
    rw [hput] at hpipeline
    have hmoved : (p.program.pipelines track).stepSending .putFrame =
        .ok (q.program.pipelines track, ([] : List FrameEvent).map .frame) := by
      rw [setStation_self, queued_added, if_pos rfl, running_added]
      exact hpipeline
    have hother : ∀ t, t ≠ track → q.program.pipelines t = p.program.pipelines t := by
      intro t ht
      rw [setStation_other track station t ht, pipeline_of, queued_added, if_neg (Ne.symm ht),
        running_added]
      rfl
    rw [hstep, run_quiet hmoved rfl hother]
    rfl

theorem handleFrame_mirrors (hstarting : p.starting = []) (track : TrackId)
    (answers : Nat → Nat → WriteAnswer) : p.Mirrors (.main (.handleFrame track answers)) := by
  have hacts : p.programActs (.main (.handleFrame track answers)) =
      [.pipeline track .handleFrame answers] := by
    simp only [programActs, hstarting]
  have hpipeline := Station.handleFrame_pipeline (p.stations track) (p.queued track)
    (p.running track false) (p.running track true)
  rw [← pipeline_of] at hpipeline
  have hserver : p.program.server = p.server := rfl
  rw [Mirrors, hacts]
  cases hhandle : (p.stations track).handleFrame with
  | error e =>
    rw [hhandle] at hpipeline
    have hstep : p.step (.main (.handleFrame track answers)) = .error (.pipeline e) := by
      simp only [step, mainStep, hhandle]
      rw [hstarting]
    rw [hstep, run, Program.step, hpipeline]
    rfl
  | ok result =>
    obtain ⟨station, sent⟩ := result
    rw [hhandle] at hpipeline
    cases hrun : run Server.step p.server (callbacks track answers 0 sent) with
    | error e =>
      have hstep : p.step (.main (.handleFrame track answers)) = .error (.server e) := by
        simp only [step, mainStep, hhandle, hrun]
        rw [hstarting]
      rw [hstep, run, Program.step, hpipeline]
      simp only [Except.map, sentOf_sent, hserver, hrun]
    | ok result =>
      obtain ⟨server, effects⟩ := result
      have hstep : p.step (.main (.handleFrame track answers)) =
          .ok ({ p.setStation track station with server := server },
            (sent.map fun q => .pipeline track (.sent q)) ++ effects.map .server) := by
        simp only [step, mainStep, hhandle, hrun]
        rw [hstarting]
      have hpipelines : (p.setStation track station).program.pipelines =
          Function.update p.program.pipelines track
            (station.pipeline (p.queued track) (p.running track false) (p.running track true)) := by
        funext t
        by_cases ht : t = track
        · rw [ht, Function.update_self, setStation_self]
        · rw [Function.update_of_ne ht, setStation_other track station t ht]
      have hprogram : ({ p.setStation track station with server := server } :
          ThreadedProgram num).program = ⟨server, (p.setStation track station).program.pipelines⟩ :=
        rfl
      rw [hpipelines] at hprogram
      rw [hstep, run, Program.step, hpipeline]
      simp only [Except.map, sentOf_sent, hserver, hrun, hprogram, run, List.append_nil,
        List.map_map]
      rfl

theorem step_mirrors (h : p.Tidy) (act : ThreadedAct num) : p.Mirrors act := by
  cases act with
  | worker i act => exact worker_mirrors h act
  | main act =>
    cases hstarting : p.starting with
    | cons track rest =>
      cases act with
      | construct preference => exact construct_mirrors preference
      | _ => exact main_waits hstarting fun _ heq => by cases heq
    | nil =>
      cases act with
      | construct preference => exact construct_mirrors preference
      | network act => exact network_mirrors hstarting act
      | getFrame track => exact getFrame_mirrors hstarting track
      | handleFrame track answers => exact handleFrame_mirrors hstarting track answers
      | putFrame track preference => exact putFrame_mirrors hstarting track preference

/-! ## What a step does to the workers -/

/-- One worker looks at the queue, has read or is done, or the main thread adds a task. -/
inductive WorkersOutcome (p p' : ThreadedProgram num) : Prop
  | same (pool : p'.pool = p.pool) (read : p'.hasRead = p.hasRead)
  | turned (i : Fin num) (a : PoolAct TrackId num)
      (turned : ThreadPool.Turned p.pool i (p.pool.act a)) (staying : a ≠ .setQuit)
      (pool : p'.pool = (p.pool.act a).1) (read : p'.hasRead = p.hasRead)
  | read (i : Fin num) (track : TrackId) (runs : p.pool.workers i = .running track)
      (pool : p'.pool = p.pool) (read : p'.hasRead = Function.update p.hasRead i true)
  | finished (i : Fin num) (done : p.hasRead i = true)
      (pool : p'.pool = (p.pool.act (.finish i)).1)
      (read : p'.hasRead = Function.update p.hasRead i false)
  | added (track : TrackId) (preference : List (Fin num))
      (pool : p'.pool = (p.pool.act (.addTask track preference)).1) (read : p'.hasRead = p.hasRead)

theorem step_workers {act : ThreadedAct num} {events : List ProgramEvent}
    (hstep : p.step act = .ok (p', events)) : WorkersOutcome p p' := by
  cases act with
  | worker i act =>
    cases act with
    | test =>
      cases hstep
      exact .turned i _ (ThreadPool.test_turned p.pool i) (by simp) rfl rfl
    | enter =>
      cases hstep
      exact .turned i _ (ThreadPool.enter_turned p.pool i) (by simp) rfl rfl
    | wakeSpuriously =>
      cases hstep
      exact .turned i _ (ThreadPool.wakeSpuriously_turned p.pool i) (by simp) rfl rfl
    | resume =>
      cases hstep
      exact .turned i _ (ThreadPool.resume_turned p.pool i) (by simp) rfl rfl
    | readFrame env =>
      simp only [step, workerStep] at hstep
      split at hstep
      · rename_i track hworker
        split at hstep
        · cases hstep
          exact .same rfl rfl
        split at hstep
        · cases hstep
        cases hstep
        exact .read i track hworker rfl rfl
      · cases hstep
        exact .same rfl rfl
    | finish =>
      simp only [step, workerStep] at hstep
      split at hstep
      · cases hstep
        exact .finished i ‹_› rfl rfl
      · cases hstep
        exact .same rfl rfl
  | main act =>
    simp only [step, mainStep] at hstep
    split at hstep
    · split at hstep
      · cases hstep
        exact .added _ _ rfl rfl
      · cases hstep
        exact .same rfl rfl
    split at hstep
    · cases hstep
      exact .same rfl rfl
    · split at hstep
      · cases hstep
      cases hstep
      exact .same rfl rfl
    · cases hstep
      exact .same rfl rfl
    · split at hstep
      · cases hstep
      split at hstep
      · cases hstep
      cases hstep
      exact .same rfl rfl
    · split at hstep
      · cases hstep
        exact .same rfl rfl
      cases hstep
      exact .added _ _ rfl rfl

theorem tidy_of_tasks (h : p.Tidy) (hread : p'.hasRead = p.hasRead)
    (htasks : ∀ j, p.hasRead j = true →
      (p'.pool.workers j).task = (p.pool.workers j).task) : p'.Tidy := by
  intro j hj
  rw [hread] at hj
  obtain ⟨track, hrunning⟩ := h j hj
  have htask := htasks j hj
  rw [hrunning] at htask
  exact ⟨track, Worker.task_eq_some.mp htask⟩

/-- **Only a worker that runs a task has read for it.** -/
theorem step_tidy {act : ThreadedAct num} {events : List ProgramEvent} (h : p.Tidy)
    (hstep : p.step act = .ok (p', events)) : p'.Tidy := by
  cases step_workers hstep with
  | same pool read => exact tidy_of_tasks h read fun j _ => by rw [pool]
  | turned i a turned staying pool read =>
    refine tidy_of_tasks h read fun j hj => ?_
    rw [pool]
    generalize p.pool.act a = result at turned ⊢
    cases turned with
    | idle pool que tasks => exact tasks j
    | taken task rest front free =>
      have hne : j ≠ i := by
        rintro rfl
        rw [h.unread free] at hj
        cases hj
      simp only [ThreadPool.setWorker_workers, Function.update_of_ne hne]
  | read i track runs pool read =>
    intro j hj
    rw [pool]
    by_cases hji : j = i
    · exact ⟨track, hji ▸ runs⟩
    · rw [read, Function.update_of_ne hji] at hj
      exact h j hj
  | finished i done pool read =>
    obtain ⟨track, hworker⟩ := h i done
    intro j hj
    rw [read] at hj
    have hji : j ≠ i := by
      rintro rfl
      rw [Function.update_self] at hj
      cases hj
    rw [Function.update_of_ne hji] at hj
    obtain ⟨t, hrunning⟩ := h j hj
    refine ⟨t, ?_⟩
    simp only [pool, ThreadPool.act, hworker, ThreadPool.setWorker_workers]
    rw [Function.update_of_ne hji, hrunning]
  | added track preference pool read =>
    refine tidy_of_tasks h read fun j _ => ?_
    rw [pool]
    exact ThreadPool.notifyOne_task p.pool.workers preference j

/-! ## The refinement -/

/-- `main` in front of the constructors: each source adds a task for each of its frames. -/
def start (server : Server) (stations : TrackId → Station) (num : Nat) : ThreadedProgram num where
  server := server
  stations := stations
  starting := List.replicate defaultFrameNum 0 ++ List.replicate defaultFrameNum 1

variable {server : Server} {stations : TrackId → Station}

theorem start_tidy : (start server stations num).Tidy := fun _ h => by cases h

theorem start_program : (start server stations num).program =
    { server := server
      pipelines := fun track => (stations track).pipeline defaultFrameNum 0 0 } := by
  have hrunning : ∀ track read, (start server stations num).running track read = 0 :=
    fun track read => List.countP_eq_zero.mpr fun i _ h => by cases h
  have hqueued : ∀ track, (start server stations num).queued track = defaultFrameNum := by
    intro track
    rcases trackId_cases track with rfl | rfl <;> rfl
  simp only [program, hrunning, hqueued]
  rfl

/-- **The program with its thread pool does what the program does that only counts the
tasks of each track**: with any number of workers and in any interleaving, each step of
theirs is a step of that program or none, with the same events and the same faults. -/
theorem refines_program (server : Server) (stations : TrackId → Station)
    (acts : List (ThreadedAct num)) :
    run Program.step
        { server := server, pipelines := fun track => (stations track).pipeline defaultFrameNum 0 0 }
        ((start server stations num).programRun acts) =
      (run step (start server stations num) acts).map fun r => (r.1.program, r.2) := by
  rw [← start_program]
  exact run_mirrors program programActs Tidy (fun _ _ _ _ h hstep => step_tidy h hstep)
    (fun _ act h => step_mirrors h act) start_tidy

end ThreadedProgram
end MyRtspServer.Net
