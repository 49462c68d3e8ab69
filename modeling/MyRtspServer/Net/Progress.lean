import MyRtspServer.Net.Broadcast
import MyRtspServer.Net.Threads

/-!
# The threads never lock up

Whatever the threads and the clients have done, one worker that is not blocked and the
event loop can take each track on by a packet, and no spurious wake-up is needed: a task
in the queue has a worker that is going to look at it, and a frame that waits has a task.
-/
namespace MyRtspServer.Net

open Library Library.Transition Base

/-! ## Frames and tasks of one pipeline -/

namespace Pipeline

variable {p p' : Pipeline} {act : PipelineAct}

/-- Each frame is in one place, and each that waits has a task. -/
structure Manned (p : Pipeline) : Prop where
  places : p.pool.slots.length = defaultFrameNum
  served : p.Served

theorem Manned.step {events : List FrameEvent} (h : p.Manned) (hd : p.pool.slots.Nodup)
    (hok : p.ReadsFill act) (hstep : p.step act = .ok (p', events)) : p'.Manned :=
  ⟨(step_move hd hstep).slots_perm.length_eq.trans h.places, step_served h.served hok hstep⟩

theorem manned_create (frames : FrameIndex → AVFrame) (reader : Reader) (sink : Sink) :
    (create frames reader sink).Manned :=
  ⟨by rw [create_slots, List.length_finRange], rfl⟩

/-- What a reader supplies fills the frame. -/
theorem Delivering.readsFill {admits : ReadEnv → Prop} {ready : Nat → Reader → Prop}
    {good : Nat → AVFrame → Prop} {takes : Nat → Sink → Prop} {packet : Nat → SentPacket → Prop}
    {log : List DeliveryEvent} (h : Delivering ready good takes packet p log)
    (hsupply : Supplies admits ready good) (hact : ∀ env, act = .readFrame env → admits env) :
    p.ReadsFill act := by
  cases act with
  | readFrame env =>
    intro _ i rest _
    obtain ⟨reader, filled, hread, -, -⟩ :=
      hsupply _ _ env (p.source.frames i) h.reader (hact env rfl)
    exact (readInto_published hread).symm
  | _ => trivial

/-- What the sink holds goes out. -/
theorem Delivering.sends {ready : Nat → Reader → Prop} {good : Nat → AVFrame → Prop}
    {takes : Nat → Sink → Prop} {packet : Nat → SentPacket → Prop}
    {log events : List DeliveryEvent} (h : Delivering ready good takes packet p log)
    (hships : Ships good takes packet) {i : FrameIndex} (hphase : p.phase = .got i)
    (hstep : p.stepSending .handleFrame = .ok (p', events)) : sentOf events ≠ [] := by
  simp only [stepSending] at hstep
  split at hstep
  · cases hstep
  rename_i q sent hsend
  cases hstep
  rcases sendFrame_cases hsend with ⟨-, -, hno⟩ | ⟨j, sink, hgot, hhandle, -⟩
  · exact absurd hphase (hno i)
  have hpending : p.pending = [p.source.frames j] := by
    rw [pending, hgot]
  obtain ⟨q, rfl, -, -⟩ := h.shipped hships hpending hhandle
  rw [sentOf_sent]
  exact List.cons_ne_nil _ _

/-- Where no frame is on its way they all wait. -/
theorem Manned.frames_wait (h : p.Manned) (hidle : p.phase = .idle)
    (hnone : p.source.outputQue = []) : p.source.inputQue.length = defaultFrameNum := by
  have hplaces := h.places
  rw [pool_slots, hidle, hnone] at hplaces
  simpa [SinkPhase.frame] using hplaces

/-- And then there is a task, with a worker or in the queue. -/
theorem Manned.coming (h : p.Manned) (hidle : p.phase = .idle) (hnone : p.source.outputQue = []) :
    0 < p.startedTasks ∨ 0 < p.queuedTasks := by
  have hserved := h.served
  rw [Served, waiting, h.frames_wait hidle hnone, defaultFrameNum] at hserved
  omega

end Pipeline

namespace Sources

variable {f : Sources} {track : TrackId} {p p' : Pipeline} {log events : List DeliveryEvent}
  {act : PipelineAct} {answers : Nat → Nat → WriteAnswer}

theorem delivering_readsFill (h : f.Delivering track p log)
    (hact : (ProgramAct.pipeline track act answers).ReadsWhole) : p.ReadsFill act := by
  rcases trackId_cases track with rfl | rfl
  · refine Pipeline.Delivering.readsFill h (h264_supplies f.someUnit (codesFit_of_short f.short)) ?_
    rintro env rfl
    exact hact
  · refine Pipeline.Delivering.readsFill h (aac_supplies f.someFrame) ?_
    rintro env rfl
    exact hact

theorem delivering_manned (h : f.Delivering track p log)
    (hact : (ProgramAct.pipeline track act answers).ReadsWhole) (hmanned : p.Manned)
    (hstep : p.stepSending act = .ok (p', events)) : p'.Manned := by
  have hdistinct : p.pool.slots.Nodup := by
    rcases trackId_cases track with rfl | rfl <;> exact Pipeline.Delivering.distinct h
  exact hmanned.step hdistinct (delivering_readsFill h hact) (Pipeline.stepSending_step hstep)

theorem delivering_sends (h : f.Delivering track p log) {i : FrameIndex} (hphase : p.phase = .got i)
    (hstep : p.stepSending .handleFrame = .ok (p', events)) : sentOf events ≠ [] := by
  rcases trackId_cases track with rfl | rfl
  · exact Pipeline.Delivering.sends h (h264_ships f.videoSink f.someUnit f.short) hphase hstep
  · exact Pipeline.Delivering.sends h (aac_ships f.audioSink f.someFrame f.fit) hphase hstep

end Sources

theorem Program.step_manned {f : Sources} {p p' : Program} {act : ProgramAct}
    {log events : List ProgramEvent} (h : Airing f p log) (hact : act.ReadsWhole)
    (hmanned : ∀ track, (p.pipelines track).Manned) (hstep : p.step act = .ok (p', events)) :
    ∀ track, (p'.pipelines track).Manned := by
  cases step_outcome hstep with
  | network act s effects done => exact hmanned
  | pipeline track act answers q events s effects moved done =>
    intro t
    change (Function.update p.pipelines track q t).Manned
    by_cases ht : t = track
    · subst ht
      rw [Function.update_self]
      exact Sources.delivering_manned (h.pipelines t) hact (hmanned t) moved
    · rw [Function.update_of_ne ht]
      exact hmanned t

/-! ## The program with its threads -/

variable {num : Nat}

namespace ThreadedAct

/-- `read` returns what the files hold. -/
def ReadsWhole : ThreadedAct num → Prop
  | .worker _ (.readFrame env) => ReadsAll frameMaxSize env ∧ ReadsFile env
  | _ => True

/-- No client does anything, and no worker wakes up for no reason. -/
def Unprompted : ThreadedAct num → Prop
  | .worker _ .wakeSpuriously => False
  | .main (.network _) => False
  | act => act.ReadsWhole

theorem Unprompted.readsWhole {act : ThreadedAct num} (h : act.Unprompted) : act.ReadsWhole := by
  cases act with
  | worker i act =>
    cases act with
    | readFrame env => exact h
    | _ => trivial
  | main act => trivial

end ThreadedAct

/-- The program before its first step, with `num` workers. -/
def Sources.threads (f : Sources) (frames : TrackId → FrameIndex → AVFrame) (header : AdtsHeader)
    (num : Nat) : ThreadedProgram num :=
  .start (f.start frames header).server (fun track =>
    { source := ((f.start frames header).pipelines track).source
      sink := ((f.start frames header).pipelines track).sink }) num

theorem Sources.threads_program (f : Sources) (frames : TrackId → FrameIndex → AVFrame)
    (header : AdtsHeader) : (f.threads frames header num).program = f.start frames header := by
  refine ThreadedProgram.start_program.trans (congrArg (Program.mk _) ?_)
  funext track
  rcases trackId_cases track with rfl | rfl <;> rfl

namespace ThreadedProgram

variable {f : Sources} {p p' : ThreadedProgram num} {act : ThreadedAct num}
  {log events : List ProgramEvent}

/-- What a step is to the tracks: a step of one pipeline, which reads if the worker does,
or what the network does. -/
theorem mem_programActs {a : ProgramAct} (ha : a ∈ p.programActs act) :
    (∃ track next answers, a = .pipeline track next answers ∧
        ∀ env, next = .readFrame env → ∃ i, act = .worker i (.readFrame env)) ∨
      ∃ next, a = .network next ∧ act = .main (.network next) := by
  have htakes : ∀ {events : List (PoolEvent TrackId num)}, a ∈ takes events →
      ∃ track next answers, a = .pipeline track next answers ∧
        ∀ env, next = .readFrame env → ∃ i, act = .worker i (.readFrame env) := by
    intro events ha
    obtain ⟨track, -, rfl⟩ := List.mem_map.mp ha
    exact ⟨track, _, _, rfl, fun env heq => by cases heq⟩
  cases act with
  | worker i act =>
    cases act with
    | readFrame env =>
      simp only [programActs] at ha
      split at ha
      · split at ha
        · cases ha
        refine Or.inl ⟨_, _, _, List.mem_singleton.mp ha, fun env' heq => ⟨i, ?_⟩⟩
        cases heq
        rfl
      · cases ha
    | finish =>
      simp only [programActs] at ha
      split at ha
      · split at ha
        · exact Or.inl ⟨_, _, _, List.mem_singleton.mp ha, fun env heq => by cases heq⟩
        · cases ha
      · cases ha
    | _ => exact Or.inl (htakes ha)
  | main act =>
    simp only [programActs] at ha
    split at ha
    · exact Or.inr ⟨_, List.mem_singleton.mp ha, rfl⟩
    iterate 3
      · exact Or.inl ⟨_, _, _, List.mem_singleton.mp ha, fun env heq => by cases heq⟩
    · cases ha

theorem programActs_reads (p : ThreadedProgram num) (hact : act.ReadsWhole) :
    ∀ a ∈ p.programActs act, a.ReadsWhole := by
  intro a ha
  rcases mem_programActs ha with ⟨track, next, answers, rfl, hreads⟩ | ⟨next, rfl, -⟩
  · cases next with
    | readFrame env =>
      obtain ⟨i, rfl⟩ := hreads env rfl
      rcases trackId_cases track with rfl | rfl
      · exact hact.1
      · exact hact.2
    | _ => rcases trackId_cases track with rfl | rfl <;> trivial
  · trivial

/-- Where the program with its threads stands: it delivers both files, each track has its
frames and its tasks, and the pool keeps account. -/
structure Working (f : Sources) (p : ThreadedProgram num) (log : List ProgramEvent) : Prop where
  airing : Airing f p.program log
  manned : ∀ track, (p.program.pipelines track).Manned
  tidy : p.Tidy
  pool : ∃ history, p.pool.Flagged ∧ p.pool.Conserved history
  going : p.pool.quit = false

theorem step_program (h : p.Tidy) (hstep : p.step act = .ok (p', events)) :
    run Program.step p.program (p.programActs act) = .ok (p'.program, events) :=
  (step_mirrors h act).trans (by rw [hstep]; rfl)

theorem step_working (hnum : 0 < num) (h : Working f p log) (hact : act.ReadsWhole)
    (hstep : p.step act = .ok (p', events)) : Working f p' (log ++ events) := by
  have hmirrors := step_program h.tidy hstep
  obtain ⟨hairing, hmanned⟩ := run_logged
    (fun q log => Airing f q log ∧ ∀ track, (q.pipelines track).Manned)
    (fun _ _ _ _ _ h hok hstep => ⟨Program.step_airing h.1 hok hstep,
      Program.step_manned h.1 hok h.2 hstep⟩) ⟨h.airing, h.manned⟩
    (meets_of_forall (programActs_reads p hact)) hmirrors
  have hpool : ∀ {a : PoolAct TrackId num}, p'.pool = (p.pool.act a).1 →
      ∃ history, p'.pool.Flagged ∧ p'.pool.Conserved history := by
    intro a heq
    obtain ⟨history, hflagged, hconserved⟩ := h.pool
    have hturn : p.pool.step a = .ok (p'.pool, (p.pool.act a).2) := by rw [heq]; rfl
    exact ⟨_, ThreadPool.step_flagged hflagged hturn,
      ThreadPool.step_conserved hnum hflagged hconserved hturn⟩
  have hgoing : ∀ {a : PoolAct TrackId num}, a ≠ .setQuit → p'.pool = (p.pool.act a).1 →
      p'.pool.quit = false := by
    intro a ha heq
    rw [heq, ThreadPool.act_quit _ ha, h.going]
  refine ⟨hairing, hmanned, step_tidy h.tidy hstep, ?_, ?_⟩
  · cases step_workers hstep with
    | same pool => exact pool ▸ h.pool
    | turned i a turned staying pool => exact hpool pool
    | read i track runs pool => exact pool ▸ h.pool
    | finished i done pool => exact hpool pool
    | added track preference pool => exact hpool pool
  · cases step_workers hstep with
    | same pool => exact pool ▸ h.going
    | turned i a turned staying pool => exact hgoing staying pool
    | read i track runs pool => exact pool ▸ h.going
    | finished i done pool => exact hgoing (by simp) pool
    | added track preference pool => exact hgoing (by simp) pool

theorem threads_working (f : Sources) (frames : TrackId → FrameIndex → AVFrame)
    (header : AdtsHeader) : Working f (f.threads frames header num) [] := by
  refine ⟨?_, fun track => ?_, start_tidy, ⟨[], fun hno => absurd rfl hno, ?_⟩, rfl⟩
  · rw [f.threads_program]
    exact Program.start_airing f frames header
  · rw [f.threads_program]
    rcases trackId_cases track with rfl | rfl <;> exact Pipeline.manned_create ..
  · exact ThreadPool.conserved_create

/-- Only what a client sends can be a fault. -/
theorem step_defined (h : Working f p log) (hact : act.Unprompted) :
    ∃ p' events, p.step act = .ok (p', events) := by
  have hgranted : ∀ a ∈ p.programActs act, a.ReadsWhole ∧ ∀ q : Program, q.TakenForGranted a := by
    intro a ha
    refine ⟨programActs_reads p hact.readsWhole a ha, fun q => ?_⟩
    rcases mem_programActs ha with ⟨track, next, answers, rfl, -⟩ | ⟨next, -, rfl⟩
    · trivial
    · exact hact.elim
  obtain ⟨q, events, hrun⟩ := run_defined (Airing f)
    (fun _ _ _ _ _ h hok hstep => Program.step_airing h hok.1 hstep)
    (fun q _ _ h hok => (Program.step_ok_iff h hok.1).mp (hok.2 q)) h.airing
    (meets_of_forall hgranted)
  have hmirrors := step_mirrors h.tidy act
  rw [Mirrors, hrun] at hmirrors
  cases hstep : p.step act with
  | error e =>
    rw [hstep] at hmirrors
    cases hmirrors
  | ok result => exact ⟨result.1, result.2, rfl⟩

/-! ## Stages -/

/-- The event loop and the workers can bring it about by themselves. -/
def Brings (goal : ThreadedProgram num → List ProgramEvent → Prop) (p : ThreadedProgram num) :
    Prop :=
  CanReach step (fun _ act => act.Unprompted) goal p

theorem Brings.working {goal : ThreadedProgram num → List ProgramEvent → Prop} (hnum : 0 < num)
    (h : Working f p log) (hbrings : Brings goal p) :
    Brings (fun q out => Working f q (log ++ out) ∧ goal q out) p :=
  CanReach.keeps (Working f)
    (fun _ _ _ _ _ h hact hstep => step_working hnum h hact.readsWhole hstep) h hbrings

theorem brings_started (rest : List TrackId) : ∀ {p : ThreadedProgram num}, p.starting = rest →
    Brings (fun q _ => q.starting = []) p := by
  induction rest with
  | nil => exact fun h => canReach_here h
  | cons track rest ih =>
    intro p h
    have hstep : p.step (.main (.construct [])) =
        .ok ({ p.turn (.addTask track []) with starting := rest }, []) := by
      simp only [step, mainStep, h]
    have hact : (.main (.construct []) : ThreadedAct num).Unprompted := trivial
    exact canReach_step hact hstep (ih rfl)

/-! ### A worker takes the task in front -/

/-- The event loop runs, and the track is where it was. -/
structure Still (track : TrackId) (p q : ThreadedProgram num) : Prop where
  starting : q.starting = []
  station : q.stations track = p.stations track

theorem Still.trans {track : TrackId} {p q r : ThreadedProgram num} (h : Still track p q)
    (h' : Still track q r) : Still track p r :=
  ⟨h'.starting, h'.station.trans h.station⟩

/-- The worker is on its way to the queue. -/
def Coming (q : ThreadedProgram num) (i : Fin num) : Prop :=
  q.pool.workers i = .testing ∨ q.pool.workers i = .entering ∨ q.pool.workers i = .woken

/-- A worker runs a task of the track and has not read yet. -/
def Reading (track : TrackId) (q : ThreadedProgram num) : Prop :=
  ∃ i, q.pool.workers i = .running track ∧ q.hasRead i = false

variable {track task : TrackId} {i : Fin num} {rest : List TrackId}

theorem brings_taken (track : TrackId) (hstarting : p.starting = []) (htidy : p.Tidy)
    (hgoing : p.pool.quit = false) (hque : p.pool.taskQue = task :: rest) (hcoming : p.Coming i) :
    Brings (fun q _ => Still track p q ∧ q.pool.taskQue = rest ∧
      q.pool.workers i = .running task ∧ q.hasRead i = false) p := by
  have hread : p.hasRead i = false := by
    refine htidy.unread ?_
    rcases hcoming with here | here | here <;> rw [here] <;> rfl
  have htaken : ∀ {q : ThreadedProgram num}, q.starting = [] → q.stations = p.stations →
      q.hasRead = p.hasRead → q.pool = { p.pool with taskQue := rest }.setWorker i (.running task) →
      Still track p q ∧ q.pool.taskQue = rest ∧ q.pool.workers i = .running task ∧
        q.hasRead i = false := by
    intro q hstarting hstations hsame hpool
    refine ⟨⟨hstarting, by rw [hstations]⟩, by rw [hpool]; rfl, ?_, by rw [hsame, hread]⟩
    rw [hpool, ThreadPool.setWorker_workers, Function.update_self]
  have henter : ∀ {q : ThreadedProgram num}, q.starting = [] → q.stations = p.stations →
      q.hasRead = p.hasRead → q.pool = p.pool.setWorker i .entering →
      Brings (fun q _ => Still track p q ∧ q.pool.taskQue = rest ∧
        q.pool.workers i = .running task ∧ q.hasRead i = false) q := by
    intro q hstarting hstations hsame hpool
    have hact : (.worker i .enter : ThreadedAct num).Unprompted := trivial
    refine canReach_step hact rfl (canReach_here (htaken hstarting hstations hsame ?_))
    simp [turn, ThreadPool.act, ThreadPool.takeTask, hpool, hque, hgoing, ThreadPool.setWorker]
  rcases hcoming with here | here | here
  · have hact : (.worker i .test : ThreadedAct num).Unprompted := trivial
    refine canReach_step hact rfl (henter hstarting rfl rfl ?_)
    simp [turn, ThreadPool.act, here, hgoing]
  · refine henter hstarting rfl rfl ?_
    rw [ThreadPool.setWorker, ← here, Function.update_eq_self]
  · have hact : (.worker i .resume : ThreadedAct num).Unprompted := trivial
    refine canReach_step hact rfl (canReach_here (htaken hstarting rfl rfl ?_))
    simp [turn, ThreadPool.act, ThreadPool.takeTask, here, hque, hgoing]

theorem sampleReads_whole : ReadsAll frameMaxSize Pipeline.sampleReads ∧
    ReadsFile Pipeline.sampleReads :=
  ⟨⟨frameMaxSize, rfl, Nat.le_refl _⟩, fun _ => ⟨frameMaxSize, rfl, by decide⟩⟩

theorem sampleReads_reads (track : TrackId) :
    (ProgramAct.pipeline track (.readFrame Pipeline.sampleReads) silent).ReadsWhole := by
  rcases trackId_cases track with rfl | rfl
  · exact sampleReads_whole.1
  · exact sampleReads_whole.2

/-- A worker that runs a task reads. -/
theorem read_defined (h : Working f p log) {t : TrackId} (hworker : p.pool.workers i = .running t)
    (hread : p.hasRead i = false) : ∃ station events,
      (p.stations t).readFrame Pipeline.sampleReads = .ok (station, events) ∧
        p.step (.worker i (.readFrame Pipeline.sampleReads)) =
          .ok ({ p.setStation t station with hasRead := Function.update p.hasRead i true },
            events.map fun e => .pipeline t (.frame e)) := by
  have hact : (.worker i (.readFrame Pipeline.sampleReads) : ThreadedAct num).Unprompted :=
    sampleReads_whole
  obtain ⟨p', events, hstep⟩ := step_defined h hact
  cases hstation : (p.stations t).readFrame Pipeline.sampleReads with
  | error e => simp [step, workerStep, hworker, hread, hstation] at hstep
  | ok result =>
    refine ⟨result.1, result.2, rfl, ?_⟩
    simp only [step, workerStep, hworker, hread, hstation, Bool.false_eq_true, if_false]

theorem brings_finished (track : TrackId) (hstarting : p.starting = []) {t : TrackId}
    (hworker : p.pool.workers i = .running t) (hread : p.hasRead i = true) :
    Brings (fun q _ => Still track p q ∧ q.pool.taskQue = p.pool.taskQue ∧ q.Coming i) p := by
  have hact : (.worker i .finish : ThreadedAct num).Unprompted := trivial
  have hpool : (p.pool.act (.finish i)).1 = p.pool.setWorker i .testing := by
    simp only [ThreadPool.act, hworker]
  have hstep : p.step (.worker i .finish) = .ok
      ({ p.turn (.finish i) with hasRead := Function.update p.hasRead i false }, []) := by
    simp only [step, workerStep, hread, if_true]
  refine canReach_step hact hstep (canReach_here ⟨⟨hstarting, rfl⟩, ?_, Or.inl ?_⟩)
  · simp only [turn, hpool, ThreadPool.setWorker_taskQue]
  · simp only [turn, hpool, ThreadPool.setWorker_workers, Function.update_self]

/-- A worker that is neither blocked nor gone comes to the queue, if it does not run a task
of the track. -/
theorem brings_coming (h : Working f p log) (hstarting : p.starting = [])
    (hnone : ¬ Reading track p) (hawake : p.pool.workers i ≠ .waiting)
    (hstays : p.pool.workers i ≠ .returned) :
    Brings (fun q _ => Still track p q ∧ q.pool.taskQue = p.pool.taskQue ∧ q.Coming i) p := by
  have hhere : Still track p p := ⟨hstarting, rfl⟩
  cases hworker : p.pool.workers i with
  | testing => exact canReach_here ⟨hhere, rfl, Or.inl hworker⟩
  | entering => exact canReach_here ⟨hhere, rfl, Or.inr (Or.inl hworker)⟩
  | woken => exact canReach_here ⟨hhere, rfl, Or.inr (Or.inr hworker)⟩
  | waiting => exact absurd hworker hawake
  | returned => exact absurd hworker hstays
  | running t =>
    cases hread : p.hasRead i with
    | true => exact brings_finished track hstarting hworker hread
    | false =>
      have hne : track ≠ t := by
        rintro rfl
        exact hnone ⟨i, hworker, hread⟩
      obtain ⟨station, events, -, hstep⟩ := read_defined h hworker hread
      have hact : (.worker i (.readFrame Pipeline.sampleReads) : ThreadedAct num).Unprompted :=
        sampleReads_whole
      have hstation : Still track p
          { p.setStation t station with hasRead := Function.update p.hasRead i true } :=
        ⟨hstarting, Function.update_of_ne hne ..⟩
      refine canReach_step hact hstep ?_
      refine CanReach.mono (brings_finished track hstarting hworker (Function.update_self ..)) ?_
      exact fun q _ hq => ⟨hstation.trans hq.1, hq.2⟩

/-- **A task in the queue gets its worker.** -/
theorem brings_reading (hnum : 0 < num) (que : List TrackId) :
    ∀ {p : ThreadedProgram num} {log : List ProgramEvent}, Working f p log → p.starting = [] →
      p.pool.taskQue = que → track ∈ que →
        Brings (fun q _ => Still track p q ∧ q.Reading track) p := by
  induction que with
  | nil => exact fun _ _ _ hmem => absurd hmem List.not_mem_nil
  | cons task rest ih =>
    intro p log h hstarting hque hmem
    by_cases hreading : p.Reading track
    · exact canReach_here ⟨⟨hstarting, rfl⟩, hreading⟩
    obtain ⟨history, -, hconserved⟩ := h.pool
    have hwork : p.pool.taskQue ≠ [] := hque ▸ List.cons_ne_nil _ _
    obtain ⟨i, hawake, hstays⟩ := hconserved.alert h.going hwork
    refine (Brings.working hnum h (brings_coming h hstarting hreading hawake hstays)).trans ?_
    rintro q first ⟨hq, hstill, hque', hcoming⟩
    refine (Brings.working hnum hq (brings_taken track hstill.starting hq.tidy hq.going
      (hque'.trans hque) hcoming)).trans ?_
    rintro r second ⟨hr, hstill', hrest, hworker, hread⟩
    have hboth := hstill.trans hstill'
    by_cases htask : task = track
    · subst htask
      exact canReach_here ⟨hboth, i, hworker, hread⟩
    · have hlater := (List.mem_cons.mp hmem).resolve_left (Ne.symm htask)
      refine CanReach.mono (ih hr hboth.starting hrest hlater) ?_
      exact fun t _ ht => ⟨hboth.trans ht.1, ht.2⟩

/-! ### The event loop takes a frame on -/

/-- Packets of the track go out. -/
def Sends (track : TrackId) (_ : ThreadedProgram num) (out : List ProgramEvent) : Prop :=
  packetsOn track out ≠ []

theorem Sends.later {q : ThreadedProgram num} {out : List ProgramEvent} (h : Sends track q out)
    (first : List ProgramEvent) : Sends track q (first ++ out) := by
  rw [Sends, packetsOn_append]
  exact List.append_ne_nil_of_right_ne_nil _ h

theorem sends_step (hact : act.Unprompted) (hstep : p.step act = .ok (p', events))
    (h : Brings (Sends track) p') : Brings (Sends track) p :=
  canReach_step hact hstep (CanReach.mono h fun _ _ hs => hs.later _)

theorem Brings.later {middle : ThreadedProgram num → List ProgramEvent → Prop}
    (h : Brings middle p) (hnext : ∀ q first, middle q first → Brings (Sends track) q) :
    Brings (Sends track) p :=
  CanReach.trans h fun q first hq => CanReach.mono (hnext q first hq) fun _ _ hs => hs.later _

/-- A frame the sink holds makes a packet. -/
theorem brings_handled (h : Working f p log) (hstarting : p.starting = []) {i : FrameIndex}
    (hphase : (p.stations track).phase = .got i) : Brings (Sends track) p := by
  have hact : (.main (.handleFrame track silent) : ThreadedAct num).Unprompted := trivial
  obtain ⟨p', events, hstep⟩ := step_defined h hact
  refine canReach_step hact hstep (canReach_here ?_)
  have hrun := step_program h.tidy hstep
  have hacts : p.programActs (.main (.handleFrame track silent)) =
      [.pipeline track .handleFrame silent] := by
    simp only [programActs, hstarting]
  rw [hacts] at hrun
  obtain ⟨m, first, rest, hone, hnil, rfl⟩ := run_cons hrun
  have hrest : rest = [] := by
    cases hnil
    rfl
  cases Program.step_outcome hone with
  | pipeline _ _ _ q sent s effects moved done =>
    have hsent := Sources.delivering_sends (h.airing.pipelines track) hphase moved
    rw [Sends, hrest, List.append_nil, List.append_nil, packetsOn, eventsOn_append, eventsOn_server,
      List.append_nil, eventsOn_pipeline, if_pos rfl]
    exact hsent

/-- The sink gives back the frame it has handled. -/
theorem brings_released (track : TrackId) (hstarting : p.starting = []) :
    Brings (fun q _ => q.starting = [] ∧ ∀ i, (q.stations track).phase ≠ .handled i) p := by
  cases hphase : (p.stations track).phase with
  | handled i =>
    have hact : (.main (.putFrame track []) : ThreadedAct num).Unprompted := trivial
    have hput : (p.stations track).putFrame = some { p.stations track with
        source := (p.stations track).source.putFrame i, phase := .idle } := by
      simp only [Station.putFrame, hphase]
    have hstep : p.step (.main (.putFrame track [])) =
        .ok ((p.turn (.addTask track [])).setStation track { p.stations track with
          source := (p.stations track).source.putFrame i, phase := .idle }, []) := by
      simp only [step, mainStep, hput]
      rw [hstarting]
    refine canReach_step hact hstep (canReach_here ⟨hstarting, fun j hj => ?_⟩)
    rw [setStation_station] at hj
    cases hj
  | _ => exact canReach_here ⟨hstarting, fun j hj => by rw [hphase] at hj; cases hj⟩

/-- A sink that waits takes the frame in front. -/
theorem brings_fetched (hnum : 0 < num) (h : Working f p log) (hstarting : p.starting = [])
    (hidle : (p.stations track).phase = .idle) {i : FrameIndex} {rest : List FrameIndex}
    (hque : (p.stations track).source.outputQue = i :: rest) : Brings (Sends track) p := by
  have hact : (.main (.getFrame track) : ThreadedAct num).Unprompted := trivial
  have hstep : p.step (.main (.getFrame track)) =
      .ok (p.setStation track (p.stations track).getFrame.1,
        (p.stations track).getFrame.2.map fun e => .pipeline track (.frame e)) := by
    simp only [step, mainStep]
    rw [hstarting]
  have hphase : ((p.setStation track (p.stations track).getFrame.1).stations track).phase =
      .got i := by
    rw [setStation_station]
    simp only [Station.getFrame, MediaSource.getFrame, hidle, hque]
  exact sends_step hact hstep
    (brings_handled (step_working hnum h hact.readsWhole hstep) hstarting hphase)

/-- A worker that reads for a track without frames fills one. -/
theorem brings_filled (hnum : 0 < num) (h : Working f p log) (hstarting : p.starting = [])
    (hidle : (p.stations track).phase = .idle)
    (hnone : (p.stations track).source.outputQue = []) (hreading : p.Reading track) :
    Brings (Sends track) p := by
  obtain ⟨i, hworker, hread⟩ := hreading
  obtain ⟨station, events, hstation, hstep⟩ := read_defined h hworker hread
  have hact : (.worker i (.readFrame Pipeline.sampleReads) : ThreadedAct num).Unprompted :=
    sampleReads_whole
  have hnext := step_working hnum h hact.readsWhole hstep
  have hnow : ({ p.setStation track station with
      hasRead := Function.update p.hasRead i true } : ThreadedProgram num).stations track =
        station := Function.update_self ..
  obtain ⟨source, hsource, rfl⟩ : ∃ source,
      (p.stations track).source.readFrame Pipeline.sampleReads = .ok (source, events) ∧
        station = { p.stations track with source := source } := by
    unfold Station.readFrame at hstation
    split at hstation
    · cases hstation
    · cases hstation
      exact ⟨_, ‹_›, rfl⟩
  have hstarted : 0 < p.running track false :=
    List.countP_pos_iff.mpr ⟨i, List.mem_finRange i, by simp [runs, hworker, hread, Worker.task]⟩
  have hfills := Sources.delivering_readsFill (h.airing.pipelines track) (sampleReads_reads track)
  cases MediaSource.readFrame_outcome hsource with
  | idle hempty =>
    have hwaiting := (h.manned track).frames_wait hidle hnone
    change (p.stations track).source.inputQue.length = _ at hwaiting
    rw [hempty] at hwaiting
    cases hwaiting
  | failed j rest reader frame hque hno =>
    have hyes := hfills hstarted j rest hque
    exact absurd (hyes.symm.trans hno) Bool.noConfusion
  | published j rest reader frame hque =>
    have hstill := congrArg Station.phase hnow
    have hfront := (congrArg (fun s : Station => s.source.outputQue) hnow).trans
      (congrArg (· ++ [j]) hnone)
    exact sends_step hact hstep
      (brings_fetched hnum hnext hstarting (hstill.trans hidle) hfront)

theorem reading_of_running (h : 0 < p.running track false) : p.Reading track := by
  obtain ⟨i, -, hi⟩ := List.countP_pos_iff.mp h
  rw [runs, Bool.and_eq_true, decide_eq_true_eq, beq_iff_eq] at hi
  exact ⟨i, Worker.task_eq_some.mp hi.1, hi.2⟩

/-- **The next packet**: whatever has happened, the threads can take a track on by one. -/
theorem brings_packet (hnum : 0 < num) (h : Working f p log) (track : TrackId) :
    Brings (Sends track) p := by
  refine Brings.later (Brings.working hnum h (brings_started p.starting rfl)) ?_
  rintro q first ⟨hq, hstarted⟩
  refine Brings.later (Brings.working hnum hq (brings_released track hstarted)) ?_
  rintro r second ⟨hr, hstarting, hreleased⟩
  cases hphase : (r.stations track).phase with
  | handled i => exact absurd hphase (hreleased i)
  | got i => exact brings_handled hr hstarting hphase
  | idle =>
    cases hque : (r.stations track).source.outputQue with
    | cons i rest => exact brings_fetched hnum hr hstarting hphase hque
    | nil =>
      -- all the frames wait, so there is a task: with a worker, or in the queue
      rcases (hr.manned track).coming hphase hque with hrunning | hqueued
      · exact brings_filled hnum hr hstarting hphase hque (reading_of_running hrunning)
      · have hmem : track ∈ r.pool.taskQue := by
          have hcount : 0 < (r.starting ++ r.pool.taskQue).count track := hqueued
          rw [hstarting, List.nil_append] at hcount
          exact List.count_pos_iff.mp hcount
        refine Brings.later
          (Brings.working hnum hr (brings_reading hnum _ hr hstarting rfl hmem)) ?_
        rintro t third ⟨ht, hstill, hreading⟩
        refine brings_filled hnum ht hstill.starting ?_ ?_ hreading
        · rw [hstill.station]
          exact hphase
        · rw [hstill.station]
          exact hque

/-! ## Every packet -/

/-- **The threads never lock up.** From every state that the program can reach with at
least one worker, whatever its clients and its threads have done, and for each packet of
either file there are steps of the event loop and the workers alone, without a wake-up
for no reason, after which that packet has been sent. -/
theorem never_locks_up (f : Sources) (frames : TrackId → FrameIndex → AVFrame)
    (header : AdtsHeader) (hnum : 0 < num) (acts : List (ThreadedAct num))
    (hreads : ∀ act ∈ acts, act.ReadsWhole) (p : ThreadedProgram num) (seen : List ProgramEvent)
    (hrun : run step (f.threads frames header num) acts = .ok (p, seen)) (track : TrackId)
    (n : Nat) :
    ∃ more p' later, (∀ act ∈ more, act.Unprompted) ∧ run step p more = .ok (p', later) ∧
      ∃ q, (packetsOn track (seen ++ later))[n]? = some q ∧ f.Carries track n q := by
  have hworking : Working f p ([] ++ seen) := run_logged (Working f)
    (fun _ _ _ _ _ h hact hstep => step_working hnum h hact hstep)
    (threads_working f frames header) (meets_of_forall hreads) hrun
  rw [List.nil_append] at hworking
  have hstep : ∀ (s : ThreadedProgram num) (l : ThreadedAct num) (s' : ThreadedProgram num)
      (log out : List ProgramEvent), Working f s log → l.Unprompted → s.step l = .ok (s', out) →
        Working f s' (log ++ out) := fun _ _ _ _ _ h hact hstep =>
    step_working hnum h hact.readsWhole hstep
  obtain ⟨more, p', later, hmeets, hmore, hcount⟩ := canReach_count (Working f) hstep
    (fun log => (packetsOn track log).length) (fun s log h => by
      refine CanReach.mono (brings_packet hnum h track) fun t out hsends => ?_
      rw [packetsOn_append, List.length_append]
      have hsome := List.length_pos_of_ne_nil hsends
      omega) (n + 1) hworking
  have hlast := run_logged (Working f) hstep hworking hmeets hmore
  have hsent : (packetsOn track (seen ++ later))[n]? = some (packetsOn track (seen ++ later))[n] :=
    List.getElem?_eq_getElem hcount
  exact ⟨more, p', later, forall_of_meets hmeets hmore, hmore, _, hsent,
    Sources.delivering_carries (hlast.airing.pipelines track) hsent⟩

/-- One worker blocks before the sources add their tasks, the other has taken one. -/
def sampleStart : List (ThreadedAct 2) :=
  [.worker 0 .test, .worker 0 .enter, .main (.construct [1]), .worker 1 .test,
    .worker 1 .enter]

theorem never_locks_up_sample : ∃ p seen, run step
      (Program.sampleSources.threads (fun _ _ => {}) {} 2) sampleStart = .ok (p, seen) ∧
    ∃ more p' later, (∀ act ∈ more, act.Unprompted) ∧ run step p more = .ok (p', later) ∧
      ∃ q, (packetsOn 1 (seen ++ later))[5]? = some q ∧ Program.sampleSources.Carries 1 5 q := by
  obtain ⟨p, seen, hrun, -⟩ := checkRun_true (show checkRun step
    (Program.sampleSources.threads (fun _ _ => {}) {} 2) sampleStart (fun _ _ => true) = true by
      decide +kernel)
  have hreads : ∀ act ∈ sampleStart, act.ReadsWhole := by
    intro act hact
    simp only [sampleStart, List.mem_cons, List.not_mem_nil, or_false] at hact
    rcases hact with rfl | rfl | rfl | rfl | rfl <;> trivial
  exact ⟨p, seen, hrun, never_locks_up Program.sampleSources (fun _ _ => {}) {} (by decide)
    sampleStart hreads p seen hrun 1 5⟩

end ThreadedProgram
end MyRtspServer.Net
