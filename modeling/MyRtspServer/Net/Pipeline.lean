import MyRtspServer.Library.Pool
import MyRtspServer.Library.Transition
import MyRtspServer.Net.Readers
import MyRtspServer.Net.RtpSinks

/-!
# The frame pipeline: workers, source and sink

Worker threads take `ReadFrame` tasks from the thread pool; the event loop runs
`RtpSink::TimeoutCallback`. A critical section under `m_mtx_` is one step, and so
is what a thread does between two of them, so that any interleaving is a list of
steps. Tasks of other sources pass through the same thread pool and are not
counted. A step that cannot be taken changes nothing.
-/
namespace MyRtspServer.Net

open Library Library.Transition

/-- Where the event loop is in `TimeoutCallback`. -/
inductive SinkPhase where
  | idle
  | got (i : FrameIndex)
  | handled (i : FrameIndex)
  deriving DecidableEq

/-- The frame the sink holds. -/
def SinkPhase.frame : SinkPhase → Option FrameIndex
  | .idle => none
  | .got i => some i
  | .handled i => some i

/-- A source, its sink, and the source's tasks: waiting in the thread pool, taken
by a worker that has not had its turn under `m_mtx_`, and on the way back. -/
structure Pipeline where
  source : MediaSource
  sink : Sink
  phase : SinkPhase := .idle
  queuedTasks : Nat
  startedTasks : Nat := 0
  returningTasks : Nat := 0

inductive PipelineAct where
  | takeTask
  | readFrame (env : ReadEnv)
  | taskReturns
  | getFrame
  | handleFrame
  | putFrame

namespace Pipeline

/-- The constructor of either source adds one task for each frame. -/
def create (frames : FrameIndex → AVFrame) (reader : Reader) (sink : Sink) : Pipeline :=
  { source := .create frames reader, sink := sink, queuedTasks := defaultFrameNum }

def readFrame (p : Pipeline) (env : ReadEnv) : Except RtpFault (Pipeline × List FrameEvent) :=
  if p.startedTasks = 0 then .ok (p, [])
  else
    match p.source.readFrame env with
    | .error e => .error e
    | .ok (source, events) =>
      .ok ({ p with
        source := source
        startedTasks := p.startedTasks - 1
        returningTasks := p.returningTasks + 1 }, events)

def getFrame (p : Pipeline) : Pipeline × List FrameEvent :=
  match p.phase with
  | .idle =>
    match p.source.getFrame with
    | (_, none) => (p, [])
    | (source, some i) => ({ p with source := source, phase := .got i },
        [.obtained i (p.source.frames i)])
  | _ => (p, [])

def handleFrame (p : Pipeline) : Except RtpFault Pipeline :=
  match p.phase with
  | .got i =>
    match p.sink.handleFrame (p.source.frames i) with
    | .error e => .error e
    | .ok (sink, _) => .ok { p with sink := sink, phase := .handled i }
  | _ => .ok p

/-- `PutFrame` adds the task before it lets go of `m_mtx_`. -/
def putFrame (p : Pipeline) : Pipeline :=
  match p.phase with
  | .handled i =>
    { p with source := p.source.putFrame i, phase := .idle, queuedTasks := p.queuedTasks + 1 }
  | _ => p

def step (p : Pipeline) : PipelineAct → Except RtpFault (Pipeline × List FrameEvent)
  | .takeTask =>
    if p.queuedTasks = 0 then .ok (p, [])
    else .ok ({ p with
      queuedTasks := p.queuedTasks - 1, startedTasks := p.startedTasks + 1 }, [])
  | .readFrame env => p.readFrame env
  | .taskReturns => .ok ({ p with returningTasks := p.returningTasks - 1 }, [])
  | .getFrame => .ok p.getFrame
  | .handleFrame =>
    match p.handleFrame with
    | .error e => .error e
    | .ok p => .ok (p, [])
  | .putFrame => .ok (p.putFrame, [])

/-- Frames waiting to be filled. -/
def waiting (p : Pipeline) : Nat := p.source.inputQue.length

/-- `ReadFrame` tasks queued or running. -/
def tasks (p : Pipeline) : Nat := p.queuedTasks + p.startedTasks + p.returningTasks

/-- Frames wait, no frame is on its way and no task is left to fill one. -/
def Wedged (p : Pipeline) : Prop :=
  p.source.inputQue ≠ [] ∧ p.source.outputQue = [] ∧ p.phase.frame = none ∧
    p.queuedTasks = 0 ∧ p.startedTasks = 0

end Pipeline

def filledOf : List FrameEvent → List (FrameIndex × AVFrame)
  | [] => []
  | .filled i frame :: events => (i, frame) :: filledOf events
  | _ :: events => filledOf events

def obtainedOf : List FrameEvent → List (FrameIndex × AVFrame)
  | [] => []
  | .obtained i frame :: events => (i, frame) :: obtainedOf events
  | _ :: events => obtainedOf events

theorem filledOf_append (a b : List FrameEvent) :
    filledOf (a ++ b) = filledOf a ++ filledOf b := by
  induction a with
  | nil => rfl
  | cons e a ih => cases e <;> simp [filledOf, ih]

theorem obtainedOf_append (a b : List FrameEvent) :
    obtainedOf (a ++ b) = obtainedOf a ++ obtainedOf b := by
  induction a with
  | nil => rfl
  | cons e a ih => cases e <;> simp [obtainedOf, ih]

/-! ## What a `ReadFrame` does to the source -/

namespace MediaSource

/-- The three ways `ReadFrame` returns. -/
inductive ReadOutcome (s : MediaSource) (env : ReadEnv) : MediaSource → List FrameEvent → Prop
  | idle : s.inputQue = [] → ReadOutcome s env s []
  | failed (i rest reader frame) : s.inputQue = i :: rest →
      s.reader.readable env (s.frames i) = false →
      ReadOutcome s env
        { s with reader := reader, frames := Function.update s.frames i frame } [.written i]
  | published (i rest reader frame) : s.inputQue = i :: rest →
      s.reader.readable env (s.frames i) = true →
      ReadOutcome s env
        { frames := Function.update s.frames i frame, inputQue := rest
          outputQue := s.outputQue ++ [i], reader := reader }
        [.written i, .filled i frame]

theorem readFrame_outcome {s s' : MediaSource} {env : ReadEnv} {events : List FrameEvent}
    (h : s.readFrame env = .ok (s', events)) : ReadOutcome s env s' events := by
  unfold readFrame at h
  split at h
  · rename_i hque
    cases h
    exact .idle hque
  rename_i i rest hque
  split at h
  · cases h
  rename_i filled hfilled
  have hread := readInto_published hfilled
  dsimp only at h
  split at h
  · rename_i hp
    cases h
    exact .published i rest _ _ hque (hread ▸ hp)
  · rename_i hp
    cases h
    exact .failed i rest _ _ hque (by simpa [hread] using hp)

end MediaSource

/-! ## What a step of the pipeline can do -/

namespace Pipeline

/-- A `ReadFrame` step finds no started task, or lets the source read. -/
theorem readFrame_cases {p p' : Pipeline} {env : ReadEnv} {events : List FrameEvent}
    (h : p.readFrame env = .ok (p', events)) :
    (p' = p ∧ events = [] ∧ p.startedTasks = 0) ∨
      ∃ source, 0 < p.startedTasks ∧ MediaSource.ReadOutcome p.source env source events ∧
        p' = { p with
          source := source
          startedTasks := p.startedTasks - 1
          returningTasks := p.returningTasks + 1 } := by
  unfold readFrame at h
  split at h
  · rename_i hz
    cases h
    exact Or.inl ⟨rfl, rfl, hz⟩
  · rename_i hz
    split at h
    · cases h
    · rename_i source ev hs
      cases h
      exact Or.inr ⟨source, Nat.pos_of_ne_zero hz, MediaSource.readFrame_outcome hs, rfl⟩

theorem getFrame_cases (p : Pipeline) :
    p.getFrame = (p, []) ∨ ∃ i rest, p.phase = .idle ∧ p.source.outputQue = i :: rest ∧
      p.getFrame = ({ p with source := { p.source with outputQue := rest }, phase := .got i },
        [.obtained i (p.source.frames i)]) := by
  unfold getFrame MediaSource.getFrame
  cases hphase : p.phase with
  | idle =>
    cases hque : p.source.outputQue with
    | nil => exact Or.inl rfl
    | cons i rest => exact Or.inr ⟨i, rest, rfl, rfl, rfl⟩
  | got i => exact Or.inl rfl
  | handled i => exact Or.inl rfl

theorem handleFrame_cases {p p' : Pipeline} (h : p.handleFrame = .ok p') :
    p' = p ∨ ∃ i sink, p.phase = .got i ∧ p' = { p with sink := sink, phase := .handled i } := by
  unfold handleFrame at h
  split at h
  · rename_i i hphase
    split at h
    · cases h
    · cases h
      exact Or.inr ⟨i, _, hphase, rfl⟩
  · cases h
    exact Or.inl rfl

theorem putFrame_cases (p : Pipeline) :
    p.putFrame = p ∨ ∃ i, p.phase = .handled i ∧
      p.putFrame = { p with
        source := { p.source with inputQue := p.source.inputQue ++ [i] }
        phase := .idle
        queuedTasks := p.queuedTasks + 1 } := by
  unfold putFrame MediaSource.putFrame
  cases hphase : p.phase with
  | idle => exact Or.inl rfl
  | got i => exact Or.inl rfl
  | handled i => exact Or.inr ⟨i, rfl, rfl⟩

/-- What each step does, and what it does with frames. -/
inductive Outcome (p : Pipeline) : PipelineAct → Pipeline → List FrameEvent → Prop
  | ignored (act) : Outcome p act p []
  | takeTask (queued : 0 < p.queuedTasks) :
      Outcome p .takeTask
        { p with queuedTasks := p.queuedTasks - 1, startedTasks := p.startedTasks + 1 } []
  | readFrame (env source events) (started : 0 < p.startedTasks)
      (read : MediaSource.ReadOutcome p.source env source events) :
      Outcome p (.readFrame env)
        { p with
          source := source
          startedTasks := p.startedTasks - 1
          returningTasks := p.returningTasks + 1 } events
  | taskReturns : Outcome p .taskReturns { p with returningTasks := p.returningTasks - 1 } []
  | getFrame (i rest) (phase : p.phase = .idle) (que : p.source.outputQue = i :: rest) :
      Outcome p .getFrame
        { p with source := { p.source with outputQue := rest }, phase := .got i }
        [.obtained i (p.source.frames i)]
  | handleFrame (i sink) (phase : p.phase = .got i) :
      Outcome p .handleFrame { p with sink := sink, phase := .handled i } []
  | putFrame (i) (phase : p.phase = .handled i) :
      Outcome p .putFrame
        { p with
          source := { p.source with inputQue := p.source.inputQue ++ [i] }
          phase := .idle
          queuedTasks := p.queuedTasks + 1 } []

/-- **The inversion of a step.** -/
theorem step_outcome {p p' : Pipeline} {act : PipelineAct} {events : List FrameEvent}
    (h : p.step act = .ok (p', events)) : Outcome p act p' events := by
  cases act with
  | takeTask =>
    simp only [step] at h
    split at h <;> cases h
    · exact .ignored _
    · exact .takeTask (Nat.pos_of_ne_zero ‹_›)
  | readFrame env =>
    rcases readFrame_cases h with ⟨rfl, rfl, -⟩ | ⟨source, hstarted, hread, rfl⟩
    · exact .ignored _
    · exact .readFrame env source events hstarted hread
  | taskReturns =>
    cases h
    exact .taskReturns
  | getFrame =>
    rcases getFrame_cases p with heq | ⟨i, rest, hphase, hque, heq⟩ <;>
      simp only [step, heq] at h <;> cases h
    · exact .ignored _
    · exact .getFrame i rest hphase hque
  | handleFrame =>
    simp only [step] at h
    split at h <;> cases h
    rename_i hhandle
    rcases handleFrame_cases hhandle with rfl | ⟨i, sink, hphase, rfl⟩
    · exact .ignored _
    · exact .handleFrame i sink hphase
  | putFrame =>
    rcases putFrame_cases p with heq | ⟨i, hphase, heq⟩ <;> simp only [step, heq] at h <;> cases h
    · exact .ignored _
    · exact .putFrame i hphase

end Pipeline
end MyRtspServer.Net
