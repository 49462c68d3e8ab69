import MyRtspServer.Net.Pipeline

/-!
# Runs of the frame pipeline

Each step is at most one move of a pool of slots, so the four frames are
conserved and come out in the order in which they were read. The tasks are a
different matter: a `ReadFrame` that fills no frame uses its task up all the same.
-/
namespace MyRtspServer.Net

open Library Library.Transition

namespace Pipeline

/-! ## The pipeline is a pool -/

/-- The pool a pipeline stands for: only the frames on their way have a content. -/
def pool (p : Pipeline) : Pool FrameIndex AVFrame :=
  { free := p.source.inputQue
    ready := p.source.outputQue.map fun i => (i, p.source.frames i)
    held := p.phase.frame.map fun i => (i, p.source.frames i) }

theorem pool_slots (p : Pipeline) :
    p.pool.slots = p.source.inputQue ++ p.source.outputQue ++ p.phase.frame.toList := by
  simp [Pool.slots, pool, Function.comp_def]

/-- The frames on their way are not those of the input queue. -/
theorem front_not_held {p : Pipeline} (h : p.pool.slots.Nodup) {i : FrameIndex}
    {rest : List FrameIndex} (hque : p.source.inputQue = i :: rest) :
    i ∉ p.source.outputQue ∧ p.phase.frame ≠ some i := by
  rw [pool_slots, hque] at h
  simp only [List.cons_append, List.nodup_cons, List.mem_append, not_or, Option.mem_toList] at h
  exact ⟨h.1.1.2, h.1.2⟩

/-- Writing to the front frame of the input queue leaves the others alone. -/
theorem contents_update {p : Pipeline} {i : FrameIndex} (frame : AVFrame)
    (hout : i ∉ p.source.outputQue) (hheld : p.phase.frame ≠ some i) :
    (p.source.outputQue.map fun j => (j, Function.update p.source.frames i frame j)) =
        p.source.outputQue.map (fun j => (j, p.source.frames j)) ∧
      (p.phase.frame.map fun j => (j, Function.update p.source.frames i frame j)) =
        p.phase.frame.map fun j => (j, p.source.frames j) := by
  constructor
  · apply List.map_congr_left
    intro j hj
    have hne : j ≠ i := fun heq => hout (heq ▸ hj)
    rw [Function.update_of_ne hne]
  · cases hphase : p.phase.frame with
    | none => rfl
    | some j =>
      have hne : j ≠ i := fun heq => hheld (by rw [hphase, heq])
      rw [Option.map_some, Option.map_some, Function.update_of_ne hne]

/-- **Every step is a move of the pool**: it publishes what it filled and takes
what it obtained. -/
theorem step_move {p p' : Pipeline} {act : PipelineAct} {events : List FrameEvent}
    (hd : p.pool.slots.Nodup) (h : p.step act = .ok (p', events)) :
    Pool.Move p.pool p'.pool (filledOf events) (obtainedOf events) := by
  cases step_outcome h with
  | ignored => exact Pool.Move.stay _
  | takeTask => exact Pool.Move.stay _
  | readFrame env source events started read =>
    cases read with
    | idle => exact Pool.Move.stay _
    | failed i rest reader frame hque =>
      obtain ⟨hout, hheld⟩ := front_not_held hd hque
      obtain ⟨hready, hhold⟩ := contents_update frame hout hheld
      simp only [pool, hready, hhold, filledOf, obtainedOf]
      exact Pool.Move.stay _
    | published i rest reader frame hque =>
      obtain ⟨hout, hheld⟩ := front_not_held hd hque
      obtain ⟨hready, hhold⟩ := contents_update frame hout hheld
      simp only [pool, hque, List.map_append, hready, hhold, List.map_cons, List.map_nil,
        Function.update_self, filledOf, obtainedOf]
      exact Pool.Move.publish i rest _ _ frame
  | taskReturns => exact Pool.Move.stay _
  | getFrame i rest hphase hque =>
    simp only [pool, hphase, hque, SinkPhase.frame, Option.map_none, Option.map_some,
      List.map_cons, filledOf, obtainedOf]
    exact Pool.Move.take _ _ _
  | handleFrame i sink hphase =>
    simp only [pool, hphase, SinkPhase.frame]
    exact Pool.Move.stay _
  | putFrame i hphase =>
    simp only [pool, hphase, SinkPhase.frame, Option.map_none, Option.map_some]
    exact Pool.Move.give _ _ (i, p.source.frames i)

/-- A step writes to no frame that is in the output queue or held. -/
theorem step_protects {p p' : Pipeline} {act : PipelineAct} {events : List FrameEvent}
    (hd : p.pool.slots.Nodup) (h : p.step act = .ok (p', events)) {i : FrameIndex}
    (hi : i ∈ p.source.outputQue ∨ p.phase.frame = some i) :
    p'.source.frames i = p.source.frames i ∧ .written i ∉ events := by
  cases step_outcome h with
  | readFrame env source events started read =>
    have hother : ∀ j rest, p.source.inputQue = j :: rest → i ≠ j := by
      rintro j rest hque rfl
      obtain ⟨hout, hheld⟩ := front_not_held hd hque
      exact hi.elim hout hheld
    cases read with
    | idle => exact ⟨rfl, List.not_mem_nil⟩
    | failed j rest reader frame hque =>
      have hne := hother j rest hque
      exact ⟨Function.update_of_ne hne _ _, by simpa using hne⟩
    | published j rest reader frame hque =>
      have hne := hother j rest hque
      exact ⟨Function.update_of_ne hne _ _, by simpa using hne⟩
  | getFrame => exact ⟨rfl, by simp⟩
  | _ => exact ⟨rfl, List.not_mem_nil⟩

/-! ## Conservation and order -/

theorem run_moves {acts : List PipelineAct} : ∀ {p p' : Pipeline} {events : List FrameEvent},
    p.pool.slots.Nodup → run step p acts = .ok (p', events) →
      Pool.Moves p.pool p'.pool (filledOf events) (obtainedOf events) := by
  induction acts with
  | nil =>
    intro p p' events _ h
    cases h
    exact Pool.Moves.refl _
  | cons act acts ih =>
    intro p p' events hd h
    obtain ⟨q, first, rest, hstep, hrun, rfl⟩ := run_cons h
    have hmove := step_move hd hstep
    rw [filledOf_append, obtainedOf_append]
    exact .step hmove (ih (hmove.slots_perm.nodup_iff.mpr hd) hrun)

/-- Each of the four frames is in one place, no step writes to a frame on its
way, and what was filled is what was obtained and what still waits, in order. -/
structure Conserved (p : Pipeline) (events : List FrameEvent) : Prop where
  places : (p.source.inputQue ++ p.source.outputQue ++ p.phase.frame.toList).Perm
    (List.finRange defaultFrameNum)
  protects : ∀ act p' now, p.step act = .ok (p', now) →
    ∀ i, i ∈ p.source.outputQue ∨ p.phase.frame = some i →
      p'.source.frames i = p.source.frames i ∧ .written i ∉ now
  order : filledOf events =
    obtainedOf events ++ p.source.outputQue.map fun i => (i, p.source.frames i)

/-- **The frame pool is conserved and first in, first out** in every reachable
state, for either reader and sink and any number of workers. -/
theorem frames_conserved (frames : FrameIndex → AVFrame) (reader : Reader) (sink : Sink)
    (acts : List PipelineAct) (p : Pipeline) (events : List FrameEvent)
    (h : run step (create frames reader sink) acts = .ok (p, events)) : Conserved p events := by
  have hstart : (create frames reader sink).pool.slots = List.finRange defaultFrameNum := by
    rw [pool_slots]
    exact (List.append_nil _).trans (List.append_nil _)
  have hmoves := run_moves (by rw [hstart]; exact List.nodup_finRange _) h
  have hplaces := hmoves.slots_perm
  rw [hstart] at hplaces
  constructor
  · rw [← pool_slots]
    exact hplaces
  · intro act p' now hstep i hi
    exact step_protects (hplaces.nodup_iff.mpr (List.nodup_finRange _)) hstep hi
  · exact hmoves.fifo

def samplePipelineSink : Sink := .h264 { base := { payloadType := rtpPayloadTypeH264 }, fps := 25 }

/-- An H264 source just constructed, and its sink. -/
def sampleH264 (content : List UInt8) : Pipeline :=
  create (fun _ => {}) (.h264 { content := content }) samplePipelineSink

/-- The `read` calls of a regular file. -/
def sampleReads : ReadEnv := { answer := fun _ => some frameMaxSize }

def oneNal : List UInt8 := [0, 0, 0, 1, 0x65, 0x88]

/-- One frame all the way round, with a second worker started. -/
def oneRound : List PipelineAct :=
  [.takeTask, .takeTask, .readFrame sampleReads, .getFrame, .taskReturns, .handleFrame, .putFrame]

theorem frames_conserved_sample :
    ∃ p events, run step (sampleH264 oneNal) oneRound = .ok (p, events) ∧ Conserved p events :=
  ⟨_, _, rfl, frames_conserved (fun _ => {}) (.h264 { content := oneNal }) samplePipelineSink
    oneRound _ _ rfl⟩

/-! ## Tasks -/

/-- A read that starts with a frame to fill finds something to fill it with. -/
def ReadsFill (p : Pipeline) : PipelineAct → Prop
  | .readFrame env => 0 < p.startedTasks → ∀ i rest, p.source.inputQue = i :: rest →
      p.source.reader.readable env (p.source.frames i) = true
  | _ => True

/-- Each waiting frame has a task that will still look at the queue. -/
def Served (p : Pipeline) : Prop := p.waiting = p.queuedTasks + p.startedTasks

theorem step_served {p p' : Pipeline} {act : PipelineAct} {events : List FrameEvent}
    (hs : p.Served) (hok : p.ReadsFill act) (h : p.step act = .ok (p', events)) : p'.Served := by
  unfold Served waiting at hs ⊢
  cases step_outcome h with
  | ignored => exact hs
  | takeTask queued =>
    simp only
    omega
  | readFrame env source events started read =>
    cases read with
    | idle hque =>
      rw [hque, List.length_nil] at hs
      omega
    | failed i rest reader frame hque hno =>
      rw [hok started i rest hque] at hno
      cases hno
    | published i rest reader frame hque =>
      rw [hque, List.length_cons] at hs
      simp only
      omega
  | taskReturns => exact hs
  | getFrame => exact hs
  | handleFrame => exact hs
  | putFrame i hphase =>
    simp only [List.length_append, List.length_singleton]
    omega

/-- In every state of the run there are at least as many tasks as waiting frames,
and the pipeline is not wedged. -/
def NeverWedges (start : Pipeline) (acts : List PipelineAct) : Prop :=
  ∀ pre post p events, acts = pre ++ post → run step start pre = .ok (p, events) →
    p.waiting ≤ p.tasks ∧ ¬ p.Wedged

/-- **The pipeline never wedges** in a run all of whose reads fill their frame. -/
theorem never_wedges (frames : FrameIndex → AVFrame) (reader : Reader) (sink : Sink)
    (acts : List PipelineAct) (hok : Meets step ReadsFill (create frames reader sink) acts) :
    NeverWedges (create frames reader sink) acts := by
  intro pre post p events hacts hrun
  subst hacts
  have hserved : p.Served :=
    run_invariant Served (fun _ _ _ _ hs hok h => step_served hs hok h) (by rfl)
      (meets_append hok hrun).1 hrun
  constructor
  · unfold Served at hserved
    unfold tasks
    omega
  · rintro ⟨hwait, -, -, hqueued, hstarted⟩
    have hlen := List.length_pos_of_ne_nil hwait
    unfold Served waiting at hserved
    omega

theorem never_wedges_sample : NeverWedges (sampleH264 oneNal) oneRound := by
  apply never_wedges
  refine ⟨trivial, fun _ _ h => ?_⟩
  cases h
  refine ⟨trivial, fun _ _ h => ?_⟩
  cases h
  refine ⟨fun _ i rest hque => ?_, fun _ _ h => ?_⟩
  · cases hque
    decide
  cases h
  refine ⟨trivial, fun _ _ h => ?_⟩
  cases h
  refine ⟨trivial, fun _ _ h => ?_⟩
  cases h
  refine ⟨trivial, fun _ _ h => ?_⟩
  cases h
  exact ⟨trivial, fun _ _ _ => trivial⟩

/-- A file that does not begin with a start code, and the four tasks of the
constructor. -/
def junkRun : List PipelineAct :=
  [.takeTask, .readFrame sampleReads, .taskReturns, .takeTask, .readFrame sampleReads,
    .taskReturns, .takeTask, .readFrame sampleReads, .taskReturns, .takeTask,
    .readFrame sampleReads, .taskReturns]

theorem junk_file_wedges : ¬ NeverWedges (sampleH264 [0x11, 0x22, 0x33, 0x44]) junkRun := by
  intro h
  obtain ⟨hcount, -⟩ := h junkRun [] _ _ rfl rfl
  exact absurd hcount (by decide)

end Pipeline
end MyRtspServer.Net
