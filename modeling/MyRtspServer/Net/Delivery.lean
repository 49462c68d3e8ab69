import Mathlib.Data.Fintype.Card
import MyRtspServer.Net.PipelineRuns
import MyRtspServer.Net.RtpStream

/-!
# The packets of a running pipeline

Workers fill frames while the event loop hands them to the sink. Whatever the
interleaving, the packets are those of a program with one thread, which reads one
frame after another and hands each to `HandleFrame`.
-/
namespace MyRtspServer.Net

open Library Library.Transition

/-- What is seen of a pipeline when the send callback is watched too. -/
inductive DeliveryEvent where
  | frame (event : FrameEvent)
  | sent (packet : SentPacket)

def framesOf : List DeliveryEvent → List FrameEvent
  | [] => []
  | .frame event :: events => event :: framesOf events
  | .sent _ :: events => framesOf events

def sentOf : List DeliveryEvent → List SentPacket
  | [] => []
  | .sent packet :: events => packet :: sentOf events
  | .frame _ :: events => sentOf events

theorem framesOf_append (a b : List DeliveryEvent) :
    framesOf (a ++ b) = framesOf a ++ framesOf b := by
  induction a with
  | nil => rfl
  | cons e a ih => cases e <;> simp [framesOf, ih]

theorem sentOf_append (a b : List DeliveryEvent) : sentOf (a ++ b) = sentOf a ++ sentOf b := by
  induction a with
  | nil => rfl
  | cons e a ih => cases e <;> simp [sentOf, ih]

@[simp] theorem framesOf_frame (events : List FrameEvent) :
    framesOf (events.map .frame) = events := by
  induction events with
  | nil => rfl
  | cons e events ih => exact congrArg (e :: ·) ih

@[simp] theorem framesOf_sent (packets : List SentPacket) : framesOf (packets.map .sent) = [] := by
  induction packets with
  | nil => rfl
  | cons p packets ih => exact ih

@[simp] theorem sentOf_sent (packets : List SentPacket) : sentOf (packets.map .sent) = packets := by
  induction packets with
  | nil => rfl
  | cons p packets ih => exact congrArg (p :: ·) ih

@[simp] theorem sentOf_frame (events : List FrameEvent) : sentOf (events.map .frame) = [] := by
  induction events with
  | nil => rfl
  | cons e events ih => exact ih

namespace Pipeline

/-- `HandleFrame` of `TimeoutCallback`, with what the send callback gets. -/
def sendFrame (p : Pipeline) : Except RtpFault (Pipeline × List SentPacket) :=
  match p.phase with
  | .got i =>
    match p.sink.handleFrame (p.source.frames i) with
    | .error e => .error e
    | .ok (sink, sent) => .ok ({ p with sink := sink, phase := .handled i }, sent)
  | _ => .ok (p, [])

/-- A step of the pipeline, with the packets it sends. -/
def stepSending (p : Pipeline) : PipelineAct → Except RtpFault (Pipeline × List DeliveryEvent)
  | .handleFrame =>
    match p.sendFrame with
    | .error e => .error e
    | .ok (p, sent) => .ok (p, sent.map .sent)
  | act =>
    match p.step act with
    | .error e => .error e
    | .ok (p, events) => .ok (p, events.map .frame)

/-! ## One step -/

theorem sendFrame_cases {p p' : Pipeline} {sent : List SentPacket}
    (h : p.sendFrame = .ok (p', sent)) :
    (p' = p ∧ sent = [] ∧ ∀ i, p.phase ≠ .got i) ∨
      ∃ i sink, p.phase = .got i ∧ p.sink.handleFrame (p.source.frames i) = .ok (sink, sent) ∧
        p' = { p with sink := sink, phase := .handled i } := by
  unfold sendFrame at h
  split at h
  · rename_i i hphase
    split at h
    · cases h
    · rename_i sink sent' hhandle
      cases h
      exact Or.inr ⟨i, sink, hphase, hhandle, rfl⟩
  · rename_i hphase
    cases h
    exact Or.inl ⟨rfl, rfl, hphase⟩

/-- Watching the send callback changes nothing. -/
theorem stepSending_step {p p' : Pipeline} {act : PipelineAct} {events : List DeliveryEvent}
    (h : p.stepSending act = .ok (p', events)) : p.step act = .ok (p', framesOf events) := by
  cases act with
  | handleFrame =>
    simp only [stepSending] at h
    split at h
    · cases h
    · rename_i q sent hsend
      cases h
      rw [framesOf_sent, step, handleFrame]
      rcases sendFrame_cases hsend with ⟨rfl, -, hphase⟩ | ⟨i, sink, hphase, hhandle, rfl⟩
      · cases hnow : p'.phase with
        | got i => exact absurd hnow (hphase i)
        | _ => rfl
      · simp only [hphase, hhandle]
  | _ =>
    simp only [stepSending] at h
    split at h
    · cases h
    · rename_i hstep
      cases h
      rw [framesOf_frame]
      exact hstep

theorem run_step {start p : Pipeline} {acts : List PipelineAct} {events : List DeliveryEvent}
    (h : run stepSending start acts = .ok (p, events)) :
    run step start acts = .ok (p, framesOf events) :=
  run_project framesOf rfl framesOf_append (fun _ _ _ _ hs => stepSending_step hs) h

/-- The frame the sink has obtained and not yet handled. -/
def pending (p : Pipeline) : List AVFrame :=
  match p.phase with
  | .got i => [p.source.frames i]
  | _ => []

theorem pending_of_outcome {p p' : Pipeline} {act : PipelineAct} {events : List FrameEvent}
    (hd : p.pool.slots.Nodup) (h : p.step act = .ok (p', events))
    (hquiet : act = .handleFrame → ∀ i, p.phase ≠ .got i) :
    p'.sink = p.sink ∧ p'.pending = p.pending ++ (obtainedOf events).map Prod.snd := by
  have hkept : ∀ i, p.phase = .got i → p'.source.frames i = p.source.frames i := by
    intro i hi
    exact (step_protects hd h (Or.inr (by rw [hi]; rfl))).1
  cases step_outcome h with
  | ignored => exact ⟨rfl, (List.append_nil _).symm⟩
  | takeTask queued => exact ⟨rfl, (List.append_nil _).symm⟩
  | readFrame env source events started read =>
    have hnone : obtainedOf events = [] := by
      cases read <;> rfl
    refine ⟨rfl, ?_⟩
    rw [hnone, List.map_nil, List.append_nil, Pipeline.pending, Pipeline.pending]
    cases hphase : p.phase with
    | got i =>
      have hi := hkept i hphase
      dsimp only at hi ⊢
      rw [hi]
    | _ => rfl
  | taskReturns => exact ⟨rfl, (List.append_nil _).symm⟩
  | getFrame i rest hphase hque =>
    refine ⟨rfl, ?_⟩
    rw [Pipeline.pending, Pipeline.pending, hphase]
    rfl
  | handleFrame i sink hphase => exact absurd hphase (hquiet rfl i)
  | putFrame i hphase =>
    refine ⟨rfl, ?_⟩
    rw [Pipeline.pending, Pipeline.pending, hphase]
    rfl

/-- **Only `HandleFrame` sends**, and it sends what the sink makes of the frame it holds. -/
theorem stepSending_cases {p p' : Pipeline} {act : PipelineAct} {events : List DeliveryEvent}
    (hd : p.pool.slots.Nodup) (h : p.stepSending act = .ok (p', events)) :
    (sentOf events = [] ∧ p'.sink = p.sink ∧
        p'.pending = p.pending ++ (obtainedOf (framesOf events)).map Prod.snd) ∨
      ∃ frame, p.pending = [frame] ∧ p'.pending = [] ∧ framesOf events = [] ∧
        p.sink.handleFrame frame = .ok (p'.sink, sentOf events) := by
  have hstep := stepSending_step h
  cases act with
  | handleFrame =>
    simp only [stepSending] at h
    split at h
    · cases h
    · rename_i q sent hsend
      cases h
      rcases sendFrame_cases hsend with ⟨rfl, rfl, hphase⟩ | ⟨i, sink, hphase, hhandle, rfl⟩
      · exact Or.inl ⟨rfl, pending_of_outcome hd hstep fun _ => hphase⟩
      · refine Or.inr ⟨p.source.frames i, by rw [Pipeline.pending, hphase], rfl, framesOf_sent _, ?_⟩
        rw [sentOf_sent]
        exact hhandle
  | _ =>
    have hrest := pending_of_outcome hd hstep fun hact => by cases hact
    refine Or.inl ⟨?_, hrest⟩
    simp only [stepSending] at h
    split at h
    · cases h
    · cases h
      exact sentOf_frame _

/-! ## The whole run -/

/-- What a program with one thread would do: it hands some frames to the sink, one after
the other, and has read at most four frames more. -/
structure Sequential (sink : Sink) (p : Pipeline) (events : List DeliveryEvent)
    (handed : List AVFrame) : Prop where
  sends : run Sink.handleFrame sink handed = .ok (p.sink, sentOf events)
  ahead : ∃ rest, (filledOf (framesOf events)).map Prod.snd = handed ++ rest ∧
    rest.length ≤ defaultFrameNum

/-- The sink has handled what was obtained, up to the frame it holds. -/
def Handing (sink : Sink) (p : Pipeline) (log : List DeliveryEvent) : Prop :=
  ∃ handed, (obtainedOf (framesOf log)).map Prod.snd = handed ++ p.pending ∧
    run Sink.handleFrame sink handed = .ok (p.sink, sentOf log)

theorem step_handing {sink : Sink} {p p' : Pipeline} {act : PipelineAct}
    {log events : List DeliveryEvent} (hd : p.pool.slots.Nodup) (h : Handing sink p log)
    (hstep : p.stepSending act = .ok (p', events)) : Handing sink p' (log ++ events) := by
  obtain ⟨handed, hobtained, hrun⟩ := h
  rw [Handing, framesOf_append, sentOf_append, obtainedOf_append, List.map_append, hobtained]
  rcases stepSending_cases hd hstep with ⟨hsent, hsink, hpending⟩ |
    ⟨frame, hpending, hpending', hframes, hhandle⟩
  · refine ⟨handed, ?_, ?_⟩
    · rw [hpending, List.append_assoc]
    · rw [hsink, hsent, List.append_nil]
      exact hrun
  · refine ⟨handed ++ [frame], ?_, ?_⟩
    · rw [hpending, hpending', hframes]
      rfl
    · refine run_append_ok hrun ?_
      rw [run, hhandle]
      simp only [run, List.append_nil]

/-- At most four frames are on their way. -/
theorem on_the_way_le {p : Pipeline} (hd : p.pool.slots.Nodup) :
    (p.pending ++ p.pool.ready.map Prod.snd).length ≤ defaultFrameNum := by
  have hlength := List.Nodup.length_le_card hd
  have hheld : p.pending.length ≤ (p.phase.frame.toList).length := by
    rw [Pipeline.pending]
    cases p.phase <;> simp [SinkPhase.frame]
  rw [pool_slots, Fintype.card_fin] at hlength
  simp only [List.length_append, List.length_map, pool] at hlength ⊢
  omega

theorem create_slots (frames : FrameIndex → AVFrame) (reader : Reader) (sink : Sink) :
    (create frames reader sink).pool.slots = List.finRange defaultFrameNum := by
  rw [pool_slots]
  exact (List.append_nil _).trans (List.append_nil _)

/-- **The threads of a pipeline do what one thread would do.** -/
theorem sends_sequentially (frames : FrameIndex → AVFrame) (reader : Reader) (sink : Sink)
    (acts : List PipelineAct) (p : Pipeline) (events : List DeliveryEvent)
    (h : run stepSending (create frames reader sink) acts = .ok (p, events)) :
    ∃ handed, Sequential sink p events handed := by
  have hmoves := run_moves (by rw [create_slots]; exact List.nodup_finRange _) (run_step h)
  have hinv : (p.pool.slots).Nodup ∧ Handing sink p ([] ++ events) := by
    refine run_logged (fun p log => (p.pool.slots).Nodup ∧ Handing sink p log) ?_ ?_ meets_true h
    · rintro s act s' log out ⟨hd, hlog⟩ - hs
      have hmove := step_move hd (stepSending_step hs)
      exact ⟨hmove.slots_perm.nodup_iff.mpr hd, step_handing hd hlog hs⟩
    · refine ⟨by rw [create_slots]; exact List.nodup_finRange _, [], rfl, rfl⟩
  obtain ⟨hd, handed, hobtained, hrun⟩ := hinv
  rw [List.nil_append] at hobtained hrun
  refine ⟨handed, hrun, p.pending ++ p.pool.ready.map Prod.snd, ?_, ?_⟩
  · have hfifo := hmoves.fifo
    have hempty : (create frames reader sink).pool.ready = [] := rfl
    rw [hempty, List.nil_append] at hfifo
    rw [hfifo, List.map_append, hobtained, List.append_assoc]
  · exact on_the_way_le hd

theorem sends_sequentially_sample : ∃ p events, run stepSending (sampleH264 oneNal) oneRound =
    .ok (p, events) ∧ ∃ handed, Sequential samplePipelineSink p events handed :=
  ⟨_, _, rfl, sends_sequentially (fun _ => {}) (.h264 { content := oneNal }) samplePipelineSink
    oneRound _ _ rfl⟩

/-! ## A reader and a sink that fit together -/

section Fit

variable (admits : ReadEnv → Prop) (ready : Nat → Reader → Prop) (good : Nat → AVFrame → Prop)
  (takes : Nat → Sink → Prop) (packet : Nat → SentPacket → Prop)

/-- Frame `m` of the reader is what `good` says, and the reader is ready for the next. -/
def Supplies : Prop :=
  ∀ m reader env frame, ready m reader → admits env → ∃ reader' filled,
    reader.readInto env frame = .ok ⟨reader', filled, true⟩ ∧ ready (m + 1) reader' ∧ good m filled

/-- The sink makes one packet of frame `m`, and takes the next one. -/
def Ships : Prop :=
  ∀ m sink frame, takes m sink → good m frame → ∃ sink' q,
    sink.handleFrame frame = .ok (sink', [q]) ∧ takes (m + 1) sink' ∧ packet m q

/-- Where a pipeline stands whose reader supplies what its sink ships. -/
structure Delivering (p : Pipeline) (log : List DeliveryEvent) : Prop where
  distinct : p.pool.slots.Nodup
  fifo : filledOf (framesOf log) = obtainedOf (framesOf log) ++ p.pool.ready
  reader : ready (filledOf (framesOf log)).length p.source.reader
  filled : ∀ k f, (filledOf (framesOf log))[k]? = some f → good k f.2
  handed : ∃ handed : List AVFrame, handed.length = (sentOf log).length ∧
    (obtainedOf (framesOf log)).map Prod.snd = handed ++ p.pending
  sink : takes (sentOf log).length p.sink
  sent : ∀ k q, (sentOf log)[k]? = some q → packet k q

/-- No step runs into a fault, packet `k` is the one of frame `k`, and at most four frames
have been read that are not sent yet. -/
structure Delivers (start : Pipeline) (acts : List PipelineAct) : Prop where
  defined : ∃ p events, run stepSending start acts = .ok (p, events)
  sent : ∀ p events, run stepSending start acts = .ok (p, events) →
    (∀ k q, (sentOf events)[k]? = some q → packet k q) ∧
      (filledOf (framesOf events)).length ≤ (sentOf events).length + defaultFrameNum

variable {admits ready good takes packet} {p p' : Pipeline} {act : PipelineAct}
  {log events : List DeliveryEvent}

theorem getElem?_concat {α : Type} {l : List α} {a b : α} {k : Nat}
    (h : (l ++ [a])[k]? = some b) : l[k]? = some b ∨ k = l.length ∧ b = a := by
  rcases Nat.lt_or_ge k l.length with hlt | hge
  · rw [List.getElem?_append_left hlt] at h
    exact Or.inl h
  · rw [List.getElem?_append_right hge, List.getElem?_singleton] at h
    split at h
    · cases h
      exact Or.inr ⟨by omega, rfl⟩
    · cases h

/-- A `ReadFrame` step with a frame to fill publishes the next one. -/
theorem readFrame_supplied (hsupply : Supplies admits ready good) {env : ReadEnv} {m : Nat}
    (hready : ready m p.source.reader) (henv : admits env) :
    (∃ q, p.readFrame env = .ok (q, []) ∧ q.source.reader = p.source.reader) ∨
      ∃ q i frame, p.readFrame env = .ok (q, [.written i, .filled i frame]) ∧ good m frame ∧
        ready (m + 1) q.source.reader := by
  rw [readFrame]
  split
  · exact Or.inl ⟨p, rfl, rfl⟩
  cases hque : p.source.inputQue with
  | nil =>
    have hidle : p.source.readFrame env = .ok (p.source, []) := by
      rw [MediaSource.readFrame, hque]
    rw [hidle]
    exact Or.inl ⟨_, rfl, rfl⟩
  | cons i rest =>
    obtain ⟨reader', filled, hread, hnext, hgood⟩ :=
      hsupply m p.source.reader env (p.source.frames i) hready henv
    have hsource : p.source.readFrame env = .ok
        ({ frames := Function.update p.source.frames i filled, inputQue := rest
           outputQue := p.source.outputQue ++ [i], reader := reader' },
          [.written i, .filled i filled]) := by
      rw [MediaSource.readFrame, hque]
      simp only [hread, if_true]
    rw [hsource]
    exact Or.inr ⟨_, i, filled, rfl, hgood, hnext⟩

theorem step_supplied (hsupply : Supplies admits ready good) {m : Nat}
    {events : List FrameEvent} (hready : ready m p.source.reader)
    (hact : ∀ env, act = .readFrame env → admits env) (h : p.step act = .ok (p', events)) :
    (filledOf events = [] ∧ p'.source.reader = p.source.reader) ∨
      ∃ i frame, filledOf events = [(i, frame)] ∧ good m frame ∧ ready (m + 1) p'.source.reader := by
  cases act with
  | readFrame env =>
    rcases readFrame_supplied hsupply hready (hact env rfl) with ⟨q, hread, hsame⟩ |
      ⟨q, i, frame, hread, hgood, hnext⟩
    · rw [step, hread] at h
      cases h
      exact Or.inl ⟨rfl, hsame⟩
    · rw [step, hread] at h
      cases h
      exact Or.inr ⟨i, frame, rfl, hgood, hnext⟩
  | _ => exact Or.inl (by cases step_outcome h <;> exact ⟨rfl, rfl⟩)

/-- What the sink holds is frame `m` when `m` packets have gone out. -/
theorem Delivering.pending_good (h : Delivering ready good takes packet p log) {frame : AVFrame}
    (hpending : p.pending = [frame]) : good (sentOf log).length frame := by
  obtain ⟨handed, hlength, hobtained⟩ := h.handed
  rw [hpending] at hobtained
  have hlast : ((filledOf (framesOf log)).map Prod.snd)[(sentOf log).length]? = some frame := by
    rw [h.fifo, List.map_append, hobtained, ← hlength]
    simp
  rw [List.getElem?_map, Option.map_eq_some_iff] at hlast
  obtain ⟨f, hf, rfl⟩ := hlast
  exact h.filled _ f hf

theorem Delivering.shipped (h : Delivering ready good takes packet p log)
    (hships : Ships good takes packet) {frame : AVFrame} (hpending : p.pending = [frame])
    {sink : Sink} {sent : List SentPacket} (hhandle : p.sink.handleFrame frame = .ok (sink, sent)) :
    ∃ q, sent = [q] ∧ takes ((sentOf log).length + 1) sink ∧ packet (sentOf log).length q := by
  obtain ⟨sink', q, hship, hnext, hpacket⟩ := hships _ _ _ h.sink (h.pending_good hpending)
  rw [hhandle] at hship
  cases hship
  exact ⟨q, rfl, hnext, hpacket⟩

theorem Delivering.step (h : Delivering ready good takes packet p log)
    (hsupply : Supplies admits ready good) (hships : Ships good takes packet)
    (hact : ∀ env, act = .readFrame env → admits env)
    (hstep : p.stepSending act = .ok (p', events)) :
    Delivering ready good takes packet p' (log ++ events) := by
  have hplain := stepSending_step hstep
  have hmove := step_move h.distinct hplain
  have hread := step_supplied hsupply h.reader hact hplain
  have hcases := stepSending_cases h.distinct hstep
  obtain ⟨handed, hlength, hobtained⟩ := h.handed
  constructor
  · exact hmove.slots_perm.nodup_iff.mpr h.distinct
  · rw [framesOf_append, filledOf_append, obtainedOf_append, h.fifo, List.append_assoc,
      hmove.fifo, List.append_assoc]
  · rw [framesOf_append, filledOf_append, List.length_append]
    rcases hread with ⟨hnone, hsame⟩ | ⟨i, frame, hone, -, hnext⟩
    · rw [hnone, hsame]
      exact h.reader
    · rw [hone]
      exact hnext
  · intro k f hk
    rw [framesOf_append, filledOf_append] at hk
    rcases hread with ⟨hnone, -⟩ | ⟨i, frame, hone, hgood, -⟩
    · rw [hnone, List.append_nil] at hk
      exact h.filled k f hk
    · rw [hone] at hk
      rcases getElem?_concat hk with hk | ⟨rfl, rfl⟩
      · exact h.filled k f hk
      · exact hgood
  · rw [framesOf_append, obtainedOf_append, sentOf_append, List.map_append, hobtained]
    rcases hcases with ⟨hsent, -, hpending⟩ | ⟨frame, hpending, hpending', hframes, hhandle⟩
    · refine ⟨handed, ?_, ?_⟩
      · rw [hsent, List.append_nil, hlength]
      · rw [hpending, List.append_assoc]
    · obtain ⟨q, hsent, -, -⟩ := h.shipped hships hpending hhandle
      refine ⟨handed ++ [frame], ?_, ?_⟩
      · rw [List.length_append, List.length_append, hlength, hsent]
        rfl
      · rw [hpending, hpending', hframes]
        rfl
  · rw [sentOf_append, List.length_append]
    rcases hcases with ⟨hsent, hsink, -⟩ | ⟨frame, hpending, -, -, hhandle⟩
    · rw [hsent, hsink]
      exact h.sink
    · obtain ⟨q, hsent, hnext, -⟩ := h.shipped hships hpending hhandle
      rw [hsent]
      exact hnext
  · intro k q hk
    rw [sentOf_append] at hk
    rcases hcases with ⟨hsent, -, -⟩ | ⟨frame, hpending, -, -, hhandle⟩
    · rw [hsent, List.append_nil] at hk
      exact h.sent k q hk
    · obtain ⟨q', hsent, -, hpacket⟩ := h.shipped hships hpending hhandle
      rw [hsent] at hk
      rcases getElem?_concat hk with hk | ⟨rfl, rfl⟩
      · exact h.sent k q hk
      · exact hpacket

theorem stepSending_of_step {events : List FrameEvent} (hact : act ≠ .handleFrame)
    (h : p.step act = .ok (p', events)) :
    p.stepSending act = .ok (p', events.map DeliveryEvent.frame) := by
  cases act with
  | handleFrame => exact absurd rfl hact
  | _ => simp only [stepSending, h]

/-- No step runs into a fault. -/
theorem Delivering.defined (h : Delivering ready good takes packet p log)
    (hsupply : Supplies admits ready good) (hships : Ships good takes packet)
    (hact : ∀ env, act = .readFrame env → admits env) :
    ∃ p' events, p.stepSending act = .ok (p', events) := by
  cases act with
  | handleFrame =>
    cases hphase : p.phase with
    | got i =>
      have hpending : p.pending = [p.source.frames i] := by
        rw [pending, hphase]
      obtain ⟨sink', q, hship, -, -⟩ := hships _ _ _ h.sink (h.pending_good hpending)
      exact ⟨_, _, by simp only [stepSending, sendFrame, hphase, hship]; rfl⟩
    | _ => exact ⟨_, _, by simp only [stepSending, sendFrame, hphase]; rfl⟩
  | readFrame env =>
    rcases readFrame_supplied hsupply h.reader (hact env rfl) with ⟨q, hread, -⟩ |
      ⟨q, i, frame, hread, -, -⟩
    · exact ⟨_, _, stepSending_of_step (by simp) hread⟩
    · exact ⟨_, _, stepSending_of_step (by simp) hread⟩
  | takeTask =>
    by_cases hnone : p.queuedTasks = 0
    · exact ⟨_, _, stepSending_of_step (by simp) (if_pos hnone)⟩
    · exact ⟨_, _, stepSending_of_step (by simp) (if_neg hnone)⟩
  | _ => exact ⟨_, _, rfl⟩

theorem delivering_create {reader : Reader} {sink : Sink} (hreader : ready 0 reader)
    (hsink : takes 0 sink) (frames : FrameIndex → AVFrame) :
    Delivering ready good takes packet (create frames reader sink) [] := by
  refine ⟨?_, rfl, hreader, ?_, ⟨[], rfl, rfl⟩, hsink, ?_⟩
  · rw [create_slots]
    exact List.nodup_finRange _
  · intro k f hk
    cases hk
  · intro k q hk
    cases hk

/-- **A reader and a sink that fit together make a pipeline that delivers**: frame by
frame, in order and without a fault, whatever the threads do in between. -/
theorem delivers (hsupply : Supplies admits ready good) (hships : Ships good takes packet)
    {reader : Reader} {sink : Sink} (hreader : ready 0 reader) (hsink : takes 0 sink)
    (frames : FrameIndex → AVFrame) {acts : List PipelineAct}
    (hacts : ∀ env, .readFrame env ∈ acts → admits env) :
    Delivers packet (create frames reader sink) acts := by
  have hok : ∀ act ∈ acts, ∀ env, act = .readFrame env → admits env :=
    fun act hact env heq => hacts env (heq ▸ hact)
  have hfirst : Delivering ready good takes packet (create frames reader sink) [] :=
    delivering_create hreader hsink frames
  have hmeets := @meets_of_forall _ _ _ _ stepSending _ _ hok (create frames reader sink)
  constructor
  · exact run_defined (Delivering ready good takes packet)
      (fun _ _ _ _ _ h hact hs => h.step hsupply hships hact hs)
      (fun _ _ _ h hact => h.defined hsupply hships hact) hfirst hmeets
  · intro p events hrun
    have hlast := run_logged (Delivering ready good takes packet)
      (fun _ _ _ _ _ h hact hs => h.step hsupply hships hact hs) hfirst hmeets hrun
    rw [List.nil_append] at hlast
    refine ⟨hlast.sent, ?_⟩
    obtain ⟨handed, hlength, hobtained⟩ := hlast.handed
    have hread := congrArg (fun l => (l.map Prod.snd).length) hlast.fifo
    have hway := on_the_way_le hlast.distinct
    simp only [List.map_append, hobtained, List.append_assoc, List.length_append,
      List.length_map] at hread hway
    omega

end Fit

end Pipeline
end MyRtspServer.Net
