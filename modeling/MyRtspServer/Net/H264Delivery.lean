import MyRtspServer.Net.Delivery
import MyRtspServer.Net.H264Demux

/-!
# From an Annex B file to RTP packets

The whole way of a video: the reader takes NAL units from the file, the pool hands
them on, the sink sends them. With units of at most `RTP_MAX_PKT_SIZE` bytes each
packet is one unit, and the packets are the units of the file in order, over and over
again, however the threads interleave.
-/
namespace MyRtspServer.Net

open Library Library.AnnexB Library.RtpFormat

/-! ## The units of the file, counted around -/

/-- Unit `k` of the passes over the file. -/
def nalAt (units : List NalUnit) (k : Nat) : Octets :=
  ((units[k % units.length]?).map NalUnit.nal).getD []

/-- The NAL header says that this is a parameter set. -/
def isParameterSet (nal : Octets) : Prop := nal.headD 0 &&& 0x1f = 7 ∨ nal.headD 0 &&& 0x1f = 8

instance (nal : Octets) : Decidable (isParameterSet nal) := inferInstanceAs (Decidable (_ ∨ _))

/-- The time stamp of unit `k`: a parameter set does not move the clock. -/
def unitClock (step : UInt32) (units : List NalUnit) : Nat → UInt32
  | 0 => 0
  | k + 1 => unitClock step units k + if isParameterSet (nalAt units k) then 0 else step

theorem nalAt_nal {units : List NalUnit} (hne : units ≠ []) (k : Nat) :
    ∃ u ∈ units, nalAt units k = u.nal := by
  have hlt : k % units.length < units.length := Nat.mod_lt _ (List.length_pos_of_ne_nil hne)
  refine ⟨units[k % units.length], List.getElem_mem hlt, ?_⟩
  rw [nalAt, List.getElem?_eq_getElem hlt]
  rfl

/-! ## A unit in a frame -/

/-- A frame that holds a NAL unit, behind its start code. -/
structure UnitFrame (nal : Octets) (frame : AVFrame) : Prop where
  held : frame.nal = nal
  nonempty : nal ≠ []
  offset : frame.frame ≤ 4

theorem UnitFrame.frameSize {frame : AVFrame} {nal : Octets} (h : UnitFrame nal frame) :
    frame.frameSize = nal.length := by
  have hlength := congrArg List.length h.held
  rw [AVFrame.nal, Memory.load_length] at hlength
  have hpos := List.length_pos_of_ne_nil h.nonempty
  omega

theorem UnitFrame.isParameterSet_iff {frame : AVFrame} {nal : Octets} (h : UnitFrame nal frame) :
    H264RtpSink.IsParameterSet frame ↔ isParameterSet nal := by
  have hsize := h.frameSize
  have hpos := List.length_pos_of_ne_nil h.nonempty
  have hfirst : nal.headD 0 = frame.buffer frame.frame := by
    rw [← h.held, AVFrame.nal, hsize, Int.toNat_natCast]
    obtain ⟨n, hn⟩ : ∃ n, nal.length = n + 1 := ⟨nal.length - 1, by omega⟩
    rw [hn, Nat.add_comm, Memory.load_add]
    rfl
  rw [H264RtpSink.IsParameterSet, isParameterSet, hfirst]

theorem UnitFrame.inBuffer {frame : AVFrame} {nal : Octets} (h : UnitFrame nal frame)
    (hshort : nal.length ≤ rtpMaxPktSize) : H264RtpSink.InBuffer frame := by
  have hsize := h.frameSize
  have hoffset := h.offset
  have hmax : 4 + rtpMaxPktSize ≤ frameMaxSize := by decide
  refine ⟨by omega, ?_⟩
  rw [if_pos (by omega)]
  omega

/-! ## The reader -/

theorem h264ReadInto_offset {file : File} {env : ReadEnv} {frame : AVFrame} {filled : Filled}
    (h : h264ReadInto file env frame = .ok filled) (hp : filled.published = true) :
    filled.frame.frame ≤ 4 := by
  unfold h264ReadInto at h
  split at h
  · cases h
  dsimp only at h
  split at h
  · cases h
    cases hp
  split at h
  · cases h
  · cases h
    exact Nat.le_succ 3
  · cases h
    exact Nat.le_refl 4

/-- The reader supplies the units one after the other. -/
theorem h264_supplies {units : List NalUnit} (hne : units ≠ []) (hfit : CodesFit units) :
    Pipeline.Supplies (ReadsAll frameMaxSize)
      (fun m reader => reader = readerAt units (m % units.length))
      (fun m frame => UnitFrame (nalAt units m) frame) := by
  intro m reader env frame hreader henv
  have hlt : m % units.length < units.length := Nat.mod_lt _ (List.length_pos_of_ne_nil hne)
  obtain ⟨filled, hread, hnal⟩ := readInto_unit henv frame hlt (hfit _ _ _ (units_split hlt))
  rw [Nat.mod_add_mod] at hread
  refine ⟨_, filled, by rw [hreader]; exact hread, rfl, ?_, ?_, h264ReadInto_offset hread rfl⟩
  · rw [hnal, nalAt, List.getElem?_eq_getElem hlt]
    rfl
  · obtain ⟨u, -, hu⟩ := nalAt_nal hne m
    rw [hu]
    exact u.nonempty

theorem codesFit_of_short {units : List NalUnit}
    (hshort : ∀ u ∈ units, u.nal.length ≤ rtpMaxPktSize) : CodesFit units := by
  rintro pre u later rfl
  have hlength := hshort u (by simp)
  have hbytes := u.bytes_length
  have hcode := u.code_length
  have hmax : 8 + rtpMaxPktSize ≤ frameMaxSize := by decide
  have hnext : (later.head?.elim [] NalUnit.code).length ≤ 4 := by
    cases later with
    | nil => exact Nat.zero_le 4
    | cons v more =>
      change v.code.length ≤ 4
      rw [v.code_length]
      split <;> omega
  rw [CodeFits, List.length_append, hbytes, hcode]
  split <;> omega

/-! ## The sink -/

/-- The sink when it has sent `m` units. -/
def H264SinkAt (start : H264RtpSink) (units : List NalUnit) (m : Nat) : Sink → Prop
  | .h264 sink => sink.timeStep = start.timeStep ∧
      sink.base = { start.base.after m with timeStamp := unitClock start.timeStep units m }
  | .aac _ => False

theorem h264SinkAt_zero {start : H264RtpSink} (hstart : (Sink.h264 start).Constructed)
    (units : List NalUnit) : H264SinkAt start units 0 (.h264 start) := by
  refine ⟨rfl, ?_⟩
  rw [RtpSink.after_zero]
  cases hstart
  rfl

/-- Packet `k` carries unit `k`, with its number and its time stamp. -/
def UnitPacket (start : H264RtpSink) (units : List NalUnit) (k : Nat) (q : SentPacket) : Prop :=
  decode q.bytes = some (Sink.packetHeader (.h264 start) k (unitClock start.timeStep units k),
    nalAt units k)

/-- A short unit goes out as one packet. -/
theorem H264RtpSink.handleFrame_unit {s : H264RtpSink} {frame : AVFrame} {nal : Octets}
    (h : UnitFrame nal frame) (hshort : nal.length ≤ rtpMaxPktSize) :
    ∃ r, s.handleFrame frame = .ok r ∧ r.sent = [s.base.packet nal] ∧
      r.sink.timeStep = s.timeStep ∧ r.sink.base = { s.base.after 1 with
        timeStamp := s.base.timeStamp + if isParameterSet nal then 0 else s.timeStep } := by
  obtain ⟨r, hr, handled⟩ := handleFrame_handled s (h.inBuffer hshort)
  have hsize := h.frameSize
  have hload : frame.buffer.load frame.frame nal.length = nal := by
    have hheld := h.held
    rwa [AVFrame.nal, hsize, Int.toNat_natCast] at hheld
  have hpayloads : payloads frame = [nal] := by
    rw [payloads_short hsize hshort, hload]
  refine ⟨r, hr, ?_, handled.timeStep, ?_⟩
  · rw [handled.sent, hpayloads]
    rfl
  · have hfits : frame.frameSize ≤ rtpMaxPktSize := by omega
    rw [handled.base, hpayloads, List.length_singleton]
    simp only [h.isParameterSet_iff, hfits, true_and]
    split
    · exact congrArg (fun t => { s.base.after 1 with timeStamp := t }) (UInt32.add_zero _).symm
    · rfl

theorem h264_ships {start : H264RtpSink} (hstart : (Sink.h264 start).Constructed)
    {units : List NalUnit} (hne : units ≠ [])
    (hshort : ∀ u ∈ units, u.nal.length ≤ rtpMaxPktSize) :
    Pipeline.Ships (fun m frame => UnitFrame (nalAt units m) frame) (H264SinkAt start units)
      (UnitPacket start units) := by
  intro m sink frame hsink hframe
  cases sink with
  | aac sink => exact hsink.elim
  | h264 sink =>
    obtain ⟨hstep, hbase⟩ := hsink
    obtain ⟨u, hu, hnal⟩ := nalAt_nal hne m
    obtain ⟨r, hr, hsent, htimeStep, hnext⟩ :=
      H264RtpSink.handleFrame_unit (s := sink) hframe (hnal ▸ hshort u hu)
    refine ⟨.h264 r.sink, sink.base.packet (nalAt units m), ?_, ⟨htimeStep.trans hstep, ?_⟩, ?_⟩
    · simp only [Sink.handleFrame, hr, hsent]
    · rw [hnext, hstep, hbase, ← RtpSink.after_after]
      rfl
    · rw [UnitPacket, RtpSink.decode_packet, hbase]
      exact congrArg (fun header => some (header, nalAt units m)) (hstart.fields m _)

/-! ## The whole way -/

/-- **A file of short units is sent unit by unit**, in order, over any number of passes and
whatever the threads do in between. -/
theorem h264_delivered (start : H264RtpSink) (hstart : (Sink.h264 start).Constructed)
    (units : List NalUnit) (hne : units ≠ [])
    (hshort : ∀ u ∈ units, u.nal.length ≤ rtpMaxPktSize) (frames : FrameIndex → AVFrame)
    (acts : List PipelineAct) (hreads : ∀ env, .readFrame env ∈ acts → ReadsAll frameMaxSize env) :
    Pipeline.Delivers (UnitPacket start units)
      (.create frames (.h264 { content := stream units }) (.h264 start)) acts := by
  refine Pipeline.delivers (h264_supplies hne (codesFit_of_short hshort))
    (h264_ships hstart hne hshort) ?_ (h264SinkAt_zero hstart units) frames hreads
  rw [readerAt, Nat.zero_mod]
  rfl

/-- Two rounds over a file of two units. -/
theorem h264_delivered_sample :
    Pipeline.Delivers
      (UnitPacket { base := { payloadType := rtpPayloadTypeH264, ssrc := 7 }, fps := 25 }
        Pipeline.sampleUnits)
      (.create (fun _ => {}) (.h264 { content := stream Pipeline.sampleUnits })
        (.h264 { base := { payloadType := rtpPayloadTypeH264, ssrc := 7 }, fps := 25 }))
      (Pipeline.oneRound ++ Pipeline.oneRound) := by
  refine h264_delivered _ (.h264 7 {} 25) Pipeline.sampleUnits (List.cons_ne_nil _ _) (by decide)
    _ _ ?_
  intro env henv
  have heq : env = Pipeline.sampleReads := by
    simpa [Pipeline.oneRound] using henv
  exact heq ▸ ⟨frameMaxSize, rfl, Nat.le_refl _⟩

end MyRtspServer.Net
