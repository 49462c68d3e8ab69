import MyRtspServer.Net.AacFrames
import MyRtspServer.Net.AacPackets
import MyRtspServer.Net.AdtsFields
import MyRtspServer.Net.Delivery

/-!
# From an ADTS file to RTP packets

The whole way of the audio. A file of ADTS frames without CRC, each small enough for a
packet, is sent access unit by access unit, over and over again.
-/
namespace MyRtspServer.Net

open Library Library.RtpFormat Library.BitFields

/-! ## The file -/

/-- A frame of the file: a header without CRC that announces the data behind it. -/
structure AdtsFrame where
  fields : AdtsFields
  data : Octets
  noCrc : (fields.protectionAbsent : Nat) = 1
  announced : (fields.aacFrameLength : Nat) = 7 + data.length

namespace AdtsFrame

def bytes (f : AdtsFrame) : Octets := f.fields.bytes ++ f.data

theorem header_length (f : AdtsFields) : f.bytes.length = 7 := spell_length 7 _

theorem bytes_length (f : AdtsFrame) : f.bytes.length = 7 + f.data.length := by
  rw [bytes, List.length_append, header_length]

end AdtsFrame

def adtsStream (frames : List AdtsFrame) : Octets := frames.flatMap AdtsFrame.bytes

/-- The seven bytes announce the length that was put into them. -/
theorem adtsLength_bytes {f : AdtsFields} {m : Memory} (hm : Holds m f.bytes) :
    adtsSyncword m = true ∧ adtsLength m = f.aacFrameLength := by
  obtain ⟨h, hparse, hvalues⟩ := parseAdtsHeader_bytes hm
  obtain ⟨hsync, hlength⟩ := parseAdtsHeader_some hparse
  refine ⟨hsync, ?_⟩
  rw [← hlength, ← f.found.2]
  simp only [AdtsHeader.values, fieldsAt, adtsPositions, List.map_cons, List.map_nil,
    List.cons.injEq] at hvalues
  obtain ⟨-, -, -, -, -, -, -, -, -, -, -, hframeLength, -⟩ := hvalues
  exact hframeLength

/-! ## One frame -/

/-- The `read` calls of a regular file. -/
def ReadsFile (env : ReadEnv) : Prop := ∀ i, ∃ most, env.answer i = some most ∧ 8192 ≤ most

theorem File.brought_all (file : File) {answer : Option Nat} {count most : Nat}
    (h : answer = some most) (hmost : count ≤ most) :
    file.brought answer count = (file.content.drop file.pos).take count := by
  subst h
  exact List.take_of_length_le (by rw [List.length_take]; omega)

/-- The frame the reader finds: here, or at the start when nothing is left. -/
def File.FindsFrame (file : File) (start : Nat) (f : AdtsFrame) (rest : Octets) : Prop :=
  file.content.drop start = f.bytes ++ rest ∧
    (start = file.pos ∨ start = 0 ∧ file.content.length ≤ file.pos)

theorem File.FindsFrame.adtsFound {file : File} {start : Nat} {f : AdtsFrame} {rest : Octets}
    (h : file.FindsFrame start f rest) {env : ReadEnv} (henv : ReadsFile env) :
    file.adtsBytes env.answer = f.fields.bytes ∧ file.adtsStart env.answer = start := by
  obtain ⟨hcontent, hstart⟩ := h
  obtain ⟨most0, hanswer0, hmost0⟩ := henv 0
  obtain ⟨most1, hanswer1, hmost1⟩ := henv 1
  have hheader : (f.bytes ++ rest).take 7 = f.fields.bytes := by
    rw [AdtsFrame.bytes, List.append_assoc, List.take_left' (AdtsFrame.header_length _)]
  have hne : f.fields.bytes ≠ [] := by
    intro hnil
    have hlength := AdtsFrame.header_length f.fields
    rw [hnil] at hlength
    cases hlength
  have hfirst := file.brought_all hanswer0 (show 7 ≤ most0 by omega)
  have hagain := file.rewind.brought_all hanswer1 (show 7 ≤ most1 by omega)
  rw [File.adtsBytes, File.adtsStart, File.adtsFound]
  rcases hstart with rfl | ⟨rfl, hend⟩
  · rw [hcontent, hheader] at hfirst
    rw [hfirst, if_pos hne]
    exact ⟨rfl, rfl⟩
  · rw [File.rewind, hcontent, hheader] at hagain
    rw [List.drop_eq_nil_of_le hend, List.take_nil] at hfirst
    rw [hfirst, if_neg (fun h => h rfl)]
    exact ⟨hagain, rfl⟩

/-- **A frame is taken whole**, and the file stands behind it. -/
theorem getFrameFromAACFile_frame {file : File} {start : Nat} {f : AdtsFrame} {rest : Octets}
    (h : file.FindsFrame start f rest) {env : ReadEnv} (henv : ReadsFile env)
    (header : AdtsHeader) (buf : Memory) :
    ∃ got header', getFrameFromAACFile file env header buf frameMaxSize = .ok (got, header') ∧
      got.size = f.bytes.length ∧ got.buffer.load 0 f.bytes.length = f.bytes ∧
      got.file = { file with pos := start + f.bytes.length } := by
  obtain ⟨hbytes, hstart⟩ := h.adtsFound henv
  obtain ⟨most, hanswer, hmost⟩ := henv 2
  have hseven := AdtsFrame.header_length f.fields
  have hlength := f.bytes_length
  have hlt := f.fields.aacFrameLength.isLt
  have hannounced := f.announced
  have hmax : 8192 ≤ frameMaxSize := by decide
  have hroom : start + f.bytes.length ≤ file.content.length := by
    have hcontent := congrArg List.length h.1
    rw [List.length_drop, List.length_append] at hcontent
    omega
  have hwhole : WholeReads file env.answer frameMaxSize := by
    intro m most' _ hholds _ hanswer'
    rw [hbytes] at hholds
    rw [hanswer] at hanswer'
    cases hanswer'
    rw [(adtsLength_bytes hholds).2, hbytes, hstart]
    omega
  have hne : file.adtsBytes env.answer ≠ [] := by
    rw [hbytes]
    intro hnil
    rw [hnil] at hseven
    cases hseven
  have hholds : Holds (env.tmpBuf.store 0 (file.adtsBytes env.answer)) f.fields.bytes := by
    rw [hbytes]
    exact Memory.load_store _ _ _
  obtain ⟨hsync, hframeLength⟩ := adtsLength_bytes hholds
  have haccepts : AcceptsHeader (env.tmpBuf.store 0 (file.adtsBytes env.answer)) frameMaxSize :=
    ⟨hsync, by rw [hframeLength]; omega⟩
  obtain ⟨-, ⟨got, header'⟩, hgot, hframe⟩ :=
    getFrameFromAACFile_whole header buf hwhole hne haccepts hanswer
  have hsize : got.size = f.bytes.length := by
    obtain ⟨hview, -⟩ := acceptsHeader_congr
      (whole_header env.tmpBuf (by rw [hbytes, hseven])) frameMaxSize
    rw [hframe.announced, ← hview, hframeLength, hannounced, hlength]
  have hloaded := hframe.bytes
  have hadvanced := hframe.advanced
  rw [hsize, Int.toNat_natCast, hstart] at hloaded hadvanced
  refine ⟨got, header', hgot, hsize, ?_, hadvanced⟩
  rw [hloaded, h.1, List.take_left]

/-- What the sink is handed: the frame at the beginning of its buffer. -/
structure AdtsFrameIn (f : AdtsFrame) (frame : AVFrame) : Prop where
  held : frame.buffer.load 0 f.bytes.length = f.bytes
  size : frame.frameSize = f.bytes.length
  offset : frame.frame = 0

theorem aacReadInto_whole {file : File} {start : Nat} {f : AdtsFrame} {rest : Octets}
    (h : file.FindsFrame start f rest) {env : ReadEnv} (henv : ReadsFile env)
    (header : AdtsHeader) (frame : AVFrame) :
    ∃ header' filled, aacReadInto file header env frame =
        .ok ⟨.aac { file with pos := start + f.bytes.length } header', filled, true⟩ ∧
      AdtsFrameIn f filled := by
  obtain ⟨got, header', hgot, hsize, hheld, hfile⟩ :=
    getFrameFromAACFile_frame h henv header frame.buffer
  refine ⟨header', { frame with buffer := got.buffer, frameSize := got.size, frame := 0 }, ?_,
    hheld, hsize, rfl⟩
  simp only [aacReadInto, hgot, hfile]
  rw [if_neg (by omega)]

/-! ## One pass after another -/

/-- The reader when it has taken `m` frames: behind the last one taken. -/
def AacReaderAt (frames : List AdtsFrame) (m : Nat) : Reader → Prop
  | .aac file _ => file = { content := adtsStream frames, pos :=
      if m = 0 then 0 else (adtsStream (frames.take ((m - 1) % frames.length + 1))).length }
  | .h264 _ => False

/-- Frame `k` of the passes over the file. -/
def frameAt (frames : List AdtsFrame) (k : Nat) (hne : frames ≠ []) : AdtsFrame :=
  frames.get ⟨k % frames.length, Nat.mod_lt _ (List.length_pos_of_ne_nil hne)⟩

theorem adtsStream_drop {frames : List AdtsFrame} {k : Nat} (hk : k < frames.length) :
    (adtsStream frames).drop (adtsStream (frames.take k)).length =
      frames[k].bytes ++ adtsStream (frames.drop (k + 1)) := by
  have hsplit : frames = frames.take k ++ frames[k] :: frames.drop (k + 1) := by
    rw [← List.drop_eq_getElem_cons hk, List.take_append_drop]
  have hcontent : adtsStream frames =
      adtsStream (frames.take k) ++ (frames[k].bytes ++ adtsStream (frames.drop (k + 1))) := by
    conv_lhs => rw [hsplit]
    simp only [adtsStream, List.flatMap_append, List.flatMap_cons]
  rw [hcontent, List.drop_left]

theorem adtsStream_take_succ {frames : List AdtsFrame} {k : Nat} (hk : k < frames.length) :
    (adtsStream (frames.take (k + 1))).length =
      (adtsStream (frames.take k)).length + frames[k].bytes.length := by
  rw [List.take_succ_eq_append_getElem hk, adtsStream, List.flatMap_append, List.length_append,
    List.flatMap_singleton]
  rfl

/-- Frame `m` is found where the reader stands, or at the start behind the last one. -/
theorem findsFrame_at {frames : List AdtsFrame} (hne : frames ≠ []) (m : Nat) {file : File}
    (hfile : file = { content := adtsStream frames, pos :=
      if m = 0 then 0 else (adtsStream (frames.take ((m - 1) % frames.length + 1))).length }) :
    file.FindsFrame (adtsStream (frames.take (m % frames.length))).length (frameAt frames m hne)
      (adtsStream (frames.drop (m % frames.length + 1))) := by
  have hpos := List.length_pos_of_ne_nil hne
  have hlt : m % frames.length < frames.length := Nat.mod_lt _ hpos
  subst hfile
  refine ⟨adtsStream_drop hlt, ?_⟩
  by_cases hzero : m = 0
  · subst hzero
    left
    simp [adtsStream]
  · rw [if_neg hzero]
    obtain ⟨n, rfl⟩ : ∃ n, m = n + 1 := ⟨m - 1, by omega⟩
    rw [Nat.add_sub_cancel]
    have hn : n % frames.length < frames.length := Nat.mod_lt _ hpos
    by_cases hend : n % frames.length + 1 = frames.length
    · right
      have hround : (n + 1) % frames.length = 0 := by
        rw [← Nat.mod_add_mod, hend, Nat.mod_self]
      rw [hround, hend, List.take_length]
      exact ⟨rfl, Nat.le_refl _⟩
    · left
      have hnext : (n + 1) % frames.length = n % frames.length + 1 := by
        rw [← Nat.mod_add_mod, Nat.mod_eq_of_lt (by omega)]
      rw [hnext]

/-- The reader supplies the frames one after the other. -/
theorem aac_supplies {frames : List AdtsFrame} (hne : frames ≠ []) :
    Pipeline.Supplies ReadsFile (AacReaderAt frames)
      (fun m frame => AdtsFrameIn (frameAt frames m hne) frame) := by
  intro m reader env frame hreader henv
  cases reader with
  | h264 file => exact hreader.elim
  | aac file header =>
    obtain ⟨header', filled, hread, hheld⟩ :=
      aacReadInto_whole (findsFrame_at hne m hreader) henv header frame
    refine ⟨_, filled, hread, ?_, hheld⟩
    have hlt : m % frames.length < frames.length := Nat.mod_lt _ (List.length_pos_of_ne_nil hne)
    have hbehind := adtsStream_take_succ hlt
    rw [AacReaderAt, hreader, if_neg (Nat.succ_ne_zero m), Nat.add_sub_cancel, hbehind]
    rfl

/-! ## The sink -/

/-- The sink when it has sent `m` frames. -/
def AacSinkAt (start : AACRtpSink) (m : Nat) : Sink → Prop
  | .aac sink => sink.timeStep = start.timeStep ∧
      sink.base = { start.base.after m with timeStamp := UInt32.ofNat m * start.timeStep }
  | .h264 _ => False

theorem aacSinkAt_zero {start : AACRtpSink} (hstart : (Sink.aac start).Constructed) :
    AacSinkAt start 0 (.aac start) := by
  refine ⟨rfl, ?_⟩
  rw [RtpSink.after_zero]
  have hzero : UInt32.ofNat 0 * start.timeStep = 0 := UInt32.zero_mul
  rw [hzero]
  cases hstart
  rfl

/-- Packet `k` has its number, and its clock is `k` steps of the sink; a receiver finds one
access unit in it, the data of frame `k`. -/
def AccessUnitPacket (start : AACRtpSink) (frames : List AdtsFrame) (hne : frames ≠ []) (k : Nat)
    (q : SentPacket) : Prop :=
  ∃ payload, decode q.bytes = some (Sink.packetHeader (.aac start) k
      (UInt32.ofNat k * start.timeStep), payload) ∧
    AccessUnits.decode aacHbr payload =
      some [⟨0, (frameAt frames k hne).data.length, (frameAt frames k hne).data⟩]

/-- The data of a frame in its buffer. -/
theorem AdtsFrameIn.data {f : AdtsFrame} {frame : AVFrame} (h : AdtsFrameIn f frame) :
    frame.frameSize - 7 = f.data.length ∧
      frame.buffer.load (frame.frame + 7) f.data.length = f.data := by
  have hlength := f.bytes_length
  have hsize := h.size
  refine ⟨by omega, ?_⟩
  have hdrop := @Memory.load_drop frame.buffer 0 _ _ (show 7 ≤ f.bytes.length by omega)
  rw [h.held, hlength, Nat.add_sub_cancel_left] at hdrop
  rw [h.offset, ← hdrop, AdtsFrame.bytes, List.drop_left' (AdtsFrame.header_length _)]

/-- `HandleFrame` leaves the clock rate alone. -/
theorem AACRtpSink.handleFrame_timeStep {s : AACRtpSink} {frame : AVFrame}
    {r : FrameResult AACRtpSink} (h : s.handleFrame frame = .ok r) :
    r.sink.timeStep = s.timeStep := by
  unfold AACRtpSink.handleFrame at h
  dsimp only at h
  split at h
  · cases h
  · cases h
    rfl

theorem after_step (base : RtpSink) (step : UInt32) (m : Nat) :
    ({ ({ base.after m with timeStamp := UInt32.ofNat m * step } : RtpSink).after 1 with
      timeStamp := UInt32.ofNat m * step + step } : RtpSink) =
        { base.after (m + 1) with timeStamp := UInt32.ofNat (m + 1) * step } := by
  have hclock : UInt32.ofNat m * step + step = UInt32.ofNat (m + 1) * step := by
    rw [UInt32.ofNat_add, UInt32.add_mul]
    exact congrArg (UInt32.ofNat m * step + ·) (UInt32.one_mul step).symm
  rw [hclock, ← RtpSink.after_after]
  rfl

theorem aac_ships {start : AACRtpSink} (hstart : (Sink.aac start).Constructed)
    {frames : List AdtsFrame} (hne : frames ≠ [])
    (hfits : ∀ f ∈ frames, rtpPayloadOffset + 4 + f.data.length ≤ rtpAllocation) :
    Pipeline.Ships (fun m frame => AdtsFrameIn (frameAt frames m hne) frame) (AacSinkAt start)
      (AccessUnitPacket start frames hne) := by
  intro m sink frame hsink hframe
  cases sink with
  | h264 sink => exact hsink.elim
  | aac sink =>
    obtain ⟨hstep, hbase⟩ := hsink
    obtain ⟨hsize, hdata⟩ := hframe.data
    have hroom := hfits (frameAt frames m hne) (List.get_mem frames _)
    have hcopy : CopyFits frame := by
      have hmax : rtpAllocation + 7 ≤ frameMaxSize := by decide
      have hoffset := hframe.offset
      refine ⟨by omega, by omega, ?_⟩
      rw [hsize]
      omega
    obtain ⟨r, hr, handled⟩ := AACRtpSink.handleFrame_handled sink hcopy
    have hsmall : (frameAt frames m hne).data.length < 8192 := by
      have hmax : rtpAllocation < 8192 := by decide
      omega
    have hunit := AACRtpSink.decode_payload hsize hsmall
    rw [hdata] at hunit
    obtain ⟨payload, hpayload, hunit⟩ : ∃ payload, AACRtpSink.payloads frame = [payload] ∧
        AccessUnits.decode aacHbr payload = some [_] := ⟨_, rfl, hunit⟩
    refine ⟨.aac r.sink, sink.base.packet payload, ?_, ⟨?_, ?_⟩, payload, ?_, hunit⟩
    · simp only [Sink.handleFrame, hr, handled.sent, hpayload]
      rfl
    · exact (AACRtpSink.handleFrame_timeStep hr).trans hstep
    · rw [handled.base, hstep, hbase]
      exact after_step _ _ m
    · rw [RtpSink.decode_packet, hbase]
      exact congrArg (fun header => some (header, _)) (hstart.fields m _)

/-! ## The whole way -/

/-- **A file of ADTS frames that fit is sent access unit by access unit**, in order, over
any number of passes and whatever the threads do in between. -/
theorem aac_delivered (start : AACRtpSink) (hstart : (Sink.aac start).Constructed)
    (stored : List AdtsFrame) (hne : stored ≠ [])
    (hfits : ∀ f ∈ stored, rtpPayloadOffset + 4 + f.data.length ≤ rtpAllocation)
    (frames : FrameIndex → AVFrame) (header : AdtsHeader) (acts : List PipelineAct)
    (hreads : ∀ env, .readFrame env ∈ acts → ReadsFile env) :
    Pipeline.Delivers (AccessUnitPacket start stored hne)
      (.create frames (.aac { content := adtsStream stored } header) (.aac start)) acts :=
  Pipeline.delivers (aac_supplies hne) (aac_ships hstart hne hfits)
    (show AacReaderAt stored 0 (.aac _ header) from rfl) (aacSinkAt_zero hstart) frames hreads

/-- Two bytes of data behind their header. -/
def shortFrame : AdtsFrame where
  fields := { fields2100 with aacFrameLength := ⟨9, by decide⟩ }
  data := [0x12, 0x34]
  noCrc := rfl
  announced := rfl

def shortFrames : List AdtsFrame :=
  [shortFrame, { shortFrame with data := [0x56, 0x78] }]

/-- Three rounds over a file of two frames: the first one goes out twice. -/
theorem aac_delivered_sample :
    Pipeline.Delivers
      (AccessUnitPacket
        { base := { payloadType := rtpPayloadTypeAac, marker := 1, ssrc := 7 }, fps := 43 }
        shortFrames (List.cons_ne_nil _ _))
      (.create (fun _ => {}) (.aac { content := adtsStream shortFrames } {})
        (.aac { base := { payloadType := rtpPayloadTypeAac, marker := 1, ssrc := 7 }, fps := 43 }))
      (Pipeline.oneRound ++ Pipeline.oneRound ++ Pipeline.oneRound) := by
  refine aac_delivered _ (.aac 7 {} 43) shortFrames (List.cons_ne_nil _ _) (by decide) _ _ _ ?_
  intro env henv
  have heq : env = Pipeline.sampleReads := by
    simpa [Pipeline.oneRound] using henv
  exact heq ▸ fun _ => ⟨frameMaxSize, rfl, by decide⟩

end MyRtspServer.Net
