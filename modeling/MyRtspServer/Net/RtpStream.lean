import MyRtspServer.Library.Transition
import MyRtspServer.Net.Packets

/-!
# The packets of a sequence of frames

Whatever the sizes of the frames, the packets of a sink are numbered without a
gap. The time stamp is another matter: a parameter set does not advance it when
it goes out as one packet, but does when it is fragmented.
-/
namespace MyRtspServer.Net

open Library Library.RtpFormat Library.Transition

/-! ## Either sink -/

namespace Sink

def base : Sink → RtpSink
  | .h264 sink => sink.base
  | .aac sink => sink.base

/-- The payloads `HandleFrame` makes of a frame. -/
def payloads : Sink → AVFrame → List (List UInt8)
  | .h264 _ => H264RtpSink.payloads
  | .aac _ => AACRtpSink.payloads

/-- The frame lies in its buffer, and an AAC payload fits into the packet. -/
def Fits : Sink → AVFrame → Prop
  | .h264 _ => H264RtpSink.InBuffer
  | .aac _ => CopyFits

/-- The sink as its constructor leaves it: `rand()` gives the SSRC, and the packet
holds whatever `new` left there. -/
inductive Constructed : Sink → Prop
  | h264 (ssrc : UInt32) (packet : RtpPacket) (fps : Int) :
      Constructed (.h264 {
        base := { payloadType := rtpPayloadTypeH264, ssrc := ssrc }, packet := packet, fps := fps })
  | aac (ssrc : UInt32) (packet : RtpPacket) (fps : Int) :
      Constructed (.aac {
        base := { payloadType := rtpPayloadTypeAac, marker := 1, ssrc := ssrc }, packet := packet
        fps := fps })

/-- What a call of `HandleFrame` does, for either sink. -/
structure Handled (s s' : Sink) (frame : AVFrame) (sent : List SentPacket) : Prop where
  packets : sent = s.base.packets (s.payloads frame)
  base : s'.base = { s.base.after sent.length with timeStamp := s'.base.timeStamp }
  fits : s'.Fits = s.Fits

theorem handled_of_ok {s s' : Sink} {frame : AVFrame} {sent : List SentPacket}
    (h : s.handleFrame frame = .ok (s', sent)) : Handled s s' frame sent := by
  cases s with
  | h264 sink =>
    simp only [handleFrame] at h
    split at h
    · cases h
    · rename_i r hr
      cases h
      have handled := H264RtpSink.handled_of_ok hr
      refine ⟨handled.sent, ?_, rfl⟩
      rw [handled.sent, RtpSink.packets_length, base, handled.base]
      split <;> rfl
  | aac sink =>
    simp only [handleFrame] at h
    split at h
    · cases h
    · rename_i r hr
      cases h
      have handled := AACRtpSink.handled_of_ok hr
      refine ⟨handled.sent, ?_, rfl⟩
      rw [handled.sent, RtpSink.packets_length, base, handled.base]
      rfl

theorem handleFrame_of_fits {s : Sink} {frame : AVFrame} (h : s.Fits frame) :
    ∃ s' sent, s.handleFrame frame = .ok (s', sent) := by
  cases s with
  | h264 sink =>
    obtain ⟨r, hr, -⟩ := H264RtpSink.handleFrame_handled sink h
    exact ⟨_, _, by rw [handleFrame, hr]⟩
  | aac sink =>
    obtain ⟨r, hr, -⟩ := AACRtpSink.handleFrame_handled sink h
    exact ⟨_, _, by rw [handleFrame, hr]⟩

theorem run_of_fits {frames : List AVFrame} : ∀ {s : Sink}, (∀ frame ∈ frames, s.Fits frame) →
    ∃ s' sent, run handleFrame s frames = .ok (s', sent) := by
  induction frames with
  | nil => exact fun _ => ⟨_, _, rfl⟩
  | cons frame frames ih =>
    intro s h
    obtain ⟨m, sent, hfirst⟩ := handleFrame_of_fits (h frame List.mem_cons_self)
    obtain ⟨s', later, hrest⟩ := ih (s := m) fun f hf => by
      rw [(handled_of_ok hfirst).fits]
      exact h f (List.mem_cons_of_mem frame hf)
    refine ⟨s', sent ++ later, ?_⟩
    rw [run, hfirst]
    simp only [hrest]

/-! ## Numbering -/

/-- The members of the sink when `log` has been sent: the sequence number counts
the packets, and only the time stamp is left open. -/
def Counts (start s : Sink) (log : List SentPacket) : Prop :=
  s.base = { start.base.after log.length with timeStamp := s.base.timeStamp }

theorem run_counts {start s : Sink} {frames : List AVFrame} {log : List SentPacket}
    (h : run handleFrame start frames = .ok (s, log)) : Counts start s log := by
  have hlogged : Counts start s ([] ++ log) := by
    refine run_logged (Counts start) ?_ ?_ meets_true h
    · intro s frame s' log sent hcounts _ hstep
      have hbase := (handled_of_ok hstep).base
      rw [Counts] at hcounts ⊢
      rw [hbase, hcounts, List.length_append, ← RtpSink.after_after]
      rfl
    · simp [Counts]
  rwa [List.nil_append] at hlogged

/-- What a receiver is to read in packet `k`, sent at the time stamp `time`. -/
def packetHeader (start : Sink) (k : Nat) (time : UInt32) : Header :=
  { version := 2
    padding := false
    extension := false
    csrcCount := 0
    marker := decide (start.base.marker = 1)
    payloadType := start.base.payloadType.toNat
    sequence := k % 2 ^ 16
    timestamp := time.toNat
    ssrc := start.base.ssrc.toNat }

theorem Constructed.fields {start : Sink} (h : start.Constructed) (n : Nat) (time : UInt32) :
    ({ start.base.after n with timeStamp := time } : RtpSink).fields =
      packetHeader start n time := by
  have hseq : (start.base.after n).seq.toNat = n % 2 ^ 16 := by
    have hzero : start.base.seq = 0 := by cases h <;> rfl
    change (start.base.seq + UInt16.ofNat n).toNat = _
    rw [hzero, UInt16.zero_add, UInt16.toNat_ofNat']
  rw [packetHeader, ← hseq]
  cases h <;> rfl

theorem fields_of_counts {start s : Sink} {log : List SentPacket} (h : start.Constructed)
    (hcounts : Counts start s log) (k : Nat) :
    (s.base.after k).fields = packetHeader start (log.length + k) s.base.timeStamp := by
  have hafter : s.base.after k =
      { start.base.after (log.length + k) with timeStamp := s.base.timeStamp } := by
    rw [Counts] at hcounts
    rw [← RtpSink.after_after, hcounts]
    rfl
  rw [hafter, h.fields]

/-- Every frame that fits is sent, with one packet for each of its payloads, and packet
`k` of a frame has the header of its place among all packets, the payload of its place in
the frame and the size of both. -/
structure Numbered (start : Sink) (frames : List AVFrame) : Prop where
  defined : (∀ frame ∈ frames, start.Fits frame) →
    ∃ s sent, run handleFrame start frames = .ok (s, sent)
  count : ∀ pre frame post s before s' sent, frames = pre ++ frame :: post →
    run handleFrame start pre = .ok (s, before) → s.handleFrame frame = .ok (s', sent) →
    sent.length = (s.payloads frame).length
  packet : ∀ pre frame post s before s' sent, frames = pre ++ frame :: post →
    run handleFrame start pre = .ok (s, before) → s.handleFrame frame = .ok (s', sent) →
    ∀ k p, sent[k]? = some p → ∃ payload, (s.payloads frame)[k]? = some payload ∧
      decode p.bytes = some (packetHeader start (before.length + k) s.base.timeStamp, payload) ∧
      p.size = ((rtpHeaderSize + payload.length : Nat) : Int)

/-- **The packets of any sequence of frames are numbered without a gap**, modulo 2^16,
and each has the header of its sink. -/
theorem rtp_numbered (start : Sink) (h : start.Constructed) (frames : List AVFrame) :
    Numbered start frames := by
  constructor
  · exact fun hfits => run_of_fits hfits
  · intro pre frame post s before s' sent _ _ hframe
    rw [(handled_of_ok hframe).packets, RtpSink.packets_length]
  · intro pre frame post s before s' sent _ hrun hframe k p hk
    have hcounts := run_counts hrun
    rw [(handled_of_ok hframe).packets, RtpSink.packets_getElem?, Option.map_eq_some_iff] at hk
    obtain ⟨payload, hpayload, rfl⟩ := hk
    refine ⟨payload, hpayload, ?_, ?_⟩
    · rw [RtpSink.decode_packet, fields_of_counts h hcounts]
    · rfl

/-- A whole NAL unit and a fragmented one. -/
theorem rtp_numbered_sample :
    Numbered (.h264 { base := { payloadType := rtpPayloadTypeH264, ssrc := 7 }, fps := 25 })
      [{ frameSize := 3 }, { frameSize := 1401 }] :=
  rtp_numbered _ (.h264 7 {} 25) _

end Sink

/-! ## Time stamps -/

namespace H264RtpSink

/-- All packets of a frame carry the time stamp of the sink, and the next frame's is
larger by `m_clock_rate_ / m_fps_`, or the same behind a parameter set. -/
def TimestampsHold : H264RtpSink → List AVFrame → Prop
  | _, [] => True
  | s, frame :: frames =>
    ∃ r, s.handleFrame frame = .ok r ∧
      (∀ p ∈ r.sent, ∃ header payload, decode p.bytes = some (header, payload) ∧
        header.timestamp = s.base.timeStamp.toNat) ∧
      r.sink.base.timeStamp = s.base.timeStamp + (if IsParameterSet frame then 0 else s.timeStep) ∧
      TimestampsHold r.sink frames

/-- A parameter set goes out as one packet, or the clock stands still anyway. -/
def ParameterSetFits (s : H264RtpSink) (frame : AVFrame) : Prop :=
  IsParameterSet frame → frame.frameSize ≤ rtpMaxPktSize ∨ s.timeStep = 0

theorem packets_timestamp {s : RtpSink} {payloads : List (List UInt8)} {p : SentPacket}
    (h : p ∈ s.packets payloads) : ∃ header payload, decode p.bytes = some (header, payload) ∧
      header.timestamp = s.timeStamp.toNat := by
  obtain ⟨k, hk⟩ := List.mem_iff_getElem?.mp h
  rw [RtpSink.packets_getElem?, Option.map_eq_some_iff] at hk
  obtain ⟨payload, -, rfl⟩ := hk
  exact ⟨_, _, RtpSink.decode_packet _ payload, rfl⟩

theorem Handled.timeStep {s : H264RtpSink} {frame : AVFrame} {r : FrameResult H264RtpSink}
    (h : Handled s frame r) : r.sink.timeStep = s.timeStep := by
  rw [H264RtpSink.timeStep, h.clockRate, h.fps]
  rfl

/-- One frame moves the time stamp as it should exactly when it is no fragmented
parameter set. -/
theorem Handled.timeStamp_iff {s : H264RtpSink} {frame : AVFrame} {r : FrameResult H264RtpSink}
    (h : Handled s frame r) :
    r.sink.base.timeStamp = s.base.timeStamp + (if IsParameterSet frame then 0 else s.timeStep) ↔
      ParameterSetFits s frame := by
  rw [h.base, ParameterSetFits]
  by_cases hset : IsParameterSet frame
  · by_cases hsize : frame.frameSize ≤ rtpMaxPktSize
    · simp [hset, hsize, RtpSink.after]
    · simp [hset, hsize, RtpSink.after]
  · simp [hset, RtpSink.after]

/-- **The time stamp does not depend on the packetization path exactly when no
parameter set is fragmented.** -/
theorem timestamps_hold_iff (s : H264RtpSink) (frames : List AVFrame) :
    TimestampsHold s frames ↔ ∀ frame ∈ frames, InBuffer frame ∧ ParameterSetFits s frame := by
  induction frames generalizing s with
  | nil => simp [TimestampsHold]
  | cons frame frames ih =>
    rw [TimestampsHold, List.forall_mem_cons]
    constructor
    · rintro ⟨r, hr, -, hstamp, hrest⟩
      have handled := handled_of_ok hr
      refine ⟨⟨handleFrame_in hr, handled.timeStamp_iff.mp hstamp⟩, fun other hother => ?_⟩
      have hfits := (ih r.sink).mp hrest other hother
      rwa [ParameterSetFits, handled.timeStep] at hfits
    · rintro ⟨⟨hin, hfits⟩, hrest⟩
      obtain ⟨r, hr, handled⟩ := handleFrame_handled s hin
      refine ⟨r, hr, ?_, handled.timeStamp_iff.mpr hfits, (ih r.sink).mpr fun other hother => ?_⟩
      · rw [handled.sent]
        exact fun p hp => packets_timestamp hp
      · rw [ParameterSetFits, handled.timeStep]
        exact hrest other hother

/-- A sequence parameter set of 1401 bytes, with room behind it. -/
def longParameterSet : AVFrame :=
  { buffer := fun i => if i = 4 then 0x67 else 0x11, frame := 4, frameSize := 1401 }

/-- At 25 frames a second it moves the clock by 3600. -/
theorem long_parameter_set_advances : ¬ TimestampsHold sampleSink [longParameterSet] := by
  rintro ⟨r, hr, -, hstamp, -⟩
  rcases (handled_of_ok hr).timeStamp_iff.mp hstamp (by decide) with hsize | hstep
  · exact absurd hsize (by decide)
  · exact absurd hstep (by decide)

end H264RtpSink
end MyRtspServer.Net
