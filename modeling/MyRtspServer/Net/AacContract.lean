import MyRtspServer.Net.Readers
import MyRtspServer.Net.RtpSinks

/-!
# The size contract between `AACMediaSource` and `AACRtpSink`

The sink copies `m_frame_size_ - 7` bytes behind the four AU header bytes of a
packet. The source passes on any 13-bit ADTS frame length: a length below the
header's own seven bytes makes the copy negative, and from 1500 on the copy
runs out of the packet.
-/
namespace MyRtspServer.Net

open Library

/-! ## What the sink needs -/

/-- `HandleFrame` copies a non-negative number of bytes that lie in the frame and
fit into the packet. -/
def SizeContract (sink : AACRtpSink) (frame : AVFrame) : Prop :=
  0 ≤ frame.frameSize - 7 ∧ ∃ r, sink.handleFrame frame = .ok r ∧
    ∀ read ∈ r.reads, ((read.1 + read.2 : Nat) : Int) ≤ frame.frameSize

/-- The copy of `HandleFrame` stays in both buffers. -/
def CopyFits (frame : AVFrame) : Prop :=
  0 ≤ frame.frameSize - 7 ∧
    rtpPayloadOffset + (4 : Nat) + (frame.frameSize - 7) ≤ rtpAllocation ∧
    frame.frame + (7 : Nat) + (frame.frameSize - 7) ≤ frameMaxSize

theorem sizeContract_iff_copyFits (sink : AACRtpSink) (frame : AVFrame) :
    SizeContract sink frame ↔ CopyFits frame := by
  simp only [SizeContract, AACRtpSink.handleFrame, RtpPacket.memcpy]
  by_cases h : CopyFits frame
  · simp only [if_pos (show _ ∧ _ from h), h, iff_true]
    refine ⟨h.1, _, rfl, fun read hread => ?_⟩
    have hpos := h.1
    rw [List.mem_singleton] at hread
    subst hread
    change ((7 + (frame.frameSize - 7).toNat : Nat) : Int) ≤ frame.frameSize
    omega
  · simp only [if_neg (show ¬ (_ ∧ _) from h), h, iff_false]
    rintro ⟨-, r, hr, -⟩
    cases hr

/-- For a frame that starts its buffer the packet is the tighter limit. -/
theorem copyFits_iff {frame : AVFrame} {m : Memory} (hsize : frame.frameSize = adtsLength m)
    (hframe : frame.frame = 0) : CopyFits frame ↔ 7 ≤ adtsLength m ∧ adtsLength m ≤ 1499 := by
  have hbuffer : (8192 : Int) ≤ frameMaxSize := by decide
  have hpacket : (rtpAllocation : Int) = rtpPayloadOffset + 1496 := by decide
  have hlt := adtsLength_lt m
  rw [CopyFits, hsize, hframe, hpacket]
  omega

/-- The header found in the file announces a length the sink can handle. -/
def WellSized (file : File) (env : ReadEnv) : Prop :=
  ∃ tmpBuf, (readAdtsHeader file env).1 = some tmpBuf ∧
    7 ≤ adtsLength tmpBuf ∧ adtsLength tmpBuf ≤ 1499

namespace MediaSource

/-- What `readFrame` publishes is what the reader filled for the front frame. -/
theorem readFrame_filled {s s' : MediaSource} {env : ReadEnv} {events : List FrameEvent}
    {i : FrameIndex} {frame : AVFrame} (h : s.readFrame env = .ok (s', events))
    (hi : .filled i frame ∈ events) :
    ∃ rest filled, s.inputQue = i :: rest ∧ s.reader.readInto env (s.frames i) = .ok filled ∧
      filled.published = true ∧ filled.frame = frame := by
  unfold readFrame at h
  split at h
  · cases h
    cases hi
  rename_i j rest hque
  split at h
  · cases h
  rename_i filled hfilled
  dsimp only at h
  split at h
  · rename_i hp
    cases h
    simp only [List.mem_cons, FrameEvent.filled.injEq, reduceCtorEq, List.not_mem_nil, or_false,
      false_or] at hi
    obtain ⟨rfl, rfl⟩ := hi
    exact ⟨rest, filled, hque, hfilled, hp, rfl⟩
  · cases h
    simp at hi

theorem readFrame_publishes {s : MediaSource} {env : ReadEnv} {i : FrameIndex}
    {rest : List FrameIndex} {filled : Filled} (hque : s.inputQue = i :: rest)
    (h : s.reader.readInto env (s.frames i) = .ok filled) (hp : filled.published = true) :
    ∃ s', s.readFrame env = .ok (s', [.written i, .filled i filled.frame]) := by
  unfold readFrame
  rw [hque]
  simp only [h, hp, if_true]
  exact ⟨_, rfl⟩

/-- **The size contract holds exactly for the frame lengths 7 to 1499**: of
every frame an AAC source publishes, whatever the file and the packet. -/
theorem aac_sizeContract_iff (s s' : MediaSource) (file : File) (header : AdtsHeader)
    (env : ReadEnv) (events : List FrameEvent) (i : FrameIndex) (frame : AVFrame)
    (sink : AACRtpSink) (hs : s.reader = .aac file header)
    (h : s.readFrame env = .ok (s', events)) (hi : .filled i frame ∈ events) :
    SizeContract sink frame ↔ WellSized file env := by
  obtain ⟨rest, filled, -, hread, hp, rfl⟩ := readFrame_filled h hi
  rw [hs] at hread
  obtain ⟨tmpBuf, hheader, hsize, hframe⟩ := aacReadInto_frame hread hp
  rw [sizeContract_iff_copyFits, copyFits_iff hsize hframe]
  constructor
  · exact fun hlen => ⟨tmpBuf, hheader, hlen⟩
  · rintro ⟨other, hother, hlen⟩
    rw [hheader] at hother
    cases hother
    exact hlen

/-- A source at the start of an AAC file, before its first `ReadFrame`. -/
def aacSample (content : List UInt8) : MediaSource :=
  create (fun _ => {}) (.aac { content := content } {})

/-- The `read` calls of a regular file. -/
def wholeReads : ReadEnv := { answer := fun _ => some frameMaxSize }

def sampleAacSink : AACRtpSink := { base := { payloadType := rtpPayloadTypeAac }, fps := 43 }

/-- A frame of nine bytes. -/
def nineByteFrame : List UInt8 := [0xff, 0xf1, 0x50, 0x80, 0x01, 0x3f, 0xfc, 0xaa, 0xbb]

theorem aac_sizeContract_iff_sample :
    ∃ s' events frame, (aacSample nineByteFrame).readFrame wholeReads = .ok (s', events) ∧
      .filled 0 frame ∈ events ∧
      (SizeContract sampleAacSink frame ↔ WellSized { content := nineByteFrame } wholeReads) :=
  ⟨_, _, _, rfl, List.mem_cons_of_mem _ (List.mem_singleton_self _),
    aac_sizeContract_iff (aacSample nineByteFrame) _ _ _ wholeReads _ 0 _ _ rfl rfl
      (List.mem_cons_of_mem _ (List.mem_singleton_self _))⟩

/-- An ADTS header that announces a frame of 1500 bytes. -/
def header1500 : List UInt8 := [0xff, 0xf1, 0x50, 0x80, 0xbb, 0x9f, 0xfc]

theorem aac_sizeContract_fails_1500 :
    ∃ s' events frame, (aacSample header1500).readFrame wholeReads = .ok (s', events) ∧
      .filled 0 frame ∈ events ∧ ¬ SizeContract sampleAacSink frame := by
  refine ⟨_, _, _, rfl, List.mem_cons_of_mem _ (List.mem_singleton_self _), ?_⟩
  rw [sizeContract_iff_copyFits, CopyFits]
  decide

end MediaSource
end MyRtspServer.Net
