import MyRtspServer.Net.RtpSinks

/-!
# What a receiver gets back from `H264RtpSink`

A frame of at most `RTP_MAX_PKT_SIZE` bytes is sent whole. A longer one is cut
into fragments whose number comes from the frame length although the copying
starts at offset 1, behind the NAL header: the fragments carry one byte more
than the NAL unit has.
-/
namespace MyRtspServer.Net

open Library

/-- The bytes behind the RTP header. -/
def SentPacket.payload (p : SentPacket) : List UInt8 := p.bytes.drop rtpHeaderSize

namespace H264RtpSink

theorem memcpy_memory {p q : RtpPacket} {dst src : Nat} {frame : AVFrame} {size : Int}
    (h : p.memcpy dst frame src size = .ok q) :
    q.memory = p.memory.store (rtpPayloadOffset + dst)
      (frame.buffer.load (frame.frame + src) size.toNat) := by
  unfold RtpPacket.memcpy at h
  split at h
  · cases h; rfl
  · cases h

/-- Two header bytes and a copied range, read back from the payload. -/
theorem payload_of_copy (m : Memory) (a b : UInt8) (bytes : List UInt8) :
    (((m.store rtpPayloadOffset [a]).store (rtpPayloadOffset + 1) [b]).store
      (rtpPayloadOffset + 2) bytes).load rtpPayloadOffset (1 + (1 + bytes.length)) =
        a :: b :: bytes := by
  have hone : (m.store rtpPayloadOffset [a]).load rtpPayloadOffset 1 = [a] :=
    Memory.load_store m rtpPayloadOffset [a]
  have htwo := Memory.load_store_next (m.store rtpPayloadOffset [a]) rtpPayloadOffset 1 [b]
  have hall := Memory.load_store_next
    ((m.store rtpPayloadOffset [a]).store (rtpPayloadOffset + 1) [b]) rtpPayloadOffset 2 bytes
  change Memory.load _ rtpPayloadOffset 2 = _ at htwo
  rw [htwo, hone] at hall
  rw [← Nat.add_assoc]
  exact hall

theorem send_payload (s : H264RtpSink) (p : RtpPacket) {n : Nat} (hn : p.size = n) :
    (s.send p).2.payload = p.memory.load rtpPayloadOffset n :=
  sendRtpPacket_payload s.base p hn

theorem sendFragment_payload {s s' : H264RtpSink} {frame : AVFrame} {naluType header : UInt8}
    {pos size : Nat} {sent : SentPacket}
    (h : s.sendFragment frame naluType header pos size = .ok (s', sent)) :
    sent.payload = fuIndicator naluType :: header :: frame.buffer.load (frame.frame + pos) size := by
  unfold sendFragment at h
  split at h
  · cases h
  · rename_i p hp
    cases h
    have hm := memcpy_memory hp
    have hcopy := payload_of_copy s.packet.memory (fuIndicator naluType) header
      (frame.buffer.load (frame.frame + pos) size)
    have hsize : (size : Int) + 2 = (1 + (1 + size) : Nat) := by omega
    rw [Memory.load_length] at hcopy
    have hpay := send_payload s { p with size := (size : Int) + 2 } hsize
    refine hpay.trans ?_
    rw [hm, Int.toNat_natCast]
    exact hcopy

/-- The loop sends the bytes from `pos` on, `maxSize` at a time. -/
theorem sendFragments_payload {maxSize : Nat} {frame : AVFrame} {naluType : UInt8} {pktNum remain : Nat}
    (left : Nat) : ∀ {pos : Nat} {s : H264RtpSink} {r : FrameResult H264RtpSink},
      sendFragments maxSize frame naluType pktNum remain left pos s = .ok r →
      r.sent.flatMap (fun p => p.payload.drop 2) =
        frame.buffer.load (frame.frame + pos) (maxSize * left) := by
  induction left with
  | zero =>
    intro pos s r h
    cases h
    simp
  | succ left ih =>
    intro pos s r h
    rw [sendFragments] at h
    split at h
    · cases h
    · rename_i s' sent hsent
      split at h
      · cases h
      · rename_i rest hrest
        cases h
        have hfirst : sent.payload.drop 2 = frame.buffer.load (frame.frame + pos) maxSize := by
          rw [sendFragment_payload hsent]
          exact List.drop_zero
        have hsize : maxSize * (left + 1) = maxSize + maxSize * left := by
          rw [Nat.mul_succ, Nat.add_comm]
        rw [List.flatMap_cons, hfirst, ih hrest, hsize, Memory.load_add, Nat.add_assoc]

/-- All fragments of a long frame together: `n` bytes from offset 1. -/
theorem handleFrame_fragments {s : H264RtpSink} {frame : AVFrame} {n : Nat}
    {r : FrameResult H264RtpSink} (hn : frame.frameSize = n) (hlong : rtpMaxPktSize < n)
    (h : s.handleFrame frame = .ok r) :
    r.sent.flatMap (fun p => p.payload.drop 2) = frame.buffer.load (frame.frame + 1) n := by
  have hbig : ¬ (n : Int) ≤ rtpMaxPktSize := by omega
  have hdiv : rtpMaxPktSize * (n / rtpMaxPktSize) + n % rtpMaxPktSize = n :=
    Nat.div_add_mod n rtpMaxPktSize
  simp only [handleFrame, hn, hbig, if_false, Int.toNat_natCast] at h
  split at h
  · cases h
  · rename_i q hq
    have hloop := sendFragments_payload _ hq
    split at h
    · split at h
      · cases h
      · rename_i s' sent hsent
        cases h
        rw [List.flatMap_append, hloop]
        simp only [List.flatMap_cons, List.flatMap_nil, List.append_nil,
          sendFragment_payload hsent, List.drop_succ_cons, List.drop_zero]
        conv_rhs => rw [← hdiv, Memory.load_add]
        rw [Nat.add_assoc, Nat.mul_comm rtpMaxPktSize]
    · rename_i hzero
      cases h
      have hall : rtpMaxPktSize * (n / rtpMaxPktSize) = n := by omega
      rw [hloop, hall]

/-- The receiver gets the NAL unit back and nothing else was looked at. -/
def RoundTrip (s : H264RtpSink) (frame : AVFrame) (n : Nat) : Prop :=
  ∃ r, s.handleFrame frame = .ok r ∧ (∀ read ∈ r.reads, read.1 + read.2 ≤ n) ∧
    if n ≤ rtpMaxPktSize then
      r.sent.map (fun p => p.payload) = [frame.buffer.load frame.frame n]
    else
      r.sent.flatMap (fun p => p.payload.drop 2) = frame.buffer.load (frame.frame + 1) (n - 1)

theorem roundTrip_short (s : H264RtpSink) (frame : AVFrame) {n : Nat} (hn : frame.frameSize = n)
    (hpos : 1 ≤ n) (hin : frame.frame + n ≤ frameMaxSize) (hshort : n ≤ rtpMaxPktSize) :
    RoundTrip s frame n := by
  have hfits : (0 : Int) ≤ n ∧ rtpPayloadOffset + (0 : Nat) + (n : Int) ≤ rtpAllocation ∧
      frame.frame + (0 : Nat) + (n : Int) ≤ frameMaxSize := by
    have halloc : rtpPayloadOffset + rtpMaxPktSize ≤ rtpAllocation := by decide
    refine ⟨by omega, by omega, by omega⟩
  have hcopy : s.packet.memcpy 0 frame 0 n =
      .ok { s.packet with
        memory := s.packet.memory.store rtpPayloadOffset (frame.buffer.load frame.frame n) } := by
    rw [RtpPacket.memcpy, if_pos hfits]
    rfl
  have hpay : (s.send { s.packet with
      memory := s.packet.memory.store rtpPayloadOffset (frame.buffer.load frame.frame n)
      size := (n : Int) }).2.payload = frame.buffer.load frame.frame n := by
    have hload := Memory.load_store s.packet.memory rtpPayloadOffset
      (frame.buffer.load frame.frame n)
    rw [Memory.load_length] at hload
    exact (send_payload s _ rfl).trans hload
  have hreads : ∀ read ∈ [(0, 1), (0, n)], read.1 + read.2 ≤ n := by
    intro read hread
    simp only [List.mem_cons, List.not_mem_nil, or_false] at hread
    rcases hread with rfl | rfl <;> simp [hpos]
  have hle : (n : Int) ≤ rtpMaxPktSize := by omega
  unfold RoundTrip handleFrame
  simp only [hn, hle, if_true, hcopy, Int.toNat_natCast, hshort]
  split
  · exact ⟨_, rfl, hreads, congrArg (fun p => [p]) hpay⟩
  · exact ⟨_, rfl, hreads, congrArg (fun p => [p]) hpay⟩

/-- A fragmented frame arrives one byte too long. -/
theorem not_roundTrip_long (s : H264RtpSink) (frame : AVFrame) {n : Nat}
    (hn : frame.frameSize = n) (hlong : rtpMaxPktSize < n) : ¬ RoundTrip s frame n := by
  rintro ⟨r, hr, -, hbytes⟩
  rw [if_neg (Nat.not_le.mpr hlong), handleFrame_fragments hn hlong hr] at hbytes
  have hlen := congrArg List.length hbytes
  rw [Memory.load_length, Memory.load_length] at hlen
  omega

/-- **The NAL unit survives exactly when it is not fragmented.** -/
theorem roundTrip_iff (s : H264RtpSink) (frame : AVFrame) (n : Nat) (hn : frame.frameSize = n)
    (hpos : 1 ≤ n) (hin : frame.frame + n ≤ frameMaxSize) :
    RoundTrip s frame n ↔ n ≤ rtpMaxPktSize := by
  refine ⟨fun h => ?_, roundTrip_short s frame hn hpos hin⟩
  by_contra hlong
  exact not_roundTrip_long s frame hn (Nat.not_le.mp hlong) h

def sampleSink : H264RtpSink := { base := { payloadType := rtpPayloadTypeH264 }, fps := 25 }

theorem roundTrip_iff_sample :
    RoundTrip sampleSink
        { buffer := fun i => if i = 4 then 0x65 else 0x11, frame := 4, frameSize := 3 } 3 ↔
      3 ≤ rtpMaxPktSize :=
  roundTrip_iff _ _ 3 rfl (by decide) (by decide)

/-- The shortest fragmented frame, with the next start code behind it. -/
theorem roundTrip_fails_1401 :
    ¬ RoundTrip sampleSink
      { buffer := fun i => if i = 4 then 0x65 else if i < 1405 then 0x11 else 0, frame := 4,
        frameSize := 1401 } 1401 :=
  not_roundTrip_long _ _ rfl (by decide)

end H264RtpSink
end MyRtspServer.Net
