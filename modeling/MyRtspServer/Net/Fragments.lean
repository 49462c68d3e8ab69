import MyRtspServer.Net.Packets

/-!
# The headers of a fragmented frame

The fragments of the loop are well formed. The last fragment of a frame whose
length is no multiple of `RTP_MAX_PKT_SIZE` is not: its header byte is first set
to the NAL type and then overwritten by the end bit.
-/
namespace MyRtspServer.Net

open Library Library.Octets Library.RtpFormat

theorem RtpSink.packet_payload (s : RtpSink) (payload : List UInt8) :
    (s.packet payload).payload = payload :=
  List.drop_left' (RtpSink.header_length s)

namespace H264RtpSink

/-- What a receiver is to read in fragment `k` of `count`, for the NAL header `h`. -/
def fragmentHeader (h : UInt8) (k count : Nat) : FragmentHeader :=
  { forbidden := false
    nri := h.toNat / 32 % 4
    indicatorType := fuA
    start := decide (k = 0)
    last := decide (k + 1 = count)
    reserved := false
    naluType := h.toNat % 32 }

/-- At least two fragments, each with the header its place asks for. -/
def WellFormed (h : UInt8) (payloads : List (List UInt8)) : Prop :=
  2 ≤ payloads.length ∧ ∀ k payload, payloads[k]? = some payload →
    ∃ bytes, decodeFragment payload = some (fragmentHeader h k payloads.length, bytes)

/-- `HandleFrame` sends well formed fragments. -/
def SendsWellFormed (s : H264RtpSink) (frame : AVFrame) : Prop :=
  ∃ r, s.handleFrame frame = .ok r ∧
    WellFormed (frame.buffer frame.frame) (r.sent.map fun p => p.payload)

/-! ## The two bytes -/

theorem fuIndicator_fields (h : UInt8) :
    (fuIndicator h).toNat / 128 = 0 ∧ (fuIndicator h).toNat / 32 % 4 = h.toNat / 32 % 4 ∧
      (fuIndicator h).toNat % 32 = fuA := by
  revert h
  exact forall_octet (by decide +kernel)

/-- The NAL type with a bit above it. -/
theorem naluType_or_fields (h : UInt8) :
    ((h &&& 0x1f).toNat = h.toNat % 32) ∧
      ((h &&& 0x1f) ||| 0x80).toNat = 128 + h.toNat % 32 ∧
      ((h &&& 0x1f) ||| 0x40).toNat = 64 + h.toNat % 32 := by
  revert h
  exact forall_octet (by decide +kernel)

/-- The header byte of the loop, as a number. -/
theorem fuHeader_toNat (h : UInt8) (pktNum remain i : Nat) :
    (fuHeader h pktNum remain i).toNat =
      (if i = 0 then 128 else if remain = 0 ∧ i = pktNum - 1 then 64 else 0) + h.toNat % 32 := by
  obtain ⟨hplain, hstart, hlast⟩ := naluType_or_fields h
  unfold fuHeader
  dsimp only
  split
  · exact hstart
  · split
    · exact hlast
    · rw [hplain, Nat.zero_add]

theorem decodeFragment_payload (frame : AVFrame) (h header : UInt8) (pos size : Nat) :
    decodeFragment (fragmentPayload frame h header pos size) =
      some ({ forbidden := false
              nri := h.toNat / 32 % 4
              indicatorType := fuA
              start := decide (header.toNat / 128 = 1)
              last := decide (header.toNat / 64 % 2 = 1)
              reserved := decide (header.toNat / 32 % 2 = 1)
              naluType := header.toNat % 32 },
        frame.buffer.load (frame.frame + pos) size) := by
  obtain ⟨hforbidden, hnri, htype⟩ := fuIndicator_fields h
  rw [fragmentPayload, decodeFragment, hforbidden, hnri, htype]
  rfl

/-- A fragment of the loop is well formed, wherever the end bit belongs. -/
theorem decodeFragment_loop {maxSize : Nat} (frame : AVFrame) (h : UInt8)
    {pktNum remain i count : Nat} (hi : i < pktNum)
    (hcount : count = pktNum + if 0 < remain then 1 else 0) (htwo : 2 ≤ count) :
    decodeFragment (loopPayload maxSize frame h pktNum remain i) =
      some (fragmentHeader h i count,
        frame.buffer.load (frame.frame + (1 + i * maxSize)) maxSize) := by
  have hvalue := fuHeader_toNat h pktNum remain i
  have hstart : (fuHeader h pktNum remain i).toNat / 128 = 1 ↔ i = 0 := by
    rw [hvalue]
    split
    · omega
    · split <;> omega
  have hlast : (fuHeader h pktNum remain i).toNat / 64 % 2 = 1 ↔ i + 1 = count := by
    rw [hvalue]
    split at hcount
    · split
      · omega
      · split <;> omega
    · split
      · omega
      · split <;> omega
  have hreserved : ¬ (fuHeader h pktNum remain i).toNat / 32 % 2 = 1 := by
    rw [hvalue]
    split
    · omega
    · split <;> omega
  have htype : (fuHeader h pktNum remain i).toNat % 32 = h.toNat % 32 := by
    rw [hvalue]
    split
    · omega
    · split <;> omega
  rw [loopPayload, decodeFragment_payload, fragmentHeader]
  simp only [hstart, hlast, hreserved, htype, decide_false]

/-! ## All fragments of a frame -/

section Long

variable {frame : AVFrame} {n : Nat}

theorem payloads_length (hn : frame.frameSize = n) (hlong : rtpMaxPktSize < n) :
    (payloads frame).length = n / rtpMaxPktSize + if 0 < n % rtpMaxPktSize then 1 else 0 := by
  rw [payloads_long hn hlong, List.length_append, List.length_map, List.length_range]
  split <;> rfl

theorem two_le_payloads (hn : frame.frameSize = n) (hlong : rtpMaxPktSize < n) :
    2 ≤ (payloads frame).length := by
  rw [payloads_length hn hlong]
  have hmax : rtpMaxPktSize = 1400 := rfl
  rw [hmax] at hlong ⊢
  split <;> omega

/-- The last fragment of a frame with a remainder carries no type. -/
theorem payloads_last (hn : frame.frameSize = n) (hlong : rtpMaxPktSize < n)
    (hremain : 0 < n % rtpMaxPktSize) :
    (payloads frame)[n / rtpMaxPktSize]? =
      some (fragmentPayload frame (frame.buffer frame.frame) 0x40
        (1 + n / rtpMaxPktSize * rtpMaxPktSize) (n % rtpMaxPktSize)) := by
  rw [payloads_long hn hlong, if_pos hremain, List.getElem?_append_right (by simp)]
  simp

theorem payloads_loop (hn : frame.frameSize = n) (hlong : rtpMaxPktSize < n) {k : Nat}
    (hk : k < n / rtpMaxPktSize) :
    (payloads frame)[k]? = some (loopPayload rtpMaxPktSize frame (frame.buffer frame.frame)
      (n / rtpMaxPktSize) (n % rtpMaxPktSize) k) := by
  rw [payloads_long hn hlong, List.getElem?_append_left (by simpa using hk), List.getElem?_map,
    List.getElem?_range hk]
  rfl

theorem wellFormed_payloads (hn : frame.frameSize = n) (hlong : rtpMaxPktSize < n)
    (h : n % rtpMaxPktSize = 0 ∨ frame.buffer frame.frame &&& 0x1f = 0) :
    WellFormed (frame.buffer frame.frame) (payloads frame) := by
  have htwo := two_le_payloads hn hlong
  refine ⟨htwo, fun k payload hk => ?_⟩
  have hcount := payloads_length hn hlong
  have hlt : k < (payloads frame).length := (List.getElem?_eq_some_iff.mp hk).1
  by_cases hloop : k < n / rtpMaxPktSize
  · rw [payloads_loop hn hlong hloop] at hk
    cases hk
    exact ⟨_, decodeFragment_loop frame _ hloop hcount htwo⟩
  · have hremain : 0 < n % rtpMaxPktSize := by
      by_contra hzero
      rw [if_neg hzero] at hcount
      omega
    have htype : (frame.buffer frame.frame).toNat % 32 = 0 := by
      rw [← (naluType_or_fields _).1, h.resolve_left hremain.ne']
      rfl
    rw [if_pos hremain] at hcount
    have hend : k = n / rtpMaxPktSize := by omega
    have hfirst : ¬ k = 0 := by omega
    have hlast : k + 1 = (payloads frame).length := by omega
    rw [hend, payloads_last hn hlong hremain] at hk
    cases hk
    rw [decodeFragment_payload, fragmentHeader, htype]
    simp only [hfirst, hlast]
    exact ⟨_, rfl⟩

theorem not_wellFormed_payloads (hn : frame.frameSize = n) (hlong : rtpMaxPktSize < n)
    (hremain : 0 < n % rtpMaxPktSize) (htype : frame.buffer frame.frame &&& 0x1f ≠ 0) :
    ¬ WellFormed (frame.buffer frame.frame) (payloads frame) := by
  rintro ⟨-, hall⟩
  obtain ⟨bytes, hdecode⟩ := hall _ _ (payloads_last hn hlong hremain)
  rw [decodeFragment_payload, Option.some.injEq, Prod.mk.injEq] at hdecode
  have hread : (0 : Nat) = (frame.buffer frame.frame).toNat % 32 :=
    congrArg FragmentHeader.naluType hdecode.1
  rw [← (naluType_or_fields _).1] at hread
  exact htype (UInt8.toNat_inj.mp hread.symm)

end Long

theorem sendsWellFormed_iff_payloads (s : H264RtpSink) (frame : AVFrame) :
    SendsWellFormed s frame ↔
      InBuffer frame ∧ WellFormed (frame.buffer frame.frame) (payloads frame) := by
  have hmap : (s.base.packets (payloads frame)).map (fun p => p.payload) = payloads frame := by
    apply List.ext_getElem?
    intro k
    rw [List.getElem?_map, RtpSink.packets_getElem?, Option.map_map]
    have hid : (fun p : SentPacket => p.payload) ∘ (s.base.after k).packet = id :=
      funext fun payload => RtpSink.packet_payload _ payload
    rw [hid, Option.map_id, id_eq]
  constructor
  · rintro ⟨r, hr, hform⟩
    rw [(handled_of_ok hr).sent, hmap] at hform
    exact ⟨handleFrame_in hr, hform⟩
  · rintro ⟨hin, hform⟩
    obtain ⟨r, hr, handled⟩ := handleFrame_handled s hin
    exact ⟨r, hr, by rwa [handled.sent, hmap]⟩

/-- **The headers of a fragmented frame are well formed exactly when its length is
a multiple of `RTP_MAX_PKT_SIZE`, or it has no NAL type to lose**; and the byte
behind the frame, which goes into the last fragment, must be in the buffer. -/
theorem fragments_wellFormed_iff (s : H264RtpSink) (frame : AVFrame) (n : Nat)
    (hn : frame.frameSize = n) (hlong : rtpMaxPktSize < n) :
    SendsWellFormed s frame ↔
      frame.frame + n < frameMaxSize ∧
        (n % rtpMaxPktSize = 0 ∨ frame.buffer frame.frame &&& 0x1f = 0) := by
  have hin : InBuffer frame ↔ frame.frame + n < frameMaxSize := by
    rw [InBuffer, hn, if_neg (by omega)]
    omega
  rw [sendsWellFormed_iff_payloads, hin]
  refine and_congr_right fun _ => ⟨fun hform => ?_, wellFormed_payloads hn hlong⟩
  by_contra hbad
  rw [not_or] at hbad
  exact not_wellFormed_payloads hn hlong (Nat.pos_of_ne_zero hbad.1) hbad.2 hform

/-- A slice of an IDR picture of `size` bytes, behind a start code of four. -/
def idrFrame (size : Nat) : AVFrame :=
  { buffer := fun i => if i = 4 then 0x65 else 0x11, frame := 4, frameSize := size }

theorem fragments_wellFormed_iff_sample :
    SendsWellFormed sampleSink (idrFrame 2800) ↔
      4 + 2800 < frameMaxSize ∧ (2800 % rtpMaxPktSize = 0 ∨ (0x65 : UInt8) &&& 0x1f = 0) :=
  fragments_wellFormed_iff sampleSink (idrFrame 2800) 2800 rfl (by decide)

/-- One byte more, and the last fragment says NAL type 0. -/
theorem fragments_malformed_2801 : ¬ SendsWellFormed sampleSink (idrFrame 2801) := by
  rw [sendsWellFormed_iff_payloads]
  exact fun h => not_wellFormed_payloads (n := 2801) rfl (by decide) (by decide) (by decide) h.2

end H264RtpSink
end MyRtspServer.Net
