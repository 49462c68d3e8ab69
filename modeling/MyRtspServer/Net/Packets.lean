import MyRtspServer.Library.RtpFormat
import MyRtspServer.Net.AacContract
import MyRtspServer.Net.FuA

/-!
# The packets a sink sends

Every packet is the header of the sink as it stands and a payload, and every
packet raises the sequence number by one. So a call of `HandleFrame` is described
by the payloads it makes: the packets are those payloads, numbered.
-/
namespace MyRtspServer.Net

open Library Library.RtpFormat

namespace RtpSink

/-- The packet `SendRtpPacket` makes of a payload. -/
def packet (s : RtpSink) (payload : List UInt8) : SentPacket :=
  { bytes := s.header ++ payload, size := rtpHeaderSize + payload.length }

/-- The sink when it has sent `n` more packets. -/
def after (s : RtpSink) (n : Nat) : RtpSink := { s with seq := s.seq + UInt16.ofNat n }

/-- Payloads sent one after the other. -/
def packets (s : RtpSink) : List (List UInt8) → List SentPacket
  | [] => []
  | payload :: rest => s.packet payload :: packets (s.after 1) rest

@[simp] theorem after_zero (s : RtpSink) : s.after 0 = s := by
  simp [after]

theorem after_after (s : RtpSink) (m n : Nat) : (s.after m).after n = s.after (m + n) := by
  simp [after, UInt16.add_assoc]

@[simp] theorem packets_length (payloads : List (List UInt8)) :
    ∀ s : RtpSink, (s.packets payloads).length = payloads.length := by
  induction payloads with
  | nil => exact fun _ => rfl
  | cons payload rest ih => exact fun s => congrArg Nat.succ (ih (s.after 1))

theorem packets_append (first rest : List (List UInt8)) : ∀ s : RtpSink,
    s.packets (first ++ rest) = s.packets first ++ (s.after first.length).packets rest := by
  induction first with
  | nil => exact fun s => by simp [packets]
  | cons payload first ih =>
    intro s
    rw [List.cons_append, packets, packets, ih, after_after, List.length_cons, Nat.add_comm 1]
    rfl

/-- The `k`-th packet has the `k`-th payload and a number raised by `k`. -/
theorem packets_getElem? (payloads : List (List UInt8)) : ∀ (s : RtpSink) (k : Nat),
    (s.packets payloads)[k]? = payloads[k]?.map (s.after k).packet := by
  induction payloads with
  | nil => exact fun _ _ => rfl
  | cons payload rest ih =>
    intro s k
    cases k with
    | zero => simp [packets]
    | succ k =>
      rw [packets, List.getElem?_cons_succ, List.getElem?_cons_succ, ih, after_after,
        Nat.add_comm 1]

theorem sendRtpPacket_sent (s : RtpSink) (p : RtpPacket) {n : Nat} (hn : p.size = n) :
    (s.sendRtpPacket p).sent = s.packet (p.memory.load rtpPayloadOffset n) := by
  have hbytes := sendRtpPacket_bytes s p hn
  have hsize : (s.sendRtpPacket p).sent.size = rtpHeaderSize + (n : Int) := by
    change p.size + (rtpHeaderSize : Int) = _
    rw [hn, Int.add_comm]
  rw [packet, Memory.load_length, ← hbytes, ← hsize]

/-! ## The header -/

theorem flagByte_toNat (s : RtpSink) :
    s.flagByte.toNat = s.version.toNat % 4 * 64 + (s.padding.toNat % 2 * 32 +
      (s.extension.toNat % 2 * 16 + s.csrcLen.toNat % 16)) := by
  have hcsrc := mask_toNat s.csrcLen 0x0f (k := 4) rfl
  have hextension := mask_toNat s.extension 1 (k := 1) rfl
  have hpadding := mask_toNat s.padding 1 (k := 1) rfl
  have hversion := mask_toNat s.version 3 (k := 2) rfl
  have hlow := or_shift_toNat _ _ 4 (k := 4) hcsrc hextension rfl (by decide) (by omega) (by omega)
  have hmiddle := or_shift_toNat _ _ 5 (k := 5) hlow hpadding rfl (by decide) (by omega) (by omega)
  exact or_shift_toNat _ _ 6 (k := 6) hmiddle hversion rfl (by decide) (by omega) (by omega)

theorem payloadByte_toNat (s : RtpSink) :
    s.payloadByte.toNat = s.marker.toNat % 2 * 128 + s.payloadType.toNat % 128 :=
  or_shift_toNat _ _ 7 (k := 7) (mask_toNat s.payloadType 0x7f (k := 7) rfl)
    (mask_toNat s.marker 1 (k := 1) rfl) rfl (by decide) (by omega) (by omega)

/-- What a receiver is to read in the header. -/
def fields (s : RtpSink) : Header :=
  { version := s.version.toNat % 4
    padding := decide (s.padding.toNat % 2 = 1)
    extension := decide (s.extension.toNat % 2 = 1)
    csrcCount := s.csrcLen.toNat % 16
    marker := decide (s.marker.toNat % 2 = 1)
    payloadType := s.payloadType.toNat % 128
    sequence := s.seq.toNat
    timestamp := s.timeStamp.toNat
    ssrc := s.ssrc.toNat }

/-- **The header decodes to the members of the sink.** -/
theorem decode_packet (s : RtpSink) (payload : List UInt8) :
    decode (s.packet payload).bytes = some (s.fields, payload) := by
  have hflags := s.flagByte_toNat
  have hpayload := s.payloadByte_toNat
  have hversion : s.flagByte.toNat / 64 = s.version.toNat % 4 := by omega
  have hpadding : s.flagByte.toNat / 32 % 2 = s.padding.toNat % 2 := by omega
  have hextension : s.flagByte.toNat / 16 % 2 = s.extension.toNat % 2 := by omega
  have hcsrc : s.flagByte.toNat % 16 = s.csrcLen.toNat % 16 := by omega
  have hmarker : s.payloadByte.toNat / 128 = s.marker.toNat % 2 := by omega
  have htype : s.payloadByte.toNat % 128 = s.payloadType.toNat % 128 := by omega
  change some (Header.mk _ _ _ _ _ _ _ _ _, payload) = _
  rw [bigEndian_16, bigEndian_32, bigEndian_32, hversion, hcsrc, htype]
  simp only [hpadding, hextension, hmarker, fields]

end RtpSink

/-! ## H264 -/

namespace H264RtpSink

/-- `s` has sent these payloads and become `s'`; only the sequence number and the
packet buffer have changed. -/
structure Sent (s s' : H264RtpSink) (payloads : List (List UInt8)) (sent : List SentPacket) :
    Prop where
  packets : sent = s.base.packets payloads
  base : s'.base = s.base.after payloads.length
  clockRate : s'.clockRate = s.clockRate
  fps : s'.fps = s.fps

theorem Sent.append {s m t : H264RtpSink} {first rest : List (List UInt8)}
    {sent later : List SentPacket} (h : Sent s m first sent) (h' : Sent m t rest later) :
    Sent s t (first ++ rest) (sent ++ later) := by
  constructor
  · rw [h.packets, h'.packets, h.base, RtpSink.packets_append]
  · rw [h'.base, h.base, RtpSink.after_after, List.length_append]
  · rw [h'.clockRate, h.clockRate]
  · rw [h'.fps, h.fps]

theorem send_sent (s : H264RtpSink) (p : RtpPacket) {n : Nat} (hn : p.size = n) :
    Sent s (s.send p).1 [p.memory.load rtpPayloadOffset n] [(s.send p).2] := by
  constructor
  · change [(s.base.sendRtpPacket p).sent] = _
    rw [RtpSink.sendRtpPacket_sent s.base p hn]
    rfl
  · rfl
  · rfl
  · rfl

/-- The payload of a fragment of `size` bytes from `pos`. -/
def fragmentPayload (frame : AVFrame) (naluType header : UInt8) (pos size : Nat) : List UInt8 :=
  fuIndicator naluType :: header :: frame.buffer.load (frame.frame + pos) size

/-- A fragment is sent exactly when its range lies in the frame buffer. -/
theorem sendFragment_sent (s : H264RtpSink) (frame : AVFrame) (naluType header : UInt8)
    {pos size : Nat} (hin : frame.frame + pos + size ≤ frameMaxSize)
    (hsize : size ≤ rtpMaxPktSize) :
    ∃ s' sent, s.sendFragment frame naluType header pos size = .ok (s', sent) ∧
      Sent s s' [fragmentPayload frame naluType header pos size] [sent] := by
  have hfits : (0 : Int) ≤ size ∧ rtpPayloadOffset + (2 : Nat) + (size : Int) ≤ rtpAllocation ∧
      frame.frame + pos + (size : Int) ≤ frameMaxSize := by
    have halloc : rtpPayloadOffset + 2 + rtpMaxPktSize ≤ rtpAllocation := by decide
    refine ⟨by omega, by omega, by omega⟩
  have hcopy := payload_of_copy s.packet.memory (fuIndicator naluType) header
    (frame.buffer.load (frame.frame + pos) size)
  rw [Memory.load_length] at hcopy
  have hlen : (size : Int) + 2 = (1 + (1 + size) : Nat) := by omega
  unfold sendFragment RtpPacket.memcpy
  rw [if_pos hfits]
  refine ⟨_, _, rfl, ?_⟩
  have hsent := send_sent s
    { (s.packet.setPayload 0 (fuIndicator naluType)).setPayload 1 header with
      memory := ((s.packet.setPayload 0 (fuIndicator naluType)).setPayload 1 header).memory.store
        (rtpPayloadOffset + 2) (frame.buffer.load (frame.frame + pos) size)
      size := (size : Int) + 2 } hlen
  rw [fragmentPayload, ← hcopy]
  exact hsent

theorem sendFragment_in {s s' : H264RtpSink} {frame : AVFrame} {naluType header : UInt8}
    {pos size : Nat} {sent : SentPacket}
    (h : s.sendFragment frame naluType header pos size = .ok (s', sent)) :
    frame.frame + pos + size ≤ frameMaxSize := by
  unfold sendFragment RtpPacket.memcpy at h
  split at h
  · cases h
  · rename_i p hp
    split at hp
    · rename_i hfits
      have := hfits.2.2
      omega
    · cases hp

section Loop

variable {maxSize : Nat} {frame : AVFrame} {naluType : UInt8} {pktNum remain : Nat}

/-- Fragment `i` of the loop. -/
def loopPayload (maxSize : Nat) (frame : AVFrame) (naluType : UInt8) (pktNum remain i : Nat) :
    List UInt8 :=
  fragmentPayload frame naluType (fuHeader naluType pktNum remain i) (1 + i * maxSize) maxSize

/-- The loop sends the fragments that are left, in order. -/
theorem sendFragments_sent (frame : AVFrame) (naluType : UInt8) (remain : Nat)
    (hmax : maxSize ≤ rtpMaxPktSize) (hin : frame.frame + 1 + pktNum * maxSize ≤ frameMaxSize)
    (left : Nat) : ∀ {s : H264RtpSink}, left ≤ pktNum →
      ∃ r, sendFragments maxSize frame naluType pktNum remain left
          (1 + (pktNum - left) * maxSize) s = .ok r ∧
        Sent s r.sink ((List.range' (pktNum - left) left).map
          (loopPayload maxSize frame naluType pktNum remain)) r.sent := by
  induction left with
  | zero =>
    intro s _
    exact ⟨_, rfl, rfl, (RtpSink.after_zero _).symm, rfl, rfl⟩
  | succ left ih =>
    intro s hle
    have hindex : pktNum - (left + 1) + 1 = pktNum - left := by omega
    have hnext : 1 + (pktNum - (left + 1)) * maxSize + maxSize =
        1 + (pktNum - left) * maxSize := by
      rw [← hindex, Nat.add_mul, Nat.one_mul, Nat.add_assoc]
    have hrange : (pktNum - left) * maxSize ≤ pktNum * maxSize :=
      Nat.mul_le_mul_right _ (Nat.sub_le _ _)
    obtain ⟨s', sent, hfirst, hsent⟩ := sendFragment_sent s frame naluType
      (fuHeader naluType pktNum remain (pktNum - (left + 1)))
      (show frame.frame + (1 + (pktNum - (left + 1)) * maxSize) + maxSize ≤ frameMaxSize by omega)
      hmax
    obtain ⟨r, hrest, hlater⟩ := ih (s := s') (Nat.le_of_succ_le hle)
    rw [sendFragments, hfirst]
    simp only [hnext, hrest]
    refine ⟨_, rfl, ?_⟩
    rw [List.range'_succ, hindex]
    exact hsent.append hlater

theorem sendFragments_in (left : Nat) : ∀ {pos : Nat} {s : H264RtpSink}
    {r : FrameResult H264RtpSink}, 0 < left →
      sendFragments maxSize frame naluType pktNum remain left pos s = .ok r →
        frame.frame + pos + left * maxSize ≤ frameMaxSize := by
  induction left with
  | zero => exact fun hpos => absurd hpos (Nat.lt_irrefl 0)
  | succ left ih =>
    intro pos s r _ h
    rw [sendFragments] at h
    split at h
    · cases h
    · rename_i s' sent hfirst
      have hone := sendFragment_in hfirst
      split at h
      · cases h
      · rename_i rest hrest
        rw [Nat.add_mul, Nat.one_mul]
        rcases Nat.eq_zero_or_pos left with rfl | hpos
        · omega
        · have := ih hpos hrest
          omega

end Loop

/-- The payloads `HandleFrame` makes of a frame. -/
def payloads (frame : AVFrame) : List (List UInt8) :=
  let naluType := frame.buffer frame.frame
  let size := frame.frameSize.toNat
  let pktNum := size / rtpMaxPktSize
  let remain := size % rtpMaxPktSize
  if size ≤ rtpMaxPktSize then [frame.buffer.load frame.frame size]
  else
    (List.range pktNum).map (loopPayload rtpMaxPktSize frame naluType pktNum remain) ++
      if 0 < remain then
        [fragmentPayload frame naluType 0x40 (1 + pktNum * rtpMaxPktSize) remain]
      else []

/-- What `HandleFrame` reads of the frame lies in its buffer: a fragmented frame is
read up to the byte behind its end. -/
def InBuffer (frame : AVFrame) : Prop :=
  0 ≤ frame.frameSize ∧
    if frame.frameSize ≤ rtpMaxPktSize then frame.frame + frame.frameSize ≤ frameMaxSize
    else frame.frame + 1 + frame.frameSize ≤ frameMaxSize

/-- NAL types 7 and 8. -/
def IsParameterSet (frame : AVFrame) : Prop :=
  frame.buffer frame.frame &&& 0x1f = 7 ∨ frame.buffer frame.frame &&& 0x1f = 8

instance (frame : AVFrame) : Decidable (IsParameterSet frame) :=
  inferInstanceAs (Decidable (_ ∨ _))

/-- `m_clock_rate_ / m_fps_`. -/
def timeStep (s : H264RtpSink) : UInt32 := UInt32.ofInt (s.clockRate.tdiv s.fps)

/-- What `HandleFrame` does with a frame: its payloads are sent, and the time stamp
advances unless a parameter set went out as one packet. -/
structure Handled (s : H264RtpSink) (frame : AVFrame) (r : FrameResult H264RtpSink) : Prop where
  sent : r.sent = s.base.packets (payloads frame)
  base : r.sink.base =
    if frame.frameSize ≤ rtpMaxPktSize ∧ IsParameterSet frame then
      s.base.after (payloads frame).length
    else
      { s.base.after (payloads frame).length with timeStamp := s.base.timeStamp + s.timeStep }
  clockRate : r.sink.clockRate = s.clockRate
  fps : r.sink.fps = s.fps

theorem payloads_short {frame : AVFrame} {n : Nat} (hn : frame.frameSize = n)
    (hshort : n ≤ rtpMaxPktSize) : payloads frame = [frame.buffer.load frame.frame n] := by
  simp only [payloads, hn, Int.toNat_natCast, if_pos hshort]

theorem payloads_long {frame : AVFrame} {n : Nat} (hn : frame.frameSize = n)
    (hlong : rtpMaxPktSize < n) :
    payloads frame =
      (List.range (n / rtpMaxPktSize)).map (loopPayload rtpMaxPktSize frame
        (frame.buffer frame.frame) (n / rtpMaxPktSize) (n % rtpMaxPktSize)) ++
      if 0 < n % rtpMaxPktSize then
        [fragmentPayload frame (frame.buffer frame.frame) 0x40
          (1 + n / rtpMaxPktSize * rtpMaxPktSize) (n % rtpMaxPktSize)]
      else [] := by
  simp only [payloads, hn, Int.toNat_natCast, if_neg (Nat.not_le.mpr hlong)]

/-- The common end of both paths. -/
theorem Sent.advance {s s' : H264RtpSink} {frame : AVFrame} {sent : List SentPacket}
    (h : Sent s s' (payloads frame) sent)
    (hadvance : ¬ (frame.frameSize ≤ rtpMaxPktSize ∧ IsParameterSet frame))
    (reads : List FrameRead) : Handled s frame ⟨s'.advance, sent, reads⟩ := by
  refine ⟨h.packets, ?_, h.clockRate, h.fps⟩
  rw [if_neg hadvance, ← h.base]
  change { s'.base with timeStamp := s'.base.timeStamp + s'.timeStep } = _
  rw [timeStep, timeStep, h.clockRate, h.fps, h.base]
  rfl

theorem handleFrame_short {s : H264RtpSink} {frame : AVFrame} {n : Nat}
    (hn : frame.frameSize = n) (hshort : n ≤ rtpMaxPktSize)
    (hin : frame.frame + n ≤ frameMaxSize) :
    ∃ r, s.handleFrame frame = .ok r ∧ Handled s frame r := by
  have hfits : (0 : Int) ≤ n ∧ rtpPayloadOffset + (0 : Nat) + (n : Int) ≤ rtpAllocation ∧
      frame.frame + (0 : Nat) + (n : Int) ≤ frameMaxSize := by
    have halloc : rtpPayloadOffset + rtpMaxPktSize ≤ rtpAllocation := by decide
    refine ⟨by omega, by omega, by omega⟩
  have hle : (n : Int) ≤ rtpMaxPktSize := by omega
  have hload := Memory.load_store s.packet.memory rtpPayloadOffset
    (frame.buffer.load frame.frame n)
  rw [Memory.load_length] at hload
  have hsent := send_sent s
    { s.packet with
      memory := s.packet.memory.store rtpPayloadOffset (frame.buffer.load frame.frame n)
      size := (n : Int) } rfl
  simp only [hload, ← payloads_short hn hshort] at hsent
  unfold handleFrame RtpPacket.memcpy
  simp only [hn, hle, if_true, if_pos hfits, Int.toNat_natCast]
  split
  · rename_i hparameter
    refine ⟨_, rfl, hsent.packets, ?_, rfl, rfl⟩
    rw [if_pos ⟨hn ▸ hle, hparameter⟩]
    exact hsent.base
  · rename_i hparameter
    exact ⟨_, rfl, hsent.advance (fun h => hparameter h.2) _⟩

theorem handleFrame_long {s : H264RtpSink} {frame : AVFrame} {n : Nat}
    (hn : frame.frameSize = n) (hlong : rtpMaxPktSize < n)
    (hin : frame.frame + 1 + n ≤ frameMaxSize) :
    ∃ r, s.handleFrame frame = .ok r ∧ Handled s frame r := by
  have hbig : ¬ (n : Int) ≤ rtpMaxPktSize := by omega
  have hdiv : n / rtpMaxPktSize * rtpMaxPktSize + n % rtpMaxPktSize = n :=
    Nat.div_add_mod' n rtpMaxPktSize
  have hadvance : ¬ (frame.frameSize ≤ rtpMaxPktSize ∧ IsParameterSet frame) :=
    fun h => hbig (hn ▸ h.1)
  obtain ⟨r, hloop, hsent⟩ := sendFragments_sent frame (frame.buffer frame.frame)
    (n % rtpMaxPktSize) (Nat.le_refl rtpMaxPktSize)
    (show frame.frame + 1 + n / rtpMaxPktSize * rtpMaxPktSize ≤ frameMaxSize by omega)
    (n / rtpMaxPktSize) (s := s) (Nat.le_refl _)
  rw [Nat.sub_self, Nat.zero_mul, Nat.add_zero, ← List.range_eq_range'] at *
  have hpayloads := payloads_long hn hlong
  unfold handleFrame
  simp only [hn, hbig, if_false, Int.toNat_natCast, hloop]
  split
  · rename_i hremain
    have hsmall : n % rtpMaxPktSize ≤ rtpMaxPktSize := (Nat.mod_lt n (by decide)).le
    obtain ⟨s', sent, hlast, htail⟩ := sendFragment_sent r.sink frame (frame.buffer frame.frame)
      0x40 (show frame.frame + (1 + n / rtpMaxPktSize * rtpMaxPktSize) + n % rtpMaxPktSize ≤
        frameMaxSize by omega) hsmall
    have hall := hsent.append htail
    rw [if_pos hremain] at hpayloads
    rw [← hpayloads] at hall
    rw [hlast]
    exact ⟨_, rfl, hall.advance hadvance _⟩
  · rename_i hremain
    rw [if_neg hremain, List.append_nil] at hpayloads
    rw [← hpayloads] at hsent
    exact ⟨_, rfl, hsent.advance hadvance _⟩

/-- **A frame is handled when what is read of it lies in its buffer.** -/
theorem handleFrame_handled (s : H264RtpSink) {frame : AVFrame} (h : InBuffer frame) :
    ∃ r, s.handleFrame frame = .ok r ∧ Handled s frame r := by
  obtain ⟨hpos, hin⟩ := h
  have hn : frame.frameSize = (frame.frameSize.toNat : Nat) := by omega
  split at hin
  · exact handleFrame_short hn (by omega) (by omega)
  · exact handleFrame_long hn (by omega) (by omega)

/-- And only then. -/
theorem handleFrame_in {s : H264RtpSink} {frame : AVFrame} {r : FrameResult H264RtpSink}
    (h : s.handleFrame frame = .ok r) : InBuffer frame := by
  unfold handleFrame at h
  dsimp only at h
  split at h
  · rename_i hshort
    split at h
    · cases h
    · rename_i p hp
      unfold RtpPacket.memcpy at hp
      split at hp
      · rename_i hfits
        exact ⟨hfits.1, by rw [if_pos hshort]; have := hfits.2.2; omega⟩
      · cases hp
  · rename_i hlong
    have hdiv := Nat.div_add_mod' frame.frameSize.toNat rtpMaxPktSize
    have hsome : 0 < frame.frameSize.toNat / rtpMaxPktSize :=
      Nat.div_pos (by omega) (by decide)
    refine ⟨by omega, ?_⟩
    rw [if_neg hlong]
    split at h
    · cases h
    · rename_i q hloop
      have hfull := sendFragments_in _ hsome hloop
      split at h
      · split at h
        · cases h
        · rename_i s' sent hlast
          have := sendFragment_in hlast
          omega
      · omega

theorem handled_of_ok {s : H264RtpSink} {frame : AVFrame} {r : FrameResult H264RtpSink}
    (h : s.handleFrame frame = .ok r) : Handled s frame r := by
  obtain ⟨r', hr, handled⟩ := handleFrame_handled s (handleFrame_in h)
  rw [hr] at h
  cases h
  exact handled

end H264RtpSink

/-! ## AAC -/

namespace AACRtpSink

/-- The one payload of an AAC frame: the AU header and what follows the ADTS header. -/
def payloads (frame : AVFrame) : List (List UInt8) :=
  [0x00 :: 0x10 :: auSizeHigh (frame.frameSize - 7) :: auSizeLow (frame.frameSize - 7) ::
    frame.buffer.load (frame.frame + 7) (frame.frameSize - 7).toNat]

structure Handled (s : AACRtpSink) (frame : AVFrame) (r : FrameResult AACRtpSink) : Prop where
  sent : r.sent = s.base.packets (payloads frame)
  base : r.sink.base = { s.base.after 1 with timeStamp := s.base.timeStamp + s.timeStep }

theorem setPayload_load (p : RtpPacket) (i : Nat) (b : UInt8) :
    (p.setPayload i b).memory.load rtpPayloadOffset (i + 1) =
      p.memory.load rtpPayloadOffset i ++ [b] :=
  Memory.load_store_next p.memory rtpPayloadOffset i [b]

/-- **A frame is handled when its copy fits.** -/
theorem handleFrame_handled (s : AACRtpSink) {frame : AVFrame} (h : CopyFits frame) :
    ∃ r, s.handleFrame frame = .ok r ∧ Handled s frame r := by
  obtain ⟨n, hn⟩ : ∃ n : Nat, frame.frameSize - 7 = n := ⟨_, (Int.toNat_of_nonneg h.1).symm⟩
  have hsize : (n : Int) + 4 = (4 + n : Nat) := by omega
  have hfits := h
  rw [CopyFits, hn] at hfits
  unfold handleFrame RtpPacket.memcpy
  simp only [hn, if_pos hfits]
  refine ⟨_, rfl, ?_, rfl⟩
  rw [RtpSink.sendRtpPacket_sent s.base _ hsize, payloads, hn, Int.toNat_natCast]
  have hcopy := Memory.load_store_next
    ((((s.packet.setPayload 0 0x00).setPayload 1 0x10).setPayload 2 (auSizeHigh n)).setPayload 3
      (auSizeLow n)).memory rtpPayloadOffset 4 (frame.buffer.load (frame.frame + 7) n)
  rw [Memory.load_length, setPayload_load _ 3, setPayload_load _ 2, setPayload_load _ 1,
    setPayload_load _ 0, Memory.load_zero] at hcopy
  exact congrArg (fun payload => [s.base.packet payload]) hcopy

theorem handleFrame_fits {s : AACRtpSink} {frame : AVFrame} {r : FrameResult AACRtpSink}
    (h : s.handleFrame frame = .ok r) : CopyFits frame := by
  unfold handleFrame RtpPacket.memcpy at h
  dsimp only at h
  split at h
  · cases h
  · rename_i p hp
    split at hp
    · assumption
    · cases hp

theorem handled_of_ok {s : AACRtpSink} {frame : AVFrame} {r : FrameResult AACRtpSink}
    (h : s.handleFrame frame = .ok r) : Handled s frame r := by
  obtain ⟨r', hr, handled⟩ := handleFrame_handled s (handleFrame_fits h)
  rw [hr] at h
  cases h
  exact handled

end AACRtpSink

end MyRtspServer.Net
