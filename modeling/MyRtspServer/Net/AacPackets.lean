import MyRtspServer.Library.AccessUnits
import MyRtspServer.Net.Packets
import MyRtspServer.Net.SinkDescription

/-!
# The AAC packet, as a receiver takes it apart

The sink cuts seven bytes off every frame and announces the rest as one access unit.
That is the frame's data when its header is those seven bytes, and two bytes too much
when a CRC belongs to the header.
-/
namespace MyRtspServer.Net

open Library Library.Octets Library.RtpFormat Library.AccessUnits

/-! ## The announced mode -/

/-- `mode=AAC-hbr;sizelength=13;indexlength=3`. -/
def aacHbr : Mode := { sizeLength := 13, indexLength := 3 }

/-- The attribute of the sink announces this mode, if it knows the sample rate. -/
theorem AACRtpSink.getAttribute_mode (s : AACRtpSink) (h : s.getAttribute ≠ []) :
    ascii "sizelength=" ++ dec aacHbr.sizeLength ++ ascii ";indexlength=" ++
      dec aacHbr.indexLength <:+: s.getAttribute := by
  unfold getAttribute at h ⊢
  dsimp only at h ⊢
  split at h
  · exact absurd rfl h
  · rename_i hindex
    rw [if_neg hindex]
    have hmode : ascii "sizelength=" ++ dec aacHbr.sizeLength ++ ascii ";indexlength=" ++
        dec aacHbr.indexLength <:+:
        ascii " profile-level-id=1;mode=AAC-hbr;sizelength=13;indexlength=3;indexdeltalength=3;" :=
      ⟨ascii " profile-level-id=1;mode=AAC-hbr;", ascii ";indexdeltalength=3;", by decide⟩
    exact hmode.trans ((List.infix_append _ _ _).trans (List.prefix_append _ _).isInfix)

/-! ## The AU header -/

namespace AACRtpSink

theorem auSizeHigh_toNat {n : Nat} (h : n < 8192) : (auSizeHigh n).toNat = n / 32 := by
  have hword : ((n : Int) % 2 ^ 32).toNat = n := by omega
  have hmask : (n &&& 0x1FE0) >>> 5 = n / 32 := by
    rw [Nat.shiftRight_and_distrib, show 0x1FE0 >>> 5 = 2 ^ 8 - 1 from rfl,
      Nat.and_two_pow_sub_one_eq_mod, Nat.shiftRight_eq_div_pow]
    omega
  rw [auSizeHigh, hword, hmask, UInt8.toNat_ofNat']
  omega

theorem auSizeLow_toNat (n : Nat) (h : n < 8192) : (auSizeLow n).toNat = n % 32 * 8 := by
  have hword : ((n : Int) % 2 ^ 32).toNat = n := by omega
  have hmask : (n &&& 0x1F) <<< 3 = n % 32 * 8 := by
    rw [show 0x1F = 2 ^ 5 - 1 from rfl, Nat.and_two_pow_sub_one_eq_mod, Nat.shiftLeft_eq]
  rw [auSizeLow, hword, hmask, UInt8.toNat_ofNat']
  omega

/-- **A receiver finds one access unit**: all behind the first seven bytes. -/
theorem decode_payload {frame : AVFrame} {n : Nat} (hn : frame.frameSize - 7 = n) (h : n < 8192) :
    AccessUnits.decode aacHbr (0x00 :: 0x10 :: auSizeHigh (frame.frameSize - 7) ::
      auSizeLow (frame.frameSize - 7) ::
        frame.buffer.load (frame.frame + 7) (frame.frameSize - 7).toNat) =
      some [⟨0, n, frame.buffer.load (frame.frame + 7) n⟩] := by
  rw [hn, Int.toNat_natCast]
  refine decode_single rfl ?_ (show n < 2 ^ 13 from h) (Memory.load_length ..)
  rw [auSizeHigh_toNat h, auSizeLow_toNat n h]
  change n / 32 * 256 + n % 32 * 8 = n * 2 ^ 3
  omega

end AACRtpSink

/-! ## Complete frames -/

/-- The bytes of an ADTS header: two more when a CRC follows the fields. -/
def AdtsHeader.headerSize (h : AdtsHeader) : Nat := if h.protectionAbsent = 1 then 7 else 9

/-- What `m_frame_` points to is a frame of the length its header announces, in its
buffer. -/
structure CompleteFrame (frame : AVFrame) (h : AdtsHeader) : Prop where
  parsed : parseAdtsHeader (fun i => frame.buffer (frame.frame + i)) = some h
  whole : frame.frameSize = h.aacFrameLength.toNat
  header : h.headerSize ≤ h.aacFrameLength.toNat
  inBuffer : frame.frame + h.aacFrameLength.toNat ≤ frameMaxSize

/-- What follows the ADTS header. -/
def AVFrame.adtsData (frame : AVFrame) (h : AdtsHeader) : Octets :=
  frame.buffer.load (frame.frame + h.headerSize) (h.aacFrameLength.toNat - h.headerSize)

/-- The data fits behind the AU header. -/
def DataFits (h : AdtsHeader) : Prop :=
  rtpPayloadOffset + 4 + (h.aacFrameLength.toNat - h.headerSize) ≤ rtpAllocation

/-- One packet is sent, and a receiver gets the data of the frame back from it: one
access unit of index 0, with its size. -/
def RoundTrips (sink : AACRtpSink) (frame : AVFrame) (h : AdtsHeader) : Prop :=
  ∃ r packet header payload, sink.handleFrame frame = .ok r ∧ r.sent = [packet] ∧
    RtpFormat.decode packet.bytes = some (header, payload) ∧
    AccessUnits.decode aacHbr payload =
      some [⟨0, (frame.adtsData h).length, frame.adtsData h⟩]

section Packet

variable {sink : AACRtpSink} {frame : AVFrame} {h : AdtsHeader}

theorem CompleteFrame.frameSize (hframe : CompleteFrame frame h) :
    frame.frameSize - 7 = (h.aacFrameLength.toNat - 7 : Nat) ∧ h.aacFrameLength.toNat - 7 < 8192 := by
  have hseven : 7 ≤ h.headerSize := by
    rw [AdtsHeader.headerSize]
    split <;> decide
  have hheader := hframe.header
  have hsmall : h.aacFrameLength.toNat < 8192 := by
    rw [(parseAdtsHeader_some hframe.parsed).2]
    exact adtsLength_lt _
  rw [hframe.whole]
  omega

/-- What the sink sends of a complete frame, and what that decodes to. -/
theorem CompleteFrame.sent (hframe : CompleteFrame frame h) {r : FrameResult AACRtpSink}
    (hr : sink.handleFrame frame = .ok r) :
    ∃ packet header payload, r.sent = [packet] ∧
      RtpFormat.decode packet.bytes = some (header, payload) ∧
      AccessUnits.decode aacHbr payload = some [⟨0, h.aacFrameLength.toNat - 7,
        frame.buffer.load (frame.frame + 7) (h.aacFrameLength.toNat - 7)⟩] := by
  obtain ⟨hsize, hlt⟩ := hframe.frameSize
  exact ⟨_, _, _, (AACRtpSink.handled_of_ok hr).sent, RtpSink.decode_packet _ _,
    AACRtpSink.decode_payload hsize hlt⟩

/-- With a CRC the unit is two bytes longer than the data. -/
theorem RoundTrips.noCrc (hframe : CompleteFrame frame h) (htrip : RoundTrips sink frame h) :
    h.protectionAbsent = 1 := by
  obtain ⟨r, packet, header, payload, hr, hsent, hdecode, hau⟩ := htrip
  obtain ⟨packet', header', payload', hsent', hdecode', hunit⟩ := hframe.sent hr
  rw [hsent] at hsent'
  cases hsent'
  rw [hdecode] at hdecode'
  cases hdecode'
  have hunits := Option.some.inj (hau.symm.trans hunit)
  have hlength : (frame.adtsData h).length = h.aacFrameLength.toNat - 7 :=
    congrArg AccessUnit.size (List.cons.inj hunits).1
  have hheader := hframe.header
  by_contra hcrc
  have hnine : h.headerSize = 9 := if_neg hcrc
  rw [AVFrame.adtsData, Memory.load_length, hnine] at hlength
  omega

end Packet

/-- **The packet carries the data of the frame exactly when its header has no CRC.** -/
theorem aac_roundTrips_iff (sink : AACRtpSink) (frame : AVFrame) (h : AdtsHeader)
    (hframe : CompleteFrame frame h) (hfits : DataFits h) :
    RoundTrips sink frame h ↔ h.protectionAbsent = 1 := by
  refine ⟨RoundTrips.noCrc hframe, fun hprotection => ?_⟩
  obtain ⟨hsize, -⟩ := hframe.frameSize
  have hnocrc : h.headerSize = 7 := if_pos hprotection
  have hcopy : CopyFits frame := by
    have hin := hframe.inBuffer
    have hheader := hframe.header
    rw [DataFits, hnocrc] at hfits
    rw [hnocrc] at hheader
    refine ⟨by omega, ?_, ?_⟩
    · rw [hsize]
      omega
    · rw [hsize]
      omega
  obtain ⟨r, hr, -⟩ := AACRtpSink.handleFrame_handled sink hcopy
  obtain ⟨packet, header, payload, hsent, hdecode, hunit⟩ := hframe.sent hr
  refine ⟨r, packet, header, payload, hr, hsent, hdecode, ?_⟩
  rw [hunit, AVFrame.adtsData, hnocrc, Memory.load_length]

/-- A frame in front of its buffer. -/
def frameOf (bytes : List UInt8) : AVFrame :=
  { buffer := Memory.store (fun _ => 0) 0 bytes, frame := 0, frameSize := bytes.length }

def nineByteHeader : AdtsHeader where
  protectionAbsent := 1
  profile := 1
  samplingFreqIndex := 4
  channelCfg := 2
  aacFrameLength := 9
  adtsBufferFullness := 2047

theorem aac_roundTrips_iff_sample :
    RoundTrips MediaSource.sampleAacSink (frameOf MediaSource.nineByteFrame) nineByteHeader :=
  (aac_roundTrips_iff _ _ _ ⟨rfl, rfl, by decide, by decide⟩ (by unfold DataFits; decide)).mpr rfl

/-- Two bytes of data behind a header with a CRC. -/
def crcFrame : List UInt8 := [0xff, 0xf0, 0x50, 0x80, 0x01, 0x7f, 0xfc, 0x12, 0x34, 0xaa, 0xbb]

def crcHeader : AdtsHeader :=
  { nineByteHeader with protectionAbsent := 0, aacFrameLength := 11 }

theorem crcFrame_not_roundTrips :
    CompleteFrame (frameOf crcFrame) crcHeader ∧ DataFits crcHeader ∧
      ¬ RoundTrips MediaSource.sampleAacSink (frameOf crcFrame) crcHeader := by
  have hframe : CompleteFrame (frameOf crcFrame) crcHeader := ⟨rfl, rfl, by decide, by decide⟩
  refine ⟨hframe, by unfold DataFits; decide, fun htrip => ?_⟩
  exact absurd (htrip.noCrc hframe) (by decide)

end MyRtspServer.Net
