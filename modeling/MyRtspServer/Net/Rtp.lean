import MyRtspServer.Library.Memory

/-!
# `RtpPacket`, `AVFrame` and the header every sink writes

`RtpPacket` owns 1512 bytes. The RTP header starts four bytes in, which leaves
room for the interleaved prefix, and the payload starts at offset 16. A copy
that leaves an allocation, or whose signed size is negative, is undefined.
-/
namespace MyRtspServer.Net

open Library

def rtpVersion : UInt8 := 2
def rtpPayloadTypeH264 : UInt8 := 96
def rtpPayloadTypeAac : UInt8 := 97
def rtpHeaderSize : Nat := 12
def rtpMaxPktSize : Nat := 1400

/-- `new uint8_t[RTP_HEADER_SIZE + RTP_MAX_PKT_SIZE + 100]`. -/
def rtpAllocation : Nat := rtpHeaderSize + rtpMaxPktSize + 100

/-- `m_buffer_` is `_m_buffer_ + 4`, and `payload` follows the header. -/
def rtpBufferOffset : Nat := 4
def rtpPayloadOffset : Nat := rtpBufferOffset + rtpHeaderSize

/-- `FRAME_MAX_SIZE`, the bytes of `AVFrame::m_buffer_`. -/
def frameMaxSize : Nat := 1920 * 1200

inductive RtpFault where
  | outOfBounds
  deriving DecidableEq, Repr

structure RtpPacket where
  memory : Memory := fun _ => 0
  size : Int := 0

/-- `m_frame_` points into `m_buffer_`. -/
structure AVFrame where
  buffer : Memory := fun _ => 0
  frame : Nat := 0
  frameSize : Int := 0

/-- A range of `m_frame_` a sink has read: its offset and its length. -/
abbrev FrameRead := Nat × Nat

namespace RtpPacket

/-- `rtp_header->payload[i] = b`. -/
def setPayload (p : RtpPacket) (i : Nat) (b : UInt8) : RtpPacket :=
  { p with memory := p.memory.store (rtpPayloadOffset + i) [b] }

/-- `memcpy(rtp_header->payload + dst, frame->m_frame_ + src, size)`. -/
def memcpy (p : RtpPacket) (dst : Nat) (frame : AVFrame) (src : Nat) (size : Int) :
    Except RtpFault RtpPacket :=
  if 0 ≤ size ∧ rtpPayloadOffset + dst + size ≤ rtpAllocation ∧
      frame.frame + src + size ≤ frameMaxSize then
    .ok { p with
      memory := p.memory.store (rtpPayloadOffset + dst)
        (frame.buffer.load (frame.frame + src) size.toNat) }
  else .error .outOfBounds

end RtpPacket

/-- The members of `RtpSink` that `SendRtpPacket` reads. -/
structure RtpSink where
  csrcLen : UInt8 := 0
  extension : UInt8 := 0
  padding : UInt8 := 0
  version : UInt8 := rtpVersion
  payloadType : UInt8
  marker : UInt8 := 0
  seq : UInt16 := 0
  timeStamp : UInt32 := 0
  ssrc : UInt32 := 0

/-- `htons`, as the bytes in memory. -/
def htons (n : UInt16) : List UInt8 := [(n >>> 8).toUInt8, n.toUInt8]

def htonl (n : UInt32) : List UInt8 :=
  [(n >>> 24).toUInt8, (n >>> 16).toUInt8, (n >>> 8).toUInt8, n.toUInt8]

/-- Byte 0: the bit-fields are laid out from the low bit. -/
def RtpSink.flagByte (s : RtpSink) : UInt8 :=
  let csrcLen : UInt8 := s.csrcLen &&& (0x0f : UInt8)
  let extension : UInt8 := s.extension &&& (1 : UInt8)
  let padding : UInt8 := s.padding &&& (1 : UInt8)
  let version : UInt8 := s.version &&& (3 : UInt8)
  csrcLen ||| extension <<< 4 ||| padding <<< 5 ||| version <<< 6

/-- Byte 1. -/
def RtpSink.payloadByte (s : RtpSink) : UInt8 :=
  let payloadType : UInt8 := s.payloadType &&& (0x7f : UInt8)
  let marker : UInt8 := s.marker &&& (1 : UInt8)
  payloadType ||| marker <<< 7

/-- The twelve bytes of `RtpHeader`. -/
def RtpSink.header (s : RtpSink) : List UInt8 :=
  s.flagByte :: s.payloadByte :: (htons s.seq ++ htonl s.timeStamp ++ htonl s.ssrc)

@[simp] theorem RtpSink.header_length (s : RtpSink) : s.header.length = rtpHeaderSize := rfl

/-- What the send callback finds at `m_buffer_`: `m_size_` bytes. -/
structure SentPacket where
  bytes : List UInt8
  size : Int
  deriving DecidableEq, Repr

def RtpPacket.sent (p : RtpPacket) : SentPacket :=
  { bytes := p.memory.load rtpBufferOffset p.size.toNat, size := p.size }

/-- `RtpSink::SendRtpPacket`: the header is written in front of the payload,
`m_size_` grows by its length, and the callback gets the packet. -/
def RtpSink.sendRtpPacket (s : RtpSink) (p : RtpPacket) : RtpPacket :=
  { memory := p.memory.store rtpBufferOffset s.header, size := p.size + rtpHeaderSize }

/-- A sent packet is its header and the payload bytes that were there before. -/
theorem sendRtpPacket_bytes (s : RtpSink) (p : RtpPacket) {n : Nat} (hn : p.size = n) :
    (s.sendRtpPacket p).sent.bytes = s.header ++ p.memory.load rtpPayloadOffset n := by
  have hsize : (s.sendRtpPacket p).size.toNat = s.header.length + n := by
    simp only [RtpSink.sendRtpPacket, hn, RtpSink.header_length]
    omega
  rw [RtpPacket.sent, hsize, Memory.load_add, RtpSink.sendRtpPacket, Memory.load_store,
    Memory.load_store_disjoint _ (Or.inr (Nat.le_refl _))]
  rfl

theorem sendRtpPacket_payload (s : RtpSink) (p : RtpPacket) {n : Nat} (hn : p.size = n) :
    (s.sendRtpPacket p).sent.bytes.drop rtpHeaderSize = p.memory.load rtpPayloadOffset n := by
  rw [sendRtpPacket_bytes s p hn]
  exact List.drop_left' (RtpSink.header_length s)

end MyRtspServer.Net
