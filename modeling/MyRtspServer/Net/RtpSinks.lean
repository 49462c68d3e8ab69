import MyRtspServer.Net.Rtp

/-!
# `H264RtpSink::HandleFrame` and `AACRtpSink::HandleFrame`

Both take a frame apart into packets. The result lists the packets handed to the
send callback, in sending order, and the ranges of the frame that were read.
-/
namespace MyRtspServer.Net

open Library

/-- One call of `HandleFrame`: the sink afterwards, the packets and the reads. -/
structure FrameResult (Sink : Type) where
  sink : Sink
  sent : List SentPacket
  reads : List FrameRead

/-! ## H264 -/

structure H264RtpSink where
  base : RtpSink
  packet : RtpPacket := {}
  clockRate : Int := 90000
  fps : Int

namespace H264RtpSink

/-- `SendRtpPacket(&m_rtp_packet_); m_seq_++`. -/
def send (s : H264RtpSink) (p : RtpPacket) : H264RtpSink × SentPacket :=
  let p := s.base.sendRtpPacket p
  ({ s with packet := p, base := { s.base with seq := s.base.seq + 1 } }, p.sent)

/-- `m_time_stamp_ += m_clock_rate_ / m_fps_`. -/
def advance (s : H264RtpSink) : H264RtpSink :=
  { s with base := { s.base with
    timeStamp := s.base.timeStamp + UInt32.ofInt (s.clockRate.tdiv s.fps) } }

/-- `(nalu_type & 0x60) | 28`. -/
def fuIndicator (naluType : UInt8) : UInt8 := (naluType &&& 0x60) ||| 28

/-- The second byte of fragment `i` in the loop. -/
def fuHeader (naluType : UInt8) (pktNum remainPktSize i : Nat) : UInt8 :=
  let header := naluType &&& 0x1f
  if i = 0 then header ||| 0x80
  else if remainPktSize = 0 ∧ i = pktNum - 1 then header ||| 0x40
  else header

/-- One fragment: the two bytes, `size` bytes of the frame from `pos`, and out. -/
def sendFragment (s : H264RtpSink) (frame : AVFrame) (naluType header : UInt8) (pos size : Nat) :
    Except RtpFault (H264RtpSink × SentPacket) :=
  match ((s.packet.setPayload 0 (fuIndicator naluType)).setPayload 1 header).memcpy 2 frame pos
      size with
  | .error e => .error e
  | .ok p => .ok (s.send { p with size := size + 2 })

/-- The loop over the full fragments of `maxSize` bytes, `left` of which remain,
with `pos` at `1 + (pktNum - left) * maxSize`. -/
def sendFragments (maxSize : Nat) (frame : AVFrame) (naluType : UInt8)
    (pktNum remainPktSize : Nat) :
    Nat → Nat → H264RtpSink → Except RtpFault (FrameResult H264RtpSink)
  | 0, _, s => .ok ⟨s, [], []⟩
  | left + 1, pos, s =>
    match s.sendFragment frame naluType
        (fuHeader naluType pktNum remainPktSize (pktNum - (left + 1))) pos maxSize with
    | .error e => .error e
    | .ok (s, sent) =>
      match sendFragments maxSize frame naluType pktNum remainPktSize left (pos + maxSize) s with
      | .error e => .error e
      | .ok r => .ok ⟨r.sink, sent :: r.sent, (pos, maxSize) :: r.reads⟩

def handleFrame (s : H264RtpSink) (frame : AVFrame) : Except RtpFault (FrameResult H264RtpSink) :=
  let naluType := frame.buffer frame.frame
  if frame.frameSize ≤ rtpMaxPktSize then
    match s.packet.memcpy 0 frame 0 frame.frameSize with
    | .error e => .error e
    | .ok p =>
      let (s, sent) := s.send { p with size := frame.frameSize }
      let reads := [(0, 1), (0, frame.frameSize.toNat)]
      if naluType &&& 0x1f = 7 ∨ naluType &&& 0x1f = 8 then .ok ⟨s, [sent], reads⟩
      else .ok ⟨s.advance, [sent], reads⟩
  else
    let pktNum := frame.frameSize.toNat / rtpMaxPktSize
    let remainPktSize := frame.frameSize.toNat % rtpMaxPktSize
    match sendFragments rtpMaxPktSize frame naluType pktNum remainPktSize pktNum 1 s with
    | .error e => .error e
    | .ok r =>
      let pos := 1 + pktNum * rtpMaxPktSize
      if 0 < remainPktSize then
        -- the source stores 0x40 over the type bits here
        match r.sink.sendFragment frame naluType 0x40 pos remainPktSize with
        | .error e => .error e
        | .ok (s, sent) =>
          .ok ⟨s.advance, r.sent ++ [sent], (0, 1) :: r.reads ++ [(pos, remainPktSize)]⟩
      else .ok ⟨r.sink.advance, r.sent, (0, 1) :: r.reads⟩

end H264RtpSink

/-! ## AAC -/

structure AACRtpSink where
  base : RtpSink
  packet : RtpPacket := {}
  sampleRate : UInt32 := 44100
  channels : UInt32 := 2
  fps : Int

namespace AACRtpSink

/-- `(frame_size & 0x1FE0) >> 5` of a signed `int`, cut to a byte. -/
def auSizeHigh (frameSize : Int) : UInt8 :=
  UInt8.ofNat (((frameSize % 2 ^ 32).toNat &&& 0x1FE0) >>> 5)

/-- `(frame_size & 0x1F) << 3`. -/
def auSizeLow (frameSize : Int) : UInt8 :=
  UInt8.ofNat (((frameSize % 2 ^ 32).toNat &&& 0x1F) <<< 3)

/-- The increment of `m_time_stamp_`, in `uint32_t` arithmetic. -/
def timeStep (s : AACRtpSink) : UInt32 :=
  s.sampleRate * UInt32.ofInt ((1000 : Int).tdiv s.fps) / 1000

def handleFrame (s : AACRtpSink) (frame : AVFrame) : Except RtpFault (FrameResult AACRtpSink) :=
  let frameSize := frame.frameSize - 7
  let p := (((s.packet.setPayload 0 0x00).setPayload 1 0x10).setPayload 2
    (auSizeHigh frameSize)).setPayload 3 (auSizeLow frameSize)
  match p.memcpy 4 frame 7 frameSize with
  | .error e => .error e
  | .ok p =>
    let p := s.base.sendRtpPacket { p with size := frameSize + 4 }
    .ok ⟨{ s with
        packet := p
        base := { s.base with
          seq := s.base.seq + 1
          timeStamp := s.base.timeStamp + s.timeStep } },
      [p.sent], [(7, frameSize.toNat)]⟩

end AACRtpSink

inductive Sink where
  | h264 (sink : H264RtpSink)
  | aac (sink : AACRtpSink)

def Sink.handleFrame (s : Sink) (frame : AVFrame) : Except RtpFault (Sink × List SentPacket) :=
  match s with
  | .h264 sink =>
    match sink.handleFrame frame with
    | .error e => .error e
    | .ok r => .ok (.h264 r.sink, r.sent)
  | .aac sink =>
    match sink.handleFrame frame with
    | .error e => .error e
    | .ok r => .ok (.aac r.sink, r.sent)

end MyRtspServer.Net
