import Mathlib.Logic.Function.Basic
import MyRtspServer.Net.Rtp

/-!
# `MediaSource` and its two readers

A source owns four frames and two queues of them. `ReadFrame` fills the frame at
the front of the input queue from the file; the H264 reader looks for start
codes, the AAC reader trusts the length in the ADTS header. The file is its
content and a position. What the kernel and the stack add to a call (how many
bytes each `read` delivers, what `tmp_buf` holds before the first) is a parameter.
-/
namespace MyRtspServer.Net

open Library

abbrev defaultFrameNum : Nat := 4

structure File where
  content : List UInt8
  pos : Nat := 0

/-- The answers of the `read` calls of one `ReadFrame`, in order, and what is on
the stack in `tmp_buf`. `none` is an error, `some k` delivers at most `k` bytes. -/
structure ReadEnv where
  answer : Nat → Option Nat
  tmpBuf : Memory := fun _ => 0

namespace File

/-- `read(fd, buf, count)`: `none` is a return value of -1. -/
def read (f : File) (answer : Option Nat) (count : Nat) : Option (List UInt8) × File :=
  match answer with
  | none => (none, f)
  | some most =>
    let bytes := ((f.content.drop f.pos).take count).take most
    (some bytes, { f with pos := f.pos + bytes.length })

/-- `lseek(fd, 0, SEEK_SET)`. -/
def rewind (f : File) : File := { f with pos := 0 }

/-- `lseek(fd, by_, SEEK_CUR)` is refused in front of the file. -/
def seekCur (f : File) (by_ : Int) : File :=
  if 0 ≤ (f.pos : Int) + by_ then { f with pos := ((f.pos : Int) + by_).toNat } else f

end File

/-- The return value of `read`. -/
def readReturn : Option (List UInt8) → Int
  | some bytes => bytes.length
  | none => -1

/-- What `read` leaves in the buffer it was given. -/
def received (buf : Memory) : Option (List UInt8) → Memory
  | some bytes => buf.store 0 bytes
  | none => buf

/-! ## H264 -/

/-- Compares the bytes at `p` with `code`, from the left up to the first
difference. A byte behind the buffer must not be looked at. -/
def bytesAre (m : Memory) : List UInt8 → Nat → Except RtpFault Bool
  | [], _ => .ok true
  | b :: code, p =>
    if p < frameMaxSize then
      if m p = b then bytesAre m code (p + 1) else .ok false
    else .error .outOfBounds

def startCode3 (m : Memory) (p : Nat) : Except RtpFault Bool := bytesAre m [0, 0, 1] p

def startCode4 (m : Memory) (p : Nat) : Except RtpFault Bool := bytesAre m [0, 0, 0, 1] p

/-- `StartCode3(buf) || StartCode4(buf)`. -/
def startCode (m : Memory) (p : Nat) : Except RtpFault Bool :=
  match startCode3 m p with
  | .ok false => startCode4 m p
  | r => r

/-- The loop of `FindNextStartCode`, `left` rounds of it, with `buf` at `p`. -/
def scanStartCode (m : Memory) : Nat → Nat → Except RtpFault (Option Nat)
  | 0, p =>
    match startCode3 m p with
    | .error e => .error e
    | .ok found => .ok (if found then some p else none)
  | left + 1, p =>
    match startCode m p with
    | .error e => .error e
    | .ok true => .ok (some p)
    | .ok false => scanStartCode m left (p + 1)

/-- `FindNextStartCode(buf + p, len)`. -/
def findNextStartCode (m : Memory) (p len : Nat) : Except RtpFault (Option Nat) :=
  if len < 3 then .ok none else scanStartCode m (len - 3) p

/-- What `GetFrameFrom…File` leaves behind: the file, the buffer it was given and
its return value. -/
structure GotFrame where
  file : File
  buffer : Memory
  size : Int

/-- `GetFrameFromH264File` with the descriptor open. `r_size - 3` is passed as a
`uint32_t`. -/
def getFrameFromH264File (file : File) (env : ReadEnv) (frame : Memory) (size : Nat) :
    Except RtpFault GotFrame :=
  let (got, file) := file.read (env.answer 0) size
  let frame := received frame got
  let rSize := readReturn got
  match startCode frame 0 with
  | .error e => .error e
  | .ok false => .ok ⟨file, frame, -1⟩
  | .ok true =>
    match findNextStartCode frame 3 ((rSize - 3) % 2 ^ 32).toNat with
    | .error e => .error e
    | .ok none => .ok ⟨file.rewind, frame, rSize⟩
    | .ok (some next) => .ok ⟨file.seekCur (next - rSize), frame, next⟩

/-! ## AAC -/

structure AdtsHeader where
  syncword : UInt32 := 0
  id : UInt32 := 0
  layer : UInt32 := 0
  protectionAbsent : UInt32 := 0
  profile : UInt32 := 0
  samplingFreqIndex : UInt32 := 0
  privateBit : UInt32 := 0
  channelCfg : UInt32 := 0
  originalCopy : UInt32 := 0
  home : UInt32 := 0
  copyrightIdentificationBit : UInt32 := 0
  copyrightIdentificationStart : UInt32 := 0
  aacFrameLength : UInt32 := 0
  adtsBufferFullness : UInt32 := 0
  numberOfRawDataBlockInFrame : UInt32 := 0

/-- The test of `ParseAdtsHeader`; `syncword_` itself is never written. -/
def adtsSyncword (m : Memory) : Bool :=
  decide (m 0 = 0xff) && decide (m 1 &&& (0xf0 : UInt8) = 0xf0)

/-- `res->aac_frame_length_`: 13 bits. -/
def adtsFrameLength (m : Memory) : UInt32 :=
  let high : UInt32 := (m 3).toUInt32 &&& 0x03
  let middle : UInt32 := (m 4).toUInt32 &&& 0xff
  let low : UInt32 := (m 5).toUInt32 &&& 0xe0
  high <<< 11 ||| middle <<< 3 ||| low >>> 5

/-- `ParseAdtsHeader`: `none` is `false`, with `*res` all zero. -/
def parseAdtsHeader (m : Memory) : Option AdtsHeader :=
  if adtsSyncword m then
    let b1 : UInt32 := (m 1).toUInt32
    let b2 : UInt32 := (m 2).toUInt32
    let b3 : UInt32 := (m 3).toUInt32
    let b5 : UInt32 := (m 5).toUInt32
    let b6 : UInt32 := (m 6).toUInt32
    some {
      id := (b1 &&& 0x08) >>> 3
      layer := (b1 &&& 0x06) >>> 1
      protectionAbsent := b1 &&& 0x01
      profile := (b2 &&& 0xc0) >>> 6
      samplingFreqIndex := (b2 &&& 0x3c) >>> 2
      privateBit := (b2 &&& 0x02) >>> 1
      channelCfg := (b2 &&& 0x01) <<< 2 ||| (b3 &&& 0xc0) >>> 6
      originalCopy := (b3 &&& 0x20) >>> 5
      home := (b3 &&& 0x10) >>> 4
      copyrightIdentificationBit := (b3 &&& 0x08) >>> 3
      -- `in[3] & 0x04 >> 2` shifts the mask, not the byte
      copyrightIdentificationStart := b3 &&& (0x04 : UInt32) >>> 2
      aacFrameLength := adtsFrameLength m
      adtsBufferFullness := (b5 &&& 0x1f) <<< 6 ||| (b6 &&& 0xfc) >>> 2
      numberOfRawDataBlockInFrame := b6 &&& 0x03 }
  else none

/-- The reads of the seven header bytes: at the end of the file, or after an
error, once more from its beginning. `none` when both find nothing. -/
def readAdtsHeader (file : File) (env : ReadEnv) : Option Memory × File :=
  match file.read (env.answer 0) 7 with
  | (some (b :: bytes), file) => (some (env.tmpBuf.store 0 (b :: bytes)), file)
  | (_, file) =>
    match file.rewind.read (env.answer 1) 7 with
    | (some (b :: bytes), file) => (some (env.tmpBuf.store 0 (b :: bytes)), file)
    | (_, file) => (none, file)

/-- `GetFrameFromAACFile`, with `m_adts_header_` as it leaves it.
`aac_frame_length_ - 7` wraps on `uint32_t`. -/
def getFrameFromAACFile (file : File) (env : ReadEnv) (header : AdtsHeader) (buf : Memory)
    (size : Nat) : Except RtpFault (GotFrame × AdtsHeader) :=
  match readAdtsHeader file env with
  | (none, file) => .ok (⟨file, buf, -1⟩, header)
  | (some tmpBuf, file) =>
    match parseAdtsHeader tmpBuf with
    | none => .ok (⟨file, buf, -1⟩, {})
    | some header =>
      if size < header.aacFrameLength.toNat then .ok (⟨file, buf, -1⟩, header)
      else
        let buf := buf.store 0 (tmpBuf.load 0 7)
        match file.read (env.answer 2) (header.aacFrameLength - 7).toNat with
        | (none, file) => .ok (⟨file, buf, -1⟩, header)
        | (some bytes, file) =>
          if 7 + bytes.length ≤ frameMaxSize then
            .ok (⟨file, buf.store 7 bytes, header.aacFrameLength.toNat⟩, header)
          else .error .outOfBounds

/-! ## `ReadFrame` -/

/-- The members of the derived class: the open file, and for AAC the header
parsed last. -/
inductive Reader where
  | h264 (file : File)
  | aac (file : File) (adtsHeader : AdtsHeader)

/-- `ReadFrame` on the front frame: the members afterwards, the frame, and
whether it goes to the output queue. -/
structure Filled where
  reader : Reader
  frame : AVFrame
  published : Bool

/-- `H264MediaSource::ReadFrame` behind the test of the input queue. -/
def h264ReadInto (file : File) (env : ReadEnv) (frame : AVFrame) : Except RtpFault Filled :=
  match getFrameFromH264File file env frame.buffer frameMaxSize with
  | .error e => .error e
  | .ok got =>
    let read := { frame with buffer := got.buffer, frameSize := got.size }
    if got.size < 0 then .ok ⟨.h264 got.file, read, false⟩
    else
      match startCode3 got.buffer 0 with
      | .error e => .error e
      | .ok true => .ok ⟨.h264 got.file, { read with frame := 3, frameSize := got.size - 3 }, true⟩
      | .ok false => .ok ⟨.h264 got.file, { read with frame := 4, frameSize := got.size - 4 }, true⟩

/-- `AACMediaSource::ReadFrame` behind the test of the input queue. -/
def aacReadInto (file : File) (header : AdtsHeader) (env : ReadEnv) (frame : AVFrame) :
    Except RtpFault Filled :=
  match getFrameFromAACFile file env header frame.buffer frameMaxSize with
  | .error e => .error e
  | .ok (got, header) =>
    let read := { frame with buffer := got.buffer, frameSize := got.size }
    if got.size < 0 then .ok ⟨.aac got.file header, read, false⟩
    else .ok ⟨.aac got.file header, { read with frame := 0 }, true⟩

def Reader.readInto (r : Reader) (env : ReadEnv) (frame : AVFrame) : Except RtpFault Filled :=
  match r with
  | .h264 file => h264ReadInto file env frame
  | .aac file header => aacReadInto file header env frame

abbrev FrameIndex := Fin defaultFrameNum

structure MediaSource where
  frames : FrameIndex → AVFrame
  inputQue : List FrameIndex
  outputQue : List FrameIndex
  reader : Reader

/-- What a step does with a frame. A read that is given up has written too. -/
inductive FrameEvent where
  | written (i : FrameIndex)
  | filled (i : FrameIndex) (frame : AVFrame)
  | obtained (i : FrameIndex) (frame : AVFrame)

namespace MediaSource

/-- The constructor: all frames wait to be filled, with whatever is in them. -/
def create (frames : FrameIndex → AVFrame) (reader : Reader) : MediaSource :=
  { frames := frames, inputQue := List.finRange defaultFrameNum, outputQue := [],
    reader := reader }

/-- `ReadFrame`. -/
def readFrame (s : MediaSource) (env : ReadEnv) :
    Except RtpFault (MediaSource × List FrameEvent) :=
  match s.inputQue with
  | [] => .ok (s, [])
  | i :: rest =>
    match s.reader.readInto env (s.frames i) with
    | .error e => .error e
    | .ok filled =>
      let s := { s with
        reader := filled.reader
        frames := Function.update s.frames i filled.frame }
      if filled.published then
        .ok ({ s with inputQue := rest, outputQue := s.outputQue ++ [i] },
          [.written i, .filled i filled.frame])
      else .ok (s, [.written i])

/-- `GetFrame`. -/
def getFrame (s : MediaSource) : MediaSource × Option FrameIndex :=
  match s.outputQue with
  | [] => (s, none)
  | i :: rest => ({ s with outputQue := rest }, some i)

/-- `PutFrame`, up to the task it adds to the thread pool. -/
def putFrame (s : MediaSource) (i : FrameIndex) : MediaSource :=
  { s with inputQue := s.inputQue ++ [i] }

end MediaSource

/-! ## When a read fills a frame -/

/-- What the frame buffer holds after the `read` of the H264 reader. -/
def h264Buffer (file : File) (env : ReadEnv) (frame : Memory) : Memory :=
  received frame (file.read (env.answer 0) frameMaxSize).1

/-- The input the reader finds is one it can use: for H264 the bytes in front are
a start code; for AAC there are header bytes, they begin with the sync word and
the read behind them is not an error. -/
def Reader.readable (r : Reader) (env : ReadEnv) (frame : AVFrame) : Bool :=
  match r with
  | .h264 file => startCode (h264Buffer file env frame.buffer) 0 == .ok true
  | .aac file _ =>
    match (readAdtsHeader file env).1 with
    | none => false
    | some tmpBuf => adtsSyncword tmpBuf && (env.answer 2).isSome

end MyRtspServer.Net
