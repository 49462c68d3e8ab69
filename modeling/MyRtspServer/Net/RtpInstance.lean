import Mathlib.Data.List.AList
import MyRtspServer.Library.Octets
import MyRtspServer.Net.Rtp

/-!
# `RtpInstance`, `RtcpInstance` and what the network sees

Instances are heap objects that connections own and sessions point to, so an
`RtpInstance` is known by its address. Whatever leaves the program, or ends a
connection, is an effect. A `write` is answered with an error, or with the number
of bytes the kernel is ready to take.
-/
namespace MyRtspServer.Net

open Library Library.Octets

abbrev mediaMaxTrackNum : Nat := 2

abbrev TrackId := Fin mediaMaxTrackNum

instance : NeZero mediaMaxTrackNum := ⟨Nat.succ_ne_zero 1⟩

/-- The answer to `write`: `none` is -1, `some k` accepts at most `k` bytes. -/
abbrev WriteAnswer := Option Nat

/-- Undefined behaviour and failing assertions. -/
inductive Fault where
  /-- A text is longer than the array `sscanf` stores it in. -/
  | bufferOverflow
  /-- A pointer that was never written is followed. -/
  | uninitialised
  /-- An object is used after it was deleted. -/
  | dangling
  | assertion
  | outOfBounds
  deriving DecidableEq, Repr

/-- `enum Method`. -/
inductive Method where
  | options | describe | setup | play | teardown | getParameter | rtcp | pause | none_
  deriving DecidableEq, Repr

/-- What the parser keeps of a request, in the members of `RtspConnection`. -/
structure Request where
  method : Method := .none_
  url : Octets := []
  suffix : Octets := []
  cseq : UInt32
  peerRtpPort : UInt16
  peerRtcpPort : UInt16
  /-- `TrackIdNone` is `none`. -/
  trackId : Option TrackId := none
  isRtpOverTcp : Bool := false
  rtpChannel : UInt8
  deriving DecidableEq, Repr

inductive Effect where
  | connected (fd : Nat)
  /-- The parser has taken a request, and its handler is called. -/
  | dispatched (fd : Nat) (request : Request)
  /-- The handler has returned `true`. -/
  | accepted (fd : Nat) (request : Request)
  | reply (fd : Nat) (message : Octets) (answer : WriteAnswer)
  /-- An interleaved packet of the instance at an address. -/
  | frame (fd : Nat) (rtp : Nat) (message : Octets) (answer : WriteAnswer)
  | datagram (sockfd : Nat) (rtp : Nat) (ip : Octets) (port : UInt16) (message : Octets)
  | opened (sockfd : Nat)
  | closed (sockfd : Nat)
  | deleted (rtp : Nat)
  /-- `HandleDisconnection`. -/
  | disconnected (fd : Nat)
  deriving DecidableEq, Repr

/-- Where an `RtpInstance` sends to; only an interleaved one has a channel. -/
inductive RtpTransport where
  | overUdp (localPort : UInt16) (destIp : Octets) (destPort : UInt16)
  | overTcp (rtpChannel : UInt16)
  deriving DecidableEq, Repr

structure RtpInstance where
  transport : RtpTransport
  sockFd : Nat
  isAlive : Bool := false
  sessionId : UInt16 := 0
  deriving DecidableEq, Repr

/-- `m_is_alive_` starts undefined and is never read. -/
structure RtcpInstance where
  localSockfd : Nat
  localPort : UInt16
  destIp : Octets
  destPort : UInt16
  isAlive : Bool := false
  sessionId : UInt16 := 0
  deriving DecidableEq, Repr

namespace RtpInstance

def createNewOverUdp (localSockfd : Nat) (localPort : UInt16) (destIp : Octets)
    (destPort : UInt16) : RtpInstance :=
  { transport := .overUdp localPort destIp destPort, sockFd := localSockfd }

def createNewOverTcp (clientFd : Nat) (rtpChannel : UInt8) : RtpInstance :=
  { transport := .overTcp rtpChannel.toUInt16, sockFd := clientFd }

def getLocalPort (i : RtpInstance) : UInt16 :=
  match i.transport with
  | .overUdp localPort _ _ => localPort
  | .overTcp _ => 0

def getPeerPort (i : RtpInstance) : UInt16 :=
  match i.transport with
  | .overUdp _ _ destPort => destPort
  | .overTcp _ => 0

/-- The four bytes `Send` puts in front of an interleaved packet. -/
def interleavedPrefix (channel : UInt16) (size : Nat) : Octets :=
  [36, channel.toUInt8, UInt8.ofNat ((size &&& 0xFF00) >>> 8), UInt8.ofNat (size &&& 0xFF)]

end RtpInstance

/-- The last two of them say the size. -/
theorem bigEndian_size {n : Nat} (h : n < 2 ^ 16) :
    (UInt8.ofNat ((n &&& 0xFF00) >>> 8)).toNat * 256 + (UInt8.ofNat (n &&& 0xFF)).toNat = n := by
  have hlo : n &&& 0xFF = n % 2 ^ 8 := Nat.and_two_pow_sub_one_eq_mod n 8
  have hhi : (n &&& 0xFF00) >>> 8 = n / 2 ^ 8 % 2 ^ 8 := by
    rw [Nat.shiftRight_and_distrib, Nat.shiftRight_eq_div_pow]
    exact Nat.and_two_pow_sub_one_eq_mod _ 8
  rw [hlo, hhi, UInt8.toNat_ofNat', UInt8.toNat_ofNat']
  omega

/-- A packet as `SendRtpPacket` hands it over: it lies in its allocation. -/
structure MediaPacket extends RtpPacket where
  nonneg : 0 ≤ size
  fits : rtpBufferOffset + size ≤ rtpAllocation

namespace RtpInstance

/-- `Send` of the instance at address `rtp`. The prefix of an interleaved packet
goes into the packet itself. -/
def send (i : RtpInstance) (rtp : Nat) (p : MediaPacket) (answer : WriteAnswer) :
    MediaPacket × Effect :=
  match i.transport with
  | .overUdp _ destIp destPort =>
    (p, .datagram i.sockFd rtp destIp destPort (p.memory.load rtpBufferOffset p.size.toNat))
  | .overTcp channel =>
    let memory := p.memory.store 0 (interleavedPrefix channel p.size.toNat)
    ({ p with memory := memory },
      .frame i.sockFd rtp (memory.load 0 (p.size.toNat + 4)) answer)

end RtpInstance
end MyRtspServer.Net
