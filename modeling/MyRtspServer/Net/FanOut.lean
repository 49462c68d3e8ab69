import MyRtspServer.Net.MediaSession

/-!
# One packet to all instances of a track

The instances share the packet, and each interleaved one writes its prefix into
it. The prefix lies in front of the RTP bytes, so no instance sees what another
has written. Here the packet may be of any size, and is kept as it is left.
-/
namespace MyRtspServer.Net

open Library Library.Octets

/-- The RTP bytes: `m_size_` of them at `m_buffer_`. -/
def RtpPacket.rtpBytes (p : RtpPacket) : Octets := p.memory.load rtpBufferOffset p.size.toNat

/-- `Send`, whatever `m_size_` is. -/
def RtpInstance.sendAny (i : RtpInstance) (rtp : Nat) (p : RtpPacket) (answer : WriteAnswer) :
    RtpPacket × Effect :=
  match i.transport with
  | .overUdp _ destIp destPort => (p, .datagram i.sockFd rtp destIp destPort p.rtpBytes)
  | .overTcp channel =>
    let memory := p.memory.store 0 (interleavedPrefix channel p.size.toNat)
    ({ p with memory := memory },
      .frame i.sockFd rtp (memory.load 0 (p.size.toNat + 4)) answer)

/-- `SendPacket`, with the packet afterwards. -/
def sendPacketAny (instances : AList fun _ : Nat => RtpInstance) (answers : Nat → WriteAnswer) :
    List Nat → Nat → RtpPacket → Except Fault (RtpPacket × List Effect)
  | [], _, packet => .ok (packet, [])
  | rtp :: rest, position, packet =>
    match instances.lookup rtp with
    | none => .error .dangling
    | some i =>
      if i.isAlive then
        let (packet, effect) := i.sendAny rtp packet (answers position)
        match sendPacketAny instances answers rest (position + 1) packet with
        | .error e => .error e
        | .ok (packet, effects) => .ok (packet, effect :: effects)
      else sendPacketAny instances answers rest (position + 1) packet

theorem send_sendAny (i : RtpInstance) (rtp : Nat) (p : MediaPacket) (answer : WriteAnswer) :
    i.sendAny rtp p.toRtpPacket answer =
      ((i.send rtp p answer).1.toRtpPacket, (i.send rtp p answer).2) := by
  obtain ⟨transport, sockFd, isAlive, sessionId⟩ := i
  cases transport <;> rfl

/-- **On the packets of a sink this is `sendPacket`.** -/
theorem sendPacket_sendPacketAny (instances : AList fun _ : Nat => RtpInstance)
    (answers : Nat → WriteAnswer) (rtps : List Nat) : ∀ (position : Nat) (p : MediaPacket),
    sendPacket instances answers rtps position p =
      (sendPacketAny instances answers rtps position p.toRtpPacket).map Prod.snd := by
  induction rtps with
  | nil => exact fun _ _ => rfl
  | cons rtp rest ih =>
    intro position p
    rw [sendPacket, sendPacketAny]
    cases instances.lookup rtp with
    | none => rfl
    | some i =>
      dsimp only
      split
      · rw [send_sendAny, ih]
        dsimp only
        cases sendPacketAny instances answers rest (position + 1)
          (i.send rtp p (answers position)).1.toRtpPacket <;> rfl
      · exact ih (position + 1) p

/-! ## What a send is to be -/

/-- What leaves an instance: the bytes a datagram carries, or a stream takes. -/
structure Sending where
  rtp : Nat
  sockFd : Nat
  dest : Option (Octets × UInt16)
  bytes : Octets
  deriving DecidableEq

def Effect.sending : Effect → Option Sending
  | .datagram sockFd rtp ip port message => some ⟨rtp, sockFd, some (ip, port), message⟩
  | .frame fd rtp message (some k) => some ⟨rtp, fd, none, message.take k⟩
  | _ => none

/-- The sending of an instance by itself. -/
def RtpInstance.sending (p : RtpPacket) (rtp : Nat) (i : RtpInstance) : Sending :=
  match i.transport with
  | .overUdp _ ip port => ⟨rtp, i.sockFd, some (ip, port), p.rtpBytes⟩
  | .overTcp channel =>
    ⟨rtp, i.sockFd, none, RtpInstance.interleavedPrefix channel p.size.toNat ++ p.rtpBytes⟩

/-- The live instances of a track, in order. -/
def aliveInstances (instances : AList fun _ : Nat => RtpInstance) (rtps : List Nat) :
    List (Nat × RtpInstance) :=
  rtps.filterMap fun rtp =>
    match instances.lookup rtp with
    | some i => if i.isAlive then some (rtp, i) else none
    | none => none

theorem aliveInstances_cons {instances : AList fun _ : Nat => RtpInstance} {rtp : Nat}
    {i : RtpInstance} (h : instances.lookup rtp = some i) (rest : List Nat) :
    aliveInstances instances (rtp :: rest) =
      (if i.isAlive then [(rtp, i)] else []) ++ aliveInstances instances rest := by
  by_cases halive : i.isAlive
  · simp [aliveInstances, h, halive]
  · simp [aliveInstances, h, halive]

/-- Interleaved data as a receiver reads it: the channel, the length and the data. -/
def decodeInterleaved : Octets → Option (UInt8 × Nat × Octets)
  | dollar :: channel :: hi :: lo :: payload =>
    if dollar = 36 then some (channel, hi.toNat * 256 + lo.toNat, payload) else none
  | _ => none

/-- The RTP bytes and the size are as before. -/
structure SameRtp (p q : RtpPacket) : Prop where
  size : q.size = p.size
  memory : ∀ i, rtpBufferOffset ≤ i → q.memory i = p.memory i

theorem SameRtp.rtpBytes {p q : RtpPacket} (h : SameRtp p q) : q.rtpBytes = p.rtpBytes := by
  rw [RtpPacket.rtpBytes, RtpPacket.rtpBytes, h.size]
  exact List.map_congr_left fun i _ => h.memory _ (Nat.le_add_right _ _)

theorem SameRtp.sending {p q : RtpPacket} (h : SameRtp p q) (rtp : Nat) (i : RtpInstance) :
    RtpInstance.sending q rtp i = RtpInstance.sending p rtp i := by
  rw [RtpInstance.sending, RtpInstance.sending, h.rtpBytes, h.size]

theorem SameRtp.trans {p q r : RtpPacket} (h : SameRtp p q) (h' : SameRtp q r) : SameRtp p r where
  size := h'.size.trans h.size
  memory i hi := (h'.memory i hi).trans (h.memory i hi)

/-! ## One send -/

/-- The frame rule: a send writes in front of the RTP bytes at most. -/
theorem sendAny_sameRtp (i : RtpInstance) (rtp : Nat) (p : RtpPacket) (answer : WriteAnswer) :
    SameRtp p (i.sendAny rtp p answer).1 := by
  unfold RtpInstance.sendAny
  split
  · exact ⟨rfl, fun _ _ => rfl⟩
  · refine ⟨rfl, fun j hj => if_neg fun h => ?_⟩
    exact absurd h.2 (Nat.not_lt.mpr hj)

/-- The answer takes all bytes of the packet and its prefix. -/
def Accepts (p : RtpPacket) (answer : WriteAnswer) : Prop :=
  ∃ k, answer = some k ∧ p.size.toNat + 4 ≤ k

theorem sendAny_sending (i : RtpInstance) (rtp : Nat) (p : RtpPacket) {answer : WriteAnswer}
    (h : Accepts p answer) :
    (i.sendAny rtp p answer).2.sending = some (RtpInstance.sending p rtp i) := by
  obtain ⟨k, rfl, hk⟩ := h
  unfold RtpInstance.sendAny RtpInstance.sending
  split
  · rfl
  · rename_i channel _
    have hprefix := Memory.load_store p.memory 0
      (RtpInstance.interleavedPrefix channel p.size.toNat)
    have hrest : (p.memory.store 0 (RtpInstance.interleavedPrefix channel p.size.toNat)).load 4
        p.size.toNat = p.rtpBytes :=
      Memory.load_store_disjoint _ (Or.inr (Nat.le_refl _))
    change Memory.load _ 0 4 = _ at hprefix
    rw [Effect.sending, List.take_of_length_le (by rw [Memory.load_length]; exact hk),
      Nat.add_comm p.size.toNat 4, Memory.load_add, hprefix, hrest]

theorem decode_sending {p : RtpPacket} (hsize : p.size.toNat < 2 ^ 16) (rtp : Nat)
    {i : RtpInstance} {channel : UInt8} (h : i.transport = .overTcp channel.toUInt16) :
    decodeInterleaved (RtpInstance.sending p rtp i).bytes =
      some (channel, p.size.toNat, p.rtpBytes) := by
  simp only [RtpInstance.sending, h, RtpInstance.interleavedPrefix, UInt8.toUInt8_toUInt16]
  exact congrArg (fun size => some (channel, size, p.rtpBytes)) (bigEndian_size hsize)

/-! ## All of them -/

/-- One sending of each live instance, in the order of the list and as if it were
alone; an interleaved one decodes to its channel, which is a byte wherever an
instance is made; and the packet keeps its RTP bytes and its size. -/
structure FansOut (instances : AList fun _ : Nat => RtpInstance) (rtps : List Nat)
    (p q : RtpPacket) (effects : List Effect) : Prop where
  sendings : effects.map Effect.sending =
    (aliveInstances instances rtps).map fun x => some (RtpInstance.sending p x.1 x.2)
  decodes : ∀ x ∈ aliveInstances instances rtps, ∀ channel : UInt8,
    x.2.transport = .overTcp channel.toUInt16 →
      decodeInterleaved (RtpInstance.sending p x.1 x.2).bytes =
        some (channel, p.size.toNat, p.rtpBytes)
  unchanged : SameRtp p q

theorem sendPacketAny_sends {instances : AList fun _ : Nat => RtpInstance}
    {answers : Nat → WriteAnswer} {rtps : List Nat} : ∀ (position : Nat) {p : RtpPacket},
    (∀ rtp ∈ rtps, rtp ∈ instances) → (∀ n, Accepts p (answers n)) →
      ∃ q effects, sendPacketAny instances answers rtps position p = .ok (q, effects) ∧
        SameRtp p q ∧ effects.map Effect.sending =
          (aliveInstances instances rtps).map fun x => some (RtpInstance.sending p x.1 x.2) := by
  induction rtps with
  | nil => exact fun _ _ _ _ => ⟨_, [], rfl, ⟨rfl, fun _ _ => rfl⟩, rfl⟩
  | cons rtp rest ih =>
    intro position p hin haccepts
    obtain ⟨i, hi⟩ := Option.isSome_iff_exists.mp
      (AList.lookup_isSome.mpr (hin rtp List.mem_cons_self))
    have hrest : ∀ other ∈ rest, other ∈ instances :=
      fun other ho => hin other (List.mem_cons_of_mem _ ho)
    rw [sendPacketAny, aliveInstances_cons hi, hi]
    by_cases halive : i.isAlive
    · have hone := sendAny_sameRtp i rtp p (answers position)
      obtain ⟨q, effects, hsent, hsame, heffects⟩ := ih (position + 1)
        (p := (i.sendAny rtp p (answers position)).1) hrest fun n => by
          rw [Accepts, hone.size]
          exact haccepts n
      refine ⟨q, (i.sendAny rtp p (answers position)).2 :: effects, ?_, hone.trans hsame, ?_⟩
      · simp only [halive, if_true, hsent]
      · simp only [hone.sending] at heffects
        rw [if_pos halive, List.map_cons, sendAny_sending i rtp p (haccepts position), heffects]
        rfl
    · rw [if_neg halive]
      simp only [halive]
      exact ih (position + 1) hrest haccepts

/-- **Fan-out is faithful**: whatever instances share the packet, in any order, each
live one sends the RTP bytes, and only its own prefix in front of them. -/
theorem fan_out_faithful (instances : AList fun _ : Nat => RtpInstance) (rtps : List Nat)
    (answers : Nat → WriteAnswer) (p : RtpPacket) (hsize : 0 ≤ p.size ∧ p.size ≤ 65535)
    (hin : ∀ rtp ∈ rtps, rtp ∈ instances) (haccepts : ∀ n, Accepts p (answers n)) :
    ∃ q effects, sendPacketAny instances answers rtps 0 p = .ok (q, effects) ∧
      FansOut instances rtps p q effects := by
  obtain ⟨q, effects, hsent, hsame, hsendings⟩ := sendPacketAny_sends 0 hin haccepts
  exact ⟨q, effects, hsent, hsendings,
    fun x _ channel hx => decode_sending (by omega) x.1 hx, hsame⟩

/-- A datagram, a silent instance and two interleaved ones. -/
def mixedInstances : AList fun _ : Nat => RtpInstance :=
  (((AList.insert 1 { RtpInstance.createNewOverUdp 5 0 (ascii "10.0.0.1") 6970 with
    isAlive := true } ∅).insert 2 (.createNewOverTcp 6 2)).insert 3
      { RtpInstance.createNewOverTcp 7 0 with isAlive := true }).insert 4
        { RtpInstance.createNewOverTcp 8 4 with isAlive := true }

theorem fan_out_faithful_sample :
    ∃ q effects, sendPacketAny mixedInstances (fun _ => some 1024) [3, 1, 2, 4] 0 { size := 600 } =
        .ok (q, effects) ∧ FansOut mixedInstances [3, 1, 2, 4] { size := 600 } q effects :=
  fan_out_faithful mixedInstances [3, 1, 2, 4] (fun _ => some 1024) { size := 600 } (by decide)
    (by decide) (fun _ => ⟨1024, rfl, by decide⟩)

end MyRtspServer.Net
