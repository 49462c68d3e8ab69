import MyRtspServer.Net.Handlers

/-!
# `CreateRtpRtcpOverUdp`

The loop with every call it makes to the socket layer. A round that does not come to
its end closes what it has opened; so the function leaves two sockets on neighbouring
ports, or none.
-/
namespace MyRtspServer.Net

open Library Library.Octets

/-- A call to the socket layer that has an effect; `bind` also when it fails. -/
inductive SocketCall where
  | socket (sockfd : Nat)
  | bind (sockfd : Nat) (port : UInt16) (bound : Bool)
  | close (sockfd : Nat)
  deriving DecidableEq

namespace SocketCall

/-- The sockets that are open after a call. Only an open one is bound or closed. -/
def run (opened : List Nat) : SocketCall → Option (List Nat)
  | .socket sockfd => some (sockfd :: opened)
  | .bind sockfd _ _ => if sockfd ∈ opened then some opened else none
  | .close sockfd => if sockfd ∈ opened then some (opened.erase sockfd) else none

/-- The sockets of these calls that are still open, when each one that was closed was
open then. -/
def stillOpen (calls : List SocketCall) (opened : List Nat) : Option (List Nat) :=
  calls.foldlM run opened

/-- The call, as the effects of a request show it. -/
def effect : SocketCall → Option Effect
  | .socket sockfd => some (.opened sockfd)
  | .bind .. => none
  | .close sockfd => some (.closed sockfd)

theorem stillOpen_append (calls more : List SocketCall) (opened : List Nat) :
    stillOpen (calls ++ more) opened = (stillOpen calls opened).bind (stillOpen more) :=
  List.foldlM_append

end SocketCall

open SocketCall

namespace RtspConnection

/-- `uint16_t port = rand() % 0xfffe; if(port < 10000) port += 10000;` -/
def udpPort (rand : Nat) : UInt16 :=
  let port := UInt16.ofNat (rand % 0xfffe)
  if port < 10000 then port + 10000 else port

/-- The loop, `left` of whose rounds remain: the sockets and ports it ends with, and the
calls of each round. -/
def udpRounds (udp : Nat → UdpAttempt) :
    Nat → Nat → Option (Nat × UInt16 × Nat × UInt16) × List (List SocketCall)
  | 0, _ => (none, [])
  | left + 1, i =>
    match (udp i).rtpSockfd with
    | none => (none, [[]])
    | some rtpSockfd =>
      match (udp i).rtcpSockfd with
      | none => (none, [[.socket rtpSockfd, .close rtpSockfd]])
      | some rtcpSockfd =>
        let rtpPort := udpPort (udp i).rand + 1
        let rtcpPort := rtpPort + 1
        if ¬ (udp i).rtpBound then
          let (pair, rounds) := udpRounds udp left (i + 1)
          (pair, [.socket rtpSockfd, .socket rtcpSockfd, .bind rtpSockfd rtpPort false,
            .close rtpSockfd, .close rtcpSockfd] :: rounds)
        else if ¬ (udp i).rtcpBound then
          let (pair, rounds) := udpRounds udp left (i + 1)
          (pair, [.socket rtpSockfd, .socket rtcpSockfd, .bind rtpSockfd rtpPort true,
            .bind rtcpSockfd rtcpPort false, .close rtpSockfd, .close rtcpSockfd] :: rounds)
        else (some (rtpSockfd, rtpPort, rtcpSockfd, rtcpPort),
          [[.socket rtpSockfd, .socket rtcpSockfd, .bind rtpSockfd rtpPort true,
            .bind rtcpSockfd rtcpPort true]])

/-- What `CreateRtpRtcpOverUdp` leaves behind, with the calls of each attempt. -/
structure UdpCreated where
  ok : Bool
  media : Media
  conn : RtspConnection
  attempts : List (List SocketCall)

def createRtpRtcpOverUdp (udp : Nat → UdpAttempt) (newRtp : Nat) (m : Media) (c : RtspConnection)
    (track : TrackId) (peerIp : Octets) (peerRtpPort peerRtcpPort : UInt16) : UdpCreated :=
  if (c.rtpInstances track).isSome ∨ (c.rtcpInstances track).isSome then ⟨false, m, c, []⟩
  else
    match udpRounds udp 10 0 with
    | (none, attempts) => ⟨false, m, c, attempts⟩
    | (some (rtpSockfd, rtpPort, rtcpSockfd, rtcpPort), attempts) =>
      let (rtp, m) := m.newRtpInstance newRtp
        (.createNewOverUdp rtpSockfd rtpPort peerIp peerRtpPort)
      let rtcp : RtcpInstance :=
        { localSockfd := rtcpSockfd, localPort := rtcpPort, destIp := peerIp
          destPort := peerRtcpPort }
      ⟨true, m, (c.setRtpInstance track rtp).setRtcpInstance track (some rtcp), attempts⟩

/-! ## The loop -/

/-- A port that was drawn leaves room for the two that are used. -/
theorem udpPort_range (rand : Nat) :
    10000 ≤ (udpPort rand).toNat ∧ (udpPort rand).toNat ≤ 65533 := by
  have hlt : rand % 0xfffe < 65534 := Nat.mod_lt _ (by decide)
  have hdrawn : (UInt16.ofNat (rand % 0xfffe)).toNat = rand % 0xfffe :=
    UInt16.toNat_ofNat_of_lt' (Nat.lt_trans hlt (by decide))
  unfold udpPort
  dsimp only
  split
  · rename_i hsmall
    rw [UInt16.lt_iff_toNat_lt, hdrawn] at hsmall
    have hten : (10000 : UInt16).toNat = 10000 := rfl
    rw [UInt16.toNat_add, hdrawn, hten]
    omega
  · rename_i hlarge
    rw [UInt16.lt_iff_toNat_lt, hdrawn] at hlarge
    have hten : (10000 : UInt16).toNat = 10000 := rfl
    omega

/-- The calls of a round that comes to its end. -/
def boundRound (rtpSockfd rtcpSockfd : Nat) (port : UInt16) : List SocketCall :=
  [.socket rtpSockfd, .socket rtcpSockfd, .bind rtpSockfd port true,
    .bind rtcpSockfd (port + 1) true]

/-- What the attempts come to: they leave nothing open, or the last one leaves its two
sockets, bound to neighbouring ports. -/
inductive UdpResult : Option (Nat × UInt16 × Nat × UInt16) → List (List SocketCall) → Prop
  | nothing (attempts) (closed : ∀ opened, stillOpen attempts.flatten opened = some opened) :
      UdpResult none attempts
  | pair (failed rtpSockfd port rtcpSockfd)
      (closed : ∀ opened, stillOpen (List.flatten failed) opened = some opened)
      (low : 10001 ≤ UInt16.toNat port) (high : UInt16.toNat port ≤ 65534) :
      UdpResult (some (rtpSockfd, port, rtcpSockfd, port + 1))
        (failed ++ [boundRound rtpSockfd rtcpSockfd port])

theorem stillOpen_round (rtpSockfd rtcpSockfd : Nat) (binds : List SocketCall)
    (hbinds : ∀ opened, rtpSockfd ∈ opened → rtcpSockfd ∈ opened →
      stillOpen binds opened = some opened) (opened : List Nat) :
    stillOpen ([.socket rtpSockfd, .socket rtcpSockfd] ++ binds ++
      [.close rtpSockfd, .close rtcpSockfd]) opened = some opened := by
  have hrtp : rtpSockfd ∈ rtcpSockfd :: rtpSockfd :: opened :=
    List.mem_cons_of_mem _ List.mem_cons_self
  have hfirst : stillOpen [.socket rtpSockfd, .socket rtcpSockfd] opened =
      some (rtcpSockfd :: rtpSockfd :: opened) := rfl
  have hcloses : stillOpen [.close rtpSockfd, .close rtcpSockfd]
      (rtcpSockfd :: rtpSockfd :: opened) = some opened := by
    by_cases heq : rtpSockfd = rtcpSockfd
    · subst heq
      simp [stillOpen, run]
    · simp [stillOpen, run, List.erase_cons_tail, Ne.symm heq]
  rw [stillOpen_append, stillOpen_append, hfirst, Option.bind_some,
    hbinds _ hrtp List.mem_cons_self, Option.bind_some, hcloses]

/-- A round that is given up leaves the result to the rounds behind it. -/
theorem UdpResult.cons {pair : Option (Nat × UInt16 × Nat × UInt16)}
    {attempts : List (List SocketCall)} {round : List SocketCall}
    (hround : ∀ opened, stillOpen round opened = some opened) (h : UdpResult pair attempts) :
    UdpResult pair (round :: attempts) := by
  have hmore : ∀ {rounds : List (List SocketCall)},
      (∀ opened, stillOpen rounds.flatten opened = some opened) →
      ∀ opened, stillOpen (round :: rounds).flatten opened = some opened := by
    intro rounds hrounds opened
    rw [List.flatten_cons, stillOpen_append, hround, Option.bind_some, hrounds]
  cases h with
  | nothing attempts closed => exact .nothing _ (hmore closed)
  | pair failed rtpSockfd port rtcpSockfd closed low high =>
    exact .pair (round :: failed) rtpSockfd port rtcpSockfd (hmore closed) low high

/-- **The loop leaves two sockets or none.** -/
theorem udpRounds_result (udp : Nat → UdpAttempt) (left : Nat) : ∀ i,
    UdpResult (udpRounds udp left i).1 (udpRounds udp left i).2 := by
  induction left with
  | zero => exact fun i => .nothing [] fun _ => rfl
  | succ left ih =>
    intro i
    unfold udpRounds
    split
    · exact .nothing _ fun _ => rfl
    rename_i rtpSockfd _
    split
    · refine .nothing _ fun opened => ?_
      simp [stillOpen, run]
    rename_i rtcpSockfd _
    dsimp only
    split
    · refine (ih (i + 1)).cons (stillOpen_round rtpSockfd rtcpSockfd [.bind _ _ _] ?_)
      intro opened hrtp _
      simp [stillOpen, run, hrtp]
    split
    · refine (ih (i + 1)).cons (stillOpen_round rtpSockfd rtcpSockfd [.bind _ _ _, .bind _ _ _] ?_)
      intro opened hrtp hrtcp
      simp [stillOpen, run, hrtp, hrtcp]
    · obtain ⟨hlow, hhigh⟩ := udpPort_range (udp i).rand
      have hport : (udpPort (udp i).rand + 1).toNat = (udpPort (udp i).rand).toNat + 1 := by
        have hone : (1 : UInt16).toNat = 1 := rfl
        rw [UInt16.toNat_add, hone]
        omega
      exact .pair [] rtpSockfd _ rtcpSockfd (fun _ => rfl) (by omega) (by omega)

theorem udpRounds_length (udp : Nat → UdpAttempt) (left : Nat) : ∀ i,
    (udpRounds udp left i).2.length ≤ left := by
  induction left with
  | zero => exact fun i => Nat.le_refl 0
  | succ left ih =>
    intro i
    unfold udpRounds
    split
    · exact Nat.succ_le_succ (Nat.zero_le _)
    split
    · exact Nat.succ_le_succ (Nat.zero_le _)
    dsimp only
    split
    · exact Nat.succ_le_succ (ih (i + 1))
    split
    · exact Nat.succ_le_succ (ih (i + 1))
    · exact Nat.succ_le_succ (Nat.zero_le _)

/-! ## The function -/

/-- Two sockets remain open, bound to neighbouring ports, and the slots of the track own
them; nothing else has changed. -/
structure UdpPairOwned (m : Media) (c : RtspConnection) (track : TrackId) (peerIp : Octets)
    (peerRtpPort peerRtcpPort : UInt16) (r : UdpCreated) (rtpSockfd rtcpSockfd : Nat)
    (port : UInt16) (rtp : Nat) : Prop where
  opened : stillOpen r.attempts.flatten [] = some [rtcpSockfd, rtpSockfd]
  bound : ∃ failed, stillOpen (List.flatten failed) [] = some [] ∧
    r.attempts = failed ++ [boundRound rtpSockfd rtcpSockfd port]
  ports : 10001 ≤ port.toNat ∧ port.toNat ≤ 65534 ∧ (port + 1).toNat = port.toNat + 1
  rtpSlot : r.conn.rtpInstances track = some rtp
  rtpInstance : r.media.rtpInstances.lookup rtp =
    some (.createNewOverUdp rtpSockfd port peerIp peerRtpPort)
  rtcpSlot : r.conn.rtcpInstances track = some
    { localSockfd := rtcpSockfd, localPort := port + 1, destIp := peerIp
      destPort := peerRtcpPort }
  otherSlots : ∀ other, other ≠ track → r.conn.rtpInstances other = c.rtpInstances other ∧
    r.conn.rtcpInstances other = c.rtcpInstances other
  otherInstances : ∀ a ∈ m.rtpInstances, r.media.rtpInstances.lookup a = m.rtpInstances.lookup a

/-- All or nothing. -/
structure UdpAllOrNothing (m : Media) (c : RtspConnection) (track : TrackId) (peerIp : Octets)
    (peerRtpPort peerRtcpPort : UInt16) (r : UdpCreated) : Prop where
  attempts : r.attempts.length ≤ 10
  nothing : r.ok = false → stillOpen r.attempts.flatten [] = some [] ∧ r.conn = c ∧ r.media = m
  all : r.ok = true → ∃ rtpSockfd rtcpSockfd port rtp,
    UdpPairOwned m c track peerIp peerRtpPort peerRtcpPort r rtpSockfd rtcpSockfd port rtp

/-- **UDP set-up is all or nothing**, whatever the kernel answers and `rand()` draws. -/
theorem createRtpRtcpOverUdp_allOrNothing (udp : Nat → UdpAttempt) (newRtp : Nat) (m : Media)
    (c : RtspConnection) (track : TrackId) (peerIp : Octets) (peerRtpPort peerRtcpPort : UInt16) :
    UdpAllOrNothing m c track peerIp peerRtpPort peerRtcpPort
      (createRtpRtcpOverUdp udp newRtp m c track peerIp peerRtpPort peerRtcpPort) := by
  unfold createRtpRtcpOverUdp
  split
  · exact ⟨Nat.zero_le _, fun _ => ⟨rfl, rfl, rfl⟩, fun h => by cases h⟩
  have hresult := udpRounds_result udp 10 0
  have hlength := udpRounds_length udp 10 0
  rcases hrounds : udpRounds udp 10 0 with ⟨_ | ⟨rtpSockfd, rtpPort, rtcpSockfd, rtcpPort⟩, attempts⟩
  · rw [hrounds] at hresult hlength
    cases hresult with
    | nothing attempts closed =>
      exact ⟨hlength, fun _ => ⟨closed [], rfl, rfl⟩, fun h => by cases h⟩
  · rw [hrounds] at hresult hlength
    cases hresult with
    | pair failed rtpSockfd port rtcpSockfd closed low high =>
      have hone : (1 : UInt16).toNat = 1 := rfl
      have hnext : (rtpPort + 1).toNat = rtpPort.toNat + 1 := by
        rw [UInt16.toNat_add, hone]
        omega
      have hopened : stillOpen (failed ++ [boundRound rtpSockfd rtcpSockfd rtpPort]).flatten [] =
          some [rtcpSockfd, rtpSockfd] := by
        rw [List.flatten_append, stillOpen_append, closed, Option.bind_some]
        simp [boundRound, stillOpen, run]
      refine ⟨hlength, fun h => ?_, fun _ => ⟨rtpSockfd, rtcpSockfd, rtpPort,
        m.freshAddress newRtp, ?_⟩⟩
      · cases h
      exact ⟨hopened, ⟨failed, closed [], rfl⟩, ⟨low, high, hnext⟩, Function.update_self ..,
        AList.lookup_insert _, Function.update_self ..,
        fun other hother => ⟨Function.update_of_ne hother .., Function.update_of_ne hother ..⟩,
        fun a ha => AList.lookup_insert_ne fun heq => m.freshAddress_fresh newRtp (heq ▸ ha)⟩

/-! ## In a SETUP -/

/-- The loop of the server's model is this one, without the binds. -/
theorem openUdpPair_rounds (udp : Nat → UdpAttempt) (left : Nat) : ∀ i, openUdpPair udp left i =
    ((udpRounds udp left i).1, (udpRounds udp left i).2.flatten.filterMap effect) := by
  induction left with
  | zero => exact fun i => rfl
  | succ left ih =>
    intro i
    unfold openUdpPair udpRounds
    cases hrtp : (udp i).rtpSockfd with
    | none => rfl
    | some rtpSockfd =>
      cases hrtcp : (udp i).rtcpSockfd with
      | none => rfl
      | some rtcpSockfd =>
        dsimp only
        rw [ih (i + 1)]
        cases (udp i).rtpBound with
        | false => rfl
        | true =>
          cases (udp i).rtcpBound with
          | false => rfl
          | true =>
            have htwo : udpPort (udp i).rand + 2 = udpPort (udp i).rand + 1 + 1 := by
              rw [UInt16.add_assoc]
              rfl
            change (some (rtpSockfd, udpPort (udp i).rand + 1, rtcpSockfd,
              udpPort (udp i).rand + 2), _) = _
            rw [htwo]
            rfl

/-- SETUP goes on from what was created: it only puts the session id into the instances. -/
structure GoesOn (c : RtspConnection) (track : TrackId) (r : UdpCreated) (h : Handled) : Prop where
  calls : r.attempts.flatten.filterMap effect <+: h.effects
  refused : r.ok = false → h.ok = false
  rtpSlots : h.conn.rtpInstances = r.conn.rtpInstances
  rtcpSlots : ∀ t, h.conn.rtcpInstances t = if t = track then
    (r.conn.rtcpInstances t).map fun rtcp => { rtcp with sessionId := c.sessionId.toUInt16 }
    else r.conn.rtcpInstances t
  instances : ∀ a, h.media.rtpInstances.lookup a = (r.media.rtpInstances.lookup a).map fun i =>
    if r.conn.rtpInstances track = some a then { i with sessionId := c.sessionId.toUInt16 } else i

theorem setupOverUdp_goesOn (w : World) (m : Media) {c : RtspConnection} (name : Octets)
    (session : MediaSession) {track : TrackId} (hrtp : c.rtpInstances track = none)
    (hrtcp : c.rtcpInstances track = none) :
    GoesOn c track (createRtpRtcpOverUdp w.udp w.newRtp m c track c.peerIp c.request.peerRtpPort
      c.request.peerRtcpPort) (setupOverUdp w m c name session track) := by
  have hfree : ¬ ((c.rtpInstances track).isSome ∨ (c.rtcpInstances track).isSome) := by
    rw [hrtp, hrtcp]
    decide
  unfold createRtpRtcpOverUdp setupOverUdp
  rw [if_neg hfree, openUdpPair_rounds]
  rcases udpRounds w.udp 10 0 with ⟨_ | ⟨rtpSockfd, rtpPort, rtcpSockfd, rtcpPort⟩, attempts⟩
  · refine ⟨List.prefix_rfl, fun h => h, rfl, fun t => ?_, fun a => ?_⟩
    · dsimp only
      split
      · rename_i heq
        rw [heq, hrtcp]
        rfl
      · rfl
    · simp [hrtp]
  · refine ⟨List.prefix_append _ _, fun h => ?_, rfl, fun t => ?_, fun a => ?_⟩
    · cases h
    · by_cases ht : t = track
      · subst ht
        simp [respond, sendMessage, setRtcpInstance, setRtpInstance]
      · simp [respond, sendMessage, setRtcpInstance, setRtpInstance, ht]
    · by_cases ha : a = m.freshAddress w.newRtp
      · subst ha
        simp [respond, sendMessage, setRtcpInstance, setRtpInstance, Media.newRtpInstance,
          Media.setSession]
      · simp [respond, sendMessage, setRtcpInstance, setRtpInstance, Media.newRtpInstance,
          Media.setSession, AList.lookup_insert_ne ha, Ne.symm ha]

end RtspConnection
end MyRtspServer.Net
