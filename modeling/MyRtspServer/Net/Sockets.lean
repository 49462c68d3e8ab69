import MyRtspServer.Net.EventLoop
import MyRtspServer.Net.Registered
import MyRtspServer.Net.Setup

/-!
# The sockets of a connection

A connection has its client socket, and for each track that is set up over UDP
one socket of the `RtpInstance` and one of the `RtcpInstance`. An interleaved
instance only shares the client socket. A request leaves all of them as they are,
except that SETUP fills one free slot.
-/
namespace MyRtspServer.Net

open Library Library.Octets Library.Transition Library.Descriptors

namespace RtpInstance

/-- What `~RtpInstance` and the poller care about; `SetAlive` does not touch it. -/
def wire (i : RtpInstance) : RtpTransport × Nat := (i.transport, i.sockFd)

/-- The socket nobody else uses. -/
def ownSocket (i : RtpInstance) : Option Nat :=
  match i.transport with
  | .overUdp .. => some i.sockFd
  | .overTcp _ => none

theorem ownSocket_wire {i j : RtpInstance} (h : i.wire = j.wire) : i.ownSocket = j.ownSocket := by
  obtain ⟨transport, sockFd, _, _⟩ := i
  cases h
  rfl

end RtpInstance

namespace RtspConnection

def rtpSocket (c : RtspConnection) (m : Media) (track : TrackId) : Option Nat :=
  match c.rtpInstances track with
  | none => none
  | some rtp => (m.rtpInstances.lookup rtp).bind RtpInstance.ownSocket

def rtcpSocket (c : RtspConnection) (track : TrackId) : Option Nat :=
  (c.rtcpInstances track).map RtcpInstance.localSockfd

/-- `m_session_` is a registered session. -/
def Remembers (c : RtspConnection) (m : Media) : Prop :=
  ∃ name, c.session = some name ∧ name ∈ m.sessions

end RtspConnection

/-! ## The sockets `CreateRtpRtcpOverUdp` opens -/

namespace EventLoop

theorem socketMoves_append (owner : Owner) (first later : List Effect) :
    socketMoves owner (first ++ later) = socketMoves owner first ++ socketMoves owner later :=
  List.filterMap_append

/-- The moves that belong to a pair of sockets, or to none. -/
structure UdpPairMoves (owner : Owner) (d : Table Owner)
    (pair : Option (Nat × UInt16 × Nat × UInt16)) (ms : List (Move Owner)) : Prop where
  clean : d.Clean ms
  failed : pair = none → d.after ms = d
  opened : ∀ {rtp rtpPort rtcp rtcpPort}, pair = some (rtp, rtpPort, rtcp, rtcpPort) →
    d rtp = none ∧ d rtcp = none ∧ rtp ≠ rtcp ∧
      d.after ms = Function.update (Function.update d rtp (some owner)) rtcp (some owner)

theorem update_closed {d : Table Owner} {owner : Owner} {fd : Nat} (h : d fd = none) :
    Function.update (Function.update d fd (some owner)) fd none = d := by
  rw [Function.update_idem, ← h, Function.update_eq_self]

/-- What was acquired twice is not one descriptor. -/
theorem acquired_apart {d : Table Owner} {owner : Owner} {fd fd' : Nat}
    (h : d.apply (.acquire owner fd) fd' = none) : fd ≠ fd' ∧ d fd' = none := by
  have hne : fd' ≠ fd := by
    rintro rfl
    simp [Table.apply] at h
  exact ⟨hne.symm, (Function.update_of_ne hne _ _).symm.trans h⟩

theorem openUdpPair_moves (owner : Owner) (udp : Nat → UdpAttempt) (left : Nat) :
    ∀ (i : Nat) {d : Table Owner},
      d.Fresh (socketMoves owner (RtspConnection.openUdpPair udp left i).2) →
      UdpPairMoves owner d (RtspConnection.openUdpPair udp left i).1
        (socketMoves owner (RtspConnection.openUdpPair udp left i).2) := by
  induction left with
  | zero => exact fun _ _ _ => ⟨trivial, fun _ => rfl, fun h => by cases h⟩
  | succ left ih =>
    intro i d hfresh
    unfold RtspConnection.openUdpPair at hfresh ⊢
    cases hrtp : (udp i).rtpSockfd with
    | none => exact ⟨trivial, fun _ => rfl, fun h => by cases h⟩
    | some rtp =>
      cases hrtcp : (udp i).rtcpSockfd with
      | none =>
        simp only [hrtp, hrtcp] at hfresh ⊢
        have hfree : d rtp = none := hfresh.1
        exact ⟨⟨hfree, Function.update_self .., trivial⟩, fun _ => update_closed hfree,
          fun h => by cases h⟩
      | some rtcp =>
        simp only [hrtp, hrtcp] at hfresh ⊢
        by_cases hbound : ((udp i).rtpBound && (udp i).rtcpBound) = true
        · simp only [hbound, if_true] at hfresh ⊢
          have hfree : d rtp = none := hfresh.1
          obtain ⟨hne, hfree'⟩ := acquired_apart hfresh.2.1
          refine ⟨⟨hfree, hfresh.2.1, trivial⟩, fun h => ?_, fun h => ?_⟩
          · cases h
          · cases h
            exact ⟨hfree, hfree', hne, rfl⟩
        · simp only [hbound, if_false, Bool.false_eq_true] at hfresh ⊢
          have hfree : d rtp = none := hfresh.1
          obtain ⟨hne, hfree'⟩ := acquired_apart hfresh.2.1
          -- the round leaves the table as it has found it
          have hround : d.after [.acquire owner rtp, .acquire owner rtcp, .close owner rtp,
              .close owner rtcp] = d := by
            change Function.update (Function.update (Function.update (Function.update d rtp
              (some owner)) rtcp (some owner)) rtp none) rtcp none = d
            rw [Function.update_comm hne.symm, update_closed hfree, update_closed hfree']
          change d.Fresh ([.acquire owner rtp, .acquire owner rtcp, .close owner rtp,
            .close owner rtcp] ++ socketMoves owner _) at hfresh
          obtain ⟨hfirst, hlater⟩ := Table.each_append.mp hfresh
          rw [hround] at hlater
          have hrest := ih (i + 1) hlater
          change UdpPairMoves owner d _ ([.acquire owner rtp, .acquire owner rtcp,
            .close owner rtp, .close owner rtcp] ++ socketMoves owner _)
          refine ⟨Table.each_append.mpr ⟨⟨hfree, hfirst.2.1, ?_, ?_, trivial⟩, ?_⟩,
            fun h => ?_, fun h => ?_⟩
          · change Function.update (Function.update d rtp _) rtcp _ rtp = _
            rw [Function.update_of_ne hne, Function.update_self]
          · change Function.update (Function.update (Function.update d rtp _) rtcp _) rtp _ rtcp = _
            rw [Function.update_of_ne hne.symm, Function.update_self]
          · rw [hround]
            exact hrest.clean
          · rw [Table.after_append, hround]
            exact hrest.failed h
          · rw [Table.after_append, hround]
            exact hrest.opened h

end EventLoop

/-! ## What a request does to the sockets -/

open EventLoop (socketMoves)

/-- Nothing happens to the sockets, an attempt to open a pair fails, or a free
slot gets an instance. -/
inductive SocketChange (w : World) (m : Media) (c : RtspConnection) (r : Handled) : Prop
  | kept (slots : r.conn.rtpInstances = c.rtpInstances) (rtcps : r.conn.rtcpSocket = c.rtcpSocket)
      (heap : ∀ a, (r.media.rtpInstances.lookup a).map RtpInstance.wire =
        (m.rtpInstances.lookup a).map RtpInstance.wire)
      (sessions : ∀ {name}, name ∈ m.sessions → name ∈ r.media.sessions)
      (session : c.Remembers m → r.conn.Remembers r.media)
      (silent : (∀ owner, socketMoves owner r.effects = []) ∨
        ∃ effects, RtspConnection.openUdpPair w.udp 10 0 = (none, effects) ∧
          ∀ owner, socketMoves owner r.effects = socketMoves owner effects)
  | overTcp (track : TrackId) (rtp : Nat) (i : RtpInstance)
      (rtpFree : c.rtpInstances track = none) (rtcpFree : c.rtcpInstances track = none)
      (fresh : rtp ∉ m.rtpInstances) (channel : UInt16) (shared : i.wire = (.overTcp channel, c.sockFd))
      (slots : r.conn.rtpInstances = Function.update c.rtpInstances track (some rtp))
      (rtcps : r.conn.rtcpInstances = c.rtcpInstances)
      (heap : r.media.rtpInstances = m.rtpInstances.insert rtp i)
      (sessions : ∀ {name}, name ∈ m.sessions → name ∈ r.media.sessions)
      (session : r.conn.Remembers r.media) (silent : ∀ owner, socketMoves owner r.effects = [])
  | overUdp (track : TrackId) (rtp : Nat) (i : RtpInstance) (rtcp : RtcpInstance)
      (rtpFree : c.rtpInstances track = none) (rtcpFree : c.rtcpInstances track = none)
      (fresh : rtp ∉ m.rtpInstances) (localPort : UInt16) (destIp : Octets) (destPort : UInt16)
      (own : i.transport = .overUdp localPort destIp destPort)
      (slots : r.conn.rtpInstances = Function.update c.rtpInstances track (some rtp))
      (rtcps : r.conn.rtcpInstances = Function.update c.rtcpInstances track (some rtcp))
      (heap : r.media.rtpInstances = m.rtpInstances.insert rtp i)
      (sessions : ∀ {name}, name ∈ m.sessions → name ∈ r.media.sessions)
      (session : r.conn.Remembers r.media) (rtcpPort : UInt16) (effects : List Effect)
      (pair : RtspConnection.openUdpPair w.udp 10 0 =
        (some (i.sockFd, localPort, rtcp.localSockfd, rtcpPort), effects))
      (opened : ∀ owner, socketMoves owner r.effects = socketMoves owner effects)

theorem Media.mem_setSession (m : Media) (name other : Octets) (s : MediaSession)
    (h : other ∈ m.sessions) : other ∈ (m.setSession name s).sessions :=
  AList.mem_insert _ |>.mpr (Or.inr h)

namespace RtspConnection

theorem respond_sockets (w : World) (m : Media) (c : RtspConnection) (text : Octets) :
    SocketChange w m c (respond w m c text) :=
  .kept rfl rfl (fun _ => rfl) id id (Or.inl fun _ => rfl)

theorem refused_sockets (w : World) (m : Media) (c : RtspConnection) (ok : Bool) :
    SocketChange w m c ⟨ok, m, c, []⟩ :=
  .kept rfl rfl (fun _ => rfl) id id (Or.inl fun _ => rfl)

theorem handleCmdDescribe_sockets {w : World} {m : Media} {c : RtspConnection} {r : Handled}
    (h : handleCmdDescribe w m c = .ok r) : SocketChange w m c r := by
  cases handleCmdDescribe_outcome h with
  | unknown => exact refused_sockets w m c false
  | described session session' sdp registered =>
    refine .kept rfl rfl (fun _ => rfl) (Media.mem_setSession m _ _ _) (fun _ => ?_)
      (Or.inl fun _ => rfl)
    refine ⟨c.request.suffix, rfl, Media.mem_setSession m _ _ _ ?_⟩
    rw [← AList.lookup_isSome, registered]
    rfl

theorem handleCmdSetup_sockets {w : World} {m : Media} {c : RtspConnection} {r : Handled}
    (h : handleCmdSetup w m c = .ok r) : SocketChange w m c r := by
  cases handleCmdSetup_answer h with
  | refused => exact refused_sockets w m c false
  | multicast => exact respond_sockets w m c _
  | overTcp name session track described describedSession found =>
    have hmem : described ∈ m.sessions := by
      rw [← AList.lookup_isSome, found.described]
      rfl
    exact .overTcp track (m.freshAddress w.newRtp) _ found.rtpFree found.rtcpFree
      (m.freshAddress_fresh w.newRtp) c.request.rtpChannel.toUInt16 rfl rfl rfl rfl
      (Media.mem_setSession _ _ _ _) ⟨described, found.remembered, Media.mem_setSession _ _ _ _ hmem⟩ fun _ => rfl
  | overUdp name session track described describedSession found =>
    have hmem : described ∈ m.sessions := by
      rw [← AList.lookup_isSome, found.described]
      rfl
    unfold setupOverUdp
    split
    · rename_i effects hpair
      exact .kept rfl rfl (fun _ => rfl) id id (Or.inr ⟨effects, hpair, fun _ => rfl⟩)
    · rename_i rtpSockfd rtpPort rtcpSockfd rtcpPort effects hpair
      refine .overUdp track (m.freshAddress w.newRtp) _ _ found.rtpFree found.rtcpFree
        (m.freshAddress_fresh w.newRtp) rtpPort _ _ rfl rfl rfl rfl
        (Media.mem_setSession _ _ _ _) ⟨described, found.remembered, Media.mem_setSession _ _ _ _ hmem⟩ rtcpPort effects hpair
        fun owner => ?_
      refine (EventLoop.socketMoves_append owner _ _).trans ?_
      exact List.append_nil _

theorem setTrackAlive_sockets {m m' : Media} {c c' : RtspConnection} {track : TrackId}
    (h : setTrackAlive m c track = .ok (m', c')) :
    c'.rtcpSocket = c.rtcpSocket ∧ c'.session = c.session := by
  have hrtcps : (c.setRtcpInstance track ((c.rtcpInstances track).map fun rtcp =>
      { rtcp with isAlive := true })).rtcpSocket = c.rtcpSocket := by
    funext t
    by_cases ht : t = track
    · subst ht
      simp only [rtcpSocket, setRtcpInstance, Function.update_self, Option.map_map]
      rfl
    · simp only [rtcpSocket, setRtcpInstance, Function.update_of_ne ht]
  unfold setTrackAlive at h
  dsimp only at h
  split at h
  · cases h
    exact ⟨hrtcps, rfl⟩
  · split at h
    · cases h
    · cases h
      exact ⟨hrtcps, rfl⟩

theorem handleCmdPlay_sockets {w : World} {m : Media} {c : RtspConnection} {r : Handled}
    (h : handleCmdPlay w m c = .ok r) : SocketChange w m c r := by
  cases handleCmdPlay_outcome h with
  | unsent => exact respond_sockets w m c _
  | playing m1 c1 m2 c2 first second =>
    obtain ⟨hc0, hs0, hl0⟩ := setTrackAlive_spec first
    obtain ⟨hc1, hs1, hl1⟩ := setTrackAlive_spec second
    obtain ⟨hr0, hn0⟩ := setTrackAlive_sockets first
    obtain ⟨hr1, hn1⟩ := setTrackAlive_sockets second
    have hsessions : ∀ {name}, name ∈ m.sessions → name ∈ m2.sessions := fun hmem => by
      rw [hs1, hs0]
      exact hmem
    refine .kept (hc1.trans hc0) (hr1.trans hr0) (fun a => ?_) hsessions (fun hrem => ?_)
      (Or.inl fun _ => rfl)
    · change (m2.rtpInstances.lookup a).map _ = _
      rw [hl1, hl0, Option.map_map, Option.map_map]
      congr 1
      funext i
      dsimp only [Function.comp]
      split <;> split <;> rfl
    · obtain ⟨name, hname, hmem⟩ := hrem
      exact ⟨name, (hn1.trans hn0).trans hname, hsessions hmem⟩

/-- **What a handler does to the sockets.** -/
theorem handleCmd_sockets {w : World} {m : Media} {c : RtspConnection} {r : Handled}
    (h : handleCmd w m c = .ok r) : SocketChange w m c r := by
  unfold handleCmd at h
  split at h
  · cases h
    exact respond_sockets w m c _
  · exact handleCmdDescribe_sockets h
  · exact handleCmdSetup_sockets h
  · exact handleCmdPlay_sockets h
  · cases h
    exact respond_sockets w m c _
  · cases h
    exact refused_sockets w m c true
  · cases h
    exact respond_sockets w m c _
  all_goals
    cases h
    exact refused_sockets w m c false

end RtspConnection

end MyRtspServer.Net
