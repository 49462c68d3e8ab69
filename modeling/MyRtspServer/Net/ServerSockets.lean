import MyRtspServer.Net.Sockets

/-!
# The sockets of all connections

`Settled` is what holds of every connection between two callbacks: whoever has an
instance in a slot has described a session, and an interleaved instance sends on
the socket of its own connection. A read leaves the sockets of all connections as
they are, or gives one of them a pair for a free slot.
-/
namespace MyRtspServer.Net

open Library Library.Octets Library.Transition Library.Descriptors

namespace Media

/-- Sessions stay registered and instances stay what they are. -/
structure Grows (m m' : Media) : Prop where
  sessions : ∀ {name}, name ∈ m.sessions → name ∈ m'.sessions
  heap : ∀ {a}, a ∈ m.rtpInstances → (m'.rtpInstances.lookup a).map RtpInstance.wire =
    (m.rtpInstances.lookup a).map RtpInstance.wire

theorem Grows.refl (m : Media) : m.Grows m := ⟨id, fun _ => rfl⟩

theorem grows_setSession {m : Media} {name : Octets} {s : MediaSession} :
    m.Grows (m.setSession name s) := ⟨fun hmem => m.mem_setSession name _ s hmem, fun _ => rfl⟩

theorem grows_insert {m m' : Media} {rtp : Nat} {i : RtpInstance} (hfresh : rtp ∉ m.rtpInstances)
    (hsessions : ∀ {name}, name ∈ m.sessions → name ∈ m'.sessions)
    (hheap : m'.rtpInstances = m.rtpInstances.insert rtp i) : m.Grows m' := by
  refine ⟨hsessions, fun {a} ha => ?_⟩
  have hne : a ≠ rtp := fun heq => hfresh (heq ▸ ha)
  rw [hheap, AList.lookup_insert_ne hne]

end Media

theorem bind_ownSocket {o o' : Option RtpInstance}
    (h : o'.map RtpInstance.wire = o.map RtpInstance.wire) :
    o'.bind RtpInstance.ownSocket = o.bind RtpInstance.ownSocket := by
  cases o with
  | none =>
    rw [Option.map_none, Option.map_eq_none_iff] at h
    rw [h]
  | some i =>
    obtain ⟨i', rfl, hwire⟩ := Option.map_eq_some_iff.mp h
    exact RtpInstance.ownSocket_wire hwire

namespace RtspConnection

/-- Every slot is filled with a live instance. -/
def Live (c : RtspConnection) (m : Media) : Prop :=
  ∀ {t rtp}, c.rtpInstances t = some rtp → rtp ∈ m.rtpInstances

structure Settled (c : RtspConnection) (m : Media) : Prop where
  session : ∀ {t rtp}, c.rtpInstances t = some rtp → c.Remembers m
  shared : ∀ {t rtp i}, c.rtpInstances t = some rtp → m.rtpInstances.lookup rtp = some i →
    i.ownSocket = none → i.sockFd = c.sockFd

/-- The shared state keeps what the connection points to. -/
structure Kept (c : RtspConnection) (m m' : Media) : Prop where
  sessions : ∀ {name}, name ∈ m.sessions → name ∈ m'.sessions
  heap : ∀ {t rtp}, c.rtpInstances t = some rtp →
    (m'.rtpInstances.lookup rtp).map RtpInstance.wire =
      (m.rtpInstances.lookup rtp).map RtpInstance.wire

theorem Live.kept {c : RtspConnection} {m m' : Media} (h : c.Live m) (hgrows : m.Grows m') :
    c.Kept m m' := ⟨hgrows.sessions, fun hslot => hgrows.heap (h hslot)⟩

theorem Settled.kept {c : RtspConnection} {m m' : Media} (h : c.Settled m) (hkept : c.Kept m m') :
    c.Settled m' := by
  constructor
  · intro t rtp hslot
    obtain ⟨name, hname, hmem⟩ := h.session hslot
    exact ⟨name, hname, hkept.sessions hmem⟩
  · intro t rtp i' hslot hi' hown
    have hheap := hkept.heap hslot
    rw [hi'] at hheap
    obtain ⟨i, hi, hwire⟩ := Option.map_eq_some_iff.mp hheap.symm
    have hshared := h.shared hslot hi ((RtpInstance.ownSocket_wire hwire).trans hown)
    exact (congrArg Prod.snd hwire).symm.trans hshared

theorem rtpSocket_kept {c : RtspConnection} {m m' : Media} (hkept : c.Kept m m') :
    c.rtpSocket m' = c.rtpSocket m := by
  funext t
  unfold rtpSocket
  cases hslot : c.rtpInstances t with
  | none => rfl
  | some rtp => exact bind_ownSocket (hkept.heap hslot)

/-- A slot that was filled with a fresh instance. -/
theorem rtpSocket_filled {c c' : RtspConnection} {m m' : Media} (hlive : c.Live m) {track : TrackId}
    {rtp : Nat} {i : RtpInstance} (hfresh : rtp ∉ m.rtpInstances)
    (hslots : c'.rtpInstances = Function.update c.rtpInstances track (some rtp))
    (hheap : m'.rtpInstances = m.rtpInstances.insert rtp i) :
    c'.rtpSocket m' = Function.update (c.rtpSocket m) track i.ownSocket := by
  funext t
  by_cases ht : t = track
  · subst ht
    rw [Function.update_self, rtpSocket, hslots, Function.update_self, hheap]
    dsimp only
    rw [AList.lookup_insert]
    rfl
  · rw [Function.update_of_ne ht, rtpSocket, rtpSocket, hslots, Function.update_of_ne ht, hheap]
    cases hslot : c.rtpInstances t with
    | none => rfl
    | some other =>
      have hne : other ≠ rtp := fun heq => hfresh (heq ▸ hlive hslot)
      dsimp only
      rw [AList.lookup_insert_ne hne]

/-- An unfilled slot has no socket. -/
theorem rtpSocket_free {c : RtspConnection} {m : Media} {track : TrackId}
    (h : c.rtpInstances track = none) : c.rtpSocket m track = none := by
  rw [rtpSocket, h]

theorem Settled.filled {c c' : RtspConnection} {m m' : Media} (h : c.Settled m) (hlive : c.Live m)
    {track : TrackId} {rtp : Nat} {i : RtpInstance} (hfresh : rtp ∉ m.rtpInstances)
    (hfd : c'.sockFd = c.sockFd)
    (hslots : c'.rtpInstances = Function.update c.rtpInstances track (some rtp))
    (hheap : m'.rtpInstances = m.rtpInstances.insert rtp i) (hsession : c'.Remembers m')
    (hshared : i.ownSocket = none → i.sockFd = c.sockFd) : c'.Settled m' := by
  refine ⟨fun _ => hsession, fun {t other j} hslot hj hown => ?_⟩
  rw [hfd]
  by_cases ht : t = track
  · subst ht
    rw [hslots, Function.update_self, Option.some.injEq] at hslot
    subst hslot
    rw [hheap, AList.lookup_insert, Option.some.injEq] at hj
    subst hj
    exact hshared hown
  · rw [hslots, Function.update_of_ne ht] at hslot
    have hne : other ≠ rtp := fun heq => hfresh (heq ▸ hlive hslot)
    rw [hheap, AList.lookup_insert_ne hne] at hj
    exact h.shared hslot hj hown

end RtspConnection

/-! ## One read -/

open EventLoop (socketMoves instanceMoves readMoves)

theorem Connection.handleRead_sockets {w : World} {m : Media} {c : Connection} {bytes : Octets}
    {r : ReadResult} (h : c.handleRead w m bytes = .ok r) :
    ∃ request handled, SocketChange w m { c.rtsp with request := request } handled ∧
      r.media = handled.media ∧ r.conn.rtsp = handled.conn ∧
      handled.conn.sockFd = c.rtsp.sockFd ∧
      ∀ owner, socketMoves owner r.effects = socketMoves owner handled.effects := by
  unfold handleRead handleReadBytes at h
  dsimp only at h
  split at h
  · cases h
    exact ⟨c.rtsp.request, _, RtspConnection.refused_sockets w m c.rtsp true, rfl, rfl, rfl,
      fun _ => rfl⟩
  · split at h
    · cases h
    · rename_i request buffer _
      cases h
      exact ⟨request, _, RtspConnection.refused_sockets w m _ false, rfl, rfl, rfl, fun _ => rfl⟩
    · rename_i request buffer _
      split at h
      · cases h
      · rename_i handled hhandled
        cases h
        refine ⟨request, handled, RtspConnection.handleCmd_sockets hhandled, rfl, rfl,
          (RtspConnection.handleCmd_keeps hhandled).sockFd, fun owner => ?_⟩
        change socketMoves owner (handled.effects ++ _) = _
        rw [EventLoop.socketMoves_append]
        cases handled.ok <;> exact List.append_nil _

/-- What the read of connection `id` does to its sockets and to the table. -/
inductive ReadSockets (id : Nat) (d d' : Table Owner) (m m' : Media) (c c' : RtspConnection) : Prop
  | kept (rtps : c'.rtpSocket m' = c.rtpSocket m) (rtcps : c'.rtcpSocket = c.rtcpSocket)
      (table : d' = d)
  | opened (track : TrackId) (rtpSockfd rtcpSockfd : Nat) (rtpFree : c.rtpSocket m track = none)
      (rtcpFree : c.rtcpSocket track = none)
      (rtps : c'.rtpSocket m' = Function.update (c.rtpSocket m) track (some rtpSockfd))
      (rtcps : c'.rtcpSocket = Function.update c.rtcpSocket track (some rtcpSockfd))
      (rtpClosed : d rtpSockfd = none) (rtcpClosed : d rtcpSockfd = none)
      (apart : rtpSockfd ≠ rtcpSockfd)
      (table : d' = Function.update (Function.update d rtpSockfd (some (.rtp id track))) rtcpSockfd
        (some (.rtcp id track)))

theorem instanceMoves_same {id : Nat} {c c' : RtspConnection} {m : Media} {track : TrackId}
    (h : c'.rtpInstances track = c.rtpInstances track) : instanceMoves id c c' m track = [] := by
  unfold instanceMoves
  rw [h]
  cases c.rtpInstances track <;> rfl

/-- Only the track that was set up counts. -/
theorem instanceMoves_filled {id : Nat} {c c' : RtspConnection} {m : Media} {track : TrackId}
    {rtp : Nat} (hslots : c'.rtpInstances = Function.update c.rtpInstances track (some rtp)) :
    instanceMoves id c c' m 0 ++ instanceMoves id c c' m 1 = instanceMoves id c c' m track := by
  have hother : ∀ t, t ≠ track → instanceMoves id c c' m t = [] := fun t ht =>
    instanceMoves_same (by rw [hslots, Function.update_of_ne ht])
  rcases trackId_cases track with rfl | rfl
  · rw [hother 1 (by decide), List.append_nil]
  · rw [hother 0 (by decide), List.nil_append]

theorem instanceMoves_overTcp {id : Nat} {c c' : RtspConnection} {m : Media} {track : TrackId}
    {rtp : Nat} {i : RtpInstance} {channel : UInt16} (hslot : c'.rtpInstances track = some rtp)
    (hi : m.rtpInstances.lookup rtp = some i) (htcp : i.transport = .overTcp channel) :
    instanceMoves id c c' m track = [] := by
  unfold instanceMoves
  rw [hslot]
  cases c.rtpInstances track with
  | some _ => rfl
  | none =>
    dsimp only
    rw [hi]
    obtain ⟨transport, sockFd, isAlive, sessionId⟩ := i
    cases htcp
    rfl

theorem instanceMoves_overUdp {id : Nat} {c c' : RtspConnection} {m : Media} {track : TrackId}
    {rtp : Nat} {i : RtpInstance} {rtcp : RtcpInstance} {localPort : UInt16} {destIp : Octets}
    {destPort : UInt16} (hfree : c.rtpInstances track = none)
    (hslot : c'.rtpInstances track = some rtp) (hi : m.rtpInstances.lookup rtp = some i)
    (hudp : i.transport = .overUdp localPort destIp destPort)
    (hrtcp : c'.rtcpInstances track = some rtcp) :
    instanceMoves id c c' m track = [.transfer (.setup id) (.rtp id track) i.sockFd,
      .transfer (.setup id) (.rtcp id track) rtcp.localSockfd] := by
  unfold instanceMoves
  rw [hslot, hfree]
  dsimp only
  rw [hi, hrtcp]
  obtain ⟨transport, sockFd, isAlive, sessionId⟩ := i
  cases hudp
  rfl

/-- The pair of sockets is handed to the two instances. -/
theorem taken_over {id : Nat} {d : Table Owner} {track : TrackId} {rtp rtcp : Nat}
    {ms : List (Move Owner)} (hclean : d.Clean ms) (hne : rtp ≠ rtcp)
    (hafter : d.after ms = Function.update (Function.update d rtp (some (.setup id))) rtcp
      (some (.setup id))) :
    d.Clean (ms ++ [.transfer (.setup id) (.rtp id track) rtp,
      .transfer (.setup id) (.rtcp id track) rtcp]) ∧
    d.after (ms ++ [.transfer (.setup id) (.rtp id track) rtp,
      .transfer (.setup id) (.rtcp id track) rtcp]) =
        Function.update (Function.update d rtp (some (.rtp id track))) rtcp
          (some (.rtcp id track)) := by
  constructor
  · refine Table.each_append.mpr ⟨hclean, ?_⟩
    rw [hafter]
    refine ⟨?_, ?_, trivial⟩
    · change Function.update (Function.update d rtp _) rtcp _ rtp = _
      rw [Function.update_of_ne hne, Function.update_self]
    · change Function.update (Function.update (Function.update d rtp _) rtcp _) rtp _ rtcp = _
      rw [Function.update_of_ne hne.symm, Function.update_self]
  · rw [Table.after_append, hafter]
    change Function.update (Function.update (Function.update (Function.update d rtp _) rtcp _) rtp _)
      rtcp _ = _
    rw [Function.update_comm hne.symm, Function.update_idem, Function.update_idem]

/-- **The sockets after a read.** -/
theorem Connection.readMoves_sockets {w : World} {m : Media} {c : Connection} {bytes : Octets}
    {r : ReadResult} (h : c.handleRead w m bytes = .ok r) (hlive : c.rtsp.Live m) (id : Nat)
    {d : Table Owner} (hfresh : d.Fresh (readMoves id c.rtsp r)) :
    d.Clean (readMoves id c.rtsp r) ∧
      ReadSockets id d (d.after (readMoves id c.rtsp r)) m r.media c.rtsp r.conn.rtsp := by
  obtain ⟨request, handled, hchange, hmedia, hconn, -, heffects⟩ := handleRead_sockets h
  have hmoves : readMoves id c.rtsp r = socketMoves (.setup id) handled.effects ++
      (instanceMoves id c.rtsp handled.conn handled.media 0 ++
        instanceMoves id c.rtsp handled.conn handled.media 1) := by
    rw [readMoves, heffects, hconn, hmedia, List.append_assoc]
  rw [hmoves] at hfresh ⊢
  rw [hmedia, hconn]
  cases hchange with
  | kept slots rtcps heap sessions session silent =>
    have hsame : ∀ t, handled.conn.rtpInstances t = c.rtsp.rtpInstances t := congrFun slots
    rw [instanceMoves_same (hsame 0), instanceMoves_same (hsame 1), List.append_nil,
      List.append_nil] at hfresh ⊢
    have hrtps : handled.conn.rtpSocket handled.media = c.rtsp.rtpSocket m := by
      funext t
      unfold RtspConnection.rtpSocket
      rw [hsame]
      cases c.rtsp.rtpInstances t with
      | none => rfl
      | some rtp => exact bind_ownSocket (heap rtp)
    rcases silent with hsilent | ⟨effects, hpair, hsilent⟩
    · rw [hsilent]
      exact ⟨trivial, .kept hrtps rtcps rfl⟩
    · rw [hsilent] at hfresh ⊢
      have hudp := EventLoop.openUdpPair_moves (.setup id) w.udp 10 0 (d := d)
      rw [hpair] at hudp
      have hnone := hudp hfresh
      exact ⟨hnone.clean, .kept hrtps rtcps (hnone.failed rfl)⟩
  | overTcp track rtp i rtpFree rtcpFree fresh channel shared slots rtcps heap sessions session silent =>
    have htcp : i.transport = .overTcp channel := congrArg Prod.fst shared
    have hslot : handled.conn.rtpInstances track = some rtp := by
      rw [slots, Function.update_self]
    have hi : handled.media.rtpInstances.lookup rtp = some i := by
      rw [heap, AList.lookup_insert]
    rw [silent, instanceMoves_filled (c := c.rtsp) slots, instanceMoves_overTcp hslot hi htcp]
    refine ⟨trivial, .kept ?_ (by funext t; simp only [RtspConnection.rtcpSocket, rtcps]) rfl⟩
    rw [RtspConnection.rtpSocket_filled (c := c.rtsp) hlive fresh slots heap,
      RtpInstance.ownSocket, htcp]
    exact Function.update_eq_self_iff.mpr (RtspConnection.rtpSocket_free rtpFree).symm
  | overUdp track rtp i rtcp rtpFree rtcpFree fresh localPort destIp destPort own slots rtcps heap
      sessions session rtcpPort effects pair opened =>
    have hslot : handled.conn.rtpInstances track = some rtp := by
      rw [slots, Function.update_self]
    have hi : handled.media.rtpInstances.lookup rtp = some i := by
      rw [heap, AList.lookup_insert]
    have hrtcp : handled.conn.rtcpInstances track = some rtcp := by
      rw [rtcps, Function.update_self]
    rw [opened, instanceMoves_filled (c := c.rtsp) slots,
      instanceMoves_overUdp (c := c.rtsp) rtpFree hslot hi own hrtcp] at hfresh ⊢
    have hudp := EventLoop.openUdpPair_moves (.setup id) w.udp 10 0 (d := d)
    rw [pair] at hudp
    have hpair := hudp (Table.each_append.mp hfresh).1
    obtain ⟨hrtpClosed, hrtcpClosed, hne, hafter⟩ := hpair.opened rfl
    obtain ⟨hclean, htable⟩ := taken_over hpair.clean hne hafter
    refine ⟨hclean, .opened track i.sockFd rtcp.localSockfd
      (RtspConnection.rtpSocket_free rtpFree) ?_ ?_ ?_ hrtpClosed hrtcpClosed hne htable⟩
    · rw [RtspConnection.rtcpSocket]
      exact congrArg (Option.map _) rtcpFree
    · rw [RtspConnection.rtpSocket_filled (c := c.rtsp) hlive fresh slots heap,
        RtpInstance.ownSocket, own]
    · funext t
      by_cases ht : t = track
      · subst ht
        rw [Function.update_self, RtspConnection.rtcpSocket, hrtcp]
        rfl
      · rw [Function.update_of_ne ht, RtspConnection.rtcpSocket, rtcps, Function.update_of_ne ht]
        rfl

theorem SocketChange.settled {w : World} {m : Media} {c : RtspConnection} {r : Handled}
    (h : SocketChange w m c r) (hc : c.Settled m) (hlive : c.Live m)
    (hfd : r.conn.sockFd = c.sockFd) : r.conn.Settled r.media ∧ m.Grows r.media := by
  cases h with
  | kept slots rtcps heap sessions session silent =>
    refine ⟨⟨fun {t rtp} hslot => ?_, fun {t rtp i'} hslot hi' hown => ?_⟩, sessions, fun {a} _ => heap a⟩
    · rw [slots] at hslot
      exact session (hc.session hslot)
    · rw [slots] at hslot
      have hheap := heap rtp
      rw [hi'] at hheap
      obtain ⟨i, hi, hwire⟩ := Option.map_eq_some_iff.mp hheap.symm
      have hshared := hc.shared hslot hi ((RtpInstance.ownSocket_wire hwire).trans hown)
      rw [hfd]
      exact (congrArg Prod.snd hwire).symm.trans hshared
  | overTcp track rtp i rtpFree rtcpFree fresh channel shared slots rtcps heap sessions session =>
    exact ⟨hc.filled hlive fresh hfd slots heap session fun _ => congrArg Prod.snd shared,
      Media.grows_insert fresh sessions heap⟩
  | overUdp track rtp i rtcp rtpFree rtcpFree fresh localPort destIp destPort own slots rtcps heap
      sessions session =>
    refine ⟨hc.filled hlive fresh hfd slots heap session fun hnone => ?_,
      Media.grows_insert fresh sessions heap⟩
    rw [RtpInstance.ownSocket, own] at hnone
    cases hnone

/-! ## All connections -/

namespace Server

def rtpSocket (s : Server) (sockfd : Nat) : TrackId → Option Nat :=
  match s.connections.lookup sockfd with
  | none => fun _ => none
  | some conn => conn.rtsp.rtpSocket s.media

def rtcpSocket (s : Server) (sockfd : Nat) : TrackId → Option Nat :=
  match s.connections.lookup sockfd with
  | none => fun _ => none
  | some conn => conn.rtsp.rtcpSocket

structure Settled (s : Server) : Prop where
  owned : Ownership s.slotOf s.media
  registered : Registered s
  each : ∀ {fd conn}, s.connections.lookup fd = some conn → conn.rtsp.Settled s.media

theorem settled_empty : Settled {} := ⟨ownership_empty, registered_empty, fun h => by cases h⟩

theorem Settled.live {s : Server} (h : s.Settled) {fd : Nat} {conn : Connection}
    (hconn : s.connections.lookup fd = some conn) : conn.rtsp.Live s.media := fun {t} _ hslot =>
  h.owned.slotsLive ((congrFun (slotOf_of_lookup hconn) t).trans hslot)

/-- Only the shared state changes, and it keeps all connections. -/
theorem Settled.media {s : Server} (h : s.Settled) {m : Media} (hown : Ownership s.slotOf m)
    (hgrows : s.media.Grows m) :
    Settled { s with media := m } ∧ rtpSocket { s with media := m } = s.rtpSocket := by
  refine ⟨⟨hown, h.registered.mono id, fun hconn => ?_⟩, ?_⟩
  · exact (h.each hconn).kept (RtspConnection.Live.kept (h.live hconn) hgrows)
  · funext fd
    unfold rtpSocket
    dsimp only
    split
    · rfl
    · exact RtspConnection.rtpSocket_kept (RtspConnection.Live.kept (h.live ‹_›) hgrows)

/-- One connection is put in, or put back, and the others are kept. -/
theorem Settled.insert {s : Server} (h : s.Settled) {m : Media} {sockfd : Nat} {conn : Connection}
    {list : List Nat}
    (hown : Ownership (slotOf ⟨m, s.connections.insert sockfd conn, list⟩) m)
    (hfd : conn.rtsp.sockFd = sockfd) (hout : conn.rtsp.outputBuffer = [])
    (hconn : conn.rtsp.Settled m) (hgrows : s.media.Grows m) :
    Settled ⟨m, s.connections.insert sockfd conn, list⟩ := by
  refine ⟨hown, h.registered.insert hfd hout, fun {fd other} hother => ?_⟩
  by_cases heq : fd = sockfd
  · subst heq
    rw [AList.lookup_insert] at hother
    cases hother
    exact hconn
  · rw [AList.lookup_insert_ne heq] at hother
    exact (h.each hother).kept (RtspConnection.Live.kept (h.live hother) hgrows)

theorem Settled.rtpSocket_insert {s : Server} (h : s.Settled) {m : Media}
    (hgrows : s.media.Grows m) (sockfd : Nat) (conn : Connection) (list : List Nat) :
    rtpSocket ⟨m, s.connections.insert sockfd conn, list⟩ =
      Function.update s.rtpSocket sockfd (conn.rtsp.rtpSocket m) := by
  funext fd
  unfold rtpSocket
  by_cases heq : fd = sockfd
  · subst heq
    rw [Function.update_self, AList.lookup_insert]
  · rw [Function.update_of_ne heq, AList.lookup_insert_ne heq]
    dsimp only
    split
    · rfl
    · exact RtspConnection.rtpSocket_kept (RtspConnection.Live.kept (h.live ‹_›) hgrows)

theorem rtcpSocket_insert (s : Server) (m : Media) (sockfd : Nat) (conn : Connection)
    (list : List Nat) :
    rtcpSocket ⟨m, s.connections.insert sockfd conn, list⟩ =
      Function.update s.rtcpSocket sockfd conn.rtsp.rtcpSocket := by
  funext fd
  unfold rtcpSocket
  by_cases heq : fd = sockfd
  · subst heq
    rw [Function.update_self, AList.lookup_insert]
  · rw [Function.update_of_ne heq, AList.lookup_insert_ne heq]

theorem rtpSocket_of_lookup {s : Server} {fd : Nat} {conn : Connection}
    (h : s.connections.lookup fd = some conn) : s.rtpSocket fd = conn.rtsp.rtpSocket s.media := by
  rw [rtpSocket, h]

theorem rtcpSocket_of_lookup {s : Server} {fd : Nat} {conn : Connection}
    (h : s.connections.lookup fd = some conn) : s.rtcpSocket fd = conn.rtsp.rtcpSocket := by
  rw [rtcpSocket, h]

/-! ## The calls of `main` -/

theorem sessionCall_settled {s s' : Server} {call : SessionCall} {effects : List Effect}
    (h : s.Settled) (hstep : s.step call.act = .ok (s', effects)) :
    s'.Settled ∧ s'.rtpSocket = s.rtpSocket ∧ s'.rtcpSocket = s.rtcpSocket ∧
      s'.connections = s.connections ∧ s'.disconnectedList = s.disconnectedList ∧
      ∀ e ∈ effects, ∃ fd, e = .opened fd := by
  have hown := step_ownership h.owned hstep
  cases call with
  | addMediaSession name =>
    cases hstep
    have hgrows : s.media.Grows (s.media.addMediaSession name) := by
      unfold Media.addMediaSession
      split
      · exact .refl _
      · exact Media.grows_setSession
    obtain ⟨hsettled, hrtp⟩ := h.media hown hgrows
    exact ⟨hsettled, hrtp, rfl, rfl, rfl, fun e he => by cases he⟩
  | addRtpSink name track sink =>
    cases hstep
    have hgrows : s.media.Grows (s.media.addRtpSink name track sink) := by
      unfold Media.addRtpSink
      split
      · exact .refl _
      · exact Media.grows_setSession
    obtain ⟨hsettled, hrtp⟩ := h.media hown hgrows
    exact ⟨hsettled, hrtp, rfl, rfl, rfl, fun e he => by cases he⟩
  | startMulticast name w =>
    rw [SessionCall.act, step] at hstep
    split at hstep
    · cases hstep
    rename_i media _ hstart
    cases hstep
    have houtcome := Media.startMulticast_outcome hstart
    have hopened := houtcome.all_opened
    have hgrows : s.media.Grows media := by
      refine ⟨fun {other} hmem => ?_, fun ha => congrArg _ (houtcome.lookup ha)⟩
      cases houtcome with
      | unchanged => exact hmem
      | started => exact Media.mem_setSession _ _ _ _ hmem
    obtain ⟨hsettled, hrtp⟩ := h.media hown hgrows
    exact ⟨hsettled, hrtp, rfl, rfl, rfl, hopened⟩

/-! ## The callbacks -/

theorem accept_settled {s : Server} (h : s.Settled) {connfd : Nat} (peer : Accepted)
    (hnew : connfd ∉ s.connections) : (s.handleNewConnection connfd peer).Settled := by
  have hstep : s.step (.accept connfd peer) =
      .ok (s.handleNewConnection connfd peer, [.connected connfd]) := if_neg hnew
  have hown := step_ownership h.owned hstep
  refine h.insert hown rfl rfl ⟨fun hslot => ?_, fun hslot => ?_⟩ (.refl _)
  · cases hslot
  · cases hslot

theorem write_settled {s : Server} (h : s.Settled) {sockfd : Nat} {conn : Connection}
    (hconn : s.connections.lookup sockfd = some conn) :
    Settled { s with connections := (s.connections.insert sockfd
      { conn with rtsp := { conn.rtsp with outputBuffer := [] } }) } := by
  have hfd : conn.rtsp.sockFd = sockfd := h.registered.sockFd hconn
  refine h.insert ?_ hfd rfl ⟨(h.each hconn).session, (h.each hconn).shared⟩
    (.refl _)
  rw [slotOf_insert_same hconn]
  · exact h.owned
  · rfl

theorem read_settled {s : Server} (h : s.Settled) {sockfd : Nat} {conn : Connection} {w : World}
    {bytes : Octets} {r : ReadResult} (hconn : s.connections.lookup sockfd = some conn)
    (hread : conn.handleRead w s.media bytes = .ok r) :
    Settled { s with media := r.media, connections := s.connections.insert sockfd r.conn } ∧
      s.media.Grows r.media := by
  have houtcome := Connection.handleRead_outcome hread
  obtain ⟨request, handled, hchange, hmedia, hrtsp, hfd, -⟩ := Connection.handleRead_sockets hread
  obtain ⟨hsettled, hgrows⟩ := hchange.settled
    ⟨(h.each hconn).session, (h.each hconn).shared⟩ (h.live hconn) hfd
  rw [← hmedia, ← hrtsp] at hsettled
  rw [← hmedia] at hgrows
  have hown : Ownership _ _ := h.owned.change (handleRead_change hconn houtcome)
  exact ⟨h.insert hown (houtcome.sockFd.trans (h.registered.sockFd hconn))
    (houtcome.outputBuffer (h.registered.outputBuffer hconn)) hsettled hgrows, hgrows⟩

/-! ## Destruction -/

theorem destroyTrack_ok (c : RtspConnection) (m : Media) (track : TrackId)
    (hlive : ∀ {rtp}, c.rtpInstances track = some rtp → rtp ∈ m.rtpInstances)
    (hsession : ∀ {rtp}, c.rtpInstances track = some rtp → c.Remembers m) :
    ∃ m' effects, c.destroyTrack m track = .ok (m', effects) := by
  unfold RtspConnection.destroyTrack
  dsimp only
  cases hslot : c.rtpInstances track with
  | none => exact ⟨_, _, rfl⟩
  | some rtp =>
    obtain ⟨name, hname, hmem⟩ := hsession hslot
    obtain ⟨session, hfound⟩ := Option.isSome_iff_exists.mp (AList.lookup_isSome.mpr hmem)
    obtain ⟨i, hi⟩ := Option.isSome_iff_exists.mp (AList.lookup_isSome.mpr (hlive hslot))
    rw [hname]
    dsimp only
    rw [hfound]
    dsimp only
    have hdelete : (m.setSession name (session.removeRtpInstance rtp)).rtpInstances.lookup rtp =
      some i := hi
    rw [Media.deleteRtpInstance, hdelete]
    exact ⟨_, _, rfl⟩

theorem trackDestroyed_sessions {m m' : Media} {c : RtspConnection} {track : TrackId}
    (h : TrackDestroyed m c track m') {name : Octets} (hmem : name ∈ m.sessions) :
    name ∈ m'.sessions := by
  cases h with
  | empty slot same =>
    rw [same]
    exact hmem
  | deleted rtp name' session slot described registered media =>
    rw [media]
    exact Media.mem_setSession m _ _ _ hmem

theorem lookup_erase_some {connections : AList fun _ : Nat => Connection} {sockfd fd : Nat}
    {conn : Connection} (h : (connections.erase sockfd).lookup fd = some conn) :
    fd ≠ sockfd ∧ connections.lookup fd = some conn := by
  by_cases heq : fd = sockfd
  · subst heq
    rw [AList.lookup_erase] at h
    cases h
  · exact ⟨heq, (AList.lookup_erase_ne heq).symm.trans h⟩

/-- `~RtspConnection` of a registered connection, and what is left. -/
theorem destroy_settled {s : Server} (h : s.Settled) {sockfd : Nat} {conn : Connection}
    (hconn : s.connections.lookup sockfd = some conn) :
    ∃ m effects, conn.rtsp.destroy s.media = .ok (m, effects) ∧
      Settled { s with media := m, connections := s.connections.erase sockfd } ∧
      rtpSocket { s with media := m, connections := s.connections.erase sockfd } =
        Function.update s.rtpSocket sockfd fun _ => none := by
  have hlive : conn.rtsp.Live s.media := h.live hconn
  have hslots := slotOf_of_lookup hconn
  obtain ⟨m1, effects0, hdestroy0⟩ := destroyTrack_ok conn.rtsp s.media 0 hlive (h.each hconn).session
  have h0 := destroyTrack_destroyed hdestroy0
  have hown0 := h0.ownership h.owned (congrFun hslots 0)
  have hother : ∀ {rtp}, conn.rtsp.rtpInstances 1 = some rtp →
      m1.rtpInstances.lookup rtp = s.media.rtpInstances.lookup rtp := by
    intro rtp hslot
    refine h0.lookup fun hzero => ?_
    have hsame := h.owned.slotsApart ((congrFun hslots 0).trans hzero)
      ((congrFun hslots 1).trans hslot)
    exact absurd hsame.2 (by decide)
  obtain ⟨m2, effects1, hdestroy1⟩ := destroyTrack_ok conn.rtsp m1 1
    (fun hslot => by
      rw [← AList.lookup_isSome, hother hslot, AList.lookup_isSome]
      exact hlive hslot)
    (fun hslot => by
      obtain ⟨name, hname, hmem⟩ := (h.each hconn).session hslot
      exact ⟨name, hname, trackDestroyed_sessions h0 hmem⟩)
  have h1 := destroyTrack_destroyed hdestroy1
  have hown1 := h1.ownership hown0 ((clearSlot_other _ sockfd).trans (congrFun hslots 1))
  rw [clearSlot_both s m2 s.disconnectedList] at hown1
  -- the other connections do not notice
  have hkept : ∀ {fd other}, fd ≠ sockfd → s.connections.lookup fd = some other →
      other.rtsp.Kept s.media m2 := by
    intro fd other hne hfound
    refine ⟨fun hmem => trackDestroyed_sessions h1 (trackDestroyed_sessions h0 hmem),
      fun {t rtp} hslot => ?_⟩
    have hapart : ∀ track, conn.rtsp.rtpInstances track ≠ some rtp := by
      intro track hmine
      exact hne (h.owned.slotsApart ((congrFun (slotOf_of_lookup hfound) t).trans hslot)
        ((congrFun hslots track).trans hmine)).1
    rw [h1.lookup (hapart 1), h0.lookup (hapart 0)]
  refine ⟨m2, _, by rw [RtspConnection.destroy, hdestroy0]; dsimp only; rw [hdestroy1],
    ⟨hown1, h.registered.mono fun {fd other} hfound => ?_, fun {fd other} hfound => ?_⟩, ?_⟩
  · exact (lookup_erase_some hfound).2
  · obtain ⟨hne, hold⟩ := lookup_erase_some hfound
    exact (h.each hold).kept (hkept hne hold)
  · funext fd
    unfold rtpSocket
    by_cases hfd : fd = sockfd
    · subst hfd
      rw [Function.update_self]
      dsimp only
      rw [AList.lookup_erase]
    · rw [Function.update_of_ne hfd]
      dsimp only
      rw [AList.lookup_erase_ne hfd]
      split
      · rfl
      · exact RtspConnection.rtpSocket_kept (hkept hfd ‹_›)

theorem rtcpSocket_erase (s : Server) (m : Media) (sockfd : Nat) :
    rtcpSocket { s with media := m, connections := s.connections.erase sockfd } =
      Function.update s.rtcpSocket sockfd fun _ => none := by
  funext fd
  unfold rtcpSocket
  by_cases hfd : fd = sockfd
  · subst hfd
    rw [Function.update_self]
    dsimp only
    rw [AList.lookup_erase]
  · rw [Function.update_of_ne hfd]
    dsimp only
    rw [AList.lookup_erase_ne hfd]

end Server
end MyRtspServer.Net
