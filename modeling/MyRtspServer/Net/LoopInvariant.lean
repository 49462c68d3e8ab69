import MyRtspServer.Net.ServerSockets

/-!
# What ties the tables of the loop together

`m_connections_`, the poller's map and the kernel's table agree on the connections
in every state: each client descriptor is open, belongs to one living connection,
and has its callback registered; so does each socket of a track. One lemma a
callback, and one for the destruction of a connection.
-/
namespace MyRtspServer.Net

open Library Library.Octets Library.Transition Library.Descriptors

namespace Kernel

theorem moves_descriptors (k : Kernel) (ms : List (Move Owner)) :
    (k.moves ms).descriptors = k.descriptors.after ms := by
  induction ms generalizing k with
  | nil => rfl
  | cons m ms ih => exact ih (k.move m)

/-- Moves never make `epoll_wait` watch anything. -/
theorem move_interest {k : Kernel} {m : Move Owner} {fd : Nat}
    (h : (k.move m).interest fd = true) : k.interest fd = true := by
  cases m with
  | acquire => exact h
  | transfer => exact h
  | close owner f =>
    change Function.update k.interest f false fd = true at h
    by_cases hf : fd = f
    · subst hf
      rw [Function.update_self] at h
      cases h
    · rwa [Function.update_of_ne hf] at h

theorem moves_interest {k : Kernel} {ms : List (Move Owner)} {fd : Nat}
    (h : (k.moves ms).interest fd = true) : k.interest fd = true := by
  induction ms generalizing k with
  | nil => exact h
  | cons m ms ih => exact move_interest (ih h)

end Kernel

/-! ## Sockets of the tracks, by owner -/

/-- Connection `id` has the socket for the track. -/
def HasSocket (ids : Nat → Option Nat) (socket : Nat → TrackId → Option Nat) (id : Nat)
    (track : TrackId) (fd : Nat) : Prop :=
  ∃ sockfd, ids sockfd = some id ∧ socket sockfd track = some fd

section HasSocket

variable {ids : Nat → Option Nat} {socket : Nat → TrackId → Option Nat} {id sockfd fd : Nat}
  {track : TrackId}

/-- A new connection has none. -/
theorem hasSocket_accept (hnew : ids sockfd = none) (n : Nat) :
    HasSocket (Function.update ids sockfd (some n)) (Function.update socket sockfd fun _ => none)
      id track fd ↔ HasSocket ids socket id track fd := by
  constructor
  · rintro ⟨other, hid, hsocket⟩
    by_cases hother : other = sockfd
    · subst hother
      rw [Function.update_self] at hsocket
      cases hsocket
    · rw [Function.update_of_ne hother] at hid hsocket
      exact ⟨other, hid, hsocket⟩
  · rintro ⟨other, hid, hsocket⟩
    have hother : other ≠ sockfd := fun heq => by
      rw [heq, hnew] at hid
      cases hid
    exact ⟨other, by rwa [Function.update_of_ne hother], by rwa [Function.update_of_ne hother]⟩

/-- A destroyed connection has none. -/
theorem hasSocket_erase (hapart : ∀ {f g i}, ids f = some i → ids g = some i → f = g) {gone : Nat}
    (hgone : ids sockfd = some gone) :
    HasSocket (Function.update ids sockfd none) (Function.update socket sockfd fun _ => none)
      id track fd ↔ HasSocket ids socket id track fd ∧ id ≠ gone := by
  constructor
  · rintro ⟨other, hid, hsocket⟩
    by_cases hother : other = sockfd
    · subst hother
      rw [Function.update_self] at hid
      cases hid
    · rw [Function.update_of_ne hother] at hid hsocket
      refine ⟨⟨other, hid, hsocket⟩, ?_⟩
      rintro rfl
      exact hother (hapart hid hgone)
  · rintro ⟨⟨other, hid, hsocket⟩, hne⟩
    have hother : other ≠ sockfd := fun heq => by
      rw [heq, hgone] at hid
      exact hne (Option.some.inj hid).symm
    exact ⟨other, by rwa [Function.update_of_ne hother], by rwa [Function.update_of_ne hother]⟩

/-- A free slot of a connection is filled. -/
theorem hasSocket_fill {mine new : Nat} (hmine : ids sockfd = some mine) {filled : TrackId}
    (hfree : socket sockfd filled = none) :
    HasSocket ids (Function.update socket sockfd
      (Function.update (socket sockfd) filled (some new))) id track fd ↔
      HasSocket ids socket id track fd ∨ ((id = mine ∧ track = filled) ∧ fd = new) := by
  constructor
  · rintro ⟨other, hid, hsocket⟩
    by_cases hother : other = sockfd
    · subst hother
      rw [Function.update_self] at hsocket
      by_cases htrack : track = filled
      · subst htrack
        rw [Function.update_self] at hsocket
        rw [hmine] at hid
        exact Or.inr ⟨⟨(Option.some.inj hid).symm, rfl⟩, (Option.some.inj hsocket).symm⟩
      · rw [Function.update_of_ne htrack] at hsocket
        exact Or.inl ⟨other, hid, hsocket⟩
    · rw [Function.update_of_ne hother] at hsocket
      exact Or.inl ⟨other, hid, hsocket⟩
  · rintro (⟨other, hid, hsocket⟩ | ⟨⟨rfl, rfl⟩, rfl⟩)
    · refine ⟨other, hid, ?_⟩
      by_cases hother : other = sockfd
      · subst hother
        have htrack : track ≠ filled := fun heq => by
          rw [heq, hfree] at hsocket
          cases hsocket
        rw [Function.update_self, Function.update_of_ne htrack]
        exact hsocket
      · rwa [Function.update_of_ne hother]
    · exact ⟨sockfd, hmine, by rw [Function.update_self, Function.update_self]⟩

end HasSocket

namespace EventLoop

/-- What the owners have open. -/
def Held (l : EventLoop) : Owner → Nat → Prop
  | .client id, fd => l.ids fd = some id
  | .rtp id track, fd => HasSocket l.ids l.server.rtpSocket id track fd
  | .rtcp id track, fd => HasSocket l.ids l.server.rtcpSocket id track fd
  | .system, fd => ∃ callback, l.eventMap fd = some callback ∧ ∀ id, callback ≠ .connection id
  | .setup _, _ | .session _, _ => False

/-- Everybody but the sessions. -/
def Private (o : Owner) : Prop := ∀ name, o ≠ .session name

structure Consistent (l : EventLoop) : Prop where
  settled : l.server.Settled
  known : ∀ fd, fd ∈ l.server.connections ↔ (l.ids fd).isSome = true
  events : ∀ fd id, l.eventMap fd = some (.connection id) ↔ l.ids fd = some id
  below : ∀ {fd id}, l.ids fd = some id → id < l.nextId
  apart : ∀ {fd fd' id}, l.ids fd = some id → l.ids fd' = some id → fd = fd'
  watched : ∀ {fd}, l.kernel.interest fd = true → (l.eventMap fd).isSome = true
  held : l.kernel.descriptors.Matches Private l.Held

namespace Consistent

section Open

variable {l : EventLoop} {id fd : Nat} {track : TrackId}

theorem client_open (h : l.Consistent) :
    l.kernel.descriptors fd = some (.client id) ↔ l.ids fd = some id :=
  h.held _ _ fun _ => Owner.noConfusion

theorem rtp_open (h : l.Consistent) :
    l.kernel.descriptors fd = some (.rtp id track) ↔
      HasSocket l.ids l.server.rtpSocket id track fd :=
  h.held _ _ fun _ => Owner.noConfusion

theorem rtcp_open (h : l.Consistent) :
    l.kernel.descriptors fd = some (.rtcp id track) ↔
      HasSocket l.ids l.server.rtcpSocket id track fd :=
  h.held _ _ fun _ => Owner.noConfusion

theorem system_open (h : l.Consistent) :
    l.kernel.descriptors fd = some .system ↔
      ∃ callback, l.eventMap fd = some callback ∧ ∀ id, callback ≠ .connection id :=
  h.held _ _ fun _ => Owner.noConfusion

theorem setup_closed (h : l.Consistent) : l.kernel.descriptors fd ≠ some (.setup id) := fun hopen =>
  (h.held _ _ fun _ => Owner.noConfusion).mp hopen

end Open

/-- Whatever has a callback is open. -/
theorem registered_open {l : EventLoop} (h : l.Consistent) {fd : Nat}
    (hclosed : l.kernel.descriptors fd = none) : l.eventMap fd = none ∧ l.ids fd = none := by
  have hids : l.ids fd = none := by
    by_contra hne
    obtain ⟨id, hid⟩ := Option.ne_none_iff_exists'.mp hne
    have hopen := h.client_open.mpr hid
    rw [hclosed] at hopen
    cases hopen
  refine ⟨?_, hids⟩
  by_contra hne
  obtain ⟨callback, hcallback⟩ := Option.ne_none_iff_exists'.mp hne
  by_cases hconn : ∃ id, callback = .connection id
  · obtain ⟨id, rfl⟩ := hconn
    rw [(h.events fd id).mp hcallback] at hids
    cases hids
  · have hopen := h.system_open.mpr ⟨callback, hcallback, fun id heq => hconn ⟨id, heq⟩⟩
    rw [hclosed] at hopen
    cases hopen

/-- Only the server changes, and all connections keep their sockets. -/
theorem withServer {l : EventLoop} (h : l.Consistent) {s : Server} (hs : s.Settled)
    (hknown : ∀ fd, fd ∈ s.connections ↔ fd ∈ l.server.connections)
    (hrtp : s.rtpSocket = l.server.rtpSocket) (hrtcp : s.rtcpSocket = l.server.rtcpSocket) :
    Consistent { l with server := s } where
  settled := hs
  known fd := (hknown fd).trans (h.known fd)
  events := h.events
  below := h.below
  apart := h.apart
  watched := h.watched
  held := h.held.same fun o f _ => by
    cases o with
    | rtp id track =>
      change HasSocket _ s.rtpSocket _ _ _ ↔ _
      rw [hrtp]
      rfl
    | rtcp id track =>
      change HasSocket _ s.rtcpSocket _ _ _ ↔ _
      rw [hrtcp]
      rfl
    | _ => rfl

/-- Somebody else opens descriptors. -/
theorem opened {l : EventLoop} (h : l.Consistent) {ms : List (Move Owner)} {name : Octets}
    (hfresh : l.kernel.descriptors.Fresh ms)
    (hms : ∀ m ∈ ms, ∃ fd, m = .acquire (.session name) fd) :
    Consistent { l with kernel := l.kernel.moves ms } where
  settled := h.settled
  known := h.known
  events := h.events
  below := h.below
  apart := h.apart
  watched hi := h.watched (Kernel.moves_interest hi)
  held := by
    change (l.kernel.moves ms).descriptors.Matches Private l.Held
    rw [Kernel.moves_descriptors]
    refine h.held.after_foreign hfresh fun m hm => ?_
    obtain ⟨fd, rfl⟩ := hms m hm
    exact ⟨_, fd, rfl, fun hprivate => hprivate name rfl⟩

theorem disconnect {l : EventLoop} (h : l.Consistent) (sockfd : Nat) :
    (l.handleDisconnection sockfd).Consistent where
  settled := ⟨h.settled.owned, h.settled.registered.mono id, h.settled.each⟩
  known := h.known
  events := h.events
  below := h.below
  apart := h.apart
  watched := h.watched
  held := h.held

theorem write {l : EventLoop} (h : l.Consistent) (id sockfd : Nat) :
    (l.handleWrite id sockfd).1.Consistent := by
  unfold handleWrite
  cases hconn : l.server.connections.lookup sockfd with
  | none => exact h
  | some conn =>
    have hmem : sockfd ∈ l.server.connections := by
      rw [← AList.lookup_isSome, hconn]
      rfl
    refine h.withServer (Server.write_settled h.settled hconn) (fun fd => ?_) ?_ ?_
    · rw [AList.mem_insert]
      exact ⟨fun hor => hor.elim (fun heq => heq ▸ hmem) fun hfd => hfd, Or.inr⟩
    · rw [h.settled.rtpSocket_insert (.refl _), Function.update_eq_self_iff,
        Server.rtpSocket_of_lookup hconn]
      rfl
    · rw [Server.rtcpSocket_insert, Function.update_eq_self_iff, Server.rtcpSocket_of_lookup hconn]
      rfl

/-! ## A new connection -/

/-- The loop with a new connection. -/
def accepted (l : EventLoop) (connfd : Nat) (peer : Accepted) : EventLoop :=
  { l with
    server := l.server.handleNewConnection connfd peer
    ids := Function.update l.ids connfd (some l.nextId)
    nextId := l.nextId + 1
    eventMap := Function.update l.eventMap connfd (some (.connection l.nextId))
    kernel := (l.kernel.move (.acquire (.client l.nextId) connfd)).epollAdd connfd }

theorem handleNewConnection_eq {l : EventLoop} (h : l.Consistent) {connfd : Nat}
    (hclosed : l.kernel.descriptors connfd = none) (peer : Accepted) :
    l.handleNewConnection connfd peer = (accepted l connfd peer,
      [.descriptor (.acquire (.client l.nextId) connfd) false, .created l.nextId]) := by
  obtain ⟨hevent, hids⟩ := h.registered_open hclosed
  unfold handleNewConnection updateIOEvent shown
  simp only [hevent, hids, List.map_cons, List.map_nil, Move.fd, Option.isSome_none]
  rfl

theorem ids_accepted {l : EventLoop} {connfd : Nat} {peer : Accepted} {fd id : Nat}
    (hid : (accepted l connfd peer).ids fd = some id) :
    (fd = connfd ∧ id = l.nextId) ∨ (fd ≠ connfd ∧ l.ids fd = some id) := by
  change Function.update l.ids connfd (some l.nextId) fd = some id at hid
  by_cases hfd : fd = connfd
  · subst hfd
    rw [Function.update_self] at hid
    exact Or.inl ⟨rfl, (Option.some.inj hid).symm⟩
  · rw [Function.update_of_ne hfd] at hid
    exact Or.inr ⟨hfd, hid⟩

/-- The new connection has its client socket, and nobody else has anything new. -/
theorem held_accepted {l : EventLoop} (h : l.Consistent) {connfd : Nat}
    (hclosed : l.kernel.descriptors connfd = none) (peer : Accepted) (o : Owner) (f : Nat) :
    (accepted l connfd peer).Held o f ↔ l.Held o f ∨ (o = .client l.nextId ∧ f = connfd) := by
  obtain ⟨hevent, hids⟩ := h.registered_open hclosed
  cases o with
  | client id =>
    change Function.update l.ids _ _ f = _ ↔ l.ids f = some id ∨ _
    by_cases hf : f = connfd
    · subst hf
      simp [hids, eq_comm]
    · simp [hf]
  | rtp id track =>
    change HasSocket _ (Server.rtpSocket ⟨_, _, _⟩) _ _ _ ↔ _
    rw [h.settled.rtpSocket_insert (.refl _)]
    exact (hasSocket_accept hids l.nextId).trans ⟨Or.inl, fun hor => hor.resolve_right (by simp)⟩
  | rtcp id track =>
    change HasSocket _ (Server.rtcpSocket ⟨_, _, _⟩) _ _ _ ↔ _
    rw [Server.rtcpSocket_insert]
    exact (hasSocket_accept hids l.nextId).trans ⟨Or.inl, fun hor => hor.resolve_right (by simp)⟩
  | system =>
    change (∃ callback, Function.update l.eventMap _ _ f = some callback ∧ _) ↔
      (∃ callback, l.eventMap f = some callback ∧ _) ∨ _
    by_cases hf : f = connfd
    · subst hf
      simp [hevent]
    · simp [hf]
  | setup id => simp [Held]
  | session name => simp [Held]

theorem accept {l : EventLoop} (h : l.Consistent) {connfd : Nat}
    (hclosed : l.kernel.descriptors connfd = none) (peer : Accepted) :
    (accepted l connfd peer).Consistent := by
  obtain ⟨hevent, hids⟩ := h.registered_open hclosed
  have hnew : connfd ∉ l.server.connections := by
    rw [h.known, hids]
    exact Bool.false_ne_true
  have hbelow : ∀ {fd}, l.ids fd ≠ some l.nextId := fun hid => Nat.lt_irrefl _ (h.below hid)
  constructor
  · exact Server.accept_settled h.settled peer hnew
  · intro fd
    change fd ∈ l.server.connections.insert connfd _ ↔
      (Function.update l.ids connfd (some l.nextId) fd).isSome = true
    rw [AList.mem_insert, h.known]
    by_cases hfd : fd = connfd
    · simp [hfd]
    · simp [hfd]
  · intro fd id
    change Function.update l.eventMap _ _ fd = _ ↔ Function.update l.ids _ _ fd = _
    by_cases hfd : fd = connfd
    · simp [hfd]
    · rw [Function.update_of_ne hfd, Function.update_of_ne hfd]
      exact h.events fd id
  · intro fd id hid
    change id < l.nextId + 1
    rcases ids_accepted hid with ⟨-, rfl⟩ | ⟨-, hold⟩
    · omega
    · have := h.below hold
      omega
  · intro fd fd' id hid hid'
    rcases ids_accepted hid with ⟨rfl, rfl⟩ | ⟨-, hold⟩
    · rcases ids_accepted hid' with ⟨rfl, -⟩ | ⟨-, hold'⟩
      · rfl
      · exact absurd hold' hbelow
    · rcases ids_accepted hid' with ⟨-, rfl⟩ | ⟨-, hold'⟩
      · exact absurd hold hbelow
      · exact h.apart hold hold'
  · intro fd hi
    change Function.update l.kernel.interest connfd true fd = true at hi
    change (Function.update l.eventMap _ _ fd).isSome = true
    by_cases hfd : fd = connfd
    · simp [hfd]
    · rw [Function.update_of_ne hfd] at hi ⊢
      exact h.watched hi
  · exact h.held.acquire hclosed fun o f _ => h.held_accepted hclosed peer o f

/-! ## A read -/

theorem read {l : EventLoop} (h : l.Consistent) {id sockfd : Nat} {conn : Connection} {w : World}
    {bytes : Octets} {r : ReadResult} (hid : l.ids sockfd = some id)
    (hconn : l.server.connections.lookup sockfd = some conn)
    (hread : conn.handleRead w l.server.media bytes = .ok r)
    (hfresh : l.kernel.descriptors.Fresh (readMoves id conn.rtsp r)) :
    l.kernel.descriptors.Clean (readMoves id conn.rtsp r) ∧
      Consistent { l with
        server := ⟨r.media, l.server.connections.insert sockfd r.conn, l.server.disconnectedList⟩
        kernel := l.kernel.moves (readMoves id conn.rtsp r) } := by
  obtain ⟨hsettled, hgrows⟩ := Server.read_settled h.settled hconn hread
  obtain ⟨hclean, hsockets⟩ :=
    Connection.readMoves_sockets hread (h.settled.live hconn) id hfresh
  have hmem : sockfd ∈ l.server.connections := by
    rw [← AList.lookup_isSome, hconn]
    rfl
  refine ⟨hclean, hsettled, fun fd => ?_, h.events, h.below, h.apart,
    fun hi => h.watched (Kernel.moves_interest hi), ?_⟩
  · change fd ∈ l.server.connections.insert sockfd r.conn ↔ _
    rw [← h.known, AList.mem_insert]
    exact ⟨fun hor => hor.elim (fun heq => heq ▸ hmem) fun hfd => hfd, Or.inr⟩
  · change (l.kernel.moves _).descriptors.Matches Private _
    rw [Kernel.moves_descriptors]
    have hrtps := h.settled.rtpSocket_insert hgrows sockfd r.conn l.server.disconnectedList
    have hrtcps := l.server.rtcpSocket_insert r.media sockfd r.conn l.server.disconnectedList
    have hrtp := Server.rtpSocket_of_lookup hconn
    have hrtcp := Server.rtcpSocket_of_lookup hconn
    cases hsockets with
    | kept rtps rtcps table =>
      rw [rtps, ← hrtp, Function.update_eq_self] at hrtps
      rw [rtcps, ← hrtcp, Function.update_eq_self] at hrtcps
      rw [table]
      refine h.held.same fun o f _ => ?_
      cases o with
      | rtp id' track =>
        change HasSocket _ (Server.rtpSocket ⟨_, _, _⟩) _ _ _ ↔ _
        rw [hrtps]
        rfl
      | rtcp id' track =>
        change HasSocket _ (Server.rtcpSocket ⟨_, _, _⟩) _ _ _ ↔ _
        rw [hrtcps]
        rfl
      | _ => rfl
    | opened track rtpSockfd rtcpSockfd rtpFree rtcpFree rtps rtcps rtpClosed rtcpClosed apart table =>
      rw [rtps, ← hrtp] at hrtps
      rw [rtcps, ← hrtcp] at hrtcps
      rw [table]
      -- first the socket of the `RtpInstance`, then that of the `RtcpInstance`
      have hfirst : Table.Matches _ Private fun o f =>
          l.Held o f ∨ (o = .rtp id track ∧ f = rtpSockfd) :=
        h.held.acquire rtpClosed fun o f _ => Iff.rfl
      refine hfirst.acquire ((Function.update_of_ne apart.symm _ _).trans rtcpClosed) fun o f _ => ?_
      cases o with
      | rtp id' track' =>
        change HasSocket _ (Server.rtpSocket ⟨_, _, _⟩) _ _ _ ↔
          (HasSocket l.ids l.server.rtpSocket _ _ _ ∨ _) ∨ _
        rw [hrtps, hasSocket_fill hid ((congrFun hrtp track).trans rtpFree)]
        simp
      | rtcp id' track' =>
        change HasSocket _ (Server.rtcpSocket ⟨_, _, _⟩) _ _ _ ↔
          (HasSocket l.ids l.server.rtcpSocket _ _ _ ∨ _) ∨ _
        rw [hrtcps, hasSocket_fill hid ((congrFun hrtcp track).trans rtcpFree)]
        simp
      | client id' => simp [Held]
      | setup id' => simp [Held]
      | session name => simp [Held]
      | system => simp [Held]

/-! ## The destruction of a connection -/

theorem mem_trackCloses {id fd : Nat} {c : RtspConnection} {m : Media} {track : TrackId} :
    fd ∈ (trackCloses id c m track).map Move.fd ↔
      (∃ rtp i, c.rtpInstances track = some rtp ∧ m.rtpInstances.lookup rtp = some i ∧
        i.sockFd = fd) ∨ c.rtcpSocket track = some fd := by
  unfold trackCloses RtspConnection.rtcpSocket
  cases c.rtpInstances track with
  | none => cases c.rtcpInstances track <;> simp [Move.fd, eq_comm]
  | some rtp =>
    cases hi : m.rtpInstances.lookup rtp <;> cases c.rtcpInstances track <;>
      simp [Move.fd, hi, eq_comm]

theorem trackCloses_close {id : Nat} {c : RtspConnection} {m : Media} {track : TrackId} :
    ∀ x ∈ trackCloses id c m track, ∃ o f, x = Move.close o f := by
  unfold trackCloses
  intro x hx
  rcases List.mem_append.mp hx with hx | hx
  · split at hx
    · cases hx
    · split at hx
      · cases hx
      · exact ⟨_, _, List.mem_singleton.mp hx⟩
  · split at hx
    · cases hx
    · exact ⟨_, _, List.mem_singleton.mp hx⟩

/-- All that is closed when a connection is destroyed, in order. -/
def closesOf (id : Nat) (c : RtspConnection) (m : Media) : List (Move Owner) :=
  trackCloses id c m 0 ++ trackCloses id c m 1 ++ [.close (.client id) c.sockFd]

/-- The destructors close the client socket and the sockets of the tracks. -/
theorem mem_closesOf {id fd : Nat} {c : RtspConnection} {m : Media} (hc : c.Settled m) :
    fd ∈ (closesOf id c m).map Move.fd ↔
      (∃ track, c.rtpSocket m track = some fd) ∨ (∃ track, c.rtcpSocket track = some fd) ∨
        fd = c.sockFd := by
  have hrtp : ∀ {track}, c.rtpSocket m track = some fd ↔ ∃ rtp i, c.rtpInstances track = some rtp ∧
      m.rtpInstances.lookup rtp = some i ∧ i.ownSocket = some fd := by
    intro track
    unfold RtspConnection.rtpSocket
    cases c.rtpInstances track with
    | none => simp
    | some rtp => cases hi : m.rtpInstances.lookup rtp <;> simp [hi]
  have hown : ∀ {i : RtpInstance}, i.ownSocket = some fd → i.sockFd = fd := by
    intro i hi
    unfold RtpInstance.ownSocket at hi
    split at hi
    · exact Option.some.inj hi
    · cases hi
  have hback : ∀ {track}, fd ∈ (trackCloses id c m track).map Move.fd →
      (∃ track, c.rtpSocket m track = some fd) ∨ (∃ track, c.rtcpSocket track = some fd) ∨
        fd = c.sockFd := by
    intro track hmem
    rcases mem_trackCloses.mp hmem with ⟨rtp, i, hslot, hi, hfd⟩ | hrtcp
    · cases howned : i.ownSocket with
      | none => exact Or.inr (Or.inr (hfd.symm.trans (hc.shared hslot hi howned)))
      | some sockFd =>
        have hsame : sockFd = fd := by
          unfold RtpInstance.ownSocket at howned
          split at howned
          · exact (Option.some.inj howned).symm.trans hfd
          · cases howned
        exact Or.inl ⟨track, hrtp.mpr ⟨rtp, i, hslot, hi, hsame ▸ howned⟩⟩
    · exact Or.inr (Or.inl ⟨track, hrtcp⟩)
  have hforth : ∀ {track}, c.rtpSocket m track = some fd ∨ c.rtcpSocket track = some fd →
      fd ∈ (trackCloses id c m track).map Move.fd := by
    rintro track (hsocket | hsocket)
    · obtain ⟨rtp, i, hslot, hi, hfd⟩ := hrtp.mp hsocket
      exact mem_trackCloses.mpr (Or.inl ⟨rtp, i, hslot, hi, hown hfd⟩)
    · exact mem_trackCloses.mpr (Or.inr hsocket)
  rw [closesOf, List.map_append, List.map_append, List.mem_append, List.mem_append]
  constructor
  · rintro ((hmem | hmem) | hmem)
    · exact hback hmem
    · exact hback hmem
    · exact Or.inr (Or.inr (List.mem_singleton.mp hmem))
  · rintro (⟨track, hsocket⟩ | ⟨track, hsocket⟩ | rfl)
    · rcases trackId_cases track with rfl | rfl
      · exact Or.inl (Or.inl (hforth (Or.inl hsocket)))
      · exact Or.inl (Or.inr (hforth (Or.inl hsocket)))
    · rcases trackId_cases track with rfl | rfl
      · exact Or.inl (Or.inl (hforth (Or.inr hsocket)))
      · exact Or.inl (Or.inr (hforth (Or.inr hsocket)))
    · exact Or.inr (List.mem_singleton.mpr rfl)

theorem closesOf_close (id : Nat) (c : RtspConnection) (m : Media) :
    ∀ x ∈ closesOf id c m, ∃ o f, x = Move.close o f := by
  intro x hx
  rcases List.mem_append.mp hx with hx | hx
  · rcases List.mem_append.mp hx with hx | hx
    · exact trackCloses_close x hx
    · exact trackCloses_close x hx
  · exact ⟨_, _, List.mem_singleton.mp hx⟩

theorem destroyTrack_closes {id : Nat} {c : RtspConnection} {m m' : Media} {track : TrackId}
    {effects : List Effect} (h : c.destroyTrack m track = .ok (m', effects)) (owner : Owner) :
    (socketMoves owner effects).map Move.fd = (trackCloses id c m track).map Move.fd := by
  unfold RtspConnection.destroyTrack at h
  dsimp only at h
  unfold trackCloses
  cases hslot : c.rtpInstances track with
  | none =>
    simp only [hslot] at h
    cases h
    cases c.rtcpInstances track <;> rfl
  | some rtp =>
    simp only [hslot] at h
    split at h
    · cases h
    split at h
    · cases h
    split at h
    · cases h
    rename_i media deleted hdelete
    cases h
    unfold Media.deleteRtpInstance at hdelete
    cases hi : m.rtpInstances.lookup rtp with
    | none =>
      simp only [Media.setSession, hi] at hdelete
      cases hdelete
    | some i =>
      simp only [Media.setSession, hi] at hdelete
      cases hdelete
      rw [socketMoves_append, List.map_append, List.map_append]
      refine congrArg₂ (· ++ ·) ?_ ?_
      · simp only [hi]
        rfl
      · cases c.rtcpInstances track <;> rfl

/-- The closes are those of `~RtspConnection` and `~TcpSocket` in the server's model. -/
theorem destroy_closes {l : EventLoop} (h : l.Consistent) {sockfd : Nat} {conn : Connection}
    (hconn : l.server.connections.lookup sockfd = some conn) {m : Media} {effects : List Effect}
    (hdestroy : conn.rtsp.destroy l.server.media = .ok (m, effects)) (id : Nat) (owner : Owner) :
    (socketMoves owner effects).map Move.fd =
      (closesOf id conn.rtsp l.server.media).map Move.fd := by
  unfold RtspConnection.destroy at hdestroy
  split at hdestroy
  · cases hdestroy
  rename_i m1 effects0 h0
  split at hdestroy
  · cases hdestroy
  rename_i m2 effects1 h1
  cases hdestroy
  have hslots := Server.slotOf_of_lookup hconn
  -- the slot of track 1 does not hold the instance that track 0 has deleted
  have hsame : trackCloses id conn.rtsp m1 1 = trackCloses id conn.rtsp l.server.media 1 := by
    unfold trackCloses
    cases hslot : conn.rtsp.rtpInstances 1 with
    | none => rfl
    | some rtp =>
      dsimp only
      rw [(destroyTrack_destroyed h0).lookup fun hzero => by
        have hapart := h.settled.owned.slotsApart ((congrFun hslots 0).trans hzero)
          ((congrFun hslots 1).trans hslot)
        exact absurd hapart.2 (by decide)]
  rw [socketMoves_append, socketMoves_append, List.map_append, List.map_append,
    destroyTrack_closes h0, destroyTrack_closes h1, hsame, closesOf, List.map_append,
    List.map_append]
  rfl

/-- They are exactly what the connection and its instances have open. -/
theorem mem_closes {l : EventLoop} (h : l.Consistent) {sockfd id : Nat} {conn : Connection}
    (hid : l.ids sockfd = some id) (hconn : l.server.connections.lookup sockfd = some conn)
    (f : Nat) : f ∈ (closesOf id conn.rtsp l.server.media).map Move.fd ↔
      ∃ o, o.connection = some id ∧ l.kernel.descriptors f = some o := by
  have hfd : conn.rtsp.sockFd = sockfd := h.settled.registered.sockFd hconn
  have hrtp := Server.rtpSocket_of_lookup hconn
  have hrtcp := Server.rtcpSocket_of_lookup hconn
  rw [mem_closesOf (h.settled.each hconn), hfd, ← hrtp, ← hrtcp]
  constructor
  · rintro (⟨track, hsocket⟩ | ⟨track, hsocket⟩ | rfl)
    · exact ⟨.rtp id track, rfl, h.rtp_open.mpr ⟨sockfd, hid, hsocket⟩⟩
    · exact ⟨.rtcp id track, rfl, h.rtcp_open.mpr ⟨sockfd, hid, hsocket⟩⟩
    · exact ⟨.client id, rfl, h.client_open.mpr hid⟩
  · rintro ⟨o, ho, hd⟩
    cases o with
    | client id' =>
      cases ho
      exact Or.inr (Or.inr (h.apart (h.client_open.mp hd) hid))
    | rtp id' track =>
      cases ho
      obtain ⟨other, hother, hsocket⟩ := h.rtp_open.mp hd
      rw [h.apart hother hid] at hsocket
      exact Or.inl ⟨track, hsocket⟩
    | rtcp id' track =>
      cases ho
      obtain ⟨other, hother, hsocket⟩ := h.rtcp_open.mp hd
      rw [h.apart hother hid] at hsocket
      exact Or.inr (Or.inl ⟨track, hsocket⟩)
    | setup id' => exact absurd hd h.setup_closed
    | session name => cases ho
    | system => cases ho

/-- What the destruction of a connection leaves, and shows. -/
structure Destroyed (l : EventLoop) (sockfd id : Nat) (conn : Connection) (l' : EventLoop)
    (out : List LoopEffect) : Prop where
  consistent : l'.Consistent
  ids : l'.ids = Function.update l.ids sockfd none
  nextId : l'.nextId = l.nextId
  list : l'.server.disconnectedList = l.server.disconnectedList
  triggerEvents : l'.triggerEvents = l.triggerEvents
  connections : l'.server.connections = l.server.connections.erase sockfd
  rtpSocket : l'.server.rtpSocket = Function.update l.server.rtpSocket sockfd fun _ => none
  table : l'.kernel.descriptors =
    l.kernel.descriptors.after (closesOf id conn.rtsp l.server.media)
  shows : out = l.shown (trackCloses id conn.rtsp l.server.media 0 ++
    trackCloses id conn.rtsp l.server.media 1) ++
      [.descriptor (.close (.client id) sockfd) false, .destroyed id]

theorem ids_erase {ids : Nat → Option Nat} {sockfd fd id : Nat} :
    Function.update ids sockfd none fd = some id ↔ fd ≠ sockfd ∧ ids fd = some id := by
  by_cases hf : fd = sockfd
  · subst hf
    simp
  · rw [Function.update_of_ne hf]
    simp [hf]

/-- A connection that all tables have forgotten has nothing, and the others keep
what they have. -/
theorem held_erase {l l' : EventLoop} (h : l.Consistent) {sockfd id : Nat}
    (hid : l.ids sockfd = some id) (hids : l'.ids = Function.update l.ids sockfd none)
    (hevents : l'.eventMap = Function.update l.eventMap sockfd none)
    (hrtp : l'.server.rtpSocket = Function.update l.server.rtpSocket sockfd fun _ => none)
    (hrtcp : l'.server.rtcpSocket = Function.update l.server.rtcpSocket sockfd fun _ => none)
    (o : Owner) (f : Nat) : l'.Held o f ↔ l.Held o f ∧ ¬ o.connection = some id := by
  cases o with
  | client id' =>
    change l'.ids f = some id' ↔ l.ids f = some id' ∧ ¬ some id' = some id
    rw [hids, ids_erase, and_comm]
    refine and_congr_right fun hold => not_congr ⟨fun hf => ?_, fun heq => ?_⟩
    · rw [← hold, hf, hid]
    · exact h.apart hold (heq ▸ hid)
  | rtp id' track =>
    change HasSocket l'.ids l'.server.rtpSocket _ _ _ ↔ _ ∧ ¬ some id' = some id
    rw [hids, hrtp, hasSocket_erase h.apart hid, Option.some.injEq]
    rfl
  | rtcp id' track =>
    change HasSocket l'.ids l'.server.rtcpSocket _ _ _ ↔ _ ∧ ¬ some id' = some id
    rw [hids, hrtcp, hasSocket_erase h.apart hid, Option.some.injEq]
    rfl
  | system =>
    change (∃ callback, l'.eventMap f = some callback ∧ _) ↔
      (∃ callback, l.eventMap f = some callback ∧ _) ∧ _
    rw [hevents]
    by_cases hf : f = sockfd
    · subst hf
      simp [(h.events f id).mpr hid]
    · simp [hf, Owner.connection]
  | setup id' => simp [Held]
  | session name => simp [Held]

/-- **The destruction of a registered connection succeeds**, and all tables forget it. -/
theorem destroy {l : EventLoop} (h : l.Consistent) {sockfd id : Nat} (hid : l.ids sockfd = some id) :
    ∃ conn l' out, l.server.connections.lookup sockfd = some conn ∧
      l.destroyConnection sockfd = .ok (l', out) ∧ Destroyed l sockfd id conn l' out := by
  obtain ⟨conn, hconn⟩ : ∃ conn, l.server.connections.lookup sockfd = some conn := by
    rw [← Option.isSome_iff_exists, AList.lookup_isSome, h.known, hid]
    rfl
  obtain ⟨media, effects, hdestroy, hsettled, hrtp⟩ := Server.destroy_settled h.settled hconn
  have hfd : conn.rtsp.sockFd = sockfd := h.settled.registered.sockFd hconn
  have hevent : l.eventMap sockfd = some (.connection id) := (h.events sockfd id).mpr hid
  let closes := trackCloses id conn.rtsp l.server.media 0 ++
    trackCloses id conn.rtsp l.server.media 1
  let kernel := (((l.kernel.moves closes).epollDel sockfd).move (.close (.client id) sockfd))
  let l' : EventLoop := { l with
    server := ⟨media, l.server.connections.erase sockfd, l.server.disconnectedList⟩
    ids := Function.update l.ids sockfd none
    eventMap := Function.update l.eventMap sockfd none
    kernel := kernel }
  have htable : kernel.descriptors =
      l.kernel.descriptors.after (closesOf id conn.rtsp l.server.media) := by
    change (l.kernel.moves closes).descriptors.apply (.close (.client id) sockfd) = _
    rw [Kernel.moves_descriptors, closesOf, hfd]
    exact (Table.after_append _ closes [.close (.client id) sockfd]).symm
  refine ⟨conn, l', l.shown closes ++ [.descriptor (.close (.client id) sockfd) false, .destroyed id],
    hconn, ?_, ?_, rfl, rfl, rfl, rfl, rfl, hrtp, htable, rfl⟩
  · rw [destroyConnection, hid, hconn]
    dsimp only
    rw [hdestroy, hfd]
    simp only [removeIOEvent, hevent, shown, List.map_cons, List.map_nil, Move.fd,
      Function.update_self, Option.isSome_none, List.append_assoc]
    rfl
  · have hclosed := Table.after_closes (d := l.kernel.descriptors)
      (closesOf_close id conn.rtsp l.server.media)
    have hmem := h.mem_closes hid hconn
    refine ⟨hsettled, fun fd => ?_, fun fd other => ?_, fun {fd other} hother => ?_,
      fun {fd fd' other} hother hother' => ?_, fun {fd} hi => ?_, ?_⟩
    · change fd ∈ l.server.connections.erase sockfd ↔
        (Function.update l.ids sockfd none fd).isSome = true
      rw [AList.mem_erase, h.known]
      by_cases heq : fd = sockfd
      · simp [heq]
      · simp [heq]
    · change Function.update l.eventMap sockfd none fd = _ ↔ Function.update l.ids sockfd none fd = _
      by_cases heq : fd = sockfd
      · simp [heq]
      · rw [Function.update_of_ne heq, Function.update_of_ne heq]
        exact h.events fd other
    · exact h.below (ids_erase.mp hother).2
    · exact h.apart (ids_erase.mp hother).2 (ids_erase.mp hother').2
    · change (Function.update l.eventMap sockfd none fd).isSome = true
      have hold : Function.update (l.kernel.moves closes).interest sockfd false fd = true :=
        Kernel.move_interest (k := (l.kernel.moves closes).epollDel sockfd) hi
      by_cases heq : fd = sockfd
      · subst heq
        rw [Function.update_self] at hold
        cases hold
      · rw [Function.update_of_ne heq] at hold ⊢
        exact h.watched (Kernel.moves_interest hold)
    · change kernel.descriptors.Matches Private l'.Held
      rw [htable]
      refine h.held.release (fun o => o.connection = some id) (fun f o ho hd => ?_)
        (fun f hf => ?_) fun o f ho => ?_
      · rw [hclosed, if_pos ((hmem f).mpr ⟨o, ho, hd⟩)]
      · refine (hclosed f).trans (if_neg fun hin => ?_)
        obtain ⟨o, ho, hd⟩ := (hmem f).mp hin
        exact hf o ho hd
      · exact h.held_erase hid rfl rfl hrtp (Server.rtcpSocket_erase _ _ _) o f

end Consistent

/-! ## The first state -/

/-- Nothing but the descriptors of the process is open and registered. -/
structure Initial (l : EventLoop) : Prop where
  server : l.server = {}
  control : l.control = .triggering
  ids : ∀ fd, l.ids fd = none
  system : ∀ fd, l.kernel.descriptors fd = if (l.eventMap fd).isSome then some .system else none
  callbacks : ∀ fd id, l.eventMap fd ≠ some (.connection id)
  watched : ∀ {fd}, l.kernel.interest fd = true → (l.eventMap fd).isSome = true

theorem Initial.openSystem {l : EventLoop} (h : l.Initial) (fd : Nat) {callback : Callback}
    (hcallback : ∀ id, callback ≠ .connection id) : (l.openSystem fd callback).Initial := by
  unfold EventLoop.openSystem updateIOEvent
  dsimp only
  cases hevent : l.eventMap fd with
  | some old =>
    refine ⟨h.server, h.control, h.ids, fun f => ?_, h.callbacks, h.watched⟩
    change Function.update l.kernel.descriptors fd (some .system) f =
      if (l.eventMap f).isSome then some .system else none
    by_cases hf : f = fd
    · subst hf
      simp [hevent]
    · rw [Function.update_of_ne hf]
      exact h.system f
  | none =>
    refine ⟨h.server, h.control, h.ids, fun f => ?_, fun f id => ?_, fun {f} hi => ?_⟩
    · change Function.update l.kernel.descriptors fd (some .system) f =
        if (Function.update l.eventMap fd (some callback) f).isSome then some .system else none
      by_cases hf : f = fd
      · subst hf
        simp
      · rw [Function.update_of_ne hf, Function.update_of_ne hf]
        exact h.system f
    · change Function.update l.eventMap fd (some callback) f ≠ _
      by_cases hf : f = fd
      · subst hf
        rw [Function.update_self]
        exact fun heq => hcallback id (Option.some.inj heq)
      · rw [Function.update_of_ne hf]
        exact h.callbacks f id
    · change Function.update l.kernel.interest fd true f = true at hi
      change (Function.update l.eventMap fd (some callback) f).isSome = true
      by_cases hf : f = fd
      · subst hf
        simp
      · rw [Function.update_of_ne hf] at hi ⊢
        exact h.watched hi

theorem create_initial (wakeupFd timerFd listenFd : Nat) :
    (create wakeupFd timerFd listenFd).Initial := by
  have hempty : Initial {} := by
    refine ⟨rfl, rfl, fun _ => rfl, fun _ => rfl, fun _ _ h => ?_, fun h => ?_⟩
    · cases h
    · cases h
  exact ((hempty.openSystem wakeupFd fun _ => Callback.noConfusion).openSystem timerFd
    fun _ => Callback.noConfusion).openSystem listenFd fun _ => Callback.noConfusion

theorem Initial.consistent {l : EventLoop} (h : l.Initial) : l.Consistent := by
  obtain ⟨server, ids, nextId, eventMap, triggerEvents, control, kernel⟩ := l
  obtain ⟨hserver, -, hids, hsystem, hcallbacks, hwatched⟩ := h
  dsimp only at hserver hids hsystem hcallbacks hwatched
  subst hserver
  have hnone : ∀ {fd id}, ids fd ≠ some id := fun {fd id} heq => by
    rw [hids] at heq
    cases heq
  refine ⟨Server.settled_empty, fun fd => ?_, fun fd id => ?_, fun hid => absurd hid hnone,
    fun hid => absurd hid hnone, hwatched, fun o f ho => ?_⟩
  · change fd ∈ (∅ : AList fun _ : Nat => Connection) ↔ (ids fd).isSome = true
    simp [hids]
  · exact ⟨fun heq => absurd heq (hcallbacks fd id), fun hid => absurd hid hnone⟩
  · change kernel.descriptors f = some o ↔ _
    rw [hsystem]
    cases o with
    | system =>
      change _ ↔ ∃ callback, eventMap f = some callback ∧ _
      constructor
      · intro heq
        split at heq
        · obtain ⟨callback, hevent⟩ := Option.isSome_iff_exists.mp ‹_›
          exact ⟨callback, hevent, fun id hconn => hcallbacks f id (hconn ▸ hevent)⟩
        · cases heq
      · rintro ⟨callback, hevent, -⟩
        simp [hevent]
    | session name => exact absurd rfl (ho name)
    | client id =>
      change _ ↔ ids f = some id
      simp [hids]
    | rtp id track =>
      change _ ↔ HasSocket ids _ _ _ _
      simp [HasSocket, hids]
    | rtcp id track =>
      change _ ↔ HasSocket ids _ _ _ _
      simp [HasSocket, hids]
    | setup id =>
      change _ ↔ False
      simp

end EventLoop
end MyRtspServer.Net
