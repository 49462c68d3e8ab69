import MyRtspServer.Net.ServerSockets

/-!
# Invariants of one connection

What a connection knows is set by its own requests; the others can only register
more sessions. So a property of one connection that its own reads keep, and that
does not mind new sessions, holds of every connection in every run.
-/
namespace MyRtspServer.Net

open Library Library.Octets Library.Transition

namespace Connection

theorem handleRead_sessions {w : World} {m : Media} {c : Connection} {bytes : Octets}
    {r : ReadResult} (h : c.handleRead w m bytes = .ok r) {name : Octets}
    (hmem : name ∈ m.sessions) : name ∈ r.media.sessions := by
  obtain ⟨request, handled, hchange, hmedia, -⟩ := handleRead_sockets h
  rw [hmedia]
  cases hchange with
  | kept slots rtcps heap sessions => exact sessions hmem
  | overTcp track rtp i rtpFree rtcpFree fresh channel shared slots rtcps heap sessions =>
    exact sessions hmem
  | overUdp track rtp i rtcp rtpFree rtcpFree fresh localPort destIp destPort own slots rtcps heap
      sessions => exact sessions hmem

/-- What a read does to the members behind the parser: nothing, or what one handler
does. -/
inductive ReadRequest (w : World) (m : Media) (c : Connection) (bytes : Octets) (r : ReadResult) :
    Prop
  | unhandled (request : Request) (media : r.media = m)
      (conn : r.conn.rtsp = { c.rtsp with request := request })
  | handled (request : Request) (h : Handled) (parsed : c.nextRequest bytes = some request)
      (handler : RtspConnection.handleCmd w m { c.rtsp with request := request } = .ok h)
      (media : r.media = h.media) (conn : r.conn.rtsp = h.conn) (ok : r.ok = h.ok)

theorem handleRead_request {w : World} {m : Media} {c : Connection} {bytes : Octets}
    {r : ReadResult} (h : c.handleRead w m bytes = .ok r) : ReadRequest w m c bytes r := by
  unfold handleRead handleReadBytes at h
  dsimp only at h
  split at h
  · cases h
    exact .unhandled c.rtsp.request rfl rfl
  rename_i hchannel
  split at h
  · cases h
  · rename_i request buffer hparse
    cases h
    exact .unhandled request rfl rfl
  · rename_i request buffer hparse
    split at h
    · cases h
    · rename_i handled hhandled
      cases h
      refine .handled request handled ?_ hhandled rfl rfl rfl
      rw [nextRequest, if_neg hchannel, hparse]

end Connection

namespace Server

theorem destroyAll_sessions {fds : List Nat} : ∀ {s s' : Server} {effects : List Effect},
    s.destroyAll fds = .ok (s', effects) → ∀ {name}, name ∈ s.media.sessions →
      name ∈ s'.media.sessions := by
  induction fds with
  | nil =>
    intro s s' effects hd name hmem
    cases hd
    exact hmem
  | cons sockfd rest ih =>
    intro s s' effects hd name hmem
    obtain ⟨conn, m1, m2, first, later, hconn, h0, h1, hrest, -, -⟩ := destroyAll_cons hd
    exact ih hrest (trackDestroyed_sessions h1 (trackDestroyed_sessions h0 hmem))

/-- **The inversion of a read**: it is ignored, or the connection handles it. -/
theorem step_read_cases {s s' : Server} {sockfd : Nat} {bytes : Octets} {w : World}
    {effects : List Effect} (h : s.step (.read sockfd bytes w) = .ok (s', effects)) :
    (s' = s ∧ effects = []) ∨ ∃ conn r, s.readable sockfd = some conn ∧ bytes ≠ [] ∧
      conn.handleRead w s.media bytes = .ok r ∧ s' = s.afterRead sockfd r ∧ effects = r.effects := by
  simp only [step] at h
  split at h
  · cases h
    exact Or.inl ⟨rfl, rfl⟩
  rename_i conn hconn
  split at h
  · cases h
    exact Or.inl ⟨rfl, rfl⟩
  rename_i hbytes
  rw [handleRead] at h
  split at h
  · cases h
  rename_i r hr
  cases h
  refine Or.inr ⟨conn, r, hconn, hbytes, hr, ?_, rfl⟩
  unfold afterRead
  split <;> rfl

theorem step_read {s s' : Server} {sockfd : Nat} {bytes : Octets} {w : World}
    {effects : List Effect} (h : s.step (.read sockfd bytes w) = .ok (s', effects)) :
    s' = s ∨ ∃ conn r, s.readable sockfd = some conn ∧ bytes ≠ [] ∧
      conn.handleRead w s.media bytes = .ok r ∧ s' = s.afterRead sockfd r ∧ effects = r.effects :=
  (step_read_cases h).imp_left And.left

/-- A registered session stays registered. -/
theorem step_sessions {s s' : Server} {act : ServerAct} {effects : List Effect}
    (h : s.step act = .ok (s', effects)) {name : Octets} (hmem : name ∈ s.media.sessions) :
    name ∈ s'.media.sessions := by
  cases step_outcome h with
  | ignored => exact hmem
  | session =>
    change name ∈ (s.media.addMediaSession _).sessions
    unfold Media.addMediaSession
    split
    · exact hmem
    · exact Media.mem_setSession _ _ _ _ hmem
  | sink =>
    change name ∈ (s.media.addRtpSink _ _ _).sessions
    unfold Media.addRtpSink
    split
    · exact hmem
    · exact Media.mem_setSession _ _ _ _ hmem
  | multicast other w m effects started =>
    cases started with
    | unchanged => exact hmem
    | started => exact Media.mem_setSession _ _ _ _ hmem
  | accept => exact hmem
  | read sockfd bytes w conn r reported =>
    rcases step_read h with hsame | ⟨conn', r', -, -, hread, hafter, -⟩
    · rw [hsame]
      exact hmem
    · rw [hafter]
      exact Connection.handleRead_sessions hread hmem
  | hangup => exact hmem
  | trigger s'' effects destroyed => exact destroyAll_sessions destroyed hmem
  | packet => exact hmem

/-- What a property of one connection needs to hold in every run. -/
structure ClientInvariant (P : Media → Connection → Prop) : Prop where
  created : ∀ m connfd peer, P m { rtsp := .create connfd peer }
  kept : ∀ {m m' c}, P m c → (∀ {name}, name ∈ m.sessions → name ∈ m'.sessions) → P m' c
  read : ∀ {w m c bytes r}, P m c → c.handleRead w m bytes = .ok r → P r.media r.conn

/-- The property holds of every connection. -/
def Each (P : Media → Connection → Prop) (s : Server) : Prop :=
  ∀ fd conn, s.connections.lookup fd = some conn → P s.media conn

variable {P : Media → Connection → Prop}

theorem each_empty : Each P {} := fun _ _ h => by cases h

/-- One connection is put in, or put back. -/
theorem Each.insert {s : Server} (h : s.Each P) (hp : ClientInvariant P) {m : Media}
    {sockfd : Nat} {conn : Connection} {list : List Nat}
    (hgrows : ∀ {name}, name ∈ s.media.sessions → name ∈ m.sessions) (hconn : P m conn) :
    Each P ⟨m, s.connections.insert sockfd conn, list⟩ := by
  intro fd other hother
  by_cases heq : fd = sockfd
  · subst heq
    rw [AList.lookup_insert] at hother
    cases hother
    exact hconn
  · rw [AList.lookup_insert_ne heq] at hother
    exact hp.kept (h fd other hother) hgrows

/-- If a request with this method is read, its handler meets the property. -/
def OnRequest (method : Method) (P : World → Media → RtspConnection → Prop) (s : Server) :
    ServerAct → Prop
  | .read sockfd bytes w => ∀ conn request, s.readable sockfd = some conn → bytes ≠ [] →
      conn.nextRequest bytes = some request → request.method = method →
        P w s.media { conn.rtsp with request := request }
  | _ => True

/-- **Every action keeps an invariant of the connections.** -/
theorem step_each (hp : ClientInvariant P) {s s' : Server} {act : ServerAct}
    {effects : List Effect} (h : s.Each P) (hstep : s.step act = .ok (s', effects)) :
    s'.Each P := by
  have hgrows : ∀ {name}, name ∈ s.media.sessions → name ∈ s'.media.sessions :=
    fun hmem => step_sessions hstep hmem
  cases step_outcome hstep with
  | ignored => exact h
  | session => exact fun fd conn hconn => hp.kept (h fd conn hconn) hgrows
  | sink => exact fun fd conn hconn => hp.kept (h fd conn hconn) hgrows
  | multicast => exact fun fd conn hconn => hp.kept (h fd conn hconn) hgrows
  | accept connfd peer new => exact h.insert hp id (hp.created _ _ _)
  | read sockfd bytes w conn r reported =>
    rcases step_read hstep with hsame | ⟨conn', r', hreadable, -, hread, hafter, -⟩
    · rw [hsame]
      exact h
    · rw [hafter]
      exact h.insert hp (Connection.handleRead_sessions hread)
        (hp.read (h sockfd conn' (readable_some hreadable).1) hread)
  | hangup => exact h
  | trigger s'' effects destroyed =>
    intro fd conn hconn
    change s''.connections.lookup fd = some conn at hconn
    rw [destroyAll_connections destroyed fd] at hconn
    split at hconn
    · cases hconn
    · exact hp.kept (h fd conn hconn) hgrows
  | packet => exact h

end Server
end MyRtspServer.Net
