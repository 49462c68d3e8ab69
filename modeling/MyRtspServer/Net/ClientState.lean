import MyRtspServer.Net.SetupSession
import MyRtspServer.Net.SetupTransport
import MyRtspServer.Net.Streaming

/-!
# The state machine a client runs through

The requests a connection has accepted determine what the server knows about it: the
session it has described, and for each track whether it has been set up, over which
transport and behind which description, and whether it plays. There is no way back: PAUSE
and TEARDOWN are answered and change nothing.
-/
namespace MyRtspServer.Net

open Library Library.Octets Library.Transition

inductive TrackState where
  | init | ready | playing
  deriving DecidableEq, Repr

/-- What the accepted requests say. -/
structure ClientState where
  described : Option Octets := none
  tracks : TrackId → TrackState := fun _ => .init
  transports : TrackId → Option Transport := fun _ => none
  /-- The session that was described when the track was set up. -/
  sessions : TrackId → Option Octets := fun _ => none

namespace ClientState

def next (c : ClientState) (r : Request) : ClientState :=
  match r.method with
  | .describe => { c with described := some r.suffix }
  | .setup =>
    match r.trackId with
    | none => c
    | some t =>
      { c with
        tracks := Function.update c.tracks t .ready
        transports := Function.update c.transports t (some r.memberTransport)
        sessions := Function.update c.sessions t c.described }
  | .play => { c with tracks := fun t => if c.tracks t = .init then .init else .playing }
  | _ => c

variable {c : ClientState} {r : Request} {t : TrackId}

theorem next_describe (h : r.method = .describe) : (c.next r).described = some r.suffix := by
  simp only [next, h]

theorem next_described (h : r.method ≠ .describe) : (c.next r).described = c.described := by
  unfold next
  split
  · exact absurd ‹_› h
  · split <;> rfl
  · rfl
  · rfl

theorem next_setup (h : IsSetup t r) : (c.next r).tracks t = .ready := by
  simp only [next, h.1, h.2, Function.update_self]

theorem next_play (h : r.method = .play) (hc : c.tracks t ≠ .init) :
    (c.next r).tracks t = .playing := by
  simp only [next, h, hc, if_false]

/-- Only SETUP and PLAY change a track. -/
theorem next_tracks (hsetup : ¬ IsSetup t r) (hplay : r.method ≠ .play) :
    (c.next r).tracks t = c.tracks t := by
  unfold next
  split
  · rfl
  · rename_i hmethod
    split
    · rfl
    · rename_i u htrack
      have hne : t ≠ u := by
        rintro rfl
        exact hsetup ⟨hmethod, htrack⟩
      exact Function.update_of_ne hne _ _
  · exact absurd ‹_› hplay
  · rfl

theorem next_transport (h : IsSetup t r) : (c.next r).transports t = some r.memberTransport := by
  simp only [next, h.1, h.2, Function.update_self]

theorem next_session (h : IsSetup t r) : (c.next r).sessions t = c.described := by
  simp only [next, h.1, h.2, Function.update_self]

/-- Only SETUP changes a transport, or the session behind it. -/
theorem next_kept (hsetup : ¬ IsSetup t r) :
    (c.next r).transports t = c.transports t ∧ (c.next r).sessions t = c.sessions t := by
  unfold next
  split
  · exact ⟨rfl, rfl⟩
  · rename_i hmethod
    split
    · exact ⟨rfl, rfl⟩
    · rename_i u htrack
      have hne : t ≠ u := by
        rintro rfl
        exact hsetup ⟨hmethod, htrack⟩
      exact ⟨Function.update_of_ne hne _ _, Function.update_of_ne hne _ _⟩
  · exact ⟨rfl, rfl⟩
  · exact ⟨rfl, rfl⟩

/-- Without SETUP no track comes to be set up. -/
theorem next_init (hsetup : ¬ IsSetup t r) (hc : c.tracks t = .init) :
    (c.next r).tracks t = .init := by
  by_cases hplay : r.method = .play
  · simp only [next, hplay, hc, if_true]
  · rw [next_tracks hsetup hplay]
    exact hc

/-- A track that has been set up stays so. -/
theorem next_asked (hc : c.tracks t ≠ .init) : (c.next r).tracks t ≠ .init := by
  by_cases hsetup : IsSetup t r
  · rw [next_setup hsetup]
    decide
  by_cases hplay : r.method = .play
  · rw [next_play hplay hc]
    decide
  · rw [next_tracks hsetup hplay]
    exact hc

end ClientState

def clientState (history : List Request) : ClientState := history.foldl ClientState.next {}

theorem clientState_concat (history : List Request) (r : Request) :
    clientState (history ++ [r]) = (clientState history).next r := by
  rw [clientState, List.foldl_append]
  rfl

/-- The server agrees with the state machine of every client it has not given up. -/
structure Follows (s : Server) (history : Nat → List Request) : Prop where
  described : ∀ {fd conn}, s.connections.lookup fd = some conn → fd ∉ s.disconnectedList →
    conn.rtsp.session = (clientState (history fd)).described
  asked : ∀ {fd t a}, s.slotOf fd t = some a → fd ∉ s.disconnectedList →
    (clientState (history fd)).tracks t ≠ .init
  alive : ∀ {fd t a i}, s.slotOf fd t = some a → fd ∉ s.disconnectedList →
    s.media.rtpInstances.lookup a = some i →
      (i.isAlive = true ↔ (clientState (history fd)).tracks t = .playing)

theorem follows_empty : Follows {} fun _ => [] := by
  constructor
  · intro fd conn h
    cases h
  · intro fd t a h
    cases h
  · intro fd t a i h
    cases h

namespace Follows

variable {s s' : Server} {history : Nat → List Request}

/-- Nothing happens to a connection that is not given up. -/
theorem same (h : Follows s history)
    (hconn : ∀ {fd conn}, s'.connections.lookup fd = some conn → fd ∉ s'.disconnectedList →
      s.connections.lookup fd = some conn ∧ fd ∉ s.disconnectedList)
    (hheap : ∀ {fd t a}, s'.slotOf fd t = some a → s.slotOf fd t = some a →
      s'.media.rtpInstances.lookup a = s.media.rtpInstances.lookup a) : Follows s' history := by
  have hslot : ∀ {fd t a}, s'.slotOf fd t = some a → fd ∉ s'.disconnectedList →
      s.slotOf fd t = some a ∧ fd ∉ s.disconnectedList := by
    intro fd t a hs hopen
    cases hlookup : s'.connections.lookup fd with
    | none =>
      rw [Server.slotOf, hlookup] at hs
      cases hs
    | some conn =>
      obtain ⟨hold, hopen'⟩ := hconn hlookup hopen
      rw [Server.slotOf_of_lookup hlookup] at hs
      rw [Server.slotOf_of_lookup hold]
      exact ⟨hs, hopen'⟩
  constructor
  · intro fd conn hlookup hopen
    obtain ⟨hold, hopen'⟩ := hconn hlookup hopen
    exact h.described hold hopen'
  · intro fd t a hs hopen
    obtain ⟨hold, hopen'⟩ := hslot hs hopen
    exact h.asked hold hopen'
  · intro fd t a i hs hopen hi
    obtain ⟨hold, hopen'⟩ := hslot hs hopen
    rw [hheap hs hold] at hi
    exact h.alive hold hopen' hi

/-- A new connection has accepted nothing. -/
theorem accept (h : Follows s history) (connfd : Nat) (peer : Accepted) :
    Follows (s.handleNewConnection connfd peer) (Function.update history connfd []) := by
  have hslots : ∀ {fd t a}, (s.handleNewConnection connfd peer).slotOf fd t = some a →
      fd ≠ connfd ∧ s.slotOf fd t = some a := by
    intro fd t a hs
    rw [Server.handleNewConnection, Server.slotOf_insert] at hs
    split at hs
    · cases hs
    · exact ⟨‹_›, hs⟩
  constructor
  · intro fd conn hlookup hopen
    by_cases hfd : fd = connfd
    · subst hfd
      rw [Server.handleNewConnection, AList.lookup_insert] at hlookup
      cases hlookup
      rw [Function.update_self]
      rfl
    · rw [Server.handleNewConnection, AList.lookup_insert_ne hfd] at hlookup
      rw [Function.update_of_ne hfd]
      exact h.described hlookup hopen
  · intro fd t a hs hopen
    obtain ⟨hne, hold⟩ := hslots hs
    rw [Function.update_of_ne hne]
    exact h.asked hold hopen
  · intro fd t a i hs hopen hi
    obtain ⟨hne, hold⟩ := hslots hs
    rw [Function.update_of_ne hne]
    exact h.alive hold hopen hi

end Follows

/-! ## A request -/

/-- An accepted DESCRIBE is remembered, and nothing else is. -/
theorem handleCmd_described {w : World} {m : Media} {c : RtspConnection} {r : Handled}
    (h : RtspConnection.handleCmd w m c = .ok r) (hok : r.ok = true) :
    r.conn.session = if c.request.method = .describe then some c.request.suffix else c.session := by
  by_cases hdescribe : c.request.method = .describe
  · rw [if_pos hdescribe]
    unfold RtspConnection.handleCmd at h
    rw [hdescribe] at h
    cases RtspConnection.handleCmdDescribe_outcome h with
    | unknown => cases hok
    | described => rfl
  · rw [if_neg hdescribe]
    rcases RtspConnection.handleCmd_session h with hsame | ⟨hasked, -, -⟩
    · exact hsame
    · exact absurd hasked hdescribe

/-- PLAY alone sets an instance alive, and it does so when it is accepted. -/
theorem handleCmd_alive {w : World} {m : Media} {c : RtspConnection} {r : Handled}
    (h : RtspConnection.handleCmd w m c = .ok r) (hok : r.ok = true) {t : TrackId} {a : Nat}
    (hslot : c.rtpInstances t = some a) {i : RtpInstance} (hi : m.rtpInstances.lookup a = some i) :
    r.media.rtpInstances.lookup a =
      some (if c.request.method = .play then { i with isAlive := true } else i) := by
  by_cases hplay : c.request.method = .play
  · have hcmd : RtspConnection.handleCmdPlay w m c = .ok r := by
      unfold RtspConnection.handleCmd at h
      rwa [hplay] at h
    rw [RtspConnection.handleCmdPlay_alive hcmd hok hslot, hi, if_pos hplay]
    rfl
  · rw [if_neg hplay]
    cases RtspConnection.handleCmd_change h with
    | quiet slots heap => rw [heap, hi]
    | setup track rtp j name asked free fresh idle slots heap =>
      have hne : a ≠ rtp := by
        rintro rfl
        exact fresh (AList.lookup_isSome.mp (by rw [hi]; rfl))
      rw [heap, AList.lookup_insert_ne hne, hi]
    | play asked => exact absurd asked hplay

/-- What a handler does for the slots of its connection. -/
theorem handleCmd_slot {w : World} {m : Media} {c : RtspConnection} {r : Handled}
    (h : RtspConnection.handleCmd w m c = .ok r) {t : TrackId} {a : Nat}
    (hslot : r.conn.rtpInstances t = some a) :
    c.rtpInstances t = some a ∨ IsSetup t c.request ∧
      ∃ i, r.media.rtpInstances.lookup a = some i ∧ i.isAlive = false := by
  cases RtspConnection.handleCmd_change h with
  | quiet slots => exact Or.inl (slots ▸ hslot)
  | setup track rtp i name asked free fresh idle slots heap =>
    rw [slots, Function.update_apply] at hslot
    split at hslot
    · rename_i ht
      cases hslot
      rw [ht]
      exact Or.inr ⟨asked, i, by rw [heap, AList.lookup_insert], idle⟩
    · exact Or.inl hslot
  | play asked ok slots => exact Or.inl (slots ▸ hslot)

/-- The instances of the other connections stay as they are. -/
theorem handleCmd_others {s : Server} {w : World} {sockfd fd : Nat} {conn : Connection}
    {request : Request} {r : Handled} (ho : Ownership s.slotOf s.media)
    (hconn : s.connections.lookup sockfd = some conn)
    (h : RtspConnection.handleCmd w s.media { conn.rtsp with request := request } = .ok r)
    (hfd : fd ≠ sockfd) {t : TrackId} {a : Nat} (hs : s.slotOf fd t = some a) :
    r.media.rtpInstances.lookup a = s.media.rtpInstances.lookup a := by
  cases RtspConnection.handleCmd_change h with
  | quiet slots heap => rw [heap]
  | setup track rtp j name asked free fresh idle slots heap =>
    have hne : a ≠ rtp := fun heq => fresh (heq ▸ ho.slotsLive hs)
    rw [heap, AList.lookup_insert_ne hne]
  | play asked ok slots heap =>
    have hapart : ∀ t', conn.rtsp.rtpInstances t' ≠ some a := by
      intro t' hslot
      exact hfd (ho.slotsApart hs ((congrFun (Server.slotOf_of_lookup hconn) t').trans hslot)).1
    rw [heap]
    cases s.media.rtpInstances.lookup a with
    | none => rfl
    | some i => rw [Option.map_some, if_neg (not_or.mpr ⟨hapart 0, hapart 1⟩)]

namespace Server

variable {s s' : Server} {history : Nat → List Request} {sockfd : Nat} {conn : Connection}
  {request : Request} {w : World} {r : Handled}

/-- **An accepted request is a move of the state machine**, and of this one only. -/
theorem handled_follows (h : Follows s history) (ho : Ownership s.slotOf s.media)
    (hconn : s.connections.lookup sockfd = some conn) (hopen : sockfd ∉ s.disconnectedList)
    (hhandler : RtspConnection.handleCmd w s.media { conn.rtsp with request := request } = .ok r)
    (buffer : Octets) :
    Follows (s.afterHandled sockfd r buffer) (record history sockfd request r.ok) := by
  have hlist : ∀ {fd}, fd ∉ (s.afterHandled sockfd r buffer).disconnectedList →
      fd ∉ s.disconnectedList ∧ (fd = sockfd → r.ok = true) := by
    intro fd hfd
    unfold afterHandled at hfd
    dsimp only at hfd
    split at hfd
    · exact ⟨hfd, fun _ => ‹_›⟩
    · rw [List.mem_append, not_or] at hfd
      exact ⟨hfd.1, fun heq => absurd (List.mem_singleton.mpr heq) hfd.2⟩
  have hslots := slotOf_of_lookup hconn
  have hslot : ∀ {fd t a}, (s.afterHandled sockfd r buffer).slotOf fd t = some a →
      (fd = sockfd ∧ r.conn.rtpInstances t = some a) ∨ (fd ≠ sockfd ∧ s.slotOf fd t = some a) := by
    intro fd t a hs
    rw [afterHandled, slotOf_insert] at hs
    split at hs
    · exact Or.inl ⟨‹_›, hs⟩
    · exact Or.inr ⟨‹_›, hs⟩
  constructor
  · intro fd other hother hfd
    obtain ⟨hold, hok⟩ := hlist hfd
    by_cases heq : fd = sockfd
    · subst heq
      rw [afterHandled, AList.lookup_insert] at hother
      cases hother
      rw [record_accepted (hok rfl), clientState_concat, handleCmd_described hhandler (hok rfl)]
      split
      · rename_i hdescribe
        exact (ClientState.next_describe hdescribe).symm
      · rename_i hdescribe
        rw [ClientState.next_described hdescribe]
        exact h.described hconn hopen
    · rw [afterHandled, AList.lookup_insert_ne heq] at hother
      rw [record_other heq]
      exact h.described hother hold
  · intro fd t a hs hfd
    obtain ⟨hold, hok⟩ := hlist hfd
    rcases hslot hs with ⟨rfl, hnew⟩ | ⟨hne, hs⟩
    · rw [record_accepted (hok rfl), clientState_concat]
      rcases handleCmd_slot hhandler hnew with hkept | ⟨hsetup, -⟩
      · exact ClientState.next_asked (h.asked ((congrFun hslots t).trans hkept) hopen)
      · rw [ClientState.next_setup hsetup]
        decide
    · rw [record_other hne]
      exact h.asked hs hold
  · intro fd t a i hs hfd hi
    obtain ⟨hold, hok⟩ := hlist hfd
    rcases hslot hs with ⟨rfl, hnew⟩ | ⟨hne, hs⟩
    · rw [record_accepted (hok rfl), clientState_concat]
      rcases handleCmd_slot hhandler hnew with hkept | ⟨hsetup, j, hj, hidle⟩
      · have hslot' : s.slotOf fd t = some a := (congrFun hslots t).trans hkept
        obtain ⟨j, hj⟩ := Option.isSome_iff_exists.mp
          (AList.lookup_isSome.mpr (ho.slotsLive hslot'))
        obtain rfl := Option.some.inj
          (hi.symm.trans (handleCmd_alive hhandler (hok rfl) hkept hj))
        by_cases hplay : request.method = .play
        · rw [if_pos hplay, ClientState.next_play hplay (h.asked hslot' hopen)]
          exact iff_of_true rfl rfl
        · have hsetup : ¬ IsSetup t request := by
            intro hsetup
            have hfree := handleCmd_setup_free hhandler (hok rfl) hsetup
            rw [hkept] at hfree
            cases hfree
          rw [if_neg hplay, ClientState.next_tracks hsetup hplay]
          exact h.alive hslot' hopen hj
      · obtain rfl := Option.some.inj (hi.symm.trans hj)
        rw [hidle, ClientState.next_setup hsetup]
        decide
    · change r.media.rtpInstances.lookup a = some i at hi
      rw [handleCmd_others ho hconn hhandler hne hs] at hi
      rw [record_other hne]
      exact h.alive hs hold hi

/-- A read that does not come to a handler. -/
structure Unhandled (m : Media) (c : Connection) (r : ReadResult) : Prop where
  media : r.media = m
  rtsp : ∃ request, r.conn.rtsp = { c.rtsp with request := request }
  effects : (r.effects = [] ∧ r.ok = true) ∨
    (r.effects = [.disconnected c.rtsp.sockFd] ∧ r.ok = false)

theorem handleRead_cases {m : Media} {c : Connection} {bytes : Octets} {r : ReadResult}
    (h : c.handleRead w m bytes = .ok r) : Unhandled m c r ∨ ∃ request buffer handled,
      RtspConnection.handleCmd w m { c.rtsp with request := request } = .ok handled ∧
        r = ⟨handled.ok, handled.media, ⟨handled.conn, buffer⟩,
          .dispatched c.rtsp.sockFd request :: (handled.effects ++
            [if handled.ok then .accepted c.rtsp.sockFd request
              else .disconnected c.rtsp.sockFd])⟩ := by
  unfold Connection.handleRead Connection.handleReadBytes at h
  dsimp only at h
  split at h
  · cases h
    exact Or.inl ⟨rfl, ⟨c.rtsp.request, rfl⟩, Or.inl ⟨rfl, rfl⟩⟩
  split at h
  · cases h
  · cases h
    exact Or.inl ⟨rfl, ⟨_, rfl⟩, Or.inr ⟨rfl, rfl⟩⟩
  · split at h
    · cases h
    · rename_i handled hhandled
      cases h
      exact Or.inr ⟨_, _, handled, hhandled, rfl⟩

/-- A connection of which only the parser has changed is put back. -/
theorem unhandled_follows {r : ReadResult} (h : Follows s history)
    (hconn : s.readable sockfd = some conn) (hread : Unhandled s.media conn r) :
    Follows (s.afterRead sockfd r) history := by
  obtain ⟨hlookup, hopen⟩ := readable_some hconn
  obtain ⟨request, hrtsp⟩ := hread.rtsp
  have hlist : ∀ {fd}, fd ∉ (s.afterRead sockfd r).disconnectedList → fd ∉ s.disconnectedList := by
    intro fd hfd
    unfold afterRead at hfd
    dsimp only at hfd
    split at hfd
    · exact hfd
    · exact fun hmem => hfd (List.mem_append_left _ hmem)
  have hslots : (s.afterRead sockfd r).slotOf = s.slotOf :=
    slotOf_insert_same hlookup (by rw [hrtsp])
  have hheap : (s.afterRead sockfd r).media.rtpInstances = s.media.rtpInstances := by
    rw [afterRead, hread.media]
  constructor
  · intro fd other hother hfd
    by_cases heq : fd = sockfd
    · subst heq
      rw [afterRead, AList.lookup_insert] at hother
      cases hother
      rw [hrtsp]
      exact h.described hlookup hopen
    · rw [afterRead, AList.lookup_insert_ne heq] at hother
      exact h.described hother (hlist hfd)
  · intro fd t a hs hfd
    exact h.asked (hslots ▸ hs) (hlist hfd)
  · intro fd t a i hs hfd hi
    exact h.alive (hslots ▸ hs) (hlist hfd) (hheap ▸ hi)

/-- **Every action is a move of the state machines**: of one, or of none. -/
theorem step_follows {act : ServerAct} {effects : List Effect} (h : Follows s history)
    (ho : Ownership s.slotOf s.media) (hr : Registered s)
    (hstep : s.step act = .ok (s', effects)) :
    Follows s' (effects.foldl seeAccepted history) := by
  cases step_outcome hstep with
  | ignored => exact h
  | session name =>
    refine h.same (fun hlookup hopen => ⟨hlookup, hopen⟩) fun _ _ => ?_
    unfold Media.addMediaSession
    split <;> rfl
  | sink name track sink =>
    refine h.same (fun hlookup hopen => ⟨hlookup, hopen⟩) fun _ _ => ?_
    unfold Media.addRtpSink
    split <;> rfl
  | multicast name w m effects started =>
    rw [foldl_unrecorded fun e he => by obtain ⟨fd, rfl⟩ := started.all_opened e he; trivial]
    exact h.same (fun hlookup hopen => ⟨hlookup, hopen⟩)
      fun _ hs => started.lookup (ho.slotsLive hs)
  | accept connfd peer new => exact h.accept connfd peer
  | read sockfd bytes w conn r reported outcome =>
    rcases step_read_cases hstep with ⟨hsame, heffects⟩ |
      ⟨conn', r', hconn, -, hread, hafter, heffects⟩
    · rw [hsame, heffects]
      exact h
    · rw [hafter, heffects]
      rcases handleRead_cases hread with hnone | ⟨request, buffer, handled, handler, rfl⟩
      · rw [foldl_unrecorded (unhandled_unrecorded hnone.effects)]
        exact unhandled_follows h hconn hnone
      · obtain ⟨hlookup, hopen⟩ := readable_some hconn
        have hfd := hr.sockFd hlookup
        rw [hfd, foldl_handled (RtspConnection.handleCmd_keeps handler).effects]
        exact handled_follows h ho hlookup hopen handler buffer
  | hangup sockfd conn =>
    refine h.same (fun hlookup hopen => ⟨hlookup, fun hmem => hopen ?_⟩) fun _ _ => rfl
    exact List.mem_append_left _ hmem
  | trigger s'' effects destroyed =>
    rw [foldl_unrecorded fun e he => (destroyAll_teardown destroyed e he).unrecorded]
    refine h.same (fun {fd conn} hlookup _ => ?_) fun hs _ => (destroyAll_heap ho destroyed hs).2
    have hconn := destroyAll_connections destroyed fd
    rw [show s''.connections.lookup fd = some conn from hlookup] at hconn
    split at hconn
    · cases hconn
    · exact ⟨hconn.symm, ‹_›⟩
  | packet name track packet answers session effects registered sent =>
    rw [foldl_unrecorded (sendPacket_unrecorded sent)]
    exact h

end Server
end MyRtspServer.Net
