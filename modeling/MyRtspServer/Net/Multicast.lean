import MyRtspServer.Net.Clients
import MyRtspServer.Net.Streaming
import MyRtspServer.Net.SetupTransport
import MyRtspServer.Net.UrlRoundTrip

/-!
# What reaches a multicast group

`StartMulticast` makes an instance for each track that sends to the group, and a
SETUP for a multicast session makes none. PLAY sets the instances in the slots of
its own connection alive, and nobody sets those of the group alive, so `SendPacket`
skips them.
-/
namespace MyRtspServer.Net

open Library Library.Octets Library.Transition

/-- The address `StartMulticast` draws from 0xE8000100 up. -/
def multicastAddr (rand : Nat) : InAddr :=
  let addr := 0xE8000100 + rand % (0xE8FFFFFF - 0xE8000100)
  { byte1 := UInt8.ofNat (addr / 2 ^ 24), byte2 := UInt8.ofNat (addr / 2 ^ 16)
    byte3 := UInt8.ofNat (addr / 2 ^ 8), byte4 := UInt8.ofNat addr }

/-- The text of an address in 232.0.0.0/8. -/
def IsGroupText (ip : Octets) : Prop := ascii "232." <+: ip

instance (ip : Octets) : Decidable (IsGroupText ip) :=
  inferInstanceAs (Decidable (ascii "232." <+: ip))

theorem isGroupText_drawn (rand : Nat) : IsGroupText (inetNtoa (multicastAddr rand)) := by
  have hfirst : (0xE8000100 + rand % (0xE8FFFFFF - 0xE8000100)) / 2 ^ 24 = 232 := by omega
  have htext : ascii "232." = dec (UInt8.ofNat 232).toNat ++ [46] := by decide
  rw [IsGroupText, htext, inetNtoa, multicastAddr, hfirst]
  exact (List.prefix_append_right_inj _).mpr ⟨_, rfl⟩

/-- The instance sends to a group. -/
def RtpInstance.ToGroup (i : RtpInstance) : Prop :=
  match i.transport with
  | .overUdp _ destIp _ => IsGroupText destIp
  | .overTcp _ => False

/-- A group has the address that was drawn for it, and no TCP peer has one like it. -/
def Addressed : ServerAct → Prop
  | .startMulticast _ w => ∃ rand, w.addr = inetNtoa (multicastAddr rand)
  | .accept _ peer => ¬ IsGroupText peer.peerIp
  | _ => True

/-- What holds of the groups in every run: the instances that send to one are not
alive, and no connection has one in a slot. -/
structure GroupsSilent (s : Server) : Prop where
  owned : Ownership s.slotOf s.media
  peers : ∀ fd conn, s.connections.lookup fd = some conn → ¬ IsGroupText conn.rtsp.peerIp
  slots : ∀ fd t a i, s.slotOf fd t = some a → s.media.rtpInstances.lookup a = some i → ¬ i.ToGroup
  idle : ∀ a i, s.media.rtpInstances.lookup a = some i → i.ToGroup → i.isAlive = false
  groups : ∀ name session group, s.media.sessions.lookup name = some session →
    session.multicast = some group → IsGroupText group.addr

/-! ## The groups of the sessions -/

/-- The groups were there before. -/
def Media.GroupsFrom (m m' : Media) : Prop :=
  ∀ name session' group, m'.sessions.lookup name = some session' →
    session'.multicast = some group →
      ∃ session, m.sessions.lookup name = some session ∧ session.multicast = some group

theorem Media.GroupsFrom.refl (m : Media) : m.GroupsFrom m := fun _ session _ h hgroup =>
  ⟨session, h, hgroup⟩

theorem Media.GroupsFrom.trans {m m' m'' : Media} (h : m.GroupsFrom m') (h' : m'.GroupsFrom m'') :
    m.GroupsFrom m'' := by
  intro name session group hsession hgroup
  obtain ⟨session', hsession', hgroup'⟩ := h' name session group hsession hgroup
  exact h name session' group hsession' hgroup'

theorem Media.groupsFrom_setSession {m : Media} {name : Octets} {session session' : MediaSession}
    (hsession : m.sessions.lookup name = some session)
    (hgroup : session'.multicast = session.multicast) : m.GroupsFrom (m.setSession name session') := by
  intro other found group hfound hfoundGroup
  by_cases heq : other = name
  · subst heq
    rw [setSession, AList.lookup_insert] at hfound
    cases hfound
    exact ⟨session, hsession, hgroup ▸ hfoundGroup⟩
  · rw [setSession, AList.lookup_insert_ne heq] at hfound
    exact ⟨found, hfound, hfoundGroup⟩

theorem Media.groupsFrom_addMediaSession (m : Media) (name : Octets) :
    m.GroupsFrom (m.addMediaSession name) := by
  unfold addMediaSession
  split
  · exact .refl m
  intro other found group hfound hgroup
  by_cases heq : other = name
  · subst heq
    rw [setSession, AList.lookup_insert] at hfound
    cases hfound
    cases hgroup
  · rw [setSession, AList.lookup_insert_ne heq] at hfound
    exact ⟨found, hfound, hgroup⟩

theorem Media.groupsFrom_addRtpSink (m : Media) (name : Octets) (track : TrackId) (sink : Sink) :
    m.GroupsFrom (m.addRtpSink name track sink) := by
  unfold addRtpSink
  split
  · exact .refl m
  · rename_i session hsession
    exact groupsFrom_setSession hsession rfl

theorem TrackDestroyed.groupsFrom {m m' : Media} {c : RtspConnection} {track : TrackId}
    (h : TrackDestroyed m c track m') : m.GroupsFrom m' := by
  cases h with
  | empty slot same => exact same ▸ .refl m
  | deleted rtp name session slot described registered media =>
    rw [media]
    exact Media.groupsFrom_setSession registered (removeRtpInstance_multicast session rtp)

/-- Destruction only takes instances away. -/
theorem TrackDestroyed.shrinks {m m' : Media} {c : RtspConnection} {track : TrackId}
    (h : TrackDestroyed m c track m') {a : Nat} {i : RtpInstance}
    (hi : m'.rtpInstances.lookup a = some i) : m.rtpInstances.lookup a = some i := by
  cases h with
  | empty slot same => exact same ▸ hi
  | deleted rtp name session slot described registered media =>
    rw [media] at hi
    change (m.rtpInstances.erase rtp).lookup a = some i at hi
    by_cases heq : a = rtp
    · subst heq
      rw [AList.lookup_erase] at hi
      cases hi
    · rw [AList.lookup_erase_ne heq] at hi
      exact hi

/-- The trigger phase only takes instances away, and adds no group. -/
theorem Server.destroyAll_shrinks {fds : List Nat} : ∀ {s s' : Server} {effects : List Effect},
    s.destroyAll fds = .ok (s', effects) → (∀ {a i}, s'.media.rtpInstances.lookup a = some i →
      s.media.rtpInstances.lookup a = some i) ∧ s.media.GroupsFrom s'.media := by
  induction fds with
  | nil =>
    intro s s' effects hd
    cases hd
    exact ⟨id, .refl _⟩
  | cons sockfd rest ih =>
    intro s s' effects hd
    obtain ⟨conn, m1, m2, first, later, hconn, h0, h1, hrest, -, -⟩ := destroyAll_cons hd
    obtain ⟨hshrinks, hgroups⟩ := ih hrest
    exact ⟨fun hi => h0.shrinks (h1.shrinks (hshrinks hi)),
      (h0.groupsFrom.trans h1.groupsFrom).trans hgroups⟩

/-! ## One request -/

/-- What a handler does about groups: none is new, and what is new in the heap sends
to the peer or back on the connection. -/
structure KeepsGroups (m : Media) (c : RtspConnection) (r : Handled) : Prop where
  peerIp : r.conn.peerIp = c.peerIp
  groups : m.GroupsFrom r.media
  fresh : ∀ a i, a ∉ m.rtpInstances → r.media.rtpInstances.lookup a = some i →
    i.ToGroup → IsGroupText c.peerIp

namespace RtspConnection

/-- The heap is the one before. -/
theorem keepsGroups_same {m : Media} {c : RtspConnection} {r : Handled}
    (hpeer : r.conn.peerIp = c.peerIp) (hgroups : m.GroupsFrom r.media)
    (hheap : r.media.rtpInstances = m.rtpInstances) : KeepsGroups m c r := by
  refine ⟨hpeer, hgroups, fun a i ha hi => ?_⟩
  rw [hheap, AList.lookup_eq_none.mpr ha] at hi
  cases hi

/-- One instance is new. -/
theorem keepsGroups_insert {m : Media} {c : RtspConnection} {r : Handled} {rtp : Nat}
    {i : RtpInstance} (hpeer : r.conn.peerIp = c.peerIp) (hgroups : m.GroupsFrom r.media)
    (hheap : r.media.rtpInstances = m.rtpInstances.insert rtp i)
    (hi : i.ToGroup → IsGroupText c.peerIp) : KeepsGroups m c r := by
  refine ⟨hpeer, hgroups, fun a j ha hj hgroup => ?_⟩
  rw [hheap] at hj
  by_cases heq : a = rtp
  · subst heq
    rw [AList.lookup_insert] at hj
    cases hj
    exact hi hgroup
  · rw [AList.lookup_insert_ne heq, AList.lookup_eq_none.mpr ha] at hj
    cases hj

theorem handleCmdSetup_groups {w : World} {m : Media} {c : RtspConnection} {r : Handled}
    (h : handleCmdSetup w m c = .ok r) : KeepsGroups m c r := by
  cases handleCmdSetup_answer h with
  | refused => exact keepsGroups_same rfl (.refl m) rfl
  | multicast => exact keepsGroups_same rfl (.refl m) rfl
  | overTcp name session track described describedSession found =>
    have hgroups : m.GroupsFrom (m.setSession name (session.addRtpInstance track
      (m.freshAddress w.newRtp))) :=
        Media.groupsFrom_setSession found.registered (MediaSession.addRtpInstance_multicast ..)
    exact keepsGroups_insert rfl hgroups rfl False.elim
  | overUdp name session track described describedSession found =>
    have hgroups : m.GroupsFrom (m.setSession name (session.addRtpInstance track
      (m.freshAddress w.newRtp))) :=
        Media.groupsFrom_setSession found.registered (MediaSession.addRtpInstance_multicast ..)
    unfold setupOverUdp
    split
    · exact keepsGroups_same rfl (.refl m) rfl
    · exact keepsGroups_insert rfl hgroups rfl id

theorem setTrackAlive_peerIp {m m' : Media} {c c' : RtspConnection} {track : TrackId}
    (h : setTrackAlive m c track = .ok (m', c')) : c'.peerIp = c.peerIp := by
  unfold setTrackAlive at h
  dsimp only at h
  split at h
  · cases h
    rfl
  · split at h <;> cases h
    rfl

theorem handleCmdPlay_groups {w : World} {m : Media} {c : RtspConnection} {r : Handled}
    (h : handleCmdPlay w m c = .ok r) : KeepsGroups m c r := by
  cases handleCmdPlay_outcome h with
  | unsent => exact keepsGroups_same rfl (.refl m) rfl
  | playing m1 c1 m2 c2 first second =>
    obtain ⟨-, hs0, hl0⟩ := setTrackAlive_spec first
    obtain ⟨-, hs1, hl1⟩ := setTrackAlive_spec second
    have hfirst := setTrackAlive_peerIp first
    refine ⟨(setTrackAlive_peerIp second).trans hfirst, ?_, fun a i ha hi => ?_⟩
    · intro name session group hsession hgroup
      change m2.sessions.lookup name = some session at hsession
      rw [hs1, hs0] at hsession
      exact ⟨session, hsession, hgroup⟩
    · change m2.rtpInstances.lookup a = some i at hi
      rw [hl1, hl0, AList.lookup_eq_none.mpr ha] at hi
      cases hi

theorem handleCmd_groups {w : World} {m : Media} {c : RtspConnection} {r : Handled}
    (h : handleCmd w m c = .ok r) : KeepsGroups m c r := by
  unfold handleCmd at h
  split at h
  · cases h
    exact keepsGroups_same rfl (.refl m) rfl
  · cases handleCmdDescribe_outcome h with
    | unknown => exact keepsGroups_same rfl (.refl m) rfl
    | described session session' sdp registered tracks multicast =>
      exact keepsGroups_same rfl (Media.groupsFrom_setSession registered multicast) rfl
  · exact handleCmdSetup_groups h
  · exact handleCmdPlay_groups h
  · cases h
    exact keepsGroups_same rfl (.refl m) rfl
  · cases h
    exact keepsGroups_same rfl (.refl m) rfl
  · cases h
    exact keepsGroups_same rfl (.refl m) rfl
  all_goals
    cases h
    exact keepsGroups_same rfl (.refl m) rfl

end RtspConnection

/-! ## Every action -/

/-- What `StartMulticast` adds: two instances that are not alive, and a group at the
address it has drawn. -/
inductive Media.GroupStarted (m : Media) (name : Octets) (w : MulticastWorld) : Media → Prop
  | unchanged : GroupStarted m name w m
  | started (rtp1 rtp2 i1 i2 session group) (fresh1 : rtp1 ∉ m.rtpInstances)
      (fresh2 : rtp2 ∉ m.rtpInstances) (idle1 : i1.isAlive = false) (idle2 : i2.isAlive = false)
      (multicast : session.multicast = some group) (addr : group.addr = w.addr) :
      GroupStarted m name w
        (setSession { m with rtpInstances := (m.rtpInstances.insert rtp1 i1).insert rtp2 i2 } name
          session)

theorem Media.startMulticast_group {m m' : Media} {name : Octets} {w : MulticastWorld}
    {effects : List Effect} (h : m.startMulticast name w = .ok (m', effects)) :
    m.GroupStarted name w m' := by
  unfold startMulticast at h
  split at h
  · cases h
    exact .unchanged
  split at h
  · cases h
    exact .unchanged
  split at h
  · simp only [newRtpInstance] at h
    cases h
    generalize hrtp2 : freshAddress _ (w.newRtp 1) = rtp2
    have hfresh2 := hrtp2 ▸ freshAddress_fresh _ (w.newRtp 1)
    rw [AList.mem_insert, not_or] at hfresh2
    exact .started _ rtp2 _ _ _ _ (m.freshAddress_fresh _) hfresh2.2 rfl rfl rfl rfl
  · cases h

namespace GroupsSilent

variable {s s' : Server} {effects : List Effect}

theorem empty : GroupsSilent {} := by
  constructor
  · exact ownership_empty
  · intro fd conn h
    cases h
  · intro fd t a i h
    cases h
  · intro a i h
    cases h
  · intro name session group h
    cases h

/-- Only sessions change, and no group is new. -/
theorem sessions (h : GroupsSilent s) {m : Media} (hown : Ownership s.slotOf m)
    (hheap : m.rtpInstances = s.media.rtpInstances) (hgroups : s.media.GroupsFrom m) :
    GroupsSilent { s with media := m } := by
  refine ⟨hown, h.peers, fun fd t a i hslot hi => ?_, fun a i hi => ?_, ?_⟩
  · exact h.slots fd t a i hslot (hheap ▸ hi)
  · exact h.idle a i (hheap ▸ hi)
  · intro name session group hsession hgroup
    obtain ⟨before, hbefore, hbeforeGroup⟩ := hgroups name session group hsession hgroup
    exact h.groups name before group hbefore hbeforeGroup

theorem startMulticast (h : GroupsSilent s) {name : Octets} {w : MulticastWorld} {m : Media}
    (haddr : IsGroupText w.addr) (hown : Ownership s.slotOf m)
    (hstart : s.media.GroupStarted name w m) : GroupsSilent { s with media := m } := by
  cases hstart with
  | unchanged => exact h
  | started rtp1 rtp2 i1 i2 session group fresh1 fresh2 idle1 idle2 multicast addr =>
    refine ⟨hown, h.peers, fun fd t a i hslot hi => ?_, fun a i hi hgroup => ?_, ?_⟩
    · have hlive := h.owned.slotsLive hslot
      have hne1 : a ≠ rtp1 := fun heq => fresh1 (heq ▸ hlive)
      have hne2 : a ≠ rtp2 := fun heq => fresh2 (heq ▸ hlive)
      change ((s.media.rtpInstances.insert rtp1 i1).insert rtp2 i2).lookup a = some i at hi
      rw [AList.lookup_insert_ne hne2, AList.lookup_insert_ne hne1] at hi
      exact h.slots fd t a i hslot hi
    · change ((s.media.rtpInstances.insert rtp1 i1).insert rtp2 i2).lookup a = some i at hi
      by_cases heq2 : a = rtp2
      · subst heq2
        rw [AList.lookup_insert] at hi
        cases hi
        exact idle2
      rw [AList.lookup_insert_ne heq2] at hi
      by_cases heq1 : a = rtp1
      · subst heq1
        rw [AList.lookup_insert] at hi
        cases hi
        exact idle1
      rw [AList.lookup_insert_ne heq1] at hi
      exact h.idle a i hi hgroup
    · intro other found foundGroup hfound hfoundGroup
      change (s.media.sessions.insert name session).lookup other = some found at hfound
      by_cases heq : other = name
      · subst heq
        rw [AList.lookup_insert] at hfound
        cases hfound
        rw [multicast] at hfoundGroup
        cases hfoundGroup
        rw [addr]
        exact haddr
      · rw [AList.lookup_insert_ne heq] at hfound
        exact h.groups other found foundGroup hfound hfoundGroup

/-- A connection is put under a descriptor whose peer is no group. -/
theorem peers_insert (h : GroupsSilent s) {sockfd : Nat} {conn : Connection}
    (hpeer : ¬ IsGroupText conn.rtsp.peerIp) {fd : Nat} {other : Connection}
    (hother : (s.connections.insert sockfd conn).lookup fd = some other) :
    ¬ IsGroupText other.rtsp.peerIp := by
  by_cases heq : fd = sockfd
  · subst heq
    rw [AList.lookup_insert] at hother
    cases hother
    exact hpeer
  · rw [AList.lookup_insert_ne heq] at hother
    exact h.peers fd other hother

theorem accept (h : GroupsSilent s) {connfd : Nat} {peer : Accepted}
    (hpeer : ¬ IsGroupText peer.peerIp)
    (hown : Ownership (s.handleNewConnection connfd peer).slotOf s.media) :
    GroupsSilent (s.handleNewConnection connfd peer) := by
  refine ⟨hown, fun _ _ hconn => h.peers_insert hpeer hconn, fun fd t a i hslot hi => ?_, h.idle,
    h.groups⟩
  rw [Server.handleNewConnection, Server.slotOf_insert] at hslot
  split at hslot
  · cases hslot
  · exact h.slots fd t a i hslot hi

/-- **A handled request keeps the groups silent**: PLAY sets alive what is in the
slots, and SETUP puts nothing there that sends to a group. -/
theorem handled (h : GroupsSilent s) {sockfd : Nat} {conn : Connection} {request : Request}
    {w : World} {r : Handled} {buffer : Octets}
    (hconn : s.connections.lookup sockfd = some conn)
    (hhandler : RtspConnection.handleCmd w s.media { conn.rtsp with request := request } = .ok r)
    (hown : Ownership (s.afterHandled sockfd r buffer).slotOf r.media) :
    GroupsSilent (s.afterHandled sockfd r buffer) := by
  have hslots := Server.slotOf_of_lookup hconn
  have hpeer := h.peers sockfd conn hconn
  obtain ⟨hpeerIp, hgroups, hfresh⟩ := RtspConnection.handleCmd_groups hhandler
  have hpeers : ∀ fd other, (s.afterHandled sockfd r buffer).connections.lookup fd = some other →
      ¬ IsGroupText other.rtsp.peerIp := fun _ _ hother => h.peers_insert (hpeerIp ▸ hpeer) hother
  have hfrom : ∀ name session group, r.media.sessions.lookup name = some session →
      session.multicast = some group → IsGroupText group.addr := by
    intro name session group hsession hgroup
    obtain ⟨before, hbefore, hbeforeGroup⟩ := hgroups name session group hsession hgroup
    exact h.groups name before group hbefore hbeforeGroup
  cases RtspConnection.handleCmd_change hhandler with
  | quiet slots heap tracks multicast =>
    have hsame : (s.afterHandled sockfd r buffer).slotOf = s.slotOf :=
      Server.slotOf_insert_same hconn slots
    exact ⟨hown, hpeers, fun fd t a i hs hi => h.slots fd t a i (hsame ▸ hs) (heap ▸ hi),
      fun a i hi => h.idle a i (heap ▸ hi), hfrom⟩
  | setup track rtp i name asked free fresh idle slots heap tracks multicast =>
    refine ⟨hown, hpeers, fun fd t a j hs hj hgroup => ?_, fun a j hj hgroup => ?_, hfrom⟩
    · by_cases ha : a ∈ s.media.rtpInstances
      · have hne : a ≠ rtp := fun heq => fresh (heq ▸ ha)
        have hold : s.slotOf fd t = some a :=
          (Server.afterHandled_slot hconn slots hs).resolve_left fun hnew => hne hnew.2.2
        change r.media.rtpInstances.lookup a = some j at hj
        rw [heap, AList.lookup_insert_ne hne] at hj
        exact h.slots fd t a j hold hj hgroup
      · exact hpeer (hfresh a j ha hj hgroup)
    · change r.media.rtpInstances.lookup a = some j at hj
      by_cases heq : a = rtp
      · subst heq
        rw [heap, AList.lookup_insert] at hj
        cases hj
        exact idle
      · rw [heap, AList.lookup_insert_ne heq] at hj
        exact h.idle a j hj hgroup
  | play asked ok slots heap tracks multicast =>
    have hsame : (s.afterHandled sockfd r buffer).slotOf = s.slotOf :=
      Server.slotOf_insert_same hconn slots
    -- `SetAlive` changes no address.
    have hold : ∀ {a j}, r.media.rtpInstances.lookup a = some j → ∃ i,
        s.media.rtpInstances.lookup a = some i ∧ (j.ToGroup → i.ToGroup) ∧
          (j = i ∨ ∃ t, s.slotOf sockfd t = some a) := by
      intro a j hj
      rw [heap, Option.map_eq_some_iff] at hj
      obtain ⟨i, hi, rfl⟩ := hj
      refine ⟨i, hi, ?_, ?_⟩
      · split <;> exact id
      · split
        · rename_i hown
          rw [hslots]
          exact Or.inr (hown.elim (fun hzero => ⟨0, hzero⟩) fun hone => ⟨1, hone⟩)
        · exact Or.inl rfl
    refine ⟨hown, hpeers, fun fd t a j hs hj hgroup => ?_, fun a j hj hgroup => ?_, hfrom⟩
    · obtain ⟨i, hi, hsends, -⟩ := hold hj
      exact h.slots fd t a i (hsame ▸ hs) hi (hsends hgroup)
    · obtain ⟨i, hi, hsends, rfl | ⟨t, hslot⟩⟩ := hold hj
      · exact h.idle a j hi hgroup
      · exact absurd (hsends hgroup) (h.slots sockfd t a i hslot hi)

theorem trigger (h : GroupsSilent s) {fds : List Nat}
    (hd : s.destroyAll fds = .ok (s', effects)) :
    GroupsSilent { s' with disconnectedList := [] } := by
  obtain ⟨hshrinks, hgroups⟩ := Server.destroyAll_shrinks hd
  have hown := Server.destroyAll_ownership h.owned hd
  refine ⟨hown, fun fd conn hconn => ?_, fun fd t a i hslot hi => ?_, fun a i hi => ?_, ?_⟩
  · change s'.connections.lookup fd = some conn at hconn
    rw [Server.destroyAll_connections hd fd] at hconn
    split at hconn
    · cases hconn
    · exact h.peers fd conn hconn
  · exact h.slots fd t a i (Server.destroyAll_heap h.owned hd hslot).1 (hshrinks hi)
  · exact h.idle a i (hshrinks hi)
  · intro name session group hsession hgroup
    obtain ⟨before, hbefore, hbeforeGroup⟩ := hgroups name session group hsession hgroup
    exact h.groups name before group hbefore hbeforeGroup

theorem read (h : GroupsSilent s) {sockfd : Nat} {conn : Connection} {bytes : Octets} {w : World}
    {r : ReadResult} (hconn : s.connections.lookup sockfd = some conn)
    (hread : conn.handleRead w s.media bytes = .ok r)
    (hown : Ownership (s.afterRead sockfd r).slotOf r.media) :
    GroupsSilent (s.afterRead sockfd r) := by
  cases Connection.handleRead_request hread with
  | unhandled request media rtsp =>
    have hslots : (s.afterRead sockfd r).slotOf = s.slotOf :=
      Server.slotOf_insert_same hconn (by rw [rtsp])
    have hmedia : (s.afterRead sockfd r).media = s.media := media
    refine ⟨hown, fun fd other hother => ?_, ?_, ?_, ?_⟩
    · change (s.connections.insert sockfd r.conn).lookup fd = some other at hother
      by_cases heq : fd = sockfd
      · subst heq
        rw [AList.lookup_insert] at hother
        cases hother
        rw [rtsp]
        exact h.peers fd conn hconn
      · rw [AList.lookup_insert_ne heq] at hother
        exact h.peers fd other hother
    · rw [hslots, hmedia]
      exact h.slots
    · rw [hmedia]
      exact h.idle
    · rw [hmedia]
      exact h.groups
  | handled request handled parsed handler media rtsp ok =>
    have hafter : s.afterRead sockfd r = s.afterHandled sockfd handled r.conn.inputBuffer := by
      rw [Server.afterRead, Server.afterHandled, media, ← rtsp, ok]
    rw [hafter] at hown ⊢
    exact h.handled hconn handler (media ▸ hown)

/-- **Every action keeps the groups silent.** -/
theorem step {act : ServerAct} (h : GroupsSilent s) (hact : Addressed act)
    (hstep : s.step act = .ok (s', effects)) : GroupsSilent s' := by
  have hown := Server.step_ownership h.owned hstep
  cases Server.step_outcome hstep with
  | ignored => exact h
  | session name =>
    refine h.sessions hown ?_ (s.media.groupsFrom_addMediaSession name)
    unfold Media.addMediaSession
    split <;> rfl
  | sink name track sink =>
    refine h.sessions hown ?_ (s.media.groupsFrom_addRtpSink name track sink)
    unfold Media.addRtpSink
    split <;> rfl
  | multicast name w m effects started =>
    simp only [Server.step] at hstep
    split at hstep <;> cases hstep
    obtain ⟨rand, hdrawn⟩ := hact
    have haddr : IsGroupText w.addr := hdrawn ▸ isGroupText_drawn rand
    exact h.startMulticast haddr hown (Media.startMulticast_group ‹_›)
  | accept connfd peer new => exact h.accept hact hown
  | read sockfd bytes w conn r reported =>
    rcases Server.step_read hstep with hsame | ⟨conn', r', hreadable, -, hread, hafter, -⟩
    · rw [hsame]
      exact h
    · rw [hafter] at hown ⊢
      exact h.read (Server.readable_some hreadable).1 hread hown
  | hangup => exact ⟨hown, h.peers, h.slots, h.idle, h.groups⟩
  | trigger s'' effects destroyed => exact h.trigger destroyed
  | packet => exact h

end GroupsSilent

namespace Server

/-- **The run lemma**: in every run the groups are silent. -/
theorem run_groupsSilent {acts : List ServerAct} {s : Server} {effects : List Effect}
    (hacts : ∀ act ∈ acts, Addressed act) (hrun : run step {} acts = .ok (s, effects)) :
    GroupsSilent s :=
  run_invariant GroupsSilent (fun _ _ _ _ h hact hstep => h.step hact hstep) .empty
    (meets_of_forall hacts) hrun

/-! ## The packets of a multicast session -/

/-- A datagram to the address and port. -/
def goesTo (addr : Octets) (port : UInt16) : Effect → Bool
  | .datagram _ _ ip p _ => ip = addr && p = port
  | _ => false

/-- How many datagrams go to an address and port. -/
def deliveries (addr : Octets) (port : UInt16) (effects : List Effect) : Nat :=
  effects.countP (goesTo addr port)

/-- A client of the session has had its SETUP answered with the multicast transport,
and then its PLAY accepted. -/
def ServedByMulticast (name : Octets) (effects : List Effect) : Prop :=
  ∃ fd message answer setup play i j,
    effects[i]? = some (.reply fd message answer) ∧ effects[i + 1]? = some (.accepted fd setup) ∧
      effects[j]? = some (.accepted fd play) ∧ i + 1 < j ∧
      (∀ k < j, i < k → effects[k]? ≠ some (.connected fd)) ∧
      setup.method = .setup ∧ RtspConnection.sessionNameOf setup.suffix = .ok (some name) ∧
      Transport.multicast.announcement <:+: message ∧ play.method = .play

/-- What the track sends now is for a client of the session's group. -/
structure PacketDue (s : Server) (effects : List Effect) (name : Octets) (track : TrackId)
    (session : MediaSession) (group : MulticastGroup) : Prop where
  registered : s.media.sessions.lookup name = some session
  multicast : session.multicast = some group
  alive : (session.tracks track).isAlive = true
  served : ServedByMulticast name effects

/-- The packet goes once to the destination of its track. -/
def DeliveredOnce (s : Server) (name : Octets) (track : TrackId) (packet : MediaPacket)
    (answers : Nat → WriteAnswer) (session : MediaSession) (group : MulticastGroup) : Prop :=
  ∃ s' sent port, s.step (.packet name track packet answers) = .ok (s', sent) ∧
    session.getMulticastDestRtpPort s.media.rtpInstances track = .ok port ∧
    deliveries group.addr port sent = 1

/-- Every packet of the run that is due to a group is delivered to it. -/
def DeliversMulticast (acts : List ServerAct) : Prop :=
  ∀ before name track packet answers after,
    acts = before ++ .packet name track packet answers :: after →
      ∀ s effects session group, run step {} before = .ok (s, effects) →
        PacketDue s effects name track session group →
          DeliveredOnce s name track packet answers session group

/-- What goes to a group comes from an instance that sends to one. -/
theorem toGroup_of_goesTo {i : RtpInstance} {rtp : Nat} {p : MediaPacket} {answer : WriteAnswer}
    {addr : Octets} {port : UInt16} (haddr : IsGroupText addr)
    (h : goesTo addr port (i.send rtp p answer).2 = true) : i.ToGroup := by
  rw [RtpInstance.send] at h
  rw [RtpInstance.ToGroup]
  cases htransport : i.transport with
  | overUdp localPort destIp destPort =>
    simp only [htransport, goesTo, Bool.and_eq_true, decide_eq_true_eq] at h
    obtain ⟨rfl, -⟩ := h
    exact haddr
  | overTcp channel =>
    simp only [htransport, goesTo, Bool.false_eq_true] at h

/-- What is sent comes from live instances, and none of these sends to a group. -/
theorem no_deliveries {s s' : Server} (h : GroupsSilent s) {name : Octets} {track : TrackId}
    {packet : MediaPacket} {answers : Nat → WriteAnswer} {sent : List Effect} {addr : Octets}
    (haddr : IsGroupText addr) (port : UInt16)
    (hstep : s.step (.packet name track packet answers) = .ok (s', sent)) :
    deliveries addr port sent = 0 := by
  rw [deliveries, List.countP_eq_zero]
  intro e he hgoes
  obtain ⟨rtp, i, p, n, hi, halive, rfl⟩ := packet_sent hstep e he
  rw [h.idle rtp i hi (toGroup_of_goesTo haddr hgoes)] at halive
  cases halive

theorem not_deliveredOnce {s : Server} {effects : List Effect} {name : Octets} {track : TrackId}
    {packet : MediaPacket} {answers : Nat → WriteAnswer} {session : MediaSession}
    {group : MulticastGroup} (h : GroupsSilent s)
    (hdue : PacketDue s effects name track session group) :
    ¬ DeliveredOnce s name track packet answers session group := by
  rintro ⟨s', sent, port, hstep, -, honce⟩
  have haddr := h.groups name session group hdue.registered hdue.multicast
  rw [no_deliveries h haddr port hstep] at honce
  cases honce

/-- **No packet that is due to a multicast group is delivered to it**, in any run:
nothing at all is sent to the group. -/
theorem multicast_undelivered (acts : List ServerAct) (hacts : ∀ act ∈ acts, Addressed act)
    (s : Server) (effects : List Effect) (hrun : run step {} acts = .ok (s, effects))
    (name : Octets) (track : TrackId) (packet : MediaPacket) (answers : Nat → WriteAnswer)
    (session : MediaSession) (group : MulticastGroup)
    (hdue : PacketDue s effects name track session group) :
    ¬ DeliveredOnce s name track packet answers session group ∧
      ∀ s' sent port, s.step (.packet name track packet answers) = .ok (s', sent) →
        deliveries group.addr port sent = 0 := by
  have hsilent := run_groupsSilent hacts hrun
  refine ⟨not_deliveredOnce hsilent hdue, fun s' sent port hstep => ?_⟩
  have haddr := hsilent.groups name session group hdue.registered hdue.multicast
  exact no_deliveries hsilent haddr port hstep

/-! ## A client of a group -/

def sampleMulticastWorld : MulticastWorld :=
  { addr := ascii "232.0.1.0", sockfd := fun i => some (30 + i), rand := 20000
    newRtp := fun track => 80 + track }

def sampleSink : ServerAct :=
  .addRtpSink (ascii "m") 0 (.h264 { base := { payloadType := rtpPayloadTypeH264 }, fps := 25 })

def sampleStart : ServerAct := .startMulticast (ascii "m") sampleMulticastWorld

/-- The session is set up in the given order, and a client plays its track. -/
def multicastClient (setUp : List ServerAct) : List ServerAct :=
  .addMediaSession (ascii "m") :: setUp ++
    [sampleConnect, sampleRequest "DESCRIBE rtsp://h/m" "Accept: application/sdp\r\n",
      sampleRequest "SETUP rtsp://h/m/track0" "Transport: RTP/AVP;multicast\r\n",
      sampleRequest "PLAY rtsp://h/m" "Session: 4d\r\n"]

/-- The requests of that client, as they are taken. -/
def multicastRequest (method : Method) (url suffix : String) : Request :=
  { method := method, url := ascii url, suffix := ascii suffix, cseq := 1, peerRtpPort := 0
    peerRtcpPort := 0, trackId := some 0, rtpChannel := 0 }

def multicastReply : Octets :=
  ascii "RTP/1.0 200 OK\r\nCSeq: 1\r\nTransport: RTP/AVP;multicast\r\n" ++
    ascii "destination=232.0.1.0;source=10.0.0.1;port:20000-20001;ttl=255\r\n" ++
    ascii "Session: 0000004d\r\n\r\n"

/-- That the client has been served when its run ends, as a test. -/
def clientServed (s : Server) (effects : List Effect) : Bool :=
  decide (effects[9]? = some (.reply 7 multicastReply (some 4096))) &&
  decide (effects[10]? =
    some (.accepted 7 (multicastRequest .setup "rtsp://h/m/track0" "m/track0"))) &&
  decide (effects[13]? = some (.accepted 7 (multicastRequest .play "rtsp://h/m" "m"))) &&
  decide (∀ k < 13, 9 < k → effects[k]? ≠ some (.connected 7)) &&
  (s.media.sessions.lookup (ascii "m")).any fun session =>
    session.multicast.isSome && (session.tracks 0).isAlive

theorem clientServed_due {s : Server} {effects : List Effect} (h : clientServed s effects = true) :
    ∃ session group, PacketDue s effects (ascii "m") 0 session group := by
  simp only [clientServed, Bool.and_eq_true, decide_eq_true_eq, Option.any_eq_true] at h
  obtain ⟨⟨⟨⟨hreply, hsetup⟩, hplay⟩, hsame⟩, session, hsession, hgroup, halive⟩ := h
  obtain ⟨group, hgroup⟩ := Option.isSome_iff_exists.mp hgroup
  refine ⟨session, group, hsession, hgroup, halive, 7, _, _, _, _, 9, 13, hreply, hsetup, hplay,
    by decide, hsame, rfl, by decide +kernel, by decide +kernel, rfl⟩

/-- The two orders in which `main` can set a session up. -/
def setUpOrders : List (List ServerAct) :=
  [[sampleSink, sampleStart], [sampleStart, sampleSink]]

theorem multicastClient_addressed {setUp : List ServerAct} (h : setUp ∈ setUpOrders) :
    ∀ act ∈ multicastClient setUp, Addressed act := by
  have hsink : Addressed sampleSink := trivial
  have hstart : Addressed sampleStart :=
    ⟨0, show ascii "232.0.1.0" = inetNtoa (multicastAddr 0) by decide⟩
  have hsetUp : ∀ act ∈ setUp, Addressed act := by
    intro act hact
    simp only [setUpOrders, List.mem_cons, List.not_mem_nil, or_false] at h
    rcases h with rfl | rfl <;> simp only [List.mem_cons, List.not_mem_nil, or_false] at hact <;>
      rcases hact with rfl | rfl <;> assumption
  have hconnect : Addressed sampleConnect := show ¬ IsGroupText (ascii "10.0.0.2") by decide
  intro act hact
  simp only [multicastClient, List.cons_append, List.mem_cons, List.mem_append, List.not_mem_nil,
    or_false] at hact
  rcases hact with rfl | hact | rfl | rfl | rfl | rfl
  · trivial
  · exact hsetUp act hact
  · exact hconnect
  · trivial
  · trivial
  · trivial

theorem multicastClient_due {setUp : List ServerAct} (h : setUp ∈ setUpOrders) :
    ∃ s effects session group, run step {} (multicastClient setUp) = .ok (s, effects) ∧
      PacketDue s effects (ascii "m") 0 session group := by
  have hserved : checkRun step {} (multicastClient setUp) clientServed = true := by
    simp only [setUpOrders, List.mem_cons, List.not_mem_nil, or_false] at h
    rcases h with rfl | rfl <;> decide +kernel
  obtain ⟨s, effects, hrun, hcheck⟩ := checkRun_true hserved
  obtain ⟨session, group, hdue⟩ := clientServed_due hcheck
  exact ⟨s, effects, session, group, hrun, hdue⟩

theorem header_fits : (rtpBufferOffset : Int) + rtpHeaderSize ≤ rtpAllocation := by decide

def multicastPacket : MediaPacket :=
  { memory := fun _ => 0, size := rtpHeaderSize, nonneg := Int.natCast_nonneg _, fits := header_fits }

theorem multicast_undelivered_sample : ∃ s session group,
    ¬ DeliveredOnce s (ascii "m") 0 multicastPacket (fun _ => some 4096) session group := by
  have horder : [sampleSink, sampleStart] ∈ setUpOrders := List.mem_cons_self
  obtain ⟨s, effects, session, group, hrun, hdue⟩ := multicastClient_due horder
  exact ⟨s, session, group, (multicast_undelivered _ (multicastClient_addressed horder) s effects
    hrun (ascii "m") 0 multicastPacket (fun _ => some 4096) session group hdue).1⟩

theorem client_undelivered {setUp : List ServerAct} (horder : setUp ∈ setUpOrders) :
    ¬ DeliversMulticast
      (multicastClient setUp ++ [.packet (ascii "m") 0 multicastPacket fun _ => some 4096]) := by
  intro hdelivers
  obtain ⟨s, effects, session, group, hrun, hdue⟩ := multicastClient_due horder
  have hsilent := run_groupsSilent (multicastClient_addressed horder) hrun
  exact not_deliveredOnce hsilent hdue
    (hdelivers _ _ _ _ _ [] rfl s effects session group hrun hdue)

/-- **In neither order does the session deliver** the packet after the PLAY. -/
theorem multicast_delivery_fails :
    ¬ DeliversMulticast (multicastClient [sampleSink, sampleStart] ++
        [.packet (ascii "m") 0 multicastPacket fun _ => some 4096]) ∧
      ¬ DeliversMulticast (multicastClient [sampleStart, sampleSink] ++
        [.packet (ascii "m") 0 multicastPacket fun _ => some 4096]) :=
  ⟨client_undelivered List.mem_cons_self,
    client_undelivered (List.mem_cons_of_mem _ List.mem_cons_self)⟩

end Server
end MyRtspServer.Net
