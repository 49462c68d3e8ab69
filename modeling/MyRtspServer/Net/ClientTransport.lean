import MyRtspServer.Net.ClientState
import MyRtspServer.Net.SessionIdentifier

/-!
# What the instances of a client are

The accepted requests also say what the instances are: the transport is the one that the
members of the connection named when the SETUP of the track was accepted, and the session
identifier is that of the connection. A track that has been set up has an instance of its
own, unless the session that was described then is multicast.
-/
namespace MyRtspServer.Net

open Library Library.Octets Library.Transition

/-- What stays the same as long as an instance lives. -/
def RtpInstance.kind (i : RtpInstance) : RtpTransport × UInt16 := (i.transport, i.sessionId)

/-- The session is multicast. -/
def Media.Multicasts (m : Media) (name : Octets) : Prop := ∃ t a, m.multicastOf name t = some a

theorem multicasts_of_described {m : Media} {c : RtspConnection}
    (h : describedMulticast m c = true) :
    ∃ name, c.session = some name ∧ m.Multicasts name := by
  unfold describedMulticast at h
  split at h
  · cases h
  rename_i name hname
  split at h
  · cases h
  rename_i session hsession
  obtain ⟨group, hgroup⟩ := Option.isSome_iff_exists.mp h
  refine ⟨name, hname, 0, group.rtpInstances 0, ?_⟩
  rw [Media.multicastOf_of_lookup hsession, hgroup]
  rfl

/-- The transport of a track that has an instance is that of the instance. -/
theorem usedTransport_own {m : Media} {c : RtspConnection} {t : TrackId} {a : Nat}
    (h : c.rtpInstances t = some a) : usedTransport m c t ≠ some .multicast := by
  unfold usedTransport
  rw [h]
  dsimp only
  split
  · exact fun heq => by cases heq
  · split <;> simp

theorem usedTransport_congr {m m' : Media} {c c' : RtspConnection} {t : TrackId} {a : Nat}
    (hslot : c.rtpInstances t = some a) (hslot' : c'.rtpInstances t = some a)
    (hheap : (m'.rtpInstances.lookup a).map RtpInstance.kind =
      (m.rtpInstances.lookup a).map RtpInstance.kind)
    (hrtcp : (c'.rtcpInstances t).map RtcpInstance.destPort =
      (c.rtcpInstances t).map RtcpInstance.destPort) :
    usedTransport m' c' t = usedTransport m c t := by
  have hnamed : ∀ (n : Media) (d : RtspConnection), d.rtpInstances t = some a →
      usedTransport n d t = match (n.rtpInstances.lookup a).map RtpInstance.kind,
        (d.rtcpInstances t).map RtcpInstance.destPort with
      | none, _ => none
      | some (.overTcp channel, _), _ => some (.interleaved channel.toNat)
      | some (.overUdp _ _ rtpPort, _), some rtcpPort =>
        some (.clientPorts rtpPort.toNat rtcpPort.toNat)
      | some (.overUdp _ _ _, _), none => none := by
    intro n d hd
    unfold usedTransport
    rw [hd]
    dsimp only
    cases n.rtpInstances.lookup a with
    | none => rfl
    | some i =>
      obtain ⟨transport, sockFd, isAlive, sessionId⟩ := i
      cases transport <;> cases d.rtcpInstances t <;> rfl
  rw [hnamed m' c' hslot', hnamed m c hslot, hheap, hrtcp]

/-- An instance of the same kind has the same identifier. -/
theorem sessionId_of_kind {m m' : Media} {a : Nat} {i : RtpInstance}
    (hkind : (m'.rtpInstances.lookup a).map RtpInstance.kind =
      (m.rtpInstances.lookup a).map RtpInstance.kind)
    (hi : m'.rtpInstances.lookup a = some i) :
    ∃ j, m.rtpInstances.lookup a = some j ∧ i.sessionId = j.sessionId := by
  rw [hi] at hkind
  obtain ⟨j, hj, hsame⟩ := Option.map_eq_some_iff.mp hkind.symm
  exact ⟨j, hj, (congrArg Prod.snd hsame).symm⟩

/-- What the accepted requests say of the instances of a connection. -/
structure RtspConnection.Equipped (m : Media) (c : RtspConnection) (history : List Request) :
    Prop where
  transport : ∀ {t a}, c.rtpInstances t = some a →
    usedTransport m c t = (clientState history).transports t
  identifier : ∀ {t a i}, c.rtpInstances t = some a → m.rtpInstances.lookup a = some i →
    i.sessionId = c.sessionId.toUInt16
  granted : ∀ {t}, (clientState history).tracks t ≠ .init → c.rtpInstances t = none →
    ∃ name, (clientState history).sessions t = some name ∧ m.Multicasts name

namespace RtspConnection

variable {w : World} {m m' : Media} {c : RtspConnection} {r : Handled} {history : List Request}

theorem equipped_create (m : Media) (connfd : Nat) (peer : Accepted) :
    (create connfd peer).Equipped m [] :=
  ⟨fun h => (by cases h), fun h => (by cases h), fun h => absurd rfl h⟩

/-- The instances of a connection to which nothing happens are left alone. -/
theorem Equipped.kept (h : c.Equipped m history)
    (hheap : ∀ {t a}, c.rtpInstances t = some a →
      (m'.rtpInstances.lookup a).map RtpInstance.kind =
        (m.rtpInstances.lookup a).map RtpInstance.kind)
    (hgroups : ∀ {name}, m.Multicasts name → m'.Multicasts name) (request : Request) :
    Equipped m' { c with request := request } history := by
  constructor
  · intro t a hslot
    exact (usedTransport_congr (c := c) hslot hslot (hheap hslot) rfl).trans (h.transport hslot)
  · intro t a i hslot hi
    obtain ⟨j, hj, hsame⟩ := sessionId_of_kind (hheap hslot) hi
    exact hsame.trans (h.identifier hslot hj)
  · intro t hasked hnone
    obtain ⟨name, hname, hgroup⟩ := h.granted hasked hnone
    exact ⟨name, hname, hgroups hgroup⟩

/-! ## A request -/

theorem handleCmd_kind (h : handleCmd w m c = .ok r) {a : Nat} (hlive : a ∈ m.rtpInstances) :
    (r.media.rtpInstances.lookup a).map RtpInstance.kind =
      (m.rtpInstances.lookup a).map RtpInstance.kind := by
  cases handleCmd_change h with
  | quiet slots heap => rw [heap]
  | setup track rtp i name asked free fresh idle slots heap =>
    have hne : a ≠ rtp := by
      rintro rfl
      exact fresh hlive
    rw [heap, AList.lookup_insert_ne hne]
  | play asked ok slots heap =>
    rw [heap, Option.map_map]
    refine congrArg (Option.map · _) (funext fun i => ?_)
    dsimp only [Function.comp_apply]
    split <;> rfl

theorem handleCmd_multicastOf (h : handleCmd w m c = .ok r) :
    r.media.multicastOf = m.multicastOf := by
  cases handleCmd_change h <;> assumption

theorem setTrackAlive_rtcps {c' : RtspConnection} {track : TrackId}
    (h : setTrackAlive m c track = .ok (m', c')) (t : TrackId) :
    (c'.rtcpInstances t).map RtcpInstance.destPort =
      (c.rtcpInstances t).map RtcpInstance.destPort := by
  have halive : ((c.setRtcpInstance track ((c.rtcpInstances track).map fun rtcp =>
      { rtcp with isAlive := true })).rtcpInstances t).map RtcpInstance.destPort =
        (c.rtcpInstances t).map RtcpInstance.destPort := by
    by_cases ht : t = track
    · subst ht
      simp only [setRtcpInstance, Function.update_self, Option.map_map]
      rfl
    · simp only [setRtcpInstance, Function.update_of_ne ht]
  unfold setTrackAlive at h
  dsimp only at h
  split at h
  · cases h
    exact halive
  · split at h
    · cases h
    · cases h
      exact halive

/-- The RTCP ports of the tracks that are in use stay. -/
theorem handleCmd_rtcps (h : handleCmd w m c = .ok r) {t : TrackId} {a : Nat}
    (hslot : c.rtpInstances t = some a) :
    (r.conn.rtcpInstances t).map RtcpInstance.destPort =
      (c.rtcpInstances t).map RtcpInstance.destPort := by
  unfold handleCmd at h
  split at h
  · cases h
    rfl
  · cases handleCmdDescribe_outcome h with
    | unknown => rfl
    | described => rfl
  · cases handleCmdSetup_answer h with
    | refused => rfl
    | multicast => rfl
    | overTcp => rfl
    | overUdp name session track described describedSession found =>
      have hne : t ≠ track := by
        rintro rfl
        exact absurd (hslot.symm.trans found.rtpFree) (Option.some_ne_none a)
      unfold setupOverUdp
      split
      · rfl
      · exact congrArg (Option.map _) (Function.update_of_ne hne _ _)
  · cases handleCmdPlay_outcome h with
    | unsent => rfl
    | playing m1 c1 m2 c2 first second =>
      exact (setTrackAlive_rtcps second t).trans (setTrackAlive_rtcps first t)
  all_goals
    cases h
    rfl

/-- A new instance gets the identifier of its connection. -/
theorem handleCmdSetup_identifier (h : handleCmdSetup w m c = .ok r) {t : TrackId} {a : Nat}
    {i : RtpInstance} (hfree : c.rtpInstances t = none) (hslot : r.conn.rtpInstances t = some a)
    (hi : r.media.rtpInstances.lookup a = some i) : i.sessionId = c.sessionId.toUInt16 := by
  have hnone : ¬ c.rtpInstances t = some a := fun heq => by
    rw [hfree] at heq
    cases heq
  have hnew : ∀ {track : TrackId} {rtp : Nat},
      Function.update c.rtpInstances track (some rtp) t = some a → a = rtp := by
    intro track rtp hset
    rw [Function.update_apply] at hset
    split at hset
    · exact (Option.some.inj hset).symm
    · exact absurd hset hnone
  cases handleCmdSetup_answer h with
  | refused => exact absurd hslot hnone
  | multicast => exact absurd hslot hnone
  | overTcp name session track described describedSession found =>
    obtain rfl := hnew hslot
    have hinserted := hi.symm.trans (AList.lookup_insert _)
    obtain rfl := Option.some.inj hinserted
    rfl
  | overUdp name session track described describedSession found =>
    unfold setupOverUdp at hslot hi
    split at hslot
    · exact absurd hslot hnone
    · rename_i pair
      obtain rfl := hnew hslot
      simp only [pair] at hi
      have hinserted := hi.symm.trans (AList.lookup_insert _)
      obtain rfl := Option.some.inj hinserted
      rfl

/-- What an accepted SETUP has granted the track. -/
theorem handleCmd_setup_grants (h : handleCmd w m c = .ok r) (hok : r.ok = true) {t : TrackId}
    (hsetup : IsSetup t c.request) :
    usedTransport r.media r.conn t = some (grantedTransport m c) := by
  unfold handleCmd at h
  rw [hsetup.1] at h
  obtain ⟨track, htrack, hgrants⟩ := handleCmdSetup_grants h hok
  obtain rfl : t = track := Option.some.inj (hsetup.2.symm.trans htrack)
  exact hgrants.used

/-- Each instance carries the identifier of its connection. -/
theorem handleCmd_identifier (h : handleCmd w m c = .ok r) (hok : r.ok = true)
    (hlive : ∀ {t a}, c.rtpInstances t = some a → a ∈ m.rtpInstances) (he : c.Equipped m history)
    {t : TrackId} {a : Nat} {i : RtpInstance} (hslot : r.conn.rtpInstances t = some a)
    (hi : r.media.rtpInstances.lookup a = some i) : i.sessionId = r.conn.sessionId.toUInt16 := by
  rw [handleCmd_sessionId h]
  rcases handleCmd_slot h hslot with hkept | ⟨hsetup, -⟩
  · obtain ⟨j, hj, hsame⟩ := sessionId_of_kind (handleCmd_kind h (hlive hkept)) hi
    exact hsame.trans (he.identifier hkept hj)
  · have hfree := handleCmd_setup_free h hok hsetup
    unfold handleCmd at h
    rw [hsetup.1] at h
    exact handleCmdSetup_identifier h hfree hslot hi

/-- **An accepted request is a move of the state machine.** -/
theorem handleCmd_equipped (h : handleCmd w m c = .ok r) (hok : r.ok = true)
    (hlive : ∀ {t a}, c.rtpInstances t = some a → a ∈ m.rtpInstances)
    (hdescribed : c.session = (clientState history).described) (he : c.Equipped m history) :
    r.conn.Equipped r.media (history ++ [c.request]) := by
  have hgroups : ∀ {name}, m.Multicasts name → r.media.Multicasts name := by
    rintro name ⟨t, a, ha⟩
    exact ⟨t, a, by rw [handleCmd_multicastOf h]; exact ha⟩
  constructor
  · intro t a hslot
    rw [clientState_concat]
    by_cases hsetup : IsSetup t c.request
    · have hused := handleCmd_setup_grants h hok hsetup
      have hunicast := usedTransport_own (m := r.media) hslot
      rw [ClientState.next_transport hsetup, hused]
      rw [hused, grantedTransport] at hunicast
      unfold grantedTransport
      split
      · rename_i hmulticast
        rw [if_pos hmulticast] at hunicast
        exact absurd rfl hunicast
      · rfl
    · have hkept := (handleCmd_slot h hslot).resolve_right fun hnew => hsetup hnew.1
      rw [(ClientState.next_kept hsetup).1, ← he.transport hkept]
      exact usedTransport_congr hkept hslot (handleCmd_kind h (hlive hkept))
        (handleCmd_rtcps h hkept)
  · exact fun hslot hi => handleCmd_identifier h hok hlive he hslot hi
  · intro t hasked hnone
    rw [clientState_concat] at hasked ⊢
    by_cases hsetup : IsSetup t c.request
    · have hused := handleCmd_setup_grants h hok hsetup
      rw [usedTransport_free hnone, grantedTransport] at hused
      rw [ClientState.next_session hsetup, ← hdescribed]
      by_cases hmulticast : describedMulticast m c = true
      · obtain ⟨name, hname, hgroup⟩ := multicasts_of_described hmulticast
        exact ⟨name, hname, hgroups hgroup⟩
      · rw [if_neg hmulticast] at hused
        exact absurd (Option.some.inj hused).symm (Request.memberTransport_unicast c.request)
    · have hold := mt (ClientState.next_init hsetup) hasked
      have hfree : c.rtpInstances t = none := by
        cases handleCmd_change h with
        | quiet slots => exact slots ▸ hnone
        | setup track rtp i name asked free fresh idle slots heap =>
          have hne : t ≠ track := by
            rintro rfl
            exact hsetup asked
          rw [slots, Function.update_of_ne hne] at hnone
          exact hnone
        | play asked ok slots => exact slots ▸ hnone
      obtain ⟨name, hname, hgroup⟩ := he.granted hold hfree
      exact ⟨name, (ClientState.next_kept hsetup).2.trans hname, hgroups hgroup⟩

end RtspConnection

/-! ## Runs of the server -/

namespace Server

variable {s s' : Server} {history : Nat → List Request} {effects : List Effect}

/-- What the accepted requests say of the instances of each client. -/
def Equipped (s : Server) (history : Nat → List Request) : Prop :=
  ∀ fd conn, s.connections.lookup fd = some conn → fd ∉ s.disconnectedList →
    conn.rtsp.Equipped s.media (history fd)

theorem equipped_empty : Equipped {} fun _ => [] := fun _ _ h => (by cases h)

theorem destroyAll_multicastOf {fds : List Nat} : ∀ {s s' : Server} {effects : List Effect},
    s.destroyAll fds = .ok (s', effects) → s'.media.multicastOf = s.media.multicastOf := by
  induction fds with
  | nil =>
    intro s s' effects hd
    cases hd
    rfl
  | cons sockfd rest ih =>
    intro s s' effects hd
    obtain ⟨conn, m1, m2, first, later, hconn, h0, h1, hrest, -, -⟩ := destroyAll_cons hd
    exact (ih hrest).trans (h1.multicast.trans h0.multicast)

/-- A multicast session stays one. -/
theorem step_multicasts {act : ServerAct} (hstep : s.step act = .ok (s', effects))
    {name : Octets} (h : s.media.Multicasts name) : s'.media.Multicasts name := by
  obtain ⟨t, a, ha⟩ := h
  have hsame : s'.media.multicastOf = s.media.multicastOf → s'.media.Multicasts name :=
    fun hof => ⟨t, a, by rw [hof]; exact ha⟩
  by_cases hact : act = .trigger
  · subst hact
    cases step_outcome hstep with
    | ignored => exact ⟨t, a, ha⟩
    | trigger s'' effects destroyed =>
      have hof := destroyAll_multicastOf destroyed
      exact hsame hof
  · cases step_change hact hstep with
    | still slots heap tracks multicast => exact hsame multicast
    | setup sockfd track rtp i other free fresh slots heap tracks multicast => exact hsame multicast
    | play slots heap tracks multicast => exact hsame multicast
    | sink slots heap lists alive multicast => exact hsame multicast
    | multicast other rtp i0 i1 none_ fresh apart slots heap tracks multicasts =>
      refine ⟨t, a, ?_⟩
      have hne : name ≠ other := by
        rintro rfl
        rw [none_] at ha
        cases ha
      rw [multicasts, if_neg hne]
      exact ha

namespace Equipped

/-- Nothing happens to a connection that is not given up. -/
theorem same (h : s.Equipped history)
    (hconn : ∀ {fd conn}, s'.connections.lookup fd = some conn → fd ∉ s'.disconnectedList →
      s.connections.lookup fd = some conn ∧ fd ∉ s.disconnectedList)
    (hheap : ∀ {fd t a}, s'.slotOf fd t = some a → s.slotOf fd t = some a →
      (s'.media.rtpInstances.lookup a).map RtpInstance.kind =
        (s.media.rtpInstances.lookup a).map RtpInstance.kind)
    (hgroups : ∀ {name}, s.media.Multicasts name → s'.media.Multicasts name) :
    s'.Equipped history := by
  intro fd conn hlookup hopen
  obtain ⟨hold, hopen'⟩ := hconn hlookup hopen
  refine (h fd conn hold hopen').kept (fun {t a} hslot => ?_) hgroups conn.rtsp.request
  exact hheap ((congrFun (slotOf_of_lookup hlookup) t).trans hslot)
    ((congrFun (slotOf_of_lookup hold) t).trans hslot)

theorem accept (h : s.Equipped history) (connfd : Nat) (peer : Accepted) :
    (s.handleNewConnection connfd peer).Equipped (Function.update history connfd []) := by
  intro fd conn hlookup hopen
  by_cases hfd : fd = connfd
  · subst hfd
    rw [handleNewConnection, AList.lookup_insert] at hlookup
    cases hlookup
    rw [Function.update_self]
    exact RtspConnection.equipped_create _ _ _
  · rw [handleNewConnection, AList.lookup_insert_ne hfd] at hlookup
    rw [Function.update_of_ne hfd]
    exact h fd conn hlookup hopen

/-- An accepted request is a move of one state machine. -/
theorem handled (h : s.Equipped history) (hf : Follows s history)
    (ho : Ownership s.slotOf s.media) {sockfd : Nat} {conn : Connection} {request : Request}
    {w : World} {r : Handled}
    (hconn : s.connections.lookup sockfd = some conn) (hopen : sockfd ∉ s.disconnectedList)
    (hhandler : RtspConnection.handleCmd w s.media { conn.rtsp with request := request } = .ok r)
    (hgroups : ∀ {name}, s.media.Multicasts name → r.media.Multicasts name) (buffer : Octets) :
    (s.afterHandled sockfd r buffer).Equipped (record history sockfd request r.ok) := by
  have hslots := slotOf_of_lookup hconn
  intro fd other hother hfd
  by_cases heq : fd = sockfd
  · subst heq
    have hok : r.ok = true := by
      unfold afterHandled at hfd
      dsimp only at hfd
      split at hfd
      · assumption
      · exact absurd (List.mem_append_right _ (List.mem_singleton_self _)) hfd
    rw [afterHandled, AList.lookup_insert] at hother
    cases hother
    rw [record_accepted hok]
    refine RtspConnection.handleCmd_equipped hhandler hok (fun {t a} hslot => ?_)
      (hf.described hconn hopen) ((h fd conn hconn hopen).kept (fun _ => rfl) id request)
    exact ho.slotsLive ((congrFun hslots t).trans hslot)
  · have hold : fd ∉ s.disconnectedList := by
      unfold afterHandled at hfd
      dsimp only at hfd
      split at hfd
      · exact hfd
      · exact fun hmem => hfd (List.mem_append_left _ hmem)
    rw [afterHandled, AList.lookup_insert_ne heq] at hother
    rw [record_other heq]
    refine (h fd other hother hold).kept (fun {t a} hslot => ?_) hgroups other.rtsp.request
    exact congrArg (Option.map _) (handleCmd_others ho hconn hhandler heq
      ((congrFun (slotOf_of_lookup hother) t).trans hslot))

/-- A connection of which only the parser has changed is put back. -/
theorem unhandled (h : s.Equipped history) {sockfd : Nat} {conn : Connection} {r : ReadResult}
    (hconn : s.readable sockfd = some conn) (hread : Unhandled s.media conn r) :
    (s.afterRead sockfd r).Equipped history := by
  obtain ⟨hlookup, hopen⟩ := readable_some hconn
  obtain ⟨request, hrtsp⟩ := hread.rtsp
  have hmedia : (s.afterRead sockfd r).media = s.media := hread.media
  intro fd other hother hfd
  have hold : fd ∉ s.disconnectedList := by
    unfold afterRead at hfd
    dsimp only at hfd
    split at hfd
    · exact hfd
    · exact fun hmem => hfd (List.mem_append_left _ hmem)
  rw [hmedia]
  by_cases heq : fd = sockfd
  · subst heq
    rw [afterRead, AList.lookup_insert] at hother
    cases hother
    rw [hrtsp]
    exact (h fd conn hlookup hopen).kept (fun _ => rfl) id request
  · rw [afterRead, AList.lookup_insert_ne heq] at hother
    exact h fd other hother hold

end Equipped

/-- **Every action is a move of the state machines**: of one, or of none. -/
theorem step_equipped {act : ServerAct} (h : s.Equipped history) (hf : Follows s history)
    (ho : Ownership s.slotOf s.media) (hr : Registered s)
    (hstep : s.step act = .ok (s', effects)) :
    s'.Equipped (effects.foldl seeAccepted history) := by
  have hgroups : ∀ {name}, s.media.Multicasts name → s'.media.Multicasts name :=
    step_multicasts hstep
  cases step_outcome hstep with
  | ignored => exact h
  | session name =>
    refine h.same (fun hlookup hopen => ⟨hlookup, hopen⟩) (fun _ _ => ?_) hgroups
    unfold Media.addMediaSession
    split <;> rfl
  | sink name track sink =>
    refine h.same (fun hlookup hopen => ⟨hlookup, hopen⟩) (fun _ _ => ?_) hgroups
    unfold Media.addRtpSink
    split <;> rfl
  | multicast name w m effects started =>
    rw [foldl_unrecorded fun e he => by obtain ⟨fd, rfl⟩ := started.all_opened e he; trivial]
    exact h.same (fun hlookup hopen => ⟨hlookup, hopen⟩)
      (fun _ hs => congrArg (Option.map _) (started.lookup (ho.slotsLive hs))) hgroups
  | accept connfd peer new => exact h.accept connfd peer
  | read sockfd bytes w conn r reported outcome =>
    rcases step_read_cases hstep with ⟨hsame, heffects⟩ |
      ⟨conn', r', hconn, -, hread, hafter, heffects⟩
    · rw [hsame, heffects]
      exact h
    · rw [hafter] at hgroups ⊢
      rw [heffects]
      rcases handleRead_cases hread with hnone | ⟨request, buffer, handled, handler, rfl⟩
      · rw [foldl_unrecorded (unhandled_unrecorded hnone.effects)]
        exact h.unhandled hconn hnone
      · obtain ⟨hlookup, hopen⟩ := readable_some hconn
        rw [hr.sockFd hlookup, foldl_handled (RtspConnection.handleCmd_keeps handler).effects]
        exact h.handled hf ho hlookup hopen handler hgroups buffer
  | hangup sockfd conn =>
    refine h.same (fun hlookup hopen => ⟨hlookup, fun hmem => hopen ?_⟩) (fun _ _ => rfl) hgroups
    exact List.mem_append_left _ hmem
  | trigger s'' effects destroyed =>
    rw [foldl_unrecorded fun e he => (destroyAll_teardown destroyed e he).unrecorded]
    refine h.same (fun {fd conn} hlookup _ => ?_)
      (fun hs _ => congrArg (Option.map _) (destroyAll_heap ho destroyed hs).2) hgroups
    have hconn := destroyAll_connections destroyed fd
    rw [show s''.connections.lookup fd = some conn from hlookup] at hconn
    split at hconn
    · cases hconn
    · exact ⟨hconn.symm, ‹_›⟩
  | packet name track packet answers session effects registered sent =>
    rw [foldl_unrecorded (sendPacket_unrecorded sent)]
    exact h

/-- **The server follows the state machine of each of its clients**, in every run: what it
knows about a connection is what its accepted requests say. -/
theorem follows_clients (acts : List ServerAct) (s : Server) (effects : List Effect)
    (hrun : run step {} acts = .ok (s, effects)) :
    Follows s (acceptedOn effects) ∧ s.Equipped (acceptedOn effects) := by
  let inv : Server × (Nat → List Request) → Prop := fun p =>
    Follows p.1 p.2 ∧ p.1.Equipped p.2 ∧ Ownership p.1.slotOf p.1.media ∧ Registered p.1
  have hkept : ∀ p act q out, inv p → True →
      watch seeAccepted step p act = .ok (q, out) → inv q := by
    intro ⟨s, history⟩ act ⟨s', history'⟩ out ⟨hfollows, hequipped, ho, hr⟩ _ hwatch
    obtain ⟨hstep, rfl⟩ := watch_step hwatch
    exact ⟨step_follows hfollows ho hr hstep, step_equipped hequipped hfollows ho hr hstep,
      step_ownership ho hstep, step_registered hr hstep⟩
  obtain ⟨hfollows, hequipped, -⟩ := run_invariant inv hkept
    ⟨follows_empty, equipped_empty, ownership_empty, registered_empty⟩ meets_true
    (run_watch (fun _ => []) hrun)
  exact ⟨hfollows, hequipped⟩

theorem follows_clients_sample :
    ∃ s effects, run step {} samplePlay = .ok (s, effects) ∧
      clientState (acceptedOn effects 7) =
        { described := some (ascii "a"), tracks := Function.update (fun _ => .init) 0 .playing,
          transports := Function.update (fun _ => none) 0 (some (.interleaved 0)),
          sessions := Function.update (fun _ => none) 0 (some (ascii "a")) } ∧
      Follows s (acceptedOn effects) ∧ s.Equipped (acceptedOn effects) := by
  obtain ⟨s, effects, hrun, hcheck⟩ := checkRun_true
    (show checkRun step {} samplePlay (fun _ effects =>
      let c := clientState (acceptedOn effects 7)
      decide (c.described = some (ascii "a")) && decide (c.tracks 0 = .playing) &&
        decide (c.tracks 1 = .init) && decide (c.transports 0 = some (.interleaved 0)) &&
        decide (c.transports 1 = none) && decide (c.sessions 0 = some (ascii "a")) &&
        decide (c.sessions 1 = none)) = true by decide +kernel)
  simp only [Bool.and_eq_true, decide_eq_true_eq] at hcheck
  obtain ⟨⟨⟨⟨⟨⟨hdescribed, hplaying⟩, hinit⟩, htcp⟩, hnone⟩, hbehind⟩, hbefore⟩ := hcheck
  refine ⟨s, effects, hrun, ?_, follows_clients samplePlay s effects hrun⟩
  generalize clientState (acceptedOn effects 7) = c at *
  obtain ⟨described, tracks, transports, sessions⟩ := c
  congr 1
  · funext t
    rcases trackId_cases t with rfl | rfl
    · exact hplaying
    · exact hinit
  · funext t
    rcases trackId_cases t with rfl | rfl
    · exact htcp
    · exact hnone
  · funext t
    rcases trackId_cases t with rfl | rfl
    · exact hbehind
    · exact hbefore

end Server
end MyRtspServer.Net
