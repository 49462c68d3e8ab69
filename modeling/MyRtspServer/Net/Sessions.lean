import MyRtspServer.Net.Clients

/-!
# Invariants of one session

`main` adds sinks to a session and starts its multicast, DESCRIBE keeps a text in it,
SETUP and the destructor of a connection change its lists. So a property of one
session that survives these holds of every session in every run.
-/
namespace MyRtspServer.Net

open Library Library.Octets Library.Transition

namespace MediaSession

/-! ## What the lists leave as it is -/

theorem setRtpInstances_sink (s : MediaSession) (track other : TrackId) (rtps : List Nat) :
    ((s.setRtpInstances track rtps).tracks other).rtpSink = (s.tracks other).rtpSink := by
  unfold setRtpInstances
  by_cases h : other = track
  · subst h
    simp only [Function.update_self]
  · simp only [Function.update_of_ne h]

theorem addRtpInstance_sink (s : MediaSession) (track other : TrackId) (rtp : Nat) :
    ((s.addRtpInstance track rtp).tracks other).rtpSink = (s.tracks other).rtpSink := by
  unfold addRtpInstance
  split
  · exact s.setRtpInstances_sink track other _
  · rfl

theorem addRtpInstance_sdp (s : MediaSession) (track : TrackId) (rtp : Nat) :
    (s.addRtpInstance track rtp).sdp = s.sdp := by
  unfold addRtpInstance
  split <;> rfl

theorem addRtpSink_sink (s : MediaSession) (track other : TrackId) (sink : Sink) :
    ((s.addRtpSink track sink).tracks other).rtpSink =
      if other = track then some sink else (s.tracks other).rtpSink := by
  unfold addRtpSink
  by_cases h : other = track
  · subst h
    simp only [Function.update_self, if_true]
  · simp only [Function.update_of_ne h, if_neg h]

end MediaSession

/-! ## `StartMulticast` -/

/-- The first call for a registered session. -/
theorem Media.startMulticast_call {m : Media} {name : Octets} {s : MediaSession}
    (hsession : m.sessions.lookup name = some s) (hfirst : s.isStartMulticast = false)
    (w : MulticastWorld) : m.startMulticast name w =
      (s.startMulticast m w).map fun r => (r.2.1.setSession name r.1, r.2.2) := by
  unfold startMulticast
  rw [hsession]
  dsimp only
  rw [if_neg (by rw [hfirst]; exact Bool.false_ne_true)]
  unfold MediaSession.startMulticast
  rcases w.sockfd 0 with _ | _ | rtpSockfd1
  · rfl
  · rfl
  rcases w.sockfd 1 with _ | _ | rtpSockfd2
  · rfl
  · rfl
  rcases w.sockfd 2 with _ | _ | rtcpSockfd1
  · rfl
  · rfl
  rcases w.sockfd 3 with _ | _ | rtcpSockfd2
  · rfl
  · rfl
  rfl

/-- What a call leaves behind: two new instances in the session, and its address. -/
structure MulticastStarted (s : MediaSession) (m : Media) (w : MulticastWorld) (s' : MediaSession)
    (m' : Media) (group : MulticastGroup) : Prop where
  session : s' = { (s.addRtpInstance 0 (group.rtpInstances 0)).addRtpInstance 1
    (group.rtpInstances 1) with multicast := some group }
  addr : group.addr = w.addr
  live : ∀ track, group.rtpInstances track ∈ m'.rtpInstances
  heap : ∀ a, a ∈ m.rtpInstances → m'.rtpInstances.lookup a = m.rtpInstances.lookup a
  sessions : m'.sessions = m.sessions

theorem MulticastStarted.sink {s s' : MediaSession} {m m' : Media} {w : MulticastWorld}
    {group : MulticastGroup} (h : MulticastStarted s m w s' m' group) (track : TrackId) :
    (s'.tracks track).rtpSink = (s.tracks track).rtpSink := by
  rw [h.session]
  exact (MediaSession.addRtpInstance_sink _ 1 track _).trans (s.addRtpInstance_sink 0 track _)

theorem MulticastStarted.sdp {s s' : MediaSession} {m m' : Media} {w : MulticastWorld}
    {group : MulticastGroup} (h : MulticastStarted s m w s' m' group) : s'.sdp = s.sdp := by
  rw [h.session]
  exact (MediaSession.addRtpInstance_sdp _ 1 _).trans (s.addRtpInstance_sdp 0 _)

theorem MediaSession.startMulticast_started {s s' : MediaSession} {m m' : Media}
    {w : MulticastWorld} {effects : List Effect}
    (h : s.startMulticast m w = .ok (s', m', effects)) :
    ∃ group, MulticastStarted s m w s' m' group := by
  unfold startMulticast at h
  split at h
  · simp only [Media.newRtpInstance] at h
    cases h
    generalize hrtp2 : Media.freshAddress _ (w.newRtp 1) = rtp2
    have hfresh2 := hrtp2 ▸ Media.freshAddress_fresh _ (w.newRtp 1)
    rw [AList.mem_insert, not_or] at hfresh2
    refine ⟨⟨w.addr, fun track => if track = 0 then _ else rtp2, _⟩, rfl, rfl, fun track => ?_,
      fun a ha => ?_, rfl⟩
    · rcases trackId_cases track with rfl | rfl
      · exact AList.mem_insert _ |>.mpr (Or.inr (AList.mem_insert _ |>.mpr (Or.inl rfl)))
      · exact AList.mem_insert _ |>.mpr (Or.inl rfl)
    · have hne1 : a ≠ m.freshAddress (w.newRtp 0) :=
        fun heq => m.freshAddress_fresh (w.newRtp 0) (heq ▸ ha)
      have hne2 : a ≠ rtp2 := fun heq => hfresh2.2 (heq ▸ ha)
      exact (AList.lookup_insert_ne hne2).trans (AList.lookup_insert_ne hne1)
  · cases h

theorem RtspConnection.handleCmdDescribe_generated {w : World} {m : Media} {c : RtspConnection}
    {session session' : MediaSession} {sdp : Octets}
    (hsession : m.sessions.lookup c.request.suffix = some session)
    (hsdp : session.generateSdpDescription m.rtpInstances w.localIp w.time = .ok (sdp, session')) :
    handleCmdDescribe w m c = .ok (respond w (m.setSession c.request.suffix session')
      { c with session := some c.request.suffix } (c.describeText sdp)) := by
  unfold handleCmdDescribe
  rw [hsession]
  dsimp only
  rw [hsdp]
  rfl

/-! ## The rule -/

/-- What a property of one session needs to hold in every run of admitted actions. -/
structure SessionInvariant (admits : ServerAct → Prop) (P : MediaSession → Prop) : Prop where
  created : ∀ name, P { sessionName := name }
  lists : ∀ {s} track rtps, P s → P (s.setRtpInstances track rtps)
  sink : ∀ {s name track sink}, admits (.addRtpSink name track sink) → P s →
    P (s.addRtpSink track sink)
  started : ∀ {s s' m m' name w effects}, admits (.startMulticast name w) → P s →
    s.startMulticast m w = .ok (s', m', effects) → P s'
  described : ∀ {s s' instances sockfd bytes w sdp}, admits (.read sockfd bytes w) → P s →
    s.generateSdpDescription instances w.localIp w.time = .ok (sdp, s') → P s'

/-- The property holds of every session. -/
def EachSession (P : MediaSession → Prop) (m : Media) : Prop :=
  ∀ name s, m.sessions.lookup name = some s → P s

variable {admits : ServerAct → Prop} {P : MediaSession → Prop}

theorem eachSession_empty : EachSession P {} := fun _ _ h => by cases h

theorem EachSession.same {m m' : Media} (h : EachSession P m) (hsame : m'.sessions = m.sessions) :
    EachSession P m' := fun name s hs => h name s (hsame ▸ hs)

theorem EachSession.setSession {m : Media} (h : EachSession P m) {name : Octets} {s : MediaSession}
    (hs : P s) : EachSession P (m.setSession name s) := by
  intro other t ht
  unfold Media.setSession at ht
  by_cases heq : other = name
  · subst heq
    rw [AList.lookup_insert] at ht
    cases ht
    exact hs
  · rw [AList.lookup_insert_ne heq] at ht
    exact h other t ht

namespace SessionInvariant

variable (hp : SessionInvariant admits P)

include hp

theorem addRtpInstance {s : MediaSession} (hs : P s) (track : TrackId) (rtp : Nat) :
    P (s.addRtpInstance track rtp) := by
  unfold MediaSession.addRtpInstance
  split
  · exact hp.lists track _ hs
  · exact hs

theorem removeRtpInstance {s : MediaSession} (hs : P s) (rtp : Nat) :
    P (s.removeRtpInstance rtp) := by
  unfold MediaSession.removeRtpInstance
  split
  · exact hp.lists 0 _ hs
  · split
    · exact hp.lists 1 _ hs
    · exact hs

theorem destroyed {m m' : Media} {c : RtspConnection} {track : TrackId} (h : EachSession P m)
    (hd : TrackDestroyed m c track m') : EachSession P m' := by
  cases hd with
  | empty slot same => exact same ▸ h
  | deleted rtp name session slot described registered media =>
    have hkept : EachSession P (m.setSession name (session.removeRtpInstance rtp)) :=
      h.setSession (hp.removeRtpInstance (h name session registered) rtp)
    exact hkept.same (by rw [media])

theorem setup {w : World} {m : Media} {c : RtspConnection} {r : Handled} (h : EachSession P m)
    (hr : RtspConnection.handleCmdSetup w m c = .ok r) : EachSession P r.media := by
  have hlisted : ∀ {name session} (heap) (track : TrackId) (rtp : Nat),
      m.sessions.lookup name = some session →
      EachSession P (Media.setSession { m with rtpInstances := heap } name
        (session.addRtpInstance track rtp)) := by
    intro name session heap track rtp hsession
    have hsame : EachSession P { m with rtpInstances := heap } := h
    exact hsame.setSession (hp.addRtpInstance (h name session hsession) track rtp)
  cases RtspConnection.handleCmdSetup_outcome hr with
  | refused => exact h
  | multicast => exact h
  | overTcp name session track registered => exact hlisted _ track _ registered
  | overUdp name session track registered =>
    unfold RtspConnection.setupOverUdp
    split
    · exact h
    · exact hlisted _ track _ registered

theorem describe {w : World} {m : Media} {c : RtspConnection} {r : Handled} {sockfd : Nat}
    {bytes : Octets} (h : EachSession P m) (hadmits : admits (.read sockfd bytes w))
    (hr : RtspConnection.handleCmdDescribe w m c = .ok r) : EachSession P r.media := by
  unfold RtspConnection.handleCmdDescribe at hr
  split at hr
  · cases hr
    exact h
  rename_i session hsession
  dsimp only at hr
  split at hr
  · cases hr
  rename_i sdp session' hsdp
  cases hr
  exact h.setSession (hp.described hadmits (h _ session hsession) hsdp)

theorem handleCmd {w : World} {m : Media} {c : RtspConnection} {r : Handled} {sockfd : Nat}
    {bytes : Octets} (h : EachSession P m) (hadmits : admits (.read sockfd bytes w))
    (hr : RtspConnection.handleCmd w m c = .ok r) : EachSession P r.media := by
  unfold RtspConnection.handleCmd at hr
  split at hr
  · cases hr
    exact h
  · exact hp.describe h hadmits hr
  · exact hp.setup h hr
  · cases RtspConnection.handleCmdPlay_outcome hr with
    | unsent => exact h
    | playing m1 c1 m2 c2 first second =>
      exact h.same ((RtspConnection.setTrackAlive_spec second).2.1.trans
        (RtspConnection.setTrackAlive_spec first).2.1)
  all_goals
    cases hr
    exact h

theorem read {w : World} {m : Media} {c : Connection} {sockfd : Nat} {bytes : Octets}
    {r : ReadResult} (h : EachSession P m) (hadmits : admits (.read sockfd bytes w))
    (hr : c.handleRead w m bytes = .ok r) : EachSession P r.media := by
  cases Connection.handleRead_request hr with
  | unhandled request media => exact media ▸ h
  | handled request handled parsed handler media => exact media ▸ hp.handleCmd h hadmits handler

theorem startMulticast {m m' : Media} {name : Octets} {w : MulticastWorld} {effects : List Effect}
    (h : EachSession P m) (hadmits : admits (.startMulticast name w))
    (hs : m.startMulticast name w = .ok (m', effects)) : EachSession P m' := by
  cases hsession : m.sessions.lookup name with
  | none =>
    rw [Media.startMulticast, hsession] at hs
    cases hs
    exact h
  | some session =>
    by_cases hfirst : session.isStartMulticast = true
    · rw [Media.startMulticast, hsession] at hs
      dsimp only at hs
      rw [if_pos hfirst] at hs
      cases hs
      exact h
    · rw [Media.startMulticast_call hsession (Bool.eq_false_of_not_eq_true hfirst)] at hs
      cases hcall : session.startMulticast m w with
      | error e =>
        rw [hcall] at hs
        cases hs
      | ok result =>
        obtain ⟨session', m'', effects'⟩ := result
        rw [hcall] at hs
        cases hs
        obtain ⟨group, hstarted⟩ := MediaSession.startMulticast_started hcall
        have hsame : EachSession P m'' := h.same hstarted.sessions
        exact hsame.setSession (hp.started hadmits (h name session hsession) hcall)

theorem destroyAll {fds : List Nat} : ∀ {s s' : Server} {effects : List Effect},
    EachSession P s.media → s.destroyAll fds = .ok (s', effects) → EachSession P s'.media := by
  induction fds with
  | nil =>
    intro s s' effects h hd
    cases hd
    exact h
  | cons sockfd rest ih =>
    intro s s' effects h hd
    obtain ⟨conn, m1, m2, first, later, hconn, h0, h1, hrest, -, -⟩ := Server.destroyAll_cons hd
    exact ih (hp.destroyed (hp.destroyed h h0) h1) hrest

/-- **Every admitted action keeps an invariant of the sessions.** -/
theorem step {s s' : Server} {act : ServerAct} {effects : List Effect}
    (h : EachSession P s.media) (hadmits : admits act) (hstep : s.step act = .ok (s', effects)) :
    EachSession P s'.media := by
  cases act with
  | addMediaSession name =>
    cases hstep
    change EachSession P (s.media.addMediaSession name)
    unfold Media.addMediaSession
    split
    · exact h
    · exact h.setSession (hp.created name)
  | addRtpSink name track sink =>
    cases hstep
    change EachSession P (s.media.addRtpSink name track sink)
    unfold Media.addRtpSink
    split
    · exact h
    · exact h.setSession (hp.sink hadmits (h name _ ‹_›))
  | startMulticast name w =>
    rw [Server.step] at hstep
    split at hstep <;> cases hstep
    exact hp.startMulticast h hadmits ‹_›
  | read sockfd bytes w =>
    rcases Server.step_read hstep with hsame | ⟨conn, r, -, -, hread, hafter, -⟩
    · exact hsame ▸ h
    · rw [hafter]
      exact hp.read h hadmits hread
  | accept connfd peer =>
    cases Server.step_outcome hstep with
    | ignored => exact h
    | accept => exact h
  | hangup sockfd =>
    cases Server.step_outcome hstep with
    | ignored => exact h
    | hangup => exact h
  | trigger =>
    cases Server.step_outcome hstep with
    | ignored => exact h
    | trigger s'' effects destroyed =>
      have hd : EachSession P s''.media := hp.destroyAll h destroyed
      exact hd
  | packet name track packet answers =>
    cases Server.step_outcome hstep with
    | ignored => exact h
    | packet => exact h

end SessionInvariant
end MyRtspServer.Net
