import MyRtspServer.Net.Clients

/-!
# The session that SETUP asks

`HandleCmdSetup` looks up the session of its URL, and then asks `m_session_`
whether that one is multicast. Only DESCRIBE writes `m_session_`. So SETUP does
what its URL says exactly when the session described last is as multicast as the
one in the URL.
-/
namespace MyRtspServer.Net

open Library Library.Octets Library.Transition

namespace RtspConnection

/-- The answer of SETUP for a free slot, once it is known whether the session is
multicast. -/
def setupAnswer (w : World) (m : Media) (c : RtspConnection) (name : Octets)
    (session : MediaSession) (track : TrackId) (multicast : Bool) : Except Fault Handled :=
  if multicast then
    match session.getMulticastDestRtpPort m.rtpInstances track with
    | .error e => .error e
    | .ok port =>
      .ok (respond w m c (c.setupMulticastText session.getMulticastDestAddr w.localIp port))
  else if c.request.isRtpOverTcp then .ok (setupOverTcp w m c name session track)
  else .ok (setupOverUdp w m c name session track)

/-- SETUP as its URL says: the session looked up is the one that is asked. -/
def setupByUrl (w : World) (m : Media) (c : RtspConnection) : Except Fault Handled :=
  match sessionNameOf c.request.suffix with
  | .error e => .error e
  | .ok none => .ok ⟨false, m, c, []⟩
  | .ok (some name) =>
    match m.sessions.lookup name with
    | none => .ok ⟨false, m, c, []⟩
    | some session =>
      match c.request.trackId with
      | none => .error .outOfBounds
      | some track =>
        if (c.rtpInstances track).isSome ∨ (c.rtcpInstances track).isSome then .ok ⟨false, m, c, []⟩
        else setupAnswer w m c name session track session.isStartMulticast

/-- SETUP follows no pointer that no request has set, and does what its URL says. -/
structure ReliesOnUrl (w : World) (m : Media) (c : RtspConnection) : Prop where
  set : handleCmdSetup w m c ≠ .error .uninitialised
  byUrl : handleCmdSetup w m c = setupByUrl w m c

/-- SETUP comes to the question whether the session is multicast. -/
structure Asks (m : Media) (c : RtspConnection) (name : Octets) (session : MediaSession)
    (track : TrackId) : Prop where
  named : sessionNameOf c.request.suffix = .ok (some name)
  registered : m.sessions.lookup name = some session
  asked : c.request.trackId = some track
  rtpFree : c.rtpInstances track = none
  rtcpFree : c.rtcpInstances track = none

/-- If SETUP is not refused before, `m_session_` has been set, to a session that is
multicast if and only if the one of the URL is. -/
def DescribedAlike (m : Media) (c : RtspConnection) : Prop :=
  ∀ name session track, Asks m c name session track →
    ∃ described describedSession, c.session = some described ∧
      m.sessions.lookup described = some describedSession ∧
      describedSession.isStartMulticast = session.isStartMulticast

/-- `m_session_`, once set, is a registered session. -/
def SessionKnown (m : Media) (c : RtspConnection) : Prop :=
  ∀ name, c.session = some name → name ∈ m.sessions

/-! ## One SETUP -/

section OneSetup

variable {w : World} {m : Media} {c : RtspConnection} {name : Octets} {session : MediaSession}
  {track : TrackId}

theorem Asks.slots (h : Asks m c name session track) :
    ¬ ((c.rtpInstances track).isSome ∨ (c.rtcpInstances track).isSome) := by
  rw [h.rtpFree, h.rtcpFree]
  decide

theorem setupByUrl_asks (h : Asks m c name session track) :
    setupByUrl w m c = setupAnswer w m c name session track session.isStartMulticast := by
  unfold setupByUrl
  rw [h.named]
  dsimp only
  rw [h.registered]
  dsimp only
  rw [h.asked]
  exact if_neg h.slots

theorem handleCmdSetup_asks (h : Asks m c name session track) {described : Octets}
    {describedSession : MediaSession} (hset : c.session = some described)
    (hfound : m.sessions.lookup described = some describedSession) :
    handleCmdSetup w m c =
      setupAnswer w m c name session track describedSession.isStartMulticast := by
  unfold handleCmdSetup
  rw [h.named]
  dsimp only
  rw [h.registered]
  dsimp only
  rw [h.asked]
  dsimp only
  rw [if_neg h.slots, hset]
  dsimp only
  rw [hfound]
  rfl

theorem handleCmdSetup_unset (h : Asks m c name session track) (hset : c.session = none) :
    handleCmdSetup w m c = .error .uninitialised := by
  unfold handleCmdSetup
  rw [h.named]
  dsimp only
  rw [h.registered]
  dsimp only
  rw [h.asked]
  dsimp only
  rw [if_neg h.slots, hset]

/-- A SETUP that is refused early asks no session. -/
theorem handleCmdSetup_unasked (h : ∀ name session track, ¬ Asks m c name session track) :
    handleCmdSetup w m c = setupByUrl w m c := by
  unfold handleCmdSetup setupByUrl
  cases hname : sessionNameOf c.request.suffix with
  | error e => rfl
  | ok found =>
    cases found with
    | none => rfl
    | some name =>
      cases hsession : m.sessions.lookup name with
      | none => simp only [hsession]
      | some session =>
        cases htrack : c.request.trackId with
        | none => simp only [hsession]
        | some track =>
          simp only [hsession]
          by_cases hslots : (c.rtpInstances track).isSome ∨ (c.rtcpInstances track).isSome
          · rw [if_pos hslots, if_pos hslots]
          · rw [not_or, Bool.not_eq_true, Bool.not_eq_true, Option.isSome_eq_false_iff,
              Option.isSome_eq_false_iff, Option.isNone_iff_eq_none,
              Option.isNone_iff_eq_none] at hslots
            exact absurd ⟨hname, hsession, htrack, hslots.1, hslots.2⟩ (h name session track)

/-- What is answered for a multicast session fills no slot, and sends a reply. -/
theorem setupAnswer_multicast {r : Handled}
    (h : setupAnswer w m c name session track true = .ok r) :
    r.conn.rtpInstances = c.rtpInstances ∧ ∃ fd text answer, Effect.reply fd text answer ∈ r.effects := by
  rw [setupAnswer, if_pos rfl] at h
  split at h
  · cases h
  · cases h
    exact ⟨rfl, _, _, _, List.mem_singleton_self _⟩

/-- What is answered for another one fills the slot, or sends no reply. -/
theorem setupAnswer_unicast {r : Handled}
    (h : setupAnswer w m c name session track false = .ok r) :
    (r.conn.rtpInstances track).isSome ∨ ∀ fd text answer, Effect.reply fd text answer ∉ r.effects := by
  rw [setupAnswer, if_neg Bool.false_ne_true] at h
  split at h
  · cases h
    exact Or.inl (by simp [setupOverTcp, setRtpInstance])
  · cases h
    unfold setupOverUdp
    split
    · rename_i effects hpair
      refine Or.inr fun fd text answer hmem => ?_
      have hudp := openUdpPair_effects w.udp 10 0 (.reply fd text answer) (by rw [hpair]; exact hmem)
      rcases hudp with ⟨fd, heq⟩ | ⟨fd, heq⟩ <;> cases heq
    · exact Or.inl (by simp [setRtpInstance, setRtcpInstance])

theorem setupAnswer_unicast_ok (w : World) (m : Media) (c : RtspConnection) (name : Octets)
    (session : MediaSession) (track : TrackId) :
    ∃ r, setupAnswer w m c name session track false = .ok r := by
  rw [setupAnswer, if_neg Bool.false_ne_true]
  split
  · exact ⟨_, rfl⟩
  · exact ⟨_, rfl⟩

/-- The two kinds of answers are never the same. -/
theorem setupAnswer_apart (hfree : c.rtpInstances track = none) :
    setupAnswer w m c name session track true ≠ setupAnswer w m c name session track false := by
  intro heq
  obtain ⟨r, hr⟩ := setupAnswer_unicast_ok w m c name session track
  obtain ⟨hslots, fd, text, answer, hreply⟩ := setupAnswer_multicast (heq.trans hr)
  rcases setupAnswer_unicast hr with hfilled | hsilent
  · rw [hslots, hfree] at hfilled
    cases hfilled
  · exact hsilent fd text answer hreply

theorem setupAnswer_inj (hfree : c.rtpInstances track = none) {a b : Bool}
    (h : setupAnswer w m c name session track a = setupAnswer w m c name session track b) :
    a = b := by
  cases a <;> cases b
  · rfl
  · exact absurd h.symm (setupAnswer_apart hfree)
  · exact absurd h (setupAnswer_apart hfree)
  · rfl

theorem setupAnswer_set (multicast : Bool) :
    setupAnswer w m c name session track multicast ≠ .error .uninitialised := by
  intro h
  unfold setupAnswer MediaSession.getMulticastDestRtpPort at h
  split at h
  · split at h
    · rename_i e he
      split at he
      · cases he
      · split at he <;> cases he
        cases h
    · cases h
  · split at h <;> cases h

theorem setupByUrl_set : setupByUrl w m c ≠ .error .uninitialised := by
  by_cases hasks : ∃ name session track, Asks m c name session track
  · obtain ⟨name, session, track, h⟩ := hasks
    rw [setupByUrl_asks h]
    exact setupAnswer_set _
  · intro h
    unfold setupByUrl at h
    split at h
    · rename_i e hname
      cases h
      unfold sessionNameOf at hname
      split at hname <;> cases hname
    · cases h
    rename_i name hname
    split at h
    · cases h
    rename_i session hsession
    split at h
    · cases h
    rename_i track htrack
    split at h
    · cases h
    · exact setupAnswer_set _ h

/-- **One SETUP relies on its URL exactly when the session described last is alike.** -/
theorem reliesOnUrl_iff (hknown : SessionKnown m c) : ReliesOnUrl w m c ↔ DescribedAlike m c := by
  constructor
  · intro h name session track hasks
    cases hset : c.session with
    | none => exact absurd (handleCmdSetup_unset hasks hset) h.set
    | some described =>
      obtain ⟨describedSession, hfound⟩ :=
        Option.isSome_iff_exists.mp (AList.lookup_isSome.mpr (hknown described hset))
      have hsame : setupAnswer w m c name session track describedSession.isStartMulticast =
          setupAnswer w m c name session track session.isStartMulticast := by
        rw [← handleCmdSetup_asks hasks hset hfound, h.byUrl, setupByUrl_asks hasks]
      exact ⟨described, describedSession, rfl, hfound, setupAnswer_inj hasks.rtpFree hsame⟩
  · intro h
    have hsame : handleCmdSetup w m c = setupByUrl w m c := by
      by_cases hasks : ∃ name session track, Asks m c name session track
      · obtain ⟨name, session, track, hasks⟩ := hasks
        obtain ⟨described, describedSession, hset, hfound, halike⟩ := h name session track hasks
        rw [handleCmdSetup_asks hasks hset hfound, setupByUrl_asks hasks, halike]
      · exact handleCmdSetup_unasked fun name session track h => hasks ⟨name, session, track, h⟩
    exact ⟨hsame ▸ setupByUrl_set, hsame⟩

end OneSetup

/-! ## `m_session_` -/

theorem handleCmd_session {w : World} {m : Media} {c : RtspConnection} {r : Handled}
    (h : handleCmd w m c = .ok r) :
    r.conn.session = c.session ∨
      c.request.method = .describe ∧ c.request.suffix ∈ m.sessions ∧
        r.conn.session = some c.request.suffix := by
  unfold handleCmd at h
  split at h
  · cases h
    exact Or.inl rfl
  · cases handleCmdDescribe_outcome h with
    | unknown => exact Or.inl rfl
    | described session session' sdp registered =>
      refine Or.inr ⟨‹_›, ?_, rfl⟩
      rw [← AList.lookup_isSome, registered]
      rfl
  · cases handleCmdSetup_outcome h with
    | refused => exact Or.inl rfl
    | multicast => exact Or.inl rfl
    | overTcp => exact Or.inl rfl
    | overUdp =>
      unfold setupOverUdp
      split
      · exact Or.inl rfl
      · exact Or.inl rfl
  · cases handleCmdPlay_outcome h with
    | unsent => exact Or.inl rfl
    | playing m1 c1 m2 c2 first second =>
      exact Or.inl ((setTrackAlive_sockets second).2.trans (setTrackAlive_sockets first).2)
  · cases h
    exact Or.inl rfl
  · cases h
    exact Or.inl rfl
  · cases h
    exact Or.inl rfl
  all_goals
    cases h
    exact Or.inl rfl

end RtspConnection

open RtspConnection

theorem sessionKnown_invariant : Server.ClientInvariant fun m c => SessionKnown m c.rtsp where
  created := fun _ _ _ _ h => by cases h
  kept := fun h hgrows name hset => hgrows (h name hset)
  read := by
    intro w m c bytes r h hread name hset
    refine Connection.handleRead_sessions hread ?_
    cases Connection.handleRead_request hread with
    | unhandled request media conn =>
      rw [conn] at hset
      exact h name hset
    | handled request handled parsed handler media conn =>
      rw [conn] at hset
      rcases handleCmd_session handler with hsame | ⟨-, hmem, hnew⟩
      · exact h name (hsame ▸ hset)
      · rw [hnew] at hset
        cases hset
        exact hmem

/-! ## Every SETUP of a run -/

namespace Server

/-- What the action does is a SETUP that relies on its URL, or no SETUP at all. -/
def SetupRelies (s : Server) : ServerAct → Prop
  | .read sockfd bytes w => ∀ conn request, s.readable sockfd = some conn → bytes ≠ [] →
      conn.nextRequest bytes = some request → request.method = .setup →
        ReliesOnUrl w s.media { conn.rtsp with request := request }
  | _ => True

/-- A SETUP comes after a DESCRIBE of a session like its own, or is refused early. -/
def SetupDescribed (s : Server) : ServerAct → Prop
  | .read sockfd bytes _ => ∀ conn request, s.readable sockfd = some conn → bytes ≠ [] →
      conn.nextRequest bytes = some request → request.method = .setup →
        DescribedAlike s.media { conn.rtsp with request := request }
  | _ => True

/-- **SETUP relies on its own session exactly in the runs in which each SETUP finds
a session described before that is as multicast as its own.** -/
theorem setup_relies_iff (acts : List ServerAct) :
    Meets step SetupRelies {} acts ↔ Meets step SetupDescribed {} acts := by
  refine meets_iff (Each fun m c => SessionKnown m c.rtsp)
    (fun s act s' effects h hstep => step_each sessionKnown_invariant h hstep)
    (fun s act h => ?_) each_empty
  cases act with
  | read sockfd bytes w =>
    refine forall_congr' fun conn => forall_congr' fun request => ?_
    refine imp_congr_right fun hconn => ?_
    have hknown := h sockfd conn (readable_some hconn).1
    exact imp_congr_right fun _ => imp_congr_right fun _ => imp_congr_right fun _ =>
      reliesOnUrl_iff hknown
  | _ => exact Iff.rfl

/-- What the SETUP that is read does, and what its URL says. -/
def setupAnswers (s : Server) (sockfd : Nat) (bytes : Octets) (w : World) :
    Option (Except Fault Handled × Except Fault Handled) :=
  match s.readable sockfd with
  | none => none
  | some conn =>
    match conn.nextRequest bytes with
    | none => none
    | some request =>
      if bytes ≠ [] ∧ request.method = .setup then
        some (handleCmdSetup w s.media { conn.rtsp with request := request },
          setupByUrl w s.media { conn.rtsp with request := request })
      else none

theorem setupAnswers_relies {s : Server} {sockfd : Nat} {bytes : Octets} {w : World}
    {done said : Except Fault Handled} (h : s.SetupRelies (.read sockfd bytes w))
    (hanswers : s.setupAnswers sockfd bytes w = some (done, said)) :
    done ≠ .error .uninitialised ∧ done = said := by
  unfold setupAnswers at hanswers
  split at hanswers
  · cases hanswers
  rename_i conn hconn
  split at hanswers
  · cases hanswers
  rename_i request hrequest
  split at hanswers
  · rename_i hsetup
    cases hanswers
    have hrelies := h conn request hconn hsetup.1 hrequest hsetup.2
    exact ⟨hrelies.set, hrelies.byUrl⟩
  · cases hanswers

/-- A client that sends SETUP and no DESCRIBE. -/
def undescribed : List ServerAct := sampleSession "a" ++ [sampleConnect]

def setupOverTcpRequest : Octets :=
  ascii "SETUP rtsp://h/a/track0 RTSP/1.0\r\nCSeq: 1\r\nTransport: RTP/AVP/TCP;unicast;interleaved=0-1\r\n\r\n"

/-- Another client describes a multicast session, and sets up one that is not. -/
def describedOther : List ServerAct :=
  sampleSession "a" ++ sampleSession "m" ++
    [.startMulticast (ascii "m")
        { addr := ascii "232.0.1.1", sockfd := fun i => some (30 + i), rand := 20000
          newRtp := fun t => 100 + t },
      sampleConnect, sampleRequest "DESCRIBE rtsp://h/m" "Accept: application/sdp\r\n"]

/-- What the tests look at: the fault, or whether a slot is filled. -/
def setupResult : Except Fault Handled → Except Fault Bool
  | .error e => .error e
  | .ok r => .ok (r.conn.rtpInstances 0).isSome

theorem setupAnswers_fail {acts : List ServerAct} {bytes : Octets} {w : World}
    (done said : Except Fault Bool) (hwrong : done = .error .uninitialised ∨ done ≠ said)
    (hrun : checkRun step {} acts (fun s _ => decide ((s.setupAnswers 7 bytes w).map
      (fun p => (setupResult p.1, setupResult p.2)) = some (done, said))) = true) :
    ¬ Meets step SetupRelies {} (acts ++ [.read 7 bytes w]) := by
  intro hmeets
  obtain ⟨s, effects, hacts, hanswers⟩ := checkRun_true hrun
  obtain ⟨⟨first, second⟩, hfound, heq⟩ := Option.map_eq_some_iff.mp (of_decide_eq_true hanswers)
  obtain ⟨rfl, rfl⟩ := Prod.mk.inj heq
  obtain ⟨hset, hsame⟩ := setupAnswers_relies (meets_append hmeets hacts).2.1 hfound
  rcases hwrong with huninitialised | hdiffer
  · cases first with
    | error e =>
      cases huninitialised
      exact hset rfl
    | ok r => cases huninitialised
  · exact hdiffer (congrArg setupResult hsame)

/-- **Neither client gets what its URL says**: the first one is answered through a
pointer that nothing has set, the second one is offered a multicast group. -/
theorem setup_relies_fails :
    ¬ Meets step SetupRelies {} (undescribed ++ [.read 7 setupOverTcpRequest sampleWorld]) ∧
      ¬ Meets step SetupRelies {} (describedOther ++ [.read 7 setupOverTcpRequest sampleWorld]) := by
  constructor
  · exact setupAnswers_fail (.error .uninitialised) (.ok true) (Or.inl rfl)
      (by decide +kernel)
  · exact setupAnswers_fail (.ok false) (.ok true) (Or.inr (by decide))
      (by decide +kernel)

end Server
end MyRtspServer.Net
