import MyRtspServer.Net.Program

/-!
# What a client of the program receives

`main` has one session and never starts multicast, so no instance is ever listed in a
session its connection has not described: every trigger is safe, and nothing that is
listed is deleted. The files reach the sinks unit by unit, and from there every client
that plays.
-/
namespace MyRtspServer.Net

open Library Library.Octets Library.AnnexB Library.Transition

/-! ## The sessions -/

/-- No session is new. -/
def Media.NoneNew (m m' : Media) : Prop := ∀ {name}, name ∈ m'.sessions → name ∈ m.sessions

theorem Media.noneNew_setSession {m : Media} {name : Octets} {session s : MediaSession}
    (h : m.sessions.lookup name = some session) : m.NoneNew (m.setSession name s) := by
  intro other hmem
  rcases (AList.mem_insert _).mp hmem with rfl | hmem
  · exact AList.lookup_isSome.mp (by rw [h]; rfl)
  · exact hmem

namespace RtspConnection

variable {w : World} {m : Media} {c : RtspConnection} {r : Handled}

theorem handleCmdSetup_noneNew (h : handleCmdSetup w m c = .ok r) : m.NoneNew r.media := by
  cases handleCmdSetup_outcome h with
  | refused => exact id
  | multicast => exact id
  | overTcp name session track registered => exact Media.noneNew_setSession registered
  | overUdp name session track registered =>
    unfold setupOverUdp
    split
    · exact id
    · exact Media.noneNew_setSession registered

theorem handleCmdPlay_noneNew (h : handleCmdPlay w m c = .ok r) : m.NoneNew r.media := by
  cases handleCmdPlay_outcome h with
  | unsent => exact id
  | playing m1 c1 m2 c2 first second =>
    intro name hmem
    change name ∈ m2.sessions at hmem
    rw [(setTrackAlive_spec second).2.1, (setTrackAlive_spec first).2.1] at hmem
    exact hmem

/-- No request registers a session. -/
theorem handleCmd_noneNew (h : handleCmd w m c = .ok r) : m.NoneNew r.media := by
  unfold handleCmd at h
  split at h
  · cases h
    exact id
  · cases handleCmdDescribe_outcome h with
    | unknown => exact id
    | described session session' sdp registered => exact Media.noneNew_setSession registered
  · exact handleCmdSetup_noneNew h
  · exact handleCmdPlay_noneNew h
  all_goals
    cases h
    exact id

end RtspConnection

theorem TrackDestroyed.noneNew {m m' : Media} {c : RtspConnection} {track : TrackId}
    (h : TrackDestroyed m c track m') : m.NoneNew m' := by
  cases h with
  | empty slot same =>
    rw [same]
    exact id
  | deleted rtp name session slot described registered media =>
    rw [media]
    exact Media.noneNew_setSession registered

/-- Neither `main` nor a session does this: what comes from the network, and packets. -/
def FromOutside : ServerAct → Prop
  | .addMediaSession _ | .addRtpSink _ _ _ | .startMulticast _ _ => False
  | _ => True

namespace Server

variable {s s' : Server} {act : ServerAct} {effects : List Effect}

theorem destroyAll_noneNew {fds : List Nat} : ∀ {s s' : Server} {effects : List Effect},
    s.destroyAll fds = .ok (s', effects) → s.media.NoneNew s'.media := by
  induction fds with
  | nil =>
    intro s s' effects hd name hmem
    cases hd
    exact hmem
  | cons sockfd rest ih =>
    intro s s' effects hd name hmem
    obtain ⟨conn, m1, m2, first, later, -, h0, h1, hrest, -, -⟩ := destroyAll_cons hd
    exact h0.noneNew (h1.noneNew (ih hrest hmem))

theorem step_noneNew (hact : FromOutside act) (h : s.step act = .ok (s', effects)) :
    s.media.NoneNew s'.media := by
  intro name hmem
  cases step_outcome h with
  | ignored => exact hmem
  | session => exact hact.elim
  | sink => exact hact.elim
  | multicast => exact hact.elim
  | accept => exact hmem
  | read sockfd bytes w conn r reported outcome =>
    change name ∈ r.media.sessions at hmem
    cases outcome with
    | unhandled media => exact media ▸ hmem
    | handled request buffer handled parsed handler result =>
      subst result
      exact RtspConnection.handleCmd_noneNew handler hmem
  | hangup => exact hmem
  | trigger s'' effects destroyed => exact destroyAll_noneNew destroyed hmem
  | packet => exact hmem

/-! ## A server with one session -/

/-- The only session is "live"; both its tracks have a sink, and it sends to each client
by itself. -/
structure Broadcasts (s : Server) : Prop where
  sound : s.Sound
  subscribed : Subscribed s.slotOf s.media
  only : ∀ {name}, name ∈ s.media.sessions → name = live
  offers : ∀ track, Offers s.media live track

/-- **Every trigger is safe**: there is no other session to be listed in. -/
theorem Broadcasts.safeTrigger (h : s.Broadcasts) (act : ServerAct) : SafeTrigger s act := by
  cases act with
  | trigger =>
    intro fd hfd conn hconn t a hslot name t' hlisted
    have hsettled := h.sound.settled.each hconn
    obtain ⟨described, hdescribed, hknown⟩ := hsettled.session hslot
    have hregistered : name ∈ s.media.sessions := by
      by_contra hno
      rw [Media.trackOf, AList.lookup_eq_none.mpr hno] at hlisted
      cases hlisted
    rw [hdescribed, h.only hknown, h.only hregistered]
  | _ => trivial

theorem Broadcasts.step (h : s.Broadcasts) (hact : FromOutside act)
    (hstep : s.step act = .ok (s', effects)) : s'.Broadcasts where
  sound := step_sound h.sound hstep
  subscribed := step_subscribed h.sound.settled.owned h.subscribed (h.safeTrigger act) hstep
  only := fun hmem => h.only (step_noneNew hact hstep hmem)
  offers := fun track => step_offers (fun w heq => by rw [heq] at hact; exact hact)
    (h.offers track) hstep

theorem Broadcasts.run (h : s.Broadcasts) {acts : List ServerAct}
    (hacts : ∀ act ∈ acts, FromOutside act)
    (hrun : Transition.run Server.step s acts = .ok (s', effects)) : s'.Broadcasts :=
  run_invariant Broadcasts (fun _ _ _ _ h hact hstep => h.step hact hstep) h
    (meets_of_forall hacts) hrun

/-- What is listed is there. -/
theorem Broadcasts.listed (h : s.Broadcasts) (track : TrackId) :
    ∀ rtp ∈ (s.media.trackOf live track).rtpInstances, rtp ∈ s.media.rtpInstances :=
  fun _ hmem => h.subscribed.live h.sound.settled.owned hmem

end Server

/-! ## Packets of a pipeline -/

theorem callbacks_packet {track : TrackId} {answers : Nat → Nat → WriteAnswer}
    {sent : List SentPacket} {act : ServerAct} : ∀ {k}, act ∈ callbacks track answers k sent →
      ∃ p answers', act = .packet live track p answers' := by
  induction sent with
  | nil =>
    intro k hact
    cases hact
  | cons q sent ih =>
    intro k hact
    rw [callbacks] at hact
    split at hact
    · rcases List.mem_cons.mp hact with rfl | hact
      · exact ⟨_, _, rfl⟩
      · exact ih hact
    · exact ih hact

theorem callbacks_fromOutside {track : TrackId} {answers : Nat → Nat → WriteAnswer} {k : Nat}
    {sent : List SentPacket} : ∀ act ∈ callbacks track answers k sent, FromOutside act := by
  intro act hact
  obtain ⟨p, answers', rfl⟩ := callbacks_packet hact
  trivial

/-- **A listed instance that is there can be sent to.** -/
theorem callbacks_run {s : Server} (h : s.Broadcasts) (track : TrackId)
    (answers : Nat → Nat → WriteAnswer) (sent : List SentPacket) : ∀ k,
      ∃ effects, run Server.step s (callbacks track answers k sent) = .ok (s, effects) := by
  induction sent with
  | nil => exact fun _ => ⟨[], rfl⟩
  | cons q sent ih =>
    intro k
    obtain ⟨later, hlater⟩ := ih (k + 1)
    rw [callbacks]
    split
    · rename_i hfits
      obtain ⟨session, hsession⟩ := (h.offers track).registered
      obtain ⟨effects, hsent⟩ := (@sendPacket_ok_iff s.media.rtpInstances (answers k)
        (session.tracks track).rtpInstances 0 (q.media hfits)).mpr (by
          have hlisted := h.listed track
          rwa [Media.trackOf_of_lookup hsession] at hlisted)
      have hstep : s.step (.packet live track (q.media hfits) (answers k)) = .ok (s, effects) := by
        simp only [Server.step, hsession, hsent]
      refine ⟨effects ++ later, ?_⟩
      rw [run, hstep]
      dsimp only
      rw [hlater]
    · exact ⟨later, hlater⟩

/-! ## The files -/

/-- `read` returns what the files hold. -/
def ProgramAct.ReadsWhole : ProgramAct → Prop
  | .pipeline 0 (.readFrame env) _ => ReadsAll frameMaxSize env
  | .pipeline 1 (.readFrame env) _ => ReadsFile env
  | _ => True

/-- What `main` is given: a video of short NAL units and an audio file of frames that
fit, with the sinks as their constructors make them. -/
structure Sources where
  units : List NalUnit
  someUnit : units ≠ []
  short : ∀ u ∈ units, u.nal.length ≤ rtpMaxPktSize
  video : H264RtpSink
  videoSink : (Sink.h264 video).Constructed
  stored : List AdtsFrame
  someFrame : stored ≠ []
  fit : ∀ f ∈ stored, rtpPayloadOffset + 4 + f.data.length ≤ rtpAllocation
  audio : AACRtpSink
  audioSink : (Sink.aac audio).Constructed

namespace Sources

variable (f : Sources)

/-- What packet `n` of a track carries: unit `n` of the video, or frame `n` of the audio,
counted around. -/
def Carries : TrackId → Nat → SentPacket → Prop
  | 0 => UnitPacket f.video f.units
  | 1 => AccessUnitPacket f.audio f.stored f.someFrame

def Delivering : TrackId → Pipeline → List DeliveryEvent → Prop
  | 0 => Pipeline.Delivering (fun m reader => reader = readerAt f.units (m % f.units.length))
      (fun m frame => UnitFrame (nalAt f.units m) frame) (H264SinkAt f.video f.units)
      (UnitPacket f.video f.units)
  | 1 => Pipeline.Delivering (AacReaderAt f.stored)
      (fun m frame => AdtsFrameIn (frameAt f.stored m f.someFrame) frame) (AacSinkAt f.audio)
      (AccessUnitPacket f.audio f.stored f.someFrame)

/-- The program before its first step. -/
def start (frames : TrackId → FrameIndex → AVFrame) (header : AdtsHeader) : Program where
  server :=
    { media := ((({} : Media).addMediaSession live).addRtpSink live 0 (.h264 f.video)).addRtpSink
        live 1 (.aac f.audio) }
  pipelines
    | 0 => .create (frames 0) (.h264 { content := stream f.units }) (.h264 f.video)
    | 1 => .create (frames 1) (.aac { content := adtsStream f.stored } header) (.aac f.audio)

theorem delivering_start (frames : TrackId → FrameIndex → AVFrame) (header : AdtsHeader)
    (track : TrackId) : f.Delivering track ((f.start frames header).pipelines track) [] := by
  rcases trackId_cases track with rfl | rfl
  · refine Pipeline.delivering_create ?_ (h264SinkAt_zero f.videoSink f.units) (frames 0)
    rw [readerAt, Nat.zero_mod]
    rfl
  · exact Pipeline.delivering_create (show AacReaderAt f.stored 0 (.aac _ header) from rfl)
      (aacSinkAt_zero f.audioSink) (frames 1)

variable {f} {track : TrackId} {p p' : Pipeline} {log events : List DeliveryEvent}
  {act : PipelineAct} {answers : Nat → Nat → WriteAnswer}

theorem delivering_step (h : f.Delivering track p log)
    (hact : (ProgramAct.pipeline track act answers).ReadsWhole)
    (hstep : p.stepSending act = .ok (p', events)) : f.Delivering track p' (log ++ events) := by
  rcases trackId_cases track with rfl | rfl
  · refine Pipeline.Delivering.step h (h264_supplies f.someUnit (codesFit_of_short f.short))
      (h264_ships f.videoSink f.someUnit f.short) ?_ hstep
    rintro env rfl
    exact hact
  · refine Pipeline.Delivering.step h (aac_supplies f.someFrame)
      (aac_ships f.audioSink f.someFrame f.fit) ?_ hstep
    rintro env rfl
    exact hact

theorem delivering_defined (h : f.Delivering track p log)
    (hact : (ProgramAct.pipeline track act answers).ReadsWhole) :
    ∃ p' events, p.stepSending act = .ok (p', events) := by
  rcases trackId_cases track with rfl | rfl
  · refine Pipeline.Delivering.defined h (h264_supplies f.someUnit (codesFit_of_short f.short))
      (h264_ships f.videoSink f.someUnit f.short) ?_
    rintro env rfl
    exact hact
  · refine Pipeline.Delivering.defined h (aac_supplies f.someFrame)
      (aac_ships f.audioSink f.someFrame f.fit) ?_
    rintro env rfl
    exact hact

theorem delivering_carries (h : f.Delivering track p log) {n : Nat} {q : SentPacket}
    (hq : (sentOf log)[n]? = some q) : f.Carries track n q := by
  rcases trackId_cases track with rfl | rfl
  · exact Pipeline.Delivering.sent h n q hq
  · exact Pipeline.Delivering.sent h n q hq

end Sources

/-! ## The whole program -/

/-- Where the program stands: the server broadcasts, and each pipeline delivers its file. -/
structure Airing (f : Sources) (p : Program) (log : List ProgramEvent) : Prop where
  server : p.server.Broadcasts
  pipelines : ∀ track, f.Delivering track (p.pipelines track) (eventsOn track log)

namespace Program

variable {f : Sources} {p p' : Program} {act : ProgramAct} {log events : List ProgramEvent}

theorem NetworkAct.fromOutside (act : NetworkAct) : FromOutside act.act := by
  cases act <;> trivial

theorem step_airing (h : Airing f p log) (hact : act.ReadsWhole)
    (hstep : p.step act = .ok (p', events)) : Airing f p' (log ++ events) := by
  cases step_outcome hstep with
  | network act s effects done =>
    refine ⟨h.server.step (NetworkAct.fromOutside act) done, fun track => ?_⟩
    rw [eventsOn_append, eventsOn_server, List.append_nil]
    exact h.pipelines track
  | pipeline track act answers q events s effects moved done =>
    refine ⟨h.server.run callbacks_fromOutside done, fun t => ?_⟩
    rw [eventsOn_append, eventsOn_append, eventsOn_server, List.append_nil, eventsOn_pipeline]
    change f.Delivering t (Function.update p.pipelines track q t) _
    by_cases ht : t = track
    · subst ht
      rw [if_pos rfl, Function.update_self]
      exact Sources.delivering_step (h.pipelines t) hact moved
    · rw [if_neg (Ne.symm ht), List.append_nil, Function.update_of_ne ht]
      exact h.pipelines t

theorem start_airing (f : Sources) (frames : TrackId → FrameIndex → AVFrame) (header : AdtsHeader) :
    Airing f (f.start frames header) [] := by
  have hrun : run Server.step {} [.addMediaSession live, .addRtpSink live 0 (.h264 f.video),
      .addRtpSink live 1 (.aac f.audio)] = .ok ((f.start frames header).server, []) := rfl
  have hsafe : Meets Server.step SafeTrigger {} [.addMediaSession live,
      .addRtpSink live 0 (.h264 f.video), .addRtpSink live 1 (.aac f.audio)] :=
    ⟨trivial, fun _ _ _ => ⟨trivial, fun _ _ _ => ⟨trivial, fun _ _ _ => trivial⟩⟩⟩
  obtain ⟨hsound, hsubscribed⟩ := run_invariant (fun s => s.Sound ∧ Subscribed s.slotOf s.media)
    (fun _ _ _ _ h hok hstep => ⟨Server.step_sound h.1 hstep,
      Server.step_subscribed h.1.settled.owned h.2 hok hstep⟩)
    ⟨Server.sound_empty, subscribed_empty⟩ hsafe hrun
  refine ⟨⟨hsound, hsubscribed, fun hmem => ?_, fun track => ⟨?_, fun t => rfl⟩⟩,
    f.delivering_start frames header⟩
  · have hkeys : (f.start frames header).server.media.sessions.keys = [live] := rfl
    have hlisted := AList.mem_keys.mp hmem
    rw [hkeys] at hlisted
    exact List.mem_singleton.mp hlisted
  · rcases trackId_cases track with rfl | rfl <;> rfl

/-! ## The server in it -/

/-- What the server does in a step. -/
def serverActs (p : Program) : ProgramAct → List ServerAct
  | .network act => [act.act]
  | .pipeline track act answers =>
    match (p.pipelines track).stepSending act with
    | .error _ => []
    | .ok (_, events) => callbacks track answers 0 (sentOf events)

theorem step_server (h : p.step act = .ok (p', events)) :
    run Server.step p.server (p.serverActs act) = .ok (p'.server, effectsOf events) := by
  cases step_outcome h with
  | network act s effects done =>
    rw [serverActs, run, done, effectsOf_server]
    simp only [run, List.append_nil]
  | pipeline track act answers q sent s effects moved done =>
    rw [effectsOf_append, effectsOf_pipeline, effectsOf_server, List.nil_append]
    simp only [serverActs, moved, done]

/-! ## It goes on -/

/-- What the code takes for granted: only of requests. -/
def TakenForGranted (p : Program) : ProgramAct → Prop
  | .network (.read sockfd bytes _) => ∀ conn, p.server.readable sockfd = some conn →
      bytes ≠ [] → conn.Handles p.server.media bytes
  | _ => True

theorem step_ok_iff (h : Airing f p log) (hact : act.ReadsWhole) :
    p.TakenForGranted act ↔ ∃ p' events, p.step act = .ok (p', events) := by
  cases act with
  | network act =>
    have hserver : p.TakenForGranted (.network act) ↔ p.server.TakenForGranted act.act := by
      cases act <;> exact Iff.rfl
    rw [hserver, Server.step_ok_iff h.server.sound]
    simp only [step]
    constructor
    · rintro ⟨s, effects, hstep⟩
      rw [hstep]
      exact ⟨_, _, rfl⟩
    · rintro ⟨p', events, hstep⟩
      cases hdone : p.server.step act.act with
      | error e =>
        rw [hdone] at hstep
        cases hstep
      | ok result => exact ⟨result.1, result.2, rfl⟩
  | pipeline track act answers =>
    refine iff_of_true trivial ?_
    obtain ⟨q, sent, hmoved⟩ := Sources.delivering_defined (h.pipelines track) hact
    obtain ⟨effects, hdone⟩ := callbacks_run h.server track answers (sentOf sent) 0
    simp only [step, hmoved, hdone]
    exact ⟨_, _, rfl⟩

/-! ## What a viewer receives -/

/-- The connection is not destroyed. -/
def Stays (fd : Nat) (p : Program) (act : ProgramAct) : Prop :=
  act = .network .trigger → fd ∉ p.server.disconnectedList

/-- A client that plays has been sent the packets of its track. -/
structure Watching (fd rtp : Nat) (i : RtpInstance) (track : TrackId) (p : Program)
    (log : List ProgramEvent) : Prop where
  server : p.server.Broadcasts
  subscribed : p.server.Subscription fd track rtp i live track
  sent : offeredTo rtp (effectsOf log) = (packetsOn track log).map (i.carrying rtp)

theorem offeredTo_append (rtp : Nat) (a b : List Effect) :
    offeredTo rtp (a ++ b) = offeredTo rtp a ++ offeredTo rtp b := List.filterMap_append

variable {fd rtp : Nat} {i : RtpInstance} {track : TrackId}

theorem step_watching (h : Watching fd rtp i track p log) (hstays : p.Stays fd act)
    (hstep : p.step act = .ok (p', events)) : Watching fd rtp i track p' (log ++ events) := by
  have howned := h.server.sound.settled.owned
  cases step_outcome hstep with
  | network act s effects done =>
    have hrun := step_server hstep
    rw [effectsOf_server] at hrun
    have hkeeps : Server.Stays fd p.server act.act := by
      intro htrigger
      cases act with
      | trigger => exact hstays rfl
      | _ => cases htrigger
    have hmeets : Meets Server.step (Server.Stays fd) p.server [act.act] :=
      ⟨hkeeps, fun _ _ _ => trivial⟩
    obtain ⟨hoffered, hsubscribed⟩ := Server.run_offered howned h.subscribed hmeets hrun
    refine ⟨h.server.step (NetworkAct.fromOutside act) done, hsubscribed, ?_⟩
    have hnone : packetsOf live track [act.act] = [] := by
      cases act <;> rfl
    rw [hnone] at hoffered
    rw [effectsOf_append, effectsOf_server, offeredTo_append, hoffered, packetsOn_append, h.sent,
      packetsOn, packetsOn, eventsOn_server]
    exact (List.append_nil _).trans (congrArg _ (List.append_nil _)).symm
  | pipeline t act answers q sent s effects moved done =>
    have hfit := Pipeline.sent_fit moved
    have hmeets : Meets Server.step (Server.Stays fd) p.server
        (callbacks t answers 0 (sentOf sent)) := by
      refine meets_mono (fun _ act hact => ?_)
        (meets_of_forall fun act hact => callbacks_packet hact)
      obtain ⟨packet, answers', rfl⟩ := hact
      exact fun heq => by cases heq
    obtain ⟨hoffered, hsubscribed⟩ := Server.run_offered howned h.subscribed hmeets done
    refine ⟨h.server.run callbacks_fromOutside done, hsubscribed, ?_⟩
    rw [packetsOf_callbacks track t answers hfit] at hoffered
    rw [effectsOf_append, effectsOf_append, effectsOf_pipeline, effectsOf_server, List.nil_append,
      offeredTo_append, hoffered, packetsOn_append, h.sent, List.map_append]
    refine congrArg (_ ++ ·) ?_
    rw [packetsOn, eventsOn_append, eventsOn_server, List.append_nil, eventsOn_pipeline]
    split
    · rw [List.map_map]
      exact List.map_congr_left fun q hq => sending_rtp (hfit q hq) rtp i
    · rfl

def serverRun (p : Program) (acts : List ProgramAct) : List ServerAct :=
  projected step serverActs p acts

/-- **A run of the program is a run of the server.** -/
theorem run_server {acts : List ProgramAct} (h : run step p acts = .ok (p', events)) :
    run Server.step p.server (p.serverRun acts) = .ok (p'.server, effectsOf events) := by
  have hruns : ∃ s effects, run Server.step p.server (p.serverRun acts) = .ok (s, effects) ∧
      p'.server = s ∧ effectsOf ([] ++ events) = [] ++ effects :=
    run_simulates serverActs (fun p log s effects => p.server = s ∧ effectsOf log = effects)
      (fun p act p' log out s effects hrelated _ hstep => by
        obtain ⟨rfl, rfl⟩ := hrelated
        exact ⟨p'.server, effectsOf out, step_server hstep, rfl, effectsOf_append log out⟩)
      ⟨rfl, rfl⟩ meets_true h
  obtain ⟨s, effects, hrun, hserver, heffects⟩ := hruns
  rw [List.nil_append, List.nil_append] at heffects
  rw [hrun, hserver, heffects]

theorem serverRun_fromOutside (acts : List ProgramAct) :
    ∀ (p : Program), ∀ act ∈ p.serverRun acts, FromOutside act := by
  induction acts with
  | nil =>
    intro p act hact
    cases hact
  | cons next acts ih =>
    intro p act hact
    rcases List.mem_append.mp hact with hact | hact
    · cases next with
      | network next =>
        rw [List.mem_singleton.mp hact]
        exact NetworkAct.fromOutside next
      | pipeline track next answers =>
        simp only [serverActs] at hact
        split at hact
        · cases hact
        · exact callbacks_fromOutside act hact
    · split at hact
      · exact ih _ act hact
      · cases hact

/-- **A client that describes the session, sets up a track and plays receives the file of
that track**: the packets it is sent until its connection is destroyed are consecutive
packets of the file, from where the track stood when it began to play, each once and in
order, whatever the other clients and the threads do. -/
theorem viewer_receives (f : Sources) (frames : TrackId → FrameIndex → AVFrame)
    (header : AdtsHeader) (before during after : List ProgramAct)
    (hreads : ∀ act ∈ before ++ during ++ after, act.ReadsWhole) (p p' p'' : Program)
    (seen called out : List ProgramEvent)
    (hbefore : run step (f.start frames header) before = .ok (p, seen)) (k : Client)
    (hk : k.Valid) (hname : k.target.name = live) (hnew : k.fd ∉ p.server.connections)
    (script : Client.Script) (hsmooth : script.Smooth k) (hscript : p.serverRun during = script.acts k)
    (hduring : run step p during = .ok (p', called)) (hstays : Meets step (Stays k.fd) p' after)
    (hafter : run step p' after = .ok (p'', out)) :
    ∃ rtp i, k.Reaches i ∧
      offeredTo rtp (effectsOf out) = (packetsOn k.track out).map (i.carrying rtp) ∧
      ∀ n q, (packetsOn k.track out)[n]? = some q →
        f.Carries k.track ((packetsOn k.track (seen ++ called)).length + n) q := by
  have hairing : ∀ {acts : List ProgramAct} {p p' : Program} {log out : List ProgramEvent},
      (∀ act ∈ acts, act.ReadsWhole) → Airing f p log → run step p acts = .ok (p', out) →
        Airing f p' (log ++ out) := fun hacts h hrun =>
    run_logged (Airing f) (fun _ _ _ _ _ h hact hstep => step_airing h hact hstep) h
      (meets_of_forall hacts) hrun
  simp only [List.mem_append, or_imp, forall_and] at hreads
  obtain ⟨⟨hreads0, hreads1⟩, hreads2⟩ := hreads
  have hfirst := hairing hreads0 (start_airing f frames header) hbefore
  have hsecond := hairing hreads1 hfirst hduring
  have hthird := hairing hreads2 hsecond hafter
  rw [List.nil_append] at hsecond hthird
  have hserver := run_server hduring
  rw [hscript] at hserver
  have hsafe : Meets Server.step SafeTrigger p.server (script.acts k) := by
    have houtside := serverRun_fromOutside during p
    rw [hscript] at houtside
    exact meets_of_invariant Server.Broadcasts (fun _ _ _ _ h hact hstep => h.step hact hstep)
      (fun _ act h _ => h.safeTrigger act) hfirst.server (meets_of_forall houtside)
  have hoffers : Server.Offers p.server.media k.target.name k.track :=
    hname ▸ hfirst.server.offers k.track
  obtain ⟨rtp, i, hreaches, hsubscribed⟩ := Client.run_script hk hsmooth hfirst.server.sound
    hfirst.server.subscribed hoffers hnew hsafe hserver
  rw [hname] at hsubscribed
  have hwatching : Watching k.fd rtp i k.track p'' ([] ++ out) :=
    run_logged (Watching k.fd rtp i k.track)
      (fun _ _ _ _ _ h hact hstep => step_watching h hact hstep)
      ⟨hsecond.server, hsubscribed, rfl⟩ hstays hafter
  refine ⟨rtp, i, hreaches, hwatching.sent, fun n q hq => ?_⟩
  refine Sources.delivering_carries (hthird.pipelines k.track) ?_
  change (packetsOn k.track (seen ++ called ++ out))[_]? = _
  rw [packetsOn_append, List.getElem?_append_right (Nat.le_add_right _ _), Nat.add_sub_cancel_left]
  exact hq

/-! ## A viewer -/

def sampleSources : Sources where
  units := Pipeline.sampleUnits
  someUnit := List.cons_ne_nil _ _
  short := by decide
  video := { base := { payloadType := rtpPayloadTypeH264, ssrc := 7 }, fps := 25 }
  videoSink := .h264 7 {} 25
  stored := [shortFrame]
  someFrame := List.cons_ne_nil _ _
  fit := List.forall_mem_singleton.mpr (by decide)
  audio := { base := { payloadType := rtpPayloadTypeAac, marker := 1, ssrc := 7 }, fps := 43 }
  audioSink := .aac 7 {} 43

def sampleStart : Program := sampleSources.start (fun _ _ => {}) {}

/-- One unit of the video on its way. -/
def sampleRound : List ProgramAct :=
  Pipeline.oneRound.map fun act => .pipeline 0 act fun _ _ => some 4096

theorem sampleRound_reads : ∀ act ∈ sampleRound, act.ReadsWhole := by
  intro act hact
  obtain ⟨next, hnext, rfl⟩ := List.mem_map.mp hact
  simp only [Pipeline.oneRound, List.mem_cons, List.not_mem_nil, or_false] at hnext
  rcases hnext with rfl | rfl | rfl | rfl | rfl | rfl | rfl
  case inr.inr.inl => exact ⟨frameMaxSize, rfl, Nat.le_refl _⟩
  all_goals trivial

def sampleViewer : Client :=
  { Client.sample with target := { Client.sample.target with name := live } }

def sampleScript : Client.Script where
  first := []
  describing := sampleWorld
  second := []
  asking := sampleWorld
  third := []
  playing := sampleWorld

def sampleVisit : List NetworkAct :=
  [.accept 8 sampleViewer.peer, .read 8 sampleViewer.describe.bytes sampleWorld,
    .read 8 sampleViewer.setup.bytes sampleWorld, .read 8 sampleViewer.play.bytes sampleWorld]

theorem serverRun_network (acts : List NetworkAct) : ∀ {p p' : Program} {events : List ProgramEvent},
    run step p (acts.map .network) = .ok (p', events) →
      p.serverRun (acts.map .network) = acts.map NetworkAct.act := by
  induction acts with
  | nil => exact fun _ => rfl
  | cons act acts ih =>
    intro p p' events h
    obtain ⟨m, first, rest, hstep, hrest, -⟩ := run_cons h
    rw [List.map_cons, serverRun, projected, hstep]
    exact congrArg (act.act :: ·) (ih hrest)

/-- `Stays`, as a test. -/
def stays (fd : Nat) (p : Program) : ProgramAct → Bool
  | .network .trigger => decide (fd ∉ p.server.disconnectedList)
  | _ => true

theorem stays_test (fd : Nat) (p : Program) (act : ProgramAct) (h : stays fd p act = true) :
    p.Stays fd act := by
  rintro rfl
  exact of_decide_eq_true h

theorem viewer_receives_sample : ∃ p seen p' called p'' out rtp i,
    run step sampleStart sampleRound = .ok (p, seen) ∧
      run step p (sampleVisit.map .network) = .ok (p', called) ∧
      run step p' (sampleRound ++ [.network .trigger]) = .ok (p'', out) ∧
      sampleViewer.Reaches i ∧
      offeredTo rtp (effectsOf out) = (packetsOn 0 out).map (i.carrying rtp) ∧
      ∀ n q, (packetsOn 0 out)[n]? = some q →
        sampleSources.Carries 0 ((packetsOn 0 (seen ++ called)).length + n) q := by
  obtain ⟨p, seen, hbefore, hcheck⟩ := checkRun_true (show checkRun step sampleStart sampleRound
    (fun p _ => decide (8 ∉ p.server.connections) &&
      checkRun step p (sampleVisit.map .network) fun p' _ =>
        checkMeets step (stays 8) p' (sampleRound ++ [.network .trigger]) &&
        checkRun step p' (sampleRound ++ [.network .trigger]) fun _ _ => true) = true by
          decide +kernel)
  simp only [Bool.and_eq_true, decide_eq_true_eq] at hcheck
  obtain ⟨hnew, hcheck⟩ := hcheck
  obtain ⟨p', called, hduring, hcheck⟩ := checkRun_true hcheck
  simp only [Bool.and_eq_true] at hcheck
  obtain ⟨hstays, hcheck⟩ := hcheck
  obtain ⟨p'', out, hafter, -⟩ := checkRun_true hcheck
  have hvalid : sampleViewer.Valid :=
    ⟨ClientRequest.urlPart_sample (by decide) (by decide) (by decide),
      ClientRequest.urlPart_sample (by decide) (by decide) (by decide), by decide,
      by decide +kernel⟩
  have hreads : ∀ act ∈ sampleRound ++ sampleVisit.map .network ++
      (sampleRound ++ [.network .trigger]), act.ReadsWhole := by
    intro act hact
    simp only [List.mem_append, List.mem_singleton] at hact
    rcases hact with (hact | hact) | hact | rfl
    · exact sampleRound_reads act hact
    · obtain ⟨next, -, rfl⟩ := List.mem_map.mp hact
      trivial
    · exact sampleRound_reads act hact
    · trivial
  have hsmooth : sampleScript.Smooth sampleViewer :=
    ⟨fun _ h => (List.not_mem_nil h).elim, fun _ h => (List.not_mem_nil h).elim,
      fun _ h => (List.not_mem_nil h).elim, rfl, rfl, rfl, Client.sample_smooth.paired⟩
  obtain ⟨rtp, i, hreceives⟩ := viewer_receives sampleSources (fun _ _ => {}) {} sampleRound
    (sampleVisit.map .network) (sampleRound ++ [.network .trigger]) hreads p p' p'' seen called out
    hbefore sampleViewer hvalid rfl hnew sampleScript hsmooth (serverRun_network _ hduring)
    hduring (meets_of_checkMeets (stays_test 8) hstays) hafter
  exact ⟨p, seen, p', called, p'', out, rtp, i, hbefore, hduring, hafter, hreceives⟩

end Program
end MyRtspServer.Net
