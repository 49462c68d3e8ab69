import MyRtspServer.Net.SdpContent
import MyRtspServer.Net.Sessions

/-!
# The SDP text that is kept

The first `GenerateSdpDescription` builds the text and keeps it; nothing throws it
away again. So later calls return what a session was, not what it is: they agree with
a fresh text as long as nothing the text is made from has changed since the first one.
-/
namespace MyRtspServer.Net

open Library Library.Octets Library.Lines Library.Transition

/-- A session that is being set up, and the heap. -/
structure SdpState where
  session : MediaSession
  media : Media

/-- The calls, with what comes from outside: sinks as their constructors make them,
addresses as `inet_ntoa` writes them, and the time. -/
inductive SdpCall where
  | addRtpSink (track : TrackId) (sink : Sink) (built : sink.Built)
  | startMulticast (w : MulticastWorld) (dotted : IsDotted w.addr)
  | generateSdpDescription (localIp : Ipv4) (time : Int64)

/-- What `GenerateSdpDescription` returns, and what the session was then. -/
structure SdpAnswer where
  content : SdpContent
  text : Octets

/-- What the text of the session would be made from now. -/
def SdpState.content (s : SdpState) (localIp : Ipv4) : SdpContent :=
  s.session.sdpContent s.media.rtpInstances localIp.text

def SdpState.step (s : SdpState) : SdpCall →
    Except Fault (SdpState × List SdpAnswer)
  | .addRtpSink track sink _ => .ok ({ s with session := s.session.addRtpSink track sink }, [])
  | .startMulticast w _ =>
    match s.session.startMulticast s.media w with
    | .error e => .error e
    | .ok (session, media, _) => .ok (⟨session, media⟩, [])
  | .generateSdpDescription localIp time =>
    match s.session.generateSdpDescription s.media.rtpInstances localIp.text time.toInt with
    | .error e => .error e
    | .ok (text, session) => .ok ({ s with session := session }, [⟨s.content localIp, text⟩])

/-- The call returns the text that would be built now, some time stamp apart: that of
the content the session has now. -/
def AgreesWithFresh (s : SdpState) : SdpCall → Prop
  | .generateSdpDescription localIp time => ∃ text session, ∃ stamp : Int64,
      s.session.generateSdpDescription s.media.rtpInstances localIp.text time.toInt =
        .ok (text, session) ∧
      s.session.sdpText s.media.rtpInstances localIp.text stamp.toInt = .ok text ∧
      text = (s.content localIp).text stamp.toInt
  | _ => True

/-- The content of the first text. -/
def firstContent (v : Option SdpContent) (answer : SdpAnswer) : Option SdpContent :=
  v.or (some answer.content)

/-- What the text is made from is what the first text was made from. -/
def SameContent (p : SdpState × Option SdpContent) : SdpCall → Prop
  | .generateSdpDescription localIp _ => ∀ content, p.2 = some content →
      p.1.content localIp = content
  | _ => True

/-! ## The content -/

namespace MediaSession

/-- **One section for each live track, in the order of the tracks.** -/
theorem sdpContent_tracks (s : MediaSession) (instances : AList fun _ : Nat => RtpInstance)
    (localIp : Octets) : (s.sdpContent instances localIp).sections.map SdpSection.track =
      [0, 1].filter fun track => (s.tracks track).isAlive := by
  unfold sdpContent Track.isAlive
  cases h0 : (s.tracks 0).rtpSink <;> cases h1 : (s.tracks 1).rtpSink <;>
    simp [h0, h1, sdpSection]

end MediaSession

/-! ## Every call -/

/-- What is kept is the text of the content that the first call has seen. -/
structure SdpCached (s : SdpState) (first : Option SdpContent) : Prop where
  sound : s.session.SdpSound
  live : s.session.GroupLive s.media.rtpInstances
  empty : first = none → s.session.sdp = []
  kept : ∀ content, first = some content →
    s.session.sdp ≠ [] ∧ ∃ stamp : Int64, s.session.sdp = content.text stamp.toInt

theorem int64_range (t : Int64) : -2 ^ 63 ≤ t.toInt ∧ t.toInt < 2 ^ 63 :=
  ⟨t.le_toInt, t.toInt_lt⟩

theorem sdpCached_created (name : Octets) (m : Media) :
    SdpCached ⟨{ sessionName := name }, m⟩ none := by
  refine ⟨⟨fun track sink h => ?_, fun group h => ?_⟩, fun group h => ?_, fun _ => rfl,
    fun content h => ?_⟩
  · cases h
  · cases h
  · cases h
  · cases h

namespace SdpCached

variable {s s' : SdpState} {first : Option SdpContent}

theorem addRtpSink (h : SdpCached s first) (track : TrackId) {sink : Sink} (hbuilt : sink.Built) :
    SdpCached { s with session := s.session.addRtpSink track sink } first := by
  refine ⟨⟨fun other found hfound => ?_, h.sound.addr⟩, h.live, h.empty, h.kept⟩
  dsimp only at hfound
  rw [MediaSession.addRtpSink_sink] at hfound
  split at hfound
  · cases hfound
    exact hbuilt
  · exact h.sound.sinks other found hfound

theorem startMulticast (h : SdpCached s first) {w : MulticastWorld} (hdotted : IsDotted w.addr)
    {session : MediaSession} {media : Media} {effects : List Effect}
    (hs : s.session.startMulticast s.media w = .ok (session, media, effects)) :
    SdpCached ⟨session, media⟩ first := by
  obtain ⟨group, hstarted⟩ := MediaSession.startMulticast_started hs
  have hgroup : session.multicast = some group := by rw [hstarted.session]
  refine ⟨⟨fun track sink hsink => h.sound.sinks track sink (hstarted.sink track ▸ hsink),
    fun other hother => ?_⟩, fun other hother => ?_, fun hnone => ?_, fun content hfirst => ?_⟩
  · obtain rfl := Option.some.inj (hgroup.symm.trans hother)
    rw [hstarted.addr]
    exact hdotted
  · obtain rfl := Option.some.inj (hgroup.symm.trans hother)
    exact hstarted.live
  · exact hstarted.sdp.trans (h.empty hnone)
  · exact hstarted.sdp ▸ h.kept content hfirst

/-- The first call builds the text of the content there is. -/
theorem generated_first (h : SdpCached s none) (localIp : Ipv4) (time : Int64) :
    ∃ text session, s.session.generateSdpDescription s.media.rtpInstances localIp.text time.toInt =
        .ok (text, session) ∧
      text = (s.content localIp).text time.toInt ∧
      SdpCached { s with session := session } (some (s.content localIp)) := by
  have hip : IsDotted localIp.text := ⟨localIp, rfl⟩
  obtain ⟨text, htext⟩ := MediaSession.sdpText_ok h.live localIp.text time.toInt
  have hcontent := MediaSession.sdpText_content h.sound hip (int64_range time) htext
  have hbuilt : s.session.generateSdpDescription s.media.rtpInstances localIp.text time.toInt =
      .ok (text, { s.session with sdp := text }) := by
    unfold MediaSession.generateSdpDescription
    rw [if_neg (not_not.mpr (h.empty rfl)), htext]
  refine ⟨text, _, hbuilt, hcontent, ⟨h.sound.sinks, h.sound.addr⟩, h.live, fun hno => ?_,
    fun content hfirst => ?_⟩
  · cases hno
  · cases hfirst
    refine ⟨?_, time, hcontent⟩
    rw [show ({ s.session with sdp := text } : MediaSession).sdp = text from rfl, hcontent]
    exact (s.content localIp).text_ne_nil time.toInt

/-- Every later call returns what is kept. -/
theorem generated_later {content : SdpContent} (h : SdpCached s (some content)) (localIp : Ipv4)
    (time : Int64) : s.session.generateSdpDescription s.media.rtpInstances localIp.text time.toInt =
      .ok (s.session.sdp, s.session) := by
  unfold MediaSession.generateSdpDescription
  rw [if_pos (h.kept content rfl).1]

/-- What is built now, with any stamp, is the text of the content. -/
theorem fresh (h : SdpCached s first) (localIp : Ipv4) (stamp : Int64) :
    s.session.sdpText s.media.rtpInstances localIp.text stamp.toInt =
      .ok ((s.content localIp).text stamp.toInt) := by
  obtain ⟨text, htext⟩ := MediaSession.sdpText_ok h.live localIp.text stamp.toInt
  rw [htext, MediaSession.sdpText_content h.sound ⟨localIp, rfl⟩ (int64_range stamp) htext]
  rfl

/-- **One call** agrees with a fresh text when the content is the first one. -/
theorem agrees (h : SdpCached s first) {call : SdpCall} (hsame : SameContent (s, first) call) :
    AgreesWithFresh s call := by
  cases call with
  | addRtpSink track sink built => trivial
  | startMulticast w dotted => trivial
  | generateSdpDescription localIp time =>
    cases first with
    | none =>
      obtain ⟨text, session, hcall, htext, -⟩ := h.generated_first localIp time
      exact ⟨text, session, time, hcall, htext ▸ h.fresh localIp time, htext⟩
    | some content =>
      obtain ⟨-, stamp, hkept⟩ := h.kept content rfl
      rw [← hsame content rfl] at hkept
      exact ⟨s.session.sdp, s.session, stamp, h.generated_later localIp time,
        hkept ▸ h.fresh localIp stamp, hkept⟩

/-- Every call keeps the cache what it is. -/
theorem step (h : SdpCached s first) {call : SdpCall} {answers : List SdpAnswer}
    (hstep : s.step call = .ok (s', answers)) : SdpCached s' (answers.foldl firstContent first) := by
  cases call with
  | addRtpSink track sink built =>
    cases hstep
    exact h.addRtpSink track built
  | startMulticast w dotted =>
    rw [SdpState.step] at hstep
    split at hstep <;> cases hstep
    exact h.startMulticast dotted ‹_›
  | generateSdpDescription localIp time =>
    rw [SdpState.step] at hstep
    cases first with
    | none =>
      obtain ⟨text, session, hcall, -, hcached⟩ := h.generated_first localIp time
      rw [hcall] at hstep
      cases hstep
      exact hcached
    | some content =>
      rw [h.generated_later localIp time] at hstep
      cases hstep
      exact h

end SdpCached

/-! ## Every run of calls -/

/-- **The kept text agrees with a fresh one** in every run of calls in which what the
text is made from is, at each `GenerateSdpDescription`, what it was at the first. -/
theorem kept_sdp_agrees (name : Octets) (m : Media) (calls : List SdpCall)
    (hsame : Meets (watch firstContent SdpState.step) SameContent
      (⟨{ sessionName := name }, m⟩, none) calls) :
    Meets SdpState.step AgreesWithFresh ⟨{ sessionName := name }, m⟩ calls := by
  refine meets_of_watch none (meets_of_invariant
    (fun p : SdpState × Option SdpContent => SdpCached p.1 p.2)
    (fun p call p' answers h _ hstep => ?_) (fun p call h hok => h.agrees hok)
    (sdpCached_created name m) hsame)
  obtain ⟨s, v⟩ := p
  obtain ⟨s', v'⟩ := p'
  obtain ⟨hs, rfl⟩ := watch_step hstep
  exact h.step hs

/-- A session with a video sink on its first track, as a sequence of calls. -/
def sampleSink : SdpCall :=
  .addRtpSink 0 (.h264 { base := { payloadType := rtpPayloadTypeH264 }, fps := 25 })
    ⟨rfl, by decide, by decide⟩

def sampleStart : SdpCall :=
  .startMulticast
    { addr := ascii "232.0.1.1", sockfd := fun i => some (30 + i), rand := 20000
      newRtp := fun t => 100 + t } ⟨⟨232, 0, 1, 1⟩, by decide⟩

def sampleGenerate : SdpCall := .generateSdpDescription ⟨10, 0, 0, 1⟩ 0

/-- `SameContent` of a call, as a test. -/
def sameContent (p : SdpState × Option SdpContent) : SdpCall → Bool
  | .generateSdpDescription localIp _ => match p.2 with
    | none => true
    | some content => decide (p.1.content localIp = content)
  | _ => true

theorem sameContent_test (p : SdpState × Option SdpContent) (call : SdpCall)
    (h : sameContent p call = true) : SameContent p call := by
  cases call with
  | generateSdpDescription localIp time =>
    intro content hfirst
    rw [sameContent, hfirst] at h
    exact of_decide_eq_true h
  | _ => trivial

/-- Set up first, described afterwards. -/
theorem kept_sdp_agrees_sample :
    Meets SdpState.step AgreesWithFresh ⟨{ sessionName := ascii "a" }, {}⟩
      [sampleSink, sampleStart, sampleGenerate, sampleGenerate] :=
  kept_sdp_agrees (ascii "a") {} [sampleSink, sampleStart, sampleGenerate, sampleGenerate]
    (meets_of_checkMeets sameContent_test (by decide +kernel))

theorem SdpContent.describes_reflection {c : SdpContent} (h : c.isMulticast = true) (time : Int) :
    ascii "a=rtcp-unicast: reflection" <:+: c.text time := by
  have hline : ascii "a=rtcp-unicast: reflection" ∈ c.head time := by
    rw [head, h, if_pos rfl]
    exact List.mem_append_right _ (List.mem_singleton_self _)
  exact (infix_encodeLines hline).trans (List.prefix_append _ _).isInfix

/-- **Multicast that is started after the first description is never described**. -/
theorem late_multicast_not_described :
    ¬ Meets SdpState.step AgreesWithFresh ⟨{ sessionName := ascii "a" }, {}⟩
      ([sampleSink, sampleGenerate, sampleStart] ++ [sampleGenerate]) := by
  intro hmeets
  obtain ⟨s, answers, hrun, hcheck⟩ := checkRun_true
    (show checkRun SdpState.step ⟨{ sessionName := ascii "a" }, {}⟩
      [sampleSink, sampleGenerate, sampleStart] (fun s _ =>
        decide (s.session.isStartMulticast = true ∧ s.session.sdp ≠ [] ∧
          contains (ascii "a=rtcp-unicast: reflection") s.session.sdp = false)) = true
      by decide +kernel)
  obtain ⟨hstarted, hkept, hno⟩ := of_decide_eq_true hcheck
  obtain ⟨text, session, stamp, hcall, -, htext⟩ := (meets_append hmeets hrun).2.1
  rw [MediaSession.generateSdpDescription, if_pos hkept] at hcall
  cases hcall
  have hline := (s.content ⟨10, 0, 0, 1⟩).describes_reflection hstarted stamp.toInt
  rw [← htext, ← contains_iff (by decide), hno] at hline
  cases hline

end MyRtspServer.Net
