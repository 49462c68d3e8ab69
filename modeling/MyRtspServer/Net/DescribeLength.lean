import MyRtspServer.Net.OneReply
import MyRtspServer.Net.SdpContent
import MyRtspServer.Net.Sessions

/-!
# The length that DESCRIBE announces

`HandleCmdDescribe` announces the length of the SDP string, and sends what has come
through four buffers on the way. All of them are large enough, whatever the numbers
in the texts are: so the length is that of the body.
-/
namespace MyRtspServer.Net

open Library Library.Octets Library.Transition

/-- The arrays of `GetMediaDescription` and `GetAttribute`: their sizes, and what is
printed into them. -/
def Sink.buffers (s : Sink) (port : UInt16) : List (Nat × Octets) :=
  match s with
  | .h264 sink => [(100, sink.getMediaDescription port), (100, sink.getAttribute)]
  | .aac sink => [(100, sink.getMediaDescription port),
      (10, sink.config (aacSampleRate.findIdx (· = sink.sampleRate))), (500, sink.attributeBuffer)]

/-- The value of the Content-Length header is the length of the body. -/
def AnnouncesBody (message : Octets) : Prop :=
  ∃ headers body, message = replyText headers body ∧ (∀ h ∈ headers, Proper h) ∧
    ∃ h ∈ headers, h.1 = ascii "Content-Length" ∧ IsDecimal body.length h.2

/-- The buffers on the way to a DESCRIBE reply with this SDP hold their texts, with the
zero behind them. -/
structure DescribedWhole (w : World) (m : Media) (c : RtspConnection) (session : MediaSession)
    (sdp : Octets) (r : Handled) : Prop where
  sinkBuffers : ∀ track sink, (session.tracks track).rtpSink = some sink →
    ∀ port, ∀ buffer ∈ sink.buffers port, buffer.2.length < buffer.1
  sdpBuffer : sdp.length < 2048
  built : session.sdp = [] → sdp = (session.sdpContent m.rtpInstances w.localIp).text w.time
  replyBuffer : (c.describeText sdp).length < 2048
  sent : repliesOf r.effects = [(c.sockFd, c.describeText sdp)]
  announced : AnnouncesBody (c.describeText sdp)

/-- DESCRIBE of a registered session is answered, and no buffer cuts the answer. -/
def DescribesWhole (w : World) (m : Media) (c : RtspConnection) : Prop :=
  ∀ session, m.sessions.lookup c.request.suffix = some session → ∃ sdp session' r,
    session.generateSdpDescription m.rtpInstances w.localIp w.time = .ok (sdp, session') ∧
      RtspConnection.handleCmdDescribe w m c = .ok r ∧ DescribedWhole w m c session sdp r

/-- What the program can give to the actions: sinks as their constructors make them,
dotted addresses, and a time of 64 bits. -/
def SdpDomain : ServerAct → Prop
  | .addRtpSink _ _ sink => sink.Built
  | .startMulticast _ w => IsDotted w.addr
  | .read _ _ w => IsDotted w.localIp ∧ -2 ^ 63 ≤ w.time ∧ w.time < 2 ^ 63
  | _ => True

/-! ## The sessions -/

/-- The session is sound, and the text it has kept is whole. -/
structure SdpReady (s : MediaSession) : Prop where
  sound : s.SdpSound
  kept : Written 1544 s.sdp

theorem SdpReady.generated {s s' : MediaSession} {instances : AList fun _ : Nat => RtpInstance}
    {localIp sdp : Octets} {time : Int} (h : SdpReady s) (hip : IsDotted localIp)
    (htime : -2 ^ 63 ≤ time ∧ time < 2 ^ 63)
    (hsdp : s.generateSdpDescription instances localIp time = .ok (sdp, s')) :
    Written 1544 sdp ∧ (s.sdp = [] → sdp = (s.sdpContent instances localIp).text time) ∧
      SdpReady s' := by
  unfold MediaSession.generateSdpDescription at hsdp
  split at hsdp
  · rename_i hkept
    cases hsdp
    exact ⟨h.kept, fun hnone => absurd hnone hkept, h⟩
  · split at hsdp
    · cases hsdp
    rename_i text htext
    cases hsdp
    have hwhole := MediaSession.sdpText_content h.sound hip htime htext
    have hwritten := (h.sound.short instances hip).written htime
    rw [← hwhole] at hwritten
    exact ⟨hwritten, fun _ => hwhole, ⟨h.sound.sinks, h.sound.addr⟩, hwritten⟩

theorem sdpReady_invariant : SessionInvariant SdpDomain SdpReady where
  created := fun name => by
    refine ⟨⟨fun track sink hsink => ?_, fun group hgroup => ?_⟩, Nat.zero_le _, List.not_mem_nil⟩
    · cases hsink
    · cases hgroup
  lists := fun track rtps h => by
    refine ⟨⟨fun other sink hsink => h.sound.sinks other sink ?_, h.sound.addr⟩, h.kept⟩
    rwa [MediaSession.setRtpInstances_sink] at hsink
  sink := fun hbuilt h => by
    refine ⟨⟨fun other found hfound => ?_, h.sound.addr⟩, h.kept⟩
    rw [MediaSession.addRtpSink_sink] at hfound
    split at hfound
    · cases hfound
      exact hbuilt
    · exact h.sound.sinks other found hfound
  started := fun haddr h hs => by
    obtain ⟨group, hstarted⟩ := MediaSession.startMulticast_started hs
    refine ⟨⟨fun track sink hsink => h.sound.sinks track sink (hstarted.sink track ▸ hsink),
      fun other hother => ?_⟩, hstarted.sdp ▸ h.kept⟩
    rw [hstarted.session] at hother
    cases hother
    rw [hstarted.addr]
    exact haddr
  described := fun hdomain h hsdp => (h.generated hdomain.1 hdomain.2 hsdp).2.2

/-! ## One DESCRIBE -/

theorem Sink.Built.buffers {s : Sink} (h : s.Built) (port : UInt16) :
    ∀ buffer ∈ s.buffers port, buffer.2.length < buffer.1 := by
  have hmedia := (s.printed_media port).1
  intro buffer hbuffer
  cases s with
  | h264 sink =>
    have hattribute := (H264RtpSink.written_attribute h).length
    simp only [Sink.buffers, List.mem_cons, List.not_mem_nil, or_false] at hbuffer
    rcases hbuffer with rfl | rfl
    · show (sink.getMediaDescription port).length < 100
      exact Nat.lt_of_le_of_lt hmedia (by decide)
    · show sink.getAttribute.length < 100
      omega
  | aac sink =>
    have hconfig := (sink.printed_config (aacSampleRate.findIdx (· = sink.sampleRate))).1
    have hattribute := sink.written_attributeBuffer.length
    simp only [Sink.buffers, List.mem_cons, List.not_mem_nil, or_false] at hbuffer
    rcases hbuffer with rfl | rfl | rfl
    · show (sink.getMediaDescription port).length < 100
      exact Nat.lt_of_le_of_lt hmedia (by decide)
    · show (sink.config (aacSampleRate.findIdx (· = sink.sampleRate))).length < 10
      omega
    · show sink.attributeBuffer.length < 500
      omega

namespace RtspConnection

theorem describeText_written (c : RtspConnection) {sdp : Octets} (h : Written 1544 sdp) :
    Written 1700 (c.describeText sdp) := by
  have hcseq : Written 23 (ascii "RTSP/1.0 200 OK\r\nCSeq: ") := by decide
  have hlength : Written 18 (ascii "\r\nContent-Length: ") := by decide
  have htype : Written 35 (ascii "\r\nContent-Type: application/sdp\r\n\r\n") := by decide
  rw [describeText, h.cstr]
  exact (((((hcseq.append (printed_uint32 c.request.cseq).written).append hlength).append
    (printed_uint32 _).written).append htype).append h).mono (by decide)

/-- **The length that is announced is that of the body.** -/
theorem describeText_announces (c : RtspConnection) {sdp : Octets} (h : Written 1544 sdp) :
    AnnouncesBody (c.describeText sdp) := by
  have hsize : (UInt32.ofNat sdp.length).toNat = sdp.length :=
    UInt32.toNat_ofNat_of_lt' (Nat.lt_of_le_of_lt h.length (by decide))
  refine ⟨_, sdp, (c.describeText_eq sdp).trans (by rw [h.cstr]), fun g hg => ?_,
    (ascii "Content-Length", dec (UInt32.ofNat sdp.length).toNat), ?_, rfl, ?_⟩
  · rcases List.mem_cons.mp hg with rfl | hg
    · exact (cseqHeader_fitting (printed_unsigned _) (dec_ne_nil _)).proper
    · exact (describeHeaders_fitting _ g hg).proper
  · exact List.mem_cons_of_mem _ List.mem_cons_self
  · exact isDecimal_dec.mpr hsize

/-- **One DESCRIBE of a session that is ready.** -/
theorem describesWhole {w : World} {m : Media} {c : RtspConnection} (hout : c.outputBuffer = [])
    (hready : EachSession SdpReady m)
    (hlive : ∀ {name t a}, m.multicastOf name t = some a → a ∈ m.rtpInstances)
    (hip : IsDotted w.localIp) (htime : -2 ^ 63 ≤ w.time ∧ w.time < 2 ^ 63) :
    DescribesWhole w m c := by
  intro session hsession
  have hs := hready _ session hsession
  have hgroup : session.GroupLive m.rtpInstances := by
    intro group hgroup track
    have haddress : m.multicastOf c.request.suffix track = some (group.rtpInstances track) := by
      rw [Media.multicastOf_of_lookup hsession, hgroup]
      rfl
    exact hlive haddress
  obtain ⟨sdp, session', hsdp⟩ := MediaSession.generateSdpDescription_ok hgroup w.localIp w.time
  obtain ⟨hwritten, hbuilt, -⟩ := hs.generated hip htime hsdp
  have htext := c.describeText_written hwritten
  have hformat : format (c.describeText sdp) = c.describeText sdp := by
    rw [format, List.take_of_length_le (Nat.le_trans htext.length (by decide)), htext.cstr]
  refine ⟨sdp, session', _, hsdp, handleCmdDescribe_generated hsession hsdp, ?_⟩
  refine ⟨fun track sink hsink => (hs.sound.sinks track sink hsink).buffers,
    Nat.lt_of_le_of_lt hwritten.length (by decide), hbuilt,
    Nat.lt_of_le_of_lt htext.length (by decide), ?_, c.describeText_announces hwritten⟩
  have hreplies := respond_replies w (m.setSession c.request.suffix session')
    { c with session := some c.request.suffix } (c.describeText sdp) rfl rfl hout
  exact hreplies.trans (congrArg (fun text => [(c.sockFd, text)]) hformat)

end RtspConnection

/-! ## Every DESCRIBE of a run -/

namespace Server

/-- **A DESCRIBE reply is never truncated**, and the length in it is that of its body. -/
theorem describe_whole (acts : List ServerAct) (hdomain : ∀ act ∈ acts, SdpDomain act) :
    Meets step (OnRequest .describe DescribesWhole) {} acts := by
  refine meets_of_invariant (fun s => EachSession SdpReady s.media ∧ Ownership s.slotOf s.media ∧
      Registered s)
    (fun s act s' effects h hok hstep => ⟨sdpReady_invariant.step h.1 hok hstep,
      step_ownership h.2.1 hstep, step_registered h.2.2 hstep⟩)
    (fun s act h hok => ?_) ⟨eachSession_empty, ownership_empty, registered_empty⟩
    (meets_of_forall hdomain)
  cases act with
  | read sockfd bytes w =>
    intro conn request hconn _ _ _
    have hout := h.2.2.outputBuffer (readable_some hconn).1
    exact RtspConnection.describesWhole (c := { conn.rtsp with request := request }) hout h.1
      h.2.1.multicastLive hok.1 hok.2
  | _ => exact trivial

/-- A multicast session with both sinks, and a client that describes it twice. -/
def bothSinksClient : List ServerAct :=
  sampleSession "a" ++
    [.addRtpSink (ascii "a") 1 (.aac { base := { payloadType := 97 }, fps := 43 }),
      .startMulticast (ascii "a")
        { addr := ascii "232.0.1.1", sockfd := fun i => some (30 + i), rand := 20000
          newRtp := fun t => 100 + t },
      sampleConnect, sampleRequest "DESCRIBE rtsp://h/a" "Accept: application/sdp\r\n",
      sampleRequest "DESCRIBE rtsp://h/a" "Accept: application/sdp\r\n"]

theorem bothSinksClient_domain : ∀ act ∈ bothSinksClient, SdpDomain act := by
  have hip : IsDotted sampleWorld.localIp := ⟨⟨10, 0, 0, 1⟩, by decide⟩
  have hgroup : IsDotted (ascii "232.0.1.1") := ⟨⟨232, 0, 1, 1⟩, by decide⟩
  intro act hact
  simp only [bothSinksClient, sampleSession, sampleConnect, sampleRequest, List.cons_append,
    List.nil_append, List.mem_cons, List.not_mem_nil, or_false] at hact
  rcases hact with rfl | rfl | rfl | rfl | rfl | rfl | rfl
  · trivial
  · exact ⟨rfl, by decide, by decide⟩
  · exact ⟨by decide, by decide⟩
  · exact hgroup
  · trivial
  · exact ⟨hip, by decide, by decide⟩
  · exact ⟨hip, by decide, by decide⟩

theorem describe_whole_sample :
    Meets step (OnRequest .describe DescribesWhole) {} bothSinksClient ∧
      checkRun step {} bothSinksClient (fun _ effects => (repliesOf effects).length = 2) = true :=
  ⟨describe_whole bothSinksClient bothSinksClient_domain, by decide +kernel⟩

end Server
end MyRtspServer.Net
