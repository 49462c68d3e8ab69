import MyRtspServer.Net.OneReply
import MyRtspServer.Net.Registered
import MyRtspServer.Net.SetupSession
import MyRtspServer.Net.SetupTransport
import MyRtspServer.Net.Subscribers

/-!
# A SETUP that is answered

SETUP makes an instance, puts it into the slot of the connection and offers it to
the session, which takes it only on a track with a sink. Nobody looks whether it
was taken: the reply is 200 all the same. So the reply means that packets will come
exactly for tracks with a sink, provided no list has kept a deleted instance whose
address `new` now returns again.
-/
namespace MyRtspServer.Net

open Library Library.Octets Library.Transition

instance : DecidablePred RtspConnection.IsReply := fun message =>
  inferInstanceAs (Decidable (ascii "RTSP/1.0 200 OK\r\nCSeq: " <+: message ∨
    ascii "RTP/1.0 200 OK\r\nCSeq: " <+: message))

/-- A reply with the status 200 is sent. -/
def Answers200 (r : Handled) : Prop := ∃ reply ∈ repliesOf r.effects, RtspConnection.IsReply reply.2

instance (r : Handled) : Decidable (Answers200 r) :=
  inferInstanceAs (Decidable (∃ reply ∈ repliesOf r.effects, RtspConnection.IsReply reply.2))

/-- All lists together hold the instance once, on this track. -/
structure ListedOnce (m : Media) (name : Octets) (track : TrackId) (rtp : Nat) : Prop where
  here : (m.trackOf name track).rtpInstances.count rtp = 1
  nowhereElse : ∀ other t, rtp ∈ (m.trackOf other t).rtpInstances → other = name ∧ t = track

/-- No list holds the address. -/
def Unlisted (m : Media) (rtp : Nat) : Prop :=
  ∀ name t, rtp ∉ (m.trackOf name t).rtpInstances

/-- The lists of the sessions and the slots of the connection are as they were. -/
structure Untouched (m : Media) (c : RtspConnection) (r : Handled) : Prop where
  lists : ∀ name t, (r.media.trackOf name t).rtpInstances = (m.trackOf name t).rtpInstances
  rtpSlots : r.conn.rtpInstances = c.rtpInstances
  rtcpSlots : r.conn.rtcpInstances = c.rtcpInstances

/-- An instance for the track cannot be created: its slots are taken, or over UDP
there is no pair of ports for it. -/
def Uncreatable (w : World) (m : Media) (c : RtspConnection) (track : TrackId) : Prop :=
  (c.rtpInstances track).isSome ∨ (c.rtcpInstances track).isSome ∨
    describedMulticast m c = false ∧ c.request.isRtpOverTcp = false ∧
      (RtspConnection.openUdpPair w.udp 10 0).1 = none

/-- A 200 in a unicast branch means that the new instance is on the list of the track
that was asked for, and on no other; without a sink or an instance nothing happens. -/
structure Delivered (w : World) (m : Media) (c : RtspConnection) (name : Octets) (track : TrackId)
    (r : Handled) : Prop where
  listed : describedMulticast m c = false → Answers200 r → ∃ rtp, rtp ∉ m.rtpInstances ∧
    rtp ∈ r.media.rtpInstances ∧ r.conn.rtpInstances track = some rtp ∧
      ListedOnce r.media name track rtp
  refused : (m.trackOf name track).isAlive = false ∨ Uncreatable w m c track →
    ¬ Answers200 r ∧ Untouched m c r

namespace RtspConnection

/-- Whatever SETUP does for a track of a registered session, it keeps what a 200 says. -/
def SetupDelivers (w : World) (m : Media) (c : RtspConnection) : Prop :=
  ∀ name track r, sessionNameOf c.request.suffix = .ok (some name) → name ∈ m.sessions →
    c.request.trackId = some track → handleCmdSetup w m c = .ok r → Delivered w m c name track r

/-- A SETUP that is not refused is for a track with a sink, and the address of a new
instance is on no list. -/
def SetupServed (w : World) (m : Media) (c : RtspConnection) : Prop :=
  ∀ name session track described describedSession,
    SetupFound m c name session track described describedSession → ¬ Uncreatable w m c track →
      (session.tracks track).isAlive = true ∧
        (describedSession.isStartMulticast = true ∨ Unlisted m (m.freshAddress w.newRtp))

/-! ## One SETUP -/

section OneSetup

variable {w : World} {m : Media} {c : RtspConnection} {name : Octets} {session : MediaSession}
  {track : TrackId} {described : Octets} {describedSession : MediaSession} {r : Handled}

theorem refused_silent (m : Media) (c : RtspConnection) (effects : List Effect)
    (h : repliesOf effects = []) :
    ¬ Answers200 ⟨false, m, c, effects⟩ ∧ Untouched m c ⟨false, m, c, effects⟩ := by
  refine ⟨?_, fun _ _ => rfl, rfl, rfl⟩
  rintro ⟨reply, hreply, -⟩
  rw [h] at hreply
  cases hreply

theorem respond_answers200 (w : World) (m : Media) {c c' : RtspConnection} {text : Octets}
    (hfd : c'.sockFd = c.sockFd) (hbuffer : c'.outputBuffer = c.outputBuffer)
    (hout : c.outputBuffer = []) (htext : ascii "RTSP/1.0 200 OK\r\nCSeq: " <+: text ∨
      ascii "RTP/1.0 200 OK\r\nCSeq: " <+: text) : Answers200 (respond w m c' text) := by
  refine ⟨(c.sockFd, format text), ?_, isReply_format htext⟩
  rw [respond_replies w m c' text hfd hbuffer hout]
  exact List.mem_singleton_self _

theorem answers200_behind (effects : List Effect) (h : Answers200 r) :
    Answers200 { r with effects := effects ++ r.effects } := by
  obtain ⟨reply, hreply, hok⟩ := h
  refine ⟨reply, ?_, hok⟩
  rw [repliesOf_append]
  exact List.mem_append_right _ hreply

/-- What both unicast branches leave behind: a new instance in the slot, offered to
the track, and a 200. -/
structure Enlists (w : World) (m : Media) (name : Octets) (track : TrackId) (r : Handled) :
    Prop where
  live : m.freshAddress w.newRtp ∈ r.media.rtpInstances
  slot : r.conn.rtpInstances track = some (m.freshAddress w.newRtp)
  lists : ∀ other t, r.media.trackOf other t =
    if other = name ∧ t = track then (m.trackOf name track).enlist (m.freshAddress w.newRtp)
    else m.trackOf other t
  answers : Answers200 r

theorem setupOverTcp_enlists (hsession : m.sessions.lookup name = some session)
    (hout : c.outputBuffer = []) :
    Enlists w m name track (setupOverTcp w m c name session track) where
  live := AList.mem_insert _ |>.mpr (Or.inl rfl)
  slot := Function.update_self ..
  lists := Media.trackOf_enlisted hsession _ track _
  answers := by
    refine respond_answers200 (c := c) w _ rfl rfl hout (Or.inl ?_)
    simp only [setupTcpText, List.append_assoc]
    exact List.prefix_append _ _

theorem setupUdpText_start (c : RtspConnection) (rtpPort rtcpPort : UInt16) :
    ascii "RTSP/1.0 200 OK\r\nCSeq: " <+: c.setupUdpText rtpPort rtcpPort := by
  simp only [setupUdpText, List.append_assoc]
  exact List.prefix_append _ _

theorem setupOverUdp_enlists (hsession : m.sessions.lookup name = some session)
    (hout : c.outputBuffer = []) (hpair : (openUdpPair w.udp 10 0).1 ≠ none) :
    Enlists w m name track (setupOverUdp w m c name session track) := by
  unfold setupOverUdp
  rcases hfound : openUdpPair w.udp 10 0 with ⟨_ | ⟨rtpSockfd, rtpPort, rtcpSockfd, rtcpPort⟩, effects⟩
  · rw [hfound] at hpair
    exact absurd rfl hpair
  · refine ⟨AList.mem_insert _ |>.mpr (Or.inl rfl), Function.update_self ..,
      Media.trackOf_enlisted hsession _ track _, ?_⟩
    exact answers200_behind effects
      (respond_answers200 (c := c) w _ rfl rfl hout (Or.inl (setupUdpText_start _ _ _)))

/-- On a track with a sink, **the new instance is on its list and only there** exactly
when no list had its address. -/
theorem Enlists.listed_iff (h : Enlists w m name track r)
    (halive : (m.trackOf name track).isAlive = true) :
    (∃ rtp, rtp ∉ m.rtpInstances ∧ rtp ∈ r.media.rtpInstances ∧
      r.conn.rtpInstances track = some rtp ∧ ListedOnce r.media name track rtp) ↔
    Unlisted m (m.freshAddress w.newRtp) := by
  have hhere := h.lists name track
  rw [if_pos ⟨rfl, rfl⟩, Track.enlist, if_pos halive] at hhere
  constructor
  · rintro ⟨rtp, -, -, hslot, hlisted⟩ other t hold
    rw [h.slot] at hslot
    obtain rfl := Option.some.inj hslot
    have hcount := hlisted.here
    rw [hhere, List.count_append, List.count_singleton_self] at hcount
    by_cases heq : other = name ∧ t = track
    · rw [heq.1, heq.2] at hold
      have := List.count_pos_iff.mpr hold
      omega
    · refine heq (hlisted.nowhereElse other t ?_)
      rwa [h.lists, if_neg heq]
  · intro hfree
    refine ⟨m.freshAddress w.newRtp, m.freshAddress_fresh _, h.live, h.slot, ?_, ?_⟩
    · rw [hhere, List.count_append, List.count_singleton_self,
        List.count_eq_zero.mpr (hfree name track)]
    · intro other t hmem
      by_contra hother
      rw [h.lists, if_neg hother] at hmem
      exact hfree other t hmem

theorem creatable_of_found
    (h : SetupFound m c name session track described describedSession)
    (hgroup : describedSession.isStartMulticast = true ∨ c.request.isRtpOverTcp = true ∨
      (openUdpPair w.udp 10 0).1 ≠ none) : ¬ Uncreatable w m c track := by
  rintro (hrtp | hrtcp | ⟨hunicast, hudp, hpair⟩)
  · rw [h.rtpFree] at hrtp
    cases hrtp
  · rw [h.rtcpFree] at hrtcp
    cases hrtcp
  · rw [describedMulticast_found h] at hunicast
    rcases hgroup with hyes | htcp | hsome
    · rw [hunicast] at hyes
      cases hyes
    · rw [hudp] at htcp
      cases htcp
    · exact hsome hpair

/-- What an answer in a unicast branch keeps of what it says. -/
theorem Enlists.delivered_iff (h : Enlists w m name track r)
    (hunicast : describedMulticast m c = false) (hcreatable : ¬ Uncreatable w m c track) :
    Delivered w m c name track r ↔ (m.trackOf name track).isAlive = true ∧
      Unlisted m (m.freshAddress w.newRtp) := by
  constructor
  · intro hd
    have halive : (m.trackOf name track).isAlive = true := by
      by_contra hdead
      exact (hd.refused (Or.inl (Bool.eq_false_of_not_eq_true hdead))).1 h.answers
    exact ⟨halive, (h.listed_iff halive).mp (hd.listed hunicast h.answers)⟩
  · rintro ⟨halive, hfree⟩
    refine ⟨fun _ _ => (h.listed_iff halive).mpr hfree, fun hno => ?_⟩
    rcases hno with hdead | huncreatable
    · rw [halive] at hdead
      cases hdead
    · exact absurd huncreatable hcreatable

/-- A multicast answer changes nothing, but it is an answer. -/
theorem multicast_delivered_iff (hout : c.outputBuffer = [])
    (hgroup : describedMulticast m c = true) (hcreatable : ¬ Uncreatable w m c track)
    (port : UInt16) :
    Delivered w m c name track
      (respond w m c (c.setupMulticastText session.getMulticastDestAddr w.localIp port)) ↔
    (m.trackOf name track).isAlive = true := by
  have hanswers : Answers200
      (respond w m c (c.setupMulticastText session.getMulticastDestAddr w.localIp port)) := by
    refine respond_answers200 (c := c) w m rfl rfl hout (Or.inr ?_)
    simp only [setupMulticastText, List.append_assoc]
    exact List.prefix_append _ _
  constructor
  · intro hd
    by_contra hdead
    exact (hd.refused (Or.inl (Bool.eq_false_of_not_eq_true hdead))).1 hanswers
  · intro halive
    refine ⟨fun hunicast => ?_, fun hno => ?_⟩
    · rw [hgroup] at hunicast
      cases hunicast
    · rcases hno with hdead | huncreatable
      · rw [halive] at hdead
        cases hdead
      · exact absurd huncreatable hcreatable

/-- Over UDP without a pair of ports nothing happens. -/
theorem setupOverUdp_unpaired (hpair : (openUdpPair w.udp 10 0).1 = none) :
    ¬ Answers200 (setupOverUdp w m c name session track) ∧
      Untouched m c (setupOverUdp w m c name session track) := by
  have hudp := openUdpPair_no_reply w.udp
  unfold setupOverUdp
  rcases hfound : openUdpPair w.udp 10 0 with ⟨_ | pair, effects⟩
  · rw [hfound] at hudp
    exact refused_silent m c effects hudp
  · rw [hfound] at hpair
    cases hpair

/-- SETUP is refused, or has found all that it looks up. -/
theorem refused_or_found (hr : handleCmdSetup w m c = .ok r) : r = ⟨false, m, c, []⟩ ∨
    ∃ name session track described describedSession,
      SetupFound m c name session track described describedSession := by
  cases handleCmdSetup_answer hr with
  | refused => exact Or.inl rfl
  | multicast name session track described describedSession port found group dest =>
    exact Or.inr ⟨_, _, _, _, _, found⟩
  | overTcp name session track described describedSession found unicast tcp =>
    exact Or.inr ⟨_, _, _, _, _, found⟩
  | overUdp name session track described describedSession found unicast udp =>
    exact Or.inr ⟨_, _, _, _, _, found⟩

/-- The lookups of SETUP have one result. -/
theorem name_of_found (h : SetupFound m c name session track described describedSession)
    {other : Octets} (hnamed : sessionNameOf c.request.suffix = .ok (some other)) : other = name := by
  have heq := hnamed.symm.trans h.named
  cases heq
  rfl

/-- **What one answered SETUP keeps of what a 200 says**: everything, exactly when the
track has a sink and the address of the new instance is on no list. -/
theorem delivered_iff_of_found
    (h : SetupFound m c name session track described describedSession)
    (hout : c.outputBuffer = []) (hr : handleCmdSetup w m c = .ok r) :
    Delivered w m c name track r ↔ (¬ Uncreatable w m c track →
      (session.tracks track).isAlive = true ∧
        (describedSession.isStartMulticast = true ∨ Unlisted m (m.freshAddress w.newRtp))) := by
  have hgroup := describedMulticast_found h
  rw [← congrFun (Media.trackOf_of_lookup h.registered) track]
  have hasks : Asks m c name session track := ⟨h.named, h.registered, h.asked, h.rtpFree, h.rtcpFree⟩
  rw [handleCmdSetup_asks hasks h.remembered h.described] at hr
  unfold setupAnswer at hr
  split at hr
  · rename_i hyes
    split at hr <;> cases hr
    have hcreatable : ¬ Uncreatable w m c track := creatable_of_found h (Or.inl hyes)
    rw [multicast_delivered_iff hout (hgroup.trans hyes) hcreatable]
    simp only [hcreatable, not_false_eq_true, forall_const, hyes, true_or, and_true]
  rename_i hno
  rw [Bool.not_eq_true] at hno
  simp only [hno, Bool.false_eq_true, false_or]
  split at hr
  · rename_i htcp
    cases hr
    have hcreatable : ¬ Uncreatable w m c track := creatable_of_found h (Or.inr (Or.inl htcp))
    rw [(setupOverTcp_enlists h.registered hout).delivered_iff (hgroup.trans hno) hcreatable]
    simp only [hcreatable, not_false_eq_true, forall_const]
  · rename_i hudp
    cases hr
    by_cases hpair : (openUdpPair w.udp 10 0).1 = none
    · have hun : Uncreatable w m c track :=
        Or.inr (Or.inr ⟨hgroup.trans hno, Bool.eq_false_of_not_eq_true hudp, hpair⟩)
      have hquiet : ¬ Answers200 (setupOverUdp w m c name session track) ∧
          Untouched m c (setupOverUdp w m c name session track) := setupOverUdp_unpaired hpair
      refine iff_of_true ⟨fun _ hanswers => absurd hanswers hquiet.1, fun _ => hquiet⟩ ?_
      exact fun hcreatable => absurd hun hcreatable
    · have hcreatable : ¬ Uncreatable w m c track := creatable_of_found h (Or.inr (Or.inr hpair))
      rw [(setupOverUdp_enlists h.registered hout hpair).delivered_iff (hgroup.trans hno) hcreatable]
      simp only [hcreatable, not_false_eq_true, forall_const]

/-- A multicast session has its instances. -/
theorem handleCmdSetup_ok (h : SetupFound m c name session track described describedSession)
    (hlive : ∀ {name t a}, m.multicastOf name t = some a → a ∈ m.rtpInstances) :
    ∃ r, handleCmdSetup w m c = .ok r := by
  have hasks : Asks m c name session track := ⟨h.named, h.registered, h.asked, h.rtpFree, h.rtcpFree⟩
  rw [handleCmdSetup_asks hasks h.remembered h.described]
  cases describedSession.isStartMulticast with
  | false => exact setupAnswer_unicast_ok w m c name session track
  | true =>
    rw [setupAnswer, if_pos rfl, MediaSession.getMulticastDestRtpPort]
    cases hgroup : session.multicast with
    | none => exact ⟨_, rfl⟩
    | some group =>
      have hmulticast : m.multicastOf name track = some (group.rtpInstances track) := by
        rw [Media.multicastOf_of_lookup h.registered, hgroup]
        rfl
      obtain ⟨i, hi⟩ := Option.isSome_iff_exists.mp (AList.lookup_isSome.mpr (hlive hmulticast))
      simp only [hi]
      exact ⟨_, rfl⟩

/-- **One SETUP, whatever it asks for.** -/
theorem setupDelivers_iff (hout : c.outputBuffer = [])
    (hlive : ∀ {name t a}, m.multicastOf name t = some a → a ∈ m.rtpInstances) :
    SetupDelivers w m c ↔ SetupServed w m c := by
  constructor
  · intro hd name session track described describedSession hfound
    obtain ⟨r, hr⟩ := handleCmdSetup_ok (w := w) hfound hlive
    have hmem : name ∈ m.sessions := by
      rw [← AList.lookup_isSome, hfound.registered]
      rfl
    exact (delivered_iff_of_found hfound hout hr).mp (hd name track r hfound.named hmem hfound.asked hr)
  · intro hserved name track r hnamed hmem hasked hr
    rcases refused_or_found hr with rfl | ⟨name', session, track', described, describedSession, found⟩
    · have hquiet := refused_silent m c [] rfl
      exact ⟨fun _ hanswers => absurd hanswers hquiet.1, fun _ => hquiet⟩
    · obtain rfl := name_of_found found hnamed
      obtain rfl : track' = track := Option.some.inj (found.asked.symm.trans hasked)
      exact (delivered_iff_of_found found hout hr).mpr (hserved _ _ _ _ _ found)

end OneSetup
end RtspConnection

open RtspConnection

/-! ## Every SETUP of a run -/

namespace Server

/-- **A 200 to SETUP means that the track will deliver, and a SETUP that cannot changes
nothing, exactly in the runs in which each SETUP that is not refused is for a track with
a sink and makes its instance at an address that is on no list.** -/
theorem setup_delivers_iff (acts : List ServerAct) :
    Meets step (OnRequest .setup SetupDelivers) {} acts ↔ Meets step (OnRequest .setup SetupServed) {} acts := by
  refine meets_iff (fun s => Ownership s.slotOf s.media ∧ Registered s)
    (fun s act s' effects h hstep => ⟨step_ownership h.1 hstep, step_registered h.2 hstep⟩)
    (fun s act h => ?_) ⟨ownership_empty, registered_empty⟩
  cases act with
  | read sockfd bytes w =>
    refine forall_congr' fun conn => forall_congr' fun request => ?_
    refine imp_congr_right fun hconn => ?_
    have hout := h.2.outputBuffer (readable_some hconn).1
    exact imp_congr_right fun _ => imp_congr_right fun _ => imp_congr_right fun _ =>
      setupDelivers_iff (c := { conn.rtsp with request := request }) hout h.1.multicastLive
  | _ => exact Iff.rfl

/-- A SETUP that is not refused is for a track with a sink. -/
def SetupHasSink (w : World) (m : Media) (c : RtspConnection) : Prop :=
  ∀ name session track described describedSession,
    SetupFound m c name session track described describedSession → ¬ Uncreatable w m c track →
      (session.tracks track).isAlive = true

/-- Where no list is left with a deleted instance, a new one is on none. -/
theorem unlisted_of_subscribed {slots : Slots} {m : Media} (ho : Ownership slots m)
    (h : Subscribed slots m) (wanted : Nat) : Unlisted m (m.freshAddress wanted) :=
  fun _ _ hmem => m.freshAddress_fresh wanted (h.live ho hmem)

/-- **In a run that leaves no list with a deleted instance, sinks are enough.** -/
theorem setup_served_of_sink {acts : List ServerAct} (hsafe : Meets step SafeTrigger {} acts)
    (hsink : Meets step (OnRequest .setup SetupHasSink) {} acts) :
    Meets step (OnRequest .setup SetupServed) {} acts := by
  refine meets_of_invariant (fun s => Ownership s.slotOf s.media ∧ Subscribed s.slotOf s.media)
    (fun s act s' effects h hok hstep =>
      ⟨step_ownership h.1 hstep, step_subscribed h.1 h.2 hok.1 hstep⟩)
    (fun s act h hok => ?_) ⟨ownership_empty, subscribed_empty⟩ (meets_and hsafe hsink)
  cases act with
  | read sockfd bytes w =>
    intro conn request hconn hbytes hrequest hsetup name session track described describedSession
      hfound hcreatable
    exact ⟨hok.2 conn request hconn hbytes hrequest hsetup name session track described
      describedSession hfound hcreatable, Or.inr (unlisted_of_subscribed h.1 h.2 w.newRtp)⟩
  | _ => exact trivial

/-- What the tests look at: the SETUP that is read, and its result. -/
def setupTest (s : Server) (sockfd : Nat) (bytes : Octets) (w : World)
    (test : Media → RtspConnection → Handled → Bool) : Bool :=
  match s.readable sockfd with
  | none => false
  | some conn =>
    match conn.nextRequest bytes with
    | none => false
    | some request =>
      decide (bytes ≠ [] ∧ request.method = .setup) &&
        match handleCmdSetup w s.media { conn.rtsp with request := request } with
        | .error _ => false
        | .ok r => test s.media { conn.rtsp with request := request } r

theorem setupTest_delivers {acts : List ServerAct} {sockfd : Nat} {bytes : Octets} {w : World}
    (test : Media → RtspConnection → Handled → Bool)
    (hrun : checkRun step {} acts (fun s _ => s.setupTest sockfd bytes w test) = true)
    (hmeets : Meets step (OnRequest .setup SetupDelivers) {} (acts ++ [.read sockfd bytes w])) :
    ∃ m c r, handleCmdSetup w m c = .ok r ∧ SetupDelivers w m c ∧ test m c r = true := by
  obtain ⟨s, effects, hacts, htest⟩ := checkRun_true hrun
  have hdelivers := (meets_append hmeets hacts).2.1
  unfold setupTest at htest
  split at htest
  · cases htest
  rename_i conn hconn
  split at htest
  · cases htest
  rename_i request hrequest
  rw [Bool.and_eq_true, decide_eq_true_eq] at htest
  obtain ⟨hsetup, htest⟩ := htest
  split at htest
  · cases htest
  rename_i r hr
  exact ⟨_, _, r, hr, hdelivers conn request hconn hsetup.1 hrequest hsetup.2, htest⟩

/-- SETUP asks for this track of this session. -/
def AsksFor (m : Media) (c : RtspConnection) (name : Octets) (track : TrackId) : Prop :=
  sessionNameOf c.request.suffix = .ok (some name) ∧ name ∈ m.sessions ∧
    c.request.trackId = some track

instance (m : Media) (c : RtspConnection) (name : Octets) (track : TrackId) :
    Decidable (AsksFor m c name track) :=
  inferInstanceAs (Decidable (_ ∧ _ ∧ _))

/-- A client that has described the session, which has a sink on its first track only. -/
def oneSinkClient : List ServerAct :=
  sampleSession "a" ++
    [sampleConnect, sampleRequest "DESCRIBE rtsp://h/a" "Accept: application/sdp\r\n"]

def setupSecondTrack : Octets :=
  ascii "SETUP rtsp://h/a/track1 RTSP/1.0\r\nCSeq: 1\r\nTransport: RTP/AVP/TCP;unicast;interleaved=0-1\r\n\r\n"

/-- The next client, when the list of the session has kept a deleted instance. -/
def nextClient : List ServerAct :=
  fickleClient ++
    [sampleConnect, sampleRequest "DESCRIBE rtsp://h/a" "Accept: application/sdp\r\n"]

/-- **Two answers that promise too much**: a 200 for a track without a sink, and a 200
for an instance that the list now holds twice. -/
theorem setup_delivers_fails :
    ¬ Meets step (OnRequest .setup SetupDelivers) {}
        (oneSinkClient ++ [.read 7 setupSecondTrack sampleWorld]) ∧
      ¬ Meets step (OnRequest .setup SetupDelivers) {}
        (nextClient ++ [.read 7 setupOverTcpRequest sampleWorld]) := by
  constructor
  · intro hmeets
    obtain ⟨m, c, r, hr, hdelivers, htest⟩ := setupTest_delivers
      (fun m c r => decide (AsksFor m c (ascii "a") 1 ∧
        (m.trackOf (ascii "a") 1).isAlive = false ∧ Answers200 r)) (by decide +kernel) hmeets
    obtain ⟨⟨hnamed, hmem, hasked⟩, hdead, hanswers⟩ := of_decide_eq_true htest
    exact ((hdelivers _ _ r hnamed hmem hasked hr).refused (Or.inl hdead)).1 hanswers
  · intro hmeets
    obtain ⟨m, c, r, hr, hdelivers, htest⟩ := setupTest_delivers
      (fun m c r => decide (AsksFor m c (ascii "a") 0 ∧
        describedMulticast m c = false ∧ Answers200 r ∧ r.conn.rtpInstances 0 = some 64 ∧
          (r.media.trackOf (ascii "a") 0).rtpInstances.count 64 = 2)) (by decide +kernel) hmeets
    obtain ⟨⟨hnamed, hmem, hasked⟩, hunicast, hanswers, hslot, hcount⟩ := of_decide_eq_true htest
    obtain ⟨rtp, -, -, hrtp, hlisted⟩ :=
      (hdelivers _ _ r hnamed hmem hasked hr).listed hunicast hanswers
    obtain rfl : 64 = rtp := Option.some.inj (hslot.symm.trans hrtp)
    have hone := hlisted.here
    rw [hcount] at hone
    cases hone

end Server
end MyRtspServer.Net
