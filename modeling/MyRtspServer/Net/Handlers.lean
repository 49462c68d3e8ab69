import MyRtspServer.Net.RtspConnection

/-!
# What one request can change

The tracks, the multicast instances and the heap are all that connections share.
A handler leaves them as they are, except that SETUP adds one new instance and
PLAY sets the instances of its own connection alive.
-/
namespace MyRtspServer.Net

open Library Library.Octets

theorem trackId_cases : ∀ track : TrackId, track = 0 ∨ track = 1
  | ⟨0, _⟩ => Or.inl rfl
  | ⟨1, _⟩ => Or.inr rfl

/-! ## The shared state, seen through its lookups -/

namespace Media

/-- A track of a registered session. -/
def trackOf (m : Media) (name : Octets) (track : TrackId) : Track :=
  match m.sessions.lookup name with
  | some s => s.tracks track
  | none => {}

/-- A multicast instance of a registered session. -/
def multicastOf (m : Media) (name : Octets) (track : TrackId) : Option Nat :=
  match m.sessions.lookup name with
  | some s => s.multicast.map fun group => group.rtpInstances track
  | none => none

theorem trackOf_setSession (m : Media) (name other : Octets) (s : MediaSession) (track : TrackId) :
    (m.setSession name s).trackOf other track =
      if other = name then s.tracks track else m.trackOf other track := by
  unfold trackOf setSession
  by_cases h : other = name
  · subst h
    rw [if_pos rfl, AList.lookup_insert]
  · rw [if_neg h, AList.lookup_insert_ne h]

theorem multicastOf_setSession (m : Media) (name other : Octets) (s : MediaSession)
    (track : TrackId) :
    (m.setSession name s).multicastOf other track =
      if other = name then s.multicast.map (fun group => group.rtpInstances track)
      else m.multicastOf other track := by
  unfold multicastOf setSession
  by_cases h : other = name
  · subst h
    rw [if_pos rfl, AList.lookup_insert]
  · rw [if_neg h, AList.lookup_insert_ne h]

theorem trackOf_of_lookup {m : Media} {name : Octets} {s : MediaSession}
    (h : m.sessions.lookup name = some s) : m.trackOf name = s.tracks := by
  funext track
  rw [trackOf, h]

theorem multicastOf_of_lookup {m : Media} {name : Octets} {s : MediaSession}
    (h : m.sessions.lookup name = some s) (track : TrackId) :
    m.multicastOf name track = s.multicast.map fun group => group.rtpInstances track := by
  rw [multicastOf, h]

/-- A session that only gets other data keeps the view. -/
theorem trackOf_setSession_same {m : Media} {name : Octets} {s s' : MediaSession}
    (h : m.sessions.lookup name = some s) (ht : s'.tracks = s.tracks) :
    (m.setSession name s').trackOf = m.trackOf := by
  funext other track
  rw [trackOf_setSession, ht, ← trackOf_of_lookup h]
  split
  · rename_i heq
    rw [heq]
  · rfl

theorem multicastOf_setSession_same {m : Media} {name : Octets} {s s' : MediaSession}
    (h : m.sessions.lookup name = some s)
    (ht : s'.multicast = s.multicast) :
    (m.setSession name s').multicastOf = m.multicastOf := by
  funext other track
  rw [multicastOf_setSession, ht, ← multicastOf_of_lookup h]
  split
  · rename_i heq
    rw [heq]
  · rfl

end Media

/-- The track with one instance more, if it takes any. -/
def Track.enlist (t : Track) (rtp : Nat) : Track :=
  if t.isAlive then { t with rtpInstances := t.rtpInstances ++ [rtp] } else t

namespace MediaSession

theorem addRtpInstance_tracks (s : MediaSession) (track other : TrackId) (rtp : Nat) :
    (s.addRtpInstance track rtp).tracks other =
      if other = track then (s.tracks track).enlist rtp else s.tracks other := by
  unfold addRtpInstance setRtpInstances Track.enlist
  by_cases ha : (s.tracks track).isAlive = true
  · by_cases ho : other = track
    · subst ho
      simp only [ha, if_true, Function.update_self]
    · simp only [ha, if_true, Function.update_of_ne ho, if_neg ho]
  · simp only [ha, if_false, Bool.false_eq_true]
    split
    · rename_i heq
      rw [heq]
    · rfl

@[simp] theorem addRtpInstance_multicast (s : MediaSession) (track : TrackId) (rtp : Nat) :
    (s.addRtpInstance track rtp).multicast = s.multicast := by
  unfold addRtpInstance setRtpInstances
  split <;> rfl

theorem generateSdpDescription_same {s s' : MediaSession} {localIp sdp : Octets} {time : Int}
    {instances : AList fun _ : Nat => RtpInstance}
    (h : s.generateSdpDescription instances localIp time = .ok (sdp, s')) :
    s'.tracks = s.tracks ∧ s'.multicast = s.multicast := by
  unfold generateSdpDescription at h
  split at h
  · cases h
    exact ⟨rfl, rfl⟩
  · split at h
    · cases h
    · cases h
      exact ⟨rfl, rfl⟩

end MediaSession

/-- One list gets the instance, whatever the heap has become. -/
theorem Media.trackOf_enlisted {m : Media} {name : Octets} {session : MediaSession}
    (hsession : m.sessions.lookup name = some session) (heap : AList fun _ : Nat => RtpInstance)
    (track : TrackId) (rtp : Nat) (other : Octets) (t : TrackId) :
    (setSession { m with rtpInstances := heap } name (session.addRtpInstance track rtp)).trackOf
        other t =
      if other = name ∧ t = track then (m.trackOf name track).enlist rtp else m.trackOf other t := by
  rw [trackOf_setSession, MediaSession.addRtpInstance_tracks, trackOf_of_lookup hsession]
  by_cases hother : other = name
  · subst hother
    simp only [if_true, true_and]
    split
    · rfl
    · rw [trackOf_of_lookup hsession]
  · simp only [hother, if_false, false_and]
    rfl

/-! ## The handlers -/

/-- The session the connection has described last is multicast. -/
def describedMulticast (m : Media) (c : RtspConnection) : Bool :=
  match c.session with
  | none => false
  | some name =>
    match m.sessions.lookup name with
    | none => false
    | some session => session.isStartMulticast

/-- What a handler does to the shared state and to the slots of its connection. -/
inductive HandlerChange (m : Media) (c : RtspConnection) (r : Handled) : Prop
  | quiet (slots : r.conn.rtpInstances = c.rtpInstances)
      (heap : r.media.rtpInstances = m.rtpInstances)
      (tracks : r.media.trackOf = m.trackOf) (multicast : r.media.multicastOf = m.multicastOf)
  | setup (track : TrackId) (rtp : Nat) (i : RtpInstance) (name : Octets)
      (asked : c.request.method = .setup ∧ c.request.trackId = some track)
      (free : c.rtpInstances track = none) (fresh : rtp ∉ m.rtpInstances)
      (idle : i.isAlive = false)
      (slots : r.conn.rtpInstances = Function.update c.rtpInstances track (some rtp))
      (heap : r.media.rtpInstances = m.rtpInstances.insert rtp i)
      (tracks : ∀ other t, r.media.trackOf other t =
        if other = name ∧ t = track then (m.trackOf name track).enlist rtp else m.trackOf other t)
      (multicast : r.media.multicastOf = m.multicastOf)
  | play (asked : c.request.method = .play) (ok : r.ok = true)
      (slots : r.conn.rtpInstances = c.rtpInstances)
      (heap : ∀ a, r.media.rtpInstances.lookup a =
        (m.rtpInstances.lookup a).map fun i =>
          if c.rtpInstances 0 = some a ∨ c.rtpInstances 1 = some a then { i with isAlive := true }
          else i)
      (tracks : r.media.trackOf = m.trackOf) (multicast : r.media.multicastOf = m.multicastOf)

namespace RtspConnection

@[simp] theorem respond_slots (w : World) (m : Media) (c : RtspConnection) (text : Octets) :
    (respond w m c text).conn.rtpInstances = c.rtpInstances := rfl

theorem respond_quiet (w : World) (m : Media) (c : RtspConnection) (text : Octets) :
    HandlerChange m c (respond w m c text) := .quiet rfl rfl rfl rfl

/-- What DESCRIBE does: it knows no such session, or answers and remembers it. -/
inductive DescribeOutcome (w : World) (m : Media) (c : RtspConnection) : Handled → Prop
  | unknown : DescribeOutcome w m c ⟨false, m, c, []⟩
  | described (session session' : MediaSession) (sdp)
      (registered : m.sessions.lookup c.request.suffix = some session)
      (tracks : session'.tracks = session.tracks)
      (multicast : session'.multicast = session.multicast) :
      DescribeOutcome w m c
        (respond w (m.setSession c.request.suffix session')
          { c with session := some c.request.suffix } (c.describeText sdp))

theorem handleCmdDescribe_outcome {w : World} {m : Media} {c : RtspConnection} {r : Handled}
    (h : handleCmdDescribe w m c = .ok r) : DescribeOutcome w m c r := by
  unfold handleCmdDescribe at h
  split at h
  · cases h
    exact .unknown
  rename_i session hsession
  dsimp only at h
  split at h
  · cases h
  rename_i sdp session' hsdp
  cases h
  obtain ⟨htracks, hmulticast⟩ := MediaSession.generateSdpDescription_same hsdp
  exact .described session session' sdp hsession htracks hmulticast

theorem handleCmdDescribe_change {w : World} {m : Media} {c : RtspConnection} {r : Handled}
    (h : handleCmdDescribe w m c = .ok r) : HandlerChange m c r := by
  cases handleCmdDescribe_outcome h with
  | unknown => exact .quiet rfl rfl rfl rfl
  | described session session' sdp registered tracks multicast =>
    exact .quiet rfl rfl (Media.trackOf_setSession_same registered tracks)
      (Media.multicastOf_setSession_same registered multicast)

/-- Both unicast branches of SETUP: a new instance in a slot and in a session. -/
theorem enlisted_change {m m' : Media} {c : RtspConnection} {r : Handled} {w : World}
    {name : Octets} {session : MediaSession} {track : TrackId} {i : RtpInstance} {rtp : Nat}
    (hsession : m.sessions.lookup name = some session)
    (hasked : c.request.method = .setup ∧ c.request.trackId = some track)
    (hfree : c.rtpInstances track = none) (hidle : i.isAlive = false)
    (hnew : m.newRtpInstance w.newRtp i = (rtp, m'))
    (hslots : r.conn.rtpInstances = Function.update c.rtpInstances track (some rtp))
    (hmedia : r.media = m'.setSession name (session.addRtpInstance track rtp)) :
    HandlerChange m c r := by
  simp only [Media.newRtpInstance, Prod.mk.injEq] at hnew
  obtain ⟨rfl, rfl⟩ := hnew
  refine .setup track (m.freshAddress w.newRtp) i name hasked hfree
    (m.freshAddress_fresh w.newRtp) hidle hslots ?_ ?_ ?_
  · rw [hmedia]
    rfl
  · intro other t
    rw [hmedia]
    exact Media.trackOf_enlisted hsession _ track _ other t
  · rw [hmedia]
    funext other t
    rw [Media.multicastOf_setSession, MediaSession.addRtpInstance_multicast,
      ← Media.multicastOf_of_lookup hsession]
    split
    · rename_i heq
      rw [heq]
    · rfl

theorem setupOverTcp_change {w : World} {m : Media} {c : RtspConnection} {name : Octets}
    {session : MediaSession} {track : TrackId} (hsession : m.sessions.lookup name = some session)
    (hasked : c.request.method = .setup ∧ c.request.trackId = some track)
    (hfree : c.rtpInstances track = none) :
    HandlerChange m c (setupOverTcp w m c name session track) :=
  enlisted_change hsession hasked hfree (i := { RtpInstance.createNewOverTcp c.sockFd
    c.request.rtpChannel with sessionId := c.sessionId.toUInt16 }) rfl rfl rfl rfl

theorem setupOverUdp_change {w : World} {m : Media} {c : RtspConnection} {name : Octets}
    {session : MediaSession} {track : TrackId} (hsession : m.sessions.lookup name = some session)
    (hasked : c.request.method = .setup ∧ c.request.trackId = some track)
    (hfree : c.rtpInstances track = none) :
    HandlerChange m c (setupOverUdp w m c name session track) := by
  unfold setupOverUdp
  split
  · exact .quiet rfl rfl rfl rfl
  · rename_i rtpSockfd rtpPort rtcpSockfd rtcpPort effects _
    exact enlisted_change hsession hasked hfree (i := { RtpInstance.createNewOverUdp rtpSockfd
      rtpPort c.peerIp c.request.peerRtpPort with sessionId := c.sessionId.toUInt16 })
      rfl rfl rfl rfl

/-- What SETUP does: it refuses, answers for a multicast session, or makes an
instance for a free slot. -/
inductive SetupOutcome (w : World) (m : Media) (c : RtspConnection) : Handled → Prop
  | refused : SetupOutcome w m c ⟨false, m, c, []⟩
  | multicast (session : MediaSession) (track port) (slot : c.request.trackId = some track)
      (free : c.rtpInstances track = none) (multicast : describedMulticast m c = true) :
      SetupOutcome w m c
        (respond w m c (c.setupMulticastText session.getMulticastDestAddr w.localIp port))
  | overTcp (name session track) (registered : m.sessions.lookup name = some session)
      (slot : c.request.trackId = some track) (free : c.rtpInstances track = none)
      (unicast : describedMulticast m c = false) (tcp : c.request.isRtpOverTcp = true) :
      SetupOutcome w m c (setupOverTcp w m c name session track)
  | overUdp (name session track) (registered : m.sessions.lookup name = some session)
      (slot : c.request.trackId = some track) (free : c.rtpInstances track = none)
      (unicast : describedMulticast m c = false) (udp : c.request.isRtpOverTcp = false) :
      SetupOutcome w m c (setupOverUdp w m c name session track)

theorem handleCmdSetup_outcome {w : World} {m : Media} {c : RtspConnection} {r : Handled}
    (h : handleCmdSetup w m c = .ok r) : SetupOutcome w m c r := by
  unfold handleCmdSetup at h
  split at h
  · cases h
  · cases h
    exact .refused
  rename_i name _
  split at h
  · cases h
    exact .refused
  rename_i session hsession
  split at h
  · cases h
  rename_i track htrack
  split at h
  · cases h
    exact .refused
  rename_i hslots
  have hfree : c.rtpInstances track = none := by
    rw [not_or] at hslots
    simpa using hslots.1
  split at h
  · cases h
  rename_i described hdescribed
  split at h
  · cases h
  rename_i describedSession hlookup
  have hmulticast : describedMulticast m c = describedSession.isStartMulticast := by
    rw [describedMulticast, hdescribed]
    simp only [hlookup]
  split at h
  · rename_i hyes
    split at h <;> cases h
    exact .multicast session track _ htrack hfree (hmulticast.trans hyes)
  · rename_i hno
    rw [Bool.not_eq_true, ← hmulticast] at hno
    split at h <;> cases h
    · exact .overTcp name session track hsession htrack hfree hno ‹_›
    · exact .overUdp name session track hsession htrack hfree hno (Bool.eq_false_of_not_eq_true ‹_›)

theorem handleCmdSetup_change {w : World} {m : Media} {c : RtspConnection} {r : Handled}
    (hasked : c.request.method = .setup) (h : handleCmdSetup w m c = .ok r) :
    HandlerChange m c r := by
  cases handleCmdSetup_outcome h with
  | refused => exact .quiet rfl rfl rfl rfl
  | multicast => exact respond_quiet w m c _
  | overTcp name session track registered slot free =>
    exact setupOverTcp_change registered ⟨hasked, slot⟩ free
  | overUdp name session track registered slot free =>
    exact setupOverUdp_change registered ⟨hasked, slot⟩ free

/-- What `SetAlive` does to one track. -/
theorem setTrackAlive_spec {m m' : Media} {c c' : RtspConnection} {track : TrackId}
    (h : setTrackAlive m c track = .ok (m', c')) :
    c'.rtpInstances = c.rtpInstances ∧ m'.sessions = m.sessions ∧
      ∀ a, m'.rtpInstances.lookup a = (m.rtpInstances.lookup a).map fun i =>
        if c.rtpInstances track = some a then { i with isAlive := true } else i := by
  unfold setTrackAlive at h
  dsimp only at h
  split at h
  · rename_i hnone
    cases h
    have hslot : c.rtpInstances track = none := hnone
    refine ⟨rfl, rfl, fun a => ?_⟩
    simp [hslot]
  · rename_i rtp hsome
    have hslot : c.rtpInstances track = some rtp := hsome
    split at h
    · cases h
    · rename_i m'' hmod
      cases h
      unfold Media.modifyRtpInstance at hmod
      split at hmod
      · cases hmod
      · rename_i i hi
        cases hmod
        refine ⟨rfl, rfl, fun a => ?_⟩
        by_cases ha : a = rtp
        · subst ha
          simp [hslot, hi, AList.lookup_insert]
        · have hne : ¬ some rtp = some a := fun heq => ha (Option.some.inj heq).symm
          simp [hslot, AList.lookup_insert_ne ha, hne]

/-- What PLAY does: its reply cannot be sent, or it sets both tracks alive. -/
inductive PlayOutcome (w : World) (m : Media) (c : RtspConnection) : Handled → Prop
  | unsent : PlayOutcome w m c (respond w m c c.playText)
  | playing (m1 c1 m2 c2)
      (first : setTrackAlive m (respond w m c c.playText).conn 0 = .ok (m1, c1))
      (second : setTrackAlive m1 c1 1 = .ok (m2, c2)) :
      PlayOutcome w m c ⟨true, m2, c2, (respond w m c c.playText).effects⟩

theorem handleCmdPlay_outcome {w : World} {m : Media} {c : RtspConnection} {r : Handled}
    (h : handleCmdPlay w m c = .ok r) : PlayOutcome w m c r := by
  unfold handleCmdPlay at h
  dsimp only at h
  split at h
  · rename_i hok
    split at h
    · cases h
    rename_i m1 c1 h0
    split at h
    · cases h
    rename_i m2 c2 h1
    cases h
    rw [hok]
    exact .playing m1 c1 m2 c2 h0 h1
  · cases h
    exact .unsent

/-- Both tracks: the instances in the slots are alive, and no other one is changed. -/
theorem setTrackAlive_both {m m1 m2 : Media} {c c1 c2 : RtspConnection}
    (first : setTrackAlive m c 0 = .ok (m1, c1)) (second : setTrackAlive m1 c1 1 = .ok (m2, c2))
    (a : Nat) :
    m2.rtpInstances.lookup a = (m.rtpInstances.lookup a).map fun i =>
      if c.rtpInstances 0 = some a ∨ c.rtpInstances 1 = some a then { i with isAlive := true }
      else i := by
  obtain ⟨hc0, -, hl0⟩ := setTrackAlive_spec first
  obtain ⟨-, -, hl1⟩ := setTrackAlive_spec second
  rw [hl1, hl0, hc0]
  cases m.rtpInstances.lookup a with
  | none => rfl
  | some i =>
    by_cases hzero : c.rtpInstances 0 = some a <;> by_cases hone : c.rtpInstances 1 = some a <;>
      simp [hzero, hone]

theorem handleCmdPlay_change {w : World} {m : Media} {c : RtspConnection} {r : Handled}
    (hasked : c.request.method = .play) (h : handleCmdPlay w m c = .ok r) :
    HandlerChange m c r := by
  cases handleCmdPlay_outcome h with
  | unsent => exact respond_quiet w m c _
  | playing m1 c1 m2 c2 first second =>
    obtain ⟨hc0, hs0, -⟩ := setTrackAlive_spec first
    obtain ⟨hc1, hs1, -⟩ := setTrackAlive_spec second
    have hsessions : m2.sessions = m.sessions := hs1.trans hs0
    have halive := setTrackAlive_both first second
    rw [respond_slots] at halive
    refine .play hasked rfl (hc1.trans hc0) halive ?_ ?_
    · funext name track
      change Media.trackOf m2 name track = _
      simp only [Media.trackOf, hsessions]
    · funext name track
      change Media.multicastOf m2 name track = _
      simp only [Media.multicastOf, hsessions]

/-- A PLAY that can be answered sets the instances of the connection alive. -/
theorem handleCmdPlay_alive {w : World} {m : Media} {c : RtspConnection} {r : Handled}
    (h : handleCmdPlay w m c = .ok r) (hok : r.ok = true) {track : TrackId} {a : Nat}
    (hslot : c.rtpInstances track = some a) :
    r.media.rtpInstances.lookup a =
      (m.rtpInstances.lookup a).map fun i => { i with isAlive := true } := by
  unfold handleCmdPlay at h
  dsimp only at h
  split at h
  · split at h
    · cases h
    rename_i first
    split at h
    · cases h
    rename_i second
    cases h
    have hslots : c.rtpInstances 0 = some a ∨ c.rtpInstances 1 = some a := by
      rcases trackId_cases track with rfl | rfl
      · exact Or.inl hslot
      · exact Or.inr hslot
    refine (setTrackAlive_both first second a).trans ?_
    rw [respond_slots, funext fun i => if_pos hslots]
    rfl
  · cases h
    exact absurd hok ‹_›

/-- **What any handler can do.** -/
theorem handleCmd_change {w : World} {m : Media} {c : RtspConnection} {r : Handled}
    (h : handleCmd w m c = .ok r) : HandlerChange m c r := by
  unfold handleCmd at h
  split at h
  · cases h
    exact respond_quiet w m c _
  · exact handleCmdDescribe_change h
  · exact handleCmdSetup_change ‹_› h
  · exact handleCmdPlay_change ‹_› h
  · cases h
    exact respond_quiet w m c _
  · cases h
    exact .quiet rfl rfl rfl rfl
  · cases h
    exact respond_quiet w m c _
  all_goals
    cases h
    exact .quiet rfl rfl rfl rfl

/-! ## What a handler sends and keeps -/

/-- A message begins like a reply. One of the handlers writes `RTP/1.0`. -/
def IsReply (message : Octets) : Prop :=
  ascii "RTSP/1.0 200 OK\r\nCSeq: " <+: message ∨ ascii "RTP/1.0 200 OK\r\nCSeq: " <+: message

/-- The effects of a handler: replies on its own socket, and UDP sockets that come
and go. -/
def FromHandler (c : RtspConnection) : Effect → Prop
  | .reply fd message _ => fd = c.sockFd ∧ (c.outputBuffer = [] → IsReply message)
  | .opened _ | .closed _ => True
  | _ => False

structure HandlerKeeps (c : RtspConnection) (r : Handled) : Prop where
  request : r.conn.request = c.request
  sockFd : r.conn.sockFd = c.sockFd
  outputBuffer : c.outputBuffer = [] → r.conn.outputBuffer = []
  effects : ∀ e ∈ r.effects, FromHandler c e

theorem prefix_format {start text : Octets} (h : start <+: text) (hlen : start.length ≤ 2047)
    (hzero : 0 ∉ start) : start <+: format text := by
  obtain ⟨rest, rfl⟩ := h
  obtain ⟨more, hmore⟩ := Nat.exists_eq_add_of_le hlen
  have hkeep : ∀ b ∈ start, decide (b ≠ 0) = true := fun b hb =>
    decide_eq_true fun heq => hzero (heq ▸ hb)
  rw [format, cstr, hmore, List.take_length_add_append, List.takeWhile_append_of_pos hkeep]
  exact List.prefix_append _ _

theorem isReply_format {text : Octets}
    (h : ascii "RTSP/1.0 200 OK\r\nCSeq: " <+: text ∨ ascii "RTP/1.0 200 OK\r\nCSeq: " <+: text) :
    IsReply (format text) :=
  h.imp (fun h => prefix_format h (by decide) (by decide))
    (fun h => prefix_format h (by decide) (by decide))

theorem respond_keeps (w : World) (m : Media) {c c' : RtspConnection} {text : Octets}
    (hreq : c'.request = c.request) (hfd : c'.sockFd = c.sockFd) (hout : c'.outputBuffer = c.outputBuffer)
    (htext : ascii "RTSP/1.0 200 OK\r\nCSeq: " <+: text ∨
      ascii "RTP/1.0 200 OK\r\nCSeq: " <+: text) :
    HandlerKeeps c (respond w m c' text) := by
  refine ⟨hreq, hfd, fun _ => rfl, fun e he => ?_⟩
  simp only [respond, sendMessage, List.mem_singleton] at he
  subst he
  refine ⟨hfd, fun hempty => ?_⟩
  rw [hout, hempty]
  exact isReply_format htext

theorem idle_keeps (ok : Bool) (m : Media) (c : RtspConnection) : HandlerKeeps c ⟨ok, m, c, []⟩ :=
  ⟨rfl, rfl, id, fun _ he => by cases he⟩

theorem openUdpPair_effects (udp : Nat → UdpAttempt) (left : Nat) : ∀ i,
    ∀ e ∈ (openUdpPair udp left i).2, (∃ fd, e = .opened fd) ∨ ∃ fd, e = .closed fd := by
  induction left with
  | zero => intro i e he; cases he
  | succ left ih =>
    intro i e he
    unfold openUdpPair at he
    split at he
    · cases he
    · split at he
      · simp only [List.mem_cons, List.not_mem_nil, or_false] at he
        rcases he with rfl | rfl
        · exact Or.inl ⟨_, rfl⟩
        · exact Or.inr ⟨_, rfl⟩
      · dsimp only at he
        split at he
        · simp only [List.mem_cons, List.not_mem_nil, or_false] at he
          rcases he with rfl | rfl <;> exact Or.inl ⟨_, rfl⟩
        · simp only [List.mem_cons] at he
          rcases he with rfl | rfl | rfl | rfl | he
          · exact Or.inl ⟨_, rfl⟩
          · exact Or.inl ⟨_, rfl⟩
          · exact Or.inr ⟨_, rfl⟩
          · exact Or.inr ⟨_, rfl⟩
          · exact ih (i + 1) e he

theorem openUdpPair_fromHandler (udp : Nat → UdpAttempt) (c : RtspConnection) :
    ∀ e ∈ (openUdpPair udp 10 0).2, FromHandler c e := by
  intro e he
  rcases openUdpPair_effects udp 10 0 e he with ⟨fd, rfl⟩ | ⟨fd, rfl⟩ <;> trivial

theorem setupOverUdp_keeps (w : World) (m : Media) (c : RtspConnection) (name : Octets)
    (session : MediaSession) (track : TrackId) :
    HandlerKeeps c (setupOverUdp w m c name session track) := by
  have hudp := openUdpPair_fromHandler w.udp c
  unfold setupOverUdp
  split
  · rename_i effects heq
    rw [heq] at hudp
    exact ⟨rfl, rfl, id, hudp⟩
  · rename_i rtpSockfd rtpPort rtcpSockfd rtcpPort effects heq
    rw [heq] at hudp
    refine ⟨rfl, rfl, fun _ => rfl, fun e he => ?_⟩
    rcases List.mem_append.mp he with he | he
    · exact hudp e he
    · refine (respond_keeps (c := c) w _ ?_ ?_ ?_ (Or.inl ?_)).effects e he
      · rfl
      · rfl
      · rfl
      · simp only [setupUdpText, List.append_assoc]
        exact List.prefix_append _ _

theorem handleCmdSetup_keeps {w : World} {m : Media} {c : RtspConnection} {r : Handled}
    (h : handleCmdSetup w m c = .ok r) : HandlerKeeps c r := by
  cases handleCmdSetup_outcome h with
  | refused => exact idle_keeps _ m c
  | multicast session track port =>
    refine respond_keeps w m rfl rfl rfl (Or.inr ?_)
    simp only [setupMulticastText, List.append_assoc]
    exact List.prefix_append _ _
  | overTcp name session track =>
    refine respond_keeps w _ rfl rfl rfl (Or.inl ?_)
    simp only [setupTcpText, List.append_assoc]
    exact List.prefix_append _ _
  | overUdp name session track => exact setupOverUdp_keeps w m c name session track

theorem setTrackAlive_keeps {m m' : Media} {c c' : RtspConnection} {track : TrackId}
    (h : setTrackAlive m c track = .ok (m', c')) :
    c'.request = c.request ∧ c'.sockFd = c.sockFd ∧ c'.outputBuffer = c.outputBuffer := by
  unfold setTrackAlive at h
  dsimp only at h
  split at h
  · cases h
    exact ⟨rfl, rfl, rfl⟩
  · split at h
    · cases h
    · cases h
      exact ⟨rfl, rfl, rfl⟩

theorem handleCmdPlay_keeps {w : World} {m : Media} {c : RtspConnection} {r : Handled}
    (h : handleCmdPlay w m c = .ok r) : HandlerKeeps c r := by
  have hkeeps : HandlerKeeps c (respond w m c c.playText) := by
    refine respond_keeps w m rfl rfl rfl (Or.inl ?_)
    simp only [playText, List.append_assoc]
    exact List.prefix_append _ _
  cases handleCmdPlay_outcome h with
  | unsent => exact hkeeps
  | playing m1 c1 m2 c2 first second =>
    obtain ⟨hreq0, hfd0, hout0⟩ := setTrackAlive_keeps first
    obtain ⟨hreq1, hfd1, hout1⟩ := setTrackAlive_keeps second
    exact ⟨hreq1.trans hreq0, hfd1.trans hfd0, fun _ => hout1.trans hout0, hkeeps.effects⟩

/-- **What any handler sends and keeps.** -/
theorem handleCmd_keeps {w : World} {m : Media} {c : RtspConnection} {r : Handled}
    (h : handleCmd w m c = .ok r) : HandlerKeeps c r := by
  unfold handleCmd at h
  split at h
  · cases h
    refine respond_keeps w m rfl rfl rfl (Or.inl ?_)
    simp only [optionText, List.append_assoc]
    exact List.prefix_append _ _
  · cases handleCmdDescribe_outcome h with
    | unknown => exact idle_keeps _ m c
    | described =>
      refine respond_keeps w _ rfl rfl rfl (Or.inl ?_)
      simp only [describeText, List.append_assoc]
      exact List.prefix_append _ _
  · exact handleCmdSetup_keeps h
  · exact handleCmdPlay_keeps h
  · cases h
    refine respond_keeps w m rfl rfl rfl (Or.inl ?_)
    simp only [plainText, List.append_assoc]
    exact List.prefix_append _ _
  · cases h
    exact idle_keeps _ m c
  · cases h
    refine respond_keeps w m rfl rfl rfl (Or.inl ?_)
    simp only [plainText, List.append_assoc]
    exact List.prefix_append _ _
  all_goals
    cases h
    exact idle_keeps _ m c

end RtspConnection
end MyRtspServer.Net
