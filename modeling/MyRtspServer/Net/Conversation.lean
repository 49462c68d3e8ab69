import MyRtspServer.Net.ClientRequests
import MyRtspServer.Net.Faults
import MyRtspServer.Net.Subscription
import MyRtspServer.Net.UrlRoundTrip

/-!
# A client that asks for a stream

It connects, describes the session, sets up one of its tracks and plays. Other clients
may do what they like in between. When its PLAY has been answered, it is subscribed to
the track, over the transport it has asked for.
-/
namespace MyRtspServer.Net

open Library Library.Octets Library.Transition

namespace Server

variable {s s' : Server} {act : ServerAct} {effects : List Effect} {name : Octets} {track : TrackId}

/-! ## What stays -/

/-- **The frame rule of a connection**: what is not for it leaves it as it is. -/
theorem step_frame {fd : Nat} {conn : Connection} (hact : Spares fd act)
    (h : s.readable fd = some conn) (hstep : s.step act = .ok (s', effects)) :
    s'.readable fd = some conn := by
  obtain ⟨hlookup, hopen⟩ := readable_some h
  have hput : ∀ {t : Server}, t.connections.lookup fd = some conn → fd ∉ t.disconnectedList →
      t.readable fd = some conn := fun hlookup hopen => (if_neg hopen).trans hlookup
  cases step_outcome hstep with
  | ignored => exact h
  | session => exact h
  | sink => exact h
  | multicast => exact h
  | accept connfd peer new =>
    have hne : fd ≠ connfd := by
      rintro rfl
      exact new (AList.lookup_isSome.mp (by rw [hlookup]; rfl))
    exact hput ((AList.lookup_insert_ne hne).trans hlookup) hopen
  | read sockfd bytes w conn' r =>
    have hne : fd ≠ sockfd := Ne.symm hact
    refine hput ((AList.lookup_insert_ne hne).trans hlookup) ?_
    unfold afterRead
    dsimp only
    split
    · exact hopen
    · rw [List.mem_append, not_or]
      exact ⟨hopen, fun hmem => hne (List.mem_singleton.mp hmem)⟩
  | hangup sockfd conn' =>
    refine hput hlookup ?_
    change fd ∉ s.disconnectedList ++ [sockfd]
    rw [List.mem_append, not_or]
    exact ⟨hopen, fun hmem => hact (List.mem_singleton.mp hmem).symm⟩
  | trigger s'' effects destroyed =>
    refine hput ?_ List.not_mem_nil
    exact (destroyAll_connections destroyed fd).trans ((if_neg hopen).trans hlookup)
  | packet => exact h

/-- The session has a sink on this track, and sends to each client by itself. -/
structure Offers (m : Media) (name : Octets) (track : TrackId) : Prop where
  sink : (m.trackOf name track).isAlive = true
  unicast : ∀ t, m.multicastOf name t = none

theorem Offers.registered {m : Media} (h : Offers m name track) :
    ∃ session, m.sessions.lookup name = some session := by
  have hsink := h.sink
  unfold Media.trackOf at hsink
  split at hsink
  · exact ⟨_, ‹_›⟩
  · cases hsink

theorem Offers.notMulticast {m : Media} (h : Offers m name track) {session : MediaSession}
    (hsession : m.sessions.lookup name = some session) : session.isStartMulticast = false := by
  have hnone := h.unicast track
  rw [Media.multicastOf_of_lookup hsession, Option.map_eq_none_iff] at hnone
  rw [MediaSession.isStartMulticast, hnone]
  rfl

theorem destroyAll_offers {fds : List Nat} : ∀ {s s' : Server} {effects : List Effect},
    s.destroyAll fds = .ok (s', effects) → Offers s.media name track →
      Offers s'.media name track := by
  induction fds with
  | nil =>
    intro s s' effects hd h
    cases hd
    exact h
  | cons sockfd rest ih =>
    intro s s' effects hd h
    obtain ⟨conn, m1, m2, first, later, -, h0, h1, hrest, -, -⟩ := destroyAll_cons hd
    refine ih hrest ⟨?_, fun t => ?_⟩
    · exact (h1.tracks name track).2.trans ((h0.tracks name track).2.trans h.sink)
    · change m2.multicastOf name t = none
      rw [h1.multicast, h0.multicast]
      exact h.unicast t

theorem handled_offers {m : Media} {c : RtspConnection} {r : Handled} (hc : HandlerChange m c r)
    (h : Offers m name track) : Offers r.media name track := by
  cases hc with
  | quiet slots heap tracks multicast => exact ⟨tracks ▸ h.sink, multicast ▸ h.unicast⟩
  | setup t rtp i other asked free fresh idle slots heap tracks multicast =>
    refine ⟨?_, multicast ▸ h.unicast⟩
    rw [tracks]
    split
    · rename_i heq
      rw [enlist_isAlive, ← heq.1, ← heq.2]
      exact h.sink
    · exact h.sink
  | play asked ok slots heap tracks multicast => exact ⟨tracks ▸ h.sink, multicast ▸ h.unicast⟩

/-- Only `StartMulticast` of the session itself ends the offer. -/
theorem step_offers (hact : ∀ w, act ≠ .startMulticast name w) (h : Offers s.media name track)
    (hstep : s.step act = .ok (s', effects)) : Offers s'.media name track := by
  cases step_outcome hstep with
  | ignored => exact h
  | session other =>
    change Offers (s.media.addMediaSession other) name track
    unfold Media.addMediaSession
    split
    · exact h
    · rename_i hnew
      have hne : name ≠ other := by
        rintro rfl
        have hsink := h.sink
        rw [Media.trackOf, AList.lookup_eq_none.mpr hnew] at hsink
        cases hsink
      refine ⟨?_, fun t => ?_⟩
      · rw [Media.trackOf_setSession, if_neg hne]
        exact h.sink
      · rw [Media.multicastOf_setSession, if_neg hne]
        exact h.unicast t
  | sink other t sink =>
    change Offers (s.media.addRtpSink other t sink) name track
    unfold Media.addRtpSink
    split
    · exact h
    · rename_i session hsession
      refine ⟨?_, fun u => ?_⟩
      · rw [Media.trackOf_setSession]
        split
        · rename_i heq
          have hsink := h.sink
          rw [heq, Media.trackOf_of_lookup hsession] at hsink
          simp only [MediaSession.addRtpSink, Function.update_apply]
          split
          · rfl
          · exact hsink
        · exact h.sink
      · have hsame : (s.media.setSession other (session.addRtpSink t sink)).multicastOf =
            s.media.multicastOf := Media.multicastOf_setSession_same hsession rfl
        rw [hsame]
        exact h.unicast u
  | multicast other w m effects started =>
    have hne : name ≠ other := by
      rintro rfl
      exact hact w rfl
    cases started with
    | unchanged => exact h
    | started session rtp1 rtp2 i1 i2 group =>
      refine ⟨?_, fun t => ?_⟩
      · rw [Media.trackOf_setSession, if_neg hne]
        exact h.sink
      · rw [Media.multicastOf_setSession, if_neg hne]
        exact h.unicast t
  | accept => exact h
  | read sockfd bytes w conn r reported outcome =>
    change Offers r.media name track
    cases outcome with
    | unhandled media => exact media ▸ h
    | handled request buffer handled parsed handler result =>
      subst result
      exact handled_offers (RtspConnection.handleCmd_change handler) h
  | hangup => exact h
  | trigger s'' effects destroyed =>
    have hoffers := destroyAll_offers destroyed h
    exact hoffers
  | packet => exact h

/-! ## One request -/

/-- **A printed request reaches its handler**, and what is left behind is what the handler
leaves behind. -/
theorem step_request {fd : Nat} {conn : Connection} {q : ClientRequest} {w : World} (hq : q.Valid)
    (hconn : s.readable fd = some conn) (hbuffer : conn.inputBuffer = [])
    (hstep : s.step (.read fd q.bytes w) = .ok (s', effects)) :
    ∃ r, RtspConnection.handleCmd w s.media
        { conn.rtsp with request := q.taken conn.rtsp.request } = .ok r ∧
      s' = s.afterHandled fd r [] := by
  have hhead := startsWithMethod_head
    (startsWithMethod_of_parse (q.parseRequest1_line hq conn.rtsp.request))
  have hbytes : q.bytes ≠ [] := by
    rw [ClientRequest.bytes, Lines.encodeLines_cons]
    exact List.append_ne_nil_of_left_ne_nil hhead.2 _
  have hmode : ¬ (conn.rtsp.request.isRtpOverTcp = true ∧ q.bytes.head? = some 36) := by
    rintro ⟨-, hstart⟩
    rw [ClientRequest.bytes, Lines.encodeLines_cons, List.head?_append_of_ne_nil _ hhead.2] at hstart
    exact hhead.1 hstart
  have hread : s.handleRead fd conn q.bytes w = .ok (s', effects) := by
    simpa only [step, hconn, if_neg hbytes] using hstep
  have hbytesRead : conn.handleRead w s.media q.bytes =
      Connection.handleReadBytes w s.media ⟨conn.rtsp, q.bytes⟩ := by
    rw [Connection.handleRead, hbuffer, List.nil_append]
  rw [handleRead, hbytesRead, Connection.handleReadBytes] at hread
  dsimp only at hread
  rw [if_neg hmode, q.parseRequest_bytes hq] at hread
  dsimp only at hread
  cases hhandled : RtspConnection.handleCmd w s.media
      { conn.rtsp with request := q.taken conn.rtsp.request } with
  | error e =>
    rw [hhandled] at hread
    cases hread
  | ok r =>
    rw [hhandled] at hread
    cases hread
    refine ⟨r, rfl, ?_⟩
    unfold afterHandled handleDisconnection
    split <;> rfl

end Server

/-! ## The client -/

/-- The transport a client asks for. -/
inductive Wanted where
  | overTcp (channel : UInt8)
  | overUdp (rtpPort rtcpPort : UInt16)

namespace Wanted

def wish (track : TrackId) : Wanted → Wish
  | .overTcp channel => .setupOverTcp track channel
  | .overUdp rtpPort rtcpPort => .setupOverUdp track rtpPort rtcpPort

/-- The instance sends where the client listens. -/
def Reaches (fd : Nat) (peerIp : Octets) (i : RtpInstance) : Wanted → Prop
  | .overTcp channel => i.transport = .overTcp channel.toUInt16 ∧ i.sockFd = fd
  | .overUdp rtpPort _ => ∃ localPort, i.transport = .overUdp localPort peerIp rtpPort

end Wanted

structure Client where
  fd : Nat
  peer : Accepted
  target : Target
  track : TrackId
  wanted : Wanted
  describeSeq : UInt32
  setupSeq : UInt32
  playSeq : UInt32

/-- Its requests can be parsed, and the identifier it has been given begins like a
decimal number. -/
structure Client.Valid (k : Client) : Prop where
  host : UrlPart k.target.host
  name : UrlPart k.target.name
  fits : k.target.host.length + k.target.name.length < 56
  identifier : ∀ d ∈ (printedId k.peer.sessionId).head?, isDigit d = true

namespace Client

def describe (k : Client) : ClientRequest := ⟨k.target, .describe, k.describeSeq⟩

def setup (k : Client) : ClientRequest := ⟨k.target, k.wanted.wish k.track, k.setupSeq⟩

def play (k : Client) : ClientRequest := ⟨k.target, .play k.peer.sessionId, k.playSeq⟩

variable {k : Client}

theorem trackText_length (track : TrackId) : (trackText track).length = 6 := by
  rcases trackId_cases track with rfl | rfl <;> rfl

theorem describe_valid (h : k.Valid) : k.describe.Valid :=
  ⟨h.host, h.name, Nat.lt_of_lt_of_le h.fits (by decide), fun _ hwish => by cases hwish⟩

theorem play_valid (h : k.Valid) : k.play.Valid := by
  refine ⟨h.host, h.name, Nat.lt_of_lt_of_le h.fits (by decide), fun id hwish => ?_⟩
  cases hwish
  exact h.identifier

theorem setup_suffix (k : Client) :
    k.setup.suffix = k.target.name ++ 47 :: trackText k.track := by
  unfold setup ClientRequest.suffix
  cases k.wanted <;> rfl

theorem setup_valid (h : k.Valid) : k.setup.Valid := by
  have hfits := h.fits
  refine ⟨h.host, h.name, ?_, fun id hwish => ?_⟩
  · rw [setup_suffix, List.length_append, List.length_cons, trackText_length]
    change k.target.host.length + _ < 63
    omega
  · unfold setup at hwish
    cases hk : k.wanted <;> rw [hk] at hwish <;> cases hwish

/-- The other clients and `main` do not touch the connection, and the session stays
without multicast. -/
def Spared (k : Client) (act : ServerAct) : Prop :=
  Server.Spares k.fd act ∧ ∀ w, act ≠ .startMulticast k.target.name w

/-- The instance sends to this client. -/
def Reaches (k : Client) (i : RtpInstance) : Prop := k.wanted.Reaches k.fd k.peer.peerIp i

/-- While the client talks to the server: its connection, and the instance it has been
given, if it has one. -/
structure Stage (k : Client) (s : Server) (conn : Connection) : Prop where
  sound : s.Sound
  subscribed : Subscribed s.slotOf s.media
  offers : Server.Offers s.media k.target.name k.track
  here : s.readable k.fd = some conn
  held : ∀ rtp, conn.rtsp.rtpInstances k.track = some rtp → ∃ i,
    s.media.rtpInstances.lookup rtp = some i ∧ k.Reaches i ∧
      ListedOnce s.media k.target.name k.track rtp

/-- The connection before SETUP. -/
structure Waiting (k : Client) (session : Option Octets) (conn : Connection) : Prop where
  input : conn.inputBuffer = []
  output : conn.rtsp.outputBuffer = []
  fd : conn.rtsp.sockFd = k.fd
  peerIp : conn.rtsp.peerIp = k.peer.peerIp
  session : conn.rtsp.session = session
  overUdp : conn.rtsp.request.isRtpOverTcp = false
  rtpFree : ∀ t, conn.rtsp.rtpInstances t = none
  rtcpFree : ∀ t, conn.rtsp.rtcpInstances t = none

end Client

namespace Client

variable {k : Client} {s s' : Server} {conn : Connection} {act : ServerAct} {effects : List Effect}

/-! ## Steps -/

/-- **What others do leaves the client where it is.** -/
theorem step_stage (hact : k.Spared act) (hsafe : SafeTrigger s act) (h : k.Stage s conn)
    (hstep : s.step act = .ok (s', effects)) : k.Stage s' conn := by
  obtain ⟨hlookup, hopen⟩ := Server.readable_some h.here
  have hstays : Server.Stays k.fd s act := fun _ => hopen
  have howned := h.sound.settled.owned
  refine ⟨Server.step_sound h.sound hstep, Server.step_subscribed howned h.subscribed hsafe hstep,
    Server.step_offers hact.2 h.offers hstep, Server.step_frame hact.1 h.here hstep,
    fun rtp hrtp => ?_⟩
  obtain ⟨i, hi, hreaches, hlisted⟩ := h.held rtp hrtp
  have hslot : s.slotOf k.fd k.track = some rtp := by
    rw [Server.slotOf_of_lookup hlookup]
    exact hrtp
  have hkept := Server.step_instance howned hslot hi (Or.inr hact.1) hstays hstep
  exact ⟨i, hkept.2, hreaches, Server.step_listedOnce howned hslot hstays hstep hlisted⟩

theorem run_stage {acts : List ServerAct} (hacts : ∀ act ∈ acts, k.Spared act)
    (hsafe : Meets Server.step SafeTrigger s acts) (h : k.Stage s conn)
    (hrun : run Server.step s acts = .ok (s', effects)) : k.Stage s' conn :=
  run_invariant (fun s => k.Stage s conn)
    (fun _ _ _ _ h hok hstep => step_stage hok.1 hok.2 h hstep) h
    (meets_and (meets_of_forall hacts) hsafe) hrun

/-- The server accepts the client. -/
theorem accept_stage (hsound : s.Sound) (hsub : Subscribed s.slotOf s.media)
    (hoffers : Server.Offers s.media k.target.name k.track) (hnew : k.fd ∉ s.connections)
    (hstep : s.step (.accept k.fd k.peer) = .ok (s', effects)) :
    ∃ conn, k.Stage s' conn ∧ k.Waiting none conn := by
  have hafter : s' = s.handleNewConnection k.fd k.peer := by
    simp only [Server.step, if_neg hnew] at hstep
    cases hstep
    rfl
  have hopen : k.fd ∉ s.disconnectedList := fun hmem => hnew (hsound.noted.known _ hmem)
  refine ⟨{ rtsp := .create k.fd k.peer }, ⟨Server.step_sound hsound hstep,
    Server.step_subscribed hsound.settled.owned hsub
      (show SafeTrigger s (.accept k.fd k.peer) from trivial) hstep,
    Server.step_offers (fun _ h => by cases h) hoffers hstep, ?_, fun rtp hrtp => by cases hrtp⟩,
    rfl, rfl, rfl, rfl, rfl, rfl, fun _ => rfl, fun _ => rfl⟩
  rw [hafter]
  exact (if_neg hopen).trans (AList.lookup_insert _)

/-- An accepted request of the client. -/
theorem request_stage {q : ClientRequest} {w : World} {r : Handled} (h : k.Stage s conn)
    (hstep : s.step (.read k.fd q.bytes w) = .ok (s', effects))
    (hafter : s' = s.afterHandled k.fd r []) (hok : r.ok = true)
    (hheld : ∀ rtp, r.conn.rtpInstances k.track = some rtp → ∃ i,
      s'.media.rtpInstances.lookup rtp = some i ∧ k.Reaches i ∧
        ListedOnce s'.media k.target.name k.track rtp) : k.Stage s' ⟨r.conn, []⟩ := by
  refine ⟨Server.step_sound h.sound hstep,
    Server.step_subscribed h.sound.settled.owned h.subscribed
      (show SafeTrigger s (.read k.fd q.bytes w) from trivial) hstep,
    Server.step_offers (fun _ h => by cases h) h.offers hstep, ?_, hheld⟩
  obtain ⟨-, hopen⟩ := Server.readable_some h.here
  have hlist : (s.afterHandled k.fd r []).disconnectedList = s.disconnectedList := if_pos hok
  rw [hafter, Server.readable, hlist, if_neg hopen]
  exact AList.lookup_insert _

theorem describe_stage {w : World} (hk : k.Valid) (h : k.Stage s conn) (hc : k.Waiting none conn)
    (hanswer : w.answer.isSome = true)
    (hstep : s.step (.read k.fd k.describe.bytes w) = .ok (s', effects)) :
    ∃ conn', k.Stage s' conn' ∧ k.Waiting (some k.target.name) conn' := by
  obtain ⟨r, hr, hafter⟩ := Server.step_request (describe_valid hk) h.here hc.input hstep
  have hdescribe : RtspConnection.handleCmdDescribe w s.media
      { conn.rtsp with request := k.describe.taken conn.rtsp.request } = .ok r := hr
  cases RtspConnection.handleCmdDescribe_outcome hdescribe with
  | unknown =>
    obtain ⟨session, hsession⟩ := h.offers.registered
    have hlookup : s.media.sessions.lookup (k.describe.taken conn.rtsp.request).suffix =
        some session := hsession
    rw [RtspConnection.handleCmdDescribe] at hdescribe
    dsimp only at hdescribe
    rw [hlookup] at hdescribe
    dsimp only at hdescribe
    split at hdescribe
    · cases hdescribe
    · have hanswered := congrArg Handled.ok (Except.ok.inj hdescribe)
      cases hanswer.symm.trans hanswered
  | described session session' sdp =>
    refine ⟨_, request_stage h hstep hafter hanswer fun rtp hrtp => ?_,
      ⟨rfl, rfl, hc.fd, hc.peerIp, rfl, hc.overUdp, hc.rtpFree, hc.rtcpFree⟩⟩
    cases hrtp.symm.trans (hc.rtpFree k.track)

/-- Over UDP a pair of ports is needed. -/
def Paired (k : Client) (w : World) : Prop :=
  match k.wanted with
  | .overTcp _ => True
  | .overUdp _ _ => (RtspConnection.openUdpPair w.udp 10 0).1 ≠ none

/-- What SETUP leaves behind for the client. -/
structure Given (k : Client) (w : World) (m : Media) (r : Handled) : Prop where
  ok : r.ok = true
  enlists : RtspConnection.Enlists w m k.target.name k.track r
  reaches : ∃ i, r.media.rtpInstances.lookup (m.freshAddress w.newRtp) = some i ∧ k.Reaches i

theorem setup_given {w : World} {m : Media} {c : RtspConnection} {session : MediaSession}
    (hfd : c.sockFd = k.fd) (hpeer : c.peerIp = k.peer.peerIp) (hout : c.outputBuffer = [])
    (hudp : c.request.isRtpOverTcp = false) (hsession : m.sessions.lookup k.target.name = some session)
    (hanswer : w.answer.isSome = true) (hpaired : k.Paired w) {r : Handled}
    (hr : RtspConnection.setupAnswer w m { c with request := k.setup.taken c.request }
      k.target.name session k.track false = .ok r) : k.Given w m r := by
  unfold setup ClientRequest.taken at hr
  unfold Paired at hpaired
  cases hwanted : k.wanted with
  | overTcp channel =>
    rw [hwanted] at hr
    cases hr
    refine ⟨hanswer, RtspConnection.setupOverTcp_enlists hsession hout, ?_⟩
    refine ⟨_, AList.lookup_insert _, ?_⟩
    rw [Reaches, hwanted]
    exact ⟨rfl, hfd⟩
  | overUdp rtpPort rtcpPort =>
    rw [hwanted] at hr hpaired
    have hr' := hr
    simp only [Wanted.wish, RtspConnection.setupAnswer, hudp, Bool.false_eq_true, if_false] at hr'
    cases hr'
    refine ⟨?_, RtspConnection.setupOverUdp_enlists hsession hout hpaired, ?_⟩
    · unfold RtspConnection.setupOverUdp
      split
      · rename_i effects hnone
        rw [hnone] at hpaired
        exact absurd rfl hpaired
      · exact hanswer
    · unfold RtspConnection.setupOverUdp
      split
      · rename_i effects hnone
        rw [hnone] at hpaired
        exact absurd rfl hpaired
      · refine ⟨_, AList.lookup_insert _, ?_⟩
        rw [Reaches, hwanted]
        exact ⟨_, by rw [← hpeer]; rfl⟩

theorem setup_taken (k : Client) (r : Request) :
    (k.setup.taken r).method = .setup ∧ (k.setup.taken r).suffix = k.setup.suffix ∧
      (k.setup.taken r).trackId = some k.track := by
  unfold ClientRequest.taken setup
  cases k.wanted <;> exact ⟨rfl, rfl, rfl⟩

theorem setup_asks {m : Media} {c : RtspConnection} {session : MediaSession} (hk : k.Valid)
    (hsession : m.sessions.lookup k.target.name = some session)
    (hrtp : c.rtpInstances k.track = none) (hrtcp : c.rtcpInstances k.track = none) :
    RtspConnection.Asks m { c with request := k.setup.taken c.request } k.target.name session
      k.track := by
  obtain ⟨-, hsuffix, htrack⟩ := k.setup_taken c.request
  refine ⟨?_, hsession, htrack, hrtp, hrtcp⟩
  have hfits := hk.fits
  have hslash : (47 : UInt8) ∉ k.target.name := fun hmem => (hk.name.byte hmem).2.2.2.1 rfl
  dsimp only
  rw [hsuffix, setup_suffix]
  exact Request.sessionNameOf_cut hk.name.ne_nil (by omega) hslash

/-- **SETUP gives the client an instance**, which is listed on its track and nowhere else. -/
theorem setup_stage {w : World} (hk : k.Valid) (h : k.Stage s conn)
    (hc : k.Waiting (some k.target.name) conn) (hanswer : w.answer.isSome = true)
    (hpaired : k.Paired w) (hstep : s.step (.read k.fd k.setup.bytes w) = .ok (s', effects)) :
    ∃ conn' rtp, k.Stage s' conn' ∧ conn'.inputBuffer = [] ∧
      conn'.rtsp.rtpInstances k.track = some rtp := by
  obtain ⟨r, hr, hafter⟩ := Server.step_request (setup_valid hk) h.here hc.input hstep
  obtain ⟨session, hsession⟩ := h.offers.registered
  have hasks := setup_asks hk hsession (hc.rtpFree k.track) (hc.rtcpFree k.track)
  have hsetup : RtspConnection.handleCmdSetup w s.media
      { conn.rtsp with request := k.setup.taken conn.rtsp.request } = .ok r := by
    unfold RtspConnection.handleCmd at hr
    dsimp only at hr
    rwa [(k.setup_taken conn.rtsp.request).1] at hr
  rw [RtspConnection.handleCmdSetup_asks hasks hc.session hsession,
    h.offers.notMulticast hsession] at hsetup
  have hgiven := setup_given hc.fd hc.peerIp hc.output hc.overUdp hsession hanswer hpaired hsetup
  obtain ⟨i, hi, hreaches⟩ := hgiven.reaches
  have hslot := hgiven.enlists.slot
  have hmedia : s'.media = r.media := by
    rw [hafter]
    rfl
  refine ⟨⟨r.conn, []⟩, _, request_stage h hstep hafter hgiven.ok fun rtp hrtp => ?_, rfl, hslot⟩
  obtain ⟨rtp', -, -, hslot', hlisted⟩ := (hgiven.enlists.listed_iff h.offers.sink).mpr
    (Server.unlisted_of_subscribed h.sound.settled.owned h.subscribed w.newRtp)
  obtain rfl : rtp' = rtp := Option.some.inj (hslot'.symm.trans hrtp)
  obtain rfl := Option.some.inj (hslot.symm.trans hrtp)
  rw [hmedia]
  exact ⟨i, hi, hreaches, hlisted⟩

/-- **PLAY makes it a subscription.** -/
theorem play_stage {w : World} (hk : k.Valid) (h : k.Stage s conn) (hinput : conn.inputBuffer = [])
    {rtp : Nat} (hrtp : conn.rtsp.rtpInstances k.track = some rtp)
    (hanswer : w.answer.isSome = true)
    (hstep : s.step (.read k.fd k.play.bytes w) = .ok (s', effects)) :
    ∃ i, k.Reaches i ∧ s'.Subscription k.fd k.track rtp i k.target.name k.track := by
  obtain ⟨r, hr, hafter⟩ := Server.step_request (play_valid hk) h.here hinput hstep
  obtain ⟨hlookup, hopen⟩ := Server.readable_some h.here
  obtain ⟨i, hi, hreaches, hlisted⟩ := h.held rtp hrtp
  have hslot : s.slotOf k.fd k.track = some rtp := by
    rw [Server.slotOf_of_lookup hlookup]
    exact hrtp
  have hplay : RtspConnection.handleCmdPlay w s.media
      { conn.rtsp with request := k.play.taken conn.rtsp.request } = .ok r := hr
  have hok : r.ok = true := by
    cases RtspConnection.handleCmdPlay_outcome hplay with
    | unsent => exact hanswer
    | playing => rfl
  have halive := RtspConnection.handleCmdPlay_alive hplay hok hrtp
  rw [hi] at halive
  have hkept := Server.step_listedOnce h.sound.settled.owned hslot (fun _ => hopen) hstep hlisted
  refine ⟨{ i with isAlive := true }, ?_, ⟨?_, ?_, rfl⟩, hkept⟩
  · unfold Reaches at hreaches ⊢
    cases hwanted : k.wanted <;> rw [hwanted] at hreaches <;> exact hreaches
  · have hnew : r.conn.rtpInstances k.track = some rtp := by
      cases RtspConnection.handleCmdPlay_outcome hplay with
      | unsent => exact hrtp
      | playing m1 c1 m2 c2 first second =>
        obtain ⟨hc0, -⟩ := RtspConnection.setTrackAlive_spec first
        obtain ⟨hc1, -⟩ := RtspConnection.setTrackAlive_spec second
        exact (congrFun (hc1.trans hc0) k.track).trans hrtp
    rw [hafter, Server.afterHandled, Server.slotOf_insert, if_pos rfl, hnew]
  · rw [hafter]
    exact halive

/-! ## The whole conversation -/

/-- The requests of a client, with what else happens before each of them. -/
structure Script where
  first : List ServerAct
  describing : World
  second : List ServerAct
  asking : World
  third : List ServerAct
  playing : World

namespace Script

def acts (script : Script) (k : Client) : List ServerAct :=
  .accept k.fd k.peer :: (script.first ++ .read k.fd k.describe.bytes script.describing ::
    (script.second ++ .read k.fd k.setup.bytes script.asking ::
      (script.third ++ [.read k.fd k.play.bytes script.playing])))

/-- Nobody else meddles, the replies can be written and there are ports for the client. -/
structure Smooth (script : Script) (k : Client) : Prop where
  first : ∀ act ∈ script.first, k.Spared act
  second : ∀ act ∈ script.second, k.Spared act
  third : ∀ act ∈ script.third, k.Spared act
  described : script.describing.answer.isSome = true
  asked : script.asking.answer.isSome = true
  played : script.playing.answer.isSome = true
  paired : k.Paired script.asking

end Script

theorem run_script {script : Script} (hk : k.Valid) (hsmooth : script.Smooth k)
    (hsound : s.Sound) (hsub : Subscribed s.slotOf s.media)
    (hoffers : Server.Offers s.media k.target.name k.track) (hnew : k.fd ∉ s.connections)
    (hsafe : Meets Server.step SafeTrigger s (script.acts k))
    (hrun : run Server.step s (script.acts k) = .ok (s', effects)) :
    ∃ rtp i, k.Reaches i ∧ s'.Subscription k.fd k.track rtp i k.target.name k.track := by
  obtain ⟨s1, _, _, haccept, hrun, -⟩ := run_cons hrun
  have hsafe := hsafe.2 s1 _ haccept
  obtain ⟨conn, hstage, hwaiting⟩ := accept_stage hsound hsub hoffers hnew haccept
  obtain ⟨s2, _, _, hfirst, hrun, -⟩ := run_append hrun
  obtain ⟨hsafe1, hsafe⟩ := meets_append hsafe hfirst
  have hstage := run_stage hsmooth.first hsafe1 hstage hfirst
  obtain ⟨s3, _, _, hdescribe, hrun, -⟩ := run_cons hrun
  have hsafe := hsafe.2 s3 _ hdescribe
  obtain ⟨conn, hstage, hwaiting⟩ := describe_stage hk hstage hwaiting hsmooth.described hdescribe
  obtain ⟨s4, _, _, hsecond, hrun, -⟩ := run_append hrun
  obtain ⟨hsafe2, hsafe⟩ := meets_append hsafe hsecond
  have hstage := run_stage hsmooth.second hsafe2 hstage hsecond
  obtain ⟨s5, _, _, hsetup, hrun, -⟩ := run_cons hrun
  have hsafe := hsafe.2 s5 _ hsetup
  obtain ⟨conn, rtp, hstage, hinput, hrtp⟩ :=
    setup_stage hk hstage hwaiting hsmooth.asked hsmooth.paired hsetup
  obtain ⟨s6, _, _, hthird, hrun, -⟩ := run_append hrun
  have hstage := run_stage hsmooth.third (meets_append hsafe hthird).1 hstage hthird
  obtain ⟨s7, _, _, hplay, hrun, -⟩ := run_cons hrun
  cases hrun
  obtain ⟨i, hi⟩ := play_stage hk hstage hinput hrtp hsmooth.played hplay
  exact ⟨rtp, i, hi⟩

/-- **A client that describes a session, sets up one of its tracks and plays is served**: from
its PLAY until its connection is destroyed it is sent each packet of the track once, in order,
where it has asked for, whatever the other clients do. -/
theorem is_served (k : Client) (hk : k.Valid) (before : List ServerAct) (s : Server)
    (seen : List Effect) (hbefore : run Server.step {} before = .ok (s, seen))
    (hoffers : Server.Offers s.media k.target.name k.track) (hnew : k.fd ∉ s.connections)
    (script : Script) (hsmooth : script.Smooth k)
    (hsafe : Meets Server.step SafeTrigger {} (before ++ script.acts k)) (s' : Server)
    (effects : List Effect) (hrun : run Server.step s (script.acts k) = .ok (s', effects)) :
    ∃ rtp i, k.Reaches i ∧ s'.Subscription k.fd k.track rtp i k.target.name k.track ∧
      ∀ after, Meets Server.step (Server.Stays k.fd) s' after →
        s'.Served after k.fd k.track rtp i k.target.name k.track := by
  obtain ⟨hsafe0, hsafe1⟩ := meets_append hsafe hbefore
  obtain ⟨hsound, hsub⟩ := run_invariant (fun s => s.Sound ∧ Subscribed s.slotOf s.media)
    (fun _ _ _ _ h hok hstep => ⟨Server.step_sound h.1 hstep,
      Server.step_subscribed h.1.settled.owned h.2 hok hstep⟩)
    ⟨Server.sound_empty, subscribed_empty⟩ hsafe0 hbefore
  obtain ⟨rtp, i, hreaches, hsubscribed⟩ :=
    run_script hk hsmooth hsound hsub hoffers hnew hsafe1 hrun
  have hown := Server.run_ownership (run_append_ok hbefore hrun)
  exact ⟨rtp, i, hreaches, hsubscribed, fun _ hstays => hsubscribed.served hown hstays⟩

/-- A client that receives over UDP. -/
def sample : Client :=
  { fd := 8, peer := { peerIp := ascii "10.0.0.3", sessionId := 78 }
    target := { host := ascii "10.0.0.1", port := some 8554, name := ascii "a" }
    track := 0, wanted := .overUdp 5000 5001, describeSeq := 2, setupSeq := 3, playSeq := 4 }

/-- Meanwhile another client comes and goes. -/
def sampleScript : Script :=
  { first := [sampleConnect], describing := sampleWorld
    second := [sampleRequest "DESCRIBE rtsp://h/a" "Accept: application/sdp\r\n"]
    asking := sampleWorld, third := [.hangup 7, .trigger], playing := sampleWorld }

theorem sample_valid : sample.Valid :=
  ⟨ClientRequest.urlPart_sample (by decide) (by decide) (by decide),
    ClientRequest.urlPart_sample (by decide) (by decide) (by decide), by decide, by decide +kernel⟩

theorem sample_smooth : sampleScript.Smooth sample where
  first := List.forall_mem_singleton.mpr ⟨trivial, fun _ h => by cases h⟩
  second := List.forall_mem_singleton.mpr ⟨show 7 ≠ 8 by decide, fun _ h => by cases h⟩
  third := List.forall_mem_cons.mpr ⟨⟨show 7 ≠ 8 by decide, fun _ h => by cases h⟩,
    List.forall_mem_singleton.mpr ⟨trivial, fun _ h => by cases h⟩⟩
  described := rfl
  asked := rfl
  played := rfl
  paired := show (RtspConnection.openUdpPair sampleWorld.udp 10 0).1 ≠ none by decide

theorem is_served_sample : ∃ s s' rtp i, run Server.step s (sampleScript.acts sample) = .ok s' ∧
    sample.Reaches i ∧ s'.1.Subscription 8 0 rtp i (ascii "a") 0 ∧
      ∀ after, Meets Server.step (Server.Stays 8) s'.1 after →
        s'.1.Served after 8 0 rtp i (ascii "a") 0 := by
  obtain ⟨s, seen, hbefore, hcheck⟩ := checkRun_true
    (show checkRun Server.step {} (sampleSession "a") (fun s _ =>
      (s.media.trackOf (ascii "a") 0).isAlive &&
        decide (∀ t, s.media.multicastOf (ascii "a") t = none) &&
        decide (8 ∉ s.connections) &&
        checkRun Server.step s (sampleScript.acts sample) fun _ _ => true)
      = true by decide +kernel)
  simp only [Bool.and_eq_true, decide_eq_true_eq] at hcheck
  obtain ⟨⟨⟨hsink, hunicast⟩, hnew⟩, hruns⟩ := hcheck
  obtain ⟨s', effects, hrun, -⟩ := checkRun_true hruns
  have hsafe : Meets Server.step SafeTrigger {} (sampleSession "a" ++ sampleScript.acts sample) :=
    meets_of_checkMeets Server.safeTrigger_test (by decide +kernel)
  obtain ⟨rtp, i, hserved⟩ := is_served sample sample_valid (sampleSession "a") s seen hbefore
    ⟨hsink, hunicast⟩ hnew sampleScript sample_smooth hsafe s' effects hrun
  exact ⟨s, (s', effects), rtp, i, hrun, hserved⟩

end Client
end MyRtspServer.Net
