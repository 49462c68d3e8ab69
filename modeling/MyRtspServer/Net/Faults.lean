import MyRtspServer.Net.FixedBuffers
import MyRtspServer.Net.SdpContent
import MyRtspServer.Net.ServerSockets
import MyRtspServer.Net.SetupDelivers

/-!
# What the server takes for granted

Four things are checked nowhere: that the tokens of a request line fit into the arrays of
the parser, that a client has described a session before it sets up a track, that
`StartMulticast` gets its sockets, and that the lists of the tracks hold no deleted
instance. Where they are given each step can be taken: all the other assertions hold and no
other pointer dangles. The fifth thing needs the allocations of the input buffers.
-/
namespace MyRtspServer.Net

open Library Library.Octets Library.Transition

/-- A read that the connection can handle: the request line fits, and a SETUP that would not
be refused comes after a DESCRIBE. -/
structure Connection.Handles (m : Media) (c : Connection) (bytes : Octets) : Prop where
  fits : ¬ (c.rtsp.request.isRtpOverTcp = true ∧ (c.inputBuffer ++ bytes).head? = some 36) →
    ∀ line rest, splitFirst kCrlf (c.inputBuffer ++ bytes) = some (line, rest) → LineFits line
  described : ∀ request, c.nextRequest bytes = some request → request.method = .setup →
    ∀ name session track,
      RtspConnection.Asks m { c.rtsp with request := request } name session track →
        c.rtsp.session ≠ none

theorem error_no_result {ε α : Type} {e : ε} : ¬ ∃ a, (.error e : Except ε α) = .ok a := by
  rintro ⟨a, h⟩
  cases h

theorem error_no_pair {ε α β : Type} {e : ε} :
    ¬ ∃ a b, (.error e : Except ε (α × β)) = .ok (a, b) := by
  rintro ⟨a, b, h⟩
  cases h

namespace RtspConnection

variable {w : World} {m : Media} {c : RtspConnection}

/-- `SetAlive` follows the pointer in the slot. -/
theorem setTrackAlive_ok (hlive : c.Live m) (track : TrackId) :
    ∃ m' c', setTrackAlive m c track = .ok (m', c') := by
  unfold setTrackAlive
  dsimp only
  split
  · exact ⟨_, _, rfl⟩
  · rename_i rtp hslot
    obtain ⟨i, hi⟩ := Option.isSome_iff_exists.mp (AList.lookup_isSome.mpr (hlive hslot))
    rw [Media.modifyRtpInstance, hi]
    exact ⟨_, _, rfl⟩

theorem handleCmdPlay_ok (hlive : c.Live m) : ∃ r, handleCmdPlay w m c = .ok r := by
  unfold handleCmdPlay
  dsimp only
  split
  · have hlive0 : (respond w m c c.playText).conn.Live (respond w m c c.playText).media := hlive
    obtain ⟨m1, c1, first⟩ := setTrackAlive_ok hlive0 0
    obtain ⟨hc1, -, hheap⟩ := setTrackAlive_spec first
    have hlive1 : c1.Live m1 := by
      intro t rtp hslot
      rw [hc1] at hslot
      rw [← AList.lookup_isSome, hheap, Option.isSome_map, AList.lookup_isSome]
      exact hlive0 hslot
    obtain ⟨m2, c2, second⟩ := setTrackAlive_ok hlive1 1
    rw [first]
    dsimp only
    rw [second]
    exact ⟨_, rfl⟩
  · exact ⟨_, rfl⟩

/-- The multicast instances are not deleted. -/
def GroupsLive (m : Media) : Prop := ∀ {name t a}, m.multicastOf name t = some a → a ∈ m.rtpInstances

theorem handleCmdDescribe_ok (hgroups : GroupsLive m) : ∃ r, handleCmdDescribe w m c = .ok r := by
  unfold handleCmdDescribe
  split
  · exact ⟨_, rfl⟩
  rename_i session hsession
  have hlive : session.GroupLive m.rtpInstances := by
    intro group hgroup track
    have hof := Media.multicastOf_of_lookup hsession track
    rw [hgroup] at hof
    exact hgroups hof
  obtain ⟨sdp, session', hsdp⟩ := MediaSession.generateSdpDescription_ok hlive w.localIp w.time
  dsimp only
  rw [hsdp]
  exact ⟨_, rfl⟩

/-- The suffix has been cut to 63 bytes, so its first part fits into 100. -/
theorem sessionNameOf_ok {suffix : Octets} (h : suffix.length < 64) :
    ∃ name, sessionNameOf suffix = .ok name := by
  have hcopied := allFit_setupStores h
  rw [setupStores, ← Scan.sscanf_isSome_iff, Option.isSome_iff_exists] at hcopied
  obtain ⟨fields, hfields⟩ := hcopied
  have hscan : Scan.sscanf [.until_ 47 100, .char 47] suffix = some fields := hfields
  rw [sessionNameOf, hscan]
  split
  · contradiction
  · exact ⟨_, rfl⟩
  · exact ⟨_, rfl⟩

/-- A SETUP that asks no session is refused. -/
theorem handleCmdSetup_refused (hsuffix : c.request.suffix.length < 64)
    (htrack : c.request.trackId ≠ none)
    (hasks : ∀ name session track, ¬ Asks m c name session track) :
    handleCmdSetup w m c = .ok ⟨false, m, c, []⟩ := by
  obtain ⟨found, hfound⟩ := sessionNameOf_ok hsuffix
  obtain ⟨track, htrack⟩ := Option.ne_none_iff_exists'.mp htrack
  rw [handleCmdSetup_unasked hasks, setupByUrl, hfound]
  cases found with
  | none => rfl
  | some name =>
    dsimp only
    split
    · rfl
    rename_i session hsession
    rw [htrack]
    dsimp only
    split
    · rfl
    rename_i hslots
    rw [not_or, Bool.not_eq_true, Bool.not_eq_true, Option.isSome_eq_false_iff,
      Option.isSome_eq_false_iff, Option.isNone_iff_eq_none, Option.isNone_iff_eq_none] at hslots
    exact absurd ⟨hfound, hsession, htrack, hslots.1, hslots.2⟩ (hasks name session track)

/-- A SETUP that is not refused reads `m_session_`. -/
theorem handleCmdSetup_ok_iff (hsuffix : c.request.suffix.length < 64)
    (htrack : c.request.trackId ≠ none) (hknown : SessionKnown m c) (hgroups : GroupsLive m) :
    (∃ r, handleCmdSetup w m c = .ok r) ↔
      ∀ name session track, Asks m c name session track → c.session ≠ none := by
  constructor
  · rintro ⟨r, hr⟩ name session track hasks hnone
    rw [handleCmdSetup_unset hasks hnone] at hr
    cases hr
  · intro hset
    by_cases hasks : ∃ name session track, Asks m c name session track
    · obtain ⟨name, session, track, hasks⟩ := hasks
      obtain ⟨described, hdescribed⟩ := Option.ne_none_iff_exists'.mp (hset _ _ _ hasks)
      obtain ⟨describedSession, hfound⟩ :=
        Option.isSome_iff_exists.mp (AList.lookup_isSome.mpr (hknown described hdescribed))
      exact handleCmdSetup_ok ⟨hasks.named, hasks.registered, hasks.asked, hasks.rtpFree,
        hasks.rtcpFree, hdescribed, hfound⟩ hgroups
    · refine ⟨_, handleCmdSetup_refused hsuffix htrack fun name session track h => ?_⟩
      exact hasks ⟨name, session, track, h⟩

theorem handleCmd_ok_iff (hsuffix : c.request.suffix.length < 64)
    (htrack : c.request.method = .setup → c.request.trackId ≠ none) (hknown : SessionKnown m c)
    (hlive : c.Live m) (hgroups : GroupsLive m) :
    (∃ r, handleCmd w m c = .ok r) ↔ (c.request.method = .setup →
      ∀ name session track, Asks m c name session track → c.session ≠ none) := by
  unfold handleCmd
  cases hmethod : c.request.method with
  | setup => simpa using handleCmdSetup_ok_iff hsuffix (htrack hmethod) hknown hgroups
  | describe => exact iff_of_true (handleCmdDescribe_ok hgroups) fun h => by cases h
  | play => exact iff_of_true (handleCmdPlay_ok hlive) fun h => by cases h
  | _ => exact iff_of_true ⟨_, rfl⟩ fun h => by cases h

end RtspConnection

namespace Connection

variable {w : World} {m : Media} {c : Connection} {bytes : Octets}

/-- What the parser hands to a handler. -/
theorem nextRequest_bounds {request : Request} (hfits : ∀ line rest,
      splitFirst kCrlf (c.inputBuffer ++ bytes) = some (line, rest) → LineFits line)
    (h : c.nextRequest bytes = some request) :
    request.suffix.length < 64 ∧ (request.method = .setup → request.trackId ≠ none) := by
  obtain ⟨line, block, first, ⟨rest, hline, -⟩, hparsed, haccepted⟩ := nextRequest_taken h
  obtain ⟨hmethod, -, hsuffix⟩ := Request.parseRequest2_line haccepted
  refine ⟨?_, fun hsetup => ?_⟩
  · rw [hsuffix]
    exact Request.suffix_fits (hfits line rest hline) hparsed
  · obtain ⟨cseq, r', track, -, -, rfl⟩ :=
      Request.parseRequest2_setup (hmethod.symm.trans hsetup) haccepted
    exact Option.some_ne_none track

/-- **Reads are handled exactly as long as these two things are given.** -/
theorem handleRead_ok_iff (hknown : RtspConnection.SessionKnown m c.rtsp) (hlive : c.rtsp.Live m)
    (hgroups : RtspConnection.GroupsLive m) :
    (∃ r, c.handleRead w m bytes = .ok r) ↔ c.Handles m bytes := by
  by_cases hchannel : c.rtsp.request.isRtpOverTcp = true ∧ (c.inputBuffer ++ bytes).head? = some 36
  · refine iff_of_true ?_ ⟨fun hno => absurd hchannel hno, fun request hnext => ?_⟩
    · unfold handleRead handleReadBytes
      dsimp only
      rw [if_pos hchannel]
      exact ⟨_, rfl⟩
    · rw [nextRequest, if_pos hchannel] at hnext
      cases hnext
  have hline : ∀ line rest, splitFirst kCrlf (c.inputBuffer ++ bytes) = some (line, rest) →
      (LineFits line ↔ ∀ e, c.rtsp.request.parseRequest (c.inputBuffer ++ bytes) ≠ .error e) := by
    intro line rest hsplit
    rw [← not_exists, Request.parseRequest_error_iff c.rtsp.request hsplit, not_not]
  unfold handleRead handleReadBytes
  dsimp only
  rw [if_neg hchannel]
  cases hparse : c.rtsp.request.parseRequest (c.inputBuffer ++ bytes) with
  | error e =>
    refine iff_of_false error_no_result fun hhandles => ?_
    cases hsplit : splitFirst kCrlf (c.inputBuffer ++ bytes) with
    | none =>
      rw [Request.parseRequest, hsplit] at hparse
      cases hparse
    | some found =>
      exact (hline _ _ hsplit).mp (hhandles.fits hchannel _ _ hsplit) e hparse
  | ok result =>
    have hfits : ∀ line rest, splitFirst kCrlf (c.inputBuffer ++ bytes) = some (line, rest) →
        LineFits line := by
      intro line rest hsplit
      refine (hline line rest hsplit).mpr fun e herror => ?_
      rw [hparse] at herror
      cases herror
    obtain ⟨ok, request, buffer⟩ := result
    cases ok with
    | false =>
      refine iff_of_true ⟨_, rfl⟩ ⟨fun _ => hfits, fun other hnext => ?_⟩
      rw [nextRequest, if_neg hchannel, hparse] at hnext
      cases hnext
    | true =>
      have hnext : c.nextRequest bytes = some request := by
        rw [nextRequest, if_neg hchannel, hparse]
      obtain ⟨hsuffix, htrack⟩ := nextRequest_bounds hfits hnext
      have hcmd := RtspConnection.handleCmd_ok_iff (w := w) (m := m)
        (c := { c.rtsp with request := request }) hsuffix htrack hknown hlive hgroups
      dsimp only
      constructor
      · intro hread
        refine ⟨fun _ => hfits, fun other hother hsetup => ?_⟩
        obtain rfl := Option.some.inj (hnext.symm.trans hother)
        refine hcmd.mp ?_ hsetup
        cases hhandled : RtspConnection.handleCmd w m { c.rtsp with request := request } with
        | error e =>
          rw [hhandled] at hread
          obtain ⟨r, hr⟩ := hread
          cases hr
        | ok r => exact ⟨r, rfl⟩
      · intro hhandles
        obtain ⟨r, hr⟩ := hcmd.mpr (hhandles.described request hnext)
        rw [hr]
        exact ⟨_, rfl⟩

end Connection

/-! ## Every action -/

theorem sendPacket_ok_iff {instances : AList fun _ : Nat => RtpInstance}
    {answers : Nat → WriteAnswer} {rtps : List Nat} : ∀ {position : Nat} {p : MediaPacket},
      (∃ effects, sendPacket instances answers rtps position p = .ok effects) ↔
        ∀ rtp ∈ rtps, rtp ∈ instances := by
  induction rtps with
  | nil => exact iff_of_true ⟨[], rfl⟩ fun _ h => by cases h
  | cons a rest ih =>
    intro position p
    rw [List.forall_mem_cons, sendPacket]
    cases hlookup : instances.lookup a with
    | none =>
      refine iff_of_false error_no_result fun h => ?_
      exact AList.lookup_eq_none.mp hlookup h.1
    | some i =>
      have ha : a ∈ instances := AList.lookup_isSome.mp (by rw [hlookup]; rfl)
      simp only [ha, true_and]
      split
      · rename_i hlive
        refine Iff.trans ?_ (@ih (position + 1) (i.send a p (answers position)).1)
        cases sendPacket instances answers rest (position + 1)
            (i.send a p (answers position)).1 with
        | error e => exact iff_of_false error_no_result error_no_result
        | ok effects => exact iff_of_true ⟨_, rfl⟩ ⟨_, rfl⟩
      · exact ih

namespace Server

/-- What the code takes for granted. -/
def TakenForGranted (s : Server) : ServerAct → Prop
  | .read sockfd bytes _ => ∀ conn, s.readable sockfd = some conn → bytes ≠ [] →
      conn.Handles s.media bytes
  | .packet name track _ _ =>
    ∀ rtp ∈ (s.media.trackOf name track).rtpInstances, rtp ∈ s.media.rtpInstances
  | .startMulticast name w => ∀ session, s.media.sessions.lookup name = some session →
      session.isStartMulticast = false → ∀ k, ∃ fd, w.sockfd k = some (fd + 1)
  | _ => True

/-- Who is to be destroyed is registered, and is noted once. -/
structure Noted (s : Server) : Prop where
  nodup : s.disconnectedList.Nodup
  known : ∀ fd ∈ s.disconnectedList, fd ∈ s.connections

variable {s s' : Server} {act : ServerAct} {effects : List Effect}

theorem Noted.give {s : Server} (h : s.Noted) {sockfd : Nat} {conn : Connection}
    (hconn : s.readable sockfd = some conn) : (s.handleDisconnection sockfd).Noted := by
  obtain ⟨hlookup, hopen⟩ := readable_some hconn
  constructor
  · refine List.nodup_append.mpr ⟨h.nodup, List.nodup_singleton _, fun fd hfd other hother => ?_⟩
    rw [List.mem_singleton.mp hother]
    rintro rfl
    exact hopen hfd
  · intro fd hfd
    rcases List.mem_append.mp hfd with hfd | hfd
    · exact h.known fd hfd
    · rw [List.mem_singleton.mp hfd]
      refine AList.lookup_isSome.mp ?_
      change (s.connections.lookup sockfd).isSome = true
      rw [hlookup]
      rfl

theorem step_noted (h : s.Noted) (hstep : s.step act = .ok (s', effects)) : s'.Noted := by
  cases step_outcome hstep with
  | ignored => exact h
  | session => exact ⟨h.nodup, h.known⟩
  | sink => exact ⟨h.nodup, h.known⟩
  | multicast => exact ⟨h.nodup, h.known⟩
  | accept connfd peer =>
    exact ⟨h.nodup, fun fd hfd => (AList.mem_insert _).mpr (Or.inr (h.known fd hfd))⟩
  | read sockfd bytes w conn r reported =>
    have hnoted : ∀ list, (⟨s.media, s.connections, list⟩ : Server).Noted →
        (⟨r.media, s.connections.insert sockfd r.conn, list⟩ : Server).Noted := fun list hlist =>
      ⟨hlist.nodup, fun fd hfd => (AList.mem_insert _).mpr (Or.inr (hlist.known fd hfd))⟩
    unfold afterRead
    split
    · exact hnoted _ h
    · exact hnoted _ (h.give reported)
  | hangup sockfd conn reported => exact h.give reported
  | trigger => exact ⟨List.nodup_nil, fun fd hfd => by cases hfd⟩
  | packet => exact h

theorem destroyAll_ok {fds : List Nat} : ∀ {s : Server}, s.Settled → fds.Nodup →
    (∀ fd ∈ fds, fd ∈ s.connections) → ∃ s' effects, s.destroyAll fds = .ok (s', effects) := by
  induction fds with
  | nil => exact fun _ _ _ => ⟨_, _, rfl⟩
  | cons sockfd rest ih =>
    intro s h hnodup hknown
    rw [List.nodup_cons] at hnodup
    obtain ⟨conn, hconn⟩ := Option.isSome_iff_exists.mp
      (AList.lookup_isSome.mpr (hknown sockfd List.mem_cons_self))
    obtain ⟨m, effects, hdestroy, hsettled, -⟩ := destroy_settled h hconn
    obtain ⟨s', later, hrest⟩ := ih hsettled hnodup.2 fun fd hfd => by
      rw [AList.mem_erase]
      exact ⟨fun heq => hnodup.1 (heq ▸ hfd), hknown fd (List.mem_cons_of_mem _ hfd)⟩
    rw [destroyAll, hconn]
    dsimp only
    rw [hdestroy]
    dsimp only
    rw [hrest]
    exact ⟨_, _, rfl⟩

theorem Settled.withList (h : s.Settled) (list : List Nat) :
    Settled { s with disconnectedList := list } :=
  ⟨h.owned, h.registered.mono id, h.each⟩

theorem destroyAll_settled {fds : List Nat} : ∀ {s s' : Server} {effects : List Effect},
    s.Settled → s.destroyAll fds = .ok (s', effects) → s'.Settled := by
  induction fds with
  | nil =>
    intro s s' effects h hd
    cases hd
    exact h
  | cons sockfd rest ih =>
    intro s s' effects h hd
    rw [destroyAll] at hd
    split at hd
    · cases hd
    rename_i conn hconn
    obtain ⟨m, first, hdestroy, hsettled, -⟩ := destroy_settled h hconn
    rw [hdestroy] at hd
    dsimp only at hd
    split at hd
    · cases hd
    · rename_i hrest
      cases hd
      exact ih hsettled hrest

theorem step_settled (h : s.Settled) (hstep : s.step act = .ok (s', effects)) : s'.Settled := by
  cases act with
  | addMediaSession name =>
    exact (@sessionCall_settled s s' (.addMediaSession name) effects h hstep).1
  | addRtpSink name track sink =>
    exact (@sessionCall_settled s s' (.addRtpSink name track sink) effects h hstep).1
  | startMulticast name w =>
    exact (@sessionCall_settled s s' (.startMulticast name w) effects h hstep).1
  | accept connfd peer =>
    simp only [step] at hstep
    split at hstep
    · cases hstep
      exact h
    · rename_i hnew
      cases hstep
      exact accept_settled h peer hnew
  | read sockfd bytes w =>
    rcases step_read hstep with hsame | ⟨conn, r, hreadable, -, hread, hafter, -⟩
    · rw [hsame]
      exact h
    · obtain ⟨hsettled, -⟩ := read_settled h (readable_some hreadable).1 hread
      rw [hafter]
      exact hsettled.withList _
  | hangup sockfd =>
    simp only [step] at hstep
    split at hstep
    · cases hstep
      exact h
    · cases hstep
      exact h.withList _
  | trigger =>
    simp only [step, handleDisconnectionList] at hstep
    split at hstep
    · cases hstep
    · rename_i hdestroyed
      cases hstep
      exact (destroyAll_settled h hdestroyed).withList _
  | packet name track p answers =>
    cases step_outcome hstep <;> exact h

/-- What holds between two actions. -/
structure Sound (s : Server) : Prop where
  settled : s.Settled
  noted : s.Noted
  known : s.Each fun m c => RtspConnection.SessionKnown m c.rtsp

theorem sound_empty : Sound {} :=
  ⟨settled_empty, ⟨List.nodup_nil, fun _ h => by cases h⟩, each_empty⟩

theorem step_sound (h : s.Sound) (hstep : s.step act = .ok (s', effects)) : s'.Sound :=
  ⟨step_settled h.settled hstep, step_noted h.noted hstep,
    step_each sessionKnown_invariant h.known hstep⟩

theorem startMulticast_ok_iff {m : Media} {name : Octets} {w : MulticastWorld} :
    (∃ m' effects, m.startMulticast name w = .ok (m', effects)) ↔
      ∀ session, m.sessions.lookup name = some session → session.isStartMulticast = false →
        ∀ k, ∃ fd, w.sockfd k = some (fd + 1) := by
  unfold Media.startMulticast
  cases hsession : m.sessions.lookup name with
  | none => exact iff_of_true ⟨_, _, rfl⟩ fun _ h => by cases h
  | some session =>
    dsimp only
    split
    · rename_i hstarted
      refine iff_of_true ⟨_, _, rfl⟩ fun other hother hno => ?_
      obtain rfl := Option.some.inj hother
      rw [hstarted] at hno
      cases hno
    rename_i hfirst
    split
    · rename_i a b c d ha hb hc hd
      refine iff_of_true ⟨_, _, rfl⟩ fun _ _ _ k => ?_
      match k with
      | 0 => exact ⟨a, ha⟩
      | 1 => exact ⟨b, hb⟩
      | 2 => exact ⟨c, hc⟩
      | 3 => exact ⟨d, hd⟩
    · rename_i hnone
      refine iff_of_false error_no_pair fun hall => ?_
      have hsockets := hall session rfl (Bool.eq_false_of_not_eq_true hfirst)
      obtain ⟨a, ha⟩ := hsockets 0
      obtain ⟨b, hb⟩ := hsockets 1
      obtain ⟨c, hc⟩ := hsockets 2
      obtain ⟨d, hd⟩ := hsockets 3
      exact hnone a b c d ha hb hc hd

/-- **One action comes to its end exactly if these things are given.** -/
theorem step_ok_iff (h : s.Sound) :
    TakenForGranted s act ↔ ∃ s' effects, s.step act = .ok (s', effects) := by
  have hgroups : RtspConnection.GroupsLive s.media := h.settled.owned.multicastLive
  cases act with
  | addMediaSession name => exact iff_of_true trivial ⟨_, _, rfl⟩
  | addRtpSink name track sink => exact iff_of_true trivial ⟨_, _, rfl⟩
  | startMulticast name w =>
    refine Iff.trans startMulticast_ok_iff.symm ?_
    simp only [step]
    cases s.media.startMulticast name w with
    | error e => exact iff_of_false error_no_pair error_no_pair
    | ok result => exact iff_of_true ⟨_, _, rfl⟩ ⟨_, _, rfl⟩
  | accept connfd peer =>
    refine iff_of_true trivial ?_
    simp only [step]
    split <;> exact ⟨_, _, rfl⟩
  | read sockfd bytes w =>
    simp only [TakenForGranted, step]
    cases hconn : s.readable sockfd with
    | none => exact iff_of_true (fun _ h => by cases h) ⟨_, _, rfl⟩
    | some conn =>
      dsimp only
      by_cases hbytes : bytes = []
      · rw [if_pos hbytes]
        exact iff_of_true (fun _ _ hne => absurd hbytes hne) ⟨_, _, rfl⟩
      obtain ⟨hlookup, -⟩ := readable_some hconn
      have hread : (∃ r, conn.handleRead w s.media bytes = .ok r) ↔ conn.Handles s.media bytes :=
        Connection.handleRead_ok_iff (h.known _ _ hlookup) (h.settled.live hlookup) hgroups
      rw [if_neg hbytes, handleRead]
      constructor
      · intro hhandles
        obtain ⟨r, hr⟩ := hread.mpr (hhandles conn rfl hbytes)
        rw [hr]
        exact ⟨_, _, rfl⟩
      · intro hok other hother _
        obtain rfl := Option.some.inj hother
        refine hread.mp ?_
        cases hr : conn.handleRead w s.media bytes with
        | error e =>
          rw [hr] at hok
          obtain ⟨_, _, hok⟩ := hok
          cases hok
        | ok r => exact ⟨r, rfl⟩
  | hangup sockfd =>
    refine iff_of_true trivial ?_
    simp only [step]
    split <;> exact ⟨_, _, rfl⟩
  | trigger =>
    refine iff_of_true trivial ?_
    obtain ⟨s', effects, hdestroyed⟩ := destroyAll_ok h.settled h.noted.nodup h.noted.known
    simp only [step, handleDisconnectionList, hdestroyed]
    exact ⟨_, _, rfl⟩
  | packet name track p answers =>
    simp only [TakenForGranted, step]
    cases hsession : s.media.sessions.lookup name with
    | none =>
      refine iff_of_true (fun rtp hmem => ?_) ⟨_, _, rfl⟩
      rw [Media.trackOf, hsession] at hmem
      cases hmem
    | some session =>
      rw [Media.trackOf_of_lookup hsession, ← @sendPacket_ok_iff _ answers _ 0 p]
      dsimp only
      cases sendPacket s.media.rtpInstances answers (session.tracks track).rtpInstances 0 p with
      | error e => exact iff_of_false error_no_result error_no_pair
      | ok effects => exact iff_of_true ⟨_, rfl⟩ ⟨_, _, rfl⟩

end Server
end MyRtspServer.Net
