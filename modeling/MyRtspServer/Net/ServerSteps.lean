import MyRtspServer.Net.Handlers
import MyRtspServer.Net.RtspServer

/-!
# What one action of the loop can change

`step_outcome` says once what each action does, guards included. The shared state
is seen through four lookups: the slots of the connections, the heap, the tracks
and the multicast instances of the sessions. Every action but the trigger phase
is one of a few changes of these; the trigger phase destroys connections one
after the other.
-/
namespace MyRtspServer.Net

open Library Library.Octets Library.Transition

namespace Connection

/-- The request the parser takes from the buffer once `bytes` have arrived. -/
def nextRequest (c : Connection) (bytes : Octets) : Option Request :=
  if c.rtsp.request.isRtpOverTcp ∧ (c.inputBuffer ++ bytes).head? = some 36 then none
  else
    match c.rtsp.request.parseRequest (c.inputBuffer ++ bytes) with
    | .ok (true, request, _) => some request
    | _ => none

/-- What a read does: it is swallowed or refused without a handler, or one
handler is called. -/
inductive ReadOutcome (w : World) (m : Media) (c : Connection) (bytes : Octets)
    (r : ReadResult) : Prop
  | unhandled (media : r.media = m) (slots : r.conn.rtsp.rtpInstances = c.rtsp.rtpInstances)
      (sockFd : r.conn.rtsp.sockFd = c.rtsp.sockFd)
      (outputBuffer : r.conn.rtsp.outputBuffer = c.rtsp.outputBuffer)
      (effects : (r.effects = [] ∧ r.ok = true) ∨
        (r.effects = [.disconnected c.rtsp.sockFd] ∧ r.ok = false))
  | handled (request : Request) (buffer : Octets) (h : Handled)
      (parsed : c.nextRequest bytes = some request)
      (handler : RtspConnection.handleCmd w m { c.rtsp with request := request } = .ok h)
      (result : r = ⟨h.ok, h.media, ⟨h.conn, buffer⟩,
        .dispatched c.rtsp.sockFd request :: (h.effects ++
          [if h.ok then .accepted c.rtsp.sockFd request else .disconnected c.rtsp.sockFd])⟩)

theorem handleRead_outcome {w : World} {m : Media} {c : Connection} {bytes : Octets}
    {r : ReadResult} (h : c.handleRead w m bytes = .ok r) : ReadOutcome w m c bytes r := by
  unfold handleRead handleReadBytes at h
  dsimp only at h
  split at h
  · cases h
    exact .unhandled rfl rfl rfl rfl (Or.inl ⟨rfl, rfl⟩)
  · rename_i hchannel
    split at h
    · cases h
    · cases h
      exact .unhandled rfl rfl rfl rfl (Or.inr ⟨rfl, rfl⟩)
    · rename_i request buffer hparse
      split at h
      · cases h
      · rename_i handled hhandled
        cases h
        refine .handled request buffer handled ?_ hhandled rfl
        rw [nextRequest, if_neg hchannel, hparse]

end Connection

namespace Media

/-- What `StartMulticast` does: nothing, or two new instances in the session. -/
inductive MulticastOutcome (m : Media) (name : Octets) : Media → List Effect → Prop
  | unchanged : MulticastOutcome m name m []
  | started (session rtp1 rtp2 i1 i2 group effects)
      (registered : m.sessions.lookup name = some session) (first : session.multicast = none)
      (fresh1 : rtp1 ∉ m.rtpInstances) (fresh2 : rtp2 ∉ m.rtpInstances) (apart : rtp1 ≠ rtp2)
      (members : group.rtpInstances = fun track => if track = 0 then rtp1 else rtp2)
      (opened : ∀ e ∈ effects, ∃ fd, e = Effect.opened fd) :
      MulticastOutcome m name
        (setSession { m with rtpInstances := (m.rtpInstances.insert rtp1 i1).insert rtp2 i2 } name
          { (session.addRtpInstance 0 rtp1).addRtpInstance 1 rtp2 with multicast := some group })
        effects

theorem startMulticast_outcome {m m' : Media} {name : Octets} {w : MulticastWorld}
    {effects : List Effect} (h : m.startMulticast name w = .ok (m', effects)) :
    MulticastOutcome m name m' effects := by
  unfold startMulticast at h
  split at h
  · cases h
    exact .unchanged
  rename_i session hsession
  split at h
  · cases h
    exact .unchanged
  rename_i hfirst
  split at h
  · simp only [newRtpInstance] at h
    cases h
    generalize hrtp2 : freshAddress _ (w.newRtp 1) = rtp2
    have hfresh2 := hrtp2 ▸ freshAddress_fresh _ (w.newRtp 1)
    rw [AList.mem_insert, not_or] at hfresh2
    refine .started session _ rtp2 _ _ _ _ hsession ?_ (m.freshAddress_fresh _) hfresh2.2
      (Ne.symm hfresh2.1) rfl ?_
    · simpa [MediaSession.isStartMulticast] using hfirst
    · intro e he
      simp only [List.mem_cons, List.not_mem_nil, or_false] at he
      rcases he with rfl | rfl | rfl | rfl <;> exact ⟨_, rfl⟩
  · cases h

namespace MulticastOutcome

variable {m m' : Media} {name : Octets} {effects : List Effect}

/-- The instances that are there stay as they are. -/
theorem lookup (h : MulticastOutcome m name m' effects) {a : Nat} (ha : a ∈ m.rtpInstances) :
    m'.rtpInstances.lookup a = m.rtpInstances.lookup a := by
  cases h with
  | unchanged => rfl
  | started session rtp1 rtp2 i1 i2 group effects registered first fresh1 fresh2 =>
    have hne1 : a ≠ rtp1 := fun heq => fresh1 (heq ▸ ha)
    have hne2 : a ≠ rtp2 := fun heq => fresh2 (heq ▸ ha)
    exact (AList.lookup_insert_ne hne2).trans (AList.lookup_insert_ne hne1)

theorem all_opened (h : MulticastOutcome m name m' effects) :
    ∀ e ∈ effects, ∃ fd, e = .opened fd := by
  cases h with
  | unchanged => exact fun _ he => by cases he
  | started session rtp1 rtp2 i1 i2 group effects registered first fresh1 fresh2 apart members
      opened => exact opened

end MulticastOutcome
end Media

namespace Server

theorem readable_some {s : Server} {sockfd : Nat} {conn : Connection}
    (h : s.readable sockfd = some conn) :
    s.connections.lookup sockfd = some conn ∧ sockfd ∉ s.disconnectedList := by
  unfold readable at h
  split at h
  · cases h
  · exact ⟨h, ‹_›⟩

/-- The server after a read. -/
def afterRead (s : Server) (sockfd : Nat) (r : ReadResult) : Server :=
  ⟨r.media, s.connections.insert sockfd r.conn,
    if r.ok then s.disconnectedList else s.disconnectedList ++ [sockfd]⟩

/-- What each action does to the server, and what it shows. -/
inductive Outcome (s : Server) : ServerAct → Server → List Effect → Prop
  | ignored (act) : Outcome s act s []
  | session (name) :
      Outcome s (.addMediaSession name) { s with media := s.media.addMediaSession name } []
  | sink (name track sink) :
      Outcome s (.addRtpSink name track sink)
        { s with media := s.media.addRtpSink name track sink } []
  | multicast (name w m effects) (started : s.media.MulticastOutcome name m effects) :
      Outcome s (.startMulticast name w) { s with media := m } effects
  | accept (connfd peer) (new : connfd ∉ s.connections) :
      Outcome s (.accept connfd peer) (s.handleNewConnection connfd peer) [.connected connfd]
  | read (sockfd bytes w conn r) (reported : s.readable sockfd = some conn)
      (outcome : Connection.ReadOutcome w s.media conn bytes r) :
      Outcome s (.read sockfd bytes w) (s.afterRead sockfd r) r.effects
  | hangup (sockfd conn) (reported : s.readable sockfd = some conn) :
      Outcome s (.hangup sockfd) (s.handleDisconnection sockfd) [.disconnected sockfd]
  | trigger (s' effects) (destroyed : s.destroyAll s.disconnectedList = .ok (s', effects)) :
      Outcome s .trigger { s' with disconnectedList := [] } effects
  | packet (name track packet answers session effects)
      (registered : s.media.sessions.lookup name = some session)
      (sent : sendPacket s.media.rtpInstances answers (session.tracks track).rtpInstances 0
        packet = .ok effects) :
      Outcome s (.packet name track packet answers) s effects

theorem handleRead_server {s s' : Server} {sockfd : Nat} {conn : Connection} {bytes : Octets}
    {w : World} {effects : List Effect}
    (h : s.handleRead sockfd conn bytes w = .ok (s', effects)) :
    ∃ r : ReadResult, Connection.ReadOutcome w s.media conn bytes r ∧ effects = r.effects ∧
      s' = s.afterRead sockfd r := by
  unfold handleRead at h
  split at h
  · cases h
  rename_i r hr
  cases h
  refine ⟨r, Connection.handleRead_outcome hr, rfl, ?_⟩
  unfold afterRead
  split <;> rfl

/-- **The inversion of a step**: what follows from its success. -/
theorem step_outcome {s s' : Server} {act : ServerAct} {effects : List Effect}
    (h : s.step act = .ok (s', effects)) : Outcome s act s' effects := by
  cases act with
  | addMediaSession name =>
    cases h
    exact .session name
  | addRtpSink name track sink =>
    cases h
    exact .sink name track sink
  | startMulticast name w =>
    simp only [step] at h
    split at h <;> cases h
    exact .multicast name w _ _ (Media.startMulticast_outcome ‹_›)
  | accept connfd peer =>
    simp only [step] at h
    split at h <;> cases h
    · exact .ignored _
    · exact .accept connfd peer ‹_›
  | read sockfd bytes w =>
    simp only [step] at h
    split at h
    · cases h
      exact .ignored _
    rename_i conn hconn
    split at h
    · cases h
      exact .ignored _
    obtain ⟨r, hread, rfl, rfl⟩ := handleRead_server h
    exact .read sockfd bytes w conn r hconn hread
  | hangup sockfd =>
    simp only [step] at h
    split at h <;> cases h
    · exact .ignored _
    · exact .hangup sockfd _ ‹_›
  | trigger =>
    simp only [step, handleDisconnectionList] at h
    split at h <;> cases h
    exact .trigger _ _ ‹_›
  | packet name track packet answers =>
    simp only [step] at h
    split at h
    · cases h
      exact .ignored _
    rename_i session hsession
    split at h <;> cases h
    exact .packet name track packet answers session _ hsession ‹_›

/-! ## The changes of the shared state -/

/-- The instance in a slot of the connection on a descriptor. -/
def slotOf (s : Server) (sockfd : Nat) (track : TrackId) : Option Nat :=
  match s.connections.lookup sockfd with
  | some conn => conn.rtsp.rtpInstances track
  | none => none

theorem slotOf_of_lookup {s : Server} {sockfd : Nat} {conn : Connection}
    (h : s.connections.lookup sockfd = some conn) :
    s.slotOf sockfd = conn.rtsp.rtpInstances := by
  funext track
  rw [slotOf, h]

theorem slotOf_insert (s : Server) (m : Media) (list : List Nat) (sockfd other : Nat)
    (conn : Connection) (track : TrackId) :
    slotOf ⟨m, s.connections.insert sockfd conn, list⟩ other track =
      if other = sockfd then conn.rtsp.rtpInstances track else s.slotOf other track := by
  unfold slotOf
  by_cases h : other = sockfd
  · subst h
    rw [if_pos rfl, AList.lookup_insert]
  · rw [if_neg h, AList.lookup_insert_ne h]

theorem slotOf_erase (s : Server) (m : Media) (list : List Nat) (sockfd other : Nat)
    (track : TrackId) :
    slotOf ⟨m, s.connections.erase sockfd, list⟩ other track =
      if other = sockfd then none else s.slotOf other track := by
  unfold slotOf
  by_cases h : other = sockfd
  · subst h
    rw [if_pos rfl, AList.lookup_erase]
  · rw [if_neg h, AList.lookup_erase_ne h]

/-- A connection that keeps its slots can be put back. -/
theorem slotOf_insert_same {s : Server} {sockfd : Nat} {conn conn' : Connection} {m : Media}
    {list : List Nat} (h : s.connections.lookup sockfd = some conn)
    (hslots : conn'.rtsp.rtpInstances = conn.rtsp.rtpInstances) :
    slotOf ⟨m, s.connections.insert sockfd conn', list⟩ = s.slotOf := by
  funext other track
  rw [slotOf_insert, hslots, ← slotOf_of_lookup h]
  split
  · rename_i heq
    rw [heq]
  · rfl

/-- The changes of the shared state, destruction apart. -/
inductive Change (s s' : Server) : Prop
  | still (slots : s'.slotOf = s.slotOf) (heap : s'.media.rtpInstances = s.media.rtpInstances)
      (tracks : s'.media.trackOf = s.media.trackOf)
      (multicast : s'.media.multicastOf = s.media.multicastOf)
  | setup (sockfd : Nat) (track : TrackId) (rtp : Nat) (i : RtpInstance) (name : Octets)
      (free : s.slotOf sockfd track = none) (fresh : rtp ∉ s.media.rtpInstances)
      (slots : ∀ fd t, s'.slotOf fd t =
        if fd = sockfd ∧ t = track then some rtp else s.slotOf fd t)
      (heap : s'.media.rtpInstances = s.media.rtpInstances.insert rtp i)
      (tracks : ∀ other t, s'.media.trackOf other t =
        if other = name ∧ t = track then (s.media.trackOf name track).enlist rtp
        else s.media.trackOf other t)
      (multicast : s'.media.multicastOf = s.media.multicastOf)
  | play (slots : s'.slotOf = s.slotOf)
      (heap : ∀ a, a ∈ s'.media.rtpInstances ↔ a ∈ s.media.rtpInstances)
      (tracks : s'.media.trackOf = s.media.trackOf)
      (multicast : s'.media.multicastOf = s.media.multicastOf)
  | sink (slots : s'.slotOf = s.slotOf) (heap : s'.media.rtpInstances = s.media.rtpInstances)
      (lists : ∀ name t, (s'.media.trackOf name t).rtpInstances =
        (s.media.trackOf name t).rtpInstances)
      (alive : ∀ name t, (s.media.trackOf name t).isAlive = true →
        (s'.media.trackOf name t).isAlive = true)
      (multicast : s'.media.multicastOf = s.media.multicastOf)
  | multicast (name : Octets) (rtp : TrackId → Nat) (i0 i1 : RtpInstance)
      (none_ : ∀ t, s.media.multicastOf name t = none)
      (fresh : ∀ t, rtp t ∉ s.media.rtpInstances) (apart : rtp 0 ≠ rtp 1)
      (slots : s'.slotOf = s.slotOf)
      (heap : s'.media.rtpInstances =
        (s.media.rtpInstances.insert (rtp 0) i0).insert (rtp 1) i1)
      (tracks : ∀ other t, s'.media.trackOf other t =
        if other = name then (s.media.trackOf name t).enlist (rtp t) else s.media.trackOf other t)
      (multicasts : ∀ other t, s'.media.multicastOf other t =
        if other = name then some (rtp t) else s.media.multicastOf other t)

theorem change_refl (s : Server) : Change s s := .still rfl rfl rfl rfl

theorem addMediaSession_change (s : Server) (name : Octets) :
    Change s { s with media := s.media.addMediaSession name } := by
  unfold Media.addMediaSession
  split
  · exact change_refl s
  · rename_i hnew
    have hnone : s.media.sessions.lookup name = none := AList.lookup_eq_none.mpr hnew
    refine .still rfl rfl ?_ ?_
    · funext other track
      rw [Media.trackOf_setSession]
      split
      · rename_i heq
        rw [heq, Media.trackOf, hnone]
      · rfl
    · funext other track
      rw [Media.multicastOf_setSession]
      split
      · rename_i heq
        rw [heq, Media.multicastOf, hnone]
        rfl
      · rfl

theorem addRtpSink_change (s : Server) (name : Octets) (track : TrackId) (sink : Sink) :
    Change s { s with media := s.media.addRtpSink name track sink } := by
  unfold Media.addRtpSink
  split
  · exact change_refl s
  · rename_i session hsession
    have htrack : ∀ other t, ((s.media.setSession name (session.addRtpSink track sink)).trackOf
        other t).rtpInstances = (s.media.trackOf other t).rtpInstances ∧
        ((s.media.trackOf other t).isAlive = true → ((s.media.setSession name
          (session.addRtpSink track sink)).trackOf other t).isAlive = true) := by
      intro other t
      rw [Media.trackOf_setSession]
      by_cases hother : other = name
      · subst hother
        rw [if_pos rfl, Media.trackOf_of_lookup hsession]
        by_cases ht : t = track
        · subst ht
          simp [MediaSession.addRtpSink, Track.isAlive]
        · simp [MediaSession.addRtpSink, Function.update_of_ne ht]
      · rw [if_neg hother]
        exact ⟨rfl, id⟩
    exact .sink rfl rfl (fun other t => (htrack other t).1) (fun other t => (htrack other t).2)
      (Media.multicastOf_setSession_same hsession rfl)

theorem startMulticast_change {s : Server} {name : Octets} {m : Media} {effects : List Effect}
    (h : s.media.MulticastOutcome name m effects) : Change s { s with media := m } := by
  cases h with
  | unchanged => exact change_refl s
  | started session rtp1 rtp2 i1 i2 group effects registered first fresh1 fresh2 apart members =>
    refine .multicast name (fun t => if t = 0 then rtp1 else rtp2) i1 i2 (fun t => ?_)
      (fun t => ?_) apart rfl rfl (fun other t => ?_) fun other t => ?_
    · rw [Media.multicastOf_of_lookup registered, first]
      rfl
    · split
      · exact fresh1
      · exact fresh2
    · rw [Media.trackOf_setSession]
      simp only [MediaSession.addRtpInstance_tracks, Media.trackOf_of_lookup registered]
      by_cases hother : other = name
      · simp only [hother, if_true]
        rcases trackId_cases t with rfl | rfl <;> rfl
      · simp only [hother, if_false]
        rfl
    · rw [Media.multicastOf_setSession, Option.map_some, members]
      rfl

theorem handleRead_change {s : Server} {sockfd : Nat} {conn : Connection} {bytes : Octets}
    {w : World} {r : ReadResult} (hconn : s.connections.lookup sockfd = some conn)
    (h : Connection.ReadOutcome w s.media conn bytes r) : Change s (s.afterRead sockfd r) := by
  have hslotOf := slotOf_of_lookup hconn
  cases h with
  | unhandled media slots =>
    exact .still (slotOf_insert_same hconn slots) (congrArg Media.rtpInstances media)
      (congrArg Media.trackOf media) (congrArg Media.multicastOf media)
  | handled request buffer handled parsed hhandled hresult =>
    subst hresult
    cases RtspConnection.handleCmd_change hhandled with
    | quiet slots heap tracks multicast =>
      exact .still (slotOf_insert_same hconn slots) heap tracks multicast
    | setup track rtp i name asked free fresh idle slots heap tracks multicast =>
      refine .setup sockfd track rtp i name ?_ fresh (fun fd t => ?_) heap tracks multicast
      · rw [hslotOf]
        exact free
      · rw [afterRead, slotOf_insert, slots]
        by_cases hfd : fd = sockfd
        · subst hfd
          by_cases ht : t = track
          · subst ht
            simp
          · simp [ht, hslotOf, Function.update_of_ne]
        · simp [hfd]
    | play asked ok slots heap tracks multicast =>
      refine .play (slotOf_insert_same hconn slots) (fun a => ?_) tracks multicast
      change a ∈ handled.media.rtpInstances ↔ a ∈ s.media.rtpInstances
      rw [← AList.lookup_isSome, ← AList.lookup_isSome, heap, Option.isSome_map]

/-- Every action but the trigger phase is one change. -/
theorem step_change {s s' : Server} {act : ServerAct} {effects : List Effect}
    (hact : act ≠ .trigger) (h : s.step act = .ok (s', effects)) : Change s s' := by
  cases step_outcome h with
  | ignored => exact change_refl s
  | session name => exact addMediaSession_change s name
  | sink name track sink => exact addRtpSink_change s name track sink
  | multicast name w m effects started => exact startMulticast_change started
  | accept connfd peer new =>
    refine .still ?_ rfl rfl rfl
    funext fd track
    rw [handleNewConnection, slotOf_insert]
    split
    · rename_i heq
      rw [heq, slotOf, AList.lookup_eq_none.mpr new]
      rfl
    · rfl
  | read sockfd bytes w conn r reported outcome =>
    exact handleRead_change (readable_some reported).1 outcome
  | hangup => exact .still rfl rfl rfl rfl
  | trigger => exact absurd rfl hact
  | packet => exact change_refl s

end Server
end MyRtspServer.Net
