import MyRtspServer.Net.ClientState
import MyRtspServer.Net.FanOut
import MyRtspServer.Net.SetupDelivers

/-!
# What a client is sent

An instance that is alive and on the list of one track is a subscription: until its
connection is destroyed, each packet of that track goes to it once, and nothing else
does, whatever the other clients do in the meantime.
-/
namespace MyRtspServer.Net

open Library Library.Octets Library.Transition

/-- What is offered to the socket of an instance, whether or not it is all taken. -/
def Effect.offer (rtp : Nat) : Effect → Option Sending
  | .datagram sockFd a ip port message =>
    if a = rtp then some ⟨a, sockFd, some (ip, port), message⟩ else none
  | .frame fd a message _ => if a = rtp then some ⟨a, fd, none, message⟩ else none
  | _ => none

def offeredTo (rtp : Nat) (effects : List Effect) : List Sending :=
  effects.filterMap (Effect.offer rtp)

/-- The packet of a track that an action sends. -/
def ServerAct.packetOf (name : Octets) (track : TrackId) : ServerAct → Option RtpPacket
  | .packet other t p _ => if other = name ∧ t = track then some p.toRtpPacket else none
  | _ => none

def packetsOf (name : Octets) (track : TrackId) (acts : List ServerAct) : List RtpPacket :=
  acts.filterMap (ServerAct.packetOf name track)

/-! ## One packet -/

theorem send_offer (i : RtpInstance) (a rtp : Nat) (p : MediaPacket) (answer : WriteAnswer) :
    (i.send a p answer).2.offer rtp =
      if a = rtp then some (RtpInstance.sending p.toRtpPacket a i) else none := by
  cases htransport : i.transport with
  | overUdp localPort ip port =>
    simp only [RtpInstance.send, RtpInstance.sending, htransport]
    rfl
  | overTcp channel =>
    have hprefix := Memory.load_store p.memory 0
      (RtpInstance.interleavedPrefix channel p.size.toNat)
    have hrest : (p.memory.store 0 (RtpInstance.interleavedPrefix channel p.size.toNat)).load 4
        p.size.toNat = p.rtpBytes :=
      Memory.load_store_disjoint _ (Or.inr (Nat.le_refl _))
    change Memory.load _ 0 4 = _ at hprefix
    simp only [RtpInstance.send, RtpInstance.sending, htransport]
    rw [Effect.offer, Nat.add_comm p.size.toNat 4, Memory.load_add, hprefix, hrest]

theorem send_sameRtp (i : RtpInstance) (a : Nat) (p : MediaPacket) (answer : WriteAnswer) :
    SameRtp p.toRtpPacket (i.send a p answer).1.toRtpPacket := by
  have hsame := sendAny_sameRtp i a p.toRtpPacket answer
  rwa [send_sendAny] at hsame

/-- A live instance is sent the packet as often as the list has it. -/
theorem sendPacket_offered {instances : AList fun _ : Nat => RtpInstance}
    {answers : Nat → WriteAnswer} {rtp : Nat} {i : RtpInstance}
    (hi : instances.lookup rtp = some i) (halive : i.isAlive = true) {rtps : List Nat} :
    ∀ {position : Nat} {p : MediaPacket} {effects : List Effect},
      sendPacket instances answers rtps position p = .ok effects →
        offeredTo rtp effects =
          List.replicate (rtps.count rtp) (RtpInstance.sending p.toRtpPacket rtp i) := by
  induction rtps with
  | nil =>
    intro position p effects h
    cases h
    rfl
  | cons a rest ih =>
    intro position p effects h
    rw [sendPacket] at h
    split at h
    · cases h
    rename_i j hj
    split at h
    · rename_i hlive
      dsimp only at h
      split at h
      · cases h
      rename_i later hlater
      cases h
      have hrest := ih hlater
      rw [(send_sameRtp j a p (answers position)).sending] at hrest
      rw [offeredTo, List.filterMap_cons, send_offer]
      by_cases ha : a = rtp
      · subst ha
        obtain rfl : j = i := Option.some.inj (hj.symm.trans hi)
        rw [if_pos rfl, List.count_cons_self, List.replicate_succ]
        exact congrArg (_ :: ·) hrest
      · rw [if_neg ha, List.count_cons_of_ne ha]
        exact hrest
    · rename_i hdead
      have ha : a ≠ rtp := by
        rintro rfl
        obtain rfl : j = i := Option.some.inj (hj.symm.trans hi)
        exact hdead halive
      rw [List.count_cons_of_ne ha]
      exact ih h

/-- What nobody is sent. -/
def NotSent (e : Effect) : Prop := ∀ rtp, e.offer rtp = none

theorem offeredTo_notSent {effects : List Effect} (h : ∀ e ∈ effects, NotSent e) (rtp : Nat) :
    offeredTo rtp effects = [] :=
  List.filterMap_eq_nil_iff.mpr fun e he => h e he rtp

theorem Teardown.notSent {e : Effect} (h : Teardown e) : NotSent e := by
  intro rtp
  cases e <;> first | rfl | exact h.elim

theorem RtspConnection.FromHandler.notSent {c : RtspConnection} {e : Effect}
    (h : FromHandler c e) : NotSent e := by
  intro rtp
  cases e <;> first | rfl | exact h.elim

theorem Connection.ReadOutcome.notSent {w : World} {m : Media} {c : Connection} {bytes : Octets}
    {r : ReadResult} (h : Connection.ReadOutcome w m c bytes r) : ∀ e ∈ r.effects, NotSent e := by
  cases h with
  | unhandled media slots sockFd outputBuffer effects =>
    intro e he
    rcases effects with ⟨heq, -⟩ | ⟨heq, -⟩ <;> rw [heq] at he
    · cases he
    · rw [List.mem_singleton.mp he]
      exact fun _ => rfl
  | handled request buffer handled parsed handler result =>
    subst result
    intro e he
    rcases List.mem_cons.mp he with rfl | he
    · exact fun _ => rfl
    rcases List.mem_append.mp he with he | he
    · exact ((RtspConnection.handleCmd_keeps handler).effects e he).notSent
    · rw [List.mem_singleton.mp he]
      split <;> exact fun _ => rfl

/-! ## One action -/

namespace Server

/-- A connection has this instance in a slot, and PLAY has set it alive. -/
structure Playing (s : Server) (fd : Nat) (t : TrackId) (rtp : Nat) (i : RtpInstance) : Prop where
  slot : s.slotOf fd t = some rtp
  lookup : s.media.rtpInstances.lookup rtp = some i
  alive : i.isAlive = true

/-- The connection is not destroyed. -/
def Stays (fd : Nat) (s : Server) (act : ServerAct) : Prop :=
  act = .trigger → fd ∉ s.disconnectedList

variable {s s' : Server} {act : ServerAct} {effects : List Effect} {fd rtp : Nat} {t : TrackId}
  {i : RtpInstance}

theorem change_slot (hc : Change s s') (h : s.slotOf fd t = some rtp) :
    s'.slotOf fd t = some rtp := by
  cases hc with
  | still slots => rw [slots, h]
  | setup sockfd track new j name free fresh slots =>
    rw [slots, if_neg, h]
    rintro ⟨rfl, rfl⟩
    rw [free] at h
    cases h
  | play slots => rw [slots, h]
  | sink slots => rw [slots, h]
  | multicast name rtps i0 i1 none_ fresh apart slots => rw [slots, h]

theorem handled_lookup {m : Media} {c : RtspConnection} {r : Handled}
    (h : HandlerChange m c r) (hi : m.rtpInstances.lookup rtp = some i) (halive : i.isAlive = true) :
    r.media.rtpInstances.lookup rtp = some i := by
  cases h with
  | quiet slots heap => rw [heap, hi]
  | setup track new j name asked free fresh idle slots heap =>
    have hne : rtp ≠ new := by
      rintro rfl
      exact fresh (AList.lookup_isSome.mp (by rw [hi]; rfl))
    rw [heap, AList.lookup_insert_ne hne, hi]
  | play asked ok slots heap =>
    have hsame : { i with isAlive := true } = i := by
      rw [← halive]
    rw [heap, hi, Option.map_some, hsame, ite_self]

/-- The action neither reads from the connection nor finds it hung up. -/
def Spares (fd : Nat) : ServerAct → Prop
  | .read sockfd _ _ | .hangup sockfd => sockfd ≠ fd
  | _ => True

/-- An instance keeps its slot, its socket and its destination. Only PLAY on its own
connection sets it alive, if it is not. -/
theorem step_instance (ho : Ownership s.slotOf s.media) (hslot : s.slotOf fd t = some rtp)
    (hi : s.media.rtpInstances.lookup rtp = some i) (hset : i.isAlive = true ∨ Spares fd act)
    (hstays : Stays fd s act) (hstep : s.step act = .ok (s', effects)) :
    s'.slotOf fd t = some rtp ∧ s'.media.rtpInstances.lookup rtp = some i := by
  by_cases hact : act = .trigger
  · subst hact
    cases step_outcome hstep with
    | ignored => exact ⟨hslot, hi⟩
    | trigger s'' effects destroyed =>
      have hkept : s''.slotOf fd t = some rtp := by
        rw [slotOf, destroyAll_connections destroyed fd, if_neg (hstays rfl)]
        exact hslot
      have hheap := (destroyAll_heap ho destroyed hkept).2
      exact ⟨hkept, hheap.trans hi⟩
  refine ⟨change_slot (step_change hact hstep) hslot, ?_⟩
  cases step_outcome hstep with
  | ignored => exact hi
  | session name =>
    change (s.media.addMediaSession name).rtpInstances.lookup rtp = some i
    unfold Media.addMediaSession
    split <;> exact hi
  | sink name track sink =>
    change (s.media.addRtpSink name track sink).rtpInstances.lookup rtp = some i
    unfold Media.addRtpSink
    split <;> exact hi
  | multicast name w m effects started => exact (started.lookup (ho.slotsLive hslot)).trans hi
  | accept => exact hi
  | read sockfd bytes w conn r reported outcome =>
    cases outcome with
    | unhandled media =>
      change r.media.rtpInstances.lookup rtp = some i
      rw [media]
      exact hi
    | handled request buffer handled parsed handler result =>
      subst result
      rcases hset with halive | hspares
      · exact handled_lookup (RtspConnection.handleCmd_change handler) hi halive
      · have hother := handleCmd_others ho (readable_some reported).1 handler (Ne.symm hspares) hslot
        exact hother.trans hi
  | hangup => exact hi
  | trigger => exact absurd rfl hact
  | packet => exact hi

/-- A playing instance goes on playing. -/
theorem step_playing (ho : Ownership s.slotOf s.media) (h : s.Playing fd t rtp i)
    (hstays : Stays fd s act) (hstep : s.step act = .ok (s', effects)) :
    s'.Playing fd t rtp i := by
  obtain ⟨hslot, hi⟩ := step_instance ho h.slot h.lookup (Or.inl h.alive) hstays hstep
  exact ⟨hslot, hi, h.alive⟩

end Server

/-- The lists have the instance as often as before. -/
theorem ListedOnce.congr {m m' : Media} {name : Octets} {track : TrackId} {rtp : Nat}
    (h : ListedOnce m name track rtp)
    (hcount : ∀ other t, (m'.trackOf other t).rtpInstances.count rtp =
      (m.trackOf other t).rtpInstances.count rtp) : ListedOnce m' name track rtp := by
  refine ⟨(hcount name track).trans h.here, fun other t hmem => h.nowhereElse other t ?_⟩
  rw [← List.count_pos_iff, ← hcount, List.count_pos_iff]
  exact hmem

theorem enlist_count {track : Track} {a b : Nat} (h : a ≠ b) :
    (track.enlist b).rtpInstances.count a = track.rtpInstances.count a := by
  unfold Track.enlist
  split
  · rw [List.count_append, List.count_singleton, if_neg (by simpa using Ne.symm h), Nat.add_zero]
  · rfl

theorem removeRtpInstance_count (session : MediaSession) {a b : Nat} (h : a ≠ b) (t : TrackId) :
    ((session.removeRtpInstance b).tracks t).rtpInstances.count a =
      (session.tracks t).rtpInstances.count a := by
  unfold MediaSession.removeRtpInstance MediaSession.setRtpInstances
  rcases trackId_cases t with rfl | rfl <;> split
  · exact List.count_erase_of_ne h
  · split <;> rfl
  · rfl
  · split
    · exact List.count_erase_of_ne h
    · rfl

/-- Only the lists of registered sessions have to be looked at. -/
theorem listedOnce_of_keys {m : Media} {name : Octets} {track : TrackId} {rtp : Nat}
    (hhere : (m.trackOf name track).rtpInstances.count rtp = 1)
    (helse : ∀ other ∈ m.sessions.keys, ∀ t, rtp ∈ (m.trackOf other t).rtpInstances →
      other = name ∧ t = track) : ListedOnce m name track rtp := by
  refine ⟨hhere, fun other t hmem => helse other ?_ t hmem⟩
  by_contra hno
  have hnone : m.sessions.lookup other = none := AList.lookup_eq_none.mpr hno
  simp [Media.trackOf, hnone] at hmem

/-- Another instance is taken off its list. -/
theorem TrackDestroyed.count {m m' : Media} {c : RtspConnection} {track : TrackId} {a : Nat}
    (h : TrackDestroyed m c track m') (ha : c.rtpInstances track ≠ some a) (name : Octets)
    (t : TrackId) : (m'.trackOf name t).rtpInstances.count a =
      (m.trackOf name t).rtpInstances.count a := by
  cases h with
  | empty slot same => rw [same]
  | deleted rtp described session slot hsession registered media =>
    have hview : m'.trackOf name t =
        if name = described then (session.removeRtpInstance rtp).tracks t else m.trackOf name t := by
      rw [media]
      exact Media.trackOf_setSession m described name _ t
    have hne : a ≠ rtp := fun heq => ha (heq ▸ slot)
    rw [hview]
    split
    · rename_i heq
      rw [heq, Media.trackOf_of_lookup registered, removeRtpInstance_count session hne]
    · rfl

namespace Server

variable {s s' : Server} {act : ServerAct} {effects : List Effect} {fd rtp : Nat} {t : TrackId}
  {name : Octets} {track : TrackId}

theorem change_listedOnce (hc : Change s s') (hlive : rtp ∈ s.media.rtpInstances)
    (h : ListedOnce s.media name track rtp) : ListedOnce s'.media name track rtp := by
  have hne : ∀ {new}, new ∉ s.media.rtpInstances → rtp ≠ new := fun hnew heq => hnew (heq ▸ hlive)
  refine h.congr fun other u => ?_
  cases hc with
  | still slots heap tracks => rw [tracks]
  | setup sockfd track' new j name' free fresh slots heap tracks =>
    rw [tracks]
    split
    · rename_i heq
      rw [enlist_count (hne fresh), heq.1, heq.2]
    · rfl
  | play slots heap tracks => rw [tracks]
  | sink slots heap lists => rw [lists]
  | multicast name' rtps i0 i1 none_ fresh apart slots heap tracks =>
    rw [tracks]
    split
    · rename_i heq
      rw [enlist_count (hne (fresh u)), heq]
    · rfl

theorem destroyAll_listedOnce {fds : List Nat} : ∀ {s s' : Server} {effects : List Effect},
    Ownership s.slotOf s.media → fd ∉ fds → s.slotOf fd t = some rtp →
      s.destroyAll fds = .ok (s', effects) → ListedOnce s.media name track rtp →
        ListedOnce s'.media name track rtp := by
  induction fds with
  | nil =>
    intro s s' effects _ _ _ hd h
    cases hd
    exact h
  | cons sockfd rest ih =>
    intro s s' effects ho hfd hslot hd h
    obtain ⟨conn, m1, m2, first, later, hconn, h0, h1, hrest, -, -⟩ := destroyAll_cons hd
    have hslots := slotOf_of_lookup hconn
    have hown0 := h0.ownership ho (congrFun hslots 0)
    have hown := h1.ownership hown0 ((clearSlot_other _ sockfd).trans (congrFun hslots 1))
    rw [clearSlot_both s m2 s.disconnectedList] at hown
    rw [List.mem_cons, not_or] at hfd
    have hother : ∀ u, conn.rtsp.rtpInstances u ≠ some rtp := fun u hu =>
      hfd.1 (ho.slotsApart hslot ((congrFun hslots u).trans hu)).1
    refine ih hown hfd.2 ?_ hrest (h.congr fun other u => ?_)
    · rw [slotOf_erase, if_neg hfd.1]
      exact hslot
    · exact (h1.count (hother 1) other u).trans (h0.count (hother 0) other u)

theorem step_listedOnce (ho : Ownership s.slotOf s.media) (hslot : s.slotOf fd t = some rtp)
    (hstays : Stays fd s act) (hstep : s.step act = .ok (s', effects))
    (h : ListedOnce s.media name track rtp) : ListedOnce s'.media name track rtp := by
  by_cases hact : act = .trigger
  · subst hact
    cases step_outcome hstep with
    | ignored => exact h
    | trigger s'' effects destroyed =>
      have hkept := destroyAll_listedOnce ho (hstays rfl) hslot destroyed h
      exact hkept
  · exact change_listedOnce (step_change hact hstep) (ho.slotsLive hslot) h

/-- The packets of its track go to the subscriber. -/
theorem packet_offered {i : RtpInstance} (hlookup : s.media.rtpInstances.lookup rtp = some i)
    (halive : i.isAlive = true) (hlisted : ListedOnce s.media name track rtp) {other : Octets}
    {u : TrackId} {p : MediaPacket} {answers : Nat → WriteAnswer}
    (hstep : s.step (.packet other u p answers) = .ok (s', effects)) :
    offeredTo rtp effects =
      (packetsOf name track [.packet other u p answers]).map fun q =>
        RtpInstance.sending q rtp i := by
  have hcount : offeredTo rtp effects = List.replicate
      ((s.media.trackOf other u).rtpInstances.count rtp)
      (RtpInstance.sending p.toRtpPacket rtp i) := by
    simp only [step] at hstep
    split at hstep
    · rename_i hnone
      cases hstep
      rw [Media.trackOf, hnone]
      rfl
    rename_i session hsession
    split at hstep
    · cases hstep
    rename_i hsent
    cases hstep
    rw [sendPacket_offered hlookup halive hsent, Media.trackOf_of_lookup hsession]
  rw [hcount, packetsOf, List.filterMap_cons, ServerAct.packetOf]
  by_cases hhere : other = name ∧ u = track
  · obtain ⟨rfl, rfl⟩ := hhere
    rw [hlisted.here, if_pos ⟨rfl, rfl⟩]
    rfl
  · rw [List.count_eq_zero.mpr fun hmem => hhere (hlisted.nowhereElse other u hmem), if_neg hhere]
    rfl

theorem step_notSent (hpacket : ∀ other u p answers, act ≠ .packet other u p answers)
    (hstep : s.step act = .ok (s', effects)) : ∀ e ∈ effects, NotSent e := by
  intro e he
  cases step_outcome hstep with
  | ignored => cases he
  | session => cases he
  | sink => cases he
  | multicast other w m effects started =>
    obtain ⟨fd, rfl⟩ := started.all_opened e he
    exact fun _ => rfl
  | accept connfd peer =>
    rw [List.mem_singleton.mp he]
    exact fun _ => rfl
  | read sockfd bytes w conn r reported outcome => exact outcome.notSent e he
  | hangup sockfd conn =>
    rw [List.mem_singleton.mp he]
    exact fun _ => rfl
  | trigger s'' effects destroyed => exact (destroyAll_teardown destroyed e he).notSent
  | packet other u p answers => exact absurd rfl (hpacket other u p answers)

/-- One action sends a subscriber the packet of its track, if it is one. -/
theorem step_offered {i : RtpInstance} (hlookup : s.media.rtpInstances.lookup rtp = some i)
    (halive : i.isAlive = true) (hlisted : ListedOnce s.media name track rtp)
    (hstep : s.step act = .ok (s', effects)) :
    offeredTo rtp effects =
      (packetsOf name track [act]).map fun p => RtpInstance.sending p rtp i := by
  cases act with
  | packet other u p answers => exact packet_offered hlookup halive hlisted hstep
  | _ =>
    rw [offeredTo_notSent (step_notSent (fun _ _ _ _ h => by cases h) hstep)]
    rfl

/-! ## The whole time -/

/-- A playing instance on the list of a track. -/
structure Subscription (s : Server) (fd : Nat) (t : TrackId) (rtp : Nat) (i : RtpInstance)
    (name : Octets) (track : TrackId) : Prop where
  playing : s.Playing fd t rtp i
  listed : ListedOnce s.media name track rtp

/-- The instance is sent the packets of the track in order, each once, and is still
subscribed. -/
structure Served (s : Server) (after : List ServerAct) (fd : Nat) (t : TrackId) (rtp : Nat)
    (i : RtpInstance) (name : Octets) (track : TrackId) : Prop where
  sent : ∀ s' effects, run step s after = .ok (s', effects) →
    offeredTo rtp effects = (packetsOf name track after).map fun p => RtpInstance.sending p rtp i
  still : ∀ s' effects, run step s after = .ok (s', effects) →
    s'.Subscription fd t rtp i name track

theorem run_offered {i : RtpInstance} {acts : List ServerAct} : ∀ {s s' : Server}
    {effects : List Effect}, Ownership s.slotOf s.media → s.Subscription fd t rtp i name track →
      Meets step (Stays fd) s acts → run step s acts = .ok (s', effects) →
        offeredTo rtp effects =
          ((packetsOf name track acts).map fun p => RtpInstance.sending p rtp i) ∧
        s'.Subscription fd t rtp i name track := by
  induction acts with
  | nil =>
    intro s s' effects _ h _ hrun
    cases hrun
    exact ⟨rfl, h⟩
  | cons act acts ih =>
    intro s s' effects ho h hmeets hrun
    obtain ⟨m, first, rest, hstep, hrest, rfl⟩ := run_cons hrun
    have hplaying := step_playing ho h.playing hmeets.1 hstep
    have hlisted := step_listedOnce ho h.playing.slot hmeets.1 hstep h.listed
    have hfirst := step_offered h.playing.lookup h.playing.alive h.listed hstep
    obtain ⟨hlater, hstill⟩ := ih (step_ownership ho hstep) ⟨hplaying, hlisted⟩
      (hmeets.2 m first hstep) hrest
    refine ⟨?_, hstill⟩
    have hsplit : packetsOf name track (act :: acts) =
        packetsOf name track [act] ++ packetsOf name track acts :=
      @List.filterMap_append _ _ [act] acts _
    rw [offeredTo, List.filterMap_append, hsplit, List.map_append]
    exact congrArg₂ (· ++ ·) hfirst hlater

theorem Subscription.served {i : RtpInstance} (h : s.Subscription fd t rtp i name track)
    (ho : Ownership s.slotOf s.media) {after : List ServerAct}
    (hstays : Meets step (Stays fd) s after) : s.Served after fd t rtp i name track :=
  ⟨fun _ _ hrun => (run_offered ho h hstays hrun).1, fun _ _ hrun => (run_offered ho h hstays hrun).2⟩

theorem run_ownership {acts : List ServerAct} (h : run step {} acts = .ok (s, effects)) :
    Ownership s.slotOf s.media :=
  run_invariant (fun s => Ownership s.slotOf s.media)
    (fun _ _ _ _ h _ hstep => step_ownership h hstep) ownership_empty meets_true h

/-- **A subscriber is sent its track and nothing else**, from PLAY until its connection is
destroyed, whatever the other clients do. -/
theorem subscriber_served (before after : List ServerAct) (s : Server) (seen : List Effect)
    (hbefore : run step {} before = .ok (s, seen)) (fd : Nat) (t : TrackId) (rtp : Nat)
    (i : RtpInstance) (name : Octets) (track : TrackId)
    (hsubscribed : s.Subscription fd t rtp i name track)
    (hstays : Meets step (Stays fd) s after) : s.Served after fd t rtp i name track :=
  hsubscribed.served (run_ownership hbefore) hstays

/-- Two packets for a client that plays, and what else happens meanwhile. -/
def sampleStream : List ServerAct :=
  [samplePacketAct (some 4096), .accept 9 { peerIp := ascii "10.0.0.3", sessionId := 78 },
    .hangup 9, .trigger, samplePacketAct (some 2)]

/-- `Stays`, as a test. -/
def stays (fd : Nat) (s : Server) : ServerAct → Bool
  | .trigger => decide (fd ∉ s.disconnectedList)
  | _ => true

theorem stays_test (s : Server) (act : ServerAct) (h : stays fd s act = true) : Stays fd s act := by
  rintro rfl
  exact of_decide_eq_true h

theorem subscriber_served_sample : ∃ s seen i, run step {} samplePlay = .ok (s, seen) ∧
    s.Served sampleStream 7 0 64 i (ascii "a") 0 := by
  obtain ⟨s, seen, hrun, hcheck⟩ := checkRun_true (show checkRun step {} samplePlay
    (fun s _ => decide (s.slotOf 7 0 = some 64) &&
      ((s.media.rtpInstances.lookup 64).map RtpInstance.isAlive == some true) &&
      decide ((s.media.trackOf (ascii "a") 0).rtpInstances.count 64 = 1) &&
      decide (∀ name ∈ s.media.sessions.keys, ∀ t, 64 ∈ (s.media.trackOf name t).rtpInstances →
        name = ascii "a" ∧ t = 0) &&
      checkMeets step (stays 7) s sampleStream) = true by decide +kernel)
  simp only [Bool.and_eq_true, decide_eq_true_eq, beq_iff_eq, Option.map_eq_some_iff] at hcheck
  obtain ⟨⟨⟨⟨hslot, i, hi, halive⟩, hhere⟩, helse⟩, hstays⟩ := hcheck
  exact ⟨s, seen, i, hrun, subscriber_served samplePlay sampleStream s seen hrun 7 0 64 i
    (ascii "a") 0 ⟨⟨hslot, hi, halive⟩, listedOnce_of_keys hhere helse⟩
    (meets_of_checkMeets stays_test hstays)⟩

end Server
end MyRtspServer.Net
