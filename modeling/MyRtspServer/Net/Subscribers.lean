import MyRtspServer.Net.Ownership

/-!
# Dangling subscribers

SETUP puts an instance into the session its URL names; `~RtspConnection` takes it
out of `m_session_`, which only DESCRIBE writes. As long as these are the same
session whenever a connection is destroyed, every pointer in a track list is
owned. When they differ, the list keeps a pointer to a deleted instance.
-/
namespace MyRtspServer.Net

open Library Library.Octets Library.Transition

/-- The pointers of all track lists are owned, by a slot or by the session
itself; no list has one twice, and no dead track has any. -/
structure Subscribed (slots : Slots) (m : Media) : Prop where
  owned : ∀ {name t a}, a ∈ (m.trackOf name t).rtpInstances →
    (∃ fd t', slots fd t' = some a) ∨ ∃ t', m.multicastOf name t' = some a
  nodup : ∀ name t, (m.trackOf name t).rtpInstances.Nodup
  apart : ∀ {name a}, a ∈ (m.trackOf name 0).rtpInstances → a ∉ (m.trackOf name 1).rtpInstances
  alive : ∀ {name t}, (m.trackOf name t).rtpInstances ≠ [] → (m.trackOf name t).isAlive = true

theorem subscribed_empty : Subscribed (Server.slotOf {}) {} := by
  constructor
  · intro name t a h
    cases h
  · intro name t
    exact List.nodup_nil
  · intro name a h
    cases h
  · intro name t h
    exact absurd rfl h

theorem enlist_mem {t : Track} {a b : Nat} :
    b ∈ (t.enlist a).rtpInstances ↔ b ∈ t.rtpInstances ∨ (t.isAlive = true ∧ b = a) := by
  unfold Track.enlist
  split
  · rename_i h
    simp [h]
  · rename_i h
    simp [h]

theorem enlist_isAlive (t : Track) (a : Nat) : (t.enlist a).isAlive = t.isAlive := by
  unfold Track.enlist
  split <;> rfl

theorem enlist_nodup {t : Track} {a : Nat} (h : t.rtpInstances.Nodup) (ha : a ∉ t.rtpInstances) :
    (t.enlist a).rtpInstances.Nodup := by
  unfold Track.enlist
  split
  · exact List.nodup_append.mpr ⟨h, List.nodup_singleton a, fun b hb c hc => by
      rw [List.mem_singleton] at hc
      rintro rfl
      exact ha (hc ▸ hb)⟩
  · exact h

namespace Subscribed

/-- What is listed is live. -/
theorem live {slots : Slots} {m : Media} (h : Subscribed slots m) (ho : Ownership slots m)
    {name : Octets} {t : TrackId} {a : Nat} (ha : a ∈ (m.trackOf name t).rtpInstances) :
    a ∈ m.rtpInstances := by
  rcases h.owned ha with ⟨fd, t', hs⟩ | ⟨t', hm⟩
  · exact ho.slotsLive hs
  · exact ho.multicastLive hm

theorem same {slots : Slots} {m m' : Media} (h : Subscribed slots m)
    (htracks : m'.trackOf = m.trackOf) (hmulticast : m'.multicastOf = m.multicastOf) :
    Subscribed slots m' := by
  constructor
  · rw [htracks, hmulticast]
    exact h.owned
  · rw [htracks]
    exact h.nodup
  · rw [htracks]
    exact h.apart
  · rw [htracks]
    exact h.alive

/-- A session gets instances that are in use nowhere, at most one on each track. -/
theorem enlist {slots slots' : Slots} {m m' : Media} (h : Subscribed slots m)
    (ho : Ownership slots m) (new : Octets → TrackId → Option Nat)
    (hfresh : ∀ {name t a}, new name t = some a → a ∉ m.rtpInstances)
    (hnew : ∀ {name t a}, new name t = some a →
      (∃ fd t', slots' fd t' = some a) ∨ ∃ t', m'.multicastOf name t' = some a)
    (hapart : ∀ {name a}, new name 0 = some a → new name 1 ≠ some a)
    (hslots : ∀ {fd t a}, slots fd t = some a → slots' fd t = some a)
    (hmulticast : ∀ {name t a}, m.multicastOf name t = some a → m'.multicastOf name t = some a)
    (htracks : ∀ name t, m'.trackOf name t = match new name t with
      | some a => (m.trackOf name t).enlist a
      | none => m.trackOf name t) : Subscribed slots' m' := by
  have hcases : ∀ {name t a}, a ∈ (m'.trackOf name t).rtpInstances →
      a ∈ (m.trackOf name t).rtpInstances ∨ new name t = some a := by
    intro name t a ha
    rw [htracks] at ha
    split at ha
    · rename_i b hb
      rcases enlist_mem.mp ha with hold | ⟨-, rfl⟩
      · exact Or.inl hold
      · exact Or.inr hb
    · exact Or.inl ha
  have hout : ∀ {name t a name' t'}, new name t = some a →
      a ∉ (m.trackOf name' t').rtpInstances := fun hn hl => hfresh hn (h.live ho hl)
  constructor
  · intro name t a ha
    rcases hcases ha with hold | hn
    · rcases h.owned hold with ⟨fd, t', hs⟩ | ⟨t', hm⟩
      · exact Or.inl ⟨fd, t', hslots hs⟩
      · exact Or.inr ⟨t', hmulticast hm⟩
    · exact hnew hn
  · intro name t
    rw [htracks]
    split
    · rename_i a ha
      exact enlist_nodup (h.nodup name t) (hout ha)
    · exact h.nodup name t
  · intro name a h0 h1
    rcases hcases h0 with hold | hn
    · rcases hcases h1 with hold' | hn'
      · exact h.apart hold hold'
      · exact hout hn' hold
    · rcases hcases h1 with hold' | hn'
      · exact hout hn hold'
      · exact hapart hn hn'
  · intro name t hne
    rw [htracks] at hne ⊢
    split at hne
    · rename_i a ha
      rw [enlist_isAlive]
      by_contra hdead
      simp only [Track.enlist, hdead] at hne
      exact hdead (h.alive hne)
    · exact h.alive hne

section Change

variable {slots slots' : Slots} {m m' : Media} {name : Octets}

/-- SETUP lists the instance of its new slot. -/
theorem setup {sockfd rtp : Nat} {track : TrackId} (h : Subscribed slots m) (ho : Ownership slots m)
    (hfree : slots sockfd track = none) (hfresh : rtp ∉ m.rtpInstances)
    (hslots : ∀ fd t, slots' fd t = if fd = sockfd ∧ t = track then some rtp else slots fd t)
    (htracks : ∀ other t, m'.trackOf other t =
      if other = name ∧ t = track then (m.trackOf name track).enlist rtp else m.trackOf other t)
    (hmulticast : m'.multicastOf = m.multicastOf) : Subscribed slots' m' := by
  refine h.enlist ho (fun other t => if other = name ∧ t = track then some rtp else none)
    ?_ ?_ ?_ ?_ ?_ ?_
  · intro other t a ha
    split at ha
    · cases ha
      exact hfresh
    · cases ha
  · intro other t a ha
    split at ha
    · cases ha
      exact Or.inl ⟨sockfd, track, by rw [hslots, if_pos ⟨rfl, rfl⟩]⟩
    · cases ha
  · intro other a h0 h1
    split at h0
    · split at h1
      · rename_i heq heq'
        have := heq.2.trans heq'.2.symm
        cases this
      · cases h1
    · cases h0
  · intro fd t a hs
    rw [hslots]
    split
    · rename_i heq
      rw [heq.1, heq.2, hfree] at hs
      cases hs
    · exact hs
  · intro other t a hm
    rw [hmulticast]
    exact hm
  · intro other t
    rw [htracks]
    by_cases heq : other = name ∧ t = track
    · obtain ⟨rfl, rfl⟩ := heq
      simp
    · simp [heq]

/-- A new sink leaves the lists alone. -/
theorem sink (h : Subscribed slots m)
    (hlists : ∀ name t, (m'.trackOf name t).rtpInstances = (m.trackOf name t).rtpInstances)
    (halive : ∀ name t, (m.trackOf name t).isAlive = true → (m'.trackOf name t).isAlive = true)
    (hmulticast : m'.multicastOf = m.multicastOf) : Subscribed slots m' := by
  constructor
  · intro name t a ha
    rw [hmulticast]
    exact h.owned (hlists name t ▸ ha)
  · intro name t
    rw [hlists]
    exact h.nodup name t
  · intro name a h0 h1
    rw [hlists] at h0 h1
    exact h.apart h0 h1
  · intro name t hne
    rw [hlists] at hne
    exact halive name t (h.alive hne)

/-- `StartMulticast` lists the instances of the new group. -/
theorem multicast {rtp : TrackId → Nat} (h : Subscribed slots m) (ho : Ownership slots m)
    (hnone : ∀ t, m.multicastOf name t = none) (hfresh : ∀ t, rtp t ∉ m.rtpInstances)
    (hapart : rtp 0 ≠ rtp 1)
    (htracks : ∀ other t, m'.trackOf other t =
      if other = name then (m.trackOf name t).enlist (rtp t) else m.trackOf other t)
    (hmulticasts : ∀ other t, m'.multicastOf other t =
      if other = name then some (rtp t) else m.multicastOf other t) : Subscribed slots m' := by
  refine h.enlist ho (fun other t => if other = name then some (rtp t) else none) ?_ ?_ ?_ ?_ ?_ ?_
  · intro other t a ha
    split at ha
    · cases ha
      exact hfresh t
    · cases ha
  · intro other t a ha
    split at ha
    · rename_i heq
      exact Or.inr ⟨t, by rw [hmulticasts, if_pos heq, ha]⟩
    · cases ha
  · intro other a h0 h1
    split at h0
    · rw [if_pos ‹_›] at h1
      cases h0
      exact hapart (Option.some.inj h1).symm
    · cases h0
  · exact fun hs => hs
  · intro other t a hm
    rw [hmulticasts]
    split
    · rename_i heq
      rw [heq, hnone] at hm
      cases hm
    · exact hm
  · intro other t
    rw [htracks]
    by_cases heq : other = name
    · subst heq
      simp
    · simp [heq]

end Change

theorem change {s s' : Server} (h : Subscribed s.slotOf s.media) (ho : Ownership s.slotOf s.media)
    (hc : Server.Change s s') : Subscribed s'.slotOf s'.media := by
  cases hc with
  | still slots heap tracks multicast =>
    rw [slots]
    exact h.same tracks multicast
  | setup sockfd track rtp i name free fresh slots heap tracks multicast =>
    exact h.setup ho free fresh slots tracks multicast
  | play slots heap tracks multicast =>
    rw [slots]
    exact h.same tracks multicast
  | sink slots heap lists alive multicast =>
    rw [slots]
    exact h.sink lists alive multicast
  | multicast name rtp i0 i1 none_ fresh apart slots heap tracks multicasts =>
    rw [slots]
    exact h.multicast ho none_ fresh apart tracks multicasts

end Subscribed

/-! ## Destruction -/

theorem removeRtpInstance_sublist (s : MediaSession) (rtp : Nat) (track : TrackId) :
    ((s.removeRtpInstance rtp).tracks track).rtpInstances.Sublist (s.tracks track).rtpInstances ∧
      ((s.removeRtpInstance rtp).tracks track).isAlive = (s.tracks track).isAlive := by
  unfold MediaSession.removeRtpInstance MediaSession.setRtpInstances
  rcases trackId_cases track with rfl | rfl <;> split
  · exact ⟨List.erase_sublist, rfl⟩
  · split <;> exact ⟨List.Sublist.refl _, rfl⟩
  · exact ⟨List.Sublist.refl _, rfl⟩
  · split
    · exact ⟨List.erase_sublist, rfl⟩
    · exact ⟨List.Sublist.refl _, rfl⟩

/-- An instance that is at most once in a session is gone from it afterwards. -/
theorem removeRtpInstance_gone {s : MediaSession} {rtp : Nat}
    (hnodup : ∀ t, (s.tracks t).rtpInstances.Nodup)
    (hapart : rtp ∈ (s.tracks 0).rtpInstances → rtp ∉ (s.tracks 1).rtpInstances)
    (halive : ∀ t, (s.tracks t).rtpInstances ≠ [] → (s.tracks t).isAlive = true)
    (track : TrackId) : rtp ∉ ((s.removeRtpInstance rtp).tracks track).rtpInstances := by
  have hlive : ∀ t, rtp ∈ (s.tracks t).rtpInstances → (s.tracks t).isAlive = true :=
    fun t hm => halive t (List.ne_nil_of_mem hm)
  unfold MediaSession.removeRtpInstance MediaSession.setRtpInstances
  by_cases h0 : rtp ∈ (s.tracks 0).rtpInstances
  · rw [if_pos ⟨hlive 0 h0, h0⟩]
    rcases trackId_cases track with rfl | rfl
    · exact (hnodup 0).not_mem_erase
    · exact hapart h0
  · rw [if_neg fun h => h0 h.2]
    by_cases h1 : rtp ∈ (s.tracks 1).rtpInstances
    · rw [if_pos ⟨hlive 1 h1, h1⟩]
      rcases trackId_cases track with rfl | rfl
      · exact h0
      · exact (hnodup 1).not_mem_erase
    · rw [if_neg fun h => h1 h.2]
      rcases trackId_cases track with rfl | rfl
      · exact h0
      · exact h1

/-- Every session that lists an instance of the connection is its `m_session_`. -/
def SafeToDestroy (m : Media) (c : RtspConnection) : Prop :=
  ∀ t a, c.rtpInstances t = some a → ∀ name t', a ∈ (m.trackOf name t').rtpInstances →
    c.session = some name

namespace TrackDestroyed

variable {m m' : Media} {c : RtspConnection} {track : TrackId}

/-- Destruction only takes pointers away. -/
theorem tracks (h : TrackDestroyed m c track m') (name : Octets) (t : TrackId) :
    (m'.trackOf name t).rtpInstances.Sublist (m.trackOf name t).rtpInstances ∧
      (m'.trackOf name t).isAlive = (m.trackOf name t).isAlive := by
  cases h with
  | empty slot same =>
    rw [same]
    exact ⟨List.Sublist.refl _, rfl⟩
  | deleted rtp described session slot hsession registered media =>
    have hview : m'.trackOf name t =
        if name = described then (session.removeRtpInstance rtp).tracks t else m.trackOf name t := by
      rw [media]
      exact Media.trackOf_setSession m described name _ t
    rw [hview]
    split
    · rename_i heq
      rw [heq, Media.trackOf_of_lookup registered]
      exact removeRtpInstance_sublist session rtp t
    · exact ⟨List.Sublist.refl _, rfl⟩

theorem safe {c' : RtspConnection} (h : TrackDestroyed m c track m') (hs : SafeToDestroy m c') :
    SafeToDestroy m' c' :=
  fun t a hslot name t' ha => hs t a hslot name t' ((h.tracks name t').1.subset ha)

/-- The deleted instance is in no list any more. -/
theorem gone {slots : Slots} (h : TrackDestroyed m c track m') (hsub : Subscribed slots m)
    (hsafe : SafeToDestroy m c) {rtp : Nat} (hslot : c.rtpInstances track = some rtp)
    (name : Octets) (t : TrackId) : rtp ∉ (m'.trackOf name t).rtpInstances := by
  intro ha
  have hold := (h.tracks name t).1.subset ha
  cases h with
  | empty slot same =>
    rw [hslot] at slot
    cases slot
  | deleted other described session slot hsession registered media =>
    rw [hslot] at slot
    cases slot
    obtain rfl : described = name :=
      Option.some.inj (hsession.symm.trans (hsafe track rtp hslot name t hold))
    have hview : ∀ u, m.trackOf described u = session.tracks u :=
      congrFun (Media.trackOf_of_lookup registered)
    rw [media] at ha
    have hin : rtp ∈ ((session.removeRtpInstance rtp).tracks t).rtpInstances := by
      have := Media.trackOf_setSession m described described (session.removeRtpInstance rtp) t
      rw [if_pos rfl] at this
      exact this ▸ ha
    refine removeRtpInstance_gone (fun u => hview u ▸ hsub.nodup described u) ?_
      (fun u => hview u ▸ hsub.alive) t hin
    intro h0 h1
    exact hsub.apart (hview 0 ▸ h0) (hview 1 ▸ h1)

theorem subscribed {slots : Slots} {sockfd : Nat} (h : TrackDestroyed m c track m')
    (hsub : Subscribed slots m) (hsafe : SafeToDestroy m c)
    (hslot : slots sockfd track = c.rtpInstances track) :
    Subscribed (clearSlot slots sockfd track) m' := by
  constructor
  · intro name t a ha
    rw [h.multicast]
    rcases hsub.owned ((h.tracks name t).1.subset ha) with ⟨fd, t', hs⟩ | hm
    · refine Or.inl ⟨fd, t', ?_⟩
      unfold clearSlot
      rw [if_neg]
      · exact hs
      · rintro ⟨rfl, rfl⟩
        exact h.gone hsub hsafe (hslot.symm.trans hs) name t ha
    · exact Or.inr hm
  · exact fun name t => (hsub.nodup name t).sublist (h.tracks name t).1
  · exact fun h0 h1 => hsub.apart ((h.tracks _ 0).1.subset h0) ((h.tracks _ 1).1.subset h1)
  · intro name t hne
    rw [(h.tracks name t).2]
    refine hsub.alive fun hnil => hne ?_
    have hsublist := (h.tracks name t).1
    rw [hnil] at hsublist
    exact List.sublist_nil.mp hsublist

end TrackDestroyed

/-! ## Runs -/

/-- Whenever connections are destroyed, each can be. -/
def SafeTrigger (s : Server) : ServerAct → Prop
  | .trigger => ∀ fd ∈ s.disconnectedList, ∀ conn, s.connections.lookup fd = some conn →
      SafeToDestroy s.media conn.rtsp
  | _ => True

/-- Every pointer in a track list is owned by a slot of a connection that has not
been destroyed, or by the session itself, and the instance has not been deleted. -/
def NoDangling (s : Server) : Prop :=
  ∀ name t a, a ∈ (s.media.trackOf name t).rtpInstances →
    ((∃ fd t', s.slotOf fd t' = some a) ∨ ∃ t', s.media.multicastOf name t' = some a) ∧
      a ∈ s.media.rtpInstances

namespace Server

theorem destroyAll_subscribed {fds : List Nat} : ∀ {s s' : Server} {effects : List Effect},
    Ownership s.slotOf s.media → Subscribed s.slotOf s.media →
    (∀ fd ∈ fds, ∀ conn, s.connections.lookup fd = some conn → SafeToDestroy s.media conn.rtsp) →
    s.destroyAll fds = .ok (s', effects) → Subscribed s'.slotOf s'.media := by
  induction fds with
  | nil =>
    intro s s' effects _ h _ hd
    cases hd
    exact h
  | cons sockfd rest ih =>
    intro s s' effects ho h hsafe hd
    obtain ⟨conn, m1, m2, first, later, hconn, h0, h1, hrest, -, -⟩ := destroyAll_cons hd
    have hslots := slotOf_of_lookup hconn
    have hsafe0 := hsafe sockfd List.mem_cons_self conn hconn
    have hslot0 := congrFun hslots 0
    have hslot1 := (clearSlot_other s.slotOf sockfd).trans (congrFun hslots 1)
    have hown := h1.ownership (h0.ownership ho hslot0) hslot1
    have hsub := h1.subscribed (h0.subscribed h hsafe0 hslot0) (h0.safe hsafe0) hslot1
    rw [clearSlot_both s m2 s.disconnectedList] at hown hsub
    refine ih hown hsub (fun fd hfd other hother => ?_) hrest
    by_cases heq : fd = sockfd
    · subst heq
      rw [AList.lookup_erase] at hother
      cases hother
    · rw [AList.lookup_erase_ne heq] at hother
      exact h1.safe (h0.safe (hsafe fd (List.mem_cons_of_mem _ hfd) other hother))

theorem step_subscribed {s s' : Server} {act : ServerAct} {effects : List Effect}
    (ho : Ownership s.slotOf s.media) (h : Subscribed s.slotOf s.media)
    (hsafe : SafeTrigger s act) (hstep : s.step act = .ok (s', effects)) :
    Subscribed s'.slotOf s'.media := by
  by_cases hact : act = .trigger
  · subst hact
    cases step_outcome hstep with
    | ignored => exact h
    | trigger s'' effects destroyed =>
      have hsub := destroyAll_subscribed ho h hsafe destroyed
      exact hsub
  · exact h.change ho (step_change hact hstep)

/-- **The run lemma** of the two invariants. -/
theorem run_subscribed {acts : List ServerAct} {s : Server} {effects : List Effect}
    (hsafe : Meets step SafeTrigger {} acts) (hrun : run step {} acts = .ok (s, effects)) :
    Ownership s.slotOf s.media ∧ Subscribed s.slotOf s.media :=
  run_invariant (fun s => Ownership s.slotOf s.media ∧ Subscribed s.slotOf s.media)
    (fun _ _ _ _ h hok hstep => ⟨step_ownership h.1 hstep, step_subscribed h.1 h.2 hok hstep⟩)
    ⟨ownership_empty, subscribed_empty⟩ hsafe hrun

/-- **No dangling subscriber** in any run whose connections are destroyed while
the session that lists their instances is the one they described last. -/
theorem no_dangling (acts : List ServerAct) (hsafe : Meets step SafeTrigger {} acts) (s : Server)
    (effects : List Effect) (hrun : run step {} acts = .ok (s, effects)) : NoDangling s := by
  obtain ⟨ho, hsub⟩ := run_subscribed hsafe hrun
  exact fun name t a ha => ⟨hsub.owned ha, hsub.live ho ha⟩

/-- Only names of registered sessions have to be looked at. -/
theorem safeToDestroy_of_keys {m : Media} {c : RtspConnection}
    (h : ∀ t, ∀ a ∈ c.rtpInstances t, ∀ name ∈ m.sessions.keys, ∀ t',
      a ∈ (m.trackOf name t').rtpInstances → c.session = some name) : SafeToDestroy m c := by
  intro t a hslot name t' ha
  refine h t a hslot name ?_ t' ha
  by_contra hno
  have hnone : m.sessions.lookup name = none := AList.lookup_eq_none.mpr hno
  simp [Media.trackOf, hnone] at ha

/-- `SafeTrigger`, as a test. -/
def safeTrigger (s : Server) : ServerAct → Bool
  | .trigger => s.disconnectedList.all fun fd =>
      match s.connections.lookup fd with
      | none => true
      | some conn => decide (∀ t, ∀ a ∈ conn.rtsp.rtpInstances t, ∀ name ∈ s.media.sessions.keys,
          ∀ t', a ∈ (s.media.trackOf name t').rtpInstances → conn.rtsp.session = some name)
  | _ => true

theorem safeTrigger_test (s : Server) (act : ServerAct) (h : safeTrigger s act = true) :
    SafeTrigger s act := by
  cases act with
  | trigger =>
    intro fd hfd conn hconn
    have hconn' := List.all_eq_true.mp h fd hfd
    rw [hconn] at hconn'
    exact safeToDestroy_of_keys (of_decide_eq_true hconn')
  | _ => trivial

/-- A client of one session: described, set up over TCP, and gone. -/
def faithfulClient : List ServerAct :=
  sampleSession "a" ++
    [sampleConnect, sampleRequest "DESCRIBE rtsp://h/a" "Accept: application/sdp\r\n",
      sampleRequest "SETUP rtsp://h/a/track0" "Transport: RTP/AVP/TCP;unicast;interleaved=0-1\r\n",
      .hangup 7, .trigger]

theorem no_dangling_sample :
    ∃ s effects, run step {} faithfulClient = .ok (s, effects) ∧ NoDangling s := by
  have hmeets : Meets step SafeTrigger {} faithfulClient :=
    meets_of_checkMeets safeTrigger_test (by decide +kernel)
  obtain ⟨s, effects, hrun, -⟩ := checkRun_true
    (show checkRun step {} faithfulClient (fun _ _ => true) = true by decide +kernel)
  exact ⟨s, effects, hrun, no_dangling _ hmeets s effects hrun⟩

/-- The same client, but with a DESCRIBE of another session before it goes. -/
def fickleClient : List ServerAct :=
  sampleSession "b" ++ sampleSession "a" ++
    [sampleConnect, sampleRequest "DESCRIBE rtsp://h/a" "Accept: application/sdp\r\n",
      sampleRequest "SETUP rtsp://h/a/track0" "Transport: RTP/AVP/TCP;unicast;interleaved=0-1\r\n",
      sampleRequest "DESCRIBE rtsp://h/b" "Accept: application/sdp\r\n", .hangup 7, .trigger]

theorem described_elsewhere_dangles :
    ∃ s effects, run step {} fickleClient = .ok (s, effects) ∧ ¬ NoDangling s := by
  obtain ⟨s, effects, hrun, hcheck⟩ := checkRun_true
    (show checkRun step {} fickleClient (fun s _ =>
      decide (64 ∈ (s.media.trackOf (ascii "a") 0).rtpInstances ∧ 64 ∉ s.media.rtpInstances)) =
        true by decide +kernel)
  have hdangling := of_decide_eq_true hcheck
  exact ⟨s, effects, hrun, fun h => hdangling.2 (h (ascii "a") 0 64 hdangling.1).2⟩

end Server
end MyRtspServer.Net
