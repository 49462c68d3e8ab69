import MyRtspServer.Net.ServerSteps

/-!
# Who owns an `RtpInstance`

Each instance in a slot is live and in no other slot, and no connection owns a
multicast instance. This holds whatever the clients do: `new` never returns an
address in use, and a destroyed connection deletes what it owns and nothing else.
-/
namespace MyRtspServer.Net

open Library Library.Octets Library.Transition

/-- The slots of all connections. -/
abbrev Slots := Nat → TrackId → Option Nat

/-- The slots without one of them. -/
def clearSlot (slots : Slots) (sockfd : Nat) (track : TrackId) : Slots :=
  fun fd t => if fd = sockfd ∧ t = track then none else slots fd t

theorem clearSlot_some {slots : Slots} {sockfd fd a : Nat} {track t : TrackId}
    (h : clearSlot slots sockfd track fd t = some a) :
    slots fd t = some a ∧ ¬ (fd = sockfd ∧ t = track) := by
  unfold clearSlot at h
  split at h
  · cases h
  · exact ⟨h, ‹_›⟩

theorem clearSlot_both (s : Server) (m : Media) (list : List Nat) (sockfd : Nat) :
    clearSlot (clearSlot s.slotOf sockfd 0) sockfd 1 =
      Server.slotOf ⟨m, s.connections.erase sockfd, list⟩ := by
  funext fd t
  rw [Server.slotOf_erase]
  by_cases hfd : fd = sockfd
  · subst hfd
    rcases trackId_cases t with rfl | rfl <;> simp [clearSlot]
  · simp [clearSlot, hfd]

structure Ownership (slots : Slots) (m : Media) : Prop where
  slotsLive : ∀ {fd t a}, slots fd t = some a → a ∈ m.rtpInstances
  slotsApart : ∀ {fd t fd' t' a}, slots fd t = some a → slots fd' t' = some a → fd = fd' ∧ t = t'
  multicastLive : ∀ {name t a}, m.multicastOf name t = some a → a ∈ m.rtpInstances
  multicastApart : ∀ {fd t a name t'}, slots fd t = some a → m.multicastOf name t' ≠ some a

theorem ownership_empty : Ownership (Server.slotOf {}) {} := by
  constructor
  · intro fd t a h
    cases h
  · intro fd t fd' t' a h
    cases h
  · intro name t a h
    cases h
  · intro fd t a name t' h
    cases h

namespace Ownership

/-- Slots and multicast instances stay where they are and the heap keeps them. -/
theorem mono {slots : Slots} {m m' : Media} (h : Ownership slots m)
    (hheap : ∀ a, a ∈ m.rtpInstances → a ∈ m'.rtpInstances)
    (hmulticast : m'.multicastOf = m.multicastOf) : Ownership slots m' where
  slotsLive hs := hheap _ (h.slotsLive hs)
  slotsApart := h.slotsApart
  multicastLive hm := hheap _ (h.multicastLive (hmulticast ▸ hm))
  multicastApart hs := hmulticast ▸ h.multicastApart hs

/-- A slot gets a new instance. -/
theorem setup {slots slots' : Slots} {m m' : Media} (h : Ownership slots m) {sockfd rtp : Nat}
    {track : TrackId} {i : RtpInstance} (hfresh : rtp ∉ m.rtpInstances)
    (hslots : ∀ fd t, slots' fd t = if fd = sockfd ∧ t = track then some rtp else slots fd t)
    (hheap : m'.rtpInstances = m.rtpInstances.insert rtp i)
    (hmulticast : m'.multicastOf = m.multicastOf) : Ownership slots' m' := by
  have hlive : ∀ a, a ∈ m.rtpInstances → a ∈ m'.rtpInstances ∧ a ≠ rtp := by
    intro a ha
    rw [hheap, AList.mem_insert]
    exact ⟨Or.inr ha, fun heq => hfresh (heq ▸ ha)⟩
  have hnew : rtp ∈ m'.rtpInstances := by
    rw [hheap, AList.mem_insert]
    exact Or.inl rfl
  have hcases : ∀ {fd t a}, slots' fd t = some a →
      ((fd = sockfd ∧ t = track) ∧ a = rtp) ∨ slots fd t = some a := by
    intro fd t a hs
    rw [hslots] at hs
    split at hs
    · exact Or.inl ⟨‹_›, (Option.some.inj hs).symm⟩
    · exact Or.inr hs
  constructor
  · intro fd t a hs
    rcases hcases hs with ⟨-, rfl⟩ | hold
    · exact hnew
    · exact (hlive a (h.slotsLive hold)).1
  · intro fd t fd' t' a hs hs'
    rcases hcases hs with ⟨⟨rfl, rfl⟩, rfl⟩ | hold
    · rcases hcases hs' with ⟨⟨rfl, rfl⟩, -⟩ | hold'
      · exact ⟨rfl, rfl⟩
      · exact absurd rfl (hlive _ (h.slotsLive hold')).2
    · rcases hcases hs' with ⟨-, rfl⟩ | hold'
      · exact absurd rfl (hlive _ (h.slotsLive hold)).2
      · exact h.slotsApart hold hold'
  · intro name t a hm
    exact (hlive a (h.multicastLive (hmulticast ▸ hm))).1
  · intro fd t a name t' hs hm
    rw [hmulticast] at hm
    rcases hcases hs with ⟨-, rfl⟩ | hold
    · exact hfresh (h.multicastLive hm)
    · exact h.multicastApart hold hm

/-- A session gets two new multicast instances. -/
theorem multicast {slots : Slots} {m m' : Media} (h : Ownership slots m) {name : Octets}
    {rtp : TrackId → Nat} (hfresh : ∀ t, rtp t ∉ m.rtpInstances)
    (hheap : ∀ a, a ∈ m'.rtpInstances ↔ (∃ t, a = rtp t) ∨ a ∈ m.rtpInstances)
    (hmulticasts : ∀ other t, m'.multicastOf other t =
      if other = name then some (rtp t) else m.multicastOf other t) : Ownership slots m' := by
  have hcases : ∀ {other t a}, m'.multicastOf other t = some a →
      (∃ t, a = rtp t) ∨ m.multicastOf other t = some a := by
    intro other t a hm
    rw [hmulticasts] at hm
    split at hm
    · exact Or.inl ⟨t, (Option.some.inj hm).symm⟩
    · exact Or.inr hm
  constructor
  · exact fun hs => (hheap _).mpr (Or.inr (h.slotsLive hs))
  · exact h.slotsApart
  · intro other t a hm
    exact (hheap a).mpr ((hcases hm).imp_right h.multicastLive)
  · intro fd t a other t' hs hm
    rcases hcases hm with ⟨u, rfl⟩ | hold
    · exact hfresh u (h.slotsLive hs)
    · exact h.multicastApart hs hold

theorem change {s s' : Server} (h : Ownership s.slotOf s.media) (hc : Server.Change s s') :
    Ownership s'.slotOf s'.media := by
  cases hc with
  | still slots heap tracks multicast =>
    rw [slots]
    exact h.mono (fun a ha => heap ▸ ha) multicast
  | setup sockfd track rtp i name free fresh slots heap tracks multicast =>
    exact h.setup fresh slots heap multicast
  | play slots heap tracks multicast =>
    rw [slots]
    exact h.mono (fun a ha => (heap a).mpr ha) multicast
  | sink slots heap lists alive multicast =>
    rw [slots]
    exact h.mono (fun a ha => heap ▸ ha) multicast
  | multicast name rtp i0 i1 none_ fresh apart slots heap tracks multicasts =>
    rw [slots]
    refine h.multicast fresh (fun a => ?_) multicasts
    rw [heap, AList.mem_insert, AList.mem_insert]
    constructor
    · rintro (rfl | rfl | ha)
      · exact Or.inl ⟨1, rfl⟩
      · exact Or.inl ⟨0, rfl⟩
      · exact Or.inr ha
    · rintro (⟨t, rfl⟩ | ha)
      · rcases trackId_cases t with rfl | rfl
        · exact Or.inr (Or.inl rfl)
        · exact Or.inl rfl
      · exact Or.inr (Or.inr ha)

/-- A slot is emptied and its instance deleted. -/
theorem clear {slots : Slots} {m m' : Media} (h : Ownership slots m) {sockfd rtp : Nat}
    {track : TrackId} (hslot : slots sockfd track = some rtp)
    (hheap : m'.rtpInstances = m.rtpInstances.erase rtp)
    (hmulticast : m'.multicastOf = m.multicastOf) :
    Ownership (clearSlot slots sockfd track) m' := by
  have hkept : ∀ a, a ∈ m.rtpInstances → a ≠ rtp → a ∈ m'.rtpInstances := by
    intro a ha hne
    rw [hheap, AList.mem_erase]
    exact ⟨hne, ha⟩
  constructor
  · intro fd t a hs
    obtain ⟨hs, hother⟩ := clearSlot_some hs
    refine hkept a (h.slotsLive hs) ?_
    rintro rfl
    exact hother (h.slotsApart hs hslot)
  · intro fd t fd' t' a hs hs'
    exact h.slotsApart (clearSlot_some hs).1 (clearSlot_some hs').1
  · intro name t a hm
    rw [hmulticast] at hm
    refine hkept a (h.multicastLive hm) ?_
    rintro rfl
    exact h.multicastApart hslot hm
  · intro fd t a name t' hs
    rw [hmulticast]
    exact h.multicastApart (clearSlot_some hs).1

/-- An empty slot can be emptied. -/
theorem clear_empty {slots : Slots} {m : Media} (h : Ownership slots m) {sockfd : Nat}
    {track : TrackId} : slots sockfd track = none → Ownership (clearSlot slots sockfd track) m := by
  intro hslot
  have hsame : clearSlot slots sockfd track = slots := by
    funext fd t
    unfold clearSlot
    split
    · rename_i heq
      rw [heq.1, heq.2, hslot]
    · rfl
  rw [hsame]
  exact h

end Ownership

/-! ## Destruction -/

/-- What `~RtspConnection` does for one track. -/
inductive TrackDestroyed (m : Media) (c : RtspConnection) (track : TrackId) (m' : Media) : Prop
  | empty (slot : c.rtpInstances track = none) (same : m' = m)
  | deleted (rtp : Nat) (name : Octets) (session : MediaSession)
      (slot : c.rtpInstances track = some rtp) (described : c.session = some name)
      (registered : m.sessions.lookup name = some session)
      (media : m' = { (m.setSession name (session.removeRtpInstance rtp)) with
        rtpInstances := m.rtpInstances.erase rtp })

theorem destroyTrack_destroyed {m m' : Media} {c : RtspConnection} {track : TrackId}
    {effects : List Effect} (h : c.destroyTrack m track = .ok (m', effects)) :
    TrackDestroyed m c track m' := by
  unfold RtspConnection.destroyTrack at h
  dsimp only at h
  split at h
  · cases h
    exact .empty ‹_› rfl
  rename_i rtp hslot
  split at h
  · cases h
  rename_i name hname
  split at h
  · cases h
  rename_i session hsession
  unfold Media.deleteRtpInstance at h
  split at h
  · cases h
  rename_i m'' effects' hdelete
  cases h
  split at hdelete
  · cases hdelete
  · cases hdelete
    exact .deleted rtp name session hslot hname hsession rfl

@[simp] theorem removeRtpInstance_multicast (s : MediaSession) (rtp : Nat) :
    (s.removeRtpInstance rtp).multicast = s.multicast := by
  unfold MediaSession.removeRtpInstance MediaSession.setRtpInstances
  split
  · rfl
  · split <;> rfl

theorem TrackDestroyed.multicast {m m' : Media} {c : RtspConnection} {track : TrackId}
    (h : TrackDestroyed m c track m') : m'.multicastOf = m.multicastOf := by
  cases h with
  | empty slot same => rw [same]
  | deleted rtp name session slot described registered media =>
    rw [media]
    exact Media.multicastOf_setSession_same registered (removeRtpInstance_multicast session rtp)

/-- An instance that is not in the slot stays as it is. -/
theorem TrackDestroyed.lookup {m m' : Media} {c : RtspConnection} {track : TrackId} {a : Nat}
    (h : TrackDestroyed m c track m') (ha : c.rtpInstances track ≠ some a) :
    m'.rtpInstances.lookup a = m.rtpInstances.lookup a := by
  cases h with
  | empty slot same => rw [same]
  | deleted rtp name session slot described registered media =>
    rw [media]
    exact AList.lookup_erase_ne fun heq => ha (heq ▸ slot)

theorem TrackDestroyed.ownership {slots : Slots} {m m' : Media} {c : RtspConnection} {sockfd : Nat}
    {track : TrackId} (hd : TrackDestroyed m c track m') (h : Ownership slots m)
    (hslot : slots sockfd track = c.rtpInstances track) :
    Ownership (clearSlot slots sockfd track) m' := by
  cases hd with
  | empty slot same =>
    rw [same]
    exact h.clear_empty (hslot.trans slot)
  | deleted rtp name session slot described registered media =>
    refine h.clear (hslot.trans slot) (by rw [media]) ?_
    rw [media]
    exact Media.multicastOf_setSession_same registered (removeRtpInstance_multicast session rtp)

/-- The effects of destroying a connection. -/
def Teardown : Effect → Prop
  | .closed _ | .deleted _ => True
  | _ => False

theorem destroyTrack_teardown {m m' : Media} {c : RtspConnection} {track : TrackId}
    {effects : List Effect} (h : c.destroyTrack m track = .ok (m', effects)) :
    ∀ e ∈ effects, Teardown e := by
  unfold RtspConnection.destroyTrack at h
  dsimp only at h
  split at h
  · cases h
    intro e he
    split at he
    · cases he
    · rw [List.mem_singleton.mp he]
      trivial
  split at h
  · cases h
  split at h
  · cases h
  split at h
  · cases h
  rename_i hdelete
  cases h
  unfold Media.deleteRtpInstance at hdelete
  split at hdelete
  · cases hdelete
  · cases hdelete
    intro e he
    rcases List.mem_append.mp he with he | he
    · simp only [List.mem_cons, List.not_mem_nil, or_false] at he
      rcases he with rfl | rfl <;> trivial
    · split at he
      · cases he
      · rw [List.mem_singleton.mp he]
        trivial

theorem destroy_tracks {m m' : Media} {c : RtspConnection} {effects : List Effect}
    (h : c.destroy m = .ok (m', effects)) :
    (∃ m1, TrackDestroyed m c 0 m1 ∧ TrackDestroyed m1 c 1 m') ∧ ∀ e ∈ effects, Teardown e := by
  unfold RtspConnection.destroy at h
  split at h
  · cases h
  rename_i m1 effects0 h0
  split at h
  · cases h
  rename_i m2 effects1 h1
  cases h
  refine ⟨⟨m1, destroyTrack_destroyed h0, destroyTrack_destroyed h1⟩, fun e he => ?_⟩
  rcases List.mem_append.mp he with he | he
  · rcases List.mem_append.mp he with he | he
    · exact destroyTrack_teardown h0 e he
    · exact destroyTrack_teardown h1 e he
  · rw [List.mem_singleton.mp he]
    trivial

/-- The slots of another track are still there when the second one is destroyed. -/
theorem clearSlot_other (slots : Slots) (sockfd : Nat) :
    clearSlot slots sockfd 0 sockfd 1 = slots sockfd 1 := by
  simp [clearSlot]

namespace Server

/-- The trigger phase: one connection after the other is destroyed. -/
theorem destroyAll_cons {s s' : Server} {sockfd : Nat} {rest : List Nat} {effects : List Effect}
    (h : s.destroyAll (sockfd :: rest) = .ok (s', effects)) :
    ∃ conn m1 m2 first later, s.connections.lookup sockfd = some conn ∧
      TrackDestroyed s.media conn.rtsp 0 m1 ∧ TrackDestroyed m1 conn.rtsp 1 m2 ∧
      destroyAll { s with media := m2, connections := s.connections.erase sockfd } rest =
        .ok (s', later) ∧ effects = first ++ later ∧ ∀ e ∈ first, Teardown e := by
  unfold destroyAll at h
  split at h
  · cases h
  rename_i conn hconn
  split at h
  · cases h
  rename_i m2 first hdestroy
  split at h
  · cases h
  rename_i s'' later hrest
  cases h
  obtain ⟨⟨m1, h0, h1⟩, hfirst⟩ := destroy_tracks hdestroy
  exact ⟨conn, m1, m2, first, later, hconn, h0, h1, hrest, rfl, hfirst⟩

/-- Exactly the connections of the list are gone. -/
theorem destroyAll_connections {fds : List Nat} : ∀ {s s' : Server} {effects : List Effect},
    s.destroyAll fds = .ok (s', effects) → ∀ fd, s'.connections.lookup fd =
      if fd ∈ fds then none else s.connections.lookup fd := by
  induction fds with
  | nil =>
    intro s s' effects hd fd
    cases hd
    rfl
  | cons sockfd rest ih =>
    intro s s' effects hd fd
    obtain ⟨conn, m1, m2, first, later, hconn, h0, h1, hrest, -, -⟩ := destroyAll_cons hd
    rw [ih hrest fd]
    by_cases hfd : fd = sockfd
    · subst hfd
      simp
    · simp [hfd, AList.lookup_erase_ne hfd]

theorem destroyAll_teardown {fds : List Nat} : ∀ {s s' : Server} {effects : List Effect},
    s.destroyAll fds = .ok (s', effects) → ∀ e ∈ effects, Teardown e := by
  induction fds with
  | nil =>
    intro s s' effects hd e he
    cases hd
    cases he
  | cons sockfd rest ih =>
    intro s s' effects hd e he
    obtain ⟨conn, m1, m2, first, later, hconn, h0, h1, hrest, rfl, hfirst⟩ := destroyAll_cons hd
    rcases List.mem_append.mp he with he | he
    · exact hfirst e he
    · exact ih hrest e he

/-- The instances of the other connections stay as they are. -/
theorem destroyAll_heap {fds : List Nat} : ∀ {s s' : Server} {effects : List Effect},
    Ownership s.slotOf s.media → s.destroyAll fds = .ok (s', effects) →
      ∀ {fd t a}, s'.slotOf fd t = some a → s.slotOf fd t = some a ∧
        s'.media.rtpInstances.lookup a = s.media.rtpInstances.lookup a := by
  induction fds with
  | nil =>
    intro s s' effects h hd fd t a hs
    cases hd
    exact ⟨hs, rfl⟩
  | cons sockfd rest ih =>
    intro s s' effects h hd fd t a hs
    obtain ⟨conn, m1, m2, first, later, hconn, h0, h1, hrest, -, -⟩ := destroyAll_cons hd
    have hslots := slotOf_of_lookup hconn
    have hown0 := h0.ownership h (congrFun hslots 0)
    have hown1 := h1.ownership hown0 ((clearSlot_other _ sockfd).trans (congrFun hslots 1))
    rw [clearSlot_both s m2 s.disconnectedList] at hown1
    obtain ⟨hold, hheap⟩ := ih hown1 hrest hs
    rw [slotOf_erase] at hold
    split at hold
    · cases hold
    rename_i hfd
    have hother : ∀ t', conn.rtsp.rtpInstances t' ≠ some a := by
      intro t' hslot
      exact hfd (h.slotsApart hold ((congrFun hslots t').trans hslot)).1
    refine ⟨hold, hheap.trans ?_⟩
    rw [h1.lookup (hother 1), h0.lookup (hother 0)]

theorem destroyAll_ownership {fds : List Nat} : ∀ {s s' : Server} {effects : List Effect},
    Ownership s.slotOf s.media → s.destroyAll fds = .ok (s', effects) →
      Ownership s'.slotOf s'.media := by
  induction fds with
  | nil =>
    intro s s' effects h hd
    cases hd
    exact h
  | cons sockfd rest ih =>
    intro s s' effects h hd
    obtain ⟨conn, m1, m2, first, later, hconn, h0, h1, hrest, -, -⟩ := destroyAll_cons hd
    have hslots := slotOf_of_lookup hconn
    have hown0 := h0.ownership h (congrFun hslots 0)
    have hown1 := h1.ownership hown0 ((clearSlot_other _ sockfd).trans (congrFun hslots 1))
    rw [clearSlot_both s m2 s.disconnectedList] at hown1
    exact ih hown1 hrest

/-- **Ownership is kept by every action.** -/
theorem step_ownership {s s' : Server} {act : ServerAct} {effects : List Effect}
    (h : Ownership s.slotOf s.media) (hstep : s.step act = .ok (s', effects)) :
    Ownership s'.slotOf s'.media := by
  by_cases hact : act = .trigger
  · subst hact
    cases step_outcome hstep with
    | ignored => exact h
    | trigger s'' effects destroyed =>
      have hown := destroyAll_ownership h destroyed
      exact hown
  · exact h.change (step_change hact hstep)

end Server
end MyRtspServer.Net
