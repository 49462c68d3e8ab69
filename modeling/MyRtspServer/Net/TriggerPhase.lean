import MyRtspServer.Net.LoopSteps

/-!
# The trigger phase

`HandleDisconnection` only notes a descriptor. The log of what was seen is counted
along: a living connection has been given up at most once, and a dead one exactly
as often as it was destroyed. The trigger phase destroys all that is noted, and a
trigger event that comes twice finds nothing to do.
-/
namespace MyRtspServer.Net

open Library Library.Octets Library.Transition Library.Descriptors

namespace EventLoop

/-! ## Noted, and not yet destroyed -/

/-- The noted descriptors, against where the loop stands. -/
structure Pending (l : EventLoop) : Prop where
  nodup : l.server.disconnectedList.Nodup
  known : ∀ {fd}, fd ∈ l.server.disconnectedList → (l.ids fd).isSome = true
  trigger : l.triggerEvents = 0 → l.server.disconnectedList = []
  polling : l.control = .polling → l.server.disconnectedList = []
  batch : ∀ {rest}, l.control = .dispatching rest → (rest.map Ready.fd).Nodup ∧
    ∀ r ∈ rest, r.fd ∉ l.server.disconnectedList ∧ (l.eventMap r.fd).isSome = true

/-- No callback of a connection after its destruction. -/
def NotAfterDestroyed (e later : LoopEffect) : Prop := ∀ id, e = .destroyed id → later ≠ .called id

/-- The log, against the connections that are alive and noted. -/
structure Recorded (l : EventLoop) (log : List LoopEffect) : Prop where
  live : ∀ {fd id}, l.ids fd = some id → log.count (.destroyed id) = 0 ∧
    log.count (.givenUp id) = if fd ∈ l.server.disconnectedList then 1 else 0
  dead : ∀ {id}, (∀ fd, l.ids fd ≠ some id) →
    log.count (.givenUp id) = log.count (.destroyed id) ∧ log.count (.destroyed id) ≤ 1
  unborn : ∀ {id}, l.nextId ≤ id → log.count (.destroyed id) = 0
  order : log.Pairwise NotAfterDestroyed

theorem order_spared {out : List LoopEffect} (h : ∀ id, .destroyed id ∉ out) :
    out.Pairwise NotAfterDestroyed :=
  List.pairwise_of_forall_mem_list fun _ he _ _ id heq => absurd (heq ▸ he) (h id)

theorem order_uncalled {out : List LoopEffect} (h : ∀ id, .called id ∉ out) :
    out.Pairwise NotAfterDestroyed :=
  List.pairwise_of_forall_mem_list fun _ _ _ hlater id _ heq => absurd (heq ▸ hlater) (h id)

theorem order_append {log out : List LoopEffect} (hlog : log.Pairwise NotAfterDestroyed)
    (hout : out.Pairwise NotAfterDestroyed)
    (hcalled : ∀ id, .called id ∈ out → log.count (.destroyed id) = 0) :
    (log ++ out).Pairwise NotAfterDestroyed := by
  refine List.pairwise_append.mpr ⟨hlog, hout, fun e he later hlater id hdestroyed heq => ?_⟩
  exact List.count_eq_zero.mp (hcalled id (heq ▸ hlater)) (hdestroyed ▸ he)

theorem count_append_spared {log out : List LoopEffect} {e : LoopEffect} (h : e ∉ out) :
    (log ++ out).count e = log.count e := by
  rw [List.count_append, List.count_eq_zero.mpr h, Nat.add_zero]

theorem Recorded.idle {l l' : EventLoop} {log out : List LoopEffect} (h : Recorded l log)
    (hspared : ∀ id, .destroyed id ∉ out) (hi : Idle l l' out) : Recorded l' (log ++ out) := by
  have hdestroyed : ∀ id, (log ++ out).count (.destroyed id) = log.count (.destroyed id) :=
    fun id => count_append_spared (hspared id)
  have hgivenUp : ∀ id, (log ++ out).count (.givenUp id) = log.count (.givenUp id) :=
    fun id => count_append_spared (hi.silent id).2
  refine ⟨fun {fd id} hid => ?_, fun {id} hdead => ?_, fun {id} hunborn => ?_,
    order_append h.order (order_spared hspared) fun id hcalled => absurd hcalled (hi.silent id).1⟩
  · rw [hdestroyed, hgivenUp, hi.list]
    exact h.live (hi.ids ▸ hid)
  · rw [hdestroyed, hgivenUp]
    exact h.dead fun fd hid => hdead fd (hi.ids ▸ hid)
  · rw [hdestroyed]
    exact h.unborn (hi.nextId ▸ hunborn)

theorem Recorded.turned {l l' : EventLoop} {sockfd : Nat} {log out : List LoopEffect}
    (h : Recorded l log) (hc : l.Consistent) (hp : Pending l)
    (hfd : sockfd ∉ l.server.disconnectedList) (hspared : ∀ id, .destroyed id ∉ out)
    (ht : Turned l sockfd l' out) : Recorded l' (log ++ out) := by
  have hdestroyed : ∀ id, (log ++ out).count (.destroyed id) = log.count (.destroyed id) :=
    fun id => count_append_spared (hspared id)
  have horder := order_spared hspared
  cases ht with
  | idle idle => exact h.idle hspared idle
  | accepted connfd new ids nextId eventMap list triggerEvents silent =>
    have hgivenUp : ∀ id, (log ++ out).count (.givenUp id) = log.count (.givenUp id) :=
      fun id => count_append_spared (silent id).2
    have hfresh : ∀ fd, l.ids fd ≠ some l.nextId := fun fd hid => Nat.lt_irrefl _ (hc.below hid)
    have hborn : log.count (.destroyed l.nextId) = 0 := h.unborn (Nat.le_refl _)
    refine ⟨fun {fd id} hid => ?_, fun {id} hdead => ?_, fun {id} hunborn => ?_,
      order_append h.order horder fun id hcalled => absurd hcalled (silent id).1⟩
    · rw [hdestroyed, hgivenUp, list]
      rw [ids] at hid
      by_cases heq : fd = connfd
      · subst heq
        rw [Function.update_self, Option.some.injEq] at hid
        subst hid
        have hnot : fd ∉ l.server.disconnectedList := fun hin => by
          have := hp.known hin
          rw [new] at this
          cases this
        rw [if_neg hnot]
        exact ⟨hborn, (h.dead hfresh).1.trans hborn⟩
      · rw [Function.update_of_ne heq] at hid
        exact h.live hid
    · rw [hdestroyed, hgivenUp]
      refine h.dead fun fd hid => hdead fd ?_
      have hne : fd ≠ connfd := fun heq => by
        rw [heq, new] at hid
        cases hid
      rw [ids, Function.update_of_ne hne]
      exact hid
    · rw [hdestroyed]
      rw [nextId] at hunborn
      exact h.unborn (by omega)
  | called mine gaveUp called =>
    have hcount : ∀ id, (log ++ out).count (.givenUp id) =
        log.count (.givenUp id) + if gaveUp = true ∧ id = mine then 1 else 0 := fun id => by
      rw [List.count_append, called.givenUps]
    refine ⟨fun {fd id} hid => ?_, fun {id} hdead => ?_, fun {id} hunborn => ?_,
      order_append h.order horder fun id hcalled => ?_⟩
    · rw [called.ids] at hid
      obtain ⟨hzero, hgivenUp⟩ := h.live hid
      rw [hdestroyed, hcount, hgivenUp, called.list]
      refine ⟨hzero, ?_⟩
      by_cases heq : fd = sockfd
      · subst heq
        have hsame : id = mine := Option.some.inj (hid.symm.trans called.mine)
        cases gaveUp <;> simp [hfd, hsame]
      · have hother : id ≠ mine := fun hsame => heq (hc.apart hid (hsame ▸ called.mine))
        cases gaveUp <;> simp [heq, hother]
    · have hold : ∀ fd, l.ids fd ≠ some id := fun fd hid => hdead fd (called.ids ▸ hid)
      have hother : id ≠ mine := fun hsame => hold sockfd (hsame ▸ called.mine)
      rw [hdestroyed, hcount, if_neg fun hand => hother hand.2]
      exact h.dead hold
    · rw [hdestroyed]
      exact h.unborn (called.nextId ▸ hunborn)
    · rw [called.calls hcalled]
      exact (h.live called.mine).1

/-! ## The trigger phase -/

/-- No slot of the connection holds an interleaved instance. -/
def SocketsOwn (s : Server) (fd : Nat) : Prop :=
  ∀ t, (s.slotOf fd t).isSome = true → (s.rtpSocket fd t).isSome = true

instance (s : Server) (fd : Nat) : Decidable (SocketsOwn s fd) :=
  inferInstanceAs (Decidable (∀ t, (s.slotOf fd t).isSome = true →
    (s.rtpSocket fd t).isSome = true))

theorem trackCloses_mover {id : Nat} {c : RtspConnection} {m : Media} {track : TrackId} :
    ∀ x ∈ trackCloses id c m track, x.mover = .rtp id track ∨ x.mover = .rtcp id track := by
  unfold trackCloses
  intro x hx
  rcases List.mem_append.mp hx with hx | hx
  · split at hx
    · cases hx
    · split at hx
      · cases hx
      · rw [List.mem_singleton.mp hx]
        exact Or.inl rfl
  · split at hx
    · cases hx
    · rw [List.mem_singleton.mp hx]
      exact Or.inr rfl

theorem trackCloses_nodup {id : Nat} {c : RtspConnection} {m : Media} {track : TrackId} :
    (trackCloses id c m track).Nodup := by
  unfold trackCloses
  cases c.rtpInstances track with
  | none => cases c.rtcpInstances track <;> simp
  | some rtp =>
    cases hi : m.rtpInstances.lookup rtp <;> cases c.rtcpInstances track <;> simp [hi]

theorem closesOf_nodup {id : Nat} {c : RtspConnection} {m : Media} :
    (Consistent.closesOf id c m).Nodup := by
  refine List.nodup_append.mpr ⟨List.nodup_append.mpr ⟨trackCloses_nodup, trackCloses_nodup,
    fun x hx y hy heq => ?_⟩, List.nodup_singleton _, fun x hx y hy heq => ?_⟩
  · subst heq
    rcases trackCloses_mover x hx with h0 | h0 <;> rcases trackCloses_mover x hy with h1 | h1 <;>
      cases h0.symm.trans h1
  · subst heq
    cases List.mem_singleton.mp hy
    rcases List.mem_append.mp hx with hx | hx <;> rcases trackCloses_mover _ hx with h | h <;> cases h

theorem ownSocket_of_isSome {i : RtpInstance} (h : i.ownSocket.isSome = true) :
    i.ownSocket = some i.sockFd := by
  unfold RtpInstance.ownSocket at h ⊢
  split
  · rfl
  · rename_i htcp
    rw [htcp] at h
    cases h

/-- A connection whose instances have sockets of their own owns what it closes of
a track. -/
theorem trackCloses_owned {l : EventLoop} (h : l.Consistent) {sockfd id : Nat} {conn : Connection}
    (hid : l.ids sockfd = some id) (hconn : l.server.connections.lookup sockfd = some conn)
    (hown : SocketsOwn l.server sockfd) {track : TrackId} :
    ∀ x ∈ trackCloses id conn.rtsp l.server.media track,
      ∃ o f, x = .close o f ∧ l.kernel.descriptors f = some o := by
  have hrtp := Server.rtpSocket_of_lookup hconn
  have hrtcp := Server.rtcpSocket_of_lookup hconn
  intro x hx
  unfold trackCloses at hx
  rcases List.mem_append.mp hx with hx | hx
  · split at hx
    · cases hx
    rename_i rtp hslot
    split at hx
    · cases hx
    rename_i i hi
    refine ⟨_, _, List.mem_singleton.mp hx, h.rtp_open.mpr ⟨sockfd, hid, ?_⟩⟩
    have hsome := hown track (by rw [Server.slotOf_of_lookup hconn, hslot]; rfl)
    rw [hrtp, RtspConnection.rtpSocket, hslot] at hsome ⊢
    dsimp only at hsome ⊢
    rw [hi] at hsome ⊢
    exact ownSocket_of_isSome hsome
  · split at hx
    · cases hx
    rename_i rtcp hslot
    refine ⟨_, _, List.mem_singleton.mp hx, h.rtcp_open.mpr ⟨sockfd, hid, ?_⟩⟩
    rw [hrtcp, RtspConnection.rtcpSocket, hslot]
    rfl

/-- Without interleaved instances, every object closes what it has opened. -/
theorem closesOf_owned {l : EventLoop} (h : l.Consistent) {sockfd id : Nat} {conn : Connection}
    (hid : l.ids sockfd = some id) (hconn : l.server.connections.lookup sockfd = some conn)
    (hown : SocketsOwn l.server sockfd) : ∀ x ∈ Consistent.closesOf id conn.rtsp l.server.media,
      ∃ o f, x = .close o f ∧ l.kernel.descriptors f = some o := by
  intro x hx
  rcases List.mem_append.mp hx with hx | hx
  · rcases List.mem_append.mp hx with hx | hx
    · exact trackCloses_owned h hid hconn hown x hx
    · exact trackCloses_owned h hid hconn hown x hx
  · refine ⟨_, _, List.mem_singleton.mp hx, h.client_open.mpr ?_⟩
    rw [h.settled.registered.sockFd hconn]
    exact hid

/-- What the destruction shows is clean, then. -/
theorem destroyed_clean {l l' : EventLoop} (h : l.Consistent) {sockfd id : Nat} {conn : Connection}
    {out : List LoopEffect} (hid : l.ids sockfd = some id)
    (hconn : l.server.connections.lookup sockfd = some conn)
    (hd : Consistent.Destroyed l sockfd id conn l' out) (hown : SocketsOwn l.server sockfd) :
    l.kernel.descriptors.Clean (descriptorMoves out) ∧
      ∀ {m b}, .descriptor m b ∈ out → b = false := by
  have howned := closesOf_owned h hid hconn hown
  have hfd : conn.rtsp.sockFd = sockfd := h.settled.registered.sockFd hconn
  constructor
  · have hmoves : descriptorMoves out = Consistent.closesOf id conn.rtsp l.server.media := by
      rw [hd.shows, Consistent.closesOf, hfd]
      simp
    rw [hmoves]
    exact Table.clean_closes howned closesOf_nodup
  · intro m b hm
    rw [hd.shows] at hm
    rcases List.mem_append.mp hm with hm | hm
    · obtain ⟨x, hx, heq⟩ := mem_shown hm
      cases heq
      by_contra hne
      rw [Bool.not_eq_false] at hne
      obtain ⟨o', hopen, hkind⟩ := h.registered_owner hne
      obtain ⟨o, f, rfl, hf⟩ := howned m (List.mem_append_left _ hx)
      have hsame : o' = o := Option.some.inj (hopen.symm.trans hf)
      subst hsame
      rcases List.mem_append.mp hx with hx | hx <;> rcases trackCloses_mover _ hx with ho | ho <;>
        rcases hkind with ⟨other, rfl⟩ | rfl <;> cases ho
    · simp only [List.mem_cons, List.not_mem_nil, or_false] at hm
      rcases hm with heq | heq
      · cases heq
        rfl
      · cases heq

theorem Recorded.destroyed {l l' : EventLoop} {sockfd id : Nat} {conn : Connection}
    {log out : List LoopEffect} (h : Recorded l log) (hc : l.Consistent)
    (hid : l.ids sockfd = some id) (hin : sockfd ∈ l.server.disconnectedList)
    (hd : Consistent.Destroyed l sockfd id conn l' out) : Recorded l' (log ++ out) := by
  have hshown : ∀ e, (∀ m b, e ≠ LoopEffect.descriptor m b) → e ≠ .destroyed id → e ∉ out := by
    intro e hdescriptor hdestroyed he
    rw [hd.shows] at he
    rcases List.mem_append.mp he with he | he
    · obtain ⟨m, -, rfl⟩ := mem_shown he
      exact hdescriptor _ _ rfl
    · simp only [List.mem_cons, List.not_mem_nil, or_false] at he
      rcases he with rfl | rfl
      · exact hdescriptor _ _ rfl
      · exact hdestroyed rfl
  have hgivenUp : ∀ other, (log ++ out).count (.givenUp other) = log.count (.givenUp other) :=
    fun other => count_append_spared
      (hshown _ (fun _ _ => LoopEffect.noConfusion) LoopEffect.noConfusion)
  have hother : ∀ {other}, other ≠ id →
      (log ++ out).count (.destroyed other) = log.count (.destroyed other) := fun hne =>
    count_append_spared (hshown _ (fun _ _ => LoopEffect.noConfusion)
      fun heq => hne (LoopEffect.destroyed.inj heq))
  have hcalled : ∀ other, .called other ∉ out := fun other =>
    hshown _ (fun _ _ => LoopEffect.noConfusion) LoopEffect.noConfusion
  have hmine : (log ++ out).count (.destroyed id) = 1 := by
    have hnone : (l.shown (trackCloses id conn.rtsp l.server.media 0 ++
        trackCloses id conn.rtsp l.server.media 1)).count (.destroyed id) = 0 := by
      rw [List.count_eq_zero]
      intro hm
      obtain ⟨m, -, heq⟩ := mem_shown hm
      cases heq
    rw [List.count_append, (h.live hid).1, hd.shows, List.count_append, hnone]
    simp
  have hids : ∀ {fd other}, l'.ids fd = some other → fd ≠ sockfd ∧ l.ids fd = some other := by
    intro fd other hfd
    rw [hd.ids] at hfd
    by_cases heq : fd = sockfd
    · subst heq
      rw [Function.update_self] at hfd
      cases hfd
    · exact ⟨heq, (Function.update_of_ne heq _ _).symm.trans hfd⟩
  refine ⟨fun {fd other} hfd => ?_, fun {other} hdead => ?_, fun {other} hunborn => ?_,
    order_append h.order (order_uncalled hcalled) fun other hin => absurd hin (hcalled other)⟩
  · obtain ⟨hne, hold⟩ := hids hfd
    have halive : other ≠ id := fun heq => hne (hc.apart hold (hid.trans (congrArg some heq.symm)))
    rw [hother halive, hgivenUp, hd.list]
    exact h.live hold
  · rw [hgivenUp]
    by_cases heq : other = id
    · subst heq
      rw [hmine, (h.live hid).2, if_pos hin]
      exact ⟨rfl, Nat.le_refl 1⟩
    · rw [hother heq]
      refine h.dead fun fd hfd => hdead fd ?_
      have hne : fd ≠ sockfd := fun hsame => heq (by
        rw [hsame, hid] at hfd
        exact (Option.some.inj hfd).symm)
      rw [hd.ids, Function.update_of_ne hne]
      exact hfd
  · rw [hd.nextId] at hunborn
    rw [hother fun heq => by
      have := hc.below hid
      omega]
    exact h.unborn hunborn

/-- All noted connections are destroyed. -/
structure Swept (l l' : EventLoop) (log out : List LoopEffect) : Prop where
  consistent : l'.Consistent
  recorded : Recorded l' (log ++ out)
  list : l'.server.disconnectedList = []
  ids : ∀ fd, l'.ids fd = if fd ∈ l.server.disconnectedList then none else l.ids fd
  table : l'.kernel.descriptors = l.kernel.descriptors.after (descriptorMoves out)
  clean : (∀ fd ∈ l.server.disconnectedList, SocketsOwn l.server fd) →
    l.kernel.descriptors.Clean (descriptorMoves out) ∧ ∀ {m b}, .descriptor m b ∈ out → b = false
  within : ∀ m ∈ descriptorMoves out, Table.Within Owner.connection m

/-- The loop of `HandleDisconnectionList` over some of the noted connections. -/
theorem destroyAll_ok {fds : List Nat} : ∀ {l : EventLoop} {log : List LoopEffect}, l.Consistent →
    Recorded l log → fds.Nodup → (∀ fd ∈ fds, fd ∈ l.server.disconnectedList) →
    (∀ fd ∈ fds, (l.ids fd).isSome = true) → ∃ l' out, run destroyConnection l fds = .ok (l', out) ∧
      l'.Consistent ∧ Recorded l' (log ++ out) ∧
      l'.server.disconnectedList = l.server.disconnectedList ∧
      (∀ fd, l'.ids fd = if fd ∈ fds then none else l.ids fd) ∧
      l'.kernel.descriptors = l.kernel.descriptors.after (descriptorMoves out) ∧
      ((∀ fd ∈ fds, SocketsOwn l.server fd) → l.kernel.descriptors.Clean (descriptorMoves out) ∧
        ∀ {m b}, .descriptor m b ∈ out → b = false) ∧
      ∀ m ∈ descriptorMoves out, Table.Within Owner.connection m := by
  induction fds with
  | nil =>
    intro l log hc hr _ _ _
    refine ⟨l, [], rfl, hc, by rwa [List.append_nil], rfl, fun fd => rfl, rfl, fun _ =>
      ⟨trivial, fun hm => absurd hm List.not_mem_nil⟩, fun _ hm => absurd hm List.not_mem_nil⟩
  | cons sockfd rest ih =>
    intro l log hc hr hnodup hnoted hknown
    obtain ⟨id, hid⟩ := Option.isSome_iff_exists.mp (hknown sockfd List.mem_cons_self)
    obtain ⟨conn, m, first, hconn, hdestroy, hd⟩ := hc.destroy hid
    obtain ⟨hnew, hrest⟩ := List.nodup_cons.mp hnodup
    have hne : ∀ fd ∈ rest, fd ≠ sockfd := fun fd hfd heq => hnew (heq ▸ hfd)
    obtain ⟨l', later, hrun, hc', hr', hlist, hids, htable, hclean, hwithin⟩ := ih hd.consistent
      (hr.destroyed hc hid (hnoted sockfd List.mem_cons_self) hd) hrest
      (fun fd hfd => by
        rw [hd.list]
        exact hnoted fd (List.mem_cons_of_mem _ hfd))
      (fun fd hfd => by
        rw [hd.ids, Function.update_of_ne (hne fd hfd)]
        exact hknown fd (List.mem_cons_of_mem _ hfd))
    have hmoves : descriptorMoves first = Consistent.closesOf id conn.rtsp l.server.media := by
      rw [hd.shows, Consistent.closesOf, hc.settled.registered.sockFd hconn]
      simp
    have hfirst : m.kernel.descriptors = l.kernel.descriptors.after (descriptorMoves first) := by
      rw [hd.table, hmoves]
    refine ⟨l', first ++ later, ?_, hc', ?_, hlist.trans hd.list, fun fd => ?_, ?_, fun hown => ?_,
      fun x hx => ?_⟩
    · rw [run, hdestroy]
      dsimp only
      rw [hrun]
    · rw [← List.append_assoc]
      exact hr'
    · rw [hids, hd.ids]
      by_cases heq : fd = sockfd
      · subst heq
        simp
      · simp [heq]
    · rw [htable, hfirst, descriptorMoves_append, Table.after_append]
    · obtain ⟨hcleanFirst, hfalseFirst⟩ := destroyed_clean hc hid hconn hd
        (hown sockfd List.mem_cons_self)
      have hownRest : ∀ fd ∈ rest, SocketsOwn m.server fd := by
        intro fd hfd t hslot
        have hslots : m.server.slotOf fd t = l.server.slotOf fd t := by
          unfold Server.slotOf
          rw [hd.connections, AList.lookup_erase_ne (hne fd hfd)]
        rw [hslots] at hslot
        rw [hd.rtpSocket, Function.update_of_ne (hne fd hfd)]
        exact hown fd (List.mem_cons_of_mem _ hfd) t hslot
      obtain ⟨hcleanLater, hfalseLater⟩ := hclean hownRest
      refine ⟨?_, fun hm => ?_⟩
      · rw [descriptorMoves_append]
        exact Table.each_append.mpr ⟨hcleanFirst, hfirst ▸ hcleanLater⟩
      · rcases List.mem_append.mp hm with hm | hm
        · exact hfalseFirst hm
        · exact hfalseLater hm
    · rw [descriptorMoves_append, hmoves] at hx
      rcases List.mem_append.mp hx with hx | hx
      · obtain ⟨o, f, rfl⟩ := Consistent.closesOf_close _ _ _ x hx
        trivial
      · exact hwithin x hx

theorem handleDisconnectionList_swept {l : EventLoop} {log : List LoopEffect} (hc : l.Consistent)
    (hr : Recorded l log) (hnodup : l.server.disconnectedList.Nodup)
    (hknown : ∀ fd ∈ l.server.disconnectedList, (l.ids fd).isSome = true) :
    ∃ l' out, l.handleDisconnectionList = .ok (l', out) ∧ Swept l l' log out := by
  obtain ⟨l', out, hrun, hc', hr', hlist, hids, htable, hclean, hwithin⟩ :=
    destroyAll_ok hc hr hnodup (fun _ hfd => hfd) hknown
  refine ⟨{ l' with server := { l'.server with disconnectedList := [] } }, out, ?_, ?_, ?_, rfl,
    hids, htable, hclean, hwithin⟩
  · rw [handleDisconnectionList, hrun]
  · exact ⟨⟨hc'.settled.owned, hc'.settled.registered.mono id, hc'.settled.each⟩, hc'.known,
      hc'.events, hc'.below, hc'.apart, hc'.watched, hc'.held⟩
  · refine ⟨fun {fd id} hid => ?_, hr'.dead, hr'.unborn, hr'.order⟩
    have hgone : fd ∉ l'.server.disconnectedList := by
      rw [hlist]
      intro hin
      have hnone : l'.ids fd = none := (hids fd).trans (if_pos hin)
      cases hnone.symm.trans hid
    have hlive := hr'.live hid
    rw [if_neg hgone] at hlive
    exact hlive

theorem swept_refl {l : EventLoop} {log : List LoopEffect} (hc : l.Consistent) (hr : Recorded l log)
    (hlist : l.server.disconnectedList = []) : Swept l l log [] := by
  refine ⟨hc, by rwa [List.append_nil], hlist, fun fd => ?_, rfl, fun _ =>
    ⟨trivial, fun hm => absurd hm List.not_mem_nil⟩, fun _ hm => absurd hm List.not_mem_nil⟩
  rw [hlist]
  rfl

theorem Swept.trans {l m l' : EventLoop} {log first later : List LoopEffect}
    (h : Swept l m log first) (h' : Swept m l' (log ++ first) later) :
    Swept l l' log (first ++ later) where
  consistent := h'.consistent
  recorded := by
    rw [← List.append_assoc]
    exact h'.recorded
  list := h'.list
  ids fd := by
    rw [h'.ids, h.list, h.ids]
    rfl
  table := by rw [h'.table, h.table, descriptorMoves_append, Table.after_append]
  clean hown := by
    obtain ⟨hcleanFirst, hfalseFirst⟩ := h.clean hown
    obtain ⟨hcleanLater, hfalseLater⟩ := h'.clean fun fd hfd => by
      rw [h.list] at hfd
      cases hfd
    refine ⟨?_, fun hm => ?_⟩
    · rw [descriptorMoves_append]
      exact Table.each_append.mpr ⟨hcleanFirst, h.table ▸ hcleanLater⟩
    · rcases List.mem_append.mp hm with hm | hm
      · exact hfalseFirst hm
      · exact hfalseLater hm
  within m hm := by
    rw [descriptorMoves_append] at hm
    rcases List.mem_append.mp hm with hm | hm
    · exact h.within m hm
    · exact h'.within m hm

/-- A trigger event that comes again finds nothing to do. -/
theorem swept_again (n : Nat) : ∀ {l : EventLoop} {log : List LoopEffect}, l.Consistent →
    Recorded l log → l.server.disconnectedList = [] → ∃ l' out,
      run (fun l _ => handleDisconnectionList l) l (List.replicate n ()) = .ok (l', out) ∧
        Swept l l' log out := by
  induction n with
  | zero => exact fun hc hr hlist => ⟨_, [], rfl, swept_refl hc hr hlist⟩
  | succ n ih =>
    intro l log hc hr hlist
    obtain ⟨m, first, hfirst, hswept⟩ := handleDisconnectionList_swept hc hr
      (by rw [hlist]; exact List.nodup_nil) (fun fd hfd => by rw [hlist] at hfd; cases hfd)
    obtain ⟨l', later, hlater, hswept'⟩ := ih hswept.consistent hswept.recorded hswept.list
    refine ⟨l', first ++ later, ?_, hswept.trans hswept'⟩
    rw [List.replicate_succ, run, hfirst]
    dsimp only
    rw [hlater]

/-- **`HandleTriggleEvents` destroys all noted connections.** -/
theorem handleTriggleEvents_swept {l : EventLoop} {log : List LoopEffect} (hc : l.Consistent)
    (hp : Pending l) (hr : Recorded l log) :
    ∃ l' out, l.handleTriggleEvents = .ok (l', out) ∧ Swept l l' log out ∧ l'.triggerEvents = 0 := by
  have hrounds : ∃ m out, run (fun l _ => handleDisconnectionList l) l
      (List.replicate l.triggerEvents ()) = .ok (m, out) ∧ Swept l m log out := by
    cases hn : l.triggerEvents with
    | zero => exact swept_again 0 hc hr (hp.trigger hn)
    | succ n =>
      obtain ⟨m, first, hfirst, hswept⟩ := handleDisconnectionList_swept hc hr hp.nodup
        fun fd hfd => hp.known hfd
      obtain ⟨l', later, hlater, hswept'⟩ := swept_again n hswept.consistent hswept.recorded hswept.list
      refine ⟨l', first ++ later, ?_, hswept.trans hswept'⟩
      rw [List.replicate_succ, run, hfirst]
      dsimp only
      rw [hlater]
  obtain ⟨m, out, hrun, hswept⟩ := hrounds
  refine ⟨{ m with triggerEvents := 0 }, out, by rw [handleTriggleEvents, hrun], ?_, rfl⟩
  have hc' := hswept.consistent
  have hr' := hswept.recorded
  exact ⟨⟨hc'.settled, hc'.known, hc'.events, hc'.below, hc'.apart, hc'.watched, hc'.held⟩,
    ⟨hr'.live, hr'.dead, hr'.unborn, hr'.order⟩, hswept.list, hswept.ids, hswept.table, hswept.clean,
    hswept.within⟩

end EventLoop
end MyRtspServer.Net
