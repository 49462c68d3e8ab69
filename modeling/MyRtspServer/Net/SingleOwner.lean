import MyRtspServer.Net.DeferredDestruction

/-!
# Who closes a descriptor

`~RtpInstance` closes its socket whatever it is. The socket of an interleaved
instance is the client socket of its connection, which `~TcpSocket` closes after
it. So the destructors close what they own, each descriptor once, exactly as long
as no connection is destroyed with an interleaved instance in a slot.
-/
namespace MyRtspServer.Net

open Library Library.Octets Library.Transition Library.Descriptors

namespace EventLoop

/-- What the kernel promises; besides, no connection that is destroyed has an
interleaved instance. -/
def ClosesOwn (l : EventLoop) (act : LoopAct) : Prop :=
  KernelKeeps l act ∧ (act = .trigger → l.control = .triggering →
    ∀ fd ∈ l.server.disconnectedList, SocketsOwn l.server fd)

/-- What single ownership promises of a run from the table `d`. -/
structure SingleOwner (d : Table Owner) (l : EventLoop) (log : List LoopEffect) : Prop where
  /-- Nothing is closed but by its owner, while it is open. -/
  clean : d.Clean (descriptorMoves log)
  /-- Nothing is closed while the poller has it. -/
  unregistered : ∀ {m}, .descriptor m true ∉ log
  /-- What was acquired for a connection is closed as often, but for what is open. -/
  balance : ∀ id fd, Table.acquired Owner.connection (some id) fd (descriptorMoves log) =
    Table.closed Owner.connection (some id) fd (descriptorMoves log) +
      Table.holds Owner.connection (some id) fd l.kernel.descriptors
  /-- A destroyed connection leaves nothing open. -/
  gone : ∀ {id}, .destroyed id ∈ log → ∀ fd,
    Table.holds Owner.connection (some id) fd l.kernel.descriptors = 0
  /-- What is open belongs to a living connection. -/
  held : ∀ {o id fd}, l.kernel.descriptors fd = some o → o.connection = some id → l.Held o fd

/-- The run so far, move by move. -/
structure Owned (d : Table Owner) (l : EventLoop) (log : List LoopEffect) : Prop where
  good : Good l log
  table : l.kernel.descriptors = d.after (descriptorMoves log)
  clean : d.Clean (descriptorMoves log)
  unregistered : ∀ {m b}, .descriptor m b ∈ log → b = false
  within : ∀ m ∈ descriptorMoves log, Table.Within Owner.connection m

theorem step_owned {d : Table Owner} {l l' : EventLoop} {act : LoopAct} {log out : List LoopEffect}
    (h : Owned d l log) (hok : ClosesOwn l act) (hstep : l.step act = .ok (l', out)) :
    Owned d l' (log ++ out) := by
  rcases step_good h.good hok.1 with ⟨fault, hfault⟩ | ⟨m, shown, hstep', hstepped⟩
  · cases hstep.symm.trans hfault
  cases hstep.symm.trans hstep'
  obtain ⟨hclean, hunregistered⟩ := hstepped.clean hok.2
  refine ⟨hstepped.good, ?_, ?_, fun hm => ?_, fun x hx => ?_⟩
  · rw [descriptorMoves_append, Table.after_append, ← h.table]
    exact hstepped.table
  · rw [descriptorMoves_append]
    exact Table.each_append.mpr ⟨h.clean, h.table ▸ hclean⟩
  · rcases List.mem_append.mp hm with hm | hm
    · exact h.unregistered hm
    · exact hunregistered hm
  · rw [descriptorMoves_append] at hx
    rcases List.mem_append.mp hx with hx | hx
    · exact h.within x hx
    · exact hstepped.within x hx

theorem private_connection {o : Owner} {id : Nat} (h : o.connection = some id) : Private o := by
  rintro name rfl
  cases h

/-- Whoever has something open is alive. -/
theorem held_alive {l : EventLoop} {o : Owner} {id fd : Nat} (h : l.Held o fd)
    (ho : o.connection = some id) : ∃ sockfd, l.ids sockfd = some id := by
  cases o with
  | client id' =>
    cases ho
    exact ⟨fd, h⟩
  | rtp id' track =>
    cases ho
    obtain ⟨sockfd, hid, -⟩ := h
    exact ⟨sockfd, hid⟩
  | rtcp id' track =>
    cases ho
    obtain ⟨sockfd, hid, -⟩ := h
    exact ⟨sockfd, hid⟩
  | setup id' => exact h.elim
  | session name => cases ho
  | system => cases ho

theorem Owned.singleOwner {d : Table Owner} {l : EventLoop} {log : List LoopEffect}
    (h : Owned d l log) (hd : ∀ fd o, d fd = some o → o.connection = none) :
    SingleOwner d l log := by
  have hheld : ∀ {o id fd}, l.kernel.descriptors fd = some o → o.connection = some id →
      l.Held o fd := fun hopen ho =>
    (h.good.consistent.held _ _ (private_connection ho)).mp hopen
  refine ⟨h.clean, fun hm => ?_, fun id fd => ?_, fun {id} hdestroyed fd => ?_, hheld⟩
  · cases h.unregistered hm
  · have hbalance := Table.clean_balance h.clean h.within (some id) fd
    have hnone : Table.holds Owner.connection (some id) fd d = 0 := by
      unfold Table.holds
      cases hopen : d fd with
      | none => rfl
      | some o =>
        refine if_neg fun heq => ?_
        rw [Option.map_some, hd fd o hopen] at heq
        cases heq
    rw [hnone, Nat.add_zero, ← h.table] at hbalance
    exact hbalance
  · refine if_neg fun heq => ?_
    obtain ⟨o, hopen, ho⟩ := Option.map_eq_some_iff.mp heq
    obtain ⟨sockfd, hid⟩ := held_alive (hheld hopen ho) ho
    exact List.count_eq_zero.mp (h.good.recorded.live hid).1 hdestroyed

/-- **Descriptors have one owner** in every run in which no connection with an
interleaved instance is destroyed. -/
theorem single_owner (wakeupFd timerFd listenFd : Nat) (acts : List LoopAct)
    (hok : Meets step ClosesOwn (create wakeupFd timerFd listenFd) acts) (l : EventLoop)
    (log : List LoopEffect)
    (hrun : run step (create wakeupFd timerFd listenFd) acts = .ok (l, log)) :
    SingleOwner (create wakeupFd timerFd listenFd).kernel.descriptors l log := by
  have hinitial := create_initial wakeupFd timerFd listenFd
  have howned : Owned (create wakeupFd timerFd listenFd).kernel.descriptors l ([] ++ log) :=
    run_logged (Owned _) (fun _ _ _ _ _ h hok hstep => step_owned h hok hstep)
      ⟨create_good wakeupFd timerFd listenFd, rfl, trivial, fun hm => absurd hm List.not_mem_nil,
        fun _ hm => absurd hm List.not_mem_nil⟩ hok hrun
  refine Owned.singleOwner howned fun fd o hopen => ?_
  rw [hinitial.system] at hopen
  split at hopen
  · cases hopen
    rfl
  · cases hopen

def checkClosesOwn (l : EventLoop) (act : LoopAct) : Bool :=
  l.checkKernel act && l.server.disconnectedList.all fun fd => decide (SocketsOwn l.server fd)

theorem closesOwn_of_check {l : EventLoop} {act : LoopAct} (h : l.checkClosesOwn act = true) :
    ClosesOwn l act := by
  rw [checkClosesOwn, Bool.and_eq_true, List.all_eq_true] at h
  exact ⟨keeps_of_check h.1, fun _ _ fd hfd => of_decide_eq_true (h.2 fd hfd)⟩

theorem single_owner_sample : ∃ l log,
    run step (create 3 4 5) (sampleVisit overUdpHeader) = .ok (l, log) ∧
      SingleOwner (create 3 4 5).kernel.descriptors l log ∧ .destroyed 0 ∈ log := by
  have hok : Meets step ClosesOwn (create 3 4 5) (sampleVisit overUdpHeader) :=
    meets_of_checkMeets (fun _ _ => closesOwn_of_check) (by decide +kernel)
  obtain ⟨l, log, hrun, hdestroyed⟩ : ∃ l log,
      run step (create 3 4 5) (sampleVisit overUdpHeader) = .ok (l, log) ∧
        decide (.destroyed 0 ∈ log) = true := checkRun_true (by decide +kernel)
  exact ⟨l, log, hrun, single_owner 3 4 5 _ hok l log hrun, of_decide_eq_true hdestroyed⟩

/-! ## Interleaved instances -/

/-- A client that sets up one track over TCP and hangs up: `~RtpInstance` closes its
descriptor 7 while it is registered, and `~TcpSocket` closes it again. -/
theorem client_socket_closed_twice : ∃ l log,
    Meets step KernelKeeps (create 3 4 5)
        (sampleVisit "Transport: RTP/AVP/TCP;unicast;interleaved=0-1\r\n") ∧
      run step (create 3 4 5)
        (sampleVisit "Transport: RTP/AVP/TCP;unicast;interleaved=0-1\r\n") = .ok (l, log) ∧
      .descriptor (.close (.rtp 0 0) 7) true ∈ log ∧
      Table.acquired Owner.connection (some 0) 7 (descriptorMoves log) = 1 ∧
      Table.closed Owner.connection (some 0) 7 (descriptorMoves log) = 2 := by
  obtain ⟨l, log, hrun, hcheck⟩ : ∃ l log, run step (create 3 4 5)
      (sampleVisit "Transport: RTP/AVP/TCP;unicast;interleaved=0-1\r\n") = .ok (l, log) ∧
        decide (.descriptor (.close (.rtp 0 0) 7) true ∈ log ∧
          Table.acquired Owner.connection (some 0) 7 (descriptorMoves log) = 1 ∧
          Table.closed Owner.connection (some 0) 7 (descriptorMoves log) = 2) = true :=
    checkRun_true (by decide +kernel)
  exact ⟨l, log, meets_of_checkMeets (fun _ _ => keeps_of_check) (by decide +kernel), hrun,
    of_decide_eq_true hcheck⟩

/-- Every connection that does not meet the condition is destroyed like that. -/
theorem interleaved_not_clean {l : EventLoop} (h : l.Consistent) {sockfd id : Nat}
    (hid : l.ids sockfd = some id) (hshared : ¬ SocketsOwn l.server sockfd) :
    ∃ l' out, l.destroyConnection sockfd = .ok (l', out) ∧
      ¬ l.kernel.descriptors.Clean (descriptorMoves out) := by
  obtain ⟨conn, l', out, hconn, hdestroy, hd⟩ := h.destroy hid
  refine ⟨l', out, hdestroy, fun hclean => hshared fun track hslot => ?_⟩
  have hmoves : descriptorMoves out = Consistent.closesOf id conn.rtsp l.server.media := by
    rw [hd.shows, Consistent.closesOf, h.settled.registered.sockFd hconn]
    simp
  rw [hmoves] at hclean
  rw [Server.slotOf_of_lookup hconn] at hslot
  obtain ⟨rtp, hrtp⟩ := Option.isSome_iff_exists.mp hslot
  obtain ⟨i, hi⟩ := Option.isSome_iff_exists.mp
    (AList.lookup_isSome.mpr (h.settled.live hconn hrtp))
  have hmem : Move.close (.rtp id track) i.sockFd ∈
      Consistent.closesOf id conn.rtsp l.server.media := by
    have htrack : Move.close (.rtp id track) i.sockFd ∈
        trackCloses id conn.rtsp l.server.media track := by
      unfold trackCloses
      rw [hrtp]
      dsimp only
      rw [hi]
      exact List.mem_append_left _ (List.mem_singleton.mpr rfl)
    rcases trackId_cases track with rfl | rfl
    · exact List.mem_append_left _ (List.mem_append_left _ htrack)
    · exact List.mem_append_left _ (List.mem_append_right _ htrack)
  have hopen := Table.closes_owned hclean (Consistent.closesOf_close _ _ _) hmem
  obtain ⟨other, hother, hsocket⟩ := h.rtp_open.mp hopen
  rw [← h.apart hother hid, hsocket]
  rfl

end EventLoop
end MyRtspServer.Net
