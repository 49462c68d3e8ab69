import MyRtspServer.Net.TriggerPhase

/-!
# Deferred destruction

A connection that was given up lives on until the next trigger phase: its object
is alive and registered, but the batch that `epoll_wait` has returned does not
name it a second time. So every run of the loop destroys it once, there, and never
calls it afterwards.
-/
namespace MyRtspServer.Net

open Library Library.Octets Library.Transition Library.Descriptors

namespace EventLoop

/-! ## Every act -/

structure Good (l : EventLoop) (log : List LoopEffect) : Prop where
  consistent : l.Consistent
  pending : Pending l
  recorded : Recorded l log

/-- What a step leaves, and how its moves look. -/
structure Stepped (l : EventLoop) (act : LoopAct) (l' : EventLoop) (log out : List LoopEffect) :
    Prop where
  good : Good l' (log ++ out)
  table : l'.kernel.descriptors = l.kernel.descriptors.after (descriptorMoves out)
  clean : (act = .trigger → l.control = .triggering →
      ∀ fd ∈ l.server.disconnectedList, SocketsOwn l.server fd) →
    l.kernel.descriptors.Clean (descriptorMoves out) ∧ ∀ {m b}, .descriptor m b ∈ out → b = false
  within : ∀ m ∈ descriptorMoves out, Table.Within Owner.connection m
  phase : ∀ {id}, .destroyed id ∈ out → act = .trigger ∧ l.control = .triggering

theorem stepped_refl {l : EventLoop} {log : List LoopEffect} (h : Good l log) (act : LoopAct) :
    Stepped l act l log [] := by
  refine ⟨by rwa [List.append_nil], rfl,
    fun _ => ⟨trivial, fun hm => absurd hm List.not_mem_nil⟩,
    fun _ hm => absurd hm List.not_mem_nil, fun hm => absurd hm List.not_mem_nil⟩

/-- Only the loop itself looks at where it stands. -/
theorem Good.withControl {l : EventLoop} {log : List LoopEffect} (hc : l.Consistent)
    (hr : Recorded l log) {control : Control} (hp : Pending { l with control := control }) :
    Good { l with control := control } log :=
  ⟨⟨hc.settled, hc.known, hc.events, hc.below, hc.apart, hc.watched, hc.held⟩, hp,
    ⟨hr.live, hr.dead, hr.unborn, hr.order⟩⟩

theorem dispatchingOf_eq {rest rest' : List Ready} (h : dispatchingOf rest = .dispatching rest') :
    rest' = rest := by
  cases rest with
  | nil => cases h
  | cons r rest => exact (Control.dispatching.inj h).symm

theorem dispatchingOf_polling (rest : List Ready) : dispatchingOf rest ≠ .polling := by
  cases rest <;> exact Control.noConfusion

theorem Pending.turned {l l' : EventLoop} {r : Ready} {rest : List Ready} {out : List LoopEffect}
    (hp : Pending l) (hcontrol : l.control = .dispatching (r :: rest))
    (ht : Turned l r.fd l' out) : Pending { l' with control := dispatchingOf rest } := by
  obtain ⟨hnodup, hbatch⟩ := hp.batch hcontrol
  obtain ⟨hfd, -⟩ := hbatch r List.mem_cons_self
  rw [List.map_cons, List.nodup_cons] at hnodup
  have hne : ∀ r' ∈ rest, r'.fd ≠ r.fd := fun r' hr' heq =>
    hnodup.1 (heq ▸ List.mem_map_of_mem hr')
  have hrest : ∀ r' ∈ rest, r'.fd ∉ l.server.disconnectedList ∧ (l.eventMap r'.fd).isSome = true :=
    fun r' hr' => hbatch r' (List.mem_cons_of_mem _ hr')
  cases ht with
  | idle idle =>
    refine ⟨?_, fun {fd} hin => ?_, fun hzero => ?_, fun h => absurd h (dispatchingOf_polling rest),
      fun {rest'} h => ?_⟩
    · exact idle.list ▸ hp.nodup
    · exact idle.ids ▸ hp.known (idle.list ▸ hin)
    · exact idle.list ▸ hp.trigger (idle.triggerEvents ▸ hzero)
    · cases dispatchingOf_eq h
      exact ⟨hnodup.2, fun r' hr' => ⟨idle.list ▸ (hrest r' hr').1, idle.eventMap ▸ (hrest r' hr').2⟩⟩
  | accepted connfd new ids nextId eventMap list triggerEvents silent =>
    refine ⟨?_, fun {fd} hin => ?_, fun hzero => ?_, fun h => absurd h (dispatchingOf_polling rest),
      fun {rest'} h => ?_⟩
    · exact list ▸ hp.nodup
    · have hknown := hp.known (list ▸ hin)
      have hother : fd ≠ connfd := fun heq => by
        rw [heq, new] at hknown
        cases hknown
      change (l'.ids fd).isSome = true
      rw [ids, Function.update_of_ne hother]
      exact hknown
    · exact list ▸ hp.trigger (triggerEvents ▸ hzero)
    · cases dispatchingOf_eq h
      exact ⟨hnodup.2, fun r' hr' => ⟨list ▸ (hrest r' hr').1, eventMap _ (hrest r' hr').2⟩⟩
  | called id gaveUp called =>
    refine ⟨?_, fun {fd} hin => ?_, fun hzero => ?_, fun h => absurd h (dispatchingOf_polling rest),
      fun {rest'} h => ?_⟩
    · change l'.server.disconnectedList.Nodup
      rw [called.list]
      cases gaveUp with
      | false =>
        simp only [Bool.false_eq_true, if_false, List.append_nil]
        exact hp.nodup
      | true =>
        refine List.nodup_append.mpr ⟨hp.nodup, List.nodup_singleton _, fun fd hin fd' hin' heq => ?_⟩
        cases List.mem_singleton.mp hin'
        exact hfd (heq ▸ hin)
    · change fd ∈ l'.server.disconnectedList at hin
      change (l'.ids fd).isSome = true
      rw [called.list] at hin
      rw [called.ids]
      rcases List.mem_append.mp hin with hin | hin
      · exact hp.known hin
      · split at hin
        · rw [List.mem_singleton.mp hin, called.mine]
          rfl
        · cases hin
    · change l'.triggerEvents = 0 at hzero
      change l'.server.disconnectedList = []
      rw [called.triggerEvents] at hzero
      rw [called.list]
      cases gaveUp with
      | false => simpa using hp.trigger (by simpa using hzero)
      | true => simp at hzero
    · cases dispatchingOf_eq h
      refine ⟨hnodup.2, fun r' hr' => ⟨fun hin => ?_, ?_⟩⟩
      · change r'.fd ∈ l'.server.disconnectedList at hin
        rw [called.list] at hin
        rcases List.mem_append.mp hin with hin | hin
        · exact (hrest r' hr').1 hin
        · split at hin
          · exact hne r' hr' (List.mem_singleton.mp hin)
          · cases hin
      · change (l'.eventMap r'.fd).isSome = true
        rw [called.eventMap]
        exact (hrest r' hr').2

/-- **Every act**: it ends in a fault of what a callback calls, or all is well. -/
theorem step_good {l : EventLoop} {act : LoopAct} {log : List LoopEffect} (h : Good l log)
    (hok : KernelKeeps l act) : (∃ fault, l.step act = .error (.callback fault)) ∨
      ∃ l' out, l.step act = .ok (l', out) ∧ Stepped l act l' log out := by
  obtain ⟨hc, hp, hr⟩ := h
  obtain ⟨hready, hfresh⟩ := hok
  cases act with
  | session call =>
    rcases session_idle hc hfresh with hfault | ⟨l', out, hstep, hsound, hidle, hcontrol⟩
    · exact Or.inl hfault
    · refine Or.inr ⟨l', out, hstep, ⟨hsound.consistent, ?_, hr.idle hsound.spared hidle⟩,
        hsound.table, fun _ => ⟨hsound.clean, hsound.unregistered⟩,
        hsound.within, fun hm => absurd hm (hsound.spared _)⟩
      refine ⟨hidle.list ▸ hp.nodup, fun hin => hidle.ids ▸ hp.known (hidle.list ▸ hin),
        fun hzero => hidle.list ▸ hp.trigger (hidle.triggerEvents ▸ hzero),
        fun hpolling => hidle.list ▸ hp.polling (hcontrol ▸ hpolling), fun hrest => ?_⟩
      rw [hidle.list, hidle.eventMap]
      exact hp.batch (hcontrol ▸ hrest)
  | trigger =>
    simp only [step] at hfresh ⊢
    cases hcontrol : l.control with
    | triggering =>
      obtain ⟨l', out, htrigger, hswept, hzero⟩ := handleTriggleEvents_swept hc hp hr
      simp only [htrigger]
      refine Or.inr ⟨_, out, rfl, Good.withControl hswept.consistent hswept.recorded ?_, hswept.table,
        fun hown => hswept.clean (hown rfl hcontrol), hswept.within, fun _ => ⟨rfl, hcontrol⟩⟩
      refine ⟨?_, fun {fd} hin => ?_, fun _ => hswept.list, fun _ => hswept.list, fun hrest => ?_⟩
      · change l'.server.disconnectedList.Nodup
        rw [hswept.list]
        exact List.nodup_nil
      · change fd ∈ l'.server.disconnectedList at hin
        rw [hswept.list] at hin
        cases hin
      · cases hrest
    | polling => exact Or.inr ⟨l, [], rfl, stepped_refl ⟨hc, hp, hr⟩ _⟩
    | dispatching rest => exact Or.inr ⟨l, [], rfl, stepped_refl ⟨hc, hp, hr⟩ _⟩
  | poll ready =>
    simp only [step] at hfresh ⊢
    cases hcontrol : l.control with
    | polling =>
      obtain ⟨hnodup, hinterest⟩ := hready ready rfl
      have hlist := hp.polling hcontrol
      refine Or.inr ⟨_, [], rfl, ?_, rfl,
        fun _ => ⟨trivial, fun hm => absurd hm List.not_mem_nil⟩,
        fun _ hm => absurd hm List.not_mem_nil, fun hm => absurd hm List.not_mem_nil⟩
      rw [List.append_nil]
      refine Good.withControl hc hr ⟨hp.nodup, hp.known, hp.trigger,
        fun hpolling => absurd hpolling (dispatchingOf_polling ready), fun hrest => ?_⟩
      cases dispatchingOf_eq hrest
      refine ⟨hnodup, fun r hr => ⟨?_, hc.watched (hinterest r hr)⟩⟩
      change r.fd ∉ l.server.disconnectedList
      rw [hlist]
      exact List.not_mem_nil
    | triggering => exact Or.inr ⟨l, [], rfl, stepped_refl ⟨hc, hp, hr⟩ _⟩
    | dispatching rest => exact Or.inr ⟨l, [], rfl, stepped_refl ⟨hc, hp, hr⟩ _⟩
  | turn t =>
    simp only [step] at hfresh ⊢
    cases hcontrol : l.control with
    | triggering => exact Or.inr ⟨l, [], rfl, stepped_refl ⟨hc, hp, hr⟩ _⟩
    | polling => exact Or.inr ⟨l, [], rfl, stepped_refl ⟨hc, hp, hr⟩ _⟩
    | dispatching batch =>
      cases batch with
      | nil => exact Or.inr ⟨l, [], rfl, stepped_refl ⟨hc, hp, hr⟩ _⟩
      | cons r rest =>
        obtain ⟨hfd, hregistered⟩ := (hp.batch hcontrol).2 r List.mem_cons_self
        simp only [hcontrol] at hfresh ⊢
        have hopens : ∀ l' out, l.handleEvent r t = .ok (l', out) →
            l.kernel.descriptors.Fresh (descriptorMoves out) := fun l' out hevent =>
          hfresh _ _ (by rw [hevent])
        rcases handleEvent_turned hc hregistered hopens with ⟨fault, hevent⟩ |
          ⟨l', out, hevent, hsound, hturned⟩
        · exact Or.inl ⟨fault, by rw [hevent]⟩
        · exact Or.inr ⟨{ l' with control := dispatchingOf rest }, out, by rw [hevent],
            Good.withControl hsound.consistent (hr.turned hc hp hfd hsound.spared hturned)
              (hp.turned hcontrol hturned),
            hsound.table, fun _ => ⟨hsound.clean, hsound.unregistered⟩,
            hsound.within, fun hm => absurd hm (hsound.spared _)⟩

/-! ## Runs -/

theorem create_good (wakeupFd timerFd listenFd : Nat) : Good (create wakeupFd timerFd listenFd) [] := by
  have h := create_initial wakeupFd timerFd listenFd
  have hlist : (create wakeupFd timerFd listenFd).server.disconnectedList = [] := by
    rw [h.server]
  refine ⟨h.consistent, ⟨?_, fun hin => ?_, fun _ => hlist, fun _ => hlist, fun hrest => ?_⟩,
    ⟨fun {fd id} hid => ?_, fun _ => ⟨rfl, Nat.zero_le 1⟩, fun _ => rfl, List.Pairwise.nil⟩⟩
  · rw [hlist]
    exact List.nodup_nil
  · rw [hlist] at hin
    cases hin
  · rw [h.control] at hrest
    cases hrest
  · rw [h.ids] at hid
    cases hid

theorem run_good {acts : List LoopAct} : ∀ {l : EventLoop} {log : List LoopEffect}, Good l log →
    Meets step KernelKeeps l acts →
      (∃ fault, run step l acts = .error (.callback fault)) ∨
        ∃ l' out, run step l acts = .ok (l', out) ∧ Good l' (log ++ out) := by
  induction acts with
  | nil => exact fun h _ => Or.inr ⟨_, [], rfl, by rwa [List.append_nil]⟩
  | cons act acts ih =>
    intro l log h hok
    rcases step_good h hok.1 with ⟨fault, hstep⟩ | ⟨m, first, hstep, hstepped⟩
    · exact Or.inl ⟨fault, by rw [run, hstep]⟩
    · rcases ih hstepped.good (hok.2 m first hstep) with ⟨fault, hrun⟩ | ⟨l', later, hrun, hgood⟩
      · refine Or.inl ⟨fault, ?_⟩
        rw [run, hstep]
        dsimp only
        rw [hrun]
      · refine Or.inr ⟨l', first ++ later, ?_, by rwa [← List.append_assoc]⟩
        rw [run, hstep]
        dsimp only
        rw [hrun]

/-- What deferred destruction promises of a state and the log so far. -/
structure DestroyedExactly (l : EventLoop) (log : List LoopEffect) : Prop where
  /-- Given up once, and destroyed once unless it is still noted. -/
  once : ∀ {id}, .givenUp id ∈ log → log.count (.givenUp id) = 1 ∧
    (log.count (.destroyed id) = 1 ∨ log.count (.destroyed id) = 0 ∧
      ∃ fd ∈ l.server.disconnectedList, l.ids fd = some id)
  noted : ∀ {id}, .destroyed id ∈ log → .givenUp id ∈ log
  /-- The next trigger phase leaves nothing noted. -/
  trigger : l.control = .triggering → ∃ l' out, l.step .trigger = .ok (l', out) ∧
    ∀ {id}, .givenUp id ∈ log → (log ++ out).count (.destroyed id) = 1
  polling : l.control = .polling → ∀ {id}, .givenUp id ∈ log → log.count (.destroyed id) = 1
  /-- No other act destroys anything. -/
  phase : ∀ {act l' out id}, KernelKeeps l act → l.step act = .ok (l', out) →
    .destroyed id ∈ out → act = .trigger ∧ l.control = .triggering
  order : log.Pairwise NotAfterDestroyed
  registered : ∀ fd, fd ∈ l.server.connections ↔ ∃ id, l.eventMap fd = some (.connection id)
  objects : ∀ fd id, l.eventMap fd = some (.connection id) ↔ l.ids fd = some id

theorem Recorded.once {l : EventLoop} {log : List LoopEffect} (h : Recorded l log) {id : Nat}
    (hgivenUp : .givenUp id ∈ log) : log.count (.givenUp id) = 1 ∧
      (log.count (.destroyed id) = 1 ∨ log.count (.destroyed id) = 0 ∧
        ∃ fd ∈ l.server.disconnectedList, l.ids fd = some id) := by
  have hpos := List.count_pos_iff.mpr hgivenUp
  by_cases halive : ∃ fd, l.ids fd = some id
  · obtain ⟨fd, hfd⟩ := halive
    obtain ⟨hzero, hcount⟩ := h.live hfd
    have hnoted : fd ∈ l.server.disconnectedList := by
      by_contra hnot
      rw [hcount, if_neg hnot] at hpos
      exact Nat.lt_irrefl 0 hpos
    exact ⟨hcount.trans (if_pos hnoted), Or.inr ⟨hzero, fd, hnoted, hfd⟩⟩
  · obtain ⟨hsame, hle⟩ := h.dead fun fd hfd => halive ⟨fd, hfd⟩
    exact ⟨by omega, Or.inl (by omega)⟩

theorem Recorded.swept {l : EventLoop} {log : List LoopEffect} (h : Recorded l log)
    (hlist : l.server.disconnectedList = []) {id : Nat} (hgivenUp : .givenUp id ∈ log) :
    log.count (.destroyed id) = 1 := by
  rcases (h.once hgivenUp).2 with hone | ⟨-, fd, hfd, -⟩
  · exact hone
  · rw [hlist] at hfd
    cases hfd

theorem Recorded.noted {l : EventLoop} {log : List LoopEffect} (h : Recorded l log) {id : Nat}
    (hdestroyed : .destroyed id ∈ log) : .givenUp id ∈ log := by
  have hpos := List.count_pos_iff.mpr hdestroyed
  by_cases halive : ∃ fd, l.ids fd = some id
  · obtain ⟨fd, hfd⟩ := halive
    rw [(h.live hfd).1] at hpos
    exact absurd hpos (Nat.lt_irrefl 0)
  · obtain ⟨hsame, -⟩ := h.dead fun fd hfd => halive ⟨fd, hfd⟩
    exact List.count_pos_iff.mp (by omega)

theorem Good.destroyedExactly {l : EventLoop} {log : List LoopEffect} (h : Good l log) :
    DestroyedExactly l log where
  once := h.recorded.once
  noted := h.recorded.noted
  trigger hcontrol := by
    obtain ⟨l', out, htrigger, hswept, -⟩ :=
      handleTriggleEvents_swept h.consistent h.pending h.recorded
    refine ⟨{ l' with control := .polling }, out, ?_, fun hgivenUp =>
      hswept.recorded.swept hswept.list (List.mem_append_left _ hgivenUp)⟩
    simp only [step, hcontrol, htrigger]
  polling hcontrol := h.recorded.swept (h.pending.polling hcontrol)
  phase hok hstep hdestroyed := by
    rcases step_good h hok with ⟨fault, hfault⟩ | ⟨l', out, hstep', hstepped⟩
    · rw [hstep] at hfault
      cases hfault
    · cases hstep.symm.trans hstep'
      exact hstepped.phase hdestroyed
  order := h.recorded.order
  registered fd := by
    rw [h.consistent.known, Option.isSome_iff_exists]
    exact exists_congr fun id => (h.consistent.events fd id).symm
  objects := h.consistent.events

/-- **Deferred destruction is exact** in every run of the loop: it only ends in a
fault of what a callback calls, and what it has given up is destroyed once, in the
next trigger phase. -/
theorem destruction_exact (wakeupFd timerFd listenFd : Nat) (acts : List LoopAct)
    (hok : Meets step KernelKeeps (create wakeupFd timerFd listenFd) acts) :
    (∀ fault, run step (create wakeupFd timerFd listenFd) acts = .error fault →
      ∃ e, fault = .callback e) ∧
    ∀ l log, run step (create wakeupFd timerFd listenFd) acts = .ok (l, log) →
      DestroyedExactly l log := by
  rcases run_good (create_good wakeupFd timerFd listenFd) hok with ⟨e, hrun⟩ | ⟨l', out, hrun, hgood⟩
  · refine ⟨fun fault hfault => ⟨e, ?_⟩, fun l log hlog => ?_⟩
    · cases hfault.symm.trans hrun
      rfl
    · cases hlog.symm.trans hrun
  · refine ⟨fun fault hfault => ?_, fun l log hlog => ?_⟩
    · cases hfault.symm.trans hrun
    · cases hlog.symm.trans hrun
      exact hgood.destroyedExactly

/-! ## A client that comes and goes -/

/-- `KernelKeeps`, tested. -/
def checkKernel (l : EventLoop) (act : LoopAct) : Bool :=
  (match act with
    | .poll ready =>
      decide (ready.map Ready.fd).Nodup && ready.all fun r => l.kernel.interest r.fd
    | _ => true) &&
  match l.step act with
  | .ok (_, out) => Table.checkFresh l.kernel.descriptors (descriptorMoves out)
  | .error _ => true

theorem keeps_of_check {l : EventLoop} {act : LoopAct} (h : l.checkKernel act = true) :
    KernelKeeps l act := by
  unfold checkKernel at h
  rw [Bool.and_eq_true] at h
  refine ⟨fun ready hready => ?_, fun l' out hstep => ?_⟩
  · subst hready
    have hpoll := h.1
    rw [Bool.and_eq_true, decide_eq_true_iff, List.all_eq_true] at hpoll
    exact hpoll
  · have hfresh := h.2
    rw [hstep] at hfresh
    exact Table.fresh_of_check hfresh

/-- A turn of the client on descriptor 7. -/
def sampleTurn (received : Octets) : Turn :=
  { connfd := 7, peer := { peerIp := ascii "10.0.0.2", sessionId := 77 }, received := received
    world := sampleWorld }

/-- A round of the loop in which one descriptor is ready. -/
def sampleRound (fd : Nat) (received : Octets) : List LoopAct :=
  [.trigger, .poll [{ fd := fd, epollIn := true }], .turn (sampleTurn received)]

def sampleText (line headers : String) : Octets :=
  ascii line ++ ascii " RTSP/1.0\r\nCSeq: 1\r\n" ++ ascii headers ++ ascii "\r\n"

/-- A client that sets up one track and hangs up; the acceptor is on descriptor 5. -/
def sampleVisit (transport : String) : List LoopAct :=
  [.session (.addMediaSession (ascii "a")),
    .session (.addRtpSink (ascii "a") 0
      (.h264 { base := { payloadType := rtpPayloadTypeH264 }, fps := 25 }))] ++
    sampleRound 5 [] ++
    sampleRound 7 (sampleText "DESCRIBE rtsp://h/a" "Accept: application/sdp\r\n") ++
    sampleRound 7 (sampleText "SETUP rtsp://h/a/track0" transport) ++
    sampleRound 7 [] ++ [.trigger]

def overUdpHeader : String := "Transport: RTP/AVP;unicast;client_port=6000-6001\r\n"

theorem destruction_exact_sample : ∃ l log,
    run step (create 3 4 5) (sampleVisit overUdpHeader) = .ok (l, log) ∧
      DestroyedExactly l log ∧ log.count (.destroyed 0) = 1 := by
  have hok : Meets step KernelKeeps (create 3 4 5) (sampleVisit overUdpHeader) :=
    meets_of_checkMeets (fun _ _ => keeps_of_check) (by decide +kernel)
  obtain ⟨l, log, hrun, hcount⟩ : ∃ l log,
      run step (create 3 4 5) (sampleVisit overUdpHeader) = .ok (l, log) ∧
        decide (log.count (.destroyed 0) = 1) = true := checkRun_true (by decide +kernel)
  exact ⟨l, log, hrun, (destruction_exact 3 4 5 _ hok).2 l log hrun, decide_eq_true_iff.mp hcount⟩

end EventLoop
end MyRtspServer.Net
