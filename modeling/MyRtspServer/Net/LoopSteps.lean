import MyRtspServer.Net.LoopInvariant

/-!
# What one callback does to the loop

One specification for each callback, and one for the body of
`EpollEpoller::HandleEvent`: it ends in a fault of what a callback calls, or it
leaves the tables consistent and is one of three kinds of turn. No callback
destroys a connection.
-/
namespace MyRtspServer.Net

open Library Library.Octets Library.Transition Library.Descriptors

/-! ## The moves among the effects -/

@[simp] theorem descriptorMoves_nil : descriptorMoves [] = [] := rfl

@[simp] theorem descriptorMoves_append (out later : List LoopEffect) :
    descriptorMoves (out ++ later) = descriptorMoves out ++ descriptorMoves later :=
  List.filterMap_append

@[simp] theorem descriptorMoves_descriptor (m : Move Owner) (b : Bool) (out : List LoopEffect) :
    descriptorMoves (.descriptor m b :: out) = m :: descriptorMoves out := rfl

@[simp] theorem descriptorMoves_called (id : Nat) (out : List LoopEffect) :
    descriptorMoves (.called id :: out) = descriptorMoves out := rfl

@[simp] theorem descriptorMoves_created (id : Nat) (out : List LoopEffect) :
    descriptorMoves (.created id :: out) = descriptorMoves out := rfl

@[simp] theorem descriptorMoves_givenUp (id : Nat) (out : List LoopEffect) :
    descriptorMoves (.givenUp id :: out) = descriptorMoves out := rfl

@[simp] theorem descriptorMoves_destroyed (id : Nat) (out : List LoopEffect) :
    descriptorMoves (.destroyed id :: out) = descriptorMoves out := rfl

namespace EventLoop

@[simp] theorem descriptorMoves_shown (l : EventLoop) (ms : List (Move Owner)) :
    descriptorMoves (l.shown ms) = ms := by
  induction ms with
  | nil => rfl
  | cons m ms ih => exact congrArg (m :: ·) ih

/-- Showing moves shows nothing else. -/
theorem mem_shown {l : EventLoop} {ms : List (Move Owner)} {e : LoopEffect}
    (h : e ∈ l.shown ms) : ∃ m ∈ ms, e = .descriptor m (l.eventMap m.fd).isSome := by
  obtain ⟨m, hm, rfl⟩ := List.mem_map.mp h
  exact ⟨m, hm, rfl⟩

theorem socketMoves_mover {owner : Owner} {effects : List Effect} :
    ∀ m ∈ socketMoves owner effects, m.mover = owner := by
  intro m hm
  obtain ⟨e, -, he⟩ := List.mem_filterMap.mp hm
  cases e <;> cases he <;> rfl

theorem instanceMoves_mover {id : Nat} {c c' : RtspConnection} {media : Media} {track : TrackId} :
    ∀ m ∈ instanceMoves id c c' media track, m.mover = .setup id := by
  intro m hm
  unfold instanceMoves at hm
  split at hm
  · split at hm
    · simp only [List.mem_cons, List.not_mem_nil, or_false] at hm
      rcases hm with rfl | rfl <;> rfl
    · cases hm
  · cases hm

theorem readMoves_mover {id : Nat} {c : RtspConnection} {r : ReadResult} :
    ∀ m ∈ readMoves id c r, m.mover = .setup id := by
  intro m hm
  rcases List.mem_append.mp hm with hm | hm
  · rcases List.mem_append.mp hm with hm | hm
    · exact socketMoves_mover m hm
    · exact instanceMoves_mover m hm
  · exact instanceMoves_mover m hm

/-- Sockets are handed on within their connection. -/
theorem readMoves_within {id : Nat} {c : RtspConnection} {r : ReadResult} :
    ∀ m ∈ readMoves id c r, Table.Within Owner.connection m := by
  have hsockets : ∀ m ∈ socketMoves (.setup id) r.effects, Table.Within Owner.connection m := by
    intro m hm
    obtain ⟨e, -, he⟩ := List.mem_filterMap.mp hm
    cases e <;> cases he <;> trivial
  have hinstances : ∀ {track}, ∀ m ∈ instanceMoves id c r.conn.rtsp r.media track,
      Table.Within Owner.connection m := by
    intro track m hm
    unfold instanceMoves at hm
    split at hm
    · split at hm
      · simp only [List.mem_cons, List.not_mem_nil, or_false] at hm
        rcases hm with rfl | rfl <;> rfl
      · cases hm
    · cases hm
  intro m hm
  rcases List.mem_append.mp hm with hm | hm
  · rcases List.mem_append.mp hm with hm | hm
    · exact hsockets m hm
    · exact hinstances m hm
  · exact hinstances m hm

/-- What is registered belongs to a connection as its client socket, or to the
process. -/
theorem Consistent.registered_owner {l : EventLoop} (h : l.Consistent) {fd : Nat}
    (hevent : (l.eventMap fd).isSome = true) :
    ∃ o, l.kernel.descriptors fd = some o ∧ ((∃ id, o = .client id) ∨ o = .system) := by
  obtain ⟨callback, hcallback⟩ := Option.isSome_iff_exists.mp hevent
  by_cases hconn : ∃ id, callback = .connection id
  · obtain ⟨id, rfl⟩ := hconn
    exact ⟨.client id, h.client_open.mpr ((h.events fd id).mp hcallback), Or.inl ⟨id, rfl⟩⟩
  · exact ⟨.system, h.system_open.mpr ⟨callback, hcallback, fun id heq => hconn ⟨id, heq⟩⟩,
      Or.inr rfl⟩

/-- Clean moves of one owner that is neither touch nothing that is registered. -/
theorem Consistent.shown_unregistered {l : EventLoop} (h : l.Consistent) {o : Owner}
    {ms : List (Move Owner)} (hclean : l.kernel.descriptors.Clean ms)
    (hmover : ∀ m ∈ ms, m.mover = o) (ho : (∀ id, o ≠ .client id) ∧ o ≠ .system) {m : Move Owner}
    {b : Bool} (hmem : .descriptor m b ∈ l.shown ms) : b = false := by
  obtain ⟨m', hm', heq⟩ := mem_shown hmem
  cases heq
  by_contra hne
  rw [Bool.not_eq_false] at hne
  obtain ⟨x, hx, hkind⟩ := h.registered_owner hne
  refine Table.clean_untouched hclean hmover hx ?_ m hm' rfl
  rintro rfl
  rcases hkind with ⟨id, rfl⟩ | rfl
  · exact ho.1 id rfl
  · exact ho.2 rfl

/-! ## Turns -/

/-- What holds of every act that destroys nothing. -/
structure Sound (l l' : EventLoop) (out : List LoopEffect) : Prop where
  consistent : l'.Consistent
  table : l'.kernel.descriptors = l.kernel.descriptors.after (descriptorMoves out)
  clean : l.kernel.descriptors.Clean (descriptorMoves out)
  unregistered : ∀ {m b}, .descriptor m b ∈ out → b = false
  within : ∀ m ∈ descriptorMoves out, Table.Within Owner.connection m
  spared : ∀ id, .destroyed id ∉ out

/-- The callbacks of connection `id` have been called, and it may have been given up. -/
structure Called (l : EventLoop) (sockfd id : Nat) (gaveUp : Bool) (l' : EventLoop)
    (out : List LoopEffect) : Prop where
  mine : l.ids sockfd = some id
  ids : l'.ids = l.ids
  nextId : l'.nextId = l.nextId
  eventMap : l'.eventMap = l.eventMap
  list : l'.server.disconnectedList =
    l.server.disconnectedList ++ if gaveUp then [sockfd] else []
  triggerEvents : l'.triggerEvents = l.triggerEvents + gaveUp.toNat
  calls : ∀ {other}, .called other ∈ out → other = id
  givenUps : ∀ other, out.count (.givenUp other) = if gaveUp = true ∧ other = id then 1 else 0

/-- Nothing has happened to the connections. -/
structure Idle (l l' : EventLoop) (out : List LoopEffect) : Prop where
  ids : l'.ids = l.ids
  nextId : l'.nextId = l.nextId
  eventMap : l'.eventMap = l.eventMap
  list : l'.server.disconnectedList = l.server.disconnectedList
  triggerEvents : l'.triggerEvents = l.triggerEvents
  silent : ∀ id, .called id ∉ out ∧ .givenUp id ∉ out

/-- Nothing happens to the connections, one is accepted, or one is called. -/
inductive Turned (l : EventLoop) (sockfd : Nat) (l' : EventLoop) (out : List LoopEffect) : Prop
  | idle (idle : Idle l l' out)
  | accepted (connfd : Nat) (new : l.ids connfd = none)
      (ids : l'.ids = Function.update l.ids connfd (some l.nextId))
      (nextId : l'.nextId = l.nextId + 1)
      (eventMap : ∀ fd, (l.eventMap fd).isSome = true → (l'.eventMap fd).isSome = true)
      (list : l'.server.disconnectedList = l.server.disconnectedList)
      (triggerEvents : l'.triggerEvents = l.triggerEvents)
      (silent : ∀ id, .called id ∉ out ∧ .givenUp id ∉ out)
  | called (id : Nat) (gaveUp : Bool) (called : Called l sockfd id gaveUp l' out)

theorem sound_refl {l : EventLoop} (h : l.Consistent) : Sound l l [] :=
  ⟨h, rfl, trivial, fun hm => absurd hm List.not_mem_nil, fun _ hm => absurd hm List.not_mem_nil,
    fun _ => List.not_mem_nil⟩

theorem turned_refl (l : EventLoop) (sockfd : Nat) : Turned l sockfd l [] :=
  .idle ⟨rfl, rfl, rfl, rfl, rfl, fun _ => ⟨List.not_mem_nil, List.not_mem_nil⟩⟩

/-- The connection is given up at once. -/
theorem disconnection_turned {l : EventLoop} (h : l.Consistent) {id sockfd : Nat}
    (hid : l.ids sockfd = some id) :
    Sound l (l.handleDisconnection sockfd) [.called id, .givenUp id] ∧
      Called l sockfd id true (l.handleDisconnection sockfd) [.called id, .givenUp id] := by
  refine ⟨⟨h.disconnect sockfd, rfl, trivial, fun hm => ?_, fun _ hm => absurd hm List.not_mem_nil,
    fun _ hm => ?_⟩, hid, rfl, rfl, rfl, rfl, rfl, fun hm => ?_, fun other => ?_⟩
  · simp at hm
  · simp at hm
  · simpa using hm
  · by_cases hother : other = id
    · simp [hother]
    · simp [hother, Ne.symm hother]

/-- The log of a read that has brought something. -/
def readLog (l : EventLoop) (id : Nat) (c : RtspConnection) (r : ReadResult) : List LoopEffect :=
  .called id :: (l.shown (readMoves id c r) ++ if r.ok then [] else [.givenUp id])

section ReadLog

variable {l : EventLoop} {id : Nat} {c : RtspConnection} {r : ReadResult}

theorem descriptorMoves_readLog : descriptorMoves (l.readLog id c r) = readMoves id c r := by
  have htail : descriptorMoves (if r.ok then [] else [.givenUp id]) = [] := by
    cases r.ok <;> rfl
  simp [readLog, htail]

theorem mem_readLog {e : LoopEffect} (he : e ∈ l.readLog id c r) :
    e = .called id ∨ e ∈ l.shown (readMoves id c r) ∨ e = .givenUp id := by
  rcases List.mem_cons.mp he with rfl | he
  · exact Or.inl rfl
  · rcases List.mem_append.mp he with he | he
    · exact Or.inr (Or.inl he)
    · cases hok : r.ok with
      | true => simp [hok] at he
      | false => exact Or.inr (Or.inr (by simpa [hok] using he))

theorem count_readLog (other : Nat) : (l.readLog id c r).count (.givenUp other) =
    if (!r.ok) = true ∧ other = id then 1 else 0 := by
  have hnone : (l.shown (readMoves id c r)).count (.givenUp other) = 0 := by
    rw [List.count_eq_zero]
    intro hin
    obtain ⟨m, -, heq⟩ := mem_shown hin
    cases heq
  unfold readLog
  cases r.ok with
  | true => simp [hnone]
  | false =>
    by_cases hother : other = id
    · subst hother
      simp [hnone]
    · simp [hnone, hother, Ne.symm hother]

end ReadLog

/-- `HandleRead`. -/
theorem handleRead_turned {l : EventLoop} (h : l.Consistent) {id sockfd : Nat} {conn : Connection}
    {t : Turn} (hid : l.ids sockfd = some id)
    (hconn : l.server.connections.lookup sockfd = some conn)
    (hfresh : ∀ l' out, l.handleRead id sockfd conn t = .ok (l', out) →
      l.kernel.descriptors.Fresh (descriptorMoves out)) :
    (∃ fault, l.handleRead id sockfd conn t = .error (.callback fault)) ∨
      ∃ gaveUp l' out, l.handleRead id sockfd conn t = .ok (l', out) ∧ Sound l l' out ∧
        Called l sockfd id gaveUp l' out := by
  by_cases hnothing : t.received = []
  · have hread : l.handleRead id sockfd conn t =
        .ok (l.handleDisconnection sockfd, [.called id, .givenUp id]) := if_pos hnothing
    exact Or.inr ⟨true, _, _, hread, disconnection_turned h hid⟩
  unfold handleRead at hfresh ⊢
  rw [if_neg hnothing] at hfresh ⊢
  cases hread : conn.handleRead t.world l.server.media t.received with
  | error fault => exact Or.inl ⟨fault, rfl⟩
  | ok r =>
    simp only [hread] at hfresh ⊢
    have hopens := hfresh _ _ rfl
    rw [← readLog, descriptorMoves_readLog] at hopens
    obtain ⟨hclean, hconsistent⟩ := h.read hid hconn hread hopens
    refine Or.inr ⟨!r.ok, _, l.readLog id conn.rtsp r, rfl,
      ⟨?_, ?_, ?_, fun hm => ?_, ?_, fun other hm => ?_⟩,
      hid, ?_, ?_, ?_, ?_, ?_, fun {other} hm => ?_, count_readLog⟩
    · cases r.ok
      · exact hconsistent.disconnect sockfd
      · exact hconsistent
    · rw [descriptorMoves_readLog]
      cases r.ok <;> exact Kernel.moves_descriptors _ _
    · rw [descriptorMoves_readLog]
      exact hclean
    · rcases mem_readLog hm with heq | hin | heq
      · cases heq
      · exact h.shown_unregistered hclean readMoves_mover
          ⟨fun _ => Owner.noConfusion, fun heq => Owner.noConfusion heq⟩ hin
      · cases heq
    · rw [descriptorMoves_readLog]
      exact readMoves_within
    · rcases mem_readLog hm with heq | hin | heq
      · cases heq
      · obtain ⟨m, -, heq⟩ := mem_shown hin
        cases heq
      · cases heq
    · cases r.ok <;> rfl
    · cases r.ok <;> rfl
    · cases r.ok <;> rfl
    · cases r.ok
      · rfl
      · exact (List.append_nil _).symm
    · cases r.ok <;> rfl
    · rcases mem_readLog hm with heq | hin | heq
      · cases heq
        rfl
      · obtain ⟨m, -, heq⟩ := mem_shown hin
        cases heq
      · cases heq

/-- Further callbacks of the same connection, which only empty its output buffer. -/
theorem called_again {l l1 l2 : EventLoop} {sockfd id : Nat} {gaveUp : Bool}
    {out more : List LoopEffect} (hsound : Sound l l1 out) (h : Called l sockfd id gaveUp l1 out)
    (hmore : ∀ e ∈ more, e = .called id) (hconsistent : l2.Consistent) (hids : l2.ids = l1.ids)
    (hnextId : l2.nextId = l1.nextId) (heventMap : l2.eventMap = l1.eventMap)
    (hlist : l2.server.disconnectedList = l1.server.disconnectedList)
    (htriggerEvents : l2.triggerEvents = l1.triggerEvents) (hkernel : l2.kernel = l1.kernel) :
    Sound l l2 (out ++ more) ∧ Called l sockfd id gaveUp l2 (out ++ more) := by
  have hmoves : descriptorMoves (out ++ more) = descriptorMoves out := by
    have hnone : descriptorMoves more = [] := by
      refine List.filterMap_eq_nil_iff.mpr fun e he => ?_
      rw [hmore e he]
      rfl
    rw [descriptorMoves_append, hnone, List.append_nil]
  have hmem : ∀ {e}, e ∈ out ++ more → (∀ other, e ≠ .called other) → e ∈ out := by
    intro e he hne
    rcases List.mem_append.mp he with he | he
    · exact he
    · exact absurd (hmore e he) (hne id)
  constructor
  · refine ⟨hconsistent, ?_, ?_, fun hm => ?_, ?_, fun other hm => ?_⟩
    · rw [hkernel, hmoves]
      exact hsound.table
    · rw [hmoves]
      exact hsound.clean
    · exact hsound.unregistered (hmem hm fun _ => LoopEffect.noConfusion)
    · rw [hmoves]
      exact hsound.within
    · exact hsound.spared other (hmem hm fun _ => LoopEffect.noConfusion)
  · refine ⟨h.mine, hids.trans h.ids, hnextId.trans h.nextId, heventMap.trans h.eventMap,
      hlist.trans h.list, htriggerEvents.trans h.triggerEvents, fun {other} hm => ?_, fun other => ?_⟩
    · rcases List.mem_append.mp hm with hm | hm
      · exact h.calls hm
      · cases hmore _ hm
        rfl
    · have hnone : more.count (.givenUp other) = 0 := by
        rw [List.count_eq_zero]
        intro hm
        cases hmore _ hm
      rw [List.count_append, hnone]
      exact h.givenUps other

theorem handleWrite_called {l l1 : EventLoop} {sockfd id : Nat} {gaveUp : Bool}
    {out : List LoopEffect} (hsound : Sound l l1 out) (h : Called l sockfd id gaveUp l1 out) :
    Sound l (l1.handleWrite id sockfd).1 (out ++ (l1.handleWrite id sockfd).2) ∧
      Called l sockfd id gaveUp (l1.handleWrite id sockfd).1
        (out ++ (l1.handleWrite id sockfd).2) := by
  have hconsistent := hsound.consistent.write id sockfd
  unfold handleWrite at hconsistent ⊢
  cases hconn : l1.server.connections.lookup sockfd with
  | none =>
    simp only [hconn] at hconsistent ⊢
    exact called_again hsound h (fun e he => List.mem_singleton.mp he) hconsistent rfl rfl rfl rfl rfl
      rfl
  | some conn =>
    simp only [hconn] at hconsistent ⊢
    exact called_again hsound h (fun e he => List.mem_singleton.mp he) hconsistent rfl rfl rfl rfl rfl
      rfl

/-- What follows the callback for reading. -/
theorem afterRead_called {l l1 : EventLoop} {id sockfd : Nat} {gaveUp : Bool}
    {out : List LoopEffect} (r : Ready) (hsound : Sound l l1 out)
    (h : Called l sockfd id gaveUp l1 out) :
    let written := if r.isWrite then l1.handleWrite id sockfd else (l1, [])
    let shown := out ++ written.2 ++ if r.isError then [.called id] else []
    Sound l written.1 shown ∧ Called l sockfd id gaveUp written.1 shown := by
  have hwrite : Sound l (if r.isWrite then l1.handleWrite id sockfd else (l1, [])).1
      (out ++ (if r.isWrite then l1.handleWrite id sockfd else (l1, [])).2) ∧
      Called l sockfd id gaveUp (if r.isWrite then l1.handleWrite id sockfd else (l1, [])).1
        (out ++ (if r.isWrite then l1.handleWrite id sockfd else (l1, [])).2) := by
    cases r.isWrite with
    | true => exact handleWrite_called hsound h
    | false =>
      simp only [Bool.false_eq_true, if_false, List.append_nil]
      exact ⟨hsound, h⟩
  refine called_again hwrite.1 hwrite.2 (fun e he => ?_) hwrite.1.consistent rfl rfl rfl rfl rfl rfl
  split at he
  · exact List.mem_singleton.mp he
  · cases he

/-- `IOEvent::HandleEvent` of a connection. -/
theorem handleConnectionEvent_turned {l : EventLoop} (h : l.Consistent) {id sockfd : Nat}
    {conn : Connection} {r : Ready} {t : Turn} (hid : l.ids sockfd = some id)
    (hconn : l.server.connections.lookup sockfd = some conn)
    (hfresh : ∀ l' out, l.handleConnectionEvent id sockfd conn r t = .ok (l', out) →
      l.kernel.descriptors.Fresh (descriptorMoves out)) :
    (∃ fault, l.handleConnectionEvent id sockfd conn r t = .error (.callback fault)) ∨
      ∃ gaveUp l' out, l.handleConnectionEvent id sockfd conn r t = .ok (l', out) ∧
        Sound l l' out ∧ Called l sockfd id gaveUp l' out := by
  have hlast : ∀ l1 : EventLoop, descriptorMoves (if r.isWrite then
      l1.handleWrite id sockfd else (l1, [])).2 ++
      descriptorMoves (if r.isError then [LoopEffect.called id] else []) = [] := by
    intro l1
    have hwrite : (l1.handleWrite id sockfd).2 = [.called id] := by
      unfold handleWrite
      split <;> rfl
    cases r.isWrite <;> cases r.isError <;> simp [hwrite]
  unfold handleConnectionEvent at hfresh ⊢
  cases hisRead : r.isRead with
  | false =>
    simp only [hisRead, Bool.false_eq_true, if_false] at hfresh ⊢
    have hcalled : Called l sockfd id false l [] :=
      ⟨hid, rfl, rfl, rfl, (List.append_nil _).symm, rfl, fun hm => absurd hm List.not_mem_nil,
        fun _ => by simp⟩
    exact Or.inr ⟨false, _, _, rfl, afterRead_called r (sound_refl h) hcalled⟩
  | true =>
    simp only [hisRead, if_true] at hfresh ⊢
    have hopens : ∀ l' out, l.handleRead id sockfd conn t = .ok (l', out) →
        l.kernel.descriptors.Fresh (descriptorMoves out) := by
      intro l' out hread
      have hmoves := hfresh _ _ (by rw [hread])
      rw [descriptorMoves_append, descriptorMoves_append, List.append_assoc, hlast,
        List.append_nil] at hmoves
      exact hmoves
    rcases handleRead_turned h hid hconn hopens with ⟨fault, hread⟩ | ⟨gaveUp, l', out, hread, hsound, hcalled⟩
    · exact Or.inl ⟨fault, by rw [hread]⟩
    · refine Or.inr ⟨gaveUp, _, _, by rw [hread], afterRead_called r hsound hcalled⟩

/-- A sink's timer events leave the server as it is. -/
theorem run_packets {packets : List TimedPacket} : ∀ {s s' : Server} {effects : List Effect},
    run Server.step s (packets.map TimedPacket.act) = .ok (s', effects) → s' = s := by
  induction packets with
  | nil =>
    intro s s' effects h
    cases h
    rfl
  | cons p packets ih =>
    intro s s' effects h
    obtain ⟨m, first, rest, hstep, hrest, -⟩ := run_cons h
    have hm : m = s := by
      cases Server.step_outcome hstep <;> rfl
    rw [ih hrest, hm]

/-- **The body of `EpollEpoller::HandleEvent`** for a registered descriptor. -/
theorem handleEvent_turned {l : EventLoop} (h : l.Consistent) {r : Ready} {t : Turn}
    (hregistered : (l.eventMap r.fd).isSome = true)
    (hfresh : ∀ l' out, l.handleEvent r t = .ok (l', out) →
      l.kernel.descriptors.Fresh (descriptorMoves out)) :
    (∃ fault, l.handleEvent r t = .error (.callback fault)) ∨
      ∃ l' out, l.handleEvent r t = .ok (l', out) ∧ Sound l l' out ∧ Turned l r.fd l' out := by
  obtain ⟨callback, hcallback⟩ := Option.isSome_iff_exists.mp hregistered
  unfold handleEvent at hfresh ⊢
  rw [hcallback] at hfresh ⊢
  cases callback with
  | scheduler => exact Or.inr ⟨l, [], rfl, sound_refl h, turned_refl l r.fd⟩
  | timerManager =>
    dsimp only at hfresh ⊢
    split
    · cases hrun : run Server.step l.server (t.packets.map TimedPacket.act) with
      | error fault => exact Or.inl ⟨fault, rfl⟩
      | ok result =>
        obtain ⟨s, effects⟩ := result
        have hs := run_packets hrun
        subst hs
        exact Or.inr ⟨l, [], rfl, sound_refl h, turned_refl l r.fd⟩
    · exact Or.inr ⟨l, [], rfl, sound_refl h, turned_refl l r.fd⟩
  | acceptor =>
    dsimp only at hfresh ⊢
    cases hisRead : r.isRead with
    | false => exact Or.inr ⟨l, [], rfl, sound_refl h, turned_refl l r.fd⟩
    | true =>
      simp only [hisRead, if_true] at hfresh ⊢
      have hclosed : l.kernel.descriptors t.connfd = none := by
        have hmoves := hfresh _ _ rfl
        rw [descriptorMoves_append, descriptorMoves_shown] at hmoves
        exact hmoves.1
      obtain ⟨hevent, hids⟩ := h.registered_open hclosed
      rw [h.handleNewConnection_eq hclosed]
      refine Or.inr ⟨_, _, rfl, ⟨h.accept hclosed t.peer, rfl, ⟨hclosed, trivial⟩, fun hm => ?_,
        fun m hm => ?_, fun id hm => ?_⟩, .accepted t.connfd hids rfl rfl (fun fd hfd => ?_) rfl rfl fun id => ?_⟩
      · simp only [List.mem_cons, List.not_mem_nil, or_false] at hm
        rcases hm with heq | heq
        · cases heq
          rfl
        · cases heq
      · rw [List.mem_singleton.mp hm]
        trivial
      · simp at hm
      · change (Function.update l.eventMap t.connfd _ fd).isSome = true
        by_cases heq : fd = t.connfd
        · simp [heq]
        · rwa [Function.update_of_ne heq]
      · simp
  | connection id =>
    have hid : l.ids r.fd = some id := (h.events r.fd id).mp hcallback
    obtain ⟨conn, hconn⟩ : ∃ conn, l.server.connections.lookup r.fd = some conn := by
      rw [← Option.isSome_iff_exists, AList.lookup_isSome, h.known, hid]
      rfl
    simp only [hconn, hid, if_true] at hfresh ⊢
    rcases handleConnectionEvent_turned h hid hconn hfresh with hfault |
      ⟨gaveUp, l', out, hok, hsound, hcalled⟩
    · exact Or.inl hfault
    · exact Or.inr ⟨l', out, hok, hsound, .called id gaveUp hcalled⟩

/-! ## The calls of `main` -/

theorem session_idle {l : EventLoop} (h : l.Consistent) {call : SessionCall}
    (hfresh : ∀ l' out, l.step (.session call) = .ok (l', out) →
      l.kernel.descriptors.Fresh (descriptorMoves out)) :
    (∃ fault, l.step (.session call) = .error (.callback fault)) ∨
      ∃ l' out, l.step (.session call) = .ok (l', out) ∧ Sound l l' out ∧ Idle l l' out ∧
        l'.control = l.control := by
  simp only [step] at hfresh ⊢
  cases hstep : l.server.step call.act with
  | error fault => exact Or.inl ⟨fault, rfl⟩
  | ok result =>
    obtain ⟨s, effects⟩ := result
    simp only [hstep] at hfresh ⊢
    obtain ⟨hsettled, hrtp, hrtcp, hconnections, hlist, hopened⟩ :=
      Server.sessionCall_settled h.settled hstep
    have hopens := hfresh _ _ rfl
    rw [descriptorMoves_shown] at hopens
    have hacquire : ∀ m ∈ socketMoves (.session call.name) effects,
        ∃ fd, m = .acquire (.session call.name) fd := by
      intro m hm
      obtain ⟨e, he, hmove⟩ := List.mem_filterMap.mp hm
      obtain ⟨fd, rfl⟩ := hopened e he
      cases hmove
      exact ⟨fd, rfl⟩
    have hclean := Table.clean_acquires hopens fun m hm => ⟨_, hacquire m hm⟩
    have hconsistent := (h.withServer hsettled (fun fd => by rw [hconnections]) hrtp hrtcp).opened
      hopens hacquire
    refine Or.inr ⟨_, _, rfl, ⟨hconsistent, ?_, ?_, fun hm => ?_, fun m hm => ?_, fun id hm => ?_⟩,
      ⟨rfl, rfl, rfl, hlist, rfl, fun id => ⟨fun hm => ?_, fun hm => ?_⟩⟩, rfl⟩
    · rw [descriptorMoves_shown]
      exact Kernel.moves_descriptors _ _
    · rw [descriptorMoves_shown]
      exact hclean
    · exact h.shown_unregistered hclean socketMoves_mover
        ⟨fun _ => Owner.noConfusion, fun heq => Owner.noConfusion heq⟩ hm
    · rw [descriptorMoves_shown] at hm
      obtain ⟨fd, rfl⟩ := hacquire m hm
      trivial
    all_goals
      obtain ⟨m, -, heq⟩ := mem_shown hm
      cases heq

end EventLoop
end MyRtspServer.Net
