import MyRtspServer.Net.ClientReader
import MyRtspServer.Net.Interleaved

/-!
# The replies a client reads

A client that takes its stream apart gets the messages the kernel has taken, each once
and in order, in whatever pieces they arrive; and the replies among them carry the
numbers of its requests, in the order in which the server has accepted them.
-/
namespace MyRtspServer.Net

open Library Library.Octets Library.Lines Library.Transition Library.ShortWrite Library.Messages

/-! ## What a request is answered with -/

/-- Nothing is written or accepted, and no connection begins. -/
def Unwritten : Effect → Prop
  | .connected _ | .accepted _ _ | .reply _ _ _ | .frame _ _ _ _ => False
  | _ => True

/-- A handler writes nothing, or last of all its reply, and succeeds if that was sent. -/
inductive Answered (w : World) (c : RtspConnection) (r : Handled) : Prop
  | silent (quiet : ∀ e ∈ r.effects, Unwritten e)
      (ok : r.ok = true → c.request.method = .getParameter)
  | sent (before : List Effect) (message : Octets) (quiet : ∀ e ∈ before, Unwritten e)
      (effects : r.effects = before ++ [.reply c.sockFd message w.answer])
      (ok : r.ok = w.answer.isSome) (method : c.request.method ≠ .getParameter)
      (speaks : Speaks (some c.request.cseq) message)

namespace RtspConnection

variable {w : World} {m : Media} {c : RtspConnection} {r : Handled}

theorem respond_answered (m : Media) (c' : RtspConnection) {text : Octets}
    (hfd : c'.sockFd = c.sockFd) (hbuffer : c'.outputBuffer = [])
    (hmethod : c.request.method ≠ .getParameter)
    (hspeaks : Speaks (some c.request.cseq) (format text)) : Answered w c (respond w m c' text) := by
  refine .sent [] (format text) (fun _ he => by cases he) ?_ rfl hmethod hspeaks
  simp [respond, sendMessage, hfd, hbuffer]

theorem refused_answered (m : Media) (c' : RtspConnection) : Answered w c ⟨false, m, c', []⟩ :=
  .silent (fun _ he => by cases he) fun h => by cases h

theorem setupOverUdp_answered (name : Octets) (session : MediaSession) (track : TrackId)
    (hout : c.outputBuffer = []) (hmethod : c.request.method ≠ .getParameter) :
    Answered w c (setupOverUdp w m c name session track) := by
  have hquiet : ∀ e ∈ (openUdpPair w.udp 10 0).2, Unwritten e := by
    intro e he
    rcases openUdpPair_effects w.udp 10 0 e he with ⟨fd, rfl⟩ | ⟨fd, rfl⟩ <;> trivial
  unfold setupOverUdp
  rcases hpair : openUdpPair w.udp 10 0 with ⟨_ | ⟨rtpSockfd, rtpPort, rtcpSockfd, rtcpPort⟩, effects⟩
  · rw [hpair] at hquiet
    exact .silent hquiet fun h => by cases h
  · rw [hpair] at hquiet
    refine .sent effects _ hquiet ?_ rfl hmethod (c.speaks_setupUdpText rtpPort rtcpPort)
    simp [respond, sendMessage, setRtpInstance, setRtcpInstance, hout, setupUdpText,
      RtpInstance.getLocalPort, RtpInstance.createNewOverUdp]

/-- The group of a multicast session has a dotted address. -/
theorem printed_destAddr {session : MediaSession} (h : session.SdpSound) :
    Printed 15 session.getMulticastDestAddr := by
  unfold MediaSession.getMulticastDestAddr
  split
  · decide
  · exact (h.addr _ ‹_›).printed

theorem handleCmdSetup_answered (hready : EachSession SdpReady m) (hip : IsDotted w.localIp)
    (hout : c.outputBuffer = []) (hmethod : c.request.method ≠ .getParameter)
    (h : handleCmdSetup w m c = .ok r) : Answered w c r := by
  unfold handleCmdSetup at h
  split at h
  · cases h
  · cases h
    exact refused_answered m c
  split at h
  · cases h
    exact refused_answered m c
  rename_i session hsession
  split at h
  · cases h
  split at h
  · cases h
    exact refused_answered m c
  split at h
  · cases h
  split at h
  · cases h
  split at h
  · split at h
    · cases h
    · cases h
      exact respond_answered m c rfl hout hmethod (c.speaks_setupMulticastText
        (printed_destAddr (hready _ _ hsession).sound) hip.printed _)
  · split at h <;> cases h
    · exact respond_answered _ _ rfl hout hmethod c.speaks_setupTcpText
    · exact setupOverUdp_answered _ _ _ hout hmethod

theorem handleCmdDescribe_answered (hready : EachSession SdpReady m) (hip : IsDotted w.localIp)
    (htime : -2 ^ 63 ≤ w.time ∧ w.time < 2 ^ 63) (hout : c.outputBuffer = [])
    (hmethod : c.request.method ≠ .getParameter) (h : handleCmdDescribe w m c = .ok r) :
    Answered w c r := by
  unfold handleCmdDescribe at h
  split at h
  · cases h
    exact refused_answered m c
  rename_i session hsession
  dsimp only at h
  split at h
  · cases h
  rename_i sdp session' hsdp
  cases h
  obtain ⟨hwritten, -, -⟩ := (hready _ _ hsession).generated hip htime hsdp
  exact respond_answered _ _ rfl hout hmethod (c.speaks_describeText hwritten)

theorem handleCmdPlay_answered (hout : c.outputBuffer = [])
    (hmethod : c.request.method ≠ .getParameter) (h : handleCmdPlay w m c = .ok r) :
    Answered w c r := by
  have hreply : Answered w c (respond w m c c.playText) :=
    respond_answered m c rfl hout hmethod c.speaks_playText
  have hkept : r.effects = (respond w m c c.playText).effects ∧
      r.ok = (respond w m c c.playText).ok := by
    unfold handleCmdPlay at h
    dsimp only at h
    split at h
    · split at h
      · cases h
      split at h
      · cases h
      cases h
      exact ⟨rfl, rfl⟩
    · cases h
      exact ⟨rfl, rfl⟩
  cases hreply with
  | silent quiet ok => exact .silent (hkept.1 ▸ quiet) (hkept.2 ▸ ok)
  | sent before message quiet effects ok method speaks =>
    exact .sent before message quiet (hkept.1.trans effects) (hkept.2.trans ok) method speaks

/-- **Every handler answers with what a client can read**, or not at all. -/
theorem handleCmd_answered (hready : EachSession SdpReady m) (hip : IsDotted w.localIp)
    (htime : -2 ^ 63 ≤ w.time ∧ w.time < 2 ^ 63) (hout : c.outputBuffer = [])
    (h : handleCmd w m c = .ok r) : Answered w c r := by
  unfold handleCmd at h
  cases hmethod : c.request.method with
  | options =>
    rw [hmethod] at h
    cases h
    exact respond_answered m c rfl hout (by rw [hmethod]; decide) c.speaks_optionText
  | describe =>
    rw [hmethod] at h
    exact handleCmdDescribe_answered hready hip htime hout (by rw [hmethod]; decide) h
  | setup =>
    rw [hmethod] at h
    exact handleCmdSetup_answered hready hip hout (by rw [hmethod]; decide) h
  | play =>
    rw [hmethod] at h
    exact handleCmdPlay_answered hout (by rw [hmethod]; decide) h
  | teardown =>
    rw [hmethod] at h
    cases h
    exact respond_answered m c rfl hout (by rw [hmethod]; decide) c.speaks_plainText
  | getParameter =>
    rw [hmethod] at h
    cases h
    exact .silent (fun _ he => by cases he) fun _ => hmethod
  | pause =>
    rw [hmethod] at h
    cases h
    exact respond_answered m c rfl hout (by rw [hmethod]; decide) c.speaks_plainText
  | rtcp =>
    rw [hmethod] at h
    cases h
    exact refused_answered m c
  | none_ =>
    rw [hmethod] at h
    cases h
    exact refused_answered m c

end RtspConnection
/-! ## What is written on a connection -/

/-- The number a client finds in a message. -/
def numberIn (message : Octets) : Option UInt32 := (readMessage message).bind fun m => m.1.cseq

theorem Speaks.numberIn {number : Option UInt32} {message : Octets} (h : Speaks number message) :
    numberIn message = number := by
  obtain ⟨m, hm, rfl, rfl⟩ := h
  have hread : readMessage m.bytes = some (m, []) := hm.readsBack
  rw [Net.numberIn, hread]
  rfl

/-- The numbers in the replies that went out. -/
def sentNumbers (log : List (Write UInt8)) : List UInt32 :=
  log.filterMap fun w => if w.answer.isSome then numberIn w.offered else none

/-- The numbers of the requests, but for those that nothing answers. -/
def answeredNumbers (history : List Request) : List UInt32 :=
  (history.filter fun r => decide (r.method ≠ .getParameter)).map Request.cseq

theorem sentNumbers_concat (log : List (Write UInt8)) (w : Write UInt8) :
    sentNumbers (log ++ [w]) =
      sentNumbers log ++ (if w.answer.isSome then numberIn w.offered else none).toList := by
  rw [sentNumbers, List.filterMap_append]
  cases h : (if w.answer.isSome then numberIn w.offered else none) <;> simp [sentNumbers, h]

theorem answeredNumbers_concat (history : List Request) (request : Request) :
    answeredNumbers (history ++ [request]) =
      answeredNumbers history ++ if request.method = .getParameter then [] else [request.cseq] := by
  rw [answeredNumbers, List.filter_append, List.map_append]
  split
  · rename_i hmethod
    simp [answeredNumbers, hmethod]
  · rename_i hmethod
    simp [answeredNumbers, hmethod]

/-- All that is written can be read, and the replies are those to the requests, in order. -/
structure InOrder (history : List Request) (log : List (Write UInt8)) : Prop where
  readable : ∀ w ∈ log, ∃ number, Speaks number w.offered
  numbers : sentNumbers log = answeredNumbers history

theorem inOrder_nil : InOrder [] [] := ⟨fun _ hw => (List.not_mem_nil hw).elim, rfl⟩

/-- The effects keep every connection in order. -/
def Orderly (effects : List Effect) : Prop :=
  ∀ (history : Nat → List Request) (logs : Nat → List (Write UInt8)),
    (∀ fd, InOrder (history fd) (logs fd)) →
      ∀ fd, InOrder (effects.foldl seeAccepted history fd) (effects.foldl seeWrites logs fd)

theorem Orderly.append {effects later : List Effect} (h : Orderly effects) (h' : Orderly later) :
    Orderly (effects ++ later) := by
  intro history logs hin fd
  rw [List.foldl_append, List.foldl_append]
  exact h' _ _ (h _ _ hin) fd

theorem orderly_unwritten {effects : List Effect} (h : ∀ e ∈ effects, Unwritten e) :
    Orderly effects := by
  induction effects with
  | nil => exact fun _ _ hin => hin
  | cons e effects ih =>
    intro history logs hin fd
    have he := h e List.mem_cons_self
    have hrest : Orderly effects := ih fun e' he' => h e' (List.mem_cons_of_mem _ he')
    rw [List.foldl_cons, List.foldl_cons]
    cases e with
    | connected fd => cases he
    | accepted fd request => cases he
    | reply fd message answer => cases he
    | frame fd rtp message answer => cases he
    | _ => exact hrest _ _ hin fd

theorem orderly_single {e : Effect} (h : Unwritten e) : Orderly [e] :=
  orderly_unwritten fun _ he => List.mem_singleton.mp he ▸ h

theorem orderly_connected (connfd : Nat) : Orderly [.connected connfd] := by
  intro history logs hin fd
  simp only [List.foldl_cons, List.foldl_nil, seeAccepted, seeWrites, Function.update_apply]
  split
  · exact inOrder_nil
  · exact hin fd

/-- A message without a number. -/
theorem InOrder.frame {history : List Request} {log : List (Write UInt8)} (h : InOrder history log)
    {message : Octets} (answer : WriteAnswer) (hspeaks : Speaks none message) :
    InOrder history (log ++ [⟨message, answer⟩]) := by
  constructor
  · intro w hw
    rcases List.mem_append.mp hw with hw | hw
    · exact h.readable w hw
    · rw [List.mem_singleton.mp hw]
      exact ⟨none, hspeaks⟩
  · rw [sentNumbers_concat, hspeaks.numberIn, ite_self, h.numbers]
    exact List.append_nil _

/-- A request that nothing answers. -/
theorem InOrder.unanswered {history : List Request} {log : List (Write UInt8)}
    (h : InOrder history log) {request : Request} (hmethod : request.method = .getParameter) :
    InOrder (history ++ [request]) log := by
  refine ⟨h.readable, ?_⟩
  rw [h.numbers, answeredNumbers_concat, if_pos hmethod, List.append_nil]

/-- A reply, and the request it answers if it was sent. -/
theorem InOrder.answer {history : List Request} {log : List (Write UInt8)} (h : InOrder history log)
    {request : Request} {message : Octets} {answer : WriteAnswer}
    (hspeaks : Speaks (some request.cseq) message) (hmethod : request.method ≠ .getParameter) :
    InOrder (if answer.isSome then history ++ [request] else history)
      (log ++ [⟨message, answer⟩]) := by
  constructor
  · intro w hw
    rcases List.mem_append.mp hw with hw | hw
    · exact h.readable w hw
    · rw [List.mem_singleton.mp hw]
      exact ⟨_, hspeaks⟩
  · rw [sentNumbers_concat, hspeaks.numberIn, h.numbers]
    split
    · rw [answeredNumbers_concat, if_neg hmethod]
      rfl
    · exact List.append_nil _

theorem orderly_frame {fd rtp : Nat} {message : Octets} {answer : WriteAnswer}
    (hspeaks : Speaks none message) : Orderly [.frame fd rtp message answer] := by
  intro history logs hin other
  simp only [List.foldl_cons, List.foldl_nil, seeAccepted, seeWrites, Function.update_apply]
  split
  · rename_i heq
    subst heq
    exact (hin other).frame answer hspeaks
  · exact hin other

theorem orderly_unanswered {fd : Nat} {request : Request} (hmethod : request.method = .getParameter) :
    Orderly [.accepted fd request] := by
  intro history logs hin other
  simp only [List.foldl_cons, List.foldl_nil, seeAccepted, seeWrites, Function.update_apply]
  split
  · rename_i heq
    subst heq
    exact (hin other).unanswered hmethod
  · exact hin other

theorem orderly_answer {fd : Nat} {request : Request} {message : Octets} {answer : WriteAnswer}
    (hspeaks : Speaks (some request.cseq) message) (hmethod : request.method ≠ .getParameter) :
    Orderly [.reply fd message answer,
      if answer.isSome then .accepted fd request else .disconnected fd] := by
  intro history logs hin other
  by_cases heq : other = fd
  · subst heq
    have hanswer := @InOrder.answer _ _ (hin other) _ _ answer hspeaks hmethod
    cases answer <;> simpa [seeAccepted, seeWrites] using hanswer
  · cases answer <;> simpa [seeAccepted, seeWrites, Function.update_of_ne heq] using hin other

/-- Effects of which each keeps the connections in order. -/
theorem orderly_all {effects : List Effect} (h : ∀ e ∈ effects, Orderly [e]) : Orderly effects := by
  induction effects with
  | nil => exact fun _ _ hin => hin
  | cons e effects ih =>
    have hrest : Orderly effects := ih fun e' he' => h e' (List.mem_cons_of_mem _ he')
    exact (h e List.mem_cons_self).append hrest

/-- An interleaved packet can be read. -/
theorem speaks_frame {message : Octets} (h : IsFrame message) : Speaks none message := by
  obtain ⟨channel, hi, lo, payload, rfl, hlength⟩ := h
  have hhi := hi.toNat_lt
  have hlo := lo.toNat_lt
  have hdiv : payload.length / 256 = hi.toNat := by omega
  have hmod : payload.length % 256 = lo.toNat := by omega
  refine ⟨.frame channel payload, show payload.length < 2 ^ 16 by omega, ?_, rfl⟩
  rw [Incoming.bytes, hdiv, hmod, UInt8.ofNat_toNat, UInt8.ofNat_toNat]

/-- A message that begins with `$` is no reply. -/
theorem not_isReply_dollar {message : Octets} (h : message.head? = some 36) :
    ¬ RtspConnection.IsReply message := by
  rintro (⟨rest, rfl⟩ | ⟨rest, rfl⟩) <;> simp [ascii] at h

theorem orderly_send (i : RtpInstance) (rtp : Nat) (p : MediaPacket) (answer : WriteAnswer) :
    Orderly [(i.send rtp p answer).2] := by
  have hmessage := @send_writes i rtp p answer
  unfold RtpInstance.send at hmessage ⊢
  cases htransport : i.transport with
  | overUdp localPort destIp destPort => exact orderly_single trivial
  | overTcp channel =>
    simp only [htransport] at hmessage ⊢
    have hpre := Memory.load_store p.memory 0 (RtpInstance.interleavedPrefix channel p.size.toNat)
    change Memory.load _ 0 4 = _ at hpre
    have hdollar : ((p.memory.store 0 (RtpInstance.interleavedPrefix channel p.size.toNat)).load 0
        (p.size.toNat + 4)).head? = some 36 := by
      rw [Nat.add_comm p.size.toNat 4, Memory.load_add, hpre]
      rfl
    rcases hmessage with hreply | hframe
    · exact absurd hreply (not_isReply_dollar hdollar)
    · exact orderly_frame (speaks_frame hframe)

/-! ## Runs -/

/-- What the steps of a run keep, for a client to read its replies. -/
structure Answering (s : Server) : Prop where
  sessions : EachSession SdpReady s.media
  ownership : Ownership s.slotOf s.media
  registered : Registered s

namespace Server

theorem answering_empty : Answering {} := ⟨eachSession_empty, ownership_empty, registered_empty⟩

theorem step_answering {s s' : Server} {act : ServerAct} {effects : List Effect} (h : Answering s)
    (hdomain : SdpDomain act) (hstep : s.step act = .ok (s', effects)) : Answering s' :=
  ⟨sdpReady_invariant.step h.sessions hdomain hstep, step_ownership h.ownership hstep,
    step_registered h.registered hstep⟩

/-- **The step lemma**: each step leaves the connections in order. -/
theorem step_orderly {s s' : Server} {act : ServerAct} {effects : List Effect} (h : Answering s)
    (hdomain : SdpDomain act) (hstep : s.step act = .ok (s', effects)) : Orderly effects := by
  have hnone : Orderly [] := fun _ _ hin => hin
  cases step_outcome hstep with
  | ignored => exact hnone
  | session => exact hnone
  | sink => exact hnone
  | multicast name w m effects started =>
    refine orderly_unwritten fun e he => ?_
    obtain ⟨fd, rfl⟩ := started.all_opened e he
    trivial
  | accept connfd peer new => exact orderly_connected connfd
  | read sockfd bytes w conn r reported outcome =>
    obtain ⟨hlookup, -⟩ := readable_some reported
    cases outcome with
    | unhandled media slots sockFd outputBuffer effects =>
      rcases effects with ⟨heq, -⟩ | ⟨heq, -⟩
      · rw [heq]
        exact hnone
      · rw [heq]
        exact orderly_single (e := .disconnected conn.rtsp.sockFd) trivial
    | handled request buffer handled parsed handler result =>
      have hout : conn.rtsp.outputBuffer = [] := h.registered.outputBuffer hlookup
      have hdispatched : Orderly [.dispatched conn.rtsp.sockFd request] :=
        orderly_single trivial
      rw [result]
      refine @Orderly.append _ (_ ++ _) hdispatched ?_
      cases RtspConnection.handleCmd_answered (c := { conn.rtsp with request := request })
        h.sessions hdomain.1 hdomain.2 hout handler with
      | silent quiet ok =>
        refine (orderly_unwritten quiet).append ?_
        split
        · exact orderly_unanswered (ok ‹_›)
        · exact orderly_single (e := .disconnected conn.rtsp.sockFd) trivial
      | sent before message quiet effects ok method speaks =>
        rw [effects, ok, List.append_assoc]
        exact (orderly_unwritten quiet).append (orderly_answer speaks method)
  | hangup sockfd => exact orderly_single (e := .disconnected sockfd) trivial
  | trigger s'' effects destroyed =>
    refine orderly_unwritten fun e he => ?_
    have hteardown := destroyAll_teardown destroyed e he
    cases e <;> trivial
  | packet name track packet answers session effects registered sent =>
    refine orderly_all fun e he => ?_
    obtain ⟨rtp, i, p, n, -, -, -, rfl⟩ := sendPacket_sent sent e he
    exact orderly_send i rtp p (answers n)

/-- **The run lemma**: in every run all connections are in order. -/
theorem run_inOrder {acts : List ServerAct} (hdomain : ∀ act ∈ acts, SdpDomain act) {s : Server}
    {effects : List Effect} (hrun : run step {} acts = .ok (s, effects)) (fd : Nat) :
    InOrder (acceptedOn effects fd) (writesOn effects fd) := by
  have hkept := run_logged
    (fun s effects => Answering s ∧ ∀ fd, InOrder (acceptedOn effects fd) (writesOn effects fd))
    (fun s act s' log out h hdomain hstep => by
      refine ⟨step_answering h.1 hdomain hstep, ?_⟩
      unfold acceptedOn writesOn
      rw [List.foldl_append, List.foldl_append]
      exact step_orderly h.1 hdomain hstep _ _ h.2)
    (show _ ∧ ∀ fd, InOrder (acceptedOn [] fd) (writesOn [] fd) from
      ⟨answering_empty, fun _ => inOrder_nil⟩) (meets_of_forall hdomain) hrun
  exact hkept.2 fd

end Server

/-- Messages that can be read. -/
theorem exists_incoming {messages : List Octets} (h : ∀ m ∈ messages, ∃ number, Speaks number m) :
    ∃ incoming : List Incoming, (∀ m ∈ incoming, m.WellFormed) ∧
      incoming.map Incoming.bytes = messages := by
  induction messages with
  | nil => exact ⟨[], fun _ hm => (List.not_mem_nil hm).elim, rfl⟩
  | cons message messages ih =>
    obtain ⟨number, first, hfirst, hbytes, -⟩ := h message List.mem_cons_self
    obtain ⟨rest, hrest, hmap⟩ := ih fun m hm => h m (List.mem_cons_of_mem _ hm)
    refine ⟨first :: rest, fun m hm => ?_, by rw [List.map_cons, hbytes, hmap]⟩
    rcases List.mem_cons.mp hm with rfl | hm
    · exact hfirst
    · exact hrest m hm

/-- **A stream of readable messages is taken apart** into those that were taken whole. -/
theorem readPieces_delivered {log : List (Write UInt8)}
    (hread : ∀ w ∈ log, ∃ number, Speaks number w.offered) (hcut : NothingAfterCut log)
    {pieces : List Octets} (hpieces : pieces.flatten = arrived log) :
    (readPieces readMessage [] pieces).1.map Incoming.bytes = delivered log ∧
      LeftOver log (readPieces readMessage [] pieces).2 ∧
        ∀ m ∈ (readPieces readMessage [] pieces).1, m.WellFormed := by
  obtain ⟨piece, harrived, hleft⟩ := arrived_delivered hcut
  have hdelivered : ∀ m ∈ delivered log, ∃ number, Speaks number m := by
    intro m hm
    obtain ⟨w, hw, rfl⟩ := List.mem_map.mp hm
    exact hread w (List.mem_filter.mp hw).1
  obtain ⟨incoming, hwell, hbytes⟩ := exists_incoming hdelivered
  have hnone : readMessage piece = none := by
    rcases hleft with rfl | ⟨w, hw, hprefix, hless⟩
    · exact readMessage_incremental.nil
    · obtain ⟨number, m, hm, hmessage, -⟩ := hread w hw
      rw [← hmessage] at hprefix hless
      exact hm.readsBack.cut readMessage_incremental hprefix hless
  have hstream : pieces.flatten = incoming.flatMap Incoming.bytes ++ piece := by
    rw [hpieces, harrived, ← hbytes]
    rfl
  rw [readPieces_eq readMessage_incremental pieces readMessage_incremental.nil, List.nil_append,
    hstream, readAll_encoded readMessage_incremental (fun m hm => (hwell m hm).readsBack) hnone]
  exact ⟨hbytes, hleft, hwell⟩

/-- The numbers in what was taken whole. -/
theorem delivered_numbers {log : List (Write UInt8)}
    (hread : ∀ w ∈ log, ∃ number, Speaks number w.offered) :
    (delivered log).filterMap numberIn =
      sentNumbers (log.filter fun w => decide (w.taken = w.offered)) := by
  rw [delivered, offered, List.filterMap_map, sentNumbers]
  refine List.filterMap_congr fun w hw => ?_
  obtain ⟨hmem, hwhole⟩ := List.mem_filter.mp hw
  have hsome : w.answer.isSome = true := by
    cases hanswer : w.answer with
    | some k => rfl
    | none =>
      -- nothing was taken, but each message has bytes
      obtain ⟨number, m, hm, hbytes, -⟩ := hread w hmem
      have htaken : w.taken = [] := by rw [Write.taken, hanswer]
      have hback := hm.readsBack
      rw [ReadsBack, hbytes, ← of_decide_eq_true hwhole, htaken,
        readMessage_incremental.nil] at hback
      cases hback
  rw [if_pos hsome]
  rfl

theorem numbers_of_bytes {incoming : List Incoming} (h : ∀ m ∈ incoming, m.WellFormed) :
    (incoming.map Incoming.bytes).filterMap numberIn = incoming.filterMap Incoming.cseq := by
  rw [List.filterMap_map]
  exact List.filterMap_congr fun m hm => Speaks.numberIn ⟨m, h m hm, rfl, rfl⟩

namespace Server

/-- **A client reads the messages the kernel has taken whole**, in every run, on every
connection and however the stream is cut into pieces: each once and in order, and what is
left is less than one message. -/
theorem client_reads (acts : List ServerAct) (hdomain : ∀ act ∈ acts, SdpDomain act) (s : Server)
    (effects : List Effect) (hrun : run step {} acts = .ok (s, effects)) (fd : Nat)
    (seen : List (Write UInt8)) (hseen : seen <+: writesOn effects fd) (hcut : NothingAfterCut seen)
    (pieces : List Octets) (hpieces : pieces.flatten = arrived seen) :
    (readPieces readMessage [] pieces).1.map Incoming.bytes = delivered seen ∧
      LeftOver seen (readPieces readMessage [] pieces).2 := by
  have hread := (run_inOrder hdomain hrun fd).readable
  obtain ⟨hbytes, hleft, -⟩ :=
    readPieces_delivered (fun w hw => hread w (hseen.subset hw)) hcut hpieces
  exact ⟨hbytes, hleft⟩

/-- A client that plays over TCP, and two packets of which the second is cut. -/
def twoPackets : List ServerAct :=
  samplePlay ++ [samplePacketAct (some 4096), samplePacketAct (some 9)]

theorem twoPackets_domain : ∀ act ∈ twoPackets, SdpDomain act := by
  have hip : IsDotted sampleWorld.localIp := ⟨⟨10, 0, 0, 1⟩, by decide⟩
  intro act hact
  simp only [twoPackets, samplePlay, sampleSession, sampleConnect, sampleRequest, samplePacketAct,
    List.cons_append, List.nil_append, List.mem_cons, List.not_mem_nil, or_false] at hact
  rcases hact with rfl | rfl | rfl | rfl | rfl | rfl | rfl | rfl | rfl
  · trivial
  · exact ⟨rfl, by decide, by decide⟩
  · trivial
  · exact ⟨hip, by decide, by decide⟩
  · exact ⟨hip, by decide, by decide⟩
  · exact ⟨hip, by decide, by decide⟩
  · exact ⟨hip, by decide, by decide⟩
  · trivial
  · trivial

/-- One byte at a time. -/
theorem flatten_bytes (s : Octets) : (s.map fun b => [b]).flatten = s := by
  induction s with
  | nil => rfl
  | cons b s ih => rw [List.map_cons, List.flatten_cons, ih, List.singleton_append]

theorem client_reads_sample : ∃ s effects, run step {} twoPackets = .ok (s, effects) ∧
    (delivered (writesOn effects 7)).length = 5 ∧
    (readPieces readMessage [] ((arrived (writesOn effects 7)).map fun b => [b])).1.map
      Incoming.bytes = delivered (writesOn effects 7) := by
  obtain ⟨s, effects, hrun, hcheck⟩ := checkRun_true
    (show checkRun step {} twoPackets (fun _ effects =>
      decide (NothingAfterCut (writesOn effects 7)) &&
        decide ((delivered (writesOn effects 7)).length = 5)) = true by decide +kernel)
  rw [Bool.and_eq_true, decide_eq_true_iff, decide_eq_true_iff] at hcheck
  exact ⟨s, effects, hrun, hcheck.2, (client_reads twoPackets twoPackets_domain s effects hrun 7 _
    (List.prefix_refl _) hcheck.1 _ (flatten_bytes _)).1⟩

/-- **The replies a client reads are those to its requests**: their numbers are those of
requests the server has accepted, in the order in which it has, and no reply is missing
while the kernel takes all that is written. -/
theorem replies_in_order (acts : List ServerAct) (hdomain : ∀ act ∈ acts, SdpDomain act)
    (s : Server) (effects : List Effect) (hrun : run step {} acts = .ok (s, effects)) (fd : Nat)
    (seen : List (Write UInt8)) (hseen : seen <+: writesOn effects fd) (hcut : NothingAfterCut seen)
    (pieces : List Octets) (hpieces : pieces.flatten = arrived seen) :
    ((readPieces readMessage [] pieces).1.filterMap Incoming.cseq).Sublist
        (answeredNumbers (acceptedOn effects fd)) ∧
      (seen = writesOn effects fd → (∀ w ∈ seen, w.taken = w.offered) →
        (readPieces readMessage [] pieces).1.filterMap Incoming.cseq =
          answeredNumbers (acceptedOn effects fd)) := by
  have hin := run_inOrder hdomain hrun fd
  have hread : ∀ w ∈ seen, ∃ number, Speaks number w.offered := fun w hw =>
    hin.readable w (hseen.subset hw)
  obtain ⟨hbytes, -, hwell⟩ := readPieces_delivered hread hcut hpieces
  have hnumbers : (readPieces readMessage [] pieces).1.filterMap Incoming.cseq =
      sentNumbers (seen.filter fun w => decide (w.taken = w.offered)) := by
    rw [← numbers_of_bytes hwell, hbytes, delivered_numbers hread]
  rw [hnumbers, ← hin.numbers]
  constructor
  · exact (List.filter_sublist.trans hseen.sublist).filterMap _
  · intro hall hwhole
    rw [List.filter_eq_self.mpr fun w hw => decide_eq_true (hwhole w hw), hall]

/-- DESCRIBE, SETUP, PAUSE and PLAY, each numbered 1. -/
theorem replies_in_order_sample : ∃ s effects, run step {} samplePlay = .ok (s, effects) ∧
    (acceptedOn effects 7).length = 4 ∧
    (readPieces readMessage [] ((arrived (writesOn effects 7)).map fun b => [b])).1.filterMap
      Incoming.cseq = answeredNumbers (acceptedOn effects 7) := by
  have hdomain : ∀ act ∈ samplePlay, SdpDomain act := fun act hact =>
    twoPackets_domain act (List.mem_append_left _ hact)
  obtain ⟨s, effects, hrun, hcheck⟩ := checkRun_true
    (show checkRun step {} samplePlay (fun _ effects =>
      decide (NothingAfterCut (writesOn effects 7)) && decide ((acceptedOn effects 7).length = 4) &&
        decide (∀ w ∈ writesOn effects 7, w.taken = w.offered)) = true by decide +kernel)
  rw [Bool.and_eq_true, Bool.and_eq_true, decide_eq_true_iff, decide_eq_true_iff,
    decide_eq_true_iff] at hcheck
  exact ⟨s, effects, hrun, hcheck.1.2, (replies_in_order samplePlay hdomain s effects hrun 7 _
    (List.prefix_refl _) hcheck.1.1 _ (flatten_bytes _)).2 rfl hcheck.2⟩

end Server
end MyRtspServer.Net
