import MyRtspServer.Net.Replies

/-!
# One reply for each request

Every accepted request but GET_PARAMETER is answered once. The answer is a right
one with the number that was read for CSeq, except where `%d` prints a large one
as negative, and for SETUP of a multicast session.
-/
namespace MyRtspServer.Net

open Library Library.Octets Library.Lines Library.Scan Library.Transition

/-- What is handed to `SendMessage`, with the descriptor. -/
def repliesOf (effects : List Effect) : List (Nat × Octets) :=
  effects.filterMap fun
    | .reply fd message _ => some (fd, message)
    | _ => none

/-- Exactly one reply goes out, and it answers the request numbered `n`. -/
def OneReply (fd n : Nat) (effects : List Effect) : Prop :=
  ∃ message, repliesOf effects = [(fd, message)] ∧ Answers n message

/-- The method and the transport have a right answer for the number `n`. -/
def AnswerFits (m : Media) (c : RtspConnection) (request : Request) (n : Nat) : Prop :=
  match request.method with
  | .options | .describe => True
  | .setup => describedMulticast m c = false ∧ (request.isRtpOverTcp = true → n < 2 ^ 31)
  | .play | .pause | .teardown => n < 2 ^ 31
  | .getParameter | .rtcp | .none_ => False

/-! ## The handlers -/

theorem repliesOf_append (effects later : List Effect) :
    repliesOf (effects ++ later) = repliesOf effects ++ repliesOf later := List.filterMap_append

theorem oneReply_iff {fd n : Nat} {effects : List Effect} {message : Octets}
    (h : repliesOf effects = [(fd, message)]) : OneReply fd n effects ↔ Answers n message := by
  constructor
  · rintro ⟨message', hmessage, hanswers⟩
    rw [h, List.cons.injEq, Prod.mk.injEq] at hmessage
    rw [hmessage.1.2]
    exact hanswers
  · exact fun hanswers => ⟨message, h, hanswers⟩

theorem not_oneReply_nil {fd n : Nat} : ¬ OneReply fd n [] := by
  rintro ⟨message, hone, -⟩
  cases hone

namespace RtspConnection

variable {w : World} {m : Media} {c : RtspConnection} {r : Handled} {n : Nat}

theorem respond_replies (w : World) (m : Media) {c : RtspConnection} (c' : RtspConnection)
    (text : Octets)
    (hfd : c'.sockFd = c.sockFd) (hbuffer : c'.outputBuffer = c.outputBuffer)
    (hout : c.outputBuffer = []) :
    repliesOf (respond w m c' text).effects = [(c.sockFd, format text)] := by
  simp [respond, sendMessage, repliesOf, hfd, hbuffer, hout]

theorem openUdpPair_no_reply (udp : Nat → UdpAttempt) : repliesOf (openUdpPair udp 10 0).2 = [] := by
  rw [repliesOf, List.filterMap_eq_nil_iff]
  intro e he
  rcases openUdpPair_effects udp 10 0 e he with ⟨fd, rfl⟩ | ⟨fd, rfl⟩ <;> rfl

theorem setupOverTcp_replies {name : Octets} {session : MediaSession} {track : TrackId}
    (hout : c.outputBuffer = []) :
    repliesOf (setupOverTcp w m c name session track).effects =
      [(c.sockFd, format c.setupTcpText)] :=
  respond_replies w _ (c.setRtpInstance track _) _ rfl rfl hout

theorem setupOverUdp_replies {name : Octets} {session : MediaSession} {track : TrackId}
    (hout : c.outputBuffer = []) (hok : (setupOverUdp w m c name session track).ok = true) :
    ∃ rtpPort rtcpPort, repliesOf (setupOverUdp w m c name session track).effects =
      [(c.sockFd, format (c.setupUdpText rtpPort rtcpPort))] := by
  have hudp := openUdpPair_no_reply w.udp
  unfold setupOverUdp at hok ⊢
  rcases hpair : openUdpPair w.udp 10 0 with ⟨_ | ⟨rtpSockfd, rtpPort, rtcpSockfd, rtcpPort⟩, effects⟩
  · rw [hpair] at hok
    cases hok
  · rw [hpair] at hudp
    refine ⟨rtpPort, rtcpPort, ?_⟩
    dsimp only
    rw [repliesOf_append, hudp, List.nil_append]
    exact respond_replies w _ _ _ rfl rfl hout

theorem handleCmdSetup_oneReply (h : handleCmdSetup w m c = .ok r) (hok : r.ok = true)
    (hout : c.outputBuffer = []) :
    OneReply c.sockFd n r.effects ↔ c.request.cseq.toNat = n ∧
      describedMulticast m c = false ∧ (c.request.isRtpOverTcp = true → n < 2 ^ 31) := by
  cases handleCmdSetup_outcome h with
  | refused => cases hok
  | multicast session track port slot free multicast =>
    rw [oneReply_iff (respond_replies w m _ _ rfl rfl hout), multicast]
    simp [not_answers_setupMulticastText]
  | overTcp name session track registered slot free unicast tcp =>
    rw [oneReply_iff (setupOverTcp_replies hout), answers_setupTcpText, unicast]
    simp [tcp]
  | overUdp name session track registered slot free unicast udp =>
    obtain ⟨rtpPort, rtcpPort, hreplies⟩ := setupOverUdp_replies hout hok
    rw [oneReply_iff hreplies, answers_setupUdpText, unicast]
    simp [udp]

/-- **What each handler answers.** -/
theorem handleCmd_oneReply (h : handleCmd w m c = .ok r) (hok : r.ok = true)
    (hout : c.outputBuffer = []) :
    OneReply c.sockFd n r.effects ↔ c.request.cseq.toNat = n ∧ AnswerFits m c c.request n := by
  unfold handleCmd at h
  unfold AnswerFits
  cases hmethod : c.request.method with
  | options =>
    rw [hmethod] at h
    cases h
    simp only [and_true]
    exact (oneReply_iff (respond_replies w m _ _ rfl rfl hout)).trans (answers_optionText c)
  | describe =>
    rw [hmethod] at h
    simp only [and_true]
    cases handleCmdDescribe_outcome h with
    | unknown => cases hok
    | described session session' sdp =>
      have hreplies := respond_replies w (m.setSession c.request.suffix session')
        { c with session := some c.request.suffix } (c.describeText sdp) rfl rfl hout
      exact (oneReply_iff hreplies).trans (answers_describeText c sdp)
  | setup =>
    rw [hmethod] at h
    exact handleCmdSetup_oneReply h hok hout
  | play =>
    rw [hmethod] at h
    have hreply : OneReply c.sockFd n (respond w m c c.playText).effects ↔ _ :=
      (oneReply_iff (respond_replies w m _ _ rfl rfl hout)).trans (answers_playText c)
    cases handleCmdPlay_outcome h with
    | unsent => exact hreply
    | playing => exact hreply
  | teardown =>
    rw [hmethod] at h
    cases h
    exact (oneReply_iff (respond_replies w m _ _ rfl rfl hout)).trans (answers_plainText c)
  | getParameter =>
    rw [hmethod] at h
    cases h
    simp [not_oneReply_nil, handleCmdGetParamter]
  | pause =>
    rw [hmethod] at h
    cases h
    exact (oneReply_iff (respond_replies w m _ _ rfl rfl hout)).trans (answers_plainText c)
  | rtcp =>
    rw [hmethod] at h
    cases h
    cases hok
  | none_ =>
    rw [hmethod] at h
    cases h
    cases hok

end RtspConnection
/-! ## The number of a request -/

/-- The header block of what has arrived, as `ParseRequest` cuts it out. -/
def headerBlock (buffer : Octets) : Octets :=
  match splitFirst kCrlf buffer with
  | none => []
  | some (_, rest) =>
    match splitLast kCrlf (rest.drop 2) with
    | none => []
    | some (block, _) => block

namespace Request

theorem numberAfter_lt {name message : Octets} {n : Nat} (h : numberAfter name message = some n) :
    n < 2 ^ 32 := by
  unfold numberAfter at h
  split at h
  · cases h
  split at h
  · rename_i hscan
    cases h
    simp only [numberHeaderFormat, sscanf] at hscan
    split at hscan
    · cases hscan
    split at hscan
    · split at hscan
      · split at hscan
        · cases hscan
        · rename_i hnumber
          cases hscan
          exact scanUnsigned_lt hnumber
      · cases hscan
    · cases hscan
  · cases h

theorem parseCSeq_number {r r' : Request} {message : Octets} (h : r.parseCSeq message = (true, r')) :
    numberAfter (ascii "CSeq") message = some r'.cseq.toNat := by
  unfold parseCSeq at h
  split at h
  · rename_i n hn
    cases h
    rw [hn, UInt32.toNat_ofNat', Nat.mod_eq_of_lt (numberAfter_lt hn)]
  · cases h

theorem parseTransport_cseq (r : Request) (message : Octets) :
    (r.parseTransport message).2.cseq = r.cseq := by
  unfold parseTransport
  split
  · split
    · unfold parseInterleaved
      dsimp only
      split <;> rfl
    · split
      · unfold parseUdp
        split
        · split <;> rfl
        · rfl
      · rfl
  · rfl

theorem parseMediaTrack_cseq (r : Request) : r.parseMediaTrack.2.cseq = r.cseq := by
  unfold parseMediaTrack
  split
  · rfl
  · split <;> rfl

theorem parseRequest2_number {r r' : Request} {message : Octets}
    (h : r.parseRequest2 message = (true, r')) :
    numberAfter (ascii "CSeq") message = some r'.cseq.toNat := by
  unfold parseRequest2 at h
  split at h
  · cases h
  rename_i r1 hcseq
  have hnumber := parseCSeq_number hcseq
  split at h
  · obtain rfl := (Prod.mk.inj h).2
    exact hnumber
  · obtain rfl := (Prod.mk.inj h).2
    exact hnumber
  · have htransport := parseTransport_cseq r1 message
    split at h
    · cases h
    · rename_i r2 heq
      rw [heq] at htransport
      have htrack := parseMediaTrack_cseq r2
      rw [h] at htrack
      rw [hnumber, htrack, htransport]
  all_goals first
    | exact absurd (Prod.mk.inj h).1 Bool.false_ne_true
    | obtain rfl := (Prod.mk.inj h).2; exact hnumber

theorem parseRequest_number {r r' : Request} {buffer rest : Octets}
    (h : r.parseRequest buffer = .ok (true, r', rest)) :
    numberAfter (ascii "CSeq") (headerBlock buffer) = some r'.cseq.toNat := by
  unfold parseRequest at h
  split at h
  · cases h
  rename_i line rest1 hfirst
  split at h
  · cases h
  · cases h
  rename_i r1 _
  split at h
  · cases h
  rename_i block rest2 hlast
  have hblock : headerBlock buffer = block := by
    rw [headerBlock, hfirst]
    dsimp only
    rw [hlast]
  rw [hblock]
  split at h
  · cases h
  · rename_i r2 h2
    cases h
    exact parseRequest2_number h2

end Request

theorem nextRequest_number {c : Connection} {bytes : Octets} {request : Request}
    (h : c.nextRequest bytes = some request) :
    Request.numberAfter (ascii "CSeq") (headerBlock (c.inputBuffer ++ bytes)) =
      some request.cseq.toNat := by
  unfold Connection.nextRequest at h
  split at h
  · cases h
  · split at h
    · rename_i hparse
      cases h
      exact Request.parseRequest_number hparse
    · cases h

namespace Server

/-! ## Runs -/

/-- A read that accepts a request has handled it. -/
theorem accepted_handled {s s' : Server} {sockfd fd : Nat} {conn : Connection} {bytes : Octets}
    {w : World} {effects : List Effect} {request : Request} (hs : Registered s)
    (hconn : s.readable sockfd = some conn)
    (hstep : s.step (.read sockfd bytes w) = .ok (s', effects))
    (hacc : .accepted fd request ∈ effects) :
    ∃ r, conn.nextRequest bytes = some request ∧
      RtspConnection.handleCmd w s.media { conn.rtsp with request := request } = .ok r ∧
      r.ok = true ∧ repliesOf effects = repliesOf r.effects ∧ fd = sockfd := by
  obtain ⟨hlookup, -⟩ := readable_some hconn
  cases step_outcome hstep with
  | ignored => cases hacc
  | read sockfd bytes w conn' r reported outcome =>
    rw [hconn] at reported
    cases reported
    cases outcome with
    | unhandled media slots sockFd outputBuffer effects =>
      rcases effects with ⟨heq, -⟩ | ⟨heq, -⟩ <;> rw [heq] at hacc
      · cases hacc
      · cases List.mem_singleton.mp hacc
    | handled request' buffer handled parsed handler result =>
      rw [result] at hacc ⊢
      rcases List.mem_cons.mp hacc with heq | hacc
      · cases heq
      rcases List.mem_append.mp hacc with hfrom | hlast
      · exact ((RtspConnection.handleCmd_keeps handler).effects _ hfrom).elim
      · rw [List.mem_singleton] at hlast
        split at hlast
        · rename_i hok
          cases hlast
          refine ⟨handled, parsed, handler, hok, ?_, hs.sockFd hlookup⟩
          rw [if_pos hok]
          exact (repliesOf_append _ _).trans (List.append_nil _)
        · cases hlast

/-- **One right reply**, in every run and for every number: exactly when the
number is what is read behind the first `CSeq` of the header block, and the
answer to the request's method and transport can show it. -/
theorem one_reply_iff (acts : List ServerAct) (s : Server) (past : List Effect)
    (hrun : run step {} acts = .ok (s, past)) (fd : Nat) (conn : Connection) (bytes : Octets)
    (w : World) (hconn : s.readable fd = some conn) (s' : Server) (effects : List Effect)
    (hstep : s.step (.read fd bytes w) = .ok (s', effects)) (request : Request)
    (hacc : .accepted fd request ∈ effects) (n : Nat) :
    OneReply fd n effects ↔
      Request.numberAfter (ascii "CSeq") (headerBlock (conn.inputBuffer ++ bytes)) = some n ∧
        AnswerFits s.media conn.rtsp request n := by
  have hs := run_registered hrun
  obtain ⟨hlookup, -⟩ := readable_some hconn
  obtain ⟨r, hparsed, hhandler, hok, hreplies, -⟩ := accepted_handled hs hconn hstep hacc
  have hout := hs.outputBuffer hlookup
  have hreply := RtspConnection.handleCmd_oneReply (n := n) hhandler hok hout
  rw [nextRequest_number hparsed, Option.some.injEq]
  rw [OneReply, hreplies]
  rw [OneReply, hs.sockFd hlookup] at hreply
  exact hreply

/-- The server with one client, on descriptor 7. -/
def connected : Server :=
  handleNewConnection {} 7 { peerIp := ascii "10.0.0.2", sessionId := 77 }

/-- A request of that method has been accepted. -/
def acceptedMethod (method : Method) : Effect → Bool
  | .accepted 7 request => decide (request.method = method)
  | _ => false

theorem acceptedMethod_spec {method : Method} {effects : List Effect}
    (h : effects.any (acceptedMethod method) = true) :
    ∃ request, .accepted 7 request ∈ effects ∧ request.method = method := by
  obtain ⟨e, he, hm⟩ := List.any_eq_true.mp h
  unfold acceptedMethod at hm
  split at hm
  · exact ⟨_, he, of_decide_eq_true hm⟩
  · cases hm

theorem run_single {s s' : Server} {act : ServerAct} {effects : List Effect}
    (h : run step s [act] = .ok (s', effects)) : s.step act = .ok (s', effects) := by
  obtain ⟨m, first, rest, hstep, hnil, rfl⟩ := run_cons h
  cases hnil
  rw [List.append_nil]
  exact hstep

theorem one_reply_iff_sample :
    ∃ s' effects, connected.step (sampleRequest "OPTIONS rtsp://h/a" "") = .ok (s', effects) ∧
      OneReply 7 1 effects := by
  obtain ⟨s', effects, hrun, hany⟩ := checkRun_true
    (show checkRun step connected [sampleRequest "OPTIONS rtsp://h/a" ""]
      (fun _ effects => effects.any (acceptedMethod .options)) = true by decide +kernel)
  obtain ⟨request, hacc, hmethod⟩ := acceptedMethod_spec hany
  have hiff := one_reply_iff [sampleConnect] connected [.connected 7] rfl 7 _ _ sampleWorld rfl s'
    effects (run_single hrun) request hacc 1
  refine ⟨s', effects, run_single hrun, hiff.mpr ⟨by decide +kernel, ?_⟩⟩
  rw [AnswerFits, hmethod]
  trivial

/-- A TEARDOWN numbered 2^31. -/
def largeTeardown : ServerAct :=
  .read 7 (ascii "TEARDOWN rtsp://h/a RTSP/1.0\r\nCSeq: 2147483648\r\n\r\n") sampleWorld

/-- It is answered with `CSeq: -2147483648`. -/
theorem large_cseq_turns_negative :
    run step {} [sampleConnect] = .ok (connected, [.connected 7]) ∧
      ∃ s' effects request, connected.step largeTeardown = .ok (s', effects) ∧
        .accepted 7 request ∈ effects ∧ ¬ OneReply 7 2147483648 effects := by
  obtain ⟨s', effects, hrun, hcheck⟩ := checkRun_true
    (show checkRun step connected [largeTeardown] (fun _ effects =>
      effects.any (acceptedMethod .teardown) && decide (repliesOf effects =
        [(7, replyText [cseqHeader (ascii "-2147483648")] [])])) = true by decide +kernel)
  rw [Bool.and_eq_true] at hcheck
  obtain ⟨request, hacc, -⟩ := acceptedMethod_spec hcheck.1
  refine ⟨rfl, s', effects, request, run_single hrun, hacc, ?_⟩
  have hproper : ∀ h ∈ [cseqHeader (ascii "-2147483648")], Proper h := by
    intro h hh
    rw [List.mem_singleton.mp hh]
    exact (cseqHeader_fitting (by decide) (by decide)).proper
  rw [oneReply_iff (of_decide_eq_true hcheck.2), answers_replyText hproper,
    hasCSeq_cons fun _ hg => by cases hg]
  rintro ⟨-, hdigits, -⟩
  exact absurd (hdigits 45 (by decide)) (by decide)

end Server
end MyRtspServer.Net
