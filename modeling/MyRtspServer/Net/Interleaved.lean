import MyRtspServer.Library.ShortWrite
import MyRtspServer.Net.Streaming

/-!
# The byte stream of an interleaved connection

`SendMessage` and `SendOverTcp` write to the same socket and neither looks at how
much was taken: `Buffer::Write` throws the rest of a reply away, and a packet is
never tried again. What arrives consists of whole messages only until one of
them is cut and another write is taken.
-/
namespace MyRtspServer.Net

open Library Library.Octets Library.Transition Library.ShortWrite

/-! ## What is written -/

/-- The writes to each socket, since its connection was accepted. -/
def seeWrites (logs : Nat → List (Write UInt8)) : Effect → Nat → List (Write UInt8)
  | .connected fd => Function.update logs fd []
  | .reply fd message answer | .frame fd _ message answer =>
    Function.update logs fd (logs fd ++ [⟨message, answer⟩])
  | _ => logs

def writesOn (effects : List Effect) : Nat → List (Write UInt8) :=
  effects.foldl seeWrites fun _ => []

/-- `$`, a channel, the length of the payload in two bytes, and the payload. -/
def IsFrame (message : Octets) : Prop :=
  ∃ channel hi lo payload, message = 36 :: channel :: hi :: lo :: payload ∧
    payload.length = hi.toNat * 256 + lo.toNat

/-- A whole reply or a whole packet. -/
def IsMessage (message : Octets) : Prop := RtspConnection.IsReply message ∨ IsFrame message

/-- Effects that write write messages. -/
def WritesMessage : Effect → Prop
  | .reply _ message _ | .frame _ _ message _ => IsMessage message
  | _ => True

theorem writes_messages {effects : List Effect} (h : ∀ e ∈ effects, WritesMessage e) :
    ∀ {logs : Nat → List (Write UInt8)}, (∀ fd, ∀ w ∈ logs fd, IsMessage w.offered) →
      ∀ fd, ∀ w ∈ effects.foldl seeWrites logs fd, IsMessage w.offered := by
  induction effects with
  | nil => exact fun hlogs => hlogs
  | cons e effects ih =>
    intro logs hlogs
    rw [List.foldl_cons]
    refine ih (fun e' he' => h e' (List.mem_cons_of_mem _ he')) fun fd w hw => ?_
    have he := h e List.mem_cons_self
    have hwrite : ∀ {sockfd message answer}, IsMessage message →
        w ∈ Function.update logs sockfd (logs sockfd ++ [⟨message, answer⟩]) fd →
        IsMessage w.offered := by
      intro sockfd message answer hm hw
      rw [Function.update_apply] at hw
      split at hw
      · rcases List.mem_append.mp hw with hw | hw
        · exact hlogs _ w hw
        · rw [List.mem_singleton.mp hw]
          exact hm
      · exact hlogs fd w hw
    cases e with
    | connected sockfd =>
      rw [seeWrites, Function.update_apply] at hw
      split at hw
      · cases hw
      · exact hlogs fd w hw
    | reply sockfd message answer => exact hwrite he hw
    | frame sockfd rtp message answer => exact hwrite he hw
    | _ => exact hlogs fd w hw

/-! ## The packets -/

theorem send_writes {i : RtpInstance} {rtp : Nat} {p : MediaPacket} {answer : WriteAnswer} :
    WritesMessage (i.send rtp p answer).2 := by
  unfold RtpInstance.send
  split
  · trivial
  · rename_i channel _
    refine Or.inr ?_
    have hsize : p.size.toNat < 2 ^ 16 := by
      have hfits := p.fits
      have hlen : rtpAllocation = 1512 := rfl
      omega
    rw [Nat.add_comm p.size.toNat 4, Memory.load_add]
    have hpre := Memory.load_store p.memory 0
      (RtpInstance.interleavedPrefix channel p.size.toNat)
    change Memory.load _ 0 4 = _ at hpre
    rw [hpre]
    refine ⟨_, _, _, _, rfl, ?_⟩
    exact (Memory.load_length _ _ _).trans (bigEndian_size hsize).symm

namespace Server

theorem step_writes {s s' : Server} {act : ServerAct} {effects : List Effect} (h : Registered s)
    (hstep : s.step act = .ok (s', effects)) : ∀ e ∈ effects, WritesMessage e := by
  intro e he
  cases step_outcome hstep with
  | ignored => cases he
  | session => cases he
  | sink => cases he
  | multicast name w m effects started =>
    obtain ⟨fd, rfl⟩ := started.all_opened e he
    trivial
  | accept connfd peer new =>
    rw [List.mem_singleton.mp he]
    trivial
  | read sockfd bytes w conn r reported outcome =>
    obtain ⟨hlookup, -⟩ := readable_some reported
    cases outcome with
    | unhandled media slots sockFd outputBuffer effects =>
      rcases effects with ⟨heq, -⟩ | ⟨heq, -⟩ <;> rw [heq] at he
      · cases he
      · rw [List.mem_singleton.mp he]
        trivial
    | handled request buffer handled parsed handler result =>
      rw [result] at he
      rcases List.mem_cons.mp he with rfl | he
      · trivial
      rcases List.mem_append.mp he with he | he
      · have hfrom := (RtspConnection.handleCmd_keeps handler).effects e he
        cases e with
        | reply fd message answer => exact Or.inl (hfrom.2 (h.outputBuffer hlookup))
        | frame fd rtp message answer => cases hfrom
        | _ => trivial
      · rw [List.mem_singleton.mp he]
        split <;> trivial
  | hangup =>
    rw [List.mem_singleton.mp he]
    trivial
  | trigger s'' effects destroyed =>
    have hteardown := destroyAll_teardown destroyed e he
    cases e <;> trivial
  | packet name track packet answers session effects registered sent =>
    obtain ⟨rtp, i, p, n, -, -, -, rfl⟩ := sendPacket_sent sent e he
    exact send_writes

/-! ## Runs -/

/-- What has been received on a socket is a prefix of whole replies and packets. -/
def StreamIntact (log : List (Write UInt8)) : Prop :=
  Whole log ∧ ∀ w ∈ log, IsMessage w.offered

/-- **The stream is intact** on every socket and at every moment, as long as the
kernel takes nothing after a message it has cut. -/
theorem stream_intact (acts : List ServerAct) (s : Server) (effects : List Effect)
    (hrun : run step {} acts = .ok (s, effects)) (fd : Nat) (seen : List (Write UInt8))
    (hseen : seen <+: writesOn effects fd) (hcut : NothingAfterCut seen) : StreamIntact seen := by
  have hwrites := run_outputs Registered WritesMessage
    (fun s act s' out hi _ hstep => ⟨step_registered hi hstep, step_writes hi hstep⟩)
    registered_empty meets_true hrun
  refine ⟨whole_of_nothingAfterCut hcut, fun w hw => ?_⟩
  exact writes_messages hwrites (fun _ _ hw => by cases hw) fd w (hseen.subset hw)

/-- Two packets to a client that plays, of which the first is cut. -/
def cutPacket : List ServerAct :=
  samplePlay ++ [samplePacketAct (some 9), samplePacketAct (some 4096)]

theorem stream_intact_sample :
    ∃ s effects, run step {} (samplePlay ++ [samplePacketAct (some 4096), samplePacketAct (some 9)]) =
      .ok (s, effects) ∧ StreamIntact (writesOn effects 7) := by
  obtain ⟨s, effects, hrun, hcheck⟩ := checkRun_true
    (show checkRun step {} (samplePlay ++ [samplePacketAct (some 4096), samplePacketAct (some 9)])
      (fun _ effects => decide (NothingAfterCut (writesOn effects 7))) = true by decide +kernel)
  exact ⟨s, effects, hrun, stream_intact _ s effects hrun 7 _ (List.prefix_refl _)
    (of_decide_eq_true hcheck)⟩

/-- The next packet begins in the middle of the one that was cut. -/
theorem cut_packet_desynchronises :
    ∃ s effects, run step {} cutPacket = .ok (s, effects) ∧
      ¬ StreamIntact (writesOn effects 7) := by
  obtain ⟨s, effects, hrun, hcheck⟩ := checkRun_true
    (show checkRun step {} cutPacket (fun _ effects =>
      decide (∀ m ∈ offered (writesOn effects 7), m ≠ []) && decide ((writesOn effects 7).length ≠ 0) &&
        !tiles (offered (writesOn effects 7)) (arrived (writesOn effects 7)).length
          (arrived (writesOn effects 7))) = true by decide +kernel)
  simp only [Bool.and_eq_true, decide_eq_true_eq, Bool.not_eq_true'] at hcheck
  obtain ⟨⟨hne, hsome⟩, htiles⟩ := hcheck
  refine ⟨s, effects, hrun, fun h => not_whole_of_tiles hne ?_ htiles h.1⟩
  exact fun hnil => hsome (by rw [hnil]; rfl)

end Server
end MyRtspServer.Net
