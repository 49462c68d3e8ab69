import MyRtspServer.Net.AacDelivery
import MyRtspServer.Net.Conversation
import MyRtspServer.Net.H264Delivery

/-!
# The program that `main` starts

A server with one session, "live", and a pipeline for each of its two tracks. Workers
read the files while the event loop serves clients and hands finished frames to the
sinks; whatever a sink sends goes to the session at once.
-/
namespace MyRtspServer.Net

open Library Library.Octets Library.AnnexB Library.Transition

/-! ## Packets on their way to the session -/

/-- The packet object behind what the send callback gets. -/
def SentPacket.rtp (q : SentPacket) : RtpPacket :=
  { memory := Memory.store (fun _ => 0) rtpBufferOffset q.bytes, size := q.size }

/-- The packet lies in its allocation. -/
structure SentPacket.Fits (q : SentPacket) : Prop where
  size : q.size = q.bytes.length
  room : rtpBufferOffset + q.bytes.length ≤ rtpAllocation

instance (q : SentPacket) : Decidable q.Fits :=
  decidable_of_iff (q.size = q.bytes.length ∧ rtpBufferOffset + q.bytes.length ≤ rtpAllocation)
    ⟨fun h => ⟨h.1, h.2⟩, fun h => ⟨h.size, h.room⟩⟩

def SentPacket.media (q : SentPacket) (h : q.Fits) : MediaPacket :=
  { q.rtp with
    nonneg := by
      have hsize := h.size
      change 0 ≤ q.size
      omega
    fits := by
      have hsize := h.size
      have hroom := h.room
      change rtpBufferOffset + q.size ≤ rtpAllocation
      omega }

/-- A packet as it leaves an instance. -/
def RtpInstance.carrying (rtp : Nat) (i : RtpInstance) (q : SentPacket) : Sending :=
  match i.transport with
  | .overUdp _ ip port => ⟨rtp, i.sockFd, some (ip, port), q.bytes⟩
  | .overTcp channel =>
    ⟨rtp, i.sockFd, none, RtpInstance.interleavedPrefix channel q.bytes.length ++ q.bytes⟩

theorem sending_rtp {q : SentPacket} (h : q.Fits) (rtp : Nat) (i : RtpInstance) :
    RtpInstance.sending q.rtp rtp i = i.carrying rtp q := by
  have hsize : q.rtp.size.toNat = q.bytes.length := by
    change q.size.toNat = _
    rw [h.size, Int.toNat_natCast]
  have hbytes : q.rtp.rtpBytes = q.bytes := by
    rw [RtpPacket.rtpBytes, hsize]
    exact Memory.load_store _ _ _
  cases htransport : i.transport <;>
    simp only [RtpInstance.sending, RtpInstance.carrying, htransport, hbytes, hsize]

theorem packets_fit {payloads : List Octets}
    (h : ∀ payload ∈ payloads, rtpPayloadOffset + payload.length ≤ rtpAllocation) :
    ∀ (base : RtpSink), ∀ q ∈ base.packets payloads, q.Fits := by
  induction payloads with
  | nil =>
    intro base q hq
    cases hq
  | cons payload rest ih =>
    intro base q hq
    rcases List.mem_cons.mp hq with rfl | hq
    · have hroom := h payload List.mem_cons_self
      have hlength : (base.packet payload).bytes.length = rtpHeaderSize + payload.length := by
        rw [RtpSink.packet, List.length_append, RtpSink.header_length]
      refine ⟨?_, ?_⟩
      · rw [hlength]
        rfl
      · rw [hlength, ← Nat.add_assoc]
        exact hroom
    · exact ih (fun p hp => h p (List.mem_cons_of_mem _ hp)) _ q hq

theorem H264RtpSink.payloads_room {frame : AVFrame} :
    ∀ payload ∈ payloads frame, rtpPayloadOffset + payload.length ≤ rtpAllocation := by
  have hmax : rtpPayloadOffset + (2 + rtpMaxPktSize) ≤ rtpAllocation := by decide
  have hfragment : ∀ {naluType header : UInt8} {pos size : Nat}, size ≤ rtpMaxPktSize →
      rtpPayloadOffset + (fragmentPayload frame naluType header pos size).length ≤
        rtpAllocation := by
    intro naluType header pos size hsize
    rw [fragmentPayload, List.length_cons, List.length_cons, Memory.load_length]
    omega
  intro payload hpayload
  unfold payloads at hpayload
  dsimp only at hpayload
  split at hpayload
  · rename_i hshort
    rw [List.mem_singleton.mp hpayload, Memory.load_length]
    omega
  rcases List.mem_append.mp hpayload with hloop | hlast
  · obtain ⟨i, -, rfl⟩ := List.mem_map.mp hloop
    exact hfragment (Nat.le_refl _)
  · split at hlast
    · rw [List.mem_singleton.mp hlast]
      exact hfragment (Nat.le_of_lt (Nat.mod_lt _ (by decide)))
    · cases hlast

/-- **Whatever a sink sends lies in its allocation.** -/
theorem Sink.handleFrame_fit {sink sink' : Sink} {frame : AVFrame} {sent : List SentPacket}
    (h : sink.handleFrame frame = .ok (sink', sent)) : ∀ q ∈ sent, q.Fits := by
  cases sink with
  | h264 sink =>
    simp only [handleFrame] at h
    split at h
    · cases h
    rename_i r hr
    cases h
    rw [(H264RtpSink.handled_of_ok hr).sent]
    exact packets_fit H264RtpSink.payloads_room _
  | aac sink =>
    simp only [handleFrame] at h
    split at h
    · cases h
    rename_i r hr
    cases h
    obtain ⟨hpos, hroom, -⟩ := AACRtpSink.handleFrame_fits hr
    rw [(AACRtpSink.handled_of_ok hr).sent]
    refine packets_fit (fun payload hpayload => ?_) _
    rw [List.mem_singleton.mp hpayload]
    simp only [List.length_cons, Memory.load_length]
    omega

/-- **Whatever a pipeline sends lies in its allocation.** -/
theorem Pipeline.sent_fit {p p' : Pipeline} {act : PipelineAct} {events : List DeliveryEvent}
    (h : p.stepSending act = .ok (p', events)) : ∀ q ∈ sentOf events, q.Fits := by
  intro q hq
  cases act with
  | handleFrame =>
    simp only [stepSending] at h
    split at h
    · cases h
    rename_i p1 sent hsend
    cases h
    rw [sentOf_sent] at hq
    rcases sendFrame_cases hsend with ⟨-, rfl, -⟩ | ⟨i, sink, -, hhandle, -⟩
    · cases hq
    · exact Sink.handleFrame_fit hhandle q hq
  | _ =>
    simp only [stepSending] at h
    split at h
    · cases h
    · cases h
      rw [sentOf_frame] at hq
      cases hq

/-! ## The program -/

/-- The name of the session. -/
def live : Octets := ascii "live"

structure Program where
  server : Server
  pipelines : TrackId → Pipeline

/-- What the network and the trigger phase do to the server. -/
inductive NetworkAct where
  | accept (connfd : Nat) (peer : Accepted)
  | read (sockfd : Nat) (bytes : Octets) (world : World)
  | hangup (sockfd : Nat)
  | trigger

def NetworkAct.act : NetworkAct → ServerAct
  | .accept connfd peer => .accept connfd peer
  | .read sockfd bytes world => .read sockfd bytes world
  | .hangup sockfd => .hangup sockfd
  | .trigger => .trigger

/-- A step of the server, or one of the pipeline of a track; for each packet it sends,
the answers to its writes. -/
inductive ProgramAct where
  | network (act : NetworkAct)
  | pipeline (track : TrackId) (act : PipelineAct) (answers : Nat → Nat → WriteAnswer)

inductive ProgramFault where
  | server (fault : Fault)
  | pipeline (fault : RtpFault)

inductive ProgramEvent where
  | server (effect : Effect)
  | pipeline (track : TrackId) (event : DeliveryEvent)

/-- `SendPacketCallback`, for one packet after the other. -/
def callbacks (track : TrackId) (answers : Nat → Nat → WriteAnswer) :
    Nat → List SentPacket → List ServerAct
  | _, [] => []
  | k, q :: rest =>
    let later := callbacks track answers (k + 1) rest
    if h : q.Fits then .packet live track (q.media h) (answers k) :: later else later

namespace Program

def step (p : Program) : ProgramAct → Except ProgramFault (Program × List ProgramEvent)
  | .network act =>
    match p.server.step act.act with
    | .error e => .error (.server e)
    | .ok (s, effects) => .ok ({ p with server := s }, effects.map .server)
  | .pipeline track act answers =>
    match (p.pipelines track).stepSending act with
    | .error e => .error (.pipeline e)
    | .ok (q, events) =>
      match run Server.step p.server (callbacks track answers 0 (sentOf events)) with
      | .error e => .error (.server e)
      | .ok (s, effects) =>
        .ok ({ server := s, pipelines := Function.update p.pipelines track q },
          events.map (.pipeline track) ++ effects.map .server)

end Program

/-! ## What is seen of the server, and of a pipeline -/

def effectsOf : List ProgramEvent → List Effect
  | [] => []
  | .server effect :: events => effect :: effectsOf events
  | .pipeline _ _ :: events => effectsOf events

def eventsOn (track : TrackId) : List ProgramEvent → List DeliveryEvent
  | [] => []
  | .server _ :: events => eventsOn track events
  | .pipeline t event :: events =>
    if t = track then event :: eventsOn track events else eventsOn track events

theorem effectsOf_append (a b : List ProgramEvent) :
    effectsOf (a ++ b) = effectsOf a ++ effectsOf b := by
  induction a with
  | nil => rfl
  | cons e a ih => cases e <;> simp [effectsOf, ih]

theorem eventsOn_append (track : TrackId) (a b : List ProgramEvent) :
    eventsOn track (a ++ b) = eventsOn track a ++ eventsOn track b := by
  induction a with
  | nil => rfl
  | cons e a ih =>
    cases e with
    | server effect => exact ih
    | pipeline t event =>
      simp only [List.cons_append, eventsOn, ih]
      split <;> rfl

@[simp] theorem effectsOf_server (effects : List Effect) :
    effectsOf (effects.map .server) = effects := by
  induction effects with
  | nil => rfl
  | cons e effects ih => exact congrArg (e :: ·) ih

@[simp] theorem effectsOf_pipeline (track : TrackId) (events : List DeliveryEvent) :
    effectsOf (events.map (.pipeline track)) = [] := by
  induction events with
  | nil => rfl
  | cons e events ih => exact ih

@[simp] theorem eventsOn_server (track : TrackId) (effects : List Effect) :
    eventsOn track (effects.map .server) = [] := by
  induction effects with
  | nil => rfl
  | cons e effects ih => exact ih

theorem eventsOn_pipeline (track t : TrackId) (events : List DeliveryEvent) :
    eventsOn track (events.map (.pipeline t)) = if t = track then events else [] := by
  induction events with
  | nil => split <;> rfl
  | cons e events ih =>
    rw [List.map_cons, eventsOn, ih]
    split <;> rfl

/-- The packets of a track. -/
def packetsOn (track : TrackId) (events : List ProgramEvent) : List SentPacket :=
  sentOf (eventsOn track events)

theorem packetsOn_append (track : TrackId) (a b : List ProgramEvent) :
    packetsOn track (a ++ b) = packetsOn track a ++ packetsOn track b := by
  rw [packetsOn, eventsOn_append, sentOf_append]
  rfl

/-- The packets of a track, as the session gets them. -/
theorem packetsOf_callbacks (track t : TrackId) (answers : Nat → Nat → WriteAnswer)
    {sent : List SentPacket} (h : ∀ q ∈ sent, q.Fits) : ∀ k,
      packetsOf live track (callbacks t answers k sent) =
        if t = track then sent.map SentPacket.rtp else [] := by
  induction sent with
  | nil => exact fun _ => by split <;> rfl
  | cons q sent ih =>
    intro k
    have hrest := ih (fun q hq => h q (List.mem_cons_of_mem _ hq)) (k + 1)
    rw [callbacks, dif_pos (h q List.mem_cons_self), packetsOf, List.filterMap_cons]
    rw [packetsOf] at hrest
    by_cases ht : t = track
    · rw [if_pos ht] at hrest ⊢
      rw [hrest, ServerAct.packetOf, if_pos ⟨rfl, ht⟩]
      rfl
    · rw [if_neg ht] at hrest ⊢
      rw [hrest, ServerAct.packetOf, if_neg fun heq => ht heq.2]

namespace Program

variable {p p' : Program} {act : ProgramAct} {events : List ProgramEvent}

/-- **The inversion of a step.** -/
inductive StepOutcome (p : Program) : ProgramAct → Program → List ProgramEvent → Prop
  | network (act : NetworkAct) (s : Server) (effects : List Effect)
      (done : p.server.step act.act = .ok (s, effects)) :
      StepOutcome p (.network act) { p with server := s } (effects.map .server)
  | pipeline (track : TrackId) (act : PipelineAct) (answers : Nat → Nat → WriteAnswer)
      (q : Pipeline) (events : List DeliveryEvent) (s : Server) (effects : List Effect)
      (moved : (p.pipelines track).stepSending act = .ok (q, events))
      (done : run Server.step p.server (callbacks track answers 0 (sentOf events)) =
        .ok (s, effects)) :
      StepOutcome p (.pipeline track act answers)
        { server := s, pipelines := Function.update p.pipelines track q }
        (events.map (.pipeline track) ++ effects.map .server)

theorem step_outcome (h : p.step act = .ok (p', events)) : StepOutcome p act p' events := by
  cases act with
  | network act =>
    simp only [step] at h
    split at h
    · cases h
    rename_i s effects hdone
    cases h
    exact .network act s effects hdone
  | pipeline track act answers =>
    simp only [step] at h
    split at h
    · cases h
    rename_i q sent hmoved
    split at h
    · cases h
    rename_i s effects hdone
    cases h
    exact .pipeline track act answers q sent s effects hmoved hdone

end Program
end MyRtspServer.Net
