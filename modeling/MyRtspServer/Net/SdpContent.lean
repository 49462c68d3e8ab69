import MyRtspServer.Net.Replies

/-!
# What the SDP text is made from

`GenerateSdpDescription` prints a head, and one section for each live track. The
data it takes from the session are few, and all of them are short: no text comes
near the end of its buffer.
-/
namespace MyRtspServer.Net

open Library Library.Octets Library.Lines RtspConnection

/-- An address as `inet_ntoa` gets it. -/
structure Ipv4 where
  a : UInt8
  b : UInt8
  c : UInt8
  d : UInt8

/-- `inet_ntoa`. -/
def Ipv4.text (ip : Ipv4) : Octets :=
  dec ip.a.toNat ++ ascii "." ++ dec ip.b.toNat ++ ascii "." ++ dec ip.c.toNat ++ ascii "." ++
    dec ip.d.toNat

/-- The text is a dotted address. -/
def IsDotted (s : Octets) : Prop := ∃ ip : Ipv4, s = ip.text

/-- The values the constructors of the sinks leave in their members, for any source. -/
def Sink.Built : Sink → Prop
  | .h264 s => s.clockRate = 90000 ∧ -2 ^ 31 ≤ s.fps ∧ s.fps < 2 ^ 31
  | .aac s => -2 ^ 31 ≤ s.fps ∧ s.fps < 2 ^ 31

/-! ## The content -/

/-- What is printed for a live track. -/
structure SdpSection where
  track : TrackId
  media : Octets
  connection : Octets
  attributes : Octets
  deriving DecidableEq

def SdpSection.text (s : SdpSection) : Octets :=
  encodeLines [s.media, ascii "c=IN IP4 " ++ s.connection, s.attributes,
    ascii "a=control:track" ++ dec s.track]

structure SdpContent where
  localIp : Octets
  isMulticast : Bool
  sections : List SdpSection
  deriving DecidableEq

/-- The lines in front of the sections. -/
def SdpContent.head (c : SdpContent) (time : Int) : List Octets :=
  [ascii "v=0", ascii "o=- 9" ++ intDec time ++ ascii " 1 IN IP4 " ++ c.localIp, ascii "t=0 0",
    ascii "a=control:*", ascii "a=type:broadcast"] ++
    if c.isMulticast then [ascii "a=rtcp-unicast: reflection"] else []

/-- The text of the content, with a time stamp. -/
def SdpContent.text (c : SdpContent) (time : Int) : Octets :=
  encodeLines (c.head time) ++ c.sections.flatMap SdpSection.text

namespace MediaSession

/-- The port in the section of a track: that of its multicast instance, if there is one. -/
def sdpPort (s : MediaSession) (instances : AList fun _ : Nat => RtpInstance) (track : TrackId) :
    UInt16 :=
  match s.multicast with
  | none => 0
  | some group => ((instances.lookup (group.rtpInstances track)).map RtpInstance.getPeerPort).getD 0

def sdpSection (s : MediaSession) (instances : AList fun _ : Nat => RtpInstance) (track : TrackId)
    (sink : Sink) : SdpSection :=
  { track := track
    media := sink.getMediaDescription (s.sdpPort instances track)
    connection := match s.multicast with
      | none => ascii "0.0.0.0"
      | some group => group.addr ++ ascii "/255"
    attributes := sink.getAttribute }

/-- One section for each live track, in the order of the tracks. -/
def sdpContent (s : MediaSession) (instances : AList fun _ : Nat => RtpInstance)
    (localIp : Octets) : SdpContent :=
  { localIp := localIp
    isMulticast := s.isStartMulticast
    sections := [0, 1].filterMap fun track =>
      (s.tracks track).rtpSink.map (s.sdpSection instances track) }

/-- The instances of a multicast session are there. -/
def GroupLive (s : MediaSession) (instances : AList fun _ : Nat => RtpInstance) : Prop :=
  ∀ group, s.multicast = some group → ∀ track, group.rtpInstances track ∈ instances

/-- What a session is made of in the program. -/
structure SdpSound (s : MediaSession) : Prop where
  sinks : ∀ track sink, (s.tracks track).rtpSink = some sink → sink.Built
  addr : ∀ group, s.multicast = some group → IsDotted group.addr

end MediaSession

/-! ## The lengths -/

theorem Ipv4.printed (ip : Ipv4) : Printed 15 ip.text := by
  have hdot : Printed 1 (ascii ".") := by decide
  exact ((((((printed_u8 ip.a).append hdot).append (printed_u8 ip.b)).append hdot).append
    (printed_u8 ip.c)).append hdot).append (printed_u8 ip.d)

theorem IsDotted.printed {s : Octets} (h : IsDotted s) : Printed 15 s := by
  obtain ⟨ip, rfl⟩ := h
  exact ip.printed

theorem printed_uint32 (n : UInt32) : Printed 10 (dec n.toNat) :=
  printed_dec (Nat.lt_trans n.toNat_lt (by decide))

theorem printed_int32 {i : Int} (hlow : -2 ^ 31 ≤ i) (hhigh : i < 2 ^ 31) : Printed 11 (intDec i) :=
  printed_intDec (by omega)

theorem printed_int64 {i : Int} (hlow : -2 ^ 63 ≤ i) (hhigh : i < 2 ^ 63) : Printed 20 (intDec i) :=
  printed_intDec (by omega)

theorem Sink.printed_media (s : Sink) (port : UInt16) : Printed 25 (s.getMediaDescription port) := by
  have hnumbers : ∀ n : UInt8,
      Printed 17 (dec port.toNat ++ (ascii " RTP/AVP " ++ dec n.toNat)) := fun n =>
    (printed_u16 port).append ((show Printed 9 (ascii " RTP/AVP ") by decide).append
      (printed_u8 n))
  cases s with
  | h264 sink =>
    have hvideo : Printed 8 (ascii "m=video ") := by decide
    simpa only [Sink.getMediaDescription, H264RtpSink.getMediaDescription, List.append_assoc] using
      hvideo.append (hnumbers sink.base.payloadType)
  | aac sink =>
    have haudio : Printed 8 (ascii "m=audio ") := by decide
    simpa only [Sink.getMediaDescription, AACRtpSink.getMediaDescription, List.append_assoc] using
      haudio.append (hnumbers sink.base.payloadType)

theorem H264RtpSink.written_attribute {s : H264RtpSink} (h : (Sink.h264 s).Built) :
    Written 48 s.getAttribute := by
  obtain ⟨hclock, hlow, hhigh⟩ := h
  have hrate : intDec (90000 : Int) = ascii "90000" := by decide
  have hmap : Written 9 (ascii "a=rtpmap:") := by decide
  have hcodec : Written 13 (ascii " H264/" ++ (ascii "90000" ++ ascii "\r\n")) := by decide
  have hframes : Written 12 (ascii "a=framerate:") := by decide
  rw [H264RtpSink.getAttribute, hclock, hrate]
  simpa only [List.append_assoc] using (hmap.append (printed_u8 s.base.payloadType).written).append
    (hcodec.append (hframes.append (printed_int32 hlow hhigh).written))

/-- The text in `buf` at the end of `GetAttribute`, whether or not it is returned. -/
def AACRtpSink.attributeBuffer (s : AACRtpSink) : Octets :=
  let index := aacSampleRate.findIdx (· = s.sampleRate)
  ascii "a=rtpmap:97 mpeg4-generic/" ++ dec s.sampleRate.toNat ++ ascii "/" ++
    dec s.channels.toNat ++ ascii "\r\n" ++
    if index = 16 then []
    else ascii "a=fmtp:" ++ dec s.base.payloadType.toNat ++
      ascii " profile-level-id=1;mode=AAC-hbr;sizelength=13;indexlength=3;indexdeltalength=3;" ++
      ascii "config=" ++ s.configNumber index

theorem AACRtpSink.getAttribute_buffer (s : AACRtpSink) :
    s.getAttribute = [] ∨ s.getAttribute = s.attributeBuffer := by
  unfold getAttribute attributeBuffer
  dsimp only
  split
  · exact Or.inl rfl
  · right
    simp only [List.append_assoc]

theorem AACRtpSink.printed_config (s : AACRtpSink) (index : Nat) : Printed 4 (s.config index) :=
  (printed_hex 2 _).append (printed_hex 2 _)

/-- Four digits are enough for what `atoi` reads from four. -/
theorem AACRtpSink.printed_configNumber (s : AACRtpSink) (index : Nat) :
    Printed 4 (s.configNumber index) := by
  have hdigits : ∀ b ∈ (s.config index).takeWhile isDigit, isDigit b = true :=
    fun b hb => List.mem_takeWhile_imp hb
  have hfew : ((s.config index).takeWhile isDigit).length ≤ 4 :=
    Nat.le_trans (List.takeWhile_prefix _).length_le (s.printed_config index).1
  have hlt : decValue ((s.config index).takeWhile isDigit) < 10 ^ 4 :=
    Nat.lt_of_lt_of_le (decValue_lt hdigits) (Nat.pow_le_pow_right (by decide) hfew)
  have hdec : Printed 4 (dec (decValue ((s.config index).takeWhile isDigit))) := printed_dec hlt
  have hzeros : ∀ n, Printed n (List.replicate n 48) := fun n =>
    ⟨(List.length_replicate ..).le, List.all_eq_true.mpr fun b hb => by
      rw [List.eq_of_mem_replicate hb]
      decide⟩
  refine ⟨?_, ((hzeros _).append hdec).2⟩
  have hlength := hdec.1
  rw [configNumber, List.length_append, List.length_replicate]
  omega

theorem AACRtpSink.written_attributeBuffer (s : AACRtpSink) : Written 152 s.attributeBuffer := by
  have hmap : Written 26 (ascii "a=rtpmap:97 mpeg4-generic/") := by decide
  have hslash : Written 1 (ascii "/") := by decide
  have hend : Written 2 (ascii "\r\n") := by decide
  have hfmtp : Written 7 (ascii "a=fmtp:") := by decide
  have hmode : Written 80 (ascii
      " profile-level-id=1;mode=AAC-hbr;sizelength=13;indexlength=3;indexdeltalength=3;") := by decide
  have hconfig : Written 7 (ascii "config=") := by decide
  have hfirst := (((hmap.append (printed_uint32 s.sampleRate).written).append hslash).append
    (printed_uint32 s.channels).written).append hend
  unfold attributeBuffer
  dsimp only
  split
  · rw [List.append_nil]
    exact hfirst.mono (by decide)
  · exact (hfirst.append ((((hfmtp.append (printed_u8 s.base.payloadType).written).append
      hmode).append hconfig).append (s.printed_configNumber _).written)).mono (by decide)

theorem AACRtpSink.written_attribute (s : AACRtpSink) : Written 152 s.getAttribute := by
  rcases s.getAttribute_buffer with hnone | hsome
  · rw [hnone]
    exact ⟨Nat.zero_le _, List.not_mem_nil⟩
  · rw [hsome]
    exact s.written_attributeBuffer

theorem Sink.Built.written_attribute {s : Sink} (h : s.Built) : Written 152 s.getAttribute := by
  cases s with
  | h264 sink => exact (H264RtpSink.written_attribute h).mono (by decide)
  | aac sink => exact sink.written_attribute

/-! ## The text is the content -/

/-- The bounds of what a content is made from. -/
structure SdpContent.Short (c : SdpContent) : Prop where
  localIp : Written 15 c.localIp
  media : ∀ part ∈ c.sections, Written 25 part.media
  connection : ∀ part ∈ c.sections, Written 19 part.connection
  attributes : ∀ part ∈ c.sections, Written 152 part.attributes
  few : c.sections.length ≤ 2

theorem printed_track (track : TrackId) : Printed 1 (dec track) :=
  printed_dec (Nat.lt_trans track.isLt (by decide))

theorem written_section {part : SdpSection} (hmedia : Written 25 part.media)
    (hconnection : Written 19 part.connection) (hattributes : Written 152 part.attributes) :
    Written 616 part.text := by
  have hline : Written 9 (ascii "c=IN IP4 ") := by decide
  have hcontrol : Written 15 (ascii "a=control:track") := by decide
  refine written_encodeLines (k := 152) (n := 4) (fun l hl => ?_) (Nat.le_refl 4)
  simp only [List.mem_cons, List.not_mem_nil, or_false] at hl
  rcases hl with rfl | rfl | rfl | rfl
  · exact hmedia.mono (by decide)
  · exact (hline.append hconnection).mono (by decide)
  · exact hattributes
  · exact (hcontrol.append (printed_track part.track).written).mono (by decide)

theorem SdpContent.Short.written_head {c : SdpContent} (h : c.Short) {time : Int}
    (htime : -2 ^ 63 ≤ time ∧ time < 2 ^ 63) : ∀ l ∈ c.head time, Written 50 l := by
  have horigin : Written 50 (ascii "o=- 9" ++ intDec time ++ ascii " 1 IN IP4 " ++ c.localIp) := by
    have hfirst : Written 5 (ascii "o=- 9") := by decide
    have hsecond : Written 10 (ascii " 1 IN IP4 ") := by decide
    exact ((hfirst.append (printed_int64 htime.1 htime.2).written).append hsecond).append h.localIp
  intro l hl
  rcases List.mem_append.mp hl with hl | hl
  · simp only [List.mem_cons, List.not_mem_nil, or_false] at hl
    rcases hl with rfl | rfl | rfl | rfl | rfl
    · decide
    · exact horigin
    · decide
    · decide
    · decide
  · split at hl
    · rw [List.mem_singleton] at hl
      subst hl
      decide
    · cases hl

theorem SdpContent.head_length (c : SdpContent) (time : Int) : (c.head time).length ≤ 6 := by
  unfold head
  split <;> simp

theorem SdpContent.text_ne_nil (c : SdpContent) (time : Int) : c.text time ≠ [] := by
  simp [SdpContent.text, SdpContent.head, ascii]

/-- **The whole text is shorter than any buffer it goes through.** -/
theorem SdpContent.Short.written {c : SdpContent} (h : c.Short) {time : Int}
    (htime : -2 ^ 63 ≤ time ∧ time < 2 ^ 63) : Written 1544 (c.text time) := by
  have hhead : Written 312 (encodeLines (c.head time)) :=
    written_encodeLines (n := 6) (h.written_head htime) (c.head_length time)
  have hsections : Written 1232 (c.sections.flatMap SdpSection.text) :=
    Written.flatMap (k := 616) (n := 2) (fun part hpart => written_section (h.media part hpart)
      (h.connection part hpart) (h.attributes part hpart)) h.few
  exact hhead.append hsections

namespace MediaSession

theorem printed_connection {s : MediaSession} (hs : s.SdpSound)
    (instances : AList fun _ : Nat => RtpInstance) (track : TrackId) (sink : Sink) :
    Printed 19 (s.sdpSection instances track sink).connection := by
  unfold sdpSection
  dsimp only
  split
  · decide
  · rename_i group hgroup
    exact (hs.addr group hgroup).printed.append (show Printed 4 (ascii "/255") by decide)

theorem SdpSound.short {s : MediaSession} (hs : s.SdpSound)
    (instances : AList fun _ : Nat => RtpInstance) {localIp : Octets} (hip : IsDotted localIp) :
    (s.sdpContent instances localIp).Short := by
  have hparts : ∀ part ∈ (s.sdpContent instances localIp).sections, ∃ track sink,
      (s.tracks track).rtpSink = some sink ∧ part = s.sdpSection instances track sink := by
    intro part hpart
    obtain ⟨track, -, hfound⟩ := List.mem_filterMap.mp hpart
    obtain ⟨sink, hsink, rfl⟩ := Option.map_eq_some_iff.mp hfound
    exact ⟨track, sink, hsink, rfl⟩
  refine ⟨hip.printed.written, fun part hpart => ?_, fun part hpart => ?_, fun part hpart => ?_,
    List.length_filterMap_le _ _⟩
  · obtain ⟨track, sink, -, rfl⟩ := hparts part hpart
    exact (sink.printed_media _).written
  · obtain ⟨track, sink, -, rfl⟩ := hparts part hpart
    exact (printed_connection hs instances track sink).written
  · obtain ⟨track, sink, hsink, rfl⟩ := hparts part hpart
    exact (hs.sinks track sink hsink).written_attribute

/-- The port that is asked for. -/
theorem sdpPort_of_ok {s : MediaSession} {instances : AList fun _ : Nat => RtpInstance}
    {track : TrackId} {port : UInt16}
    (h : (if s.isStartMulticast then s.getMulticastDestRtpPort instances track else .ok 0) =
      .ok port) : port = s.sdpPort instances track := by
  unfold isStartMulticast getMulticastDestRtpPort at h
  unfold sdpPort
  cases hgroup : s.multicast with
  | none =>
    rw [hgroup] at h
    cases h
    rfl
  | some group =>
    rw [hgroup] at h
    simp only [Option.isSome_some, if_true] at h
    split at h
    · cases h
    · rename_i i hi
      cases h
      simp only [hi, Option.map_some, Option.getD_some]

theorem trackDescription_ok {s : MediaSession} {instances : AList fun _ : Nat => RtpInstance}
    (hlive : s.GroupLive instances) (track : TrackId) :
    ∃ text, s.trackDescription instances track = .ok text := by
  unfold trackDescription isStartMulticast getMulticastDestRtpPort
  split
  · exact ⟨_, rfl⟩
  cases hgroup : s.multicast with
  | none => exact ⟨_, rfl⟩
  | some group =>
    obtain ⟨i, hi⟩ := Option.isSome_iff_exists.mp
      (AList.lookup_isSome.mpr (hlive group hgroup track))
    simp only [hi, Option.isSome_some, if_true]
    exact ⟨_, rfl⟩

/-- The text of one track. -/
theorem trackDescription_section {s : MediaSession} (hs : s.SdpSound)
    {instances : AList fun _ : Nat => RtpInstance} {track : TrackId} {text : Octets}
    (h : s.trackDescription instances track = .ok text) :
    text = ((s.tracks track).rtpSink.map (s.sdpSection instances track)).toList.flatMap
      SdpSection.text := by
  unfold trackDescription at h
  cases hsink : (s.tracks track).rtpSink with
  | none =>
    rw [hsink] at h
    cases h
    rfl
  | some sink =>
    rw [hsink] at h
    dsimp only at h
    split at h
    · cases h
    rename_i port hport
    obtain rfl := sdpPort_of_ok hport
    cases h
    have hmedia := (sink.printed_media (s.sdpPort instances track)).written.cstr
    have hattributes := (hs.sinks track sink hsink).written_attribute.cstr
    have hconnection : (if s.isStartMulticast then
          ascii "c=IN IP4 " ++ cstr s.getMulticastDestAddr ++ ascii "/255\r\n"
        else ascii "c=IN IP4 0.0.0.0\r\n") =
        ascii "c=IN IP4 " ++ (s.sdpSection instances track sink).connection ++ crlf := by
      unfold isStartMulticast getMulticastDestAddr sdpSection
      cases hgroup : s.multicast with
      | none =>
        have hzero : ascii "c=IN IP4 0.0.0.0\r\n" = ascii "c=IN IP4 " ++ ascii "0.0.0.0" ++ crlf := by
          decide
        exact hzero
      | some group =>
        have haddr := (hs.addr group hgroup).printed.written.cstr
        have hend : ascii "/255\r\n" = ascii "/255" ++ crlf := by decide
        simp only [Option.isSome_some, if_true, haddr, hend, List.append_assoc]
    rw [hmedia, hattributes, hconnection]
    simp only [Option.map_some, Option.toList_some, List.flatMap_singleton, SdpSection.text,
      encodeLines_cons, encodeLines_nil, List.append_nil, List.append_assoc]
    rfl

theorem flatMap_filterMap_two {α β : Type} (f : TrackId → Option α) (g : α → List β) :
    ([0, 1].filterMap f).flatMap g = (f 0).toList.flatMap g ++ (f 1).toList.flatMap g := by
  cases h0 : f 0 <;> cases h1 : f 1 <;> simp [h0, h1]

theorem sdpText_ok {s : MediaSession} {instances : AList fun _ : Nat => RtpInstance}
    (hlive : s.GroupLive instances) (localIp : Octets) (time : Int) :
    ∃ text, s.sdpText instances localIp time = .ok text := by
  obtain ⟨track0, h0⟩ := trackDescription_ok hlive 0
  obtain ⟨track1, h1⟩ := trackDescription_ok hlive 1
  unfold sdpText
  rw [h0, h1]
  exact ⟨_, rfl⟩

theorem generateSdpDescription_ok {s : MediaSession}
    {instances : AList fun _ : Nat => RtpInstance} (hlive : s.GroupLive instances)
    (localIp : Octets) (time : Int) :
    ∃ sdp s', s.generateSdpDescription instances localIp time = .ok (sdp, s') := by
  obtain ⟨text, htext⟩ := sdpText_ok hlive localIp time
  unfold generateSdpDescription
  split
  · exact ⟨_, _, rfl⟩
  · rw [htext]
    exact ⟨_, _, rfl⟩

/-- **What is built is the whole text of the content.** -/
theorem sdpText_content {s : MediaSession} (hs : s.SdpSound)
    {instances : AList fun _ : Nat => RtpInstance} {localIp text : Octets} (hip : IsDotted localIp)
    {time : Int} (htime : -2 ^ 63 ≤ time ∧ time < 2 ^ 63)
    (h : s.sdpText instances localIp time = .ok text) :
    text = (s.sdpContent instances localIp).text time := by
  have hwhole : (s.sdpContent instances localIp).text time =
      ascii "v=0\r\no=- 9" ++ intDec time ++ ascii " 1 IN IP4 " ++ cstr localIp ++
        ascii "\r\nt=0 0\r\na=control:*\r\na=type:broadcast\r\n" ++
        (if s.isStartMulticast then ascii "a=rtcp-unicast: reflection\r\n" else []) ++
        ((s.tracks 0).rtpSink.map (s.sdpSection instances 0)).toList.flatMap SdpSection.text ++
        ((s.tracks 1).rtpSink.map (s.sdpSection instances 1)).toList.flatMap SdpSection.text := by
    have hfirst : ascii "v=0\r\no=- 9" = ascii "v=0" ++ (crlf ++ ascii "o=- 9") := by decide
    have hmiddle : ascii "\r\nt=0 0\r\na=control:*\r\na=type:broadcast\r\n" = crlf ++
        (ascii "t=0 0" ++ (crlf ++ (ascii "a=control:*" ++ (crlf ++ (ascii "a=type:broadcast" ++
          crlf))))) := by decide
    have hlast : ascii "a=rtcp-unicast: reflection\r\n" = ascii "a=rtcp-unicast: reflection" ++ crlf := by
      decide
    have hmore : encodeLines (if s.isStartMulticast then [ascii "a=rtcp-unicast: reflection"] else [])
        = if s.isStartMulticast then ascii "a=rtcp-unicast: reflection\r\n" else [] := by
      rw [hlast]
      split <;> simp only [encodeLines_cons, encodeLines_nil, List.append_nil]
    rw [SdpContent.text, SdpContent.head, encodeLines_append, sdpContent, hmore,
      flatMap_filterMap_two, hip.printed.written.cstr, hfirst, hmiddle]
    simp only [encodeLines_cons, encodeLines_nil, List.append_nil, List.append_assoc]
  have hfits := ((hs.short instances hip).written htime).length
  unfold sdpText at h
  split at h
  · cases h
  rename_i track0 h0
  split at h
  · cases h
  rename_i track1 h1
  cases h
  rw [trackDescription_section hs h0, trackDescription_section hs h1, ← hwhole]
  exact List.take_of_length_le (Nat.le_trans hfits (by decide))

end MediaSession
end MyRtspServer.Net
