import MyRtspServer.Net.Replies
import MyRtspServer.Net.Segmentation

/-!
# The session identifier

The replies print `m_session_id_` with `%08x`. `ParseSessionId` reads a decimal number
behind the first text `Session` of the header block into a local variable, and nothing
compares it with anything. So the printed identifier is read back as itself below ten
only, and any other identifier that begins like a number sets the instances alive.
-/
namespace MyRtspServer.Net

open Library Library.Octets Library.Lines Library.Scan

/-! ## What the replies print -/

/-- The identifier as the replies print it. -/
def printedId (id : UInt32) : Octets := hex 8 id.toNat

namespace RtspConnection

/-- The Session header of the three replies to SETUP. -/
def sessionHeader (c : RtspConnection) : Octets :=
  crlf ++ (ascii "Session: " ++ (printedId c.sessionId ++ (crlf ++ crlf)))

theorem session_suffix (c : RtspConnection) (text : Octets) :
    c.sessionHeader <:+
      text ++ ascii "\r\nSession: " ++ hex 8 c.sessionId.toNat ++ ascii "\r\n\r\n" := by
  have hname : ascii "\r\nSession: " = crlf ++ ascii "Session: " := by decide
  refine ⟨text, ?_⟩
  rw [sessionHeader, printedId, hname, end_eq]
  simp only [List.append_assoc]

/-- **Each reply to SETUP ends with the printed identifier.** -/
theorem setup_prints (c : RtspConnection) (destAddr localIp : Octets) (port rtpPort rtcpPort : UInt16) :
    c.sessionHeader <:+ c.setupMulticastText destAddr localIp port ∧
      c.sessionHeader <:+ c.setupTcpText ∧ c.sessionHeader <:+ c.setupUdpText rtpPort rtcpPort := by
  have httl : ascii ";ttl=255\r\nSession: " = ascii ";ttl=255" ++ ascii "\r\nSession: " := by decide
  refine ⟨?_, c.session_suffix _, c.session_suffix _⟩
  rw [setupMulticastText, httl, ← List.append_assoc]
  exact c.session_suffix _

end RtspConnection

/-! ## The identifier stays -/

theorem setTrackAlive_sessionId {m m' : Media} {c c' : RtspConnection} {track : TrackId}
    (h : RtspConnection.setTrackAlive m c track = .ok (m', c')) : c'.sessionId = c.sessionId := by
  unfold RtspConnection.setTrackAlive at h
  dsimp only at h
  split at h
  · cases h
    rfl
  · split at h <;> cases h
    rfl

/-- No handler gives the connection another identifier. -/
theorem handleCmd_sessionId {w : World} {m : Media} {c : RtspConnection} {r : Handled}
    (h : RtspConnection.handleCmd w m c = .ok r) : r.conn.sessionId = c.sessionId := by
  unfold RtspConnection.handleCmd at h
  split at h
  · cases h
    rfl
  · cases RtspConnection.handleCmdDescribe_outcome h with
    | unknown => rfl
    | described => rfl
  · cases RtspConnection.handleCmdSetup_outcome h with
    | refused => rfl
    | multicast => rfl
    | overTcp => rfl
    | overUdp name session track =>
      unfold RtspConnection.setupOverUdp
      split <;> rfl
  · cases RtspConnection.handleCmdPlay_outcome h with
    | unsent => rfl
    | playing m1 c1 m2 c2 first second =>
      have hsent : (RtspConnection.respond w m c c.playText).conn.sessionId = c.sessionId := rfl
      exact (setTrackAlive_sessionId second).trans ((setTrackAlive_sessionId first).trans hsent)
  all_goals
    cases h
    rfl

namespace Connection

theorem handleRead_sessionId {w : World} {m : Media} {c : Connection} {bytes : Octets}
    {r : ReadResult} (h : c.handleRead w m bytes = .ok r) :
    r.conn.rtsp.sessionId = c.rtsp.sessionId := by
  unfold handleRead handleReadBytes at h
  dsimp only at h
  split at h
  · cases h
    rfl
  split at h
  · cases h
  · cases h
    rfl
  split at h
  · cases h
  rename_i r' hhandled
  cases h
  exact (handleCmd_sessionId hhandled).trans rfl

/-- The connection after some reads, between which others may change the media. -/
def afterReads : Connection → List (World × Media × Octets) → Except Fault Connection
  | c, [] => .ok c
  | c, (w, m, bytes) :: reads =>
    match c.handleRead w m bytes with
    | .error e => .error e
    | .ok r => r.conn.afterReads reads

/-- **The identifier of a connection is that of the SETUP reply** in every later read. -/
theorem afterReads_sessionId {reads : List (World × Media × Octets)} : ∀ {c c' : Connection},
    c.afterReads reads = .ok c' → c'.rtsp.sessionId = c.rtsp.sessionId := by
  induction reads with
  | nil =>
    intro c c' h
    cases h
    rfl
  | cons read reads ih =>
    intro c c' h
    unfold afterReads at h
    split at h
    · cases h
    · exact (ih h).trans (handleRead_sessionId ‹_›)

end Connection

/-! ## A PLAY and its identifier -/

/-- A byte of an identifier: parameters may follow behind a semicolon. -/
def isIdByte (b : UInt8) : Bool := !isSpace b && decide (b ≠ 59)

/-- A PLAY request: its line, the lines in front of a Session header, the text behind
the name of that header and the lines behind it. -/
structure PlayText where
  line : Octets
  before : List Octets
  field : Octets
  behind : List Octets
  oneLine : 10 ∉ line

namespace PlayText

variable (q : PlayText)

def lines : List Octets :=
  q.before ++ (ascii "Session:" ++ q.field) :: (q.behind ++ [[]])

def bytes : Octets := encodeLines (q.line :: q.lines)

/-- What `ParseRequest2` gets. -/
def block : Octets := blockOf q.lines

/-- The identifier that the header carries. -/
def identifier : Octets := (skipSpace q.field).takeWhile isIdByte

end PlayText

/-- What `%u` is given: the text behind the first `name` and the colon that follows. -/
def textBehind (name block : Octets) : Octets :=
  match splitFirst name block with
  | none => []
  | some (_, rest) => (behind 58 (cstr rest)).getD []

/-- The request is refused: no handler is called, and nothing that PLAY sets is changed. -/
structure Refused (w : World) (m : Media) (c : Connection) (bytes : Octets) : Prop where
  unhandled : c.nextRequest bytes = none
  unchanged : ∃ r, c.handleRead w m bytes = .ok r ∧ r.ok = false ∧ r.media = m ∧
    r.conn.rtsp.rtpInstances = c.rtsp.rtpInstances ∧
    r.conn.rtsp.rtcpInstances = c.rtsp.rtcpInstances

/-- The printed identifier is read back as it is and accepted, any other is refused. -/
structure SessionRoundTrip (w : World) (m : Media) (c : Connection) (bytes : Octets)
    (q : PlayText) : Prop where
  echoed : q.identifier = printedId c.rtsp.sessionId →
    Request.numberAfter (ascii "Session") q.block = some c.rtsp.sessionId.toNat ∧
      (c.nextRequest bytes).isSome = true
  foreign : q.identifier ≠ printedId c.rtsp.sessionId → Refused w m c bytes

/-! ## What the parser reads -/

/-- What stands where the sequence number is looked for. -/
def PlayText.cseqText (q : PlayText) : Octets := textBehind (ascii "CSeq") q.block

/-- What stands where the identifier is looked for. -/
def PlayText.idText (q : PlayText) : Octets := textBehind (ascii "Session") q.block

/-- Numbers stand where they are looked for: that of the connection where the printed
identifier is carried, and not both of them where another one is. -/
structure Numbered (id : UInt32) (q : PlayText) : Prop where
  echoed : q.identifier = printedId id → startsNumber q.cseqText = true ∧
    startsNumber q.idText = true ∧ numeral q.idText % 2 ^ 32 = id.toNat
  foreign : q.identifier ≠ printedId id →
    ¬ (startsNumber q.cseqText = true ∧ startsNumber q.idText = true)

namespace Request

theorem sscanf_numberHeader (s : Octets) :
    sscanf numberHeaderFormat s =
      some (if startsNumber ((behind 58 s).getD []) then
        [.number (numeral ((behind 58 s).getD []) % 2 ^ 32)] else []) := by
  obtain ⟨found, hfound⟩ : ∃ found, behind 58 s = found := ⟨_, rfl⟩
  rw [numberHeaderFormat, hfound]
  cases found with
  | none =>
    rw [sscanf_behind_none hfound]
    rfl
  | some text =>
    rw [sscanf_behind_some hfound, sscanf_space_eq, Option.getD_some]
    cases hstarts : startsNumber text with
    | false =>
      have hscan : scanUnsigned 32 (skipSpace text) = none := by
        rw [scanUnsigned_skipSpace]
        exact scanUnsigned_none_iff.mpr hstarts
      rw [sscanf_unsigned_none hscan]
      rfl
    | true =>
      obtain ⟨after, hscan⟩ := scanUnsigned_isSome hstarts 32
      rw [← scanUnsigned_skipSpace] at hscan
      rw [sscanf_unsigned_some hscan]
      rfl

theorem numberAfter_eq (name message : Octets) :
    numberAfter name message =
      if startsNumber (textBehind name message) then
        some (numeral (textBehind name message) % 2 ^ 32)
      else none := by
  unfold numberAfter textBehind
  cases splitFirst name message with
  | none => rfl
  | some p =>
    dsimp only
    rw [sscanf_numberHeader]
    cases startsNumber ((behind 58 (cstr p.2)).getD []) <;> rfl

theorem numberAfter_isSome (name message : Octets) :
    (numberAfter name message).isSome = startsNumber (textBehind name message) := by
  rw [numberAfter_eq]
  cases startsNumber (textBehind name message) <;> rfl

/-- PLAY asks for two numbers, and keeps the first of them. -/
theorem parseRequest2_play {r : Request} (hplay : r.method = .play) (block : Octets) :
    ∃ r', r'.method = .play ∧ r.parseRequest2 block =
      (startsNumber (textBehind (ascii "CSeq") block) &&
        startsNumber (textBehind (ascii "Session") block), r') := by
  rw [← numberAfter_isSome, ← numberAfter_isSome, parseRequest2, parseCSeq]
  cases numberAfter (ascii "CSeq") block with
  | none => exact ⟨_, hplay, rfl⟩
  | some n =>
    dsimp only
    rw [hplay]
    exact ⟨_, rfl, rfl⟩

end Request

/-- A request line does not begin like an interleaved frame. -/
theorem startsWithMethod_head {l : Octets} (h : startsWithMethod l = true) :
    l.head? ≠ some 36 ∧ l ≠ [] := by
  constructor
  · intro hhead
    obtain ⟨rest, rfl⟩ : ∃ rest, l = 36 :: rest := by
      cases l with
      | nil => cases hhead
      | cons b rest => exact ⟨rest, congrArg (· :: rest) (Option.some.inj hhead)⟩
    obtain ⟨method, hmethod⟩ := Option.isSome_iff_exists.mp h
    have hword : (skipSpace (cstr (36 :: rest))).takeWhile (fun b => !isSpace b) =
        36 :: (cstr rest).takeWhile (fun b => !isSpace b) := rfl
    rw [hword] at hmethod
    have hknown := word_of_methodOf hmethod
    have hheads : ∀ word ∈ [ascii "OPTIONS", ascii "DESCRIBE", ascii "SETUP", ascii "PLAY",
        ascii "TEARDOWN", ascii "GET_PARAMETER", ascii "PAUSE"], word.head? ≠ some 36 := by decide
    exact hheads _ hknown rfl
  · rintro rfl
    exact absurd h (by decide)

section Requests

variable {w : World} {m : Media} {c : Connection} {bytes : Octets} {q : PlayText} {first : Request}

theorem PlayText.lines_ne_nil (q : PlayText) : q.lines ≠ [] := by simp [PlayText.lines]

theorem PlayText.parseLines_eq {r : Request} (hline : r.parseRequest1 q.line = .ok (true, first)) :
    r.parseLines q.line q.lines = .ok (first.parseRequest2 q.block) := by
  rw [Request.parseLines, hline]
  exact if_neg q.lines_ne_nil

theorem PlayText.not_interleaved (hline : c.rtsp.request.parseRequest1 q.line = .ok (true, first)) :
    ¬ (c.rtsp.request.isRtpOverTcp = true ∧ q.bytes.head? = some 36) := by
  obtain ⟨hhead, hne⟩ := startsWithMethod_head (startsWithMethod_of_parse hline)
  intro h
  rw [PlayText.bytes, encodeLines_cons, List.head?_append_of_ne_nil _ hne] at h
  exact hhead h.2

/-- A PLAY is handled if both numbers are found. -/
theorem Connection.nextRequest_play (hbuffer : c.inputBuffer ++ bytes = q.bytes)
    (hline : c.rtsp.request.parseRequest1 q.line = .ok (true, first)) (hplay : first.method = .play) :
    (c.nextRequest bytes).isSome = (startsNumber q.cseqText && startsNumber q.idText) := by
  obtain ⟨r', -, hparse⟩ := Request.parseRequest2_play hplay q.block
  have hlines : c.rtsp.request.parseRequest (encodeLines (q.line :: q.lines) ++ []) = _ :=
    Request.parseRequest_lines c.rtsp.request q.oneLine (by decide)
  rw [List.append_nil, PlayText.parseLines_eq hline, hparse] at hlines
  rw [nextRequest, hbuffer, if_neg (PlayText.not_interleaved hline), PlayText.bytes, hlines,
    PlayText.cseqText, PlayText.idText]
  cases startsNumber (textBehind (ascii "CSeq") q.block) &&
    startsNumber (textBehind (ascii "Session") q.block) <;> rfl

theorem Connection.handleRead_play (hbuffer : c.inputBuffer ++ bytes = q.bytes)
    (hline : c.rtsp.request.parseRequest1 q.line = .ok (true, first)) :
    c.handleRead w m bytes = handleLines w m c.rtsp q.line q.lines [] :=
  handleRead_lines (hbuffer ▸ PlayText.not_interleaved hline) q.oneLine (by decide)
    (hbuffer.trans (List.append_nil _).symm)

theorem refused_iff (hbuffer : c.inputBuffer ++ bytes = q.bytes)
    (hline : c.rtsp.request.parseRequest1 q.line = .ok (true, first)) (hplay : first.method = .play) :
    Refused w m c bytes ↔ ¬ (startsNumber q.cseqText = true ∧ startsNumber q.idText = true) := by
  have hnext := Connection.nextRequest_play hbuffer hline hplay
  rw [← Bool.and_eq_true, ← hnext, Bool.not_eq_true, Option.isSome_eq_false_iff,
    Option.isNone_iff_eq_none]
  refine ⟨fun h => h.unhandled, fun hnone => ⟨hnone, ?_⟩⟩
  obtain ⟨r', -, hparse⟩ := Request.parseRequest2_play hplay q.block
  rw [hnone, Option.isSome_none, PlayText.cseqText, PlayText.idText] at hnext
  rw [Connection.handleRead_play hbuffer hline, Connection.handleLines,
    PlayText.parseLines_eq hline, hparse, ← hnext]
  exact ⟨_, rfl, rfl, rfl, rfl, rfl⟩

/-- **A PLAY that is taken sets every instance of the connection alive**, whatever
identifier it carries. -/
theorem taken_sets_alive (hbuffer : c.inputBuffer ++ bytes = q.bytes)
    (hline : c.rtsp.request.parseRequest1 q.line = .ok (true, first)) (hplay : first.method = .play)
    (hcseq : startsNumber q.cseqText = true) (hid : startsNumber q.idText = true) {r : ReadResult}
    (hread : c.handleRead w m bytes = .ok r) (hok : r.ok = true) {track : TrackId} {rtp : Nat}
    (hslot : c.rtsp.rtpInstances track = some rtp) :
    r.media.rtpInstances.lookup rtp =
      (m.rtpInstances.lookup rtp).map fun i => { i with isAlive := true } := by
  obtain ⟨request, hmethod, hparse⟩ := Request.parseRequest2_play hplay q.block
  rw [PlayText.cseqText] at hcseq
  rw [PlayText.idText] at hid
  rw [hcseq, hid, Bool.and_self] at hparse
  rw [Connection.handleRead_play hbuffer hline, Connection.handleLines,
    PlayText.parseLines_eq hline, hparse] at hread
  dsimp only at hread
  split at hread
  · cases hread
  rename_i handled hhandled
  cases hread
  rw [RtspConnection.handleCmd, hmethod] at hhandled
  exact RtspConnection.handleCmdPlay_alive hhandled hok hslot

/-! ## A header that stands first -/

theorem isIdByte_digit {b : UInt8} (h : isDigit b = true) : isIdByte b = true := by
  rw [isIdByte, isDigit_not_space h]
  refine decide_eq_true ?_
  rintro rfl
  exact absurd h (by decide)

/-- The text `Session` stands in no line in front of the header. -/
def PlayText.HeaderFirst (q : PlayText) : Prop := ∀ l ∈ q.before, ¬ ascii "Session" <:+: l

theorem PlayText.block_eq (q : PlayText) :
    q.block = encodeLines q.before ++
      (ascii "Session" ++ 58 :: (q.field ++ 13 :: 10 :: encodeLines q.behind)) := by
  have hname : ascii "Session:" = ascii "Session" ++ [58] := by decide
  have hlines : q.lines = (q.before ++ (ascii "Session:" ++ q.field) :: q.behind) ++ [[]] := by
    simp [lines]
  rw [block, blockOf, hlines, List.dropLast_concat, List.getLastD_concat, List.append_nil,
    encodeLines_append, encodeLines_cons, hname]
  simp [crlf]

/-- What is read is the field of the header and what follows it. -/
theorem PlayText.idText_eq (hfirst : q.HeaderFirst) :
    q.idText = cstr (q.field ++ 13 :: 10 :: encodeLines q.behind) := by
  have hcstr : cstr (ascii "Session" ++ 58 :: (q.field ++ 13 :: 10 :: encodeLines q.behind)) =
      ascii "Session" ++ 58 :: cstr (q.field ++ 13 :: 10 :: encodeLines q.behind) :=
    cstr_append (by decide) _
  rw [idText, textBehind, q.block_eq,
    splitFirst_lines (by decide) (by decide) (by decide) hfirst,
    splitFirst_start (by decide) (List.prefix_append _ _)]
  dsimp only [Option.map_some]
  rw [hcstr, behind_append (by decide) (by decide), Option.getD_some]

/-- The number that is read is that of the identifier. -/
theorem PlayText.idText_number (hfirst : q.HeaderFirst) (hid : q.identifier ≠ []) :
    startsNumber q.idText = startsNumber q.identifier ∧ numeral q.idText = numeral q.identifier := by
  obtain ⟨rest, htext⟩ : ∃ rest, q.idText = cstr (q.field ++ 13 :: rest) := ⟨_, idText_eq hfirst⟩
  have hskip : skipSpace q.field ≠ [] := fun hnil => hid (by rw [identifier, hnil]; rfl)
  have happend : skipSpace (q.field ++ 13 :: rest) = skipSpace q.field ++ 13 :: rest := by
    rw [skipSpace, List.dropWhile_append, if_neg]
    · rfl
    · rwa [List.isEmpty_iff]
  have hcut : (skipSpace (q.field ++ 13 :: rest)).takeWhile isIdByte = q.identifier := by
    rw [happend, List.takeWhile_append]
    split
    · rename_i hall
      rw [List.takeWhile_cons_of_neg (by decide), List.append_nil, identifier]
      exact ((List.takeWhile_prefix _).eq_of_length hall).symm
    · rfl
  obtain ⟨hstarts, hvalue⟩ := number_takeWhile (q := isIdByte) (by decide) (by decide)
    (fun _ hb => isIdByte_digit hb) (skipSpace_skipSpace (q.field ++ 13 :: rest))
  rw [htext, (number_cstr _).1, (number_cstr _).2, ← (number_skipSpace (_ ++ _)).1,
    ← (number_skipSpace (_ ++ _)).2, ← hcut]
  exact ⟨hstarts.symm, hvalue.symm⟩

/-! ## The printed identifier read in base ten -/

theorem hexDigit_plain {d : Nat} (h : d < 16) :
    isSpace (hexDigit d) = false ∧ hexDigit d ≠ 43 ∧ hexDigit d ≠ 45 := by
  interval_cases d <;> decide

theorem hex_plain {width n : Nat} {b : UInt8} (h : b ∈ hex width n) :
    isSpace b = false ∧ b ≠ 43 ∧ b ≠ 45 := by
  induction width generalizing n with
  | zero => cases h
  | succ width ih =>
    rcases List.mem_append.mp h with h | h
    · exact ih h
    · rw [List.mem_singleton.mp h]
      exact hexDigit_plain (Nat.mod_lt n (by decide))

theorem number_printedId (id : UInt32) :
    startsNumber (printedId id) = (printedId id).head?.any isDigit ∧
      numeral (printedId id) = decPrefix (printedId id) := by
  have hne : printedId id ≠ [] := by simp [printedId, hex]
  obtain ⟨b, rest, hcons⟩ := List.exists_cons_of_ne_nil hne
  obtain ⟨hspace, hplus, hminus⟩ := hex_plain (hcons ▸ List.mem_cons_self : b ∈ printedId id)
  have hskip : skipSpace (printedId id) = printedId id := by
    rw [hcons]
    exact List.dropWhile_cons_of_neg (by simp [hspace])
  have hsign : splitSign (printedId id) = (false, printedId id) := by
    rw [hcons]
    exact splitSign_other hplus hminus
  have hsmall : decValue ((printedId id).takeWhile isDigit) < 2 ^ 64 :=
    Nat.lt_of_le_of_lt (decPrefix_hex 8 id.toNat).1 (Nat.lt_trans id.toNat_lt (by decide))
  rw [startsNumber, numeral, hskip, hsign, decPrefix, strtoul, if_neg (Nat.not_le.mpr hsmall),
    if_neg Bool.false_ne_true]
  exact ⟨rfl, rfl⟩

/-- **The printed identifier is read back below ten only.** -/
theorem printedId_read (id : UInt32) :
    startsNumber (printedId id) = true ∧ numeral (printedId id) % 2 ^ 32 = id.toNat ↔
      id.toNat < 10 := by
  have hle : decPrefix (printedId id) < 2 ^ 32 :=
    Nat.lt_of_le_of_lt (decPrefix_hex 8 id.toNat).1 id.toNat_lt
  have hread : decPrefix (printedId id) = id.toNat ↔ id.toNat < 10 := decPrefix_hex_iff
  rw [(number_printedId id).1, (number_printedId id).2, Nat.mod_eq_of_lt hle, hread, and_iff_right_iff_imp]
  intro hten
  obtain ⟨hall, -⟩ := hex_small 7 hten
  have hne : printedId id ≠ [] := by simp [printedId, hex]
  obtain ⟨b, rest, hcons⟩ := List.exists_cons_of_ne_nil hne
  have hmem : b ∈ printedId id := hcons ▸ List.mem_cons_self
  have hb : isDigit b = true := List.all_eq_true.mp hall b hmem
  rw [hcons]
  exact hb

theorem numbered_iff {id : UInt32} (hfirst : q.HeaderFirst) (hid : q.identifier ≠ []) :
    Numbered id q ↔
      if q.identifier = printedId id then startsNumber q.cseqText = true ∧ id.toNat < 10
      else ¬ (startsNumber q.cseqText = true ∧ startsNumber q.identifier = true) := by
  obtain ⟨hstarts, hvalue⟩ := PlayText.idText_number hfirst hid
  split
  · rename_i hecho
    rw [← printedId_read, ← hecho, ← hstarts, ← hvalue]
    exact ⟨fun h => h.echoed hecho, fun h => ⟨fun _ => h, fun hno => absurd hecho hno⟩⟩
  · rename_i hother
    rw [← hstarts]
    exact ⟨fun h => h.foreign hother, fun h => ⟨fun hecho => absurd hecho hother, fun _ => h⟩⟩

theorem session_round_trip_numbered (hbuffer : c.inputBuffer ++ bytes = q.bytes)
    (hline : c.rtsp.request.parseRequest1 q.line = .ok (true, first)) (hplay : first.method = .play) :
    SessionRoundTrip w m c bytes q ↔ Numbered c.rtsp.sessionId q := by
  have hnext := Connection.nextRequest_play hbuffer hline hplay
  have hrefused : Refused w m c bytes ↔ _ := refused_iff hbuffer hline hplay
  have hread : Request.numberAfter (ascii "Session") q.block = some c.rtsp.sessionId.toNat ↔
      startsNumber q.idText = true ∧ numeral q.idText % 2 ^ 32 = c.rtsp.sessionId.toNat := by
    rw [Request.numberAfter_eq, ← PlayText.idText, Option.ite_none_right_eq_some, Option.some.injEq]
  constructor
  · intro h
    refine ⟨fun hecho => ?_, fun hother => hrefused.mp (h.foreign hother)⟩
    obtain ⟨hnumber, htaken⟩ := h.echoed hecho
    rw [hnext, Bool.and_eq_true] at htaken
    exact ⟨htaken.1, hread.mp hnumber⟩
  · intro h
    refine ⟨fun hecho => ?_, fun hother => hrefused.mpr (h.foreign hother)⟩
    obtain ⟨hcseq, hnumber⟩ := h.echoed hecho
    refine ⟨hread.mpr hnumber, ?_⟩
    rw [hnext, hcseq, hnumber.1]
    rfl

/-- **The identifier makes the round trip exactly where the numbers are found**; with the
Session header in front, the printed one below ten only and another one if it does not
begin like a number. -/
theorem session_round_trip_iff (hbuffer : c.inputBuffer ++ bytes = q.bytes)
    (hline : c.rtsp.request.parseRequest1 q.line = .ok (true, first)) (hplay : first.method = .play) :
    (SessionRoundTrip w m c bytes q ↔ Numbered c.rtsp.sessionId q) ∧
    (q.HeaderFirst → q.identifier ≠ [] → (SessionRoundTrip w m c bytes q ↔
      if q.identifier = printedId c.rtsp.sessionId then
        startsNumber q.cseqText = true ∧ c.rtsp.sessionId.toNat < 10
      else ¬ (startsNumber q.cseqText = true ∧ startsNumber q.identifier = true))) := by
  have hnumbered := session_round_trip_numbered (w := w) (m := m) hbuffer hline hplay
  exact ⟨hnumbered, fun hfirst hid => hnumbered.trans (numbered_iff hfirst hid)⟩

end Requests

/-! ## Three PLAYs -/

/-- A connection with one instance that is not alive. -/
def playConnection (sessionId : UInt32) : Connection :=
  { rtsp := { request := { cseq := 0, peerRtpPort := 0, peerRtcpPort := 0, rtpChannel := 0 }
              sockFd := 5, peerIp := ascii "10.0.0.2", sessionId := sessionId
              rtpInstances := fun _ => some 0 } }

def playMedia : Media :=
  { rtpInstances := (∅ : AList fun _ : Nat => RtpInstance).insert 0 (.createNewOverTcp 5 0) }

/-- `PLAY` with a CSeq and a Session header. -/
def playText (identifier : Octets) : PlayText where
  line := ascii "PLAY rtsp://h/live RTSP/1.0"
  before := [ascii "CSeq: 3"]
  field := 32 :: identifier
  behind := []
  oneLine := by decide

/-- Whether the instance is alive after the bytes have been read. -/
def aliveAfter (sessionId : UInt32) (bytes : Octets) : Option Bool :=
  match (playConnection sessionId).handleRead sampleWorld playMedia bytes with
  | .error _ => none
  | .ok r => (r.media.rtpInstances.lookup 0).map fun i => i.isAlive

/-- What the request line of a PLAY leaves. -/
def playFirst : Request :=
  { (playConnection 0).rtsp.request with
    method := .play, url := ascii "rtsp://h/live", suffix := ascii "live" }

theorem playText_line (sessionId : UInt32) (identifier : Octets) :
    (playConnection sessionId).rtsp.request.parseRequest1 (playText identifier).line =
      .ok (true, playFirst) := by
  have hline : (playConnection 0).rtsp.request.parseRequest1 (ascii "PLAY rtsp://h/live RTSP/1.0") =
      .ok (true, playFirst) := by decide +kernel
  exact hline

theorem playText_first (identifier : Octets) : (playText identifier).HeaderFirst := by
  intro l hl
  rw [List.mem_singleton.mp hl, ← contains_iff (by decide)]
  decide

theorem session_round_trip_iff_sample :
    SessionRoundTrip sampleWorld playMedia (playConnection 7) (playText (ascii "00000007")).bytes
        (playText (ascii "00000007")) ∧
      SessionRoundTrip sampleWorld playMedia (playConnection 7) (playText (ascii "none")).bytes
        (playText (ascii "none")) := by
  constructor
  · refine ((session_round_trip_iff rfl (playText_line _ _) rfl).2 (playText_first _)
      (by decide)).mpr ?_
    decide +kernel
  · refine ((session_round_trip_iff rfl (playText_line _ _) rfl).2 (playText_first _)
      (by decide)).mpr ?_
    decide +kernel

/-- **The echo of `0x10` is read as ten, and a foreign `7` is accepted and sets the instance
alive.** -/
theorem session_round_trip_fails :
    printedId 0x10 = ascii "00000010" ∧
    ¬ SessionRoundTrip sampleWorld playMedia (playConnection 0x10)
      (playText (ascii "00000010")).bytes (playText (ascii "00000010")) ∧
    ¬ SessionRoundTrip sampleWorld playMedia (playConnection 0x10) (playText (ascii "7")).bytes
      (playText (ascii "7")) ∧
    aliveAfter 0x10 (playText (ascii "7")).bytes = some true := by
  refine ⟨by decide, fun h => ?_, fun h => ?_, by decide +kernel⟩
  · exact absurd (h.echoed (by decide)).1 (by decide +kernel)
  · exact absurd (h.foreign (by decide)).unhandled (by decide +kernel)

end MyRtspServer.Net
