import MyRtspServer.Net.SessionIdentifier
import MyRtspServer.Net.TakenRequest

/-!
# The requests of a client

A client prints what it wants, and the parser reads it back: the method, the URL and
its suffix, the sequence number, the track and the transport. The members that a request
does not name keep what an earlier one has put there.
-/
namespace MyRtspServer.Net

open Library Library.Octets Library.Lines Library.Scan

/-! ## What a client prints -/

/-- The session a client asks for, and where. -/
structure Target where
  host : Octets
  port : Option UInt16
  name : Octets

/-- What a client wants. The reply to SETUP has told it the identifier. -/
inductive Wish where
  | options | describe
  | setupOverTcp (track : TrackId) (channel : UInt8)
  | setupOverUdp (track : TrackId) (rtpPort rtcpPort : UInt16)
  | play (sessionId : UInt32)
  | teardown | getParameter | pause

namespace Wish

def method : Wish → Method
  | .options => .options
  | .describe => .describe
  | .setupOverTcp .. | .setupOverUdp .. => .setup
  | .play _ => .play
  | .teardown => .teardown
  | .getParameter => .getParameter
  | .pause => .pause

def word : Wish → Octets
  | .options => ascii "OPTIONS"
  | .describe => ascii "DESCRIBE"
  | .setupOverTcp .. | .setupOverUdp .. => ascii "SETUP"
  | .play _ => ascii "PLAY"
  | .teardown => ascii "TEARDOWN"
  | .getParameter => ascii "GET_PARAMETER"
  | .pause => ascii "PAUSE"

/-- The track that SETUP names in the URL. -/
def track : Wish → Option TrackId
  | .setupOverTcp track _ | .setupOverUdp track _ _ => some track
  | _ => none

/-- The headers behind the sequence number. -/
def headers : Wish → List Octets
  | .describe => [ascii "Accept: application/sdp"]
  | .setupOverTcp _ channel =>
    [ascii "Transport: RTP/AVP/TCP;unicast;interleaved=" ++
      (dec channel.toNat ++ 45 :: dec (channel.toNat + 1))]
  | .setupOverUdp _ rtpPort rtcpPort =>
    [ascii "Transport: RTP/AVP;unicast;client_port=" ++
      (dec rtpPort.toNat ++ 45 :: dec rtcpPort.toNat)]
  | .play sessionId => [ascii "Session: " ++ printedId sessionId]
  | _ => []

end Wish

/-- The control text of a track in the session description. -/
def trackText (track : TrackId) : Octets := if track = 0 then ascii "track0" else ascii "track1"

structure ClientRequest where
  target : Target
  wish : Wish
  cseq : UInt32

namespace ClientRequest

def authority (q : ClientRequest) : Octets :=
  match q.target.port with
  | none => q.target.host
  | some port => q.target.host ++ 58 :: dec port.toNat

def suffix (q : ClientRequest) : Octets :=
  match q.wish.track with
  | none => q.target.name
  | some track => q.target.name ++ 47 :: trackText track

def url (q : ClientRequest) : Octets := ascii "rtsp://" ++ (q.authority ++ 47 :: q.suffix)

def line (q : ClientRequest) : Octets :=
  q.wish.word ++ 32 :: (q.url ++ 32 :: ascii "RTSP/1.0")

def cseqHeader (q : ClientRequest) : Octets := ascii "CSeq: " ++ dec q.cseq.toNat

def lines (q : ClientRequest) : List Octets := (q.cseqHeader :: q.wish.headers) ++ [[]]

def bytes (q : ClientRequest) : Octets := encodeLines (q.line :: q.lines)

/-- The members of the connection when the request has been taken. -/
def taken (q : ClientRequest) (r : Request) : Request :=
  let r := { r with method := q.wish.method, url := q.url, suffix := q.suffix, cseq := q.cseq }
  match q.wish with
  | .setupOverTcp track channel =>
    { r with isRtpOverTcp := true, rtpChannel := channel, trackId := some track }
  | .setupOverUdp track rtpPort rtcpPort =>
    { r with peerRtpPort := rtpPort, peerRtcpPort := rtcpPort, trackId := some track }
  | _ => r

end ClientRequest

/-- A byte of a host or a session name, as it may stand in a URL. -/
def isUrlByte (b : UInt8) : Bool := decide (33 ≤ b ∧ b ≤ 126 ∧ b ≠ 47 ∧ b ≠ 58)

/-- A host or a session name that no array is too small for. -/
structure UrlPart (s : Octets) : Prop where
  ne_nil : s ≠ []
  clean : s.all isUrlByte = true
  noTrack : ¬ ascii "track0" <:+: s

/-- The request fits into the arrays of the parser, and its identifier begins like a
decimal number. -/
structure ClientRequest.Valid (q : ClientRequest) : Prop where
  host : UrlPart q.target.host
  name : UrlPart q.target.name
  fits : q.target.host.length + q.suffix.length < 63
  identifier : ∀ id, q.wish = .play id → ∀ d ∈ (printedId id).head?, isDigit d = true

theorem isUrlByte_spec {b : UInt8} (h : isUrlByte b = true) :
    isSpace b = false ∧ b ≠ 0 ∧ b ≠ 10 ∧ b ≠ 47 ∧ b ≠ 58 := by
  simp only [isUrlByte, decide_eq_true_eq, UInt8.le_iff_toNat_le] at h
  obtain ⟨hlow, hhigh, hslash, hcolon⟩ := h
  have hlow' : 33 ≤ b.toNat := hlow
  refine ⟨?_, ?_, ?_, hslash, hcolon⟩
  · simp only [isSpace, Bool.or_eq_false_iff, decide_eq_false_iff_not, UInt8.le_iff_toNat_le]
    refine ⟨fun hle => absurd (Nat.le_trans hlow' hle.2) (by decide), ?_⟩
    rintro rfl
    exact absurd hlow' (by decide)
  · rintro rfl
    exact absurd hlow' (by decide)
  · rintro rfl
    exact absurd hlow' (by decide)

theorem UrlPart.byte {s : Octets} (h : UrlPart s) {b : UInt8} (hb : b ∈ s) :
    isSpace b = false ∧ b ≠ 0 ∧ b ≠ 10 ∧ b ≠ 47 ∧ b ≠ 58 :=
  isUrlByte_spec (List.all_eq_true.mp h.clean b hb)

namespace ClientRequest

/-! ## The request line -/

section Line

variable {q : ClientRequest}

theorem suffix_byte (h : q.Valid) {b : UInt8} (hb : b ∈ q.suffix) :
    isSpace b = false ∧ b ≠ 0 ∧ b ≠ 10 ∧ b ≠ 58 := by
  have hname : b ∈ q.target.name → isSpace b = false ∧ b ≠ 0 ∧ b ≠ 10 ∧ b ≠ 58 := by
    intro hmem
    obtain ⟨hspace, hzero, hline, -, hcolon⟩ := h.name.byte hmem
    exact ⟨hspace, hzero, hline, hcolon⟩
  have htext : ∀ track, ∀ b ∈ 47 :: trackText track,
      isSpace b = false ∧ b ≠ 0 ∧ b ≠ 10 ∧ b ≠ 58 := by
    decide +kernel
  unfold suffix at hb
  split at hb
  · exact hname hb
  · rcases List.mem_append.mp hb with hb | hb
    · exact hname hb
    · exact htext _ b hb

theorem suffix_ne_nil (h : q.Valid) : q.suffix ≠ [] := by
  unfold suffix
  split
  · exact h.name.ne_nil
  · exact List.append_ne_nil_of_left_ne_nil h.name.ne_nil _

theorem digit_byte {n : Nat} {b : UInt8} (hb : b ∈ dec n) :
    isSpace b = false ∧ b ≠ 0 ∧ b ≠ 10 ∧ b ≠ 47 ∧ b ≠ 58 ∧ b ≠ 59 ∧ b ≠ 61 := by
  have hdigit := dec_isDigit hb
  refine ⟨isDigit_not_space hdigit, ?_, ?_, ?_, ?_, ?_, ?_⟩ <;>
    · rintro rfl
      exact absurd hdigit (by decide)

theorem authority_byte (h : q.Valid) {b : UInt8} (hb : b ∈ q.authority) :
    isSpace b = false ∧ b ≠ 0 ∧ b ≠ 10 ∧ b ≠ 47 := by
  unfold authority at hb
  have hhost : b ∈ q.target.host → isSpace b = false ∧ b ≠ 0 ∧ b ≠ 10 ∧ b ≠ 47 := by
    intro hmem
    obtain ⟨hspace, hzero, hline, hslash, -⟩ := h.host.byte hmem
    exact ⟨hspace, hzero, hline, hslash⟩
  split at hb
  · exact hhost hb
  · rcases List.mem_append.mp hb with hb | hb
    · exact hhost hb
    rcases List.mem_cons.mp hb with rfl | hb
    · decide
    · obtain ⟨hspace, hzero, hline, hslash, -⟩ := digit_byte hb
      exact ⟨hspace, hzero, hline, hslash⟩

theorem url_byte (h : q.Valid) {b : UInt8} (hb : b ∈ q.url) :
    isSpace b = false ∧ b ≠ 0 ∧ b ≠ 10 := by
  have hscheme : ∀ b ∈ ascii "rtsp://", isSpace b = false ∧ b ≠ 0 ∧ b ≠ 10 := by
    decide +kernel
  rcases List.mem_append.mp hb with hb | hb
  · exact hscheme b hb
  rcases List.mem_append.mp hb with hb | hb
  · obtain ⟨hspace, hzero, hline, -⟩ := authority_byte h hb
    exact ⟨hspace, hzero, hline⟩
  rcases List.mem_cons.mp hb with rfl | hb
  · decide
  · obtain ⟨hspace, hzero, hline, -⟩ := suffix_byte h hb
    exact ⟨hspace, hzero, hline⟩

theorem port_length (port : UInt16) : (dec port.toNat).length ≤ 5 :=
  decDigits_length _ _ 4 (Nat.lt_of_lt_of_le port.toNat_lt (by decide))

theorem authority_length (q : ClientRequest) :
    q.authority.length ≤ q.target.host.length + 6 := by
  unfold authority
  split
  · omega
  · rename_i port _
    have hport := port_length port
    rw [List.length_append, List.length_cons]
    omega

theorem url_length (h : q.Valid) : q.url.length < 512 := by
  have hauthority := q.authority_length
  have hfits := h.fits
  have hscheme : (ascii "rtsp://").length = 7 := rfl
  rw [url, List.length_append, List.length_append, List.length_cons]
  omega

/-- The URL is taken apart into what the client has put together. -/
theorem parseUrl_url (h : q.Valid) : Request.parseUrl q.url = .ok (some q.suffix) := by
  have hfits := h.fits
  have hsuffix : ∀ b ∈ q.suffix, isSpace b = false := fun b hb => (suffix_byte h hb).1
  have hword : sscanf [.word 64] q.suffix = some [.text q.suffix] := by
    rw [sscanf_rest hsuffix (suffix_ne_nil h), if_pos (by omega)]
  have hdrop : q.url.drop 7 = q.authority ++ 47 :: q.suffix := List.drop_left' rfl
  have hcolon : (58 : UInt8) ∉ q.target.host := fun hmem => (h.host.byte hmem).2.2.2.2 rfl
  have hslash : (47 : UInt8) ∉ q.target.host := fun hmem => (h.host.byte hmem).2.2.2.1 rfl
  unfold Request.parseUrl
  rw [hdrop]
  cases hport : q.target.port with
  | some port =>
    have hauthority : q.authority ++ 47 :: q.suffix =
        q.target.host ++ 58 :: (dec port.toNat ++ 47 :: q.suffix) := by
      simp only [authority, hport, List.append_assoc, List.cons_append]
    have hnumber : scanUnsigned 16 (dec port.toNat ++ 47 :: q.suffix) =
        some (port.toNat, 47 :: q.suffix) :=
      scanUnsigned_dec port.toNat_lt (by decide) fun b hb => by cases hb; decide
    rw [hauthority, hostPortFormat, sscanf_cut h.host.ne_nil (by omega) hcolon,
      sscanf_unsigned_some hnumber, sscanf_char, hword]
    rfl
  | none =>
    have hauthority : q.authority ++ 47 :: q.suffix = q.target.host ++ 47 :: q.suffix := by
      simp only [authority, hport]
    have hnocolon : (58 : UInt8) ∉ q.target.host ++ 47 :: q.suffix := by
      intro hmem
      rcases List.mem_append.mp hmem with hmem | hmem
      · exact hcolon hmem
      rcases List.mem_cons.mp hmem with heq | hmem
      · exact absurd heq (by decide)
      · exact (suffix_byte h hmem).2.2.2 rfl
    have hall : sscanf hostPortFormat (q.target.host ++ 47 :: q.suffix) =
        some [.text (q.target.host ++ 47 :: q.suffix)] := by
      have hlength : (q.target.host ++ 47 :: q.suffix).length < 64 := by
        rw [List.length_append, List.length_cons]
        omega
      have hscan : sscanf hostPortFormat ((q.target.host ++ 47 :: q.suffix) ++ []) =
          some [.text (q.target.host ++ 47 :: q.suffix)] :=
        sscanf_until (List.append_ne_nil_of_left_ne_nil h.host.ne_nil _) hlength hnocolon
          fun b hb => by cases hb
      rw [List.append_nil] at hscan
      exact hscan
    rw [hauthority, hall]
    dsimp only
    rw [hostFormat, sscanf_cut h.host.ne_nil (by omega) hslash, hword]
    rfl

theorem methodOf_word (wish : Wish) : methodOf wish.word = some wish.method := by
  cases wish <;> rfl

theorem word_clean (wish : Wish) :
    wish.word ≠ [] ∧ wish.word.length < 64 ∧
      ∀ b ∈ wish.word, isSpace b = false ∧ b ≠ 0 ∧ b ≠ 10 := by
  have hwords : ∀ word ∈ [ascii "OPTIONS", ascii "DESCRIBE", ascii "SETUP", ascii "PLAY",
      ascii "TEARDOWN", ascii "GET_PARAMETER", ascii "PAUSE"], word ≠ [] ∧ word.length < 64 ∧
        ∀ b ∈ word, isSpace b = false ∧ b ≠ 0 ∧ b ≠ 10 := by
    decide +kernel
  exact hwords _ (word_of_methodOf (methodOf_word wish))

theorem line_byte (h : q.Valid) {b : UInt8} (hb : b ∈ q.line) : b ≠ 0 ∧ b ≠ 10 := by
  have hversion : ∀ b ∈ 32 :: ascii "RTSP/1.0", b ≠ 0 ∧ b ≠ 10 := by decide +kernel
  rcases List.mem_append.mp hb with hb | hb
  · exact ((word_clean q.wish).2.2 b hb).2
  rcases List.mem_cons.mp hb with rfl | hb
  · decide
  rcases List.mem_append.mp hb with hb | hb
  · exact (url_byte h hb).2
  · exact hversion b hb

/-- The request line is read back. -/
theorem parseRequest1_line (h : q.Valid) (r : Request) : r.parseRequest1 q.line =
    .ok (true, { r with method := q.wish.method, url := q.url, suffix := q.suffix }) := by
  obtain ⟨hne, hlength, hclean⟩ := word_clean q.wish
  have hspace : ∀ {rest : Octets}, ∀ b ∈ (32 :: rest).head?, isSpace b = true := by
    intro rest b hb
    cases hb
    decide
  have hurl : ∀ b ∈ q.url, isSpace b = false := fun b hb => (url_byte h hb).1
  have hurlNe : q.url ≠ [] := List.append_ne_nil_of_left_ne_nil (by decide) _
  have hversion : sscanf [.space, .word 64] (32 :: ascii "RTSP/1.0") =
      some [.text (ascii "RTSP/1.0")] := by decide
  have hfields : sscanf requestLineFormat q.line =
      some [.text q.wish.word, .text q.url, .text (ascii "RTSP/1.0")] := by
    rw [requestLineFormat, line, sscanf_word hne hlength (fun b hb => (hclean b hb).1) hspace,
      sscanf_space hurlNe hurl, sscanf_word hurlNe (url_length h) hurl hspace, hversion]
    rfl
  have hscheme : (ascii "rtsp://").isPrefixOf q.url = true :=
    List.isPrefixOf_iff_prefix.mpr (List.prefix_append _ _)
  have hcstr : cstr q.line = q.line := cstr_eq_self fun hmem => (line_byte h hmem).1 rfl
  unfold Request.parseRequest1
  rw [hcstr, hfields]
  simp only [methodOf_word, hscheme, if_true, parseUrl_url h]

end Line

/-! ## The headers -/

section Headers

variable {q : ClientRequest}

/-- What `ParseRequest2` gets. -/
def block (q : ClientRequest) : Octets := encodeLines (q.cseqHeader :: q.wish.headers)

theorem blockOf_lines (q : ClientRequest) : blockOf q.lines = q.block := by
  rw [blockOf, lines, List.dropLast_concat, List.getLastD_eq_getLast?, List.getLast?_concat,
    Option.getD_some, List.append_nil, block]

theorem crlf_no_digit : ∀ b ∈ crlf.head?, isDigit b = false := by decide +kernel

/-- The block starts with the sequence number. -/
theorem block_eq (q : ClientRequest) :
    q.block = ascii "CSeq: " ++ (dec q.cseq.toNat ++ (crlf ++ encodeLines q.wish.headers)) := by
  rw [block, encodeLines_cons, cseqHeader]
  simp only [List.append_assoc]

theorem headers_byte (wish : Wish) {l : Octets} (hl : l ∈ wish.headers) {b : UInt8} (hb : b ∈ l) :
    b ≠ 0 ∧ b ≠ 10 := by
  have hnumber : ∀ {n : Nat}, b ∈ dec n → b ≠ 0 ∧ b ≠ 10 := fun hmem => by
    obtain ⟨-, hzero, hline, -⟩ := digit_byte hmem
    exact ⟨hzero, hline⟩
  have htexts : ∀ text ∈ [ascii "Accept: application/sdp",
      ascii "Transport: RTP/AVP/TCP;unicast;interleaved=",
      ascii "Transport: RTP/AVP;unicast;client_port=", ascii "Session: "],
      ∀ b ∈ text, b ≠ 0 ∧ b ≠ 10 := by decide +kernel
  have htext : ∀ {text : Octets}, text ∈ _ → b ∈ text → b ≠ 0 ∧ b ≠ 10 :=
    fun htext hb => htexts _ htext b hb
  have hpair : ∀ {m n : Nat}, b ∈ dec m ++ 45 :: dec n → b ≠ 0 ∧ b ≠ 10 := by
    intro m n hmem
    rcases List.mem_append.mp hmem with hmem | hmem
    · exact hnumber hmem
    rcases List.mem_cons.mp hmem with rfl | hmem
    · decide
    · exact hnumber hmem
  cases wish with
  | describe =>
    rw [List.mem_singleton.mp hl] at hb
    exact htext (by simp) hb
  | setupOverTcp track channel =>
    rw [List.mem_singleton.mp hl] at hb
    rcases List.mem_append.mp hb with hb | hb
    · exact htext (by simp) hb
    · exact hpair hb
  | setupOverUdp track rtpPort rtcpPort =>
    rw [List.mem_singleton.mp hl] at hb
    rcases List.mem_append.mp hb with hb | hb
    · exact htext (by simp) hb
    · exact hpair hb
  | play id =>
    rw [List.mem_singleton.mp hl] at hb
    rcases List.mem_append.mp hb with hb | hb
    · exact htext (by simp) hb
    · have hprinted := printed_hex 8 id.toNat
      exact ⟨fun heq => hprinted.not_mem (by decide) (heq ▸ hb),
        fun heq => hprinted.not_mem (by decide) (heq ▸ hb)⟩
  | _ => cases hl

theorem block_noZero (q : ClientRequest) : 0 ∉ q.block := by
  refine not_mem_encodeLines (by decide) fun l hl hmem => ?_
  rcases List.mem_cons.mp hl with rfl | hl
  · rcases List.mem_append.mp hmem with hmem | hmem
    · exact absurd hmem (by decide)
    · exact (digit_byte hmem).2.1 rfl
  · exact (headers_byte q.wish hl hmem).1 rfl

/-- The number behind a name and its colon. -/
theorem numberAfter_found {name before text message : Octets} (hname : name ≠ [])
    (hnocolon : 58 ∉ name) (hzero : 0 ∉ name ++ 58 :: text)
    (hfound : splitFirst name message = some (before, name ++ 58 :: text)) :
    Request.numberAfter name message = (scanUnsigned 32 (skipSpace text)).map Prod.fst := by
  rw [Request.numberAfter, hfound]
  dsimp only
  rw [cstr_eq_self hzero, numberHeaderFormat,
    sscanf_behind_some (behind_append hname hnocolon text), sscanf_space_eq]
  cases hscan : scanUnsigned 32 (skipSpace text) with
  | none =>
    rw [sscanf_unsigned_none hscan]
    rfl
  | some taken =>
    rw [sscanf_unsigned_some hscan]
    rfl

theorem parseCSeq_block (q : ClientRequest) (r : Request) :
    r.parseCSeq q.block = (true, { r with cseq := q.cseq }) := by
  obtain ⟨later, hlater⟩ : ∃ later, crlf ++ encodeLines q.wish.headers = 13 :: later := ⟨_, rfl⟩
  have htext : ascii "CSeq: " = ascii "CSeq" ++ [58, 32] := by decide
  have hblock : q.block = ascii "CSeq" ++ 58 :: 32 :: (dec q.cseq.toNat ++ 13 :: later) := by
    rw [block_eq, hlater, htext, List.append_assoc]
    rfl
  have hfound : splitFirst (ascii "CSeq") q.block =
      some ([], ascii "CSeq" ++ 58 :: 32 :: (dec q.cseq.toNat ++ 13 :: later)) := by
    rw [hblock]
    exact splitFirst_start (by decide) (List.prefix_append _ _)
  have hspaces : skipSpace (32 :: (dec q.cseq.toNat ++ 13 :: later)) =
      dec q.cseq.toNat ++ 13 :: later := by
    rw [skipSpace, List.dropWhile_cons_of_pos (by decide)]
    exact skipSpace_word (dec_ne_nil _) fun b hb => (digit_byte hb).1
  have hnumber : Request.numberAfter (ascii "CSeq") q.block = some q.cseq.toNat := by
    rw [numberAfter_found (by decide) (by decide) (hblock ▸ q.block_noZero) hfound, hspaces,
      scanUnsigned_dec q.cseq.toNat_lt (by decide) fun b hb => by cases hb; decide]
    rfl
  rw [Request.parseCSeq, hnumber]
  simp only [UInt32.ofNat_toNat]

/-- What has a byte that the first header lacks is looked for behind it. -/
theorem splitFirst_headers (q : ClientRequest) {pat : Octets} (hline : 10 ∉ pat)
    (hout : ∃ b ∈ pat, b ∉ ascii "CSeq: " ∧ isDigit b = false ∧ b ≠ 13) :
    splitFirst pat q.block = (splitFirst pat (encodeLines q.wish.headers)).map fun p =>
      ((q.cseqHeader ++ [13]) ++ 10 :: p.1, p.2) := by
  obtain ⟨b, hb, htext, hdigit, hreturn⟩ := hout
  have hblock : q.block = (q.cseqHeader ++ [13]) ++ 10 :: encodeLines q.wish.headers := by
    rw [block, encodeLines_cons, crlf]
    simp
  rw [hblock]
  refine splitFirst_separator (List.ne_nil_of_mem hb) hline (fun hin => ?_) _
  rcases List.mem_append.mp (hin.subset hb) with hmem | hmem
  · rcases List.mem_append.mp hmem with hmem | hmem
    · exact htext hmem
    · rw [dec_isDigit hmem] at hdigit
      cases hdigit
  · exact hreturn (List.mem_singleton.mp hmem)

theorem contains_headers (q : ClientRequest) {pat : Octets} (hline : 10 ∉ pat)
    (hout : ∃ b ∈ pat, b ∉ ascii "CSeq: " ∧ isDigit b = false ∧ b ≠ 13) :
    contains pat q.block = contains pat (encodeLines q.wish.headers) := by
  rw [contains, contains, q.splitFirst_headers hline hout, Option.isSome_map]

end Headers

/-! ## The transport -/

section Transport

variable {q : ClientRequest} {track : TrackId}

/-- `Transport: ` and the protocol, which is found behind the blank. -/
theorem splitFirst_transport {pat rest : Octets} (hne : pat ≠ []) (hblank : 32 ∉ pat)
    (hno : ¬ pat <:+: ascii "Transport:") (h : pat <+: rest) :
    splitFirst pat (ascii "Transport: " ++ rest) = some (ascii "Transport: ", rest) := by
  have hskip := splitFirst_separator hne hblank hno rest
  rw [splitFirst_start hne h] at hskip
  exact hskip

/-- Two numbers behind the second assignment of a transport. -/
theorem sscanf_pair_printed {protocol kind : Octets} (hprotocol : protocol ≠ [] ∧ 59 ∉ protocol)
    (hkind : kind ≠ [] ∧ 61 ∉ kind) {bits first : Nat} (hfirst : first < 2 ^ bits)
    (hbits : bits ≤ 64) (second : Nat) {after : Octets} (hafter : ∀ b ∈ after.head?, isDigit b = false) :
    ∃ n, sscanf (transportFormat bits)
        (protocol ++ 59 :: (kind ++ 61 :: (dec first ++ 45 :: (dec second ++ after)))) =
      some [.number first, .number n] ∧ (second < 2 ^ bits → n = second) := by
  obtain ⟨n, hn⟩ := (Number.plain (digits_dec second)).scanned hafter bits
  have hhyphen : ∀ b ∈ (45 :: (dec second ++ after)).head?, isDigit b = false := fun b hb => by
    cases hb
    decide
  refine ⟨n, ?_, fun hsecond => ?_⟩
  · rw [transportFormat, sscanf_behind_some (behind_append hprotocol.1 hprotocol.2 _),
      sscanf_behind_some (behind_append hkind.1 hkind.2 _),
      sscanf_unsigned_some (scanUnsigned_dec hfirst hbits hhyphen), sscanf_char,
      sscanf_unsigned_some hn]
    rfl
  · rw [scanUnsigned_dec hsecond hbits hafter] at hn
    cases hn
    rfl

/-- The transport header: the protocol, and an assignment of two numbers. -/
structure TransportHeader (q : ClientRequest) (protocol kind : Octets) (first second : Nat) :
    Prop where
  headers : encodeLines q.wish.headers = ascii "Transport: " ++
    (protocol ++ 59 :: (kind ++ 61 :: (dec first ++ 45 :: (dec second ++ crlf))))

theorem TransportHeader.named {protocol kind : Octets} {first second : Nat}
    (h : q.TransportHeader protocol kind first second) :
    contains (ascii "Transport") q.block = true := by
  have hname : ascii "Transport" <:+: ascii "Transport: " := infix_of_contains (by decide)
  rw [q.contains_headers (by decide) (by decide), contains_iff (by decide), h.headers]
  exact hname.trans (List.prefix_append _ _).isInfix

theorem TransportHeader.found {protocol kind : Octets} {first second : Nat}
    (h : q.TransportHeader protocol kind first second) (hne : protocol ≠ [])
    (hclean : 10 ∉ protocol ∧ 32 ∉ protocol)
    (hout : ∃ b ∈ protocol, b ∉ ascii "CSeq: " ∧ isDigit b = false ∧ b ≠ 13)
    (hno : contains protocol (ascii "Transport:") = false) :
    ∃ before, splitFirst protocol q.block = some (before,
      protocol ++ 59 :: (kind ++ 61 :: (dec first ++ 45 :: (dec second ++ crlf)))) := by
  rw [q.splitFirst_headers hclean.1 hout, h.headers,
    splitFirst_transport hne hclean.2 (not_infix_of_contains hne hno) (List.prefix_append _ _)]
  exact ⟨_, rfl⟩

theorem TransportHeader.noZero {protocol kind : Octets} {first second : Nat}
    (h : q.TransportHeader protocol kind first second) :
    0 ∉ protocol ++ 59 :: (kind ++ 61 :: (dec first ++ 45 :: (dec second ++ crlf))) := by
  intro hmem
  have hheaders : 0 ∈ encodeLines q.wish.headers := by
    rw [h.headers]
    exact List.mem_append_right _ hmem
  refine q.block_noZero ?_
  rw [block_eq]
  exact List.mem_append_right _ (List.mem_append_right _ (List.mem_append_right _ hheaders))

theorem tcpHeader {channel : UInt8} (hq : q.wish = .setupOverTcp track channel) :
    q.TransportHeader (ascii "RTP/AVP/TCP") (ascii "unicast;interleaved") channel.toNat
      (channel.toNat + 1) := by
  have htext : ascii "Transport: RTP/AVP/TCP;unicast;interleaved=" = ascii "Transport: " ++
      (ascii "RTP/AVP/TCP" ++ 59 :: (ascii "unicast;interleaved" ++ [61])) := by decide
  constructor
  rw [hq, Wish.headers, encodeLines_cons, encodeLines_nil, List.append_nil, htext]
  simp only [List.append_assoc, List.cons_append, List.nil_append]

theorem udpHeader {rtpPort rtcpPort : UInt16} (hq : q.wish = .setupOverUdp track rtpPort rtcpPort) :
    q.TransportHeader (ascii "RTP/AVP") (ascii "unicast;client_port") rtpPort.toNat
      rtcpPort.toNat := by
  have htext : ascii "Transport: RTP/AVP;unicast;client_port=" = ascii "Transport: " ++
      (ascii "RTP/AVP" ++ 59 :: (ascii "unicast;client_port" ++ [61])) := by decide
  constructor
  rw [hq, Wish.headers, encodeLines_cons, encodeLines_nil, List.append_nil, htext]
  simp only [List.append_assoc, List.cons_append, List.nil_append]

theorem parseTransport_tcp {channel : UInt8} (hq : q.wish = .setupOverTcp track channel)
    (r : Request) : r.parseTransport q.block =
      (true, { r with isRtpOverTcp := true, rtpChannel := channel }) := by
  have h := tcpHeader hq
  obtain ⟨before, hfound⟩ := h.found (by decide) (by decide) (by decide) (by decide)
  have hprotocol : ascii "RTP/AVP/TCP" ≠ [] ∧ 59 ∉ ascii "RTP/AVP/TCP" := by decide
  have hkind : ascii "unicast;interleaved" ≠ [] ∧ 61 ∉ ascii "unicast;interleaved" := by decide
  obtain ⟨n, hscan, -⟩ := sscanf_pair_printed hprotocol hkind channel.toNat_lt (by decide)
    (channel.toNat + 1) crlf_no_digit
  rw [Request.parseTransport, if_pos h.named, hfound]
  dsimp only
  rw [Request.parseInterleaved, cstr_eq_self h.noZero, hscan]
  simp only [List.length_singleton, UInt8.ofNat_toNat, decide_true]

/-- Only one slash stands in the headers of a SETUP over UDP. -/
theorem udpHeader_no_tcp {rtpPort rtcpPort : UInt16}
    (hq : q.wish = .setupOverUdp track rtpPort rtcpPort) :
    splitFirst (ascii "RTP/AVP/TCP") q.block = none := by
  have hnone : ¬ ascii "RTP/AVP/TCP" <:+: encodeLines q.wish.headers := by
    intro hin
    have hslashes := hin.sublist.count_le 47
    have hdigits : ∀ n, (dec n).count 47 = 0 := fun n =>
      List.count_eq_zero.mpr fun hmem => (digit_byte hmem).2.2.2.1 rfl
    rw [(udpHeader hq).headers] at hslashes
    simp only [List.count_append, List.count_cons, hdigits] at hslashes
    revert hslashes
    decide
  rw [q.splitFirst_headers (by decide) (by decide)]
  cases hsplit : splitFirst (ascii "RTP/AVP/TCP") (encodeLines q.wish.headers) with
  | none => rfl
  | some found => exact absurd (infix_of_splitFirst hsplit) hnone

theorem parseTransport_udp {rtpPort rtcpPort : UInt16}
    (hq : q.wish = .setupOverUdp track rtpPort rtcpPort) (r : Request) :
    r.parseTransport q.block =
      (true, { r with peerRtpPort := rtpPort, peerRtcpPort := rtcpPort }) := by
  have h := udpHeader hq
  obtain ⟨before, hfound⟩ := h.found (by decide) (by decide) (by decide) (by decide)
  have hprotocol : ascii "RTP/AVP" ≠ [] ∧ 59 ∉ ascii "RTP/AVP" := by decide
  have hkind : ascii "unicast;client_port" ≠ [] ∧ 61 ∉ ascii "unicast;client_port" := by decide
  obtain ⟨n, hscan, hn⟩ := sscanf_pair_printed hprotocol hkind rtpPort.toNat_lt (by decide)
    rtcpPort.toNat crlf_no_digit
  have hunicast : ascii "unicast" <:+: ascii "unicast;client_port" := infix_of_contains (by decide)
  have hcontains : contains (ascii "unicast") (ascii "RTP/AVP" ++ 59 ::
      (ascii "unicast;client_port" ++ 61 ::
        (dec rtpPort.toNat ++ 45 :: (dec rtcpPort.toNat ++ crlf)))) = true := by
    rw [contains_iff (by decide)]
    exact hunicast.trans ⟨ascii "RTP/AVP" ++ [59],
      61 :: (dec rtpPort.toNat ++ 45 :: (dec rtcpPort.toNat ++ crlf)), by
        simp only [List.append_assoc, List.cons_append, List.nil_append]⟩
  rw [Request.parseTransport, if_pos h.named, udpHeader_no_tcp hq]
  dsimp only
  rw [hfound]
  dsimp only
  rw [Request.parseUdp, if_pos hcontains, cstr_eq_self h.noZero, hscan, hn rtcpPort.toNat_lt]
  simp only [UInt16.ofNat_toNat]

end Transport

/-! ## The whole request -/

section Whole

variable {q : ClientRequest}

/-- The URL names the track of a SETUP. -/
theorem trackOfUrl_url (h : q.Valid) {track : TrackId} (hq : q.wish.track = some track) :
    Request.trackOfUrl q.url = some track := by
  have hsuffix : q.suffix = q.target.name ++ 47 :: trackText track := by
    rw [suffix, hq]
  have hin : trackText track <:+: q.url := by
    rw [url, hsuffix]
    refine List.IsInfix.trans ?_ (List.suffix_append _ _).isInfix
    refine List.IsInfix.trans ?_ (List.suffix_append _ _).isInfix
    refine List.IsInfix.trans ?_ (List.suffix_cons 47 _).isInfix
    exact ((List.suffix_cons 47 _).trans (List.suffix_append _ _)).isInfix
  rcases trackId_cases track with rfl | rfl
  · exact if_pos ((contains_iff (by decide)).mpr hin)
  · have hno : ¬ ascii "track0" <:+: q.url := by
      have hscheme : ascii "rtsp://" = ascii "rtsp:" ++ 47 :: [47] := by decide
      have hauthority : ¬ ascii "track0" <:+: q.authority := by
        unfold authority
        split
        · exact h.host.noTrack
        · intro hmem
          rcases infix_of_separator (by decide) hmem with hmem | hmem
          · exact h.host.noTrack hmem
          · have hletter := hmem.subset (show 116 ∈ ascii "track0" by decide)
            exact absurd (dec_isDigit hletter) (by decide)
      intro hmem
      have hurl : q.url = ascii "rtsp:" ++ 47 :: ([] ++ 47 :: (q.authority ++ 47 ::
          (q.target.name ++ 47 :: trackText 1))) := by
        rw [url, hsuffix, hscheme]
        simp only [List.append_assoc, List.cons_append, List.nil_append]
      rw [hurl] at hmem
      rcases infix_of_separator (by decide) hmem with hmem | hmem
      · exact not_infix_of_contains (by decide) (by decide) hmem
      rcases infix_of_separator (by decide) hmem with hmem | hmem
      · exact not_infix_of_contains (by decide) (by decide) hmem
      rcases infix_of_separator (by decide) hmem with hmem | hmem
      · exact hauthority hmem
      rcases infix_of_separator (by decide) hmem with hmem | hmem
      · exact h.name.noTrack hmem
      · exact not_infix_of_contains (by decide) (by decide) hmem
    rw [Request.trackOfUrl, if_neg fun hyes => hno ((contains_iff (by decide)).mp hyes)]
    exact if_pos ((contains_iff (by decide)).mpr hin)

theorem parseAccept_block (hq : q.wish = .describe) : Request.parseAccept q.block = true := by
  have hheaders : encodeLines q.wish.headers = ascii "Accept: application/sdp\r\n" := by
    rw [hq]
    decide
  rw [Request.parseAccept, q.contains_headers (by decide) (by decide),
    q.contains_headers (by decide) (by decide), hheaders]
  decide

theorem startsNumber_digit {d : UInt8} (hd : isDigit d = true) (rest : Octets) :
    startsNumber (d :: rest) = true := by
  rw [startsNumber, skipSpace, List.dropWhile_cons_of_neg (by simp [isDigit_not_space hd]),
    splitSign_digit hd]
  exact hd

theorem parseSessionId_block {id : UInt32} (hq : q.wish = .play id)
    (hid : ∀ d ∈ (printedId id).head?, isDigit d = true) :
    Request.parseSessionId q.block = true := by
  obtain ⟨d, ds, hprinted⟩ : ∃ d ds, printedId id = d :: ds :=
    List.exists_cons_of_ne_nil (List.append_ne_nil_of_right_ne_nil _ (List.cons_ne_nil _ _))
  have hd : isDigit d = true := hid d (by rw [hprinted]; rfl)
  have htext : ascii "Session: " = ascii "Session" ++ [58, 32] := by decide
  have hheaders : encodeLines q.wish.headers =
      ascii "Session" ++ 58 :: 32 :: (d :: (ds ++ crlf)) := by
    rw [hq, Wish.headers, encodeLines_cons, encodeLines_nil, List.append_nil, hprinted, htext]
    simp only [List.append_assoc, List.cons_append, List.nil_append]
  have hzero : 0 ∉ ascii "Session" ++ 58 :: 32 :: (d :: (ds ++ crlf)) := by
    rw [← hheaders]
    intro hmem
    refine q.block_noZero ?_
    rw [block_eq]
    exact List.mem_append_right _ (List.mem_append_right _ (List.mem_append_right _ hmem))
  have hfound : splitFirst (ascii "Session") q.block =
      some ((q.cseqHeader ++ [13]) ++ 10 :: [],
        ascii "Session" ++ 58 :: 32 :: (d :: (ds ++ crlf))) := by
    rw [q.splitFirst_headers (by decide) (by decide), hheaders,
      splitFirst_start (by decide) (List.prefix_append _ _)]
    rfl
  have hspaces : skipSpace (32 :: (d :: (ds ++ crlf))) = d :: (ds ++ crlf) := by
    rw [skipSpace, List.dropWhile_cons_of_pos (by decide),
      List.dropWhile_cons_of_neg (by simp [isDigit_not_space hd])]
  obtain ⟨rest, hscan⟩ := scanUnsigned_isSome (startsNumber_digit hd (ds ++ crlf)) 32
  rw [Request.parseSessionId, numberAfter_found (by decide) (by decide) hzero hfound, hspaces, hscan]
  rfl

/-- The headers are read back. -/
theorem parseRequest2_block (h : q.Valid) {r : Request} (hmethod : r.method = q.wish.method)
    (hurl : r.url = q.url) (hsuffix : r.suffix = q.suffix) :
    r.parseRequest2 q.block = (true, q.taken r) := by
  have hsame : { r with cseq := q.cseq } = ({ r with
      method := q.wish.method, url := q.url, suffix := q.suffix, cseq := q.cseq } : Request) := by
    rw [← hmethod, ← hurl, ← hsuffix]
  have htrack : ∀ {track}, q.wish.track = some track → ∀ r' : Request, r'.url = q.url →
      r'.parseMediaTrack = (true, { r' with trackId := some track }) := by
    intro track htrack r' hr'
    rw [Request.parseMediaTrack_eq, hr', trackOfUrl_url h htrack]
  unfold Request.parseRequest2 taken
  rw [parseCSeq_block, hsame]
  cases hq : q.wish with
  | describe =>
    simp only [Wish.method, parseAccept_block hq]
  | setupOverTcp track channel =>
    simp only [Wish.method, parseTransport_tcp hq]
    exact htrack (by rw [hq]; rfl) _ rfl
  | setupOverUdp track rtpPort rtcpPort =>
    simp only [Wish.method, parseTransport_udp hq]
    exact htrack (by rw [hq]; rfl) _ rfl
  | play id =>
    simp only [Wish.method, parseSessionId_block hq (h.identifier id hq)]
  | _ => rfl

/-- **The parser reads back what a client has printed**, whatever it has read before. -/
theorem parseRequest_bytes (q : ClientRequest) (h : q.Valid) (r : Request) :
    r.parseRequest q.bytes = .ok (true, q.taken r, []) := by
  have hline : (10 : UInt8) ∉ q.line := fun hmem => (line_byte h hmem).2 rfl
  have hlines : r.parseLines q.line q.lines = .ok (true, q.taken r) := by
    rw [Request.parseLines, parseRequest1_line h]
    dsimp only
    rw [if_neg (by simp [lines]), blockOf_lines,
      parseRequest2_block h rfl rfl rfl]
    rfl
  have hparse : r.parseRequest (encodeLines (q.line :: q.lines) ++ []) = _ :=
    Request.parseRequest_lines r hline (by decide)
  rw [List.append_nil, hlines] at hparse
  exact hparse

end Whole

/-- A host or a session name in the samples. -/
theorem urlPart_sample {s : Octets} (hne : s ≠ []) (hclean : s.all isUrlByte = true)
    (htrack : contains (ascii "track0") s = false) : UrlPart s :=
  ⟨hne, hclean, not_infix_of_contains (by decide) htrack⟩

def sampleTarget : Target := { host := ascii "10.0.0.1", port := some 8554, name := ascii "live" }

theorem parseRequest_bytes_sample :
    ({ cseq := 0, peerRtpPort := 0, peerRtcpPort := 0, rtpChannel := 0 } : Request).parseRequest
        (ClientRequest.bytes ⟨sampleTarget, .setupOverUdp 1 5000 5001, 3⟩) =
      .ok (true, ClientRequest.taken ⟨sampleTarget, .setupOverUdp 1 5000 5001, 3⟩
        { cseq := 0, peerRtpPort := 0, peerRtcpPort := 0, rtpChannel := 0 }, []) :=
  parseRequest_bytes _ ⟨urlPart_sample (by decide) (by decide) (by decide),
    urlPart_sample (by decide) (by decide) (by decide), by decide, fun _ h => by cases h⟩ _

end ClientRequest
end MyRtspServer.Net
