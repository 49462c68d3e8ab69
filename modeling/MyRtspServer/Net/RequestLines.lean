import MyRtspServer.Library.Lines
import MyRtspServer.Net.Request

/-!
# Requests as lines

A request is a request line, header lines and an empty line. `ParseRequest` takes
all lines that have arrived as one request; what stands behind the last line end
stays in the buffer.
-/
namespace MyRtspServer.Net

open Library Library.Octets Library.Lines Library.Scan

/-! ## Requests as lines -/

/-- A request as a client writes it: the request line and the header lines. -/
structure RequestText where
  line : Octets
  headers : List Octets

namespace RequestText

def lines (q : RequestText) : List Octets := q.line :: (q.headers ++ [[]])

def bytes (q : RequestText) : Octets := encodeLines q.lines

theorem bytes_ne_nil (q : RequestText) : q.bytes ≠ [] := by
  simp [bytes, lines, encodeLines_cons, crlf]

end RequestText

/-- A byte of a header name: visible, and no colon. -/
def isNameByte (b : UInt8) : Bool := decide (33 ≤ b ∧ b ≤ 126 ∧ b ≠ 58)

/-- `name:value`, with anything but a line feed in the value. -/
def HeaderLine (l : Octets) : Prop :=
  10 ∉ l ∧ ∃ name value, l = name ++ 58 :: value ∧ name ≠ [] ∧ name.all isNameByte = true

structure RequestText.WellFormed (q : RequestText) : Prop where
  line : 10 ∉ q.line
  headers : ∀ h ∈ q.headers, HeaderLine h

theorem RequestText.WellFormed.lines {q : RequestText} (h : q.WellFormed) : ∀ l ∈ q.lines, 10 ∉ l := by
  intro l hl
  simp only [RequestText.lines, List.mem_cons, List.mem_append, List.not_mem_nil, or_false] at hl
  rcases hl with rfl | hl | rfl
  · exact h.line
  · exact (h.headers l hl).1
  · simp

/-- The first word of the line is a method. -/
def startsWithMethod (l : Octets) : Bool :=
  (methodOf ((skipSpace (cstr l)).takeWhile fun b => !isSpace b)).isSome

theorem startsWithMethod_of_parse {r r' : Request} {l : Octets}
    (h : r.parseRequest1 l = .ok (true, r')) : startsWithMethod l = true := by
  unfold Request.parseRequest1 at h
  split at h
  · cases h
  · rename_i method url version hscan
    split at h
    · cases h
    rename_i m hm
    have hmethod : method = (skipSpace (cstr l)).takeWhile fun b => !isSpace b := by
      simp only [requestLineFormat, sscanf] at hscan
      split at hscan
      · cases hscan
      split at hscan
      · cases hscan
      obtain ⟨fields, -, heq⟩ := Option.map_eq_some_iff.mp hscan
      simp only [List.cons.injEq, Field.text.injEq] at heq
      exact heq.1.symm
    rw [startsWithMethod, ← hmethod, hm]
    rfl
  · cases h

/-- The words that `methodOf` knows. -/
theorem word_of_methodOf {word : Octets} {method : Method} (h : methodOf word = some method) :
    word ∈ [ascii "OPTIONS", ascii "DESCRIBE", ascii "SETUP", ascii "PLAY", ascii "TEARDOWN",
      ascii "GET_PARAMETER", ascii "PAUSE"] := by
  by_contra hnot
  simp only [List.mem_cons, List.not_mem_nil, or_false, not_or] at hnot
  obtain ⟨h1, h2, h3, h4, h5, h6, h7⟩ := hnot
  rw [methodOf, if_neg h1, if_neg h2, if_neg h3, if_neg h4, if_neg h5, if_neg h6, if_neg h7] at h
  cases h

theorem methodOf_no_colon {word : Octets} (h : (methodOf word).isSome = true) : 58 ∉ word := by
  obtain ⟨method, hmethod⟩ := Option.isSome_iff_exists.mp h
  have hwords : ∀ word ∈ [ascii "OPTIONS", ascii "DESCRIBE", ascii "SETUP", ascii "PLAY",
      ascii "TEARDOWN", ascii "GET_PARAMETER", ascii "PAUSE"], 58 ∉ word := by decide
  exact hwords word (word_of_methodOf hmethod)

theorem isNameByte_not_space {b : UInt8} (h : isNameByte b = true) : isSpace b = false ∧ b ≠ 0 := by
  simp only [isNameByte, decide_eq_true_eq, UInt8.le_iff_toNat_le] at h
  have hb : 33 ≤ b.toNat := h.1
  constructor
  · simp only [isSpace, Bool.or_eq_false_iff, decide_eq_false_iff_not, UInt8.le_iff_toNat_le]
    constructor
    · rintro ⟨-, hle⟩
      exact absurd (Nat.le_trans hb hle) (by decide)
    · rintro rfl
      exact absurd hb (by decide)
  · rintro rfl
    exact absurd hb (by decide)

/-- A header line is no request line. -/
theorem HeaderLine.no_method {l : Octets} (h : HeaderLine l) : startsWithMethod l = false := by
  obtain ⟨-, name, value, rfl, hne, hall⟩ := h
  have hname := List.all_eq_true.mp hall
  by_contra hsome
  have hcolon := methodOf_no_colon (Bool.not_eq_false _ |>.mp hsome)
  apply hcolon
  have hcstr : cstr (name ++ 58 :: value) = name ++ 58 :: cstr value := by
    rw [cstr, List.takeWhile_append_of_pos]
    · rfl
    · exact fun b hb => decide_eq_true (isNameByte_not_space (hname b hb)).2
  obtain ⟨first, more, rfl⟩ := List.exists_cons_of_ne_nil hne
  have hfirst := (isNameByte_not_space (hname first List.mem_cons_self)).1
  have hskip : skipSpace (cstr (first :: more ++ 58 :: value)) = first :: more ++ 58 :: cstr value := by
    rw [hcstr, skipSpace, List.cons_append, List.dropWhile_cons_of_neg (by simp [hfirst])]
  rw [hskip, List.takeWhile_append_of_pos]
  · exact List.mem_append_right _ List.mem_cons_self
  · exact fun b hb => by simp [(isNameByte_not_space (hname b hb)).1]

theorem empty_no_method : startsWithMethod [] = false := by decide

/-! ## Parsing a buffer of lines -/

/-- The block of `ParseRequest2`: all lines, without the last line end. -/
def blockOf (lines : List Octets) : Octets := encodeLines lines.dropLast ++ lines.getLastD []

theorem blockOf_crlf {lines : List Octets} (h : lines ≠ []) :
    encodeLines lines = blockOf lines ++ crlf := by
  obtain ⟨init, last, rfl⟩ := List.eq_nil_or_concat lines |>.resolve_left h
  simp [blockOf]

namespace Request

/-- `ParseRequest` of a first line and the lines behind it. -/
def parseLines (r : Request) (l : Octets) (lines : List Octets) : Except Fault (Bool × Request) :=
  match r.parseRequest1 l with
  | .error e => .error e
  | .ok (false, r) => .ok (false, r)
  | .ok (true, r) => if lines = [] then .ok (false, r) else .ok (r.parseRequest2 (blockOf lines))

theorem kCrlf_eq : kCrlf = crlf := rfl

/-- What stands behind the last line end stays in the buffer of an accepted request. -/
theorem parseRequest_lines (r : Request) {l carry : Octets} {lines : List Octets} (hl : 10 ∉ l)
    (hcarry : ¬ crlf <:+: carry) :
    r.parseRequest (encodeLines (l :: lines) ++ carry) =
      (r.parseLines l lines).map fun p => (p.1, p.2, if p.1 then carry else []) := by
  have hfirst : splitFirst kCrlf (encodeLines (l :: lines) ++ carry) =
      some (l, crlf ++ (encodeLines lines ++ carry)) := by
    rw [encodeLines_cons, List.append_assoc, List.append_assoc]
    exact splitFirst_line hl _
  have hdrop : (crlf ++ (encodeLines lines ++ carry)).drop 2 = encodeLines lines ++ carry := rfl
  rw [parseRequest, hfirst, parseLines]
  dsimp only
  rw [hdrop]
  cases h1 : r.parseRequest1 l with
  | error e => rfl
  | ok p =>
    obtain ⟨ok, r1⟩ := p
    cases ok with
    | false => rfl
    | true =>
      dsimp only
      by_cases hnil : lines = []
      · subst hnil
        rw [if_pos rfl, kCrlf_eq, encodeLines_nil, List.nil_append, splitLast_none hcarry]
        rfl
      · rw [if_neg hnil, blockOf_crlf hnil, List.append_assoc,
          kCrlf_eq, splitLast_line _ hcarry]
        dsimp only
        rcases r1.parseRequest2 (blockOf lines) with ⟨ok2, r2⟩
        cases ok2 <;> rfl

/-- Nothing is parsed without a line end. -/
theorem parseRequest_none (r : Request) {buffer : Octets} (h : 10 ∉ buffer) :
    r.parseRequest buffer = .ok (false, r, []) := by
  rw [parseRequest, kCrlf_eq, splitFirst_none h]

/-! The transport mode only changes where the text `RTP/AVP/TCP` stands. -/

theorem parseRequest1_mode {r r' : Request} {l : Octets} {ok : Bool}
    (h : r.parseRequest1 l = .ok (ok, r')) : r'.isRtpOverTcp = r.isRtpOverTcp := by
  unfold parseRequest1 at h
  split at h
  · cases h
  · split at h
    · cases h
      rfl
    · dsimp only at h
      split at h
      · split at h <;> cases h <;> rfl
      · cases h
        rfl
  · cases h
    rfl

theorem parseCSeq_mode (r : Request) (message : Octets) :
    (r.parseCSeq message).2.isRtpOverTcp = r.isRtpOverTcp := by
  unfold parseCSeq
  split <;> rfl

theorem parseUdp_mode (r : Request) (transport : Octets) :
    (r.parseUdp transport).2.isRtpOverTcp = r.isRtpOverTcp := by
  unfold parseUdp
  split
  · split <;> rfl
  · rfl

theorem parseTransport_mode (r : Request) {message : Octets}
    (h : ¬ ascii "RTP/AVP/TCP" <:+: message) :
    (r.parseTransport message).2.isRtpOverTcp = r.isRtpOverTcp := by
  unfold parseTransport
  split
  · split
    · exact absurd (infix_of_splitFirst ‹_›) h
    · split
      · exact parseUdp_mode r _
      · rfl
  · rfl

theorem parseMediaTrack_mode (r : Request) : r.parseMediaTrack.2.isRtpOverTcp = r.isRtpOverTcp := by
  unfold parseMediaTrack
  split
  · rfl
  · split <;> rfl

theorem parseRequest2_mode (r : Request) {message : Octets}
    (h : ¬ ascii "RTP/AVP/TCP" <:+: message) :
    (r.parseRequest2 message).2.isRtpOverTcp = r.isRtpOverTcp := by
  have hcseq := parseCSeq_mode r message
  unfold parseRequest2
  split
  · rename_i r1 heq
    rw [heq] at hcseq
    exact hcseq
  · rename_i r1 heq
    rw [heq] at hcseq
    split
    · exact hcseq
    · exact hcseq
    · have htransport := parseTransport_mode r1 h
      split
      · rename_i r2 heq2
        rw [heq2] at htransport
        exact htransport.trans hcseq
      · rename_i r2 heq2
        rw [heq2] at htransport
        exact (parseMediaTrack_mode r2).trans (htransport.trans hcseq)
    all_goals exact hcseq

theorem parseLines_mode {r r' : Request} {l : Octets} {lines : List Octets} {ok : Bool}
    (h : r.parseLines l lines = .ok (ok, r'))
    (hplain : ¬ ascii "RTP/AVP/TCP" <:+: encodeLines lines) :
    r'.isRtpOverTcp = r.isRtpOverTcp := by
  unfold parseLines at h
  split at h
  · cases h
  · rename_i r1 heq
    cases h
    exact parseRequest1_mode heq
  · rename_i r1 heq
    have hmode := parseRequest1_mode heq
    split at h
    · cases h
      exact hmode
    · rename_i hne
      have hblock : ¬ ascii "RTP/AVP/TCP" <:+: blockOf lines := by
        intro hin
        rw [blockOf_crlf hne] at hplain
        exact hplain (hin.trans (List.prefix_append _ _).isInfix)
      have hsame := parseRequest2_mode r1 hblock
      cases h2 : r1.parseRequest2 (blockOf lines) with
      | mk ok2 r2 =>
        rw [h2] at h hsame
        cases h
        exact hsame.trans hmode

/-! Once it is interleaved, it stays so. -/

theorem parseTransport_interleaved {r : Request} (hmode : r.isRtpOverTcp = true) (message : Octets) :
    (r.parseTransport message).2.isRtpOverTcp = true := by
  unfold parseTransport
  split
  · split
    · unfold parseInterleaved
      dsimp only
      split <;> rfl
    · split
      · exact (parseUdp_mode r _).trans hmode
      · exact hmode
  · exact hmode

theorem parseRequest2_interleaved {r : Request} (hmode : r.isRtpOverTcp = true) (message : Octets) :
    (r.parseRequest2 message).2.isRtpOverTcp = true := by
  have hcseq := (parseCSeq_mode r message).trans hmode
  unfold parseRequest2
  split
  · rename_i r1 heq
    rw [heq] at hcseq
    exact hcseq
  · rename_i r1 heq
    rw [heq] at hcseq
    split
    · exact hcseq
    · exact hcseq
    · have htransport := parseTransport_interleaved hcseq message
      split
      · rename_i r2 heq2
        rw [heq2] at htransport
        exact htransport
      · rename_i r2 heq2
        rw [heq2] at htransport
        exact (parseMediaTrack_mode r2).trans htransport
    all_goals exact hcseq

theorem parseLines_interleaved {r r' : Request} {l : Octets} {lines : List Octets} {ok : Bool}
    (hmode : r.isRtpOverTcp = true) (h : r.parseLines l lines = .ok (ok, r')) :
    r'.isRtpOverTcp = true := by
  unfold parseLines at h
  split at h
  · cases h
  · rename_i r1 heq
    cases h
    exact (parseRequest1_mode heq).trans hmode
  · rename_i r1 heq
    have hmode1 := (parseRequest1_mode heq).trans hmode
    split at h
    · cases h
      exact hmode1
    · have hmode2 := parseRequest2_interleaved hmode1 (blockOf lines)
      cases h2 : r1.parseRequest2 (blockOf lines) with
      | mk ok2 r2 =>
        rw [h2] at h hmode2
        cases h
        exact hmode2

/-- Behind what is taken as a request there is no line end. -/
theorem parseRequest_left {r r' : Request} {buffer left : Octets}
    (h : r.parseRequest buffer = .ok (true, r', left)) : ¬ crlf <:+: left := by
  unfold parseRequest at h
  split at h
  · cases h
  split at h
  · cases h
  · cases h
  split at h
  · cases h
  rename_i block rest hlast
  split at h
  · cases h
  · cases h
    exact splitLast_last hlast

/-- What is left in the buffer is the end of what was in it. -/
theorem parseRequest_suffix {r r' : Request} {buffer left : Octets} {ok : Bool}
    (h : r.parseRequest buffer = .ok (ok, r', left)) : left <:+ buffer := by
  unfold parseRequest at h
  split at h
  · cases h
    exact List.nil_suffix
  rename_i line behind hfirst
  split at h
  · cases h
  · cases h
    exact List.nil_suffix
  split at h
  · cases h
    exact List.nil_suffix
  rename_i block rest hlast
  split at h
  · cases h
    exact List.nil_suffix
  · cases h
    have hbehind : behind <:+ buffer := ⟨line, (splitFirst_rest hfirst).1.symm⟩
    exact (List.drop_suffix 2 rest).trans
      ((splitLast_suffix hlast).trans ((List.drop_suffix 2 behind).trans hbehind))

end Request

end MyRtspServer.Net
