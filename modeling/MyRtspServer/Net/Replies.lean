import MyRtspServer.Net.Registered
import MyRtspServer.Net.RequestLines

/-!
# Replies

Nine texts answer the requests. A text is a status line, header lines, an empty
line and perhaps a body; the header block always fits into `m_buffer_`. Some of
the texts print the unsigned `m_cseq_` with `%d`, the multicast one begins with
another protocol name, and GET_PARAMETER has none.
-/
namespace MyRtspServer.Net

open Library Library.Octets Library.Lines Library.Transition

/-! ## What a reply should be -/

def statusLine : Octets := ascii "RTSP/1.0 200 OK"

/-- A header: its name and its value. -/
abbrev Header := Octets × Octets

def headerLine (h : Header) : Octets := h.1 ++ 58 :: 32 :: h.2

/-- The name is one word, and the value stays on its line. -/
structure Proper (h : Header) : Prop where
  name : h.1 ≠ []
  nameBytes : h.1.all isNameByte = true
  value : h.2 ≠ []
  oneLine : 10 ∉ h.2 ∧ 13 ∉ h.2

/-- The digits of `n`. -/
def IsDecimal (n : Nat) (s : Octets) : Prop :=
  s ≠ [] ∧ (∀ b ∈ s, isDigit b = true) ∧ decValue s = n

/-- There is a CSeq header with the value `n`. -/
def HasCSeq (n : Nat) (headers : List Header) : Prop :=
  ∃ h ∈ headers, h.1 = ascii "CSeq" ∧ IsDecimal n h.2

/-- A reply with these headers and this body. -/
def replyText (headers : List Header) (body : Octets) : Octets :=
  encodeLines (statusLine :: headers.map headerLine) ++ (crlf ++ body)

/-- The message is a reply with status 200 to the request numbered `n`. -/
def Answers (n : Nat) (message : Octets) : Prop :=
  ∃ headers body, message = replyText headers body ∧ (∀ h ∈ headers, Proper h) ∧ HasCSeq n headers

/-! ## Reading a reply back -/

theorem nameByte_ne {b : UInt8} (h : isNameByte b = true) : b ≠ 58 ∧ b ≠ 10 := by
  simp only [isNameByte, decide_eq_true_eq, UInt8.le_iff_toNat_le] at h
  refine ⟨h.2.2, ?_⟩
  rintro rfl
  exact absurd h.1 (by decide)

theorem Proper.line {h : Header} (hp : Proper h) : 10 ∉ headerLine h ∧ headerLine h ≠ [] := by
  constructor
  · intro hmem
    rcases List.mem_append.mp hmem with hmem | hmem
    · exact (nameByte_ne (List.all_eq_true.mp hp.nameBytes 10 hmem)).2 rfl
    · simp only [List.mem_cons] at hmem
      rcases hmem with hmem | hmem | hmem
      · exact absurd hmem (by decide)
      · exact absurd hmem (by decide)
      · exact hp.oneLine.1 hmem
  · exact fun hnil => hp.name (List.append_eq_nil_iff.mp hnil).1

/-- The name ends at the first colon. -/
theorem headerLine_inj {h h' : Header} (hp : Proper h) (hp' : Proper h')
    (heq : headerLine h = headerLine h') : h = h' := by
  have hname : ∀ {g : Header}, Proper g →
      (headerLine g).takeWhile (fun b => decide (b ≠ 58)) = g.1 := by
    intro g hg
    rw [headerLine, List.takeWhile_append_of_pos]
    · simp
    · exact fun b hb => decide_eq_true (nameByte_ne (List.all_eq_true.mp hg.nameBytes b hb)).1
  have h1 : h.1 = h'.1 := by rw [← hname hp, heq, hname hp']
  refine Prod.ext h1 ?_
  rw [headerLine, headerLine, h1] at heq
  simpa using List.append_cancel_left heq

theorem headers_inj {headers : List Header} : ∀ {headers' : List Header},
    (∀ h ∈ headers, Proper h) → (∀ h ∈ headers', Proper h) →
    headers.map headerLine = headers'.map headerLine → headers = headers' := by
  induction headers with
  | nil =>
    intro headers' _ _ heq
    exact (List.map_eq_nil_iff.mp heq.symm).symm
  | cons h headers ih =>
    intro headers' hp hp' heq
    cases headers' with
    | nil => cases heq
    | cons h' headers' =>
      rw [List.map_cons, List.map_cons, List.cons.injEq] at heq
      rw [headerLine_inj (hp h List.mem_cons_self) (hp' h' List.mem_cons_self) heq.1,
        ih (fun g hg => hp g (List.mem_cons_of_mem _ hg))
          (fun g hg => hp' g (List.mem_cons_of_mem _ hg)) heq.2]

theorem headLines_clean {headers : List Header} (h : ∀ g ∈ headers, Proper g) :
    ∀ l ∈ statusLine :: headers.map headerLine, 10 ∉ l ∧ l ≠ [] := by
  intro l hl
  rcases List.mem_cons.mp hl with rfl | hl
  · decide
  · obtain ⟨g, hg, rfl⟩ := List.mem_map.mp hl
    exact (h g hg).line

/-- **A reply determines its headers.** -/
theorem replyText_inj {headers headers' : List Header} {body body' : Octets}
    (h : ∀ g ∈ headers, Proper g) (h' : ∀ g ∈ headers', Proper g)
    (heq : replyText headers body = replyText headers' body') : headers = headers' := by
  have hlines := encodeLines_inj (headLines_clean h) (headLines_clean h') heq
  rw [List.cons.injEq] at hlines
  exact headers_inj h h' hlines.2

theorem answers_replyText {n : Nat} {headers : List Header} {body : Octets}
    (h : ∀ g ∈ headers, Proper g) : Answers n (replyText headers body) ↔ HasCSeq n headers := by
  constructor
  · rintro ⟨headers', body', heq, h', hcseq⟩
    rw [replyText_inj h h' heq]
    exact hcseq
  · exact fun hcseq => ⟨headers, body, rfl, h, hcseq⟩

/-! ## What fits into the buffer -/

/-- A header as the handlers write them. -/
structure Fitting (h : Header) : Prop where
  name : h.1 ≠ [] ∧ h.1.length ≤ 20
  nameBytes : h.1.all isNameByte = true
  value : h.2 ≠ []
  printed : Printed 200 h.2

theorem Fitting.proper {h : Header} (hf : Fitting h) : Proper h :=
  ⟨hf.name.1, hf.nameBytes, hf.value, hf.printed.not_mem (by decide), hf.printed.not_mem (by decide)⟩

theorem Fitting.headerLine {h : Header} (hf : Fitting h) :
    (headerLine h).length ≤ 222 ∧ 0 ∉ headerLine h := by
  constructor
  · have hname := hf.name.2
    have hvalue := hf.printed.1
    simp only [Net.headerLine, List.length_append, List.length_cons]
    omega
  · intro hmem
    rcases List.mem_append.mp hmem with hmem | hmem
    · exact (isNameByte_not_space (List.all_eq_true.mp hf.nameBytes 0 hmem)).2 rfl
    · simp only [List.mem_cons] at hmem
      rcases hmem with hmem | hmem | hmem
      · exact absurd hmem (by decide)
      · exact absurd hmem (by decide)
      · exact hf.printed.not_mem (by decide) hmem

/-- `snprintf` cuts a reply with few headers in its body only. -/
theorem format_replyText {headers : List Header} {body : Octets} (hfit : ∀ h ∈ headers, Fitting h)
    (hfew : headers.length ≤ 3) :
    ∃ rest, RtspConnection.format (replyText headers body) = replyText headers rest := by
  have hlines : ∀ l ∈ statusLine :: headers.map headerLine, l.length ≤ 222 ∧ 0 ∉ l := by
    intro l hl
    rcases List.mem_cons.mp hl with rfl | hl
    · decide
    · obtain ⟨h, hh, rfl⟩ := List.mem_map.mp hl
      exact (hfit h hh).headerLine
  have hlength := encodeLines_length fun l hl => (hlines l hl).1
  have hzero := not_mem_encodeLines (b := 0) (by decide) fun l hl => (hlines l hl).2
  have hpre : encodeLines (statusLine :: headers.map headerLine) ++ crlf <+:
      RtspConnection.format (replyText headers body) := by
    refine RtspConnection.prefix_format ⟨body, ?_⟩ ?_ ?_
    · rw [replyText, List.append_assoc]
    · simp only [List.length_append, List.length_cons, List.length_map, crlf, List.length_nil]
        at hlength ⊢
      omega
    · intro hmem
      rcases List.mem_append.mp hmem with hmem | hmem
      · exact hzero hmem
      · exact absurd hmem (by decide)
  obtain ⟨rest, hrest⟩ := hpre
  exact ⟨rest, by rw [← hrest, replyText, List.append_assoc]⟩

theorem answers_format {n : Nat} {headers : List Header} {body : Octets}
    (hfit : ∀ h ∈ headers, Fitting h) (hfew : headers.length ≤ 3) :
    Answers n (RtspConnection.format (replyText headers body)) ↔ HasCSeq n headers := by
  obtain ⟨rest, hrest⟩ : ∃ rest, RtspConnection.format (replyText headers body) = replyText headers rest :=
    format_replyText hfit hfew
  rw [hrest]
  exact answers_replyText fun h hh => (hfit h hh).proper

/-! ## The sequence number -/

theorem isDecimal_dec {n m : Nat} : IsDecimal n (dec m) ↔ m = n := by
  constructor
  · rintro ⟨-, -, hvalue⟩
    rw [← hvalue, decValue_dec]
  · rintro rfl
    exact ⟨dec_ne_nil m, fun _ hb => dec_isDigit hb, decValue_dec m⟩

/-- `%d` is right for half of the numbers. -/
theorem isDecimal_signed {n : Nat} {cseq : UInt32} :
    IsDecimal n (intDec (RtspConnection.signed cseq)) ↔ cseq.toNat = n ∧ n < 2 ^ 31 := by
  unfold RtspConnection.signed
  split
  · rename_i hlt
    rw [intDec_natCast, isDecimal_dec]
    constructor
    · rintro rfl
      exact ⟨rfl, hlt⟩
    · exact fun h => h.1
  · rename_i hge
    constructor
    · rintro ⟨-, hdigits, -⟩
      have hneg : (cseq.toNat : Int) - 2 ^ 32 < 0 := by
        have := cseq.toNat_lt
        omega
      rw [intDec, if_pos hneg] at hdigits
      exact absurd (hdigits 45 List.mem_cons_self) (by decide)
    · rintro ⟨rfl, hlt⟩
      exact absurd hlt hge

def cseqHeader (number : Octets) : Header := (ascii "CSeq", number)

theorem hasCSeq_cons {n : Nat} {number : Octets} {others : List Header}
    (h : ∀ g ∈ others, g.1 ≠ ascii "CSeq") :
    HasCSeq n (cseqHeader number :: others) ↔ IsDecimal n number := by
  constructor
  · rintro ⟨g, hg, hname, hvalue⟩
    rcases List.mem_cons.mp hg with rfl | hg
    · exact hvalue
    · exact absurd hname (h g hg)
  · exact fun hvalue => ⟨_, List.mem_cons_self, rfl, hvalue⟩

theorem cseqHeader_fitting {number : Octets} (h : Printed 200 number) (hne : number ≠ []) :
    Fitting (cseqHeader number) :=
  ⟨⟨by simp [cseqHeader, ascii], by simp [cseqHeader, ascii]⟩, by simp only [cseqHeader]; decide,
    hne, h⟩

theorem printed_unsigned (cseq : UInt32) : Printed 200 (dec cseq.toNat) :=
  (printed_dec (k := 9) (Nat.lt_of_lt_of_le cseq.toNat_lt (by decide))).mono (by decide)

theorem printed_signed (cseq : UInt32) : Printed 200 (intDec (RtspConnection.signed cseq)) := by
  have hlt := cseq.toNat_lt
  refine (printed_intDec (k := 9) ?_).mono (by decide)
  unfold RtspConnection.signed
  split <;> omega

theorem intDec_ne_nil (i : Int) : intDec i ≠ [] := by
  unfold intDec
  split
  · exact List.cons_ne_nil _ _
  · exact dec_ne_nil _

/-- A reply that begins with the CSeq header. -/
theorem answers_cseq {n : Nat} {number body : Octets} {others : List Header}
    (hnumber : Printed 200 number) (hne : number ≠ []) (hothers : ∀ h ∈ others, Fitting h)
    (hnames : ∀ h ∈ others, h.1 ≠ ascii "CSeq") (hfew : others.length ≤ 2) :
    Answers n (RtspConnection.format (replyText (cseqHeader number :: others) body)) ↔
      IsDecimal n number := by
  rw [answers_format, hasCSeq_cons hnames]
  · intro h hh
    rcases List.mem_cons.mp hh with rfl | hh
    · exact cseqHeader_fitting hnumber hne
    · exact hothers h hh
  · exact Nat.succ_le_succ hfew

/-! ## The texts -/

theorem start_eq :
    ascii "RTSP/1.0 200 OK\r\nCSeq: " = statusLine ++ (crlf ++ (ascii "CSeq" ++ [58, 32])) := by decide

theorem session_eq :
    ascii "\r\nSession: " = crlf ++ (ascii "Session" ++ [58, 32]) := by decide

theorem end_eq : ascii "\r\n\r\n" = crlf ++ crlf := by decide

namespace RtspConnection

variable (c : RtspConnection)

theorem optionText_eq : c.optionText = replyText [cseqHeader (dec c.request.cseq.toNat),
    (ascii "Public", ascii "OPTIONS, DESCRIBE, SETUP, TEARDOWN, PLAY")] [] := by
  have hpublic : ascii "\r\nPublic: OPTIONS, DESCRIBE, SETUP, TEARDOWN, PLAY\r\n\r\n" =
      crlf ++ (ascii "Public" ++ ([58, 32] ++ (ascii "OPTIONS, DESCRIBE, SETUP, TEARDOWN, PLAY" ++
        (crlf ++ crlf)))) := by decide
  rw [optionText, start_eq, hpublic]
  simp [replyText, headerLine, cseqHeader]

theorem describeText_eq (sdp : Octets) :
    c.describeText sdp = replyText [cseqHeader (dec c.request.cseq.toNat),
      (ascii "Content-Length", dec (UInt32.ofNat sdp.length).toNat),
      (ascii "Content-Type", ascii "application/sdp")] (cstr sdp) := by
  have hlength : ascii "\r\nContent-Length: " = crlf ++ (ascii "Content-Length" ++ [58, 32]) := by
    decide
  have htype : ascii "\r\nContent-Type: application/sdp\r\n\r\n" =
      crlf ++ (ascii "Content-Type" ++ ([58, 32] ++ (ascii "application/sdp" ++ (crlf ++ crlf)))) := by
    decide
  rw [describeText, start_eq, hlength, htype]
  simp [replyText, headerLine, cseqHeader]

/-- The value of the Transport header over TCP. -/
def tcpTransport : Octets :=
  ascii "RTP/AVP/TCP;unicast;interleaved=" ++ dec c.request.rtpChannel.toNat ++ ascii "-" ++
    dec (c.request.rtpChannel + 1).toNat

theorem setupTcpText_eq :
    c.setupTcpText = replyText [cseqHeader (intDec (signed c.request.cseq)),
      (ascii "Transport", c.tcpTransport), (ascii "Session", hex 8 c.sessionId.toNat)] [] := by
  have htransport : ascii "\r\nTransport: RTP/AVP/TCP;unicast;interleaved=" =
      crlf ++ (ascii "Transport" ++ ([58, 32] ++ ascii "RTP/AVP/TCP;unicast;interleaved=")) := by decide
  rw [setupTcpText, start_eq, htransport, session_eq, end_eq]
  simp [replyText, headerLine, cseqHeader, tcpTransport]

/-- The value of the Transport header over UDP. -/
def udpTransport (rtpPort rtcpPort : UInt16) : Octets :=
  ascii "RTP/AVP;unicast;client_port=" ++ dec c.request.peerRtpPort.toNat ++ ascii "-" ++
    dec c.request.peerRtcpPort.toNat ++ ascii ";server_port=" ++ dec rtpPort.toNat ++ ascii "-" ++
    dec rtcpPort.toNat

theorem setupUdpText_eq (rtpPort rtcpPort : UInt16) :
    c.setupUdpText rtpPort rtcpPort = replyText [cseqHeader (dec c.request.cseq.toNat),
      (ascii "Transport", c.udpTransport rtpPort rtcpPort),
      (ascii "Session", hex 8 c.sessionId.toNat)] [] := by
  have htransport : ascii "\r\nTransport: RTP/AVP;unicast;client_port=" =
      crlf ++ (ascii "Transport" ++ ([58, 32] ++ ascii "RTP/AVP;unicast;client_port=")) := by decide
  rw [setupUdpText, start_eq, htransport, session_eq, end_eq]
  simp [replyText, headerLine, cseqHeader, udpTransport]

theorem playText_eq :
    c.playText = replyText [cseqHeader (intDec (signed c.request.cseq)),
      (ascii "Range", ascii "npt=0.000-"),
      (ascii "Session", hex 8 c.sessionId.toNat ++ ascii "; timeout=60")] [] := by
  have hrange : ascii "\r\nRange: npt=0.000-\r\nSession: " =
      crlf ++ (ascii "Range" ++ ([58, 32] ++ (ascii "npt=0.000-" ++ (crlf ++ (ascii "Session" ++
        [58, 32]))))) := by decide
  have htimeout : ascii "; timeout=60\r\n\r\n" = ascii "; timeout=60" ++ (crlf ++ crlf) := by decide
  rw [playText, start_eq, hrange, htimeout]
  simp [replyText, headerLine, cseqHeader]

theorem plainText_eq :
    c.plainText = replyText [cseqHeader (intDec (signed c.request.cseq))] [] := by
  rw [plainText, start_eq, end_eq]
  simp [replyText, headerLine, cseqHeader]

end RtspConnection

/-! ## Which texts answer -/

theorem printed_u8 (n : UInt8) : Printed 3 (dec n.toNat) :=
  printed_dec (k := 2) (Nat.lt_of_lt_of_le n.toNat_lt (by decide))

theorem printed_u16 (n : UInt16) : Printed 5 (dec n.toNat) :=
  printed_dec (k := 4) (Nat.lt_of_lt_of_le n.toNat_lt (by decide))

theorem session_fitting (sessionId : UInt32) : Fitting (ascii "Session", hex 8 sessionId.toNat) :=
  ⟨by simp [ascii], by simp only; decide, by simp [hex], (printed_hex 8 _).mono (by decide)⟩

namespace RtspConnection

variable {n : Nat} (c : RtspConnection)

theorem answers_optionText :
    Answers n (format c.optionText) ↔ c.request.cseq.toNat = n := by
  rw [optionText_eq, answers_cseq (printed_unsigned _) (dec_ne_nil _), isDecimal_dec]
  · intro h hh
    rw [List.mem_singleton.mp hh]
    exact ⟨by decide, by decide, by decide, by decide⟩
  · intro h hh
    rw [List.mem_singleton.mp hh]
    decide
  · decide

theorem describeHeaders_fitting (length : UInt32) :
    ∀ h ∈ [(ascii "Content-Length", dec length.toNat),
      (ascii "Content-Type", ascii "application/sdp")], Fitting h := by
  intro h hh
  simp only [List.mem_cons, List.not_mem_nil, or_false] at hh
  rcases hh with rfl | rfl
  · exact ⟨by simp [ascii], by simp only; decide, dec_ne_nil _, printed_unsigned _⟩
  · exact ⟨by decide, by decide, by decide, by decide⟩

theorem answers_describeText (sdp : Octets) :
    Answers n (format (c.describeText sdp)) ↔ c.request.cseq.toNat = n := by
  rw [describeText_eq, answers_cseq (printed_unsigned _) (dec_ne_nil _), isDecimal_dec]
  · exact describeHeaders_fitting _
  · intro h hh
    simp only [List.mem_cons, List.not_mem_nil, or_false] at hh
    rcases hh with rfl | rfl <;> simp [ascii]
  · simp

/-- Both transports: a Transport and a Session header follow. -/
theorem answers_setup {number transport : Octets} (hnumber : Printed 200 number) (hne : number ≠ [])
    (htransport : Printed 200 transport) (hsome : transport ≠ []) :
    Answers n (format (replyText [cseqHeader number, (ascii "Transport", transport),
      (ascii "Session", hex 8 c.sessionId.toNat)] [])) ↔ IsDecimal n number := by
  rw [answers_cseq hnumber hne]
  · intro h hh
    simp only [List.mem_cons, List.not_mem_nil, or_false] at hh
    rcases hh with rfl | rfl
    · exact ⟨by simp [ascii], by simp only; decide, hsome, htransport⟩
    · exact session_fitting c.sessionId
  · intro h hh
    simp only [List.mem_cons, List.not_mem_nil, or_false] at hh
    rcases hh with rfl | rfl <;> simp [ascii]
  · simp

theorem answers_setupTcpText :
    Answers n (format c.setupTcpText) ↔ c.request.cseq.toNat = n ∧ n < 2 ^ 31 := by
  have hstart : Printed 32 (ascii "RTP/AVP/TCP;unicast;interleaved=") := by decide
  have hminus : Printed 1 (ascii "-") := by decide
  have htransport : Printed 200 c.tcpTransport :=
    (((hstart.append (printed_u8 _)).append hminus).append (printed_u8 _)).mono (by decide)
  rw [setupTcpText_eq, answers_setup c (printed_signed _) (intDec_ne_nil _) htransport,
    isDecimal_signed]
  simp [tcpTransport, ascii]

theorem answers_setupUdpText (rtpPort rtcpPort : UInt16) :
    Answers n (format (c.setupUdpText rtpPort rtcpPort)) ↔ c.request.cseq.toNat = n := by
  have hstart : Printed 28 (ascii "RTP/AVP;unicast;client_port=") := by decide
  have hserver : Printed 13 (ascii ";server_port=") := by decide
  have hminus : Printed 1 (ascii "-") := by decide
  have htransport : Printed 200 (c.udpTransport rtpPort rtcpPort) :=
    (((((((hstart.append (printed_u16 _)).append hminus).append (printed_u16 _)).append
      hserver).append (printed_u16 _)).append hminus).append (printed_u16 _)).mono (by decide)
  rw [setupUdpText_eq, answers_setup c (printed_unsigned _) (dec_ne_nil _) htransport, isDecimal_dec]
  simp [udpTransport, ascii]

theorem answers_playText :
    Answers n (format c.playText) ↔ c.request.cseq.toNat = n ∧ n < 2 ^ 31 := by
  have htimeout : Printed 12 (ascii "; timeout=60") := by decide
  rw [playText_eq, answers_cseq (printed_signed _) (intDec_ne_nil _), isDecimal_signed]
  · intro h hh
    simp only [List.mem_cons, List.not_mem_nil, or_false] at hh
    rcases hh with rfl | rfl
    · exact ⟨by decide, by decide, by decide, by decide⟩
    · exact ⟨by simp [ascii], by simp only; decide, by simp [hex],
        ((printed_hex 8 _).append htimeout).mono (by decide)⟩
  · intro h hh
    simp only [List.mem_cons, List.not_mem_nil, or_false] at hh
    rcases hh with rfl | rfl <;> simp [ascii]
  · simp

theorem answers_plainText :
    Answers n (format c.plainText) ↔ c.request.cseq.toNat = n ∧ n < 2 ^ 31 := by
  rw [plainText_eq, answers_cseq (printed_signed _) (intDec_ne_nil _) (fun _ hh => by cases hh)
    (fun _ hh => by cases hh) (by simp), isDecimal_signed]

/-- Another status line is no answer. -/
theorem not_answers_setupMulticastText (destAddr localIp : Octets) (port : UInt16) :
    ¬ Answers n (format (c.setupMulticastText destAddr localIp port)) := by
  rintro ⟨headers, body, heq, -⟩
  have hpre : ascii "RTP" <+: format (c.setupMulticastText destAddr localIp port) := by
    refine prefix_format ?_ (by decide) (by decide)
    simp only [setupMulticastText, List.append_assoc]
    exact List.IsPrefix.trans ⟨_, rfl⟩ (List.prefix_append _ _)
  obtain ⟨rest, hrest⟩ := hpre
  rw [← hrest, replyText, encodeLines_cons] at heq
  have hthird := congrArg (fun s => s[2]?) heq
  simp [statusLine, ascii] at hthird

end RtspConnection
end MyRtspServer.Net
