import MyRtspServer.Library.Messages
import MyRtspServer.Net.DescribeLength

/-!
# How a client takes its stream apart

Replies and interleaved packets come in one byte stream, and nothing but their own
bytes says where each of them ends: a packet begins with `$` and its length, a reply
ends behind the body its Content-Length header announces. Every text of the server is
read back by these rules.
-/
namespace MyRtspServer.Net

open Library Library.Octets Library.Lines Library.Messages

/-! ## The client's side -/

/-- The value of the first header with that name. -/
def valueOf (name : Octets) (lines : List Octets) : Option Octets :=
  (lines.find? fun l => (name ++ [58, 32]).isPrefixOf l).map fun l => l.drop (name.length + 2)

/-- The length of the body behind these lines. -/
def contentLength (lines : List Octets) : Nat :=
  ((valueOf (ascii "Content-Length") lines).map decValue).getD 0

/-- A number of 32 bits, printed with `%u` or with `%d`. -/
def printedNumber : Octets → UInt32
  | 45 :: digits => 0 - UInt32.ofNat (decValue digits)
  | digits => UInt32.ofNat (decValue digits)

/-- A message of the server. -/
inductive Incoming where
  | frame (channel : UInt8) (payload : Octets)
  | reply (lines : List Octets) (body : Octets)
  deriving DecidableEq

namespace Incoming

def bytes : Incoming → Octets
  | .frame channel payload =>
    36 :: channel :: UInt8.ofNat (payload.length / 256) :: UInt8.ofNat (payload.length % 256) ::
      payload
  | .reply lines body => encodeLines lines ++ (crlf ++ body)

/-- The number of the request that is answered. -/
def cseq : Incoming → Option UInt32
  | .frame _ _ => none
  | .reply lines _ => (valueOf (ascii "CSeq") lines).map printedNumber

/-- The message says itself where it ends. -/
def WellFormed : Incoming → Prop
  | .frame _ payload => payload.length < 2 ^ 16
  | .reply lines body => (∀ l ∈ lines, 10 ∉ l ∧ l ≠ []) ∧ (encodeLines lines).head? ≠ some 36 ∧
      contentLength lines = body.length

end Incoming

/-- The lines up to the first empty one, and what stands behind it. -/
def readHead : Nat → Octets → Option (List Octets × Octets)
  | 0, _ => none
  | fuel + 1, buffer =>
    match splitFirst crlf buffer with
    | none => none
    | some (l, rest) =>
      if l = [] then some ([], rest.drop 2)
      else (readHead fuel (rest.drop 2)).map fun head => (l :: head.1, head.2)

def readReply (buffer : Octets) : Option (Incoming × Octets) :=
  match readHead (buffer.length + 1) buffer with
  | none => none
  | some (lines, rest) =>
    if contentLength lines ≤ rest.length then
      some (.reply lines (rest.take (contentLength lines)), rest.drop (contentLength lines))
    else none

def readFrame : Octets → Option (Incoming × Octets)
  | channel :: hi :: lo :: rest =>
    if hi.toNat * 256 + lo.toNat ≤ rest.length then
      some (.frame channel (rest.take (hi.toNat * 256 + lo.toNat)),
        rest.drop (hi.toNat * 256 + lo.toNat))
    else none
  | _ => none

/-- The next message of a connection. -/
def readMessage : Messages.Reader UInt8 Incoming
  | [] => none
  | b :: buffer => if b = 36 then readFrame buffer else readReply (b :: buffer)

theorem readMessage_cons (b : UInt8) (buffer : Octets) :
    readMessage (b :: buffer) = if b = 36 then readFrame buffer else readReply (b :: buffer) := rfl

/-! ## Reading -/

theorem readHead_more (fuel : Nat) : ∀ {fuel' : Nat} {buffer rest : Octets} {lines : List Octets}
    (later : Octets), fuel ≤ fuel' → readHead fuel buffer = some (lines, rest) →
      readHead fuel' (buffer ++ later) = some (lines, rest ++ later) := by
  induction fuel with
  | zero => exact fun _ _ h => by cases h
  | succ fuel ih =>
    intro fuel' buffer rest lines later hle h
    obtain ⟨fuel', rfl⟩ := Nat.exists_eq_succ_of_ne_zero (Nat.ne_zero_of_lt hle)
    rw [readHead] at h ⊢
    cases hline : splitFirst crlf buffer with
    | none => rw [hline] at h; cases h
    | some found =>
      obtain ⟨l, behind⟩ := found
      obtain ⟨-, hcrlf⟩ := splitFirst_rest hline
      have hdrop : (behind ++ later).drop 2 = behind.drop 2 ++ later :=
        List.drop_append_of_le_length hcrlf.length_le
      rw [hline] at h
      rw [splitFirst_more later hline]
      dsimp only at h ⊢
      rw [hdrop]
      split at h
      · rename_i hempty
        cases h
        rw [if_pos hempty]
      · rename_i hsome
        obtain ⟨head, hhead, hlines⟩ := Option.map_eq_some_iff.mp h
        cases hlines
        rw [if_neg hsome, ih later (Nat.le_of_succ_le_succ hle) hhead]
        rfl

theorem readHead_less (fuel : Nat) : ∀ {buffer rest : Octets} {lines : List Octets},
    readHead fuel buffer = some (lines, rest) → rest.length < buffer.length := by
  induction fuel with
  | zero => exact fun h => by cases h
  | succ fuel ih =>
    intro buffer rest lines h
    rw [readHead] at h
    cases hline : splitFirst crlf buffer with
    | none => rw [hline] at h; cases h
    | some found =>
      obtain ⟨l, behind⟩ := found
      obtain ⟨hsplit, hcrlf⟩ := splitFirst_rest hline
      have hlong := hcrlf.length_le
      have htotal := congrArg List.length hsplit
      rw [List.length_append] at htotal
      have hdrop : (behind.drop 2).length < buffer.length := by
        rw [List.length_drop]
        simp only [crlf, List.length_cons, List.length_nil] at hlong
        omega
      rw [hline] at h
      dsimp only at h
      split at h
      · cases h
        exact hdrop
      · obtain ⟨head, hhead, hlines⟩ := Option.map_eq_some_iff.mp h
        cases hlines
        exact (ih hhead).trans hdrop

theorem readReply_incremental : Incremental readReply := by
  constructor
  · intro buffer message rest h later
    unfold readReply at h ⊢
    cases hhead : readHead (buffer.length + 1) buffer with
    | none => rw [hhead] at h; cases h
    | some head =>
      obtain ⟨lines, behind⟩ := head
      have hfuel : buffer.length + 1 ≤ (buffer ++ later).length + 1 := by
        rw [List.length_append]
        omega
      rw [hhead] at h
      rw [readHead_more _ later hfuel hhead]
      dsimp only at h ⊢
      split at h
      · rename_i hlong
        cases h
        rw [if_pos (by rw [List.length_append]; omega), List.take_append_of_le_length hlong,
          List.drop_append_of_le_length hlong]
      · cases h
  · intro buffer message rest h
    unfold readReply at h
    cases hhead : readHead (buffer.length + 1) buffer with
    | none => rw [hhead] at h; cases h
    | some head =>
      obtain ⟨lines, behind⟩ := head
      have hless := readHead_less _ hhead
      rw [hhead] at h
      dsimp only at h
      split at h
      · cases h
        rw [List.length_drop]
        omega
      · cases h

theorem readFrame_incremental : Incremental readFrame := by
  constructor
  · intro buffer message rest h later
    match buffer, h with
    | channel :: hi :: lo :: behind, h =>
      simp only [readFrame] at h
      simp only [readFrame, List.cons_append]
      split at h
      · rename_i hlong
        cases h
        rw [if_pos (by rw [List.length_append]; omega), List.take_append_of_le_length hlong,
          List.drop_append_of_le_length hlong]
      · cases h
  · intro buffer message rest h
    match buffer, h with
    | channel :: hi :: lo :: behind, h =>
      simp only [readFrame] at h
      split at h
      · cases h
        rw [List.length_drop, List.length_cons, List.length_cons, List.length_cons]
        omega
      · cases h

/-- **The client looks at nothing behind the message it reads.** -/
theorem readMessage_incremental : Incremental readMessage := by
  constructor
  · intro buffer message rest h later
    cases buffer with
    | nil => cases h
    | cons b buffer =>
      rw [readMessage_cons] at h
      rw [List.cons_append, readMessage_cons]
      split at h
      · rename_i hframe
        rw [if_pos hframe]
        exact readFrame_incremental.more h later
      · rename_i hreply
        rw [if_neg hreply]
        exact readReply_incremental.more h later
  · intro buffer message rest h
    cases buffer with
    | nil => cases h
    | cons b buffer =>
      rw [readMessage_cons] at h
      split at h
      · exact Nat.lt_succ_of_lt (readFrame_incremental.less h)
      · exact readReply_incremental.less h

/-- A head of whole lines. -/
theorem readHead_lines {lines : List Octets} (h : ∀ l ∈ lines, 10 ∉ l ∧ l ≠ []) :
    ∀ {fuel : Nat} {rest : Octets}, lines.length < fuel →
      readHead fuel (encodeLines lines ++ (crlf ++ rest)) = some (lines, rest) := by
  induction lines with
  | nil =>
    intro fuel rest hfuel
    obtain ⟨fuel, rfl⟩ := Nat.exists_eq_succ_of_ne_zero (Nat.ne_zero_of_lt hfuel)
    have hline : splitFirst crlf ([] ++ (crlf ++ rest)) = some ([], crlf ++ rest) :=
      splitFirst_line List.not_mem_nil rest
    rw [encodeLines_nil, readHead, hline]
    rfl
  | cons l lines ih =>
    intro fuel rest hfuel
    obtain ⟨fuel, rfl⟩ := Nat.exists_eq_succ_of_ne_zero (Nat.ne_zero_of_lt hfuel)
    obtain ⟨hline, hsome⟩ := h l List.mem_cons_self
    rw [encodeLines_cons, List.append_assoc, List.append_assoc, readHead, splitFirst_line hline]
    dsimp only
    rw [if_neg hsome]
    have hrest : readHead fuel (encodeLines lines ++ (crlf ++ rest)) = some (lines, rest) :=
      ih (fun k hk => h k (List.mem_cons_of_mem _ hk)) (Nat.lt_of_succ_lt_succ hfuel)
    have hdrop : (crlf ++ (encodeLines lines ++ (crlf ++ rest))).drop 2 =
        encodeLines lines ++ (crlf ++ rest) := rfl
    rw [hdrop, hrest]
    rfl

/-- **Each message of the server is read back.** -/
theorem Incoming.WellFormed.readsBack {m : Incoming} (h : m.WellFormed) :
    ReadsBack readMessage Incoming.bytes m := by
  cases m with
  | frame channel payload =>
    have hsize : payload.length < 2 ^ 16 := h
    have hhi : (UInt8.ofNat (payload.length / 256)).toNat = payload.length / 256 :=
      UInt8.toNat_ofNat_of_lt' (show _ < 256 by omega)
    have hlo : (UInt8.ofNat (payload.length % 256)).toNat = payload.length % 256 :=
      UInt8.toNat_ofNat_of_lt' (show _ < 256 by omega)
    have hlength : payload.length / 256 * 256 + payload.length % 256 = payload.length := by omega
    rw [ReadsBack, bytes, readMessage, if_pos rfl, readFrame, hhi, hlo, hlength,
      if_pos (Nat.le_refl _), List.take_length, List.drop_length]
  | reply lines body =>
    obtain ⟨hlines, hfirst, hbody⟩ := h
    have hfuel : lines.length < (Incoming.bytes (.reply lines body)).length + 1 := by
      have hlength := le_encodeLines_length lines
      rw [bytes, List.length_append]
      omega
    have hread : readReply (Incoming.bytes (.reply lines body)) = some (.reply lines body, []) := by
      rw [readReply, bytes, readHead_lines hlines (by rwa [bytes] at hfuel)]
      dsimp only
      rw [hbody, if_pos (Nat.le_refl _), List.take_length, List.drop_length]
    have hdollar : (Incoming.bytes (.reply lines body)).head? ≠ some 36 := by
      cases lines with
      | nil => simp [bytes, crlf]
      | cons l lines =>
        obtain ⟨b, l, rfl⟩ := List.exists_cons_of_ne_nil (hlines l List.mem_cons_self).2
        exact hfirst
    cases hbytes : Incoming.bytes (.reply lines body) with
    | nil => rw [hbytes] at hread; cases hread
    | cons b buffer =>
      rw [hbytes] at hdollar hread
      rw [ReadsBack, hbytes, readMessage_cons, if_neg fun heq => hdollar (congrArg some heq), hread]

/-! ## The headers of a reply -/

theorem valueOf_other {name l : Octets} (h : ¬ name ++ [58, 32] <+: l) (lines : List Octets) :
    valueOf name (l :: lines) = valueOf name lines := by
  rw [valueOf, valueOf, List.find?_cons_of_neg fun hp => h (List.isPrefixOf_iff_prefix.mp hp)]

/-- The name of a header ends at its colon. -/
theorem valueOf_header {name : Octets} {h : Header} (hp : Proper h) (hname : 58 ∉ name)
    (lines : List Octets) :
    valueOf name (headerLine h :: lines) = if h.1 = name then some h.2 else valueOf name lines := by
  have hcolon : 58 ∉ h.1 := fun hmem =>
    (nameByte_ne (List.all_eq_true.mp hp.nameBytes 58 hmem)).1 rfl
  split
  · rename_i heq
    subst heq
    have hstart : h.1 ++ [58, 32] <+: headerLine h := ⟨h.2, by simp [headerLine]⟩
    rw [valueOf, List.find?_cons_of_pos (List.isPrefixOf_iff_prefix.mpr hstart)]
    simp [headerLine]
  · rename_i hne
    refine valueOf_other (fun hstart => hne ?_) lines
    obtain ⟨rest, hrest⟩ := hstart
    have hupto : ∀ {front back : Octets}, 58 ∉ front →
        (front ++ 58 :: back).takeWhile (fun b => decide (b ≠ 58)) = front := by
      intro front back hfront
      rw [List.takeWhile_append_of_pos]
      · simp
      · exact fun b hb => decide_eq_true fun heq => hfront (heq ▸ hb)
    have hleft := @hupto name (32 :: rest) hname
    have hright := @hupto h.1 (32 :: h.2) hcolon
    rw [← hright, ← hleft]
    congr 1
    simpa [headerLine] using hrest.symm

theorem valueOf_none {name : Octets} (hname : 58 ∉ name) {headers : List Header}
    (hp : ∀ h ∈ headers, Proper h) (hnone : ∀ h ∈ headers, h.1 ≠ name) :
    valueOf name (headers.map headerLine) = none := by
  induction headers with
  | nil => rfl
  | cons h headers ih =>
    rw [List.map_cons, valueOf_header (hp h List.mem_cons_self) hname,
      if_neg (hnone h List.mem_cons_self)]
    exact ih (fun g hg => hp g (List.mem_cons_of_mem _ hg))
      fun g hg => hnone g (List.mem_cons_of_mem _ hg)

theorem printedNumber_digits {digits : Octets} (h : ∀ b ∈ digits, isDigit b = true) :
    printedNumber digits = UInt32.ofNat (decValue digits) := by
  unfold printedNumber
  split
  · exact absurd (h 45 List.mem_cons_self) (by decide)
  · rfl

theorem printedNumber_unsigned (n : UInt32) : printedNumber (dec n.toNat) = n := by
  rw [printedNumber_digits fun b hb => dec_isDigit hb, decValue_dec, UInt32.ofNat_toNat]

/-- What `%d` prints for an unsigned number is that number again, modulo 2^32. -/
theorem printedNumber_signed (n : UInt32) : printedNumber (intDec (RtspConnection.signed n)) = n := by
  have hlt := n.toNat_lt
  unfold RtspConnection.signed
  split
  · rw [intDec_natCast, printedNumber_unsigned]
  · have hneg : (n.toNat : Int) - 2 ^ 32 < 0 := by omega
    have hvalue : (-((n.toNat : Int) - 2 ^ 32)).toNat = 2 ^ 32 - n.toNat := by omega
    rw [intDec, if_pos hneg, printedNumber, hvalue, decValue_dec]
    apply UInt32.toNat_inj.mp
    rw [UInt32.toNat_sub, UInt32.toNat_ofNat', UInt32.toNat_zero]
    omega

/-- A client reads the message, and this is the number in it. -/
def Speaks (number : Option UInt32) (message : Octets) : Prop :=
  ∃ m : Incoming, m.WellFormed ∧ m.bytes = message ∧ m.cseq = number

theorem statusLine_other {name : Octets} (h : (name ++ [58, 32]).isPrefixOf statusLine = false)
    (lines : List Octets) : valueOf name (statusLine :: lines) = valueOf name lines := by
  refine valueOf_other (fun hp => ?_) lines
  rw [List.isPrefixOf_iff_prefix.mpr hp] at h
  cases h

/-- A reply with proper headers, of which the first is the number. -/
theorem speaks_replyText {number body : Octets} {others : List Header}
    (hnumber : Proper (cseqHeader number)) (hothers : ∀ h ∈ others, Proper h)
    (hbody : contentLength (others.map headerLine) = body.length) :
    Speaks (some (printedNumber number)) (replyText (cseqHeader number :: others) body) := by
  have hproper : ∀ h ∈ cseqHeader number :: others, Proper h := by
    intro h hh
    rcases List.mem_cons.mp hh with rfl | hh
    · exact hnumber
    · exact hothers h hh
  have hlength : contentLength (statusLine :: (cseqHeader number :: others).map headerLine) =
      contentLength (others.map headerLine) := by
    rw [contentLength, statusLine_other (by decide), List.map_cons,
      valueOf_header hnumber (by decide), if_neg (by simp only [cseqHeader]; decide)]
    rfl
  refine ⟨.reply (statusLine :: (cseqHeader number :: others).map headerLine) body,
    ⟨headLines_clean hproper, ?_, hlength.trans hbody⟩, rfl, ?_⟩
  · simp [statusLine, ascii]
  · have hname : (cseqHeader number).1 = ascii "CSeq" := rfl
    rw [Incoming.cseq, statusLine_other (by decide), List.map_cons,
      valueOf_header hnumber (by decide), if_pos hname]
    rfl

/-- Nothing of a short reply without a body is cut. -/
theorem format_short {headers : List Header} (hfit : ∀ h ∈ headers, Fitting h)
    (hfew : headers.length ≤ 3) :
    RtspConnection.format (replyText headers []) = replyText headers [] := by
  obtain ⟨rest, hrest⟩ : ∃ rest,
      RtspConnection.format (replyText headers []) = replyText headers rest :=
    format_replyText hfit hfew
  have hprefix : RtspConnection.format (replyText headers []) <+: replyText headers [] :=
    (List.takeWhile_prefix _).trans (List.take_prefix _ _)
  have hlength := hprefix.length_le
  rw [hrest] at hlength ⊢
  have hnil : rest = [] := by
    rw [replyText, replyText] at hlength
    simpa using hlength
  rw [hnil]

/-- **A short reply without a body can be read.** -/
theorem speaks_short {number : Octets} {others : List Header} (hnumber : Printed 200 number)
    (hne : number ≠ []) (hothers : ∀ h ∈ others, Fitting h) (hfew : others.length ≤ 2)
    (hbody : ∀ h ∈ others, h.1 ≠ ascii "Content-Length") :
    Speaks (some (printedNumber number))
      (RtspConnection.format (replyText (cseqHeader number :: others) [])) := by
  have hfirst := cseqHeader_fitting hnumber hne
  have hfit : ∀ h ∈ cseqHeader number :: others, Fitting h := by
    intro h hh
    rcases List.mem_cons.mp hh with rfl | hh
    · exact hfirst
    · exact hothers h hh
  rw [format_short hfit (Nat.succ_le_succ hfew)]
  refine speaks_replyText hfirst.proper (fun h hh => (hothers h hh).proper) ?_
  rw [contentLength, valueOf_none (by decide) (fun h hh => (hothers h hh).proper) hbody]
  rfl

namespace RtspConnection

variable (c : RtspConnection)

theorem speaks_optionText : Speaks (some c.request.cseq) (format c.optionText) := by
  have hpublic : Fitting (ascii "Public", ascii "OPTIONS, DESCRIBE, SETUP, TEARDOWN, PLAY") :=
    ⟨by decide, by decide, by decide, by decide⟩
  have hspeaks := @speaks_short _ [_] (printed_unsigned c.request.cseq) (dec_ne_nil _)
    (List.forall_mem_singleton.mpr hpublic) (by decide) (by decide)
  rwa [printedNumber_unsigned, ← optionText_eq] at hspeaks

/-- Both transports. -/
theorem speaks_setup {number transport : Octets} (hnumber : Printed 200 number) (hne : number ≠ [])
    (htransport : Printed 200 transport) (hsome : transport ≠ []) :
    Speaks (some (printedNumber number)) (format (replyText [cseqHeader number,
      (ascii "Transport", transport), (ascii "Session", hex 8 c.sessionId.toNat)] [])) := by
  have hfit : Fitting (ascii "Transport", transport) :=
    ⟨by simp [ascii], by simp only; decide, hsome, htransport⟩
  refine speaks_short hnumber hne (List.forall_mem_cons.mpr
    ⟨hfit, List.forall_mem_singleton.mpr (session_fitting c.sessionId)⟩) (Nat.le_refl 2) ?_
  exact List.forall_mem_cons.mpr ⟨by simp only; decide, List.forall_mem_singleton.mpr
    (by simp only; decide)⟩

theorem speaks_setupTcpText : Speaks (some c.request.cseq) (format c.setupTcpText) := by
  have hstart : Printed 32 (ascii "RTP/AVP/TCP;unicast;interleaved=") := by decide
  have hminus : Printed 1 (ascii "-") := by decide
  have htransport : Printed 200 c.tcpTransport :=
    (((hstart.append (printed_u8 _)).append hminus).append (printed_u8 _)).mono (by decide)
  have hspeaks := speaks_setup c (printed_signed c.request.cseq) (intDec_ne_nil _) htransport
    (by simp [tcpTransport, ascii])
  rwa [printedNumber_signed, ← setupTcpText_eq] at hspeaks

theorem speaks_setupUdpText (rtpPort rtcpPort : UInt16) :
    Speaks (some c.request.cseq) (format (c.setupUdpText rtpPort rtcpPort)) := by
  have hstart : Printed 28 (ascii "RTP/AVP;unicast;client_port=") := by decide
  have hserver : Printed 13 (ascii ";server_port=") := by decide
  have hminus : Printed 1 (ascii "-") := by decide
  have htransport : Printed 200 (c.udpTransport rtpPort rtcpPort) :=
    (((((((hstart.append (printed_u16 _)).append hminus).append (printed_u16 _)).append
      hserver).append (printed_u16 _)).append hminus).append (printed_u16 _)).mono (by decide)
  have hspeaks := speaks_setup c (printed_unsigned c.request.cseq) (dec_ne_nil _) htransport
    (by simp [udpTransport, ascii])
  rwa [printedNumber_unsigned, ← setupUdpText_eq] at hspeaks

theorem speaks_playText : Speaks (some c.request.cseq) (format c.playText) := by
  have htimeout : Printed 12 (ascii "; timeout=60") := by decide
  have hrange : Fitting (ascii "Range", ascii "npt=0.000-") :=
    ⟨by decide, by decide, by decide, by decide⟩
  have hsession : Fitting (ascii "Session", hex 8 c.sessionId.toNat ++ ascii "; timeout=60") :=
    ⟨by simp [ascii], by simp only; decide, by simp [hex],
      ((printed_hex 8 _).append htimeout).mono (by decide)⟩
  have hspeaks := speaks_short (printed_signed c.request.cseq) (intDec_ne_nil _)
    (List.forall_mem_cons.mpr ⟨hrange, List.forall_mem_singleton.mpr hsession⟩) (Nat.le_refl 2)
    (List.forall_mem_cons.mpr ⟨by decide, List.forall_mem_singleton.mpr (by simp only; decide)⟩)
  rwa [printedNumber_signed, ← playText_eq] at hspeaks

theorem speaks_plainText : Speaks (some c.request.cseq) (format c.plainText) := by
  have hspeaks := @speaks_short _ [] (printed_signed c.request.cseq) (intDec_ne_nil _)
    (fun _ hh => by cases hh) (by decide) (fun _ hh => by cases hh)
  rwa [printedNumber_signed, ← plainText_eq] at hspeaks

/-- The body of a DESCRIBE reply is as long as it says. -/
theorem speaks_describeText {sdp : Octets} (h : Written 1544 sdp) :
    Speaks (some c.request.cseq) (format (c.describeText sdp)) := by
  have htext := c.describeText_written h
  have hformat : format (c.describeText sdp) = c.describeText sdp := by
    rw [format, List.take_of_length_le (Nat.le_trans htext.length (by decide)), htext.cstr]
  have hsize : (UInt32.ofNat sdp.length).toNat = sdp.length :=
    UInt32.toNat_ofNat_of_lt' (Nat.lt_of_le_of_lt h.length (by decide))
  have hfitting := describeHeaders_fitting (UInt32.ofNat sdp.length)
  have hspeaks := @speaks_replyText (dec c.request.cseq.toNat) sdp _
    (cseqHeader_fitting (printed_unsigned _) (dec_ne_nil _)).proper
    (fun g hg => (hfitting g hg).proper) (by
      rw [contentLength, List.map_cons,
        valueOf_header (hfitting _ List.mem_cons_self).proper (by decide), if_pos rfl,
        Option.map_some, Option.getD_some, decValue_dec, hsize])
  rw [hformat, describeText_eq, h.cstr]
  rwa [printedNumber_unsigned] at hspeaks

/-- The lines of the reply to SETUP of a multicast session; the fourth is no header. -/
def multicastLines (destAddr localIp : Octets) (port : UInt16) : List Octets :=
  [ascii "RTP/1.0 200 OK", headerLine (cseqHeader (intDec (signed c.request.cseq))),
    headerLine (ascii "Transport", ascii "RTP/AVP;multicast"),
    ascii "destination=" ++ destAddr ++ ascii ";source=" ++ localIp ++ ascii ";port:" ++
      dec port.toNat ++ ascii "-" ++ dec (port.toNat + 1) ++ ascii ";ttl=255",
    headerLine (ascii "Session", hex 8 c.sessionId.toNat)]

theorem multicastLines_printed {destAddr localIp : Octets} (hdest : Printed 15 destAddr)
    (hlocal : Printed 15 localIp) (port : UInt16) :
    ∀ l ∈ c.multicastLines destAddr localIp port, Printed 250 l ∧ l ≠ [] := by
  have hname : Printed 6 (ascii "CSeq" ++ [58, 32]) := by decide
  have hto : Printed 12 (ascii "destination=") := by decide
  have hsource : Printed 8 (ascii ";source=") := by decide
  have hport : Printed 6 (ascii ";port:") := by decide
  have hminus : Printed 1 (ascii "-") := by decide
  have httl : Printed 8 (ascii ";ttl=255") := by decide
  have hsession : Printed 9 (ascii "Session" ++ [58, 32]) := by decide
  have hnext : Printed 6 (dec (port.toNat + 1)) :=
    printed_dec (k := 5) (Nat.lt_of_le_of_lt (Nat.succ_le_of_lt port.toNat_lt) (by decide))
  intro l hl
  simp only [multicastLines, List.mem_cons, List.not_mem_nil, or_false] at hl
  rcases hl with rfl | rfl | rfl | rfl | rfl
  · exact ⟨by decide, by decide⟩
  · have hline := hname.append (printed_signed c.request.cseq)
    rw [List.append_assoc] at hline
    exact ⟨hline.mono (by decide), by simp [headerLine]⟩
  · exact ⟨by decide, by decide⟩
  · have hline := (((((((hto.append hdest).append hsource).append hlocal).append hport).append
      (printed_u16 port)).append hminus).append hnext).append httl
    exact ⟨hline.mono (by decide), by simp [ascii]⟩
  · have hline := hsession.append (printed_hex 8 c.sessionId.toNat)
    rw [List.append_assoc] at hline
    exact ⟨hline.mono (by decide), by simp [headerLine, ascii]⟩

theorem setupMulticastText_eq {destAddr localIp : Octets} (hdest : Printed 15 destAddr)
    (hlocal : Printed 15 localIp) (port : UInt16) :
    c.setupMulticastText destAddr localIp port =
      encodeLines (c.multicastLines destAddr localIp port) ++ (crlf ++ []) := by
  have hstart : ascii "RTP/1.0 200 OK\r\nCSeq: " =
      ascii "RTP/1.0 200 OK" ++ (crlf ++ (ascii "CSeq" ++ [58, 32])) := by decide
  have htransport : ascii "\r\nTransport: RTP/AVP;multicast\r\ndestination=" = crlf ++
      (ascii "Transport" ++ ([58, 32] ++ (ascii "RTP/AVP;multicast" ++ (crlf ++
        ascii "destination=")))) := by decide
  have hlast : ascii ";ttl=255\r\nSession: " =
      ascii ";ttl=255" ++ (crlf ++ (ascii "Session" ++ [58, 32])) := by decide
  rw [setupMulticastText, hdest.written.cstr, hlocal.written.cstr, hstart, htransport, hlast, end_eq]
  simp [multicastLines, headerLine, cseqHeader]

theorem speaks_setupMulticastText {destAddr localIp : Octets} (hdest : Printed 15 destAddr)
    (hlocal : Printed 15 localIp) (port : UInt16) :
    Speaks (some c.request.cseq) (format (c.setupMulticastText destAddr localIp port)) := by
  have hlines := c.multicastLines_printed hdest hlocal port
  have hcseq : Proper (cseqHeader (intDec (signed c.request.cseq))) :=
    (cseqHeader_fitting (printed_signed _) (intDec_ne_nil _)).proper
  have htext : Written 1262 (c.setupMulticastText destAddr localIp port) := by
    rw [c.setupMulticastText_eq hdest hlocal port]
    exact (written_encodeLines (k := 250) (n := 5) (fun l hl => (hlines l hl).1.written)
      (Nat.le_refl 5)).append (show Written 2 (crlf ++ []) by decide)
  have hformat : format (c.setupMulticastText destAddr localIp port) =
      c.setupMulticastText destAddr localIp port := by
    rw [format, List.take_of_length_le (Nat.le_trans htext.length (by decide)), htext.cstr]
  refine ⟨.reply (c.multicastLines destAddr localIp port) [], ⟨?_, ?_, ?_⟩, ?_, ?_⟩
  · exact fun l hl => ⟨(hlines l hl).1.not_mem (by decide), (hlines l hl).2⟩
  · simp [multicastLines, ascii]
  · have hfirst : ¬ ascii "Content-Length" ++ [58, 32] <+: ascii "RTP/1.0 200 OK" := by decide
    have htransport : Proper (ascii "Transport", ascii "RTP/AVP;multicast") :=
      Fitting.proper ⟨by decide, by decide, by decide, by decide⟩
    have hplain : ∀ rest, ¬ ascii "Content-Length" ++ [58, 32] <+: ascii "destination=" ++ rest := by
      rintro rest ⟨behind, heq⟩
      simp [ascii] at heq
    rw [contentLength, multicastLines, valueOf_other hfirst, valueOf_header hcseq (by decide),
      if_neg (by simp only [cseqHeader]; decide), valueOf_header htransport (by decide),
      if_neg (by decide)]
    simp only [List.append_assoc]
    rw [valueOf_other (hplain _), valueOf_header (session_fitting c.sessionId).proper (by decide),
      if_neg (by simp only; decide)]
    rfl
  · rw [hformat, c.setupMulticastText_eq hdest hlocal port]
    rfl
  · have hfirst : ¬ ascii "CSeq" ++ [58, 32] <+: ascii "RTP/1.0 200 OK" := by decide
    have hname : (cseqHeader (intDec (signed c.request.cseq))).1 = ascii "CSeq" := rfl
    rw [Incoming.cseq, multicastLines, valueOf_other hfirst, valueOf_header hcseq (by decide),
      if_pos hname]
    exact congrArg some (printedNumber_signed c.request.cseq)

end RtspConnection
end MyRtspServer.Net
