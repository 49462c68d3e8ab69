import MyRtspServer.Library.Lines
import MyRtspServer.Net.Request

/-!
# The parameters of the Transport header

`ParseTransport` looks for the protocol anywhere in the header block, and takes the two
numbers behind the first equals sign that follows the next semicolon, whatever parameter
or header they belong to. Each member is written before it is known whether the next
number can be read.
-/
namespace MyRtspServer.Net

open Library Library.Octets Library.Lines Library.Scan

/-! ## What a SETUP asks for -/

def isBlank (b : UInt8) : Bool := decide (b = 32 ∨ b = 9)

/-- A header block with one Transport header `profile;unicast;params`. -/
structure SetupText where
  before : List Octets
  blank : Octets
  tcp : Bool
  params : List Octets
  behind : List Octets
  blanks : blank.all isBlank = true
  single : ∀ l ∈ before ++ behind, ¬ ascii "Transport:" <+: l
  separated : ∀ p ∈ params, 59 ∉ p ∧ 10 ∉ p

/-- A text `a-b` of two runs of digits, both below `bound`. -/
def numberPair (bound : Nat) (text : Octets) : Option (Nat × Nat) :=
  match text.dropWhile isDigit with
  | 45 :: second =>
    if text.takeWhile isDigit ≠ [] ∧ second ≠ [] ∧ second.all isDigit = true ∧
        decValue (text.takeWhile isDigit) < bound ∧ decValue second < bound then
      some (decValue (text.takeWhile isDigit), decValue second)
    else none
  | _ => none

namespace SetupText

variable (q : SetupText)

def profile : Octets := if q.tcp then ascii "RTP/AVP/TCP" else ascii "RTP/AVP"

def value : Octets := q.profile ++ (ascii ";unicast" ++ q.params.flatMap (59 :: ·))

/-- What `ParseTransport` gets. -/
def block : Octets :=
  encodeLines (q.before ++ (ascii "Transport:" ++ (q.blank ++ q.value)) :: q.behind)

def paramName : Octets := if q.tcp then ascii "interleaved" else ascii "client_port"

/-- The size of a channel or a port. -/
def bits : Nat := if q.tcp then 8 else 16

/-- The numbers of a parameter, if it is the one that is needed and well formed. -/
def paramNumbers (p : Octets) : Option (Nat × Nat) :=
  if (q.paramName ++ [61]).isPrefixOf p then numberPair (2 ^ q.bits) (p.drop (q.paramName.length + 1))
  else none

/-- What the header asks for, wherever its parameter stands. -/
def asked : Option (Nat × Nat) := q.params.findSome? q.paramNumbers

/-- The members with the channel or the ports. -/
def stored (r : Request) (a b : Nat) : Request :=
  if q.tcp then { r with isRtpOverTcp := true, rtpChannel := UInt8.ofNat a }
  else { r with peerRtpPort := UInt16.ofNat a, peerRtcpPort := UInt16.ofNat b }

end SetupText

/-- The parameter is found and stored; without one, nothing is. -/
structure FindsTransport (r : Request) (q : SetupText) : Prop where
  found : ∀ a b, q.asked = some (a, b) → r.parseTransport q.block = (true, q.stored r a b)
  missing : q.asked = none → r.parseTransport q.block = (false, r)

/-! ## What is read -/

/-- The text behind the first equals sign that follows the next semicolon. -/
def behindEquals (s : Octets) : Octets := ((behind 59 s).bind (behind 61)).getD []

namespace SetupText

variable (q : SetupText)

/-- The protocol name for TCP stands somewhere in the block. -/
def namesTcp : Bool := contains (ascii "RTP/AVP/TCP") q.block

/-- The block from the first protocol name on. -/
def transport : Octets :=
  match splitFirst (if q.namesTcp then ascii "RTP/AVP/TCP" else ascii "RTP/AVP") q.block with
  | some (_, transport) => transport
  | none => []

/-- What the scan reads its numbers from. -/
def scanned : Octets := behindEquals (cstr q.transport)

/-- The numbers in front of that text. -/
def numbers : Option (Nat × Option Nat) := hyphened (if q.namesTcp then 8 else 16) q.scanned

/-- The first numbers in the block are the ones that are asked for, and the members that
are written otherwise have their values already. -/
def ReadsAsked (r : Request) : Prop :=
  match q.asked, q.tcp, q.namesTcp with
  | some (a, _), true, _ => ∃ b, q.numbers = some (a, some b)
  | some (a, b), false, false => q.numbers = some (a, some b)
  | some (a, b), false, true =>
    r.isRtpOverTcp = true ∧ r.peerRtpPort = UInt16.ofNat a ∧ r.peerRtcpPort = UInt16.ofNat b ∧
      ∃ n, q.numbers = some (r.rtpChannel.toNat, some n)
  | none, _, true =>
    r.isRtpOverTcp = true ∧ (q.numbers = none ∨ q.numbers = some (r.rtpChannel.toNat, none))
  | none, _, false => q.numbers = none ∨ q.numbers = some (r.peerRtpPort.toNat, none)

end SetupText

theorem sscanf_transportFormat (bits : Nat) (s : Octets) :
    sscanf (transportFormat bits) s = some (hyphenedFields (hyphened bits (behindEquals s))) := by
  rw [transportFormat, behindEquals]
  cases hsemicolon : behind 59 s with
  | none =>
    rw [sscanf_behind_none hsemicolon]
    rfl
  | some parameters =>
    rw [sscanf_behind_some hsemicolon, Option.bind_some]
    cases hequals : behind 61 parameters with
    | none =>
      rw [sscanf_behind_none hequals]
      rfl
    | some text => rw [sscanf_behind_some hequals, sscanf_hyphened, Option.getD_some]

namespace Request

/-- What `ParseTransport` makes of the numbers it reads, for TCP or for UDP. -/
def readNumbers (r : Request) : Bool → Option (Nat × Option Nat) → Bool × Request
  | true, none => (false, { r with isRtpOverTcp := true })
  | true, some (a, second) =>
    (second.isSome, { r with isRtpOverTcp := true, rtpChannel := UInt8.ofNat a })
  | false, none => (false, r)
  | false, some (a, none) => (false, { r with peerRtpPort := UInt16.ofNat a })
  | false, some (a, some b) =>
    (true, { r with peerRtpPort := UInt16.ofNat a, peerRtcpPort := UInt16.ofNat b })

theorem parseInterleaved_eq (r : Request) (transport : Octets) :
    r.parseInterleaved transport =
      r.readNumbers true (hyphened 8 (behindEquals (cstr transport))) := by
  unfold parseInterleaved
  dsimp only
  rw [sscanf_transportFormat]
  rcases hyphened 8 (behindEquals (cstr transport)) with _ | ⟨a, _ | b⟩ <;> rfl

theorem parseUdp_eq (r : Request) {transport : Octets}
    (hunicast : contains (ascii "unicast") transport = true) :
    r.parseUdp transport =
      r.readNumbers false (hyphened 16 (behindEquals (cstr transport))) := by
  rw [parseUdp, if_pos hunicast, sscanf_transportFormat]
  rcases hyphened 16 (behindEquals (cstr transport)) with _ | ⟨a, _ | b⟩ <;> rfl

end Request

namespace SetupText

variable (q : SetupText)

/-- The block around the protocol name of the header. -/
theorem block_eq : ∃ front back,
    q.block = (front ++ (ascii "Transport:" ++ q.blank)) ++
      (q.profile ++ (ascii ";unicast" ++ back)) := by
  refine ⟨encodeLines q.before,
    q.params.flatMap (59 :: ·) ++ (crlf ++ encodeLines q.behind), ?_⟩
  rw [block, encodeLines_append, encodeLines_cons, value]
  simp only [List.append_assoc]

theorem contains_transport : contains (ascii "Transport") q.block = true := by
  obtain ⟨front, back, hblock⟩ := q.block_eq
  have hname : ascii "Transport:" = ascii "Transport" ++ [58] := by decide
  rw [contains_iff (by decide), hblock, hname]
  exact ⟨front, [58] ++ (q.blank ++ (q.profile ++ (ascii ";unicast" ++ back))), by
    simp only [List.append_assoc]⟩

/-- A block that does not name TCP has a UDP header, and `unicast` behind the first protocol
name. -/
theorem transport_udp (hudp : q.namesTcp = false) :
    ∃ before, splitFirst (ascii "RTP/AVP") q.block = some (before, q.transport) ∧
      contains (ascii "unicast") q.transport = true := by
  obtain ⟨front, back, hblock⟩ := q.block_eq
  have hprofile : q.profile = ascii "RTP/AVP" := by
    rw [profile]
    split
    · rename_i htcp
      rw [profile, if_pos htcp] at hblock
      have hin : contains (ascii "RTP/AVP/TCP") q.block = true := by
        rw [contains_iff (by decide), hblock]
        exact ⟨_, _, List.append_assoc _ _ _⟩
      rw [← namesTcp, hudp] at hin
      cases hin
    · rfl
  rw [hprofile] at hblock
  obtain ⟨before, more, hfound⟩ := splitFirst_before (by decide)
    (List.prefix_append (ascii "RTP/AVP") (ascii ";unicast" ++ back))
    (front ++ (ascii "Transport:" ++ q.blank))
  rw [← hblock] at hfound
  have htransport : q.transport = more ++ (ascii "RTP/AVP" ++ (ascii ";unicast" ++ back)) := by
    rw [transport, hudp, if_neg Bool.false_ne_true, hfound]
  have hunicast : ascii ";unicast" = [59] ++ ascii "unicast" := by decide
  refine ⟨before, htransport ▸ hfound, ?_⟩
  rw [contains_iff (by decide), htransport, hunicast]
  exact ⟨more ++ (ascii "RTP/AVP" ++ [59]), back, by simp only [List.append_assoc]⟩

/-- **What `ParseTransport` does with the block.** -/
theorem parseTransport_eq (r : Request) :
    r.parseTransport q.block = r.readNumbers q.namesTcp q.numbers := by
  rw [Request.parseTransport, if_pos q.contains_transport, numbers, scanned]
  cases hname : q.namesTcp with
  | true =>
    have hsome : (splitFirst (ascii "RTP/AVP/TCP") q.block).isSome = true := hname
    obtain ⟨p, hfound⟩ := Option.isSome_iff_exists.mp hsome
    have htransport : q.transport = p.2 := by
      rw [transport, hname, if_pos rfl, hfound]
    rw [hfound, htransport, if_pos rfl]
    exact r.parseInterleaved_eq p.2
  | false =>
    have hnone : splitFirst (ascii "RTP/AVP/TCP") q.block = none :=
      Option.isNone_iff_eq_none.mp (Option.isSome_eq_false_iff.mp hname)
    obtain ⟨before, hfound, hunicast⟩ := q.transport_udp hname
    rw [hnone, hfound, if_neg Bool.false_ne_true]
    exact r.parseUdp_eq hunicast

end SetupText

/-! ## When the members are right -/

namespace Request

variable {r : Request} {numbers : Option (Nat × Option Nat)} {a b : Nat}

/-- Numbers of at most so many bits. -/
def Narrow (bits : Nat) (numbers : Option (Nat × Option Nat)) : Prop :=
  ∀ a second, numbers = some (a, second) → a < 2 ^ bits ∧ ∀ b ∈ second, b < 2 ^ bits

theorem ofNat_u8_inj {n : Nat} (ha : a < 2 ^ 8) (hn : n < 2 ^ 8) :
    UInt8.ofNat n = UInt8.ofNat a ↔ n = a := by
  rw [← UInt8.toNat_inj, UInt8.toNat_ofNat_of_lt' hn, UInt8.toNat_ofNat_of_lt' ha]

theorem ofNat_u16_inj {n : Nat} (ha : a < 2 ^ 16) (hn : n < 2 ^ 16) :
    UInt16.ofNat n = UInt16.ofNat a ↔ n = a := by
  rw [← UInt16.toNat_inj, UInt16.toNat_ofNat_of_lt' hn, UInt16.toNat_ofNat_of_lt' ha]

theorem readNumbers_channel (hnarrow : Narrow 8 numbers) (ha : a < 2 ^ 8) :
    r.readNumbers true numbers =
        (true, { r with isRtpOverTcp := true, rtpChannel := UInt8.ofNat a }) ↔
      ∃ b, numbers = some (a, some b) := by
  rcases numbers with _ | ⟨n, _ | m⟩
  · simp [readNumbers]
  · simp [readNumbers]
  · have hn := (hnarrow n _ rfl).1
    simp [readNumbers, ofNat_u8_inj ha hn]

theorem readNumbers_ports (hnarrow : Narrow 16 numbers) (ha : a < 2 ^ 16) (hb : b < 2 ^ 16) :
    r.readNumbers false numbers =
        (true, { r with peerRtpPort := UInt16.ofNat a, peerRtcpPort := UInt16.ofNat b }) ↔
      numbers = some (a, some b) := by
  rcases numbers with _ | ⟨n, _ | m⟩
  · simp [readNumbers]
  · simp [readNumbers]
  · obtain ⟨hn, hm⟩ := hnarrow n _ rfl
    simp [readNumbers, ofNat_u16_inj ha hn, ofNat_u16_inj hb (hm m rfl)]

/-- A member that is written keeps its value. -/
theorem ofNat_u8_eq {n : Nat} (hn : n < 2 ^ 8) {channel : UInt8} :
    UInt8.ofNat n = channel ↔ n = channel.toNat := by
  rw [← UInt8.toNat_inj, UInt8.toNat_ofNat_of_lt' hn]

theorem ofNat_u16_eq {n : Nat} (hn : n < 2 ^ 16) {port : UInt16} :
    UInt16.ofNat n = port ↔ n = port.toNat := by
  rw [← UInt16.toNat_inj, UInt16.toNat_ofNat_of_lt' hn]

/-- The members of the other transport are written. -/
theorem readNumbers_astray (hnarrow : Narrow 8 numbers) :
    r.readNumbers true numbers =
        (true, { r with peerRtpPort := UInt16.ofNat a, peerRtcpPort := UInt16.ofNat b }) ↔
      r.isRtpOverTcp = true ∧ r.peerRtpPort = UInt16.ofNat a ∧ r.peerRtcpPort = UInt16.ofNat b ∧
        ∃ n, numbers = some (r.rtpChannel.toNat, some n) := by
  cases r
  rcases numbers with _ | ⟨n, _ | m⟩
  · simp [readNumbers]
  · simp [readNumbers]
  · have hn := (hnarrow n _ rfl).1
    simp only [readNumbers, Option.isSome_some, Prod.mk.injEq, Request.mk.injEq, ofNat_u8_eq hn,
      Option.some.injEq]
    grind

theorem readNumbers_refused_tcp (hnarrow : Narrow 8 numbers) :
    r.readNumbers true numbers = (false, r) ↔
      r.isRtpOverTcp = true ∧ (numbers = none ∨ numbers = some (r.rtpChannel.toNat, none)) := by
  cases r
  rcases numbers with _ | ⟨n, _ | m⟩
  · simp [readNumbers, eq_comm]
  · have hn := (hnarrow n _ rfl).1
    simp only [readNumbers, Option.isSome_none, Prod.mk.injEq, Request.mk.injEq, ofNat_u8_eq hn,
      Option.some.injEq, reduceCtorEq]
    grind
  · simp [readNumbers]

theorem readNumbers_refused_udp (hnarrow : Narrow 16 numbers) :
    r.readNumbers false numbers = (false, r) ↔
      numbers = none ∨ numbers = some (r.peerRtpPort.toNat, none) := by
  cases r
  rcases numbers with _ | ⟨n, _ | m⟩
  · simp [readNumbers]
  · have hn := (hnarrow n _ rfl).1
    simp [readNumbers, ofNat_u16_eq hn]
  · simp [readNumbers]

end Request

namespace SetupText

variable {q : SetupText}

theorem numberPair_lt {bound a b : Nat} {text : Octets} (h : numberPair bound text = some (a, b)) :
    a < bound ∧ b < bound := by
  unfold numberPair at h
  split at h
  · split at h
    · rename_i hpair
      cases h
      exact hpair.2.2.2
    · cases h
  · cases h

theorem asked_lt {a b : Nat} (h : q.asked = some (a, b)) : a < 2 ^ q.bits ∧ b < 2 ^ q.bits := by
  obtain ⟨p, -, hp⟩ := List.exists_of_findSome?_eq_some h
  unfold paramNumbers at hp
  split at hp
  · exact numberPair_lt hp
  · cases hp

/-- A header for TCP names it. -/
theorem namesTcp_of_tcp (htcp : q.tcp = true) : q.namesTcp = true := by
  obtain ⟨front, back, hblock⟩ := q.block_eq
  rw [profile, if_pos htcp] at hblock
  rw [namesTcp, contains_iff (by decide), hblock]
  exact ⟨_, _, List.append_assoc _ _ _⟩

theorem numbers_narrow : Request.Narrow (if q.namesTcp then 8 else 16) q.numbers := fun _ _ h =>
  hyphened_lt h

theorem findsTransport_asked {r : Request} {a b : Nat} (hasked : q.asked = some (a, b)) :
    FindsTransport r q ↔ r.readNumbers q.namesTcp q.numbers = (true, q.stored r a b) := by
  rw [← parseTransport_eq]
  constructor
  · exact fun h => h.found a b hasked
  · refine fun h => ⟨fun a' b' hasked' => ?_, fun hnone => ?_⟩
    · cases hasked.symm.trans hasked'
      exact h
    · cases hasked.symm.trans hnone

theorem findsTransport_missing {r : Request} (hasked : q.asked = none) :
    FindsTransport r q ↔ r.readNumbers q.namesTcp q.numbers = (false, r) := by
  rw [← parseTransport_eq]
  refine ⟨fun h => h.missing hasked, fun h => ⟨fun a b hsome => ?_, fun _ => h⟩⟩
  cases hasked.symm.trans hsome

/-- **The parameters are found exactly where the first numbers in the block are the ones
that are asked for**, or where none are read that are not asked for. -/
theorem findsTransport_iff (r : Request) (q : SetupText) : FindsTransport r q ↔ q.ReadsAsked r := by
  have hnarrow := numbers_narrow (q := q)
  unfold ReadsAsked
  cases hasked : q.asked with
  | some p =>
    obtain ⟨a, b⟩ := p
    obtain ⟨ha, hb⟩ := asked_lt hasked
    rw [findsTransport_asked hasked, stored]
    rw [bits] at ha hb
    cases htcp : q.tcp with
    | true =>
      rw [namesTcp_of_tcp htcp] at hnarrow ⊢
      rw [htcp] at ha
      exact Request.readNumbers_channel hnarrow ha
    | false =>
      rw [htcp] at ha hb
      cases hname : q.namesTcp with
      | true =>
        rw [hname] at hnarrow
        exact Request.readNumbers_astray hnarrow
      | false =>
        rw [hname] at hnarrow
        exact Request.readNumbers_ports hnarrow ha hb
  | none =>
    rw [findsTransport_missing hasked]
    cases hname : q.namesTcp with
    | true =>
      rw [hname] at hnarrow
      exact Request.readNumbers_refused_tcp hnarrow
    | false =>
      rw [hname] at hnarrow
      exact Request.readNumbers_refused_udp hnarrow

/-! ## The parameter that stands first -/

/-- No line in front of the header names the protocol, and TCP is not named for UDP. -/
structure ProfileFirst (q : SetupText) : Prop where
  lines : ∀ l ∈ q.before, ¬ q.profile <:+: l
  tcp : q.namesTcp = q.tcp

/-- A parameter without a value. -/
def plain (p : Octets) : Prop := 61 ∉ p ∧ 0 ∉ p

/-- The parameter that is needed is the first one with a value. -/
structure FirstValued (q : SetupText) (first second : Octets) : Prop where
  params : ∃ front back, q.params = front ++ (q.paramName ++ 61 :: (first ++ 45 :: second)) :: back ∧
    ∀ p ∈ front, plain p
  digits : Digits first ∧ Digits second
  fits : decValue first < 2 ^ q.bits ∧ decValue second < 2 ^ q.bits

/-- The bytes that the searches stop at, and those that stand in front of a header. -/
def stopBytes : Octets := [58, 59, 0, 13, 10, 32, 9]

/-- None of them stands in a protocol name. -/
theorem profile_clean : q.profile ≠ [] ∧ (∀ b ∈ stopBytes, b ∉ q.profile) ∧
    ¬ q.profile <:+: ascii "Transport" := by
  have hnames : ∀ name ∈ [ascii "RTP/AVP/TCP", ascii "RTP/AVP"], name ≠ [] ∧
      stopBytes.any (fun b => decide (b ∈ name)) = false ∧
        contains name (ascii "Transport") = false := by decide
  have hmem : q.profile ∈ [ascii "RTP/AVP/TCP", ascii "RTP/AVP"] := by
    rw [profile]
    split <;> simp
  obtain ⟨hne, hclean, hno⟩ := hnames _ hmem
  refine ⟨hne, fun b hb hin => ?_, fun hin => ?_⟩
  · exact List.any_eq_false.mp hclean b hb (decide_eq_true hin)
  · rw [← contains_iff hne, hno] at hin
    cases hin

theorem blank_clean : ∀ b ∈ q.blank, b ∉ q.profile := by
  intro b hb
  have hblank : b = 32 ∨ b = 9 := of_decide_eq_true (List.all_eq_true.mp q.blanks b hb)
  rcases hblank with rfl | rfl
  · exact (profile_clean (q := q)).2.1 32 (by decide)
  · exact (profile_clean (q := q)).2.1 9 (by decide)

theorem paramName_clean : 61 ∉ q.paramName ∧ 0 ∉ q.paramName := by
  rw [paramName]
  split <;> decide

theorem transport_first (h : q.ProfileFirst) :
    q.transport = q.value ++ (crlf ++ encodeLines q.behind) := by
  obtain ⟨hne, hclean, hno⟩ := profile_clean (q := q)
  have hprofile : (if q.namesTcp then ascii "RTP/AVP/TCP" else ascii "RTP/AVP") = q.profile := by
    rw [h.tcp, profile]
  have hblock : q.block = encodeLines q.before ++
      (ascii "Transport" ++ 58 :: (q.blank ++ (q.value ++ (crlf ++ encodeLines q.behind)))) := by
    have hname : ascii "Transport:" = ascii "Transport" ++ [58] := by decide
    rw [block, encodeLines_append, encodeLines_cons, hname]
    simp only [List.append_assoc, List.cons_append, List.nil_append]
  have hstart : q.profile <+: q.value ++ (crlf ++ encodeLines q.behind) := by
    rw [value, List.append_assoc]
    exact List.prefix_append _ _
  rw [transport, hprofile, hblock,
    splitFirst_lines hne (hclean 13 (by decide)) (hclean 10 (by decide)) h.lines,
    splitFirst_separator hne (hclean 58 (by decide)) hno, splitFirst_clean hne blank_clean,
    splitFirst_start hne hstart]
  rfl

section First

variable {first second : Octets}

theorem numberPair_digits {bound : Nat} (hdigits : Digits first ∧ Digits second)
    (hfits : decValue first < bound ∧ decValue second < bound) :
    numberPair bound (first ++ 45 :: second) = some (decValue first, decValue second) := by
  have htake : (first ++ 45 :: second).takeWhile isDigit = first := by
    rw [List.takeWhile_append_of_pos hdigits.1.digit, List.takeWhile_cons_of_neg (by decide),
      List.append_nil]
  have hdrop : (first ++ 45 :: second).dropWhile isDigit = 45 :: second := by
    rw [List.dropWhile_append_of_pos hdigits.1.digit, List.dropWhile_cons_of_neg (by decide)]
  rw [numberPair, hdrop, htake]
  exact if_pos ⟨hdigits.1.ne_nil, hdigits.2.ne_nil, List.all_eq_true.mpr hdigits.2.digit, hfits⟩

theorem asked_first (h : q.FirstValued first second) :
    q.asked = some (decValue first, decValue second) := by
  obtain ⟨front, back, hparams, hplain⟩ := h.params
  have hskipped : front.findSome? q.paramNumbers = none := by
    rw [List.findSome?_eq_none_iff]
    intro p hp
    rw [paramNumbers, if_neg]
    intro hname
    have hsub := (List.isPrefixOf_iff_prefix.mp hname).subset
    exact (hplain p hp).1 (hsub (List.mem_append_right _ (List.mem_singleton_self 61)))
  have hneeded : q.paramNumbers (q.paramName ++ 61 :: (first ++ 45 :: second)) =
      some (decValue first, decValue second) := by
    have hname : (q.paramName ++ [61]).isPrefixOf (q.paramName ++ 61 :: (first ++ 45 :: second)) =
        true := List.isPrefixOf_iff_prefix.mpr ⟨first ++ 45 :: second, by simp⟩
    have hdrop : (q.paramName ++ 61 :: (first ++ 45 :: second)).drop (q.paramName.length + 1) =
        first ++ 45 :: second := by
      rw [List.drop_append]
      simp
    rw [paramNumbers, if_pos hname, hdrop]
    exact numberPair_digits h.digits h.fits
  rw [asked, hparams, List.findSome?_append, hskipped, List.findSome?_cons, hneeded]
  rfl

/-- What stands between the first semicolon and the value. -/
def skipped (q : SetupText) (front : List Octets) : Octets :=
  ascii "unicast" ++ (front.flatMap (59 :: ·) ++ 59 :: q.paramName)

theorem not_mem_skipped {front : List Octets} {b : UInt8} (hunicast : b ∉ ascii "unicast")
    (hsemicolon : b ≠ 59) (hname : b ∉ q.paramName) (hplain : ∀ p ∈ front, b ∉ p) :
    b ∉ q.skipped front := by
  intro hmem
  simp only [skipped, List.mem_append, List.mem_flatMap, List.mem_cons] at hmem
  rcases hmem with h | ⟨p, hp, heq | h⟩ | heq | h
  · exact hunicast h
  · exact hsemicolon heq
  · exact hplain p hp h
  · exact hsemicolon heq
  · exact hname h

/-- The scan runs over parameters without a value. -/
theorem scanned_first (h : q.ProfileFirst) (hfirst : q.FirstValued first second) :
    ∃ after, q.scanned = first ++ 45 :: (second ++ after) ∧ ∀ b ∈ after.head?, isDigit b = false := by
  obtain ⟨front, back, hparams, hplain⟩ := hfirst.params
  obtain ⟨hne, hprofile, -⟩ := profile_clean (q := q)
  obtain ⟨hname61, hname0⟩ := paramName_clean (q := q)
  have hskipped61 : 61 ∉ q.skipped front :=
    not_mem_skipped (by decide) (by decide) hname61 fun p hp => (hplain p hp).1
  have hskipped0 : 0 ∉ q.skipped front :=
    not_mem_skipped (by decide) (by decide) hname0 fun p hp => (hplain p hp).2
  have hdigits0 : ∀ {digits : Octets}, Digits digits → 0 ∉ digits := fun hd hmem =>
    absurd (hd.digit 0 hmem) (by decide)
  have hunicast : ascii ";unicast" = 59 :: ascii "unicast" := by decide
  obtain ⟨stop, rest, hrest, hstop⟩ : ∃ stop rest,
      back.flatMap (59 :: ·) ++ (crlf ++ encodeLines q.behind) = stop :: rest ∧
        (stop = 59 ∨ stop = 13) := by
    cases back with
    | nil => exact ⟨13, _, rfl, Or.inr rfl⟩
    | cons p back => exact ⟨59, _, rfl, Or.inl rfl⟩
  have htransport : q.transport = (q.profile ++ 59 :: (q.skipped front ++
      61 :: (first ++ 45 :: second))) ++ stop :: rest := by
    rw [transport_first h, value, hparams, hunicast, ← hrest, skipped]
    simp
  have hzero : 0 ∉ q.profile ++ 59 :: (q.skipped front ++ 61 :: (first ++ 45 :: second)) := by
    simp only [List.mem_append, List.mem_cons, not_or]
    exact ⟨hprofile 0 (by decide), by decide, hskipped0, by decide, hdigits0 hfirst.digits.1, by decide,
      hdigits0 hfirst.digits.2⟩
  refine ⟨cstr (stop :: rest), ?_, ?_⟩
  · rw [scanned, htransport, cstr_append hzero, behindEquals]
    simp only [List.append_assoc, List.cons_append]
    rw [behind_append hne (hprofile 59 (by decide)), Option.bind_some,
      behind_append (by simp [skipped, ascii]) hskipped61, Option.getD_some]
  · intro b hb
    rcases hstop with rfl | rfl
    · cases hb
      decide
    · cases hb
      decide

end First

theorem findsTransport_of_first {first second : Octets} (h : q.ProfileFirst)
    (hfirst : q.FirstValued first second) (r : Request) : FindsTransport r q := by
  obtain ⟨after, hscanned, hafter⟩ := scanned_first h hfirst
  have hbits : (if q.namesTcp then 8 else 16) = q.bits := by rw [h.tcp, bits]
  have hsmall : q.bits ≤ 64 := by
    rw [bits]
    split <;> decide
  have hnumbers : q.numbers = some (decValue first, some (decValue second)) := by
    rw [numbers, hbits, hscanned]
    exact hyphened_digits hfirst.digits.1 hfirst.digits.2 hsmall hfirst.fits.1 hfirst.fits.2 hafter
  rw [findsTransport_iff, ReadsAsked, asked_first hfirst, h.tcp, hnumbers]
  cases q.tcp with
  | true => exact ⟨_, rfl⟩
  | false => rfl

/-- **The parameters are found exactly where the first numbers in the block are the ones
that are asked for**; so they are where the one that is needed is the first with a value. -/
theorem transport_parameters_iff (r : Request) (q : SetupText) :
    (FindsTransport r q ↔ q.ReadsAsked r) ∧
      (q.ProfileFirst → (∃ first second, q.FirstValued first second) → FindsTransport r q) := by
  refine ⟨findsTransport_iff r q, ?_⟩
  rintro h ⟨first, second, hfirst⟩
  exact findsTransport_of_first h hfirst r

/-! ## Four headers -/

def cleanRequest : Request := { cseq := 3, peerRtpPort := 0, peerRtcpPort := 0, rtpChannel := 0 }

/-- Another parameter has a value and stands in front. -/
def ttlInFront : SetupText where
  before := [ascii "CSeq: 3"]
  blank := [32]
  tcp := false
  params := [ascii "ttl=16", ascii "client_port=5000-5001"]
  behind := []
  blanks := by decide
  single := by decide
  separated := by decide

/-- There are no ports, but a Range header follows. -/
def rangeBehind : SetupText where
  before := [ascii "CSeq: 3"]
  blank := [32]
  tcp := false
  params := []
  behind := [ascii "Range: npt=10-20"]
  blanks := by decide
  single := by decide
  separated := by decide

/-- There is no channel. -/
def noChannel : SetupText where
  before := [ascii "CSeq: 3"]
  blank := [32]
  tcp := true
  params := [ascii "mode=PLAY"]
  behind := []
  blanks := by decide
  single := by decide
  separated := by decide

/-- Another header names the other protocol. -/
def tcpInFront : SetupText where
  before := [ascii "CSeq: 3", ascii "User-Agent: prefers RTP/AVP/TCP"]
  blank := [32]
  tcp := false
  params := [ascii "client_port=5000-5001"]
  behind := []
  blanks := by decide
  single := by decide
  separated := by decide

/-- **Ports are refused behind a valued parameter, and taken from a Range header; a refused
header leaves the TCP flag behind, and the name of another protocol is followed.** -/
theorem transport_parameters_fail :
    ¬ FindsTransport cleanRequest ttlInFront ∧
    cleanRequest.parseTransport rangeBehind.block =
      (true, { cleanRequest with peerRtpPort := 10, peerRtcpPort := 20 }) ∧
    ¬ FindsTransport cleanRequest rangeBehind ∧
    ¬ FindsTransport cleanRequest noChannel ∧
    ¬ FindsTransport cleanRequest tcpInFront := by
  refine ⟨fun h => ?_, by decide +kernel, fun h => ?_, fun h => ?_, fun h => ?_⟩
  · exact absurd (h.found 5000 5001 (by decide +kernel)) (by decide +kernel)
  · exact absurd (h.missing (by decide +kernel)) (by decide +kernel)
  · exact absurd (h.missing (by decide +kernel)) (by decide +kernel)
  · exact absurd (h.found 5000 5001 (by decide +kernel)) (by decide +kernel)

end SetupText

end MyRtspServer.Net
