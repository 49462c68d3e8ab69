import MyRtspServer.Net.RequestLines

/-!
# The grammar of request URLs

`ParseRequest1` tries two patterns on what follows `rtsp://`. The first one,
`%[^:]:%hu/%s`, takes anything but a colon for the host, slashes too, and a sign in
front of the number; the second one, `%[^/]/%s`, takes colons. Both copy before they
know whether the rest fits, and an array that is too short for the copy overflows.
-/
namespace MyRtspServer.Net

open Library Library.Octets Library.Scan

/-! ## The grammar -/

/-- What may stand between the host and the path. -/
inductive PortPart : Octets → Prop
  | absent : PortPart []
  | number {digits : Octets} (h : Digits digits) (hmax : decValue digits ≤ 65535) :
      PortPart (58 :: digits)

/-- `host[:port]/path`. -/
inductive Location : Octets → Octets → Prop
  | mk {host port path : Octets} (hhost : host ≠ []) (hcolon : 58 ∉ host) (hslash : 47 ∉ host)
      (hport : PortPart port) (hpath : path ≠ []) : Location (host ++ (port ++ 47 :: path)) path

/-- `rtsp://host[:port]/path`. -/
def RtspUrl (url path : Octets) : Prop := ∃ text, url = ascii "rtsp://" ++ text ∧ Location text path

/-- A token of a request line: no white space, and short enough for its array. -/
structure Token (size : Nat) (s : Octets) : Prop where
  ne_nil : s ≠ []
  clean : ∀ b ∈ s, isSpace b = false
  fits : s.length < size

theorem no_space_of_any {s : Octets} (h : s.any isSpace = false) : ∀ b ∈ s, isSpace b = false :=
  fun b hb => Bool.eq_false_of_not_eq_true (List.any_eq_false.mp h b hb)

theorem token_of_any {size : Nat} {s : Octets} (hne : s ≠ []) (hclean : s.any isSpace = false)
    (hfits : s.length < size) : Token size s := ⟨hne, no_space_of_any hclean, hfits⟩

/-- A request line. -/
def startLine (word url version : Octets) : Octets := word ++ 32 :: (url ++ 32 :: version)

/-- `ParseRequest1` takes the URL of this line as the grammar has it. -/
structure ParsedByGrammar (r : Request) (method : Method) (url line : Octets) : Prop where
  accepts : ∀ path, RtspUrl url path → ∃ r', r.parseRequest1 line = .ok (true, r') ∧
    r'.method = method ∧ r'.url = url ∧ r'.suffix = path
  rejects : (∀ path, ¬ RtspUrl url path) → ∃ r', r.parseRequest1 line = .ok (false, r') ∧
    r'.url = r.url ∧ r'.suffix = r.suffix

/-! ## What the patterns take -/

/-- `host:number/suffix`, as `%[^:]:%hu/%s` takes it. -/
structure HostPort (host number suffix text : Octets) : Prop where
  eq : text = host ++ 58 :: (number ++ 47 :: suffix)
  host_ne_nil : host ≠ []
  no_colon : 58 ∉ host
  isNumber : Number number
  suffix_ne_nil : suffix ≠ []

/-- `host/suffix`, as `%[^/]/%s` takes it. -/
structure HostPath (host suffix text : Octets) : Prop where
  eq : text = host ++ 47 :: suffix
  host_ne_nil : host ≠ []
  no_slash : 47 ∉ host
  suffix_ne_nil : suffix ≠ []

/-- What follows `rtsp://` is a text on which the two patterns agree with the grammar. -/
structure WellRead (text : Octets) : Prop where
  /-- What stands in front of the first colon fits into `ip`. -/
  ip : (front 58 text).length < 64
  /-- What the first pattern takes has a port, and a host without slashes in front of it. -/
  port : ∀ host number suffix, HostPort host number suffix text →
    47 ∉ host ∧ Digits number ∧ decValue number ≤ 65535 ∧ suffix.length < 64
  /-- What the second pattern is tried on fits into `ip` as well. -/
  host : (∀ host number suffix, ¬ HostPort host number suffix text) → (front 47 text).length < 64
  /-- What only the second pattern takes has no colon in front of the slash. -/
  path : (∀ host number suffix, ¬ HostPort host number suffix text) →
    ∀ host suffix, HostPath host suffix text → 58 ∉ host ∧ suffix.length < 64

section Patterns

variable {host number suffix text : Octets}

theorem HostPort.suffix_clean (h : HostPort host number suffix text)
    (hclean : ∀ b ∈ text, isSpace b = false) : ∀ b ∈ suffix, isSpace b = false := by
  intro b hb
  apply hclean
  rw [h.eq]
  simp [hb]

theorem HostPath.suffix_clean (h : HostPath host suffix text)
    (hclean : ∀ b ∈ text, isSpace b = false) : ∀ b ∈ suffix, isSpace b = false := by
  intro b hb
  apply hclean
  rw [h.eq]
  simp [hb]

theorem HostPort.front_eq (h : HostPort host number suffix text) : front 58 text = host := by
  rw [h.eq, front_append h.no_colon]

theorem HostPath.front_eq (h : HostPath host suffix text) : front 47 text = host := by
  rw [h.eq, front_append h.no_slash]

/-- The first pattern takes such a text, if the suffix fits. -/
theorem HostPort.scanned (h : HostPort host number suffix text)
    (hclean : ∀ b ∈ text, isSpace b = false) (hip : host.length < 64) :
    ∃ n, sscanf hostPortFormat text =
      if suffix.length < 64 then some [.text host, .number n, .text suffix] else none := by
  have hend : ∀ b ∈ (47 :: suffix).head?, isDigit b = false := fun b hb => by cases hb; rfl
  obtain ⟨n, hn⟩ := h.isNumber.scanned hend 16
  refine ⟨n, ?_⟩
  rw [hostPortFormat, h.eq, sscanf_cut h.host_ne_nil hip h.no_colon, sscanf_unsigned_some hn,
    sscanf_char, sscanf_rest (h.suffix_clean hclean) h.suffix_ne_nil]
  split <;> rfl

/-- The first pattern fails on any other text. -/
theorem no_hostPort_scanned (h : ∀ host number suffix, ¬ HostPort host number suffix text)
    (hclean : ∀ b ∈ text, isSpace b = false) (hip : (front 58 text).length < 64) :
    ∃ fields, sscanf hostPortFormat text = some fields ∧ fields.length ≤ 2 := by
  by_cases hcut : ∃ before behind, before ≠ [] ∧ 58 ∉ before ∧ text = before ++ 58 :: behind
  · obtain ⟨before, behind, hne, hcolon, rfl⟩ := hcut
    rw [front_append hcolon] at hip
    have hbehind : ∀ b ∈ behind, isSpace b = false := fun b hb => hclean b (by simp [hb])
    rw [hostPortFormat, sscanf_cut hne hip hcolon]
    cases hscan : scanUnsigned 16 behind with
    | none =>
      rw [sscanf_unsigned_none hscan]
      exact ⟨_, rfl, Nat.le_succ 1⟩
    | some p =>
      obtain ⟨n, rest⟩ := p
      obtain ⟨number, hnumber, rfl⟩ := number_of_scanned hscan hbehind
      rw [sscanf_unsigned_some hscan]
      cases rest with
      | nil => exact ⟨_, rfl, Nat.le_refl 2⟩
      | cons b suffix =>
        by_cases hb : b = 47
        · subst hb
          rw [sscanf_char]
          by_cases hsuffix : suffix = []
          · subst hsuffix
            exact ⟨_, rfl, Nat.le_refl 2⟩
          · exact absurd ⟨rfl, hne, hcolon, hnumber, hsuffix⟩ (h before number suffix)
        · rw [sscanf_char_eq, if_neg hb]
          exact ⟨_, rfl, Nat.le_refl 2⟩
  · have huncut : ∀ before behind, before ≠ [] → 58 ∉ before → text ≠ before ++ 58 :: behind :=
      fun before behind hne hcolon heq => hcut ⟨before, behind, hne, hcolon, heq⟩
    obtain ⟨fields, hscan, hlen⟩ := sscanf_uncut hip huncut
    exact ⟨fields, hscan, Nat.le_succ_of_le hlen⟩

/-- The second pattern takes such a text, if the suffix fits. -/
theorem HostPath.scanned (h : HostPath host suffix text)
    (hclean : ∀ b ∈ text, isSpace b = false) (hip : host.length < 64) :
    sscanf hostFormat text =
      if suffix.length < 64 then some [.text host, .text suffix] else none := by
  rw [hostFormat, h.eq, sscanf_cut h.host_ne_nil hip h.no_slash,
    sscanf_rest (h.suffix_clean hclean) h.suffix_ne_nil]
  split <;> rfl

/-- The second pattern fails on any other text. -/
theorem no_hostPath_scanned (h : ∀ host suffix, ¬ HostPath host suffix text)
    (hip : (front 47 text).length < 64) :
    ∃ fields, sscanf hostFormat text = some fields ∧ fields.length ≤ 1 := by
  by_cases hend : ∃ before, before ≠ [] ∧ 47 ∉ before ∧ text = before ++ [47]
  · obtain ⟨before, hne, hslash, rfl⟩ := hend
    rw [front_append hslash] at hip
    rw [hostFormat, sscanf_cut hne hip hslash]
    exact ⟨_, rfl, Nat.le_refl 1⟩
  · refine sscanf_uncut hip fun before behind hne hslash heq => ?_
    by_cases hbehind : behind = []
    · exact hend ⟨before, hne, hslash, by rw [heq, hbehind]⟩
    · exact h before behind ⟨heq, hne, hslash, hbehind⟩

/-! ## The patterns and the grammar -/

theorem HostPort.location (h : HostPort host number suffix text) (hslash : 47 ∉ host)
    (hdigits : Digits number) (hmax : decValue number ≤ 65535) : Location text suffix := by
  rw [h.eq]
  exact .mk h.host_ne_nil h.no_colon hslash (.number hdigits hmax) h.suffix_ne_nil

theorem HostPath.location (h : HostPath host suffix text) (hcolon : 58 ∉ host) :
    Location text suffix := by
  rw [h.eq]
  exact .mk h.host_ne_nil hcolon h.no_slash .absent h.suffix_ne_nil

/-- With a port, the first pattern takes it; without one, the second does. -/
theorem Location.patterns {path : Octets} (h : Location text path) :
    (∃ host number, HostPort host number path text ∧ 47 ∉ host ∧ Digits number ∧
      decValue number ≤ 65535) ∨ ∃ host, HostPath host path text ∧ 58 ∉ host := by
  cases h with
  | mk hhost hcolon hslash hport hpath =>
    cases hport with
    | absent => exact Or.inr ⟨_, ⟨rfl, hhost, hslash, hpath⟩, hcolon⟩
    | number hdigits hmax =>
      exact Or.inl ⟨_, _, ⟨rfl, hhost, hcolon, .plain hdigits, hpath⟩, hslash, hdigits, hmax⟩

/-- The colon stands in front of the first slash, or behind it. -/
theorem HostPort.colon_or_slash {host' suffix' : Octets} (h : HostPort host number suffix text)
    (h' : HostPath host' suffix' text) : 47 ∈ host ∨ 58 ∈ host' := by
  have heq : host ++ 58 :: (number ++ 47 :: suffix) = host' ++ 47 :: suffix' :=
    h.eq.symm.trans h'.eq
  rcases List.append_eq_append_iff.mp heq with ⟨more, rfl, hmore⟩ | ⟨more, rfl, hmore⟩
  · cases more with
    | nil => cases hmore
    | cons b more =>
      obtain ⟨rfl, -⟩ := List.cons.inj hmore
      exact Or.inr (by simp)
  · cases more with
    | nil => cases hmore
    | cons b more =>
      obtain ⟨rfl, -⟩ := List.cons.inj hmore
      exact Or.inl (by simp)

/-- A port that the grammar has is what the first pattern has taken. -/
theorem HostPort.of_location (h : HostPort host number suffix text) (hloc : Location text suffix) :
    47 ∉ host ∧ Digits number ∧ decValue number ≤ 65535 := by
  rcases hloc.patterns with ⟨host', number', h', hslash, hdigits, hmax⟩ | ⟨host', h', hcolon⟩
  · obtain ⟨rfl, hbehind⟩ := cut_unique h.no_colon h'.no_colon (h.eq.symm.trans h'.eq)
    obtain rfl := List.append_cancel_right hbehind
    exact ⟨hslash, hdigits, hmax⟩
  · have heq : (host ++ 58 :: number) ++ 47 :: suffix = host' ++ 47 :: suffix := by
      rw [← h'.eq, h.eq, List.append_assoc, List.cons_append]
    obtain rfl := List.append_cancel_right heq
    exact absurd (by simp) hcolon

end Patterns

/-! ## Reading a URL -/

/-- What `parseUrl` finds behind `rtsp://` is what the grammar has there. -/
structure ReadByGrammar (text : Octets) (result : Except Fault (Option Octets)) : Prop where
  accepts : ∀ path, Location text path → result = .ok (some path)
  rejects : (∀ path, ¬ Location text path) → result = .ok none

theorem ReadByGrammar.no_error {text : Octets} {e : Fault} (h : ReadByGrammar text (.error e)) :
    False := by
  by_cases hloc : ∃ path, Location text path
  · obtain ⟨path, hpath⟩ := hloc
    cases h.accepts path hpath
  · cases h.rejects (not_exists.mp hloc)

theorem ReadByGrammar.location {text suffix : Octets} (h : ReadByGrammar text (.ok (some suffix))) :
    Location text suffix := by
  by_cases hloc : ∃ path, Location text path
  · obtain ⟨path, hpath⟩ := hloc
    cases h.accepts path hpath
    exact hpath
  · cases h.rejects (not_exists.mp hloc)

namespace Request

section ParseUrl

variable {text host number suffix : Octets}

theorem drop_scheme (text : Octets) : (ascii "rtsp://" ++ text).drop 7 = text := rfl

theorem parseUrl_overflow (h : 64 ≤ (front 58 text).length) :
    parseUrl (ascii "rtsp://" ++ text) = .error .bufferOverflow := by
  rw [parseUrl, drop_scheme, hostPortFormat, sscanf_until_overflow (by decide) h]

theorem parseUrl_hostPort (h : HostPort host number suffix text)
    (hclean : ∀ b ∈ text, isSpace b = false) (hip : (front 58 text).length < 64) :
    parseUrl (ascii "rtsp://" ++ text) =
      if suffix.length < 64 then .ok (some suffix) else .error .bufferOverflow := by
  rw [h.front_eq] at hip
  obtain ⟨n, hscan⟩ := h.scanned hclean hip
  rw [parseUrl, drop_scheme, hscan]
  by_cases hlen : suffix.length < 64
  · rw [if_pos hlen, if_pos hlen]
  · rw [if_neg hlen, if_neg hlen]

/-- Where the first pattern fails, the second one decides. -/
theorem parseUrl_no_hostPort (h : ∀ host number suffix, ¬ HostPort host number suffix text)
    (hclean : ∀ b ∈ text, isSpace b = false) (hip : (front 58 text).length < 64) :
    parseUrl (ascii "rtsp://" ++ text) = match sscanf hostFormat text with
      | none => .error .bufferOverflow
      | some [.text _, .text suffix] => .ok (some suffix)
      | some _ => .ok none := by
  obtain ⟨fields, hscan, hlen⟩ := no_hostPort_scanned h hclean hip
  rw [parseUrl, drop_scheme, hscan]
  split
  · rename_i heq
    cases heq
  · rename_i heq
    cases heq
    exact absurd hlen (Nat.not_succ_le_self _)
  · rfl

theorem parseUrl_host_overflow (h : ∀ host number suffix, ¬ HostPort host number suffix text)
    (hclean : ∀ b ∈ text, isSpace b = false) (hip : (front 58 text).length < 64)
    (hhost : 64 ≤ (front 47 text).length) :
    parseUrl (ascii "rtsp://" ++ text) = .error .bufferOverflow := by
  rw [parseUrl_no_hostPort h hclean hip, hostFormat, sscanf_until_overflow (by decide) hhost]

theorem parseUrl_hostPath (h : ∀ host number suffix, ¬ HostPort host number suffix text)
    (hclean : ∀ b ∈ text, isSpace b = false) (hip : (front 58 text).length < 64)
    (hhost : (front 47 text).length < 64) (hpath : HostPath host suffix text) :
    parseUrl (ascii "rtsp://" ++ text) =
      if suffix.length < 64 then .ok (some suffix) else .error .bufferOverflow := by
  rw [hpath.front_eq] at hhost
  rw [parseUrl_no_hostPort h hclean hip, hpath.scanned hclean hhost]
  by_cases hlen : suffix.length < 64
  · rw [if_pos hlen, if_pos hlen]
  · rw [if_neg hlen, if_neg hlen]

theorem parseUrl_neither (h : ∀ host number suffix, ¬ HostPort host number suffix text)
    (hclean : ∀ b ∈ text, isSpace b = false) (hip : (front 58 text).length < 64)
    (hhost : (front 47 text).length < 64) (hpath : ∀ host suffix, ¬ HostPath host suffix text) :
    parseUrl (ascii "rtsp://" ++ text) = .ok none := by
  obtain ⟨fields, hscan, hlen⟩ := no_hostPath_scanned hpath hhost
  rw [parseUrl_no_hostPort h hclean hip, hscan]
  split
  · rename_i heq
    cases heq
  · rename_i heq
    cases heq
    exact absurd hlen (Nat.not_succ_le_self _)
  · rfl

theorem wellRead_of_readByGrammar (hclean : ∀ b ∈ text, isSpace b = false)
    (h : ReadByGrammar text (parseUrl (ascii "rtsp://" ++ text))) : WellRead text := by
  have hip : (front 58 text).length < 64 := by
    by_contra hlen
    rw [parseUrl_overflow (Nat.not_lt.mp hlen)] at h
    exact h.no_error
  have hhost : (∀ host number suffix, ¬ HostPort host number suffix text) →
      (front 47 text).length < 64 := by
    intro hno
    by_contra hlen
    rw [parseUrl_host_overflow hno hclean hip (Nat.not_lt.mp hlen)] at h
    exact h.no_error
  refine ⟨hip, ?_, hhost, ?_⟩
  · intro host number suffix hport
    rw [parseUrl_hostPort hport hclean hip] at h
    split at h
    · obtain ⟨hslash, hdigits, hmax⟩ := hport.of_location h.location
      exact ⟨hslash, hdigits, hmax, ‹_›⟩
    · exact h.no_error.elim
  · intro hno host suffix hpath
    rw [parseUrl_hostPath hno hclean hip (hhost hno) hpath] at h
    split at h
    · rcases h.location.patterns with ⟨host', number', h', -⟩ | ⟨host', h', hcolon⟩
      · exact absurd h' (hno host' number' suffix)
      · rw [← h'.front_eq, hpath.front_eq] at hcolon
        exact ⟨hcolon, ‹_›⟩
    · exact h.no_error.elim

theorem readByGrammar_of_wellRead (hclean : ∀ b ∈ text, isSpace b = false) (h : WellRead text) :
    ReadByGrammar text (parseUrl (ascii "rtsp://" ++ text)) := by
  by_cases hport : ∃ host number suffix, HostPort host number suffix text
  · obtain ⟨host, number, suffix, hport⟩ := hport
    obtain ⟨hslash, hdigits, hmax, hlen⟩ := h.port host number suffix hport
    have hread := parseUrl_hostPort hport hclean h.ip
    rw [if_pos hlen] at hread
    have hloc := hport.location hslash hdigits hmax
    refine ⟨fun path hloc => ?_, fun hno => absurd hloc (hno suffix)⟩
    rcases hloc.patterns with ⟨host', number', h', -⟩ | ⟨host', h', hcolon⟩
    · have hread' := parseUrl_hostPort h' hclean h.ip
      rwa [if_pos (h.port host' number' path h').2.2.2] at hread'
    · exact ((hport.colon_or_slash h').elim hslash hcolon).elim
  · have hno : ∀ host number suffix, ¬ HostPort host number suffix text :=
      fun host number suffix hp => hport ⟨host, number, suffix, hp⟩
    refine ⟨fun path hloc => ?_, fun hnone => ?_⟩
    · rcases hloc.patterns with ⟨host', number', h', -⟩ | ⟨host', h', hcolon⟩
      · exact absurd h' (hno host' number' path)
      · have hread := parseUrl_hostPath hno hclean h.ip (h.host hno) h'
        rwa [if_pos (h.path hno host' path h').2] at hread
    · exact parseUrl_neither hno hclean h.ip (h.host hno) fun host suffix hpath =>
        hnone suffix (hpath.location (h.path hno host suffix hpath).1)

end ParseUrl

/-! ## Reading a request line -/

theorem token_of_methodOf {word : Octets} {method : Method} (h : methodOf word = some method) :
    Token 64 word ∧ 0 ∉ word := by
  have hwords : ∀ word ∈ [ascii "OPTIONS", ascii "DESCRIBE", ascii "SETUP", ascii "PLAY",
      ascii "TEARDOWN", ascii "GET_PARAMETER", ascii "PAUSE"],
      (word ≠ [] ∧ word.any isSpace = false ∧ word.length < 64) ∧ 0 ∉ word := by decide
  obtain ⟨⟨hne, hclean, hlen⟩, hzero⟩ := hwords word (word_of_methodOf h)
  exact ⟨token_of_any hne hclean hlen, hzero⟩

section StartLine

variable {word url version : Octets} {method : Method}

theorem sscanf_startLine (hword : methodOf word = some method) (hurl : Token 512 url)
    (hversion : Token 64 version) (hzero : 0 ∉ url) (hhead : version.head? ≠ some 0) :
    sscanf requestLineFormat (cstr (startLine word url version)) =
      some [.text word, .text url, .text (cstr version)] := by
  obtain ⟨hw, hword0⟩ := token_of_methodOf hword
  have hcstr : cstr (startLine word url version) = word ++ 32 :: (url ++ 32 :: cstr version) := by
    rw [startLine, cstr_append hword0]
    exact congrArg (word ++ 32 :: ·) (cstr_append hzero _)
  have hne : cstr version ≠ [] := by
    obtain ⟨b, rest, rfl⟩ := List.exists_cons_of_ne_nil hversion.ne_nil
    have hb : b ≠ 0 := fun heq => hhead (congrArg some heq)
    simp [cstr, hb]
  have hclean : ∀ b ∈ cstr version, isSpace b = false :=
    fun b hb => hversion.clean b (mem_of_mem_cstr hb)
  have hfits : (cstr version).length < 64 :=
    Nat.lt_of_le_of_lt (List.takeWhile_prefix _).length_le hversion.fits
  have hlast : sscanf [.space, .word 64] (32 :: (cstr version ++ [])) =
      some [.text (cstr version)] := by
    rw [sscanf_space hne hclean, List.append_nil, sscanf_rest hclean hne, if_pos hfits]
  rw [List.append_nil] at hlast
  rw [hcstr, requestLineFormat, sscanf_word hw.ne_nil hw.fits hw.clean fun b hb => by cases hb; rfl,
    sscanf_space hurl.ne_nil hurl.clean,
    sscanf_word hurl.ne_nil hurl.fits hurl.clean fun b hb => by cases hb; rfl, hlast]
  rfl

/-- A zero in the URL, or in front of the version, leaves two words at most. -/
theorem sscanf_startLine_cut (hword : methodOf word = some method) (hurl : Token 512 url)
    (hcut : 0 ∈ url ∨ version.head? = some 0) :
    ∃ fields, sscanf requestLineFormat (cstr (startLine word url version)) = some fields ∧
      fields.length ≤ 2 := by
  obtain ⟨hw, hword0⟩ := token_of_methodOf hword
  have hcstr : ∃ first after, cstr (startLine word url version) = word ++ 32 :: (first ++ after) ∧
      (after = [] ∨ after = [32]) ∧ (∀ b ∈ first, b ∈ url) ∧ first.length ≤ url.length := by
    by_cases hzero : 0 ∈ url
    · obtain ⟨first, rest, rfl, hfirst⟩ := List.eq_append_cons_of_mem hzero
      refine ⟨first, [], ?_, Or.inl rfl, fun b hb => by simp [hb], by simp⟩
      rw [startLine, List.append_assoc, cstr_append hword0]
      exact congrArg (word ++ 32 :: ·) (cstr_append hfirst _)
    · obtain ⟨rest, rfl⟩ := List.head?_eq_some_iff.mp (hcut.resolve_left hzero)
      refine ⟨url, [32], ?_, Or.inr rfl, fun b hb => hb, Nat.le_refl _⟩
      rw [startLine, cstr_append hword0]
      exact congrArg (word ++ 32 :: ·) (cstr_append hzero _)
  obtain ⟨first, after, hcstr, hafter, hmem, hlen⟩ := hcstr
  have hend : sscanf [.space, .word 64] after = some [] := by
    rcases hafter with rfl | rfl <;> rfl
  rw [hcstr, requestLineFormat, sscanf_word hw.ne_nil hw.fits hw.clean fun b hb => by cases hb; rfl]
  by_cases hne : first = []
  · subst hne
    refine ⟨[.text word], ?_, Nat.le_succ 1⟩
    rcases hafter with rfl | rfl <;> rfl
  · have hclean : ∀ b ∈ first, isSpace b = false := fun b hb => hurl.clean b (hmem b hb)
    have hspace : ∀ b ∈ after.head?, isSpace b = true := by
      rcases hafter with rfl | rfl
      · exact fun b hb => by cases hb
      · exact fun b hb => by cases hb; rfl
    rw [sscanf_space hne hclean,
      sscanf_word hne (Nat.lt_of_le_of_lt hlen hurl.fits) hclean hspace, hend]
    exact ⟨_, rfl, Nat.le_refl 2⟩

/-- What `ParseRequest1` makes of what it finds behind `rtsp://`. -/
def taken (r : Request) (method : Method) (url : Octets) :
    Except Fault (Option Octets) → Except Fault (Bool × Request)
  | .error e => .error e
  | .ok none => .ok (false, { r with method := method })
  | .ok (some suffix) => .ok (true, { r with method := method, url := url, suffix := suffix })

theorem found_of_taken {r r' : Request} {result : Except Fault (Option Octets)}
    (h : r.taken method url result = .ok (true, r')) : result = .ok (some r'.suffix) := by
  rcases result with e | found
  · cases h
  · cases found with
    | none => cases h
    | some suffix =>
      cases h
      rfl

theorem none_of_taken {r r' : Request} {result : Except Fault (Option Octets)}
    (h : r.taken method url result = .ok (false, r')) : result = .ok none := by
  rcases result with e | found
  · cases h
  · cases found with
    | none => rfl
    | some suffix => cases h

theorem parseRequest1_whole (r : Request) (hword : methodOf word = some method)
    (hurl : Token 512 url) (hversion : Token 64 version) (hzero : 0 ∉ url)
    (hhead : version.head? ≠ some 0) :
    r.parseRequest1 (startLine word url version) =
      if (ascii "rtsp://").isPrefixOf url then r.taken method url (parseUrl url)
      else .ok (false, { r with method := method }) := by
  rw [parseRequest1, sscanf_startLine hword hurl hversion hzero hhead]
  dsimp only
  rw [hword]
  rfl

theorem parseRequest1_cut (r : Request) (hword : methodOf word = some method)
    (hurl : Token 512 url) (hcut : 0 ∈ url ∨ version.head? = some 0) :
    r.parseRequest1 (startLine word url version) = .ok (false, r) := by
  obtain ⟨fields, hscan, hlen⟩ := sscanf_startLine_cut hword hurl hcut
  rw [parseRequest1, hscan]
  split
  · rename_i heq
    cases heq
  · rename_i heq
    cases heq
    exact absurd hlen (Nat.not_succ_le_self _)
  · rfl

/-- A line that is scanned whole is taken as the text behind `rtsp://` is read. -/
theorem parsedByGrammar_whole (r : Request) (hword : methodOf word = some method)
    (hurl : Token 512 url) (hversion : Token 64 version) (hzero : 0 ∉ url)
    (hhead : version.head? ≠ some 0) :
    ParsedByGrammar r method url (startLine word url version) ↔
      ∀ text, url = ascii "rtsp://" ++ text → ReadByGrammar text (parseUrl url) := by
  have hparse := parseRequest1_whole r hword hurl hversion hzero hhead
  constructor
  · rintro h text rfl
    have hscheme : (ascii "rtsp://").isPrefixOf (ascii "rtsp://" ++ text) = true :=
      List.isPrefixOf_iff_prefix.mpr (List.prefix_append _ _)
    rw [if_pos hscheme] at hparse
    constructor
    · intro path hloc
      obtain ⟨r', hresult, -, -, rfl⟩ := h.accepts path ⟨text, rfl, hloc⟩
      exact found_of_taken (hparse.symm.trans hresult)
    · intro hno
      have hnone : ∀ path, ¬ RtspUrl (ascii "rtsp://" ++ text) path := by
        rintro path ⟨text', heq, hloc⟩
        rw [← List.append_cancel_left heq] at hloc
        exact hno path hloc
      obtain ⟨r', hresult, -⟩ := h.rejects hnone
      exact none_of_taken (hparse.symm.trans hresult)
  · intro h
    by_cases hscheme : (ascii "rtsp://").isPrefixOf url = true
    · obtain ⟨text, rfl⟩ := List.isPrefixOf_iff_prefix.mp hscheme
      rw [if_pos hscheme] at hparse
      have hread := h text rfl
      constructor
      · rintro path ⟨text', heq, hloc⟩
        rw [← List.append_cancel_left heq] at hloc
        rw [hread.accepts path hloc] at hparse
        exact ⟨_, hparse, rfl, rfl, rfl⟩
      · intro hnone
        rw [hread.rejects fun path hloc => hnone path ⟨text, rfl, hloc⟩] at hparse
        exact ⟨_, hparse, rfl, rfl⟩
    · rw [if_neg hscheme] at hparse
      constructor
      · rintro path ⟨text, rfl, -⟩
        exact absurd (List.isPrefixOf_iff_prefix.mpr (List.prefix_append _ _)) hscheme
      · exact fun _ => ⟨_, hparse, rfl, rfl⟩

/-- A line that a zero cuts is taken for one without a URL of the grammar. -/
theorem parsedByGrammar_cut (r : Request) (hword : methodOf word = some method)
    (hurl : Token 512 url) (hcut : 0 ∈ url ∨ version.head? = some 0) :
    ParsedByGrammar r method url (startLine word url version) ↔ ∀ path, ¬ RtspUrl url path := by
  have hparse := parseRequest1_cut r hword hurl hcut
  constructor
  · intro h path hpath
    obtain ⟨r', hresult, -⟩ := h.accepts path hpath
    rw [hparse] at hresult
    cases hresult
  · exact fun hnone => ⟨fun path hpath => absurd hpath (hnone path), fun _ => ⟨r, hparse, rfl, rfl⟩⟩

end StartLine

end Request

/-! ## Texts that are read well -/

theorem no_slash_of_number {number : Octets} (h : Number number) : 47 ∉ number := by
  intro hin
  cases h with
  | plain hdigits => exact absurd (hdigits.digit 47 hin) (by decide)
  | signed hsign hdigits =>
    rcases List.mem_cons.mp hin with rfl | hin
    · exact absurd hsign (by decide)
    · exact absurd (hdigits.digit 47 hin) (by decide)

/-- Every text with a port, if the host and the path fit. -/
theorem wellRead_of_port {host number suffix text : Octets} (h : HostPort host number suffix text)
    (hslash : 47 ∉ host) (hdigits : Digits number) (hmax : decValue number ≤ 65535)
    (hhost : host.length < 64) (hsuffix : suffix.length < 64) : WellRead text := by
  refine ⟨by rwa [h.front_eq], ?_, fun hno => absurd h (hno _ _ _), fun hno => absurd h (hno _ _ _)⟩
  intro host' number' suffix' h'
  obtain ⟨rfl, hbehind⟩ := cut_unique h.no_colon h'.no_colon (h.eq.symm.trans h'.eq)
  obtain ⟨rfl, rfl⟩ := cut_unique (no_slash_of_number h.isNumber) (no_slash_of_number h'.isNumber)
    hbehind
  exact ⟨hslash, hdigits, hmax, hsuffix⟩

/-- Every text without a colon, if it fits as a whole. -/
theorem wellRead_of_no_colon {text : Octets} (hcolon : 58 ∉ text) (hlen : text.length < 64) :
    WellRead text := by
  have hno : ∀ host number suffix, ¬ HostPort host number suffix text :=
    fun host number suffix h => hcolon (h.eq ▸ by simp)
  have hprefix : (front 47 text).length ≤ text.length := (List.takeWhile_prefix _).length_le
  refine ⟨by rwa [front_eq_self hcolon], fun host number suffix h => absurd h (hno _ _ _),
    fun _ => Nat.lt_of_le_of_lt hprefix hlen, fun _ host suffix h => ⟨?_, ?_⟩⟩
  · exact fun hin => hcolon (h.eq ▸ List.mem_append_left _ hin)
  · refine Nat.lt_of_le_of_lt ?_ hlen
    rw [h.eq, List.length_append, List.length_cons]
    omega

/-! ## Which URLs are taken as the grammar has them -/

/-- The patterns agree with the grammar on the URL of such a line. -/
structure UrlWellRead (url version : Octets) : Prop where
  /-- Without a zero, the text behind `rtsp://` decides. -/
  whole : 0 ∉ url → version.head? ≠ some 0 → ∀ text, url = ascii "rtsp://" ++ text → WellRead text
  /-- A line that a zero cuts is refused, whatever its URL is. -/
  cut : 0 ∈ url ∨ version.head? = some 0 → ∀ path, ¬ RtspUrl url path

/-- **`ParseRequest1` takes a URL as the grammar has it where the patterns agree with the
grammar on it**, and nowhere else. -/
theorem Request.parseRequest1_grammar_iff (r : Request) {word url version : Octets}
    {method : Method} (hword : methodOf word = some method) (hurl : Token 512 url)
    (hversion : Token 64 version) :
    ParsedByGrammar r method url (startLine word url version) ↔ UrlWellRead url version := by
  by_cases hcut : 0 ∈ url ∨ version.head? = some 0
  · rw [parsedByGrammar_cut r hword hurl hcut]
    exact ⟨fun hnone => ⟨fun hzero hhead => (hcut.elim hzero hhead).elim, fun _ => hnone⟩,
      fun h => h.cut hcut⟩
  · obtain ⟨hzero, hhead⟩ := not_or.mp hcut
    rw [parsedByGrammar_whole r hword hurl hversion hzero hhead]
    constructor
    · refine fun h => ⟨fun _ _ text heq => ?_, fun hc => absurd hc hcut⟩
      have hclean : ∀ b ∈ text, isSpace b = false := fun b hb => hurl.clean b (by simp [heq, hb])
      have hread := h text heq
      rw [heq] at hread
      exact wellRead_of_readByGrammar hclean hread
    · intro h text heq
      have hclean : ∀ b ∈ text, isSpace b = false := fun b hb => hurl.clean b (by simp [heq, hb])
      rw [heq]
      exact readByGrammar_of_wellRead hclean (h.whole hzero hhead text heq)

def blankRequest : Request := { cseq := 0, peerRtpPort := 0, peerRtcpPort := 0, rtpChannel := 0 }

/-- `SETUP url RTSP/1.0`. -/
def setupLine (url : Octets) : Octets := startLine (ascii "SETUP") url (ascii "RTSP/1.0")

/-- A colon behind the port, and no colon at all. -/
theorem Request.parseRequest1_grammar_iff_sample :
    ParsedByGrammar blankRequest .setup (ascii "rtsp://10.0.0.1:8554/a:1/b")
        (setupLine (ascii "rtsp://10.0.0.1:8554/a:1/b")) ∧
      ParsedByGrammar blankRequest .setup (ascii "rtsp://h/live/track0")
        (setupLine (ascii "rtsp://h/live/track0")) := by
  have hversion : Token 64 (ascii "RTSP/1.0") := token_of_any (by decide) (by decide) (by decide)
  constructor
  · refine (Request.parseRequest1_grammar_iff blankRequest (by decide)
      (token_of_any (by decide) (by decide) (by decide)) hversion).mpr ⟨fun _ _ text heq => ?_,
        fun hcut => absurd hcut (by decide)⟩
    have hdigits : Digits (ascii "8554") := digits_of_all (by decide) (by decide)
    have hport : HostPort (ascii "10.0.0.1") (ascii "8554") (ascii "a:1/b") text :=
      ⟨List.append_cancel_left (heq.symm.trans (by decide)), by decide, by decide, .plain hdigits,
        by decide⟩
    exact wellRead_of_port hport (by decide) hdigits (by decide) (by decide) (by decide)
  · refine (Request.parseRequest1_grammar_iff blankRequest (by decide)
      (token_of_any (by decide) (by decide) (by decide)) hversion).mpr ⟨fun _ _ text heq => ?_,
        fun hcut => absurd hcut (by decide)⟩
    have htext : text = ascii "h/live/track0" :=
      List.append_cancel_left (heq.symm.trans (by decide))
    rw [htext]
    exact wellRead_of_no_colon (by decide) (by decide)

/-- The return value of `ParseRequest1`, and the suffix that it leaves. -/
def Request.parsedSuffix (r : Request) (line : Octets) : Option (Bool × Octets) :=
  match r.parseRequest1 line with
  | .ok (ok, r) => some (ok, r.suffix)
  | .error _ => none

theorem ParsedByGrammar.accepted {r : Request} {method : Method} {url line path : Octets}
    (h : ParsedByGrammar r method url line) (hpath : RtspUrl url path) :
    r.parsedSuffix line = some (true, path) := by
  obtain ⟨r', hparse, -, -, rfl⟩ := h.accepts path hpath
  rw [Request.parsedSuffix, hparse]

theorem ParsedByGrammar.rejected {r : Request} {method : Method} {url line : Octets}
    (h : ParsedByGrammar r method url line) (hno : ∀ path, ¬ RtspUrl url path) :
    r.parsedSuffix line = some (false, r.suffix) := by
  obtain ⟨r', hparse, -, hsuffix⟩ := h.rejects hno
  rw [Request.parsedSuffix, hparse]
  exact congrArg (fun suffix => some (false, suffix)) hsuffix

def longHost : Octets := ascii "camera-7.building-2.north-wing.lan"

def longPath : Octets := ascii "recordings/entrance-hall/east-door"

def longUrl : Octets := ascii "rtsp://" ++ (longHost ++ 47 :: longPath)

/-- The end of the path alone, a port that is no number, a copy that overflows `ip`. -/
def misreadUrls : List Octets := [ascii "rtsp://h/a:80/b", ascii "rtsp://h:abc/x", longUrl]

theorem rtspUrl_of_hostPath {url host path text : Octets} (hurl : url = ascii "rtsp://" ++ text)
    (h : HostPath host path text) (hcolon : 58 ∉ host) : RtspUrl url path :=
  ⟨text, hurl, h.location hcolon⟩

/-- Behind the colon there is no digit, and the colon stands in front of the slash. -/
theorem no_rtspUrl_sample (path : Octets) : ¬ RtspUrl (ascii "rtsp://h:abc/x") path := by
  rintro ⟨text, heq, hloc⟩
  have hurl : ascii "rtsp://h:abc/x" = ascii "rtsp://" ++ (ascii "h" ++ 58 :: ascii "abc/x") := by
    decide
  have htext : text = ascii "h" ++ 58 :: ascii "abc/x" :=
    List.append_cancel_left (heq.symm.trans hurl)
  rcases hloc.patterns with ⟨host, number, hport, -, hdigits, -⟩ | ⟨host, hpath, hcolon⟩
  · obtain ⟨-, hbehind⟩ := cut_unique hport.no_colon (by decide) (hport.eq.symm.trans htext)
    obtain ⟨d, digits, rfl⟩ := List.exists_cons_of_ne_nil hdigits.ne_nil
    obtain rfl : d = 97 := (List.cons.inj hbehind).1
    exact absurd (hdigits.digit 97 List.mem_cons_self) (by decide)
  · rw [← hpath.front_eq, htext] at hcolon
    exact absurd hcolon (by decide)

/-- **A path with a number between colon and slash is cut, a host with a colon but no port is
taken, and a host and a path that both fit overflow together.** -/
theorem Request.parseRequest1_grammar_fails :
    (∀ url ∈ misreadUrls, Token 512 url) ∧
    ∀ url ∈ misreadUrls, ¬ ParsedByGrammar blankRequest .setup url (setupLine url) := by
  have hclean : ∀ url ∈ misreadUrls,
      url ≠ [] ∧ url.any isSpace = false ∧ url.length < 512 := by decide +kernel
  refine ⟨fun url h => token_of_any (hclean url h).1 (hclean url h).2.1 (hclean url h).2.2, ?_⟩
  intro url hurl h
  simp only [misreadUrls, List.mem_cons, List.not_mem_nil, or_false] at hurl
  rcases hurl with rfl | rfl | rfl
  · have hpath : HostPath (ascii "h") (ascii "a:80/b") (ascii "h/a:80/b") :=
      ⟨by decide, by decide, by decide, by decide⟩
    have hurl : ascii "rtsp://h/a:80/b" = ascii "rtsp://" ++ ascii "h/a:80/b" := by decide
    exact absurd (h.accepted (rtspUrl_of_hostPath hurl hpath (by decide))) (by decide +kernel)
  · exact absurd (h.rejected no_rtspUrl_sample) (by decide +kernel)
  · have hpath : HostPath longHost longPath (longHost ++ 47 :: longPath) :=
      ⟨rfl, by decide +kernel, by decide +kernel, by decide +kernel⟩
    exact absurd (h.accepted (rtspUrl_of_hostPath rfl hpath (by decide +kernel)))
      (by decide +kernel)

end MyRtspServer.Net
