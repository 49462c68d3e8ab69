import Mathlib.Data.List.DropRight
import MyRtspServer.Net.RtspConnection
import MyRtspServer.Net.UrlGrammar

/-!
# The fixed buffers of the request parser

`ParseRequest1` scans the request line into `method[64]`, `url[512]` and `version[64]`
and the URL into `ip[64]` and `suffix[64]`; SETUP scans the suffix into
`session_name[100]`. The formats have no widths, so what bounds a copy is the text
that a client sends. Only the last array is safe: what is scanned into it has passed
through `suffix`.
-/
namespace MyRtspServer.Net

open Library Library.Octets Library.Scan

/-! ## What is copied -/

/-- `"%[^/]/"` into `session_name[100]`. -/
def sessionNameFormat : List Directive := [.until_ 47 100, .char 47]

namespace Request

/-- What the scans of a URL copy, of the text behind `rtsp://`. -/
def urlStores (text : Octets) : List Store :=
  stores hostPortFormat text ++
    match sscanf hostPortFormat text with
    | none => []
    | some [.text _, .number _, .text _] => []
    | some _ => stores hostFormat text

/-- What `ParseRequest1` copies. -/
def lineStores (line : Octets) : List Store :=
  stores requestLineFormat (cstr line) ++
    match sscanf requestLineFormat (cstr line) with
    | some [.text method, .text url, .text _] =>
      if (methodOf method).isSome = true ∧ (ascii "rtsp://").isPrefixOf url = true then
        urlStores (url.drop 7)
      else []
    | _ => []

end Request

/-- What `HandleCmdSetup` copies of the suffix. -/
def setupStores (suffix : Octets) : List Store := stores sessionNameFormat suffix

/-! ## The tokens of a line -/

def methodWord (line : Octets) : Octets := word (cstr line)

def urlWord (line : Octets) : Octets := word (behindWord (cstr line))

def versionWord (line : Octets) : Octets := word (behindWord (behindWord (cstr line)))

/-- The parts of a URL fit, those that the two patterns make of it. -/
structure UrlFits (text : Octets) : Prop where
  ip : (front 58 text).length < 64
  port : ∀ host number suffix, HostPort host number suffix text → suffix.length < 64
  host : (∀ host number suffix, ¬ HostPort host number suffix text) → (front 47 text).length < 64
  path : (∀ host number suffix, ¬ HostPort host number suffix text) →
    ∀ host suffix, HostPath host suffix text → suffix.length < 64

/-- The three words fit. -/
structure WordsFit (line : Octets) : Prop where
  method : (methodWord line).length < 64
  url : (urlWord line).length < 512
  version : (versionWord line).length < 64

/-- The URL of this line is scanned. -/
def ScansUrl (line text : Octets) : Prop :=
  versionWord line ≠ [] ∧ (methodOf (methodWord line)).isSome = true ∧
    urlWord line = ascii "rtsp://" ++ text

/-- The words fit, and the parts of the URL if it is scanned. -/
structure LineFits (line : Octets) : Prop where
  words : WordsFit line
  parts : ∀ text, ScansUrl line text → UrlFits text

/-- Some token of the line is too long for its array. -/
def Overlong (line : Octets) : Prop :=
  ¬ WordsFit line ∨ ∃ text, urlWord line = ascii "rtsp://" ++ text ∧ ¬ UrlFits text

/-- What is asked of the parser: all copies fit, and a line with a token that is too
long is refused. -/
structure StaysInBuffers (r : Request) (line : Octets) : Prop where
  parsed : AllFit (Request.lineStores line)
  setup : ∀ r', r.parseRequest1 line = .ok (true, r') → AllFit (setupStores r'.suffix)
  rejects : Overlong line → ∃ r', r.parseRequest1 line = .ok (false, r')

/-! ## The words -/

section Words

theorem skipSpace_skipSpace (s : Octets) : skipSpace (skipSpace s) = skipSpace s :=
  List.dropWhile_idempotent isSpace s

theorem word_skipSpace (s : Octets) : word (skipSpace s) = word s := by
  rw [word, skipSpace_skipSpace, word]

theorem behindWord_skipSpace (s : Octets) : behindWord (skipSpace s) = behindWord s := by
  rw [behindWord, skipSpace_skipSpace, behindWord]

theorem word_clean (s : Octets) : ∀ b ∈ word s, isSpace b = false := by
  intro b hb
  have htaken := List.mem_takeWhile_imp hb
  simpa using htaken

/-- Behind a word that is not there is nothing. -/
theorem behindWord_of_no_word {s : Octets} (h : word s = []) : behindWord s = [] := by
  unfold word at h
  unfold behindWord
  cases hskip : skipSpace s with
  | nil => rfl
  | cons b rest =>
    have hb : isSpace b = false := by
      have hhead := List.head?_dropWhile_not isSpace s
      rw [← skipSpace, hskip] at hhead
      simpa using hhead
    rw [hskip, List.takeWhile_cons_of_pos (by simp [hb])] at h
    cases h

theorem word_nil : word [] = [] := rfl

variable {s : Octets}

theorem allFit_words (s : Octets) : AllFit (stores requestLineFormat s) ↔
    (word s).length < 64 ∧ (word (behindWord s)).length < 512 ∧
      (word (behindWord (behindWord s))).length < 64 := by
  have hempty : ∀ {size : Nat} {t : Octets}, 0 < size → t = [] → t.length < size :=
    fun hsize ht => by rwa [ht]
  have hstores : stores requestLineFormat s = storing 64 (word s)
      (storing 512 (word (behindWord s)) (storing 64 (word (behindWord (behindWord s))) [])) := by
    rw [requestLineFormat, stores, stores, stores, stores, stores, stores, word_skipSpace,
      behindWord_skipSpace, word_skipSpace]
  rw [hstores, allFit_storing, allFit_storing, allFit_storing]
  by_cases h1 : word s = []
  · have hbehind := behindWord_of_no_word h1
    rw [hbehind]
    simp [h1, word_nil, behindWord_of_no_word word_nil]
  · by_cases h2 : word (behindWord s) = []
    · rw [behindWord_of_no_word h2]
      simp [h1, h2, word_nil]
    · by_cases h3 : word (behindWord (behindWord s)) = []
      · simp [h1, h2, h3]
      · simp [h1, h2, h3, allFit_nil]

/-- What the scan of a line gives when the words fit. -/
theorem sscanf_words (h : AllFit (stores requestLineFormat s)) :
    sscanf requestLineFormat s = some
      (if word s = [] then [] else if word (behindWord s) = [] then [.text (word s)]
        else if word (behindWord (behindWord s)) = [] then
          [.text (word s), .text (word (behindWord s))]
        else [.text (word s), .text (word (behindWord s)),
          .text (word (behindWord (behindWord s)))]) := by
  obtain ⟨h1, h2, h3⟩ := (allFit_words s).mp h
  have hlast : sscanf [.space, .word 64] (behindWord (behindWord s)) = some
      (if word (behindWord (behindWord s)) = [] then [] else
        [.text (word (behindWord (behindWord s)))]) := by
    rw [sscanf_space_eq, sscanf_word_eq, skipSpace_skipSpace]
    change (if word (behindWord (behindWord s)) = [] then _ else
      if 64 ≤ (word (behindWord (behindWord s))).length then _ else _) = _
    rw [if_neg (Nat.not_le.mpr h3)]
    split <;> rfl
  have hurl : sscanf [.space, .word 512, .space, .word 64] (behindWord s) = some
      (if word (behindWord s) = [] then [] else
        if word (behindWord (behindWord s)) = [] then [.text (word (behindWord s))]
        else [.text (word (behindWord s)), .text (word (behindWord (behindWord s)))]) := by
    rw [sscanf_space_eq, sscanf_word_eq, skipSpace_skipSpace]
    change (if word (behindWord s) = [] then _ else
      if 512 ≤ (word (behindWord s)).length then _ else
        (sscanf [.space, .word 64] (behindWord (behindWord s))).map _) = _
    rw [if_neg (Nat.not_le.mpr h2), hlast]
    split
    · rfl
    · split <;> rfl
  rw [requestLineFormat, sscanf_word_eq]
  change (if word s = [] then _ else if 64 ≤ (word s).length then _ else
    (sscanf [.space, .word 512, .space, .word 64] (behindWord s)).map _) = _
  rw [if_neg (Nat.not_le.mpr h1), hurl]
  split
  · rfl
  · split
    · rfl
    · split <;> rfl

end Words

/-! ## The URL -/

namespace Request

section Url

variable {text : Octets}

/-- **Either a copy of the URL does not fit, or the suffix fits that is found.** -/
theorem parseUrl_outcome (hclean : ∀ b ∈ text, isSpace b = false) :
    (¬ UrlFits text ∧ parseUrl (ascii "rtsp://" ++ text) = .error .bufferOverflow) ∨
      (UrlFits text ∧ (parseUrl (ascii "rtsp://" ++ text) = .ok none ∨
        ∃ suffix, parseUrl (ascii "rtsp://" ++ text) = .ok (some suffix) ∧ suffix.length < 64)) := by
  by_cases hip : (front 58 text).length < 64
  · by_cases hport : ∃ host number suffix, HostPort host number suffix text
    · obtain ⟨host, number, suffix, hport⟩ := hport
      have hread := parseUrl_hostPort hport hclean hip
      by_cases hlen : suffix.length < 64
      · rw [if_pos hlen] at hread
        have hall : ∀ host' number' suffix', HostPort host' number' suffix' text →
            suffix'.length < 64 := by
          intro host' number' suffix' h'
          by_contra hlong
          have hread' := parseUrl_hostPort h' hclean hip
          rw [if_neg hlong, hread] at hread'
          cases hread'
        exact Or.inr ⟨⟨hip, hall, fun hno => absurd hport (hno _ _ _),
          fun hno => absurd hport (hno _ _ _)⟩, Or.inr ⟨suffix, hread, hlen⟩⟩
      · rw [if_neg hlen] at hread
        exact Or.inl ⟨fun hfits => hlen (hfits.port _ _ _ hport), hread⟩
    · have hno : ∀ host number suffix, ¬ HostPort host number suffix text :=
        fun host number suffix h => hport ⟨host, number, suffix, h⟩
      have hports : ∀ host number suffix, HostPort host number suffix text → suffix.length < 64 :=
        fun host number suffix h => absurd h (hno _ _ _)
      by_cases hhost : (front 47 text).length < 64
      · by_cases hpath : ∃ host suffix, HostPath host suffix text
        · obtain ⟨host, suffix, hpath⟩ := hpath
          have hread := parseUrl_hostPath hno hclean hip hhost hpath
          by_cases hlen : suffix.length < 64
          · rw [if_pos hlen] at hread
            have hall : ∀ host' suffix', HostPath host' suffix' text → suffix'.length < 64 := by
              intro host' suffix' h'
              obtain ⟨-, rfl⟩ := cut_unique hpath.no_slash h'.no_slash (hpath.eq.symm.trans h'.eq)
              exact hlen
            exact Or.inr ⟨⟨hip, hports, fun _ => hhost, fun _ => hall⟩, Or.inr ⟨suffix, hread, hlen⟩⟩
          · rw [if_neg hlen] at hread
            exact Or.inl ⟨fun hfits => hlen (hfits.path hno _ _ hpath), hread⟩
        · have hnone : ∀ host suffix, ¬ HostPath host suffix text :=
            fun host suffix h => hpath ⟨host, suffix, h⟩
          exact Or.inr ⟨⟨hip, hports, fun _ => hhost, fun _ host suffix h => absurd h (hnone _ _)⟩,
            Or.inl (parseUrl_neither hno hclean hip hhost hnone)⟩
      · exact Or.inl ⟨fun hfits => hhost (hfits.host hno),
          parseUrl_host_overflow hno hclean hip (Nat.not_lt.mp hhost)⟩
  · exact Or.inl ⟨fun hfits => hip hfits.ip, parseUrl_overflow (Nat.not_lt.mp hip)⟩

theorem parseUrl_scanned (h : AllFit (urlStores text)) :
    ∃ found, parseUrl (ascii "rtsp://" ++ text) = .ok found := by
  rw [urlStores, allFit_append, ← sscanf_isSome_iff] at h
  obtain ⟨hfirst, hsecond⟩ := h
  rw [parseUrl, drop_scheme]
  split
  · rename_i hnone
    rw [hnone] at hfirst
    cases hfirst
  · exact ⟨_, rfl⟩
  · rename_i hother hfields
    have hhost : AllFit (stores hostFormat text) := by
      split at hsecond
      · rename_i hnone
        cases hfields.symm.trans hnone
      · rename_i hport
        exact absurd (Option.some.inj (hfields.symm.trans hport)) (hother _ _ _)
      · exact hsecond
    rw [← sscanf_isSome_iff] at hhost
    split
    · rename_i hnone
      rw [hnone] at hhost
      cases hhost
    · exact ⟨_, rfl⟩
    · exact ⟨_, rfl⟩

theorem urlStores_allFit (h : ∀ e, parseUrl (ascii "rtsp://" ++ text) ≠ .error e) :
    AllFit (urlStores text) := by
  rw [urlStores, allFit_append, ← sscanf_isSome_iff]
  rw [parseUrl, drop_scheme] at h
  cases hfields : sscanf hostPortFormat text with
  | none =>
    rw [hfields] at h
    exact absurd rfl (h _)
  | some fields =>
    refine ⟨rfl, ?_⟩
    rw [hfields] at h
    split
    · exact allFit_nil
    · exact allFit_nil
    · rename_i hother heq
      cases heq
      rw [← sscanf_isSome_iff]
      cases hfields' : sscanf hostFormat text with
      | none =>
        rw [hfields'] at h
        split at h
        · rename_i heq
          cases heq
        · rename_i heq
          cases heq
          exact absurd rfl (hother _ _ _)
        · exact absurd rfl (h _)
      | some fields' => rfl

/-- What the scans of a URL copy fits exactly when the parts of the URL fit. -/
theorem allFit_urlStores (hclean : ∀ b ∈ text, isSpace b = false) :
    AllFit (urlStores text) ↔ UrlFits text := by
  constructor
  · intro h
    obtain ⟨found, hfound⟩ := parseUrl_scanned h
    rcases parseUrl_outcome hclean with ⟨-, herror⟩ | ⟨hfits, -⟩
    · rw [hfound] at herror
      cases herror
    · exact hfits
  · intro h
    refine urlStores_allFit fun e herror => ?_
    rcases parseUrl_outcome hclean with ⟨hno, -⟩ | ⟨-, hnone | ⟨suffix, hsome, -⟩⟩
    · exact hno h
    · rw [herror] at hnone
      cases hnone
    · rw [herror] at hsome
      cases hsome

end Url

/-! ## The line -/

section Line

variable {line : Octets}

/-- The scan of a line whose words fit. -/
theorem sscanf_line (h : WordsFit line) : sscanf requestLineFormat (cstr line) = some
    (if methodWord line = [] then [] else if urlWord line = [] then [.text (methodWord line)]
      else if versionWord line = [] then [.text (methodWord line), .text (urlWord line)]
      else [.text (methodWord line), .text (urlWord line), .text (versionWord line)]) :=
  sscanf_words ((allFit_words _).mpr ⟨h.method, h.url, h.version⟩)

/-- A line with a third word has the other two. -/
theorem words_of_version (h : versionWord line ≠ []) : methodWord line ≠ [] ∧ urlWord line ≠ [] := by
  constructor
  · intro hempty
    rw [methodWord] at hempty
    apply h
    rw [versionWord, behindWord_of_no_word hempty]
    rfl
  · intro hempty
    rw [urlWord] at hempty
    apply h
    rw [versionWord, behindWord_of_no_word hempty]
    rfl

/-- Without a third word nothing but the words is copied, and the line is refused. -/
theorem parse_of_no_version (r : Request) (h : WordsFit line) (hversion : versionWord line = []) :
    lineStores line = stores requestLineFormat (cstr line) ∧
      r.parseRequest1 line = .ok (false, r) := by
  have hscan := sscanf_line h
  rw [if_pos hversion] at hscan
  by_cases hmethod : methodWord line = []
  · rw [if_pos hmethod] at hscan
    rw [lineStores, parseRequest1, hscan]
    exact ⟨List.append_nil _, rfl⟩
  · rw [if_neg hmethod] at hscan
    by_cases hurl : urlWord line = []
    · rw [if_pos hurl] at hscan
      rw [lineStores, parseRequest1, hscan]
      exact ⟨List.append_nil _, rfl⟩
    · rw [if_neg hurl] at hscan
      rw [lineStores, parseRequest1, hscan]
      exact ⟨List.append_nil _, rfl⟩

/-- What `ParseRequest1` makes of three words. -/
def answered (r : Request) (url : Octets) : Option Method → Except Fault (Bool × Request)
  | none => .ok (false, { r with method := .none_ })
  | some method =>
    if (ascii "rtsp://").isPrefixOf url = true then r.taken method url (parseUrl url)
    else .ok (false, { r with method := method })

/-- With one, the method and the scheme decide whether the URL is scanned. -/
theorem parse_of_version (r : Request) (h : WordsFit line) (hversion : versionWord line ≠ []) :
    lineStores line = stores requestLineFormat (cstr line) ++
      (if (methodOf (methodWord line)).isSome = true ∧
          (ascii "rtsp://").isPrefixOf (urlWord line) = true then
        urlStores ((urlWord line).drop 7)
      else []) ∧
    r.parseRequest1 line = r.answered (urlWord line) (methodOf (methodWord line)) := by
  obtain ⟨hmethod, hurl⟩ := words_of_version hversion
  rw [lineStores, parseRequest1, sscanf_line h, if_neg hmethod, if_neg hurl, if_neg hversion]
  refine ⟨rfl, ?_⟩
  dsimp only
  cases methodOf (methodWord line) with
  | none => rfl
  | some method => rfl

theorem urlWord_clean {text : Octets} (h : urlWord line = ascii "rtsp://" ++ text) :
    ∀ b ∈ text, isSpace b = false := fun b hb => by
  refine word_clean (behindWord (cstr line)) b ?_
  change b ∈ urlWord line
  rw [h]
  exact List.mem_append_right _ hb

/-- Where the URL is not scanned, the line is refused. -/
theorem parse_of_not_scanned (r : Request) (h : WordsFit line) (hno : ∀ text, ¬ ScansUrl line text) :
    AllFit (lineStores line) ∧ ∃ r', r.parseRequest1 line = .ok (false, r') := by
  have hwords : AllFit (stores requestLineFormat (cstr line)) :=
    (allFit_words _).mpr ⟨h.method, h.url, h.version⟩
  by_cases hversion : versionWord line = []
  · obtain ⟨hstores, hparse⟩ := parse_of_no_version r h hversion
    exact ⟨hstores ▸ hwords, r, hparse⟩
  · obtain ⟨hstores, hparse⟩ := parse_of_version r h hversion
    rw [hstores, hparse]
    by_cases hscheme : (ascii "rtsp://").isPrefixOf (urlWord line) = true
    · obtain ⟨text, htext⟩ := List.isPrefixOf_iff_prefix.mp hscheme
      have hmethod : methodOf (methodWord line) = none := by
        by_contra hsome
        exact hno text ⟨hversion, Option.isSome_iff_ne_none.mpr hsome, htext.symm⟩
      rw [hmethod, if_neg fun hand => Bool.false_ne_true hand.1, List.append_nil]
      exact ⟨hwords, _, rfl⟩
    · rw [if_neg fun hand => hscheme hand.2, List.append_nil]
      refine ⟨hwords, ?_⟩
      cases methodOf (methodWord line) with
      | none => exact ⟨_, rfl⟩
      | some method => exact ⟨_, if_neg hscheme⟩

/-- Where it is, its parts decide. -/
theorem parse_of_scanned (r : Request) (h : WordsFit line) {text : Octets}
    (hscans : ScansUrl line text) : (AllFit (lineStores line) ↔ UrlFits text) ∧
      ∃ method, r.parseRequest1 line =
        r.taken method (urlWord line) (parseUrl (ascii "rtsp://" ++ text)) := by
  obtain ⟨hversion, hmethod, hurl⟩ := hscans
  have hwords : AllFit (stores requestLineFormat (cstr line)) :=
    (allFit_words _).mpr ⟨h.method, h.url, h.version⟩
  have hscheme : (ascii "rtsp://").isPrefixOf (urlWord line) = true :=
    List.isPrefixOf_iff_prefix.mpr ⟨text, hurl.symm⟩
  obtain ⟨hstores, hparse⟩ := parse_of_version r h hversion
  constructor
  · rw [hstores, if_pos ⟨hmethod, hscheme⟩, allFit_append, hurl, drop_scheme,
      allFit_urlStores (urlWord_clean hurl)]
    exact ⟨And.right, fun hfits => ⟨hwords, hfits⟩⟩
  · obtain ⟨method, hsome⟩ := Option.isSome_iff_exists.mp hmethod
    refine ⟨method, ?_⟩
    rw [hparse, hsome, answered, if_pos hscheme, hurl]

theorem words_of_allFit (h : AllFit (lineStores line)) : WordsFit line := by
  rw [lineStores, allFit_append, allFit_words] at h
  exact ⟨h.1.1, h.1.2.1, h.1.2.2⟩

/-- **`ParseRequest1` copies what fits exactly for these lines.** -/
theorem allFit_lineStores (line : Octets) : AllFit (lineStores line) ↔ LineFits line := by
  constructor
  · intro h
    have hwords := words_of_allFit h
    exact ⟨hwords, fun text hscans => (parse_of_scanned blankRequest hwords hscans).1.mp h⟩
  · intro h
    by_cases hscans : ∃ text, ScansUrl line text
    · obtain ⟨text, hscans⟩ := hscans
      exact (parse_of_scanned blankRequest h.words hscans).1.mpr (h.parts text hscans)
    · exact (parse_of_not_scanned blankRequest h.words (not_exists.mp hscans)).1

/-- The suffix that is found has gone through its array. -/
theorem suffix_fits {r r' : Request} (h : LineFits line)
    (hparse : r.parseRequest1 line = .ok (true, r')) : r'.suffix.length < 64 := by
  by_cases hscans : ∃ text, ScansUrl line text
  · obtain ⟨text, hscans⟩ := hscans
    obtain ⟨-, method, htaken⟩ := parse_of_scanned r h.words hscans
    rw [htaken] at hparse
    have hfound := found_of_taken hparse
    rcases parseUrl_outcome (urlWord_clean hscans.2.2) with ⟨-, herror⟩ | ⟨-, hnone | ⟨suffix, hsome, hlen⟩⟩
    · rw [hfound] at herror
      cases herror
    · rw [hfound] at hnone
      cases hnone
    · cases hfound.symm.trans hsome
      exact hlen
  · obtain ⟨-, r'', hrefused⟩ := parse_of_not_scanned r h.words (not_exists.mp hscans)
    rw [hrefused] at hparse
    cases hparse

/-- A line that fits and has a token that is too long is refused before the token is copied. -/
theorem refused_of_overlong (r : Request) (h : LineFits line) (hlong : Overlong line) :
    ∃ r', r.parseRequest1 line = .ok (false, r') := by
  obtain ⟨text, hurl, hno⟩ := hlong.resolve_left fun hwords => hwords h.words
  by_cases hscans : ∃ text, ScansUrl line text
  · obtain ⟨text', hscans⟩ := hscans
    have htext : text' = text := List.append_cancel_left (hscans.2.2.symm.trans hurl)
    exact absurd (h.parts text' hscans) (htext ▸ hno)
  · exact (parse_of_not_scanned r h.words (not_exists.mp hscans)).2

end Line

end Request

/-! ## The suffix -/

/-- **A suffix that fits its own array fits the name of the session.** -/
theorem allFit_setupStores {suffix : Octets} (h : suffix.length < 64) : AllFit (setupStores suffix) := by
  have hfront : (front 47 suffix).length ≤ suffix.length := (List.takeWhile_prefix _).length_le
  rw [setupStores, sessionNameFormat, stores, allFit_storing]
  refine Or.inr ⟨by omega, ?_⟩
  rw [← sscanf_isSome_iff]
  cases suffix.dropWhile fun b => decide (b ≠ 47) with
  | nil => rfl
  | cons b rest =>
    rw [sscanf_char_eq]
    split <;> rfl

/-- **The copies of the request parser fit exactly when the tokens of the line do.** -/
theorem staysInBuffers_iff (r : Request) (line : Octets) :
    StaysInBuffers r line ↔ LineFits line := by
  constructor
  · exact fun h => (Request.allFit_lineStores line).mp h.parsed
  · intro h
    exact ⟨(Request.allFit_lineStores line).mpr h,
      fun r' hparse => allFit_setupStores (Request.suffix_fits h hparse),
      Request.refused_of_overlong r h⟩

/-! ## In the parser -/

namespace Request

/-- The copies are what the parser of the model ends with an error for. -/
theorem parseRequest1_error_iff (r : Request) (line : Octets) :
    (∃ e, r.parseRequest1 line = .error e) ↔ ¬ LineFits line := by
  constructor
  · rintro ⟨e, herror⟩ h
    by_cases hscans : ∃ text, ScansUrl line text
    · obtain ⟨text, hscans⟩ := hscans
      obtain ⟨-, method, htaken⟩ := parse_of_scanned r h.words hscans
      rw [htaken] at herror
      rcases parseUrl_outcome (urlWord_clean hscans.2.2) with
        ⟨hno, -⟩ | ⟨-, hnone | ⟨suffix, hsome, -⟩⟩
      · exact hno (h.parts text hscans)
      · rw [hnone] at herror
        cases herror
      · rw [hsome] at herror
        cases herror
    · obtain ⟨-, r', hrefused⟩ := parse_of_not_scanned r h.words (not_exists.mp hscans)
      rw [hrefused] at herror
      cases herror
  · intro h
    by_cases hwords : WordsFit line
    · obtain ⟨text, hscans, hno⟩ : ∃ text, ScansUrl line text ∧ ¬ UrlFits text := by
        by_contra hall
        exact h ⟨hwords, fun text hscans => by_contra fun hno => hall ⟨text, hscans, hno⟩⟩
      obtain ⟨-, method, htaken⟩ := parse_of_scanned r hwords hscans
      rcases parseUrl_outcome (urlWord_clean hscans.2.2) with ⟨-, herror⟩ | ⟨hfits, -⟩
      · exact ⟨_, by rw [htaken, herror]; rfl⟩
      · exact absurd hfits hno
    · have hnone : sscanf requestLineFormat (cstr line) = none := by
        rw [← Option.not_isSome_iff_eq_none, sscanf_isSome_iff, allFit_words]
        exact fun hfit => hwords ⟨hfit.1, hfit.2.1, hfit.2.2⟩
      exact ⟨_, by rw [parseRequest1, hnone]⟩

/-- **The first line of the input buffer decides** whether `ParseRequest` stays in its
buffers, whatever stands behind it. -/
theorem parseRequest_error_iff (r : Request) {buffer line rest : Octets}
    (hline : splitFirst kCrlf buffer = some (line, rest)) :
    (∃ e, r.parseRequest buffer = .error e) ↔ ¬ LineFits line := by
  rw [← parseRequest1_error_iff r line, parseRequest, hline]
  dsimp only
  cases hparse : r.parseRequest1 line with
  | error e => exact ⟨fun _ => ⟨e, rfl⟩, fun _ => ⟨e, rfl⟩⟩
  | ok result =>
    obtain ⟨ok, r'⟩ := result
    constructor
    · rintro ⟨e, herror⟩
      cases ok with
      | false => cases herror
      | true =>
        dsimp only at herror
        split at herror
        · cases herror
        · split at herror <;> cases herror
    · rintro ⟨e, herror⟩
      cases herror

end Request

/-- A method of 64 bytes. -/
def longMethodLine : Octets := List.replicate 64 65 ++ ascii " rtsp://h/a RTSP/1.0"

/-- A host of 64 bytes. -/
def longHostLine : Octets :=
  ascii "SETUP rtsp://" ++ List.replicate 64 97 ++ ascii "/b RTSP/1.0"

theorem overlong_copied : ¬ StaysInBuffers blankRequest longMethodLine ∧
    ¬ StaysInBuffers blankRequest longHostLine := by
  have hcopied : ∀ {line : Octets}, decide (AllFit (Request.lineStores line)) = false →
      ¬ StaysInBuffers blankRequest line := fun hno hstays => of_decide_eq_false hno hstays.parsed
  exact ⟨hcopied (by decide +kernel), hcopied (by decide +kernel)⟩

end MyRtspServer.Net
