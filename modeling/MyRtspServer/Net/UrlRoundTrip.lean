import MyRtspServer.Net.RequestLines
import MyRtspServer.Net.TakenRequest
import MyRtspServer.Net.UrlGrammar

/-!
# The URL of a session

`GetUrl` prints the URL of a session, and DESCRIBE and SETUP take it apart again.
`ParseRequest1` keeps all that stands behind the host as the suffix; SETUP cuts it
at the first slash, and finds the track anywhere in the URL.
-/
namespace MyRtspServer.Net

open Library Library.Octets Library.Lines Library.Scan

/-- `in_addr`, byte by byte. -/
structure InAddr where
  byte1 : UInt8
  byte2 : UInt8
  byte3 : UInt8
  byte4 : UInt8

/-- `inet_ntoa`; the answer of `GetLocalIp`. -/
def inetNtoa (addr : InAddr) : Octets :=
  dec addr.byte1.toNat ++ 46 :: (dec addr.byte2.toNat ++ 46 :: (dec addr.byte3.toNat ++
    46 :: dec addr.byte4.toNat))

/-- `"rtsp://%s:%d/%s"`. -/
def urlText (ip : Octets) (port : UInt16) (name : Octets) : Octets :=
  ascii "rtsp://" ++ (ip ++ 58 :: (dec port.toNat ++ 47 :: name))

/-- `RtspServer::GetUrl`, with `url[200]`. -/
def Server.getUrl (localIp : Octets) (port : UInt16) (name : Octets) : Octets :=
  cstr ((urlText (cstr localIp) port (cstr name)).take 199)

/-- The control attribute of a track, behind a slash. -/
def trackUrl (url : Octets) (track : TrackId) : Octets := url ++ ascii "/track" ++ dec track

/-- A request line with this method and URL. -/
def requestLine (method url : Octets) : Octets := method ++ 32 :: (url ++ 32 :: ascii "RTSP/1.0")

namespace Request

/-- The session that DESCRIBE looks up, by its name. -/
def describeTarget (r : Request) (m : Media) (url : Octets) : Option (Octets × MediaSession) :=
  match r.parseRequest1 (requestLine (ascii "DESCRIBE") url) with
  | .ok (true, r) => (m.sessions.lookup r.suffix).map (r.suffix, ·)
  | _ => none

/-- The session that SETUP looks up, by its name, and the track it selects. -/
def setupTarget (r : Request) (m : Media) (url : Octets) :
    Option (Octets × MediaSession × TrackId) :=
  match r.parseRequest1 (requestLine (ascii "SETUP") url) with
  | .ok (true, r) =>
    match r.parseMediaTrack with
    | (false, _) => none
    | (true, r) =>
      match r.trackId, RtspConnection.sessionNameOf r.suffix with
      | some track, .ok (some key) => (m.sessions.lookup key).map (key, ·, track)
      | _, _ => none
  | _ => none

end Request

/-- The URL of a session, and the URLs of its tracks, name that session. -/
structure UrlRoundTrip (r : Request) (m : Media) (localIp : Octets) (port : UInt16) (name : Octets)
    (session : MediaSession) (track : TrackId) : Prop where
  describe : r.describeTarget m (Server.getUrl localIp port name) = some (name, session)
  setup : r.setupTarget m (trackUrl (Server.getUrl localIp port name) track) =
    some (name, session, track)

/-! ## What is printed -/

/-- A digit or a dot. -/
def isHostByte (b : UInt8) : Bool := isDigit b || decide (b = 46)

theorem isHostByte_ne {b c : UInt8} (h : isHostByte b = true) (hc : isHostByte c = false) : b ≠ c := by
  rintro rfl
  rw [h] at hc
  cases hc

theorem isHostByte_of_digit {b : UInt8} (h : isDigit b = true) : isHostByte b = true := by
  rw [isHostByte, h]
  rfl

theorem isHostByte_not_space {b : UInt8} (h : isHostByte b = true) : isSpace b = false := by
  rw [isHostByte, Bool.or_eq_true, decide_eq_true_eq] at h
  rcases h with h | rfl
  · exact isDigit_not_space h
  · rfl

theorem inetNtoa_isHostByte (addr : InAddr) : ∀ b ∈ inetNtoa addr, isHostByte b = true := by
  intro b hb
  simp only [inetNtoa, List.mem_append, List.mem_cons] at hb
  rcases hb with h | rfl | h | rfl | h | rfl | h
  · exact isHostByte_of_digit (dec_isDigit h)
  · rfl
  · exact isHostByte_of_digit (dec_isDigit h)
  · rfl
  · exact isHostByte_of_digit (dec_isDigit h)
  · rfl
  · exact isHostByte_of_digit (dec_isDigit h)

theorem dec_octet_length (b : UInt8) : (dec b.toNat).length ≤ 3 :=
  (printed_dec (k := 2) (Nat.lt_trans b.toNat_lt (by decide))).1

theorem dec_port_length (port : UInt16) : (dec port.toNat).length ≤ 5 :=
  (printed_dec (k := 4) (Nat.lt_trans port.toNat_lt (by decide))).1

theorem inetNtoa_length (addr : InAddr) : (inetNtoa addr).length ≤ 15 := by
  have h0 := dec_octet_length addr.byte1
  have h1 := dec_octet_length addr.byte2
  have h2 := dec_octet_length addr.byte3
  have h3 := dec_octet_length addr.byte4
  simp only [inetNtoa, List.length_append, List.length_cons]
  omega

theorem inetNtoa_ne_nil (addr : InAddr) : inetNtoa addr ≠ [] := by
  simp [inetNtoa]

theorem inetNtoa_no_zero (addr : InAddr) : 0 ∉ inetNtoa addr := fun h => by
  cases inetNtoa_isHostByte addr 0 h

/-- A part of a URL: no white space, and no zero. -/
def UrlBytes (s : Octets) : Prop := ∀ b ∈ s, isSpace b = false ∧ b ≠ 0

theorem urlBytes_of_any {s : Octets} (hspace : s.any isSpace = false) (hzero : 0 ∉ s) :
    UrlBytes s := fun b hb => ⟨no_space_of_any hspace b hb, fun heq => hzero (heq ▸ hb)⟩

theorem UrlBytes.append {s t : Octets} (hs : UrlBytes s) (ht : UrlBytes t) : UrlBytes (s ++ t) :=
  fun b hb => (List.mem_append.mp hb).elim (hs b) (ht b)

theorem UrlBytes.cons {b : UInt8} {s : Octets} (hb : isSpace b = false ∧ b ≠ 0) (hs : UrlBytes s) :
    UrlBytes (b :: s) := fun c hc => (List.mem_cons.mp hc).elim (fun heq => heq ▸ hb) (hs c)

theorem urlBytes_host {s : Octets} (h : ∀ b ∈ s, isHostByte b = true) : UrlBytes s := fun b hb =>
  ⟨isHostByte_not_space (h b hb), isHostByte_ne (h b hb) (by decide)⟩

theorem urlBytes_dec (n : Nat) : UrlBytes (dec n) :=
  urlBytes_host fun _ hb => isHostByte_of_digit (dec_isDigit hb)

theorem urlBytes_urlText (addr : InAddr) (port : UInt16) {suffix : Octets}
    (h : UrlBytes suffix) : UrlBytes (urlText (inetNtoa addr) port suffix) := by
  have hscheme : UrlBytes (ascii "rtsp://") := urlBytes_of_any (by decide) (by decide)
  exact hscheme.append ((urlBytes_host (inetNtoa_isHostByte addr)).append
    (.cons (by decide) ((urlBytes_dec _).append (.cons (by decide) h))))

theorem urlText_length (addr : InAddr) (port : UInt16) (suffix : Octets) :
    (urlText (inetNtoa addr) port suffix).length ≤ 29 + suffix.length := by
  have hip := inetNtoa_length addr
  have hport := dec_port_length port
  have hscheme : (ascii "rtsp://").length = 7 := by decide
  simp only [urlText, List.length_append, List.length_cons, hscheme]
  omega

/-- Nothing is cut off from the URL of a short name. -/
theorem getUrl_eq (addr : InAddr) (port : UInt16) {name : Octets} (hname : UrlBytes (cstr name))
    (hlen : name.length ≤ 40) :
    Server.getUrl (inetNtoa addr) port name = urlText (inetNtoa addr) port (cstr name) := by
  have hcut : (cstr name).length ≤ name.length := (List.takeWhile_prefix _).length_le
  have hurl := urlText_length addr port (cstr name)
  rw [Server.getUrl, cstr_eq_self (inetNtoa_no_zero addr), List.take_of_length_le (by omega)]
  exact cstr_eq_self fun h => (urlBytes_urlText addr port hname 0 h).2 rfl

/-! ## What is parsed -/

namespace Request

theorem urlText_hostPort (addr : InAddr) (port : UInt16) {suffix : Octets} (hne : suffix ≠ []) :
    HostPort (inetNtoa addr) (dec port.toNat) suffix
      (inetNtoa addr ++ 58 :: (dec port.toNat ++ 47 :: suffix)) := by
  have hhost : 58 ∉ inetNtoa addr := fun h =>
    isHostByte_ne (inetNtoa_isHostByte addr 58 h) (by decide) rfl
  exact ⟨rfl, inetNtoa_ne_nil addr, hhost, .plain (digits_dec _), hne⟩

theorem parseUrl_urlText (addr : InAddr) (port : UInt16) {suffix : Octets}
    (hne : suffix ≠ []) (hlen : suffix.length < 64) (hbytes : UrlBytes suffix) :
    parseUrl (urlText (inetNtoa addr) port suffix) = .ok (some suffix) := by
  have hport := urlText_hostPort addr port hne
  have htext := urlBytes_urlText addr port hbytes
  have hip : (front 58 (inetNtoa addr ++ 58 :: (dec port.toNat ++ 47 :: suffix))).length < 64 := by
    rw [hport.front_eq]
    exact Nat.lt_of_le_of_lt (inetNtoa_length addr) (by decide)
  rw [urlText, parseUrl_hostPort hport (fun b hb => (htext b (List.mem_append_right _ hb)).1) hip,
    if_pos hlen]

/-- **`ParseRequest1` takes a printed URL apart.** -/
theorem parseRequest1_urlText (r : Request) {word : Octets} (method : Method)
    (hmethod : methodOf word = some method) (addr : InAddr) (port : UInt16) {suffix : Octets}
    (hne : suffix ≠ []) (hlen : suffix.length < 64) (hbytes : UrlBytes suffix) :
    r.parseRequest1 (requestLine word (urlText (inetNtoa addr) port suffix)) =
      .ok (true, { r with method := method, url := urlText (inetNtoa addr) port suffix,
                          suffix := suffix }) := by
  have hurl := urlBytes_urlText addr port hbytes
  have hurlLen := urlText_length addr port suffix
  have htoken : Token 512 (urlText (inetNtoa addr) port suffix) :=
    ⟨by simp [urlText], fun b hb => (hurl b hb).1, by omega⟩
  have hversion : Token 64 (ascii "RTSP/1.0") := token_of_any (by decide) (by decide) (by decide)
  have hscheme : (ascii "rtsp://").isPrefixOf (urlText (inetNtoa addr) port suffix) = true :=
    List.isPrefixOf_iff_prefix.mpr (List.prefix_append _ _)
  have hline := parseRequest1_whole r hmethod htoken hversion (fun h => (hurl 0 h).2 rfl)
    (by decide)
  rw [if_pos hscheme, parseUrl_urlText addr port hne hlen hbytes] at hline
  exact hline

/-- The number of the track stands behind the last slash, so it is found; the other
one is found only in the name. -/
theorem contains_track0 (addr : InAddr) (port : UInt16) (name : Octets) (track : TrackId) :
    contains (ascii "track0") (trackUrl (urlText (inetNtoa addr) port name) track) = true ↔
      track = 0 ∨ contains (ascii "track0") name = true := by
  have hne : ascii "track0" ≠ [] := by decide
  rw [contains_iff hne, contains_iff hne]
  have hshape : trackUrl (urlText (inetNtoa addr) port name) track =
      (ascii "rtsp://" ++ inetNtoa addr ++ 58 :: dec port.toNat) ++
        47 :: (name ++ 47 :: (ascii "track" ++ dec track)) := by
    simp [trackUrl, urlText, ascii]
  rw [hshape]
  constructor
  · intro hin
    rcases infix_of_separator (by decide) hin with hhost | hrest
    · -- there is no letter k in front of the name
      have hk : (107 : UInt8) ∈ ascii "rtsp://" ++ inetNtoa addr ++ 58 :: dec port.toNat :=
        hhost.subset (by decide)
      simp only [List.mem_append, List.mem_cons] at hk
      rcases hk with (h | h) | h | h
      · exact absurd h (by decide)
      · exact absurd rfl (isHostByte_ne (inetNtoa_isHostByte addr _ h) (by decide))
      · cases h
      · exact absurd (dec_isDigit h) (by decide)
    · rcases infix_of_separator (by decide) hrest with hname | htrack
      · exact Or.inr hname
      · rcases trackId_cases track with rfl | rfl
        · exact Or.inl rfl
        · exact absurd htrack (by decide)
  · rintro (rfl | hname)
    · have htrack : ascii "track" ++ dec (0 : TrackId) = ascii "track0" := by decide
      rw [htrack]
      exact List.IsSuffix.isInfix ⟨(ascii "rtsp://" ++ inetNtoa addr ++ 58 :: dec port.toNat) ++
        47 :: (name ++ [47]), by simp⟩
    · exact hname.trans ((List.prefix_append _ _).isInfix.trans ((List.suffix_cons _ _).isInfix.trans
        (List.suffix_append _ _).isInfix))

theorem sessionNameOf_some {suffix key : Octets}
    (h : RtspConnection.sessionNameOf suffix = .ok (some key)) :
    key = suffix.takeWhile fun b => decide (b ≠ 47) := by
  unfold RtspConnection.sessionNameOf at h
  rw [sscanf_until_eq] at h
  by_cases hempty : (suffix.takeWhile fun b => decide (b ≠ 47)) = []
  · rw [if_pos hempty] at h
    cases h
  · rw [if_neg hempty] at h
    by_cases hsize : 100 ≤ (suffix.takeWhile fun b => decide (b ≠ 47)).length
    · rw [if_pos hsize] at h
      cases h
    · rw [if_neg hsize] at h
      cases hrest : sscanf [.char 47] (suffix.dropWhile fun b => decide (b ≠ 47)) with
      | none =>
        rw [hrest] at h
        cases h
      | some fields =>
        rw [hrest] at h
        cases fields with
        | nil =>
          cases h
          rfl
        | cons => cases h

theorem sessionNameOf_cut {name after : Octets} (hne : name ≠ []) (hlen : name.length < 100)
    (hslash : 47 ∉ name) :
    RtspConnection.sessionNameOf (name ++ 47 :: after) = .ok (some name) := by
  rw [RtspConnection.sessionNameOf, sscanf_until hne hlen hslash fun b hb => by cases hb; rfl,
    sscanf_char]
  rfl

/-- What stands behind the host in the URL of a track. -/
def trackSuffix (name : Octets) (track : TrackId) : Octets :=
  name ++ 47 :: (ascii "track" ++ dec track)

theorem trackUrl_urlText (ip : Octets) (port : UInt16) (name : Octets) (track : TrackId) :
    trackUrl (urlText ip port name) track = urlText ip port (trackSuffix name track) := by
  simp [trackUrl, urlText, trackSuffix, ascii]

section Targets

variable {addr : InAddr} {port : UInt16} {name : Octets} {track : TrackId} {m : Media}

theorem trackSuffix_length (name : Octets) (track : TrackId) :
    (trackSuffix name track).length = name.length + 7 := by
  have htrack : (ascii "track" ++ dec track).length = 6 := by
    rcases trackId_cases track with rfl | rfl <;> decide
  rw [trackSuffix, List.length_append, List.length_cons, htrack]

theorem urlBytes_trackSuffix (h : UrlBytes name) : UrlBytes (trackSuffix name track) := by
  have hword : UrlBytes (ascii "track") := urlBytes_of_any (by decide) (by decide)
  exact h.append (.cons (by decide) (hword.append (urlBytes_dec _)))

theorem describeTarget_urlText (r : Request) (hne : name ≠ []) (hlen : name.length ≤ 40)
    (hbytes : UrlBytes name) :
    r.describeTarget m (urlText (inetNtoa addr) port name) =
      (m.sessions.lookup name).map (name, ·) := by
  rw [describeTarget,
    parseRequest1_urlText r .describe (by decide) addr port hne (by omega) hbytes]

/-- SETUP looks up what stands in front of the first slash. -/
theorem setupTarget_urlText (r : Request) (hlen : name.length ≤ 40) (hbytes : UrlBytes name)
    {found : Octets × MediaSession × TrackId} :
    r.setupTarget m (trackUrl (urlText (inetNtoa addr) port name) track) = some found ↔
      RtspConnection.sessionNameOf (trackSuffix name track) = .ok (some found.1) ∧
        m.sessions.lookup found.1 = some found.2.1 ∧
        found.2.2 = if track = 0 ∨ contains (ascii "track0") name = true then 0 else 1 := by
  have hlength := trackSuffix_length name track
  have hne : trackSuffix name track ≠ [] := by
    intro h
    rw [h] at hlength
    cases hlength
  have htrack1 : track ≠ 0 → contains (ascii "track1")
      (urlText (inetNtoa addr) port (trackSuffix name track)) = true := by
    intro hnonzero
    have hone : track = 1 := (trackId_cases track).resolve_left hnonzero
    have hend : ascii "track" ++ dec (1 : TrackId) = ascii "track1" := by decide
    rw [contains_iff (by decide), hone, trackSuffix, hend]
    exact List.IsSuffix.isInfix ⟨ascii "rtsp://" ++ (inetNtoa addr ++ 58 :: (dec port.toNat ++
      47 :: (name ++ [47]))), by simp [urlText]⟩
  have htrack0 := contains_track0 addr port name track
  rw [trackUrl_urlText] at htrack0
  rw [setupTarget, trackUrl_urlText, parseRequest1_urlText r .setup (by decide) addr port hne
    (by omega) (urlBytes_trackSuffix hbytes)]
  dsimp only
  have hmedia : ∀ r' : Request, r'.url = urlText (inetNtoa addr) port (trackSuffix name track) →
      r'.parseMediaTrack = (true, { r' with
        trackId := some (if track = 0 ∨ contains (ascii "track0") name = true then 0 else 1) }) := by
    intro r' hurl
    rw [parseMediaTrack, hurl]
    by_cases hzero : track = 0 ∨ contains (ascii "track0") name = true
    · rw [if_pos (htrack0.mpr hzero), if_pos hzero]
    · rw [if_neg fun h => hzero (htrack0.mp h), if_pos (htrack1 fun h => hzero (Or.inl h)),
        if_neg hzero]
  rw [hmedia _ rfl]
  dsimp only
  obtain ⟨key, session, selected⟩ := found
  cases hname : RtspConnection.sessionNameOf (trackSuffix name track) with
  | error e => simp
  | ok cut =>
    cases cut with
    | none => simp
    | some key' =>
      simp only [Option.map_eq_some_iff, Prod.mk.injEq, Except.ok.injEq, Option.some.injEq]
      constructor
      · rintro ⟨session', hlookup, rfl, rfl, rfl⟩
        exact ⟨rfl, hlookup, rfl⟩
      · rintro ⟨rfl, hlookup, rfl⟩
        exact ⟨session, hlookup, rfl, rfl, rfl⟩

end Targets

end Request

/-- **The URL of a session finds it again exactly when** its name has no zero and no
slash in it, nor the text `track0` where the second track is asked for. -/
theorem url_round_trip_iff (r : Request) (m : Media) (addr : InAddr) (port : UInt16)
    (name : Octets) (session : MediaSession) (track : TrackId)
    (hregistered : m.sessions.lookup name = some session) (hne : name ≠ [])
    (hlen : name.length ≤ 40) (hspace : ∀ b ∈ name, isSpace b = false) :
    UrlRoundTrip r m (inetNtoa addr) port name session track ↔
      0 ∉ name ∧ 47 ∉ name ∧ (track = 1 → contains (ascii "track0") name = false) := by
  have hcut : UrlBytes (cstr name) := fun b hb =>
    ⟨hspace b (mem_of_mem_cstr hb), fun heq => zero_not_mem_cstr name (heq ▸ hb)⟩
  have hcutLen : (cstr name).length ≤ 40 :=
    Nat.le_trans (List.takeWhile_prefix _).length_le hlen
  have hurl := getUrl_eq addr port hcut hlen
  constructor
  · intro h
    have hsetup := h.setup
    rw [hurl, Request.setupTarget_urlText r hcutLen hcut] at hsetup
    obtain ⟨hname, -, htrack⟩ := hsetup
    have hkey : name = _ := Request.sessionNameOf_some hname
    have hzero : 0 ∉ name := by
      intro hmem
      rw [hkey] at hmem
      exact (Request.urlBytes_trackSuffix hcut 0 ((List.takeWhile_prefix _).subset hmem)).2 rfl
    refine ⟨hzero, fun hmem => ?_, fun hone => ?_⟩
    · rw [hkey] at hmem
      exact absurd (List.mem_takeWhile_imp hmem) (by decide)
    · rw [cstr_eq_self hzero] at htrack
      rw [← Bool.not_eq_true]
      intro hcontains
      rw [if_pos (Or.inr hcontains)] at htrack
      exact absurd (htrack.symm.trans hone) (by decide)
  · rintro ⟨hzero, hslash, htrack⟩
    rw [cstr_eq_self hzero] at hurl hcut
    refine ⟨?_, ?_⟩
    · rw [hurl, Request.describeTarget_urlText r hne hlen hcut, hregistered]
      rfl
    · rw [hurl, Request.setupTarget_urlText r hlen hcut]
      refine ⟨Request.sessionNameOf_cut hne (by omega) hslash, hregistered, ?_⟩
      rcases trackId_cases track with rfl | rfl
      · rw [if_pos (Or.inl rfl)]
      · rw [if_neg]
        rintro (h | h)
        · cases h
        · rw [htrack rfl] at h
          cases h

/-! ## Whole requests -/

namespace Connection

variable {c : Connection} {bytes rest : Octets} {request : Request}

/-- A request line that has arrived is the one that is parsed. -/
theorem nextRequest_line {line : Octets} (hline : 10 ∉ line)
    (harrived : c.inputBuffer ++ bytes = line ++ (crlf ++ rest))
    (h : c.nextRequest bytes = some request) :
    ∃ first block, c.rtsp.request.parseRequest1 line = .ok (true, first) ∧
      first.parseRequest2 block = (true, request) := by
  obtain ⟨line', block, first, htaken⟩ := nextRequest_taken h
  obtain ⟨rest', hsplit, -⟩ := htaken.ended
  rw [harrived, Request.kCrlf_eq, splitFirst_line hline] at hsplit
  cases hsplit
  exact ⟨first, block, htaken.parsed, htaken.accepted⟩

/-- `describeTarget` is what a DESCRIBE looks up, whatever headers follow. -/
theorem nextRequest_describe {url : Octets} (hline : 10 ∉ requestLine (ascii "DESCRIBE") url)
    (harrived : c.inputBuffer ++ bytes = requestLine (ascii "DESCRIBE") url ++ (crlf ++ rest))
    (h : c.nextRequest bytes = some request) (m : Media) :
    c.rtsp.request.describeTarget m url =
      (m.sessions.lookup request.suffix).map (request.suffix, ·) := by
  obtain ⟨first, block, hparsed, haccepted⟩ := nextRequest_line hline harrived h
  rw [Request.describeTarget, hparsed, (Request.parseRequest2_line haccepted).2.2]

/-- `setupTarget` is what a SETUP looks up, and the track it fills. -/
theorem nextRequest_setup {url : Octets} (hline : 10 ∉ requestLine (ascii "SETUP") url)
    (harrived : c.inputBuffer ++ bytes = requestLine (ascii "SETUP") url ++ (crlf ++ rest))
    (h : c.nextRequest bytes = some request) (hsetup : request.method = .setup) (m : Media) :
    c.rtsp.request.setupTarget m url =
      match request.trackId, RtspConnection.sessionNameOf request.suffix with
      | some track, .ok (some key) => (m.sessions.lookup key).map (key, ·, track)
      | _, _ => none := by
  obtain ⟨first, block, hparsed, haccepted⟩ := nextRequest_line hline harrived h
  obtain ⟨hmethod, -, hsuffix⟩ := Request.parseRequest2_line haccepted
  obtain ⟨cseq, r', track, -, htrack, rfl⟩ :=
    Request.parseRequest2_setup (hmethod.symm.trans hsetup) haccepted
  rw [Request.setupTarget, hparsed]
  dsimp only
  rw [Request.parseMediaTrack_eq, htrack]
  dsimp only
  rw [← hsuffix]

end Connection

/-! ## Two names -/

/-- One registered session. -/
def oneSession (name : Octets) : Media := ({} : Media).addMediaSession name

theorem oneSession_lookup (name : Octets) :
    (oneSession name).sessions.lookup name = some { sessionName := name } := by
  have hnew : name ∉ ({} : Media).sessions := AList.notMem_empty name
  rw [oneSession, Media.addMediaSession, if_neg hnew]
  exact AList.lookup_insert _

def sampleAddr : InAddr := ⟨10, 0, 0, 1⟩

/-- The track that SETUP selects, and the name it looks up. -/
def setupSelects (m : Media) (name : Octets) (track : TrackId) : Option (Octets × TrackId) :=
  (blankRequest.setupTarget m (trackUrl (Server.getUrl (inetNtoa sampleAddr) 8554 name) track)).map
    fun found => (found.1, found.2.2)

theorem url_round_trip_iff_sample :
    UrlRoundTrip blankRequest (oneSession (ascii "a:track1")) (inetNtoa sampleAddr) 8554
      (ascii "a:track1") { sessionName := ascii "a:track1" } 1 :=
  (url_round_trip_iff blankRequest (oneSession (ascii "a:track1")) sampleAddr 8554
    (ascii "a:track1") { sessionName := ascii "a:track1" } 1 (oneSession_lookup _) (by decide)
    (by decide) (no_space_of_any (by decide))).mpr ⟨by decide, by decide, fun _ => by decide⟩

/-- **A slash in the name is cut at, and `track0` in the name is taken for the track.** -/
theorem url_round_trip_fails :
    (∀ name ∈ [ascii "cam/1", ascii "track0cam"],
      (oneSession name).sessions.lookup name = some { sessionName := name } ∧ name ≠ [] ∧
        name.length ≤ 40 ∧ ∀ b ∈ name, isSpace b = false) ∧
    ¬ UrlRoundTrip blankRequest (oneSession (ascii "cam/1")) (inetNtoa sampleAddr) 8554
      (ascii "cam/1") { sessionName := ascii "cam/1" } 0 ∧
    ¬ UrlRoundTrip blankRequest (oneSession (ascii "track0cam")) (inetNtoa sampleAddr) 8554
      (ascii "track0cam") { sessionName := ascii "track0cam" } 1 := by
  have hselects : ∀ {name session track}, UrlRoundTrip blankRequest (oneSession name)
      (inetNtoa sampleAddr) 8554 name session track →
      setupSelects (oneSession name) name track = some (name, track) := by
    intro name session track h
    rw [setupSelects, h.setup]
    rfl
  refine ⟨fun name hname => ⟨oneSession_lookup name, ?_⟩, fun h => ?_, fun h => ?_⟩
  · simp only [List.mem_cons, List.not_mem_nil, or_false] at hname
    rcases hname with rfl | rfl
    · exact ⟨by decide, by decide, no_space_of_any (by decide)⟩
    · exact ⟨by decide, by decide, no_space_of_any (by decide)⟩
  · exact absurd (hselects h) (by decide +kernel)
  · exact absurd (hselects h) (by decide +kernel)

end MyRtspServer.Net
