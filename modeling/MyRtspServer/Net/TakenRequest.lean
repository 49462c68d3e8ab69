import MyRtspServer.Net.ServerSteps

/-!
# What the parser has taken

A request that reaches its handler has passed `ParseRequest1` with its request
line and `ParseRequest2` with the block behind it. Only `ParseTransport` writes
the members about the transport, and only `ParseMediaTrack` the track.
-/
namespace MyRtspServer.Net

open Library Library.Octets Library.Scan

namespace Request

/-- The parser has taken `request` from the buffer: the request line and the block
of headers, and the members after each of them. -/
structure Taken (r : Request) (buffer : Octets) (request : Request) (line block : Octets)
    (first : Request) : Prop where
  ended : ∃ rest, splitFirst kCrlf buffer = some (line, rest) ∧
    ∃ last, splitLast kCrlf (rest.drop 2) = some (block, last)
  parsed : r.parseRequest1 line = .ok (true, first)
  accepted : first.parseRequest2 block = (true, request)

theorem parseRequest_taken {r request : Request} {buffer left : Octets}
    (h : r.parseRequest buffer = .ok (true, request, left)) :
    ∃ line block first, Taken r buffer request line block first := by
  unfold parseRequest at h
  split at h
  · cases h
  rename_i line rest hline
  split at h
  · cases h
  · cases h
  rename_i first hfirst
  split at h
  · cases h
  rename_i block last hblock
  split at h
  · cases h
  rename_i request' hsecond
  cases h
  exact ⟨line, block, first, ⟨rest, hline, last, hblock⟩, hfirst, hsecond⟩

/-- The request line says the method, the URL and the suffix, and nothing else. -/
theorem parseRequest1_taken {r first : Request} {line : Octets}
    (h : r.parseRequest1 line = .ok (true, first)) :
    ∃ method url suffix, first = { r with method := method, url := url, suffix := suffix } := by
  unfold parseRequest1 at h
  split at h
  · cases h
  · split at h
    · cases h
    · dsimp only at h
      split at h
      · split at h
        · cases h
        · cases h
        · cases h
          exact ⟨_, _, _, rfl⟩
      · cases h
  · cases h

theorem parseCSeq_taken {r r' : Request} {block : Octets} (h : r.parseCSeq block = (true, r')) :
    ∃ cseq, r' = { r with cseq := cseq } := by
  unfold parseCSeq at h
  split at h <;> cases h
  exact ⟨_, rfl⟩

/-- What `ParseTransport` has found, if it accepts the block. -/
inductive TransportTaken (r : Request) (block : Octets) : Request → Prop
  | interleaved (before transport a b)
      (found : splitFirst (ascii "RTP/AVP/TCP") block = some (before, transport))
      (scanned : sscanf (transportFormat 8) (cstr transport) = some [.number a, .number b]) :
      TransportTaken r block { r with isRtpOverTcp := true, rtpChannel := UInt8.ofNat a }
  | unicast (before transport a b) (udp : splitFirst (ascii "RTP/AVP/TCP") block = none)
      (found : splitFirst (ascii "RTP/AVP") block = some (before, transport))
      (unicast : contains (ascii "unicast") transport = true)
      (scanned : sscanf (transportFormat 16) (cstr transport) = some [.number a, .number b]) :
      TransportTaken r block
        { r with peerRtpPort := UInt16.ofNat a, peerRtcpPort := UInt16.ofNat b }
  | multicast (before transport) (udp : splitFirst (ascii "RTP/AVP/TCP") block = none)
      (found : splitFirst (ascii "RTP/AVP") block = some (before, transport))
      (no : contains (ascii "unicast") transport = false)
      (multicast : contains (ascii "multicast") transport = true) : TransportTaken r block r

/-- Two numbers with a hyphen between them. -/
theorem sscanf_pair {bits : Nat} {s : Octets} {fields : List Field}
    (h : sscanf [.unsigned bits, .char 45, .unsigned bits] s = some fields) :
    fields.length ≤ 1 ∨ ∃ a b, fields = [.number a, .number b] ∧ a < 2 ^ bits ∧ b < 2 ^ bits := by
  cases hfirst : scanUnsigned bits s with
  | none =>
    rw [sscanf_unsigned_none hfirst] at h
    cases h
    exact Or.inl (Nat.zero_le _)
  | some p =>
    rw [sscanf_unsigned_some hfirst] at h
    obtain ⟨later, hlater, rfl⟩ := Option.map_eq_some_iff.mp h
    rcases sscanf_char_some hlater with rfl | ⟨more, -, hmore⟩
    · exact Or.inl (Nat.le_refl _)
    cases hsecond : scanUnsigned bits more with
    | none =>
      rw [sscanf_unsigned_none hsecond] at hmore
      cases hmore
      exact Or.inl (Nat.le_refl _)
    | some q =>
      rw [sscanf_unsigned_some hsecond] at hmore
      cases hmore
      exact Or.inr ⟨p.1, q.1, rfl, scanUnsigned_lt hfirst, scanUnsigned_lt hsecond⟩

/-- What a format skips assigns nothing. -/
theorem sscanf_skipTo {stop : UInt8} {format : List Directive} {s : Octets} {fields : List Field}
    (h : sscanf (.skipUntil stop :: .char stop :: format) s = some fields) :
    fields = [] ∨ ∃ rest, sscanf format rest = some fields := by
  rw [sscanf_skipUntil_eq] at h
  split at h
  · cases h
    exact Or.inl rfl
  rcases sscanf_char_some h with hnil | ⟨rest, -, hrest⟩
  · exact Or.inl hnil
  · exact Or.inr ⟨rest, hrest⟩

/-- A transport format assigns two numbers at most. -/
theorem sscanf_transport {bits : Nat} {s : Octets} {fields : List Field}
    (h : sscanf (transportFormat bits) s = some fields) :
    fields.length ≤ 1 ∨ ∃ a b, fields = [.number a, .number b] ∧ a < 2 ^ bits ∧ b < 2 ^ bits := by
  rcases sscanf_skipTo h with hnil | ⟨rest, hrest⟩
  · exact Or.inl (hnil ▸ Nat.zero_le _)
  rcases sscanf_skipTo hrest with hnil | ⟨numbers, hnumbers⟩
  · exact Or.inl (hnil ▸ Nat.zero_le _)
  · exact sscanf_pair hnumbers

/-- The numbers are cut to the size of the members they go to. -/
theorem sscanf_transport_lt {bits a b : Nat} {s : Octets}
    (h : sscanf (transportFormat bits) s = some [.number a, .number b]) :
    a < 2 ^ bits ∧ b < 2 ^ bits := by
  rcases sscanf_transport h with hshort | ⟨a', b', heq, ha, hb⟩
  · simp only [List.length_cons, List.length_nil] at hshort
    omega
  · cases heq
    exact ⟨ha, hb⟩

theorem parseTransport_taken {r r' : Request} {block : Octets}
    (h : r.parseTransport block = (true, r')) : TransportTaken r block r' := by
  unfold parseTransport at h
  split at h
  · split at h
    · rename_i before transport hfound
      unfold parseInterleaved at h
      dsimp only at h
      split at h
      · rename_i a rest hscan
        rw [Prod.mk.injEq, decide_eq_true_eq] at h
        obtain ⟨hrest, rfl⟩ := h
        rcases sscanf_transport hscan with hshort | ⟨a', b, heq, -, -⟩
        · rw [List.length_cons, hrest] at hshort
          exact absurd hshort (by decide)
        · cases heq
          exact .interleaved before transport a b hfound hscan
      · cases h
    · rename_i hudp
      split at h
      · rename_i before transport hfound
        unfold parseUdp at h
        split at h
        · rename_i hunicast
          split at h <;> cases h
          exact .unicast before transport _ _ hudp hfound hunicast ‹_›
        · rename_i hunicast
          rw [Prod.mk.injEq] at h
          obtain ⟨hmulticast, rfl⟩ := h
          exact .multicast before transport hudp hfound (Bool.eq_false_of_not_eq_true hunicast)
            hmulticast
      · cases h
  · cases h

/-- The track is found in the URL. -/
def trackOfUrl (url : Octets) : Option TrackId :=
  if contains (ascii "track0") url then some 0
  else if contains (ascii "track1") url then some 1 else none

theorem parseMediaTrack_eq (r : Request) :
    r.parseMediaTrack = match trackOfUrl r.url with
      | some track => (true, { r with trackId := some track })
      | none => (false, r) := by
  unfold parseMediaTrack trackOfUrl
  split
  · rfl
  · split <;> rfl

/-- What a SETUP that was taken has gone through. -/
theorem parseRequest2_setup {r request : Request} {block : Octets} (hsetup : r.method = .setup)
    (h : r.parseRequest2 block = (true, request)) :
    ∃ cseq r' track, TransportTaken { r with cseq := cseq } block r' ∧
      trackOfUrl r.url = some track ∧ request = { r' with trackId := some track } := by
  unfold parseRequest2 at h
  split at h
  · cases h
  rename_i r1 hcseq
  obtain ⟨cseq, rfl⟩ := parseCSeq_taken hcseq
  have hmethod : ∀ {other : Method}, other ≠ .setup → r.method ≠ other := fun hne heq =>
    hne (heq.symm.trans hsetup)
  dsimp only at h
  split at h
  · exact absurd ‹_› (hmethod (by decide))
  · exact absurd ‹_› (hmethod (by decide))
  · split at h
    · cases h
    rename_i r2 htransport
    have htaken := parseTransport_taken htransport
    have hurl : r2.url = r.url := by cases htaken <;> rfl
    rw [parseMediaTrack_eq, hurl] at h
    split at h
    · rename_i track htrack
      cases h
      exact ⟨cseq, r2, track, htaken, htrack, by rw [← hurl]⟩
    · cases h
  all_goals exact absurd ‹_› (hmethod (by decide))

/-- The members that only the request line sets. -/
theorem parseRequest2_line {r request : Request} {block : Octets}
    (h : r.parseRequest2 block = (true, request)) :
    request.method = r.method ∧ request.url = r.url ∧ request.suffix = r.suffix := by
  by_cases hsetup : r.method = .setup
  · obtain ⟨cseq, r', track, htaken, -, rfl⟩ := parseRequest2_setup hsetup h
    cases htaken <;> exact ⟨rfl, rfl, rfl⟩
  · unfold parseRequest2 at h
    split at h
    · cases h
    rename_i r1 hcseq
    obtain ⟨cseq, rfl⟩ := parseCSeq_taken hcseq
    dsimp only at h
    split at h
    all_goals first
      | exact absurd ‹r.method = .setup› hsetup
      | obtain ⟨-, rfl⟩ := Prod.mk.inj h
        exact ⟨rfl, rfl, rfl⟩

end Request

theorem Connection.nextRequest_taken {c : Connection} {bytes : Octets} {request : Request}
    (h : c.nextRequest bytes = some request) :
    ∃ line block first,
      Request.Taken c.rtsp.request (c.inputBuffer ++ bytes) request line block first := by
  unfold nextRequest at h
  split at h
  · cases h
  · split at h
    · cases h
      exact Request.parseRequest_taken ‹_›
    · cases h

end MyRtspServer.Net
