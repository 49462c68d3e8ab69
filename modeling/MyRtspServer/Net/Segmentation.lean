import MyRtspServer.Net.Handlers
import MyRtspServer.Net.RequestLines
import MyRtspServer.Net.RtspServer

/-!
# Reads and requests

`ParseRequest` ends the header block at the last CRLF that has arrived and throws
the buffer away when there is no complete request in it. So the reads of a
connection and its requests have to agree: each read must complete exactly one
request, and bring no more of the next one than the beginning of its first line.
-/
namespace MyRtspServer.Net

open Library Library.Octets Library.Lines Library.Transition

/-! ## Reading -/

namespace Connection

/-- `HandleReadBytes` of a buffer of lines, in which `carry` is left. -/
def handleLines (w : World) (m : Media) (c : RtspConnection) (l : Octets) (lines : List Octets)
    (carry : Octets) : Except Fault ReadResult :=
  match c.request.parseLines l lines with
  | .error e => .error e
  | .ok (false, request) =>
    .ok ⟨false, m, ⟨{ c with request := request }, []⟩, [.disconnected c.sockFd]⟩
  | .ok (true, request) =>
    match RtspConnection.handleCmd w m { c with request := request } with
    | .error e => .error e
    | .ok r =>
      .ok ⟨r.ok, r.media, ⟨r.conn, carry⟩,
        .dispatched c.sockFd request :: (r.effects ++
          [if r.ok then .accepted c.sockFd request else .disconnected c.sockFd])⟩

variable {w : World} {m : Media} {c : RtspConnection}

theorem not_interleaved (hmode : c.request.isRtpOverTcp = false) (buffer : Octets) :
    ¬ (c.request.isRtpOverTcp = true ∧ buffer.head? = some 36) := by
  rw [hmode]
  exact fun hand => Bool.false_ne_true hand.1

theorem handleRead_lines {carry chunk l carry' : Octets} {lines : List Octets}
    (hmode : ¬ (c.request.isRtpOverTcp = true ∧ (carry ++ chunk).head? = some 36)) (hl : 10 ∉ l)
    (hcarry : ¬ crlf <:+: carry') (h : carry ++ chunk = encodeLines (l :: lines) ++ carry') :
    handleRead w m ⟨c, carry⟩ chunk = handleLines w m c l lines carry' := by
  rw [handleRead, handleReadBytes]
  dsimp only
  rw [if_neg hmode, h, Request.parseRequest_lines _ hl hcarry, handleLines]
  cases c.request.parseLines l lines with
  | error e => rfl
  | ok p =>
    obtain ⟨ok, request⟩ := p
    cases ok with
    | false => rfl
    | true => rfl

/-- A read that brings no line end is the last one. -/
theorem handleRead_none {carry chunk : Octets} (hmode : c.request.isRtpOverTcp = false)
    (h : 10 ∉ carry ++ chunk) :
    handleRead w m ⟨c, carry⟩ chunk = .ok ⟨false, m, ⟨c, []⟩, [.disconnected c.sockFd]⟩ := by
  rw [handleRead, handleReadBytes]
  dsimp only
  rw [if_neg (not_interleaved hmode _), Request.parseRequest_none _ h]

/-- What the connection does with what is read, until it is given up; a read of
nothing is the end of the stream. -/
def runReads : (Nat → World) → Media → Connection → List Octets → Except Fault (List Effect)
  | _, _, _, [] => .ok []
  | worlds, m, c, chunk :: chunks =>
    if chunk = [] then .ok [.disconnected c.rtsp.sockFd]
    else
      match c.handleRead (worlds 0) m chunk with
      | .error e => .error e
      | .ok r =>
        if r.ok then
          match runReads (fun i => worlds (i + 1)) r.media r.conn chunks with
          | .error e => .error e
          | .ok effects => .ok (r.effects ++ effects)
        else .ok r.effects

/-- The reads a stream of requests should arrive in: each completes one request,
and what it brings of the next one ends before that one's first line feed. -/
def Aligned : Octets → List Octets → List RequestText → Prop
  | carry, [], [] => carry = []
  | carry, chunk :: chunks, q :: reqs =>
    ∃ carry', carry ++ chunk = q.bytes ++ carry' ∧ 10 ∉ carry' ∧ Aligned carry' chunks reqs
  | _, _, _ => False

/-- The stream of the requests, line by line. -/
def streamLines (reqs : List RequestText) : List Octets := reqs.flatMap RequestText.lines

theorem streamLines_cons (q : RequestText) (reqs : List RequestText) :
    streamLines (q :: reqs) = q.lines ++ streamLines reqs := List.flatMap_cons

theorem encodeLines_streamLines (reqs : List RequestText) :
    encodeLines (streamLines reqs) = (reqs.map RequestText.bytes).flatten := by
  induction reqs with
  | nil => rfl
  | cons q reqs ih =>
    rw [streamLines_cons, encodeLines_append, ih]
    rfl

theorem streamLines_clean {reqs : List RequestText} (h : ∀ q ∈ reqs, q.WellFormed) :
    ∀ l ∈ streamLines reqs, 10 ∉ l := by
  intro l hl
  obtain ⟨q, hq, hl'⟩ := List.mem_flatMap.mp hl
  exact (h q hq).lines l hl'

/-- No request of the stream asks for interleaved transport. -/
def Plain (lines : List Octets) : Prop := ¬ ascii "RTP/AVP/TCP" <:+: encodeLines lines

theorem Plain.of_append {front back : List Octets} (h : Plain (front ++ back)) :
    Plain front ∧ Plain back := by
  rw [Plain, encodeLines_append] at h
  exact ⟨fun hin => h (hin.trans (List.prefix_append _ _).isInfix),
    fun hin => h (hin.trans (List.suffix_append _ _).isInfix)⟩

/-- A handler that is called leaves the connection in its mode. -/
theorem handled_mode {request : Request} {r : Handled} {l : Octets} {lines : List Octets}
    (hmode : c.request.isRtpOverTcp = false) (hplain : Plain (l :: lines))
    (hparse : c.request.parseLines l lines = .ok (true, request))
    (h : RtspConnection.handleCmd w m { c with request := request } = .ok r) :
    r.conn.request.isRtpOverTcp = false := by
  have hlines : Plain lines := (show Plain ([l] ++ lines) from hplain).of_append.2
  rw [(RtspConnection.handleCmd_keeps h).request]
  exact (Request.parseLines_mode hparse hlines).trans hmode

/-- **Aligned reads are as good as single requests.** -/
theorem runReads_aligned {chunks : List Octets} : ∀ {reqs : List RequestText} {carry : Octets}
    {worlds : Nat → World} {m : Media} {c : RtspConnection}, (∀ q ∈ reqs, q.WellFormed) →
    Plain (streamLines reqs) → c.request.isRtpOverTcp = false →
    (∀ chunk ∈ chunks, chunk ≠ []) → Aligned carry chunks reqs →
    runReads worlds m ⟨c, carry⟩ chunks = runReads worlds m ⟨c, []⟩ (reqs.map RequestText.bytes) := by
  induction chunks with
  | nil =>
    intro reqs carry worlds m c _ _ _ _ h
    cases reqs with
    | nil => rfl
    | cons q reqs => cases h
  | cons chunk chunks ih =>
    intro reqs carry worlds m c hwf hplain hmode hchunks h
    cases reqs with
    | nil => cases h
    | cons q reqs =>
      obtain ⟨carry', heq, hcarry, hrest⟩ := h
      have hq := hwf q List.mem_cons_self
      rw [streamLines_cons] at hplain
      obtain ⟨hplainq, hplainreqs⟩ := hplain.of_append
      have hwhole : ([] : Octets) ++ q.bytes = encodeLines q.lines ++ [] := by
        rw [List.nil_append, List.append_nil, RequestText.bytes]
      rw [List.map_cons, runReads, runReads, if_neg (hchunks chunk List.mem_cons_self),
        if_neg q.bytes_ne_nil,
        handleRead_lines (l := q.line) (not_interleaved hmode _) hq.line (no_crlf hcarry) heq,
        handleRead_lines (l := q.line) (not_interleaved hmode _) hq.line (no_crlf (by simp)) hwhole,
        handleLines, handleLines]
      cases hparse : c.request.parseLines q.line (q.headers ++ [[]]) with
      | error e => rfl
      | ok p =>
        obtain ⟨ok, request⟩ := p
        cases ok with
        | false => rfl
        | true =>
          dsimp only
          cases hhandler : RtspConnection.handleCmd (worlds 0) m { c with request := request } with
          | error e => rfl
          | ok r =>
            dsimp only
            have hmode' := handled_mode hmode hplainq hparse hhandler
            rw [ih (fun q' hq' => hwf q' (List.mem_cons_of_mem _ hq')) hplainreqs hmode'
              (fun chunk' hchunk' => hchunks chunk' (List.mem_cons_of_mem _ hchunk')) hrest]

/-! ## Reads that keep the connection -/

/-- The connection is never given up. -/
def Kept (effects : List Effect) : Prop := ∀ fd, Effect.disconnected fd ∉ effects

def isAccepted : Effect → Bool
  | .accepted _ _ => true
  | _ => false

theorem fromHandler_not_accepted {effects : List Effect}
    (h : ∀ e ∈ effects, RtspConnection.FromHandler c e) : effects.countP isAccepted = 0 := by
  rw [List.countP_eq_zero]
  intro e he hacc
  have hfrom := h e he
  cases e <;> first | exact hfrom | cases hacc

/-- What a read did that kept the connection: it took some whole lines from the
front of the stream, of which the first is a request line, and one request. -/
structure ReadKept (lines : List Octets) (buffer more : Octets) (r : ReadResult) : Prop where
  ok : r.ok = true
  mode : r.conn.rtsp.request.isRtpOverTcp = false
  accepted : r.effects.countP isAccepted = 1
  taken : ∃ l ls back, lines = (l :: ls) ++ back ∧ startsWithMethod l = true ∧
    buffer = encodeLines (l :: ls) ++ r.conn.inputBuffer ∧ 10 ∉ r.conn.inputBuffer ∧
    r.conn.inputBuffer ++ more = encodeLines back

theorem read_kept {carry chunk more : Octets} {lines : List Octets} {r : ReadResult}
    (hlines : ∀ l ∈ lines, 10 ∉ l) (hplain : Plain lines)
    (hmode : c.request.isRtpOverTcp = false)
    (hstream : (carry ++ chunk) ++ more = encodeLines lines)
    (h : handleRead w m ⟨c, carry⟩ chunk = .ok r) (hkept : Kept r.effects) :
    ReadKept lines (carry ++ chunk) more r := by
  obtain ⟨front, back, carry', rfl, hbuffer, hcarry, hmore⟩ := encodeLines_arrived hlines hstream
  cases front with
  | nil =>
    -- no line has arrived whole
    have hnone : 10 ∉ carry ++ chunk := by
      rw [hbuffer]
      exact hcarry
    rw [handleRead_none hmode hnone] at h
    cases h
    exact absurd (List.mem_singleton_self _) (hkept c.sockFd)
  | cons l ls =>
    rw [handleRead_lines (not_interleaved hmode _) (hlines l List.mem_cons_self) (no_crlf hcarry)
      hbuffer, handleLines] at h
    split at h
    · cases h
    · cases h
      exact absurd (List.mem_singleton_self _) (hkept c.sockFd)
    · rename_i request hparse
      split at h
      · cases h
      rename_i handled hhandler
      cases h
      have hok : handled.ok = true := by
        by_contra hno
        refine hkept c.sockFd (List.mem_cons_of_mem _ (List.mem_append_right _ ?_))
        rw [if_neg hno]
        exact List.mem_singleton_self _
      have hmethod : startsWithMethod l = true := by
        unfold Request.parseLines at hparse
        split at hparse
        · cases hparse
        · cases hparse
        · exact startsWithMethod_of_parse ‹_›
      refine ⟨hok, handled_mode hmode hplain.of_append.1 hparse hhandler, ?_,
        l, ls, back, rfl, hmethod, hbuffer, hcarry, hmore⟩
      have hzero := fromHandler_not_accepted (RtspConnection.handleCmd_keeps hhandler).effects
      rw [List.countP_cons_of_neg (by simp [isAccepted]), List.countP_append, hzero, if_pos hok]
      rfl

theorem runReads_cons {worlds : Nat → World} {conn : Connection} {chunk : Octets}
    {chunks : List Octets} {effects : List Effect}
    (h : runReads worlds m conn (chunk :: chunks) = .ok effects) (hkept : Kept effects) :
    ∃ r, conn.handleRead (worlds 0) m chunk = .ok r ∧ Kept r.effects ∧ (r.ok = true →
      ∃ rest, runReads (fun i => worlds (i + 1)) r.media r.conn chunks = .ok rest ∧
        effects = r.effects ++ rest ∧ Kept rest) := by
  rw [runReads] at h
  split at h
  · cases h
    exact absurd (List.mem_singleton_self _) (hkept conn.rtsp.sockFd)
  split at h
  · cases h
  rename_i r hr
  split at h
  · split at h
    · cases h
    rename_i rest hrest
    cases h
    refine ⟨r, hr, fun fd hm => hkept fd (List.mem_append_left _ hm), fun _ =>
      ⟨rest, hrest, rfl, fun fd hm => hkept fd (List.mem_append_right _ hm)⟩⟩
  · rename_i hno
    cases h
    exact ⟨r, hr, hkept, fun hok => absurd hok hno⟩

/-- Each read takes a request line, so there are no more reads than these. -/
theorem runReads_count {chunks : List Octets} : ∀ {lines : List Octets} {carry : Octets}
    {worlds : Nat → World} {m : Media} {c : RtspConnection} {effects : List Effect},
    (∀ l ∈ lines, 10 ∉ l) → Plain lines → c.request.isRtpOverTcp = false →
    carry ++ chunks.flatten = encodeLines lines →
    runReads worlds m ⟨c, carry⟩ chunks = .ok effects → Kept effects →
    chunks.length ≤ lines.countP startsWithMethod ∧
      effects.countP isAccepted = chunks.length := by
  induction chunks with
  | nil =>
    intro lines carry worlds m c effects _ _ _ _ h _
    cases h
    exact ⟨Nat.zero_le _, rfl⟩
  | cons chunk chunks ih =>
    intro lines carry worlds m c effects hlines hplain hmode hstream h hkept
    obtain ⟨r, hr, hrkept, hrest⟩ := runReads_cons h hkept
    rw [List.flatten_cons, ← List.append_assoc] at hstream
    have hread := read_kept hlines hplain hmode hstream hr hrkept
    obtain ⟨l, ls, back, rfl, hmethod, -, -, hmore⟩ := hread.taken
    obtain ⟨rest, hrun, rfl, hrestkept⟩ := hrest hread.ok
    obtain ⟨hle, hcount⟩ := ih (fun k hk => hlines k (List.mem_append_right _ hk))
      hplain.of_append.2 hread.mode hmore hrun hrestkept
    rw [List.countP_append, List.countP_append, hread.accepted, hcount,
      List.countP_cons_of_pos hmethod, List.length_cons]
    exact ⟨by omega, by omega⟩

/-- Behind the request line there is nothing like one. -/
theorem headers_no_method {q : RequestText} (h : q.WellFormed) :
    ∀ k ∈ q.headers ++ [[]], startsWithMethod k = false := by
  intro k hk
  rcases List.mem_append.mp hk with hk | hk
  · exact (h.headers k hk).no_method
  · rw [List.mem_singleton.mp hk]
    exact empty_no_method

theorem headers_count {q : RequestText} (h : q.WellFormed) :
    (q.headers ++ [[]]).countP startsWithMethod = 0 := by
  rw [List.countP_eq_zero]
  intro k hk
  rw [headers_no_method h k hk]
  exact Bool.false_ne_true

theorem streamLines_count {reqs : List RequestText} (h : ∀ q ∈ reqs, q.WellFormed) :
    (streamLines reqs).countP startsWithMethod ≤ reqs.length := by
  induction reqs with
  | nil => exact Nat.le_refl _
  | cons q reqs ih =>
    have hrest := ih fun q' hq' => h q' (List.mem_cons_of_mem _ hq')
    rw [streamLines_cons, List.countP_append, RequestText.lines, List.countP_cons,
      headers_count (h q List.mem_cons_self), List.length_cons]
    split <;> omega

/-- Once a line of the stream is gone, one request line is. -/
theorem streamLines_count_rest {reqs : List RequestText} {gone back : List Octets}
    (h : ∀ q ∈ reqs, q.WellFormed) (hgone : gone ≠ []) (heq : streamLines reqs = gone ++ back) :
    back.countP startsWithMethod + 1 ≤ reqs.length := by
  obtain ⟨first, gone, rfl⟩ := List.exists_cons_of_ne_nil hgone
  cases reqs with
  | nil => cases heq
  | cons q reqs =>
    rw [streamLines_cons, RequestText.lines, List.cons_append, List.cons_append,
      List.cons.injEq] at heq
    have hcount : (gone ++ back).countP startsWithMethod =
        (streamLines reqs).countP startsWithMethod := by
      rw [← heq.2, List.countP_append, headers_count (h q List.mem_cons_self), Nat.zero_add]
    rw [List.countP_append] at hcount
    have hreqs := streamLines_count fun q' hq' => h q' (List.mem_cons_of_mem _ hq')
    rw [List.length_cons]
    omega

/-- The front of the stream is its first request, no less and no more, when the
rest begins with a request line and has as many of them as there are other requests. -/
theorem first_request_taken {q : RequestText} {reqs : List RequestText} {l : Octets}
    {ls back : List Octets} (hwf : ∀ q' ∈ q :: reqs, q'.WellFormed)
    (hfront : streamLines (q :: reqs) = (l :: ls) ++ back)
    (hcount : reqs.length ≤ back.countP startsWithMethod)
    (hnext : ∀ k left, back = k :: left → startsWithMethod k = true) :
    l :: ls = q.lines ∧ back = streamLines reqs := by
  rw [streamLines_cons] at hfront
  rcases List.append_eq_append_iff.mp hfront with ⟨gone, hgone, hrest⟩ | ⟨left, hleft, hback⟩
  · by_cases hnil : gone = []
    · subst hnil
      rw [List.append_nil] at hgone
      exact ⟨hgone, hrest.symm⟩
    · have hless := streamLines_count_rest (fun q' hq' => hwf q' (List.mem_cons_of_mem _ hq'))
        hnil hrest
      omega
  · cases left with
    | nil =>
      rw [List.append_nil] at hleft
      exact ⟨hleft.symm, hback⟩
    | cons k left =>
      have hmethod := hnext k (left ++ streamLines reqs) hback
      have hk : k ∈ q.headers ++ [[]] := by
        rw [RequestText.lines, List.cons_append, List.cons.injEq] at hleft
        rw [hleft.2]
        exact List.mem_append_right _ List.mem_cons_self
      rw [headers_no_method (hwf q List.mem_cons_self) k hk] at hmethod
      cases hmethod

/-- A read cannot keep the connection when the next line is no request line. -/
theorem runReads_no_method {chunks : List Octets} {k : Octets} {lines : List Octets}
    {carry : Octets} {worlds : Nat → World} {effects : List Effect} (hcarry : 10 ∉ carry)
    (hlines : ∀ l ∈ k :: lines, 10 ∉ l) (hplain : Plain (k :: lines))
    (hmode : c.request.isRtpOverTcp = false)
    (hstream : carry ++ chunks.flatten = encodeLines (k :: lines))
    (h : runReads worlds m ⟨c, carry⟩ chunks = .ok effects) (hkept : Kept effects) :
    startsWithMethod k = true := by
  cases chunks with
  | nil =>
    rw [List.flatten_nil, List.append_nil] at hstream
    refine absurd ?_ hcarry
    rw [hstream, encodeLines_cons]
    simp [crlf]
  | cons chunk chunks =>
    obtain ⟨r, hr, hrkept, -⟩ := runReads_cons h hkept
    rw [List.flatten_cons, ← List.append_assoc] at hstream
    obtain ⟨l, ls, back, hfront, hmethod, -⟩ :=
      (read_kept hlines hplain hmode hstream hr hrkept).taken
    rw [List.cons_append, List.cons.injEq] at hfront
    rw [hfront.1]
    exact hmethod

/-- **A stream that is not aligned loses a request or the connection.** -/
theorem aligned_of_runReads {reqs : List RequestText} : ∀ {chunks : List Octets} {carry : Octets}
    {worlds : Nat → World} {m : Media} {c : RtspConnection} {effects : List Effect},
    (∀ q ∈ reqs, q.WellFormed) → Plain (streamLines reqs) → c.request.isRtpOverTcp = false →
    carry ++ chunks.flatten = encodeLines (streamLines reqs) →
    runReads worlds m ⟨c, carry⟩ chunks = .ok effects → Kept effects →
    chunks.length = reqs.length → Aligned carry chunks reqs := by
  induction reqs with
  | nil =>
    intro chunks carry worlds m c effects _ _ _ hstream _ _ hlength
    obtain rfl := List.length_eq_zero_iff.mp hlength
    simpa [streamLines, Aligned] using hstream
  | cons q reqs ih =>
    intro chunks carry worlds m c effects hwf hplain hmode hstream h hkept hlength
    cases chunks with
    | nil => cases hlength
    | cons chunk chunks =>
      have hq := hwf q List.mem_cons_self
      have hreqs : ∀ q' ∈ reqs, q'.WellFormed := fun q' hq' => hwf q' (List.mem_cons_of_mem _ hq')
      have hlines := streamLines_clean hwf
      obtain ⟨r, hr, hrkept, hrest⟩ := runReads_cons h hkept
      rw [List.flatten_cons, ← List.append_assoc] at hstream
      have hread := read_kept hlines hplain hmode hstream hr hrkept
      obtain ⟨l, ls, back, hfront, hmethod, hbuffer, hcarry, hmore⟩ := hread.taken
      obtain ⟨rest, hrun, rfl, hrestkept⟩ := hrest hread.ok
      have hlength' : chunks.length = reqs.length := Nat.succ.inj hlength
      have hback : ∀ k ∈ back, 10 ∉ k := by
        intro k hk
        exact hlines k (hfront ▸ List.mem_append_right _ hk)
      have hplainback : Plain back := (hfront ▸ hplain).of_append.2
      have hcount := (runReads_count hback hplainback hread.mode hmore hrun hrestkept).1
      have hnext : ∀ k left, back = k :: left → startsWithMethod k = true := by
        rintro k left rfl
        exact runReads_no_method hcarry hback hplainback hread.mode hmore hrun hrestkept
      obtain ⟨hfirst, rfl⟩ := first_request_taken hwf hfront (hlength' ▸ hcount) hnext
      refine ⟨r.conn.inputBuffer, ?_, hcarry, ?_⟩
      · rw [hbuffer, hfirst]
        rfl
      · exact ih hreqs hplainback hread.mode hmore hrun hrestkept hlength'

/-! ## All ways to split a stream -/

/-- The reads have the same effects as one read for each request: the same
requests dispatched, the same replies, and the same end. -/
def SameAsAlone (worlds : Nat → World) (m : Media) (conn : Connection) (reqs : List RequestText)
    (chunks : List Octets) : Prop :=
  runReads worlds m conn chunks = runReads worlds m conn (reqs.map RequestText.bytes)

/-- Alone, every request is accepted. -/
def AcceptedAlone (worlds : Nat → World) (m : Media) (conn : Connection)
    (reqs : List RequestText) : Prop :=
  ∃ effects, runReads worlds m conn (reqs.map RequestText.bytes) = .ok effects ∧ Kept effects

/-- **Reads may be split and joined exactly as far as they stay aligned**: aligned
reads are always as good as single requests, and when the requests are accepted
alone, no other reads are. -/
theorem segmentation_iff (worlds : Nat → World) (m : Media) (conn : Connection)
    (reqs : List RequestText) (chunks : List Octets) (hempty : conn.inputBuffer = [])
    (hmode : conn.rtsp.request.isRtpOverTcp = false) (hwf : ∀ q ∈ reqs, q.WellFormed)
    (hplain : Plain (streamLines reqs)) (hchunks : ∀ chunk ∈ chunks, chunk ≠ [])
    (hsplit : chunks.flatten = (reqs.map RequestText.bytes).flatten) :
    (Aligned [] chunks reqs → SameAsAlone worlds m conn reqs chunks) ∧
      (AcceptedAlone worlds m conn reqs →
        (SameAsAlone worlds m conn reqs chunks ↔ Aligned [] chunks reqs)) := by
  obtain ⟨c, buffer⟩ := conn
  obtain rfl : buffer = [] := hempty
  have haligned : Aligned [] chunks reqs → SameAsAlone worlds m ⟨c, []⟩ reqs chunks :=
    runReads_aligned hwf hplain hmode hchunks
  refine ⟨haligned, fun hok => ⟨fun hsame => ?_, haligned⟩⟩
  obtain ⟨effects, halone, hkept⟩ := hok
  have hrun : runReads worlds m ⟨c, []⟩ chunks = .ok effects := Eq.trans hsame halone
  have hlines := streamLines_clean hwf
  have hstream : [] ++ chunks.flatten = encodeLines (streamLines reqs) := by
    rw [List.nil_append, hsplit, encodeLines_streamLines]
  have hstream' : [] ++ (reqs.map RequestText.bytes).flatten = encodeLines (streamLines reqs) := by
    rw [List.nil_append, encodeLines_streamLines]
  have hreads := (runReads_count hlines hplain hmode hstream hrun hkept).2
  have hreads' := (runReads_count hlines hplain hmode hstream' halone hkept).2
  rw [hreads', List.length_map] at hreads
  exact aligned_of_runReads hwf hplain hmode hstream hrun hkept hreads.symm

/-- An OPTIONS request. -/
def optionsRequest (cseq : String) : RequestText :=
  { line := ascii "OPTIONS rtsp://h/a RTSP/1.0", headers := [ascii "CSeq: " ++ ascii cseq] }

def sampleConnection : Connection :=
  { rtsp := .create 7 { peerIp := ascii "10.0.0.2", sessionId := 77 } }

theorem optionsRequest_wellFormed {cseq : String} (h : 10 ∉ ascii cseq) :
    (optionsRequest cseq).WellFormed := by
  refine ⟨(by decide : 10 ∉ ascii "OPTIONS rtsp://h/a RTSP/1.0"), fun l hl => ?_⟩
  rw [List.mem_singleton.mp hl]
  refine ⟨?_, ascii "CSeq", 32 :: ascii cseq, rfl, by decide, by decide⟩
  rw [List.mem_append]
  exact fun hmem => hmem.elim (by decide) h

/-- The first read brings one request and the beginning of the next one. -/
def alignedReads : List Octets :=
  [(optionsRequest "1").bytes ++ ascii "OPTIONS rts", ascii "p://h/a RTSP/1.0\r\nCSeq: 2\r\n\r\n"]

theorem segmentation_iff_sample :
    SameAsAlone (fun _ => sampleWorld) {} sampleConnection [optionsRequest "1", optionsRequest "2"]
      alignedReads := by
  refine (segmentation_iff (fun _ => sampleWorld) {} sampleConnection
    [optionsRequest "1", optionsRequest "2"] alignedReads rfl rfl ?_ (by unfold Plain; decide +kernel)
    (by decide) (by decide)).1 ⟨ascii "OPTIONS rts", rfl, by decide, [], by decide, by decide, rfl⟩
  intro q hq
  simp only [List.mem_cons, List.not_mem_nil, or_false] at hq
  rcases hq with rfl | rfl <;> exact optionsRequest_wellFormed (by decide)

/-- An OPTIONS request in two reads, cut behind its first line. -/
def cutReads : List Octets := [ascii "OPTIONS rtsp://h/a RTSP/1.0\r\n", ascii "CSeq: 1\r\n\r\n"]

theorem cut_request_is_given_up :
    cutReads.flatten = (optionsRequest "1").bytes ∧ (optionsRequest "1").WellFormed ∧
      ¬ SameAsAlone (fun _ => sampleWorld) {} sampleConnection [optionsRequest "1"] cutReads := by
  refine ⟨by decide, optionsRequest_wellFormed (by decide), fun h => ?_⟩
  have hany := congrArg (fun result => result.toOption.map fun effects => effects.any isAccepted) h
  revert hany
  decide +kernel

end Connection

/-! ## The same reads in the event loop -/

namespace Server

open Connection

/-- The loop reads the chunks from one descriptor, with nothing else in between. -/
def readActs (sockfd : Nat) : (Nat → World) → List Octets → List ServerAct
  | _, [] => []
  | worlds, chunk :: chunks =>
    .read sockfd chunk (worlds 0) :: readActs sockfd (fun i => worlds (i + 1)) chunks

/-- A connection that was given up is not read any more. -/
theorem run_unreadable {s : Server} {sockfd : Nat} (h : s.readable sockfd = none)
    {chunks : List Octets} : ∀ {worlds : Nat → World},
      run step s (readActs sockfd worlds chunks) = .ok (s, []) := by
  induction chunks with
  | nil => exact rfl
  | cons chunk chunks ih =>
    intro worlds
    rw [readActs, run, step, h]
    dsimp only
    rw [ih]
    rfl

/-- **`runReads` is what the server does** with the chunks. -/
theorem run_readActs {sockfd : Nat} {chunks : List Octets} : ∀ {s : Server} {conn : Connection}
    {worlds : Nat → World}, s.readable sockfd = some conn → (∀ chunk ∈ chunks, chunk ≠ []) →
    (run step s (readActs sockfd worlds chunks)).map Prod.snd =
      runReads worlds s.media conn chunks := by
  induction chunks with
  | nil => exact fun _ _ => rfl
  | cons chunk chunks ih =>
    intro s conn worlds hconn hchunks
    have hchunk := hchunks chunk List.mem_cons_self
    have hopen : sockfd ∉ s.disconnectedList := by
      unfold readable at hconn
      split at hconn
      · cases hconn
      · assumption
    rw [readActs, run, step, hconn, runReads, if_neg hchunk]
    dsimp only
    rw [if_neg hchunk, handleRead]
    cases hread : conn.handleRead (worlds 0) s.media chunk with
    | error e => rfl
    | ok r =>
      dsimp only
      by_cases hok : r.ok = true
      · have hnext : Server.readable { s with
            media := r.media, connections := s.connections.insert sockfd r.conn } sockfd =
              some r.conn := by
          rw [readable, if_neg hopen, AList.lookup_insert]
        rw [if_pos hok, if_pos hok]
        have hrest : runReads (fun i => worlds (i + 1)) r.media r.conn chunks = _ :=
          (ih hnext fun chunk' hchunk' => hchunks chunk' (List.mem_cons_of_mem _ hchunk')).symm
        rw [hrest]
        cases run step _ (readActs sockfd (fun i => worlds (i + 1)) chunks) <;> rfl
      · have hgone : (Server.handleDisconnection { s with
            media := r.media, connections := s.connections.insert sockfd r.conn } sockfd).readable
              sockfd = none := by
          rw [readable, if_pos]
          exact List.mem_append_right _ (List.mem_singleton_self _)
        rw [if_neg hok, if_neg hok, run_unreadable hgone]
        exact congrArg Except.ok (List.append_nil _)

end Server
end MyRtspServer.Net
