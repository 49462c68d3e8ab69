import Mathlib.Data.List.GetD
import MyRtspServer.Library.Framing
import MyRtspServer.Net.Clients
import MyRtspServer.Net.Segmentation

/-!
# Interleaved input

In interleaved mode a client sends `$` frames between its requests. `HandleReadBytes`
looks at the first byte and takes one frame, or one request that it ends at the last
CRLF of the buffer; what is behind waits for the next read. So the reads must bring
the items one at a time, and a request with no line end behind it.
-/
namespace MyRtspServer.Net

open Library Library.Octets Library.Lines Library.Framing Library.Transition

/-! ## The stream -/

/-- A `$` frame: a channel, a length in two bytes, and as many bytes. -/
structure Frame where
  channel : UInt8
  payload : Octets
  fits : payload.length < 2 ^ 16

def Frame.bytes (f : Frame) : Octets :=
  36 :: f.channel :: UInt8.ofNat (f.payload.length / 256) ::
    UInt8.ofNat (f.payload.length % 256) :: f.payload

/-- A request, which does not look like a frame. -/
structure Message extends RequestText where
  wellFormed : toRequestText.WellFormed
  start : line.head? ≠ some 36

inductive Item where
  | frame (f : Frame)
  | request (q : Message)

def Item.bytes : Item → Octets
  | .frame f => f.bytes
  | .request q => q.toRequestText.bytes

/-- One read: the bytes it brings, the sessions as they are then, and what the world
contributes to the handler of each request it completes. -/
structure Arrival where
  bytes : Octets
  media : Media
  worlds : Nat → World

/-! ## What each read should do -/

namespace Connection

/-- **The meaning of interleaved input**: each item is handled for itself, in order,
and frames are skipped; `left` stays in the buffer. -/
def handleItems : (Nat → World) → Media → RtspConnection → Octets → List Item →
    Except Fault ReadResult
  | _, m, c, left, [] => .ok ⟨true, m, ⟨c, left⟩, []⟩
  | worlds, m, c, left, .frame _ :: items => handleItems worlds m c left items
  | worlds, m, c, left, .request q :: items =>
    match handleLines (worlds 0) m c q.line (q.headers ++ [[]]) left with
    | .error e => .error e
    | .ok r =>
      if r.ok then
        match handleItems (fun i => worlds (i + 1)) r.media r.conn.rtsp left items with
        | .error e => .error e
        | .ok r' => .ok { r' with effects := r.effects ++ r'.effects }
      else .ok r

/-- The buffer that `HandleReadBytes` finds. -/
def received (c : Connection) (a : Arrival) : Octets := c.inputBuffer ++ a.bytes

/-- The items in that buffer, when `items` are expected. -/
def itemsIn (c : Connection) (items : List Item) (a : Arrival) : Arrived Item UInt8 :=
  arrived Item.bytes items (c.received a)

/-- What a read should do with a connection that expects `items`. -/
structure ReadDemultiplexed (c : Connection) (items : List Item) (a : Arrival) : Prop where
  /-- The items that are whole now are handled, each once and in order. -/
  handled : c.handleRead (a.worlds 0) a.media a.bytes =
    handleItems a.worlds a.media c.rtsp (c.itemsIn items a).left (c.itemsIn items a).whole
  /-- What is taken as a request is one, and nothing else. -/
  text : (c.received a).head? ≠ some 36 → ∀ request left,
    c.rtsp.request.parseRequest (c.received a) = .ok (true, request, left) →
      ∃ q rest, items = .request q :: rest ∧ c.received a = q.bytes ++ left
  /-- The bytes of the length have been received. -/
  length : (c.received a).head? = some 36 → 4 ≤ (c.received a).length
  /-- Less than one item stays in the buffer. -/
  less : ∀ r, c.handleRead (a.worlds 0) a.media a.bytes = .ok r → r.ok = true →
    LessThanOne Item.bytes (c.itemsIn items a).rest r.conn.inputBuffer
  bounded : ∀ r, c.handleRead (a.worlds 0) a.media a.bytes = .ok r → r.ok = true →
    r.conn.inputBuffer.head? = some 36 → r.conn.inputBuffer.length ≤ 65539

/-- Every read of the connection does what it should, until the connection is given up. -/
def Demultiplexed (c : Connection) (items : List Item) : List Arrival → Prop
  | [] => True
  | a :: arrivals => c.ReadDemultiplexed items a ∧
      ∀ r, c.handleRead (a.worlds 0) a.media a.bytes = .ok r → r.ok = true →
        r.conn.Demultiplexed (c.itemsIn items a).rest arrivals

/-- The read brings one item to its end, a request with no line end behind it; or none,
but the length of a frame. -/
def OneItem (a : Arrived Item UInt8) : Prop :=
  match a.whole with
  | [] =>
    match a.rest with
    | .frame _ :: _ => 4 ≤ a.left.length
    | _ => False
  | [.frame _] => True
  | [.request _] => ¬ crlf <:+: a.left
  | _ => False

/-- Each read does so. -/
def OneAtATime (items : List Item) (carry : Octets) : List Octets → Prop
  | [] => True
  | chunk :: chunks => OneItem (arrived Item.bytes items (carry ++ chunk)) ∧
      OneAtATime (arrived Item.bytes items (carry ++ chunk)).rest
        (arrived Item.bytes items (carry ++ chunk)).left chunks

end Connection

/-! ## One frame -/

namespace Frame

variable (f : Frame)

theorem bytes_length : f.bytes.length = f.payload.length + 4 := rfl

/-- The length is read back from its two bytes. -/
theorem length_bytes :
    (f.bytes.getD 2 0).toNat * 256 + (f.bytes.getD 3 0).toNat = f.payload.length := by
  have hfits := f.fits
  change (UInt8.ofNat (f.payload.length / 256)).toNat * 256 +
    (UInt8.ofNat (f.payload.length % 256)).toNat = f.payload.length
  rw [UInt8.toNat_ofNat', UInt8.toNat_ofNat']
  omega

/-- A beginning has the bytes of the whole. -/
theorem getD_beginning {front whole : Octets} (h : front <+: whole) {i : Nat}
    (hi : i < front.length) (other another : UInt8) :
    front.getD i other = whole.getD i another := by
  obtain ⟨more, rfl⟩ := h
  rw [List.getD_append _ _ _ _ hi, List.getD_eq_getElem _ _ hi, List.getD_eq_getElem _ _ hi]

/-- **A whole frame is taken**, and nothing behind it. -/
theorem handleRtpOverTcp_whole (w : World) (left : Octets) :
    Connection.handleRtpOverTcp w (f.bytes ++ left) = left := by
  have hlength := f.bytes_length
  have hbyte : ∀ i < 4, ∀ other, (f.bytes ++ left).getD i other = f.bytes.getD i 0 := by
    intro i hi other
    exact (getD_beginning (List.prefix_append _ _) (by omega) 0 other).symm
  have henough : ¬ (f.bytes ++ left).length < f.payload.length + 4 := by
    rw [List.length_append]
    omega
  simp only [Connection.handleRtpOverTcp, hbyte 2 (by decide), hbyte 3 (by decide), f.length_bytes,
    if_neg henough]
  exact List.drop_left' hlength

/-- **Less than a frame is left alone**, whatever stands behind it. -/
theorem handleRtpOverTcp_piece (w : World) {buffer : Octets} (h : buffer <+: f.bytes)
    (hne : buffer ≠ f.bytes) : Connection.handleRtpOverTcp w buffer = buffer := by
  have hless : buffer.length < f.payload.length + 4 := by
    rw [← f.bytes_length]
    exact Nat.lt_of_le_of_ne h.length_le fun heq => hne (h.eq_of_length heq)
  by_cases hshort : buffer.length < 4
  · exact if_pos (by omega)
  · have hbyte : ∀ i < 4, ∀ other, buffer.getD i other = f.bytes.getD i 0 := by
      intro i hi other
      exact getD_beginning h (by omega) other 0
    simp only [Connection.handleRtpOverTcp, hbyte 2 (by decide), hbyte 3 (by decide),
      f.length_bytes, if_pos hless]

end Frame

/-! ## The first byte of what is left -/

theorem Message.bytes_head (q : Message) (s : Octets) : (q.bytes ++ s).head? ≠ some 36 := by
  rw [RequestText.bytes, RequestText.lines, encodeLines_cons, List.append_assoc]
  cases hline : q.line with
  | nil => exact fun h => by cases h
  | cons b line =>
    have hstart := q.start
    rw [hline] at hstart
    exact hstart

theorem Item.bytes_ne_nil (item : Item) : item.bytes ≠ [] := by
  cases item with
  | frame f => exact List.cons_ne_nil _ _
  | request q => exact q.bytes_ne_nil

/-- A piece of a request does not look like a frame. -/
theorem Message.head_of_piece {q : Message} {left : Octets} (h : left <+: q.bytes) :
    left.head? ≠ some 36 := by
  obtain ⟨more, hmore⟩ := h
  intro hhead
  have hwhole := q.bytes_head []
  rw [List.append_nil, ← hmore, List.head?_append_of_ne_nil _ (fun hnil => by simp [hnil] at hhead)]
    at hwhole
  exact hwhole hhead

/-- A piece of a frame does. -/
theorem Frame.head_of_piece {f : Frame} {left : Octets} (h : left <+: f.bytes) (hne : left ≠ []) :
    left.head? = some 36 := by
  obtain ⟨more, hmore⟩ := h
  rw [← List.head?_append_of_ne_nil left hne, hmore]
  rfl

/-- Less than a frame is at most 65539 bytes. -/
theorem bounded_of_less {rest : List Item} {left : Octets} (h : LessThanOne Item.bytes rest left)
    (hhead : left.head? = some 36) : left.length ≤ 65539 := by
  cases rest with
  | nil =>
    obtain rfl : left = [] := h
    cases hhead
  | cons item rest =>
    obtain ⟨hbegins, -⟩ := h
    cases item with
    | frame f =>
      have hlength := hbegins.length_le
      have hfits := f.fits
      rw [Item.bytes, f.bytes_length] at hlength
      omega
    | request q => exact absurd hhead (Message.head_of_piece hbegins)

namespace Connection

/-! ## One read -/

section Read

variable {w : World} {m : Media} {c : Connection} {bytes : Octets} {r : ReadResult}

theorem handleRead_frame (hmode : c.rtsp.request.isRtpOverTcp = true)
    (hhead : (c.inputBuffer ++ bytes).head? = some 36) :
    c.handleRead w m bytes =
      .ok ⟨true, m, ⟨c.rtsp, handleRtpOverTcp w (c.inputBuffer ++ bytes)⟩, []⟩ := by
  rw [handleRead, handleReadBytes]
  exact if_pos ⟨hmode, hhead⟩

/-- A read that does not find a frame calls the parser, and that shows. -/
theorem handleRead_text (hhead : (c.inputBuffer ++ bytes).head? ≠ some 36)
    (h : c.handleRead w m bytes = .ok r) (hok : r.ok = true) : r.effects ≠ [] ∧
      ∃ request, c.rtsp.request.parseRequest (c.inputBuffer ++ bytes) =
        .ok (true, request, r.conn.inputBuffer) := by
  rw [handleRead, handleReadBytes] at h
  dsimp only at h
  rw [if_neg fun hand => hhead hand.2] at h
  split at h
  · cases h
  · cases h
    cases hok
  · rename_i request buffer hparse
    split at h
    · cases h
    · cases h
      exact ⟨List.cons_ne_nil _ _, request, hparse⟩

theorem handleLines_kept {c : RtspConnection} {l left : Octets} {lines : List Octets}
    (h : handleLines w m c l lines left = .ok r) (hok : r.ok = true) :
    r.conn.inputBuffer = left ∧
      (c.request.isRtpOverTcp = true → r.conn.rtsp.request.isRtpOverTcp = true) := by
  unfold handleLines at h
  split at h
  · cases h
  · cases h
    cases hok
  · rename_i request hparse
    split at h
    · cases h
    · rename_i handled hhandled
      cases h
      refine ⟨rfl, fun hmode => ?_⟩
      rw [(RtspConnection.handleCmd_keeps hhandled).request]
      exact Request.parseLines_interleaved hmode hparse

/-- What is left stays in the buffer, and the mode stays what it is. -/
theorem handleItems_kept {left : Octets} {items : List Item} : ∀ {worlds : Nat → World}
    {m : Media} {c : RtspConnection} {r : ReadResult},
    handleItems worlds m c left items = .ok r → r.ok = true → r.conn.inputBuffer = left ∧
      (c.request.isRtpOverTcp = true → r.conn.rtsp.request.isRtpOverTcp = true) := by
  induction items with
  | nil =>
    intro worlds m c r h hok
    cases h
    exact ⟨rfl, id⟩
  | cons item items ih =>
    intro worlds m c r h hok
    cases item with
    | frame f => exact ih h hok
    | request q =>
      rw [handleItems] at h
      split at h
      · cases h
      rename_i r1 hfirst
      split at h
      · rename_i hok1
        split at h
        · cases h
        rename_i r2 hlater
        cases h
        obtain ⟨hleft, hmode⟩ := ih hlater hok
        exact ⟨hleft, fun hstart => hmode ((handleLines_kept hfirst hok1).2 hstart)⟩
      · rename_i hno
        cases h
        exact absurd hok hno

/-- One request is handled as if it were alone. -/
theorem handleItems_single (worlds : Nat → World) (m : Media) (c : RtspConnection) (left : Octets)
    (q : Message) : handleItems worlds m c left [.request q] =
      handleLines (worlds 0) m c q.line (q.headers ++ [[]]) left := by
  rw [handleItems]
  cases h : handleLines (worlds 0) m c q.line (q.headers ++ [[]]) left with
  | error e => rfl
  | ok r =>
    dsimp only
    split
    · rename_i hok
      obtain ⟨hleft, -⟩ := handleLines_kept h hok
      simp only [handleItems, List.append_nil, ← hok, ← hleft]
    · rfl

end Read

/-! ## Reads that bring one item -/

variable {c : Connection} {items : List Item} {a : Arrival}

/-- The last two conditions follow from the first. -/
theorem ReadDemultiplexed.of_handled (c : Connection) (items : List Item) (a : Arrival)
    (hless : LessThanOne Item.bytes (c.itemsIn items a).rest (c.itemsIn items a).left)
    (handled : c.handleRead (a.worlds 0) a.media a.bytes =
      handleItems a.worlds a.media c.rtsp (c.itemsIn items a).left (c.itemsIn items a).whole)
    (text : (c.received a).head? ≠ some 36 → ∀ request left,
      c.rtsp.request.parseRequest (c.received a) = .ok (true, request, left) →
        ∃ q rest, items = .request q :: rest ∧ c.received a = q.bytes ++ left)
    (length : (c.received a).head? = some 36 → 4 ≤ (c.received a).length) :
    c.ReadDemultiplexed items a := by
  refine ⟨handled, text, length, fun r hr hok => ?_, fun r hr hok => ?_⟩
  · obtain ⟨hleft, -⟩ := handleItems_kept (handled ▸ hr) hok
    rw [hleft]
    exact hless
  · obtain ⟨hleft, -⟩ := handleItems_kept (handled ▸ hr) hok
    rw [hleft]
    exact bounded_of_less hless

/-- What a read that brings one item finds in the buffer. -/
inductive OneItemCase (a : Arrived Item UInt8) : Prop
  | piece (f : Frame) (items : List Item) (whole : a.whole = []) (rest : a.rest = .frame f :: items)
      (length : 4 ≤ a.left.length)
  | frame (f : Frame) (whole : a.whole = [.frame f])
  | request (q : Message) (whole : a.whole = [.request q]) (clean : ¬ crlf <:+: a.left)

theorem oneItem_cases {a : Arrived Item UInt8} (h : OneItem a) : OneItemCase a := by
  unfold OneItem at h
  split at h
  · rename_i hwhole
    split at h
    · rename_i f items hrest
      exact .piece f items hwhole hrest h
    · cases h
  · rename_i f hwhole
    exact .frame f hwhole
  · rename_i q hwhole
    exact .request q hwhole h
  · cases h

/-- **A read that brings one item is demultiplexed.** -/
theorem readDemultiplexed_of_oneItem (hmode : c.rtsp.request.isRtpOverTcp = true)
    (hstream : c.received a <+: items.flatMap Item.bytes) (h : OneItem (c.itemsIn items a)) :
    c.ReadDemultiplexed items a := by
  obtain ⟨hitems, hbuffer⟩ := arrived_split Item.bytes items (c.received a)
  have hless := arrived_less hstream
  have hof := ReadDemultiplexed.of_handled c items a hless
  rw [itemsIn] at h hof
  generalize arrived Item.bytes items (c.received a) = x at *
  obtain ⟨whole, rest, left⟩ := x
  dsimp only at hitems hbuffer hless hof
  cases oneItem_cases h with
  | piece f later hwhole hrest length =>
    -- a piece of a frame is left alone
    obtain rfl : whole = [] := hwhole
    obtain rfl : rest = .frame f :: later := hrest
    obtain rfl : left = c.received a := hbuffer
    have hhead := Frame.head_of_piece hless.1 fun hnil => by
      rw [hnil] at length
      cases length
    refine hof ?_ (fun hno => absurd hhead hno) fun _ => length
    rw [handleRead_frame hmode hhead]
    exact congrArg (fun buffer => Except.ok (ReadResult.mk true a.media ⟨c.rtsp, buffer⟩ []))
      (f.handleRtpOverTcp_piece (a.worlds 0) hless.1 hless.2)
  | frame f hwhole =>
    -- the frame is taken
    obtain rfl : whole = [.frame f] := hwhole
    have hframe : c.received a = f.bytes ++ left := by
      rw [← hbuffer, List.flatMap_singleton]
      rfl
    have hhead : (c.received a).head? = some 36 := by
      rw [hframe]
      rfl
    refine hof ?_ (fun hno => absurd hhead hno) fun _ => ?_
    · rw [handleRead_frame hmode hhead]
      change Except.ok (ReadResult.mk true a.media
        ⟨c.rtsp, handleRtpOverTcp (a.worlds 0) (c.received a)⟩ []) = _
      rw [hframe, f.handleRtpOverTcp_whole]
      rfl
    · rw [hframe, List.length_append, f.bytes_length]
      omega
  | request q hwhole clean =>
    -- the request is taken as the parser finds it
    obtain rfl : whole = [.request q] := hwhole
    have hlines : c.received a = encodeLines (q.line :: (q.headers ++ [[]])) ++ left := by
      rw [← hbuffer, List.flatMap_singleton]
      rfl
    have hhead : (c.received a).head? ≠ some 36 := hlines ▸ q.bytes_head left
    refine hof ?_ (fun _ request left' hparse => ?_) fun hyes => absurd hyes hhead
    · rw [handleItems_single]
      exact handleRead_lines (fun hand => hhead hand.2) q.wellFormed.line clean hlines
    · rw [hlines, Request.parseRequest_lines _ q.wellFormed.line clean] at hparse
      cases hparsed : c.rtsp.request.parseLines q.line (q.headers ++ [[]]) with
      | error e =>
        rw [hparsed] at hparse
        cases hparse
      | ok p =>
        rw [hparsed] at hparse
        obtain ⟨ok, request'⟩ := p
        cases ok <;> cases hparse
        exact ⟨q, _, hitems.symm, hlines⟩

/-! ## Reads that are demultiplexed -/

/-- Nothing is encoded by nothing. -/
theorem items_nil_of_bytes {items : List Item} (h : items.flatMap Item.bytes = []) : items = [] := by
  cases items with
  | nil => rfl
  | cons item items =>
    rw [List.flatMap_cons, List.append_eq_nil_iff] at h
    exact absurd h.1 item.bytes_ne_nil

/-- **A read that is demultiplexed and refuses nothing brings one item.** -/
theorem oneItem_of_readDemultiplexed (hmode : c.rtsp.request.isRtpOverTcp = true)
    (hbytes : a.bytes ≠ []) (hstream : c.received a <+: items.flatMap Item.bytes)
    (h : c.ReadDemultiplexed items a) {r : ReadResult}
    (hr : handleItems a.worlds a.media c.rtsp (c.itemsIn items a).left (c.itemsIn items a).whole =
      .ok r) (hok : r.ok = true) : OneItem (c.itemsIn items a) := by
  obtain ⟨hitems, hbuffer⟩ := arrived_split Item.bytes items (c.received a)
  have hless := arrived_less hstream
  have hread := h.handled.trans hr
  have hleft := (handleItems_kept hr hok).1
  have hreceived : c.received a ≠ [] := fun hnil => hbytes (List.append_eq_nil_iff.mp hnil).2
  rw [itemsIn] at hr hleft ⊢
  generalize arrived Item.bytes items (c.received a) = x at *
  obtain ⟨whole, rest, left⟩ := x
  dsimp only at hitems hbuffer hless hleft hr
  cases whole with
  | nil =>
    obtain rfl : left = c.received a := hbuffer
    cases rest with
    | nil => exact absurd hless hreceived
    | cons item rest =>
      cases item with
      | frame f => exact h.length (Frame.head_of_piece hless.1 hreceived)
      | request q =>
        -- the parser is called, though there is nothing to handle
        cases hr
        exact absurd rfl (handleRead_text (Message.head_of_piece hless.1) hread hok).1
  | cons item whole =>
    rw [List.flatMap_cons, List.append_assoc] at hbuffer
    cases item with
    | frame f =>
      have hhead : (c.received a).head? = some 36 := by
        rw [← hbuffer]
        rfl
      have htaken := handleRead_frame (w := a.worlds 0) (m := a.media) hmode hhead
      rw [hread] at htaken
      have hbehind : r.conn.inputBuffer = handleRtpOverTcp (a.worlds 0) (c.received a) := by
        cases htaken
        rfl
      rw [← hbuffer, Item.bytes, f.handleRtpOverTcp_whole, hleft] at hbehind
      have hnone := List.append_left_eq_self.mp hbehind.symm
      obtain rfl := items_nil_of_bytes hnone
      trivial
    | request q =>
      have hhead : (c.received a).head? ≠ some 36 := hbuffer ▸ q.bytes_head _
      obtain ⟨-, request, hparse⟩ := handleRead_text hhead hread hok
      change c.rtsp.request.parseRequest (c.received a) = _ at hparse
      obtain ⟨q', rest', hfirst, htaken⟩ := h.text hhead request _ hparse
      rw [← hitems, List.cons_append, List.cons.injEq, Item.request.injEq] at hfirst
      obtain ⟨rfl, -⟩ := hfirst
      rw [← hbuffer, hleft] at htaken
      have hnone := List.append_left_eq_self.mp (List.append_cancel_left htaken)
      obtain rfl := items_nil_of_bytes hnone
      exact hleft ▸ Request.parseRequest_left hparse

/-! ## Every stream -/

/-- Handled one by one, no request is refused. -/
def Accepted (c : Connection) (items : List Item) : List Arrival → Prop
  | [] => True
  | a :: arrivals => ∃ r, handleItems a.worlds a.media c.rtsp (c.itemsIn items a).left
      (c.itemsIn items a).whole = .ok r ∧ r.ok = true ∧
        r.conn.Accepted (c.itemsIn items a).rest arrivals

/-- What a read finds of the stream, and what is still to come when it is done. -/
theorem stream_read {chunks : List Octets}
    (hstream : c.inputBuffer ++ (a.bytes :: chunks).flatten <+: items.flatMap Item.bytes) :
    c.received a <+: items.flatMap Item.bytes ∧
      (c.itemsIn items a).left ++ chunks.flatten <+:
        (c.itemsIn items a).rest.flatMap Item.bytes := by
  rw [List.flatten_cons, ← List.append_assoc] at hstream
  refine ⟨(List.prefix_append _ _).trans hstream, ?_⟩
  obtain ⟨more, hmore⟩ := hstream
  rw [List.append_assoc] at hmore
  refine ⟨more, ?_⟩
  rw [List.append_assoc]
  exact arrived_left hmore

theorem demultiplexed_of_oneAtATime {arrivals : List Arrival} : ∀ {c : Connection}
    {items : List Item}, c.rtsp.request.isRtpOverTcp = true →
    c.inputBuffer ++ (arrivals.map Arrival.bytes).flatten <+: items.flatMap Item.bytes →
    OneAtATime items c.inputBuffer (arrivals.map Arrival.bytes) → c.Demultiplexed items arrivals := by
  induction arrivals with
  | nil => exact fun _ _ _ => trivial
  | cons a arrivals ih =>
    intro c items hmode hstream h
    obtain ⟨hone, hlater⟩ := h
    obtain ⟨hreceived, hrest⟩ := stream_read hstream
    have hread := readDemultiplexed_of_oneItem hmode hreceived hone
    refine ⟨hread, fun r hr hok => ?_⟩
    obtain ⟨hleft, hkeeps⟩ := handleItems_kept (hread.handled ▸ hr) hok
    exact ih (hkeeps hmode) (hleft ▸ hrest) (hleft ▸ hlater)

theorem oneAtATime_of_demultiplexed {arrivals : List Arrival} : ∀ {c : Connection}
    {items : List Item}, c.rtsp.request.isRtpOverTcp = true → (∀ a ∈ arrivals, a.bytes ≠ []) →
    c.inputBuffer ++ (arrivals.map Arrival.bytes).flatten <+: items.flatMap Item.bytes →
    c.Accepted items arrivals → c.Demultiplexed items arrivals →
    OneAtATime items c.inputBuffer (arrivals.map Arrival.bytes) := by
  induction arrivals with
  | nil => exact fun _ _ _ _ _ => trivial
  | cons a arrivals ih =>
    intro c items hmode hbytes hstream haccepted h
    obtain ⟨r, hr, hok, hnext⟩ := haccepted
    obtain ⟨hread, hlater⟩ := h
    obtain ⟨hleft, hkeeps⟩ := handleItems_kept hr hok
    obtain ⟨hreceived, hrest⟩ := stream_read hstream
    refine ⟨oneItem_of_readDemultiplexed hmode (hbytes a List.mem_cons_self) hreceived hread hr hok,
      ?_⟩
    have hthen := ih (hkeeps hmode) (fun b hb => hbytes b (List.mem_cons_of_mem _ hb))
      (hleft ▸ hrest) hnext (hlater r (hread.handled.trans hr) hok)
    rw [hleft] at hthen
    exact hthen

/-- **Interleaved input is demultiplexed when each read brings one item**, and, while no
request is refused, only then. -/
theorem demultiplexed_iff (c : Connection) (items : List Item) (arrivals : List Arrival)
    (hmode : c.rtsp.request.isRtpOverTcp = true) (hbytes : ∀ a ∈ arrivals, a.bytes ≠ [])
    (hstream : c.inputBuffer ++ (arrivals.map Arrival.bytes).flatten <+:
      items.flatMap Item.bytes) :
    (OneAtATime items c.inputBuffer (arrivals.map Arrival.bytes) → c.Demultiplexed items arrivals) ∧
      (c.Accepted items arrivals → (c.Demultiplexed items arrivals ↔
        OneAtATime items c.inputBuffer (arrivals.map Arrival.bytes))) :=
  ⟨demultiplexed_of_oneAtATime hmode hstream, fun haccepted =>
    ⟨oneAtATime_of_demultiplexed hmode hbytes hstream haccepted,
      demultiplexed_of_oneAtATime hmode hstream⟩⟩

/-! ## Each request once -/

def isDispatched : Effect → Bool
  | .dispatched _ _ => true
  | _ => false

def isRequest : Item → Bool
  | .frame _ => false
  | .request _ => true

theorem handleLines_dispatched {w : World} {m : Media} {c : RtspConnection} {l left : Octets}
    {lines : List Octets} {r : ReadResult} (h : handleLines w m c l lines left = .ok r)
    (hok : r.ok = true) : r.effects.countP isDispatched = 1 := by
  unfold handleLines at h
  split at h
  · cases h
  · cases h
    cases hok
  · split at h
    · cases h
    rename_i handled hhandled
    cases h
    have hfrom := (RtspConnection.handleCmd_keeps hhandled).effects
    have hzero : handled.effects.countP isDispatched = 0 := by
      rw [List.countP_eq_zero]
      intro e he hdispatched
      have hno := hfrom e he
      cases e <;> first | exact hno | cases hdispatched
    rw [List.countP_cons_of_pos rfl, List.countP_append, hzero, if_pos hok]
    rfl

/-- As many requests are dispatched as there are among the items. -/
theorem handleItems_dispatched {left : Octets} {items : List Item} : ∀ {worlds : Nat → World}
    {m : Media} {c : RtspConnection} {r : ReadResult},
    handleItems worlds m c left items = .ok r → r.ok = true →
      r.effects.countP isDispatched = items.countP isRequest := by
  induction items with
  | nil =>
    intro worlds m c r h hok
    cases h
    rfl
  | cons item items ih =>
    intro worlds m c r h hok
    cases item with
    | frame f =>
      rw [List.countP_cons_of_neg (by simp [isRequest])]
      exact ih h hok
    | request q =>
      rw [handleItems] at h
      split at h
      · cases h
      rename_i r1 hfirst
      split at h
      · rename_i hok1
        split at h
        · cases h
        rename_i r2 hlater
        cases h
        rw [List.countP_append, handleLines_dispatched hfirst hok1, ih hlater hok,
          List.countP_cons_of_pos rfl, Nat.add_comm]
      · rename_i hno
        cases h
        exact absurd hok hno

/-- The effects of all reads, until the connection is given up. -/
def readAll (c : Connection) : List Arrival → Except Fault (List Effect)
  | [] => .ok []
  | a :: arrivals =>
    match c.handleRead (a.worlds 0) a.media a.bytes with
    | .error e => .error e
    | .ok r =>
      if r.ok then
        match r.conn.readAll arrivals with
        | .error e => .error e
        | .ok effects => .ok (r.effects ++ effects)
      else .ok r.effects

theorem Demultiplexed.dispatched {arrivals : List Arrival} : ∀ {c : Connection} {items : List Item},
    c.Demultiplexed items arrivals → c.Accepted items arrivals → ∃ effects,
      c.readAll arrivals = .ok effects ∧ effects.countP isDispatched =
        (brought Item.bytes items c.inputBuffer (arrivals.map Arrival.bytes)).countP isRequest := by
  induction arrivals with
  | nil => exact fun _ _ => ⟨[], rfl, rfl⟩
  | cons a arrivals ih =>
    intro c items h haccepted
    obtain ⟨hread, hlater⟩ := h
    obtain ⟨r, hr, hok, hnext⟩ := haccepted
    have hhandled := hread.handled.trans hr
    obtain ⟨effects, hrest, hcount⟩ := ih (hlater r hhandled hok) hnext
    refine ⟨r.effects ++ effects, ?_, ?_⟩
    · rw [readAll, hhandled]
      dsimp only
      rw [if_pos hok, hrest]
    · rw [List.countP_append, handleItems_dispatched hr hok, hcount, (handleItems_kept hr hok).1,
        List.map_cons, brought, List.countP_append]
      rfl

/-- **Over a whole stream each request is dispatched once**, if its reads are
demultiplexed and nothing is refused. -/
theorem dispatched_once {c : Connection} {items : List Item} {arrivals : List Arrival}
    (hstart : LessThanOne Item.bytes items c.inputBuffer)
    (hstream : c.inputBuffer ++ (arrivals.map Arrival.bytes).flatten = items.flatMap Item.bytes)
    (h : c.Demultiplexed items arrivals) (haccepted : c.Accepted items arrivals) :
    ∃ effects, c.readAll arrivals = .ok effects ∧
      effects.countP isDispatched = items.countP isRequest := by
  obtain ⟨effects, hall, hcount⟩ := h.dispatched haccepted
  rw [brought_all hstart hstream] at hcount
  exact ⟨effects, hall, hcount⟩

/-! ## A client that plays over TCP -/

/-- A client in interleaved mode. -/
def interleavedConnection : Connection :=
  { rtsp := { sampleConnection.rtsp with
      request := { sampleConnection.rtsp.request with isRtpOverTcp := true } } }

/-- A frame whose payload is a line end. -/
def sampleFrame : Frame := ⟨1, crlf, by decide⟩

def sampleMessage : Message :=
  { optionsRequest "1" with
    wellFormed := optionsRequest_wellFormed (by decide)
    start := by decide }

def sampleArrival (bytes : Octets) : Arrival := ⟨bytes, {}, fun _ => sampleWorld⟩

/-- A frame in two reads, the first with its length, and then a request. -/
def pieces : List Octets :=
  [sampleFrame.bytes.take 5, sampleFrame.bytes.drop 5, sampleMessage.bytes]

theorem pieces_oneAtATime : OneAtATime [.frame sampleFrame, .request sampleMessage] [] pieces :=
  ⟨show 4 ≤ 5 by decide, trivial, show ¬ crlf <:+: ([] : Octets) by decide, trivial⟩

theorem demultiplexed_iff_sample :
    interleavedConnection.Demultiplexed [.frame sampleFrame, .request sampleMessage]
      (pieces.map sampleArrival) :=
  (demultiplexed_iff interleavedConnection [.frame sampleFrame, .request sampleMessage]
    (pieces.map sampleArrival) rfl (by decide) ⟨[], by decide⟩).1 pieces_oneAtATime

/-- The client's items would be handled, but a read does not bring one of them. -/
theorem not_demultiplexed {items : List Item} {bytes : Octets} {chunks : List Octets}
    (hbytes : bytes ≠ []) (hstream : bytes <+: items.flatMap Item.bytes)
    (hhandled : (handleItems (fun _ => sampleWorld) {} interleavedConnection.rtsp
      (arrived Item.bytes items bytes).left (arrived Item.bytes items bytes).whole).map
        ReadResult.ok = .ok true) (hno : ¬ OneItem (arrived Item.bytes items bytes)) :
    ¬ interleavedConnection.Demultiplexed items ((bytes :: chunks).map sampleArrival) := by
  intro h
  have hread : interleavedConnection.ReadDemultiplexed items (sampleArrival bytes) := h.1
  cases hr : handleItems (fun _ => sampleWorld) {} interleavedConnection.rtsp
      (arrived Item.bytes items bytes).left (arrived Item.bytes items bytes).whole with
  | error e =>
    rw [hr] at hhandled
    cases hhandled
  | ok r =>
    rw [hr] at hhandled
    exact hno (oneItem_of_readDemultiplexed (c := interleavedConnection)
      (a := sampleArrival bytes) rfl hbytes hstream hread hr (Except.ok.inj hhandled))

/-- **The same items fail in other reads**: a frame and a request in one read, a request
and a frame, and a frame whose length comes later than its first byte. -/
theorem interleaved_input_fails :
    ¬ interleavedConnection.Demultiplexed [.frame sampleFrame, .request sampleMessage]
        ([sampleFrame.bytes ++ sampleMessage.bytes].map sampleArrival) ∧
      ¬ interleavedConnection.Demultiplexed [.request sampleMessage, .frame sampleFrame]
        ([sampleMessage.bytes ++ sampleFrame.bytes].map sampleArrival) ∧
      ¬ interleavedConnection.Demultiplexed [.frame sampleFrame]
        ([sampleFrame.bytes.take 2, sampleFrame.bytes.drop 2].map sampleArrival) := by
  refine ⟨not_demultiplexed (by decide) ⟨[], by decide⟩ (by decide +kernel) id,
    not_demultiplexed (by decide) ⟨[], by decide⟩ (by decide +kernel) id,
    not_demultiplexed (by decide) ⟨sampleFrame.bytes.drop 2, by decide⟩ (by decide +kernel) ?_⟩
  exact show ¬ 4 ≤ 2 by decide

end Connection

/-! ## The same reads in the event loop -/

namespace Server

/-- The bytes an action brings to the connection on a descriptor. -/
def chunkOn (sockfd : Nat) : ServerAct → Option Octets
  | .read fd bytes _ => if fd = sockfd ∧ bytes ≠ [] then some bytes else none
  | _ => none

/-- The same, with the sessions as the read finds them. -/
def arrivalOn (sockfd : Nat) (s : Server) : ServerAct → Option Arrival
  | .read fd bytes w => if fd = sockfd ∧ bytes ≠ [] then some ⟨bytes, s.media, fun _ => w⟩ else none
  | _ => none

theorem arrivalOn_chunkOn (sockfd : Nat) (s : Server) (act : ServerAct) :
    (s.arrivalOn sockfd act).map Arrival.bytes = chunkOn sockfd act := by
  cases act with
  | read fd bytes w =>
    rw [arrivalOn, chunkOn]
    split <;> rfl
  | _ => rfl

theorem readable_kept {s : Server} {sockfd : Nat} {conn : Connection}
    (h : s.readable sockfd = some conn) (s' : Server)
    (hconn : s'.connections.lookup sockfd = s.connections.lookup sockfd)
    (hlist : sockfd ∈ s'.disconnectedList → sockfd ∈ s.disconnectedList) :
    s'.readable sockfd = some conn := by
  obtain ⟨hlookup, hopen⟩ := readable_some h
  rw [readable, if_neg fun hmem => hopen (hlist hmem), hconn, hlookup]

/-- What an action does to one connection: nothing, its own read, or its end. -/
inductive Touched (s : Server) (sockfd : Nat) (conn : Connection) (act : ServerAct) (s' : Server) :
    Prop
  | same (quiet : s.arrivalOn sockfd act = none) (still : s'.readable sockfd = some conn)
  | read (a : Arrival) (r : ReadResult) (arrival : s.arrivalOn sockfd act = some a)
      (handled : conn.handleRead (a.worlds 0) a.media a.bytes = .ok r) (ok : r.ok = true)
      (next : s'.readable sockfd = some r.conn)
  | gone (none_ : s'.readable sockfd = none)

/-- **Between its reads a connection stays as it is**, whatever the others do. -/
theorem step_touched {s s' : Server} {sockfd : Nat} {conn : Connection} {act : ServerAct}
    {effects : List Effect} (hconn : s.readable sockfd = some conn)
    (hstep : s.step act = .ok (s', effects)) : Touched s sockfd conn act s' := by
  obtain ⟨hlookup, hopen⟩ := readable_some hconn
  cases act with
  | addMediaSession name =>
    cases hstep
    exact .same rfl hconn
  | addRtpSink name track sink =>
    cases hstep
    exact .same rfl hconn
  | startMulticast name w =>
    simp only [step] at hstep
    split at hstep <;> cases hstep
    exact .same rfl hconn
  | accept connfd peer =>
    simp only [step] at hstep
    split at hstep <;> cases hstep
    · exact .same rfl hconn
    · rename_i hnew
      have hne : sockfd ≠ connfd := by
        rintro rfl
        exact hnew (AList.lookup_isSome.mp (Option.isSome_iff_exists.mpr ⟨conn, hlookup⟩))
      exact .same rfl (readable_kept hconn _ (AList.lookup_insert_ne hne) id)
  | read fd bytes w =>
    by_cases hfd : fd = sockfd
    · subst hfd
      simp only [step, hconn] at hstep
      split at hstep
      · rename_i hbytes
        cases hstep
        exact .same (if_neg fun hand => hand.2 hbytes) hconn
      rename_i hbytes
      rw [handleRead] at hstep
      split at hstep
      · cases hstep
      rename_i r hr
      cases hstep
      split
      · rename_i hok
        refine .read ⟨bytes, s.media, fun _ => w⟩ r (if_pos ⟨rfl, hbytes⟩) hr hok ?_
        rw [readable, if_neg hopen, AList.lookup_insert]
      · exact .gone (if_pos (List.mem_append_right _ (List.mem_singleton_self _)))
    · have hquiet : s.arrivalOn sockfd (.read fd bytes w) = none := if_neg fun hand => hfd hand.1
      rcases step_read hstep with hsame | ⟨conn', r, -, -, -, hafter, -⟩
      · exact .same hquiet (hsame ▸ hconn)
      · rw [hafter]
        refine .same hquiet (readable_kept hconn _ (AList.lookup_insert_ne (Ne.symm hfd)) ?_)
        rw [afterRead]
        dsimp only
        split
        · exact id
        · simp [Ne.symm hfd]
  | hangup fd =>
    simp only [step] at hstep
    split at hstep <;> cases hstep
    · exact .same rfl hconn
    · by_cases hfd : fd = sockfd
      · exact .gone (if_pos (List.mem_append_right _ (List.mem_singleton.mpr hfd.symm)))
      · refine .same rfl (readable_kept hconn _ rfl ?_)
        simp [handleDisconnection, Ne.symm hfd]
  | trigger =>
    simp only [step, handleDisconnectionList] at hstep
    split at hstep <;> cases hstep
    rename_i hdestroy
    have hkept := destroyAll_connections hdestroy sockfd
    rw [if_neg hopen] at hkept
    exact .same rfl (readable_kept hconn _ hkept fun hmem => absurd hmem List.not_mem_nil)
  | packet name track packet answers =>
    cases step_outcome hstep with
    | ignored => exact .same rfl hconn
    | packet => exact .same rfl hconn

/-- What is expected behind what an action brings. -/
def itemsBehind (conn : Connection) (items : List Item) : Option Arrival → List Item
  | none => items
  | some a => (conn.itemsIn items a).rest

/-- Every read of the connection in the run does what it should, while there is one. -/
def Demultiplexes (sockfd : Nat) : List Item → Server → List ServerAct → Prop
  | _, _, [] => True
  | items, s, act :: acts => ∀ conn, s.readable sockfd = some conn →
      (∀ a, s.arrivalOn sockfd act = some a → conn.ReadDemultiplexed items a) ∧
        ∀ s' effects, s.step act = .ok (s', effects) →
          Demultiplexes sockfd (itemsBehind conn items (s.arrivalOn sockfd act)) s' acts

theorem demultiplexes_gone {sockfd : Nat} {items : List Item} {s : Server} {acts : List ServerAct}
    (h : s.readable sockfd = none) : Demultiplexes sockfd items s acts := by
  cases acts with
  | nil => trivial
  | cons act acts =>
    intro conn hconn
    rw [h] at hconn
    cases hconn

/-- **In every run of the server** in which the reads of a connection bring its items one
at a time, they are demultiplexed. -/
theorem run_demultiplexes {sockfd : Nat} {acts : List ServerAct} : ∀ {s : Server}
    {conn : Connection} {items : List Item}, s.readable sockfd = some conn →
    conn.rtsp.request.isRtpOverTcp = true →
    conn.inputBuffer ++ (acts.filterMap (chunkOn sockfd)).flatten <+: items.flatMap Item.bytes →
    Connection.OneAtATime items conn.inputBuffer (acts.filterMap (chunkOn sockfd)) →
    Demultiplexes sockfd items s acts := by
  induction acts with
  | nil => exact fun _ _ _ _ => trivial
  | cons act acts ih =>
    intro s conn items hconn hmode hstream hone conn' hconn'
    obtain rfl : conn = conn' := Option.some.inj (hconn.symm.trans hconn')
    have hchunk := arrivalOn_chunkOn sockfd s act
    cases harrival : s.arrivalOn sockfd act with
    | none =>
      rw [harrival] at hchunk
      rw [List.filterMap_cons_none hchunk.symm] at hstream hone
      constructor
      · intro a ha
        cases ha
      · intro s' effects hstep
        cases step_touched hconn hstep with
        | same quiet still => exact ih still hmode hstream hone
        | read a r arrival =>
          rw [harrival] at arrival
          cases arrival
        | gone none_ => exact demultiplexes_gone none_
    | some a =>
      rw [harrival] at hchunk
      rw [List.filterMap_cons_some hchunk.symm] at hstream hone
      obtain ⟨hnow, hlater⟩ := hone
      obtain ⟨hreceived, hrest⟩ := Connection.stream_read hstream
      have hread := Connection.readDemultiplexed_of_oneItem hmode hreceived hnow
      constructor
      · intro a' ha'
        cases ha'
        exact hread
      · intro s' effects hstep
        cases step_touched hconn hstep with
        | same quiet =>
          rw [harrival] at quiet
          cases quiet
        | read a' r arrival handled ok next =>
          rw [harrival] at arrival
          cases arrival
          obtain ⟨hleft, hkeeps⟩ := Connection.handleItems_kept (hread.handled ▸ handled) ok
          exact ih next (hkeeps hmode) (hleft ▸ hrest) (hleft ▸ hlater)
        | gone none_ => exact demultiplexes_gone none_

end Server
end MyRtspServer.Net
