import MyRtspServer.Net.H264Demux

/-!
# What `GetFrameFromAACFile` returns

The reader takes any header bytes that begin with the sync word, trusts the length
they announce, and does not look at how much its reads have delivered. Its frame is
one of the file exactly when header and body arrive whole.
-/
namespace MyRtspServer.Net

open Library

/-! ## The header -/

namespace File

/-- What a `read` brings. -/
def brought (file : File) (answer : Option Nat) (count : Nat) : List UInt8 :=
  ((file.read answer count).1).getD []

/-- The header bytes that arrive, and where they stand: at the position, or at the
start of the file when nothing came from there. -/
def adtsFound (file : File) (answer : Nat → Option Nat) : List UInt8 × Nat :=
  if file.brought (answer 0) 7 ≠ [] then (file.brought (answer 0) 7, file.pos)
  else (file.rewind.brought (answer 1) 7, 0)

def adtsBytes (file : File) (answer : Nat → Option Nat) : List UInt8 := (file.adtsFound answer).1

def adtsStart (file : File) (answer : Nat → Option Nat) : Nat := (file.adtsFound answer).2

def behindHeader (file : File) (answer : Nat → Option Nat) : File :=
  { file with pos := file.adtsStart answer + (file.adtsBytes answer).length }

/-- The bytes at a position, as the parser would see them. -/
def view (file : File) (start : Nat) : Memory := fun i => file.content.getD (start + i) 0

theorem read_after (file : File) (answer : Option Nat) (count : Nat) :
    (file.read answer count).2 =
      { file with pos := file.pos + (file.brought answer count).length } := by
  unfold brought read
  split <;> rfl

theorem brought_found (file : File) (answer : Option Nat) (count : Nat) :
    (file.brought answer count).length ≤ count ∧
      file.brought answer count <+: file.content.drop file.pos := by
  unfold brought read
  split
  · exact ⟨Nat.zero_le _, List.nil_prefix⟩
  · exact ⟨Nat.le_trans (List.length_take_le' ..) (List.length_take_le ..),
      (List.take_prefix ..).trans (List.take_prefix ..)⟩

theorem adtsBytes_found (file : File) (answer : Nat → Option Nat) :
    (file.adtsBytes answer).length ≤ 7 ∧
      file.adtsBytes answer <+: file.content.drop (file.adtsStart answer) := by
  unfold adtsBytes adtsStart adtsFound
  split
  · exact file.brought_found (answer 0) 7
  · exact file.rewind.brought_found (answer 1) 7

end File

/-- A read that brings nothing is repeated from the start of the file. -/
theorem readAdtsHeader_brought (file : File) (env : ReadEnv) : readAdtsHeader file env =
    if file.brought (env.answer 0) 7 ≠ [] then
      (some (env.tmpBuf.store 0 (file.brought (env.answer 0) 7)), (file.read (env.answer 0) 7).2)
    else
      (if file.rewind.brought (env.answer 1) 7 = [] then none
        else some (env.tmpBuf.store 0 (file.rewind.brought (env.answer 1) 7)),
        (file.rewind.read (env.answer 1) 7).2) := by
  have hrewind : (file.read (env.answer 0) 7).2.rewind = file.rewind := by
    rw [File.rewind, File.rewind, file.read_content]
  unfold readAdtsHeader File.brought
  rcases h0 : file.read (env.answer 0) 7 with ⟨_ | (_ | ⟨b, bytes⟩), after⟩
  · rw [h0] at hrewind
    simp only [hrewind]
    rcases file.rewind.read (env.answer 1) 7 with ⟨_ | (_ | ⟨b, bytes⟩), after1⟩ <;> rfl
  · rw [h0] at hrewind
    simp only [hrewind]
    rcases file.rewind.read (env.answer 1) 7 with ⟨_ | (_ | ⟨b, bytes⟩), after1⟩ <;> rfl
  · rfl

theorem readAdtsHeader_eq (file : File) (env : ReadEnv) : readAdtsHeader file env =
    (if file.adtsBytes env.answer = [] then none
      else some (env.tmpBuf.store 0 (file.adtsBytes env.answer)),
      file.behindHeader env.answer) := by
  rw [readAdtsHeader_brought, File.read_after, File.read_after, File.behindHeader, File.adtsBytes,
    File.adtsStart, File.adtsFound]
  split
  · rfl
  · rfl

/-! ## The frame -/

/-- What the header bytes decide: whether they begin a frame of at most `size`. -/
def AcceptsHeader (m : Memory) (size : Nat) : Prop :=
  adtsSyncword m = true ∧ adtsLength m ≤ size

theorem acceptsHeader_congr {m m' : Memory} (h : ∀ i < 7, m i = m' i) (size : Nat) :
    adtsLength m = adtsLength m' ∧ (AcceptsHeader m size ↔ AcceptsHeader m' size) := by
  have hlen : adtsLength m = adtsLength m' := by
    rw [adtsLength, adtsLength, h 3 (by omega), h 4 (by omega), h 5 (by omega)]
  have hsync : adtsSyncword m = adtsSyncword m' := by
    rw [adtsSyncword, adtsSyncword, h 0 (by omega), h 1 (by omega)]
  exact ⟨hlen, by rw [AcceptsHeader, AcceptsHeader, hlen, hsync]⟩

/-- The value returned is the length of a frame in the file, and the frame is in the
buffer, the first thing there and all that was written. -/
structure FileFrame (file : File) (answer : Nat → Option Nat) (buf : Memory) (size : Nat)
    (got : GotFrame) : Prop where
  seven_le : 7 ≤ got.size
  le_size : got.size ≤ size
  announced : got.size = adtsLength (file.view (file.adtsStart answer))
  bytes : got.buffer.load 0 got.size.toNat =
    (file.content.drop (file.adtsStart answer)).take got.size.toNat
  rest : ∀ i, got.size.toNat ≤ i → got.buffer i = buf i
  advanced : got.file = { file with pos := file.adtsStart answer + got.size.toNat }

/-- Nothing stays in a call of what `tmp_buf` and the buffer held before. -/
structure SameFrame (got got' : GotFrame) : Prop where
  size : got.size = got'.size
  file : got.file = got'.file
  bytes : got.buffer.load 0 got.size.toNat = got'.buffer.load 0 got.size.toNat

/-- What is owed of `GetFrameFromAACFile` on a file whose reads are answered like
this: no copy leaves the buffer, a frame is one of the file, and stale bytes do
not show. -/
structure FramesFromFile (file : File) (answer : Nat → Option Nat) (size : Nat) : Prop where
  returns : ∀ tmpBuf header buf,
    ∃ r, getFrameFromAACFile file ⟨answer, tmpBuf⟩ header buf size = .ok r ∧
      (r.1.size ≠ -1 → FileFrame file answer buf size r.1)
  same : ∀ tmpBuf tmpBuf' header header' buf buf' r r',
    getFrameFromAACFile file ⟨answer, tmpBuf⟩ header buf size = .ok r →
      getFrameFromAACFile file ⟨answer, tmpBuf'⟩ header' buf' size = .ok r' → SameFrame r.1 r'.1

/-- Header and body arrive whole, unless the frame is refused: no header bytes, none
that could begin a frame of at most `size`, or an error behind them. -/
def WholeReads (file : File) (answer : Nat → Option Nat) (size : Nat) : Prop :=
  ∀ m most, file.adtsBytes answer ≠ [] → Holds m (file.adtsBytes answer) →
    AcceptsHeader m size → answer 2 = some most →
      (file.adtsBytes answer).length = 7 ∧ 7 ≤ adtsLength m ∧ adtsLength m - 7 ≤ most ∧
        file.adtsStart answer + adtsLength m ≤ file.content.length

/-! ## One call -/

section Call

variable {file : File} {answer : Nat → Option Nat} {tmpBuf : Memory} {size : Nat}
  (header : AdtsHeader) (buf : Memory)

/-- No header, or one that is not accepted: nothing is written. -/
theorem getFrameFromAACFile_refused (h : file.adtsBytes answer = [] ∨
    ¬ AcceptsHeader (tmpBuf.store 0 (file.adtsBytes answer)) size) :
    ∃ header', getFrameFromAACFile file ⟨answer, tmpBuf⟩ header buf size =
      .ok (⟨file.behindHeader answer, buf, -1⟩, header') := by
  unfold getFrameFromAACFile
  rw [readAdtsHeader_eq]
  by_cases hnil : file.adtsBytes answer = []
  · rw [if_pos hnil]
    exact ⟨header, rfl⟩
  · rw [if_neg hnil]
    dsimp only
    cases hparse : parseAdtsHeader (tmpBuf.store 0 (file.adtsBytes answer)) with
    | none => exact ⟨{}, rfl⟩
    | some parsed =>
      obtain ⟨hsync, hlen⟩ := parseAdtsHeader_some hparse
      have hlong : size < parsed.aacFrameLength.toNat := by
        rw [hlen]
        by_contra hle
        exact (h.resolve_left hnil) ⟨hsync, Nat.not_lt.mp hle⟩
      dsimp only
      rw [if_pos hlong]
      exact ⟨parsed, rfl⟩

/-- What the read behind an accepted header leaves, for a frame of `length` bytes. -/
def bodyRead (header : AdtsHeader) (buf : Memory) (length : Nat) :
    Option (List UInt8) × File → Except RtpFault (GotFrame × AdtsHeader)
  | (none, after) => .ok (⟨after, buf, -1⟩, header)
  | (some bytes, after) =>
    if 7 + bytes.length ≤ frameMaxSize then .ok (⟨after, buf.store 7 bytes, length⟩, header)
    else .error .outOfBounds

theorem getFrameFromAACFile_accepted (hne : file.adtsBytes answer ≠ [])
    (h : AcceptsHeader (tmpBuf.store 0 (file.adtsBytes answer)) size) :
    ∃ header' : AdtsHeader,
      header'.aacFrameLength.toNat = adtsLength (tmpBuf.store 0 (file.adtsBytes answer)) ∧
      getFrameFromAACFile file ⟨answer, tmpBuf⟩ header buf size =
        bodyRead header' (buf.store 0 ((tmpBuf.store 0 (file.adtsBytes answer)).load 0 7))
          (adtsLength (tmpBuf.store 0 (file.adtsBytes answer)))
          ((file.behindHeader answer).read (answer 2) (header'.aacFrameLength - 7).toNat) := by
  unfold getFrameFromAACFile
  rw [readAdtsHeader_eq, if_neg hne]
  dsimp only
  cases hparse : parseAdtsHeader (tmpBuf.store 0 (file.adtsBytes answer)) with
  | none =>
    have hsync := parseAdtsHeader_none hparse
    rw [h.1] at hsync
    cases hsync
  | some parsed =>
    obtain ⟨-, hlen⟩ := parseAdtsHeader_some hparse
    refine ⟨parsed, hlen, ?_⟩
    have hfits := h.2
    dsimp only
    rw [if_neg (by omega), hlen]
    unfold bodyRead
    rcases (file.behindHeader answer).read (answer 2) (parsed.aacFrameLength - 7).toNat with
      ⟨_ | bytes, after⟩
    · rfl
    · rfl

theorem body_count {header' : AdtsHeader} {length : Nat}
    (hlen : header'.aacFrameLength.toNat = length) (hseven : 7 ≤ length) :
    (header'.aacFrameLength - 7).toNat = length - 7 := by
  have hle : (7 : UInt32) ≤ header'.aacFrameLength := by
    rw [UInt32.le_iff_toNat_le, hlen]
    exact hseven
  rw [UInt32.toNat_sub_of_le _ _ hle, hlen]
  rfl

/-- A whole header is the one in the file. -/
theorem whole_header (tmpBuf : Memory) (h : (file.adtsBytes answer).length = 7) :
    ∀ i < 7, tmpBuf.store 0 (file.adtsBytes answer) i = file.view (file.adtsStart answer) i := by
  intro i hi
  have hload := Memory.load_store tmpBuf 0 (file.adtsBytes answer)
  have hthere := List.prefix_iff_eq_take.mp (file.adtsBytes_found answer).2
  generalize tmpBuf.store 0 (file.adtsBytes answer) = m at *
  have hbyte : (m.load 0 7)[i]? = some (m (0 + i)) := Memory.load_getElem? m hi
  rw [h] at hload hthere
  rw [hload, hthere, List.getElem?_take_of_lt hi, List.getElem?_drop, Nat.zero_add] at hbyte
  rw [File.view, List.getD_eq_getElem?_getD, hbyte]
  rfl

/-- An accepted header that arrives whole, with its body, is a frame of the file. -/
theorem getFrameFromAACFile_whole (hw : WholeReads file answer size)
    (hne : file.adtsBytes answer ≠ [])
    (h : AcceptsHeader (tmpBuf.store 0 (file.adtsBytes answer)) size) {most : Nat}
    (hmost : answer 2 = some most) :
    (file.adtsBytes answer).length = 7 ∧
      ∃ r, getFrameFromAACFile file ⟨answer, tmpBuf⟩ header buf size = .ok r ∧
        FileFrame file answer buf size r.1 := by
  have hholds : Holds (tmpBuf.store 0 (file.adtsBytes answer)) (file.adtsBytes answer) :=
    Memory.load_store tmpBuf 0 _
  obtain ⟨hseven, hlong, hbody, hroom⟩ := hw _ most hne hholds h hmost
  obtain ⟨header', hlen, hcall⟩ := getFrameFromAACFile_accepted header buf hne h
  obtain ⟨hannounced, -⟩ := acceptsHeader_congr (whole_header tmpBuf hseven) size
  have hfits := h.2
  generalize adtsLength (tmpBuf.store 0 (file.adtsBytes answer)) = length at *
  have hmax : 8192 ≤ frameMaxSize := by decide
  have hlt := adtsLength_lt (file.view (file.adtsStart answer))
  have hbytes : file.adtsBytes answer = (file.content.drop (file.adtsStart answer)).take 7 :=
    (List.prefix_iff_eq_take.mp (file.adtsBytes_found answer).2).trans (by rw [hseven])
  rw [Holds, hseven] at hholds
  have htake : ((file.content.drop (file.adtsStart answer + 7)).take (length - 7)).length =
      length - 7 := by
    rw [List.length_take, List.length_drop]
    omega
  have hread : (file.behindHeader answer).read (answer 2) (header'.aacFrameLength - 7).toNat =
      (some ((file.content.drop (file.adtsStart answer + 7)).take (length - 7)),
        { file with pos := file.adtsStart answer + length }) := by
    rw [hmost, body_count hlen hlong, File.read, File.behindHeader, hseven]
    dsimp only
    rw [List.take_of_length_le (by omega), htake,
      show file.adtsStart answer + 7 + (length - 7) = file.adtsStart answer + length by omega]
  have hjoin : (file.content.drop (file.adtsStart answer)).take 7 ++
      (file.content.drop (file.adtsStart answer + 7)).take (length - 7) =
        (file.content.drop (file.adtsStart answer)).take length := by
    rw [← List.drop_drop, ← List.take_add, show 7 + (length - 7) = length by omega]
  rw [hread, bodyRead, htake, if_pos (by omega), hholds] at hcall
  refine ⟨hseven, _, hcall, ?_⟩
  constructor
  · exact Int.ofNat_le.mpr hlong
  · exact Int.ofNat_le.mpr hfits
  · exact congrArg Nat.cast hannounced
  · have hload := Memory.load_store_next (buf.store 0 (file.adtsBytes answer)) 0 7
      ((file.content.drop (file.adtsStart answer + 7)).take (length - 7))
    have hfront := Memory.load_store buf 0 (file.adtsBytes answer)
    rw [hseven] at hfront
    rw [htake, hfront, hbytes, hjoin, Nat.zero_add, show 7 + (length - 7) = length by omega]
      at hload
    rw [Int.toNat_natCast, hbytes]
    exact hload
  · intro i hi
    have hout : ¬ (7 ≤ i ∧ i < 7 + (length - 7)) := by
      rw [Int.toNat_natCast] at hi
      omega
    have hfront : ¬ (0 ≤ i ∧ i < 0 + 7) := by
      rw [Int.toNat_natCast] at hi
      omega
    simp only [Memory.store, htake, hseven, hout, hfront, if_false]
  · rfl

/-- Whether a frame is returned is settled by the file and the reads. -/
def Delivers (file : File) (answer : Nat → Option Nat) (size : Nat) : Prop :=
  (file.adtsBytes answer).length = 7 ∧ AcceptsHeader (file.view (file.adtsStart answer)) size ∧
    ∃ most, answer 2 = some most

/-- Either a frame of the file comes back, or nothing but the header was read. -/
theorem getFrameFromAACFile_outcome (hw : WholeReads file answer size) (tmpBuf : Memory) :
    ∃ r, getFrameFromAACFile file ⟨answer, tmpBuf⟩ header buf size = .ok r ∧
      (Delivers file answer size → FileFrame file answer buf size r.1) ∧
      (¬ Delivers file answer size → r.1.size = -1 ∧ r.1.file = file.behindHeader answer) := by
  have hrefused : file.adtsBytes answer = [] ∨
      ¬ AcceptsHeader (tmpBuf.store 0 (file.adtsBytes answer)) size →
        ∃ r, getFrameFromAACFile file ⟨answer, tmpBuf⟩ header buf size = .ok r ∧
          (Delivers file answer size → FileFrame file answer buf size r.1) ∧
          (¬ Delivers file answer size → r.1.size = -1 ∧ r.1.file = file.behindHeader answer) := by
    intro hno
    obtain ⟨header', hcall⟩ := getFrameFromAACFile_refused header buf hno
    refine ⟨_, hcall, fun hyes => ?_, fun _ => ⟨rfl, rfl⟩⟩
    rcases hno with hnil | hno
    · have hseven := hyes.1
      rw [hnil] at hseven
      cases hseven
    · exact absurd ((acceptsHeader_congr (whole_header tmpBuf hyes.1) size).2.mpr hyes.2.1) hno
  by_cases hnil : file.adtsBytes answer = []
  · exact hrefused (Or.inl hnil)
  by_cases hacc : AcceptsHeader (tmpBuf.store 0 (file.adtsBytes answer)) size
  · cases hmost : answer 2 with
    | none =>
      obtain ⟨header', -, hcall⟩ := getFrameFromAACFile_accepted header buf hnil hacc
      rw [hmost] at hcall
      refine ⟨_, hcall, fun hyes => ?_, fun _ => ⟨rfl, rfl⟩⟩
      obtain ⟨most, hsome⟩ := hyes.2.2
      rw [hmost] at hsome
      cases hsome
    | some most =>
      obtain ⟨hseven, r, hcall, hframe⟩ := getFrameFromAACFile_whole header buf hw hnil hacc hmost
      have hview := (acceptsHeader_congr (whole_header tmpBuf hseven) size).2.mp hacc
      exact ⟨r, hcall, fun _ => hframe, fun hno => absurd ⟨hseven, hview, most, hmost⟩ hno⟩
  · exact hrefused (Or.inr hacc)

end Call

theorem store_of_holds {m : Memory} {bytes : List UInt8} (h : Holds m bytes) :
    m.store 0 bytes = m := by
  funext i
  by_cases hi : i < bytes.length
  · have hbyte : (m.load 0 bytes.length)[i]? = some (m (0 + i)) := Memory.load_getElem? m hi
    rw [h, Nat.zero_add] at hbyte
    simp only [Memory.store, Nat.zero_le, Nat.zero_add, hi, and_self, if_true, Nat.sub_zero]
    rw [List.getD_eq_getElem?_getD, hbyte]
    rfl
  · simp only [Memory.store, Nat.zero_add, hi, and_false, if_false]

/-- A reader that only returns frames of the file has read them whole: with the right
bytes on the stack it accepts any header bytes that could begin a frame. -/
theorem FramesFromFile.wholeReads {file : File} {answer : Nat → Option Nat} {size : Nat}
    (h : FramesFromFile file answer size) : WholeReads file answer size := by
  intro m most hne hholds hacc hmost
  obtain ⟨hshort, hthere⟩ := file.adtsBytes_found answer
  have hstack := store_of_holds hholds
  obtain ⟨r, hr, hframe⟩ := h.returns m {} fun _ => 0
  have hacc' : AcceptsHeader (m.store 0 (file.adtsBytes answer)) size := by
    rw [hstack]
    exact hacc
  obtain ⟨header', hlen, hcall⟩ := getFrameFromAACFile_accepted {} (fun _ => 0) hne hacc'
  rw [hstack] at hlen hcall
  rw [hr, hmost, File.read, File.behindHeader] at hcall
  dsimp only [bodyRead] at hcall
  split at hcall
  · cases hcall
    have hgot := hframe (by dsimp only; omega)
    have hseven : 7 ≤ adtsLength m := Int.ofNat_le.mp hgot.seven_le
    have hend := congrArg File.pos hgot.advanced
    have hlength := hthere.length_le
    rw [List.length_drop] at hlength
    dsimp only at hend
    rw [body_count hlen hseven, List.length_take, List.length_take, List.length_drop,
      Int.toNat_natCast] at hend
    omega
  · cases hcall

/-- **The frames are those of the file exactly when headers and bodies arrive whole.** -/
theorem framesFromFile_iff (file : File) (answer : Nat → Option Nat) (size : Nat) :
    FramesFromFile file answer size ↔ WholeReads file answer size := by
  refine ⟨FramesFromFile.wholeReads, fun hw => ⟨fun tmpBuf header buf => ?_, ?_⟩⟩
  · obtain ⟨r, hcall, hyes, hno⟩ := getFrameFromAACFile_outcome header buf hw tmpBuf
    refine ⟨r, hcall, fun hsize => hyes ?_⟩
    by_contra hrefused
    exact hsize (hno hrefused).1
  · intro tmpBuf tmpBuf' header header' buf buf' r r' hr hr'
    obtain ⟨q, hcall, hyes, hno⟩ := getFrameFromAACFile_outcome header buf hw tmpBuf
    obtain ⟨q', hcall', hyes', hno'⟩ := getFrameFromAACFile_outcome header' buf' hw tmpBuf'
    rw [hr] at hcall
    rw [hr'] at hcall'
    cases hcall
    cases hcall'
    by_cases hd : Delivers file answer size
    · have hframe := hyes hd
      have hframe' := hyes' hd
      have hsize : r.1.size = r'.1.size := hframe.announced.trans hframe'.announced.symm
      refine ⟨hsize, ?_, ?_⟩
      · rw [hframe.advanced, hframe'.advanced, hsize]
      · rw [hframe.bytes, hsize, hframe'.bytes]
    · obtain ⟨hsize, hfile⟩ := hno hd
      obtain ⟨hsize', hfile'⟩ := hno' hd
      refine ⟨hsize.trans hsize'.symm, hfile.trans hfile'.symm, ?_⟩
      rw [hsize]
      rfl

/-- The header announces nine bytes; the file ends behind the eighth. -/
def cutFrame : File := { content := [0xff, 0xf1, 0x50, 0x80, 0x01, 0x3f, 0xfc, 0xaa] }

theorem cutFrame_not_from_file :
    ¬ FramesFromFile cutFrame (fun _ => some frameMaxSize) frameMaxSize := by
  intro h
  obtain ⟨r, hr, hframe⟩ := h.returns (fun _ => 0) {} fun _ => 0
  have hcall : getFrameFromAACFile cutFrame ⟨fun _ => some frameMaxSize, fun _ => 0⟩ {} (fun _ => 0)
      frameMaxSize = .ok (⟨{ cutFrame with pos := 8 }, _, 9⟩, _) := rfl
  rw [hcall] at hr
  cases hr
  have hend := congrArg File.pos (hframe (by decide)).advanced
  exact absurd hend (by decide)

end MyRtspServer.Net
