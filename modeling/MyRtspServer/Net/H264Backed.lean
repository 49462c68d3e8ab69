import MyRtspServer.Net.AacContract
import MyRtspServer.Net.H264Demux

/-!
# Which bytes `H264MediaSource::ReadFrame` relies on

The tests for start codes look at the buffer before anybody looks at how much was
read, and nothing asks whether bytes are left behind the start code. The bytes
read decide whether that does any harm.
-/
namespace MyRtspServer.Net

open Library Library.AnnexB

/-! ## The bytes that are looked at -/

/-- The positions at which `bytesAre` compares. -/
def bytesAreReads (m : Memory) : List UInt8 → Nat → List Nat
  | [], _ => []
  | b :: code, p => p :: if p < frameMaxSize ∧ m p = b then bytesAreReads m code (p + 1) else []

def startCodeReads (m : Memory) (p : Nat) : List Nat :=
  bytesAreReads m [0, 0, 1] p ++
    match startCode3 m p with
    | .ok false => bytesAreReads m [0, 0, 0, 1] p
    | _ => []

def scanReads (m : Memory) : Nat → Nat → List Nat
  | 0, p => bytesAreReads m [0, 0, 1] p
  | left + 1, p =>
    startCodeReads m p ++
      match startCode m p with
      | .ok false => scanReads m left (p + 1)
      | _ => []

def findNextReads (m : Memory) (p len : Nat) : List Nat :=
  if len < 3 then [] else scanReads m (len - 3) p

/-- All positions of one `GetFrameFromH264File`. The test in `ReadFrame` itself only
repeats the first. -/
def h264Reads (file : File) (env : ReadEnv) (frame : Memory) : List Nat :=
  let got := (file.read (env.answer 0) frameMaxSize).1
  let m := received frame got
  startCodeReads m 0 ++
    match startCode m 0 with
    | .ok true => findNextReads m 3 ((readReturn got - 3) % 2 ^ 32).toNat
    | _ => []

/-- The bytes this call gets from the file. -/
def File.bytesRead (file : File) (env : ReadEnv) : Octets :=
  ((file.read (env.answer 0) frameMaxSize).1).getD []

/-- A position that is looked at is one up to which everything was as expected. -/
theorem bytesAreReads_matched {m : Memory} {code : List UInt8} : ∀ {p q : Nat},
    q ∈ bytesAreReads m code p →
      p ≤ q ∧ q < p + code.length ∧ m.load p (q - p) = code.take (q - p) := by
  induction code with
  | nil =>
    intro p q h
    cases h
  | cons b code ih =>
    intro p q h
    rw [bytesAreReads, List.mem_cons] at h
    rcases h with rfl | h
    · rw [List.length_cons, Nat.sub_self]
      exact ⟨Nat.le_refl q, by omega, rfl⟩
    · split at h
      · rename_i hb
        obtain ⟨hle, hlt, hload⟩ := ih h
        rw [List.length_cons]
        refine ⟨by omega, by omega, ?_⟩
        rw [show q - p = 1 + (q - (p + 1)) by omega, Memory.load_add, hload, Nat.add_comm 1,
          List.take_succ_cons, ← hb.2]
        rfl
      · cases h

/-- **What is not looked at does not matter.** -/
theorem bytesAre_local {m m' : Memory} {code : List UInt8} : ∀ {p : Nat},
    (∀ q ∈ bytesAreReads m code p, m' q = m q) → bytesAre m' code p = bytesAre m code p := by
  induction code with
  | nil => exact fun _ => rfl
  | cons b code ih =>
    intro p h
    have hp : m' p = m p := h p List.mem_cons_self
    rw [bytesAre, bytesAre, hp]
    by_cases hb : p < frameMaxSize ∧ m p = b
    · rw [if_pos hb.1, if_pos hb.2, if_pos hb.1, if_pos hb.2]
      refine ih fun q hq => h q ?_
      rw [bytesAreReads, if_pos hb]
      exact List.mem_cons_of_mem _ hq
    · by_cases hin : p < frameMaxSize
      · rw [if_pos hin, if_pos hin, if_neg fun heq => hb ⟨hin, heq⟩,
          if_neg fun heq => hb ⟨hin, heq⟩]
      · rw [if_neg hin, if_neg hin]

theorem startCodeReads_lt {m : Memory} {p q : Nat} (h : q ∈ startCodeReads m p) : q < p + 4 := by
  rw [startCodeReads, List.mem_append] at h
  rcases h with h | h
  · exact Nat.lt_succ_of_lt (bytesAreReads_matched h).2.1
  · split at h
    · exact (bytesAreReads_matched h).2.1
    · cases h

/-- The scan stays in front of the end it was given. -/
theorem scanReads_lt {m : Memory} {left q : Nat} : ∀ {p : Nat}, q ∈ scanReads m left p →
    q < p + left + 3 := by
  induction left with
  | zero => exact fun h => (bytesAreReads_matched h).2.1
  | succ left ih =>
    intro p h
    rw [scanReads, List.mem_append] at h
    rcases h with h | h
    · have := startCodeReads_lt h
      omega
    · split at h
      · have := ih h
        omega
      · cases h

/-! ## The test in front -/

section Front

variable {m : Memory} {b : Octets}

/-- Three zeros: what must not be the end of what was read. -/
def zeros3 : Octets := [0, 0, 0]

/-- A test that reaches behind the bytes read has found nothing but zeros in them. -/
theorem zeros_of_reads (hm : Holds m b) {code : List UInt8} (hcode : code.dropLast <+: zeros3)
    {q : Nat} (hq : q ∈ bytesAreReads m code 0) (hlong : b.length ≤ q) : b <+: zeros3 := by
  obtain ⟨-, hlt, hload⟩ := bytesAreReads_matched hq
  have hb : b = code.take b.length := by
    have htake := congrArg (List.take b.length) hload
    rw [Nat.sub_zero, Memory.load_take m hlong, List.take_take, Nat.min_eq_left hlong, hm] at htake
    exact htake
  rw [hb]
  exact (take_prefix_dropLast (by omega)).trans hcode

theorem startCodeReads_inside (hm : Holds m b) (hb : ¬ b <+: zeros3) :
    ∀ q ∈ startCodeReads m 0, q < b.length := by
  intro q hq
  by_contra hlong
  rw [startCodeReads, List.mem_append] at hq
  rcases hq with hq | hq
  · exact hb (zeros_of_reads hm (by decide) hq (Nat.not_lt.mp hlong))
  · split at hq
    · exact hb (zeros_of_reads hm (by decide) hq (Nat.not_lt.mp hlong))
    · cases hq

/-- At most three zeros are looked past. -/
theorem startCodeReads_past (hm : Holds m b) (hb : b <+: zeros3) :
    b.length ∈ startCodeReads m 0 := by
  have hall : ∀ i < b.length, m i = 0 := by
    intro i hi
    have hi' : (m.load 0 b.length)[i]? = some (m (0 + i)) := Memory.load_getElem? m hi
    rw [hm, Nat.zero_add, List.getElem?_eq_getElem hi] at hi'
    have hmem : m i ∈ zeros3 := hb.subset (Option.some.inj hi' ▸ List.getElem_mem hi)
    simpa [zeros3] using hmem
  have hmax : 3 < frameMaxSize := by decide
  have hlen : b.length ≤ 3 := hb.length_le
  rw [startCodeReads]
  obtain h | h | h | h : b.length = 0 ∨ b.length = 1 ∨ b.length = 2 ∨ b.length = 3 := by omega
  · rw [h]
    simp [bytesAreReads]
  · have h0 := hall 0 (by omega)
    rw [h]
    simp [bytesAreReads, h0, show 0 < frameMaxSize by omega]
  · have h0 := hall 0 (by omega)
    have h1 := hall 1 (by omega)
    rw [h]
    simp [bytesAreReads, h0, h1, show 0 < frameMaxSize by omega, show 1 < frameMaxSize by omega]
  · have h0 := hall 0 (by omega)
    have h1 := hall 1 (by omega)
    have h2 := hall 2 (by omega)
    have h3 : startCode3 m 0 = .ok false := by
      rw [startCode3, bytesAre_ok m [0, 0, 1] (by decide)]
      simp [Memory.load, List.range_succ, h0, h1, h2]
    rw [h, h3]
    simp [bytesAreReads, h0, h1, h2, show 0 < frameMaxSize by omega, show 1 < frameMaxSize by omega,
      show 2 < frameMaxSize by omega]

/-- Unless all bytes read are zeros, the test finds what is in them. -/
theorem starts_of_startCode (hm : Holds m b) (hb : ¬ b <+: zeros3)
    (hcode : startCode m 0 = .ok true) : StartsCode b := by
  have hfound : ∀ code : List UInt8, code.dropLast <+: zeros3 → code.length ≤ frameMaxSize →
      bytesAre m code 0 = .ok true → code <+: b := by
    intro code hzeros hsize hfound
    rw [bytesAre_ok m code (by omega)] at hfound
    have hload : m.load 0 code.length = code := of_decide_eq_true (Except.ok.inj hfound)
    have hlen : code.length ≤ b.length := by
      by_contra hshort
      have hfront : b = code.take b.length := by
        rw [← hload, Memory.load_take m (by omega), hm]
      rw [hfront] at hb
      exact hb ((take_prefix_dropLast (by omega)).trans hzeros)
    rw [← hload, hm.load (by omega), List.drop_zero]
    exact List.take_prefix ..
  rw [startCode] at hcode
  split at hcode
  · exact Or.inr (hfound code4 (by decide) (by decide) hcode)
  · exact Or.inl (hfound code3 (by decide) (by decide) hcode)

end Front

/-! ## What was read -/

theorem File.bytesRead_length (file : File) (env : ReadEnv) :
    (file.bytesRead env).length ≤ frameMaxSize := by
  unfold bytesRead File.read
  split
  · exact Nat.zero_le _
  · exact Nat.le_trans (List.length_take_le' ..) (List.length_take_le ..)

theorem received_bytesRead (file : File) (env : ReadEnv) (frame : Memory) :
    Holds (received frame (file.read (env.answer 0) frameMaxSize).1) (file.bytesRead env) := by
  unfold File.bytesRead
  cases (file.read (env.answer 0) frameMaxSize).1 with
  | none => rfl
  | some b => exact Memory.load_store frame 0 b

theorem read_bytesRead (file : File) (env : ReadEnv) (h : file.bytesRead env ≠ []) :
    ∃ after, file.read (env.answer 0) frameMaxSize = (some (file.bytesRead env), after) := by
  unfold File.bytesRead at h ⊢
  cases hread : file.read (env.answer 0) frameMaxSize with
  | mk got after =>
    rw [hread] at h
    cases got with
    | none => exact absurd rfl h
    | some b => exact ⟨after, rfl⟩

/-! ## The frame behind the start code -/

/-- Where the frame ends that begins with the start code in front of `b`: at the
next one, or with the bytes read. -/
structure EndsAt (b : Octets) (n : Nat) : Prop where
  three_le : 3 ≤ n
  le_length : n ≤ b.length
  quiet : ∀ q, 3 ≤ q → q < n → ¬ StartsCode (b.drop q)
  next : n < b.length → StartsCode (b.drop n)

theorem getFrameFromH264File_ends {file after : File} {env : ReadEnv} {size : Nat} {b : Octets}
    (hread : file.read (env.answer 0) size = (some b, after)) (frame : Memory)
    (hmax : b.length ≤ frameMaxSize) (hcode : StartsCode b) :
    ∃ n file', getFrameFromH264File file env frame size = .ok ⟨file', frame.store 0 b, (n : Nat)⟩ ∧
      EndsAt b n := by
  by_cases hmore : ∃ n, 3 ≤ n ∧ StartsCode (b.drop n)
  · obtain ⟨hstart, hnext⟩ := Nat.find_spec hmore
    have hquiet : ∀ q, 3 ≤ q → q < Nat.find hmore → ¬ StartsCode (b.drop q) :=
      fun q hq hlt hc => Nat.find_min hmore hlt ⟨hq, hc⟩
    refine ⟨_, _, getFrameFromH264File_next hread frame hmax hcode hstart hnext hquiet,
      hstart, ?_, hquiet, fun _ => hnext⟩
    have hroom := hnext.three_le
    rw [List.length_drop] at hroom
    omega
  · have hquiet : ∀ q, 3 ≤ q → q < b.length → ¬ StartsCode (b.drop q) :=
      fun q hq _ hc => hmore ⟨q, hq, hc⟩
    exact ⟨_, _, getFrameFromH264File_rest hread frame hmax hcode hquiet, hcode.three_le,
      Nat.le_refl _, hquiet, fun h => absurd h (Nat.lt_irrefl _)⟩

/-- Behind the code in front of `b` stands `rest`. -/
def Front (b code rest : Octets) : Prop := (code = code3 ∨ code = code4) ∧ b = code ++ rest

theorem front_of_starts {b : Octets} (h : StartsCode b) : ∃ code rest, Front b code rest := by
  rcases h with ⟨rest, hrest⟩ | ⟨rest, hrest⟩
  · exact ⟨code3, rest, Or.inl rfl, hrest.symm⟩
  · exact ⟨code4, rest, Or.inr rfl, hrest.symm⟩

namespace Front

variable {b code rest : Octets}

theorem starts (h : Front b code rest) : StartsCode b := by
  rcases h with ⟨rfl | rfl, rfl⟩
  · exact Or.inl (List.prefix_append _ _)
  · exact Or.inr (List.prefix_append _ _)

theorem three_le (h : Front b code rest) : 3 ≤ code.length := by
  rcases h with ⟨rfl | rfl, -⟩ <;> decide

/-- No other start code begins inside the one in front. -/
theorem quiet (h : Front b code rest) {q : Nat} (hq : 3 ≤ q) (hlt : q < code.length) :
    ¬ StartsCode (b.drop q) := by
  rcases h with ⟨rfl | rfl, rfl⟩
  · exact absurd hlt (Nat.not_lt.mpr hq)
  · obtain rfl : q = 3 := Nat.le_antisymm (Nat.le_of_lt_succ hlt) hq
    rintro (h | h)
    · exact absurd (List.cons_prefix_cons.mp h).1 (by decide)
    · exact absurd (List.cons_prefix_cons.mp h).1 (by decide)

/-- **A frame is left behind the start code** when a byte follows it that does not
begin the next one, and only then. -/
theorem ends_behind_iff (h : Front b code rest) {n : Nat} (hn : EndsAt b n) :
    code.length < n ↔ rest ≠ [] ∧ ¬ StartsCode rest := by
  have hlen : b.length = code.length + rest.length := by rw [h.2, List.length_append]
  have hdrop : b.drop code.length = rest := by rw [h.2, List.drop_left]
  constructor
  · intro hlt
    refine ⟨?_, ?_⟩
    · rintro rfl
      have := hn.le_length
      rw [List.length_nil] at hlen
      omega
    · rw [← hdrop]
      exact hn.quiet _ h.three_le hlt
  · rintro ⟨hne, hclean⟩
    have hpos := List.length_pos_of_ne_nil hne
    by_contra hle
    have hcode := hn.next (by omega)
    rcases Nat.lt_or_ge n code.length with hlt | hge
    · exact h.quiet hn.three_le hlt hcode
    · obtain rfl : n = code.length := by omega
      exact hclean (hdrop ▸ hcode)

/-- `ReadFrame` cuts the start code off. -/
theorem readInto (h : Front b code rest) {file after : File} {env : ReadEnv}
    (hread : file.read (env.answer 0) frameMaxSize = (some b, after)) (frame : AVFrame)
    (hmax : b.length ≤ frameMaxSize) :
    ∃ n file', EndsAt b n ∧ h264ReadInto file env frame = .ok ⟨.h264 file',
      { buffer := frame.buffer.store 0 b, frame := code.length
        frameSize := (n : Int) - code.length }, true⟩ := by
  obtain ⟨n, file', hgot, hn⟩ := getFrameFromH264File_ends hread frame.buffer hmax h.starts
  refine ⟨n, file', hn, ?_⟩
  have hholds : Holds (frame.buffer.store 0 b) b := Memory.load_store frame.buffer 0 b
  have h3 : startCode3 (frame.buffer.store 0 b) 0 = .ok (decide (code3 <+: b)) :=
    bytesAre_prefix hholds hmax (show 0 + 3 ≤ b.length from by have := h.starts.three_le; omega)
  unfold h264ReadInto
  rw [hgot]
  dsimp only
  rw [if_neg (by omega), h3]
  rcases h with ⟨rfl | rfl, rfl⟩
  · have hyes : code3 <+: code3 ++ rest := List.prefix_append _ _
    simp only [hyes, decide_true]
    rfl
  · have hno : ¬ code3 <+: code4 ++ rest := fun h =>
      absurd (List.cons_prefix_cons.mp (List.cons_prefix_cons.mp
        (List.cons_prefix_cons.mp h).2).2).1 (by decide)
    simp only [hno, decide_false]
    rfl

end Front

/-! ## Published frames -/

/-- What is owed of a `ReadFrame` with frame `i` in front of the queue, whatever that
held before: only bytes of this read are looked at, and what is moved to the output
queue is a non-empty range of them. -/
structure Backed (s : MediaSource) (file : File) (env : ReadEnv) (i : FrameIndex) : Prop where
  searched : ∀ q ∈ h264Reads file env (s.frames i).buffer, q < (file.bytesRead env).length
  moved : ∀ s' events j frame, s.readFrame env = .ok (s', events) → .filled j frame ∈ events →
    Holds frame.buffer (file.bytesRead env) ∧ 1 ≤ frame.frameSize ∧
      (frame.frame : Int) + frame.frameSize ≤ (file.bytesRead env).length

/-- The bytes read are more than some zeros of a start code, and one that stands in
front of them is followed by a byte that does not begin the next. -/
def Usable (b : Octets) : Prop :=
  ¬ b <+: zeros3 ∧ ∀ rest, b = code3 ++ rest ∨ b = code4 ++ rest → rest ≠ [] ∧ ¬ StartsCode rest

theorem Usable.front {b code rest : Octets} (h : Usable b) (hfront : Front b code rest) :
    rest ≠ [] ∧ ¬ StartsCode rest := by
  rcases hfront with ⟨rfl | rfl, hb⟩
  · exact h.2 rest (Or.inl hb)
  · exact h.2 rest (Or.inr hb)

theorem h264Reads_inside {file : File} {env : ReadEnv} {frame : Memory}
    (h : Usable (file.bytesRead env)) :
    ∀ q ∈ h264Reads file env frame, q < (file.bytesRead env).length := by
  have hholds := received_bytesRead file env frame
  intro q hq
  rw [h264Reads, List.mem_append] at hq
  rcases hq with hq | hq
  · exact startCodeReads_inside hholds h.1 q hq
  · split at hq
    · rename_i hcode
      have hthree := (starts_of_startCode hholds h.1 hcode).three_le
      obtain ⟨after, hread⟩ := read_bytesRead file env
        (List.ne_nil_of_length_pos (by omega))
      rw [hread, scan_length hthree (file.bytesRead_length env), findNextReads] at hq
      split at hq
      · cases hq
      · have := scanReads_lt hq
        omega
    · cases hq

/-- **Published frames are backed by file data, and only such data is searched,
exactly when the bytes read are usable.** -/
theorem h264_backed_iff (s : MediaSource) (file : File) (env : ReadEnv) (i : FrameIndex)
    (rest : List FrameIndex) (hreader : s.reader = .h264 file) (hque : s.inputQue = i :: rest) :
    Backed s file env i ↔ Usable (file.bytesRead env) := by
  have hmax := file.bytesRead_length env
  constructor
  · intro h
    have hsettled : ¬ file.bytesRead env <+: zeros3 := by
      intro hzeros
      have hpast := startCodeReads_past (received_bytesRead file env (s.frames i).buffer) hzeros
      exact Nat.lt_irrefl _ (h.searched _ (List.mem_append_left _ hpast))
    refine ⟨hsettled, fun more hmore => ?_⟩
    have hfront : ∃ code, Front (file.bytesRead env) code more := by
      rcases hmore with hmore | hmore
      · exact ⟨code3, Or.inl rfl, hmore⟩
      · exact ⟨code4, Or.inr rfl, hmore⟩
    obtain ⟨code, hfront⟩ := hfront
    obtain ⟨after, hread⟩ := read_bytesRead file env
      (List.ne_nil_of_length_pos (Nat.lt_of_lt_of_le (by decide) hfront.starts.three_le))
    obtain ⟨n, file', hn, hinto⟩ := hfront.readInto hread (s.frames i) hmax
    have hread' := (congrArg (fun r : Reader => r.readInto env (s.frames i)) hreader).trans hinto
    obtain ⟨s', hstep⟩ := MediaSource.readFrame_publishes hque hread' rfl
    obtain ⟨-, hone, -⟩ := h.moved s' _ i _ hstep
      (List.mem_cons_of_mem _ (List.mem_singleton_self _))
    dsimp only at hone
    exact (hfront.ends_behind_iff hn).mp (by omega)
  · intro h
    refine ⟨h264Reads_inside h, fun s' events j frame hstep hfilled => ?_⟩
    obtain ⟨_, filled, hque', hinto, hp, rfl⟩ := MediaSource.readFrame_filled hstep hfilled
    obtain ⟨rfl, -⟩ := List.cons.inj (hque'.symm.trans hque)
    rw [hreader] at hinto
    have hcode : startCode (h264Buffer file env (s.frames j).buffer) 0 = .ok true := by
      rw [h264ReadInto_published hinto, Reader.readable] at hp
      exact of_decide_eq_true hp
    have hstarts := starts_of_startCode
      (received_bytesRead file env (s.frames j).buffer) h.1 hcode
    obtain ⟨after, hread⟩ := read_bytesRead file env
      (List.ne_nil_of_length_pos (Nat.lt_of_lt_of_le (by decide) hstarts.three_le))
    obtain ⟨code, more, hfront⟩ := front_of_starts hstarts
    obtain ⟨n, file', hn, hinto'⟩ := hfront.readInto hread (s.frames j) hmax
    rw [Reader.readInto, hinto'] at hinto
    cases hinto
    have hlong := (hfront.ends_behind_iff hn).mpr (h.front hfront)
    have hlen := hn.le_length
    refine ⟨Memory.load_store .., ?_, ?_⟩
    · dsimp only
      omega
    · dsimp only
      omega

/-- A source at the start of an H264 file, before its first `ReadFrame`. -/
def h264Sample (content : List UInt8) : MediaSource :=
  .create (fun _ => {}) (.h264 { content := content })

/-- A slice of one byte, and the start code behind it. -/
def sliceBytes : List UInt8 := [0, 0, 0, 1, 0x65, 0, 0, 1, 0x41]

theorem h264_backed_iff_sample :
    Backed (h264Sample sliceBytes) { content := sliceBytes } MediaSource.wholeReads 0 := by
  refine (h264_backed_iff (h264Sample sliceBytes) _ MediaSource.wholeReads 0 _ rfl rfl).mpr ?_
  change Usable sliceBytes
  refine ⟨by decide, fun rest h => ?_⟩
  rcases h with h | h
  · exact absurd (congrArg (List.take 3) h) (by simp [sliceBytes, code3])
  · cases h
    decide

/-- Two start codes without a byte between them. -/
def adjacentCodes : List UInt8 := [0, 0, 1, 0, 0, 1, 0x65]

theorem h264_adjacent_codes_not_backed :
    ¬ Backed (h264Sample adjacentCodes) { content := adjacentCodes } MediaSource.wholeReads 0 := by
  intro h
  have hone := (h.moved _ _ 0 _ rfl (List.mem_cons_of_mem _ (List.mem_singleton_self _))).2.1
  exact absurd hone (by decide)

end MyRtspServer.Net
