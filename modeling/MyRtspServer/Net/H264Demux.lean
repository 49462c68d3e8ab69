import MyRtspServer.Library.AnnexB
import MyRtspServer.Net.PipelineRuns

/-!
# `H264MediaSource` takes a stream of NAL units apart

Each `ReadFrame` reads a whole buffer, keeps what stands in front of the next start
code and seeks back to it. With units that fit, the frames are the units of the
file, over and over again.
-/
namespace MyRtspServer.Net

open Library Library.AnnexB Library.Transition

/-! ## The search for a start code -/

/-- The bytes at the beginning of a memory. -/
def Holds (m : Memory) (bytes : List UInt8) : Prop := m.load 0 bytes.length = bytes

theorem Holds.load {m : Memory} {bytes : List UInt8} (h : Holds m bytes) {p k : Nat}
    (hk : p + k ≤ bytes.length) : m.load p k = (bytes.drop p).take k := by
  have hdrop : (m.load 0 bytes.length).drop p = m.load p (bytes.length - p) := by
    rw [Memory.load_drop m (by omega), Nat.zero_add]
  rw [h] at hdrop
  rw [hdrop, Memory.load_take m (by omega)]

theorem bytesAre_ok (m : Memory) (code : List UInt8) : ∀ {p : Nat},
    p + code.length ≤ frameMaxSize →
      bytesAre m code p = .ok (decide (m.load p code.length = code)) := by
  induction code with
  | nil => exact fun _ => by simp [bytesAre]
  | cons b code ih =>
    intro p hp
    rw [List.length_cons] at hp
    have hload : m.load p (code.length + 1) = m p :: m.load (p + 1) code.length := by
      rw [Nat.add_comm, Memory.load_add]
      rfl
    rw [bytesAre, if_pos (by omega), List.length_cons, hload]
    split
    · rename_i hb
      rw [ih (by omega)]
      simp [hb]
    · rename_i hb
      simp [hb]

section Scan

variable {m : Memory} {bytes : List UInt8}

/-- Comparing bytes that were read is looking for a prefix. -/
theorem bytesAre_prefix (hm : Holds m bytes) (hmax : bytes.length ≤ frameMaxSize)
    {code : List UInt8} {p : Nat} (hp : p + code.length ≤ bytes.length) :
    bytesAre m code p = .ok (decide (code <+: bytes.drop p)) := by
  have hload : m.load p code.length = code ↔ code <+: bytes.drop p := by
    rw [hm.load hp, List.prefix_iff_eq_take]
    exact eq_comm
  rw [bytesAre_ok m code (by omega)]
  exact congrArg _ (decide_eq_decide.mpr hload)

theorem startCode_ok (hm : Holds m bytes) (hmax : bytes.length ≤ frameMaxSize) {p : Nat}
    (hp : p + 4 ≤ bytes.length) : startCode m p = .ok (decide (StartsCode (bytes.drop p))) := by
  have h3 : startCode3 m p = .ok (decide (code3 <+: bytes.drop p)) :=
    bytesAre_prefix hm hmax (show p + 3 ≤ bytes.length by omega)
  have h4 : startCode4 m p = .ok (decide (code4 <+: bytes.drop p)) :=
    bytesAre_prefix hm hmax hp
  rw [startCode, h3]
  by_cases hshort : code3 <+: bytes.drop p
  · simp [hshort, StartsCode]
  · simp only [hshort, decide_false, h4, StartsCode, false_or]

theorem startCode_of_starts (hm : Holds m bytes) (hmax : bytes.length ≤ frameMaxSize) {p : Nat}
    (hcode : StartsCode (bytes.drop p)) : startCode m p = .ok true := by
  rcases hcode with hshort | hlong
  · have hroom := hshort.length_le
    rw [List.length_drop] at hroom
    change 3 ≤ _ at hroom
    have h3 : startCode3 m p = .ok (decide (code3 <+: bytes.drop p)) :=
      bytesAre_prefix hm hmax (show p + 3 ≤ bytes.length by omega)
    rw [startCode, h3]
    simp only [hshort, decide_true]
  · have hroom := hlong.length_le
    rw [List.length_drop] at hroom
    change 4 ≤ _ at hroom
    rw [startCode_ok hm hmax (by omega)]
    exact congrArg _ (decide_eq_true (Or.inr hlong))

/-- The scan finds the first start code. Only a short one can stand where the
last test is made. -/
theorem scanStartCode_found (hm : Holds m bytes) (hmax : bytes.length ≤ frameMaxSize)
    {target : Nat} (hcode : StartsCode (bytes.drop target))
    (left : Nat) : ∀ {p : Nat}, p + left + 3 = bytes.length → p ≤ target →
      (∀ q, p ≤ q → q < target → ¬ StartsCode (bytes.drop q)) →
        scanStartCode m left p = .ok (some target) := by
  have hroom := hcode.three_le
  rw [List.length_drop] at hroom
  induction left with
  | zero =>
    intro p hlen hle hquiet
    obtain rfl : target = p := by omega
    have hshort : code3 <+: bytes.drop target := by
      refine hcode.resolve_right fun h => ?_
      have hfour := h.length_le
      rw [List.length_drop] at hfour
      change 4 ≤ _ at hfour
      omega
    have h3 : startCode3 m target = .ok (decide (code3 <+: bytes.drop target)) :=
      bytesAre_prefix hm hmax (show target + 3 ≤ bytes.length by omega)
    rw [scanStartCode, h3]
    simp [hshort]
  | succ left ih =>
    intro p hlen hle hquiet
    rw [scanStartCode, startCode_ok hm hmax (by omega)]
    by_cases hp : p = target
    · subst hp
      simp only [hcode, decide_true]
    · simp only [hquiet p (Nat.le_refl p) (by omega), decide_false]
      exact ih (by omega) (by omega) fun q hq => hquiet q (by omega)

theorem scanStartCode_nothing (hm : Holds m bytes) (hmax : bytes.length ≤ frameMaxSize)
    (left : Nat) : ∀ {p : Nat}, p + left + 3 = bytes.length →
      (∀ q, p ≤ q → q < bytes.length → ¬ StartsCode (bytes.drop q)) →
        scanStartCode m left p = .ok none := by
  induction left with
  | zero =>
    intro p hlen hquiet
    have hno : ¬ code3 <+: bytes.drop p :=
      fun h => hquiet p (Nat.le_refl p) (by omega) (Or.inl h)
    have h3 : startCode3 m p = .ok (decide (code3 <+: bytes.drop p)) :=
      bytesAre_prefix hm hmax (show p + 3 ≤ bytes.length by omega)
    rw [scanStartCode, h3]
    simp [hno]
  | succ left ih =>
    intro p hlen hquiet
    rw [scanStartCode, startCode_ok hm hmax (by omega)]
    simp only [hquiet p (Nat.le_refl p) (by omega), decide_false]
    exact ih (by omega) fun q hq => hquiet q (by omega)

/-- `FindNextStartCode` behind the first three bytes. -/
theorem findNextStartCode_found (hm : Holds m bytes) (hmax : bytes.length ≤ frameMaxSize)
    {target : Nat} (hstart : 3 ≤ target) (hcode : StartsCode (bytes.drop target))
    (hquiet : ∀ q, 3 ≤ q → q < target → ¬ StartsCode (bytes.drop q)) :
    findNextStartCode m 3 (bytes.length - 3) = .ok (some target) := by
  have hroom := hcode.three_le
  rw [List.length_drop] at hroom
  rw [findNextStartCode, if_neg (by omega)]
  exact scanStartCode_found hm hmax hcode _ (by omega) hstart hquiet

theorem findNextStartCode_nothing (hm : Holds m bytes) (hmax : bytes.length ≤ frameMaxSize)
    (hquiet : ∀ q, 3 ≤ q → q < bytes.length → ¬ StartsCode (bytes.drop q)) :
    findNextStartCode m 3 (bytes.length - 3) = .ok none := by
  rw [findNextStartCode]
  split
  · rfl
  · exact scanStartCode_nothing hm hmax _ (by omega) hquiet

end Scan

/-! ## One frame -/

/-- `read` of a regular file: all that is there, up to the request. -/
def ReadsAll (size : Nat) (env : ReadEnv) : Prop := ∃ most, env.answer 0 = some most ∧ size ≤ most

/-- The unit in front of the file and the four bytes behind it fit. -/
def UnitFits (size : Nat) (u : NalUnit) (later : List NalUnit) : Prop :=
  (u.bytes ++ (stream later).take 4).length ≤ size

/-- The unit in front of the file and the start code behind it fit. -/
def CodeFits (size : Nat) (u : NalUnit) (later : List NalUnit) : Prop :=
  (u.bytes ++ later.head?.elim [] NalUnit.code).length ≤ size

theorem UnitFits.codeFits {size : Nat} {u : NalUnit} {later : List NalUnit}
    (h : UnitFits size u later) : CodeFits size u later := by
  rw [UnitFits, List.length_append, List.length_take] at h
  rw [CodeFits, List.length_append]
  cases later with
  | nil => exact Nat.le_trans (Nat.le_add_right ..) h
  | cons v more =>
    have hfour := v.four_le_bytes
    have hcode : v.code.length ≤ 4 := by
      rw [v.code_length]
      split <;> omega
    have hstream : (stream (v :: more)).length = v.bytes.length + (stream more).length := by
      rw [stream, List.flatMap_cons, List.length_append]
      rfl
    change u.bytes.length + v.code.length ≤ size
    omega

/-- Where the file stands when a unit has been taken from it. -/
def File.behind (file : File) (u : NalUnit) (later : List NalUnit) : File :=
  { file with pos := if later = [] then 0 else file.pos + u.bytes.length }

theorem read_all (file : File) {env : ReadEnv} {size : Nat} (henv : ReadsAll size env) :
    file.read (env.answer 0) size =
      (some ((file.content.drop file.pos).take size),
        { file with pos := file.pos + ((file.content.drop file.pos).take size).length }) := by
  obtain ⟨most, hanswer, hmost⟩ := henv
  have htake : ((file.content.drop file.pos).take size).take most =
      (file.content.drop file.pos).take size :=
    List.take_of_length_le (by rw [List.length_take]; omega)
  rw [hanswer, File.read]
  simp only [htake]

section Found

variable {file after : File} {env : ReadEnv} {size : Nat} {b : Octets}

/-- The length is computed on `uint32_t`. -/
theorem scan_length {b : Octets} (hthree : 3 ≤ b.length) (hmax : b.length ≤ frameMaxSize) :
    ((readReturn (some b) - 3) % 2 ^ 32).toNat = b.length - 3 := by
  have hbig : frameMaxSize < 2 ^ 32 := by decide
  rw [readReturn]
  omega

/-- No other start code in what was read: all of it is the frame. -/
theorem getFrameFromH264File_rest (hread : file.read (env.answer 0) size = (some b, after))
    (frame : Memory) (hmax : b.length ≤ frameMaxSize) (hcode : StartsCode b)
    (hquiet : ∀ q, 3 ≤ q → q < b.length → ¬ StartsCode (b.drop q)) :
    getFrameFromH264File file env frame size = .ok ⟨after.rewind, frame.store 0 b, b.length⟩ := by
  have hholds : Holds (frame.store 0 b) b := Memory.load_store frame 0 b
  have hfront := startCode_of_starts hholds hmax (p := 0) hcode
  have hnothing := findNextStartCode_nothing hholds hmax hquiet
  simp only [getFrameFromH264File, hread, received, hfront, scan_length hcode.three_le hmax,
    hnothing]
  rfl

/-- The frame ends where the next start code begins. -/
theorem getFrameFromH264File_next (hread : file.read (env.answer 0) size = (some b, after))
    (frame : Memory) (hmax : b.length ≤ frameMaxSize) (hcode : StartsCode b) {next : Nat}
    (hstart : 3 ≤ next) (hnext : StartsCode (b.drop next))
    (hquiet : ∀ q, 3 ≤ q → q < next → ¬ StartsCode (b.drop q)) :
    getFrameFromH264File file env frame size =
      .ok ⟨after.seekCur (next - b.length), frame.store 0 b, next⟩ := by
  have hholds : Holds (frame.store 0 b) b := Memory.load_store frame 0 b
  have hfront := startCode_of_starts hholds hmax (p := 0) hcode
  have hfound := findNextStartCode_found hholds hmax hstart hnext hquiet
  simp only [getFrameFromH264File, hread, received, hfront, scan_length hcode.three_le hmax,
    hfound]
  rfl

end Found

/-- What a read brings: the unit, and the start code of the next one. -/
theorem take_unit {size : Nat} {u : NalUnit} {later : List NalUnit} (hfit : CodeFits size u later) :
    ∃ rest, (u.bytes ++ stream later).take size = u.bytes ++ rest ∧
      (later = [] → rest = []) ∧ (later ≠ [] → StartsCode rest) := by
  rw [CodeFits, List.length_append] at hfit
  refine ⟨(stream later).take (size - u.bytes.length), ?_, ?_, ?_⟩
  · rw [List.take_append, List.take_of_length_le (by omega)]
  · rintro rfl
    exact List.take_nil
  · intro hlater
    obtain ⟨v, more, rfl⟩ := List.exists_cons_of_ne_nil hlater
    have hstream : stream (v :: more) = v.bytes ++ stream more := List.flatMap_cons
    have hroom : v.code.length ≤ size - u.bytes.length := by
      change _ + v.code.length ≤ size at hfit
      omega
    have hfront : v.code <+: v.bytes ++ stream more :=
      (List.prefix_append v.code v.nal).trans (List.prefix_append ..)
    rw [hstream]
    exact startsCode_of_code v (List.prefix_take_iff.mpr ⟨hfront, hroom⟩)

/-- **A unit is taken whole**, and the file stands at the next one. -/
theorem getFrameFromH264File_unit {file : File} {env : ReadEnv} (frame : Memory) {size : Nat}
    {u : NalUnit} {later : List NalUnit}
    (hfile : file.content.drop file.pos = u.bytes ++ stream later) (hfit : CodeFits size u later)
    (hsize : size ≤ frameMaxSize) (henv : ReadsAll size env) :
    ∃ got, getFrameFromH264File file env frame size = .ok got ∧ Holds got.buffer u.bytes ∧
      got.size = u.bytes.length ∧ got.file = file.behind u later := by
  obtain ⟨rest, htake, hlast, hmore⟩ := take_unit hfit
  have hread := read_all file henv
  rw [hfile, htake] at hread
  have hmax : (u.bytes ++ rest).length ≤ frameMaxSize := by
    rw [← htake, List.length_take]
    omega
  have hbuffer : Holds (frame.store 0 (u.bytes ++ rest)) (u.bytes ++ rest) :=
    Memory.load_store frame 0 (u.bytes ++ rest)
  have hfour := u.four_le_bytes
  have hlen : (u.bytes ++ rest).length = u.bytes.length + rest.length := List.length_append
  have hcode := startsCode_bytes u rest
  have hunit : Holds (frame.store 0 (u.bytes ++ rest)) u.bytes := by
    rw [Holds, hbuffer.load (by omega), List.drop_zero, List.take_left]
  by_cases hlater : later = []
  · have hnil := hlast hlater
    refine ⟨_, getFrameFromH264File_rest hread frame hmax hcode ?_, hunit, by simp [hnil], ?_⟩
    · intro q hq hlt
      rw [hnil, List.append_nil] at hlt
      exact not_startsCode_bytes u rest hq hlt
    · simp [File.rewind, File.behind, hlater]
  · have hnext : StartsCode ((u.bytes ++ rest).drop u.bytes.length) := by
      rw [List.drop_left]
      exact hmore hlater
    refine ⟨_, getFrameFromH264File_next hread frame hmax hcode (by omega) hnext ?_, hunit, rfl, ?_⟩
    · exact fun q hq hlt => not_startsCode_bytes u rest hq hlt
    have hseek : ((file.pos + (u.bytes ++ rest).length : Nat) : Int) +
        ((u.bytes.length : Int) - (u.bytes ++ rest).length) =
          (file.pos + u.bytes.length : Nat) := by
      omega
    simp only [File.seekCur, hseek, Int.natCast_nonneg, if_true, Int.toNat_natCast, File.behind,
      if_neg hlater]

/-- What `m_frame_` points to. -/
def AVFrame.nal (frame : AVFrame) : List UInt8 :=
  frame.buffer.load frame.frame frame.frameSize.toNat

/-- The start code is cut off: the frame is the NAL unit. -/
theorem h264ReadInto_unit (file : File) {env : ReadEnv} (frame : AVFrame) {u : NalUnit}
    {later : List NalUnit} (hfile : file.content.drop file.pos = u.bytes ++ stream later)
    (hfit : CodeFits frameMaxSize u later) (henv : ReadsAll frameMaxSize env) :
    ∃ filled, h264ReadInto file env frame = .ok ⟨.h264 (file.behind u later), filled, true⟩ ∧
      filled.nal = u.nal := by
  obtain ⟨got, hgot, hholds, hsize, hbehind⟩ :=
    getFrameFromH264File_unit frame.buffer hfile hfit (Nat.le_refl _) henv
  have hlen := u.bytes_length
  have hmax : u.bytes.length ≤ frameMaxSize := by
    rw [CodeFits, List.length_append] at hfit
    omega
  have hfour := u.four_le_bytes
  have h3 : startCode3 got.buffer 0 = .ok (decide (code3 <+: u.bytes)) :=
    bytesAre_prefix hholds hmax (show 0 + 3 ≤ u.bytes.length by omega)
  have hnal : ∀ k, u.code.length = k →
      got.buffer.load k (got.size - k).toNat = u.nal := by
    intro k hk
    have htoNat : (got.size - k).toNat = u.nal.length := by
      rw [hsize]
      omega
    rw [htoNat, hholds.load (by omega), NalUnit.bytes, ← hk, List.drop_left, List.take_length]
  unfold h264ReadInto
  rw [hgot]
  dsimp only
  rw [if_neg (by omega), h3, hbehind]
  have hcode := u.code_length
  cases hlong : u.long with
  | true =>
    rw [hlong, if_pos rfl] at hcode
    have hno : ¬ code3 <+: u.bytes := by
      rw [NalUnit.bytes, NalUnit.code, hlong, if_pos rfl]
      intro h
      exact absurd (List.cons_prefix_cons.mp (List.cons_prefix_cons.mp
        (List.cons_prefix_cons.mp h).2).2).1 (by decide)
    simp only [hno, decide_false]
    exact ⟨_, rfl, hnal 4 hcode⟩
  | false =>
    rw [hlong] at hcode
    have hyes : code3 <+: u.bytes := by
      rw [NalUnit.bytes, NalUnit.code, hlong]
      exact List.prefix_append _ _
    simp only [hyes, decide_true]
    exact ⟨_, rfl, hnal 3 hcode⟩

/-! ## One pass after another -/

/-- The reader in front of unit `k`. -/
def readerAt (units : List NalUnit) (k : Nat) : Reader :=
  .h264 { content := stream units, pos := (stream (units.take k)).length }

/-- Every unit of the stream fits into a frame buffer. -/
def UnitsFit (units : List NalUnit) : Prop :=
  ∀ pre u later, units = pre ++ u :: later → UnitFits frameMaxSize u later

/-- Every unit fits together with the start code behind it. -/
def CodesFit (units : List NalUnit) : Prop :=
  ∀ pre u later, units = pre ++ u :: later → CodeFits frameMaxSize u later

theorem units_split {units : List NalUnit} {k : Nat} (hk : k < units.length) :
    units = units.take k ++ units[k] :: units.drop (k + 1) := by
  rw [← List.drop_eq_getElem_cons hk, List.take_append_drop]

/-- What stands behind the first `k` units. -/
theorem stream_drop {units : List NalUnit} {k : Nat} (hk : k < units.length) :
    (stream units).drop (stream (units.take k)).length =
      units[k].bytes ++ stream (units.drop (k + 1)) := by
  have hcontent : stream units =
      stream (units.take k) ++ (units[k].bytes ++ stream (units.drop (k + 1))) := by
    conv_lhs => rw [units_split hk]
    simp only [stream, List.flatMap_append, List.flatMap_cons]
  rw [hcontent, List.drop_left]

/-- Unit `k` is read, and the reader stands in front of the next one, or of the
first. -/
theorem readInto_unit {units : List NalUnit} {env : ReadEnv}
    (henv : ReadsAll frameMaxSize env) (frame : AVFrame) {k : Nat} (hk : k < units.length)
    (hfit : CodeFits frameMaxSize units[k] (units.drop (k + 1))) :
    ∃ filled, (readerAt units k).readInto env frame =
        .ok ⟨readerAt units ((k + 1) % units.length), filled, true⟩ ∧
      filled.nal = units[k].nal := by
  have hfile := stream_drop hk
  obtain ⟨filled, hread, hnal⟩ := h264ReadInto_unit
    { content := stream units, pos := (stream (units.take k)).length } frame hfile hfit henv
  refine ⟨filled, hread.trans ?_, hnal⟩
  have hbehind : (stream (units.take k)).length + units[k].bytes.length =
      (stream (units.take (k + 1))).length := by
    rw [List.take_succ_eq_append_getElem hk, stream, stream, List.flatMap_append,
      List.length_append, List.flatMap_singleton]
  rw [readerAt, File.behind, hbehind]
  by_cases hend : k + 1 = units.length
  · rw [if_pos (List.drop_eq_nil_of_le hend.ge), hend, Nat.mod_self]
    rfl
  · have hlt : k + 1 < units.length := Nat.lt_of_le_of_ne hk hend
    rw [if_neg (by simpa using hlt), Nat.mod_eq_of_lt hlt]

/-- A `ReadFrame` with a frame to fill publishes the unit the reader stands at. -/
theorem MediaSource.readFrame_unit {units : List NalUnit} (hfit : CodesFit units)
    {s : MediaSource} {env : ReadEnv} (henv : ReadsAll frameMaxSize env) {k : Nat}
    (hk : k < units.length) (hreader : s.reader = readerAt units k) {i : FrameIndex}
    {rest : List FrameIndex} (hque : s.inputQue = i :: rest) :
    ∃ filled, s.readFrame env =
        .ok ({ frames := Function.update s.frames i filled, inputQue := rest
               outputQue := s.outputQue ++ [i]
               reader := readerAt units ((k + 1) % units.length) },
          [.written i, .filled i filled]) ∧ filled.nal = units[k].nal := by
  obtain ⟨filled, hread, hnal⟩ := readInto_unit henv (s.frames i) hk (hfit _ _ _ (units_split hk))
  refine ⟨filled, ?_, hnal⟩
  unfold readFrame
  rw [hque]
  simp only [hreader, hread, if_true]

namespace Pipeline

/-- The reader stands behind the unit published last, and the `k`-th frame holds
unit `k`, counted around. -/
structure AtUnits (units : List NalUnit) (p : Pipeline) (log : List FrameEvent) : Prop where
  reader : p.source.reader = readerAt units ((filledOf log).length % units.length)
  published : ∀ k f, (filledOf log)[k]? = some f →
    units[k % units.length]?.map NalUnit.nal = some f.2.nal

theorem AtUnits.quiet {units : List NalUnit} {p p' : Pipeline} {log events : List FrameEvent}
    (h : AtUnits units p log) (hreader : p'.source.reader = p.source.reader)
    (hevents : filledOf events = []) : AtUnits units p' (log ++ events) := by
  constructor
  · rw [filledOf_append, hevents, List.append_nil, hreader]
    exact h.reader
  · rw [filledOf_append, hevents, List.append_nil]
    exact h.published

/-- One unit more. -/
theorem AtUnits.publish {units : List NalUnit} {p p' : Pipeline} {log : List FrameEvent}
    (h : AtUnits units p log) {i : FrameIndex} {filled : AVFrame}
    (hk : (filledOf log).length % units.length < units.length)
    (hreader : p'.source.reader =
      readerAt units (((filledOf log).length % units.length + 1) % units.length))
    (hnal : filled.nal = units[(filledOf log).length % units.length].nal) :
    AtUnits units p' (log ++ [.written i, .filled i filled]) := by
  have hfilled : filledOf (log ++ [.written i, .filled i filled]) =
      filledOf log ++ [(i, filled)] := filledOf_append _ _
  constructor
  · rw [hreader, hfilled, List.length_append, List.length_singleton, Nat.mod_add_mod]
  · rw [hfilled]
    intro k f hf
    rcases Nat.lt_or_ge k (filledOf log).length with hlt | hge
    · rw [List.getElem?_append_left hlt] at hf
      exact h.published k f hf
    · rw [List.getElem?_append_right hge, List.getElem?_singleton] at hf
      split at hf
      · rename_i hzero
        have hlast : k = (filledOf log).length := by omega
        cases hf
        rw [hlast, List.getElem?_eq_getElem hk, hnal]
        rfl
      · cases hf

theorem step_atUnits {units : List NalUnit} (hne : units ≠ []) (hfit : CodesFit units)
    {p p' : Pipeline} {act : PipelineAct} {log events : List FrameEvent}
    (h : AtUnits units p log)
    (hact : ∀ env, act = .readFrame env → ReadsAll frameMaxSize env)
    (hstep : p.step act = .ok (p', events)) : AtUnits units p' (log ++ events) := by
  cases act with
  | readFrame env =>
    have hk : (filledOf log).length % units.length < units.length :=
      Nat.mod_lt _ (List.length_pos_of_ne_nil hne)
    simp only [step, readFrame] at hstep
    split at hstep
    · cases hstep
      exact h.quiet rfl rfl
    cases hque : p.source.inputQue with
    | nil =>
      have hidle : p.source.readFrame env = .ok (p.source, []) := by
        rw [MediaSource.readFrame, hque]
      rw [hidle] at hstep
      cases hstep
      exact h.quiet rfl rfl
    | cons i rest =>
      obtain ⟨filled, hread, hnal⟩ :=
        MediaSource.readFrame_unit hfit (hact env rfl) hk h.reader hque
      rw [hread] at hstep
      cases hstep
      exact h.publish hk rfl hnal
  | _ =>
    cases step_outcome hstep <;> exact h.quiet rfl rfl

/-- What the source promises about a stream of units: the `k`-th frame published
holds unit `k`, counted around; frames are obtained as they were published; and
every `ReadFrame` with a frame to fill succeeds. -/
structure Lossless (units : List NalUnit) (start : Pipeline) (acts : List PipelineAct) : Prop where
  published : ∀ p events, run step start acts = .ok (p, events) →
    ∀ k f, (filledOf events)[k]? = some f →
      units[k % units.length]?.map NalUnit.nal = some f.2.nal
  obtained : ∀ p events, run step start acts = .ok (p, events) →
    obtainedOf events <+: filledOf events
  succeeds : ∀ p events, run step start acts = .ok (p, events) → ∀ env, ReadsAll frameMaxSize env →
    ∀ i rest, p.source.inputQue = i :: rest →
      ∃ source frame, p.source.readFrame env = .ok (source, [.written i, .filled i frame])

/-- **Taking an Annex B file apart loses nothing**: over any number of passes, and
whatever else the threads do, the frames are the NAL units of the file in order. -/
theorem annexB_lossless (units : List NalUnit) (hne : units ≠ []) (hfit : UnitsFit units)
    (frames : FrameIndex → AVFrame) (sink : Sink) (acts : List PipelineAct)
    (hreads : ∀ env, .readFrame env ∈ acts → ReadsAll frameMaxSize env) :
    Lossless units (create frames (.h264 { content := stream units }) sink) acts := by
  have hok : ∀ act ∈ acts, ∀ env, act = .readFrame env → ReadsAll frameMaxSize env :=
    fun act hact env heq => hreads env (heq ▸ hact)
  have hcodes : CodesFit units := fun pre u later hsplit => (hfit pre u later hsplit).codeFits
  have hunits : ∀ p events,
      run step (create frames (.h264 { content := stream units }) sink) acts = .ok (p, events) →
        AtUnits units p events := by
    intro p events hrun
    have hstart : AtUnits units (create frames (.h264 { content := stream units }) sink) [] := by
      refine ⟨?_, fun k f hf => by cases hf⟩
      rw [readerAt, filledOf, List.length_nil, Nat.zero_mod]
      rfl
    exact run_logged (AtUnits units)
      (fun _ _ _ _ _ h hact hstep => step_atUnits hne hcodes h hact hstep) hstart
      (meets_of_forall hok) hrun
  constructor
  · exact fun p events hrun => (hunits p events hrun).published
  · intro p events hrun
    have hstart : (create frames (.h264 { content := stream units }) sink).pool.slots.Nodup := by
      rw [pool_slots, create, MediaSource.create]
      simp only [SinkPhase.frame, Option.toList_none, List.append_nil]
      exact List.nodup_finRange _
    exact ⟨_, (run_moves hstart hrun).fifo.symm⟩
  · intro p events hrun env henv i rest hque
    obtain ⟨filled, hread, -⟩ := MediaSource.readFrame_unit hcodes henv
      (Nat.mod_lt _ (List.length_pos_of_ne_nil hne)) (hunits p events hrun).reader hque
    exact ⟨_, filled, hread⟩

/-! ## A file of two units -/

theorem unitsFit_of_short {units : List NalUnit} (h : (stream units).length ≤ frameMaxSize) :
    UnitsFit units := by
  rintro pre u later rfl
  have hlen : (stream (pre ++ u :: later)).length =
      (stream pre).length + (u.bytes.length + (stream later).length) := by
    simp only [stream, List.flatMap_append, List.flatMap_cons, List.length_append]
  rw [UnitFits, List.length_append, List.length_take]
  omega

theorem slice_clean : ¬ code3 <:+: [0x65, 0, 0, 0x88] := by decide
theorem slice_ends : [0x65, 0, 0, (0x88 : UInt8)].getLast (List.cons_ne_nil _ _) ≠ 0 := by decide
theorem parameters_clean : ¬ code3 <:+: [0x67, 0x42] := by decide
theorem parameters_ends : [0x67, (0x42 : UInt8)].getLast (List.cons_ne_nil _ _) ≠ 0 := by decide

/-- Parameters behind four bytes, and a slice behind three. -/
def sampleUnits : List NalUnit :=
  [⟨true, [0x67, 0x42], List.cons_ne_nil _ _, parameters_clean, parameters_ends⟩,
    ⟨false, [0x65, 0, 0, 0x88], List.cons_ne_nil _ _, slice_clean, slice_ends⟩]

theorem annexB_lossless_sample :
    Lossless sampleUnits
      (create (fun _ => {}) (.h264 { content := stream sampleUnits }) samplePipelineSink)
      (oneRound ++ [.takeTask, .readFrame sampleReads, .readFrame sampleReads]) := by
  apply annexB_lossless
  · exact List.cons_ne_nil _ _
  · exact unitsFit_of_short (by decide)
  · intro env henv
    have heq : env = sampleReads := by
      simpa [oneRound] using henv
    exact heq ▸ ⟨frameMaxSize, rfl, Nat.le_refl _⟩

end Pipeline
end MyRtspServer.Net
