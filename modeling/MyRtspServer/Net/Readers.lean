import MyRtspServer.Net.MediaSource

/-!
# When a read fills a frame

One inversion theorem for each reader. The H264 reader gives up exactly when the
bytes in front of it are no start code; the AAC reader when there is no header,
no sync word, or the read behind the header is an error.
-/
namespace MyRtspServer.Net

open Library

theorem File.read_content (file : File) (answer : Option Nat) (count : Nat) :
    (file.read answer count).2.content = file.content := by
  unfold File.read
  split <;> rfl

/-! ## H264 -/

/-- A scan that finds nothing has looked at every position up to its end. -/
theorem scanStartCode_none {m : Memory} {left : Nat} : ∀ {p : Nat},
    scanStartCode m left p = .ok none → p + left < frameMaxSize := by
  induction left with
  | zero =>
    intro p h
    by_contra hp
    have hout : startCode3 m p = .error .outOfBounds := by
      rw [startCode3, bytesAre, if_neg (by omega)]
    rw [scanStartCode, hout] at h
    cases h
  | succ left ih =>
    intro p h
    rw [scanStartCode] at h
    split at h
    · cases h
    · cases h
    · have := ih h
      omega

/-- With a start code in front, a frame that is delivered has a size: a read that
brings fewer than three bytes lets the search leave the buffer. -/
theorem findNextStartCode_none {m : Memory} {got : Option (List UInt8)}
    (h : findNextStartCode m 3 ((readReturn got - 3) % 2 ^ 32).toNat = .ok none) :
    0 ≤ readReturn got := by
  cases got with
  | some bytes => exact Int.natCast_nonneg bytes.length
  | none =>
    have hlen : ((readReturn none - 3) % 2 ^ 32).toNat = 4294967292 := by decide
    rw [hlen, findNextStartCode, if_neg (by decide)] at h
    exact absurd (scanStartCode_none h) (by decide)

/-- The reader gives up, or delivers a frame of some size. -/
theorem getFrameFromH264File_cases {file : File} {env : ReadEnv} {frame : Memory} {got : GotFrame}
    (h : getFrameFromH264File file env frame frameMaxSize = .ok got) :
    (got.size = -1 ∧ startCode (h264Buffer file env frame) 0 = .ok false) ∨
      (0 ≤ got.size ∧ startCode (h264Buffer file env frame) 0 = .ok true) := by
  simp only [getFrameFromH264File] at h
  rw [h264Buffer]
  split at h
  · cases h
  · rename_i hcode
    cases h
    exact Or.inl ⟨rfl, hcode⟩
  · rename_i hcode
    refine Or.inr ⟨?_, hcode⟩
    split at h
    · cases h
    · rename_i hnext
      cases h
      exact findNextStartCode_none hnext
    · rename_i next hnext
      cases h
      exact Int.natCast_nonneg next

theorem h264ReadInto_published {file : File} {env : ReadEnv} {frame : AVFrame} {filled : Filled}
    (h : h264ReadInto file env frame = .ok filled) :
    filled.published = (Reader.h264 file).readable env frame := by
  unfold h264ReadInto at h
  split at h
  · cases h
  rename_i got hgot
  dsimp only at h
  rcases getFrameFromH264File_cases hgot with ⟨hsize, hcode⟩ | ⟨hsize, hcode⟩
  · rw [if_pos (by omega)] at h
    cases h
    rw [Reader.readable, hcode]
    rfl
  · rw [if_neg (by omega)] at h
    have hyes : (Reader.h264 file).readable env frame = true := by
      rw [Reader.readable, hcode]
      rfl
    split at h
    · cases h
    · cases h
      exact hyes.symm
    · cases h
      exact hyes.symm

/-! ## AAC -/

/-- The 13 bits of `aac_frame_length` in an ADTS header. -/
def adtsLength (m : Memory) : Nat :=
  (m 3).toNat % 4 * 2048 + (m 4).toNat * 8 + (m 5).toNat / 32

theorem adtsLength_lt (m : Memory) : adtsLength m < 8192 := by
  have h4 := (m 4).toNat_lt
  have h5 := (m 5).toNat_lt
  unfold adtsLength
  omega

/-- The reader puts disjoint groups of bits together, which adds them up. -/
theorem adtsFrameLength_toNat (m : Memory) : (adtsFrameLength m).toNat = adtsLength m := by
  have h4 := (m 4).toNat_lt
  have h5 := (m 5).toNat_lt
  have hhigh : (m 3).toNat &&& 3 = (m 3).toNat % 4 := Nat.and_two_pow_sub_one_eq_mod _ 2
  have hmiddle : (m 4).toNat &&& 255 = (m 4).toNat := by
    rw [show 255 = 2 ^ 8 - 1 from rfl, Nat.and_two_pow_sub_one_eq_mod]
    omega
  have hlow : ((m 5).toNat &&& 224) >>> 5 = (m 5).toNat / 32 := by
    rw [Nat.shiftRight_and_distrib, show 224 >>> 5 = 2 ^ 3 - 1 from rfl,
      Nat.and_two_pow_sub_one_eq_mod, Nat.shiftRight_eq_div_pow]
    omega
  have hlow_lt : (m 5).toNat / 32 < 2 ^ 3 := by omega
  have hmiddle_lt : (m 4).toNat <<< 3 + (m 5).toNat / 32 < 2 ^ 11 := by
    rw [Nat.shiftLeft_eq]
    omega
  have hmiddle_mod : (m 4).toNat <<< 3 % 2 ^ 32 = (m 4).toNat <<< 3 := Nat.mod_eq_of_lt (by omega)
  have hhigh_mod : ((m 3).toNat % 4) <<< 11 % 2 ^ 32 = ((m 3).toNat % 4) <<< 11 := by
    rw [Nat.shiftLeft_eq]
    omega
  unfold adtsFrameLength adtsLength
  simp only [UInt32.toNat_or, UInt32.toNat_shiftLeft, UInt32.toNat_shiftRight, UInt32.toNat_and,
    UInt8.toNat_toUInt32, UInt32.reduceToNat, Nat.reduceMod, hhigh, hmiddle, hlow, Nat.or_assoc,
    hmiddle_mod, hhigh_mod]
  rw [← Nat.shiftLeft_add_eq_or_of_lt hlow_lt, ← Nat.shiftLeft_add_eq_or_of_lt hmiddle_lt,
    Nat.shiftLeft_eq, Nat.shiftLeft_eq, Nat.add_assoc]

theorem parseAdtsHeader_some {m : Memory} {header : AdtsHeader}
    (h : parseAdtsHeader m = some header) :
    adtsSyncword m = true ∧ header.aacFrameLength.toNat = adtsLength m := by
  unfold parseAdtsHeader at h
  split at h
  · cases h
    exact ⟨‹_›, adtsFrameLength_toNat m⟩
  · cases h

theorem parseAdtsHeader_none {m : Memory} (h : parseAdtsHeader m = none) :
    adtsSyncword m = false := by
  unfold parseAdtsHeader at h
  split at h
  · cases h
  · simpa using ‹¬ adtsSyncword m = true›

/-- A frame the reader delivers has the length its header says; anything else is
a failure for one of the reasons of `Reader.readable`. -/
theorem getFrameFromAACFile_cases {file : File} {env : ReadEnv} {header header' : AdtsHeader}
    {buf : Memory} {got : GotFrame}
    (h : getFrameFromAACFile file env header buf frameMaxSize = .ok (got, header')) :
    (got.size = -1 ∧ ∀ frame, (Reader.aac file header).readable env frame = false) ∨
      ∃ tmpBuf, (readAdtsHeader file env).1 = some tmpBuf ∧ got.size = adtsLength tmpBuf ∧
        ∀ frame, (Reader.aac file header).readable env frame = true := by
  unfold getFrameFromAACFile at h
  split at h
  · rename_i file' hread
    cases h
    exact Or.inl ⟨rfl, fun frame => by simp [Reader.readable, hread]⟩
  rename_i tmpBuf file' hread
  split at h
  · rename_i hparse
    cases h
    exact Or.inl ⟨rfl, fun frame => by
      simp [Reader.readable, hread, parseAdtsHeader_none hparse]⟩
  rename_i parsed hparse
  obtain ⟨hsync, hlen⟩ := parseAdtsHeader_some hparse
  have hsmall : ¬ frameMaxSize < parsed.aacFrameLength.toNat := by
    have hlt := adtsLength_lt tmpBuf
    have hbig : 8192 ≤ frameMaxSize := by decide
    omega
  rw [if_neg hsmall] at h
  dsimp only at h
  split at h
  · rename_i hanswer
    cases h
    refine Or.inl ⟨rfl, fun frame => ?_⟩
    have hnone : env.answer 2 = none := by
      unfold File.read at hanswer
      split at hanswer
      · assumption
      · cases hanswer
    simp [Reader.readable, hread, hnone]
  · rename_i hanswer
    split at h
    · cases h
      refine Or.inr ⟨tmpBuf, by rw [hread], congrArg Nat.cast hlen, fun frame => ?_⟩
      have hsome : (env.answer 2).isSome = true := by
        unfold File.read at hanswer
        split at hanswer
        · cases hanswer
        · simp [*]
      simp [Reader.readable, hread, hsync, hsome]
    · cases h

theorem aacReadInto_published {file : File} {header : AdtsHeader} {env : ReadEnv}
    {frame : AVFrame} {filled : Filled} (h : aacReadInto file header env frame = .ok filled) :
    filled.published = (Reader.aac file header).readable env frame := by
  unfold aacReadInto at h
  split at h
  · cases h
  rename_i got header' hgot
  rcases getFrameFromAACFile_cases hgot with ⟨hsize, hno⟩ | ⟨tmpBuf, -, hsize, hyes⟩
  · rw [if_pos (by omega)] at h
    cases h
    exact (hno frame).symm
  · rw [if_neg (by omega)] at h
    cases h
    exact (hyes frame).symm

/-- A published frame starts the buffer. -/
theorem aacReadInto_frame {file : File} {header : AdtsHeader} {env : ReadEnv}
    {frame : AVFrame} {filled : Filled} (h : aacReadInto file header env frame = .ok filled)
    (hp : filled.published = true) :
    ∃ tmpBuf, (readAdtsHeader file env).1 = some tmpBuf ∧
      filled.frame.frameSize = adtsLength tmpBuf ∧ filled.frame.frame = 0 := by
  unfold aacReadInto at h
  split at h
  · cases h
  rename_i got header' hgot
  rcases getFrameFromAACFile_cases hgot with ⟨hsize, -⟩ | ⟨tmpBuf, hread, hsize, -⟩
  · rw [if_pos (by omega)] at h
    cases h
    cases hp
  · rw [if_neg (by omega)] at h
    cases h
    exact ⟨tmpBuf, hread, hsize, rfl⟩

/-- **A read publishes exactly when its input is readable.** -/
theorem readInto_published {r : Reader} {env : ReadEnv} {frame : AVFrame} {filled : Filled}
    (h : r.readInto env frame = .ok filled) : filled.published = r.readable env frame := by
  cases r with
  | h264 file => exact h264ReadInto_published h
  | aac file header => exact aacReadInto_published h

end MyRtspServer.Net
