import MyRtspServer.Library.BitFields
import MyRtspServer.Net.H264Demux

/-!
# `ParseAdtsHeader` against the layout of an ADTS header

An ADTS header is a sync word and fourteen fields in 56 bits. The parser finds all
of them where they stand but one: it looks for `copyright_identification_start` two
places further on, inside the frame length.
-/
namespace MyRtspServer.Net

open Library Library.BitFields Library.RtpFormat

/-- The fields of a header, each in its range. -/
structure AdtsFields where
  id : Fin 2
  layer : Fin 4
  protectionAbsent : Fin 2
  profile : Fin 4
  samplingFreqIndex : Fin 16
  privateBit : Fin 2
  channelCfg : Fin 8
  originalCopy : Fin 2
  home : Fin 2
  copyrightIdentificationBit : Fin 2
  copyrightIdentificationStart : Fin 2
  aacFrameLength : Fin 8192
  adtsBufferFullness : Fin 2048
  numberOfRawDataBlockInFrame : Fin 4

namespace AdtsFields

/-- The standard order, behind the sync word. -/
def layout (f : AdtsFields) : List Field :=
  [(12, 0xfff), (1, f.id), (2, f.layer), (1, f.protectionAbsent), (2, f.profile),
    (4, f.samplingFreqIndex), (1, f.privateBit), (3, f.channelCfg), (1, f.originalCopy),
    (1, f.home), (1, f.copyrightIdentificationBit), (1, f.copyrightIdentificationStart),
    (13, f.aacFrameLength), (11, f.adtsBufferFullness), (2, f.numberOfRawDataBlockInFrame)]

def bytes (f : AdtsFields) : Octets := spell 7 (pack f.layout)

def values (f : AdtsFields) : List Nat := f.layout.tail.map Prod.snd

theorem layout_fits (f : AdtsFields) : Fits f.layout := by
  simp only [Fits, layout, List.forall_mem_cons, List.not_mem_nil, false_implies, implies_true,
    and_true]
  exact ⟨by decide, f.id.isLt, f.layer.isLt, f.protectionAbsent.isLt, f.profile.isLt,
    f.samplingFreqIndex.isLt, f.privateBit.isLt, f.channelCfg.isLt, f.originalCopy.isLt,
    f.home.isLt, f.copyrightIdentificationBit.isLt, f.copyrightIdentificationStart.isLt,
    f.aacFrameLength.isLt, f.adtsBufferFullness.isLt, f.numberOfRawDataBlockInFrame.isLt⟩

end AdtsFields

def AdtsHeader.values (h : AdtsHeader) : List Nat :=
  [h.id.toNat, h.layer.toNat, h.protectionAbsent.toNat, h.profile.toNat,
    h.samplingFreqIndex.toNat, h.privateBit.toNat, h.channelCfg.toNat, h.originalCopy.toNat,
    h.home.toNat, h.copyrightIdentificationBit.toNat, h.copyrightIdentificationStart.toNat,
    h.aacFrameLength.toNat, h.adtsBufferFullness.toNat, h.numberOfRawDataBlockInFrame.toNat]

/-- The seven bytes as one number. -/
def adtsNumber (m : Memory) : Nat := bigEndian (m.load 0 7)

/-- Where the fields stand behind the sync word, with `copyrightStart` bits behind the
copyright start bit. -/
def adtsPositions (copyrightStart : Nat) : List (Nat × Nat) :=
  [(43, 1), (41, 2), (40, 1), (38, 2), (34, 4), (33, 1), (30, 3), (29, 1), (28, 1), (27, 1),
    (copyrightStart, 1), (13, 13), (2, 11), (0, 2)]

theorem AdtsFields.fieldsAt_layout (f : AdtsFields) :
    fieldsAt (pack f.layout) ((44, 12) :: adtsPositions 26) = 0xfff :: f.values := by
  have hspots : positions f.layout = (44, 12) :: adtsPositions 26 := by
    simp only [positions, width, layout, adtsPositions]
  rw [← hspots]
  exact fieldsAt_positions f.layout_fits

/-! ## The parser -/

section Masks

variable {b : UInt8} {mask i : UInt32} {w k : Nat}

/-- A group of bits, masked and shifted down. -/
theorem mask_shift_toNat (hmask : mask.toNat = (2 ^ w - 1) <<< k) (hi : i.toNat = k)
    (hk : k < 32) : ((b.toUInt32 &&& mask) >>> i).toNat = b.toNat / 2 ^ k % 2 ^ w := by
  rw [UInt32.toNat_shiftRight, UInt32.toNat_and, hi, Nat.mod_eq_of_lt hk, hmask,
    Nat.shiftRight_and_distrib, Nat.shiftLeft_shiftRight, Nat.and_two_pow_sub_one_eq_mod,
    Nat.shiftRight_eq_div_pow, UInt8.toNat_toUInt32]

theorem mask_toNat32 (hmask : mask.toNat = 2 ^ w - 1) :
    (b.toUInt32 &&& mask).toNat = b.toNat % 2 ^ w := by
  rw [UInt32.toNat_and, hmask, Nat.and_two_pow_sub_one_eq_mod, UInt8.toNat_toUInt32]

/-- Two groups of bits side by side. -/
theorem join_toNat {high low : UInt32} {h l : Nat} (hhigh : high.toNat = h) (hlow : low.toNat = l)
    (hi : i.toNat = k) (hk : k < 32) (hl : l < 2 ^ k) (hfit : h * 2 ^ k < 2 ^ 32) :
    (high <<< i ||| low).toNat = h * 2 ^ k + l := by
  have hshift : high.toNat <<< (i.toNat % 32) % 2 ^ 32 = h <<< k := by
    rw [hhigh, hi, Nat.mod_eq_of_lt hk, Nat.shiftLeft_eq]
    exact Nat.mod_eq_of_lt hfit
  rw [UInt32.toNat_or, UInt32.toNat_shiftLeft, hshift, hlow, ← Nat.shiftLeft_add_eq_or_of_lt hl,
    Nat.shiftLeft_eq]

end Masks

theorem adtsNumber_eq (m : Memory) : adtsNumber m =
    (m 0).toNat * 2 ^ 48 + (m 1).toNat * 2 ^ 40 + (m 2).toNat * 2 ^ 32 + (m 3).toNat * 2 ^ 24 +
      (m 4).toNat * 2 ^ 16 + (m 5).toNat * 2 ^ 8 + (m 6).toNat := by
  have hload : m.load 0 7 = [m 0, m 1, m 2, m 3, m 4, m 5, m 6] := rfl
  rw [adtsNumber, hload]
  simp only [bigEndian, List.foldl_cons, List.foldl_nil]
  omega

/-- The test for the sync word looks at the twelve bits in front. -/
theorem adtsSyncword_iff (m : Memory) :
    adtsSyncword m = true ↔ bits (adtsNumber m) 44 12 = 0xfff := by
  have hhigh : m 1 &&& 0xf0 = 0xf0 ↔ (m 1).toNat / 16 = 15 :=
    Octets.forall_octet (P := fun b => b &&& 0xf0 = 0xf0 ↔ b.toNat / 16 = 15)
      (by decide +kernel) (m 1)
  have hfirst : m 0 = 0xff ↔ (m 0).toNat = 255 := UInt8.toNat_inj.symm
  have h0 := (m 0).toNat_lt
  have h1 := (m 1).toNat_lt
  have h2 := (m 2).toNat_lt
  have h3 := (m 3).toNat_lt
  have h4 := (m 4).toNat_lt
  have h5 := (m 5).toNat_lt
  have h6 := (m 6).toNat_lt
  have hbits : bits (adtsNumber m) 44 12 = (m 0).toNat * 16 + (m 1).toNat / 16 := by
    rw [bits, adtsNumber_eq]
    omega
  rw [adtsSyncword, Bool.and_eq_true, decide_eq_true_eq, decide_eq_true_eq, hhigh, hfirst, hbits]
  omega

/-- **The parser finds every field where it stands**, except that 24 bits follow what
it takes for the copyright start bit. -/
theorem parseAdtsHeader_values {m : Memory} {h : AdtsHeader} (hp : parseAdtsHeader m = some h) :
    h.values = fieldsAt (adtsNumber m) (adtsPositions 24) := by
  have h0 := (m 0).toNat_lt
  have h1 := (m 1).toNat_lt
  have h2 := (m 2).toNat_lt
  have h3 := (m 3).toNat_lt
  have h4 := (m 4).toNat_lt
  have h5 := (m 5).toNat_lt
  have h6 := (m 6).toNat_lt
  have hlength := (parseAdtsHeader_some hp).2
  unfold parseAdtsHeader at hp
  split at hp
  · cases hp
    have hchannel : (((m 2).toUInt32 &&& 0x01) <<< 2 ||| ((m 3).toUInt32 &&& 0xc0) >>> 6).toNat =
        (m 2).toNat % 2 ^ 1 * 2 ^ 2 + (m 3).toNat / 2 ^ 6 % 2 ^ 2 :=
      join_toNat (mask_toNat32 rfl) (mask_shift_toNat rfl rfl (by decide)) rfl (by decide)
        (Nat.mod_lt _ (by decide)) (by omega)
    have hfullness : (((m 5).toUInt32 &&& 0x1f) <<< 6 ||| ((m 6).toUInt32 &&& 0xfc) >>> 2).toNat =
        (m 5).toNat % 2 ^ 5 * 2 ^ 6 + (m 6).toNat / 2 ^ 2 % 2 ^ 6 :=
      join_toNat (mask_toNat32 rfl) (mask_shift_toNat rfl rfl (by decide)) rfl (by decide)
        (Nat.mod_lt _ (by decide)) (by omega)
    have hmask : ∀ (b : UInt8) (w k : Nat) (mask i : UInt32), mask.toNat = (2 ^ w - 1) <<< k →
        i.toNat = k → k < 32 → ((b.toUInt32 &&& mask) >>> i).toNat = b.toNat / 2 ^ k % 2 ^ w :=
      fun b w k mask i hmask hi hk => mask_shift_toNat hmask hi hk
    have hid := hmask (m 1) 1 3 0x08 3 rfl rfl (by decide)
    have hlayer := hmask (m 1) 2 1 0x06 1 rfl rfl (by decide)
    have hprofile := hmask (m 2) 2 6 0xc0 6 rfl rfl (by decide)
    have hfreq := hmask (m 2) 4 2 0x3c 2 rfl rfl (by decide)
    have hprivate := hmask (m 2) 1 1 0x02 1 rfl rfl (by decide)
    have horiginal := hmask (m 3) 1 5 0x20 5 rfl rfl (by decide)
    have hhome := hmask (m 3) 1 4 0x10 4 rfl rfl (by decide)
    have hcopyright := hmask (m 3) 1 3 0x08 3 rfl rfl (by decide)
    have hstart : ((m 3).toUInt32 &&& (0x04 : UInt32) >>> 2).toNat = (m 3).toNat % 2 ^ 1 :=
      mask_toNat32 rfl
    have hprotection : ((m 1).toUInt32 &&& 0x01).toNat = (m 1).toNat % 2 ^ 1 := mask_toNat32 rfl
    have hblocks : ((m 6).toUInt32 &&& 0x03).toNat = (m 6).toNat % 2 ^ 2 := mask_toNat32 rfl
    simp only [AdtsHeader.values, hid, hlayer, hprotection, hprofile, hfreq, hprivate, hchannel,
      horiginal, hhome, hcopyright, hstart, hfullness, hblocks, hlength, adtsLength, fieldsAt,
      adtsPositions, List.map_cons, List.map_nil, bits, adtsNumber_eq]
    simp only [List.cons.injEq, and_true]
    refine ⟨?_, ?_, ?_, ?_, ?_, ?_, ?_, ?_, ?_, ?_, ?_, ?_, ?_, ?_⟩ <;> omega
  · cases hp

/-! ## Encoding and decoding -/

/-- The parser gives the fields back from their seven bytes, whatever follows these. -/
def DecodesTo (f : AdtsFields) : Prop :=
  ∀ m, Holds m f.bytes → ∃ h, parseAdtsHeader m = some h ∧ h.values = f.values

theorem AdtsFields.number_lt (f : AdtsFields) : pack f.layout < 256 ^ 7 := by
  have hwidth : width f.layout = 56 := by
    simp only [width, layout]
  have hlt := pack_lt f.layout_fits
  rw [hwidth] at hlt
  exact hlt

theorem adtsNumber_bytes {f : AdtsFields} {m : Memory} (hm : Holds m f.bytes) :
    adtsNumber m = pack f.layout := by
  rw [Holds, AdtsFields.bytes, spell_length] at hm
  rw [adtsNumber, hm, bigEndian_spell 7 _ f.number_lt]

theorem parseAdtsHeader_bytes {f : AdtsFields} {m : Memory} (hm : Holds m f.bytes) :
    ∃ h, parseAdtsHeader m = some h ∧ h.values = fieldsAt (pack f.layout) (adtsPositions 24) := by
  have hsync : adtsSyncword m = true := by
    rw [adtsSyncword_iff, adtsNumber_bytes hm]
    exact (List.cons_eq_cons.mp f.fieldsAt_layout).1
  cases hp : parseAdtsHeader m with
  | none =>
    rw [parseAdtsHeader_none hp] at hsync
    cases hsync
  | some h =>
    refine ⟨h, rfl, ?_⟩
    rw [parseAdtsHeader_values hp, adtsNumber_bytes hm]

theorem AdtsFields.found (f : AdtsFields) :
    bits (pack f.layout) 26 1 = f.copyrightIdentificationStart ∧
      bits (pack f.layout) 13 13 = f.aacFrameLength := by
  have hall := f.fieldsAt_layout
  generalize pack f.layout = n at hall ⊢
  simp only [fieldsAt, adtsPositions, List.map_cons, List.map_nil, values, layout, List.tail_cons,
    List.cons.injEq] at hall
  obtain ⟨-, -, -, -, -, -, -, -, -, -, -, hstart, hlength, -⟩ := hall
  exact ⟨hstart, hlength⟩

/-- What is read for the copyright start bit is a bit of the frame length. -/
theorem AdtsFields.misread (f : AdtsFields) :
    bits (pack f.layout) 24 1 = f.aacFrameLength / 2048 % 2 := by
  have hpart : bits (bits (pack f.layout) 13 13) 11 1 = bits (pack f.layout) (13 + 11) 1 :=
    bits_bits _ (by decide)
  rw [f.found.2] at hpart
  exact hpart.symm

/-- A header is given back exactly when the copyright start bit is what the bit of the
frame length says that is taken for it. -/
theorem decodesTo_iff (f : AdtsFields) : DecodesTo f ↔
    (f.copyrightIdentificationStart : Nat) = f.aacFrameLength / 2048 % 2 := by
  have hvalues : f.values = fieldsAt (pack f.layout) (adtsPositions 26) :=
    (List.cons_eq_cons.mp f.fieldsAt_layout).2.symm
  have hsame : fieldsAt (pack f.layout) (adtsPositions 24) = f.values ↔
      bits (pack f.layout) 24 1 = bits (pack f.layout) 26 1 := by
    rw [hvalues]
    generalize pack f.layout = n
    simp [fieldsAt, adtsPositions]
  rw [f.misread, f.found.1] at hsame
  constructor
  · intro h
    obtain ⟨m, hm⟩ : ∃ m, Holds m f.bytes := ⟨_, Memory.load_store (fun _ => 0) 0 f.bytes⟩
    obtain ⟨h1, hp, hf⟩ := h m hm
    obtain ⟨h2, hp', hread⟩ := parseAdtsHeader_bytes hm
    rw [hp] at hp'
    cases hp'
    exact (hsame.mp (hread.symm.trans hf)).symm
  · intro hstart m hm
    obtain ⟨h, hp, hread⟩ := parseAdtsHeader_bytes hm
    exact ⟨h, hp, hread.trans (hsame.mpr hstart.symm)⟩

/-- The twelve bits of the sync word are in front. -/
def StartsWithSyncword (m : Memory) : Prop := bits (adtsNumber m) 44 12 = 0xfff

/-- **Decoding inverts encoding for the headers whose copyright start bit equals bit 11
of their frame length**, and anything without the sync word is rejected. -/
theorem parseAdtsHeader_inverts_iff (f : AdtsFields) :
    (DecodesTo f ↔ (f.copyrightIdentificationStart : Nat) = f.aacFrameLength / 2048 % 2) ∧
      ∀ m, ¬ StartsWithSyncword m → parseAdtsHeader m = none := by
  refine ⟨decodesTo_iff f, fun m hno => ?_⟩
  cases hp : parseAdtsHeader m with
  | none => rfl
  | some h => exact absurd ((adtsSyncword_iff m).mp (parseAdtsHeader_some hp).1) hno

/-- A frame of 2100 bytes with no copyright. -/
def fields2100 : AdtsFields where
  id := ⟨0, by decide⟩
  layer := ⟨0, by decide⟩
  protectionAbsent := ⟨1, by decide⟩
  profile := ⟨1, by decide⟩
  samplingFreqIndex := ⟨4, by decide⟩
  privateBit := ⟨0, by decide⟩
  channelCfg := ⟨2, by decide⟩
  originalCopy := ⟨0, by decide⟩
  home := ⟨0, by decide⟩
  copyrightIdentificationBit := ⟨0, by decide⟩
  copyrightIdentificationStart := ⟨0, by decide⟩
  aacFrameLength := ⟨2100, by decide⟩
  adtsBufferFullness := ⟨0x7ff, by decide⟩
  numberOfRawDataBlockInFrame := ⟨0, by decide⟩

theorem fields2100_not_decoded : ¬ DecodesTo fields2100 := by
  rw [decodesTo_iff]
  decide

end MyRtspServer.Net
