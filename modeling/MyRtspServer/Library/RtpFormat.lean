import MyRtspServer.Library.Octets

/-!
# The RTP packet format, as a receiver reads it

The twelve bytes of the fixed header and the two bytes in front of a fragmented
NAL unit. Fields are taken apart with divisions by powers of two, so that
nothing here depends on how a sender puts them together.
-/
namespace MyRtspServer.Library.RtpFormat

/-- The number that bytes spell, most significant first. -/
def bigEndian (s : Octets) : Nat := s.foldl (fun n b => n * 256 + b.toNat) 0

/-- The fixed header. -/
structure Header where
  version : Nat
  padding : Bool
  extension : Bool
  csrcCount : Nat
  marker : Bool
  payloadType : Nat
  sequence : Nat
  timestamp : Nat
  ssrc : Nat
  deriving DecidableEq

/-- The header in front of a packet, and the payload behind it. -/
def decode : Octets → Option (Header × Octets)
  | b0 :: b1 :: s1 :: s0 :: t3 :: t2 :: t1 :: t0 :: c3 :: c2 :: c1 :: c0 :: payload =>
    some ({
      version := b0.toNat / 64
      padding := decide (b0.toNat / 32 % 2 = 1)
      extension := decide (b0.toNat / 16 % 2 = 1)
      csrcCount := b0.toNat % 16
      marker := decide (b1.toNat / 128 = 1)
      payloadType := b1.toNat % 128
      sequence := bigEndian [s1, s0]
      timestamp := bigEndian [t3, t2, t1, t0]
      ssrc := bigEndian [c3, c2, c1, c0] }, payload)
  | _ => none

/-- The two header bytes of a fragment: the indicator, which has the layout of a
NAL header, and the fragment header. -/
structure FragmentHeader where
  forbidden : Bool
  nri : Nat
  indicatorType : Nat
  start : Bool
  last : Bool
  reserved : Bool
  naluType : Nat
  deriving DecidableEq

/-- The NAL type that announces a fragment. -/
def fuA : Nat := 28

def decodeFragment : Octets → Option (FragmentHeader × Octets)
  | indicator :: header :: bytes =>
    some ({
      forbidden := decide (indicator.toNat / 128 = 1)
      nri := indicator.toNat / 32 % 4
      indicatorType := indicator.toNat % 32
      start := decide (header.toNat / 128 = 1)
      last := decide (header.toNat / 64 % 2 = 1)
      reserved := decide (header.toNat / 32 % 2 = 1)
      naluType := header.toNat % 32 }, bytes)
  | _ => none

/-! ## Reading numbers back -/

theorem bigEndian_16 (n : UInt16) : bigEndian [(n >>> 8).toUInt8, n.toUInt8] = n.toNat := by
  have hn := n.toNat_lt
  simp only [bigEndian, List.foldl_cons, List.foldl_nil, UInt16.toNat_toUInt8,
    UInt16.toNat_shiftRight, UInt16.reduceToNat, Nat.reduceMod, Nat.shiftRight_eq_div_pow]
  omega

theorem bigEndian_32 (n : UInt32) :
    bigEndian [(n >>> 24).toUInt8, (n >>> 16).toUInt8, (n >>> 8).toUInt8, n.toUInt8] =
      n.toNat := by
  have hn := n.toNat_lt
  simp only [bigEndian, List.foldl_cons, List.foldl_nil, UInt32.toNat_toUInt8,
    UInt32.toNat_shiftRight, UInt32.reduceToNat, Nat.reduceMod, Nat.shiftRight_eq_div_pow]
  omega

/-! ## Bit-fields -/

theorem mask_toNat (b mask : UInt8) {k : Nat} (h : mask.toNat = 2 ^ k - 1) :
    (b &&& mask).toNat = b.toNat % 2 ^ k := by
  rw [UInt8.toNat_and, h, Nat.and_two_pow_sub_one_eq_mod]

/-- A field put above another one. -/
theorem or_shift_toNat (low high i : UInt8) {l h k : Nat} (hlow : low.toNat = l)
    (hhigh : high.toNat = h) (hi : i.toNat = k) (hk : k < 8) (hl : l < 2 ^ k)
    (hfit : h * 2 ^ k < 256) : (low ||| high <<< i).toNat = h * 2 ^ k + l := by
  have hshift : high.toNat <<< (i.toNat % 8) % 2 ^ 8 = h <<< k := by
    rw [hhigh, hi, Nat.mod_eq_of_lt hk, Nat.shiftLeft_eq]
    exact Nat.mod_eq_of_lt hfit
  rw [UInt8.toNat_or, UInt8.toNat_shiftLeft, hshift, hlow, Nat.or_comm,
    ← Nat.shiftLeft_add_eq_or_of_lt hl, Nat.shiftLeft_eq]

end MyRtspServer.Library.RtpFormat
