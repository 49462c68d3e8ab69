import MyRtspServer.Library.BitFields

/-!
# Access units in an MPEG-4 payload

A payload begins with the number of bits of its AU headers. The headers follow, one
for each access unit, filled up to a byte; then come the units. The widths of the two
fields of a header are announced outside the stream.
-/
namespace MyRtspServer.Library.AccessUnits

open RtpFormat BitFields

/-- `sizelength` and `indexlength` of a stream description. -/
structure Mode where
  sizeLength : Nat
  indexLength : Nat

structure AccessUnit where
  index : Nat
  size : Nat
  bytes : Octets
  deriving DecidableEq

/-- The size and the index field of `count` headers, the last of which ends the number. -/
def headers (mode : Mode) (n : Nat) : Nat → List (Nat × Nat)
  | 0 => []
  | count + 1 =>
    let behind := count * (mode.sizeLength + mode.indexLength)
    (bits n (behind + mode.indexLength) mode.sizeLength, bits n behind mode.indexLength) ::
      headers mode n count

/-- The units behind their headers; each index counts from the one before. All bytes
must belong to a unit. -/
def units : List (Nat × Nat) → Nat → Octets → Option (List AccessUnit)
  | [], _, rest => if rest = [] then some [] else none
  | (size, delta) :: more, first, rest =>
    if rest.length < size then none
    else (units more (first + delta + 1) (rest.drop size)).map
      ({ index := first + delta, size := size, bytes := rest.take size } :: ·)

def decode (mode : Mode) (payload : Octets) : Option (List AccessUnit) :=
  let headerBits := bigEndian (payload.take 2)
  let headerBytes := (headerBits + 7) / 8
  if payload.length < 2 + headerBytes then none
  else
    let n := bigEndian ((payload.drop 2).take headerBytes) / 2 ^ (8 * headerBytes - headerBits)
    units (headers mode n (headerBits / (mode.sizeLength + mode.indexLength))) 0
      (payload.drop (2 + headerBytes))

/-- **One header of two bytes, and one unit behind it.** -/
theorem decode_single {mode : Mode} (hmode : mode.sizeLength + mode.indexLength = 16)
    {high low : UInt8} {size : Nat} {data : Octets}
    (hheader : high.toNat * 256 + low.toNat = size * 2 ^ mode.indexLength)
    (hsize : size < 2 ^ mode.sizeLength) (hdata : data.length = size) :
    decode mode (0 :: 16 :: high :: low :: data) = some [⟨0, size, data⟩] := by
  have hbits : bigEndian ((0 :: 16 :: high :: low :: data).take 2) = 16 := rfl
  have hlong : ¬ (0 :: 16 :: high :: low :: data).length < 2 + (16 + 7) / 8 := by
    simp only [List.length_cons]
    omega
  have hnumber : bigEndian (((0 :: 16 :: high :: low :: data).drop 2).take ((16 + 7) / 8)) /
      2 ^ (8 * ((16 + 7) / 8) - 16) = size * 2 ^ mode.indexLength := by
    rw [← hheader]
    simp [bigEndian]
  have hunit : headers mode (size * 2 ^ mode.indexLength) (16 / 16) = [(size, 0)] := by
    have hfirst : bits (size * 2 ^ mode.indexLength) mode.indexLength mode.sizeLength = size := by
      rw [bits, Nat.mul_div_cancel _ (Nat.two_pow_pos _), Nat.mod_eq_of_lt hsize]
    have hsecond : bits (size * 2 ^ mode.indexLength) 0 mode.indexLength = 0 := by
      rw [bits, Nat.pow_zero, Nat.div_one, Nat.mul_mod_left]
    simp only [headers, Nat.zero_mul, Nat.zero_add, hfirst, hsecond]
  have hrest : (0 :: 16 :: high :: low :: data).drop (2 + (16 + 7) / 8) = data := rfl
  rw [decode]
  simp only [hbits, if_neg hlong, hnumber, hmode, hunit, hrest, units, hdata, Nat.lt_irrefl,
    if_false]
  simp [← hdata]

end MyRtspServer.Library.AccessUnits
