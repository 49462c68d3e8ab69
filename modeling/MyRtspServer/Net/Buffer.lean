import MyRtspServer.Library.Fifo
import MyRtspServer.Library.Memory
import MyRtspServer.Library.Transition
import MyRtspServer.Net.RtpInstance

/-!
# `Buffer`

The readable bytes lie between `m_read_index_` and `m_write_index_` of one
allocation, which grows by `realloc` or is compacted when there is no room behind
them. The indices are 32-bit numbers. A pointer into the allocation is an offset,
`Peek()` and `BeginWrite()` being the two indices. Copying outside the allocation
and failing assertions are faults.
-/
namespace MyRtspServer.Net

open Library Library.Octets Library.Transition

structure Buffer where
  buffer : Memory
  bufferSize : UInt32
  readIndex : UInt32
  writeIndex : UInt32

namespace Buffer

def iniBufferSize : UInt32 := 1024

/-- `malloc` says what the bytes are. -/
def create (memory : Memory) : Buffer := ⟨memory, iniBufferSize, 0, 0⟩

def readableBytes (b : Buffer) : UInt32 := b.writeIndex - b.readIndex

def writableBytes (b : Buffer) : UInt32 := b.bufferSize - b.writeIndex

def prependableBytes (b : Buffer) : UInt32 := b.readIndex

def hasWritten (b : Buffer) (len : UInt32) : Except Fault Buffer :=
  if len ≤ b.writableBytes then .ok { b with writeIndex := b.writeIndex + len }
  else .error .assertion

def unWrite (b : Buffer) (len : UInt32) : Except Fault Buffer :=
  if len ≤ b.readableBytes then .ok { b with writeIndex := b.writeIndex - len }
  else .error .assertion

def retrieveAll (b : Buffer) : Buffer := { b with readIndex := 0, writeIndex := 0 }

def retrieve (b : Buffer) (len : UInt32) : Except Fault Buffer :=
  if len ≤ b.readableBytes then
    if len < b.readableBytes then .ok { b with readIndex := b.readIndex + len }
    else .ok b.retrieveAll
  else .error .assertion

/-- `RetrieveUntil` of a pointer. -/
def retrieveUntil (b : Buffer) (end_ : Nat) : Except Fault Buffer :=
  if b.readIndex.toNat ≤ end_ ∧ end_ ≤ b.writeIndex.toNat then
    b.retrieve (UInt32.ofNat (end_ - b.readIndex.toNat))
  else .error .assertion

/-- `MakeSpace`; `fresh` is what `realloc` finds behind the old bytes. -/
def makeSpace (b : Buffer) (len : UInt32) (fresh : Memory) : Except Fault Buffer :=
  if b.writableBytes + b.prependableBytes < len then
    let bufferSize := b.writeIndex + len
    .ok { b with
      bufferSize := bufferSize
      buffer := b.buffer.realloc (min b.bufferSize.toNat bufferSize.toNat) fresh }
  else if b.writeIndex ≤ b.bufferSize then
    let readable := b.readableBytes
    let copied := b.buffer.copy b.readIndex.toNat 0 (b.writeIndex.toNat - b.readIndex.toNat)
    let b := { b with buffer := copied, readIndex := 0, writeIndex := 0 + readable }
    if readable = b.readableBytes then .ok b else .error .assertion
  else .error .outOfBounds

def ensureWritableBytes (b : Buffer) (len : UInt32) (fresh : Memory) : Except Fault Buffer := do
  let b ← if b.writableBytes < len then b.makeSpace len fresh else .ok b
  if len ≤ b.writableBytes then .ok b else .error .assertion

/-- `std::copy` of outside bytes to `BeginWrite()`. -/
def copyIn (b : Buffer) (data : Octets) : Except Fault Buffer :=
  if b.writeIndex.toNat + data.length ≤ b.bufferSize.toNat then
    .ok { b with buffer := b.buffer.store b.writeIndex.toNat data }
  else .error .outOfBounds

def append (b : Buffer) (data : Octets) (fresh : Memory) : Except Fault Buffer := do
  let b ← b.ensureWritableBytes (UInt32.ofNat data.length) fresh
  let b ← b.copyIn data
  b.hasWritten (UInt32.ofNat data.length)

/-- `sizeof(extrabuf)` in `Read`. -/
def extrabufSize : Nat := 65536

/-- The space `Read` offers: behind the bytes, and in `extrabuf` if that is more. -/
def offered (b : Buffer) : Nat :=
  if b.writableBytes.toNat < extrabufSize then b.writableBytes.toNat + extrabufSize
  else b.writableBytes.toNat

/-- `Read`: `readv` fails, or fills first the space behind the bytes and then
`extrabuf`. Its result is cut to `int32_t`; more bytes than it was offered would
lie outside. -/
def read (b : Buffer) (received : Option Octets) (fresh : Memory) : Except Fault Buffer :=
  match received with
  | none => .ok b
  | some received =>
    if b.offered < received.length then .error .outOfBounds
    else do
      let writable := b.writableBytes.toNat
      let b ← b.copyIn (received.take writable)
      if 2 ^ 31 ≤ received.length then .ok b
      else if received.length < writable then
        .ok { b with writeIndex := b.writeIndex + UInt32.ofNat received.length }
      else append { b with writeIndex := b.bufferSize } (received.drop writable) fresh

/-- The bytes between `Peek()` and `BeginWrite()`. -/
def contents (b : Buffer) : Octets :=
  b.buffer.load b.readIndex.toNat (b.writeIndex.toNat - b.readIndex.toNat)

end Buffer

/-- The calls on a buffer, with what `realloc` finds and what the kernel hands
over. Before `HasWritten` the caller has put `bytes` behind `BeginWrite()`; the
pointer given to `RetrieveUntil` is `Peek() + offset`. -/
inductive BufferOp where
  | append (data : Octets) (fresh : Memory)
  | read (received : Option Octets) (fresh : Memory)
  | hasWritten (bytes : Octets)
  | unWrite (len : UInt32)
  | retrieve (len : UInt32)
  | retrieveUntil (offset : Nat)
  | retrieveAll

namespace Buffer

/-- A call, and the bytes it retrieves. -/
def step (b : Buffer) : BufferOp → Except Fault (Buffer × Octets)
  | .append data fresh => do
    let b ← b.append data fresh
    return (b, [])
  | .read received fresh => do
    let b ← b.read received fresh
    return (b, [])
  | .hasWritten bytes => do
    let b ← b.copyIn bytes
    let b ← b.hasWritten (UInt32.ofNat bytes.length)
    return (b, [])
  | .unWrite len => do
    let b ← b.unWrite len
    return (b, [])
  | .retrieve len => do
    let b' ← b.retrieve len
    return (b', b.buffer.load b.readIndex.toNat len.toNat)
  | .retrieveUntil offset => do
    let b' ← b.retrieveUntil (b.readIndex.toNat + offset)
    return (b', b.buffer.load b.readIndex.toNat offset)
  | .retrieveAll => return (b.retrieveAll, b.contents)

/-- The most one `readv` moves. -/
def maxRwCount : Nat := 0x7ffff000

/-- What the assertions ask of the caller, and what the kernel promises. -/
def Asserted (b : Buffer) : BufferOp → Prop
  | .append _ _ => True
  | .read none _ => True
  | .read (some received) _ => received.length ≤ b.offered ∧ received.length ≤ maxRwCount
  | .hasWritten bytes => bytes.length ≤ b.writableBytes.toNat
  | .unWrite len => len ≤ b.readableBytes
  | .retrieve len => len ≤ b.readableBytes
  | .retrieveUntil offset => b.readIndex.toNat + offset ≤ b.writeIndex.toNat
  | .retrieveAll => True

instance (b : Buffer) : (op : BufferOp) → Decidable (b.Asserted op)
  | .append _ _ => isTrue trivial
  | .read none _ => isTrue trivial
  | .read (some received) _ =>
    inferInstanceAs (Decidable (received.length ≤ b.offered ∧ received.length ≤ maxRwCount))
  | .hasWritten bytes => inferInstanceAs (Decidable (bytes.length ≤ b.writableBytes.toNat))
  | .unWrite len => inferInstanceAs (Decidable (len ≤ b.readableBytes))
  | .retrieve len => inferInstanceAs (Decidable (len ≤ b.readableBytes))
  | .retrieveUntil offset =>
    inferInstanceAs (Decidable (b.readIndex.toNat + offset ≤ b.writeIndex.toNat))
  | .retrieveAll => isTrue trivial

end Buffer

/-- What a call does to the queue the buffer stands for. -/
def BufferOp.meaning : BufferOp → Fifo.Op UInt8
  | .append data _ => .push data
  | .read received _ => .push (received.getD [])
  | .hasWritten bytes => .push bytes
  | .unWrite len => .unpush len.toNat
  | .retrieve len => .pop len.toNat
  | .retrieveUntil offset => .pop offset
  | .retrieveAll => .clear

/-- The number of bytes the calls bring. -/
def bytesHeld (ops : List BufferOp) : Nat :=
  (ops.map fun op => op.meaning.pushed.length).sum

namespace Buffer

/-! ## The buffer stands for a queue -/

theorem toNat_ofNat {n : Nat} (h : n < 2 ^ 32) : (UInt32.ofNat n).toNat = n :=
  UInt32.toNat_ofNat_of_lt' h

/-- The buffer stands for the queue, and its indices for at most `held` bytes. -/
structure Represents (b : Buffer) (queue : Octets) (held : Nat) : Prop where
  ordered : b.readIndex ≤ b.writeIndex
  inside : b.writeIndex ≤ b.bufferSize
  contents : b.contents = queue
  bounded : b.writeIndex.toNat ≤ held

theorem represents_create (memory : Memory) : Represents (create memory) [] 0 :=
  ⟨UInt32.le_refl 0, UInt32.le_iff_toNat_le.mpr (Nat.zero_le _), rfl, Nat.le_refl _⟩

namespace Represents

variable {b : Buffer} {queue : Octets} {held : Nat}

theorem readable (h : Represents b queue held) :
    b.readableBytes.toNat = b.writeIndex.toNat - b.readIndex.toNat :=
  UInt32.toNat_sub_of_le _ _ h.ordered

theorem writable (h : Represents b queue held) :
    b.writableBytes.toNat = b.bufferSize.toNat - b.writeIndex.toNat :=
  UInt32.toNat_sub_of_le _ _ h.inside

theorem indices (h : Represents b queue held) :
    b.readIndex.toNat ≤ b.writeIndex.toNat ∧ b.writeIndex.toNat ≤ b.bufferSize.toNat :=
  ⟨UInt32.le_iff_toNat_le.mp h.ordered, UInt32.le_iff_toNat_le.mp h.inside⟩

theorem length (h : Represents b queue held) :
    queue.length = b.writeIndex.toNat - b.readIndex.toNat := by
  rw [← h.contents, Buffer.contents, Memory.load_length]

/-- The bytes that are put behind the readable ones are readable with them. -/
theorem grow {bytes : Octets} (h : Represents b queue held) {m : Memory} {writeIndex : UInt32}
    (hold : m.load b.readIndex.toNat (b.writeIndex.toNat - b.readIndex.toNat) = queue)
    (hnew : m.load b.writeIndex.toNat bytes.length = bytes)
    (hindex : writeIndex.toNat = b.writeIndex.toNat + bytes.length)
    (hinside : writeIndex ≤ b.bufferSize) :
    Represents { b with buffer := m, writeIndex := writeIndex } (queue ++ bytes)
      (held + bytes.length) := by
  obtain ⟨hordered, -⟩ := h.indices
  refine ⟨?_, hinside, ?_, ?_⟩
  · rw [UInt32.le_iff_toNat_le]
    change b.readIndex.toNat ≤ writeIndex.toNat
    omega
  · have hsplit : writeIndex.toNat - b.readIndex.toNat =
        (b.writeIndex.toNat - b.readIndex.toNat) + bytes.length := by omega
    have hwhere : b.readIndex.toNat + (b.writeIndex.toNat - b.readIndex.toNat) =
        b.writeIndex.toNat := by omega
    change m.load b.readIndex.toNat (writeIndex.toNat - b.readIndex.toNat) = queue ++ bytes
    rw [hsplit, Memory.load_add, hwhere, hold, hnew]
  · change writeIndex.toNat ≤ held + bytes.length
    have := h.bounded
    omega

/-- `std::copy` to `BeginWrite()` with `HasWritten` behind it. -/
theorem written {bytes : Octets} (h : Represents b queue held)
    (hroom : bytes.length ≤ b.writableBytes.toNat) :
    ∃ b', (b.copyIn bytes >>= fun b => b.hasWritten (UInt32.ofNat bytes.length)) = .ok b' ∧
      Represents b' (queue ++ bytes) (held + bytes.length) := by
  obtain ⟨hordered, hinside⟩ := h.indices
  have hwritable := h.writable
  have hsize := b.bufferSize.toNat_lt
  have hlen : (UInt32.ofNat bytes.length).toNat = bytes.length := toNat_ofNat (by omega)
  have hindex : (b.writeIndex + UInt32.ofNat bytes.length).toNat =
      b.writeIndex.toNat + bytes.length := by
    rw [UInt32.toNat_add, hlen, Nat.mod_eq_of_lt (by omega)]
  have hfits : b.writeIndex.toNat + bytes.length ≤ b.bufferSize.toNat := by omega
  refine ⟨{ b with
    buffer := b.buffer.store b.writeIndex.toNat bytes
    writeIndex := b.writeIndex + UInt32.ofNat bytes.length }, ?_, ?_⟩
  · have hle : UInt32.ofNat bytes.length ≤ b.writableBytes := by
      rw [UInt32.le_iff_toNat_le, hlen]
      exact hroom
    rw [copyIn, if_pos hfits]
    exact if_pos hle
  · refine h.grow ?_ (Memory.load_store _ _ _) hindex ?_
    · rw [Memory.load_store_disjoint _ (Or.inl (by omega))]
      exact h.contents
    · rw [UInt32.le_iff_toNat_le, hindex]
      exact hfits

/-- **`MakeSpace` makes the space** and keeps the bytes. -/
theorem makeSpace (h : Represents b queue held) {len : UInt32} (fresh : Memory)
    (hshort : b.writableBytes < len) (htotal : held + len.toNat < 2 ^ 32) :
    ∃ b', b.makeSpace len fresh = .ok b' ∧ Represents b' queue held ∧ len ≤ b'.writableBytes := by
  obtain ⟨hordered, hinside⟩ := h.indices
  have hwritable := h.writable
  have hbounded := h.bounded
  have hsize := b.bufferSize.toNat_lt
  have hless : b.writableBytes.toNat < len.toNat := UInt32.lt_iff_toNat_lt.mp hshort
  have hroom : (b.writableBytes + b.prependableBytes).toNat =
      b.writableBytes.toNat + b.readIndex.toNat := by
    rw [UInt32.toNat_add]
    exact Nat.mod_eq_of_lt (by change _ + b.readIndex.toNat < _; omega)
  unfold Buffer.makeSpace
  split
  · -- the allocation grows behind the bytes
    have hgrown : (b.writeIndex + len).toNat = b.writeIndex.toNat + len.toNat := by
      rw [UInt32.toNat_add, Nat.mod_eq_of_lt (by omega)]
    have hle : b.writeIndex ≤ b.writeIndex + len := by
      rw [UInt32.le_iff_toNat_le, hgrown]
      omega
    refine ⟨_, rfl, ⟨h.ordered, hle, ?_, hbounded⟩, ?_⟩
    · have hkept : b.readIndex.toNat + (b.writeIndex.toNat - b.readIndex.toNat) ≤
          min b.bufferSize.toNat (b.writeIndex + len).toNat := by omega
      exact (Memory.load_realloc b.buffer fresh hkept).trans h.contents
    · change len ≤ b.writeIndex + len - b.writeIndex
      rw [UInt32.le_iff_toNat_le, UInt32.toNat_sub_of_le _ _ hle, hgrown]
      omega
  · rename_i henough
    rw [UInt32.lt_iff_toNat_lt, hroom] at henough
    -- the bytes move to the front
    have hreadable := h.readable
    have hindex : (0 + b.readableBytes).toNat = b.writeIndex.toNat - b.readIndex.toNat := by
      rw [UInt32.zero_add, hreadable]
    have hkept : b.readableBytes = 0 + b.readableBytes - 0 := by
      rw [UInt32.zero_add, UInt32.sub_zero]
    rw [if_pos h.inside]
    dsimp only
    refine ⟨_, if_pos hkept, ⟨?_, ?_, ?_, ?_⟩, ?_⟩
    · exact UInt32.le_iff_toNat_le.mpr (Nat.zero_le _)
    · change 0 + b.readableBytes ≤ b.bufferSize
      rw [UInt32.le_iff_toNat_le, hindex]
      omega
    · change Memory.load _ 0 ((0 + b.readableBytes).toNat - 0) = queue
      rw [hindex, Nat.sub_zero, Memory.load_copy _ (Nat.zero_le _)]
      exact h.contents
    · change (0 + b.readableBytes).toNat ≤ held
      omega
    · change len ≤ b.bufferSize - (0 + b.readableBytes)
      rw [UInt32.le_iff_toNat_le, UInt32.toNat_sub_of_le _ _ (by
        rw [UInt32.le_iff_toNat_le, hindex]; omega), hindex]
      omega

theorem ensureWritableBytes (h : Represents b queue held) {len : UInt32} (fresh : Memory)
    (htotal : held + len.toNat < 2 ^ 32) :
    ∃ b', b.ensureWritableBytes len fresh = .ok b' ∧ Represents b' queue held ∧
      len ≤ b'.writableBytes := by
  unfold Buffer.ensureWritableBytes
  by_cases hshort : b.writableBytes < len
  · obtain ⟨b', hspace, hkept, hroom⟩ := h.makeSpace fresh hshort htotal
    refine ⟨b', ?_, hkept, hroom⟩
    rw [if_pos hshort, hspace]
    exact if_pos hroom
  · have hroom : len ≤ b.writableBytes := UInt32.not_lt.mp hshort
    refine ⟨b, ?_, h, hroom⟩
    rw [if_neg hshort]
    exact if_pos hroom

theorem append (h : Represents b queue held) (data : Octets) (fresh : Memory)
    (htotal : held + data.length < 2 ^ 32) :
    ∃ b', b.append data fresh = .ok b' ∧
      Represents b' (queue ++ data) (held + data.length) := by
  have hlen : (UInt32.ofNat data.length).toNat = data.length := toNat_ofNat (by omega)
  obtain ⟨b1, hspace, h1, hroom⟩ := h.ensureWritableBytes fresh (hlen.symm ▸ htotal)
  rw [UInt32.le_iff_toNat_le, hlen] at hroom
  obtain ⟨b2, hwritten, h2⟩ := h1.written hroom
  refine ⟨b2, ?_, h2⟩
  rw [Buffer.append, hspace]
  exact hwritten

/-- `readv` fills the space behind the bytes. -/
theorem filled (h : Represents b queue held) {bytes : Octets}
    (hlen : bytes.length = b.writableBytes.toNat) :
    Represents
      { b with
        buffer := b.buffer.store b.writeIndex.toNat bytes
        writeIndex := b.bufferSize }
      (queue ++ bytes) (held + bytes.length) := by
  obtain ⟨hordered, hinside⟩ := h.indices
  have hwritable := h.writable
  refine h.grow ?_ (Memory.load_store _ _ _) (by omega) (UInt32.le_refl _)
  rw [Memory.load_store_disjoint _ (Or.inl (by omega))]
  exact h.contents

/-- **`Read` is one append**, whatever the kernel splits it into. -/
theorem read (h : Represents b queue held) {received : Octets} (fresh : Memory)
    (hoffered : received.length ≤ b.offered) (hcount : received.length ≤ maxRwCount)
    (htotal : held + received.length < 2 ^ 32) :
    ∃ b', b.read (some received) fresh = .ok b' ∧
      Represents b' (queue ++ received) (held + received.length) := by
  obtain ⟨hordered, hinside⟩ := h.indices
  have hwritable := h.writable
  have hint : ¬ 2 ^ 31 ≤ received.length := by
    have : maxRwCount < 2 ^ 31 := by decide
    omega
  by_cases hsmall : received.length < b.writableBytes.toNat
  · -- it fits behind the bytes
    obtain ⟨b', hwritten, h'⟩ := h.written (Nat.le_of_lt hsmall)
    refine ⟨b', ?_, h'⟩
    have htake : received.take b.writableBytes.toNat = received :=
      List.take_of_length_le (Nat.le_of_lt hsmall)
    have hfits : b.writeIndex.toNat + received.length ≤ b.bufferSize.toNat := by omega
    rw [copyIn, if_pos hfits] at hwritten
    have hle : UInt32.ofNat received.length ≤ b.writableBytes := by
      rw [UInt32.le_iff_toNat_le, toNat_ofNat (by omega)]
      omega
    rw [Buffer.read, if_neg (Nat.not_lt.mpr hoffered)]
    dsimp only
    rw [htake, copyIn, if_pos hfits]
    refine Eq.trans ?_ ((if_pos hle).symm.trans hwritten)
    exact (if_neg hint).trans (if_pos hsmall)
  · -- the space behind the bytes is filled, and `extrabuf` is appended
    have hlen : (received.take b.writableBytes.toNat).length = b.writableBytes.toNat :=
      List.length_take_of_le (Nat.not_lt.mp hsmall)
    have hfull := h.filled hlen
    have hlength : (received.take b.writableBytes.toNat).length +
        (received.drop b.writableBytes.toNat).length = received.length := by
      rw [← List.length_append, List.take_append_drop]
    obtain ⟨b', hspill, h'⟩ := hfull.append (received.drop b.writableBytes.toNat) fresh (by omega)
    rw [List.append_assoc, List.take_append_drop, Nat.add_assoc, hlength] at h'
    refine ⟨b', ?_, h'⟩
    have hfits : b.writeIndex.toNat + (received.take b.writableBytes.toNat).length ≤
        b.bufferSize.toNat := by omega
    rw [Buffer.read, if_neg (Nat.not_lt.mpr hoffered)]
    dsimp only
    rw [copyIn, if_pos hfits]
    exact (if_neg hint).trans ((if_neg hsmall).trans hspill)

theorem unWrite (h : Represents b queue held) {len : UInt32} (hlen : len ≤ b.readableBytes) :
    ∃ b', b.unWrite len = .ok b' ∧
      Represents b' (queue.take (queue.length - len.toNat)) held := by
  obtain ⟨hordered, hinside⟩ := h.indices
  have hreadable := h.readable
  have hlength := h.length
  have hle := UInt32.le_iff_toNat_le.mp hlen
  have hindex : (b.writeIndex - len).toNat = b.writeIndex.toNat - len.toNat :=
    UInt32.toNat_sub_of_le _ _ (UInt32.le_iff_toNat_le.mpr (by omega))
  refine ⟨_, if_pos hlen, ?_, ?_, ?_, ?_⟩
  · change b.readIndex ≤ b.writeIndex - len
    rw [UInt32.le_iff_toNat_le, hindex]
    omega
  · change b.writeIndex - len ≤ b.bufferSize
    rw [UInt32.le_iff_toNat_le, hindex]
    omega
  · change b.buffer.load b.readIndex.toNat ((b.writeIndex - len).toNat - b.readIndex.toNat) = _
    rw [hlength, ← h.contents, Buffer.contents, Memory.load_take _ (by omega), hindex]
    congr 1
    omega
  · change (b.writeIndex - len).toNat ≤ held
    have := h.bounded
    omega

theorem retrieveAll (_ : Represents b queue held) : Represents b.retrieveAll [] held :=
  ⟨UInt32.le_refl _, UInt32.le_iff_toNat_le.mpr (Nat.zero_le _), rfl, Nat.zero_le _⟩

/-- `Retrieve`; the indices start again at the front when nothing is left. -/
theorem retrieve (h : Represents b queue held) {len : UInt32} (hlen : len ≤ b.readableBytes) :
    ∃ b', b.retrieve len = .ok b' ∧ Represents b' (queue.drop len.toNat) held ∧
      b.buffer.load b.readIndex.toNat len.toNat = queue.take len.toNat := by
  obtain ⟨hordered, hinside⟩ := h.indices
  have hreadable := h.readable
  have hlength := h.length
  have hle := UInt32.le_iff_toNat_le.mp hlen
  have hout : b.buffer.load b.readIndex.toNat len.toNat = queue.take len.toNat := by
    rw [← h.contents, Buffer.contents, Memory.load_take _ (by omega)]
  unfold Buffer.retrieve
  rw [if_pos hlen]
  by_cases hpart : len < b.readableBytes
  · have hless := UInt32.lt_iff_toNat_lt.mp hpart
    have hindex : (b.readIndex + len).toNat = b.readIndex.toNat + len.toNat := by
      have := b.writeIndex.toNat_lt
      rw [UInt32.toNat_add, Nat.mod_eq_of_lt (by omega)]
    refine ⟨_, if_pos hpart, ⟨?_, h.inside, ?_, h.bounded⟩, hout⟩
    · change b.readIndex + len ≤ b.writeIndex
      rw [UInt32.le_iff_toNat_le, hindex]
      omega
    · change b.buffer.load (b.readIndex + len).toNat
        (b.writeIndex.toNat - (b.readIndex + len).toNat) = _
      rw [← h.contents, Buffer.contents, Memory.load_drop _ (by omega), hindex, Nat.sub_sub]
  · have hall : queue.drop len.toNat = [] := by
      rw [UInt32.lt_iff_toNat_lt] at hpart
      exact List.drop_eq_nil_of_le (by omega)
    refine ⟨_, if_neg hpart, ?_, hout⟩
    rw [hall]
    exact h.retrieveAll

end Represents

/-- Each call does to the bytes what its meaning does to the queue. -/
theorem step_represents {b : Buffer} {queue : Octets} {held : Nat} (h : Represents b queue held)
    {op : BufferOp} (hop : b.Asserted op)
    (htotal : held + op.meaning.pushed.length < 2 ^ 32) :
    ∃ b', b.step op = .ok (b', (Fifo.step queue op.meaning).2) ∧
      Represents b' (Fifo.step queue op.meaning).1 (held + op.meaning.pushed.length) := by
  cases op with
  | append data fresh =>
    obtain ⟨b', happend, h'⟩ := h.append data fresh htotal
    exact ⟨b', by rw [step, happend]; rfl, h'⟩
  | read received fresh =>
    cases received with
    | none =>
      refine ⟨b, rfl, ?_⟩
      change Represents b (queue ++ []) held
      rw [List.append_nil]
      exact h
    | some received =>
      obtain ⟨b', hread, h'⟩ := h.read fresh hop.1 hop.2 htotal
      exact ⟨b', by rw [step, hread]; rfl, h'⟩
  | hasWritten bytes =>
    obtain ⟨b', hwritten, h'⟩ := h.written hop
    refine ⟨b', ?_, h'⟩
    rw [step, ← bind_assoc, hwritten]
    rfl
  | unWrite len =>
    obtain ⟨b', hunwritten, h'⟩ := h.unWrite hop
    exact ⟨b', by rw [step, hunwritten]; rfl, h'⟩
  | retrieve len =>
    obtain ⟨b', hretrieved, h', hout⟩ := h.retrieve hop
    refine ⟨b', ?_, h'⟩
    rw [step, hretrieved, hout]
    rfl
  | retrieveUntil offset =>
    have hoffset : b.readIndex.toNat + offset ≤ b.writeIndex.toNat := hop
    have hwrite := b.writeIndex.toNat_lt
    have hlen : (UInt32.ofNat offset).toNat = offset := toNat_ofNat (by omega)
    have hle : UInt32.ofNat offset ≤ b.readableBytes := by
      rw [UInt32.le_iff_toNat_le, hlen, h.readable]
      omega
    obtain ⟨b', hretrieved, h', hout⟩ := h.retrieve hle
    rw [hlen] at h' hout
    refine ⟨b', ?_, h'⟩
    rw [step, Buffer.retrieveUntil, if_pos ⟨Nat.le_add_right _ _, hoffset⟩,
      Nat.add_sub_cancel_left, hretrieved, hout]
    rfl
  | retrieveAll =>
    refine ⟨b.retrieveAll, ?_, h.retrieveAll⟩
    rw [step, h.contents]
    rfl

/-- **The run lemma**: a run of calls is the run of their meanings. -/
theorem run_represents {ops : List BufferOp} : ∀ {b : Buffer} {queue : Octets} {held : Nat},
    Represents b queue held → Meets step Asserted b ops → held + bytesHeld ops < 2 ^ 32 →
    ∃ b', run step b ops = .ok (b', (Fifo.run queue (ops.map BufferOp.meaning)).2) ∧
      Represents b' (Fifo.run queue (ops.map BufferOp.meaning)).1 (held + bytesHeld ops) := by
  induction ops with
  | nil => exact fun h _ _ => ⟨_, rfl, h⟩
  | cons op ops ih =>
    intro b queue held h hm htotal
    have hsum : bytesHeld (op :: ops) = op.meaning.pushed.length + bytesHeld ops := by
      simp [bytesHeld]
    obtain ⟨b1, hstep, h1⟩ := step_represents h hm.1 (by omega)
    obtain ⟨b2, hrun, h2⟩ := ih h1 (hm.2 _ _ hstep) (by omega)
    rw [Nat.add_assoc, ← hsum] at h2
    refine ⟨b2, ?_, h2⟩
    rw [run, hstep]
    simp only [hrun]
    rfl

/-- **`Buffer` is a byte queue.** Calls whose assertions hold, with fewer than
2^32 bytes in all, never fail; they hand out what the queue hands out, and leave
what the queue leaves between `Peek()` and `BeginWrite()`. -/
theorem byte_fifo (memory : Memory) (ops : List BufferOp)
    (hasserted : Meets step Asserted (create memory) ops) (htotal : bytesHeld ops < 2 ^ 32) :
    ∃ b, run step (create memory) ops =
        .ok (b, (Fifo.run [] (ops.map BufferOp.meaning)).2) ∧
      b.contents = (Fifo.run [] (ops.map BufferOp.meaning)).1 ∧
      b.readIndex ≤ b.writeIndex ∧ b.writeIndex ≤ b.bufferSize ∧
      ((∀ op ∈ ops, op.meaning.Forward) →
        (ops.map BufferOp.meaning).flatMap Fifo.Op.pushed =
          (Fifo.run [] (ops.map BufferOp.meaning)).2 ++ b.contents) := by
  obtain ⟨b, hrun, h⟩ := run_represents (represents_create memory) hasserted
    (by rw [Nat.zero_add]; exact htotal)
  refine ⟨b, hrun, h.contents, h.ordered, h.inside, fun hforward => ?_⟩
  have hconserved := Fifo.run_conserves [] (List.forall_mem_map.mpr hforward)
  rw [h.contents]
  exact hconserved

/-- Three bytes, two of them retrieved, two more that are read, one of which is
taken back. -/
def sampleOps : List BufferOp :=
  [.append [1, 2, 3] (fun _ => 0), .retrieve 2, .read (some [4, 5]) (fun _ => 0), .unWrite 1,
    .retrieveUntil 1]

theorem byte_fifo_sample :
    ∃ b, run step (create fun _ => 0) sampleOps = .ok (b, [1, 2, 3]) ∧ b.contents = [4] := by
  have hasserted : Meets step Asserted (create fun _ => 0) sampleOps :=
    meets_of_checkMeets (fun _ _ h => of_decide_eq_true h) (by decide +kernel)
  obtain ⟨b, hrun, hcontents, -⟩ :=
    byte_fifo (fun _ => 0) sampleOps hasserted (by decide +kernel)
  exact ⟨b, hrun, hcontents⟩

end Buffer
end MyRtspServer.Net
