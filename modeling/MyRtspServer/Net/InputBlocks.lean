import MyRtspServer.Net.Broadcast
import MyRtspServer.Net.Buffer

/-!
# The allocations of the input buffers

`HandleRtpOverTcp` takes the length of a frame from bytes 2 and 3 behind `Peek()` as soon
as one byte has come in. Nothing depends on what it finds there, as fewer than four bytes
are never a frame, but the two bytes may lie behind the end of the allocation. Here the
size of each allocation and the place of `Peek()` in it go along with the server, and such
a read is a fault. It is the fifth thing that is taken for granted.
-/
namespace MyRtspServer.Net

open Library Library.Octets Library.Transition

/-- The allocation of a buffer: `m_buffer_size_` and `m_read_index_`. -/
structure Block where
  bufferSize : Nat := 1024
  readIndex : Nat := 0
  deriving DecidableEq, Repr

namespace Block

/-- `Read`, while `held` bytes are readable. -/
def read (g : Block) (held received : Nat) : Block :=
  let writable := g.bufferSize - (g.readIndex + held)
  if received ≤ writable then g
  else if g.readIndex < received - writable then
    { g with bufferSize := g.bufferSize + (received - writable) }
  else { g with readIndex := 0 }

/-- `Retrieve`, while `held` bytes are readable. -/
def retrieve (g : Block) (held len : Nat) : Block :=
  if len < held then { g with readIndex := g.readIndex + len } else { g with readIndex := 0 }

variable {g : Block} {held : Nat}

/-- The readable bytes lie in the allocation. -/
def Holds (g : Block) (held : Nat) : Prop := g.readIndex + held ≤ g.bufferSize

theorem Holds.read (h : g.Holds held) (received : Nat) :
    (g.read held received).Holds (held + received) := by
  unfold Holds at h ⊢
  unfold Block.read
  dsimp only
  split
  · omega
  · split <;> dsimp only <;> omega

theorem Holds.retrieve (h : g.Holds held) (len : Nat) :
    (g.retrieve held len).Holds (held - len) := by
  unfold Holds at h ⊢
  unfold Block.retrieve
  split <;> dsimp only <;> omega

/-- What does not fit comes behind the bytes that do. -/
theorem read_filled {writable received : Nat} (h : g.bufferSize - (g.readIndex + held) = writable) :
    g.read (held + writable) (received - writable) = g.read held received := by
  have hnone : g.bufferSize - (g.readIndex + (held + writable)) = 0 := by omega
  unfold Block.read
  rw [h, hnone]
  dsimp only
  rw [Nat.sub_zero]
  by_cases hfits : received ≤ writable
  · rw [if_pos hfits, if_pos (by omega)]
  · rw [if_neg hfits, if_neg (by omega)]

end Block

/-! ## This is what a buffer does -/

namespace Buffer

def block (b : Buffer) : Block := ⟨b.bufferSize.toNat, b.readIndex.toNat⟩

theorem create_block (memory : Memory) : (create memory).block = {} := rfl

theorem copyIn_block {b b' : Buffer} {data : Octets} (h : b.copyIn data = .ok b') :
    b'.block = b.block := by
  unfold copyIn at h
  split at h
  · cases h
    rfl
  · cases h

theorem hasWritten_block {b b' : Buffer} {len : UInt32} (h : b.hasWritten len = .ok b') :
    b'.block = b.block := by
  unfold hasWritten at h
  split at h
  · cases h
    rfl
  · cases h

/-- The assertion behind `MakeSpace` changes nothing. -/
theorem ensureWritableBytes_ok {b b' : Buffer} {len : UInt32} {fresh : Memory}
    (h : b.ensureWritableBytes len fresh = .ok b') :
    (if b.writableBytes < len then b.makeSpace len fresh else .ok b) = .ok b' := by
  have hasserted : ∀ {b1 : Buffer}, (if len ≤ b1.writableBytes then Except.ok b1
      else .error Fault.assertion) = .ok b' → b1 = b' := by
    intro b1 h1
    split at h1
    · cases h1
      rfl
    · cases h1
  unfold ensureWritableBytes at h
  split
  · rename_i hshort
    rw [if_pos hshort] at h
    cases hspace : b.makeSpace len fresh with
    | error e =>
      rw [hspace] at h
      cases h
    | ok b1 =>
      rw [hspace] at h
      rw [hasserted h]
  · rename_i hroom
    rw [if_neg hroom] at h
    rw [hasserted h]

/-- `Append` makes space, and copies into it. -/
theorem append_ok {b b' : Buffer} {data : Octets} {fresh : Memory}
    (h : b.append data fresh = .ok b') :
    ∃ b1, b.ensureWritableBytes (UInt32.ofNat data.length) fresh = .ok b1 ∧
      b'.block = b1.block := by
  unfold append at h
  cases hensured : b.ensureWritableBytes (UInt32.ofNat data.length) fresh with
  | error e =>
    rw [hensured] at h
    cases h
  | ok b1 =>
    rw [hensured] at h
    change (b1.copyIn data >>= fun b => b.hasWritten _) = _ at h
    cases hcopied : b1.copyIn data with
    | error e =>
      rw [hcopied] at h
      cases h
    | ok b2 =>
      rw [hcopied] at h
      exact ⟨b1, rfl, (hasWritten_block h).trans (copyIn_block hcopied)⟩

namespace Represents

variable {b b' : Buffer} {queue : Octets} {held : Nat}

/-- `MakeSpace` where the bytes reach to the end. -/
theorem makeSpace_block (h : Represents b queue held) (hfull : b.writeIndex = b.bufferSize)
    {len : UInt32} {fresh : Memory} (htotal : held + len.toNat < 2 ^ 32)
    (hspace : b.makeSpace len fresh = .ok b') :
    b'.block = if b.readIndex.toNat < len.toNat then
        { b.block with bufferSize := b.bufferSize.toNat + len.toNat }
      else { b.block with readIndex := 0 } := by
  have hbounded := h.bounded
  have hwritable : b.writableBytes = 0 := by
    rw [writableBytes, hfull, UInt32.sub_self]
  have hgrown : (b.writeIndex + len).toNat = b.bufferSize.toNat + len.toNat := by
    rw [UInt32.toNat_add, Nat.mod_eq_of_lt (by omega), hfull]
  unfold Buffer.makeSpace at hspace
  rw [hwritable, UInt32.zero_add, prependableBytes] at hspace
  by_cases hless : b.readIndex < len
  · rw [if_pos hless] at hspace
    rw [if_pos (UInt32.lt_iff_toNat_lt.mp hless)]
    cases hspace
    rw [← hgrown]
    rfl
  · rw [if_neg hless, if_pos h.inside] at hspace
    rw [if_neg fun hlt => hless (UInt32.lt_iff_toNat_lt.mpr hlt)]
    dsimp only at hspace
    split at hspace
    · cases hspace
      rfl
    · cases hspace

theorem append_block (h : Represents b queue held) (hfull : b.writeIndex = b.bufferSize)
    {data : Octets} {fresh : Memory} (htotal : held + data.length < 2 ^ 32)
    (happend : b.append data fresh = .ok b') :
    b'.block = b.block.read queue.length data.length := by
  obtain ⟨hordered, -⟩ := h.indices
  have hlength := h.length
  have hlen : (UInt32.ofNat data.length).toNat = data.length := toNat_ofNat (by omega)
  have hnoroom : b.block.bufferSize - (b.block.readIndex + queue.length) = 0 := by
    change b.bufferSize.toNat - (b.readIndex.toNat + queue.length) = 0
    rw [← hfull]
    omega
  have hshort : b.writableBytes < UInt32.ofNat data.length ↔ 0 < data.length := by
    rw [UInt32.lt_iff_toNat_lt, hlen, writableBytes, hfull, UInt32.sub_self]
    exact Iff.rfl
  obtain ⟨b1, hensured, hblock⟩ := append_ok happend
  have hspace := ensureWritableBytes_ok hensured
  rw [hblock, Block.read, hnoroom, Nat.sub_zero]
  by_cases hnone : 0 < data.length
  · rw [if_pos (hshort.mpr hnone)] at hspace
    rw [if_neg (by omega), h.makeSpace_block hfull (hlen.symm ▸ htotal) hspace, hlen]
    rfl
  · rw [if_neg (mt hshort.mp hnone)] at hspace
    cases hspace
    rw [if_pos (by omega)]

/-- **`Read` is `Block.read`.** -/
theorem read_block (h : Represents b queue held) {received : Octets} {fresh : Memory}
    (hcount : received.length ≤ maxRwCount) (htotal : held + received.length < 2 ^ 32)
    (hread : b.read (some received) fresh = .ok b') :
    b'.block = b.block.read queue.length received.length := by
  obtain ⟨hordered, hinside⟩ := h.indices
  have hlength := h.length
  have hwritable := h.writable
  have hint : ¬ 2 ^ 31 ≤ received.length := by
    have : maxRwCount < 2 ^ 31 := by decide
    omega
  have hroom : b.block.bufferSize - (b.block.readIndex + queue.length) =
      b.writableBytes.toNat := by
    change b.bufferSize.toNat - (b.readIndex.toNat + queue.length) = _
    omega
  unfold Buffer.read at hread
  dsimp only at hread
  split at hread
  · cases hread
  unfold copyIn at hread
  split at hread
  · by_cases hsmall : received.length < b.writableBytes.toNat
    · -- it fits behind the bytes
      have hdone := (if_pos hsmall).symm.trans hread
      cases hdone
      rw [Block.read, hroom, if_pos (Nat.le_of_lt hsmall)]
      rfl
    · -- the space behind the bytes is filled, and the rest is appended
      have happend := (if_neg hsmall).symm.trans hread
      have hlen : (received.take b.writableBytes.toNat).length = b.writableBytes.toNat :=
        List.length_take_of_le (Nat.not_lt.mp hsmall)
      have hdrop : (received.drop b.writableBytes.toNat).length =
          received.length - b.writableBytes.toNat := List.length_drop
      have hheld : (queue ++ received.take b.writableBytes.toNat).length =
          queue.length + b.writableBytes.toNat := by
        rw [List.length_append, hlen]
      rw [(h.filled hlen).append_block rfl (by omega) happend, hheld, hdrop]
      exact Block.read_filled hroom
  · cases hread

/-- **`Retrieve` is `Block.retrieve`.** -/
theorem retrieve_block (h : Represents b queue held) {len : UInt32}
    (hretrieve : b.retrieve len = .ok b') :
    b'.block = b.block.retrieve queue.length len.toNat := by
  have hreadable := h.readable
  obtain ⟨hordered, hinside⟩ := h.indices
  have hsize := b.bufferSize.toNat_lt
  unfold Buffer.retrieve at hretrieve
  split at hretrieve
  · rename_i hle
    rw [UInt32.le_iff_toNat_le, hreadable, ← h.length] at hle
    have hless : len < b.readableBytes ↔ len.toNat < queue.length := by
      rw [UInt32.lt_iff_toNat_lt, hreadable, h.length]
    have hlength := h.length
    unfold Block.retrieve
    split at hretrieve
    · rename_i hlt
      cases hretrieve
      have hindex : (b.readIndex + len).toNat = b.readIndex.toNat + len.toNat := by
        rw [UInt32.toNat_add, Nat.mod_eq_of_lt (by omega)]
      rw [if_pos (hless.mp hlt), block, hindex]
      rfl
    · rename_i hno
      cases hretrieve
      rw [if_neg (mt hless.mpr hno)]
      rfl
  · cases hretrieve

/-- `Read`, and `Retrieve` of all but a rest. -/
theorem turn_block (h : Represents b queue held) {received rest : Octets} (fresh : Memory)
    (hoffered : received.length ≤ b.offered) (hcount : received.length ≤ maxRwCount)
    (htotal : held + received.length < 2 ^ 32) (hrest : rest <:+ queue ++ received) :
    ∃ b1 len b2, b.read (some received) fresh = .ok b1 ∧ b1.retrieve len = .ok b2 ∧
      Represents b2 rest (held + received.length) ∧
      b2.block = (b.block.read queue.length received.length).retrieve
        (queue.length + received.length) (queue.length + received.length - rest.length) := by
  obtain ⟨b1, hread, h1⟩ := h.read fresh hoffered hcount htotal
  have hbounded := h1.bounded
  obtain ⟨hordered, -⟩ := h1.indices
  have hlength := h1.length
  have hreadable := h1.readable
  obtain ⟨front, hfront⟩ := hrest
  have hsum := congrArg List.length hfront
  rw [List.length_append] at hsum
  have hlen : (UInt32.ofNat front.length).toNat = front.length := toNat_ofNat (by omega)
  have hheld : UInt32.ofNat front.length ≤ b1.readableBytes :=
    UInt32.le_iff_toNat_le.mpr (by omega)
  obtain ⟨b2, hretrieve, h2, -⟩ := h1.retrieve hheld
  rw [hlen, ← hfront, List.drop_left] at h2
  have hblock := h1.retrieve_block hretrieve
  rw [h.read_block hcount htotal hread, hlen, List.length_append] at hblock
  rw [List.length_append] at hsum
  refine ⟨b1, _, b2, hread, hretrieve, h2, ?_⟩
  rw [hblock, ← hsum, Nat.add_sub_cancel]

end Represents
end Buffer

/-! ## The server with the allocations of its buffers -/

/-- What is read is taken for a frame. -/
def Connection.Interleaves (c : Connection) (bytes : Octets) : Prop :=
  c.rtsp.request.isRtpOverTcp = true ∧ (c.inputBuffer ++ bytes).head? = some 36

instance (c : Connection) (bytes : Octets) : Decidable (c.Interleaves bytes) :=
  inferInstanceAs (Decidable (_ ∧ _))

/-- The first four bytes behind `Peek()` lie in the allocation. -/
def Block.hasHeader (g : Block) : Bool := decide (g.readIndex + 4 ≤ g.bufferSize)

/-- What is left in the buffer is the end of what was in it. -/
theorem Connection.handleRead_suffix {w : World} {m : Media} {c : Connection} {bytes : Octets}
    {r : ReadResult} (h : c.handleRead w m bytes = .ok r) :
    r.conn.inputBuffer <:+ c.inputBuffer ++ bytes := by
  unfold handleRead handleReadBytes at h
  dsimp only at h
  split at h
  · cases h
    unfold handleRtpOverTcp
    dsimp only
    split
    · exact List.suffix_refl _
    · exact List.drop_suffix _ _
  split at h
  · cases h
  · rename_i hparse
    cases h
    exact Request.parseRequest_suffix hparse
  · rename_i hparse
    split at h
    · cases h
    · cases h
      exact Request.parseRequest_suffix hparse

namespace Server

/-- `buf[2]` and `buf[3]` can be read, if `HandleRtpOverTcp` reads them. -/
def readsInside (s : Server) (blocks : Nat → Block) : ServerAct → Bool
  | .read sockfd bytes _ =>
    match s.readable sockfd with
    | none => true
    | some conn =>
      decide (bytes = [] ∨ ¬ conn.Interleaves bytes) ||
        ((blocks sockfd).read conn.inputBuffer.length bytes.length).hasHeader
  | _ => true

/-- `Read`, and `Retrieve` of what is not in the buffer any more. -/
def follow (s : Server) (blocks : Nat → Block) (act : ServerAct) (s' : Server) : Nat → Block :=
  match act with
  | .accept connfd _ => if connfd ∈ s.connections then blocks else Function.update blocks connfd {}
  | .read sockfd bytes _ =>
    match s.readable sockfd, s'.connections.lookup sockfd with
    | some conn, some conn' =>
      if bytes = [] then blocks
      else
        let held := conn.inputBuffer.length + bytes.length
        Function.update blocks sockfd
          (((blocks sockfd).read conn.inputBuffer.length bytes.length).retrieve held
            (held - conn'.inputBuffer.length))
    | _, _ => blocks
  | _ => blocks

def stepInside : Server × (Nat → Block) → ServerAct →
    Except Fault ((Server × (Nat → Block)) × List Effect) :=
  guarded .outOfBounds readsInside follow step

/-- The received bytes lie in their allocations. -/
def Allocated (s : Server) (blocks : Nat → Block) : Prop :=
  ∀ fd conn, s.connections.lookup fd = some conn → (blocks fd).Holds conn.inputBuffer.length

theorem Allocated.kept {s s' : Server} {blocks : Nat → Block} (h : s.Allocated blocks)
    (hkept : ∀ {fd conn}, s'.connections.lookup fd = some conn →
      s.connections.lookup fd = some conn) : s'.Allocated blocks :=
  fun fd conn hconn => h fd conn (hkept hconn)

/-- One connection is put in, or put back, with its allocation. -/
theorem Allocated.insert {s : Server} {blocks : Nat → Block} (h : s.Allocated blocks) {m : Media}
    {list : List Nat} {sockfd : Nat} {conn : Connection} {g : Block}
    (hg : g.Holds conn.inputBuffer.length) :
    Allocated ⟨m, s.connections.insert sockfd conn, list⟩ (Function.update blocks sockfd g) := by
  intro fd other hother
  by_cases heq : fd = sockfd
  · subst heq
    rw [AList.lookup_insert] at hother
    cases hother
    rw [Function.update_self]
    exact hg
  · rw [AList.lookup_insert_ne heq] at hother
    rw [Function.update_of_ne heq]
    exact h fd other hother

theorem step_readable {s s' : Server} {sockfd : Nat} {bytes : Octets} {w : World}
    {conn : Connection} {effects : List Effect} (hconn : s.readable sockfd = some conn)
    (hbytes : bytes ≠ []) (hstep : s.step (.read sockfd bytes w) = .ok (s', effects)) :
    ∃ r, conn.handleRead w s.media bytes = .ok r ∧ s' = s.afterRead sockfd r := by
  rw [step, hconn] at hstep
  dsimp only at hstep
  rw [if_neg hbytes, handleRead] at hstep
  cases hr : conn.handleRead w s.media bytes with
  | error e =>
    rw [hr] at hstep
    cases hstep
  | ok r =>
    rw [hr] at hstep
    cases hstep
    refine ⟨r, rfl, ?_⟩
    unfold afterRead
    cases r.ok <;> rfl

theorem follow_read {s : Server} {blocks : Nat → Block} {sockfd : Nat} {bytes : Octets}
    {conn : Connection} (hconn : s.readable sockfd = some conn) (hbytes : bytes ≠ []) (w : World)
    (r : ReadResult) :
    s.follow blocks (.read sockfd bytes w) (s.afterRead sockfd r) =
      Function.update blocks sockfd
        (((blocks sockfd).read conn.inputBuffer.length bytes.length).retrieve
          (conn.inputBuffer.length + bytes.length)
          (conn.inputBuffer.length + bytes.length - r.conn.inputBuffer.length)) := by
  rw [follow, hconn, afterRead, AList.lookup_insert]
  dsimp only
  rw [if_neg hbytes]

/-- **The allocation that goes along is that of the buffer**, if the buffer holds the same
bytes. -/
theorem follow_buffer {s s' : Server} {blocks : Nat → Block} {sockfd : Nat} {bytes : Octets}
    {w : World} {conn : Connection} {effects : List Effect}
    (hconn : s.readable sockfd = some conn) (hbytes : bytes ≠ [])
    (hstep : s.step (.read sockfd bytes w) = .ok (s', effects)) {b : Buffer} {held : Nat}
    (h : Buffer.Represents b conn.inputBuffer held) (hblock : b.block = blocks sockfd)
    (fresh : Memory) (hoffered : bytes.length ≤ b.offered)
    (hcount : bytes.length ≤ Buffer.maxRwCount) (htotal : held + bytes.length < 2 ^ 32) :
    ∃ b1 len b2 conn', b.read (some bytes) fresh = .ok b1 ∧ b1.retrieve len = .ok b2 ∧
      s'.connections.lookup sockfd = some conn' ∧
      Buffer.Represents b2 conn'.inputBuffer (held + bytes.length) ∧
      b2.block = s.follow blocks (.read sockfd bytes w) s' sockfd := by
  obtain ⟨r, hr, rfl⟩ := step_readable hconn hbytes hstep
  obtain ⟨b1, len, b2, hread, hretrieve, h2, hdone⟩ :=
    h.turn_block fresh hoffered hcount htotal (Connection.handleRead_suffix hr)
  refine ⟨b1, len, b2, r.conn, hread, hretrieve, AList.lookup_insert _, h2, ?_⟩
  rw [follow_read hconn hbytes, Function.update_self, hdone, hblock]

/-- What comes to its end with the allocations is a run of the server. -/
theorem run_inside {s s' : Server} {blocks blocks' : Nat → Block} {acts : List ServerAct}
    {effects : List Effect}
    (h : run stepInside (s, blocks) acts = .ok ((s', blocks'), effects)) :
    run step s acts = .ok (s', effects) :=
  run_guarded h

/-- A frame of 1021 bytes with the first byte of the next one, and then its second: `Peek()`
stands three bytes before the end. -/
def frameAtTheEnd : List ServerAct :=
  samplePlay ++ [.read 7 ([36, 0, 3, 249] ++ List.replicate 1017 0 ++ [36]) sampleWorld,
    .read 7 [0] sampleWorld]

example : checkRun step {} frameAtTheEnd (fun _ _ => true) = true ∧
    checkRun stepInside ({}, fun _ => {}) frameAtTheEnd (fun _ _ => true) = false := by
  decide +kernel

end Server

/-! ## The program with the allocations of its buffers -/

namespace Program

def readsInside (p : Program) (blocks : Nat → Block) : ProgramAct → Bool
  | .network act => p.server.readsInside blocks act.act
  | .pipeline .. => true

def follow (p : Program) (blocks : Nat → Block) (act : ProgramAct) (p' : Program) : Nat → Block :=
  match act with
  | .network act => p.server.follow blocks act.act p'.server
  | .pipeline .. => blocks

def stepInside : Program × (Nat → Block) → ProgramAct →
    Except ProgramFault ((Program × (Nat → Block)) × List ProgramEvent) :=
  guarded (.server .outOfBounds) readsInside follow step

variable {f : Sources}

/-- What comes to its end with the allocations is a run of the program. -/
theorem run_inside {p p' : Program} {blocks blocks' : Nat → Block} {acts : List ProgramAct}
    {events : List ProgramEvent}
    (h : run stepInside (p, blocks) acts = .ok ((p', blocks'), events)) :
    run step p acts = .ok (p', events) :=
  run_guarded h

end Program
end MyRtspServer.Net
