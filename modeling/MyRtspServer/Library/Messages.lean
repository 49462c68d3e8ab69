import Mathlib.Data.List.Basic

/-!
# Messages read from a stream

Messages come one behind the other, and each says itself where it ends. A reader
takes the first one off a buffer, or waits while it is not complete. What it reads
does not depend on the pieces in which the stream arrives.
-/
namespace MyRtspServer.Library.Messages

universe u v

variable {Symbol : Type u} {Message : Type v}

/-- The first message of a buffer, and what stands behind it. -/
abbrev Reader (Symbol : Type u) (Message : Type v) := List Symbol → Option (Message × List Symbol)

/-- A reader that takes something, and looks at nothing behind its message. -/
structure Incremental (read : Reader Symbol Message) : Prop where
  more : ∀ {buffer message rest}, read buffer = some (message, rest) → ∀ later,
    read (buffer ++ later) = some (message, rest ++ later)
  less : ∀ {buffer message rest}, read buffer = some (message, rest) → rest.length < buffer.length

/-- At most `fuel` messages, and what is left. -/
def readSome (read : Reader Symbol Message) : Nat → List Symbol → List Message × List Symbol
  | 0, buffer => ([], buffer)
  | fuel + 1, buffer =>
    match read buffer with
    | none => ([], buffer)
    | some (message, rest) =>
      let later := readSome read fuel rest
      (message :: later.1, later.2)

/-- All the messages of a buffer, and what is left. -/
def readAll (read : Reader Symbol Message) (buffer : List Symbol) : List Message × List Symbol :=
  readSome read buffer.length buffer

/-- The messages that are read while the stream arrives in these pieces. -/
def readPieces (read : Reader Symbol Message) (left : List Symbol) :
    List (List Symbol) → List Message × List Symbol
  | [] => ([], left)
  | piece :: pieces =>
    let now := readAll read (left ++ piece)
    let later := readPieces read now.2 pieces
    (now.1 ++ later.1, later.2)

/-- The encoding of the message is read as the message. -/
def ReadsBack (read : Reader Symbol Message) (encode : Message → List Symbol) (message : Message) :
    Prop :=
  read (encode message) = some (message, [])

section Rules

variable {read : Reader Symbol Message} {encode : Message → List Symbol}

theorem Incremental.nil (h : Incremental read) : read [] = none := by
  cases hread : read [] with
  | none => rfl
  | some found =>
    obtain ⟨message, rest⟩ := found
    exact absurd (h.less hread) (Nat.not_lt_zero _)

/-- Fuel for each symbol is enough. -/
theorem readSome_fuel (h : Incremental read) (fuel : Nat) :
    ∀ {fuel' : Nat} {buffer : List Symbol}, buffer.length ≤ fuel → buffer.length ≤ fuel' →
      readSome read fuel buffer = readSome read fuel' buffer := by
  have hempty : ∀ n, readSome read n [] = ([], []) := by
    intro n
    cases n with
    | zero => rfl
    | succ n => rw [readSome, h.nil]
  induction fuel with
  | zero =>
    intro fuel' buffer hfuel _
    rw [List.length_eq_zero_iff.mp (Nat.le_zero.mp hfuel), hempty, hempty]
  | succ fuel ih =>
    intro fuel' buffer hfuel hfuel'
    cases fuel' with
    | zero => rw [List.length_eq_zero_iff.mp (Nat.le_zero.mp hfuel'), hempty, hempty]
    | succ fuel' =>
      rw [readSome, readSome]
      cases hread : read buffer with
      | none => rfl
      | some found =>
        obtain ⟨message, rest⟩ := found
        have hless := h.less hread
        have hrest : readSome read fuel rest = readSome read fuel' rest :=
          ih (by omega) (by omega)
        simp only [hrest]

theorem readAll_none {buffer : List Symbol} (hread : read buffer = none) :
    readAll read buffer = ([], buffer) := by
  unfold readAll
  cases buffer.length with
  | zero => rfl
  | succ n => rw [readSome, hread]

/-- The first message, and then those of the rest. -/
theorem readAll_some (h : Incremental read) {buffer rest : List Symbol} {message : Message}
    (hread : read buffer = some (message, rest)) :
    readAll read buffer = (message :: (readAll read rest).1, (readAll read rest).2) := by
  have hless := h.less hread
  obtain ⟨n, hn⟩ := Nat.exists_eq_succ_of_ne_zero (Nat.ne_zero_of_lt hless)
  rw [readAll, hn, readSome, hread]
  dsimp only
  rw [readSome_fuel h n (by omega) (Nat.le_refl rest.length)]
  rfl

/-- What holds of the buffers that hold no message, and of a buffer when it holds of
what stands behind its first message, holds of all. -/
theorem readAll_induction (h : Incremental read) {P : List Symbol → Prop}
    (hnone : ∀ buffer, read buffer = none → P buffer)
    (hsome : ∀ buffer message rest, read buffer = some (message, rest) → P rest → P buffer)
    (buffer : List Symbol) : P buffer := by
  generalize hsize : buffer.length = size
  induction size using Nat.strongRecOn generalizing buffer with
  | ind size ih =>
    cases hread : read buffer with
    | none => exact hnone buffer hread
    | some found =>
      obtain ⟨message, rest⟩ := found
      have hless := h.less hread
      exact hsome buffer message rest hread (ih _ (hsize ▸ hless) rest rfl)

/-- No message is left. -/
theorem readAll_left (h : Incremental read) (buffer : List Symbol) :
    read (readAll read buffer).2 = none := by
  induction buffer using readAll_induction h with
  | hnone buffer hread =>
    rw [readAll_none hread]
    exact hread
  | hsome buffer message rest hread ih =>
    rw [readAll_some h hread]
    exact ih

/-- **A buffer can be read in two steps**: what the first leaves goes on. -/
theorem readAll_append (h : Incremental read) (buffer later : List Symbol) :
    readAll read (buffer ++ later) =
      ((readAll read buffer).1 ++ (readAll read ((readAll read buffer).2 ++ later)).1,
        (readAll read ((readAll read buffer).2 ++ later)).2) := by
  induction buffer using readAll_induction h with
  | hnone buffer hread =>
    rw [readAll_none hread]
    rfl
  | hsome buffer message rest hread ih =>
    rw [readAll_some h hread, readAll_some h (h.more hread later), ih]
    rfl

/-- **However the stream is cut, the same messages are read**, and the same is left. -/
theorem readPieces_eq (h : Incremental read) (pieces : List (List Symbol)) :
    ∀ {left : List Symbol}, read left = none →
      readPieces read left pieces = readAll read (left ++ pieces.flatten) := by
  induction pieces with
  | nil =>
    intro left hleft
    rw [List.flatten_nil, List.append_nil, readAll_none hleft]
    rfl
  | cons piece pieces ih =>
    intro left _
    have hagain := ih (readAll_left h (left ++ piece))
    rw [List.flatten_cons, ← List.append_assoc, readAll_append h, ← hagain]
    rfl

/-! ## Messages that were written -/

/-- Less than a message that reads back is not read. -/
theorem ReadsBack.cut (h : Incremental read) {message : Message} {piece : List Symbol}
    (hback : ReadsBack read encode message) (hpiece : piece <+: encode message)
    (hcut : piece ≠ encode message) : read piece = none := by
  cases hread : read piece with
  | none => rfl
  | some found =>
    obtain ⟨later, hlater⟩ := hpiece
    obtain ⟨first, rest⟩ := found
    have hmore := h.more hread later
    rw [hlater, hback, Option.some.injEq, Prod.mk.injEq] at hmore
    have hnothing := (List.append_eq_nil_iff.mp hmore.2.symm).2
    exact absurd (by rw [← hlater, hnothing, List.append_nil]) hcut

/-- **The messages are read back**, each once and in order, and what is left is what was
sent behind them. -/
theorem readAll_encoded (h : Incremental read) {messages : List Message} {piece : List Symbol}
    (hback : ∀ message ∈ messages, ReadsBack read encode message) (hpiece : read piece = none) :
    readAll read (messages.flatMap encode ++ piece) = (messages, piece) := by
  induction messages with
  | nil => exact readAll_none hpiece
  | cons message messages ih =>
    have hfirst := h.more (hback message List.mem_cons_self) (messages.flatMap encode ++ piece)
    rw [List.flatMap_cons, List.append_assoc, readAll_some h hfirst, List.nil_append,
      ih fun other hother => hback other (List.mem_cons_of_mem _ hother)]

end Rules
end MyRtspServer.Library.Messages
