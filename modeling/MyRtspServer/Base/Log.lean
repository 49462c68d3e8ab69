import Mathlib.Data.List.FinRange
import Mathlib.Logic.Function.Basic
import MyRtspServer.Library.Octets
import MyRtspServer.Library.Transition

/-!
# `Log`

`Append` copies a line into the current buffer, and `Run` writes what there is to the
file. What is done under `m_mutex_` without waiting is one step. A wait on `m_cond_`
ends for a notification or for none, so whoever waits may go on at any time: the
flusher, after five seconds or earlier, and an appender inside the rotation.

The rotation is never entered. A buffer keeps a byte free, `Append` rotates only when
none is left, and the buffer itself drops a line it has no room for.
-/
namespace MyRtspServer.Base

open Library Library.Octets Library.Transition

/-- `BUFFER_NUM`. -/
abbrev bufferNum : Nat := 4

/-- `LOG_BUFFER_SIZE`. -/
abbrev logBufferSize : Nat := 1024 * 1024

/-- What is between `m_data_` and `m_cur_ptr`. -/
structure LogBuffer where
  data : Octets := []
  fits : data.length ≤ logBufferSize := by decide

namespace LogBuffer

def avail (b : LogBuffer) : Nat := logBufferSize - b.data.length

def length (b : LogBuffer) : Nat := b.data.length

/-- A line that leaves no byte free is dropped. -/
def append (b : LogBuffer) (line : Octets) : LogBuffer :=
  if h : line.length < b.avail then
    { data := b.data ++ line
      fits := by
        unfold avail at h
        rw [List.length_append]
        omega }
  else b

def reset (_ : LogBuffer) : LogBuffer := {}

end LogBuffer

/-- `m_buffer_[i]`, by its number. -/
abbrev BufferId := Fin bufferNum

/-- `appenders` are the lines of those who wait in `Append`. -/
structure Log where
  buffers : BufferId → LogBuffer := fun _ => {}
  curBuffer : BufferId
  freeBufferQue : List BufferId
  flushBufferQue : List BufferId := []
  file : Octets := []
  appenders : List Octets := []

inductive LogAct where
  | append (line : Octets)
  /-- An appender goes on behind `m_cond_.wait`. -/
  | resume (i : Nat)
  /-- `wait_for` of the flusher times out. -/
  | timeout
  /-- `wait_for` of the flusher ends otherwise. -/
  | wakeUp

/-- The line an act hands to `Append`. -/
def LogAct.line : LogAct → Option Octets
  | .append line => some line
  | _ => none

/-- `pop` and `front` of the empty queue of free buffers. -/
inductive LogFault where
  | pop
  | front
  deriving DecidableEq

namespace Log

/-- `Init`: the current buffer stays in the queue. -/
def init : Log := { curBuffer := ⟨0, by decide⟩, freeBufferQue := List.finRange bufferNum }

/-- `*m_cur_buffer_`. -/
def current (l : Log) : LogBuffer := l.buffers l.curBuffer

def setBuffer (l : Log) (i : BufferId) (b : LogBuffer) : Log :=
  { l with buffers := Function.update l.buffers i b }

/-- The loop of the rotation and the line behind it: it waits as long as there is a
free buffer, and takes the front when there is none. -/
def awaitBuffer (l : Log) (line : Octets) : Except LogFault Log :=
  match l.freeBufferQue with
  | [] => .error .front
  | _ :: _ => .ok { l with appenders := l.appenders ++ [line] }

def append (l : Log) (line : Octets) : Except LogFault Log :=
  if l.current.avail ≠ 0 then .ok (l.setBuffer l.curBuffer (l.current.append line))
  else
    match l.freeBufferQue with
    | [] => .error .pop
    | _ :: rest =>
      { l with freeBufferQue := rest
               flushBufferQue := l.flushBufferQue ++ [l.curBuffer] }.awaitBuffer line

/-- The timed-out branch of `Run`. -/
def writeCurrent (l : Log) : Log :=
  if l.current.length = 0 then l
  else { l with file := l.file ++ l.current.data }.setBuffer l.curBuffer l.current.reset

/-- The other branch, with these left in the flush queue. -/
def writeFlushed (l : Log) : List BufferId → Log
  | [] => { l with flushBufferQue := [] }
  | i :: rest =>
    writeFlushed
      ({ l with file := l.file ++ (l.buffers i).data
                freeBufferQue := l.freeBufferQue ++ [i] }.setBuffer i (l.buffers i).reset) rest

/-- One step, and the line that was handed to `Append`. -/
def step (l : Log) : LogAct → Except LogFault (Log × List Octets)
  | .append line => (l.append line).map (·, [line])
  | .resume i =>
    match l.appenders[i]? with
    | none => .ok (l, [])
    | some line =>
      ({ l with appenders := l.appenders.eraseIdx i }.awaitBuffer line).map (·, [])
  | .timeout => .ok (l.writeCurrent, [])
  | .wakeUp => .ok (l.writeFlushed l.flushBufferQue, [])

/-- What the log holds: the file, the buffers to be flushed, the current buffer. -/
def bytes (l : Log) : Octets :=
  l.file ++ l.flushBufferQue.flatMap (fun i => (l.buffers i).data) ++ l.current.data

/-- A line that is appended leaves a byte of the current buffer free. -/
def LineFits (l : Log) (act : LogAct) : Prop :=
  ∀ line, act = .append line → l.current.data.length + line.length < logBufferSize

/-! ## The rotation is never entered -/

/-- The buffers are as `Init` has left them, and the current one has room. -/
structure Unrotated (l : Log) : Prop where
  free : l.freeBufferQue = List.finRange bufferNum
  flush : l.flushBufferQue = []
  appenders : l.appenders = []
  room : l.current.data.length < logBufferSize

theorem init_unrotated : init.Unrotated := ⟨rfl, rfl, rfl, by decide⟩

@[simp] theorem current_setBuffer (l : Log) (b : LogBuffer) :
    (l.setBuffer l.curBuffer b).current = b := by
  simp [current, setBuffer]

theorem Unrotated.bytes_eq {l : Log} (h : l.Unrotated) : l.bytes = l.file ++ l.current.data := by
  rw [bytes, h.flush, List.flatMap_nil, List.append_nil]

/-- What an act adds to the log. -/
def added (l : Log) : LogAct → Octets
  | .append line => if l.current.data.length + line.length < logBufferSize then line else []
  | _ => []

theorem append_data (b : LogBuffer) (line : Octets) : (b.append line).data =
    b.data ++ if b.data.length + line.length < logBufferSize then line else [] := by
  have hroom : line.length < b.avail ↔ b.data.length + line.length < logBufferSize := by
    have := b.fits
    unfold LogBuffer.avail
    omega
  unfold LogBuffer.append
  by_cases h : line.length < b.avail
  · rw [dif_pos h, if_pos (hroom.mp h)]
  · rw [dif_neg h, if_neg (hroom.not.mp h), List.append_nil]

theorem append_unrotated {l : Log} (h : l.Unrotated) (line : Octets) :
    ∃ l', l.append line = .ok l' ∧ l'.Unrotated ∧ l'.bytes = l.bytes ++ l.added (.append line) ∧
      l'.file = l.file := by
  have hroom := h.room
  have havail : l.current.avail ≠ 0 := by
    unfold LogBuffer.avail
    omega
  have hkept : (l.setBuffer l.curBuffer (l.current.append line)).Unrotated := by
    refine ⟨h.free, h.flush, h.appenders, ?_⟩
    rw [current_setBuffer, append_data, List.length_append]
    split
    · assumption
    · exact hroom
  refine ⟨_, if_pos havail, hkept, ?_, rfl⟩
  rw [hkept.bytes_eq, h.bytes_eq, current_setBuffer, append_data, ← List.append_assoc]
  rfl

theorem writeCurrent_unrotated {l : Log} (h : l.Unrotated) :
    l.writeCurrent.Unrotated ∧ l.writeCurrent.bytes = l.bytes := by
  unfold writeCurrent
  split
  · exact ⟨h, rfl⟩
  · have hkept : ({ l with file := l.file ++ l.current.data }.setBuffer l.curBuffer
        l.current.reset).Unrotated := by
      refine ⟨h.free, h.flush, h.appenders, ?_⟩
      simp [current, setBuffer, LogBuffer.reset]
    refine ⟨hkept, ?_⟩
    rw [hkept.bytes_eq, h.bytes_eq]
    simp [current, setBuffer, LogBuffer.reset]

/-- **Every step** succeeds, leaves the buffers where they are, and adds the line it is
given when that fits. -/
theorem step_unrotated {l : Log} (h : l.Unrotated) (act : LogAct) :
    ∃ l' lines, l.step act = .ok (l', lines) ∧ l'.Unrotated ∧ l'.bytes = l.bytes ++ l.added act ∧
      lines = act.line.toList := by
  cases act with
  | append line =>
    obtain ⟨l', happend, hkept, hbytes, -⟩ := append_unrotated h line
    exact ⟨l', [line], by rw [step, happend]; rfl, hkept, hbytes, rfl⟩
  | resume i =>
    refine ⟨l, [], ?_, h, (List.append_nil _).symm, rfl⟩
    simp only [step, h.appenders, List.getElem?_nil]
  | timeout =>
    obtain ⟨hkept, hbytes⟩ := writeCurrent_unrotated h
    exact ⟨_, [], rfl, hkept, by rw [hbytes]; exact (List.append_nil _).symm, rfl⟩
  | wakeUp =>
    have hsame : l.writeFlushed l.flushBufferQue = l := by
      obtain ⟨buffers, curBuffer, free, flush, file, appenders⟩ := l
      obtain rfl : flush = [] := h.flush
      rfl
    exact ⟨l, [], by rw [step, hsame], h, (List.append_nil _).symm, rfl⟩

/-! ## Runs -/

theorem added_of_fits {l : Log} {act : LogAct} (h : l.LineFits act) :
    l.added act = act.line.getD [] := by
  cases act with
  | append line => exact if_pos (h line rfl)
  | resume i => rfl
  | timeout => rfl
  | wakeUp => rfl

/-- A line that does not fit is not empty, and nothing is added. -/
theorem added_of_not_fits {l : Log} {act : LogAct} (hroom : l.Unrotated) (h : ¬ l.LineFits act) :
    l.added act = [] ∧ 0 < (act.line.getD []).length := by
  simp only [LineFits, not_forall, Nat.not_lt] at h
  obtain ⟨line, rfl, hlong⟩ := h
  have := hroom.room
  refine ⟨if_neg (Nat.not_lt.mpr hlong), ?_⟩
  change 0 < line.length
  omega

/-- What a run adds to the log. Nothing that is left out comes back, so the lengths
tell whether all of it is there. -/
theorem run_added (acts : List LogAct) : ∀ {l : Log}, l.Unrotated →
    ∃ l' lines kept, run step l acts = .ok (l', lines) ∧ l'.Unrotated ∧
      l'.bytes = l.bytes ++ kept ∧ kept.length ≤ lines.flatten.length ∧
        (kept = lines.flatten ↔ Meets step LineFits l acts) ∧
          lines = acts.filterMap LogAct.line := by
  induction acts with
  | nil => exact fun h => ⟨_, [], [], rfl, h, (List.append_nil _).symm, Nat.le_refl 0,
      ⟨fun _ => trivial, fun _ => rfl⟩, rfl⟩
  | cons act acts ih =>
    intro l h
    obtain ⟨m, first, hstep, hm, hbytes, hfirst⟩ := step_unrotated h act
    obtain ⟨l', later, kept, hrun, hl', hlater, hle, hiff, hlines⟩ := ih hm
    have hflat : (first ++ later).flatten = act.line.getD [] ++ later.flatten := by
      rw [List.flatten_append, hfirst]
      cases act.line <;> simp
    have hmeets : Meets step LineFits l (act :: acts) ↔
        l.LineFits act ∧ Meets step LineFits m acts :=
      and_congr_right fun _ => ⟨fun hall => hall m first hstep, fun hone m' first' hstep' => by
        cases hstep.symm.trans hstep'
        exact hone⟩
    refine ⟨l', first ++ later, l.added act ++ kept, ?_, hl', ?_, ?_, ?_, ?_⟩
    · rw [run, hstep]
      dsimp only
      rw [hrun]
    · rw [hlater, hbytes, List.append_assoc]
    · rw [hflat, List.length_append, List.length_append]
      by_cases hfits : l.LineFits act
      · rw [added_of_fits hfits]
        omega
      · rw [(added_of_not_fits h hfits).1, List.length_nil]
        omega
    · rw [hmeets, hflat]
      by_cases hfits : l.LineFits act
      · rw [added_of_fits hfits, List.append_cancel_left_eq, hiff]
        exact ⟨fun hrest => ⟨hfits, hrest⟩, And.right⟩
      · obtain ⟨hnone, hpos⟩ := added_of_not_fits h hfits
        rw [hnone, List.nil_append]
        refine ⟨fun heq => ?_, fun hboth => absurd hboth.1 hfits⟩
        have hlength := congrArg List.length heq
        rw [List.length_append] at hlength
        omega
    · rw [hfirst, hlines]
      cases hline : act.line with
      | none => rw [List.filterMap_cons_none hline]; rfl
      | some line => rw [List.filterMap_cons_some hline]; rfl

/-- **The log is complete exactly when every line fits** behind what the current buffer
holds. No run takes the front of the empty queue, and none rotates. -/
theorem log_complete_iff (acts : List LogAct) : ∃ l, l.Unrotated ∧
    run step init acts = .ok (l, acts.filterMap LogAct.line) ∧
      (l.bytes = (acts.filterMap LogAct.line).flatten ↔ Meets step LineFits init acts) := by
  obtain ⟨l, lines, kept, hrun, hkept, hbytes, -, hiff, rfl⟩ := run_added acts init_unrotated
  exact ⟨l, hkept, hrun, by rw [hbytes]; exact hiff⟩

/-! ## A full buffer -/

/-- As long as the flusher does not come, the file stays as it is. -/
theorem run_appends (lines : List Octets) : ∀ {l : Log}, l.Unrotated →
    ∃ l', run step l (lines.map .append) = .ok (l', lines) ∧ l'.Unrotated ∧ l'.file = l.file := by
  induction lines with
  | nil => exact fun h => ⟨_, rfl, h, rfl⟩
  | cons line lines ih =>
    intro l h
    obtain ⟨m, happend, hm, -, hfile⟩ := append_unrotated h line
    obtain ⟨l', hrun, hl', hfile'⟩ := ih hm
    have hstep : l.step (.append line) = .ok (m, [line]) := by
      rw [step, happend]
      rfl
    refine ⟨l', ?_, hl', hfile'.trans hfile⟩
    rw [List.map_cons, run, hstep]
    dsimp only
    rw [hrun]
    rfl

/-- Lines that fill the buffer before the flusher comes are lost in part. -/
theorem run_appends_lost {lines : List Octets} (h : logBufferSize ≤ lines.flatten.length) :
    ∃ l, run step init (lines.map .append) = .ok (l, lines) ∧ l.bytes ≠ lines.flatten := by
  obtain ⟨l, hrun, hkept, hfile⟩ := run_appends lines init_unrotated
  refine ⟨l, hrun, fun heq => ?_⟩
  have hroom := hkept.room
  rw [hkept.bytes_eq, hfile] at heq
  have hlength : l.current.data.length = lines.flatten.length := congrArg List.length heq
  omega

/-- 257 lines of 4095 bytes within five seconds. -/
def longBurst : List Octets := List.replicate 257 (List.replicate 4095 120)

theorem log_longBurst : ∃ l,
    run step init (longBurst.map .append) = .ok (l, longBurst) ∧ l.bytes ≠ longBurst.flatten := by
  refine run_appends_lost ?_
  rw [longBurst, List.flatten_replicate_replicate, List.length_replicate]
  decide

end Log
end MyRtspServer.Base
