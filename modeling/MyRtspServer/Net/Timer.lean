import Mathlib.Algebra.Group.Nat.Defs
import Mathlib.Data.List.AList
import Mathlib.Data.List.Perm.Basic
import MyRtspServer.Library.Transition

/-!
# `Timer` and `TimerManager`

`m_timers_map_` finds a timer by its id, `m_events_map_` by its deadline. The
second is a multimap ordered by `(time stamp, id)`, so it is a list kept in
ascending order here, and `begin()` is its head. Time stamps and the clock are
integers (`int64_t`), ids and intervals naturals (`uint32_t`), and a `TimerEvent`
is known by its address. The clock of `HandleTimerEvent` is the label of the step.
-/
namespace MyRtspServer.Net

open Library.Transition

/-- Only the constructor writes `m_repeat_`, so its meaning is a field. -/
structure Timer where
  timerEvent : Option Nat
  timeStamp : Int
  timeInterval : Nat
  repeats : Bool
  periodic : repeats = decide (0 < timeInterval)
  deriving DecidableEq

/-- The constructor of `Timer`: a positive interval makes it periodic. -/
def Timer.create (event : Option Nat) (stamp : Int) (interval : Nat) : Timer :=
  { timerEvent := event, timeStamp := stamp, timeInterval := interval,
    repeats := decide (0 < interval), periodic := rfl }

abbrev TimerIndex := Int × Nat

/-- The order of `std::pair`. -/
def TimerIndex.before (a b : TimerIndex) : Bool :=
  decide (a.1 < b.1) || (decide (a.1 = b.1) && decide (a.2 < b.2))

/-- `std::multimap::insert`: behind every key that is not greater. -/
def insertEvent (entry : TimerIndex × Timer) :
    List (TimerIndex × Timer) → List (TimerIndex × Timer)
  | [] => [entry]
  | e :: rest => if entry.1.before e.1 then entry :: e :: rest else e :: insertEvent entry rest

/-- What the kernel keeps of a timerfd: the absolute expiry and the period, or
nothing when it is disarmed. -/
abbrev TimerFd := Option (Int × Nat)

/-- `TimerFdSetTime` with `timerfd_settime`: a negative field is refused with no
change, an all-zero `it_value` disarms. C division truncates towards zero. -/
def timerFdSetTime (fd : TimerFd) (when_ : Int) (period : Nat) : TimerFd :=
  let sec := when_.tdiv 1000
  let nsec := when_.tmod 1000 * 1000000
  if sec < 0 ∨ nsec < 0 then fd
  else if sec = 0 ∧ nsec = 0 then none
  else some (when_, period)

structure TimerManager where
  timersMap : AList (fun _ : Nat => Timer) := ∅
  eventsMap : List (TimerIndex × Timer) := []
  lastTimerId : Nat := 0
  timerFd : TimerFd := none

/-- An undefined operation of `HandleTimerEvent`: it looks at, or erases, the
beginning of an empty `m_events_map_`. -/
inductive TimerFault where
  | beginOfEmpty
  deriving DecidableEq, Repr

/-- One call of `Timer::HandleEvent` made by the loop. -/
structure Firing where
  timerId : Nat
  timer : Timer
  deriving DecidableEq

namespace TimerManager

def modifyTimeout (m : TimerManager) : TimerManager :=
  match m.eventsMap with
  | (_, timer) :: _ =>
    { m with timerFd := timerFdSetTime m.timerFd timer.timeStamp timer.timeInterval }
  | [] => { m with timerFd := timerFdSetTime m.timerFd 0 0 }

/-- `++last_timer_id_` on a `uint32_t`. -/
def nextTimerId (m : TimerManager) : Nat := (m.lastTimerId + 1) % 2 ^ 32

/-- `AddTimer`; the new id is `nextTimerId`. `std::map::insert` keeps an entry
that is already there. -/
def addTimer (m : TimerManager) (event : Option Nat) (stamp : Int)
    (interval : Nat) : TimerManager :=
  let timer := Timer.create event stamp interval
  let id := m.nextTimerId
  modifyTimeout
    { m with
      lastTimerId := id
      timersMap := if id ∈ m.timersMap then m.timersMap else m.timersMap.insert id timer
      eventsMap := insertEvent ((stamp, id), timer) m.eventsMap }

/-- `RemoveTimer` looks the deadline up in `m_timers_map_` and erases every event
under that key. -/
def removeTimer (m : TimerManager) (id : Nat) : TimerManager :=
  match m.timersMap.lookup id with
  | some timer =>
    modifyTimeout
      { m with
        timersMap := m.timersMap.erase id
        eventsMap := m.eventsMap.filter fun e => decide (e.1 ≠ (timer.timeStamp, id)) }
  | none => modifyTimeout m

/-- The end of one round of the loop, after the callback has returned: the first
event is erased, and a periodic timer goes back in at `now` plus its interval.
Only the copy in `m_events_map_` gets the new time stamp. -/
def settle (now : Int) (id : Nat) (timer : Timer) (rest : List (TimerIndex × Timer))
    (m : TimerManager) : TimerManager :=
  if timer.repeats then
    let stamp := now + timer.timeInterval
    { m with eventsMap := insertEvent ((stamp, id), { timer with timeStamp := stamp }) rest }
  else
    { m with eventsMap := rest, timersMap := m.timersMap.erase id }

/-- The loop of `HandleTimerEvent`. The callback may use the manager, so it is a
parameter; `fuel` bounds the rounds. -/
def fireDue (callback : Timer → TimerManager → TimerManager) (now : Int) :
    Nat → TimerManager → Except TimerFault (TimerManager × List Firing)
  | 0, m => .ok (m, [])
  | fuel + 1, m =>
    if m.timersMap.entries = [] then .ok (m, [])
    else
      match m.eventsMap with
      | [] => .error .beginOfEmpty
      | ((stamp, id), timer) :: _ =>
        if stamp ≤ now then
          let called := callback timer m
          match called.eventsMap with
          | [] => .error .beginOfEmpty
          | _ :: rest =>
            match fireDue callback now fuel (settle now id timer rest called) with
            | .error e => .error e
            | .ok (m', fired) => .ok (m', ⟨id, timer⟩ :: fired)
        else .ok (m, [])

def handleTimerEventWith (callback : Timer → TimerManager → TimerManager) (fuel : Nat)
    (now : Int) (m : TimerManager) : Except TimerFault (TimerManager × List Firing) :=
  match fireDue callback now fuel m with
  | .error e => .error e
  | .ok (m', fired) => .ok (m'.modifyTimeout, fired)

/-- A callback that does not re-enter the manager. -/
def quiet (_ : Timer) (m : TimerManager) : TimerManager := m

/-- `HandleTimerEvent` with such callbacks. Each round takes one due event away
(`fireDue_exhausts`), so one round more than there are events is enough. -/
def handleTimerEvent (now : Int) (m : TimerManager) :
    Except TimerFault (TimerManager × List Firing) :=
  handleTimerEventWith quiet (m.eventsMap.length + 1) now m

end TimerManager

/-! ## The manager as a system -/

inductive TimerAct where
  | add (event : Option Nat) (stamp : Int) (interval : Nat)
  | remove (id : Nat)
  | handle (now : Int)
  deriving DecidableEq, Repr

def timerStep (m : TimerManager) : TimerAct → Except TimerFault (TimerManager × List Firing)
  | .add event stamp interval => .ok (m.addTimer event stamp interval, [])
  | .remove id => .ok (m.removeTimer id, [])
  | .handle now => m.handleTimerEvent now

def TimerAct.isAdd : TimerAct → Bool
  | .add .. => true
  | _ => false

/-! ## What each operation leaves alone -/

namespace TimerManager

@[simp] theorem modifyTimeout_timersMap (m : TimerManager) :
    m.modifyTimeout.timersMap = m.timersMap := by
  unfold modifyTimeout; split <;> rfl

@[simp] theorem modifyTimeout_eventsMap (m : TimerManager) :
    m.modifyTimeout.eventsMap = m.eventsMap := by
  unfold modifyTimeout; split <;> rfl

@[simp] theorem modifyTimeout_lastTimerId (m : TimerManager) :
    m.modifyTimeout.lastTimerId = m.lastTimerId := by
  unfold modifyTimeout; split <;> rfl

@[simp] theorem addTimer_lastTimerId (m : TimerManager) (event : Option Nat)
    (stamp : Int) (interval : Nat) :
    (m.addTimer event stamp interval).lastTimerId = m.nextTimerId := by
  simp [addTimer]

@[simp] theorem addTimer_eventsMap (m : TimerManager) (event : Option Nat)
    (stamp : Int) (interval : Nat) :
    (m.addTimer event stamp interval).eventsMap =
      insertEvent ((stamp, m.nextTimerId), Timer.create event stamp interval) m.eventsMap := by
  simp [addTimer]

@[simp] theorem removeTimer_lastTimerId (m : TimerManager) (id : Nat) :
    (m.removeTimer id).lastTimerId = m.lastTimerId := by
  unfold removeTimer; split <;> simp

@[simp] theorem settle_lastTimerId (now : Int) (id : Nat) (timer : Timer)
    (rest : List (TimerIndex × Timer)) (m : TimerManager) :
    (m.settle now id timer rest).lastTimerId = m.lastTimerId := by
  unfold settle; split <;> rfl

end TimerManager

theorem insertEvent_perm (entry : TimerIndex × Timer) (l : List (TimerIndex × Timer)) :
    (insertEvent entry l).Perm (entry :: l) := by
  induction l with
  | nil => exact List.Perm.refl _
  | cons e rest ih =>
    rw [insertEvent]
    split
    · exact List.Perm.refl _
    · exact (ih.cons e).trans (List.Perm.swap entry e rest)

end MyRtspServer.Net
