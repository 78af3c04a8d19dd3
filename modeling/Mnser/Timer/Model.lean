import Mnser.Framework.OrderedSet
import Mnser.Framework.System
import Mnser.Word

/-! # Timers and the timer manager

    `Timer` and `TimerManager` of `timer.cpp`.  Timers live on a heap and
    the set `m_timers` holds pointers to them, ordered by
    `Timer::Comparator`; a pointer is a `TimerId` here and `addr` is the
    address the comparator falls back on.  Ids are never reused, addresses
    may be, once the timer at that address has left the set.

    Every operation that reads the clock takes the reading as an argument. -/

namespace MNSER

/-! ## Section 1: Data -/

abbrev TimerId : Type := Nat

structure Timer (Callback : Type) where
  recurring : Bool
  ms        : Nat
  next      : Nat
  cb        : Option Callback
  addr      : Nat

/-- `Timer(uint64_t next)`, the probe of `listExpiredCb`. -/
def Timer.ofNext {Callback : Type} (next addr : Nat) : Timer Callback where
  recurring := false
  ms        := 0
  next      := next
  cb        := none
  addr      := addr

/-- `Timer::Comparator`; a null pointer comes first. -/
def Timer.Comparator {Callback : Type} (lhs rhs : Option (Timer Callback)) : Bool :=
  match lhs, rhs with
  | none, none     => false
  | none, some _   => true
  | some _, none   => false
  | some l, some r =>
    if l.next < r.next then true
    else if r.next < l.next then false
    else l.addr < r.addr

structure TimerManager (Callback : Type) where
  timers       : List TimerId
  heap         : TimerId → Timer Callback
  /-- Number of timers constructed so far; the next id. -/
  created      : Nat
  tickled      : Bool
  previousTime : Nat

variable {Callback : Type}

namespace TimerManager

/-- `TimerManager::TimerManager` at clock reading `now`. -/
def init (now : Nat) : TimerManager Callback where
  timers       := []
  heap         := fun _ => Timer.ofNext 0 0
  created      := 0
  tickled      := false
  previousTime := now

/-- The order of `m_timers` under the current keys. -/
def less (m : TimerManager Callback) (a b : TimerId) : Bool :=
  Timer.Comparator (some (m.heap a)) (some (m.heap b))

def setTimer (m : TimerManager Callback) (id : TimerId) (t : Timer Callback) :
    TimerManager Callback :=
  { m with heap := fun j => if j = id then t else m.heap j }

@[simp] theorem setTimer_self (m : TimerManager Callback) (id : TimerId)
    (t : Timer Callback) : (m.setTimer id t).heap id = t := by
  simp [setTimer]

@[simp] theorem setTimer_ne (m : TimerManager Callback) {id j : TimerId}
    (t : Timer Callback) (h : j ≠ id) : (m.setTimer id t).heap j = m.heap j := by
  simp [setTimer, h]

@[simp] theorem setTimer_timers (m : TimerManager Callback) (id : TimerId)
    (t : Timer Callback) : (m.setTimer id t).timers = m.timers := rfl

@[simp] theorem setTimer_created (m : TimerManager Callback) (id : TimerId)
    (t : Timer Callback) : (m.setTimer id t).created = m.created := rfl

@[simp] theorem setTimer_previousTime (m : TimerManager Callback) (id : TimerId)
    (t : Timer Callback) : (m.setTimer id t).previousTime = m.previousTime := rfl

/-- `m_timers.insert(id)` -/
def insertId (m : TimerManager Callback) (id : TimerId) : TimerManager Callback :=
  { m with timers := OrderedSet.insert m.less id m.timers }

/-- `m_timers.erase(m_timers.find(id))` -/
def eraseId (m : TimerManager Callback) (id : TimerId) : TimerManager Callback :=
  { m with timers := OrderedSet.erase m.less id m.timers }

@[simp] theorem insertId_heap (m : TimerManager Callback) (id : TimerId) :
    (m.insertId id).heap = m.heap := rfl

@[simp] theorem insertId_created (m : TimerManager Callback) (id : TimerId) :
    (m.insertId id).created = m.created := rfl

@[simp] theorem insertId_previousTime (m : TimerManager Callback) (id : TimerId) :
    (m.insertId id).previousTime = m.previousTime := rfl

@[simp] theorem eraseId_heap (m : TimerManager Callback) (id : TimerId) :
    (m.eraseId id).heap = m.heap := rfl

@[simp] theorem eraseId_created (m : TimerManager Callback) (id : TimerId) :
    (m.eraseId id).created = m.created := rfl

@[simp] theorem eraseId_previousTime (m : TimerManager Callback) (id : TimerId) :
    (m.eraseId id).previousTime = m.previousTime := rfl

/-! ## Section 2: Operations -/

/-- `TimerManager::addTimer(Timer::ptr, WriteLock&)`.  The flag says whether
    `onTimerInsertedAtFront` is called after the lock is released. -/
def addTimerLocked (m : TimerManager Callback) (id : TimerId) :
    TimerManager Callback × Bool :=
  let m := m.insertId id
  let it := OrderedSet.find m.less id m.timers
  let at_front := it == m.timers.head? && !m.tickled
  ({ m with tickled := m.tickled || at_front }, at_front)

/-- `TimerManager::addTimer(ms, cb, recurring)`; `addr` is where the
    allocator puts the new timer. -/
def addTimer (m : TimerManager Callback) (ms : Nat) (cb : Option Callback)
    (recurring : Bool) (addr now : Nat) : TimerManager Callback × TimerId × Bool :=
  let id := m.created
  let timer : Timer Callback :=
    { recurring := recurring, ms := ms, next := add64 now ms, cb := cb, addr := addr }
  let (m', front) := ({ m with created := id + 1 }.setTimer id timer).addTimerLocked id
  (m', id, front)

/-- `Timer::cancel`.  `none`: `erase` is handed the past-the-end iterator. -/
def cancel (m : TimerManager Callback) (id : TimerId) :
    Option (TimerManager Callback × Bool) :=
  if (m.heap id).cb.isSome then
    let m := m.setTimer id { m.heap id with cb := none }
    match OrderedSet.find m.less id m.timers with
    | none   => none
    | some _ => some (m.eraseId id, true)
  else
    some (m, false)

/-- `Timer::refresh` -/
def refresh (m : TimerManager Callback) (id : TimerId) (now : Nat) :
    TimerManager Callback × Bool :=
  if (m.heap id).cb.isNone then (m, false)
  else
    match OrderedSet.find m.less id m.timers with
    | none   => (m, false)
    | some _ =>
      let m := m.eraseId id
      let m := m.setTimer id { m.heap id with next := add64 now (m.heap id).ms }
      (m.insertId id, true)

/-- `Timer::reset`.  The second flag is the call of `onTimerInsertedAtFront`. -/
def reset (m : TimerManager Callback) (id : TimerId) (ms : Nat) (from_now : Bool)
    (now : Nat) : TimerManager Callback × Bool × Bool :=
  if ms = (m.heap id).ms ∧ from_now = false then (m, true, false)
  else if (m.heap id).cb.isNone then (m, false, false)
  else
    match OrderedSet.find m.less id m.timers with
    | none   => (m, false, false)
    | some _ =>
      let m := m.eraseId id
      let t := m.heap id
      let start := if from_now then now else sub64 t.next t.ms
      let (m', front) :=
        (m.setTimer id { t with ms := ms, next := add64 start ms }).addTimerLocked id
      (m', true, front)

/-- The answer of `detectClockRollover`. -/
def rollover (m : TimerManager Callback) (now : Nat) : Bool :=
  decide (now < m.previousTime) && decide (now < sub64 m.previousTime (60 * 60 * 1000))

/-- `TimerManager::detectClockRollover` -/
def detectClockRollover (m : TimerManager Callback) (now : Nat) :
    TimerManager Callback × Bool :=
  ({ m with previousTime := now }, m.rollover now)

/-- The range `[begin, it)` of `listExpiredCb`: the probe `now_timer`, at
    address `probe`, splits the timers due at `now` by their addresses, and
    the loop after `lower_bound` skips the rest of them. -/
def expiredRange (m : TimerManager Callback) (now probe : Nat) (rollover : Bool) :
    List TimerId :=
  if rollover then m.timers
  else
    let now_timer : Timer Callback := Timer.ofNext now probe
    let before := fun (id : TimerId) (k : Timer Callback) =>
      Timer.Comparator (some (m.heap id)) (some k)
    let low := OrderedSet.beforeLowerBound before now_timer m.timers
    low ++ (m.timers.drop low.length).takeWhile fun id => (m.heap id).next = now

/-- One round of the last loop of `listExpiredCb`. -/
def expireOne (m : TimerManager Callback) (now : Nat) (id : TimerId) :
    TimerManager Callback :=
  let timer := m.heap id
  if timer.recurring then
    (m.setTimer id { timer with next := add64 now timer.ms }).insertId id
  else
    m.setTimer id { timer with cb := none }

def expireAll (now : Nat) :
    List TimerId → TimerManager Callback → TimerManager Callback × List (Option Callback)
  | [], m => (m, [])
  | id :: rest, m =>
    let (m', cbs) := expireAll now rest (m.expireOne now id)
    (m', (m.heap id).cb :: cbs)

/-- `TimerManager::listExpiredCb` -/
def listExpiredCb (m : TimerManager Callback) (now probe : Nat) :
    TimerManager Callback × List (Option Callback) :=
  match m.timers with
  | [] => (m, [])
  | first :: _ =>
    let (m, rollover) := m.detectClockRollover now
    if rollover = false ∧ now < (m.heap first).next then (m, [])
    else
      let expired := m.expiredRange now probe rollover
      expireAll now expired { m with timers := m.timers.drop expired.length }

end TimerManager

end MNSER
