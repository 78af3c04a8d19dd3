import Mathlib.Data.BitVec
import Mnser.Framework.System

/-! # IOManager

    `IOManager::FdContext` and the event operations of `iomanager.cpp`.
    Contexts live on a heap, `m_fdContexts` holds pointers to them, and the
    kernel side of `m_epfd` is the list of what is registered for each fd.

    The part of an operation that runs under `fd_ctx->mutex` is one
    function; the lookup in `m_fdContexts` before it is another, since other
    threads may run between the two.  What `epoll_ctl` answers is an
    argument.  A failed assertion and the call of a method on a null
    `Scheduler*` are `Fault`s: the process does not survive them. -/

namespace MNSER

/-! ## Section 1: Events -/

/-- A set of event bits, as `epoll_event::events` and `curEvents` hold it. -/
abbrev Events : Type := BitVec 32

def EPOLLIN  : Events := 0x001#32
def EPOLLOUT : Events := 0x004#32
def EPOLLERR : Events := 0x008#32
def EPOLLHUP : Events := 0x010#32
def EPOLLET  : Events := 0x80000000#32

/-- `IOManager::Event` -/
inductive Event where
  | NONE
  | READ
  | WRITE
  deriving DecidableEq, Repr

def Event.mask : Event → Events
  | .NONE  => 0x0#32
  | .READ  => 0x1#32
  | .WRITE => 0x4#32

/-- `set & bits` as a condition. -/
def Events.test (set bits : Events) : Bool := set &&& bits != 0#32

/-! ## Section 2: Contexts -/

abbrev SchedulerId : Type := Nat
abbrev FiberId : Type := Nat
abbrev FuncId : Type := Nat
abbrev FdContextPtr : Type := Nat

/-- What is handed to a scheduler: a fiber or a function. -/
inductive Task where
  | fiber (f : FiberId)
  | func (f : FuncId)
  deriving DecidableEq, Repr

/-- Why the process died. -/
inductive Fault where
  /-- `MS_ASSERT(curEvents & event)` in `triggerEvent` -/
  | triggerEvent
  /-- `MS_ASSERT2(false, "getContext")` -/
  | getContext
  /-- `MS_ASSERT(!(fd_ctx->curEvents & event))` in `addEvent` -/
  | addEvent
  /-- `MS_ASSERT(!event_ctx.scheduler && ..)` in `addEvent` -/
  | eventContext
  /-- `MS_ASSERT(fd_ctx->curEvents == 0)` in `cancelAll` -/
  | cancelAll
  /-- `schedule` called on a null `Scheduler*` -/
  | nullScheduler
  /-- `m_fdContexts` indexed outside its range -/
  | outOfRange
  deriving DecidableEq, Repr

structure EventContext where
  scheduler : Option SchedulerId
  fiber     : Option FiberId
  func      : Option FuncId
  deriving DecidableEq, Repr

def EventContext.empty : EventContext := ⟨none, none, none⟩

structure FdContext where
  read      : EventContext
  write     : EventContext
  fd        : Int
  curEvents : Events
  deriving DecidableEq, Repr

namespace FdContext

def getContext (c : FdContext) : Event → Except Fault EventContext
  | .READ  => .ok c.read
  | .WRITE => .ok c.write
  | .NONE  => .error .getContext

/-- Write through the reference `getContext` returned. -/
def setContext (c : FdContext) (event : Event) (ctx : EventContext) : FdContext :=
  match event with
  | .READ  => { c with read := ctx }
  | .WRITE => { c with write := ctx }
  | .NONE  => c

def resetContext (c : FdContext) (event : Event) : FdContext :=
  c.setContext event EventContext.empty

/-- `triggerEvent`, with the scheduler called and what it is handed.
    `schedule(&ctx.func)` and `schedule(&ctx.fiber)` swap the value out. -/
def triggerEvent (c : FdContext) (event : Event) :
    Except Fault (FdContext × SchedulerId × Option Task) := do
  if !c.curEvents.test event.mask then
    throw .triggerEvent
  let c := { c with curEvents := c.curEvents &&& ~~~event.mask }
  let ctx ← c.getContext event
  match ctx.scheduler, ctx.func with
  | none, _ => throw .nullScheduler
  | some s, some f =>
    return (c.setContext event { ctx with func := none, scheduler := none },
      s, some (.func f))
  | some s, none =>
    return (c.setContext event { ctx with fiber := none, scheduler := none },
      s, ctx.fiber.map .fiber)

end FdContext

/-! ## Section 3: The kernel side -/

structure Interest where
  events : Events
  ptr    : FdContextPtr
  deriving DecidableEq, Repr

inductive EpollCtlOp where
  | ADD
  | MOD
  | DEL
  deriving DecidableEq, Repr

/-- What is registered with `m_epfd`, by fd. -/
abbrev InterestList : Type := Int → Option Interest

def InterestList.set (k : InterestList) (fd : Int) (i : Option Interest) : InterestList :=
  fun j => if j = fd then i else k j

/-- `epoll_ctl`; `none` where it returns -1.  It refuses to add what is there
    (`EEXIST`) and to change what is not (`ENOENT`), and may fail for other
    reasons (`ok = false`), always without effect. -/
def epoll_ctl (k : InterestList) (op : EpollCtlOp) (fd : Int) (i : Interest) (ok : Bool) :
    Option InterestList :=
  if ok then
    match op, k fd with
    | .ADD, none   => some (k.set fd (some i))
    | .MOD, some _ => some (k.set fd (some i))
    | .DEL, some _ => some (k.set fd none)
    | .ADD, some _ => none
    | .MOD, none   => none
    | .DEL, none   => none
  else none

/-! ## Section 4: The manager -/

/-- What happens to an event slot, in the order it happens. -/
inductive Effect where
  | added (p : FdContextPtr) (event : Event) (scheduler : Option SchedulerId) (task : Task)
  | scheduled (p : FdContextPtr) (event : Event) (scheduler : SchedulerId)
      (task : Option Task)
  | discarded (p : FdContextPtr) (event : Event)
  deriving DecidableEq, Repr

structure IOManager where
  fdContexts        : List FdContextPtr
  heap              : FdContextPtr → FdContext
  /-- Number of contexts constructed so far; the next pointer. -/
  created           : Nat
  /-- What `new FdContext` finds in the memory of `curEvents`. -/
  uninitialised     : FdContextPtr → Events
  interest          : InterestList
  /-- The counter as an integer; the code keeps it modulo `2 ^ 64`. -/
  pendingEventCount : Int
  effects           : List Effect

namespace IOManager

def setContext (m : IOManager) (p : FdContextPtr) (c : FdContext) : IOManager :=
  { m with heap := fun q => if q = p then c else m.heap q }

@[simp] theorem setContext_self (m : IOManager) (p : FdContextPtr) (c : FdContext) :
    (m.setContext p c).heap p = c := by
  simp [setContext]

@[simp] theorem setContext_ne (m : IOManager) {p q : FdContextPtr} (c : FdContext)
    (h : q ≠ p) : (m.setContext p c).heap q = m.heap q := by
  simp [setContext, h]

/-- `new FdContext` with `fd` set.  `curEvents` has no initializer. -/
def newContext (m : IOManager) (fd : Int) : IOManager :=
  { m.setContext m.created
      { read := .empty, write := .empty, fd := fd, curEvents := m.uninitialised m.created }
    with created := m.created + 1, fdContexts := m.fdContexts ++ [m.created] }

/-- `contextResize`: a shorter vector drops its last pointers, a longer one
    gets a new context in every new place. -/
def contextResize (m : IOManager) (size : Nat) : IOManager :=
  (List.range (size - m.fdContexts.length)).foldl (fun m _ => m.newContext m.fdContexts.length)
    { m with fdContexts := m.fdContexts.take size }

/-- `m_fdContexts[fd]` -/
def fdContextAt (m : IOManager) (fd : Int) : Except Fault FdContextPtr :=
  if fd < 0 then .error .outOfRange
  else
    match m.fdContexts[fd.toNat]? with
    | none   => .error .outOfRange
    | some p => .ok p

/-- `fd_ctx->triggerEvent(event); --m_pendingEventCount;` -/
def triggerEvent (m : IOManager) (p : FdContextPtr) (event : Event) :
    Except Fault IOManager := do
  let (c, s, task) ← (m.heap p).triggerEvent event
  return { m.setContext p c with
    effects           := m.effects ++ [.scheduled p event s task]
    pendingEventCount := m.pendingEventCount - 1 }

/-- The thread an operation runs on: `Scheduler::GetThis()` and
    `Fiber::GetThis()`, the latter always in state `EXEC`. -/
structure Caller where
  scheduler : Option SchedulerId
  fiber     : FiberId
  deriving DecidableEq, Repr

/-- `addEvent` from the lock of `fd_ctx->mutex` on; 0 or -1. -/
def addEventLocked (m : IOManager) (p : FdContextPtr) (fd : Int) (event : Event)
    (cb : Option FuncId) (caller : Caller) (ok : Bool) : Except Fault (IOManager × Int) := do
  let c := m.heap p
  -- the assertion that the event is not there yet
  if c.curEvents.test event.mask then
    throw .addEvent
  let op := if c.curEvents ≠ 0 then EpollCtlOp.MOD else EpollCtlOp.ADD
  let epevent : Interest := ⟨EPOLLET ||| c.curEvents ||| event.mask, p⟩
  match epoll_ctl m.interest op fd epevent ok with
  | none => return (m, -1)
  | some interest =>
    let c := { c with curEvents := c.curEvents ||| event.mask }
    let event_ctx ← c.getContext event
    -- and that its slot is free
    if event_ctx ≠ EventContext.empty then
      throw .eventContext
    -- without a callback the calling fiber is to be woken
    let (event_ctx, task) : EventContext × Task :=
      match cb with
      | some f => (⟨caller.scheduler, none, some f⟩, .func f)
      | none   => (⟨caller.scheduler, some caller.fiber, none⟩, .fiber caller.fiber)
    return ({ m.setContext p (c.setContext event event_ctx) with
      interest          := interest
      pendingEventCount := m.pendingEventCount + 1
      effects           := m.effects ++ [.added p event caller.scheduler task] }, 0)

/-- `delEvent` from the lock of `fd_ctx->mutex` on. -/
def delEventLocked (m : IOManager) (p : FdContextPtr) (fd : Int) (event : Event)
    (ok : Bool) : Except Fault (IOManager × Bool) := do
  let c := m.heap p
  if !c.curEvents.test event.mask then
    return (m, false)
  let new_events := c.curEvents &&& ~~~event.mask
  let op := if new_events ≠ 0 then EpollCtlOp.MOD else EpollCtlOp.DEL
  let epevent : Interest := ⟨EPOLLET ||| new_events, p⟩
  match epoll_ctl m.interest op fd epevent ok with
  | none => return (m, false)
  | some interest =>
    let c := { c with curEvents := new_events }
    let _ ← c.getContext event
    return ({ m.setContext p (c.resetContext event) with
      interest          := interest
      pendingEventCount := m.pendingEventCount - 1
      effects           := m.effects ++ [.discarded p event] }, true)

/-- `cancelEvent` from the lock of `fd_ctx->mutex` on. -/
def cancelEventLocked (m : IOManager) (p : FdContextPtr) (fd : Int) (event : Event)
    (ok : Bool) : Except Fault (IOManager × Bool) := do
  let c := m.heap p
  if !c.curEvents.test event.mask then
    return (m, false)
  let new_events := c.curEvents &&& ~~~event.mask
  let op := if new_events ≠ 0 then EpollCtlOp.MOD else EpollCtlOp.DEL
  let epevent : Interest := ⟨EPOLLET ||| new_events, p⟩
  match epoll_ctl m.interest op fd epevent ok with
  | none => return (m, false)
  | some interest =>
    let m ← { m with interest := interest }.triggerEvent p event
    return (m, true)

/-- `if(events & event) { triggerEvent(event); --m_pendingEventCount; }` -/
def triggerIf (m : IOManager) (p : FdContextPtr) (events : Events) (event : Event) :
    Except Fault IOManager :=
  if events.test event.mask then m.triggerEvent p event else .ok m

/-- `cancelAll` from the lock of `fd_ctx->mutex` on. -/
def cancelAllLocked (m : IOManager) (p : FdContextPtr) (fd : Int) (ok : Bool) :
    Except Fault (IOManager × Bool) := do
  if (m.heap p).curEvents = 0 then
    return (m, false)
  match epoll_ctl m.interest .DEL fd ⟨0, p⟩ ok with
  | none => return (m, false)
  | some interest =>
    let m := { m with interest := interest }
    let m ← m.triggerIf p (m.heap p).curEvents .READ
    let m ← m.triggerIf p (m.heap p).curEvents .WRITE
    if (m.heap p).curEvents ≠ 0 then
      throw .cancelAll
    return (m, true)

/-- An error or a hang-up counts as readiness for everything registered. -/
def spreadErrors (curEvents events : Events) : Events :=
  if events.test (EPOLLERR ||| EPOLLHUP) then
    events ||| ((EPOLLIN ||| EPOLLOUT) &&& curEvents)
  else events

/-- `real_events` of `idle` -/
def realEvents (curEvents events : Events) : Events :=
  let events := spreadErrors curEvents events
  (if events.test EPOLLIN then Event.READ.mask else 0) |||
    (if events.test EPOLLOUT then Event.WRITE.mask else 0)

/-- The body of the loop over the reports in `idle`, for a report on the
    context `p`. -/
def handleReport (m : IOManager) (p : FdContextPtr) (events : Events) (ok : Bool) :
    Except Fault IOManager := do
  let c := m.heap p
  let real_events := realEvents c.curEvents events
  if c.curEvents &&& real_events = 0 then
    return m
  let left_events := c.curEvents &&& ~~~real_events
  let op := if left_events ≠ 0 then EpollCtlOp.MOD else EpollCtlOp.DEL
  match epoll_ctl m.interest op c.fd ⟨EPOLLET ||| left_events, p⟩ ok with
  | none => return m
  | some interest =>
    let m ← { m with interest := interest }.triggerIf p real_events .READ
    m.triggerIf p real_events .WRITE

/-! ## Section 5: Whole calls -/

inductive Call where
  | addEvent (fd : Int) (event : Event) (cb : Option FuncId)
  | delEvent (fd : Int) (event : Event)
  | cancelEvent (fd : Int) (event : Event)
  | cancelAll (fd : Int)
  deriving DecidableEq, Repr

def Call.fd : Call → Int
  | .addEvent fd _ _    => fd
  | .delEvent fd _      => fd
  | .cancelEvent fd _   => fd
  | .cancelAll fd       => fd

/-- The read-locked lookup; `none` where the vector is too short. -/
def lookup (m : IOManager) (fd : Int) : Except Fault (Option FdContextPtr) :=
  if (m.fdContexts.length : Int) ≤ fd then .ok none
  else (m.fdContextAt fd).map some

/-- The write-locked part of `addEvent`. -/
def resizeFor (m : IOManager) (fd : Int) : Except Fault (IOManager × FdContextPtr) := do
  let m := m.contextResize (fd.toNat * 3 / 2)
  let p ← m.fdContextAt fd
  return (m, p)

/-- The part of a call that runs under `fd_ctx->mutex`. -/
def locked (m : IOManager) (p : FdContextPtr) (caller : Caller) (ok : Bool) :
    Call → Except Fault IOManager
  | .addEvent fd event cb  => (m.addEventLocked p fd event cb caller ok).map Prod.fst
  | .delEvent fd event     => (m.delEventLocked p fd event ok).map Prod.fst
  | .cancelEvent fd event  => (m.cancelEventLocked p fd event ok).map Prod.fst
  | .cancelAll fd          => (m.cancelAllLocked p fd ok).map Prod.fst

/-- A whole call, nothing else running in between. -/
def perform (m : IOManager) (call : Call) (caller : Caller) (ok : Bool) :
    Except Fault IOManager := do
  match ← m.lookup call.fd, call with
  | some p, _              => m.locked p caller ok call
  | none, .addEvent fd _ _ =>
    let (m, p) ← m.resizeFor fd
    m.locked p caller ok call
  | none, _                => return m

/-- The constructor: an empty manager with 32 contexts. -/
def init (uninitialised : FdContextPtr → Events) : IOManager :=
  contextResize
    { fdContexts := [], heap := fun _ => ⟨.empty, .empty, -1, 0⟩, created := 0,
      uninitialised := uninitialised, interest := fun _ => none,
      pendingEventCount := 0, effects := [] } 32

end IOManager

end MNSER
