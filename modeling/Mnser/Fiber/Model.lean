import Mnser.Framework.System
import Mnser.Scheduler.Model

/-! # Fibers

    The fibers of one thread, with their contexts and the shared pointers
    to them.  A context says whose stack it belongs to and where the code on
    this stack goes on, so loading the wrong one shows.  The control block
    of a shared pointer is part of the fiber, as `use_count`.

    `swapIn` is called by `Scheduler::run` and `call` by `Scheduler::stop`;
    what these two do with the fiber after it came back belongs to the step
    that brings it back.  Everybody else creates fibers, copies and drops
    pointers to them at any time, from any thread. -/

namespace MNSER

open LTS Sched

namespace Fiber

/-! ## Section 1: Data -/

/-- The address of a `Fiber`. -/
abbrev Ptr : Type := Nat

/-- `MainFunc` or `CallerMainFunc` at the bottom of a stack, with its `cur`. -/
structure MainFrame where
  cur    : Ptr
  caller : Bool
  deriving DecidableEq, Repr

/-- The call of `swapcontext` that a stack was left by.  All of them are made
    by code that keeps a pointer to a fiber until the call returns. -/
inductive Switch where
  /-- in `YieldToReady` or `YieldToHold` -/
  | yieldTo (cur : Ptr)
  /-- in `f->swapIn()` -/
  | swapIn (f : Ptr)
  /-- in `f->call()` -/
  | call (f : Ptr)
  deriving DecidableEq, Repr

/-- What runs when a context is loaded. -/
inductive Code where
  /-- what `makecontext` was given -/
  | entry (caller : Bool)
  | switched (k : Switch) (main : Option MainFrame)
  /-- the last call of `MainFunc`, which is not to return -/
  | last
  deriving DecidableEq, Repr

/-- `ucontext_t`, with the fiber whose stack it is for. -/
structure Context where
  stack : Ptr
  code  : Code
  deriving DecidableEq, Repr

/-- A `Fiber` object.  `m_ctx` is `none` as `getcontext` leaves it; of `m_stack`
    and `m_cb` it is kept whether there is one. -/
structure Object where
  m_id      : Nat
  m_state   : State
  m_stack   : Bool
  m_cb      : Bool
  m_ctx     : Option Context
  use_count : Nat
  deriving DecidableEq, Repr

/-- The stack the processor is on, with the frame at its bottom. -/
structure Cpu where
  stack : Ptr
  main  : Option MainFrame
  deriving DecidableEq, Repr

inductive Fault where
  /-- an `MS_ASSERT` fails -/
  | assertion
  /-- a `Fiber` or a stack is used that is not there -/
  | dangling
  deriving DecidableEq, Repr

end Fiber

open MNSER.Fiber

/-- A thread and the fibers it knows. -/
structure FiberThread where
  objects           : Ptr → Option Object
  created           : Nat
  t_fiber           : Option Ptr
  t_threadFiber     : Option Ptr
  t_scheduler_fiber : Option Ptr
  cpu               : Cpu
  s_fiber_id        : Nat
  s_fiber_count     : Nat
  /-- pointers to a fiber that are not on the stack of one -/
  owners            : Ptr → Nat
  exited            : Bool
  fault             : Option Fiber.Fault

namespace FiberThread

/-! ## Section 2: Objects and pointers -/

def setObject (s : FiberThread) (p : Ptr) (o : Option Object) : FiberThread :=
  { s with objects := fun q => if q = p then o else s.objects q }

def setOwners (s : FiberThread) (p : Ptr) (k : Nat) : FiberThread :=
  { s with owners := fun q => if q = p then k else s.owners q }

def abort (s : FiberThread) (x : Fiber.Fault) : FiberThread := { s with fault := some x }

/-- `MS_ASSERT` -/
def assert (s : FiberThread) (b : Bool) : FiberThread := if b then s else s.abort .assertion

def modify (s : FiberThread) (p : Ptr) (g : Object → Object) : FiberThread :=
  match s.objects p with
  | some o => s.setObject p (some (g o))
  | none   => s.abort .dangling

def SetThis (s : FiberThread) (f : Option Ptr) : FiberThread := { s with t_fiber := f }

/-- A pointer is copied. -/
def copy (s : FiberThread) (p : Ptr) : FiberThread :=
  s.modify p fun o => { o with use_count := o.use_count + 1 }

/-- `Fiber::~Fiber` -/
def destroy (s : FiberThread) (p : Ptr) (o : Object) : FiberThread :=
  let s := { s with s_fiber_count := s.s_fiber_count - 1 }
  let s :=
    if o.m_stack then
      let s := s.assert (o.m_state = .TERM || o.m_state = .EXCEPT || o.m_state = .INIT)
      -- the stack is freed
      if s.cpu.stack = p then s.abort .dangling else s
    else
      let s := s.assert (!o.m_cb && o.m_state = .EXEC)
      if s.t_fiber = some p then s.SetThis none else s
  s.setObject p none

/-- A pointer is dropped. -/
def release (s : FiberThread) (p : Ptr) : FiberThread :=
  match s.objects p with
  | none   => s.abort .dangling
  | some o =>
    if o.use_count = 1 then s.destroy p o
    else s.setObject p (some { o with use_count := o.use_count - 1 })

/-- `Fiber::Fiber()` -/
def newMain (s : FiberThread) : FiberThread :=
  { (s.SetThis (some s.created)).setObject s.created (some ⟨0, .EXEC, false, false, none, 1⟩) with
      created := s.created + 1, s_fiber_count := s.s_fiber_count + 1 }

/-- `Fiber::Fiber(cb, stackSize, use_caller)` -/
def newFiber (s : FiberThread) (use_caller : Bool) : FiberThread :=
  let p := s.created
  let o : Object := ⟨s.s_fiber_id + 1, .INIT, true, true, some ⟨p, .entry use_caller⟩, 1⟩
  { (s.setObject p (some o)).setOwners p 1 with
      created       := p + 1
      s_fiber_id    := s.s_fiber_id + 1
      s_fiber_count := s.s_fiber_count + 1 }

/-- `Fiber::GetThis`; the caller gets a pointer. -/
def GetThis (s : FiberThread) : FiberThread × Ptr :=
  match s.t_fiber with
  | some f => (s.copy f, f)
  | none   =>
    -- the object's one pointer is `main_fiber`, which `t_threadFiber` gets a copy of
    let p := s.created
    (({ s.newMain with t_threadFiber := some p }).copy p, p)

/-! ## Section 3: Switching -/

/-- What `Scheduler::run` does with a fiber that came back from `swapIn`. -/
def settle (s : FiberThread) (f : Ptr) : FiberThread :=
  let s := s.setOwners f (s.owners f + 1)
  match s.objects f with
  | none   => s.abort .dangling
  | some o =>
    if o.m_state = .READY then
      -- `schedule(ft.fiber)`
      (s.copy f).setOwners f (s.owners f + 1)
    else if o.m_state ≠ .TERM ∧ o.m_state ≠ .EXCEPT then s.modify f fun o => { o with m_state := .HOLD }
    else s

/-- A stack goes on. -/
def resume (s : FiberThread) (ctx : Context) : FiberThread :=
  match s.objects ctx.stack with
  | none   => s.abort .dangling
  | some _ =>
    match ctx.code with
    | .last => s.abort .assertion
    | .entry caller =>
      let (s, cur) := s.GetThis
      { s with cpu := ⟨ctx.stack, some ⟨cur, caller⟩⟩ }
    | .switched k main =>
      let s := { s with cpu := ⟨ctx.stack, main⟩ }
      match k with
      | .yieldTo cur => s.release cur
      | .swapIn f    => s.settle f
      | .call f      => s.setOwners f (s.owners f + 1)

/-- `swapcontext(&a->m_ctx, &b->m_ctx)` -/
def swapcontext (s : FiberThread) (a b : Option Ptr) (code : Code) : FiberThread :=
  match a, b with
  | some a, some b =>
    let s := s.modify a fun o => { o with m_ctx := some ⟨s.cpu.stack, code⟩ }
    match s.objects b with
    | some ⟨_, _, _, _, some ctx, _⟩ => s.resume ctx
    | _ => s.abort .dangling
  | _, _ => s.abort .dangling

def stateOf (s : FiberThread) (p : Ptr) : Option State := (s.objects p).map Object.m_state

/-- `Fiber::swapIn`; the caller's pointer is kept on its stack meanwhile. -/
def swapIn (s : FiberThread) (p : Ptr) : FiberThread :=
  let code := Code.switched (.swapIn p) s.cpu.main
  let s := (s.setOwners p (s.owners p - 1)).SetThis (some p)
  let s := s.assert (s.stateOf p ≠ some .EXEC)
  let s := s.modify p fun o => { o with m_state := .EXEC }
  s.swapcontext s.t_scheduler_fiber (some p) code

/-- `Fiber::call` -/
def call (s : FiberThread) (p : Ptr) : FiberThread :=
  let code := Code.switched (.call p) s.cpu.main
  let s := (s.setOwners p (s.owners p - 1)).SetThis (some p)
  let s := s.modify p fun o => { o with m_state := .EXEC }
  s.swapcontext s.t_threadFiber (some p) code

/-- `Fiber::swapOut` -/
def swapOut (s : FiberThread) (p : Ptr) (code : Code) : FiberThread :=
  let s := s.SetThis s.t_scheduler_fiber
  s.swapcontext (some p) s.t_scheduler_fiber code

/-- `Fiber::back` -/
def back (s : FiberThread) (p : Ptr) (code : Code) : FiberThread :=
  let s := s.SetThis s.t_threadFiber
  s.swapcontext (some p) s.t_threadFiber code

/-- `Fiber::YieldToReady`, `Fiber::YieldToHold` -/
def YieldTo (s : FiberThread) (ready : Bool) : FiberThread :=
  let (s, cur) := s.GetThis
  let s := s.assert (s.stateOf cur = some .EXEC)
  let s := if ready then s.modify cur fun o => { o with m_state := .READY } else s
  s.swapOut cur (.switched (.yieldTo cur) s.cpu.main)

/-- `MainFunc` and `CallerMainFunc` from the end of `m_cb()` on. -/
def finish (s : FiberThread) (main : MainFrame) (threw : Bool) : FiberThread :=
  let s := s.modify main.cur fun o =>
    if threw then { o with m_state := .EXCEPT } else { o with m_cb := false, m_state := .TERM }
  let s := s.release main.cur
  if main.caller then s.back main.cur .last else s.swapOut main.cur .last

/-- `Fiber::reset` -/
def reset (s : FiberThread) (p : Ptr) (cb : Bool) : FiberThread :=
  s.modify p fun o =>
    { o with m_cb := cb, m_ctx := some ⟨p, .entry false⟩, m_state := .INIT }

/-! ## Section 4: Steps -/

inductive Label where
  /-- `Fiber::Fiber(cb)` -/
  | create
  | copy (p : Ptr)
  | drop (p : Ptr)
  /-- the program keeps what `GetThis` returns -/
  | keepThis
  /-- `cb_fiber->reset` in `Scheduler::run` -/
  | reset (p : Ptr) (cb : Bool)
  | swapIn (p : Ptr)
  | call (p : Ptr)
  | yieldTo (ready : Bool)
  | finish (threw : Bool)
  /-- the end of the thread, which drops `t_threadFiber` -/
  | exit
  deriving DecidableEq, Repr

/-- A pointer is needed to do anything with a fiber.  `Scheduler::run` swaps
    in what is neither running nor dead, on the scheduler's fiber; tasks
    yield, and `Scheduler::stop` calls `m_rootFiber` once. -/
def enabled (s : FiberThread) : Label → Bool
  | .create => true
  | .copy p => decide (0 < s.owners p)
  | .drop p => decide (0 < s.owners p)
  | .keepThis => true
  | .reset p _ =>
    decide (0 < s.owners p) && decide (s.t_scheduler_fiber ≠ some p) &&
      decide (s.t_threadFiber ≠ some p) &&
      (s.stateOf p = some .TERM || s.stateOf p = some .EXCEPT || s.stateOf p = some .INIT)
  | .swapIn p =>
    decide (0 < s.owners p) && decide (s.t_scheduler_fiber = some s.cpu.stack) &&
      decide (s.t_scheduler_fiber ≠ some p) && decide (s.t_threadFiber ≠ some p) &&
      (s.stateOf p = some .INIT || s.stateOf p = some .HOLD || s.stateOf p = some .READY)
  | .call p =>
    decide (0 < s.owners p) && decide (s.t_threadFiber = some s.cpu.stack) &&
      decide (s.t_scheduler_fiber = some p) && decide (s.t_threadFiber ≠ some p) &&
      s.stateOf p = some .INIT
  | .yieldTo _ =>
    decide (s.t_scheduler_fiber ≠ some s.cpu.stack) && decide (s.t_threadFiber ≠ some s.cpu.stack)
  | .finish _ => s.cpu.main.isSome
  | .exit => decide (s.t_threadFiber = some s.cpu.stack)

def act (s : FiberThread) : Label → FiberThread
  | .create => s.newFiber false
  | .copy p => (s.copy p).setOwners p (s.owners p + 1)
  | .drop p => (s.setOwners p (s.owners p - 1)).release p
  | .keepThis =>
    let (t, p) := s.GetThis
    t.setOwners p (t.owners p + 1)
  | .reset p cb => s.reset p cb
  | .swapIn p => s.swapIn p
  | .call p => s.call p
  | .yieldTo ready => s.YieldTo ready
  | .finish threw =>
    match s.cpu.main with
    | some main => s.finish main threw
    | none      => s
  | .exit =>
    match s.t_threadFiber with
    | some p => { s.release p with t_threadFiber := none, exited := true }
    | none   => s

def next (s : FiberThread) (l : Label) : Option FiberThread :=
  if s.fault = none ∧ s.exited = false ∧ s.enabled l = true then some (s.act l) else none

def empty : FiberThread where
  objects           := fun _ => none
  created           := 0
  t_fiber           := none
  t_threadFiber     := none
  t_scheduler_fiber := none
  cpu               := ⟨0, none⟩
  s_fiber_id        := 0
  s_fiber_count     := 0
  owners            := fun _ => 0
  exited            := false
  fault             := none

/-- After `t_scheduler_fiber = Fiber::GetThis().get()` of `Scheduler::run`. -/
def worker : FiberThread :=
  let (s, p) := empty.GetThis
  { s.release p with t_scheduler_fiber := some p }

/-- After the constructor of `Scheduler` with `use_caller`: the thread's fiber,
    and `m_rootFiber` for the scheduler. -/
def caller : FiberThread :=
  let (s, p) := empty.GetThis
  let s := s.release p
  { s.newFiber true with t_scheduler_fiber := some s.created }

end FiberThread

def fiberThreads : System FiberThread FiberThread.Label where
  init := fun s => s = FiberThread.worker ∨ s = FiberThread.caller
  next := FiberThread.next

end MNSER
