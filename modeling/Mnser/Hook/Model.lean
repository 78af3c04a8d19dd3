import Mnser.IOManager.Ledger

/-! # Hooked I/O calls

    `do_io` and `connect_with_timeout` of `hook.cpp`, with the callbacks of
    their condition timers and the readiness reports of `idle`.  Fibers and
    callbacks run on any worker; each access to the timers, to the table of
    contexts and to a context is a step of its own.

    A call is identified by its `timer_info`: `winfo.lock()` in a callback
    succeeds while the fiber is still inside the call that made it. -/

namespace MNSER

open LTS

/-! ## Section 1: Data -/

abbrev InfoId : Type := Nat
abbrev IoTimerId : Type := Nat

def EINTR       : Int := 4
def EBADF       : Int := 9
def EAGAIN      : Int := 11
def ETIMEDOUT   : Int := 110
def EINPROGRESS : Int := 115

inductive IoKind where
  | do_io
  | connect
  deriving DecidableEq, Repr

/-- What a system call answers: a value, or -1 with `errno`. -/
inductive SysResult where
  | value (n : Int)
  | error (errno : Int)
  deriving DecidableEq, Repr

/-- The fields of `FdCtx` these calls read. -/
structure FdCtx where
  isClose         : Bool
  isSocket        : Bool
  getUserNonblock : Bool
  deriving DecidableEq, Repr

/-- What a call does before its first attempt. -/
inductive HookEntry where
  /-- hand over to the system call -/
  | native
  | badf
  | hooked
  deriving DecidableEq, Repr

/-- The checks of `do_io` before `retry:`. -/
def do_io_entry (t_hook_enable : Bool) (ctx : Option FdCtx) : HookEntry :=
  if !t_hook_enable then .native
  else
    match ctx with
    | none => .native
    | some ctx =>
      if ctx.isClose then .badf
      else if !ctx.isSocket || ctx.getUserNonblock then .native
      else .hooked

/-- The checks of `connect_with_timeout` before `connect_f`. -/
def connect_entry (t_hook_enable : Bool) (ctx : Option FdCtx) : HookEntry :=
  if !t_hook_enable then .native
  else
    match ctx with
    | none => .badf
    | some ctx =>
      if ctx.isClose then .badf
      else if !ctx.isSocket then .native
      else if ctx.getUserNonblock then .native
      else .hooked

def IoKind.entry : IoKind → Bool → Option FdCtx → HookEntry
  | .do_io   => do_io_entry
  | .connect => connect_entry

/-- What follows an attempt. -/
inductive Attempt where
  | again
  | wait
  | give (result : SysResult)
  deriving DecidableEq, Repr

/-- `fun(fd, ..)` is retried on `EINTR`, and on `EAGAIN` the fiber waits. -/
def do_io_attempt : SysResult → Attempt
  | .value n => .give (.value n)
  | .error e =>
    if e = EINTR then .again
    else if e = EAGAIN then .wait
    else .give (.error e)

/-- `connect_f` is called once. -/
def connect_attempt : SysResult → Attempt
  | .value n => .give (.value n)
  | .error e => if e = EINPROGRESS then .wait else .give (.error e)

def IoKind.attempt : IoKind → SysResult → Attempt
  | .do_io   => do_io_attempt
  | .connect => connect_attempt

/-- Where a fiber is. -/
inductive IoPc where
  /-- not in a hooked call -/
  | outside
  /-- before `fun(fd, ..)` or `connect_f` -/
  | attempting
  /-- before `addConditionTimer` -/
  | arming
  /-- before `addEvent` -/
  | adding
  /-- in `addEvent`, between the two locks of the table -/
  | resizing
  /-- in `addEvent`, before the lock of the context -/
  | locking (p : FdContextPtr)
  /-- `addEvent` failed, before `timer->cancel()` -/
  | failed
  /-- `addEvent` registered the fiber in `p`, before `YieldToHold` -/
  | registered (p : FdContextPtr)
  /-- in `YieldToHold` -/
  | parked (p : FdContextPtr)
  /-- back from `YieldToHold`, before `timer->cancel()` -/
  | woken
  /-- before `if(tinfo->cancelled)` -/
  | checking
  /-- `connect_with_timeout` before `getsockopt(SO_ERROR)` -/
  | sockopt
  deriving DecidableEq, Repr

/-- A fiber and the locals of the call it is in. -/
structure IoFiber where
  pc        : IoPc
  kind      : IoKind
  fd        : Int
  event     : Event
  /-- `to`; `none` for `(uint64_t)-1` -/
  timeout   : Option Nat
  /-- the `timer_info` of the call -/
  info      : InfoId
  /-- `tinfo->cancelled` -/
  cancelled : Int
  timer     : Option IoTimerId
  /-- what the last call returned -/
  result    : Option SysResult
  deriving DecidableEq, Repr

inductive TimerPhase where
  /-- in `m_timers` -/
  | pending
  /-- copied out by `listExpiredCb` and scheduled -/
  | expired
  /-- `cancelled` is set, before the lookup of `cancelEvent` -/
  | cancelling
  /-- in `cancelEvent`, before the lock of the context -/
  | locking (p : FdContextPtr)
  /-- cancelled, or its callback is over -/
  | finished
  deriving DecidableEq, Repr

/-- A condition timer with what its callback captured. -/
structure IoTimer where
  fiber : FiberId
  info  : InfoId
  fd    : Int
  event : Event
  ms    : Nat
  phase : TimerPhase
  deriving DecidableEq, Repr

structure Hook where
  io         : IOManager
  fiber      : FiberId → IoFiber
  timer      : IoTimerId → Option IoTimer
  /-- number of condition timers and of `timer_info`s made so far -/
  timers     : Nat
  infos      : Nat
  /-- fibers in the scheduler's queue -/
  queue      : List FiberId

namespace Hook

def setFiber (s : Hook) (f : FiberId) (x : IoFiber) : Hook :=
  { s with fiber := fun g => if g = f then x else s.fiber g }

def setTimer (s : Hook) (i : IoTimerId) (t : IoTimer) : Hook :=
  { s with timer := fun j => if j = i then some t else s.timer j }

/-- The fiber moves on to `pc`. -/
def goto (s : Hook) (f : FiberId) (pc : IoPc) : Hook :=
  s.setFiber f { s.fiber f with pc := pc }

/-- The call returns. -/
def ret (s : Hook) (f : FiberId) (result : SysResult) : Hook :=
  s.setFiber f { s.fiber f with pc := .outside, result := some result }

/-- The timer moves on to `phase`. -/
def setPhase (s : Hook) (i : IoTimerId) (t : IoTimer) (phase : TimerPhase) : Hook :=
  s.setTimer i { t with phase := phase }

/-- The fibers that `schedule` was called with since `m`. -/
def wokenSince (m m' : IOManager) : List FiberId :=
  (m'.effects.drop m.effects.length).filterMap fun
    | .scheduled _ _ _ (some (.fiber f)) => some f
    | _ => none

/-- The manager after an operation, and the queue after what it scheduled. -/
def setIo (s : Hook) (m : IOManager) : Hook :=
  { s with io := m, queue := s.queue ++ wokenSince s.io m }

/-- `timer->cancel()` where there is a timer. -/
def cancelTimer (s : Hook) (f : FiberId) : Hook :=
  match (s.fiber f).timer with
  | none => s
  | some i =>
    match s.timer i with
    | none => s
    | some t => if t.phase = .pending then s.setPhase i t .finished else s

/-- `winfo.lock()` -/
def alive (s : Hook) (t : IoTimer) : Bool :=
  decide ((s.fiber t.fiber).pc ≠ .outside) && decide ((s.fiber t.fiber).info = t.info)

end Hook

/-! ## Section 2: Steps -/

inductive HookLabel where
  /-- call `do_io` or `connect_with_timeout`; `native` is the answer of the
      system call where the hook hands over to it -/
  | call (f : FiberId) (kind : IoKind) (fd : Int) (event : Event) (timeout : Option Nat)
      (t_hook_enable : Bool) (ctx : Option FdCtx) (native : SysResult)
  | attempt (f : FiberId) (result : SysResult)
  | arm (f : FiberId)
  | lookup (f : FiberId)
  | resize (f : FiberId)
  | lock (f : FiberId) (ok : Bool)
  | park (f : FiberId)
  | resume (f : FiberId)
  /-- `errno` is what a failed `addEvent` left behind -/
  | cancelTimer (f : FiberId) (errno : Int)
  | check (f : FiberId)
  | sockopt (f : FiberId) (rt : SysResult) (error : Int)
  | expire (i : IoTimerId)
  | callback (i : IoTimerId)
  | cancelLookup (i : IoTimerId)
  | cancelLock (i : IoTimerId) (ok : Bool)
  | report (p : FdContextPtr) (events : Events) (ok : Bool)

namespace Hook

/-- One step, on the scheduler `self`; a fault ends the run. -/
def next (self : SchedulerId) (s : Hook) (l : HookLabel) : Option Hook :=
  match l with
  | .call f kind fd event timeout t_hook_enable ctx native =>
    let x := s.fiber f
    if x.pc = .outside then
      match kind.entry t_hook_enable ctx with
      | .native => some (s.ret f native)
      | .badf   => some (s.ret f (.error EBADF))
      | .hooked =>
        -- a new timer_info, whose cancelled is 0
        let event := if kind = .connect then .WRITE else event
        some ({ s with infos := s.infos + 1 }.setFiber f
          ⟨.attempting, kind, fd, event, timeout, s.infos, 0, none, x.result⟩)
    else none
  | .attempt f result =>
    if (s.fiber f).pc = .attempting then
      match (s.fiber f).kind.attempt result with
      -- EINTR
      | .again       => some s
      -- EAGAIN, or EINPROGRESS of connect
      | .wait        => some (s.goto f .arming)
      | .give result => some (s.ret f result)
    else none
  | .arm f =>
    let x := s.fiber f
    if x.pc = .arming then
      match x.timeout with
      | none => some (s.setFiber f { x with pc := .adding, timer := none })
      | some ms =>
        -- addConditionTimer
        let i := s.timers
        let s := { s with timers := s.timers + 1 }
        let s := s.setTimer i ⟨f, x.info, x.fd, x.event, ms, .pending⟩
        some (s.setFiber f { x with pc := .adding, timer := some i })
    else none
  | .lookup f =>
    if (s.fiber f).pc = .adding then
      match s.io.lookup (s.fiber f).fd with
      | .ok (some p) => some (s.goto f (.locking p))
      | .ok none     => some (s.goto f .resizing)
      | .error _     => none
    else none
  | .resize f =>
    if (s.fiber f).pc = .resizing then
      match s.io.resizeFor (s.fiber f).fd with
      | .ok (m, p) => some ((s.setIo m).goto f (.locking p))
      | .error _   => none
    else none
  | .lock f ok =>
    let x := s.fiber f
    match x.pc with
    | .locking p =>
      match s.io.addEventLocked p x.fd x.event none ⟨some self, f⟩ ok with
      | .ok (m, rt) => some ((s.setIo m).goto f (if rt = 0 then .registered p else .failed))
      | .error _    => none
    | _ => none
  | .park f =>
    match (s.fiber f).pc with
    | .registered p => some (s.goto f (.parked p))
    | _ => none
  | .resume f =>
    match (s.fiber f).pc with
    | .parked _ =>
      if f ∈ s.queue then some ({ s with queue := s.queue.erase f }.goto f .woken) else none
    | _ => none
  | .cancelTimer f errno =>
    match (s.fiber f).pc with
    | .woken  => some ((s.cancelTimer f).goto f .checking)
    -- do_io returns -1 with the errno of addEvent, connect goes on to getsockopt
    | .failed =>
      match (s.fiber f).kind with
      | .do_io   => some ((s.cancelTimer f).ret f (.error errno))
      | .connect => some ((s.cancelTimer f).goto f .sockopt)
    | _ => none
  | .check f =>
    let x := s.fiber f
    if x.pc = .checking then
      if x.cancelled ≠ 0 then some (s.ret f (.error x.cancelled))
      else
        match x.kind with
        -- goto retry
        | .do_io   => some (s.goto f .attempting)
        | .connect => some (s.goto f .sockopt)
    else none
  | .sockopt f rt error =>
    if (s.fiber f).pc = .sockopt then
      match rt with
      | .error e => some (s.ret f (.error e))
      | .value _ => some (s.ret f (if error = 0 then .value 0 else .error error))
    else none
  | .expire i =>
    match s.timer i with
    | none   => none
    | some t => if t.phase = .pending then some (s.setPhase i t .expired) else none
  | .callback i =>
    match s.timer i with
    | none => none
    | some t =>
      if t.phase = .expired then
        -- winfo.lock() and !t->cancelled
        if s.alive t && decide ((s.fiber t.fiber).cancelled = 0) then
          some ((s.setPhase i t .cancelling).setFiber t.fiber
            { s.fiber t.fiber with cancelled := ETIMEDOUT })
        else some (s.setPhase i t .finished)
      else none
  | .cancelLookup i =>
    match s.timer i with
    | none => none
    | some t =>
      if t.phase = .cancelling then
        match s.io.lookup t.fd with
        | .ok (some p) => some (s.setPhase i t (.locking p))
        -- cancelEvent returns false when fd is beyond the table
        | .ok none     => some (s.setPhase i t .finished)
        | .error _     => none
      else none
  | .cancelLock i ok =>
    match s.timer i with
    | none => none
    | some t =>
      match t.phase with
      | .locking p =>
        match s.io.cancelEventLocked p t.fd t.event ok with
        | .ok (m, _) => some ((s.setIo m).setPhase i t .finished)
        | .error _   => none
      | _ => none
  | .report p events ok =>
    match s.io.handleReport p events ok with
    | .ok m    => some (s.setIo m)
    | .error _ => none

/-- No call has been made yet. -/
def start : Hook where
  io     := IOManager.init fun _ => 0
  fiber  := fun _ => ⟨.outside, .do_io, -1, .READ, none, 0, 0, none, none⟩
  timer  := fun _ => none
  timers := 0
  infos  := 0
  queue  := []

end Hook

def hooks (self : SchedulerId) : System Hook HookLabel where
  init := fun s => s = Hook.start
  next := Hook.next self

/-! ## Section 3: What a step can do -/

namespace Hook

/-- What a step can do: one case for each branch of `next` that is taken, with
    what was asked for on the way there.  The invariants of `hooks` are proved
    along these cases and never look at `next` again. -/
inductive Next (self : SchedulerId) (s : Hook) : HookLabel → Hook → Prop where
  /-- the hook is off, or does not care about this fd -/
  | native {kind : IoKind} {fd : Int} {event : Event} {timeout : Option Nat} {t_hook_enable : Bool}
      {ctx : Option FdCtx} (f : FiberId) (native : SysResult)
      (outside : (s.fiber f).pc = .outside) (entry : kind.entry t_hook_enable ctx = .native) :
      Next self s (.call f kind fd event timeout t_hook_enable ctx native) (s.ret f native)
  | badf {kind : IoKind} {fd : Int} {event : Event} {timeout : Option Nat} {t_hook_enable : Bool}
      {ctx : Option FdCtx} {native : SysResult} (f : FiberId)
      (outside : (s.fiber f).pc = .outside) (entry : kind.entry t_hook_enable ctx = .badf) :
      Next self s (.call f kind fd event timeout t_hook_enable ctx native) (s.ret f (.error EBADF))
  | hooked {kind : IoKind} {fd : Int} {event : Event} {timeout : Option Nat} {t_hook_enable : Bool}
      {ctx : Option FdCtx} {native : SysResult} (f : FiberId)
      (outside : (s.fiber f).pc = .outside) (entry : kind.entry t_hook_enable ctx = .hooked) :
      Next self s (.call f kind fd event timeout t_hook_enable ctx native)
        ({ s with infos := s.infos + 1 }.setFiber f
          ⟨.attempting, kind, fd, if kind = IoKind.connect then .WRITE else event, timeout, s.infos, 0,
            none, (s.fiber f).result⟩)
  | again (f : FiberId) (result : SysResult) (pc : (s.fiber f).pc = .attempting)
      (attempt : (s.fiber f).kind.attempt result = .again) : Next self s (.attempt f result) s
  | wait (f : FiberId) (result : SysResult) (pc : (s.fiber f).pc = .attempting)
      (attempt : (s.fiber f).kind.attempt result = .wait) :
      Next self s (.attempt f result) (s.goto f .arming)
  | give (f : FiberId) (result r : SysResult) (pc : (s.fiber f).pc = .attempting)
      (attempt : (s.fiber f).kind.attempt result = .give r) :
      Next self s (.attempt f result) (s.ret f r)
  | untimed (f : FiberId) (pc : (s.fiber f).pc = .arming) (timeout : (s.fiber f).timeout = none) :
      Next self s (.arm f) (s.setFiber f { s.fiber f with pc := .adding, timer := none })
  | timed (f : FiberId) (ms : Nat) (pc : (s.fiber f).pc = .arming)
      (timeout : (s.fiber f).timeout = some ms) :
      Next self s (.arm f)
        (({ s with timers := s.timers + 1 }.setTimer s.timers
          ⟨f, (s.fiber f).info, (s.fiber f).fd, (s.fiber f).event, ms, .pending⟩).setFiber f
            { s.fiber f with pc := .adding, timer := some s.timers })
  | found (f : FiberId) (p : FdContextPtr) (pc : (s.fiber f).pc = .adding)
      (lookup : s.io.lookup (s.fiber f).fd = .ok (some p)) :
      Next self s (.lookup f) (s.goto f (.locking p))
  | tooShort (f : FiberId) (pc : (s.fiber f).pc = .adding)
      (lookup : s.io.lookup (s.fiber f).fd = .ok none) :
      Next self s (.lookup f) (s.goto f .resizing)
  | resized (f : FiberId) (m : IOManager) (p : FdContextPtr) (pc : (s.fiber f).pc = .resizing)
      (resize : s.io.resizeFor (s.fiber f).fd = .ok (m, p)) :
      Next self s (.resize f) ((s.setIo m).goto f (.locking p))
  /-- `addEvent` registers the fiber, or `epoll_ctl` fails -/
  | added (f : FiberId) (ok : Bool) (p : FdContextPtr) (m : IOManager) (rt : Int)
      (pc : (s.fiber f).pc = .locking p)
      (add : s.io.addEventLocked p (s.fiber f).fd (s.fiber f).event none ⟨some self, f⟩ ok =
        .ok (m, rt)) :
      Next self s (.lock f ok) ((s.setIo m).goto f (if rt = 0 then .registered p else .failed))
  | parked (f : FiberId) (p : FdContextPtr) (pc : (s.fiber f).pc = .registered p) :
      Next self s (.park f) (s.goto f (.parked p))
  | resumed (f : FiberId) (p : FdContextPtr) (pc : (s.fiber f).pc = .parked p)
      (mem : f ∈ s.queue) :
      Next self s (.resume f) ({ s with queue := s.queue.erase f }.goto f .woken)
  | disarmed (f : FiberId) (errno : Int) (pc : (s.fiber f).pc = .woken) :
      Next self s (.cancelTimer f errno) ((s.cancelTimer f).goto f .checking)
  /-- a failed `addEvent` ends `do_io`, and is passed over in `connect_with_timeout` -/
  | unadded (f : FiberId) (errno : Int) (pc : (s.fiber f).pc = .failed)
      (kind : (s.fiber f).kind = .do_io) :
      Next self s (.cancelTimer f errno) ((s.cancelTimer f).ret f (.error errno))
  | passed (f : FiberId) (errno : Int) (pc : (s.fiber f).pc = .failed)
      (kind : (s.fiber f).kind = .connect) :
      Next self s (.cancelTimer f errno) ((s.cancelTimer f).goto f .sockopt)
  | cancelled (f : FiberId) (pc : (s.fiber f).pc = .checking)
      (cancelled : (s.fiber f).cancelled ≠ 0) :
      Next self s (.check f) (s.ret f (.error (s.fiber f).cancelled))
  /-- `goto retry` -/
  | retried (f : FiberId) (pc : (s.fiber f).pc = .checking) (unset : (s.fiber f).cancelled = 0)
      (kind : (s.fiber f).kind = .do_io) : Next self s (.check f) (s.goto f .attempting)
  | asking (f : FiberId) (pc : (s.fiber f).pc = .checking) (unset : (s.fiber f).cancelled = 0)
      (kind : (s.fiber f).kind = .connect) : Next self s (.check f) (s.goto f .sockopt)
  | unanswered (f : FiberId) (e error : Int) (pc : (s.fiber f).pc = .sockopt) :
      Next self s (.sockopt f (.error e) error) (s.ret f (.error e))
  | answered (f : FiberId) (n error : Int) (pc : (s.fiber f).pc = .sockopt) :
      Next self s (.sockopt f (.value n) error)
        (s.ret f (if error = 0 then .value 0 else .error error))
  | expired (i : IoTimerId) (u : IoTimer) (timer : s.timer i = some u)
      (phase : u.phase = .pending) : Next self s (.expire i) (s.setPhase i u .expired)
  /-- the callback finds its call and sets `cancelled` -/
  | fired (i : IoTimerId) (u : IoTimer) (timer : s.timer i = some u) (phase : u.phase = .expired)
      (alive : s.alive u = true) (unset : (s.fiber u.fiber).cancelled = 0) :
      Next self s (.callback i)
        ((s.setPhase i u .cancelling).setFiber u.fiber
          { s.fiber u.fiber with cancelled := ETIMEDOUT })
  | late (i : IoTimerId) (u : IoTimer) (timer : s.timer i = some u) (phase : u.phase = .expired)
      (stale : ¬ (s.alive u = true ∧ (s.fiber u.fiber).cancelled = 0)) :
      Next self s (.callback i) (s.setPhase i u .finished)
  | cancelFound (i : IoTimerId) (u : IoTimer) (p : FdContextPtr) (timer : s.timer i = some u)
      (phase : u.phase = .cancelling) (lookup : s.io.lookup u.fd = .ok (some p)) :
      Next self s (.cancelLookup i) (s.setPhase i u (.locking p))
  | cancelTooShort (i : IoTimerId) (u : IoTimer) (timer : s.timer i = some u)
      (phase : u.phase = .cancelling) (lookup : s.io.lookup u.fd = .ok none) :
      Next self s (.cancelLookup i) (s.setPhase i u .finished)
  | cancelLocked (i : IoTimerId) (ok : Bool) (u : IoTimer) (p : FdContextPtr) (m : IOManager)
      (rt : Bool) (timer : s.timer i = some u) (phase : u.phase = .locking p)
      (cancel : s.io.cancelEventLocked p u.fd u.event ok = .ok (m, rt)) :
      Next self s (.cancelLock i ok) ((s.setIo m).setPhase i u .finished)
  | reported (p : FdContextPtr) (events : Events) (ok : Bool) (m : IOManager)
      (report : s.io.handleReport p events ok = .ok m) :
      Next self s (.report p events ok) (s.setIo m)

/-- The callback's call is still under way. -/
theorem alive_iff {s : Hook} {u : IoTimer} :
    s.alive u = true ↔ (s.fiber u.fiber).pc ≠ .outside ∧ (s.fiber u.fiber).info = u.info := by
  rw [alive, Bool.and_eq_true, decide_eq_true_eq, decide_eq_true_eq]

theorem next_cases {self : SchedulerId} {s t : Hook} {l : HookLabel}
    (hnext : s.next self l = some t) : Next self s l t := by
  cases l with
  | call f kind fd event timeout t_hook_enable ctx native =>
    obtain ⟨houtside, heq⟩ := Option.ite_none_right_eq_some.mp hnext
    split at heq
    · rename_i hentry
      obtain rfl := Option.some.inj heq
      exact .native f native houtside hentry
    · rename_i hentry
      obtain rfl := Option.some.inj heq
      exact .badf f houtside hentry
    · rename_i hentry
      obtain rfl := Option.some.inj heq
      exact .hooked f houtside hentry
  | attempt f result =>
    obtain ⟨hpc, heq⟩ := Option.ite_none_right_eq_some.mp hnext
    split at heq
    · rename_i hattempt
      obtain rfl := Option.some.inj heq
      exact .again f result hpc hattempt
    · rename_i hattempt
      obtain rfl := Option.some.inj heq
      exact .wait f result hpc hattempt
    · rename_i r hattempt
      obtain rfl := Option.some.inj heq
      exact .give f result r hpc hattempt
  | arm f =>
    obtain ⟨hpc, heq⟩ := Option.ite_none_right_eq_some.mp hnext
    split at heq
    · rename_i htimeout
      obtain rfl := Option.some.inj heq
      exact .untimed f hpc htimeout
    · rename_i ms htimeout
      obtain rfl := Option.some.inj heq
      exact .timed f ms hpc htimeout
  | lookup f =>
    obtain ⟨hpc, heq⟩ := Option.ite_none_right_eq_some.mp hnext
    split at heq
    · rename_i p hlookup
      obtain rfl := Option.some.inj heq
      exact .found f p hpc hlookup
    · rename_i hlookup
      obtain rfl := Option.some.inj heq
      exact .tooShort f hpc hlookup
    · cases heq
  | resize f =>
    obtain ⟨hpc, heq⟩ := Option.ite_none_right_eq_some.mp hnext
    split at heq
    · rename_i m p hresize
      obtain rfl := Option.some.inj heq
      exact .resized f m p hpc hresize
    · cases heq
  | lock f ok =>
    simp only [next] at hnext
    split at hnext
    · rename_i p hpc
      split at hnext
      · rename_i m rt hadd
        obtain rfl := Option.some.inj hnext
        exact .added f ok p m rt hpc hadd
      · cases hnext
    · cases hnext
  | park f =>
    simp only [next] at hnext
    split at hnext
    · rename_i p hpc
      obtain rfl := Option.some.inj hnext
      exact .parked f p hpc
    · cases hnext
  | resume f =>
    simp only [next] at hnext
    split at hnext
    · rename_i p hpc
      obtain ⟨hmem, heq⟩ := Option.ite_none_right_eq_some.mp hnext
      obtain rfl := Option.some.inj heq
      exact .resumed f p hpc hmem
    · cases hnext
  | cancelTimer f errno =>
    simp only [next] at hnext
    split at hnext
    · rename_i hpc
      obtain rfl := Option.some.inj hnext
      exact .disarmed f errno hpc
    · rename_i hpc
      split at hnext
      · rename_i hkind
        obtain rfl := Option.some.inj hnext
        exact .unadded f errno hpc hkind
      · rename_i hkind
        obtain rfl := Option.some.inj hnext
        exact .passed f errno hpc hkind
    · cases hnext
  | check f =>
    obtain ⟨hpc, heq⟩ := Option.ite_none_right_eq_some.mp hnext
    split at heq
    · rename_i hcancelled
      obtain rfl := Option.some.inj heq
      exact .cancelled f hpc hcancelled
    · rename_i hcancelled
      rw [not_not] at hcancelled
      split at heq
      · rename_i hkind
        obtain rfl := Option.some.inj heq
        exact .retried f hpc hcancelled hkind
      · rename_i hkind
        obtain rfl := Option.some.inj heq
        exact .asking f hpc hcancelled hkind
  | sockopt f rt error =>
    obtain ⟨hpc, heq⟩ := Option.ite_none_right_eq_some.mp hnext
    cases rt with
    | error e =>
      obtain rfl := Option.some.inj heq
      exact .unanswered f e error hpc
    | value n =>
      obtain rfl := Option.some.inj heq
      exact .answered f n error hpc
  | expire i =>
    simp only [next] at hnext
    split at hnext
    · cases hnext
    · rename_i u hu
      obtain ⟨hphase, heq⟩ := Option.ite_none_right_eq_some.mp hnext
      obtain rfl := Option.some.inj heq
      exact .expired i u hu hphase
  | callback i =>
    simp only [next] at hnext
    split at hnext
    · cases hnext
    · rename_i u hu
      obtain ⟨hphase, heq⟩ := Option.ite_none_right_eq_some.mp hnext
      split at heq
      · rename_i hfind
        rw [Bool.and_eq_true, decide_eq_true_eq] at hfind
        obtain rfl := Option.some.inj heq
        exact .fired i u hu hphase hfind.1 hfind.2
      · rename_i hfind
        rw [Bool.and_eq_true, decide_eq_true_eq] at hfind
        obtain rfl := Option.some.inj heq
        exact .late i u hu hphase hfind
  | cancelLookup i =>
    simp only [next] at hnext
    split at hnext
    · cases hnext
    · rename_i u hu
      obtain ⟨hphase, heq⟩ := Option.ite_none_right_eq_some.mp hnext
      split at heq
      · rename_i p hlookup
        obtain rfl := Option.some.inj heq
        exact .cancelFound i u p hu hphase hlookup
      · rename_i hlookup
        obtain rfl := Option.some.inj heq
        exact .cancelTooShort i u hu hphase hlookup
      · cases heq
  | cancelLock i ok =>
    simp only [next] at hnext
    split at hnext
    · cases hnext
    · rename_i u hu
      split at hnext
      · rename_i p hphase
        split at hnext
        · rename_i m rt hcancel
          obtain rfl := Option.some.inj hnext
          exact .cancelLocked i ok u p m rt hu hphase hcancel
        · cases hnext
      · cases hnext
  | report p events ok =>
    simp only [next] at hnext
    split at hnext
    · rename_i m hreport
      obtain rfl := Option.some.inj hnext
      exact .reported p events ok m hreport
    · cases hnext

end Hook

end MNSER
