import Mathlib.Data.Fintype.Card
import Mathlib.Data.Fintype.Basic
import Mnser.Framework.System

/-! # Scheduler

    `Scheduler::schedule`, `Scheduler::run` and the idle loop of
    `IOManager`, for any number of workers.  A worker's scan of the queue
    under `m_mutex` is one step; the check of what it picked, the swap-in,
    the change of a fiber's state, the switch away from it and what the
    worker does with it afterwards are later steps of their own.

    Any thread may call `schedule` and `tickle`; the part of such a call
    after `m_mutex` is released is kept as a number of pending calls. -/

namespace MNSER

open LTS

/-! ## Section 1: Data -/

namespace Sched

abbrev FiberId : Type := Nat
abbrev FuncId : Type := Nat
abbrev ThreadId : Type := Nat

/-- `Fiber::State` -/
inductive State where
  | INIT
  | HOLD
  | EXEC
  | TERM
  | READY
  | EXCEPT
  deriving DecidableEq, Repr

inductive Task where
  | fiber (f : FiberId)
  | func (g : FuncId)
  deriving DecidableEq, Repr

/-- `FiberAndFunc`; `thread` is `none` for -1.  Entries are numbered in the
    order they are passed to `schedule`. -/
structure Entry where
  serial : Nat
  task   : Task
  thread : Option ThreadId
  deriving DecidableEq, Repr

/-- What a worker does after its call of `tickle`. -/
inductive After where
  | dispatch (ft : Option Entry)
  | scan
  deriving DecidableEq, Repr

/-- Where a worker is in `Scheduler::run`; `cb` tells the branch of
    `cb_fiber` from that of `ft.fiber`. -/
inductive Pc where
  /-- before the scan of the queue -/
  | scan
  /-- in `tickle`, before `hasIdleThreads` -/
  | tickle (k : After)
  /-- in `tickle`, before the write to the pipe -/
  | write (k : After)
  /-- before the check of what the scan picked -/
  | dispatch (ft : Option Entry)
  /-- before `swapIn` of `f`, for the entry `e` -/
  | swapIn (f : FiberId) (cb : Bool) (e : Entry)
  | running (f : FiberId) (cb : Bool)
  /-- the fiber has set its state and is in `swapOut`, still on its stack -/
  | leaving (f : FiberId) (cb : Bool)
  /-- back from `swapIn`, before `--m_activeThreadCount` -/
  | returned (f : FiberId) (cb : Bool)
  /-- before the look at the fiber's state -/
  | settle (f : FiberId) (cb : Bool)
  /-- the picked fiber was dead, before `--m_activeThreadCount` -/
  | dropped
  /-- before `++m_idleThreadCount` -/
  | goIdle
  /-- in `idle`, before `stopping` -/
  | idleCheck
  /-- in `epoll_wait` -/
  | blocked
  /-- back from `epoll_wait`, with a report on the pipe or without -/
  | woken (tickled : Bool)
  /-- before `--m_idleThreadCount` -/
  | idleOut
  | exited
  deriving DecidableEq, Repr

/-- The entry a worker has removed from the queue and not yet acted on. -/
def After.entry : After → Option Entry
  | .dispatch ft => ft
  | .scan        => none

def Pc.entry : Pc → Option Entry
  | .tickle k      => k.entry
  | .write k       => k.entry
  | .dispatch ft   => ft
  | .swapIn _ _ e  => some e
  | _              => none

/-- The fiber a worker is about to swap in, runs, or has not settled yet. -/
def Pc.fiber : Pc → Option FiberId
  | .swapIn f _ _ => some f
  | .running f _  => some f
  | .leaving f _  => some f
  | .returned f _ => some f
  | .settle f _   => some f
  | _             => none

structure Worker where
  pc        : Pc
  cb_fiber  : Option FiberId
  /-- the idle fiber is `TERM` -/
  idle_term : Bool
  deriving DecidableEq, Repr

/-- What became of an entry a worker removed. -/
inductive Outcome where
  | swappedIn
  | dead (state : State)
  deriving DecidableEq, Repr

structure Finished where
  entry   : Entry
  worker  : ThreadId
  outcome : Outcome
  deriving DecidableEq, Repr

end Sched

open Sched

/-- A scheduler with `n` workers; worker `i` is thread `i`. -/
structure Scheduler (n : Nat) where
  fibers            : List Entry
  issued            : Nat
  state             : Sched.FiberId → State
  /-- number of fibers constructed so far -/
  created           : Nat
  worker            : Fin n → Worker
  activeThreadCount : Int
  idleThreadCount   : Int
  /-- calls of `tickle` before `hasIdleThreads` and before the write -/
  tickles           : Nat
  writes            : Nat
  /-- bytes in the pipe, and whether `epoll` has the edge to report -/
  bytes             : Nat
  edge              : Bool
  /-- `m_autoStop && m_stopping` -/
  stopped           : Bool
  finished          : List Finished

namespace Scheduler

variable {n : Nat}

def setWorker (s : Scheduler n) (w : Fin n) (x : Worker) : Scheduler n :=
  { s with worker := fun v => if v = w then x else s.worker v }

def setPc (s : Scheduler n) (w : Fin n) (pc : Pc) : Scheduler n :=
  s.setWorker w { s.worker w with pc := pc }

@[simp] theorem setWorker_self (s : Scheduler n) (w : Fin n) (x : Worker) :
    (s.setWorker w x).worker w = x := by
  simp [setWorker]

@[simp] theorem setWorker_ne (s : Scheduler n) {v w : Fin n} (x : Worker) (h : v ≠ w) :
    (s.setWorker w x).worker v = s.worker v := by
  simp [setWorker, h]

def setState (s : Scheduler n) (f : Sched.FiberId) (x : State) : Scheduler n :=
  { s with state := fun g => if g = f then x else s.state g }

/-! ## Section 2: The queue -/

/-- `scheduleNoLock`; an empty fiber or function is not queued. -/
def scheduleNoLock (s : Scheduler n) (task : Option Sched.Task) (thread : Option ThreadId) :
    Scheduler n × Bool :=
  let need_tickle := s.fibers.isEmpty
  match task with
  | none => (s, need_tickle)
  | some task =>
    ({ s with fibers := s.fibers ++ [⟨s.issued, task, thread⟩], issued := s.issued + 1 },
      need_tickle)

/-- The batch overload, under one lock. -/
def scheduleAllNoLock (s : Scheduler n) : List (Option Sched.Task) → Scheduler n × Bool
  | [] => (s, false)
  | task :: rest =>
    let (s, first) := s.scheduleNoLock task none
    let (s, others) := s.scheduleAllNoLock rest
    (s, first || others)

/-- The entry's fiber is running somewhere. -/
def isExec (state : Sched.FiberId → State) (e : Entry) : Bool :=
  match e.task with
  | .fiber f => decide (state f = .EXEC)
  | .func _  => false

/-- The scan of the queue: what is picked, the queue left, and `tickle_me`. -/
def scanQueue (state : Sched.FiberId → State) (me : ThreadId) :
    List Entry → Option Entry × List Entry × Bool
  | [] => (none, [], false)
  | e :: rest =>
    if e.thread ≠ none ∧ e.thread ≠ some me then
      let (ft, left, _) := scanQueue state me rest
      (ft, e :: left, true)
    else if isExec state e then
      let (ft, left, tickle_me) := scanQueue state me rest
      (ft, e :: left, tickle_me)
    else (some e, rest, !rest.isEmpty)

/-! ## Section 3: Steps -/

/-- Go on after `tickle`. -/
def After.pc : After → Pc
  | .dispatch ft => .dispatch ft
  | .scan        => .scan

/-- The fiber's state once `tickle` has to be called or not. -/
def tickleIf (need : Bool) (k : After) : Pc :=
  if need then .tickle k else After.pc k

theorem tickleIf_entry (need : Bool) (k : After) : (tickleIf need k).entry = k.entry := by
  cases need <;> cases k <;> rfl

theorem after_entry (k : After) : (After.pc k).entry = k.entry := by
  cases k <;> rfl

inductive Label (n : Nat) where
  /-- `schedule` and `tickle` called by any thread -/
  | schedule (task : Option Sched.Task) (thread : Option ThreadId)
  | scheduleAll (tasks : List (Option Sched.Task))
  | callTickle
  | tickleCheck
  | tickleWrite
  | newFiber
  | stop
  /-- steps of a worker -/
  | scan (w : Fin n)
  | workerTickle (w : Fin n)
  | workerWrite (w : Fin n)
  | dispatch (w : Fin n)
  | swapIn (w : Fin n)
  | yieldToReady (w : Fin n)
  | yieldToHold (w : Fin n)
  | finish (w : Fin n) (threw : Bool)
  | switch (w : Fin n)
  | decrement (w : Fin n)
  | settle (w : Fin n)
  | enterIdle (w : Fin n)
  | idleCheck (w : Fin n) (noTimerOrEvent : Bool)
  | wake (w : Fin n) (tickled : Bool)
  | drain (w : Fin n)
  | leaveIdle (w : Fin n)

/-- A task `schedule` may be given: its fiber exists. -/
def Exists (s : Scheduler n) : Option Sched.Task → Prop
  | some (.fiber f) => f < s.created
  | _               => True

instance (s : Scheduler n) : (task : Option Sched.Task) → Decidable (s.Exists task)
  | some (.fiber _) => inferInstanceAs (Decidable (_ < _))
  | some (.func _)  => inferInstanceAs (Decidable True)
  | none            => inferInstanceAs (Decidable True)

/-- The check of what the scan picked.  `none`: the assertion in
    `Fiber::reset` fails. -/
def dispatchStep (s : Scheduler n) (w : Fin n) : Option Entry → Option (Scheduler n)
  | none =>
    some (s.setPc w (if (s.worker w).idle_term then .exited else .goIdle))
  | some e =>
    match e.task with
    | .fiber f =>
      if s.state f ≠ .TERM ∧ s.state f ≠ .EXCEPT then some (s.setPc w (.swapIn f false e))
      else
        some { s.setPc w .dropped with
          finished := s.finished ++ [⟨e, w, .dead (s.state f)⟩] }
    | .func _ =>
      match (s.worker w).cb_fiber with
      | some f =>
        -- `cb_fiber->reset(ft.func)`
        if s.state f = .TERM ∨ s.state f = .EXCEPT ∨ s.state f = .INIT then
          some ((s.setState f .INIT).setPc w (.swapIn f true e))
        else none
      | none =>
        let f := s.created
        some ({ s.setState f .INIT with created := f + 1 }.setWorker w
          { s.worker w with pc := .swapIn f true e, cb_fiber := some f })

/-- What the worker does with a fiber that came back. -/
def settleStep (s : Scheduler n) (w : Fin n) (f : Sched.FiberId) (cb : Bool) : Scheduler n :=
  let x := s.worker w
  if s.state f = .READY then
    let (s, need_tickle) := s.scheduleNoLock (some (.fiber f)) none
    s.setWorker w { x with pc := tickleIf need_tickle .scan,
                           cb_fiber := if cb then none else x.cb_fiber }
  else if s.state f = .TERM ∨ s.state f = .EXCEPT then
    -- a callback fiber is kept, `cb_fiber->reset(nullptr)`
    if cb then (s.setState f .INIT).setPc w .scan else s.setPc w .scan
  else
    (s.setState f .HOLD).setWorker w { x with pc := .scan,
                                              cb_fiber := if cb then none else x.cb_fiber }

def next (s : Scheduler n) : Label n → Option (Scheduler n)
  | .schedule task thread =>
    if s.Exists task then
      let (s, need_tickle) := s.scheduleNoLock task thread
      some { s with tickles := s.tickles + need_tickle.toNat }
    else none
  | .scheduleAll tasks =>
    if ∀ task ∈ tasks, s.Exists task then
      let (s, need_tickle) := s.scheduleAllNoLock tasks
      some { s with tickles := s.tickles + need_tickle.toNat }
    else none
  | .callTickle => some { s with tickles := s.tickles + 1 }
  | .tickleCheck =>
    if 0 < s.tickles then
      if 0 < s.idleThreadCount then
        some { s with tickles := s.tickles - 1, writes := s.writes + 1 }
      else some { s with tickles := s.tickles - 1 }
    else none
  | .tickleWrite =>
    if 0 < s.writes then
      some { s with writes := s.writes - 1, bytes := s.bytes + 1, edge := true }
    else none
  | .newFiber => some { s.setState s.created .INIT with created := s.created + 1 }
  | .stop => some { s with stopped := true, tickles := s.tickles + n }
  | .scan w =>
    if (s.worker w).pc = .scan then
      let (ft, left, tickle_me) := scanQueue s.state w s.fibers
      let active := if ft.isSome then s.activeThreadCount + 1 else s.activeThreadCount
      some ({ s with fibers := left, activeThreadCount := active }.setPc w
        (tickleIf tickle_me (.dispatch ft)))
    else none
  | .workerTickle w =>
    match (s.worker w).pc with
    | .tickle k =>
      if 0 < s.idleThreadCount then some (s.setPc w (.write k))
      else some (s.setPc w (After.pc k))
    | _ => none
  | .workerWrite w =>
    match (s.worker w).pc with
    | .write k => some ({ s with bytes := s.bytes + 1, edge := true }.setPc w (After.pc k))
    | _ => none
  | .dispatch w =>
    match (s.worker w).pc with
    | .dispatch ft => s.dispatchStep w ft
    | _ => none
  | .swapIn w =>
    match (s.worker w).pc with
    | .swapIn f cb e =>
      -- `MS_ASSERT(m_state != EXEC)`
      if s.state f ≠ .EXEC then
        some { (s.setState f .EXEC).setPc w (.running f cb) with
          finished := s.finished ++ [⟨e, w, .swappedIn⟩] }
      else none
    | _ => none
  | .yieldToReady w =>
    match (s.worker w).pc with
    | .running f cb =>
      -- `MS_ASSERT(cur->m_state == EXEC)`
      if s.state f = .EXEC then some ((s.setState f .READY).setPc w (.leaving f cb)) else none
    | _ => none
  | .yieldToHold w =>
    match (s.worker w).pc with
    | .running f cb =>
      if s.state f = .EXEC then some (s.setPc w (.leaving f cb)) else none
    | _ => none
  | .finish w threw =>
    match (s.worker w).pc with
    | .running f cb =>
      some ((s.setState f (if threw then .EXCEPT else .TERM)).setPc w (.leaving f cb))
    | _ => none
  | .switch w =>
    match (s.worker w).pc with
    | .leaving f cb => some (s.setPc w (.returned f cb))
    | _ => none
  | .decrement w =>
    match (s.worker w).pc with
    | .returned f cb =>
      some ({ s with activeThreadCount := s.activeThreadCount - 1 }.setPc w (.settle f cb))
    | .dropped =>
      some ({ s with activeThreadCount := s.activeThreadCount - 1 }.setPc w .scan)
    | _ => none
  | .settle w =>
    match (s.worker w).pc with
    | .settle f cb => some (s.settleStep w f cb)
    | _ => none
  | .enterIdle w =>
    if (s.worker w).pc = .goIdle then
      some ({ s with idleThreadCount := s.idleThreadCount + 1 }.setPc w .idleCheck)
    else none
  | .idleCheck w noTimerOrEvent =>
    if (s.worker w).pc = .idleCheck then
      if noTimerOrEvent ∧ s.stopped ∧ s.fibers = [] ∧ s.activeThreadCount = 0 then
        some (s.setWorker w { s.worker w with pc := .idleOut, idle_term := true })
      else some (s.setPc w .blocked)
    else none
  | .wake w tickled =>
    if (s.worker w).pc = .blocked then
      if tickled then
        if s.edge ∧ 0 < s.bytes then some ({ s with edge := false }.setPc w (.woken true))
        else none
      else some (s.setPc w (.woken false))
    else none
  | .drain w =>
    match (s.worker w).pc with
    | .woken tickled =>
      some ({ s with bytes := if tickled then 0 else s.bytes }.setPc w .idleOut)
    | _ => none
  | .leaveIdle w =>
    if (s.worker w).pc = .idleOut then
      some ({ s with idleThreadCount := s.idleThreadCount - 1 }.setPc w .scan)
    else none

/-- All workers at the top of `run`, nothing scheduled yet. -/
def start (n : Nat) : Scheduler n where
  fibers            := []
  issued            := 0
  state             := fun _ => .INIT
  created           := 0
  worker            := fun _ => ⟨.scan, none, false⟩
  activeThreadCount := 0
  idleThreadCount   := 0
  tickles           := 0
  writes            := 0
  bytes             := 0
  edge              := false
  stopped           := false
  finished          := []

end Scheduler

def schedulers (n : Nat) : System (Scheduler n) (Scheduler.Label n) where
  init := fun s => s = Scheduler.start n
  next := Scheduler.next

/-! ## Section 4: What the queue operations do -/

namespace Scheduler

variable {n : Nat}

/-- The entry is unpinned or pinned to this thread. -/
def MayRun (me : ThreadId) (e : Entry) : Prop := e.thread = none ∨ e.thread = some me

/-- The outcome of a scan: one entry is taken that this thread may run now,
    or none; without `tickle_me` only running fibers stay behind. -/
structure Scanned (state : Sched.FiberId → State) (me : ThreadId) (queue : List Entry)
    (ft : Option Entry) (left : List Entry) (tickle_me : Bool) : Prop where
  perm  : (ft.toList ++ left).Perm queue
  mine  : ∀ e, ft = some e → MayRun me e
  quiet : tickle_me = false → ∀ e ∈ left, isExec state e = true

/-- The scan goes past an entry. -/
theorem Scanned.skip {state : Sched.FiberId → State} {me : ThreadId} {queue : List Entry}
    {ft : Option Entry} {left : List Entry} {tickle_me : Bool}
    (h : Scanned state me queue ft left tickle_me) (e : Entry) {tickle_me' : Bool}
    (hquiet : tickle_me' = false → isExec state e = true ∧ tickle_me = false) :
    Scanned state me (e :: queue) ft (e :: left) tickle_me' where
  perm  := List.perm_middle.trans (h.perm.cons e)
  mine  := h.mine
  quiet := by
    intro hfalse x hx
    obtain ⟨hexec, htickle⟩ := hquiet hfalse
    rcases List.mem_cons.mp hx with rfl | hx
    · exact hexec
    · exact h.quiet htickle x hx

/-- The scan, by induction on the queue. -/
theorem scanQueue_spec (state : Sched.FiberId → State) (me : ThreadId) (queue : List Entry) :
    Scanned state me queue (scanQueue state me queue).1 (scanQueue state me queue).2.1
      (scanQueue state me queue).2.2 := by
  induction queue with
  | nil => exact ⟨List.Perm.refl _, by simp [scanQueue], by simp [scanQueue]⟩
  | cons e rest ih =>
    unfold scanQueue
    split
    · -- pinned to another thread
      exact ih.skip e (by simp)
    · rename_i hthread
      split
      · rename_i hexec
        exact ih.skip e fun hfalse => ⟨hexec, hfalse⟩
      · refine ⟨List.Perm.refl _, ?_, ?_⟩
        · intro e' he'
          obtain rfl := Option.some.inj he'
          by_contra hnot
          rw [MayRun, not_or] at hnot
          exact hthread hnot
        · intro hrest x hx
          cases rest with
          | nil => cases hx
          | cons y ys => simp at hrest

theorem Scanned.mem_left {state : Sched.FiberId → State} {me : ThreadId} {queue : List Entry}
    {ft : Option Entry} {left : List Entry} {tickle_me : Bool}
    (h : Scanned state me queue ft left tickle_me) {e : Entry} (he : e ∈ left) : e ∈ queue :=
  h.perm.mem_iff.mp (List.mem_append_right _ he)

theorem Scanned.mem_ft {state : Sched.FiberId → State} {me : ThreadId} {queue : List Entry}
    {ft : Option Entry} {left : List Entry} {tickle_me : Bool}
    (h : Scanned state me queue ft left tickle_me) {e : Entry} (he : ft = some e) :
    e ∈ queue := by
  apply h.perm.mem_iff.mp
  rw [he]
  exact List.mem_cons_self

/-- The entries one call of `schedule` makes, numbered from `k` on. -/
def numbered (thread : Option ThreadId) : Nat → List (Option Sched.Task) → List Entry
  | _, [] => []
  | k, none :: rest => numbered thread k rest
  | k, some task :: rest => ⟨k, task, thread⟩ :: numbered thread (k + 1) rest

/-- The entries of one call are numbered in a row. -/
theorem numbered_serials (thread : Option ThreadId) (tasks : List (Option Sched.Task)) :
    ∀ k, (numbered thread k tasks).map Entry.serial =
      List.range' k (numbered thread k tasks).length := by
  induction tasks with
  | nil => intro k; rfl
  | cons task rest ih =>
    intro k
    cases task with
    | none => exact ih k
    | some task => simp [numbered, ih, List.range'_succ]

/-- A null task makes no entry. -/
theorem mem_numbered {thread : Option ThreadId} {tasks : List (Option Sched.Task)} {e : Entry} :
    ∀ {k}, e ∈ numbered thread k tasks → some e.task ∈ tasks ∧ e.thread = thread := by
  induction tasks with
  | nil => intro k he; cases he
  | cons task rest ih =>
    intro k he
    cases task with
    | none =>
      obtain ⟨htask, hthread⟩ := ih (k := k) he
      exact ⟨List.mem_cons_of_mem _ htask, hthread⟩
    | some task =>
      rcases List.mem_cons.mp he with rfl | he
      · exact ⟨List.mem_cons_self, rfl⟩
      · obtain ⟨htask, hthread⟩ := ih he
        exact ⟨List.mem_cons_of_mem _ htask, hthread⟩

/-- The entries are put at the end of the queue. -/
def pushed (s : Scheduler n) (thread : Option ThreadId) (tasks : List (Option Sched.Task)) :
    Scheduler n :=
  { s with fibers := s.fibers ++ numbered thread s.issued tasks,
           issued := s.issued + (numbered thread s.issued tasks).length }

/-- One task is pushed like a list of one. -/
theorem scheduleNoLock_eq (s : Scheduler n) (task : Option Sched.Task)
    (thread : Option ThreadId) :
    s.scheduleNoLock task thread = (s.pushed thread [task], s.fibers.isEmpty) := by
  cases task with
  | none => simp [scheduleNoLock, pushed, numbered]
  | some task => rfl

/-- Only the first entry can find the queue empty, or the one after entries
    that were empty themselves. -/
theorem scheduleAllNoLock_eq (tasks : List (Option Sched.Task)) :
    ∀ s : Scheduler n, s.scheduleAllNoLock tasks =
      (s.pushed none tasks, s.fibers.isEmpty && !tasks.isEmpty) := by
  induction tasks with
  | nil =>
    intro s
    simp [scheduleAllNoLock, pushed, numbered]
  | cons task rest ih =>
    intro s
    rw [scheduleAllNoLock, scheduleNoLock_eq]
    dsimp only
    rw [ih]
    cases task with
    | none => cases hempty : s.fibers.isEmpty <;> simp [pushed, numbered, hempty]
    | some task => simp [pushed, numbered, Nat.add_assoc, Nat.add_comm 1]

/-! ## Section 5: What a step can do -/

/-- What a step can do: one case for each branch of `next`, of `dispatchStep` and
    of `settleStep` that is taken, with what was asked for on the way there. -/
inductive Next (s : Scheduler n) : Label n → Scheduler n → Prop where
  | schedule (task : Option Sched.Task) (thread : Option ThreadId) (known : s.Exists task) :
      Next s (.schedule task thread)
        { s.pushed thread [task] with tickles := s.tickles + s.fibers.isEmpty.toNat }
  | scheduleAll (tasks : List (Option Sched.Task)) (known : ∀ task ∈ tasks, s.Exists task) :
      Next s (.scheduleAll tasks)
        { s.pushed none tasks with
          tickles := s.tickles + (s.fibers.isEmpty && !tasks.isEmpty).toNat }
  | callTickle : Next s .callTickle { s with tickles := s.tickles + 1 }
  /-- `hasIdleThreads`, and what it answers -/
  | tickleFound (pending : 0 < s.tickles) (idle : 0 < s.idleThreadCount) :
      Next s .tickleCheck { s with tickles := s.tickles - 1, writes := s.writes + 1 }
  | tickleNobody (pending : 0 < s.tickles) (busy : s.idleThreadCount ≤ 0) :
      Next s .tickleCheck { s with tickles := s.tickles - 1 }
  | tickleWrite (pending : 0 < s.writes) :
      Next s .tickleWrite { s with writes := s.writes - 1, bytes := s.bytes + 1, edge := true }
  | newFiber : Next s .newFiber { s.setState s.created .INIT with created := s.created + 1 }
  | stop : Next s .stop { s with stopped := true, tickles := s.tickles + n }
  | scan (w : Fin n) (pc : (s.worker w).pc = .scan) :
      Next s (.scan w)
        ({ s with
          fibers            := (scanQueue s.state w s.fibers).2.1,
          activeThreadCount := if (scanQueue s.state w s.fibers).1.isSome
            then s.activeThreadCount + 1 else s.activeThreadCount }.setPc w
          (tickleIf (scanQueue s.state w s.fibers).2.2
            (.dispatch (scanQueue s.state w s.fibers).1)))
  | workerFound (w : Fin n) (k : After) (pc : (s.worker w).pc = .tickle k)
      (idle : 0 < s.idleThreadCount) : Next s (.workerTickle w) (s.setPc w (.write k))
  | workerNobody (w : Fin n) (k : After) (pc : (s.worker w).pc = .tickle k)
      (busy : s.idleThreadCount ≤ 0) : Next s (.workerTickle w) (s.setPc w (After.pc k))
  | workerWrite (w : Fin n) (k : After) (pc : (s.worker w).pc = .write k) :
      Next s (.workerWrite w) ({ s with bytes := s.bytes + 1, edge := true }.setPc w (After.pc k))
  /-- nothing was picked: the idle fiber runs, or has ended -/
  | dispatchNone (w : Fin n) (pc : (s.worker w).pc = .dispatch none) :
      Next s (.dispatch w) (s.setPc w (if (s.worker w).idle_term then .exited else .goIdle))
  | dispatchFiber (w : Fin n) (e : Entry) (f : Sched.FiberId)
      (pc : (s.worker w).pc = .dispatch (some e)) (task : e.task = .fiber f)
      (alive : s.state f ≠ .TERM ∧ s.state f ≠ .EXCEPT) :
      Next s (.dispatch w) (s.setPc w (.swapIn f false e))
  | dispatchDead (w : Fin n) (e : Entry) (f : Sched.FiberId)
      (pc : (s.worker w).pc = .dispatch (some e)) (task : e.task = .fiber f)
      (dead : s.state f = .TERM ∨ s.state f = .EXCEPT) :
      Next s (.dispatch w) { s.setPc w .dropped with
        finished := s.finished ++ [⟨e, w, .dead (s.state f)⟩] }
  /-- a callback runs on the fiber of the one before it, or on a new one -/
  | dispatchReset (w : Fin n) (e : Entry) (g : Sched.FuncId) (f : Sched.FiberId)
      (pc : (s.worker w).pc = .dispatch (some e)) (task : e.task = .func g)
      (cb_fiber : (s.worker w).cb_fiber = some f)
      (reset : s.state f = .TERM ∨ s.state f = .EXCEPT ∨ s.state f = .INIT) :
      Next s (.dispatch w) ((s.setState f .INIT).setPc w (.swapIn f true e))
  | dispatchNew (w : Fin n) (e : Entry) (g : Sched.FuncId)
      (pc : (s.worker w).pc = .dispatch (some e)) (task : e.task = .func g)
      (cb_fiber : (s.worker w).cb_fiber = none) :
      Next s (.dispatch w)
        ({ s.setState s.created .INIT with created := s.created + 1 }.setWorker w
          { s.worker w with pc := .swapIn s.created true e, cb_fiber := some s.created })
  | swapIn (w : Fin n) (f : Sched.FiberId) (cb : Bool) (e : Entry)
      (pc : (s.worker w).pc = .swapIn f cb e) (idle : s.state f ≠ .EXEC) :
      Next s (.swapIn w) { (s.setState f .EXEC).setPc w (.running f cb) with
        finished := s.finished ++ [⟨e, w, .swappedIn⟩] }
  | yieldToReady (w : Fin n) (f : Sched.FiberId) (cb : Bool)
      (pc : (s.worker w).pc = .running f cb) (exec : s.state f = .EXEC) :
      Next s (.yieldToReady w) ((s.setState f .READY).setPc w (.leaving f cb))
  | yieldToHold (w : Fin n) (f : Sched.FiberId) (cb : Bool)
      (pc : (s.worker w).pc = .running f cb) (exec : s.state f = .EXEC) :
      Next s (.yieldToHold w) (s.setPc w (.leaving f cb))
  | finish (w : Fin n) (threw : Bool) (f : Sched.FiberId) (cb : Bool)
      (pc : (s.worker w).pc = .running f cb) :
      Next s (.finish w threw)
        ((s.setState f (if threw then .EXCEPT else .TERM)).setPc w (.leaving f cb))
  | switch (w : Fin n) (f : Sched.FiberId) (cb : Bool) (pc : (s.worker w).pc = .leaving f cb) :
      Next s (.switch w) (s.setPc w (.returned f cb))
  | decrement (w : Fin n) (f : Sched.FiberId) (cb : Bool)
      (pc : (s.worker w).pc = .returned f cb) :
      Next s (.decrement w)
        ({ s with activeThreadCount := s.activeThreadCount - 1 }.setPc w (.settle f cb))
  | decrementDropped (w : Fin n) (pc : (s.worker w).pc = .dropped) :
      Next s (.decrement w)
        ({ s with activeThreadCount := s.activeThreadCount - 1 }.setPc w .scan)
  /-- a fiber that came back `READY` is queued for any thread -/
  | settleReady (w : Fin n) (f : Sched.FiberId) (cb : Bool)
      (pc : (s.worker w).pc = .settle f cb) (ready : s.state f = .READY) :
      Next s (.settle w)
        ((s.pushed none [some (.fiber f)]).setWorker w
          { s.worker w with pc := tickleIf s.fibers.isEmpty .scan,
                            cb_fiber := if cb then none else (s.worker w).cb_fiber })
  /-- `cb_fiber->reset(nullptr)` -/
  | settleKept (w : Fin n) (f : Sched.FiberId) (pc : (s.worker w).pc = .settle f true)
      (dead : s.state f = .TERM ∨ s.state f = .EXCEPT) :
      Next s (.settle w) ((s.setState f .INIT).setPc w .scan)
  | settleDead (w : Fin n) (f : Sched.FiberId) (pc : (s.worker w).pc = .settle f false)
      (dead : s.state f = .TERM ∨ s.state f = .EXCEPT) :
      Next s (.settle w) (s.setPc w .scan)
  | settleHold (w : Fin n) (f : Sched.FiberId) (cb : Bool)
      (pc : (s.worker w).pc = .settle f cb) (notReady : s.state f ≠ .READY)
      (alive : ¬ (s.state f = .TERM ∨ s.state f = .EXCEPT)) :
      Next s (.settle w)
        ((s.setState f .HOLD).setWorker w
          { s.worker w with pc := .scan,
                            cb_fiber := if cb then none else (s.worker w).cb_fiber })
  | enterIdle (w : Fin n) (pc : (s.worker w).pc = .goIdle) :
      Next s (.enterIdle w)
        ({ s with idleThreadCount := s.idleThreadCount + 1 }.setPc w .idleCheck)
  /-- the idle fiber finds `stopping()` and ends, or blocks -/
  | idleEnds (w : Fin n) (noTimerOrEvent : Bool) (pc : (s.worker w).pc = .idleCheck)
      (stopping : noTimerOrEvent ∧ s.stopped ∧ s.fibers = [] ∧ s.activeThreadCount = 0) :
      Next s (.idleCheck w noTimerOrEvent)
        (s.setWorker w { s.worker w with pc := .idleOut, idle_term := true })
  | idleBlocks (w : Fin n) (noTimerOrEvent : Bool) (pc : (s.worker w).pc = .idleCheck)
      (going : ¬ (noTimerOrEvent ∧ s.stopped ∧ s.fibers = [] ∧ s.activeThreadCount = 0)) :
      Next s (.idleCheck w noTimerOrEvent) (s.setPc w .blocked)
  | wakeTickled (w : Fin n) (pc : (s.worker w).pc = .blocked) (edge : s.edge ∧ 0 < s.bytes) :
      Next s (.wake w true) ({ s with edge := false }.setPc w (.woken true))
  | wakeOther (w : Fin n) (pc : (s.worker w).pc = .blocked) :
      Next s (.wake w false) (s.setPc w (.woken false))
  | drain (w : Fin n) (tickled : Bool) (pc : (s.worker w).pc = .woken tickled) :
      Next s (.drain w) ({ s with bytes := if tickled then 0 else s.bytes }.setPc w .idleOut)
  | leaveIdle (w : Fin n) (pc : (s.worker w).pc = .idleOut) :
      Next s (.leaveIdle w)
        ({ s with idleThreadCount := s.idleThreadCount - 1 }.setPc w .scan)

theorem dispatchStep_cases {s t : Scheduler n} {w : Fin n} {ft : Option Entry}
    (hpc : (s.worker w).pc = .dispatch ft) (h : s.dispatchStep w ft = some t) :
    Next s (.dispatch w) t := by
  -- run() looks at ft.fiber first, then at ft.cb, and goes idle with neither
  cases ft with
  | none =>
    obtain rfl := Option.some.inj h
    exact .dispatchNone w hpc
  | some e =>
    simp only [dispatchStep] at h
    split at h
    · rename_i f htask
      split at h
      · rename_i halive
        obtain rfl := Option.some.inj h
        exact .dispatchFiber w e f hpc htask halive
      · rename_i hdead
        obtain rfl := Option.some.inj h
        refine .dispatchDead w e f hpc htask ?_
        by_contra hnot
        exact hdead (not_or.mp hnot)
    · rename_i g htask
      split at h
      · rename_i f hcb
        obtain ⟨hreset, heq⟩ := Option.ite_none_right_eq_some.mp h
        obtain rfl := Option.some.inj heq
        exact .dispatchReset w e g f hpc htask hcb hreset
      · rename_i hcb
        obtain rfl := Option.some.inj h
        exact .dispatchNew w e g hpc htask hcb

theorem settleStep_cases {s : Scheduler n} {w : Fin n} {f : Sched.FiberId} {cb : Bool}
    (hpc : (s.worker w).pc = .settle f cb) : Next s (.settle w) (s.settleStep w f cb) := by
  unfold settleStep
  dsimp only
  split
  · rename_i hready
    rw [scheduleNoLock_eq]
    exact .settleReady w f cb hpc hready
  · rename_i hready
    split
    · rename_i hdead
      cases cb with
      | true => exact .settleKept w f hpc hdead
      | false => exact .settleDead w f hpc hdead
    · rename_i halive
      exact .settleHold w f cb hpc hready halive

theorem next_cases {s t : Scheduler n} {l : Label n} (hnext : s.next l = some t) :
    Next s l t := by
  -- the guards are read off the branches of next once, here
  cases l with
  | schedule task thread =>
    simp only [next] at hnext
    obtain ⟨hknown, heq⟩ := Option.ite_none_right_eq_some.mp hnext
    rw [scheduleNoLock_eq] at heq
    obtain rfl := Option.some.inj heq
    exact .schedule task thread hknown
  | scheduleAll tasks =>
    simp only [next] at hnext
    obtain ⟨hknown, heq⟩ := Option.ite_none_right_eq_some.mp hnext
    rw [scheduleAllNoLock_eq] at heq
    obtain rfl := Option.some.inj heq
    exact .scheduleAll tasks hknown
  | callTickle =>
    obtain rfl := Option.some.inj hnext
    exact .callTickle
  | tickleCheck =>
    obtain ⟨hpending, heq⟩ := Option.ite_none_right_eq_some.mp hnext
    split at heq
    · rename_i hidle
      obtain rfl := Option.some.inj heq
      exact .tickleFound hpending hidle
    · rename_i hbusy
      obtain rfl := Option.some.inj heq
      exact .tickleNobody hpending (Int.not_lt.mp hbusy)
  | tickleWrite =>
    obtain ⟨hpending, heq⟩ := Option.ite_none_right_eq_some.mp hnext
    obtain rfl := Option.some.inj heq
    exact .tickleWrite hpending
  | newFiber =>
    obtain rfl := Option.some.inj hnext
    exact .newFiber
  | stop =>
    obtain rfl := Option.some.inj hnext
    exact .stop
  | scan w =>
    obtain ⟨hpc, heq⟩ := Option.ite_none_right_eq_some.mp hnext
    obtain rfl := Option.some.inj heq
    exact .scan w hpc
  | workerTickle w =>
    simp only [next] at hnext
    split at hnext
    · rename_i k hpc
      split at hnext
      · rename_i hidle
        obtain rfl := Option.some.inj hnext
        exact .workerFound w k hpc hidle
      · rename_i hbusy
        obtain rfl := Option.some.inj hnext
        exact .workerNobody w k hpc (Int.not_lt.mp hbusy)
    · cases hnext
  | workerWrite w =>
    simp only [next] at hnext
    split at hnext
    · rename_i k hpc
      obtain rfl := Option.some.inj hnext
      exact .workerWrite w k hpc
    · cases hnext
  | dispatch w =>
    simp only [next] at hnext
    split at hnext
    · rename_i ft hpc
      exact dispatchStep_cases hpc hnext
    · cases hnext
  | swapIn w =>
    simp only [next] at hnext
    split at hnext
    · rename_i f cb e hpc
      obtain ⟨hidle, heq⟩ := Option.ite_none_right_eq_some.mp hnext
      obtain rfl := Option.some.inj heq
      exact .swapIn w f cb e hpc hidle
    · cases hnext
  | yieldToReady w =>
    simp only [next] at hnext
    split at hnext
    · rename_i f cb hpc
      obtain ⟨hexec, heq⟩ := Option.ite_none_right_eq_some.mp hnext
      obtain rfl := Option.some.inj heq
      exact .yieldToReady w f cb hpc hexec
    · cases hnext
  | yieldToHold w =>
    simp only [next] at hnext
    split at hnext
    · rename_i f cb hpc
      obtain ⟨hexec, heq⟩ := Option.ite_none_right_eq_some.mp hnext
      obtain rfl := Option.some.inj heq
      exact .yieldToHold w f cb hpc hexec
    · cases hnext
  | finish w threw =>
    simp only [next] at hnext
    split at hnext
    · rename_i f cb hpc
      obtain rfl := Option.some.inj hnext
      exact .finish w threw f cb hpc
    · cases hnext
  | switch w =>
    simp only [next] at hnext
    split at hnext
    · rename_i f cb hpc
      obtain rfl := Option.some.inj hnext
      exact .switch w f cb hpc
    · cases hnext
  | decrement w =>
    simp only [next] at hnext
    split at hnext
    · rename_i f cb hpc
      obtain rfl := Option.some.inj hnext
      exact .decrement w f cb hpc
    · rename_i hpc
      obtain rfl := Option.some.inj hnext
      exact .decrementDropped w hpc
    · cases hnext
  | settle w =>
    simp only [next] at hnext
    split at hnext
    · rename_i f cb hpc
      obtain rfl := Option.some.inj hnext
      exact settleStep_cases hpc
    · cases hnext
  | enterIdle w =>
    obtain ⟨hpc, heq⟩ := Option.ite_none_right_eq_some.mp hnext
    obtain rfl := Option.some.inj heq
    exact .enterIdle w hpc
  | idleCheck w noTimerOrEvent =>
    obtain ⟨hpc, heq⟩ := Option.ite_none_right_eq_some.mp hnext
    split at heq
    · rename_i hstopping
      obtain rfl := Option.some.inj heq
      exact .idleEnds w noTimerOrEvent hpc hstopping
    · rename_i hgoing
      obtain rfl := Option.some.inj heq
      exact .idleBlocks w noTimerOrEvent hpc hgoing
  | wake w tickled =>
    obtain ⟨hpc, heq⟩ := Option.ite_none_right_eq_some.mp hnext
    cases tickled with
    | true =>
      obtain ⟨hedge, heq⟩ := Option.ite_none_right_eq_some.mp heq
      obtain rfl := Option.some.inj heq
      exact .wakeTickled w hpc hedge
    | false =>
      obtain rfl := Option.some.inj heq
      exact .wakeOther w hpc
  | drain w =>
    simp only [next] at hnext
    split at hnext
    · rename_i tickled hpc
      obtain rfl := Option.some.inj hnext
      exact .drain w tickled hpc
    · cases hnext
  | leaveIdle w =>
    obtain ⟨hpc, heq⟩ := Option.ite_none_right_eq_some.mp hnext
    obtain rfl := Option.some.inj heq
    exact .leaveIdle w hpc

end Scheduler

end MNSER
