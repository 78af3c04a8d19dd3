import Mathlib.Algebra.Order.BigOperators.Group.Finset
import Mnser.IOManager.Ledger
import Mnser.Scheduler.Entries
import Mnser.Timer.Notify

/-! # When an IOManager may stop

    `IOManager::stopping` looks at the timers, at the pending events and at
    the queue together with `m_activeThreadCount`, one after the other.  The
    three parts of the manager run side by side here: the workers of
    `Scheduler`, the timers and the event contexts.

    The count keeps the samples good: whoever adds a timer or an event runs
    in a task, so a worker that has found none goes wrong only if the last
    task ends before it looks at the count.  A fiber that yields is not
    counted from `--m_activeThreadCount` until it is scheduled again. -/

namespace MNSER

open LTS

variable {n : Nat} {Callback : Type}

/-! ## Section 1: The parts of the manager -/

/-- How far a worker is in `IOManager::stopping`. -/
inductive Probe where
  | start
  /-- `getNextTimer` has answered `~0ull` -/
  | timersRead
  /-- `m_pendingEventCount` was 0 -/
  | eventsRead
  deriving DecidableEq, Repr

structure Shutdown (n : Nat) (Callback : Type) where
  sched  : Scheduler n
  timers : Timers Callback
  io     : IOManager
  probe  : Fin n → Probe

inductive ShutdownLabel (n : Nat) (Callback : Type) where
  | sched (l : Scheduler.Label n)
  /-- An operation on timers by worker `w`. -/
  | timer (w : Fin n) (l : TimersLabel Callback)
  /-- The locked part of an event operation, and the resizing before it. -/
  | event (w : Fin n) (p : FdContextPtr) (call : IOManager.Call) (caller : IOManager.Caller)
      (ok : Bool)
  | resize (w : Fin n) (size : Nat)
  /-- One report in `idle`. -/
  | report (w : Fin n) (p : FdContextPtr) (events : Events) (ok : Bool)
  /-- The three samples of `stopping`. -/
  | readTimers (w : Fin n) (now : Nat)
  | readEvents (w : Fin n)
  | readQueue (w : Fin n)

/-- Whether a task is running at this place of `run`. -/
def Sched.Pc.runs : Sched.Pc → Bool
  | .running _ _ => true
  | _            => false

/-- On the stack of a fiber. -/
def Sched.Pc.onStack : Sched.Pc → Bool
  | .running _ _ => true
  | .leaving _ _ => true
  | _            => false

/-- Back from `epoll_wait`, in `idle`. -/
def Sched.Pc.awake : Sched.Pc → Bool
  | .woken _ => true
  | _        => false

/-- The fiber that came back is `READY`; it is no longer counted and not yet
    scheduled. -/
def Scheduler.requeues (s : Scheduler n) (w : Fin n) : Bool :=
  match (s.worker w).pc with
  | .settle f _ => s.state f = .READY
  | _           => false

namespace Shutdown

def setProbe (s : Shutdown n Callback) (w : Fin n) (x : Probe) : Shutdown n Callback :=
  { s with probe := fun v => if v = w then x else s.probe v }

/-- Timers and events come from running tasks; before `stop` from anywhere. -/
def MayAdd (s : Shutdown n Callback) (w : Fin n) : Prop :=
  (s.sched.worker w).pc.runs = true ∨ s.sched.stopped = false

instance (s : Shutdown n Callback) (w : Fin n) : Decidable (s.MayAdd w) :=
  inferInstanceAs (Decidable (_ ∨ _))

/-- Who takes a step on the timers: `listExpiredCb` is called by `idle`, and
    `getNextTimer` by `stopping` only. -/
def MayUse (s : Shutdown n Callback) (w : Fin n) : TimersLabel Callback → Bool
  | .readClock _       => (s.sched.worker w).pc.awake
  | .listNothing _     => (s.sched.worker w).pc.awake
  | .listExpiredCb _ _ => (s.sched.worker w).pc.awake
  | .getNextTimer _    => false
  | _                  => s.MayAdd w

/-- `stopping` has answered, and `idle` goes on. -/
def answer (s : Shutdown n Callback) (w : Fin n) (quiet : Bool) : Option (Shutdown n Callback) :=
  (s.sched.next (.idleCheck w quiet)).map fun sched => { s with sched := sched }.setProbe w .start

def next (s : Shutdown n Callback) : ShutdownLabel n Callback → Option (Shutdown n Callback)
  | .sched l =>
    match l with
    -- stopping() is asked by readTimers, readEvents and readQueue
    | .idleCheck _ _ => none
    | l => (s.sched.next l).map fun sched => { s with sched := sched }
  | .timer w l =>
    if s.MayUse w l then (s.timers.next l).map fun timers => { s with timers := timers } else none
  | .event w p call caller ok =>
    if s.MayAdd w ∧ p < s.io.created ∧ caller.scheduler.isSome then
      match s.io.locked p caller ok call with
      | .ok io   => some { s with io := io }
      | .error _ => none
    else none
  | .resize w size =>
    if s.MayAdd w then some { s with io := s.io.contextResize size } else none
  | .report w p events ok =>
    if (s.sched.worker w).pc.awake then
      match s.io.handleReport p events ok with
      | .ok io   => some { s with io := io }
      | .error _ => none
    else none
  | .readTimers w now =>
    if (s.sched.worker w).pc = .idleCheck ∧ s.probe w = .start then
      (s.timers.next (.getNextTimer now)).bind fun timers =>
        let s' := { s with timers := timers }
        if (s.timers.manager.getNextTimer now).2 = 2 ^ 64 - 1 then some (s'.setProbe w .timersRead)
        else s'.answer w false
    else none
  | .readEvents w =>
    if s.probe w = .timersRead then
      if s.io.pendingEventCount = 0 then some (s.setProbe w .eventsRead) else s.answer w false
    else none
  | .readQueue w =>
    if s.probe w = .eventsRead then s.answer w true else none

/-- The constructors have run. -/
def start (n : Nat) (Callback : Type) (now : Nat) : Shutdown n Callback where
  sched  := Scheduler.start n
  timers := Timers.start Callback now
  io     := IOManager.init fun _ => 0
  probe  := fun _ => .start

end Shutdown

def shutdown (n : Nat) (Callback : Type) :
    System (Shutdown n Callback) (ShutdownLabel n Callback) where
  init s := ∃ now, now < 2 ^ 64 ∧ s = Shutdown.start n Callback now
  next   := Shutdown.next

/-! ## Section 2: What the answer should mean -/

namespace Shutdown

/-- `Scheduler::stopping` answers true. -/
def Answers (s : Shutdown n Callback) : Prop :=
  s.sched.stopped = true ∧ s.sched.fibers = [] ∧ s.sched.activeThreadCount = 0

instance (s : Shutdown n Callback) : Decidable s.Answers :=
  inferInstanceAs (Decidable (_ ∧ _ ∧ _))

/-- Nothing is left to do, on no worker but `w`. -/
def Quiet (s : Shutdown n Callback) (w : Fin n) : Prop :=
  s.timers.manager.timers = [] ∧ s.io.pendingEventCount = 0 ∧ s.sched.fibers = [] ∧
    ∀ v, v ≠ w → (s.sched.worker v).pc.onStack = false ∧
      ∀ f ∈ (s.sched.worker v).pc.fiber, s.sched.state f ≠ .READY

instance (s : Shutdown n Callback) (w : Fin n) : Decidable (s.Quiet w) :=
  inferInstanceAs (Decidable (_ ∧ _ ∧ _ ∧ ∀ v, v ≠ w → _ ∧ ∀ f ∈ (s.sched.worker v).pc.fiber, _))

/-- The worker has found no timer, or no event, and now there is one. -/
def Outdated (s : Shutdown n Callback) (w : Fin n) : Prop :=
  (s.probe w ≠ .start ∧ s.timers.manager.timers ≠ []) ∨
    (s.probe w = .eventsRead ∧ s.io.pendingEventCount ≠ 0)

instance (s : Shutdown n Callback) (w : Fin n) : Decidable (s.Outdated w) :=
  inferInstanceAs (Decidable (_ ∨ _))

/-- The last task ends, or `stop` is called, only while no worker has an
    outdated sample; the last sample is not taken while a fiber that has
    yielded is on its way back into the queue. -/
def inTime (s : Shutdown n Callback) : ShutdownLabel n Callback → Bool
  | .sched (.decrement _) =>
    decide (s.sched.stopped = true → s.sched.activeThreadCount = 1 → s.sched.fibers = [] →
      ∀ v, ¬ s.Outdated v)
  | .sched .stop =>
    decide (s.sched.activeThreadCount = 0 → s.sched.fibers = [] → ∀ v, ¬ s.Outdated v)
  -- a clock at 0 could make `~0ull` the time to wait
  | .readTimers _ now => decide (0 < now)
  | .readQueue _ =>
    decide (∀ v, s.sched.requeues v = false)
  | _ => true

end Shutdown

/-! ## Section 3: The count -/

namespace Scheduler

/-- A task is counted, or one is queued. -/
def Busy (s : Scheduler n) : Prop := 0 < s.activeThreadCount ∨ s.fibers ≠ []

theorem counted_nonneg (pc : Sched.Pc) : 0 ≤ counted pc := by
  unfold counted
  split <;> decide

/-- The count of active workers is not negative. -/
theorem Accounted.active_nonneg {all : List Sched.Entry} {s : Scheduler n} (h : Accounted all s) :
    0 ≤ s.activeThreadCount := by
  rw [h.active]
  exact Finset.sum_nonneg fun w _ => counted_nonneg _

/-- A worker between its `++` and its `--` keeps the count up. -/
theorem Accounted.active_pos {all : List Sched.Entry} {s : Scheduler n} (h : Accounted all s)
    {w : Fin n} (hw : activePc (s.worker w).pc = true) : 0 < s.activeThreadCount := by
  have hle : counted (s.worker w).pc ≤ ∑ v, counted (s.worker v).pc :=
    Finset.single_le_sum (f := fun v => counted (s.worker v).pc)
      (fun v _ => counted_nonneg _) (Finset.mem_univ w)
  have hone : counted (s.worker w).pc = 1 := if_pos hw
  rw [h.active]
  omega

/-- What a step does to the queue, the count and the flags of `stop`. -/
inductive Queued (s t : Scheduler n) (l : Label n) : Prop where
  | kept (fibers : t.fibers.Perm s.fibers) (active : t.activeThreadCount = s.activeThreadCount)
      (stopped : t.stopped = s.stopped ∨ l = .stop)
  | pushed (new : List Sched.Entry) (fibers : t.fibers = s.fibers ++ new)
      (active : t.activeThreadCount = s.activeThreadCount) (stopped : t.stopped = s.stopped)
  | picked (active : t.activeThreadCount = s.activeThreadCount + 1)
      (stopped : t.stopped = s.stopped)
  | lowered (w : Fin n) (label : l = .decrement w) (fibers : t.fibers = s.fibers)
      (active : t.activeThreadCount = s.activeThreadCount - 1) (stopped : t.stopped = s.stopped)

/-- The scan picks an entry and counts it, or leaves the queue as it was up to the
    order. -/
theorem queued_scan (s : Scheduler n) (w : Fin n) :
    Queued s ({ s with
      fibers            := (scanQueue s.state w s.fibers).2.1,
      activeThreadCount := if (scanQueue s.state w s.fibers).1.isSome
        then s.activeThreadCount + 1 else s.activeThreadCount }.setPc w
      (tickleIf (scanQueue s.state w s.fibers).2.2
        (.dispatch (scanQueue s.state w s.fibers).1))) (.scan w) := by
  have hperm := (scanQueue_spec s.state w s.fibers).perm
  cases hft : (scanQueue s.state w s.fibers).1 with
  | some e => exact .picked rfl rfl
  | none =>
    rw [hft] at hperm
    exact .kept hperm rfl (Or.inl rfl)

/-- A worker that decrements the count leaves the queue alone. -/
theorem decrement_next {s t : Scheduler n} {w : Fin n} (hnext : s.next (.decrement w) = some t) :
    t.fibers = s.fibers ∧ t.activeThreadCount = s.activeThreadCount - 1 ∧ t.stopped = s.stopped := by
  cases next_cases hnext with
  | decrement | decrementDropped => exact ⟨rfl, rfl, rfl⟩

/-- What a step does to the queue and the count, told apart by its label. -/
theorem queued_next {s t : Scheduler n} {l : Label n} (hnext : s.next l = some t) :
    Queued s t l := by
  cases next_cases hnext with
  | schedule | scheduleAll | settleReady => exact .pushed _ rfl rfl rfl
  | stop => exact .kept (.refl _) rfl (Or.inr rfl)
  | scan w => exact queued_scan s w
  | decrement w | decrementDropped w => exact .lowered w rfl rfl rfl rfl
  | callTickle | tickleFound | tickleNobody | tickleWrite | newFiber | workerFound | workerNobody
  | workerWrite | dispatchNone | dispatchFiber | dispatchDead | dispatchReset | dispatchNew
  | swapIn | yieldToReady | yieldToHold | finish | switch | settleKept | settleDead | settleHold
  | enterIdle | idleEnds | idleBlocks | wakeTickled | wakeOther | drain | leaveIdle =>
    exact .kept (.refl _) rfl (Or.inl rfl)

/-- Only `stop` stops. -/
theorem Queued.stopped_eq {s t : Scheduler n} {l : Label n} (h : Queued s t l) (hl : l ≠ .stop) :
    t.stopped = s.stopped := by
  cases h with
  | kept _ _ hstopped => exact hstopped.resolve_right hl
  | pushed _ _ _ hstopped => exact hstopped
  | picked _ hstopped => exact hstopped
  | lowered _ _ _ _ hstopped => exact hstopped

/-- Only `--m_activeThreadCount` ends being busy. -/
theorem Queued.busy {s t : Scheduler n} {l : Label n} (h : Queued s t l)
    (hactive : 0 ≤ s.activeThreadCount) (hl : ∀ w, l ≠ .decrement w) (hbusy : s.Busy) : t.Busy := by
  cases h with
  | kept hfibers hsame =>
    rcases hbusy with hbusy | hbusy
    · exact Or.inl (hsame ▸ hbusy)
    · refine Or.inr fun hnil => hbusy ?_
      rw [hnil] at hfibers
      exact hfibers.symm.eq_nil
  | pushed new hfibers hsame =>
    rcases hbusy with hbusy | hbusy
    · exact Or.inl (hsame ▸ hbusy)
    · refine Or.inr fun hnil => hbusy ?_
      rw [hfibers] at hnil
      exact (List.append_eq_nil_iff.mp hnil).1
  | picked hup =>
    left
    rw [hup]
    omega
  | lowered w label => exact absurd label (hl w)

end Scheduler

/-! ## Section 4: The samples -/

namespace Shutdown

/-- With `~0ull` to wait there is no timer. -/
theorem getNextTimer_eq_max {m : TimerManager Callback} (h : m.InRange) {now : Nat}
    (hnow : 0 < now) (hmax : (m.getNextTimer now).2 = 2 ^ 64 - 1) : m.timers = [] := by
  unfold TimerManager.getNextTimer at hmax
  split at hmax
  · assumption
  · rename_i next rest htimers
    have hlt := h next
    exfalso
    by_cases hdue : (m.heap next).next ≤ now
    · simp only [if_pos hdue] at hmax
      omega
    · simp only [if_neg hdue, sub64_of_le (Nat.le_of_not_le hdue) hlt] at hmax
      omega

/-- The events of a context are counted. -/
theorem registered_nonneg (c : FdContext) : 0 ≤ c.registered := by
  unfold FdContext.registered
  split <;> split <;> decide

/-- A context with an event is counted. -/
theorem registered_pos {c : FdContext} {e : Event} (htest : c.curEvents.test e.mask = true) :
    0 < c.registered := by
  unfold FdContext.registered
  cases e with
  | NONE =>
    rw [Events.test_NONE] at htest
    cases htest
  | READ =>
    rw [if_pos htest]
    split <;> decide
  | WRITE =>
    rw [if_pos htest]
    split <;> decide

/-- Where no event is pending no context waits for one. -/
theorem curEvents_eq_zero {m : IOManager} (h : IOManager.Core m) (hzero : m.pendingEventCount = 0)
    (p : FdContextPtr) : (m.heap p).curEvents = 0 := by
  refine (h.wf p).known.eq_zero_iff.mpr fun e => ?_
  rw [← Bool.not_eq_true]
  intro htest
  have hle : (m.heap p).registered ≤ ∑ q ∈ Finset.range m.created, (m.heap q).registered :=
    Finset.single_le_sum (f := fun q => (m.heap q).registered)
      (fun q _ => registered_nonneg (m.heap q)) (Finset.mem_range.mpr (h.lt_of_test htest))
  rw [← h.count, hzero] at hle
  exact absurd (registered_pos htest) (Int.not_lt.mpr hle)

/-- A report finds nothing to trigger then. -/
theorem handleReport_of_quiet {m m' : IOManager} (h : IOManager.Core m)
    (hzero : m.pendingEventCount = 0) {p : FdContextPtr} {events : Events} {ok : Bool}
    (hcall : m.handleReport p events ok = .ok m') : m' = m := by
  have hnone : (m.heap p).curEvents &&& IOManager.realEvents (m.heap p).curEvents events = 0 := by
    rw [curEvents_eq_zero h hzero p]
    exact BitVec.zero_and
  simp only [IOManager.handleReport, bind, Except.bind, pure, Except.pure] at hcall
  split at hcall
  · exact (Except.ok.inj hcall).symm
  · rename_i hne
    exact absurd hnone hne

/-! ## Section 5: Runs -/

structure Inv (s : Shutdown n Callback) : Prop where
  sched   : ∃ all, Scheduler.Accounted all s.sched
  core    : IOManager.Core s.io
  inRange : s.timers.manager.InRange
  /-- An outdated sample goes with something left to do. -/
  current : s.sched.stopped = true → s.sched.Busy ∨ ∀ w, ¬ s.Outdated w

/-- A running task is counted. -/
theorem Inv.busy_of_runs {s : Shutdown n Callback} (h : Inv s) {w : Fin n}
    (hw : (s.sched.worker w).pc.runs = true) : s.sched.Busy := by
  obtain ⟨all, hacc⟩ := h.sched
  refine Or.inl (hacc.active_pos (w := w) ?_)
  cases hpc : (s.sched.worker w).pc with
  | running f cb => rfl
  | _ =>
    rw [hpc] at hw
    cases hw

/-- Whoever adds something runs in a task. -/
theorem Inv.current_of_mayAdd {s : Shutdown n Callback} (h : Inv s) {w : Fin n}
    (hw : s.MayAdd w) (hstopped : s.sched.stopped = true) : s.sched.Busy := by
  rcases hw with hw | hw
  · exact h.busy_of_runs hw
  · rw [hstopped] at hw
    cases hw

/-- A step that outdates no sample and does not end being busy. -/
theorem Inv.keep {s t : Shutdown n Callback} (h : Inv s)
    (hsched : ∃ all, Scheduler.Accounted all t.sched) (hcore : IOManager.Core t.io)
    (hinRange : t.timers.manager.InRange) (hstopped : t.sched.stopped = s.sched.stopped)
    (hbusy : s.sched.Busy → t.sched.Busy) (hout : ∀ w, t.Outdated w → s.Outdated w) : Inv t := by
  refine ⟨hsched, hcore, hinRange, fun hstop => ?_⟩
  rw [hstopped] at hstop
  rcases h.current hstop with hcurrent | hcurrent
  · exact Or.inl (hbusy hcurrent)
  · exact Or.inr fun w hw => hcurrent w (hout w hw)

theorem outdated_setProbe_start {s : Shutdown n Callback} {v w : Fin n}
    (h : (s.setProbe v .start).Outdated w) : s.Outdated w := by
  by_cases hw : w = v
  · subst hw
    rcases h with ⟨h, _⟩ | ⟨h, _⟩ <;> simp [setProbe] at h
  · simpa [Outdated, setProbe, hw] using h

/-- `stopping` answers, and the worker forgets its samples. -/
theorem Inv.answer {s t : Shutdown n Callback} (h : Inv s) {w : Fin n} {quiet : Bool}
    (hanswer : s.answer w quiet = some t) : Inv t := by
  obtain ⟨sched, hnext, rfl⟩ := Option.map_eq_some_iff.mp hanswer
  obtain ⟨all, hacc⟩ := h.sched
  have hacc' := Scheduler.accounted_next hacc hnext
  have hout : ∀ v, ({ s with sched := sched }.setProbe w .start).Outdated v → s.Outdated v :=
    fun v hv => outdated_setProbe_start (s := { s with sched := sched }) hv
  have hqueued := Scheduler.queued_next hnext
  exact h.keep ⟨_, hacc'⟩ h.core h.inRange (hqueued.stopped_eq nofun)
    (hqueued.busy hacc.active_nonneg nofun) hout

/-- `stop` is called in time: nothing is outdated, or there is something left to do.
    -/
theorem Inv.stop {s : Shutdown n Callback} (h : Inv s) {sched : Scheduler n}
    (hl : s.inTime (.sched .stop) = true) (hnext : s.sched.next .stop = some sched) :
    Inv { s with sched := sched } := by
  obtain ⟨all, hacc⟩ := h.sched
  have hacc' := Scheduler.accounted_next hacc hnext
  obtain rfl := Option.some.inj hnext
  refine ⟨⟨_, hacc'⟩, h.core, h.inRange, fun _ => ?_⟩
  have hcond : s.sched.activeThreadCount = 0 → s.sched.fibers = [] → ∀ v, ¬ s.Outdated v :=
    of_decide_eq_true hl
  by_cases hfibers : s.sched.fibers = []
  · by_cases hactive : s.sched.activeThreadCount = 0
    · exact Or.inr (hcond hactive hfibers)
    · have hnonneg := hacc.active_nonneg
      have hpos : 0 < s.sched.activeThreadCount := by omega
      exact Or.inl (Or.inl hpos)
  · exact Or.inl (Or.inr hfibers)

/-- A task ends: others are counted, or it ends in time. -/
theorem Inv.decrement {s : Shutdown n Callback} (h : Inv s) {w : Fin n} {sched : Scheduler n}
    (hl : s.inTime (.sched (.decrement w)) = true)
    (hnext : s.sched.next (.decrement w) = some sched) : Inv { s with sched := sched } := by
  obtain ⟨all, hacc⟩ := h.sched
  have hacc' := Scheduler.accounted_next hacc hnext
  obtain ⟨hfibers, hactive, hstopped⟩ := Scheduler.decrement_next hnext
  refine ⟨⟨_, hacc'⟩, h.core, h.inRange, fun hstop => ?_⟩
  have hstop' : s.sched.stopped = true := hstopped ▸ hstop
  have hcond : s.sched.stopped = true → s.sched.activeThreadCount = 1 →
      s.sched.fibers = [] → ∀ v, ¬ s.Outdated v := of_decide_eq_true hl
  by_cases hempty : s.sched.fibers = []
  · by_cases hlast : s.sched.activeThreadCount = 1
    · exact Or.inr (hcond hstop' hlast hempty)
    · rcases h.current hstop' with (hpos | hfull) | hcurrent
      · -- somebody else is counted as well
        refine Or.inl (Or.inl ?_)
        show 0 < sched.activeThreadCount
        omega
      · exact absurd hempty hfull
      · exact Or.inr hcurrent
  · exact Or.inl (Or.inr fun hnil => hempty (hfibers ▸ hnil))

/-- A step of the scheduler. -/
theorem Inv.schedNext {s : Shutdown n Callback} (h : Inv s) {l : Scheduler.Label n}
    {sched : Scheduler n} (hl : s.inTime (.sched l) = true) (hnext : s.sched.next l = some sched) :
    Inv { s with sched := sched } := by
  obtain ⟨all, hacc⟩ := h.sched
  have hqueued := Scheduler.queued_next hnext
  by_cases hstop : l = .stop
  · subst hstop
    exact h.stop hl hnext
  · by_cases hdec : ∃ w, l = .decrement w
    · obtain ⟨w, rfl⟩ := hdec
      exact h.decrement hl hnext
    · exact h.keep ⟨_, Scheduler.accounted_next hacc hnext⟩ h.core h.inRange
        (hqueued.stopped_eq hstop)
        (hqueued.busy hacc.active_nonneg fun w hw => hdec ⟨w, hw⟩) fun w hw => hw

/-- `idle` takes timers out, but where there is none it adds none. -/
theorem timers_of_awake {s s' : Timers Callback} {l : TimersLabel Callback}
    (hl : (∃ now, l = .readClock now ∨ l = .listNothing now) ∨ ∃ now probe, l = .listExpiredCb now probe)
    (hnext : s.next l = some s') (hnil : s.manager.timers = []) : s'.manager.timers = [] := by
  rcases hl with ⟨now, rfl | rfl⟩ | ⟨now, probe, rfl⟩
  · obtain ⟨_, heq⟩ := Option.ite_none_right_eq_some.mp hnext
    obtain rfl := Option.some.inj heq
    exact hnil
  · obtain ⟨_, heq⟩ := Option.ite_none_right_eq_some.mp hnext
    obtain rfl := Option.some.inj heq
    exact hnil
  · obtain ⟨_, heq⟩ := Option.ite_none_right_eq_some.mp hnext
    obtain rfl := Option.some.inj heq
    show (s.manager.listExpiredCb now probe).1.timers = []
    unfold TimerManager.listExpiredCb
    rw [hnil]
    exact hnil

/-- Timers come from tasks, and `idle` only takes some out. -/
theorem Inv.timer {s : Shutdown n Callback} (h : Inv s) {w : Fin n} {l : TimersLabel Callback}
    {timers : Timers Callback} (huse : s.MayUse w l = true) (hnext : s.timers.next l = some timers) :
    Inv { s with timers := timers } := by
  have hinRange : timers.manager.InRange := Timers.inRange_next h.inRange hnext
  -- either a task runs, or `idle` is at work
  have hcases : s.MayAdd w ∨ (∃ now, l = .readClock now ∨ l = .listNothing now) ∨
      ∃ now probe, l = .listExpiredCb now probe := by
    cases l with
    | readClock now => exact Or.inr (Or.inl ⟨now, Or.inl rfl⟩)
    | listNothing now => exact Or.inr (Or.inl ⟨now, Or.inr rfl⟩)
    | listExpiredCb now probe => exact Or.inr (Or.inr ⟨now, probe, rfl⟩)
    | getNextTimer now => cases huse
    | _ => exact Or.inl (of_decide_eq_true huse)
  rcases hcases with hadd | hawake
  · exact ⟨h.sched, h.core, hinRange, fun hstop => Or.inl (h.current_of_mayAdd hadd hstop)⟩
  · refine h.keep h.sched h.core hinRange rfl (fun hbusy => hbusy) fun v hv => ?_
    rcases hv with ⟨hprobe, htimers⟩ | hevents
    · exact Or.inl ⟨hprobe, fun hnil => htimers (timers_of_awake hawake hnext hnil)⟩
    · exact Or.inr hevents

/-- The first sample of `stopping`: with `~0ull` to wait there is no timer. -/
theorem Inv.readTimers {s : Shutdown n Callback} (h : Inv s) {w : Fin n} {now : Nat}
    {timers : Timers Callback} (hnow : 0 < now)
    (hnext : s.timers.next (.getNextTimer now) = some timers) :
    Inv { s with timers := timers } ∧
    ((s.timers.manager.getNextTimer now).2 = 2 ^ 64 - 1 →
      Inv ({ s with timers := timers }.setProbe w .timersRead)) := by
  have hinRange : timers.manager.InRange := Timers.inRange_next h.inRange hnext
  -- getNextTimer clears the flag and leaves the set alone
  have htimers : timers.manager.timers = s.timers.manager.timers := by
    obtain ⟨_, heq⟩ := Option.ite_none_right_eq_some.mp hnext
    obtain rfl := Option.some.inj heq
    show (s.timers.manager.getNextTimer now).1.timers = _
    unfold TimerManager.getNextTimer
    split <;> rfl
  have hinv : Inv { s with timers := timers } := by
    refine h.keep h.sched h.core hinRange rfl (fun hbusy => hbusy) fun v hv => ?_
    exact hv.imp_left fun hleft => ⟨hleft.1, htimers ▸ hleft.2⟩
  refine ⟨hinv, fun hmax => hinv.keep h.sched h.core hinRange rfl (fun hbusy => hbusy) ?_⟩
  have hnil : timers.manager.timers = [] :=
    htimers.trans (getNextTimer_eq_max h.inRange hnow hmax)
  intro v hv
  rcases hv with ⟨_, hsome⟩ | ⟨hprobe, hevents⟩
  · exact absurd hnil hsome
  · by_cases hvw : v = w
    · subst hvw
      simp [setProbe] at hprobe
    · exact Or.inr ⟨by simpa [setProbe, hvw] using hprobe, hevents⟩

/-- The second sample: no event is pending. -/
theorem Inv.readEvents {s : Shutdown n Callback} (h : Inv s) {w : Fin n}
    (hprobe : s.probe w = .timersRead) (hzero : s.io.pendingEventCount = 0) :
    Inv (s.setProbe w .eventsRead) := by
  refine h.keep h.sched h.core h.inRange rfl (fun hbusy => hbusy) fun v hv => ?_
  rcases hv with ⟨hv, htimers⟩ | ⟨_, hevents⟩
  · left
    by_cases hvw : v = w
    · subst hvw
      exact ⟨by rw [hprobe]; nofun, htimers⟩
    · exact ⟨by simpa [setProbe, hvw] using hv, htimers⟩
  · exact absurd hzero hevents

/-- A report adds no event. -/
theorem Inv.report {s : Shutdown n Callback} (h : Inv s) {p : FdContextPtr} {events : Events}
    {ok : Bool} {io : IOManager} (hcall : s.io.handleReport p events ok = .ok io) :
    Inv { s with io := io } := by
  refine h.keep h.sched (h.core.handleReport hcall) h.inRange rfl (fun hbusy => hbusy)
    fun v hv => ?_
  rcases hv with hv | ⟨hprobe, hevents⟩
  · exact Or.inl hv
  · refine Or.inr ⟨hprobe, fun hzero => hevents ?_⟩
    have hsame := handleReport_of_quiet h.core hzero hcall
    show io.pendingEventCount = 0
    rw [hsame, hzero]

/-- Every step in time keeps the invariant. -/
theorem inv_next {s t : Shutdown n Callback} {l : ShutdownLabel n Callback} (h : Inv s)
    (hl : s.inTime l = true) (hnext : (shutdown n Callback).next s l = some t) : Inv t := by
  -- timers and events are added by workers that count as active, which keeps the answer from being
  -- read
  cases l with
  | sched l =>
    by_cases hidle : ∃ w b, l = .idleCheck w b
    · obtain ⟨w, b, rfl⟩ := hidle
      cases hnext
    · have hmap : (s.sched.next l).map (fun sched => { s with sched := sched }) = some t := by
        cases l with
        | idleCheck w b => exact absurd ⟨w, b, rfl⟩ hidle
        | _ => exact hnext
      obtain ⟨sched, hsched, rfl⟩ := Option.map_eq_some_iff.mp hmap
      exact h.schedNext hl hsched
  | timer w l =>
    obtain ⟨huse, heq⟩ := Option.ite_none_right_eq_some.mp hnext
    obtain ⟨timers, htimers, rfl⟩ := Option.map_eq_some_iff.mp heq
    exact h.timer huse htimers
  | event w p call caller ok =>
    obtain ⟨⟨hadd, hp, hcaller⟩, heq⟩ := Option.ite_none_right_eq_some.mp hnext
    split at heq
    · rename_i io hcall
      obtain rfl := Option.some.inj heq
      exact ⟨h.sched, h.core.locked hp hcaller hcall, h.inRange,
        fun hstop => Or.inl (h.current_of_mayAdd hadd hstop)⟩
    · cases heq
  | resize w size =>
    obtain ⟨hadd, heq⟩ := Option.ite_none_right_eq_some.mp hnext
    obtain rfl := Option.some.inj heq
    exact ⟨h.sched, h.core.contextResize size, h.inRange,
      fun hstop => Or.inl (h.current_of_mayAdd hadd hstop)⟩
  | report w p events ok =>
    obtain ⟨_, heq⟩ := Option.ite_none_right_eq_some.mp hnext
    split at heq
    · rename_i io hcall
      obtain rfl := Option.some.inj heq
      exact h.report hcall
    · cases heq
  | readTimers w now =>
    obtain ⟨_, heq⟩ := Option.ite_none_right_eq_some.mp hnext
    obtain ⟨timers, htimers, hrest⟩ := Option.bind_eq_some_iff.mp heq
    obtain ⟨hinv, hread⟩ := h.readTimers (w := w) (of_decide_eq_true hl) htimers
    split at hrest
    · rename_i hmax
      obtain rfl := Option.some.inj hrest
      exact hread hmax
    · exact hinv.answer hrest
  | readEvents w =>
    obtain ⟨hprobe, heq⟩ := Option.ite_none_right_eq_some.mp hnext
    split at heq
    · rename_i hzero
      obtain rfl := Option.some.inj heq
      exact h.readEvents hprobe hzero
    · exact h.answer heq
  | readQueue w =>
    obtain ⟨_, heq⟩ := Option.ite_none_right_eq_some.mp hnext
    exact h.answer heq

/-- Nothing is pending at the start. -/
theorem inv_init {s : Shutdown n Callback} (h : (shutdown n Callback).init s) : Inv s := by
  obtain ⟨now, _, rfl⟩ := h
  refine ⟨⟨[], Scheduler.accounted_start n⟩, IOManager.core_empty.contextResize 32,
    fun _ => Nat.two_pow_pos 64, fun hstop => ?_⟩
  cases hstop

/-- With the count at 0 no worker is in a task, and a fiber in hand is on its
    way back. -/
theorem Inv.quiet {s : Shutdown n Callback} (h : Inv s) {w : Fin n}
    (hl : s.inTime (.readQueue w) = true) (hprobe : s.probe w = .eventsRead)
    (hanswers : s.Answers) : s.Quiet w := by
  obtain ⟨hstop, hfibers, hactive⟩ := hanswers
  obtain ⟨all, hacc⟩ := h.sched
  have hcurrent : ∀ v, ¬ s.Outdated v := by
    rcases h.current hstop with (hpos | hfull) | hcurrent
    · rw [hactive] at hpos
      cases hpos
    · exact absurd hfibers hfull
    · exact hcurrent
  -- the three tests of stopping() leave nobody who could still schedule
  have hfree : ∀ v, Scheduler.activePc (s.sched.worker v).pc = false := by
    intro v
    rw [← Bool.not_eq_true]
    intro hv
    have hpos := hacc.active_pos hv
    omega
  have hready : ∀ v, s.sched.requeues v = false := of_decide_eq_true hl
  refine ⟨?_, ?_, hfibers, fun v _ => ?_⟩
  · by_contra hne
    exact hcurrent w (Or.inl ⟨by rw [hprobe]; nofun, hne⟩)
  · by_contra hne
    exact hcurrent w (Or.inr ⟨hprobe, hne⟩)
  · have hv := hfree v
    have hr := hready v
    unfold Scheduler.requeues at hr
    -- a worker that settles its fiber is not active, but puts it back only when READY
    cases hpc : (s.sched.worker v).pc with
    | settle f cb =>
      rw [hpc] at hr
      refine ⟨rfl, fun g hg => ?_⟩
      obtain rfl := Option.some.inj hg
      exact of_decide_eq_false hr
    | swapIn f cb e => rw [hpc] at hv; cases hv
    | running f cb => rw [hpc] at hv; cases hv
    | leaving f cb => rw [hpc] at hv; cases hv
    | returned f cb => rw [hpc] at hv; cases hv
    | _ => exact ⟨rfl, fun g hg => by cases hg⟩

end Shutdown

/-- In a run in which every sample is still good when it counts, `stopping`
    answers true only to a worker that could stop. -/
theorem stopping_quiet {s₀ s : Shutdown n Callback}
    {tr : List (Shutdown n Callback × ShutdownLabel n Callback)}
    (hinit : (shutdown n Callback).init s₀) (hrun : Run (shutdown n Callback) s₀ tr s)
    (htr : ∀ p ∈ tr, p.1.inTime p.2 = true) :
    ∀ p ∈ tr, ∀ w, p.2 = .readQueue w → p.1.Answers → p.1.Quiet w := by
  rintro ⟨u, l⟩ hp w rfl hanswers
  obtain ⟨hinv, t, hnext⟩ := hrun.steps_invariant (I := Shutdown.Inv)
    (fun _ _ _ h hl hnext => Shutdown.inv_next h hl hnext) htr (Shutdown.inv_init hinit) _ hp
  obtain ⟨hprobe, _⟩ := Option.ite_none_right_eq_some.mp hnext
  exact hinv.quiet (htr _ hp) hprobe hanswers

/-- One task adds a timer and an event and takes both back; the worker that
    ran it may stop. -/
theorem stopping_quiet_after_task :
    ∃ tr s, Run (shutdown 1 Unit) (Shutdown.start 1 Unit 100) tr s ∧
      (∀ p ∈ tr, ∀ w, p.2 = .readQueue w → p.1.Answers → p.1.Quiet w) ∧
      (s.sched.worker 0).idle_term = true := by
  let labels : List (ShutdownLabel 1 Unit) :=
    [.sched .newFiber, .sched (.schedule (some (.fiber 0)) none), .sched .stop,
     .sched (.scan 0), .sched (.dispatch 0), .sched (.swapIn 0),
     .timer 0 (.construct 50 (some ()) false 1 100), .timer 0 (.insert 0), .timer 0 .notify,
     .event 0 5 (.addEvent 5 .READ (some 7)) ⟨some 0, 0⟩ true,
     .event 0 5 (.delEvent 5 .READ) ⟨some 0, 0⟩ true, .timer 0 (.cancel 0),
     .sched (.finish 0 false), .sched (.switch 0), .sched (.decrement 0), .sched (.settle 0),
     .sched (.scan 0), .sched (.dispatch 0), .sched (.enterIdle 0),
     .readTimers 0 120, .readEvents 0, .readQueue 0]
  have hrun := (shutdown 1 Unit).run_of_exec (s := Shutdown.start 1 Unit 100) labels
    (by decide)
  exact ⟨_, _, hrun, stopping_quiet ⟨100, by decide, rfl⟩ hrun (by decide),
    by decide⟩

/-- Worker 0 runs a fiber that yields.  It has lowered the count and not yet
    scheduled the fiber when worker 1 looks. -/
theorem stopping_too_early :
    ∃ tr s t, Run (shutdown 2 Unit) (Shutdown.start 2 Unit 100) tr s ∧
      (shutdown 2 Unit).next s (.readQueue 1) = some t ∧ s.Answers ∧ ¬ s.Quiet 1 := by
  let labels : List (ShutdownLabel 2 Unit) :=
    [.sched .newFiber, .sched (.schedule (some (.fiber 0)) none), .sched .stop,
     .sched (.scan 0), .sched (.dispatch 0), .sched (.swapIn 0), .sched (.scan 1),
     .sched (.dispatch 1), .sched (.enterIdle 1), .readTimers 1 100, .readEvents 1,
     .sched (.yieldToReady 0), .sched (.switch 0), .sched (.decrement 0)]
  have hrun := (shutdown 2 Unit).run_of_exec (s := Shutdown.start 2 Unit 100) labels
    (by decide)
  exact ⟨_, _, _, hrun, Option.some_get (by decide) |>.symm, by decide,
    by decide⟩

end MNSER
