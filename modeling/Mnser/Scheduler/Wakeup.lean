import Mnser.Scheduler.Exclusive

/-! # Wake-ups

    A worker that found nothing to run goes on to `epoll_wait`, which it
    leaves for a byte in the pipe.  From its scan on it counts as waiting.
    A wake-up is in flight while somebody is in `tickle`, while the pipe has
    a byte, and while a worker is between its wake-up and its scan.

    Three steps can leave a waiting worker with an entry to run and nothing in
    flight: a `tickle` that finds nobody idle, because the worker has not yet
    raised `m_idleThreadCount`; a `schedule` into a queue that is not empty,
    which does not call `tickle`; and a fiber with a queued entry that stops
    running, which nobody is told. -/

namespace MNSER

open LTS Sched

namespace Scheduler

variable {n : Nat}

/-! ## Section 1: Waiting and waking -/

/-- Found nothing to run, up to and in `epoll_wait`. -/
def waitingPc : Pc → Bool
  | .tickle (.dispatch none) => true
  | .write (.dispatch none)  => true
  | .dispatch none           => true
  | .goIdle                  => true
  | .idleCheck               => true
  | .blocked                 => true
  | _                        => false

/-- In `tickle`, or between wake-up and the scan. -/
def wakingPc : Pc → Bool
  | .tickle _ => true
  | .write _  => true
  | .woken _  => true
  | .idleOut  => true
  | .scan     => true
  | _         => false

def Waiting (s : Scheduler n) (w : Fin n) : Prop := waitingPc (s.worker w).pc = true

def InFlight (s : Scheduler n) : Prop :=
  0 < s.tickles ∨ 0 < s.writes ∨ 0 < s.bytes ∨ ∃ w, wakingPc (s.worker w).pc = true

/-- The queue holds the entry and the worker may run it. -/
def Runnable (s : Scheduler n) (w : Fin n) (e : Entry) : Prop :=
  e ∈ s.fibers ∧ MayRun w e ∧ isExec s.state e = false

/-- Some waiting worker has an entry to run. -/
def Needed (s : Scheduler n) : Prop := ∃ w e, s.Waiting w ∧ s.Runnable w e

/-- The new entries leave no waiting worker with something to run, unless a
    wake-up is in flight anyway. -/
def QuietPush (s : Scheduler n) (new : List Entry) : Prop :=
  s.fibers ≠ [] → ∀ w e, s.Waiting w → e ∈ new → MayRun w e → isExec s.state e = false →
    s.InFlight

/-- The same for the entries of the fiber that worker `w` stops running. -/
def QuietStop (s : Scheduler n) (w : Fin n) : Prop :=
  ∀ f cb, (s.worker w).pc = .running f cb →
    ∀ v e, s.Waiting v → e ∈ s.fibers → MayRun v e → e.task = .fiber f → s.InFlight

/-- The condition on a step. -/
def KeepsAwake (s : Scheduler n) : Label n → Prop
  | .schedule task thread => s.QuietPush (numbered thread s.issued [task])
  | .scheduleAll tasks    => s.QuietPush (numbered none s.issued tasks)
  | .tickleCheck =>
      s.idleThreadCount ≤ 0 → s.Needed → InFlight { s with tickles := s.tickles - 1 }
  | .workerTickle w =>
      ∀ k, (s.worker w).pc = .tickle k → s.idleThreadCount ≤ 0 → s.Needed →
        InFlight (s.setPc w (After.pc k))
  | .yieldToReady w => s.QuietStop w
  | .finish w _     => s.QuietStop w
  | _               => True

/-! ## Section 2: The invariant -/

/-- While a waiting worker has an entry to run, a wake-up is in flight. -/
def Served (s : Scheduler n) : Prop := s.Needed → s.InFlight

theorem waiting_of_worker {s t : Scheduler n} (hworker : t.worker = s.worker) {w : Fin n}
    (h : t.Waiting w) : s.Waiting w := by
  unfold Waiting at h
  rw [hworker] at h
  exact h

/-- A worker on its way to the scan. -/
theorem inFlight_of_worker {s t : Scheduler n} {w : Fin n} {x : Worker}
    (hworker : t.worker = (s.setWorker w x).worker) (hpc : wakingPc x.pc = true) :
    t.InFlight := by
  refine Or.inr (Or.inr (Or.inr ⟨w, ?_⟩))
  rw [hworker, setWorker_self]
  exact hpc

/-- Nobody moves and no entry becomes one to run. -/
theorem Served.same {s t : Scheduler n} (h : Served s) (hworker : t.worker = s.worker)
    (hqueue : t.fibers = s.fibers)
    (hexec : ∀ e ∈ s.fibers, isExec t.state e = false → isExec s.state e = false)
    (hflight : s.Needed → s.InFlight → t.InFlight) : Served t := by
  rintro ⟨w, e, hwaiting, he, hmay, hidle⟩
  rw [hqueue] at he
  have hneeded : s.Needed :=
    ⟨w, e, waiting_of_worker hworker hwaiting, he, hmay, hexec e he hidle⟩
  exact hflight hneeded (h hneeded)

/-- One worker moves; it does not start to wait. -/
theorem Needed.before {s t : Scheduler n} (h : t.Needed) {w : Fin n} {x : Worker}
    (hworker : t.worker = (s.setWorker w x).worker) (hqueue : t.fibers = s.fibers)
    (hexec : ∀ e ∈ s.fibers, isExec t.state e = false → isExec s.state e = false)
    (hwaiting : waitingPc x.pc = true → waitingPc (s.worker w).pc = true) : s.Needed := by
  obtain ⟨v, e, hv, he, hmay, hidle⟩ := h
  rw [hqueue] at he
  refine ⟨v, e, ?_, he, hmay, hexec e he hidle⟩
  unfold Waiting at hv ⊢
  rw [hworker] at hv
  by_cases hvw : v = w
  · subst hvw
    rw [setWorker_self] at hv
    exact hwaiting hv
  · rw [setWorker_ne _ _ hvw] at hv
    exact hv

/-- One worker moves; it was not on its way to the scan, or still is. -/
theorem Served.move {s t : Scheduler n} (h : Served s) {w : Fin n} {x : Worker}
    (hworker : t.worker = (s.setWorker w x).worker) (hqueue : t.fibers = s.fibers)
    (hexec : ∀ e ∈ s.fibers, isExec t.state e = false → isExec s.state e = false)
    (hsignals : t.tickles = s.tickles ∧ t.writes = s.writes ∧ t.bytes = s.bytes)
    (hwaiting : waitingPc x.pc = true → waitingPc (s.worker w).pc = true)
    (hwaking : wakingPc (s.worker w).pc = true → wakingPc x.pc = true) : Served t := by
  intro hneeded
  have hbefore := hneeded.before hworker hqueue hexec hwaiting
  obtain ⟨htickles, hwrites, hbytes⟩ := hsignals
  unfold InFlight
  rw [htickles, hwrites, hbytes]
  rcases h hbefore with hpending | hpending | hpending | ⟨u, hu⟩
  · exact Or.inl hpending
  · exact Or.inr (Or.inl hpending)
  · exact Or.inr (Or.inr (Or.inl hpending))
  · refine Or.inr (Or.inr (Or.inr ⟨u, ?_⟩))
    rw [hworker]
    by_cases huw : u = w
    · subst huw
      rw [setWorker_self]
      exact hwaking hu
    · rw [setWorker_ne _ _ huw]
      exact hu

/-! ## Section 3: Steps -/

/-- An entry that is passed in comes with a call of `tickle`, or the queue was not
    empty. -/
theorem served_pushed {s : Scheduler n} (h : Served s) (thread : Option ThreadId)
    (tasks : List (Option Sched.Task)) {need : Bool} (hneed : need = false → s.fibers ≠ [] ∨ tasks = [])
    (hquiet : s.QuietPush (numbered thread s.issued tasks)) :
    Served { s.pushed thread tasks with tickles := s.tickles + need.toNat } := by
  cases need with
  | true => exact fun _ => Or.inl (Nat.succ_pos _)
  | false =>
    rintro ⟨w, e, hwaiting, he, hmay, hidle⟩
    show s.InFlight
    rcases List.mem_append.mp he with he | he
    · exact h ⟨w, e, hwaiting, he, hmay, hidle⟩
    · rcases hneed rfl with hqueue | hnone
      · exact hquiet hqueue w e hwaiting he hmay hidle
      · rw [hnone] at he
        cases he

/-- After a scan that calls no `tickle` only running fibers are queued. -/
theorem served_scan {s : Scheduler n} {w : Fin n} (active : Int) :
    Served ({ s with fibers := (scanQueue s.state w s.fibers).2.1,
                     activeThreadCount := active }.setPc w
      (tickleIf (scanQueue s.state w s.fibers).2.2
        (.dispatch (scanQueue s.state w s.fibers).1))) := by
  have hspec := scanQueue_spec s.state w s.fibers
  cases htickle : (scanQueue s.state w s.fibers).2.2 with
  | true => exact fun _ => inFlight_of_worker (w := w) rfl rfl
  | false =>
    rintro ⟨v, e, _, he, _, hidle⟩
    have hexec := hspec.quiet htickle e he
    rw [show isExec s.state e = false from hidle] at hexec
    cases hexec

/-- An entry that is passed over for the state of its fiber was so before. -/
theorem isExec_setState {s : Scheduler n} {f : Sched.FiberId} {x : State} {e : Entry}
    (h : e.task = .fiber f → isExec s.state e = false)
    (hexec : isExec (s.setState f x).state e = false) : isExec s.state e = false := by
  cases htask : e.task with
  | func g => simp [isExec, htask]
  | fiber g =>
    by_cases hgf : g = f
    · exact h (hgf ▸ htask)
    · simpa [isExec, htask, setState, hgf] using hexec

theorem isExec_setExec {s : Scheduler n} {f : Sched.FiberId} {e : Entry}
    (hexec : isExec (s.setState f .EXEC).state e = false) : isExec s.state e = false := by
  refine isExec_setState (fun htask => ?_) hexec
  simp [isExec, htask, setState] at hexec

/-- A fiber that does not run is given another state. -/
theorem isExec_setIdle {s : Scheduler n} {f : Sched.FiberId} {x : State} {e : Entry}
    (hf : s.state f ≠ .EXEC) (hexec : isExec (s.setState f x).state e = false) :
    isExec s.state e = false := by
  refine isExec_setState (fun htask => ?_) hexec
  simp [isExec, htask, hf]

/-- The fiber `w` runs stops running. -/
theorem served_stop {s : Scheduler n} (h : Served s) {w : Fin n} {f : Sched.FiberId}
    {cb : Bool} (hpc : (s.worker w).pc = .running f cb) (x : State)
    (hquiet : s.QuietStop w) : Served ((s.setState f x).setPc w (.leaving f cb)) := by
  rintro ⟨v, e, hv, he, hmay, hidle⟩
  -- the worker that finds the fiber stopped was waiting before, so something was under way
  have hflight : s.InFlight := by
    have hvw : v ≠ w := by
      rintro rfl
      unfold Waiting setPc at hv
      rw [setWorker_self] at hv
      cases hv
    have hwaiting : s.Waiting v := by
      unfold Waiting setPc at hv
      rw [setWorker_ne _ _ hvw] at hv
      exact hv
    by_cases htask : e.task = .fiber f
    · exact hquiet f cb hpc v e hwaiting he hmay htask
    · exact h ⟨v, e, hwaiting, he, hmay, isExec_setState (fun hf => absurd hf htask) hidle⟩
  rcases hflight with hpending | hpending | hpending | ⟨u, hu⟩
  · exact Or.inl hpending
  · exact Or.inr (Or.inl hpending)
  · exact Or.inr (Or.inr (Or.inl hpending))
  · have huw : u ≠ w := by
      rintro rfl
      rw [hpc] at hu
      cases hu
    refine Or.inr (Or.inr (Or.inr ⟨u, ?_⟩))
    unfold setPc
    rw [setWorker_ne _ _ huw]
    exact hu

/-- A waiting worker with an entry to run is woken: by a push into an empty queue, by
    the `tickle` of the scan, or by whoever stops running the entry's fiber.  The
    condition is on the steps where the source leaves that to chance. -/
theorem served_next {s t : Scheduler n} {l : Label n} (hcreated : Created s) (h : Served s)
    (hawake : s.KeepsAwake l) (hnext : next s l = some t) : Served t := by
  -- a worker that was not on its way to the scan goes on, and does not start to wait
  have hmoves : ∀ {t : Scheduler n} {w : Fin n} {x : Worker} {p : Pc}, (s.worker w).pc = p →
      wakingPc p = false → t.worker = (s.setWorker w x).worker → t.fibers = s.fibers →
      (∀ e ∈ s.fibers, isExec t.state e = false → isExec s.state e = false) →
      (t.tickles = s.tickles ∧ t.writes = s.writes ∧ t.bytes = s.bytes) →
      (waitingPc x.pc = true → waitingPc p = true) → Served t := by
    intro t w x p hpc hnot hworker hqueue hexec hsignals hwaiting
    refine h.move hworker hqueue hexec hsignals (fun hw => by rw [hpc]; exact hwaiting hw)
      fun hw => ?_
    rw [hpc, hnot] at hw
    cases hw
  cases next_cases hnext with
  | schedule task thread =>
    refine served_pushed h thread [task] (fun hneed => Or.inl ?_) hawake
    simpa using hneed
  | scheduleAll tasks =>
    refine served_pushed h none tasks (fun hneed => ?_) hawake
    rcases Bool.and_eq_false_iff.mp hneed with hqueue | hnone
    · exact Or.inl (by simpa using hqueue)
    · exact Or.inr (by simpa using hnone)
  | callTickle => exact fun _ => Or.inl (Nat.succ_pos _)
  | tickleFound => exact fun _ => Or.inr (Or.inl (Nat.succ_pos _))
  | tickleNobody hpending hbusy =>
    exact h.same rfl rfl (fun _ _ he => he) (fun hneeded _ => hawake hbusy hneeded)
  | tickleWrite => exact fun _ => Or.inr (Or.inr (Or.inl (Nat.succ_pos _)))
  | newFiber =>
    -- nobody has queued the new fiber yet
    refine h.same rfl rfl (fun e he hidle => isExec_setState (fun htask => ?_) hidle)
      (fun _ hflight => hflight)
    exact absurd (hcreated.queued e he _ htask) (Nat.lt_irrefl _)
  | stop =>
    refine h.same rfl rfl (fun _ _ he => he) (fun _ hflight => ?_)
    rcases hflight with hpending | hpending
    · exact Or.inl (Nat.lt_of_lt_of_le hpending (Nat.le_add_right _ _))
    · exact Or.inr hpending
  | scan w => exact served_scan _
  | workerFound w => exact fun _ => inFlight_of_worker (w := w) rfl rfl
  | workerNobody w k hpc hbusy =>
    intro hneeded
    apply hawake k hpc hbusy
    refine hneeded.before (w := w) rfl rfl (fun _ _ he => he) (fun hwaiting => ?_)
    rw [hpc]
    cases k with
    | scan => cases hwaiting
    | dispatch ft => cases ft with
      | none => rfl
      | some e => cases hwaiting
  | workerWrite => exact fun _ => Or.inr (Or.inr (Or.inl (Nat.succ_pos _)))
  | dispatchNone w hpc =>
    exact hmoves hpc rfl rfl rfl (fun _ _ he => he) ⟨rfl, rfl, rfl⟩ (fun _ => rfl)
  | dispatchFiber w e f hpc | dispatchDead w e f hpc =>
    exact hmoves hpc rfl rfl rfl (fun _ _ he => he) ⟨rfl, rfl, rfl⟩ (fun hw => by cases hw)
  | dispatchReset w e g f hpc htask hcb hreset =>
    refine hmoves hpc rfl rfl rfl (fun e _ he => isExec_setIdle (f := f) ?_ he) ⟨rfl, rfl, rfl⟩
      (fun hw => by cases hw)
    -- `reset` is only called on a fiber that does not run
    intro hexec
    rw [hexec] at hreset
    rcases hreset with hreset | hreset | hreset <;> cases hreset
  | dispatchNew w e g hpc =>
    refine hmoves hpc rfl rfl rfl (fun e he hidle => ?_) ⟨rfl, rfl, rfl⟩ (fun hw => by cases hw)
    -- nor has anybody queued the fiber of the callback
    refine isExec_setState (fun htask => ?_) hidle
    exact absurd (hcreated.queued e he _ htask) (Nat.lt_irrefl _)
  | swapIn w f cb e hpc =>
    exact hmoves hpc rfl rfl rfl (fun _ _ he => isExec_setExec he) ⟨rfl, rfl, rfl⟩
      (fun hw => by cases hw)
  | yieldToReady w f cb hpc => exact served_stop h hpc .READY hawake
  | finish w threw f cb hpc => exact served_stop h hpc _ hawake
  | yieldToHold w f cb hpc | switch w f cb hpc | decrement w f cb hpc =>
    exact hmoves hpc rfl rfl rfl (fun _ _ he => he) ⟨rfl, rfl, rfl⟩ (fun hw => by cases hw)
  | settleReady w =>
    -- after `settle` the worker goes on to its scan
    refine fun _ => inFlight_of_worker (w := w) rfl ?_
    cases s.fibers.isEmpty <;> rfl
  | decrementDropped w | settleKept w | settleDead w | settleHold w | idleEnds w | wakeTickled w
  | wakeOther w | drain w | leaveIdle w =>
    exact fun _ => inFlight_of_worker (w := w) rfl rfl
  | enterIdle w hpc | idleBlocks w b hpc =>
    exact hmoves hpc rfl rfl rfl (fun _ _ he => he) ⟨rfl, rfl, rfl⟩ (fun _ => rfl)

end Scheduler

/-- A worker is blocked in `epoll_wait` with an entry to run in the queue, and
    nothing will wake it. -/
def Scheduler.LostWakeup {n : Nat} (s : Scheduler n) : Prop :=
  ∃ w e, (s.worker w).pc = .blocked ∧ s.Runnable w e ∧ ¬ s.InFlight

/-- In every run whose steps meet the condition no wake-up is lost. -/
theorem no_wakeup_lost {n : Nat} {s : Scheduler n}
    {tr : List (Scheduler n × Scheduler.Label n)}
    (hrun : Run (schedulers n) (Scheduler.start n) tr s)
    (hawake : ∀ step ∈ tr, step.1.KeepsAwake step.2) : ¬ s.LostWakeup := by
  have hserved : s.Created ∧ s.Served := by
    refine hrun.guarded_invariant (G := Scheduler.KeepsAwake)
      (I := fun s => s.Created ∧ s.Served) ?_ hawake ⟨Scheduler.created_start n, ?_⟩
    · intro s l t h hk hnext
      exact ⟨Scheduler.created_next h.1 hnext, Scheduler.served_next h.1 h.2 hk hnext⟩
    · rintro ⟨w, e, _, he, _⟩
      cases he
  rintro ⟨w, e, hblocked, hrunnable, hnone⟩
  refine hnone (hserved.2 ⟨w, e, ?_, hrunnable⟩)
  unfold Scheduler.Waiting
  rw [hblocked]
  rfl

/-- The worker is blocked before the function is scheduled, and is woken. -/
theorem no_wakeup_lost_idle :
    ∃ s tr, Run (schedulers 1) (Scheduler.start 1) tr s ∧ (s.worker 0).pc = .blocked ∧
      s.Runnable 0 ⟨0, .func 0, none⟩ ∧ ¬ s.LostWakeup := by
  have hrun := (schedulers 1).run_of_exec (s := Scheduler.start 1)
    [.scan 0, .dispatch 0, .enterIdle 0, .idleCheck 0 false, .schedule (some (.func 0)) none,
     .tickleCheck, .tickleWrite]
    (by decide)
  refine ⟨_, _, hrun, by decide, ⟨by decide, Or.inl rfl, by decide⟩, no_wakeup_lost hrun ?_⟩
  refine List.forall_mem_cons.mpr ⟨trivial, List.forall_mem_cons.mpr ⟨trivial,
    List.forall_mem_cons.mpr ⟨trivial, List.forall_mem_cons.mpr ⟨trivial,
    List.forall_mem_cons.mpr ⟨?_, List.forall_mem_cons.mpr ⟨?_,
    List.forall_mem_cons.mpr ⟨trivial, fun _ h => nomatch h⟩⟩⟩⟩⟩⟩⟩
  · -- the queue is empty
    exact fun hqueue => absurd rfl hqueue
  · -- the worker is idle
    exact fun hidle => absurd hidle (by decide)

/-- A worker has scanned the empty queue and has not yet raised
    `m_idleThreadCount` when a function is scheduled: `tickle` finds nobody
    idle, and the worker goes on to block. -/
theorem wakeup_lost_before_idle :
    ∃ s, Reachable (schedulers 1) s ∧ s.LostWakeup := by
  have hrun := (schedulers 1).run_of_exec (s := Scheduler.start 1)
    [.scan 0, .dispatch 0, .schedule (some (.func 0)) none, .tickleCheck, .enterIdle 0,
     .idleCheck 0 false]
    (by decide)
  refine ⟨_, ⟨_, _, rfl, hrun⟩, 0, ⟨0, .func 0, none⟩, by decide, ⟨by decide, ?_, by decide⟩, ?_⟩
  · exact Or.inl rfl
  · rintro (hpending | hpending | hpending | hwaking)
    · revert hpending; decide
    · revert hpending; decide
    · revert hpending; decide
    · revert hwaking; decide

end MNSER
