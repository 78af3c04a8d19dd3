import Mnser.Scheduler.Stopping

/-! # Shutdown

    After `stop` a worker whose idle fiber has seen `stopping` ends as soon as
    a scan gives it nothing.  The queue was empty when `stopping` looked, and
    it need not stay so: a fiber that yielded just before is requeued later,
    and what it does then may queue more.  An entry any worker may run is
    not left behind all the same: while there is one, some worker is on its
    way to another scan. -/

namespace MNSER

open LTS Sched

namespace Scheduler

variable {n : Nat}

/-! ## Section 1: Who still comes back to the queue -/

/-- A worker that ends without another scan. -/
def Leaving (x : Worker) : Prop :=
  x.pc = .exited ∨ (x.idle_term = true ∧
    (x.pc = .tickle (.dispatch none) ∨ x.pc = .write (.dispatch none) ∨ x.pc = .dispatch none))

/-- Where a worker is from the swap-in of `f` until it has settled `f`. -/
def InCare (f : Sched.FiberId) (pc : Pc) : Prop :=
  ∃ cb, pc = .running f cb ∨ pc = .leaving f cb ∨ pc = .returned f cb ∨ pc = .settle f cb

/-- A worker with a fiber does not leave. -/
theorem InCare.not_leaving {f : Sched.FiberId} {x : Worker} (h : InCare f x.pc) :
    ¬ Leaving x := by
  obtain ⟨cb, hpc | hpc | hpc | hpc⟩ := h <;> simp [Leaving, hpc]

/-- Some entry is left that every worker may run. -/
def Unpinned (s : Scheduler n) : Prop := ∃ e ∈ s.fibers, e.thread = none

structure Draining (s : Scheduler n) : Prop where
  fresh   : s.stopped = false → ∀ w, (s.worker w).idle_term = false
  exited  : ∀ w, (s.worker w).pc = .exited → (s.worker w).idle_term = true
  exec    : ∀ f, s.state f = .EXEC → ∃ w, InCare f (s.worker w).pc
  unpinned : s.Unpinned → ∃ w, ¬ Leaving (s.worker w)

/-- Before `stop` no worker leaves. -/
theorem Draining.stays {s : Scheduler n} (h : Draining s) (hstopped : s.stopped = false)
    (w : Fin n) : ¬ Leaving (s.worker w) := by
  have hterm := h.fresh hstopped w
  rintro (hexited | ⟨hidle, _⟩)
  · rw [h.exited w hexited] at hterm
    cases hterm
  · rw [hidle] at hterm
    cases hterm

/-- There is nothing to drain. -/
theorem draining_start (hn : 0 < n) : Draining (start n) where
  fresh    := fun _ _ => rfl
  exited   := by intro w hw; cases hw
  exec     := by intro f hf; cases hf
  unpinned := fun _ => ⟨⟨0, hn⟩, by simp [Leaving, start]⟩

/-! ## Section 2: What a step does -/

/-- What a step that moves a worker does to the four parts: the fibers it
    leaves in `EXEC` stay in somebody's care, and where the worker goes to end
    no entry is new and no other worker was moved. -/
theorem Draining.move {s t : Scheduler n} {w : Fin n} {x : Worker} (h : Draining s)
    (hworker : t.worker = (s.setWorker w x).worker) (hstopped : t.stopped = s.stopped)
    (hterm : x.idle_term = true → s.stopped = true)
    (hexited : x.pc = .exited → x.idle_term = true)
    (hexec : ∀ f, t.state f = .EXEC →
      InCare f x.pc ∨ (s.state f = .EXEC ∧ ¬ InCare f (s.worker w).pc))
    (hunpinned : Leaving x → t.Unpinned → ∃ v, v ≠ w ∧ ¬ Leaving (s.worker v)) :
    Draining t where
  fresh := by
    intro hfalse v
    rw [hworker]
    by_cases hv : v = w
    · subst hv
      rw [setWorker_self]
      by_contra hidle
      rw [hstopped, hterm (Bool.eq_true_of_not_eq_false hidle)] at hfalse
      cases hfalse
    · rw [setWorker_ne s x hv]
      exact h.fresh (hstopped ▸ hfalse) v
  exited := by
    intro v
    rw [hworker]
    by_cases hv : v = w
    · subst hv
      rw [setWorker_self]
      exact hexited
    · rw [setWorker_ne s x hv]
      exact h.exited v
  exec := by
    intro f hf
    rcases hexec f hf with hcare | ⟨hold, hnot⟩
    · exact ⟨w, by rw [hworker, setWorker_self]; exact hcare⟩
    · obtain ⟨v, hcare⟩ := h.exec f hold
      have hv : v ≠ w := by
        rintro rfl
        exact hnot hcare
      exact ⟨v, by rw [hworker, setWorker_ne s x hv]; exact hcare⟩
  unpinned := by
    intro hleft
    by_cases hleaving : Leaving x
    · obtain ⟨v, hv, hstays⟩ := hunpinned hleaving hleft
      exact ⟨v, by rw [hworker, setWorker_ne s x hv]; exact hstays⟩
    · exact ⟨w, by rw [hworker, setWorker_self]; exact hleaving⟩

/-- An idle fiber ends after `stop` only. -/
theorem Draining.stopped_of_term {s : Scheduler n} (h : Draining s) {w : Fin n}
    (hidle : (s.worker w).idle_term = true) : s.stopped = true := by
  by_contra hfalse
  have hfresh := h.fresh (Bool.eq_false_of_not_eq_true hfalse) w
  rw [hidle] at hfresh
  cases hfresh

/-- A worker goes to another place with the same fiber in its care, or leaves
    no fiber in `EXEC` behind. -/
theorem Draining.goto {s t : Scheduler n} {w : Fin n} {p : Pc} (h : Draining s)
    (hworker : t.worker = (s.setPc w p).worker) (hstopped : t.stopped = s.stopped)
    (hexec : ∀ f, t.state f = .EXEC →
      InCare f p ∨ (s.state f = .EXEC ∧ ¬ InCare f (s.worker w).pc))
    (hstays : ¬ Leaving { s.worker w with pc := p }) : Draining t :=
  h.move hworker hstopped h.stopped_of_term (fun hp => absurd (Or.inl hp) hstays) hexec
    (fun hleaving => absurd hleaving hstays)

/-- The worker has no fiber in its care, the states and the queue are as
    before, and it was leaving already if it is now. -/
theorem Draining.walk {s t : Scheduler n} {w : Fin n} {p : Pc} (h : Draining s)
    (hworker : t.worker = (s.setPc w p).worker) (hstopped : t.stopped = s.stopped)
    (hstate : t.state = s.state) (hfibers : t.fibers = s.fibers)
    (hcare : (s.worker w).pc.fiber = none)
    (hexited : p = .exited → (s.worker w).idle_term = true)
    (hleaving : Leaving { s.worker w with pc := p } → Leaving (s.worker w)) : Draining t := by
  refine h.move hworker hstopped h.stopped_of_term hexited ?_ ?_
  · intro f hf
    refine Or.inr ⟨hstate ▸ hf, ?_⟩
    rintro ⟨cb, hpc | hpc | hpc | hpc⟩ <;> rw [hpc] at hcare <;> cases hcare
  · intro hnow hleft
    rw [Unpinned, hfibers] at hleft
    obtain ⟨v, hstays⟩ := h.unpinned hleft
    refine ⟨v, ?_, hstays⟩
    rintro rfl
    exact hstays (hleaving hnow)

/-- The same fiber stays in the worker's care. -/
theorem Draining.care {s t : Scheduler n} {w : Fin n} {p : Pc} (h : Draining s)
    (hworker : t.worker = (s.setPc w p).worker) (hstopped : t.stopped = s.stopped)
    {g : Sched.FiberId} (hother : ∀ f, f ≠ g → t.state f = s.state f)
    (hold : (s.worker w).pc.fiber = some g) (hcare : InCare g p) : Draining t := by
  refine h.goto hworker hstopped ?_ (InCare.not_leaving (x := { s.worker w with pc := p }) hcare)
  intro f hf
  by_cases hfg : f = g
  · exact Or.inl (hfg ▸ hcare)
  · refine Or.inr ⟨hother f hfg ▸ hf, ?_⟩
    rintro ⟨cb, hpc | hpc | hpc | hpc⟩ <;> rw [hpc] at hold <;>
      exact hfg (Option.some.inj hold)

/-- No worker moves, and no fiber starts. -/
theorem Draining.same {s t : Scheduler n} (h : Draining s) (hworker : t.worker = s.worker)
    (hstopped : t.stopped = false → s.stopped = false)
    (hstate : ∀ f, t.state f = .EXEC → s.state f = .EXEC)
    (hunpinned : t.Unpinned → s.Unpinned ∨ ∃ w, ¬ Leaving (s.worker w)) : Draining t where
  fresh    := by
    intro hfalse w
    rw [hworker]
    exact h.fresh (hstopped hfalse) w
  exited   := by
    intro w
    rw [hworker]
    exact h.exited w
  exec     := by
    intro f hf
    rw [hworker]
    exact h.exec f (hstate f hf)
  unpinned := by
    intro hleft
    rw [hworker]
    exact (hunpinned hleft).elim h.unpinned id

/-! ## Section 3: Steps -/

/-- After `stop` has begun only tasks and the callbacks of timers and events
    pass work on: some worker is running a task or back from `epoll_wait`. -/
def PushesInside (s : Scheduler n) : Label n → Prop
  | .schedule _ _ | .scheduleAll _ =>
    s.stopped = true → ∃ w, (s.worker w).pc.runs = true ∨ (s.worker w).pc.awake = true
  | _ => True

instance (s : Scheduler n) : (l : Label n) → Decidable (s.PushesInside l)
  | .schedule _ _  => inferInstanceAs (Decidable (_ → _))
  | .scheduleAll _ => inferInstanceAs (Decidable (_ → _))
  | .callTickle | .tickleCheck | .tickleWrite | .newFiber | .stop | .scan _ | .workerTickle _
  | .workerWrite _ | .dispatch _ | .swapIn _ | .yieldToReady _ | .yieldToHold _ | .finish _ _
  | .switch _ | .decrement _ | .settle _ | .enterIdle _ | .idleCheck _ _ | .wake _ _ | .drain _
  | .leaveIdle _ => inferInstanceAs (Decidable True)

/-- A worker inside its loop does not leave. -/
theorem not_leaving_of_inside {x : Worker} (h : x.pc.runs = true ∨ x.pc.awake = true) :
    ¬ Leaving x := by
  rintro (hpc | ⟨_, hpc | hpc | hpc⟩) <;> rw [hpc] at h <;> simp [Pc.runs, Pc.awake] at h

/-- An entry may be passed in as long as a worker is inside its loop. -/
theorem draining_push {s t : Scheduler n} (h : Draining s) (hn : 0 < n)
    (hinside : s.stopped = true →
      ∃ w, (s.worker w).pc.runs = true ∨ (s.worker w).pc.awake = true)
    (hworker : t.worker = s.worker) (hstopped : t.stopped = s.stopped)
    (hstate : t.state = s.state) : Draining t := by
  refine h.same hworker (fun hfalse => hstopped ▸ hfalse) (fun f hf => hstate ▸ hf) fun _ => ?_
  right
  cases hs : s.stopped with
  | false => exact ⟨⟨0, hn⟩, h.stays hs _⟩
  | true =>
    obtain ⟨w, hw⟩ := hinside hs
    exact ⟨w, not_leaving_of_inside hw⟩

/-- What a scan that gives nothing leaves for any worker is running. -/
theorem exec_of_scan_none {state : Sched.FiberId → State} {me : ThreadId} :
    ∀ {queue : List Entry}, (scanQueue state me queue).1 = none →
      ∀ e ∈ queue, e.thread = none → isExec state e = true := by
  intro queue
  induction queue with
  | nil => intro _ e he; cases he
  | cons x rest ih =>
    intro hnone e he hthread
    rw [scanQueue] at hnone
    split at hnone
    · -- `x` is pinned to another thread
      rename_i hpinned
      rcases List.mem_cons.mp he with rfl | he
      · exact absurd hthread hpinned.1
      · exact ih hnone e he hthread
    · split at hnone
      · rename_i hexec
        rcases List.mem_cons.mp he with rfl | he
        · exact hexec
        · exact ih hnone e he hthread
      · cases hnone

/-- An entry is passed over for a fiber that runs. -/
theorem task_of_isExec {state : Sched.FiberId → State} {e : Entry}
    (h : isExec state e = true) : ∃ f, state f = .EXEC := by
  cases htask : e.task with
  | fiber f =>
    rw [isExec, htask] at h
    exact ⟨f, of_decide_eq_true h⟩
  | func g =>
    rw [isExec, htask] at h
    cases h

/-- A worker whose scan gives nothing leaves the entries that are left for any
    worker to the one that cares for their fiber. -/
theorem draining_scan {s : Scheduler n} {w : Fin n} (h : Draining s)
    (hpc : (s.worker w).pc = .scan) (active : Int) :
    Draining ({ s with fibers            := (scanQueue s.state w s.fibers).2.1,
                       activeThreadCount := active }.setPc w
      (tickleIf (scanQueue s.state w s.fibers).2.2
        (.dispatch (scanQueue s.state w s.fibers).1))) := by
  have hnot : ∀ f, ¬ InCare f (s.worker w).pc := by
    rintro f ⟨cb, hcare | hcare | hcare | hcare⟩ <;> rw [hpc] at hcare <;> cases hcare
  have hspec := scanQueue_spec s.state w s.fibers
  refine h.move (w := w) rfl rfl h.stopped_of_term ?_ (fun f hf => Or.inr ⟨hf, hnot f⟩) ?_
  · intro hexited
    cases htickle : (scanQueue s.state w s.fibers).2.2 <;>
      simp [htickle, tickleIf, After.pc] at hexited
  · intro hleaving hleft
    obtain ⟨e, he, hthread⟩ := hleft
    -- a worker that leaves after its scan has found nothing it may run
    have hnone : (scanQueue s.state w s.fibers).1 = none := by
      cases hft : (scanQueue s.state w s.fibers).1 with
      | none => rfl
      | some e' =>
        cases htickle : (scanQueue s.state w s.fibers).2.2 <;>
          simp [Leaving, hft, htickle, tickleIf, After.pc] at hleaving
    obtain ⟨f, hf⟩ := task_of_isExec
      (exec_of_scan_none hnone e (hspec.mem_left he) hthread)
    obtain ⟨v, hcare⟩ := h.exec f hf
    refine ⟨v, ?_, hcare.not_leaving⟩
    rintro rfl
    exact hnot f hcare

/-- What follows a call of `tickle` leads to the end only where the call did. -/
theorem leaving_after {x : Worker} {k : After} (hpc : x.pc = .tickle k ∨ x.pc = .write k) :
    (Leaving { x with pc := After.pc k } → Leaving x) ∧
    (Leaving { x with pc := .write k } → Leaving x) := by
  cases k with
  | scan => constructor <;> rintro (hp | ⟨_, hp | hp | hp⟩) <;> cases hp
  | dispatch ft =>
    cases ft with
    | some e => constructor <;> rintro (hp | ⟨_, hp | hp | hp⟩) <;> cases hp
    | none =>
      constructor <;> rintro (hp | ⟨hidle, _⟩)
      · cases hp
      · exact Or.inr ⟨hidle, hpc.elim Or.inl (fun h => Or.inr (Or.inl h))⟩
      · cases hp
      · exact Or.inr ⟨hidle, hpc.elim Or.inl (fun h => Or.inr (Or.inl h))⟩

/-- A fiber given another state than `EXEC` is not in `EXEC`. -/
theorem exec_of_setState {s : Scheduler n} {f g : Sched.FiberId} {x : State} (hx : x ≠ .EXEC)
    (h : (s.setState f x).state g = .EXEC) : s.state g = .EXEC ∧ g ≠ f := by
  by_cases hgf : g = f
  · simp [setState, hgf, hx] at h
  · refine ⟨?_, hgf⟩
    simpa [setState, hgf] using h

theorem not_inCare {f : Sched.FiberId} {pc : Pc} (h : pc.fiber = none) : ¬ InCare f pc := by
  rintro ⟨cb, hp | hp | hp | hp⟩ <;> rw [hp] at h <;> cases h

/-- A worker cares for one fiber at a time. -/
theorem not_inCare_settle {f g : Sched.FiberId} {cb : Bool} (hgf : g ≠ f) :
    ¬ InCare g (.settle f cb) := by
  rintro ⟨cb', hp | hp | hp | hp⟩ <;> cases hp
  exact hgf rfl

/-- Whoever leaves a fiber in `EXEC` behind would have it in care, and whoever leaves
    an entry for any worker behind is followed by a worker that stays. -/
theorem draining_next {s t : Scheduler n} {l : Label n} (hn : 0 < n) (h : Draining s)
    (hinside : PushesInside s l) (hnext : next s l = some t) : Draining t := by
  cases next_cases hnext with
  | schedule | scheduleAll => exact draining_push h hn hinside rfl rfl rfl
  | callTickle | tickleFound | tickleNobody | tickleWrite =>
    exact h.same rfl id (fun _ hf => hf) Or.inl
  | newFiber => exact h.same rfl id (fun _ hf => (exec_of_setState (by simp) hf).1) Or.inl
  | stop => exact h.same rfl (by simp) (fun _ hf => hf) Or.inl
  | scan w hpc => exact draining_scan h hpc _
  | workerFound w k hpc =>
    exact h.walk (w := w) rfl rfl rfl rfl (by rw [hpc]; rfl) (by simp)
      (leaving_after (Or.inl hpc)).2
  | workerNobody w k hpc =>
    exact h.walk (w := w) rfl rfl rfl rfl (by rw [hpc]; rfl) (by cases k <;> simp [After.pc])
      (leaving_after (Or.inl hpc)).1
  | workerWrite w k hpc =>
    exact h.walk (w := w) rfl rfl rfl rfl (by rw [hpc]; rfl)
      (by cases k <;> simp [After.pc]) (leaving_after (Or.inr hpc)).1
  | dispatchNone w hpc =>
    refine h.walk (w := w) rfl rfl rfl rfl (by rw [hpc]; rfl) ?_ ?_
    · intro hp
      by_contra hidle
      simp [hidle] at hp
    · intro hleaving
      by_cases hidle : (s.worker w).idle_term = true
      · exact Or.inr ⟨hidle, Or.inr (Or.inr hpc)⟩
      · simp [Leaving, hidle] at hleaving
  | dispatchFiber w e f hpc | dispatchDead w e f hpc =>
    exact h.walk (w := w) rfl rfl rfl rfl (by rw [hpc]; rfl) (by simp) (by simp [Leaving])
  | dispatchReset w e g f hpc =>
    -- a callback's fiber is `INIT` until it is swapped in
    exact h.goto (w := w) rfl rfl (fun g hg => Or.inr ⟨(exec_of_setState (by simp) hg).1,
      not_inCare (by rw [hpc]; rfl)⟩) (by simp [Leaving])
  | dispatchNew w e g hpc =>
    exact h.move (w := w) rfl rfl h.stopped_of_term (by simp)
      (fun g hg => Or.inr ⟨(exec_of_setState (by simp) hg).1, not_inCare (by rw [hpc]; rfl)⟩)
      (by simp [Leaving])
  | swapIn w f cb e hpc =>
    exact h.care (w := w) (g := f) rfl rfl (fun g hg => by simp [setState, setPc, setWorker, hg])
      (by rw [hpc]; rfl) ⟨cb, Or.inl rfl⟩
  | yieldToReady w f cb hpc | finish w threw f cb hpc =>
    exact h.care (w := w) (g := f) rfl rfl (fun g hg => by simp [setState, setPc, setWorker, hg])
      (by rw [hpc]; rfl) ⟨cb, Or.inr (Or.inl rfl)⟩
  | yieldToHold w f cb hpc =>
    exact h.care (w := w) (g := f) rfl rfl (fun _ _ => rfl) (by rw [hpc]; rfl)
      ⟨cb, Or.inr (Or.inl rfl)⟩
  | switch w f cb hpc =>
    exact h.care (w := w) (g := f) rfl rfl (fun _ _ => rfl) (by rw [hpc]; rfl)
      ⟨cb, Or.inr (Or.inr (Or.inl rfl))⟩
  | decrement w f cb hpc =>
    exact h.care (w := w) (g := f) rfl rfl (fun _ _ => rfl) (by rw [hpc]; rfl)
      ⟨cb, Or.inr (Or.inr (Or.inr rfl))⟩
  | settleReady w f cb hpc hready =>
    -- a worker done with a fiber scans the queue again, whatever it puts there
    refine h.move (w := w) rfl rfl h.stopped_of_term ?_ (fun g hg => Or.inr ⟨hg, ?_⟩) ?_
    · cases s.fibers.isEmpty <;> simp [tickleIf, After.pc]
    · rw [hpc]
      refine not_inCare_settle ?_
      rintro rfl
      rw [show s.state g = .EXEC from hg] at hready
      cases hready
    · cases s.fibers.isEmpty <;> simp [Leaving, tickleIf, After.pc]
  | settleKept w f hpc =>
    refine h.goto (w := w) rfl rfl (fun g hg => Or.inr ?_) (by simp [Leaving])
    obtain ⟨hold, hgf⟩ := exec_of_setState (by simp) hg
    exact ⟨hold, by rw [hpc]; exact not_inCare_settle hgf⟩
  | settleDead w f hpc hdead =>
    refine h.goto (w := w) rfl rfl (fun g hg => Or.inr ⟨hg, ?_⟩) (by simp [Leaving])
    rw [hpc]
    refine not_inCare_settle ?_
    rintro rfl
    rw [show s.state g = .EXEC from hg] at hdead
    rcases hdead with hdead | hdead <;> cases hdead
  | settleHold w f cb hpc =>
    refine h.move (w := w) rfl rfl h.stopped_of_term (by simp) (fun g hg => Or.inr ?_)
      (by simp [Leaving])
    obtain ⟨hold, hgf⟩ := exec_of_setState (by simp) hg
    exact ⟨hold, by rw [hpc]; exact not_inCare_settle hgf⟩
  | idleEnds w b hpc hstopping =>
    exact h.move (w := w) rfl rfl (fun _ => hstopping.2.1) (by simp)
      (fun f hf => Or.inr ⟨hf, not_inCare (by rw [hpc]; rfl)⟩) (by simp [Leaving])
  | decrementDropped w hpc | enterIdle w hpc | idleBlocks w b hpc | wakeTickled w hpc
  | wakeOther w hpc | drain w tickled hpc | leaveIdle w hpc =>
    exact h.walk (w := w) rfl rfl rfl rfl (by rw [hpc]; rfl) (by simp) (by simp [Leaving])

/-- All workers have returned from `run`. -/
def AllExited (s : Scheduler n) : Prop := ∀ w, (s.worker w).pc = .exited

instance (s : Scheduler n) : Decidable s.AllExited :=
  inferInstanceAs (Decidable (∀ _, _))

/-- When all workers have left, what is left in the queue is pinned, and no fiber
    runs. -/
theorem Draining.over {s : Scheduler n} (h : Draining s) (hexited : s.AllExited) :
    (∀ e ∈ s.fibers, e.thread ≠ none) ∧ (∀ f, s.state f ≠ .EXEC) := by
  constructor
  · intro e he hthread
    obtain ⟨w, hstays⟩ := h.unpinned ⟨e, he, hthread⟩
    exact hstays (Or.inl (hexited w))
  · intro f hf
    obtain ⟨w, hcare⟩ := h.exec f hf
    exact hcare.not_leaving (Or.inl (hexited w))

end Scheduler

/-- Once all workers have ended, whatever was scheduled for any worker has
    been taken exactly once, no task is counted or left in `EXEC`, and what is
    still queued is pinned to a thread. -/
theorem shutdown_drains {n : Nat} (hn : 0 < n) {s : Scheduler n}
    {tr : List (Scheduler n × Scheduler.Label n)}
    (hrun : Run (schedulers n) (Scheduler.start n) tr s)
    (hinside : ∀ step ∈ tr, Scheduler.PushesInside step.1 step.2)
    (hexited : s.AllExited) :
    (∀ e ∈ Scheduler.passed tr, e.thread = none →
      (s.finished.map Finished.entry).count e = 1) ∧
    (∀ e ∈ Scheduler.passed tr,
      s.fibers.count e + (s.finished.map Finished.entry).count e = 1) ∧
    (∀ e ∈ s.fibers, e.thread ≠ none) ∧
    (∀ f, s.state f ≠ .EXEC) ∧
    s.activeThreadCount = 0 := by
  have haccounted : Scheduler.Accounted (Scheduler.passed tr) s := by
    refine hrun.trace_invariant
      (I := fun tr s => Scheduler.Accounted (Scheduler.passed tr) s) ?_
      (Scheduler.accounted_start n)
    intro tr s l t hs hnext
    rw [Scheduler.passed_snoc]
    exact Scheduler.accounted_next hs hnext
  have hdraining : Scheduler.Draining s :=
    hrun.guarded_invariant (G := Scheduler.PushesInside)
      (fun _ _ _ hs hG hnext => Scheduler.draining_next hn hs hG hnext) hinside
      (Scheduler.draining_start hn)
  obtain ⟨hpinned, hidle⟩ := hdraining.over hexited
  have hplaces : ∀ e ∈ Scheduler.passed tr,
      s.fibers.count e + (s.finished.map Finished.entry).count e = 1 := by
    intro e he
    have hcount : s.places.count e = 1 := by
      rw [haccounted.places, Multiset.coe_count]
      exact List.count_eq_one_of_mem haccounted.nodup he
    rw [Scheduler.count_places] at hcount
    -- nobody is left to hold an entry
    have hhands : (Finset.univ.filter fun w => (s.worker w).pc.entry = some e) = ∅ := by
      apply Finset.filter_eq_empty_iff.mpr
      intro w _
      rw [hexited w]
      simp [Pc.entry]
    rw [hhands] at hcount
    simpa using hcount
  refine ⟨?_, hplaces, hpinned, hidle, ?_⟩
  · intro e he hthread
    have hgone : s.fibers.count e = 0 :=
      List.count_eq_zero.mpr fun hleft => hpinned e hleft hthread
    have hone := hplaces e he
    omega
  · rw [haccounted.active]
    apply Finset.sum_eq_zero
    intro w _
    rw [hexited w]
    rfl

/-- Worker 1 looks at the queue between `--m_activeThreadCount` and the
    requeueing of fiber 0, and ends.  The fiber then queues a callback for
    it, which nobody takes. -/
theorem shutdown_drains_pinned :
    ∃ s tr, Run (schedulers 2) (Scheduler.start 2) tr s ∧ s.AllExited ∧
      (∀ step ∈ tr, Scheduler.PushesInside step.1 step.2) ∧
      s.fibers = [⟨2, .func 9, some 1⟩] ∧
      ∀ e ∈ Scheduler.passed tr, e.thread = none →
        (s.finished.map Finished.entry).count e = 1 := by
  have hrun := (schedulers 2).run_of_exec (s := Scheduler.start 2)
    [.newFiber, .scan 0, .dispatch 0, .enterIdle 0, .scan 1, .dispatch 1, .enterIdle 1,
     .idleCheck 1 true, .stop, .idleCheck 0 true,
     -- a timer wakes worker 1, whose callback queues the fiber
     .wake 1 false, .schedule (some (.fiber 0)) none, .leaveIdle 0, .scan 0, .dispatch 0,
     .swapIn 0, .yieldToReady 0, .switch 0, .decrement 0,
     .drain 1, .leaveIdle 1, .scan 1, .dispatch 1, .enterIdle 1, .idleCheck 1 true,
     .leaveIdle 1, .scan 1, .dispatch 1,
     .settle 0, .workerTickle 0, .scan 0, .dispatch 0, .swapIn 0,
     .schedule (some (.func 9)) (some 1), .finish 0 false, .switch 0, .decrement 0, .settle 0,
     .scan 0, .workerTickle 0, .dispatch 0]
    (by decide)
  exact ⟨_, _, hrun, by decide, by decide, by decide,
    (shutdown_drains (by decide) hrun (by decide) (by decide)).1⟩

end MNSER
