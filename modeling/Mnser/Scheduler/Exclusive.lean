import Mnser.Scheduler.Model

/-! # One worker per fiber

    A worker has a fiber in hand from the check that lets it swap the fiber
    in until it has settled the fiber's state, and a callback fiber as long
    as it keeps it.  Nothing in `run` looks whether another worker has the
    fiber in hand, so an entry for a fiber that is queued twice can be
    checked while the fiber is still on another worker's stack. -/

namespace MNSER

open LTS Sched

namespace Scheduler

variable {n : Nat}

/-! ## Section 1: Fibers in hand -/

def InHand (x : Worker) (f : Sched.FiberId) : Prop :=
  x.pc.fiber = some f ∨ x.cb_fiber = some f

/-- The worker is on the fiber's stack. -/
def Executes (s : Scheduler n) (w : Fin n) (f : Sched.FiberId) : Prop :=
  ∃ cb, (s.worker w).pc = .running f cb ∨ (s.worker w).pc = .leaving f cb

theorem Executes.inHand {s : Scheduler n} {w : Fin n} {f : Sched.FiberId}
    (h : s.Executes w f) : InHand (s.worker w) f := by
  obtain ⟨cb, hpc | hpc⟩ := h
  · exact Or.inl (by rw [hpc]; rfl)
  · exact Or.inl (by rw [hpc]; rfl)

/-- The entry's fiber exists. -/
def Known (created : Nat) (e : Entry) : Prop := ∀ f, e.task = .fiber f → f < created

/-- Fibers are only added. -/
theorem Known.mono {a b : Nat} {e : Entry} (h : Known a e) (hab : a ≤ b) : Known b e :=
  fun f hf => Nat.lt_of_lt_of_le (h f hf) hab

/-- The worker's check lets it go on with the fiber of the entry it holds. -/
def Takes (s : Scheduler n) (l : Label n) (w : Fin n) (f : Sched.FiberId) : Prop :=
  l = .dispatch w ∧ ∃ e, (s.worker w).pc = .dispatch (some e) ∧ e.task = .fiber f ∧
    s.state f ≠ .TERM ∧ s.state f ≠ .EXCEPT

/-- What a step does to the fibers in hand: at most one worker moves, and what
    it has in hand it had before, or is new, or it takes from its entry. -/
inductive Handed (s t : Scheduler n) (l : Label n) : Prop where
  | same (worker : t.worker = s.worker) (created : s.created ≤ t.created)
      (queue : ∀ e ∈ t.fibers, e ∈ s.fibers ∨ Known s.created e)
  | move (w : Fin n) (x : Worker) (worker : t.worker = (s.setWorker w x).worker)
      (created : s.created ≤ t.created)
      (queue : ∀ e ∈ t.fibers,
        e ∈ s.fibers ∨ ∀ f, e.task = .fiber f → InHand (s.worker w) f)
      (hand : ∀ f, InHand x f → InHand (s.worker w) f ∨
        (f = s.created ∧ f < t.created) ∨ s.Takes l w f)
      (entry : ∀ e, x.pc.entry = some e → (s.worker w).pc.entry = some e ∨ e ∈ s.fibers)

/-! ## Section 2: One worker moves -/

/-- A worker moves to a place where it has nothing more in hand and no new
    entry. -/
theorem Handed.goto {s t : Scheduler n} {l : Label n} {w : Fin n} {p : Pc}
    (hworker : t.worker = (s.setPc w p).worker) (hcreated : t.created = s.created)
    (hqueue : t.fibers = s.fibers)
    (hhand : ∀ f, InHand { s.worker w with pc := p } f → InHand (s.worker w) f)
    (hentry : ∀ e, p.entry = some e → (s.worker w).pc.entry = some e) : Handed s t l :=
  .move w _ hworker (Nat.le_of_eq hcreated.symm) (fun _ he => Or.inl (hqueue ▸ he))
    (fun f hf => Or.inl (hhand f hf)) (fun e he => Or.inl (hentry e he))

/-- At most places only the callback fiber is in hand. -/
theorem inHand_idle {x : Worker} {p : Pc} (hpc : p.fiber = none) {f : Sched.FiberId}
    (h : InHand { x with pc := p } f) : InHand x f := by
  rcases h with hfiber | hcb
  · rw [show p.fiber = some f from hfiber] at hpc
    cases hpc
  · exact Or.inr hcb

/-- Going on with the same fiber. -/
theorem inHand_same {x : Worker} {p : Pc} {f : Sched.FiberId} (hold : InHand x f)
    (hpc : p.fiber = some f) {g : Sched.FiberId} (h : InHand { x with pc := p } g) :
    InHand x g := by
  rcases h with hfiber | hcb
  · obtain rfl := Option.some.inj (hpc.symm.trans hfiber)
    exact hold
  · exact Or.inr hcb

/-- A callback fiber that the worker lets go, or keeps. -/
theorem inHand_released {x : Worker} {cb : Bool} {f : Sched.FiberId}
    (h : (if cb then none else x.cb_fiber) = some f) : InHand x f := by
  split at h
  · cases h
  · exact Or.inr h

theorem tickleIf_fiber (need : Bool) (k : After) : (tickleIf need k).fiber = none := by
  cases need <;> cases k <;> rfl

theorem after_fiber (k : After) : (After.pc k).fiber = none := by
  cases k <;> rfl

/-- The worker goes on with the fiber it has. -/
theorem Handed.goOn {s t : Scheduler n} {l : Label n} {w : Fin n} {p : Pc}
    {f : Sched.FiberId} (hworker : t.worker = (s.setPc w p).worker)
    (hcreated : t.created = s.created) (hqueue : t.fibers = s.fibers)
    (hold : (s.worker w).pc.fiber = some f) (hpc : p.fiber = some f)
    (hentry : p.entry = none) : Handed s t l := by
  refine .goto hworker hcreated hqueue (fun g => inHand_same (Or.inl hold) hpc) ?_
  intro e he
  rw [hentry] at he
  cases he

/-- The worker is done with its fiber. -/
theorem Handed.goIdle {s t : Scheduler n} {l : Label n} {w : Fin n} {p : Pc}
    (hworker : t.worker = (s.setPc w p).worker)
    (hcreated : t.created = s.created) (hqueue : t.fibers = s.fibers)
    (hpc : p.fiber = none) (hentry : p.entry = none) : Handed s t l := by
  refine .goto hworker hcreated hqueue (fun g => inHand_idle hpc) ?_
  intro e he
  rw [hentry] at he
  cases he

/-! ## Section 3: Steps -/

theorem known_of_exists {s : Scheduler n} {e : Entry} (h : s.Exists (some e.task)) :
    Known s.created e := by
  intro f hf
  rw [hf] at h
  exact h

/-- What is passed in names fibers that exist. -/
theorem handed_pushed {s : Scheduler n} {l : Label n} {tasks : List (Option Sched.Task)}
    (thread : Option ThreadId) (hexists : ∀ task ∈ tasks, s.Exists task) (k : Nat) :
    Handed s { s.pushed thread tasks with tickles := k } l := by
  refine .same rfl (Nat.le_refl _) fun e he => ?_
  rcases List.mem_append.mp he with he | he
  · exact Or.inl he
  · exact Or.inr (known_of_exists (hexists _ (mem_numbered he).1))

/-- After the scan the worker holds the entry, and nothing more is in its hand. -/
theorem handed_scan {l : Label n} (s : Scheduler n) (w : Fin n) (active : Int) :
    Handed s ({ s with fibers := (scanQueue s.state w s.fibers).2.1,
                       activeThreadCount := active }.setPc w
      (tickleIf (scanQueue s.state w s.fibers).2.2
        (.dispatch (scanQueue s.state w s.fibers).1))) l := by
  have hspec := scanQueue_spec s.state w s.fibers
  refine .move w _ rfl (Nat.le_refl _) (fun e he => Or.inl (hspec.mem_left he)) ?_ ?_
  · exact fun f hf => Or.inl (inHand_idle (x := s.worker w) (tickleIf_fiber _ _) hf)
  · intro e he
    right
    apply hspec.mem_ft
    exact (tickleIf_entry _ _).symm.trans he

/-- A fiber that came back `READY` goes to the queue, and out of hand. -/
theorem handed_settleReady {l : Label n} {s : Scheduler n} {w : Fin n} {f : Sched.FiberId}
    {cb : Bool} (hpc : (s.worker w).pc = .settle f cb) :
    Handed s ((s.pushed none [some (.fiber f)]).setWorker w
      { s.worker w with pc := tickleIf s.fibers.isEmpty .scan,
                        cb_fiber := if cb then none else (s.worker w).cb_fiber }) l := by
  refine .move w _ rfl (Nat.le_refl _) ?_ ?_ ?_
  · intro e he
    rcases List.mem_append.mp he with he | he
    · exact Or.inl he
    · obtain rfl := List.mem_singleton.mp he
      refine Or.inr fun g hg => ?_
      obtain rfl := Sched.Task.fiber.inj hg
      exact Or.inl (by rw [hpc]; rfl)
  · rintro g (hg | hg)
    · rw [tickleIf_fiber] at hg
      cases hg
    · exact Or.inl (inHand_released hg)
  · intro e he
    rw [tickleIf_entry] at he
    cases he

/-- Only the check of an entry's fiber takes a fiber in hand that the worker did
    not have, and only there can two workers come to have the same one. -/
theorem handed_next {s t : Scheduler n} {l : Label n} (hnext : next s l = some t) :
    Handed s t l := by
  cases next_cases hnext with
  | schedule task thread hknown =>
    refine handed_pushed thread (fun x hx => ?_) _
    obtain rfl := List.mem_singleton.mp hx
    exact hknown
  | scheduleAll tasks hknown => exact handed_pushed none hknown _
  | callTickle | tickleFound | tickleNobody | tickleWrite | stop =>
    exact Handed.same rfl (Nat.le_refl _) fun _ he => Or.inl he
  | newFiber => exact Handed.same rfl (Nat.le_succ _) fun _ he => Or.inl he
  | scan w => exact handed_scan s w _
  | workerFound w k hpc =>
    exact Handed.goto (w := w) (p := .write k) rfl rfl rfl (fun f => inHand_idle rfl)
      (fun e he => by rw [hpc]; exact he)
  | workerNobody w k hpc =>
    exact Handed.goto (w := w) rfl rfl rfl (fun f => inHand_idle (after_fiber k))
      (fun e he => by rw [hpc]; exact (after_entry k).symm.trans he)
  | workerWrite w k hpc =>
    exact Handed.goto (w := w) rfl rfl rfl (fun f => inHand_idle (after_fiber k))
      (fun e he => by rw [hpc]; exact (after_entry k).symm.trans he)
  | dispatchNone w hpc =>
    cases hterm : (s.worker w).idle_term with
    | false => exact Handed.goIdle (w := w) (p := .goIdle) rfl rfl rfl rfl rfl
    | true => exact Handed.goIdle (w := w) (p := .exited) rfl rfl rfl rfl rfl
  | dispatchFiber w e f hpc htask halive =>
    refine .move w _ rfl (Nat.le_refl _) (fun _ he => Or.inl he) ?_
      (fun e' he' => Or.inl (by rw [hpc]; exact he'))
    rintro g (hg | hcb)
    · -- the worker takes the fiber from its entry, whoever else has it
      obtain rfl := Option.some.inj hg
      exact Or.inr (Or.inr ⟨rfl, e, hpc, htask, halive⟩)
    · exact Or.inl (Or.inr hcb)
  | dispatchDead w => exact Handed.goIdle (w := w) (p := .dropped) rfl rfl rfl rfl rfl
  | dispatchReset w e g f hpc htask hcb =>
    refine .move w _ rfl (Nat.le_refl _) (fun _ he => Or.inl he) ?_
      (fun e' he' => Or.inl (by rw [hpc]; exact he'))
    intro g hg
    exact Or.inl (inHand_same (x := s.worker w) (Or.inr hcb) rfl hg)
  | dispatchNew w e g hpc =>
    refine .move w _ rfl (Nat.le_succ _) (fun _ he => Or.inl he) ?_
      (fun e' he' => Or.inl (by rw [hpc]; exact he'))
    intro f hf
    obtain rfl : f = s.created := by
      rcases hf with hf | hf <;> exact (Option.some.inj hf).symm
    exact Or.inr (Or.inl ⟨rfl, Nat.lt_succ_self _⟩)
  | swapIn w f cb e hpc =>
    exact Handed.goOn (w := w) (p := .running f cb) rfl rfl rfl (by rw [hpc]; rfl) rfl rfl
  | yieldToReady w f cb hpc | yieldToHold w f cb hpc | finish w threw f cb hpc =>
    exact Handed.goOn (w := w) (p := .leaving f cb) rfl rfl rfl (by rw [hpc]; rfl) rfl rfl
  | switch w f cb hpc =>
    exact Handed.goOn (w := w) (p := .returned f cb) rfl rfl rfl (by rw [hpc]; rfl) rfl rfl
  | decrement w f cb hpc =>
    exact Handed.goOn (w := w) (p := .settle f cb) rfl rfl rfl (by rw [hpc]; rfl) rfl rfl
  | decrementDropped w => exact Handed.goIdle (w := w) (p := .scan) rfl rfl rfl rfl rfl
  | settleReady w f cb hpc => exact handed_settleReady hpc
  | settleKept w | settleDead w => exact Handed.goIdle (w := w) (p := .scan) rfl rfl rfl rfl rfl
  | settleHold w f cb hpc =>
    refine .move w _ rfl (Nat.le_refl _) (fun _ he => Or.inl he) ?_ (by simp [Pc.entry])
    rintro g (hg | hg)
    · cases hg
    · exact Or.inl (inHand_released hg)
  | enterIdle w => exact Handed.goIdle (w := w) (p := .idleCheck) rfl rfl rfl rfl rfl
  | idleEnds w =>
    refine .move w _ rfl (Nat.le_refl _) (fun _ he => Or.inl he) (fun f hf => Or.inl ?_)
      (by simp [Pc.entry])
    exact inHand_idle (x := s.worker w) (p := .idleOut) rfl hf
  | idleBlocks w => exact Handed.goIdle (w := w) (p := .blocked) rfl rfl rfl rfl rfl
  | wakeTickled w => exact Handed.goIdle (w := w) (p := .woken true) rfl rfl rfl rfl rfl
  | wakeOther w => exact Handed.goIdle (w := w) (p := .woken false) rfl rfl rfl rfl rfl
  | drain w => exact Handed.goIdle (w := w) (p := .idleOut) rfl rfl rfl rfl rfl
  | leaveIdle w => exact Handed.goIdle (w := w) (p := .scan) rfl rfl rfl rfl rfl

/-! ## Section 4: Nobody has another worker's fiber -/

/-- Fibers in hand and in entries exist. -/
structure Created (s : Scheduler n) : Prop where
  hands  : ∀ w f, InHand (s.worker w) f → f < s.created
  queued : ∀ e ∈ s.fibers, Known s.created e
  picked : ∀ w e, (s.worker w).pc.entry = some e → Known s.created e

/-- Every fiber that is named anywhere goes on existing. -/
theorem created_next {s t : Scheduler n} {l : Label n} (h : Created s)
    (hnext : next s l = some t) : Created t := by
  -- either no worker moves, or one does
  rcases handed_next hnext with ⟨hworker, hcreated, hqueue⟩ |
    ⟨w, x, hworker, hcreated, hqueue, hhand, hentry⟩
  · refine ⟨?_, ?_, ?_⟩
    · intro w f hf
      rw [hworker] at hf
      exact Nat.lt_of_lt_of_le (h.hands w f hf) hcreated
    · intro e he
      rcases hqueue e he with hold | hnew
      · exact (h.queued e hold).mono hcreated
      · exact hnew.mono hcreated
    · intro w e he
      rw [hworker] at he
      exact (h.picked w e he).mono hcreated
  · refine ⟨?_, ?_, ?_⟩
    · intro v f hf
      rw [hworker] at hf
      by_cases hvw : v = w
      · subst hvw
        rw [setWorker_self] at hf
        rcases hhand f hf with hold | ⟨_, hnew⟩ | ⟨_, e, hpc, htask, _⟩
        · exact Nat.lt_of_lt_of_le (h.hands v f hold) hcreated
        · exact hnew
        · have hknown := h.picked v e (by rw [hpc]; rfl)
          exact Nat.lt_of_lt_of_le (hknown f htask) hcreated
      · rw [setWorker_ne _ _ hvw] at hf
        exact Nat.lt_of_lt_of_le (h.hands v f hf) hcreated
    · intro e he
      rcases hqueue e he with hold | hback
      · exact (h.queued e hold).mono hcreated
      · exact fun f hf => Nat.lt_of_lt_of_le (h.hands w f (hback f hf)) hcreated
    · intro v e he
      rw [hworker] at he
      by_cases hvw : v = w
      · subst hvw
        rw [setWorker_self] at he
        rcases hentry e he with hold | hqueued
        · exact (h.picked v e hold).mono hcreated
        · exact (h.queued e hqueued).mono hcreated
      · rw [setWorker_ne _ _ hvw] at he
        exact (h.picked v e he).mono hcreated

/-- There are no fibers yet. -/
theorem created_start (n : Nat) : Created (start n) where
  hands  := by rintro w f (hw | hw) <;> cases hw
  queued := by intro e he; cases he
  picked := by intro w e he; cases he

/-- The condition on a step: a worker does not go on to swap in a fiber that
    another worker has in hand. -/
def ChecksFree (s : Scheduler n) : Label n → Prop
  | .dispatch w =>
      ∀ e f, (s.worker w).pc = .dispatch (some e) → e.task = .fiber f →
        s.state f ≠ .TERM → s.state f ≠ .EXCEPT →
          ∀ v, v ≠ w → ¬ InHand (s.worker v) f
  | _ => True

def Single (s : Scheduler n) : Prop :=
  ∀ f v w, InHand (s.worker v) f → InHand (s.worker w) f → v = w

/-- A step whose check finds the fiber free puts no fiber into two hands. -/
theorem single_next {s t : Scheduler n} {l : Label n} (hcreated : Created s)
    (h : Single s) (hcheck : s.ChecksFree l) (hnext : next s l = some t) : Single t := by
  rcases handed_next hnext with ⟨hworker, _, _⟩ | ⟨w, x, hworker, _, _, hhand, _⟩
  · intro f
    rw [hworker]
    exact h f
  intro f v v' hv hv'
  rw [hworker] at hv hv'
  -- nobody else has what `w` has in hand now
  have hother : ∀ u, u ≠ w → InHand (s.worker u) f → ¬ InHand x f := by
    intro u hu huf hx
    rcases hhand f hx with hold | ⟨hnew, _⟩ | ⟨rfl, e, hpc, htask, hterm, hexcept⟩
    · exact hu (h f u w huf hold)
    · exact Nat.lt_irrefl _ (hnew ▸ hcreated.hands u f huf)
    · exact hcheck e f hpc htask hterm hexcept u hu huf
  by_cases hvw : v = w <;> by_cases hvw' : v' = w
  · rw [hvw, hvw']
  · rw [hvw, setWorker_self] at hv
    rw [setWorker_ne _ _ hvw'] at hv'
    exact absurd hv (hother v' hvw' hv')
  · rw [hvw', setWorker_self] at hv'
    rw [setWorker_ne _ _ hvw] at hv
    exact absurd hv' (hother v hvw hv)
  · rw [setWorker_ne _ _ hvw] at hv
    rw [setWorker_ne _ _ hvw'] at hv'
    exact h f v v' hv hv'

end Scheduler

/-- In every run whose steps meet the condition no fiber is executed by two
    workers. -/
theorem fiber_executed_once {n : Nat} {s : Scheduler n}
    {tr : List (Scheduler n × Scheduler.Label n)}
    (hrun : Run (schedulers n) (Scheduler.start n) tr s)
    (hcheck : ∀ step ∈ tr, step.1.ChecksFree step.2) :
    ∀ f v w, s.Executes v f → s.Executes w f → v = w := by
  have hsingle : s.Created ∧ s.Single := by
    refine hrun.guarded_invariant (G := Scheduler.ChecksFree)
      (I := fun s => s.Created ∧ s.Single) ?_ hcheck ⟨Scheduler.created_start n, ?_⟩
    · intro s l t h hc hnext
      exact ⟨Scheduler.created_next h.1 hnext, Scheduler.single_next h.1 h.2 hc hnext⟩
    · rintro f v w (hv | hv) _ <;> cases hv
  intro f v w hv hw
  exact hsingle.2 f v w hv.inHand hw.inHand

/-- Fiber 0 is scheduled again while it runs.  After `YieldToReady` has set
    its state, and before its context is saved, another worker swaps it in. -/
theorem fiber_executed_twice :
    ∃ s, Reachable (schedulers 2) s ∧ s.Executes 0 0 ∧ s.Executes 1 0 := by
  have hrun := (schedulers 2).run_of_exec (s := Scheduler.start 2)
    [.newFiber, .schedule (some (.fiber 0)) none, .scan 0, .dispatch 0, .swapIn 0,
     .schedule (some (.fiber 0)) none, .yieldToReady 0, .scan 1, .dispatch 1, .swapIn 1]
    (by decide)
  exact ⟨_, ⟨_, _, rfl, hrun⟩, ⟨false, by decide⟩, ⟨false, by decide⟩⟩

/-- The same fiber scheduled again, picked once its worker has settled it. -/
theorem fiber_executed_once_rescheduled :
    ∃ s tr, Run (schedulers 2) (Scheduler.start 2) tr s ∧ s.Executes 1 0 ∧
      ∀ f v w, s.Executes v f → s.Executes w f → v = w := by
  have hrun := (schedulers 2).run_of_exec (s := Scheduler.start 2)
    [.newFiber, .schedule (some (.fiber 0)) none, .scan 0, .dispatch 0, .swapIn 0,
     .yieldToReady 0, .switch 0, .decrement 0, .settle 0, .scan 1, .dispatch 1, .swapIn 1]
    (by decide)
  refine ⟨_, _, hrun, ⟨false, by decide⟩, fiber_executed_once hrun ?_⟩
  -- only the two checks have something to show: the other worker has nothing
  have hidle : ∀ x : Worker, x.pc.fiber = none → x.cb_fiber = none →
      ∀ f, ¬ Scheduler.InHand x f := by
    rintro x hpc hcb f (hf | hf)
    · rw [hpc] at hf; cases hf
    · rw [hcb] at hf; cases hf
  have hfirst : ∀ v : Fin 2, v ≠ 0 → v = 1 := by decide
  have hsecond : ∀ v : Fin 2, v ≠ 1 → v = 0 := by decide
  refine List.forall_mem_cons.mpr ⟨trivial, List.forall_mem_cons.mpr ⟨trivial,
    List.forall_mem_cons.mpr ⟨trivial, List.forall_mem_cons.mpr ⟨?_,
    List.forall_mem_cons.mpr ⟨trivial, List.forall_mem_cons.mpr ⟨trivial,
    List.forall_mem_cons.mpr ⟨trivial, List.forall_mem_cons.mpr ⟨trivial,
    List.forall_mem_cons.mpr ⟨trivial, List.forall_mem_cons.mpr ⟨trivial,
    List.forall_mem_cons.mpr ⟨?_, List.forall_mem_cons.mpr ⟨trivial,
    fun _ h => nomatch h⟩⟩⟩⟩⟩⟩⟩⟩⟩⟩⟩⟩
  · intro e f _ _ _ _ v hv
    rw [hfirst v hv]
    exact hidle _ (by decide) (by decide) f
  · intro e f _ _ _ _ v hv
    rw [hsecond v hv]
    exact hidle _ (by decide) (by decide) f

end MNSER
