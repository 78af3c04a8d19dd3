import Mathlib.Logic.Function.Basic
import Mnser.Scheduler.Entries
import Mnser.Scheduler.Exclusive

/-! # Tasks given a thread

    The thread a task is scheduled for stands in its entry of `m_fibers`,
    which is gone once the task is picked.  Which thread the code of a task
    was given is recorded here beside the scheduler, from the swap-in of the
    entry to the `settle` that finds the task finished or parks it.

    A fiber that comes back `READY` is scheduled again without a thread. -/

namespace MNSER

open LTS Sched

namespace Scheduler

variable {n : Nat}

/-! ## Section 1: The thread of a task -/

/-- The thread the task on a fiber was given, if any. -/
abbrev Pins : Type := Sched.FiberId → Option ThreadId

def recordPins (s : Scheduler n) (l : Label n) (pins : Pins) : Pins :=
  match l with
  | .swapIn w =>
    match (s.worker w).pc with
    | .swapIn f _ e => if pins f = none then Function.update pins f e.thread else pins
    | _ => pins
  | .settle w =>
    match (s.worker w).pc with
    | .settle f _ => if s.state f = .READY then pins else Function.update pins f none
    | _ => pins
  | _ => pins

/-- Only the thread a task was given is on the task's stack. -/
def OnItsThread (x : Scheduler n × Pins) : Prop :=
  ∀ w f t, x.1.Executes w f → x.2 f = some t → w.val = t

/-- The condition on a step: a task that was given a thread does not call
    `YieldToReady`, and no worker's check goes on with a fiber that another
    worker has in hand. -/
def KeepsThread (x : Scheduler n × Pins) (l : Label n) : Prop :=
  x.1.ChecksFree l ∧
    ∀ w f cb, l = .yieldToReady w → (x.1.worker w).pc = .running f cb → x.2 f = none

/-! ## Section 2: What a step does to a fiber that is swapped in -/

/-- The fiber a worker has swapped in and not yet settled. -/
def swappedIn : Pc → Option Sched.FiberId
  | .running f _  => some f
  | .leaving f _  => some f
  | .returned f _ => some f
  | .settle f _   => some f
  | _             => none

/-- A fiber that is swapped in is in its worker's hand. -/
theorem inHand_of_swappedIn {x : Worker} {f : Sched.FiberId} (h : swappedIn x.pc = some f) :
    InHand x f := by
  left
  cases hpc : x.pc <;> rw [hpc] at h
  all_goals first | exact h | cases h

/-- A worker stays with the fiber it has swapped in until it settles it, and
    only `YieldToReady` makes a fiber `READY`. -/
structure Onward (s t : Scheduler n) (l : Label n) : Prop where
  stays : ∀ w f, swappedIn (s.worker w).pc = some f → swappedIn (t.worker w).pc = some f ∨
            ∃ cb, l = .settle w ∧ (s.worker w).pc = .settle f cb
  ready : ∀ f, t.state f = .READY → s.state f = .READY ∨
            ∃ w cb, l = .yieldToReady w ∧ (s.worker w).pc = .running f cb

/-- A step that moves no worker. -/
theorem Onward.same {s t : Scheduler n} {l : Label n} (hworker : t.worker = s.worker)
    (hstate : ∀ f, t.state f = .READY → s.state f = .READY) : Onward s t l where
  stays := by
    intro w f h
    left
    rw [hworker]
    exact h
  ready := fun f h => Or.inl (hstate f h)

/-- One worker moves and stays with its fiber, if it has swapped one in. -/
theorem Onward.move {s t : Scheduler n} {l : Label n} {w : Fin n} {x : Worker}
    (hworker : t.worker = (s.setWorker w x).worker)
    (hpc : ∀ f, swappedIn (s.worker w).pc = some f → swappedIn x.pc = some f)
    (hstate : ∀ f, t.state f = .READY → s.state f = .READY) : Onward s t l where
  stays := by
    intro v f h
    left
    rw [hworker]
    by_cases hvw : v = w
    · subst hvw
      rw [setWorker_self]
      exact hpc f h
    · rw [setWorker_ne _ _ hvw]
      exact h
  ready := fun f h => Or.inl (hstate f h)

/-- A state other than `READY` makes no fiber ready. -/
theorem ready_of_setState {s : Scheduler n} {f g : Sched.FiberId} {x : State}
    (hx : x ≠ .READY) (h : (s.setState f x).state g = .READY) : s.state g = .READY := by
  unfold setState at h
  by_cases hgf : g = f
  · exact absurd (by simpa [hgf] using h) hx
  · simpa [hgf] using h

/-- A worker that settles a fiber lets go of that fiber only, and makes none `READY`. -/
theorem onward_settle {s t : Scheduler n} {w : Fin n} {x : Worker} {f : Sched.FiberId} {cb : Bool}
    (hpc : (s.worker w).pc = .settle f cb) (hworker : t.worker = (s.setWorker w x).worker)
    (hstate : ∀ g, t.state g = .READY → s.state g = .READY) : Onward s t (.settle w) where
  stays := by
    intro v g hg
    by_cases hvw : v = w
    · subst hvw
      rw [hpc] at hg
      obtain rfl := Option.some.inj hg
      exact Or.inr ⟨cb, rfl, hpc⟩
    · left
      rw [hworker, setWorker_ne _ _ hvw]
      exact hg
  ready := fun g hg => Or.inl (hstate g hg)

/-- Only `settle` lets a fiber go, and only `YieldToReady` makes one ready. -/
theorem onward_next {s t : Scheduler n} {l : Label n} (hnext : next s l = some t) :
    Onward s t l := by
  -- a worker that has no fiber swapped in
  have hidle : ∀ {w : Fin n} {p q : Pc}, (s.worker w).pc = p → swappedIn p = none →
      ∀ f, swappedIn (s.worker w).pc = some f → swappedIn q = some f := by
    intro w p q hpc hnone f h
    rw [hpc, hnone] at h
    cases h
  -- and one that stays with its fiber
  have hkeeps : ∀ {w : Fin n} {p q : Pc}, (s.worker w).pc = p → swappedIn p = swappedIn q →
      ∀ f, swappedIn (s.worker w).pc = some f → swappedIn q = some f := by
    intro w p q hpc hsame f h
    rw [← hsame, ← hpc]
    exact h
  cases next_cases hnext with
  | schedule | scheduleAll | callTickle | tickleFound | tickleNobody | tickleWrite | stop =>
    exact .same rfl fun _ h => h
  | newFiber => exact .same rfl fun _ h => ready_of_setState (by decide) h
  | scan w hpc | workerFound w k hpc | workerNobody w k hpc | workerWrite w k hpc
  | dispatchNone w hpc | dispatchFiber w e f hpc | dispatchDead w e f hpc
  | decrementDropped w hpc | enterIdle w hpc | idleEnds w b hpc | idleBlocks w b hpc
  | wakeTickled w hpc | wakeOther w hpc | drain w tickled hpc | leaveIdle w hpc =>
    exact .move (w := w) rfl (hidle hpc rfl) fun _ h => h
  | dispatchReset w e g f hpc | dispatchNew w e g hpc | swapIn w f cb e hpc =>
    exact .move (w := w) rfl (hidle hpc rfl) fun _ h => ready_of_setState (by decide) h
  | yieldToReady w f cb hpc =>
    have hmove : Onward s (s.setPc w (.leaving f cb)) (.yieldToReady w) :=
      .move (w := w) rfl (hkeeps hpc rfl) fun _ h => h
    refine ⟨hmove.stays, fun g hg => ?_⟩
    by_cases hgf : g = f
    · exact Or.inr ⟨w, cb, rfl, hgf ▸ hpc⟩
    · left
      simpa [setPc, setWorker, setState, hgf] using hg
  | yieldToHold w f cb hpc | switch w f cb hpc | decrement w f cb hpc =>
    exact .move (w := w) rfl (hkeeps hpc rfl) fun _ h => h
  | finish w threw f cb hpc =>
    have hdead : (if threw then State.EXCEPT else State.TERM) ≠ .READY := by
      split <;> decide
    exact .move (w := w) rfl (hkeeps hpc rfl) fun _ h => ready_of_setState hdead h
  | settleReady w f cb hpc => exact onward_settle hpc rfl fun _ h => h
  | settleKept w f hpc => exact onward_settle hpc rfl fun _ h => ready_of_setState (by decide) h
  | settleDead w f hpc => exact onward_settle hpc rfl fun _ h => h
  | settleHold w f cb hpc =>
    exact onward_settle hpc rfl fun _ h => ready_of_setState (by decide) h

/-! ## Section 3: A task given a thread is in that thread's hands -/

structure Held (x : Scheduler n × Pins) : Prop where
  created   : Created x.1
  single    : Single x.1
  accounted : ∃ all, Accounted all x.1
  pinned    : ∀ f t, x.2 f = some t →
                (∃ w : Fin n, w.val = t ∧ swappedIn (x.1.worker w).pc = some f) ∧
                  x.1.state f ≠ .READY

/-- A fiber with a thread on record is run by this thread. -/
theorem Held.onItsThread {x : Scheduler n × Pins} (h : Held x) : OnItsThread x := by
  intro w f t hexecutes hpin
  obtain ⟨⟨v, hv, hin⟩, _⟩ := h.pinned f t hpin
  have hvw : v = w := h.single f v w (inHand_of_swappedIn hin) hexecutes.inHand
  rw [← hvw]
  exact hv

/-- The first swap-in of a fiber puts the thread of its entry on record. -/
theorem recordPins_swapIn {s : Scheduler n} {w : Fin n} {f : Sched.FiberId} {cb : Bool}
    {e : Entry} (hpc : (s.worker w).pc = .swapIn f cb e) (pins : Pins) :
    recordPins s (.swapIn w) pins =
      if pins f = none then Function.update pins f e.thread else pins := by
  simp only [recordPins, hpc]

/-- The record is kept while the fiber is on its way back into the queue. -/
theorem recordPins_settle {s : Scheduler n} {w : Fin n} {f : Sched.FiberId} {cb : Bool}
    (hpc : (s.worker w).pc = .settle f cb) (pins : Pins) :
    recordPins s (.settle w) pins =
      if s.state f = .READY then pins else Function.update pins f none := by
  simp only [recordPins, hpc]

/-- A thread on record was so before, or is that of the entry swapped in. -/
theorem recordPins_some {s t : Scheduler n} {l : Label n} (hnext : next s l = some t)
    {pins : Pins} {f : Sched.FiberId} {thread : ThreadId}
    (h : recordPins s l pins f = some thread) :
    (pins f = some thread ∧
      ∀ w cb, l = .settle w → (s.worker w).pc = .settle f cb → s.state f = .READY) ∨
    ∃ w cb e, l = .swapIn w ∧ (s.worker w).pc = .swapIn f cb e ∧ e.thread = some thread := by
  cases l with
  | swapIn w =>
    simp only [next] at hnext
    split at hnext
    · rename_i g cb e hpc
      rw [recordPins_swapIn hpc] at h
      -- a pin is set at the first swapIn and kept at the later ones
      by_cases hnew : pins g = none ∧ f = g
      · obtain ⟨hnone, rfl⟩ := hnew
        rw [if_pos hnone, Function.update_self] at h
        exact Or.inr ⟨w, cb, e, rfl, hpc, h⟩
      · refine Or.inl ⟨?_, fun v cb hl => by cases hl⟩
        split at h
        · rename_i hnone
          rw [Function.update_of_ne fun hfg => hnew ⟨hnone, hfg⟩] at h
          exact h
        · exact h
    · cases hnext
  | settle w =>
    left
    simp only [next] at hnext
    split at hnext
    · rename_i g cb hpc
      rw [recordPins_settle hpc] at h
      have hfiber : ∀ v cb', Label.settle w = .settle v → (s.worker v).pc = .settle f cb' →
          g = f := by
        intro v cb' hl hpc'
        obtain rfl := Label.settle.inj hl
        exact (Pc.settle.inj (hpc.symm.trans hpc')).1
      -- a fiber that is READY will be put back, any other loses its pin
      by_cases hready : s.state g = .READY
      · rw [if_pos hready] at h
        exact ⟨h, fun v cb' hl hpc' => hfiber v cb' hl hpc' ▸ hready⟩
      · rw [if_neg hready] at h
        by_cases hfg : f = g
        · subst hfg
          rw [Function.update_self] at h
          cases h
        · rw [Function.update_of_ne hfg] at h
          exact ⟨h, fun v cb' hl hpc' => absurd (hfiber v cb' hl hpc').symm hfg⟩
    · cases hnext
  | _ => exact Or.inl ⟨h, fun v cb hl => by cases hl⟩

/-- `swapIn` runs the fiber on this worker. -/
theorem swapIn_next {s t : Scheduler n} {w : Fin n} {f : Sched.FiberId} {cb : Bool} {e : Entry}
    (hpc : (s.worker w).pc = .swapIn f cb e) (hnext : next s (.swapIn w) = some t) :
    (t.worker w).pc = .running f cb ∧ t.state f = .EXEC := by
  simp only [next, hpc] at hnext
  split at hnext
  · obtain rfl := Option.some.inj hnext
    exact ⟨by simp [setPc, setWorker], by simp [setPc, setWorker, setState]⟩
  · cases hnext

/-- A step keeps the record, unless a fiber with a thread on record calls
    `YieldToReady`. -/
theorem held_next {x : Scheduler n × Pins} {l : Label n} {t : Scheduler n} (h : Held x)
    (hkeeps : KeepsThread x l) (hnext : next x.1 l = some t) :
    Held (t, recordPins x.1 l x.2) where
  created   := created_next h.created hnext
  single    := single_next h.created h.single hkeeps.1 hnext
  accounted := by
    obtain ⟨all, hall⟩ := h.accounted
    exact ⟨_, accounted_next hall hnext⟩
  pinned    := by
    have honward := onward_next hnext
    intro f thread hpin
    rcases recordPins_some hnext hpin with ⟨hold, hsettle⟩ | ⟨w, cb, e, rfl, hpc, hthread⟩
    · obtain ⟨⟨w, hw, hin⟩, hstate⟩ := h.pinned f thread hold
      refine ⟨⟨w, hw, ?_⟩, fun hready => ?_⟩
      · rcases honward.stays w f hin with hstays | ⟨cb, hl, hpc⟩
        · exact hstays
        · exact absurd (hsettle w cb hl hpc) hstate
      · rcases honward.ready f hready with hready | ⟨v, cb, hl, hpc⟩
        · exact hstate hready
        · -- it would have called `YieldToReady`
          have hnone := hkeeps.2 v f cb hl hpc
          rw [hold] at hnone
          cases hnone
    · -- the entry swapped in was this worker's or anybody's
      obtain ⟨all, hall⟩ := h.accounted
      obtain ⟨hrunning, hexec⟩ := swapIn_next hpc hnext
      refine ⟨⟨w, ?_, ?_⟩, ?_⟩
      · rcases hall.held w e (by rw [hpc]; rfl) with hnone | hmine
        · rw [hnone] at hthread
          cases hthread
        · exact Option.some.inj (hmine.symm.trans hthread)
      · show swappedIn (t.worker w).pc = some f
        rw [hrunning]
        rfl
      · show t.state f ≠ .READY
        rw [hexec]
        decide

/-- Nothing is on record yet. -/
theorem held_start (n : Nat) : Held (start n, fun _ => none) where
  created   := created_start n
  single    := by rintro f v w (hv | hv) _ <;> cases hv
  accounted := ⟨[], accounted_start n⟩
  pinned    := by intro f t hpin; cases hpin

end Scheduler

/-- The scheduler with the threads its tasks were given on record. -/
def pinnedSchedulers (n : Nat) : System (Scheduler n × Scheduler.Pins) (Scheduler.Label n) :=
  (schedulers n).withHistory Scheduler.recordPins fun _ => none

/-- When no task that was given a thread calls `YieldToReady`, and no worker
    goes on with a fiber another one has in hand, a task is executed by the
    thread it was given only, until it has finished or is parked. -/
theorem task_on_its_thread {n : Nat} {x : Scheduler n × Scheduler.Pins}
    {tr : List ((Scheduler n × Scheduler.Pins) × Scheduler.Label n)}
    (hrun : Run (pinnedSchedulers n) (Scheduler.start n, fun _ => none) tr x)
    (hkeeps : ∀ step ∈ tr, Scheduler.KeepsThread step.1 step.2) :
    ∀ u ∈ states tr x, Scheduler.OnItsThread u := by
  have hheld := hrun.states_invariant (I := Scheduler.Held) (G := Scheduler.KeepsThread)
    (fun u l v hu hl hnext => by
      obtain ⟨hsched, hrecord⟩ := System.withHistory_next hnext
      have hnew := Scheduler.held_next hu hl hsched
      rw [← hrecord] at hnew
      exact hnew)
    hkeeps (Scheduler.held_start n)
  exact fun u hu => (hheld u hu).onItsThread

/-- A fiber for thread 0, which thread 1 leaves in the queue. -/
theorem task_on_its_thread_zero :
    ∃ x tr, Run (pinnedSchedulers 2) (Scheduler.start 2, fun _ => none) tr x ∧
      x.1.Executes 0 0 ∧ x.2 0 = some 0 ∧ ∀ u ∈ states tr x, Scheduler.OnItsThread u := by
  have hrun := (pinnedSchedulers 2).run_of_exec (s := (Scheduler.start 2, fun _ => none))
    [.newFiber, .schedule (some (.fiber 0)) (some 0), .scan 1, .scan 0, .dispatch 0, .swapIn 0]
    (by decide)
  refine ⟨_, _, hrun, ⟨false, by decide⟩, by decide, task_on_its_thread hrun ?_⟩
  have hother : ∀ v : Fin 2, v ≠ 0 → v = 1 := by decide
  refine List.forall_mem_cons.mpr ⟨⟨trivial, fun _ _ _ hl => by cases hl⟩,
    List.forall_mem_cons.mpr ⟨⟨trivial, fun _ _ _ hl => by cases hl⟩,
    List.forall_mem_cons.mpr ⟨⟨trivial, fun _ _ _ hl => by cases hl⟩,
    List.forall_mem_cons.mpr ⟨⟨trivial, fun _ _ _ hl => by cases hl⟩,
    List.forall_mem_cons.mpr ⟨⟨?_, fun _ _ _ hl => by cases hl⟩,
    List.forall_mem_cons.mpr ⟨⟨trivial, fun _ _ _ hl => by cases hl⟩,
    fun _ h => nomatch h⟩⟩⟩⟩⟩⟩
  -- worker 1 has nothing in hand when worker 0 looks at its entry
  rintro e f _ _ _ _ v hv (hf | hf)
  · rw [hother v hv] at hf
    cases hf
  · rw [hother v hv] at hf
    cases hf

/-- A fiber for thread 0 calls `YieldToReady` there; it is scheduled again for
    any thread, and thread 1 swaps it in. -/
theorem task_on_another_thread :
    ∃ x, Reachable (pinnedSchedulers 2) x ∧ x.1.Executes 1 0 ∧ x.2 0 = some 0 := by
  have hrun := (pinnedSchedulers 2).run_of_exec (s := (Scheduler.start 2, fun _ => none))
    [.newFiber, .schedule (some (.fiber 0)) (some 0), .scan 0, .dispatch 0, .swapIn 0,
     .yieldToReady 0, .switch 0, .decrement 0, .settle 0, .scan 1, .dispatch 1, .swapIn 1]
    (by decide)
  exact ⟨_, ⟨(Scheduler.start 2, fun _ => none), _, ⟨rfl, rfl⟩, hrun⟩, ⟨false, by decide⟩, by decide⟩

end MNSER
