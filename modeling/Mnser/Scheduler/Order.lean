import Mnser.Scheduler.Entries

/-! # The order of the callbacks

    `schedule` appends to `m_fibers` and a worker's scan takes the first
    entry it may run, so a callback can only be overtaken by an entry for
    another thread or by a fiber.  Callbacks for one thread keep the order
    in which they were passed to `schedule`, whatever the workers do.

    A fiber has no such order: it is passed over as long as it is running. -/

namespace MNSER

open LTS Sched

namespace Scheduler

variable {n : Nat}

/-! ## Section 1: The scan -/

/-- A callback, for this thread or for any. -/
def callback (thread : Option ThreadId) (e : Entry) : Bool :=
  match e.task with
  | .func _  => decide (e.thread = thread)
  | .fiber _ => false

theorem callback_thread {thread : Option ThreadId} {e : Entry} (h : callback thread e = true) :
    e.thread = thread := by
  unfold callback at h
  split at h
  · exact of_decide_eq_true h
  · cases h

/-- The scan does not pass over a callback for its state. -/
theorem callback_not_exec {thread : Option ThreadId} {e : Entry}
    (h : callback thread e = true) (state : Sched.FiberId → State) : isExec state e = false := by
  unfold callback at h
  unfold isExec
  split at h
  · rename_i g htask
    rw [htask]
  · cases h

/-- What is taken comes before all callbacks for the same thread that stay. -/
theorem scanQueue_callbacks (state : Sched.FiberId → State) (me : ThreadId)
    (thread : Option ThreadId) (queue : List Entry) :
    queue.filter (callback thread) =
      (scanQueue state me queue).1.toList.filter (callback thread) ++
        (scanQueue state me queue).2.1.filter (callback thread) := by
  induction queue with
  | nil => rfl
  | cons e rest ih =>
    -- a callback that is passed over is not this worker's, so what is taken is another thread's
    have hover : callback thread e = true → ¬ MayRun me e →
        (scanQueue state me rest).1.toList.filter (callback thread) = [] := by
      intro he hnot
      rw [List.filter_eq_nil_iff]
      intro x hx hcallback
      apply hnot
      have hmine := (scanQueue_spec state me rest).mine x (Option.mem_toList.mp hx)
      rw [MayRun, callback_thread hcallback, ← callback_thread he] at hmine
      exact hmine
    by_cases hthread : e.thread ≠ none ∧ e.thread ≠ some me
    · rw [scanQueue, if_pos hthread]
      dsimp only
      rw [List.filter_cons, List.filter_cons, ih]
      split
      · rename_i he
        rw [hover he fun h => h.elim hthread.1 hthread.2]
        rfl
      · rfl
    · by_cases hexec : isExec state e = true
      · have he : ¬ callback thread e = true := fun h => by
          rw [callback_not_exec h state] at hexec
          cases hexec
        rw [scanQueue, if_neg hthread, if_pos hexec]
        dsimp only
        rw [List.filter_cons, List.filter_cons, if_neg he, if_neg he, ih]
      · rw [scanQueue, if_neg hthread, if_neg hexec]
        dsimp only
        rw [Option.toList_some, ← List.filter_append, List.singleton_append]

/-! ## Section 2: How a step moves the entries -/

/-- Entries are put at the end of the queue, taken out of it by a worker, or
    done with. -/
inductive Flow (s t : Scheduler n) (l : Label n) : Prop where
  | stays : t.fibers = s.fibers ++ passedStep s l → s.picked l = none →
      (∀ w, (t.worker w).pc.entry = (s.worker w).pc.entry) → t.finished = s.finished → Flow s t l
  | takes (w : Fin n) : l = .scan w → (s.worker w).pc.entry = none →
      t.fibers = (scanQueue s.state w s.fibers).2.1 →
      (t.worker w).pc.entry = s.picked l →
      (∀ v, v ≠ w → (t.worker v).pc.entry = (s.worker v).pc.entry) →
      t.finished = s.finished → Flow s t l
  | leaves (w : Fin n) (e : Entry) (outcome : Outcome) : t.fibers = s.fibers →
      passedStep s l = [] → s.picked l = none → (s.worker w).pc.entry = some e →
      (t.worker w).pc.entry = none →
      (∀ v, v ≠ w → (t.worker v).pc.entry = (s.worker v).pc.entry) →
      t.finished = s.finished ++ [⟨e, w, outcome⟩] → Flow s t l

/-- The other workers keep their entries. -/
theorem entry_setWorker {s t : Scheduler n} {w : Fin n} {x : Worker}
    (h : t.worker = (s.setWorker w x).worker) {v : Fin n} (hv : v ≠ w) :
    (t.worker v).pc.entry = (s.worker v).pc.entry := by
  rw [h, setWorker_ne s x hv]

/-- A worker goes on with the entry it holds, if any. -/
theorem Flow.goto {s t : Scheduler n} {l : Label n} {w : Fin n} {x : Worker}
    (hworker : t.worker = (s.setWorker w x).worker) (hentry : x.pc.entry = (s.worker w).pc.entry)
    (hqueue : t.fibers = s.fibers ++ passedStep s l) (hpicked : s.picked l = none)
    (hfinished : t.finished = s.finished) : Flow s t l := by
  apply Flow.stays hqueue hpicked
  · intro v
    by_cases hv : v = w
    · subst hv
      rw [hworker, setWorker_self, hentry]
    · exact entry_setWorker hworker hv
  · exact hfinished

/-- A worker is done with its entry. -/
theorem Flow.gone {s t : Scheduler n} {l : Label n} {w : Fin n} {x : Worker} {e : Entry}
    {outcome : Outcome} (hworker : t.worker = (s.setWorker w x).worker)
    (hentry : (s.worker w).pc.entry = some e) (hnone : x.pc.entry = none)
    (hqueue : t.fibers = s.fibers) (hpassed : passedStep s l = []) (hpicked : s.picked l = none)
    (hfinished : t.finished = s.finished ++ [⟨e, w, outcome⟩]) : Flow s t l := by
  refine .leaves w e outcome hqueue hpassed hpicked hentry ?_ ?_ hfinished
  · rw [hworker, setWorker_self, hnone]
  · exact fun v hv => entry_setWorker hworker hv

/-- Entries come in at the end of the queue only, leave it in the scan only, and are
    done with at the swap-in or where their fiber is found dead. -/
theorem flow_next {s t : Scheduler n} {l : Label n} (hnext : next s l = some t) : Flow s t l := by
  -- a step of somebody else
  have hother : ∀ t : Scheduler n, t.worker = s.worker →
      t.fibers = s.fibers ++ passedStep s l → s.picked l = none → t.finished = s.finished →
      Flow s t l :=
    fun t hworker hqueue hpicked hfinished =>
      .stays hqueue hpicked (fun w => by rw [hworker]) hfinished
  have hnil : s.fibers = s.fibers ++ [] := (List.append_nil _).symm
  cases next_cases hnext with
  | schedule | scheduleAll => exact hother _ rfl rfl rfl rfl
  | callTickle | tickleFound | tickleNobody | tickleWrite | newFiber | stop =>
    exact hother _ rfl hnil rfl rfl
  | scan w hpc =>
    refine .takes w rfl (by rw [hpc]; rfl) rfl ?_ (fun v hv => entry_setWorker rfl hv) rfl
    show ((s.setPc w _).worker w).pc.entry = _
    rw [setPc, setWorker_self]
    exact tickleIf_entry _ _
  | workerFound w k hpc =>
    exact @Flow.goto n s _ (.workerTickle w) w _ rfl (by rw [hpc]; rfl) hnil rfl rfl
  | workerNobody w k hpc =>
    exact @Flow.goto n s _ (.workerTickle w) w _ rfl (by rw [hpc]; exact after_entry k) hnil rfl rfl
  | workerWrite w k hpc =>
    exact @Flow.goto n s _ (.workerWrite w) w _ rfl (by rw [hpc]; exact after_entry k) hnil rfl rfl
  | dispatchNone w hpc =>
    apply @Flow.goto n s _ (.dispatch w) w _ rfl _ hnil rfl rfl
    rw [hpc]
    split <;> rfl
  | dispatchFiber w e f hpc | dispatchReset w e g f hpc | dispatchNew w e g hpc =>
    exact @Flow.goto n s _ (.dispatch w) w _ rfl (by rw [hpc]; rfl) hnil rfl rfl
  | dispatchDead w e f hpc =>
    exact @Flow.gone n s _ (.dispatch w) w _ e _ rfl (by rw [hpc]; rfl) rfl rfl rfl rfl rfl
  | swapIn w f cb e hpc =>
    exact @Flow.gone n s _ (.swapIn w) w _ e _ rfl (by rw [hpc]; rfl) rfl rfl rfl rfl rfl
  | yieldToReady w f cb hpc =>
    exact @Flow.goto n s _ (.yieldToReady w) w _ rfl (by rw [hpc]; rfl) hnil rfl rfl
  | yieldToHold w f cb hpc =>
    exact @Flow.goto n s _ (.yieldToHold w) w _ rfl (by rw [hpc]; rfl) hnil rfl rfl
  | finish w threw f cb hpc =>
    exact @Flow.goto n s _ (.finish w threw) w _ rfl (by rw [hpc]; rfl) hnil rfl rfl
  | switch w f cb hpc =>
    exact @Flow.goto n s _ (.switch w) w _ rfl (by rw [hpc]; rfl) hnil rfl rfl
  | decrement w f cb hpc =>
    exact @Flow.goto n s _ (.decrement w) w _ rfl (by rw [hpc]; rfl) hnil rfl rfl
  | decrementDropped w hpc =>
    exact @Flow.goto n s _ (.decrement w) w _ rfl (by rw [hpc]; rfl) hnil rfl rfl
  | settleReady w f cb hpc hready =>
    -- the fiber is queued again
    refine @Flow.goto n s _ (.settle w) w
      { s.worker w with pc := tickleIf s.fibers.isEmpty .scan,
                        cb_fiber := if cb then none else (s.worker w).cb_fiber }
      rfl ?_ ?_ rfl rfl
    · rw [tickleIf_entry, hpc]
      rfl
    · rw [passedStep_settle hpc, if_pos hready]
      rfl
  | settleKept w f hpc hdead | settleDead w f hpc hdead =>
    refine @Flow.goto n s _ (.settle w) w _ rfl (by rw [hpc]; rfl) ?_ rfl rfl
    rw [passedStep_settle hpc, if_neg (by rcases hdead with hdead | hdead <;> rw [hdead] <;> decide)]
    exact hnil
  | settleHold w f cb hpc hready =>
    refine @Flow.goto n s _ (.settle w) w _ rfl (by rw [hpc]; rfl) ?_ rfl rfl
    rw [passedStep_settle hpc, if_neg hready]
    exact hnil
  | enterIdle w hpc =>
    exact @Flow.goto n s _ (.enterIdle w) w _ rfl (by rw [hpc]; rfl) hnil rfl rfl
  | idleEnds w b hpc | idleBlocks w b hpc =>
    exact @Flow.goto n s _ (.idleCheck w b) w _ rfl (by rw [hpc]; rfl) hnil rfl rfl
  | wakeTickled w hpc =>
    exact @Flow.goto n s _ (.wake w true) w _ rfl (by rw [hpc]; rfl) hnil rfl rfl
  | wakeOther w hpc =>
    exact @Flow.goto n s _ (.wake w false) w _ rfl (by rw [hpc]; rfl) hnil rfl rfl
  | drain w tickled hpc =>
    exact @Flow.goto n s _ (.drain w) w _ rfl (by rw [hpc]; rfl) hnil rfl rfl
  | leaveIdle w hpc =>
    exact @Flow.goto n s _ (.leaveIdle w) w _ rfl (by rw [hpc]; rfl) hnil rfl rfl

/-! ## Section 3: The order of a run -/

/-- The entries taken out of the queue in a run, in this order. -/
def taken (tr : List (Scheduler n × Label n)) : List Entry :=
  tr.flatMap fun step => (step.1.picked step.2).toList

/-- What was taken is taken step by step. -/
theorem taken_snoc (tr : List (Scheduler n × Label n)) (s : Scheduler n) (l : Label n) :
    taken (tr ++ [(s, l)]) = taken tr ++ (s.picked l).toList := by
  simp [taken]

/-- Of the callbacks for one thread those that were taken were passed first,
    and a worker is done with its own in the order it took them. -/
structure InOrder (all picks : List Entry) (s : Scheduler n) : Prop where
  queue : ∀ thread, all.filter (callback thread) =
            picks.filter (callback thread) ++ s.fibers.filter (callback thread)
  hands : ∀ w : Fin n, picks.filter (callback (some ↑w)) =
            (s.finished.map Finished.entry).filter (callback (some ↑w)) ++
              (s.worker w).pc.entry.toList.filter (callback (some ↑w))

/-- A worker holds no callback for another worker's thread. -/
theorem Accounted.not_mine {all : List Entry} {s : Scheduler n} (h : Accounted all s)
    {v w : Fin n} (hv : v ≠ w) {e : Entry} (he : (s.worker v).pc.entry = some e) :
    ¬ callback (some ↑w) e = true := by
  intro hcallback
  rcases h.held v e he with hnone | hsome
  · rw [callback_thread hcallback] at hnone
    cases hnone
  · rw [callback_thread hcallback] at hsome
    exact hv (Fin.ext (Option.some.inj hsome).symm)

/-- A step takes callbacks in the order they were passed in. -/
theorem inOrder_next {all picks : List Entry} {s t : Scheduler n} {l : Label n}
    (h : InOrder all picks s) (haccounted : Accounted all s) (hnext : next s l = some t) :
    InOrder (all ++ passedStep s l) (picks ++ (s.picked l).toList) t := by
  cases flow_next hnext with
  | stays hqueue hpicked hhands hfinished =>
    rw [hpicked, Option.toList_none, List.append_nil]
    refine ⟨fun thread => ?_, fun w => ?_⟩
    · rw [hqueue, List.filter_append, List.filter_append, h.queue thread, List.append_assoc]
    · rw [hfinished, hhands w]
      exact h.hands w
  | takes w hl hnone hqueue hhand hothers hfinished =>
    subst hl
    refine ⟨fun thread => ?_, fun v => ?_⟩
    · rw [hqueue, show passedStep s (.scan w) = [] from rfl, List.append_nil, List.filter_append,
        List.append_assoc, h.queue thread, scanQueue_callbacks s.state w thread s.fibers]
      rfl
    · rw [List.filter_append, h.hands v, hfinished]
      by_cases hv : v = w
      · subst hv
        rw [hhand, hnone, Option.toList_none, List.filter_nil, List.append_nil]
      · -- another worker takes none of the callbacks of `v`
        rw [hothers v hv]
        have hnot : (s.picked (.scan w)).toList.filter (callback (some ↑v)) = [] := by
          rw [List.filter_eq_nil_iff]
          intro e he hcallback
          have hmine := (scanQueue_spec s.state w s.fibers).mine e (Option.mem_toList.mp he)
          rw [MayRun, callback_thread hcallback] at hmine
          rcases hmine with hnone | hsome
          · cases hnone
          · exact hv (Fin.ext (Option.some.inj hsome))
        rw [hnot, List.append_nil]
  | leaves w e outcome hqueue hpassed hpicked hentry hgone hothers hfinished =>
    rw [hpicked, hpassed, Option.toList_none, List.append_nil, List.append_nil]
    refine ⟨fun thread => ?_, fun v => ?_⟩
    · rw [hqueue]
      exact h.queue thread
    · rw [hfinished, List.map_append, List.filter_append, h.hands v]
      by_cases hv : v = w
      · subst hv
        rw [hentry, hgone, Option.toList_none, List.filter_nil, List.append_nil]
        rfl
      · have hnot : ¬ callback (some ↑v) e = true := haccounted.not_mine (Ne.symm hv) hentry
        rw [hothers v hv, List.map_singleton, List.filter_cons_of_neg hnot, List.filter_nil,
          List.append_nil]

end Scheduler

/-- Callbacks for one thread leave the queue in the order they were passed to
    `schedule`, and a worker starts those for its own thread in this order. -/
theorem callbacks_in_order {n : Nat} {s : Scheduler n}
    {tr : List (Scheduler n × Scheduler.Label n)}
    (hrun : Run (schedulers n) (Scheduler.start n) tr s) :
    (∀ thread, (Scheduler.passed tr).filter (Scheduler.callback thread) =
      (Scheduler.taken tr).filter (Scheduler.callback thread) ++
        s.fibers.filter (Scheduler.callback thread)) ∧
    (∀ w : Fin n, (Scheduler.passed tr).filter (Scheduler.callback (some ↑w)) =
      (s.finished.map Finished.entry).filter (Scheduler.callback (some ↑w)) ++
        (s.worker w).pc.entry.toList.filter (Scheduler.callback (some ↑w)) ++
        s.fibers.filter (Scheduler.callback (some ↑w))) := by
  have h : Scheduler.Accounted (Scheduler.passed tr) s ∧
      Scheduler.InOrder (Scheduler.passed tr) (Scheduler.taken tr) s := by
    refine hrun.trace_invariant (I := fun tr s => Scheduler.Accounted (Scheduler.passed tr) s ∧
      Scheduler.InOrder (Scheduler.passed tr) (Scheduler.taken tr) s) ?_
      ⟨Scheduler.accounted_start n, ⟨fun _ => rfl, fun _ => rfl⟩⟩
    intro tr s l t hs hnext
    rw [Scheduler.passed_snoc, Scheduler.taken_snoc]
    exact ⟨Scheduler.accounted_next hs.1 hnext, Scheduler.inOrder_next hs.2 hs.1 hnext⟩
  refine ⟨h.2.queue, fun w => ?_⟩
  rw [h.2.queue, h.2.hands w]

/-- Two callbacks for worker 0, one for any thread and a fiber between them. -/
theorem callbacks_in_order_two :
    ∃ s tr, Run (schedulers 2) (Scheduler.start 2) tr s ∧
      (Scheduler.passed tr).filter (Scheduler.callback (some 0)) =
        [⟨0, .func 7, some 0⟩, ⟨3, .func 8, some 0⟩] ∧
      (s.finished.map Finished.entry).filter (Scheduler.callback (some 0)) =
        [⟨0, .func 7, some 0⟩] ∧
      (Scheduler.passed tr).filter (Scheduler.callback (some 0)) =
        (s.finished.map Finished.entry).filter (Scheduler.callback (some 0)) ++
          (s.worker 0).pc.entry.toList.filter (Scheduler.callback (some 0)) ++
          s.fibers.filter (Scheduler.callback (some 0)) := by
  have hrun := (schedulers 2).run_of_exec (s := Scheduler.start 2)
    [.newFiber, .schedule (some (.func 7)) (some 0), .schedule (some (.fiber 0)) none,
     .schedule (some (.func 9)) none, .schedule (some (.func 8)) (some 0), .scan 1,
     .scan 0, .workerTickle 0, .dispatch 0, .swapIn 0]
    (by decide)
  exact ⟨_, _, hrun, by decide, by decide, (callbacks_in_order hrun).2 0⟩

end MNSER
