import Mathlib.Algebra.BigOperators.Ring.Finset
import Mathlib.Data.Fintype.BigOperators
import Mnser.Framework.Custody
import Mnser.Scheduler.Model

/-! # Where the scheduled entries are

    Every entry passed to `schedule` is in one place: in `m_fibers`, with the
    worker that removed it, or finished with.  The places are counted as
    multisets, so that an entry in two places or twice in one place shows.

    The workers' share of the places and of `m_activeThreadCount` are sums
    over the workers.  A step moves one worker, so it changes one summand. -/

namespace MNSER

open LTS Sched

namespace Scheduler

variable {n : Nat}

/-! ## Section 1: Places -/

/-- All places an entry can be in. -/
def places (s : Scheduler n) : Multiset Entry :=
  ↑s.fibers + ∑ w, ((s.worker w).pc.entry.toList : Multiset Entry) +
    ↑(s.finished.map Finished.entry)

/-- Between removing an entry and the matching `--m_activeThreadCount`. -/
def activePc : Pc → Bool
  | .tickle k        => k.entry.isSome
  | .write k         => k.entry.isSome
  | .dispatch ft     => ft.isSome
  | .swapIn _ _ _    => true
  | .running _ _     => true
  | .leaving _ _     => true
  | .returned _ _    => true
  | .dropped         => true
  | _                => false

def counted (pc : Pc) : Int := if activePc pc then 1 else 0

/-- An entry is finished with once its callback or fiber was swapped in, or
    when its fiber was found dead. -/
def Ended (x : Finished) : Prop :=
  x.outcome = .swappedIn ∨ ∃ f, x.entry.task = .fiber f ∧
    (x.outcome = .dead .TERM ∨ x.outcome = .dead .EXCEPT)

/-- The entries a step passes to `schedule`; a worker does so too, with a
    fiber that came back `READY`. -/
def passedStep (s : Scheduler n) : Label n → List Entry
  | .schedule task thread => numbered thread s.issued [task]
  | .scheduleAll tasks    => numbered none s.issued tasks
  | .settle w =>
    match (s.worker w).pc with
    | .settle f _ => if s.state f = .READY then [⟨s.issued, .fiber f, none⟩] else []
    | _ => []
  | _ => []

/-- The entries ever passed to `schedule` in a run. -/
def passed (tr : List (Scheduler n × Label n)) : List Entry :=
  tr.flatMap fun step => passedStep step.1 step.2

theorem passed_snoc (tr : List (Scheduler n × Label n)) (s : Scheduler n) (l : Label n) :
    passed (tr ++ [(s, l)]) = passed tr ++ passedStep s l := by
  simp [passed]

/-! ## Section 2: The invariant -/

structure Accounted (all : List Entry) (s : Scheduler n) : Prop where
  places   : s.places = ↑all
  serials  : all.map Entry.serial = List.range s.issued
  held     : ∀ w e, (s.worker w).pc.entry = some e → MayRun w e
  finished : ∀ x ∈ s.finished, MayRun x.worker x.entry ∧ Ended x
  active   : s.activeThreadCount = ∑ w, counted (s.worker w).pc

/-- A sum over the workers when one of them changes. -/
theorem sum_setWorker {M : Type} [AddCommMonoid M] (g : Worker → M) (s : Scheduler n)
    (w : Fin n) (x : Worker) :
    ∑ v, g ((s.setWorker w x).worker v) + g (s.worker w) = ∑ v, g (s.worker v) + g x := by
  have hchanged : ∑ v, g ((s.setWorker w x).worker v) = g x + Custody.others g s.worker w :=
    Custody.sum_update g s.worker w x
  rw [hchanged, Custody.sum_eq_others g s.worker w]
  ac_rfl

/-- What a step of worker `w` to `x` does: `new` entries come in. -/
structure Moves (s t : Scheduler n) (w : Fin n) (x : Worker) (new : List Entry) : Prop where
  worker   : t.worker = (s.setWorker w x).worker
  issued   : t.issued = s.issued + new.length
  serials  : new.map Entry.serial = List.range' s.issued new.length
  places   : (t.fibers ++ x.pc.entry.toList ++ t.finished.map Finished.entry).Perm
               (s.fibers ++ (s.worker w).pc.entry.toList ++
                 s.finished.map Finished.entry ++ new)
  held     : ∀ e, x.pc.entry = some e → (s.worker w).pc.entry = some e ∨ MayRun w e
  finished : ∀ y ∈ t.finished, y ∈ s.finished ∨
               Ended y ∧ y.worker = w ∧ (s.worker w).pc.entry = some y.entry
  active   : t.activeThreadCount + counted (s.worker w).pc =
               s.activeThreadCount + counted x.pc

/-- A move neither loses nor doubles an entry. -/
theorem Moves.placed {s t : Scheduler n} {w : Fin n} {x : Worker} {new : List Entry}
    (h : Moves s t w x new) : t.places = s.places + ↑new := by
  have hsum := sum_setWorker (fun y => (y.pc.entry.toList : Multiset Entry)) s w x
  have hperm := Multiset.coe_eq_coe.mpr h.places
  simp only [← Multiset.coe_add] at hperm
  apply add_right_cancel (b := ((s.worker w).pc.entry.toList : Multiset Entry))
  calc t.places + ↑(s.worker w).pc.entry.toList
      = ↑t.fibers + ↑(t.finished.map Finished.entry) +
          (∑ v, ((t.worker v).pc.entry.toList : Multiset Entry) +
            ↑(s.worker w).pc.entry.toList) := by
        unfold Scheduler.places
        ac_rfl
    _ = ↑t.fibers + ↑(t.finished.map Finished.entry) +
          (∑ v, ((s.worker v).pc.entry.toList : Multiset Entry) + ↑x.pc.entry.toList) := by
        rw [h.worker, hsum]
    _ = ∑ v, ((s.worker v).pc.entry.toList : Multiset Entry) +
          (↑t.fibers + ↑x.pc.entry.toList + ↑(t.finished.map Finished.entry)) := by
        ac_rfl
    _ = s.places + ↑new + ↑(s.worker w).pc.entry.toList := by
        rw [hperm]
        unfold Scheduler.places
        ac_rfl

/-- The serial numbers go on where they were. -/
theorem serials_append {all new : List Entry} {k : Nat}
    (hall : all.map Entry.serial = List.range k)
    (hnew : new.map Entry.serial = List.range' k new.length) :
    (all ++ new).map Entry.serial = List.range (k + new.length) := by
  rw [List.map_append, hall, hnew, List.range_eq_range', List.range_eq_range',
    ← List.range'_append_1, Nat.zero_add]

/-- A move keeps every entry in exactly one place. -/
theorem Accounted.move {all new : List Entry} {s t : Scheduler n} {w : Fin n} {x : Worker}
    (h : Accounted all s) (hmove : Moves s t w x new) : Accounted (all ++ new) t where
  places := by
    rw [hmove.placed, h.places]
    rfl
  serials := by
    rw [hmove.issued]
    exact serials_append h.serials hmove.serials
  held := by
    intro v e he
    rw [hmove.worker] at he
    by_cases hvw : v = w
    · subst hvw
      rw [setWorker_self] at he
      rcases hmove.held e he with hold | hmay
      · exact h.held v e hold
      · exact hmay
    · rw [setWorker_ne _ _ hvw] at he
      exact h.held v e he
  finished := by
    intro y hy
    rcases hmove.finished y hy with hold | ⟨hended, hworker, hentry⟩
    · exact h.finished y hold
    · rw [hworker]
      exact ⟨h.held w y.entry hentry, hended⟩
  active := by
    -- one worker changes, so the sum changes by what it counts for
    have hsum := sum_setWorker (fun y => counted y.pc) s w x
    have hcount := hmove.active
    have hbefore := h.active
    rw [hmove.worker]
    omega

/-- No worker moves; `new` entries are put at the end of the queue. -/
theorem Accounted.push {all new : List Entry} {s t : Scheduler n} (h : Accounted all s)
    (hworker : t.worker = s.worker) (hqueue : t.fibers = s.fibers ++ new)
    (hissued : t.issued = s.issued + new.length)
    (hserials : new.map Entry.serial = List.range' s.issued new.length)
    (hfinished : t.finished = s.finished)
    (hactive : t.activeThreadCount = s.activeThreadCount) : Accounted (all ++ new) t where
  places := by
    rw [← Multiset.coe_add, ← h.places]
    unfold Scheduler.places
    rw [hworker, hqueue, hfinished, ← Multiset.coe_add]
    ac_rfl
  serials := by
    rw [hissued]
    exact serials_append h.serials hserials
  held := by
    rw [hworker]
    exact h.held
  finished := by
    rw [hfinished]
    exact h.finished
  active := by
    rw [hworker, hactive]
    exact h.active

/-- A worker goes on with the entry it holds, if any. -/
theorem Accounted.goto {all : List Entry} {s t : Scheduler n} {w : Fin n} {x : Worker}
    (h : Accounted all s) (hworker : t.worker = (s.setWorker w x).worker)
    (hqueue : t.fibers = s.fibers) (hissued : t.issued = s.issued)
    (hfinished : t.finished = s.finished)
    (hentry : x.pc.entry = (s.worker w).pc.entry)
    (hactive : t.activeThreadCount + counted (s.worker w).pc =
      s.activeThreadCount + counted x.pc) : Accounted (all ++ []) t := by
  refine h.move (w := w) (x := x) ⟨hworker, hissued, rfl, ?_, ?_, ?_, hactive⟩
  · rw [hqueue, hfinished, hentry, List.append_nil]
  · intro e he
    rw [hentry] at he
    exact Or.inl he
  · intro y hy
    rw [hfinished] at hy
    exact Or.inl hy

/-- The worker is done with the entry it holds. -/
theorem Accounted.finish {all : List Entry} {s t : Scheduler n} {w : Fin n} {x : Worker}
    {e : Entry} {outcome : Outcome} (h : Accounted all s)
    (hworker : t.worker = (s.setWorker w x).worker)
    (hqueue : t.fibers = s.fibers) (hissued : t.issued = s.issued)
    (hfinished : t.finished = s.finished ++ [⟨e, w, outcome⟩])
    (hentry : (s.worker w).pc.entry = some e) (hnone : x.pc.entry = none)
    (hended : Ended ⟨e, w, outcome⟩)
    (hactive : t.activeThreadCount + counted (s.worker w).pc =
      s.activeThreadCount + counted x.pc) : Accounted (all ++ []) t := by
  refine h.move (w := w) (x := x) ⟨hworker, hissued, rfl, ?_, ?_, ?_, hactive⟩
  · rw [hqueue, hfinished, hentry, hnone, List.map_append, List.append_nil,
      Option.toList_none, List.append_nil, Option.toList_some, List.append_assoc]
    exact List.perm_append_comm.append_left s.fibers
  · intro e' he'
    rw [hnone] at he'
    cases he'
  · intro y hy
    rw [hfinished] at hy
    rcases List.mem_append.mp hy with hy | hy
    · exact Or.inl hy
    · obtain rfl := List.mem_singleton.mp hy
      exact Or.inr ⟨hended, rfl, hentry⟩

/-! ## Section 3: Steps -/

theorem counted_tickleIf (need : Bool) (k : After) :
    counted (tickleIf need k) = if k.entry.isSome then 1 else 0 := by
  cases need <;> cases k <;> rfl

theorem counted_after (k : After) :
    counted (After.pc k) = if k.entry.isSome then 1 else 0 := by
  cases k <;> rfl

/-- The scan moves the entry it takes to its worker. -/
theorem accounted_scan {all : List Entry} {s : Scheduler n} (h : Accounted all s)
    {w : Fin n} (hpc : (s.worker w).pc = .scan) :
    Accounted (all ++ []) ({ s with
      fibers            := (scanQueue s.state w s.fibers).2.1,
      activeThreadCount := if (scanQueue s.state w s.fibers).1.isSome
        then s.activeThreadCount + 1 else s.activeThreadCount }.setPc w
      (tickleIf (scanQueue s.state w s.fibers).2.2
        (.dispatch (scanQueue s.state w s.fibers).1))) := by
  have hspec := scanQueue_spec s.state w s.fibers
  have hentry : ∀ need ft, (tickleIf need (.dispatch ft)).entry = ft :=
    fun need ft => tickleIf_entry need (.dispatch ft)
  refine h.move (w := w) ⟨rfl, rfl, rfl, ?_, ?_, ?_, ?_⟩
  · -- what is taken out of the queue is in the worker's hands
    show List.Perm ((scanQueue s.state w s.fibers).2.1 ++
      (tickleIf _ (.dispatch _)).entry.toList ++ s.finished.map Finished.entry) _
    rw [hentry, hpc, List.append_nil]
    apply List.Perm.append_right
    rw [show (Pc.scan.entry.toList : List Entry) = [] from rfl, List.append_nil]
    exact List.perm_append_comm.trans hspec.perm
  · intro e he
    exact Or.inr (hspec.mine e ((hentry _ _).symm.trans he))
  · exact fun y hy => Or.inl hy
  · -- `++m_activeThreadCount` exactly when something was picked
    show (if _ then _ else _) + _ = _ + counted (tickleIf _ (.dispatch _))
    rw [counted_tickleIf, hpc]
    show (if (scanQueue s.state w s.fibers).1.isSome then _ else _) + (0 : Int) =
      _ + if (scanQueue s.state w s.fibers).1.isSome then 1 else 0
    split <;> omega

/-- A fiber that came back `READY` is queued again, as a new entry. -/
theorem accounted_settleReady {all : List Entry} {s : Scheduler n} (h : Accounted all s)
    {w : Fin n} {f : Sched.FiberId} {cb : Bool} (hpc : (s.worker w).pc = .settle f cb)
    (cb_fiber : Option Sched.FiberId) :
    Accounted (all ++ [⟨s.issued, .fiber f, none⟩])
      ((s.pushed none [some (.fiber f)]).setWorker w
        { s.worker w with pc := tickleIf s.fibers.isEmpty .scan, cb_fiber := cb_fiber }) := by
  have hcounted : counted (s.worker w).pc = 0 := by rw [hpc]; rfl
  have hentry : (s.worker w).pc.entry = none := by rw [hpc]; rfl
  refine h.move (w := w) ⟨rfl, rfl, rfl, ?_, ?_, fun y hy => Or.inl hy, ?_⟩
  · show List.Perm (s.fibers ++ [_] ++ (tickleIf _ .scan).entry.toList ++ _) _
    rw [tickleIf_entry, hentry]
    show List.Perm (s.fibers ++ [_] ++ [] ++ _) (s.fibers ++ [] ++ _ ++ [_])
    rw [List.append_nil, List.append_nil, List.append_assoc, List.append_assoc]
    exact List.perm_append_comm.append_left s.fibers
  · intro e he
    rw [tickleIf_entry] at he
    cases he
  · rw [hcounted]
    show s.activeThreadCount + 0 = s.activeThreadCount + counted (tickleIf _ .scan)
    rw [counted_tickleIf]
    rfl

/-- A fiber that has yielded as ready is passed in again. -/
theorem passedStep_settle {s : Scheduler n} {w : Fin n} {f : Sched.FiberId} {cb : Bool}
    (hpc : (s.worker w).pc = .settle f cb) :
    passedStep s (.settle w) = if s.state f = .READY then [⟨s.issued, .fiber f, none⟩] else [] := by
  simp only [passedStep, hpc]

/-- Every entry stays in one place: a step moves it from the queue to a worker or
    from a worker to the finished ones, and what comes in is what was passed. -/
theorem accounted_next {all : List Entry} {s t : Scheduler n} {l : Label n}
    (h : Accounted all s) (hnext : next s l = some t) :
    Accounted (all ++ passedStep s l) t := by
  -- a step of somebody else that touches no entry
  have hother : ∀ t : Scheduler n, t.worker = s.worker → t.fibers = s.fibers →
      t.issued = s.issued → t.finished = s.finished →
      t.activeThreadCount = s.activeThreadCount → Accounted (all ++ []) t := by
    intro t hworker hqueue hissued hfinished hactive
    exact h.push hworker (by rw [hqueue, List.append_nil]) hissued rfl hfinished hactive
  -- after `tickle` the worker holds the entry it held
  have hafter : ∀ (w : Fin n) (k : After), (s.worker w).pc = .tickle k ∨ (s.worker w).pc = .write k →
      (After.pc k).entry = (s.worker w).pc.entry ∧ counted (After.pc k) = counted (s.worker w).pc := by
    intro w k hpc
    rw [after_entry, counted_after]
    rcases hpc with hpc | hpc <;> rw [hpc] <;> exact ⟨rfl, rfl⟩
  cases next_cases hnext with
  | schedule task thread =>
    exact h.push rfl rfl rfl (numbered_serials thread [task] s.issued) rfl rfl
  | scheduleAll tasks => exact h.push rfl rfl rfl (numbered_serials none tasks s.issued) rfl rfl
  | callTickle | tickleFound | tickleNobody | tickleWrite | newFiber | stop =>
    exact hother _ rfl rfl rfl rfl rfl
  | scan w hpc => exact accounted_scan h hpc
  | workerFound w k hpc =>
    exact h.goto (w := w) rfl rfl rfl rfl (by rw [hpc]; rfl) (by rw [hpc]; rfl)
  | workerNobody w k hpc =>
    obtain ⟨hentry, hcounted⟩ := hafter w k (Or.inl hpc)
    exact h.goto (w := w) rfl rfl rfl rfl hentry (by rw [← hcounted]; rfl)
  | workerWrite w k hpc =>
    obtain ⟨hentry, hcounted⟩ := hafter w k (Or.inr hpc)
    exact h.goto (w := w) rfl rfl rfl rfl hentry (by rw [← hcounted]; rfl)
  | dispatchNone w hpc =>
    refine h.goto (w := w) rfl rfl rfl rfl ?_ ?_
    · rw [hpc]; split <;> rfl
    · rw [hpc]; split <;> rfl
  | dispatchFiber w e f hpc =>
    exact h.goto (w := w) rfl rfl rfl rfl (by rw [hpc]; rfl) (by rw [hpc]; rfl)
  | dispatchDead w e f hpc htask hdead =>
    -- the entry is dropped: its fiber has ended already
    refine h.finish (w := w) rfl rfl rfl rfl (by rw [hpc]; rfl) rfl ?_ (by rw [hpc]; rfl)
    exact Or.inr ⟨f, htask, hdead.imp (congrArg Outcome.dead) (congrArg Outcome.dead)⟩
  | dispatchReset w e g f hpc =>
    exact h.goto (w := w) rfl rfl rfl rfl (by rw [hpc]; rfl) (by rw [hpc]; rfl)
  | dispatchNew w e g hpc =>
    exact h.goto (w := w) rfl rfl rfl rfl (by rw [hpc]; rfl) (by rw [hpc]; rfl)
  | swapIn w f cb e hpc =>
    exact h.finish (w := w) rfl rfl rfl rfl (by rw [hpc]; rfl) rfl (Or.inl rfl) (by rw [hpc]; rfl)
  | decrement w f cb hpc =>
    -- the matching decrement
    refine h.goto (w := w) rfl rfl rfl rfl (by rw [hpc]; rfl) ?_
    rw [hpc]
    show s.activeThreadCount - 1 + 1 = s.activeThreadCount + 0
    omega
  | decrementDropped w hpc =>
    refine h.goto (w := w) rfl rfl rfl rfl (by rw [hpc]; rfl) ?_
    rw [hpc]
    show s.activeThreadCount - 1 + 1 = s.activeThreadCount + 0
    omega
  | settleReady w f cb hpc hready =>
    rw [passedStep_settle hpc, if_pos hready]
    exact accounted_settleReady h hpc _
  | settleKept w f hpc hdead =>
    rw [passedStep_settle hpc, if_neg (by rcases hdead with hdead | hdead <;> rw [hdead] <;> decide)]
    exact h.goto (w := w) rfl rfl rfl rfl (by rw [hpc]; rfl) (by rw [hpc]; rfl)
  | settleDead w f hpc hdead =>
    rw [passedStep_settle hpc, if_neg (by rcases hdead with hdead | hdead <;> rw [hdead] <;> decide)]
    exact h.goto (w := w) rfl rfl rfl rfl (by rw [hpc]; rfl) (by rw [hpc]; rfl)
  | settleHold w f cb hpc hready =>
    rw [passedStep_settle hpc, if_neg hready]
    exact h.goto (w := w) rfl rfl rfl rfl (by rw [hpc]; rfl) (by rw [hpc]; rfl)
  | yieldToReady w f cb hpc | yieldToHold w f cb hpc | finish w threw f cb hpc | switch w f cb hpc
  | enterIdle w hpc | idleEnds w b hpc | idleBlocks w b hpc | wakeTickled w hpc | wakeOther w hpc
  | drain w tickled hpc | leaveIdle w hpc =>
    exact h.goto (w := w) rfl rfl rfl rfl (by rw [hpc]; rfl) (by rw [hpc]; rfl)

/-- Nothing has been passed in. -/
theorem accounted_start (n : Nat) : Accounted [] (start n) where
  places   := by simp [places, start, Pc.entry]
  serials  := rfl
  held     := by intro w e he; cases he
  finished := by intro x hx; cases hx
  active   := by simp [start, counted, activePc]

/-- No entry is passed in twice. -/
theorem Accounted.nodup {all : List Entry} {s : Scheduler n} (h : Accounted all s) :
    all.Nodup := by
  apply List.Nodup.of_map Entry.serial
  rw [h.serials]
  exact List.nodup_range

/-- How often the entry is in the queue, held by a worker, and finished with. -/
theorem count_places (s : Scheduler n) (e : Entry) :
    s.places.count e = s.fibers.count e +
      (Finset.univ.filter fun w => (s.worker w).pc.entry = some e).card +
      (s.finished.map Finished.entry).count e := by
  have hworkers : ∀ w : Fin n,
      ((s.worker w).pc.entry.toList : Multiset Entry).count e =
        if (s.worker w).pc.entry = some e then 1 else 0 := by
    intro w
    cases hentry : (s.worker w).pc.entry with
    | none => rfl
    | some x => simp [Multiset.count_singleton, eq_comm]
  rw [places, Multiset.count_add, Multiset.count_add, Multiset.count_sum',
    Finset.card_filter, Multiset.coe_count, Multiset.coe_count]
  simp only [hworkers]

end Scheduler

/-- Every entry passed to `schedule` is in exactly one place, pinned entries
    are removed by their own thread, and `m_activeThreadCount` is right. -/
theorem entries_accounted {n : Nat} {s : Scheduler n}
    {tr : List (Scheduler n × Scheduler.Label n)}
    (hrun : Run (schedulers n) (Scheduler.start n) tr s) :
    (∀ e ∈ Scheduler.passed tr,
      s.fibers.count e +
        (Finset.univ.filter fun w => (s.worker w).pc.entry = some e).card +
        (s.finished.map Finished.entry).count e = 1) ∧
    (∀ w e, (s.worker w).pc.entry = some e → Scheduler.MayRun w e) ∧
    (∀ x ∈ s.finished, Scheduler.MayRun x.worker x.entry ∧ Scheduler.Ended x) ∧
    s.activeThreadCount =
      (Finset.univ.filter fun w => Scheduler.activePc (s.worker w).pc = true).card := by
  have h : Scheduler.Accounted (Scheduler.passed tr) s := by
    refine hrun.trace_invariant
      (I := fun tr s => Scheduler.Accounted (Scheduler.passed tr) s) ?_
      (Scheduler.accounted_start n)
    intro tr s l t hs hnext
    rw [Scheduler.passed_snoc]
    exact Scheduler.accounted_next hs hnext
  refine ⟨?_, h.held, h.finished, ?_⟩
  · intro e he
    rw [← Scheduler.count_places, h.places, Multiset.coe_count]
    exact List.count_eq_one_of_mem h.nodup he
  · rw [h.active]
    exact Finset.sum_boole _ _

/-- The entry a step removes from the queue. -/
def Scheduler.picked {n : Nat} (s : Scheduler n) : Scheduler.Label n → Option Entry
  | .scan w => (Scheduler.scanQueue s.state w s.fibers).1
  | _       => none

/-- Two entries for fiber 0 are removed before it ever ran.  The first runs it
    to its end, the second is dropped: its fiber was not dead when it was
    picked. -/
theorem entry_dropped_though_alive :
    ∃ s tr, Run (schedulers 2) (Scheduler.start 2) tr s ∧ ∃ x ∈ s.finished,
      x.entry.task = .fiber 0 ∧
      (∀ y ∈ s.finished, y.entry = x.entry → y.outcome ≠ .swappedIn) ∧
      ∀ step ∈ tr, step.1.picked step.2 = some x.entry → step.1.state 0 = .INIT := by
  have hrun := (schedulers 2).run_of_exec (s := Scheduler.start 2)
    [.newFiber, .schedule (some (.fiber 0)) none, .schedule (some (.fiber 0)) none,
     .scan 0, .scan 1, .workerTickle 0, .dispatch 0, .swapIn 0, .finish 0 false, .dispatch 1]
    (by decide)
  exact ⟨_, _, hrun, ⟨⟨1, .fiber 0, none⟩, 1, .dead .TERM⟩, by decide, rfl, by decide,
    by decide⟩

/-- The two entries after the drop. -/
theorem entries_accounted_dropped :
    ∃ s tr, Run (schedulers 2) (Scheduler.start 2) tr s ∧ s.finished.length = 2 ∧
      (Scheduler.passed tr).length = 2 ∧
      (∀ e ∈ Scheduler.passed tr,
        s.fibers.count e +
          (Finset.univ.filter fun w => (s.worker w).pc.entry = some e).card +
          (s.finished.map Finished.entry).count e = 1) ∧
      s.activeThreadCount = 1 := by
  have hrun := (schedulers 2).run_of_exec (s := Scheduler.start 2)
    [.newFiber, .schedule (some (.fiber 0)) none, .schedule (some (.fiber 0)) none,
     .scan 0, .scan 1, .workerTickle 0, .dispatch 0, .swapIn 0, .finish 0 false, .switch 0,
     .decrement 0, .dispatch 1]
    (by decide)
  obtain ⟨hplaces, _, _, hactive⟩ := entries_accounted hrun
  exact ⟨_, _, hrun, by decide, by decide, hplaces, hactive.trans (by decide)⟩

end MNSER
