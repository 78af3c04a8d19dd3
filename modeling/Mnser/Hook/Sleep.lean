import Mnser.Scheduler.Stopping
import Mnser.Timer.Run

/-! # Sleeping

    A hooked `sleep` adds a timer whose callback schedules the fiber, and
    yields.  The callback goes a long way: `listExpiredCb` hands it to a
    worker in `idle`, which passes it to `schedule`; some worker removes it
    from the queue, and a callback fiber runs it.  The fiber may still be on
    its way out when it is scheduled.

    The workers, the timers and the calls of `sleep` run side by side here.
    Other functions, timers and fibers are used by anyone at any time. -/

namespace MNSER

open LTS Sched

/-! ## Section 1: The parts -/

/-- What `sleep` binds for its call number `k`; the numbers of all other
    functions are odd. -/
def wakeUp (k : Nat) : Nat := 2 * k

/-- The call a function was bound for. -/
def sleeper (g : Nat) : Option Nat := if g % 2 = 0 then some (g / 2) else none

/-- The callbacks of sleepers are told by their numbers. -/
theorem sleeper_eq_some {g k : Nat} : sleeper g = some k ↔ g = wakeUp k := by
  unfold sleeper wakeUp
  split
  · rw [Option.some.injEq]
    omega
  · constructor
    · intro h
      cases h
    · intro h
      omega

/-- Two sleepers have two callbacks. -/
theorem wakeUp_inj {j k : Nat} (h : wakeUp j = wakeUp k) : j = k := by
  unfold wakeUp at h
  omega

/-- The call a task was bound for. -/
def Sched.Task.call : Sched.Task → Option Nat
  | .func g  => sleeper g
  | .fiber _ => none

/-- A call of `sleep`: who sleeps, the timer and what it was set to. -/
structure Nap where
  fiber    : Sched.FiberId
  timer    : TimerId
  deadline : Nat
  deriving DecidableEq, Repr

structure Sleepers (n : Nat) where
  sched   : Scheduler n
  timers  : TimerManager FuncId
  /-- the calls of `sleep` so far -/
  naps    : List Nap
  /-- `cbs` of the workers in `idle` -/
  cbs     : List (Fin n × FuncId)
  /-- the calls whose callback a worker has on its stack -/
  started : List (Fin n × Nat)
  /-- the calls whose fiber was scheduled, with the entry -/
  woken   : List (Nat × Entry)
  /-- all entries passed to `schedule` -/
  passed  : List Entry

inductive SleepersLabel (n : Nat) where
  | sched (l : Scheduler.Label n)
  | timer (op : TimerOp FuncId)
  /-- `addTimer` in `sleep`; `YieldToHold` is a step of the scheduler. -/
  | sleep (w : Fin n) (ms addr now : Nat)
  | listExpiredCb (w : Fin n) (now probe : Nat)
  /-- `schedule(cbs.begin(), cbs.end())` -/
  | scheduleCbs (w : Fin n)
  /-- the callback calls `schedule` -/
  | wakeUp (w : Fin n)

namespace Sleepers

variable {n : Nat}

/-- Functions bound by `sleep` are known to nobody else. -/
def Other (task : Option Sched.Task) : Bool := (task.bind Sched.Task.call).isNone

/-- The steps of the scheduler that are not the business of `sleep`: what is
    scheduled has nothing to do with it, a callback runs to its end without
    yielding, and `idle` does not go on before `cbs` is empty. -/
def Lets (s : Sleepers n) : Scheduler.Label n → Bool
  | .schedule task _  => Other task
  | .scheduleAll tasks => tasks.all Other
  | .yieldToReady w   => w ∉ s.started.map Prod.fst
  | .yieldToHold w    => w ∉ s.started.map Prod.fst
  | .finish w _       => w ∉ s.started.map Prod.fst
  | .drain w          => w ∉ s.cbs.map Prod.fst
  | _                 => true

/-- The callback of a call of `sleep` begins. -/
def starts (s : Scheduler n) : Scheduler.Label n → List (Fin n × Nat)
  | .swapIn w =>
    match (s.worker w).pc with
    | .swapIn _ _ e => e.task.call.toList.map fun k => (w, k)
    | _ => []
  | _ => []

/-- The other timers; `sleep` does not keep its own. -/
def Foreign (s : Sleepers n) : TimerOp FuncId → Bool
  | .addTimer _ cb _ _ _ => (sleeper cb).isNone
  | .cancel id           => id ∉ s.naps.map Nap.timer
  | .refresh id _        => id ∉ s.naps.map Nap.timer
  | .reset id _ _ _      => id ∉ s.naps.map Nap.timer
  | .listExpiredCb _ _   => false

/-- A step of the scheduler. -/
def steps (s : Sleepers n) (l : Scheduler.Label n) : Option (Sleepers n) :=
  (s.sched.next l).map fun sched =>
    { s with sched := sched, passed := s.passed ++ Scheduler.passedStep s.sched l }

def next (s : Sleepers n) : SleepersLabel n → Option (Sleepers n)
  | .sched l =>
    if s.Lets l then
      (s.steps l).map fun t => { t with started := s.started ++ starts s.sched l }
    else none
  | .timer op =>
    if s.timers.Permitted op ∧ s.Foreign op then
      (s.timers.perform op).map fun timers => { s with timers := timers }
    else none
  | .sleep w ms addr now =>
    match (s.sched.worker w).pc with
    | .running f _ =>
      let cb := MNSER.wakeUp s.naps.length
      if w ∉ s.started.map Prod.fst ∧ s.timers.Permitted (.addTimer ms cb false addr now) then
        -- the timer's callback is to schedule f, which then yields to HOLD
        let (timers, id, _) := s.timers.addTimer ms (some cb) false addr now
        some { s with timers := timers, naps := s.naps ++ [⟨f, id, now + ms⟩] }
      else none
    | _ => none
  | .listExpiredCb w now probe =>
    if (s.sched.worker w).pc.awake = true ∧ w ∉ s.cbs.map Prod.fst ∧
        s.timers.Permitted (.listExpiredCb now probe) then
      let (timers, cbs) := s.timers.listExpiredCb now probe
      some { s with timers := timers, cbs := s.cbs ++ (cbs.filterMap id).map fun g => (w, g) }
    else none
  | .scheduleCbs w =>
    if (s.sched.worker w).pc.awake = true ∧ w ∈ s.cbs.map Prod.fst then
      -- idle hands all it got from listExpiredCb to schedule(begin, end)
      let cbs := (s.cbs.filter fun c => c.1 = w).map Prod.snd
      (s.steps (.scheduleAll (cbs.map fun g => some (.func g)))).map fun t =>
        { t with cbs := s.cbs.filter fun c => ¬ c.1 = w }
    else none
  | .wakeUp w =>
    match (s.sched.worker w).pc, s.started.find? fun c => c.1 = w with
    | .running _ _, some (_, k) =>
      (s.naps[k]?).bind fun nap =>
        (s.steps (.schedule (some (.fiber nap.fiber)) none)).map fun t =>
          { t with
            started := s.started.erase (w, k)
            woken   := s.woken ++ [(k, ⟨s.sched.issued, .fiber nap.fiber, none⟩)] }
    | _, _ => none

def start (n now : Nat) : Sleepers n where
  sched   := Scheduler.start n
  timers  := TimerManager.init now
  naps    := []
  cbs     := []
  started := []
  woken   := []
  passed  := []

end Sleepers

def sleepers (n : Nat) : System (Sleepers n) (SleepersLabel n) where
  init := fun s => ∃ now, TimerManager.clockOk now ∧ s = Sleepers.start n now
  next := Sleepers.next

/-! ## Section 2: Where a call of sleep is -/

namespace Sleepers

variable {n : Nat}

/-- The timer is set. -/
def pending (s : Sleepers n) (k : Nat) : Nat :=
  match s.naps[k]? with
  | some nap => if (s.timers.heap nap.timer).cb.isSome then 1 else 0
  | none     => 0

/-- Handed out to a worker and not scheduled yet. -/
def handed (s : Sleepers n) (k : Nat) : Nat := (s.cbs.map Prod.snd).count (MNSER.wakeUp k)

/-- The entry is one for the callback. -/
def callsFor (k : Nat) (e : Entry) : Bool := e.task.call = some k

/-- In `m_fibers`, or removed from it and not swapped in yet. -/
def queued (s : Sleepers n) (k : Nat) : Nat :=
  s.sched.fibers.countP (callsFor k) +
    (Finset.univ.filter fun w => (s.sched.worker w).pc.entry.any (callsFor k)).card

/-- On a stack, before it calls `schedule`. -/
def running (s : Sleepers n) (k : Nat) : Nat := (s.started.map Prod.snd).count k

/-- The calls of `schedule` made for it. -/
def wakings (s : Sleepers n) (k : Nat) : Nat := (s.woken.map Prod.fst).count k

/-! ## Section 3: The timers of sleeping fibers -/

end Sleepers

namespace TimerManager

variable {Callback : Type}

/-- An operation on the timer `i`: the others are as they were, and it has no
    new callback. -/
structure Touches (m m' : TimerManager Callback) (i : TimerId) : Prop where
  others : ∀ j, j ≠ i → m'.heap j = m.heap j
  cb     : (m'.heap i).cb = none ∨ (m'.heap i).cb = (m.heap i).cb

/-- An operation may leave all timers as they are. -/
theorem Touches.refl (m : TimerManager Callback) (i : TimerId) : Touches m m i :=
  ⟨fun _ _ => rfl, Or.inr rfl⟩

/-- The timer becomes `t`, wherever it goes. -/
theorem Touches.set {m m' : TimerManager Callback} {i : TimerId} {t : Timer Callback}
    (hheap : m'.heap = (m.setTimer i t).heap) (hcb : t.cb = none ∨ t.cb = (m.heap i).cb) :
    Touches m m' i := by
  refine ⟨fun j hj => ?_, ?_⟩
  · rw [hheap, setTimer_ne m t hj]
  · rw [hheap, setTimer_self]
    exact hcb

/-- `cancel` touches one timer. -/
theorem touches_cancel {m m' : TimerManager Callback} (h : Inv m) {i : TimerId}
    (hcancel : (m.cancel i).map Prod.fst = some m') : Touches m m' i := by
  by_cases hi : i ∈ m.timers
  · rw [cancel_of_mem h hi] at hcancel
    obtain rfl := Option.some.inj hcancel
    exact .set (t := { m.heap i with cb := none }) rfl (Or.inl rfl)
  · rw [cancel_of_not_mem h hi] at hcancel
    obtain rfl := Option.some.inj hcancel
    exact .refl m i

/-- `refresh` touches one timer. -/
theorem touches_refresh {m : TimerManager Callback} (h : Inv m) (i : TimerId) (now : Nat) :
    Touches m (m.refresh i now).1 i := by
  by_cases hi : i ∈ m.timers
  · rw [refresh_of_mem h hi]
    exact .set (requeue_heap m i _) (Or.inr rfl)
  · rw [refresh_of_not_mem h hi]
    exact .refl m i

/-- `reset` touches one timer. -/
theorem touches_reset (m : TimerManager Callback) (i : TimerId) (ms : Nat) (from_now : Bool)
    (now : Nat) : Touches m (m.reset i ms from_now now).1 i := by
  unfold reset
  split
  · exact .refl m i
  · split
    · exact .refl m i
    · split
      · exact .refl m i
      · exact .set rfl (Or.inr rfl)

end TimerManager

namespace Sleepers

variable {n : Nat}

open TimerManager (Inv Touches)

/-- Every call of `sleep` has a timer of its own, which is set to the call's
    deadline as long as it is set. -/
structure NapsSet (m : TimerManager FuncId) (naps : List Nap) : Prop where
  inv  : Inv m
  own  : ∀ {k : Nat} {nap : Nap}, naps[k]? = some nap → nap.timer < m.created ∧
    (m.heap nap.timer).recurring = false ∧
    ((m.heap nap.timer).cb = none ∨ ((m.heap nap.timer).cb = some (MNSER.wakeUp k) ∧
      (m.heap nap.timer).next = nap.deadline))
  only : ∀ {id : TimerId} {k : Nat}, (m.heap id).cb = some (MNSER.wakeUp k) →
    ∃ nap, naps[k]? = some nap ∧ nap.timer = id

/-- Nobody sleeps at the start. -/
theorem napsSet_init {now : Nat} (hnow : TimerManager.clockOk now) :
    NapsSet (TimerManager.init now) [] where
  inv  := TimerManager.inv_init hnow
  own  := by intro k nap h; cases h
  only := by intro id k h; cases h

/-- Other timers are no concern of the calls of `sleep`. -/
theorem NapsSet.touches {m m' : TimerManager FuncId} {naps : List Nap} (h : NapsSet m naps)
    {i : TimerId} (htouches : Touches m m' i) (hinv : Inv m') (hcreated : m.created ≤ m'.created)
    (hi : i ∉ naps.map Nap.timer) :
    NapsSet m' naps ∧ ∀ nap ∈ naps, m'.heap nap.timer = m.heap nap.timer := by
  have hsame : ∀ nap ∈ naps, m'.heap nap.timer = m.heap nap.timer := by
    intro nap hnap
    refine htouches.others _ ?_
    rintro rfl
    exact hi (List.mem_map_of_mem hnap)
  refine ⟨⟨hinv, ?_, ?_⟩, hsame⟩
  · intro k nap hnap
    rw [hsame nap (List.mem_of_getElem? hnap)]
    obtain ⟨hlt, hrest⟩ := h.own hnap
    exact ⟨Nat.lt_of_lt_of_le hlt hcreated, hrest⟩
  · intro id k hcb
    by_cases hid : id = i
    · subst hid
      rcases htouches.cb with hnone | hsame
      · rw [hnone] at hcb
        cases hcb
      · exact h.only (hsame ▸ hcb)
    · rw [htouches.others id hid] at hcb
      exact h.only hcb

/-- A new timer leaves the others as they are. -/
theorem addTimer_heap_ne (m : TimerManager FuncId) (ms addr now : Nat) (cb : Option FuncId)
    (recurring : Bool) {j : TimerId} (hj : j ≠ m.created) :
    (m.addTimer ms cb recurring addr now).1.heap j = m.heap j :=
  TimerManager.setTimer_ne { m with created := m.created + 1 } _ hj

/-- A new timer is what the constructor was given. -/
theorem addTimer_heap_self (m : TimerManager FuncId) (ms addr now : Nat) (cb : Option FuncId)
    (recurring : Bool) :
    (m.addTimer ms cb recurring addr now).1.heap m.created =
      { recurring := recurring, ms := ms, next := add64 now ms, cb := cb, addr := addr } :=
  TimerManager.setTimer_self _ _ _

/-- An operation on another timer than a sleeper's leaves the naps alone. -/
theorem NapsSet.foreign {s : Sleepers n} {op : TimerOp FuncId} {m' : TimerManager FuncId}
    (h : NapsSet s.timers s.naps) (hop : s.timers.Permitted op) (hforeign : s.Foreign op = true)
    (hperform : s.timers.perform op = some m') :
    NapsSet m' s.naps ∧ ∀ nap ∈ s.naps, m'.heap nap.timer = s.timers.heap nap.timer := by
  obtain ⟨m'', hperform', hinv⟩ := TimerManager.inv_perform h.inv hop
  obtain rfl := Option.some.inj (hperform.symm.trans hperform')
  have hcreated := (TimerManager.ages_perform h.inv hop hperform).created
  -- the timers of the sleepers are not touched, and no callback of theirs is set
  cases op with
  | addTimer ms cb recurring addr now =>
    obtain rfl := Option.some.inj hperform
    have hsame : ∀ nap ∈ s.naps, (s.timers.addTimer ms (some cb) recurring addr now).1.heap
        nap.timer = s.timers.heap nap.timer := by
      intro nap hnap
      obtain ⟨k, hk⟩ := List.mem_iff_getElem?.mp hnap
      exact addTimer_heap_ne _ _ _ _ _ _ (Nat.ne_of_lt (h.own hk).1)
    refine ⟨⟨hinv, ?_, ?_⟩, hsame⟩
    · intro k nap hnap
      rw [hsame nap (List.mem_of_getElem? hnap)]
      obtain ⟨hlt, hrest⟩ := h.own hnap
      exact ⟨Nat.lt_of_lt_of_le hlt hcreated, hrest⟩
    · intro id k hcb
      -- the new timer's callback is not a sleeper's
      by_cases hid : id = s.timers.created
      · subst hid
        rw [addTimer_heap_self] at hcb
        have hk := sleeper_eq_some.mpr (Option.some.inj hcb)
        rw [Foreign, hk] at hforeign
        cases hforeign
      · rw [addTimer_heap_ne _ _ _ _ _ _ hid] at hcb
        exact h.only hcb
  | cancel id =>
    exact h.touches (TimerManager.touches_cancel h.inv hperform) hinv hcreated
      (of_decide_eq_true hforeign)
  | refresh id now =>
    obtain rfl := Option.some.inj hperform
    exact h.touches (TimerManager.touches_refresh h.inv id now) hinv hcreated
      (of_decide_eq_true hforeign)
  | reset id ms from_now now =>
    obtain rfl := Option.some.inj hperform
    exact h.touches (TimerManager.touches_reset _ id ms from_now now) hinv hcreated
      (of_decide_eq_true hforeign)
  | listExpiredCb now probe => cases hforeign

/-- A new call of `sleep`. -/
theorem NapsSet.sleep {m : TimerManager FuncId} {naps : List Nap} (h : NapsSet m naps)
    {ms addr now : Nat} (f : Sched.FiberId)
    (hop : m.Permitted (.addTimer ms (MNSER.wakeUp naps.length) false addr now)) :
    NapsSet (m.addTimer ms (some (MNSER.wakeUp naps.length)) false addr now).1
        (naps ++ [⟨f, m.created, now + ms⟩]) ∧
      ∀ nap ∈ naps, (m.addTimer ms (some (MNSER.wakeUp naps.length)) false addr now).1.heap
        nap.timer = m.heap nap.timer := by
  have hinv := TimerManager.inv_addTimer h.inv (MNSER.wakeUp naps.length) false hop.2.1 hop.2.2
  have hsame : ∀ nap ∈ naps, (m.addTimer ms (some (MNSER.wakeUp naps.length)) false addr now).1.heap
      nap.timer = m.heap nap.timer := by
    intro nap hnap
    obtain ⟨k, hk⟩ := List.mem_iff_getElem?.mp hnap
    exact addTimer_heap_ne _ _ _ _ _ _ (Nat.ne_of_lt (h.own hk).1)
  refine ⟨⟨hinv, ?_, ?_⟩, hsame⟩
  · intro k nap hnap
    rw [List.getElem?_append] at hnap
    split at hnap
    · rw [hsame nap (List.mem_of_getElem? hnap)]
      obtain ⟨hlt, hrest⟩ := h.own hnap
      exact ⟨Nat.lt_succ_of_lt hlt, hrest⟩
    · rename_i hge
      obtain rfl : k = naps.length := by
        have := (List.getElem?_eq_some_iff.mp hnap).1
        simp at this
        omega
      simp only [Nat.sub_self, List.getElem?_cons_zero, Option.some.injEq] at hnap
      subst hnap
      rw [addTimer_heap_self]
      exact ⟨Nat.lt_succ_self _, rfl, Or.inr ⟨rfl, add64_of_lt hop.2.1⟩⟩
  · intro id k hcb
    -- a sleeper's callback is in the new timer, or where it was
    by_cases hid : id = m.created
    · subst hid
      rw [addTimer_heap_self] at hcb
      have hk : naps.length = k := wakeUp_inj (Option.some.inj hcb)
      exact ⟨⟨f, m.created, now + ms⟩, by simp [← hk], rfl⟩
    · rw [addTimer_heap_ne _ _ _ _ _ _ hid] at hcb
      obtain ⟨nap, hnap, htimer⟩ := h.only hcb
      refine ⟨nap, ?_, htimer⟩
      rw [List.getElem?_append_left (List.getElem?_eq_some_iff.mp hnap).1]
      exact hnap

/-- What `listExpiredCb` hands out: the callback of a call of `sleep` once, when
    its timer is due, and the timer is not set any more. -/
theorem NapsSet.expire {m : TimerManager FuncId} {naps : List Nap} (h : NapsSet m naps)
    {now probe : Nat} (hop : m.Permitted (.listExpiredCb now probe)) :
    NapsSet (m.listExpiredCb now probe).1 naps ∧
    (∀ k, ((m.listExpiredCb now probe).2.filterMap id).count (MNSER.wakeUp k) =
      match naps[k]? with
      | some nap => if nap.timer ∈ m.due now then 1 else 0
      | none     => 0) ∧
    ∀ nap ∈ naps, ((m.listExpiredCb now probe).1.heap nap.timer).cb =
      if nap.timer ∈ m.due now then none else (m.heap nap.timer).cb := by
  obtain ⟨hinv, hspec, hcreated⟩ := TimerManager.listExpiredCb_spec h.inv probe hop.1 hop.2
  have hheap : ∀ nap ∈ naps, ((m.listExpiredCb now probe).1.heap nap.timer).cb =
      if nap.timer ∈ m.due now then none else (m.heap nap.timer).cb := by
    intro nap hnap
    obtain ⟨k, hk⟩ := List.mem_iff_getElem?.mp hnap
    rw [hspec.heap]
    split
    · rw [TimerManager.handOut_cb, (h.own hk).2.1]
      rfl
    · rfl
  refine ⟨⟨hinv, ?_, ?_⟩, ?_, hheap⟩
  · intro k nap hnap
    obtain ⟨hlt, hrecurring, hcb⟩ := h.own hnap
    rw [hspec.heap]
    refine ⟨hcreated ▸ hlt, ?_⟩
    split
    · rw [TimerManager.handOut_recurring, TimerManager.handOut_cb, hrecurring]
      exact ⟨rfl, Or.inl rfl⟩
    · exact ⟨hrecurring, hcb⟩
  · intro id k hcb
    rw [hspec.heap] at hcb
    split at hcb
    · rw [TimerManager.handOut_cb] at hcb
      split at hcb
      · exact h.only hcb
      · cases hcb
    · exact h.only hcb
  · intro k
    -- of the timers handed out, only the call's own has this callback
    have hcount : ((m.listExpiredCb now probe).2.filterMap id).count (MNSER.wakeUp k) =
        (m.due now).countP fun id => (m.heap id).cb = some (MNSER.wakeUp k) := by
      rw [hspec.cbs, List.filterMap_map, List.count_eq_countP, List.countP_filterMap]
      apply List.countP_congr
      intro id _
      cases hcb : (m.heap id).cb <;> simp [hcb]
    rw [hcount]
    cases hnap : naps[k]? with
    | none =>
      refine List.countP_eq_zero.mpr fun id _ hid => ?_
      obtain ⟨nap, hsome, _⟩ := h.only (of_decide_eq_true hid)
      rw [hnap] at hsome
      cases hsome
    | some nap =>
      have hown : (m.due now).countP (fun id => (m.heap id).cb = some (MNSER.wakeUp k)) =
          (m.due now).count nap.timer := by
        rw [List.count_eq_countP]
        apply List.countP_congr
        intro id hid
        simp only [decide_eq_true_eq, beq_iff_eq]
        constructor
        · intro hcb
          obtain ⟨nap', hnap', htimer⟩ := h.only hcb
          obtain rfl := Option.some.inj (hnap.symm.trans hnap')
          exact htimer.symm
        · rintro rfl
          rcases (h.own hnap).2.2 with hnone | ⟨hcb, _⟩
          · have hlive := (h.inv.live _).mp ((m.due_sublist now).subset hid)
            rw [hnone] at hlive
            cases hlive
          · exact hcb
      rw [hown]
      dsimp only
      split
      · rename_i hmem
        exact List.count_eq_one_of_mem hspec.once hmem
      · rename_i hmem
        exact List.count_eq_zero_of_not_mem hmem

/-! ## Section 4: Entries for the callbacks -/

theorem countP_numbered (thread : Option ThreadId) (k : Nat) (tasks : List (Option Sched.Task)) :
    ∀ i, (Scheduler.numbered thread i tasks).countP (callsFor k) =
      tasks.countP fun task => task.bind Sched.Task.call = some k := by
  induction tasks with
  | nil => intro i; rfl
  | cons task rest ih =>
    intro i
    cases task with
    | none =>
      rw [Scheduler.numbered, ih, List.countP_cons_of_neg (by simp)]
    | some task =>
      rw [Scheduler.numbered, List.countP_cons, ih, List.countP_cons]
      rfl

/-- Tasks that are nobody's callback wake nobody. -/
theorem countP_other {tasks : List (Option Sched.Task)} (h : ∀ task ∈ tasks, Other task = true)
    (k : Nat) : (tasks.countP fun task => task.bind Sched.Task.call = some k) = 0 := by
  refine List.countP_eq_zero.mpr fun task htask hcall => ?_
  have hother := h task htask
  rw [Other, of_decide_eq_true hcall] at hother
  cases hother

/-- Nobody else passes an entry for a callback of `sleep` to `schedule`. -/
theorem countP_passedStep {s : Sleepers n} {l : Scheduler.Label n} (hlets : s.Lets l = true)
    (k : Nat) : (Scheduler.passedStep s.sched l).countP (callsFor k) = 0 := by
  cases l with
  | schedule task thread =>
    rw [Scheduler.passedStep, countP_numbered]
    exact countP_other (fun task h => List.mem_singleton.mp h ▸ hlets) k
  | scheduleAll tasks =>
    rw [Scheduler.passedStep, countP_numbered]
    exact countP_other (List.all_eq_true.mp hlets) k
  | settle w =>
    simp only [Scheduler.passedStep]
    split
    · split <;> rfl
    · rfl
  | _ => rfl

/-- One step starts one call at most. -/
theorem count_call (w : Fin n) (call : Option Nat) (k : Nat) :
    ((call.toList.map fun k => (w, k)).map Prod.snd).count k = if call = some k then 1 else 0 := by
  cases call with
  | none => rfl
  | some j => simp [List.count_singleton]

/-- What a step of the scheduler does to `finished`: only an entry for a fiber
    is done with in the check, and the swap-in is where a callback starts. -/
theorem countP_finished {s t : Scheduler n} {l : Scheduler.Label n} (hnext : s.next l = some t)
    (k : Nat) :
    (t.finished.map Finished.entry).countP (callsFor k) =
      (s.finished.map Finished.entry).countP (callsFor k) +
        ((starts s l).map Prod.snd).count k := by
  have hsame : t.finished = s.finished → starts s l = [] →
      (t.finished.map Finished.entry).countP (callsFor k) =
        (s.finished.map Finished.entry).countP (callsFor k) +
          ((starts s l).map Prod.snd).count k := by
    intro hfinished hstarts
    rw [hfinished, hstarts]
    rfl
  cases Scheduler.next_cases hnext with
  | dispatchDead w e f hpc htask =>
    -- a fiber that is found dead is no callback
    have hnot : ¬ callsFor k e = true := by simp [callsFor, htask, Sched.Task.call]
    simp [starts, List.countP_append, hnot]
  | swapIn w f cb e hpc =>
    have hstarts : starts s (.swapIn w) = e.task.call.toList.map fun k => (w, k) := by
      simp only [starts, hpc]
    rw [hstarts, count_call]
    simp [List.countP_append, callsFor]
  | schedule | scheduleAll | callTickle | tickleFound | tickleNobody | tickleWrite | newFiber
  | stop | scan | workerFound | workerNobody | workerWrite | dispatchNone | dispatchFiber
  | dispatchReset | dispatchNew | yieldToReady | yieldToHold | finish | switch | decrement
  | decrementDropped | settleReady | settleKept | settleDead | settleHold | enterIdle | idleEnds
  | idleBlocks | wakeTickled | wakeOther | drain | leaveIdle => exact hsame rfl rfl

/-! ## Section 5: The invariant -/

/-- Every call of `sleep` is in one place: its timer is set, its callback is with
    a worker in `idle`, or it was passed to `schedule`; of the callbacks swapped
    in, all are on a stack or have called `schedule`. -/
structure Tracked (s : Sleepers n) : Prop where
  naps      : NapsSet s.timers s.naps
  accounted : Scheduler.Accounted s.passed s.sched
  once      : ∀ k, s.pending k + s.handed k + s.passed.countP (callsFor k) =
    if k < s.naps.length then 1 else 0
  run       : ∀ k, (s.sched.finished.map Finished.entry).countP (callsFor k) =
    s.running k + s.wakings k
  woken     : ∀ x ∈ s.woken, x.2 ∈ s.passed ∧ ∃ nap, s.naps[x.1]? = some nap ∧
    x.2.task = .fiber nap.fiber ∧ x.2.thread = none

/-- Nobody sleeps at the start. -/
theorem tracked_start {now : Nat} (hnow : TimerManager.clockOk now) : (start n now).Tracked where
  naps      := napsSet_init hnow
  accounted := Scheduler.accounted_start n
  once      := by intro k; rfl
  run       := by intro k; rfl
  woken     := by intro x hx; cases hx

/-- The timers and the naps do not notice a step of the scheduler. -/
theorem steps_spec {s t : Sleepers n} {l : Scheduler.Label n} (h : s.steps l = some t) :
    ∃ sched, s.sched.next l = some sched ∧
      t = { s with sched := sched, passed := s.passed ++ Scheduler.passedStep s.sched l } := by
  obtain ⟨sched, hsched, rfl⟩ := Option.map_eq_some_iff.mp h
  exact ⟨sched, hsched, rfl⟩

/-- A nap is pending as long as its timer is. -/
theorem pending_congr {s t : Sleepers n} (hnaps : t.naps = s.naps)
    (hheap : ∀ nap ∈ s.naps, t.timers.heap nap.timer = s.timers.heap nap.timer) (k : Nat) :
    t.pending k = s.pending k := by
  unfold pending
  rw [hnaps]
  cases hnap : s.naps[k]? with
  | none => rfl
  | some nap =>
    dsimp only
    rw [hheap nap (List.mem_of_getElem? hnap)]

/-- The timers change, but not those of the calls of `sleep`. -/
theorem Tracked.timers {s : Sleepers n} (h : s.Tracked) {m : TimerManager FuncId}
    (hnaps : NapsSet m s.naps)
    (hheap : ∀ nap ∈ s.naps, m.heap nap.timer = s.timers.heap nap.timer) :
    Tracked { s with timers := m } where
  naps      := hnaps
  accounted := h.accounted
  once      := by
    intro k
    have hpending := pending_congr (s := s) (t := { s with timers := m }) rfl hheap k
    rw [hpending]
    exact h.once k
  run       := h.run
  woken     := h.woken

/-- A step of the scheduler: what it swaps in is on a stack from then on. -/
theorem tracked_sched {s t : Sleepers n} {l : Scheduler.Label n} (h : s.Tracked)
    (hlets : s.Lets l = true) (hsteps : s.steps l = some t) :
    Tracked { t with started := s.started ++ starts s.sched l } := by
  obtain ⟨sched, hsched, rfl⟩ := steps_spec hsteps
  refine ⟨h.naps, Scheduler.accounted_next h.accounted hsched, ?_, ?_, ?_⟩
  · intro k
    have hpassed : (s.passed ++ Scheduler.passedStep s.sched l).countP (callsFor k) =
        s.passed.countP (callsFor k) := by
      rw [List.countP_append, countP_passedStep hlets, Nat.add_zero]
    show s.pending k + s.handed k + _ = _
    rw [hpassed]
    exact h.once k
  · intro k
    have hrun := h.run k
    have hstarts := countP_finished hsched k
    show (sched.finished.map Finished.entry).countP (callsFor k) =
      ((s.started ++ starts s.sched l).map Prod.snd).count k + s.wakings k
    rw [List.map_append, List.count_append]
    unfold running at hrun
    omega
  · intro x hx
    obtain ⟨hpassed, hnap⟩ := h.woken x hx
    exact ⟨List.mem_append_left _ hpassed, hnap⟩

/-- A fiber goes to sleep: its nap is pending. -/
theorem tracked_sleep {s : Sleepers n} (h : s.Tracked) (f : Sched.FiberId) {ms addr now : Nat}
    (hop : s.timers.Permitted (.addTimer ms (MNSER.wakeUp s.naps.length) false addr now)) :
    Tracked { s with
      timers := (s.timers.addTimer ms (some (MNSER.wakeUp s.naps.length)) false addr now).1
      naps   := s.naps ++ [⟨f, s.timers.created, now + ms⟩] } := by
  obtain ⟨hnaps, hheap⟩ := h.naps.sleep f hop
  refine ⟨hnaps, h.accounted, ?_, h.run, ?_⟩
  · intro k
    have honce := h.once k
    show pending _ k + s.handed k + s.passed.countP (callsFor k) =
      if k < (s.naps ++ [_]).length then 1 else 0
    rw [List.length_append, List.length_singleton]
    unfold pending at honce ⊢
    dsimp only
    -- an older sleep, the new one, or none yet
    rcases Nat.lt_trichotomy k s.naps.length with hlt | rfl | hgt
    · rw [List.getElem?_append_left hlt]
      rw [List.getElem?_eq_getElem hlt] at honce ⊢
      rw [if_pos hlt] at honce
      rw [if_pos (by omega)]
      dsimp only at honce ⊢
      rw [hheap _ (List.getElem_mem hlt)]
      exact honce
    · -- the new call
      rw [List.getElem?_eq_none (Nat.le_refl _), if_neg (Nat.lt_irrefl _)] at honce
      rw [List.getElem?_concat_length, if_pos (Nat.lt_succ_self _)]
      dsimp only at honce ⊢
      rw [addTimer_heap_self]
      dsimp only [Option.isSome]
      rw [if_pos rfl]
      omega
    · rw [List.getElem?_eq_none (by omega), if_neg (by omega)] at honce
      rw [List.getElem?_eq_none (by rw [List.length_append, List.length_singleton]; omega),
        if_neg (by omega)]
      exact honce
  · intro x hx
    obtain ⟨hpassed, nap, hnap, htask⟩ := h.woken x hx
    refine ⟨hpassed, nap, ?_, htask⟩
    rw [List.getElem?_append_left (List.getElem?_eq_some_iff.mp hnap).1]
    exact hnap

/-- Naps are over: their callbacks are with the worker. -/
theorem tracked_listExpiredCb {s : Sleepers n} (h : s.Tracked) (w : Fin n) {now probe : Nat}
    (hop : s.timers.Permitted (.listExpiredCb now probe)) :
    Tracked { s with
      timers := (s.timers.listExpiredCb now probe).1
      cbs    := s.cbs ++ ((s.timers.listExpiredCb now probe).2.filterMap id).map fun g =>
        (w, g) } := by
  obtain ⟨hnaps, hcount, hcb⟩ := h.naps.expire hop
  refine ⟨hnaps, h.accounted, ?_, h.run, h.woken⟩
  intro k
  have honce := h.once k
  have hk := hcount k
  have hhanded : ((s.cbs ++ ((s.timers.listExpiredCb now probe).2.filterMap id).map fun g =>
      (w, g)).map Prod.snd).count (MNSER.wakeUp k) = s.handed k +
        ((s.timers.listExpiredCb now probe).2.filterMap id).count (MNSER.wakeUp k) := by
    rw [List.map_append, List.count_append, List.map_map]
    rw [show (Prod.snd ∘ fun g : FuncId => (w, g)) = id from rfl, List.map_id]
    rfl
  show pending _ k + (List.map Prod.snd (s.cbs ++ _)).count _ + s.passed.countP (callsFor k) = _
  rw [hhanded]
  unfold pending at honce ⊢
  dsimp only
  -- what was pending is handed out if it is due and stays pending if not
  cases hnap : s.naps[k]? with
  | none =>
    rw [hnap] at hk honce
    dsimp only at hk honce ⊢
    omega
  | some nap =>
    rw [hnap] at hk honce
    dsimp only at hk honce ⊢
    rw [hcb nap (List.mem_of_getElem? hnap)]
    split at hk
    · rename_i hdue
      have hlive := (h.naps.inv.live _).mp ((s.timers.due_sublist now).subset hdue)
      rw [if_pos hlive] at honce
      rw [if_pos hdue, hk, if_neg (by simp)]
      omega
    · rename_i hdue
      rw [if_neg hdue]
      omega

/-- The worker puts its callbacks into the queue. -/
theorem tracked_scheduleCbs {s t : Sleepers n} (h : s.Tracked) (w : Fin n)
    (hsteps : s.steps (.scheduleAll (((s.cbs.filter fun c => c.1 = w).map Prod.snd).map fun g =>
      some (.func g))) = some t) :
    Tracked { t with cbs := s.cbs.filter fun c => ¬ c.1 = w } := by
  obtain ⟨sched, hsched, rfl⟩ := steps_spec hsteps
  refine ⟨h.naps, Scheduler.accounted_next h.accounted hsched, ?_, ?_, ?_⟩
  · intro k
    have honce := h.once k
    have hpassed : (Scheduler.passedStep s.sched (.scheduleAll
        (((s.cbs.filter fun c => c.1 = w).map Prod.snd).map fun g => some (.func g)))).countP
          (callsFor k) = (s.cbs.filter fun c => c.1 = w).countP fun c => c.2 = MNSER.wakeUp k := by
      rw [Scheduler.passedStep, countP_numbered, List.map_map, List.countP_map]
      apply List.countP_congr
      intro c _
      simp only [Function.comp_apply, Option.bind_some, Sched.Task.call, decide_eq_true_eq,
        sleeper_eq_some]
    -- the callbacks of w move to the queue, those of the other workers stay
    have hsplit := List.countP_eq_countP_filter_add s.cbs (fun c => decide (c.2 = MNSER.wakeUp k))
      (fun c => decide (c.1 = w))
    have hhanded : ∀ cbs : List (Fin n × FuncId), (cbs.map Prod.snd).count (MNSER.wakeUp k) =
        cbs.countP fun c => c.2 = MNSER.wakeUp k := by
      intro cbs
      rw [List.count_eq_countP, List.countP_map]
      rfl
    unfold handed at honce
    show s.pending k + ((s.cbs.filter fun c => ¬ c.1 = w).map Prod.snd).count _ +
      (s.passed ++ _).countP (callsFor k) = _
    rw [hhanded] at honce ⊢
    rw [List.countP_append, hpassed]
    simp only [decide_not] at hsplit ⊢
    omega
  · intro k
    rw [countP_finished hsched k]
    exact h.run k
  · intro x hx
    obtain ⟨hpassed, hnap⟩ := h.woken x hx
    exact ⟨List.mem_append_left _ hpassed, hnap⟩

/-- A callback on a stack schedules its sleeper. -/
theorem tracked_wakeUp {s t : Sleepers n} (h : s.Tracked) {w : Fin n} {k : Nat} {nap : Nap}
    (hstarted : (w, k) ∈ s.started) (hnap : s.naps[k]? = some nap)
    (hsteps : s.steps (.schedule (some (.fiber nap.fiber)) none) = some t) :
    Tracked { t with
      started := s.started.erase (w, k)
      woken   := s.woken ++ [(k, ⟨s.sched.issued, .fiber nap.fiber, none⟩)] } := by
  obtain ⟨sched, hsched, rfl⟩ := steps_spec hsteps
  refine ⟨h.naps, Scheduler.accounted_next h.accounted hsched, ?_, ?_, ?_⟩
  · intro j
    have honce := h.once j
    have hpassed : (Scheduler.passedStep s.sched (.schedule (some (.fiber nap.fiber)) none)).countP
        (callsFor j) = 0 := by
      rw [Scheduler.passedStep, countP_numbered]
      rfl
    show s.pending j + s.handed j + (s.passed ++ _).countP (callsFor j) = _
    rw [List.countP_append, hpassed]
    exact honce
  · intro j
    have hrun := h.run j
    have hfinished : (sched.finished.map Finished.entry).countP (callsFor j) =
        (s.sched.finished.map Finished.entry).countP (callsFor j) :=
      countP_finished hsched j
    -- the call k is no longer running and has woken its fiber
    have herase : s.running j = ((s.started.erase (w, k)).map Prod.snd).count j +
        if k = j then 1 else 0 := by
      unfold running
      rw [((List.perm_cons_erase hstarted).map Prod.snd).count_eq, List.map_cons, List.count_cons]
      simp only [beq_iff_eq]
    show _ = ((s.started.erase (w, k)).map Prod.snd).count j +
      ((s.woken ++ [_]).map Prod.fst).count j
    rw [hfinished, hrun, herase, List.map_append, List.count_append]
    unfold wakings
    simp only [List.map_cons, List.map_nil, List.count_singleton, beq_iff_eq]
    omega
  · intro x hx
    rcases List.mem_append.mp hx with hx | hx
    · obtain ⟨hpassed, hnap⟩ := h.woken x hx
      exact ⟨List.mem_append_left _ hpassed, hnap⟩
    · obtain rfl := List.mem_singleton.mp hx
      exact ⟨List.mem_append_right _ List.mem_cons_self, nap, hnap, rfl, rfl⟩

/-- Every step keeps each nap in exactly one place. -/
theorem tracked_next {s t : Sleepers n} {l : SleepersLabel n} (h : s.Tracked)
    (hnext : s.next l = some t) : t.Tracked := by
  cases l with
  | sched l =>
    simp only [next] at hnext
    split at hnext
    · rename_i hlets
      obtain ⟨u, hu, rfl⟩ := Option.map_eq_some_iff.mp hnext
      exact tracked_sched h hlets hu
    · cases hnext
  | timer op =>
    simp only [next] at hnext
    split at hnext
    · rename_i hop
      obtain ⟨m, hm, rfl⟩ := Option.map_eq_some_iff.mp hnext
      obtain ⟨hnaps, hheap⟩ := h.naps.foreign hop.1 hop.2 hm
      exact h.timers hnaps hheap
    · cases hnext
  | sleep w ms addr now =>
    simp only [next] at hnext
    split at hnext
    · rename_i f _ _
      split at hnext
      · rename_i hop
        obtain rfl := Option.some.inj hnext
        exact tracked_sleep h f hop.2
      · cases hnext
    · cases hnext
  | listExpiredCb w now probe =>
    simp only [next] at hnext
    split at hnext
    · rename_i hop
      obtain rfl := Option.some.inj hnext
      exact tracked_listExpiredCb h w hop.2.2
    · cases hnext
  | scheduleCbs w =>
    simp only [next] at hnext
    split at hnext
    · obtain ⟨u, hu, rfl⟩ := Option.map_eq_some_iff.mp hnext
      exact tracked_scheduleCbs h w hu
    · cases hnext
  | wakeUp w =>
    simp only [next] at hnext
    split at hnext
    · rename_i w' k _ hfind
      obtain ⟨nap, hnap, hnext⟩ := Option.bind_eq_some_iff.mp hnext
      obtain ⟨u, hu, rfl⟩ := Option.map_eq_some_iff.mp hnext
      have hw := List.find?_some hfind
      obtain rfl : w' = w := of_decide_eq_true hw
      exact tracked_wakeUp h (List.mem_of_find?_eq_some hfind) hnap hu
    · cases hnext

/-! ## Section 6: What became of a call -/

/-- `listExpiredCb` found the call's timer due: its deadline has passed, or the
    clock was set back by more than an hour. -/
def RangAt (nap : Nap) (p : Sleepers n × SleepersLabel n) : Prop :=
  ∃ w now probe, p.2 = .listExpiredCb w now probe ∧ nap.timer ∈ p.1.timers.due now ∧
    (now + 60 * 60 * 1000 < p.1.timers.previousTime ∨ nap.deadline ≤ now)

/-- A timer that is not set any more was not set before, or it rang. -/
theorem rang_next {s t : Sleepers n} {l : SleepersLabel n} (h : s.Tracked)
    (hnext : s.next l = some t) {k : Nat} {nap : Nap} (hnap : t.naps[k]? = some nap)
    (hpending : t.pending k = 0) :
    (s.naps[k]? = some nap ∧ s.pending k = 0) ∨ RangAt nap (s, l) := by
  have hsteps : ∀ {l : Scheduler.Label n} {u : Sleepers n}, s.steps l = some u →
      u.naps = s.naps ∧ u.timers = s.timers := by
    intro l u hu
    obtain ⟨sched, _, rfl⟩ := steps_spec hu
    exact ⟨rfl, rfl⟩
  -- a step that leaves timers and sleepers alone rings nothing
  have hsame : t.naps = s.naps → t.timers = s.timers →
      (s.naps[k]? = some nap ∧ s.pending k = 0) ∨ RangAt nap (s, l) := by
    intro hnaps htimers
    refine Or.inl ⟨hnaps ▸ hnap, ?_⟩
    rw [← pending_congr hnaps (fun _ _ => by rw [htimers]) k]
    exact hpending
  cases l with
  | sched l =>
    simp only [next] at hnext
    split at hnext
    · obtain ⟨u, hu, rfl⟩ := Option.map_eq_some_iff.mp hnext
      exact hsame (hsteps hu).1 (hsteps hu).2
    · cases hnext
  | timer op =>
    simp only [next] at hnext
    split at hnext
    · rename_i hop
      obtain ⟨m, hm, rfl⟩ := Option.map_eq_some_iff.mp hnext
      refine Or.inl ⟨hnap, ?_⟩
      rw [← pending_congr (s := s) (t := { s with timers := m }) rfl
        (h.naps.foreign hop.1 hop.2 hm).2 k]
      exact hpending
    · cases hnext
  | sleep w ms addr now =>
    simp only [next] at hnext
    split at hnext
    · rename_i f _ _
      split at hnext
      · rename_i hop
        obtain rfl := Option.some.inj hnext
        obtain ⟨_, hheap⟩ := h.naps.sleep f hop.2
        unfold pending at hpending
        dsimp only at hnap hpending
        rw [hnap] at hpending
        rw [List.getElem?_append] at hnap
        split at hnap
        · refine Or.inl ⟨hnap, ?_⟩
          unfold pending
          rw [hnap]
          dsimp only at hpending ⊢
          rw [← hheap nap (List.mem_of_getElem? hnap)]
          exact hpending
        · -- the new timer is set
          obtain rfl := List.mem_singleton.mp (List.mem_of_getElem? hnap)
          have hset : ((s.timers.addTimer ms (some (MNSER.wakeUp s.naps.length)) false addr
              now).1.heap s.timers.created).cb.isSome = true := by
            rw [addTimer_heap_self]
            rfl
          exact absurd ((if_pos hset).symm.trans hpending) Nat.one_ne_zero
      · cases hnext
    · cases hnext
  | listExpiredCb w now probe =>
    simp only [next] at hnext
    split at hnext
    · rename_i hop
      obtain rfl := Option.some.inj hnext
      obtain ⟨_, _, hcb⟩ := h.naps.expire hop.2.2
      dsimp only at hnap
      unfold pending at hpending
      dsimp only at hpending
      rw [hnap] at hpending
      dsimp only at hpending
      rw [hcb nap (List.mem_of_getElem? hnap)] at hpending
      -- only listExpiredCb empties a sleeper's callback, and only when it is due
      by_cases hdue : nap.timer ∈ s.timers.due now
      · right
        obtain ⟨hset, hwhen⟩ := (TimerManager.mem_due h.naps.inv.clock now _).mp hdue
        refine ⟨w, now, probe, rfl, hdue, ?_⟩
        rcases (h.naps.own hnap).2.2 with hnone | ⟨_, hdeadline⟩
        · have hlive := (h.naps.inv.live _).mp hset
          rw [hnone] at hlive
          cases hlive
        · rw [hdeadline] at hwhen
          exact hwhen
      · left
        rw [if_neg hdue] at hpending
        refine ⟨hnap, ?_⟩
        unfold pending
        rw [hnap]
        exact hpending
    · cases hnext
  | scheduleCbs w =>
    simp only [next] at hnext
    split at hnext
    · obtain ⟨u, hu, rfl⟩ := Option.map_eq_some_iff.mp hnext
      exact hsame (hsteps hu).1 (hsteps hu).2
    · cases hnext
  | wakeUp w =>
    simp only [next] at hnext
    split at hnext
    · obtain ⟨_, _, hnext⟩ := Option.bind_eq_some_iff.mp hnext
      obtain ⟨u, hu, rfl⟩ := Option.map_eq_some_iff.mp hnext
      exact hsame (hsteps hu).1 (hsteps hu).2
    · cases hnext

/-- The places of the entries, counted for one callback. -/
theorem countP_places (s : Sleepers n) (k : Nat) :
    s.sched.places.countP (fun e => callsFor k e = true) =
      s.queued k + (s.sched.finished.map Finished.entry).countP (callsFor k) := by
  have hworkers : ∀ w : Fin n,
      ((s.sched.worker w).pc.entry.toList : Multiset Entry).countP (fun e => callsFor k e = true) =
        if (s.sched.worker w).pc.entry.any (callsFor k) = true then 1 else 0 := by
    intro w
    rw [Multiset.coe_countP]
    cases (s.sched.worker w).pc.entry with
    | none => rfl
    | some e => simp [List.countP_singleton]
  have hsum : (∑ w, ((s.sched.worker w).pc.entry.toList : Multiset Entry)).countP
      (fun e => callsFor k e = true) =
        (Finset.univ.filter fun w => (s.sched.worker w).pc.entry.any (callsFor k) = true).card := by
    rw [← Multiset.coe_countPAddMonoidHom, map_sum, Finset.card_filter]
    exact Finset.sum_congr rfl fun w _ => hworkers w
  rw [Scheduler.places, Multiset.countP_add, Multiset.countP_add, hsum, Multiset.coe_countP,
    Multiset.coe_countP, queued]
  simp only [Bool.decide_eq_true]

end Sleepers

/-- Every call of `sleep` schedules its fiber at most once, and not before the
    deadline: its timer is set, or its callback is in exactly one of the places
    it goes through, or the one call of `schedule` was made, whose entry is
    then in one place. -/
theorem sleep_wakes_once {n : Nat} {s₀ s : Sleepers n}
    {tr : List (Sleepers n × SleepersLabel n)} (hinit : (sleepers n).init s₀)
    (hrun : Run (sleepers n) s₀ tr s) {k : Nat} {nap : Nap} (hnap : s.naps[k]? = some nap) :
    s.pending k + s.handed k + s.queued k + s.running k + s.wakings k = 1 ∧
    (s.pending k = 1 → nap.timer ∈ s.timers.timers ∧
      (s.timers.heap nap.timer).next = nap.deadline) ∧
    (s.pending k = 0 → ∃ p ∈ tr, Sleepers.RangAt nap p) ∧
    ∀ e, (k, e) ∈ s.woken → e.task = .fiber nap.fiber ∧ e.thread = none ∧
      s.sched.fibers.count e +
        (Finset.univ.filter fun w => (s.sched.worker w).pc.entry = some e).card +
        (s.sched.finished.map Finished.entry).count e = 1 := by
  obtain ⟨now, hnow, rfl⟩ := hinit
  have h : s.Tracked ∧ ∀ k nap, s.naps[k]? = some nap → s.pending k = 0 →
      ∃ p ∈ tr, Sleepers.RangAt nap p := by
    refine hrun.trace_invariant (I := fun tr s => s.Tracked ∧ ∀ k nap, s.naps[k]? = some nap →
      s.pending k = 0 → ∃ p ∈ tr, Sleepers.RangAt nap p) ?_
      ⟨Sleepers.tracked_start hnow, ?_⟩
    · rintro tr s l t ⟨hs, hrang⟩ hnext
      refine ⟨Sleepers.tracked_next hs hnext, ?_⟩
      intro k nap hnap hpending
      rcases Sleepers.rang_next hs hnext hnap hpending with ⟨hnap, hpending⟩ | hrung
      · obtain ⟨p, hp, hrung⟩ := hrang k nap hnap hpending
        exact ⟨p, List.mem_append_left _ hp, hrung⟩
      · exact ⟨_, List.mem_append_right _ List.mem_cons_self, hrung⟩
    · intro k nap hnap
      cases hnap
  obtain ⟨h, hrang⟩ := h
  refine ⟨?_, ?_, hrang k nap hnap, ?_⟩
  · have honce := h.once k
    have hrun := h.run k
    have hplaces : s.passed.countP (Sleepers.callsFor k) = s.queued k +
        (s.sched.finished.map Finished.entry).countP (Sleepers.callsFor k) := by
      rw [← Sleepers.countP_places, h.accounted.places, Multiset.coe_countP]
      simp only [Bool.decide_eq_true]
    rw [if_pos (List.getElem?_eq_some_iff.mp hnap).1] at honce
    omega
  · intro hpending
    unfold Sleepers.pending at hpending
    rw [hnap] at hpending
    dsimp only at hpending
    split at hpending
    · rename_i hset
      refine ⟨(h.naps.inv.live _).mpr hset, ?_⟩
      rcases (h.naps.own hnap).2.2 with hnone | ⟨_, hdeadline⟩
      · rw [hnone] at hset
        cases hset
      · exact hdeadline
    · cases hpending
  · intro e he
    obtain ⟨hpassed, nap', hnap', htask, hthread⟩ := h.woken _ he
    obtain rfl := Option.some.inj (hnap.symm.trans hnap')
    refine ⟨htask, hthread, ?_⟩
    rw [← Scheduler.count_places, h.accounted.places, Multiset.coe_count]
    exact List.count_eq_one_of_mem h.accounted.nodup hpassed

/-- Fiber 0 sleeps for 5 ms; the one worker goes idle, takes the callback from
    the timer and runs it, and the fiber is in the queue. -/
theorem sleep_wakes_once_five :
    ∃ s tr, Run (sleepers 1) (Sleepers.start 1 4000000) tr s ∧
      s.naps = [⟨0, 0, 4000005⟩] ∧ s.woken = [(0, ⟨2, .fiber 0, none⟩)] ∧
      s.pending 0 + s.handed 0 + s.queued 0 + s.running 0 + s.wakings 0 = 1 ∧
      (∃ p ∈ tr, Sleepers.RangAt ⟨0, 0, 4000005⟩ p) ∧
      ∀ e, (0, e) ∈ s.woken → e.task = .fiber 0 := by
  have hrun := (sleepers 1).run_of_exec (s := Sleepers.start 1 4000000)
    [.sched .newFiber, .sched (.schedule (some (.fiber 0)) none), .sched (.scan 0),
     .sched (.dispatch 0), .sched (.swapIn 0), .sleep 0 5 100 4000000, .sched (.yieldToHold 0),
     .sched (.switch 0), .sched (.decrement 0), .sched (.settle 0), .sched (.scan 0),
     .sched (.dispatch 0), .sched (.enterIdle 0), .sched (.idleCheck 0 false),
     .sched (.wake 0 false), .listExpiredCb 0 4000005 200, .scheduleCbs 0, .sched (.drain 0),
     .sched (.leaveIdle 0), .sched (.scan 0), .sched (.dispatch 0), .sched (.swapIn 0), .wakeUp 0]
    (by decide +kernel)
  have hinit : (sleepers 1).init (Sleepers.start 1 4000000) := ⟨4000000, by decide, rfl⟩
  obtain ⟨honce, _, hrang, hwoken⟩ := sleep_wakes_once (k := 0) hinit hrun
    (show _ = some (⟨0, 0, 4000005⟩ : Nap) by decide +kernel)
  exact ⟨_, _, hrun, by decide +kernel, by decide +kernel, honce, hrang (by decide +kernel),
    fun e he => (hwoken e he).1⟩

end MNSER
