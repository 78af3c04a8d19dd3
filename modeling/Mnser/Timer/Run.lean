import Mnser.Timer.Expiry

/-! # Runs of the timer manager

    The operations of `Timer` and `TimerManager` as the labels of a
    transition system.  A label carries what the operation reads from
    outside: the clock and the address of a new timer or of the probe. -/

namespace MNSER

variable {Callback : Type}

/-! ## Section 1: The transition system -/

inductive TimerOp (Callback : Type) where
  | addTimer (ms : Nat) (cb : Callback) (recurring : Bool) (addr now : Nat)
  | cancel (id : TimerId)
  | refresh (id : TimerId) (now : Nat)
  | reset (id : TimerId) (ms : Nat) (from_now : Bool) (now : Nat)
  | listExpiredCb (now probe : Nat)

namespace TimerManager

/-- What the environment guarantees at an operation: the clock reading is
    `clockOk`, no deadline that is computed overflows, a new timer is not
    placed on top of a member of the set. -/
def Permitted (m : TimerManager Callback) : TimerOp Callback → Prop
  | .addTimer ms _ _ addr now =>
      clockOk now ∧ now + ms < 2 ^ 64 ∧ ∀ a ∈ m.timers, (m.heap a).addr ≠ addr
  | .cancel id => id < m.created
  | .refresh id now =>
      clockOk now ∧ id < m.created ∧ (id ∈ m.timers → now + (m.heap id).ms < 2 ^ 64)
  | .reset id ms from_now now =>
      clockOk now ∧ id < m.created ∧
        (id ∈ m.timers → m.resetStart id from_now now + ms < 2 ^ 64)
  | .listExpiredCb now _ =>
      clockOk now ∧
        ∀ id ∈ m.due now, (m.heap id).recurring = true → now + (m.heap id).ms < 2 ^ 64

instance (now : Nat) : Decidable (clockOk now) :=
  inferInstanceAs (Decidable (_ ∧ _))

instance (m : TimerManager Callback) : (op : TimerOp Callback) → Decidable (m.Permitted op)
  | .addTimer _ _ _ _ _ => inferInstanceAs (Decidable (_ ∧ _ ∧ _))
  | .cancel _           => inferInstanceAs (Decidable (_ < _))
  | .refresh _ _        => inferInstanceAs (Decidable (_ ∧ _ ∧ (_ → _)))
  | .reset _ _ _ _      => inferInstanceAs (Decidable (_ ∧ _ ∧ (_ → _)))
  | .listExpiredCb _ _  => inferInstanceAs (Decidable (_ ∧ _))

/-- The manager after an operation; `none` where the operation is undefined. -/
def perform (m : TimerManager Callback) : TimerOp Callback → Option (TimerManager Callback)
  | .addTimer ms cb recurring addr now => some (m.addTimer ms (some cb) recurring addr now).1
  | .cancel id                         => (m.cancel id).map Prod.fst
  | .refresh id now                    => some (m.refresh id now).1
  | .reset id ms from_now now          => some (m.reset id ms from_now now).1
  | .listExpiredCb now probe           => some (m.listExpiredCb now probe).1

/-- The timers an operation hands out. -/
def handedOut (m : TimerManager Callback) : TimerOp Callback → List TimerId
  | .listExpiredCb now _ => m.due now
  | _                    => []

end TimerManager

open TimerManager LTS

def timerSystem (Callback : Type) : System (TimerManager Callback) (TimerOp Callback) where
  init := fun m => ∃ now, clockOk now ∧ m = TimerManager.init now
  next := fun m op => if m.Permitted op then m.perform op else none

/-- All timers handed out along a run, in order. -/
def handedOutBy (tr : List (TimerManager Callback × TimerOp Callback)) : List TimerId :=
  tr.flatMap fun p => p.1.handedOut p.2

/-! ## Section 2: What one operation keeps -/

namespace TimerManager

theorem inv_perform {m : TimerManager Callback} (h : Inv m) {op : TimerOp Callback}
    (hop : m.Permitted op) : ∃ m', m.perform op = some m' ∧ Inv m' := by
  cases op with
  | addTimer ms cb recurring addr now =>
    obtain ⟨_, hsum, hfresh⟩ := hop
    exact ⟨_, rfl, inv_addTimer h cb recurring hsum hfresh⟩
  | cancel id =>
    obtain ⟨m', b, heq, hinv⟩ := inv_cancel h id
    exact ⟨m', by rw [perform, heq]; rfl, hinv⟩
  | refresh id now =>
    exact ⟨_, rfl, inv_refresh h hop.2.2⟩
  | reset id ms from_now now =>
    exact ⟨_, rfl, inv_reset h hop.2.2⟩
  | listExpiredCb now probe =>
    exact ⟨_, rfl, (listExpiredCb_spec h probe hop.1 hop.2).1⟩

/-- How the timers constructed before an operation come out of it: a timer
    stays recurring or one-shot for life, and a callback that is gone does
    not come back. -/
structure Ages (m m' : TimerManager Callback) : Prop where
  created   : m.created ≤ m'.created
  recurring : ∀ id, id < m.created → (m'.heap id).recurring = (m.heap id).recurring
  spent     : ∀ id, id < m.created → (m.heap id).cb = none → (m'.heap id).cb = none

theorem Ages.refl (m : TimerManager Callback) : Ages m m :=
  ⟨Nat.le_refl _, fun _ _ => rfl, fun _ _ h => h⟩

/-- Changing a timer without giving it a callback or making it recurring. -/
theorem ages_of_heap {m m' : TimerManager Callback} {i : TimerId} {t : Timer Callback}
    (hcreated : m'.created = m.created)
    (hheap : ∀ j, m'.heap j = if j = i then t else m.heap j)
    (hrecurring : t.recurring = (m.heap i).recurring)
    (hspent : (m.heap i).cb = none → t.cb = none) : Ages m m' := by
  refine ⟨Nat.le_of_eq hcreated.symm, ?_, ?_⟩
  · intro j _
    rw [hheap j]
    split
    · rename_i hj; rw [hj, hrecurring]
    · rfl
  · intro j _ hnone
    rw [hheap j]
    split
    · rename_i hj; exact hspent (hj ▸ hnone)
    · exact hnone

theorem ages_addTimer (m : TimerManager Callback) (ms addr now : Nat)
    (cb : Option Callback) (recurring : Bool) :
    Ages m (m.addTimer ms cb recurring addr now).1 := by
  have hheap : ∀ j, j < m.created →
      (m.addTimer ms cb recurring addr now).1.heap j = m.heap j := by
    intro j hj
    exact setTimer_ne { m with created := m.created + 1 } _ (Nat.ne_of_lt hj)
  refine ⟨Nat.le_succ _, ?_, ?_⟩
  · intro j hj; rw [hheap j hj]
  · intro j hj hnone; rw [hheap j hj]; exact hnone

theorem ages_perform {m m' : TimerManager Callback} (h : Inv m) {op : TimerOp Callback}
    (hop : m.Permitted op) (hperform : m.perform op = some m') : Ages m m' := by
  cases op with
  | addTimer ms cb recurring addr now =>
    obtain rfl := Option.some.inj hperform
    exact ages_addTimer m ms addr now (some cb) recurring
  | cancel id =>
    by_cases hid : id ∈ m.timers
    · rw [perform, cancel_of_mem h hid] at hperform
      obtain rfl := Option.some.inj hperform
      exact ages_of_heap (i := id) rfl (fun _ => rfl) rfl (fun _ => rfl)
    · rw [perform, cancel_of_not_mem h hid] at hperform
      obtain rfl := Option.some.inj hperform
      exact Ages.refl m
  | refresh id now =>
    obtain rfl := Option.some.inj hperform
    by_cases hid : id ∈ m.timers
    · rw [refresh_of_mem h hid]
      exact ages_of_heap (i := id) rfl (fun _ => rfl) rfl (fun hnone => hnone)
    · rw [refresh_of_not_mem h hid]
      exact Ages.refl m
  | reset id ms from_now now =>
    obtain rfl := Option.some.inj hperform
    unfold reset
    split
    · exact Ages.refl m
    · split
      · exact Ages.refl m
      · split
        · exact Ages.refl m
        · exact ages_of_heap (i := id) rfl (fun _ => rfl) rfl (fun hnone => hnone)
  | listExpiredCb now probe =>
    obtain rfl := Option.some.inj hperform
    obtain ⟨_, hspec, hcreated⟩ := listExpiredCb_spec h probe hop.1 hop.2
    refine ⟨Nat.le_of_eq hcreated.symm, ?_, ?_⟩
    · intro id _
      rw [hspec.heap id]
      split
      · exact handOut_recurring _ _
      · rfl
    · intro id _ hnone
      rw [hspec.heap id]
      split
      · rw [handOut_cb, hnone]; split <;> rfl
      · exact hnone

/-- A timer an operation hands out was in the set, and a one-shot timer has
    no callback afterwards. -/
theorem spent_of_handedOut {m m' : TimerManager Callback} (h : Inv m)
    {op : TimerOp Callback} (hop : m.Permitted op) (hperform : m.perform op = some m') :
    (m.handedOut op).Nodup ∧
    ∀ id ∈ m.handedOut op, id ∈ m.timers ∧
      ((m.heap id).recurring = false → (m'.heap id).cb = none) := by
  cases op with
  | listExpiredCb now probe =>
    obtain rfl := Option.some.inj hperform
    obtain ⟨_, hspec, _⟩ := listExpiredCb_spec h probe hop.1 hop.2
    refine ⟨hspec.once, fun id hid => ⟨((hspec.due id).mp hid).1, fun hr => ?_⟩⟩
    have hdue : id ∈ m.due now := hid
    rw [hspec.heap id, if_pos hdue, handOut_cb, hr]
    rfl
  | addTimer => simp [handedOut]
  | cancel => simp [handedOut]
  | refresh => simp [handedOut]
  | reset => simp [handedOut]

end TimerManager

/-! ## Section 3: What a whole run keeps -/

theorem next_eq_some {m m' : TimerManager Callback} {op : TimerOp Callback}
    (h : (timerSystem Callback).next m op = some m') :
    m.Permitted op ∧ m.perform op = some m' := by
  simp only [timerSystem] at h
  split at h
  · rename_i hop; exact ⟨hop, h⟩
  · cases h

theorem inv_next (m : TimerManager Callback) (op : TimerOp Callback)
    (m' : TimerManager Callback) (h : Inv m)
    (hnext : (timerSystem Callback).next m op = some m') : Inv m' := by
  obtain ⟨hop, hperform⟩ := next_eq_some hnext
  obtain ⟨m'', heq, hinv⟩ := inv_perform h hop
  rw [heq] at hperform
  exact Option.some.inj hperform ▸ hinv

theorem inv_run {now : Nat} (hnow : clockOk now) {m : TimerManager Callback}
    {tr : List (TimerManager Callback × TimerOp Callback)}
    (hrun : Run (timerSystem Callback) (TimerManager.init now) tr m) : Inv m :=
  hrun.invariant inv_next (inv_init hnow)

/-- One-shot timers handed out so far: each once, and with no callback left. -/
theorem handedOutBy_run {now : Nat} (hnow : clockOk now) {m : TimerManager Callback}
    {tr : List (TimerManager Callback × TimerOp Callback)}
    (hrun : Run (timerSystem Callback) (TimerManager.init now) tr m) :
    ∀ id ∈ handedOutBy tr, id < m.created ∧
      ((m.heap id).recurring = false →
        (m.heap id).cb = none ∧ (handedOutBy tr).count id = 1) := by
  induction hrun with
  | nil => simp [handedOutBy]
  | @snoc m m' tr op hprev hnext ih =>
    have hinv := inv_run hnow hprev
    obtain ⟨hop, hperform⟩ := next_eq_some hnext
    have hages := ages_perform hinv hop hperform
    obtain ⟨hnodup, hspent⟩ := spent_of_handedOut hinv hop hperform
    have happ : handedOutBy (tr ++ [(m, op)]) = handedOutBy tr ++ m.handedOut op := by
      simp [handedOutBy]
    intro id hid
    rw [happ] at hid ⊢
    rw [List.count_append]
    by_cases hnew : id ∈ m.handedOut op
    · obtain ⟨hmem, hgone⟩ := hspent id hnew
      have hlt := hinv.set.created id hmem
      refine ⟨Nat.lt_of_lt_of_le hlt hages.created, fun hr => ?_⟩
      rw [hages.recurring id hlt] at hr
      -- it still had its callback, so it was not handed out before
      have hold : id ∉ handedOutBy tr := by
        intro hold
        have hnone := ((ih id hold).2 hr).1
        have hsome := (hinv.live id).mp hmem
        rw [hnone] at hsome
        cases hsome
      rw [List.count_eq_zero_of_not_mem hold, List.count_eq_one_of_mem hnodup hnew]
      exact ⟨hgone hr, rfl⟩
    · have hold := (List.mem_append.mp hid).resolve_right hnew
      obtain ⟨hlt, hone⟩ := ih id hold
      refine ⟨Nat.lt_of_lt_of_le hlt hages.created, fun hr => ?_⟩
      rw [hages.recurring id hlt] at hr
      obtain ⟨hnone, hcount⟩ := hone hr
      rw [List.count_eq_zero_of_not_mem hnew]
      exact ⟨hages.spent id hlt hnone, hcount⟩

/-- After every run the set is sorted and holds exactly the timers with a
    callback, no operation is undefined, and the next `listExpiredCb` hands
    out what is due.  Along the run nothing was handed out early unless the
    clock had rolled over, and no one-shot timer twice. -/
theorem timers_expire_exactly {start : Nat} (hstart : clockOk start)
    {m : TimerManager Callback} {tr : List (TimerManager Callback × TimerOp Callback)}
    (hrun : Run (timerSystem Callback) (TimerManager.init start) tr m) :
    OrderedSet.Sorted m.less m.timers ∧ m.timers.Nodup ∧
    (∀ id, id ∈ m.timers ↔ (m.heap id).cb.isSome = true) ∧
    (∀ op, m.Permitted op → (m.perform op).isSome = true) ∧
    (∀ now probe, m.Permitted (.listExpiredCb now probe) →
      HandsOut m now (m.listExpiredCb now probe).1 (m.listExpiredCb now probe).2) ∧
    (∀ s now probe, (s, TimerOp.listExpiredCb now probe) ∈ tr →
      ¬ now + 60 * 60 * 1000 < s.previousTime →
        ∀ id ∈ handedOut s (.listExpiredCb now probe), (s.heap id).next ≤ now) ∧
    (∀ id, (m.heap id).recurring = false →
      (handedOutBy tr).count id ≤ 1 ∧ (id ∈ handedOutBy tr → id ∉ m.timers)) := by
  have hinv := inv_run hstart hrun
  refine ⟨hinv.set.sorted, hinv.set.nodup, hinv.live, ?_, ?_, ?_, ?_⟩
  · intro op hop
    obtain ⟨m', heq, _⟩ := inv_perform hinv hop
    rw [heq]
    rfl
  · intro now probe hop
    exact (listExpiredCb_spec hinv probe hop.1 hop.2).2.1
  · intro s now probe hmem hroll id hid
    obtain ⟨tr₁, hprev⟩ := hrun.reaches_of_mem hmem
    have hclock := (inv_run hstart hprev).clock
    exact ((mem_due hclock now id).mp hid).2.resolve_left hroll
  · intro id hr
    by_cases hid : id ∈ handedOutBy tr
    · obtain ⟨_, hone⟩ := handedOutBy_run hstart hrun id hid
      obtain ⟨hnone, hcount⟩ := hone hr
      refine ⟨Nat.le_of_eq hcount, fun _ hmem => ?_⟩
      have hsome := (hinv.live id).mp hmem
      rw [hnone] at hsome
      cases hsome
    · refine ⟨?_, fun h => absurd h hid⟩
      rw [List.count_eq_zero_of_not_mem hid]
      exact Nat.zero_le 1

/-- A recurring and a one-shot timer, the clock going two hours back between
    the two calls of `listExpiredCb`. -/
theorem timers_expire_exactly_rollover :
    ∃ m tr, Run (timerSystem Nat) (TimerManager.init 90000000) tr m ∧
      handedOutBy tr = [1, 0, 0] ∧ m.timers = [0] ∧
      OrderedSet.Sorted m.less m.timers := by
  have hrun := (timerSystem Nat).run_of_exec
    (s := TimerManager.init 90000000)
    [.addTimer 50 7 true 4096 90000000, .addTimer 20 8 false 8192 90000010,
     .refresh 1 90000015, .listExpiredCb 90000060 6000, .reset 0 70 false 90000061,
     .listExpiredCb 82800000 6000] rfl
  exact ⟨_, _, hrun, by decide, by decide, (timers_expire_exactly (by decide) hrun).1⟩

end MNSER
