import Mnser.IOManager.Ledger

/-! # Accounting of registered events

    Runs in which the operations execute one at a time and `idle` handles
    only reports on events that are still registered.  Counter, slots and
    kernel then agree in every state, and every event that was added is
    consumed exactly once.  The kernel side is restored only at the end of
    an operation, so it is an invariant of its own beside `Core`. -/

namespace MNSER

open LTS

namespace IOManager

/-! ## Section 1: The invariant -/

/-- `m_fdContexts` holds the contexts in the order of their construction. -/
structure Table (m : IOManager) : Prop where
  pointers : m.fdContexts = List.range m.created
  fds      : ∀ p < m.created, (m.heap p).fd = p

/-- The kernel waits for exactly what `curEvents` says. -/
structure Kernel (m : IOManager) : Prop where
  inside  : ∀ p < m.created, m.interest p = interestOf (m.heap p).curEvents p
  outside : ∀ fd, (∀ p < m.created, fd ≠ (p : Int)) → m.interest fd = none

structure Inv (m : IOManager) : Prop where
  core   : Core m
  table  : Table m
  kernel : Kernel m

/-- A call that keeps the vector and the fds keeps every context at its fd. -/
theorem Table.update {m m' : IOManager} (h : Table m) (hpointers : m'.fdContexts = m.fdContexts)
    (hcreated : m'.created = m.created) (hfd : ∀ q, (m'.heap q).fd = (m.heap q).fd) :
    Table m' where
  pointers := by rw [hpointers, hcreated]; exact h.pointers
  fds      := by
    intro p hp
    rw [hcreated] at hp
    rw [hfd]
    exact h.fds p hp

/-- One context changed and its registration followed. -/
theorem Kernel.update {m m' : IOManager} (h : Kernel m) {p : FdContextPtr}
    (hp : p < m.created) (hcreated : m'.created = m.created)
    (hheap : ∀ q, q ≠ p → m'.heap q = m.heap q)
    (hinterest : m'.interest =
      m.interest.set (p : Int) (interestOf (m'.heap p).curEvents p)) : Kernel m' where
  inside  := by
    intro q hq
    rw [hcreated] at hq
    rw [hinterest]
    by_cases hqp : q = p
    · subst hqp; simp [InterestList.set]
    · have hcast : ¬ (q : Int) = (p : Int) := fun heq => hqp (Int.ofNat.inj heq)
      rw [hheap q hqp, ← h.inside q hq]
      simp [InterestList.set, hcast]
  outside := by
    intro fd hfd
    rw [hcreated] at hfd
    have hne := hfd p hp
    rw [hinterest, ← h.outside fd hfd]
    simp [InterestList.set, hne]

/-! ## Section 2: Operations -/

theorem setContext_fd {m : IOManager} {p : FdContextPtr} {c : FdContext}
    (hfd : c.fd = (m.heap p).fd) (q : FdContextPtr) :
    ((m.setContext p c).heap q).fd = (m.heap q).fd := by
  by_cases hq : q = p
  · subst hq; rw [setContext_self, hfd]
  · rw [setContext_ne m c hq]

/-- The context is found at its own fd, so the kernel is asked for the right one. -/
theorem inv_addEventLocked {m m' : IOManager} (h : Inv m) {p : FdContextPtr} {e : Event}
    {cb : Option FuncId} {caller : Caller} {ok : Bool} {rt : Int} (hp : p < m.created)
    (hcaller : caller.scheduler.isSome = true)
    (hcall : m.addEventLocked p p e cb caller ok = .ok (m', rt)) : Inv m' := by
  have hcore := h.core.addEventLocked hp hcaller hcall
  rcases addEventLocked_cases hcall with ⟨rfl, _⟩ | ⟨_, _, _, _, k, hk, rfl⟩
  · exact h
  · refine ⟨hcore, h.table.update rfl rfl (setContext_fd (FdContext.arm_fd _ _ _)),
      h.kernel.update hp rfl (fun q hq => setContext_ne _ _ hq) ?_⟩
    show k = _
    rw [hk, arm, setContext_self, FdContext.arm_curEvents]
    rfl

theorem inv_delEventLocked {m m' : IOManager} (h : Inv m) {p : FdContextPtr} {e : Event}
    {ok rt : Bool} (hp : p < m.created)
    (hcall : m.delEventLocked p p e ok = .ok (m', rt)) : Inv m' := by
  have hcore := h.core.delEventLocked hcall
  rcases delEventLocked_cases hcall with ⟨rfl, _⟩ | ⟨_, _, k, hk, rfl⟩
  · exact h
  · refine ⟨hcore, h.table.update rfl rfl (setContext_fd (FdContext.disarm_fd _ _)),
      h.kernel.update hp rfl (fun q hq => setContext_ne _ _ hq) ?_⟩
    show k = _
    rw [hk, disarm, setContext_self, FdContext.disarm_curEvents]
    rfl

theorem inv_cancelEventLocked {m m' : IOManager} (h : Inv m) {p : FdContextPtr} {e : Event}
    {ok rt : Bool} (hp : p < m.created)
    (hcall : m.cancelEventLocked p p e ok = .ok (m', rt)) : Inv m' := by
  have hcore := h.core.cancelEventLocked hcall
  rcases cancelEventLocked_cases (h.core.wf p) hcall with
    ⟨rfl, _⟩ | ⟨_, _, k, s, task, hk, _, rfl⟩
  · exact h
  · refine ⟨hcore, h.table.update rfl rfl (setContext_fd (FdContext.disarm_fd _ _)),
      h.kernel.update hp rfl (fun q hq => setContext_ne _ _ hq) ?_⟩
    show k = _
    rw [hk, disarm, setContext_self, FdContext.disarm_curEvents]
    rfl

theorem inv_cancelAllLocked {m m' : IOManager} (h : Inv m) {p : FdContextPtr}
    {ok rt : Bool} (hp : p < m.created)
    (hcall : m.cancelAllLocked p p ok = .ok (m', rt)) : Inv m' := by
  rcases cancelAllLocked_cases hcall with ⟨rfl, _⟩ | ⟨_, k, m₁, hk, hread, hwrite, hzero⟩
  · exact h
  · obtain ⟨hcore₁, hcreated₁, htable₁, hinterest₁, hheap₁, hfd₁, _⟩ :=
      (h.core.setInterest k).triggerIf hread
    obtain ⟨hcore₂, hcreated₂, htable₂, hinterest₂, hheap₂, hfd₂, _⟩ := hcore₁.triggerIf hwrite
    refine ⟨hcore₂, h.table.update (htable₂.trans htable₁) (hcreated₂.trans hcreated₁)
      (fun q => (hfd₂ q).trans (hfd₁ q)), h.kernel.update hp (hcreated₂.trans hcreated₁)
      (fun q hq => (hheap₂ q hq).trans (hheap₁ q hq)) ?_⟩
    rw [hinterest₂, hinterest₁, hzero]
    exact hk

/-- `READ` and `WRITE` taken out one after the other. -/
theorem andNot_parts {cur real : Events} (hreal : real.Known) :
    cur &&& ~~~(if real.test Event.READ.mask then Event.READ.mask else 0) &&&
      ~~~(if real.test Event.WRITE.mask then Event.WRITE.mask else 0) = cur &&& ~~~real := by
  rw [BitVec.and_assoc]
  congr 1
  rcases hreal with rfl | rfl | rfl | rfl <;> decide

/-- The report names only events that are still registered. -/
def StillSet (m : IOManager) (p : FdContextPtr) (events : Events) : Prop :=
  (events.test Event.READ.mask = true → (m.heap p).curEvents.test Event.READ.mask = true) ∧
  (events.test Event.WRITE.mask = true → (m.heap p).curEvents.test Event.WRITE.mask = true)

instance (m : IOManager) (p : FdContextPtr) (events : Events) :
    Decidable (m.StillSet p events) :=
  inferInstanceAs (Decidable ((_ → _) ∧ (_ → _)))

theorem inv_handleReport {m m' : IOManager} (h : Inv m) {p : FdContextPtr}
    {events : Events} {ok : Bool} (hp : p < m.created)
    (hcall : m.handleReport p events ok = .ok m') : Inv m' := by
  rcases handleReport_cases hcall with rfl | ⟨k, m₁, hk, hread, hwrite⟩
  · exact h
  · obtain ⟨hcore₁, hcreated₁, htable₁, hinterest₁, hheap₁, hfd₁, hcur₁⟩ :=
      (h.core.setInterest k).triggerIf hread
    obtain ⟨hcore₂, hcreated₂, htable₂, hinterest₂, hheap₂, hfd₂, hcur₂⟩ :=
      hcore₁.triggerIf hwrite
    refine ⟨hcore₂, h.table.update (htable₂.trans htable₁) (hcreated₂.trans hcreated₁)
      (fun q => (hfd₂ q).trans (hfd₁ q)), h.kernel.update hp (hcreated₂.trans hcreated₁)
      (fun q hq => (hheap₂ q hq).trans (hheap₁ q hq)) ?_⟩
    rw [hinterest₂, hinterest₁, hcur₂, hcur₁, andNot_parts (known_realEvents _ _),
      ← h.table.fds p hp]
    exact hk

/-! ## Section 3: The table of contexts -/

/-- A new context gets the next fd. -/
theorem inv_newContext {m : IOManager} (h : Inv m) : Inv (m.newContext m.created) := by
  refine ⟨h.core.newContext _, ⟨?_, ?_⟩, ⟨?_, ?_⟩⟩
  · show m.fdContexts ++ [m.created] = List.range (m.created + 1)
    rw [h.table.pointers, List.range_succ]
  · intro p hp
    rcases Nat.lt_succ_iff_lt_or_eq.mp hp with hp | rfl
    · rw [newContext_heap_ne _ _ (Nat.ne_of_lt hp)]; exact h.table.fds p hp
    · rw [h.core.newContext_heap_self]
  · intro p hp
    rcases Nat.lt_succ_iff_lt_or_eq.mp hp with hp | rfl
    · rw [newContext_heap_ne _ _ (Nat.ne_of_lt hp)]; exact h.kernel.inside p hp
    · rw [h.core.newContext_heap_self]
      refine h.kernel.outside _ fun q hq heq => ?_
      exact Nat.ne_of_gt hq (Int.ofNat.inj heq)
  · intro fd hfd
    exact h.kernel.outside fd fun q hq => hfd q (Nat.lt_succ_of_lt hq)

/-- A vector that does not get shorter keeps its contexts. -/
theorem inv_contextResize {m : IOManager} (h : Inv m) {size : Nat}
    (hsize : m.fdContexts.length ≤ size) : Inv (m.contextResize size) := by
  have htake : ({ m with fdContexts := m.fdContexts.take size } : IOManager) = m := by
    rw [List.take_of_length_le hsize]
  rw [contextResize, htake]
  generalize List.range (size - m.fdContexts.length) = places
  clear htake hsize
  induction places generalizing m with
  | nil => exact h
  | cons _ rest ih =>
    rw [List.foldl_cons]
    apply ih
    rw [h.table.pointers, List.length_range]
    exact inv_newContext h

theorem inv_init : Inv (init fun _ => 0) := by
  apply inv_contextResize
  · exact ⟨core_empty, ⟨rfl, by simp⟩, ⟨by simp, fun _ _ => rfl⟩⟩
  · simp

/-- The context found at `fd` is the one of `fd`. -/
theorem fdContextAt_ok {m : IOManager} (h : Inv m) {fd : Int} {p : FdContextPtr}
    (hat : m.fdContextAt fd = .ok p) : p < m.created ∧ fd = (p : Int) := by
  unfold fdContextAt at hat
  split at hat
  · cases hat
  · rename_i hneg
    split at hat
    · cases hat
    · rename_i q hq
      obtain rfl := Except.ok.inj hat
      rw [h.table.pointers, List.getElem?_eq_some_iff] at hq
      obtain ⟨hlt, hget⟩ := hq
      simp only [List.length_range, List.getElem_range] at hlt hget
      refine ⟨hget ▸ hlt, ?_⟩
      rw [← hget, Int.toNat_of_nonneg (Int.not_lt.mp hneg)]

/-- Whichever call has the lock of the context. -/
theorem inv_locked {m m' : IOManager} (h : Inv m) {p : FdContextPtr} {c : Call}
    {caller : Caller} {ok : Bool} (hp : p < m.created) (hfd : c.fd = (p : Int))
    (hcaller : caller.scheduler.isSome = true)
    (hcall : m.locked p caller ok c = .ok m') : Inv m' := by
  cases c with
  | addEvent fd e cb =>
    obtain rfl : fd = (p : Int) := hfd
    obtain ⟨⟨m₁, rt⟩, hrun, rfl⟩ := map_eq_ok hcall
    exact inv_addEventLocked h hp hcaller hrun
  | delEvent fd e =>
    obtain rfl : fd = (p : Int) := hfd
    obtain ⟨⟨m₁, rt⟩, hrun, rfl⟩ := map_eq_ok hcall
    exact inv_delEventLocked h hp hrun
  | cancelEvent fd e =>
    obtain rfl : fd = (p : Int) := hfd
    obtain ⟨⟨m₁, rt⟩, hrun, rfl⟩ := map_eq_ok hcall
    exact inv_cancelEventLocked h hp hrun
  | cancelAll fd =>
    obtain rfl : fd = (p : Int) := hfd
    obtain ⟨⟨m₁, rt⟩, hrun, rfl⟩ := map_eq_ok hcall
    exact inv_cancelAllLocked h hp hrun

/-- The same for the read-locked lookup. -/
theorem lookup_ok {m : IOManager} (h : Inv m) {fd : Int} {p : FdContextPtr}
    (hlookup : m.lookup fd = .ok (some p)) : p < m.created ∧ fd = (p : Int) := by
  unfold lookup at hlookup
  split at hlookup
  · cases hlookup
  · obtain ⟨q, hat, hq⟩ := map_eq_ok hlookup
    obtain rfl := Option.some.inj hq
    exact fdContextAt_ok h hat

/-- A whole call: the lookup, the resize if there is one, and the part under the
    lock. -/
theorem inv_perform {m m' : IOManager} (h : Inv m) {call : Call} {caller : Caller}
    {ok : Bool} (hcaller : caller.scheduler.isSome = true)
    (hcall : m.perform call caller ok = .ok m') : Inv m' := by
  simp only [perform, bind, Except.bind, pure, Except.pure] at hcall
  split at hcall
  · cases hcall
  · rename_i answer hlookup
    split at hcall
    · obtain ⟨hp, hfd⟩ := lookup_ok h hlookup
      exact inv_locked h hp hfd hcaller hcall
    · rename_i fd e cb
      split at hcall
      · cases hcall
      · rename_i pair hresize
        simp only [resizeFor, bind, Except.bind, pure, Except.pure] at hresize
        split at hresize
        · cases hresize
        · rename_i p hat
          obtain rfl := Except.ok.inj hresize
          -- the vector was too short for `fd`, so it grows
          have hshort : (m.fdContexts.length : Int) ≤ fd := by
            unfold lookup at hlookup
            split at hlookup
            · assumption
            · obtain ⟨q, _, hq⟩ := map_eq_ok hlookup
              cases hq
          have hgrown := inv_contextResize h
            (show m.fdContexts.length ≤ fd.toNat * 3 / 2 by omega)
          obtain ⟨hp, hfd⟩ := fdContextAt_ok hgrown hat
          exact inv_locked (c := .addEvent fd e cb) hgrown hp hfd hcaller hcall
    · exact Except.ok.inj hcall ▸ h

end IOManager

/-! ## Section 4: Runs -/

inductive AccountingLabel where
  | call (call : IOManager.Call) (caller : IOManager.Caller) (ok : Bool)
  | report (p : FdContextPtr) (events : Events) (ok : Bool)

/-- Operations one at a time; a fault ends the run. -/
def accounting : System IOManager AccountingLabel where
  init := fun m => m = IOManager.init fun _ => 0
  next := fun m l =>
    match l with
    | .call call caller ok   => (m.perform call caller ok).toOption
    | .report p events ok    =>
      if p < m.created ∧ m.StillSet p events then (m.handleReport p events ok).toOption
      else none

/-- The thread that runs the step has a scheduler. -/
def AccountingLabel.OnScheduler : AccountingLabel → Prop
  | .call _ caller _ => caller.scheduler.isSome = true
  | .report _ _ _    => True

theorem toOption_eq_some {α : Type} {x : Except Fault α} {a : α} (h : x.toOption = some a) :
    x = .ok a := by
  cases x with
  | error _ => cases h
  | ok b => exact congrArg Except.ok (Option.some.inj h)

/-- One call, or one report of the kernel. -/
theorem inv_accounting {m m' : IOManager} {l : AccountingLabel} (h : m.Inv)
    (hl : l.OnScheduler) (hnext : accounting.next m l = some m') : m'.Inv := by
  cases l with
  | call call caller ok =>
    exact IOManager.inv_perform h hl (toOption_eq_some hnext)
  | report p events ok =>
    simp only [accounting] at hnext
    split at hnext
    · rename_i hset
      exact IOManager.inv_handleReport h hset.1 (toOption_eq_some hnext)
    · cases hnext

/-- Counter, slots, kernel and histories agree after every run on threads
    that have a scheduler. -/
theorem events_accounted {m : IOManager} {tr : List (IOManager × AccountingLabel)}
    (hrun : Run accounting (IOManager.init fun _ => 0) tr m)
    (hthreads : ∀ step ∈ tr, step.2.OnScheduler) :
    m.pendingEventCount = ∑ p ∈ Finset.range m.created, (m.heap p).registered ∧
    (∀ p < m.created, ∀ e, e ≠ .NONE →
      ((m.heap p).curEvents.test e.mask = true ↔
        ((m.heap p).slot e).scheduler.isSome = true ∧
        ((m.heap p).slot e).fiber.isSome = !((m.heap p).slot e).func.isSome) ∧
      ((m.heap p).curEvents.test e.mask = false → (m.heap p).slot e = .empty)) ∧
    (∀ p < m.created, m.interest (m.heap p).fd = interestOf (m.heap p).curEvents p) ∧
    (∀ fd, (∀ p < m.created, fd ≠ (m.heap p).fd) → m.interest fd = none) ∧
    (∀ p e, e ≠ .NONE → Ledger p e m.effects ((m.heap p).slot e).content) := by
  have hinv : m.Inv :=
    hrun.guarded_invariant (G := fun _ l => l.OnScheduler)
      (fun _ _ _ h hl hnext => inv_accounting h hl hnext) hthreads IOManager.inv_init
  obtain ⟨hcore, htable, hkernel⟩ := hinv
  refine ⟨hcore.count, ?_, ?_, ?_, hcore.history⟩
  · intro p _ e _
    refine ⟨⟨?_, ?_⟩, (hcore.wf p).clear e⟩
    · intro htest
      obtain ⟨s, task, hslot⟩ := (hcore.wf p).armed e htest
      rw [hslot]
      cases task <;> exact ⟨rfl, rfl⟩
    · rintro ⟨hscheduler, _⟩
      by_contra htest
      rw [(hcore.wf p).clear e (by simpa using htest)] at hscheduler
      cases hscheduler
  · intro p hp
    rw [htable.fds p hp]
    exact hkernel.inside p hp
  · intro fd hfd
    refine hkernel.outside fd fun p hp => ?_
    rw [← htable.fds p hp]
    exact hfd p hp

/-- A thread without a scheduler registers a callback that nobody can schedule. -/
theorem events_accounted_no_scheduler :
    ∃ m tr, Run accounting (IOManager.init fun _ => 0) tr m ∧
      (m.heap 3).curEvents.test Event.READ.mask = true ∧
      ((m.heap 3).slot .READ).scheduler = none := by
  have hrun := accounting.run_of_exec (s := IOManager.init fun _ => 0)
    [.call (.addEvent 3 .READ (some 7)) ⟨none, 0⟩ true] rfl
  exact ⟨_, _, hrun, by decide, by decide⟩

/-- Both events of one fd added; one report wakes the reader, then the writer
    is cancelled. -/
theorem events_accounted_two_events :
    ∃ m tr, Run accounting (IOManager.init fun _ => 0) tr m ∧
      m.effects = [.added 40 .READ (some 1) (.fiber 9), .added 40 .WRITE (some 1) (.func 7),
        .scheduled 40 .READ 1 (some (.fiber 9)), .scheduled 40 .WRITE 1 (some (.func 7))] ∧
      m.pendingEventCount = ∑ p ∈ Finset.range m.created, (m.heap p).registered := by
  have hrun := accounting.run_of_exec (s := IOManager.init fun _ => 0)
    [.call (.addEvent 40 .READ none) ⟨some 1, 9⟩ true,
     .call (.addEvent 40 .WRITE (some 7)) ⟨some 1, 9⟩ true,
     .report 40 EPOLLIN true, .call (.cancelEvent 40 .WRITE) ⟨some 1, 9⟩ true] rfl
  refine ⟨_, _, hrun, by decide, (events_accounted hrun fun step hstep => ?_).1⟩
  have hlabel := accounting.mem_of_mem_trace hstep
  simp only [List.mem_cons, List.not_mem_nil, or_false] at hlabel
  rcases hlabel with h | h | h | h <;> rw [h] <;> trivial

end MNSER
