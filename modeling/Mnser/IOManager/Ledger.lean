import Mathlib.Algebra.BigOperators.Group.Finset.Basic
import Mathlib.Algebra.Order.Ring.Int
import Mnser.IOManager.Slots

/-! # The ledger of event slots

    Every slot has a history of what was added to it and how it was taken
    out again.  `Core` says that slots are well formed, that the counter
    counts them and that every history is balanced; it is what each single
    arming or disarming keeps, and so every operation that does not die on
    the way, whatever else runs at the same time. -/

namespace MNSER

/-! ## Section 1: The history of a slot -/

def Effect.slot : Effect → FdContextPtr × Event
  | .added p e _ _     => (p, e)
  | .scheduled p e _ _ => (p, e)
  | .discarded p e     => (p, e)

/-- `Ledger p e h x`: in the history `h`, what was added to the slot `(p, e)`
    was each time consumed once before the next was added, by one call of
    `schedule` with the scheduler and the task that had been stored or by
    being discarded, and `x` is what is still to be consumed. -/
inductive Ledger (p : FdContextPtr) (e : Event) :
    List Effect → Option (SchedulerId × Task) → Prop where
  | nil       : Ledger p e [] none
  | added     : ∀ {h : List Effect} {s : SchedulerId} {task : Task},
                  Ledger p e h none →
                  Ledger p e (h ++ [.added p e (some s) task]) (some (s, task))
  | scheduled : ∀ {h : List Effect} {s : SchedulerId} {task : Task},
                  Ledger p e h (some (s, task)) →
                  Ledger p e (h ++ [.scheduled p e s (some task)]) none
  | discarded : ∀ {h : List Effect} {x : SchedulerId × Task},
                  Ledger p e h (some x) → Ledger p e (h ++ [.discarded p e]) none
  | other     : ∀ {h : List Effect} {x : Option (SchedulerId × Task)} {eff : Effect},
                  eff.slot ≠ (p, e) → Ledger p e h x → Ledger p e (h ++ [eff]) x

/-- The scheduler and task a slot holds. -/
def EventContext.content : EventContext → Option (SchedulerId × Task)
  | ⟨some s, some f, none⟩ => some (s, .fiber f)
  | ⟨some s, none, some f⟩ => some (s, .func f)
  | _                      => none

@[simp] theorem EventContext.content_of (s : SchedulerId) (task : Task) :
    (EventContext.of (some s) task).content = some (s, task) := by
  cases task <;> rfl

@[simp] theorem EventContext.content_empty : EventContext.empty.content = none := rfl

/-! ## Section 2: The invariant -/

/-- The number of events a context waits for. -/
def FdContext.registered (c : FdContext) : Int :=
  (if c.curEvents.test Event.READ.mask then 1 else 0) +
    (if c.curEvents.test Event.WRITE.mask then 1 else 0)

/-- Arming a slot is one event more. -/
theorem FdContext.registered_arm (c : FdContext) {e : Event} (ctx : EventContext)
    (he : e ≠ .NONE) (htest : c.curEvents.test e.mask = false) :
    (c.arm e ctx).registered = c.registered + 1 := by
  unfold registered
  rw [arm_curEvents, Events.test_or _ _ _ (by decide), Events.test_or _ _ _ (by decide)]
  cases e with
  | NONE => contradiction
  | READ => simp [htest]; omega
  | WRITE => simp [htest]

/-- Disarming one is one event less. -/
theorem FdContext.registered_disarm (c : FdContext) {e : Event}
    (htest : c.curEvents.test e.mask = true) :
    (c.disarm e).registered = c.registered - 1 := by
  have he := test_ne_none htest
  unfold registered
  rw [disarm_curEvents, Events.test_andNot, Events.test_andNot]
  cases e with
  | NONE => contradiction
  | READ => simp [htest]
  | WRITE => simp [htest]

namespace IOManager

/-- Slots are well formed, the counter counts them and every slot's history
    ends with what the slot holds. -/
structure Core (m : IOManager) : Prop where
  memory  : ∀ p, m.uninitialised p = 0
  wf      : ∀ p, (m.heap p).WF
  fresh   : ∀ p, m.created ≤ p → ∀ e, (m.heap p).slot e = .empty
  count   : m.pendingEventCount = ∑ p ∈ Finset.range m.created, (m.heap p).registered
  history : ∀ p e, e ≠ .NONE → Ledger p e m.effects ((m.heap p).slot e).content

/-! ## Section 3: Slots -/

/-- The count over all contexts changes by what the one context does. -/
theorem sum_setContext (m : IOManager) {p n : Nat} (c : FdContext) (hp : p < n) :
    ∑ q ∈ Finset.range n, ((m.setContext p c).heap q).registered =
      (∑ q ∈ Finset.range n, (m.heap q).registered) +
        (c.registered - (m.heap p).registered) := by
  have hmem : p ∈ Finset.range n := Finset.mem_range.mpr hp
  rw [← Finset.add_sum_erase _ _ hmem, ← Finset.add_sum_erase _ _ hmem, setContext_self]
  -- only the summand of `p` changes
  have hrest : ∑ q ∈ (Finset.range n).erase p, ((m.setContext p c).heap q).registered =
      ∑ q ∈ (Finset.range n).erase p, (m.heap q).registered := by
    refine Finset.sum_congr rfl fun q hq => ?_
    rw [setContext_ne m c (Finset.ne_of_mem_erase hq)]
  rw [hrest]
  omega

/-- The kernel's list is no part of it. -/
theorem Core.setInterest {m : IOManager} (h : Core m) (k : InterestList) :
    Core (m.setInterest k) :=
  ⟨h.memory, h.wf, h.fresh, h.count, h.history⟩

/-- What both arming and disarming do to the rest of the manager. -/
theorem Core.update {m m' : IOManager} (h : Core m) {p : FdContextPtr} {e : Event}
    {c : FdContext} {eff : Effect} (hp : p < m.created)
    (hcreated : m'.created = m.created)
    (hmemory : m'.uninitialised = m.uninitialised)
    (hheap : m'.heap = (m.setContext p c).heap) (hwf : c.WF)
    (hcount : m'.pendingEventCount =
      m.pendingEventCount + (c.registered - (m.heap p).registered))
    (heff : m'.effects = m.effects ++ [eff]) (hslot : eff.slot = (p, e))
    (hother : ∀ e', e' ≠ .NONE → e' ≠ e → c.slot e' = (m.heap p).slot e')
    (hledger : Ledger p e (m.effects ++ [eff]) (c.slot e).content) : Core m' where
  memory  := by rw [hmemory]; exact h.memory
  wf      := by
    intro q
    rw [hheap]
    by_cases hqp : q = p
    · subst hqp; rw [setContext_self]; exact hwf
    · rw [setContext_ne m c hqp]; exact h.wf q
  fresh   := by
    -- the context exists, so it is none of the fresh ones
    intro q hq e'
    rw [hcreated] at hq
    rw [hheap, setContext_ne m c (Nat.ne_of_gt (Nat.lt_of_lt_of_le hp hq))]
    exact h.fresh q hq e'
  count   := by rw [hcount, hcreated, hheap, sum_setContext m c hp, h.count]
  history := by
    -- the effect is one of slot `e` of `p`; it is no entry in any other slot's history
    intro q e' he'
    rw [heff, hheap]
    by_cases hqp : q = p
    · subst hqp
      rw [setContext_self]
      by_cases hee : e' = e
      · subst hee; exact hledger
      · rw [hother e' he' hee]
        apply Ledger.other _ (h.history q e' he')
        rw [hslot]
        exact fun heq => hee (Prod.mk.inj heq).2.symm
    · rw [setContext_ne m c hqp]
      apply Ledger.other _ (h.history q e' he')
      rw [hslot]
      exact fun heq => hqp (Prod.mk.inj heq).1.symm

/-- `++m_pendingEventCount` goes with a slot that gets filled, whose history was
    over. -/
theorem Core.arm {m : IOManager} (h : Core m) {p : FdContextPtr} {e : Event}
    (hp : p < m.created) (he : e ≠ .NONE) (htest : (m.heap p).curEvents.test e.mask = false)
    (s : SchedulerId) (task : Task) : Core (m.arm p e (some s) task) := by
  refine h.update (e := e) hp rfl rfl rfl ((h.wf p).arm e s task)
    ?_ rfl rfl ?_ ?_
  · rw [FdContext.registered_arm _ _ he htest]
    show m.pendingEventCount + 1 = _
    omega
  · intro e' he' hne
    rw [FdContext.slot_arm _ _ _ _ he', if_neg hne]
  · -- the bit was clear, so the history ends with an empty slot
    have hledger := h.history p e he
    rw [(h.wf p).clear e htest, EventContext.content_empty] at hledger
    rw [FdContext.slot_arm _ _ _ _ he, if_pos rfl, EventContext.content_of]
    exact Ledger.added hledger

/-- Only contexts that exist wait for anything. -/
theorem Core.lt_of_test {m : IOManager} (h : Core m) {p : FdContextPtr} {e : Event}
    (htest : (m.heap p).curEvents.test e.mask = true) : p < m.created := by
  by_contra hge
  obtain ⟨s, task, hslot⟩ := (h.wf p).armed e htest
  rw [h.fresh p (Nat.le_of_not_lt hge) e] at hslot
  exact EventContext.of_ne_empty _ _ hslot.symm

/-- `--m_pendingEventCount` goes with a slot that gets empty. -/
theorem Core.disarm {m : IOManager} (h : Core m) {p : FdContextPtr} {e : Event}
    {eff : Effect}
    (htest : (m.heap p).curEvents.test e.mask = true) (hslot : eff.slot = (p, e))
    (hledger : ∀ s task, (m.heap p).slot e = EventContext.of (some s) task →
      Ledger p e m.effects (some (s, task)) → Ledger p e (m.effects ++ [eff]) none) :
    Core (m.disarm p e eff) := by
  have he := FdContext.test_ne_none htest
  refine h.update (e := e) (h.lt_of_test htest) rfl rfl rfl ((h.wf p).disarm e)
    ?_ rfl hslot ?_ ?_
  · rw [FdContext.registered_disarm _ htest]
    show m.pendingEventCount - 1 = _
    omega
  · intro e' he' hne
    rw [FdContext.slot_disarm _ _ _ he', if_neg hne]
  · -- the bit was set, so the history ends with the task that is taken out
    obtain ⟨s, task, harmed⟩ := (h.wf p).armed e htest
    have hold := h.history p e he
    rw [harmed, EventContext.content_of] at hold
    rw [FdContext.slot_disarm _ _ _ he, if_pos rfl, EventContext.content_empty]
    exact hledger s task harmed hold

/-- What is scheduled is what was added. -/
theorem Core.disarm_scheduled {m : IOManager} (h : Core m) {p : FdContextPtr} {e : Event}
    {s : SchedulerId} {task : Task}
    (htest : (m.heap p).curEvents.test e.mask = true)
    (hslot : (m.heap p).slot e = EventContext.of (some s) task) :
    Core (m.disarm p e (.scheduled p e s (some task))) := by
  refine h.disarm htest rfl ?_
  intro s' task' hslot' hold
  -- the slot holds one task only, so it is this one
  have hcontent := congrArg EventContext.content (hslot.symm.trans hslot')
  rw [EventContext.content_of, EventContext.content_of] at hcontent
  obtain ⟨rfl, rfl⟩ := Prod.mk.inj (Option.some.inj hcontent)
  exact Ledger.scheduled hold

theorem Core.disarm_discarded {m : IOManager} (h : Core m) {p : FdContextPtr} {e : Event}
    (htest : (m.heap p).curEvents.test e.mask = true) :
    Core (m.disarm p e (.discarded p e)) :=
  h.disarm htest rfl fun _ _ _ hold => Ledger.discarded hold

/-! ## Section 4: Operations -/

theorem Core.addEventLocked {m m' : IOManager} (h : Core m) {p : FdContextPtr} {fd : Int}
    {e : Event} {cb : Option FuncId} {caller : Caller} {ok : Bool} {rt : Int}
    (hp : p < m.created) (hcaller : caller.scheduler.isSome = true)
    (hcall : m.addEventLocked p fd e cb caller ok = .ok (m', rt)) : Core m' := by
  rcases addEventLocked_cases hcall with ⟨rfl, _⟩ | ⟨_, he, htest, _, k, _, rfl⟩
  · exact h
  · obtain ⟨s, hs⟩ := Option.isSome_iff_exists.mp hcaller
    rw [hs]
    exact (h.setInterest k).arm hp he htest s _

theorem Core.delEventLocked {m m' : IOManager} (h : Core m) {p : FdContextPtr} {fd : Int}
    {e : Event} {ok rt : Bool} (hcall : m.delEventLocked p fd e ok = .ok (m', rt)) :
    Core m' := by
  rcases delEventLocked_cases hcall with ⟨rfl, _⟩ | ⟨_, htest, k, _, rfl⟩
  · exact h
  · exact (h.setInterest k).disarm_discarded htest

theorem Core.cancelEventLocked {m m' : IOManager} (h : Core m) {p : FdContextPtr} {fd : Int}
    {e : Event} {ok rt : Bool} (hcall : m.cancelEventLocked p fd e ok = .ok (m', rt)) :
    Core m' := by
  rcases cancelEventLocked_cases (h.wf p) hcall with
    ⟨rfl, _⟩ | ⟨_, htest, k, s, task, _, hslot, rfl⟩
  · exact h
  · exact (h.setInterest k).disarm_scheduled htest hslot

/-- What a `triggerIf` that comes back has done. -/
theorem Core.triggerIf {m m' : IOManager} (h : Core m) {p : FdContextPtr} {events : Events}
    {e : Event} (hcall : m.triggerIf p events e = .ok m') :
    Core m' ∧ m'.created = m.created ∧ m'.fdContexts = m.fdContexts ∧
    m'.interest = m.interest ∧ (∀ q, q ≠ p → m'.heap q = m.heap q) ∧
    (∀ q, (m'.heap q).fd = (m.heap q).fd) ∧
    (m'.heap p).curEvents =
      (m.heap p).curEvents &&& ~~~(if events.test e.mask then e.mask else 0) := by
  -- the event was asked for and registered, or nothing happened
  rcases triggerIf_cases (h.wf p) hcall with ⟨htest, rfl⟩ | ⟨htest, hcur, s, task, hslot, rfl⟩
  · refine ⟨h, rfl, rfl, rfl, fun _ _ => rfl, fun _ => rfl, ?_⟩
    rw [if_neg (by simp [htest]), Events.andNot_zero]
  · refine ⟨h.disarm_scheduled hcur hslot, rfl, rfl, rfl, fun q hq => setContext_ne _ _ hq,
      fun q => ?_, ?_⟩
    · by_cases hq : q = p
      · subst hq; exact (congrArg FdContext.fd (setContext_self _ _ _)).trans (by simp)
      · exact congrArg FdContext.fd (setContext_ne _ _ hq)
    · rw [if_pos htest, IOManager.disarm, setContext_self, FdContext.disarm_curEvents]

theorem Core.cancelAllLocked {m m' : IOManager} (h : Core m) {p : FdContextPtr} {fd : Int}
    {ok rt : Bool} (hcall : m.cancelAllLocked p fd ok = .ok (m', rt)) : Core m' := by
  rcases cancelAllLocked_cases hcall with ⟨rfl, _⟩ | ⟨_, k, m₁, _, hread, hwrite, _⟩
  · exact h
  · have h₁ := ((h.setInterest k).triggerIf hread).1
    exact (h₁.triggerIf hwrite).1

theorem Core.handleReport {m m' : IOManager} (h : Core m) {p : FdContextPtr}
    {events : Events} {ok : Bool} (hcall : m.handleReport p events ok = .ok m') :
    Core m' := by
  rcases handleReport_cases hcall with rfl | ⟨k, m₁, _, hread, hwrite⟩
  · exact h
  · have h₁ := ((h.setInterest k).triggerIf hread).1
    exact (h₁.triggerIf hwrite).1

/-- Whichever call has the lock of the context. -/
theorem Core.locked {m m' : IOManager} (h : Core m) {p : FdContextPtr} {call : Call}
    {caller : Caller} {ok : Bool} (hp : p < m.created)
    (hcaller : caller.scheduler.isSome = true)
    (hcall : m.locked p caller ok call = .ok m') : Core m' := by
  cases call with
  | addEvent fd e cb =>
    obtain ⟨⟨m₁, rt⟩, hrun, rfl⟩ := map_eq_ok hcall
    exact h.addEventLocked hp hcaller hrun
  | delEvent fd e =>
    obtain ⟨⟨m₁, rt⟩, hrun, rfl⟩ := map_eq_ok hcall
    exact h.delEventLocked hrun
  | cancelEvent fd e =>
    obtain ⟨⟨m₁, rt⟩, hrun, rfl⟩ := map_eq_ok hcall
    exact h.cancelEventLocked hrun
  | cancelAll fd =>
    obtain ⟨⟨m₁, rt⟩, hrun, rfl⟩ := map_eq_ok hcall
    exact h.cancelAllLocked hrun

/-- The table of contexts is as before. -/
def SameTable (m m' : IOManager) : Prop :=
  m'.created = m.created ∧ m'.fdContexts = m.fdContexts

theorem handleReport_table {m m' : IOManager} (h : Core m) {p : FdContextPtr}
    {events : Events} {ok : Bool} (hcall : m.handleReport p events ok = .ok m') :
    SameTable m m' := by
  rcases handleReport_cases hcall with rfl | ⟨k, m₁, _, hread, hwrite⟩
  · exact ⟨rfl, rfl⟩
  · obtain ⟨h₁, hcreated₁, htable₁, _⟩ := (h.setInterest k).triggerIf hread
    obtain ⟨_, hcreated₂, htable₂, _⟩ := h₁.triggerIf hwrite
    exact ⟨hcreated₂.trans hcreated₁, htable₂.trans htable₁⟩

/-- No call that has the lock of a context touches the vector. -/
theorem locked_table {m m' : IOManager} (h : Core m) {p : FdContextPtr} {call : Call}
    {caller : Caller} {ok : Bool} (hcall : m.locked p caller ok call = .ok m') :
    SameTable m m' := by
  cases call with
  | addEvent fd e cb =>
    obtain ⟨⟨m₁, rt⟩, hrun, rfl⟩ := map_eq_ok hcall
    rcases addEventLocked_cases hrun with ⟨rfl, _⟩ | ⟨_, _, _, _, k, _, rfl⟩ <;>
      exact ⟨rfl, rfl⟩
  | delEvent fd e =>
    obtain ⟨⟨m₁, rt⟩, hrun, rfl⟩ := map_eq_ok hcall
    rcases delEventLocked_cases hrun with ⟨rfl, _⟩ | ⟨_, _, k, _, rfl⟩ <;> exact ⟨rfl, rfl⟩
  | cancelEvent fd e =>
    obtain ⟨⟨m₁, rt⟩, hrun, rfl⟩ := map_eq_ok hcall
    rcases cancelEventLocked_cases (h.wf p) hrun with ⟨rfl, _⟩ | ⟨_, _, k, s, task, _, _, rfl⟩ <;>
      exact ⟨rfl, rfl⟩
  | cancelAll fd =>
    obtain ⟨⟨m₁, rt⟩, hrun, rfl⟩ := map_eq_ok hcall
    rcases cancelAllLocked_cases hrun with ⟨rfl, _⟩ | ⟨_, k, m₂, _, hread, hwrite, _⟩
    · exact ⟨rfl, rfl⟩
    · obtain ⟨h₁, hcreated₁, htable₁, _⟩ := (h.setInterest k).triggerIf hread
      obtain ⟨_, hcreated₂, htable₂, _⟩ := h₁.triggerIf hwrite
      exact ⟨hcreated₂.trans hcreated₁, htable₂.trans htable₁⟩

/-- Slots were only emptied. -/
def Fewer (m m' : IOManager) : Prop :=
  ∀ q e, (m'.heap q).slot e = .empty ∨ (m'.heap q).slot e = (m.heap q).slot e

theorem fewer_refl (m : IOManager) : Fewer m m := fun _ _ => Or.inr rfl

/-- Nobody is registered anew by either step. -/
theorem Fewer.trans {m m' m'' : IOManager} (h : Fewer m m') (h' : Fewer m' m'') :
    Fewer m m'' := by
  intro q e
  rcases h' q e with hempty | hsame
  · exact Or.inl hempty
  · rw [hsame]
    exact h q e

/-- A disarmed slot is empty, and all others are as they were. -/
theorem fewer_disarm (m : IOManager) (p : FdContextPtr) (e : Event) (eff : Effect) :
    Fewer m (m.disarm p e eff) := by
  intro q e'
  by_cases hq : q = p
  · subst hq
    rw [disarm, setContext_self]
    by_cases he' : e' = .NONE
    · subst he'; exact Or.inl rfl
    · rw [FdContext.slot_disarm _ _ _ he']
      split
      · exact Or.inl rfl
      · exact Or.inr rfl
  · exact Or.inr (congrArg (fun c => c.slot e') (setContext_ne m _ hq))

theorem fewer_triggerIf {m m' : IOManager} (h : Core m) {p : FdContextPtr} {events : Events}
    {e : Event} (hcall : m.triggerIf p events e = .ok m') : Fewer m m' := by
  rcases triggerIf_cases (h.wf p) hcall with ⟨_, rfl⟩ | ⟨_, _, s, task, _, rfl⟩
  · exact fewer_refl _
  · exact fewer_disarm _ _ _ _

theorem fewer_cancelEventLocked {m m' : IOManager} (h : Core m) {p : FdContextPtr} {fd : Int}
    {e : Event} {ok rt : Bool} (hcall : m.cancelEventLocked p fd e ok = .ok (m', rt)) :
    Fewer m m' := by
  rcases cancelEventLocked_cases (h.wf p) hcall with ⟨rfl, _⟩ | ⟨_, _, k, s, task, _, _, rfl⟩
  · exact fewer_refl _
  · exact fewer_disarm (m.setInterest k) _ _ _

theorem fewer_handleReport {m m' : IOManager} (h : Core m) {p : FdContextPtr}
    {events : Events} {ok : Bool} (hcall : m.handleReport p events ok = .ok m') :
    Fewer m m' := by
  rcases handleReport_cases hcall with rfl | ⟨k, m₁, _, hread, hwrite⟩
  · exact fewer_refl _
  · have h₁ := ((h.setInterest k).triggerIf hread).1
    have hfirst : Fewer (m.setInterest k) m₁ := fewer_triggerIf (h.setInterest k) hread
    exact (show Fewer m m₁ from hfirst).trans (fewer_triggerIf h₁ hwrite)

/-! ## Section 5: New contexts -/

/-- A new context waits for nothing, provided its memory is zero. -/
theorem wf_blank (fd : Int) : FdContext.WF ⟨.empty, .empty, fd, 0⟩ where
  known := Or.inl rfl
  armed := by
    intro e htest
    exact absurd ((Events.test_zero e).symm.trans htest) Bool.false_ne_true
  clear := by
    intro e _
    cases e <;> rfl

theorem registered_blank (fd : Int) :
    FdContext.registered ⟨.empty, .empty, fd, 0⟩ = 0 := by
  simp [FdContext.registered]

theorem newContext_heap_ne (m : IOManager) (fd : Int) {q : FdContextPtr}
    (hq : q ≠ m.created) : (m.newContext fd).heap q = m.heap q :=
  setContext_ne m _ hq

/-- The context that `new FdContext` makes is blank, as `curEvents` finds zero. -/
theorem Core.newContext_heap_self {m : IOManager} (h : Core m) (fd : Int) :
    (m.newContext fd).heap m.created = ⟨.empty, .empty, fd, 0⟩ := by
  show (m.setContext m.created _).heap m.created = _
  rw [setContext_self, h.memory]

/-- A new context brings no event with it. -/
theorem Core.newContext_slot {m : IOManager} (h : Core m) (fd : Int) (q : FdContextPtr)
    (e : Event) : ((m.newContext fd).heap q).slot e = (m.heap q).slot e := by
  by_cases hq : q = m.created
  · subst hq
    rw [h.newContext_heap_self, h.fresh m.created (Nat.le_refl _) e]
    cases e <;> rfl
  · rw [newContext_heap_ne m fd hq]

/-- The place a new context takes on the heap was empty before. -/
theorem Core.newContext {m : IOManager} (h : Core m) (fd : Int) : Core (m.newContext fd) where
  memory  := h.memory
  wf      := by
    intro p
    by_cases hp : p = m.created
    · subst hp; rw [h.newContext_heap_self]; exact wf_blank _
    · rw [newContext_heap_ne m fd hp]; exact h.wf p
  fresh   := by
    intro p hp e
    rw [h.newContext_slot]
    exact h.fresh p (Nat.le_of_succ_le hp) e
  count   := by
    show m.pendingEventCount = ∑ p ∈ Finset.range (m.created + 1), _
    -- the new context adds 0 to the count
    rw [Finset.sum_range_succ, h.newContext_heap_self, h.count, registered_blank, Int.add_zero]
    refine Finset.sum_congr rfl fun q hq => ?_
    rw [newContext_heap_ne m fd (Nat.ne_of_lt (Finset.mem_range.mp hq))]
  history := by
    intro p e he
    rw [h.newContext_slot]
    exact h.history p e he

/-- Also a vector that gets shorter: the contexts it drops stay on the heap. -/
theorem Core.contextResize {m : IOManager} (h : Core m) (size : Nat) :
    Core (m.contextResize size) := by
  have htake : Core { m with fdContexts := m.fdContexts.take size } :=
    ⟨h.memory, h.wf, h.fresh, h.count, h.history⟩
  unfold IOManager.contextResize
  -- the induction is on the places that get a new context, from any manager on
  generalize { m with fdContexts := m.fdContexts.take size } = m₀ at htake ⊢
  generalize List.range (size - m.fdContexts.length) = places
  induction places generalizing m₀ with
  | nil => exact htake
  | cons _ rest ih => exact ih _ (htake.newContext _)

/-- A resize registers nobody. -/
theorem fewer_contextResize {m : IOManager} (h : Core m) (size : Nat) :
    Fewer m (m.contextResize size) := by
  have htake : Core { m with fdContexts := m.fdContexts.take size } :=
    ⟨h.memory, h.wf, h.fresh, h.count, h.history⟩
  have hsame : Fewer m { m with fdContexts := m.fdContexts.take size } := fun _ _ => Or.inr rfl
  unfold IOManager.contextResize
  -- along the new contexts, each of which is blank
  generalize { m with fdContexts := m.fdContexts.take size } = m₀ at htake hsame ⊢
  generalize List.range (size - m.fdContexts.length) = places
  induction places generalizing m₀ with
  | nil => exact hsame
  | cons _ rest ih =>
    refine ih _ (htake.newContext _) (hsame.trans fun q e => Or.inr ?_)
    exact htake.newContext_slot _ q e

/-- The pointers in the table are those of contexts that exist. -/
def Pointers (m : IOManager) : Prop := ∀ p ∈ m.fdContexts, p < m.created

theorem pointers_newContext {m : IOManager} (h : Pointers m) (fd : Int) :
    Pointers (m.newContext fd) := by
  intro p hp
  rcases List.mem_append.mp hp with hp | hp
  · exact Nat.lt_succ_of_lt (h p hp)
  · obtain rfl := List.mem_singleton.mp hp
    exact Nat.lt_succ_self _

/-- A resize keeps the table to contexts that exist, and drops none of them. -/
theorem pointers_contextResize {m : IOManager} (h : Pointers m) (size : Nat) :
    Pointers (m.contextResize size) ∧ m.created ≤ (m.contextResize size).created := by
  have htake : Pointers { m with fdContexts := m.fdContexts.take size } :=
    fun p hp => h p (List.mem_of_mem_take hp)
  have hle : m.created ≤ ({ m with fdContexts := m.fdContexts.take size } : IOManager).created :=
    Nat.le_refl _
  unfold IOManager.contextResize
  generalize { m with fdContexts := m.fdContexts.take size } = m₀ at htake hle ⊢
  generalize List.range (size - m.fdContexts.length) = places
  induction places generalizing m₀ with
  | nil => exact ⟨htake, hle⟩
  | cons _ rest ih => exact ih _ (pointers_newContext htake _) (Nat.le_succ_of_le hle)

theorem mem_of_fdContextAt {m : IOManager} {fd : Int} {p : FdContextPtr}
    (hat : m.fdContextAt fd = .ok p) : p ∈ m.fdContexts := by
  unfold fdContextAt at hat
  split at hat
  · cases hat
  · split at hat
    · cases hat
    · rename_i q hq
      obtain rfl := Except.ok.inj hat
      exact List.mem_of_getElem? hq

/-- The manager before its first `contextResize`. -/
theorem core_empty : Core
    { fdContexts := [], heap := fun _ => ⟨.empty, .empty, -1, 0⟩, created := 0,
      uninitialised := fun _ => 0, interest := fun _ => none,
      pendingEventCount := 0, effects := [] } where
  memory  := fun _ => rfl
  wf      := fun _ => wf_blank _
  fresh   := by
    intro p _ e
    cases e <;> rfl
  count   := rfl
  history := by
    intro p e _
    cases e <;> exact Ledger.nil

end IOManager

end MNSER
