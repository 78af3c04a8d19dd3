import Mnser.IOManager.Model

/-! # Event slots

    The bit of an event in `curEvents` and its `EventContext` together are a
    slot.  A slot is armed by `addEvent` and disarmed by everything else;
    `FdContext.WF` says that bits and contexts agree.  Section 4 states for
    every operation which slots it arms or disarms. -/

namespace MNSER

/-! ## Section 1: Event bits -/

namespace Events

theorem test_eq_getLsbD (m : Events) (i : Nat) (hi : i < 32) :
    m.test (BitVec.twoPow 32 i) = m.getLsbD i := by
  rw [test, BitVec.and_twoPow]
  cases m.getLsbD i
  · simp
  · have hne : BitVec.twoPow 32 i ≠ 0#32 := by
      intro h
      have hbit := congrArg (fun b => b.getLsbD i) h
      simp [hi] at hbit
    simpa using hne

theorem test_READ (m : Events) : m.test Event.READ.mask = m.getLsbD 0 :=
  test_eq_getLsbD m 0 (by omega)

theorem test_WRITE (m : Events) : m.test Event.WRITE.mask = m.getLsbD 2 :=
  test_eq_getLsbD m 2 (by omega)

@[simp] theorem test_NONE (m : Events) : m.test Event.NONE.mask = false := by
  simp [test, Event.mask]

@[simp] theorem test_zero (e : Event) : test 0x0#32 e.mask = false := by
  cases e <;> decide

/-- What `curEvents` may hold: no other bits than those of `READ` and `WRITE`. -/
def Known (m : Events) : Prop := m = 0x0#32 ∨ m = 0x1#32 ∨ m = 0x4#32 ∨ m = 0x5#32

/-- `curEvents | event` has the bits it had and the one of `event`. -/
theorem test_or (m : Events) (e e' : Event) (he : e' ≠ .NONE) :
    (m ||| e.mask).test e'.mask = (m.test e'.mask || decide (e = e')) := by
  cases e' with
  | NONE => contradiction
  | READ => rw [test_READ, test_READ]; cases e <;> simp [Event.mask]
  | WRITE => rw [test_WRITE, test_WRITE]; cases e <;> simp [Event.mask]

/-- `curEvents & ~event` has the bits it had but the one of `event`. -/
theorem test_andNot (m : Events) (e e' : Event) :
    (m &&& ~~~e.mask).test e'.mask = (m.test e'.mask && decide (e ≠ e')) := by
  cases e' with
  | NONE => simp
  | READ => rw [test_READ, test_READ]; cases e <;> simp [Event.mask]
  | WRITE => rw [test_WRITE, test_WRITE]; cases e <;> simp [Event.mask]

theorem test_and (m m' : Events) (e : Event) :
    (m &&& m').test e.mask = (m.test e.mask && m'.test e.mask) := by
  cases e with
  | NONE => simp
  | READ => simp [test_READ]
  | WRITE => simp [test_WRITE]

theorem andNot_zero (m : Events) : m &&& ~~~(0 : Events) = m := by
  show m &&& BitVec.allOnes 32 = m
  exact BitVec.and_allOnes

theorem Known.or_mask {m : Events} (h : Known m) (e : Event) : Known (m ||| e.mask) := by
  rcases h with rfl | rfl | rfl | rfl <;> cases e <;> unfold Known <;> decide

theorem Known.andNot {m m' : Events} (h : Known m) (h' : Known m') :
    Known (m &&& ~~~m') := by
  rcases h with rfl | rfl | rfl | rfl <;> rcases h' with rfl | rfl | rfl | rfl <;>
    unfold Known <;> decide

theorem Known.and {m m' : Events} (h : Known m) (h' : Known m') : Known (m &&& m') := by
  rcases h with rfl | rfl | rfl | rfl <;> rcases h' with rfl | rfl | rfl | rfl <;>
    unfold Known <;> decide

theorem known_mask (e : Event) : Known e.mask := by
  cases e <;> unfold Known <;> decide

/-- A context waits for nothing exactly if neither bit is set. -/
theorem Known.eq_zero_iff {m : Events} (h : Known m) :
    m = 0 ↔ ∀ e : Event, m.test e.mask = false := by
  constructor
  · intro hm e
    rw [hm]
    exact test_zero e
  · intro hall
    have hr := hall .READ
    have hw := hall .WRITE
    rcases h with rfl | rfl | rfl | rfl
    · rfl
    · exact absurd hr (by decide)
    · exact absurd hw (by decide)
    · exact absurd hr (by decide)

end Events

/-! ## Section 2: Slots -/

/-- The context `addEvent` fills in. -/
def EventContext.of (scheduler : Option SchedulerId) : Task → EventContext
  | .fiber f => ⟨scheduler, some f, none⟩
  | .func f  => ⟨scheduler, none, some f⟩

/-- A filled slot is told from an empty one by its task. -/
theorem EventContext.of_ne_empty (scheduler : Option SchedulerId) (task : Task) :
    EventContext.of scheduler task ≠ EventContext.empty := by
  cases task <;> simp [EventContext.of, EventContext.empty]

namespace FdContext

def slot (c : FdContext) : Event → EventContext
  | .READ  => c.read
  | .WRITE => c.write
  | .NONE  => .empty

/-- `getContext` throws for `NONE` only. -/
theorem getContext_eq (c : FdContext) {e : Event} (he : e ≠ .NONE) :
    c.getContext e = .ok (c.slot e) := by
  cases e with
  | NONE => contradiction
  | READ => rfl
  | WRITE => rfl

theorem slot_setContext (c : FdContext) (e e' : Event) (ctx : EventContext) (he : e' ≠ .NONE) :
    (c.setContext e ctx).slot e' = if e' = e then ctx else c.slot e' := by
  cases e <;> cases e' <;> simp_all [setContext, slot]

@[simp] theorem setContext_curEvents (c : FdContext) (e : Event) (ctx : EventContext) :
    (c.setContext e ctx).curEvents = c.curEvents := by
  cases e <;> rfl

@[simp] theorem setContext_fd (c : FdContext) (e : Event) (ctx : EventContext) :
    (c.setContext e ctx).fd = c.fd := by
  cases e <;> rfl

/-- Bit set: a scheduler and exactly one task.  Bit clear: nothing. -/
structure WF (c : FdContext) : Prop where
  known : c.curEvents.Known
  armed : ∀ e, c.curEvents.test e.mask = true →
            ∃ s task, c.slot e = EventContext.of (some s) task
  clear : ∀ e, c.curEvents.test e.mask = false → c.slot e = .empty

/-- The slot `e` with bit and context filled in. -/
def arm (c : FdContext) (e : Event) (ctx : EventContext) : FdContext :=
  { c with curEvents := c.curEvents ||| e.mask }.setContext e ctx

/-- The slot `e` with bit and context cleared. -/
def disarm (c : FdContext) (e : Event) : FdContext :=
  { c with curEvents := c.curEvents &&& ~~~e.mask }.resetContext e

/-- `NONE` has no bit, so no test finds it. -/
theorem test_ne_none {c : FdContext} {e : Event} (h : c.curEvents.test e.mask = true) :
    e ≠ .NONE := by
  rintro rfl
  simp at h

@[simp] theorem arm_curEvents (c : FdContext) (e : Event) (ctx : EventContext) :
    (c.arm e ctx).curEvents = c.curEvents ||| e.mask :=
  setContext_curEvents _ _ _

@[simp] theorem disarm_curEvents (c : FdContext) (e : Event) :
    (c.disarm e).curEvents = c.curEvents &&& ~~~e.mask :=
  setContext_curEvents _ _ _

@[simp] theorem arm_fd (c : FdContext) (e : Event) (ctx : EventContext) :
    (c.arm e ctx).fd = c.fd :=
  setContext_fd _ _ _

@[simp] theorem disarm_fd (c : FdContext) (e : Event) : (c.disarm e).fd = c.fd :=
  setContext_fd _ _ _

theorem slot_arm (c : FdContext) (e e' : Event) (ctx : EventContext) (he : e' ≠ .NONE) :
    (c.arm e ctx).slot e' = if e' = e then ctx else c.slot e' := by
  rw [arm, slot_setContext _ _ _ _ he]
  cases e' <;> rfl

theorem slot_disarm (c : FdContext) (e e' : Event) (he : e' ≠ .NONE) :
    (c.disarm e).slot e' = if e' = e then .empty else c.slot e' := by
  rw [disarm, resetContext, slot_setContext _ _ _ _ he]
  cases e' <;> rfl

/-- `addEvent` keeps bit and slot together. -/
theorem WF.arm {c : FdContext} (h : WF c) (e : Event) (s : SchedulerId) (task : Task) : WF (c.arm e (EventContext.of (some s) task)) where
  known := by
    rw [arm_curEvents]
    exact h.known.or_mask e
  armed := by
    intro e' htest
    have he' : e' ≠ .NONE := test_ne_none htest
    rw [arm_curEvents, Events.test_or _ _ _ he'] at htest
    rw [slot_arm _ _ _ _ he']
    by_cases heq : e' = e
    · exact ⟨s, task, if_pos heq⟩
    · rw [if_neg heq]
      apply h.armed
      simpa [Ne.symm heq] using htest
  clear := by
    intro e' htest
    by_cases he' : e' = .NONE
    · subst he'; rfl
    · rw [arm_curEvents, Events.test_or _ _ _ he', Bool.or_eq_false_iff] at htest
      obtain ⟨hclear, hne⟩ := htest
      have hne' : e' ≠ e := fun heq => by simp [heq] at hne
      rw [slot_arm _ _ _ _ he', if_neg hne']
      exact h.clear e' hclear

/-- And so do `delEvent` and `triggerEvent`. -/
theorem WF.disarm {c : FdContext} (h : WF c) (e : Event) : WF (c.disarm e) where
  known := by
    rw [disarm_curEvents]
    exact h.known.andNot (Events.known_mask e)
  armed := by
    intro e' htest
    have he' : e' ≠ .NONE := test_ne_none htest
    rw [disarm_curEvents, Events.test_andNot, Bool.and_eq_true, decide_eq_true_eq] at htest
    rw [slot_disarm _ _ _ he', if_neg (Ne.symm htest.2)]
    exact h.armed e' htest.1
  clear := by
    intro e' htest
    by_cases he' : e' = .NONE
    · subst he'; rfl
    · rw [slot_disarm _ _ _ he']
      by_cases heq : e' = e
      · exact if_pos heq
      · rw [if_neg heq]
        apply h.clear
        simpa [Events.test_andNot, Ne.symm heq] using htest

/-- In a well-formed context the assertion is all that can stop `triggerEvent`. -/
theorem triggerEvent_of_clear (c : FdContext) {e : Event}
    (htest : c.curEvents.test e.mask = false) :
    c.triggerEvent e = .error .triggerEvent := by
  simp [triggerEvent, htest, throw, throwThe, MonadExceptOf.throw, bind, Except.bind]

theorem triggerEvent_of_armed {c : FdContext} (h : WF c) {e : Event}
    (htest : c.curEvents.test e.mask = true) :
    ∃ s task, c.slot e = EventContext.of (some s) task ∧
      c.triggerEvent e = .ok (c.disarm e, s, some task) := by
  obtain ⟨s, task, hslot⟩ := h.armed e htest
  refine ⟨s, task, hslot, ?_⟩
  have he := test_ne_none htest
  have hget : FdContext.getContext { c with curEvents := c.curEvents &&& ~~~e.mask } e =
      .ok (EventContext.of (some s) task) := by
    rw [getContext_eq _ he, ← hslot]
    cases e <;> rfl
  simp only [triggerEvent, htest, hget, Bool.not_true, bind, Except.bind, pure, Except.pure]
  cases task <;> rfl

end FdContext

theorem map_eq_ok {α β : Type} {f : α → β} {x : Except Fault α} {b : β}
    (h : x.map f = .ok b) : ∃ a, x = .ok a ∧ f a = b := by
  cases x with
  | error _ => cases h
  | ok a => exact ⟨a, rfl, Except.ok.inj h⟩

/-! ## Section 3: The kernel side of a slot -/

/-- What is registered for a context: nothing when it waits for nothing. -/
def interestOf (cur : Events) (p : FdContextPtr) : Option Interest :=
  if cur = 0 then none else some ⟨EPOLLET ||| cur, p⟩

/-- Where `epoll_ctl` takes effect, the fd is registered for what it was asked for. -/
theorem epoll_ctl_add {k k' : InterestList} {fd : Int} {cur : Events} {p : FdContextPtr}
    {e : Event} {ok : Bool} (he : e ≠ .NONE)
    (h : epoll_ctl k (if cur ≠ 0 then .MOD else .ADD) fd
      ⟨EPOLLET ||| cur ||| e.mask, p⟩ ok = some k') :
    k' = k.set fd (interestOf (cur ||| e.mask) p) := by
  have hne : cur ||| e.mask ≠ 0 := by
    intro hzero
    have hbit := congrArg (fun b => Events.test b e.mask) hzero
    simp only [Events.test_or _ _ _ he, decide_true, Bool.or_true] at hbit
    revert hbit
    cases e <;> decide
  rw [interestOf, if_neg hne, ← BitVec.or_assoc]
  unfold epoll_ctl at h
  by_cases hcur : cur = 0 <;> cases ok <;> cases hk : k fd <;> simp_all

/-- With `MOD` or `DEL`, whichever the code picks, what is left stays registered. -/
theorem epoll_ctl_remove {k k' : InterestList} {fd : Int} {left : Events}
    {p : FdContextPtr} {ok : Bool}
    (h : epoll_ctl k (if left ≠ 0 then .MOD else .DEL) fd ⟨EPOLLET ||| left, p⟩ ok =
      some k') : k' = k.set fd (interestOf left p) := by
  unfold epoll_ctl at h
  unfold interestOf
  by_cases hleft : left = 0 <;> cases ok <;> cases hk : k fd <;> simp_all

/-- A change is refused where the fd is not registered, and nowhere else. -/
theorem epoll_ctl_change_isSome (k : InterestList) (left : Events) (fd : Int) (i : Interest)
    (ok : Bool) :
    (epoll_ctl k (if left ≠ 0 then .MOD else .DEL) fd i ok).isSome = true ↔
      ok = true ∧ (k fd).isSome = true := by
  unfold epoll_ctl
  by_cases hleft : left = 0 <;> cases ok <;> cases hk : k fd <;> simp_all

theorem epoll_ctl_del {k k' : InterestList} {fd : Int} {i : Interest} {ok : Bool}
    (h : epoll_ctl k .DEL fd i ok = some k') : k' = k.set fd none := by
  unfold epoll_ctl at h
  cases ok <;> cases hk : k fd <;> simp_all

/-! ## Section 4: The operations as changes of slots -/

/-- What `addEvent` stores: the callback, or else the running fiber. -/
def IOManager.Caller.task (caller : IOManager.Caller) : Option FuncId → Task
  | some f => .func f
  | none   => .fiber caller.fiber

namespace IOManager

def arm (m : IOManager) (p : FdContextPtr) (e : Event) (scheduler : Option SchedulerId)
    (task : Task) : IOManager :=
  { m.setContext p ((m.heap p).arm e (EventContext.of scheduler task)) with
    pendingEventCount := m.pendingEventCount + 1
    effects           := m.effects ++ [.added p e scheduler task] }

def disarm (m : IOManager) (p : FdContextPtr) (e : Event) (effect : Effect) : IOManager :=
  { m.setContext p ((m.heap p).disarm e) with
    pendingEventCount := m.pendingEventCount - 1
    effects           := m.effects ++ [effect] }

def setInterest (m : IOManager) (k : InterestList) : IOManager :=
  { m with interest := k }

/-- `addEvent` fails without effect, or finds the slot free and fills it. -/
theorem addEventLocked_cases {m m' : IOManager} {p : FdContextPtr} {fd : Int} {e : Event}
    {cb : Option FuncId} {caller : Caller} {ok : Bool} {rt : Int}
    (h : m.addEventLocked p fd e cb caller ok = .ok (m', rt)) :
    (m' = m ∧ rt = -1) ∨
    (rt = 0 ∧ e ≠ .NONE ∧ (m.heap p).curEvents.test e.mask = false ∧
      (m.heap p).slot e = .empty ∧
      ∃ k, k = m.interest.set fd (interestOf ((m.heap p).curEvents ||| e.mask) p) ∧
        m' = (m.setInterest k).arm p e caller.scheduler (caller.task cb)) := by
  simp only [addEventLocked, bind, Except.bind, pure, Except.pure, throw, throwThe,
    MonadExceptOf.throw] at h
  split at h
  · -- the assertion: the event is registered already
    cases h
  · rename_i htest
    simp only [Bool.not_eq_true] at htest
    split at h
    · -- `epoll_ctl` refuses, and nothing is written
      obtain ⟨rfl, rfl⟩ := Prod.mk.inj (Except.ok.inj h)
      exact Or.inl ⟨rfl, rfl⟩
    · rename_i k hctl
      -- `getContext` throws for `NONE`
      by_cases he : e = .NONE
      · subst he
        cases h
      · rw [FdContext.getContext_eq _ he] at h
        simp only at h
        split at h
        · cases h
        · rename_i hslot
          simp only [ne_eq, not_not] at hslot
          right
          -- the assertion looks at the slot after the bit is set
          have hsame : FdContext.slot
              { m.heap p with curEvents := (m.heap p).curEvents ||| e.mask } e =
              (m.heap p).slot e := by
            cases e <;> rfl
          rw [hsame] at hslot
          obtain ⟨hm, rfl⟩ := Prod.mk.inj (Except.ok.inj h)
          refine ⟨rfl, he, htest, hslot, k, epoll_ctl_add he hctl, ?_⟩
          rw [← hm]
          cases cb <;> rfl

/-- It returns 0 only where `epoll_ctl` did not fail. -/
theorem addEventLocked_ok {m m' : IOManager} {p : FdContextPtr} {fd : Int} {e : Event}
    {cb : Option FuncId} {caller : Caller} {ok : Bool}
    (h : m.addEventLocked p fd e cb caller ok = .ok (m', 0)) : ok = true := by
  cases ok with
  | true => rfl
  | false =>
    simp only [addEventLocked, epoll_ctl, bind, Except.bind, pure, Except.pure, throw, throwThe,
      MonadExceptOf.throw, Bool.false_eq_true, if_false] at h
    split at h
    · cases h
    · cases h

/-- `delEvent` finds nothing, is refused, or empties the slot unscheduled. -/
theorem delEventLocked_cases {m m' : IOManager} {p : FdContextPtr} {fd : Int} {e : Event}
    {ok rt : Bool} (h : m.delEventLocked p fd e ok = .ok (m', rt)) :
    (m' = m ∧ rt = false) ∨
    (rt = true ∧ (m.heap p).curEvents.test e.mask = true ∧
      ∃ k, k = m.interest.set fd (interestOf ((m.heap p).curEvents &&& ~~~e.mask) p) ∧
        m' = (m.setInterest k).disarm p e (.discarded p e)) := by
  simp only [delEventLocked, bind, Except.bind, pure, Except.pure] at h
  split at h
  · -- not registered
    obtain ⟨rfl, rfl⟩ := Prod.mk.inj (Except.ok.inj h)
    exact Or.inl ⟨rfl, rfl⟩
  · rename_i htest
    simp only [Bool.not_eq_true', Bool.not_eq_false] at htest
    split at h
    · obtain ⟨rfl, rfl⟩ := Prod.mk.inj (Except.ok.inj h)
      exact Or.inl ⟨rfl, rfl⟩
    · rename_i k hctl
      rw [FdContext.getContext_eq _ (FdContext.test_ne_none htest)] at h
      obtain ⟨rfl, rfl⟩ := Prod.mk.inj (Except.ok.inj h)
      exact Or.inr ⟨rfl, htest, k, epoll_ctl_remove hctl, rfl⟩

theorem triggerEvent_of_clear {m : IOManager} {p : FdContextPtr} {e : Event}
    (htest : (m.heap p).curEvents.test e.mask = false) :
    m.triggerEvent p e = .error .triggerEvent := by
  simp only [triggerEvent, FdContext.triggerEvent_of_clear _ htest, bind, Except.bind]

theorem triggerEvent_of_armed {m : IOManager} {p : FdContextPtr} {e : Event}
    (h : (m.heap p).WF) (htest : (m.heap p).curEvents.test e.mask = true) :
    ∃ s task, (m.heap p).slot e = EventContext.of (some s) task ∧
      m.triggerEvent p e = .ok (m.disarm p e (.scheduled p e s (some task))) := by
  obtain ⟨s, task, hslot, htrigger⟩ := FdContext.triggerEvent_of_armed h htest
  refine ⟨s, task, hslot, ?_⟩
  simp only [triggerEvent, htrigger, bind, Except.bind, pure, Except.pure]
  rfl

/-- `cancelEvent` finds nothing, is refused, or schedules what is in the slot. -/
theorem cancelEventLocked_cases {m m' : IOManager} {p : FdContextPtr} {fd : Int} {e : Event}
    {ok rt : Bool} (hwf : (m.heap p).WF)
    (h : m.cancelEventLocked p fd e ok = .ok (m', rt)) :
    (m' = m ∧ rt = false) ∨
    (rt = true ∧ (m.heap p).curEvents.test e.mask = true ∧
      ∃ k s task, k = m.interest.set fd (interestOf ((m.heap p).curEvents &&& ~~~e.mask) p) ∧
        (m.heap p).slot e = EventContext.of (some s) task ∧
        m' = (m.setInterest k).disarm p e (.scheduled p e s (some task))) := by
  simp only [cancelEventLocked, bind, Except.bind, pure, Except.pure] at h
  split at h
  · obtain ⟨rfl, rfl⟩ := Prod.mk.inj (Except.ok.inj h)
    exact Or.inl ⟨rfl, rfl⟩
  · rename_i htest
    simp only [Bool.not_eq_true', Bool.not_eq_false] at htest
    split at h
    · obtain ⟨rfl, rfl⟩ := Prod.mk.inj (Except.ok.inj h)
      exact Or.inl ⟨rfl, rfl⟩
    · rename_i k hctl
      -- the bit is still set when `triggerEvent` asserts it
      obtain ⟨s, task, hslot, htrigger⟩ :=
        triggerEvent_of_armed (m := m.setInterest k) hwf htest
      rw [show ({ m with interest := k } : IOManager).triggerEvent p e = _ from htrigger] at h
      obtain ⟨rfl, rfl⟩ := Prod.mk.inj (Except.ok.inj h)
      exact Or.inr ⟨rfl, htest, k, s, task, epoll_ctl_remove hctl, hslot, rfl⟩

/-- A registered event is cancelled if the kernel lets it go. -/
theorem cancelEventLocked_registered {m : IOManager} {p : FdContextPtr} {fd : Int} {e : Event}
    {ok : Bool} (hwf : (m.heap p).WF) (htest : (m.heap p).curEvents.test e.mask = true)
    (hok : ok = true) (hinterest : (m.interest fd).isSome = true) :
    ∃ m', m.cancelEventLocked p fd e ok = .ok (m', true) := by
  have hctl := (epoll_ctl_change_isSome m.interest ((m.heap p).curEvents &&& ~~~e.mask) fd
    ⟨EPOLLET ||| ((m.heap p).curEvents &&& ~~~e.mask), p⟩ ok).mpr ⟨hok, hinterest⟩
  obtain ⟨k, hk⟩ := Option.isSome_iff_exists.mp hctl
  obtain ⟨s, task, _, htrigger⟩ := triggerEvent_of_armed (m := m.setInterest k) hwf htest
  have htrigger' : ({ m with interest := k } : IOManager).triggerEvent p e = _ := htrigger
  refine ⟨(m.setInterest k).disarm p e (.scheduled p e s (some task)), ?_⟩
  simp only [cancelEventLocked, htest, Bool.not_true, Bool.false_eq_true, if_false, hk,
    htrigger', bind, Except.bind, pure, Except.pure]

/-! ## Section 5: Several events at once -/

/-- A `triggerIf` that comes back found the event registered. -/
theorem triggerIf_cases {m m' : IOManager} {p : FdContextPtr} {events : Events} {e : Event}
    (hwf : (m.heap p).WF) (h : m.triggerIf p events e = .ok m') :
    (events.test e.mask = false ∧ m' = m) ∨
    (events.test e.mask = true ∧ (m.heap p).curEvents.test e.mask = true ∧
      ∃ s task, (m.heap p).slot e = EventContext.of (some s) task ∧
        m' = m.disarm p e (.scheduled p e s (some task))) := by
  unfold triggerIf at h
  split at h
  · rename_i htest
    by_cases hcur : (m.heap p).curEvents.test e.mask = true
    · obtain ⟨s, task, hslot, htrigger⟩ := triggerEvent_of_armed hwf hcur
      rw [htrigger] at h
      exact Or.inr ⟨htest, hcur, s, task, hslot, (Except.ok.inj h).symm⟩
    · rw [triggerEvent_of_clear (by simpa using hcur)] at h
      cases h
  · rename_i htest
    exact Or.inl ⟨by simpa using htest, (Except.ok.inj h).symm⟩

/-- `cancelAll` does nothing, or triggers both events and leaves nothing. -/
theorem cancelAllLocked_cases {m m' : IOManager} {p : FdContextPtr} {fd : Int}
    {ok rt : Bool} (h : m.cancelAllLocked p fd ok = .ok (m', rt)) :
    (m' = m ∧ rt = false) ∨
    (rt = true ∧ ∃ k m₁, k = m.interest.set fd none ∧
      (m.setInterest k).triggerIf p (m.heap p).curEvents .READ = .ok m₁ ∧
      m₁.triggerIf p (m₁.heap p).curEvents .WRITE = .ok m' ∧
      (m'.heap p).curEvents = 0) := by
  simp only [cancelAllLocked, bind, Except.bind, pure, Except.pure] at h
  split at h
  · obtain ⟨rfl, rfl⟩ := Prod.mk.inj (Except.ok.inj h)
    exact Or.inl ⟨rfl, rfl⟩
  · split at h
    · obtain ⟨rfl, rfl⟩ := Prod.mk.inj (Except.ok.inj h)
      exact Or.inl ⟨rfl, rfl⟩
    · rename_i k hctl
      split at h
      · cases h
      · -- `WRITE` is tested on what `READ` left
        rename_i m₁ hread
        split at h
        · cases h
        · rename_i m₂ hwrite
          split at h
          · cases h
          · rename_i hzero
            obtain ⟨rfl, rfl⟩ := Prod.mk.inj (Except.ok.inj h)
            exact Or.inr ⟨rfl, k, m₁, epoll_ctl_del hctl, hread, hwrite,
              by simpa using hzero⟩

/-- A report changes nothing, or triggers the events that are taken for real. -/
theorem handleReport_cases {m m' : IOManager} {p : FdContextPtr} {events : Events}
    {ok : Bool} (h : m.handleReport p events ok = .ok m') :
    m' = m ∨
    ∃ k m₁, k = m.interest.set (m.heap p).fd (interestOf
        ((m.heap p).curEvents &&& ~~~realEvents (m.heap p).curEvents events) p) ∧
      (m.setInterest k).triggerIf p (realEvents (m.heap p).curEvents events) .READ = .ok m₁ ∧
      m₁.triggerIf p (realEvents (m.heap p).curEvents events) .WRITE = .ok m' := by
  simp only [handleReport, bind, Except.bind, pure, Except.pure] at h
  split at h
  · -- nothing that is registered was reported
    exact Or.inl (Except.ok.inj h).symm
  · split at h
    · exact Or.inl (Except.ok.inj h).symm
    · rename_i k hctl
      split at h
      · cases h
      · rename_i m₁ hread
        exact Or.inr ⟨k, m₁, epoll_ctl_remove hctl, hread, h⟩

/-- `real_events` has the bits of `READ` and `WRITE` only. -/
theorem known_realEvents (cur events : Events) : (realEvents cur events).Known := by
  unfold realEvents Events.Known
  dsimp only
  -- only which of the two bits are set matters
  generalize (spreadErrors cur events).test EPOLLIN = reads
  generalize (spreadErrors cur events).test EPOLLOUT = writes
  cases reads <;> cases writes <;> decide

/-- An error or a hang-up adds what is registered, and nothing else. -/
theorem spreadErrors_test (cur events : Events) (e : Event) :
    (spreadErrors cur events).test e.mask = (events.test e.mask ||
      (events.test (EPOLLERR ||| EPOLLHUP) && cur.test e.mask)) := by
  unfold spreadErrors
  by_cases herr : events.test (EPOLLERR ||| EPOLLHUP) = true
  · rw [if_pos herr, herr, Bool.true_and]
    -- `EPOLLIN` and `EPOLLOUT` are the masks of `READ` and `WRITE`
    cases e with
    | NONE => simp
    | READ => simp [Events.test_READ, EPOLLIN, EPOLLOUT]
    | WRITE => simp [Events.test_WRITE, EPOLLIN, EPOLLOUT]
  · rw [if_neg herr, Bool.not_eq_true] at *
    simp [herr]

/-- An event is taken for real if it is reported, or if there is an error and
    it is registered. -/
theorem realEvents_test (cur events : Events) (e : Event) :
    (realEvents cur events).test e.mask = (events.test e.mask ||
      (events.test (EPOLLERR ||| EPOLLHUP) && cur.test e.mask)) := by
  rw [← spreadErrors_test]
  have hread : EPOLLIN = Event.READ.mask := rfl
  have hwrite : EPOLLOUT = Event.WRITE.mask := rfl
  unfold realEvents
  dsimp only
  rw [hread, hwrite]
  generalize spreadErrors cur events = evs
  cases e with
  | NONE => simp
  | READ =>
    generalize evs.test Event.READ.mask = reads
    generalize evs.test Event.WRITE.mask = writes
    cases reads <;> cases writes <;> decide
  | WRITE =>
    generalize evs.test Event.READ.mask = reads
    generalize evs.test Event.WRITE.mask = writes
    cases reads <;> cases writes <;> decide

/-! ## Section 6: The vector of contexts -/

/-- `m_fdContexts[fd]` is only read inside the vector. -/
theorem fdContextAt_getElem? {m : IOManager} {fd : Int} {p : FdContextPtr}
    (h : m.fdContextAt fd = .ok p) : m.fdContexts[fd.toNat]? = some p := by
  unfold fdContextAt at h
  split at h
  · cases h
  · split at h
    · cases h
    · rename_i q hq
      obtain rfl := Except.ok.inj h
      exact hq

/-- The write-locked part of `addEvent` grows the vector and takes the context out of it. -/
theorem resizeFor_ok {m m' : IOManager} {fd : Int} {p : FdContextPtr}
    (h : m.resizeFor fd = .ok (m', p)) :
    m' = m.contextResize (fd.toNat * 3 / 2) ∧ m'.fdContexts[fd.toNat]? = some p := by
  simp only [resizeFor, bind, Except.bind, pure, Except.pure] at h
  split at h
  · cases h
  · rename_i q hat
    obtain ⟨rfl, rfl⟩ := Prod.mk.inj (Except.ok.inj h)
    exact ⟨rfl, fdContextAt_getElem? hat⟩

end IOManager

end MNSER
