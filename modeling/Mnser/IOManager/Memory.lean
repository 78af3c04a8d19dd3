import Mnser.Fd.Bounds

/-! # What new contexts find in their memory

    `new FdContext` leaves `curEvents` as the heap had it.  What is seen of a
    call are its `epoll_ctl` and what it returns; both depend on one context
    only, and of the bit of `EPOLLET` there hardly anything. -/

namespace MNSER

/-! ## Section 1: Calls and what is seen of them -/

def IsInt (x : Int) : Prop := -2 ^ 31 ≤ x ∧ x < 2 ^ 31

/-- A call with what it meets: the thread it runs on, and what the kernel has
    registered and answers when `epoll_ctl` is called. -/
structure IOCall where
  call     : IOManager.Call
  caller   : IOManager.Caller
  interest : InterestList
  ok       : Bool

/-- What a call returns. -/
inductive Answer where
  | rt (rt : Int)
  | done (b : Bool)
  deriving DecidableEq, Repr

/-- The operation and event mask handed to `epoll_ctl`, where it is called, and
    what is returned, where the process survives. -/
structure Seen where
  issued : Option (EpollCtlOp × Events)
  answer : Option Answer
  deriving DecidableEq, Repr

namespace IOManager

def Call.isAdd : Call → Bool
  | .addEvent .. => true
  | _ => false

/-- Up to the lock of `fd_ctx->mutex`; `none` where a call returns before it. -/
def find (m : IOManager) (fd : Int) (adds : Bool) :
    Except Fault (IOManager × Option FdContextPtr) := do
  match ← m.lookupInt fd with
  | some p => return (m, some p)
  | none   =>
    if adds then
      let (m, p) ← m.resizeFor fd
      return (m, some p)
    else return (m, none)

/-- `locked` with what the call returns. -/
def answer (m : IOManager) (p : FdContextPtr) (caller : Caller) (ok : Bool) :
    Call → Except Fault (IOManager × Answer)
  | .addEvent fd event cb =>
    (m.addEventLocked p fd event cb caller ok).map fun r => (r.1, .rt r.2)
  | .delEvent fd event    => (m.delEventLocked p fd event ok).map fun r => (r.1, .done r.2)
  | .cancelEvent fd event => (m.cancelEventLocked p fd event ok).map fun r => (r.1, .done r.2)
  | .cancelAll fd         => (m.cancelAllLocked p fd ok).map fun r => (r.1, .done r.2)

/-- The `epoll_ctl` that a call makes for a context with `curEvents`. -/
def issued (curEvents : Events) : Call → Option (EpollCtlOp × Events)
  | .addEvent _ event _ =>
    if curEvents.test event.mask then none
    else some (if curEvents ≠ 0 then .MOD else .ADD, EPOLLET ||| curEvents ||| event.mask)
  | .delEvent _ event | .cancelEvent _ event =>
    if curEvents.test event.mask then
      some (if curEvents &&& ~~~event.mask ≠ 0 then .MOD else .DEL,
        EPOLLET ||| (curEvents &&& ~~~event.mask))
    else none
  | .cancelAll _ => if curEvents = 0 then none else some (.DEL, 0)

/-- One call; no manager is left where the process dies. -/
def callOnce (m : IOManager) (c : IOCall) : Seen × Option IOManager :=
  match m.find c.call.fd c.call.isAdd with
  | .error _        => (⟨none, none⟩, none)
  | .ok (m, none)   => (⟨none, some (.done false)⟩, some m)
  | .ok (m, some p) =>
    match { m with interest := c.interest }.answer p c.caller c.ok c.call with
    | .error _      => (⟨issued (m.heap p).curEvents c.call, none⟩, none)
    | .ok (m', a)   => (⟨issued (m.heap p).curEvents c.call, some a⟩, some m')

/-- What is seen of calls, one after the other. -/
def observe (m : IOManager) : List IOCall → List Seen
  | [] => []
  | c :: cs => (m.callOnce c).1 :: ((m.callOnce c).2.elim [] fun m => m.observe cs)

/-- The manager after the calls. -/
def after (m : IOManager) : List IOCall → Option IOManager
  | [] => some m
  | c :: cs => (m.callOnce c).2.bind fun m => m.after cs

/-- What is seen of two runs of calls, one after the other. -/
theorem observe_append (cs ds : List IOCall) :
    ∀ {m m' : IOManager}, m.after cs = some m' →
      (m.observe cs).length = cs.length ∧ m.observe (cs ++ ds) = m.observe cs ++ m'.observe ds := by
  induction cs with
  | nil =>
    intro m m' h
    obtain rfl := Option.some.inj h
    exact ⟨rfl, rfl⟩
  | cons c cs ih =>
    intro m m' h
    obtain ⟨m₁, hc, hrest⟩ := Option.bind_eq_some_iff.mp h
    obtain ⟨hlen, happ⟩ := ih hrest
    constructor
    · rw [observe, hc, List.length_cons, List.length_cons]
      exact congrArg (· + 1) hlen
    · rw [List.cons_append, observe, observe, hc]
      exact congrArg ((m.callOnce c).1 :: ·) happ

end IOManager

/-! ## Section 2: One context -/

namespace FdContext

def triggerIf (c : FdContext) (events : Events) (event : Event) : Except Fault FdContext :=
  if events.test event.mask then (c.triggerEvent event).map Prod.fst else .ok c

/-- The part of a call under `mutex`, as it changes the context; `granted` tells
    whether `epoll_ctl`, where it is called, returns 0. -/
def perform (c : FdContext) (caller : IOManager.Caller) (granted : Bool) :
    IOManager.Call → Except Fault (FdContext × Answer)
  | .addEvent _ event cb =>
    if c.curEvents.test event.mask then .error .addEvent
    else if granted then do
      let c := { c with curEvents := c.curEvents ||| event.mask }
      let event_ctx ← c.getContext event
      if event_ctx ≠ EventContext.empty then
        throw .eventContext
      return (c.setContext event (.of caller.scheduler (caller.task cb)), .rt 0)
    else .ok (c, .rt (-1))
  | .delEvent _ event =>
    if c.curEvents.test event.mask && granted then do
      let c := { c with curEvents := c.curEvents &&& ~~~event.mask }
      let _ ← c.getContext event
      return (c.resetContext event, .done true)
    else .ok (c, .done false)
  | .cancelEvent _ event =>
    if c.curEvents.test event.mask && granted then
      (c.triggerEvent event).map fun r => (r.1, .done true)
    else .ok (c, .done false)
  | .cancelAll _ =>
    if c.curEvents ≠ 0 ∧ granted then do
      let c ← c.triggerIf c.curEvents .READ
      let c ← c.triggerIf c.curEvents .WRITE
      if c.curEvents ≠ 0 then
        throw .cancelAll
      return (c, .done true)
    else .ok (c, .done false)

end FdContext

namespace IOManager

/-- `m` without what its operations only write. -/
def bare (m : IOManager) : IOManager :=
  { m with interest := fun _ => none, pendingEventCount := 0, effects := [] }

/-- Whether the `epoll_ctl` of a call returns 0. -/
def granted (m : IOManager) (p : FdContextPtr) (ok : Bool) (call : Call) : Bool :=
  (issued (m.heap p).curEvents call).any fun i =>
    (epoll_ctl m.interest i.1 call.fd ⟨i.2, p⟩ ok).isSome

theorem setContext_heap (m : IOManager) (p : FdContextPtr) : m.setContext p (m.heap p) = m := by
  have hheap : (fun q => if q = p then m.heap p else m.heap q) = m.heap := by
    funext q
    split
    · rename_i hq
      rw [hq]
    · rfl
  unfold setContext
  rw [hheap]

/-- The context is all that the part under the mutex reads and keeps. -/
theorem addEvent_perform (m : IOManager) (p : FdContextPtr) (caller : Caller) (ok : Bool)
    (fd : Int) (event : Event) (cb : Option FuncId) :
    (m.answer p caller ok (.addEvent fd event cb)).map (fun r => (r.1.bare, r.2)) =
      ((m.heap p).perform caller (m.granted p ok (.addEvent fd event cb))
        (.addEvent fd event cb)).map (fun r => ((m.setContext p r.1).bare, r.2)) := by
  simp only [answer, addEventLocked, FdContext.perform, granted, issued, Call.fd, bind, Except.bind,
    pure, Except.pure, throw, throwThe, MonadExceptOf.throw]
  split
  · rfl
  · simp only [Option.any_some]
    rcases Option.eq_none_or_eq_some (epoll_ctl m.interest
        (if (m.heap p).curEvents ≠ 0 then EpollCtlOp.MOD else EpollCtlOp.ADD) fd
        ⟨EPOLLET ||| (m.heap p).curEvents ||| event.mask, p⟩ ok) with hctl | ⟨k, hctl⟩
    · simp only [hctl, Option.isSome_none, Bool.false_eq_true, if_false, Except.map]
      rw [setContext_heap]
    · simp only [hctl, Option.isSome_some, if_true]
      cases event with
      | NONE => rfl
      | READ =>
        simp only [FdContext.getContext]
        split
        · rfl
        · cases cb <;> rfl
      | WRITE =>
        simp only [FdContext.getContext]
        split
        · rfl
        · cases cb <;> rfl

/-- `delEvent` on the manager is `delEvent` on its context. -/
theorem delEvent_perform (m : IOManager) (p : FdContextPtr) (caller : Caller) (ok : Bool)
    (fd : Int) (event : Event) :
    (m.answer p caller ok (.delEvent fd event)).map (fun r => (r.1.bare, r.2)) =
      ((m.heap p).perform caller (m.granted p ok (.delEvent fd event))
        (.delEvent fd event)).map (fun r => ((m.setContext p r.1).bare, r.2)) := by
  simp only [answer, delEventLocked, FdContext.perform, granted, issued, Call.fd, bind, Except.bind,
    pure, Except.pure]
  rcases Bool.eq_false_or_eq_true ((m.heap p).curEvents.test event.mask) with htest | htest
  · simp only [htest, Bool.not_true, Bool.true_and, Bool.false_eq_true, if_true, if_false,
      Option.any_some]
    rcases Option.eq_none_or_eq_some (epoll_ctl m.interest
        (if (m.heap p).curEvents &&& ~~~event.mask ≠ 0 then EpollCtlOp.MOD else EpollCtlOp.DEL) fd
        ⟨EPOLLET ||| ((m.heap p).curEvents &&& ~~~event.mask), p⟩ ok) with hctl | ⟨k, hctl⟩
    · simp only [hctl, Option.isSome_none, Bool.false_eq_true, if_false, Except.map]
      rw [setContext_heap]
    · simp only [hctl, Option.isSome_some, if_true]
      cases event <;> rfl
  · simp only [htest, Bool.not_false, Bool.false_and, Bool.false_eq_true, if_true, if_false,
      Except.map]
    rw [setContext_heap]

/-- The loop of `bare` managers: what is left out is not read. -/
theorem triggerIf_perform (m : IOManager) (p : FdContextPtr) (events : Events) (event : Event) :
    (∃ f, m.triggerIf p events event = .error f ∧ (m.heap p).triggerIf events event = .error f) ∨
    ∃ m' c, m.triggerIf p events event = .ok m' ∧ (m.heap p).triggerIf events event = .ok c ∧
      m'.bare = (m.setContext p c).bare := by
  unfold triggerIf FdContext.triggerIf
  split
  · simp only [triggerEvent, bind, Except.bind, pure, Except.pure]
    cases (m.heap p).triggerEvent event with
    | error f => exact Or.inl ⟨f, rfl, rfl⟩
    | ok r => exact Or.inr ⟨_, r.1, rfl, rfl, rfl⟩
  · exact Or.inr ⟨m, m.heap p, rfl, rfl, by rw [setContext_heap]⟩

/-- The same for `cancelEvent`. -/
theorem cancelEvent_perform (m : IOManager) (p : FdContextPtr) (caller : Caller) (ok : Bool)
    (fd : Int) (event : Event) :
    (m.answer p caller ok (.cancelEvent fd event)).map (fun r => (r.1.bare, r.2)) =
      ((m.heap p).perform caller (m.granted p ok (.cancelEvent fd event))
        (.cancelEvent fd event)).map (fun r => ((m.setContext p r.1).bare, r.2)) := by
  simp only [answer, cancelEventLocked, FdContext.perform, granted, issued, Call.fd, bind,
    Except.bind, pure, Except.pure]
  rcases Bool.eq_false_or_eq_true ((m.heap p).curEvents.test event.mask) with htest | htest
  · simp only [htest, Bool.not_true, Bool.true_and, Bool.false_eq_true, if_true, if_false,
      Option.any_some]
    rcases Option.eq_none_or_eq_some (epoll_ctl m.interest
        (if (m.heap p).curEvents &&& ~~~event.mask ≠ 0 then EpollCtlOp.MOD else EpollCtlOp.DEL) fd
        ⟨EPOLLET ||| ((m.heap p).curEvents &&& ~~~event.mask), p⟩ ok) with hctl | ⟨k, hctl⟩
    · simp only [hctl, Option.isSome_none, Bool.false_eq_true, if_false, Except.map]
      rw [setContext_heap]
    · simp only [hctl, Option.isSome_some, if_true]
      simp only [triggerEvent, bind, Except.bind, pure, Except.pure]
      cases (m.heap p).triggerEvent event <;> rfl
  · simp only [htest, Bool.not_false, Bool.false_and, Bool.false_eq_true, if_true, if_false,
      Except.map]
    rw [setContext_heap]

/-- Two managers that agree but for the kernel's side agree after the same write. -/
theorem bare_setContext {m m' : IOManager} (h : m'.bare = m.bare) (p : FdContextPtr)
    (c : FdContext) : (m'.setContext p c).bare = (m.setContext p c).bare := by
  obtain ⟨⟩ := m
  obtain ⟨⟩ := m'
  simp only [bare, setContext, mk.injEq] at h ⊢
  obtain ⟨rfl, rfl, rfl, rfl, -⟩ := h
  trivial

theorem setContext_setContext (m : IOManager) (p : FdContextPtr) (c c' : FdContext) :
    (m.setContext p c).setContext p c' = m.setContext p c' := by
  have hheap : (fun q => if q = p then c' else if q = p then c else m.heap q) =
      fun q => if q = p then c' else m.heap q := by
    funext q
    split <;> rfl
  unfold setContext
  rw [hheap]

/-- What was written to the context is read from it. -/
theorem heap_of_bare {m m' : IOManager} {p : FdContextPtr} {c : FdContext}
    (h : m'.bare = (m.setContext p c).bare) : m'.heap p = c := by
  show m'.bare.heap p = c
  rw [h]
  exact m.setContext_self p c

/-- The same for `cancelAll`, where `WRITE` is looked for in what `READ` has left.
    -/
theorem cancelAll_perform (m : IOManager) (p : FdContextPtr) (caller : Caller) (ok : Bool)
    (fd : Int) :
    (m.answer p caller ok (.cancelAll fd)).map (fun r => (r.1.bare, r.2)) =
      ((m.heap p).perform caller (m.granted p ok (.cancelAll fd))
        (.cancelAll fd)).map (fun r => ((m.setContext p r.1).bare, r.2)) := by
  simp only [answer, cancelAllLocked, FdContext.perform, bind, Except.bind, pure, Except.pure,
    throw, throwThe, MonadExceptOf.throw]
  by_cases hcur : (m.heap p).curEvents = 0
  · -- nothing registered: the kernel is not asked
    rw [if_pos hcur, if_neg (fun h => h.1 hcur)]
    show Except.ok (m.bare, Answer.done false) =
      Except.ok ((m.setContext p (m.heap p)).bare, Answer.done false)
    rw [setContext_heap]
  · have hgranted : m.granted p ok (.cancelAll fd) =
        (epoll_ctl m.interest .DEL fd ⟨0, p⟩ ok).isSome := by
      unfold granted issued
      rw [if_neg hcur]
      rfl
    simp only [hgranted, ne_eq, hcur, not_false_eq_true, true_and]
    rcases Option.eq_none_or_eq_some (epoll_ctl m.interest .DEL fd ⟨0, p⟩ ok) with hctl | ⟨k, hctl⟩
    · -- `DEL` is refused
      simp only [hctl, Option.isSome_none, Bool.false_eq_true, if_false, Except.map]
      rw [setContext_heap]
    · simp only [hctl, Option.isSome_some, if_true]
      -- `READ`, and then `WRITE` in the context that `READ` left
      rcases triggerIf_perform { m with interest := k } p (m.heap p).curEvents .READ with
        ⟨f, hm, hc⟩ | ⟨m₁, c₁, hm, hc, hbare⟩
      · simp only [hm, hc]
        rfl
      · have hheap₁ : m₁.heap p = c₁ := heap_of_bare hbare
        rcases triggerIf_perform m₁ p (m₁.heap p).curEvents .WRITE with
          ⟨f, hm', hc'⟩ | ⟨m₂, c₂, hm', hc', hbare'⟩
        · rw [hheap₁] at hm' hc'
          simp only [hm, hc, hheap₁, hm', hc']
          rfl
        · have hheap₂ : m₂.heap p = c₂ := heap_of_bare hbare'
          rw [hheap₁] at hm' hc'
          have hlast : m₂.bare = (m.setContext p c₂).bare := by
            rw [hbare', bare_setContext hbare p c₂, setContext_setContext]
            rfl
          -- the assertion at the end
          by_cases hleft : c₂.curEvents = 0
          · simp only [hm, hc, hheap₁, hm', hc', hheap₂, hleft, not_true_eq_false, if_false,
              Except.map, hlast]
          · simp only [hm, hc, hheap₁, hm', hc', hheap₂, hleft, not_false_eq_true, if_true]
            rfl

/-- Every call asks the kernel once and otherwise works on its context alone. -/
theorem answer_perform (m : IOManager) (p : FdContextPtr) (caller : Caller) (ok : Bool)
    (call : Call) :
    (m.answer p caller ok call).map (fun r => (r.1.bare, r.2)) =
      ((m.heap p).perform caller (m.granted p ok call) call).map
        (fun r => ((m.setContext p r.1).bare, r.2)) := by
  cases call with
  | addEvent fd event cb => exact addEvent_perform m p caller ok fd event cb
  | delEvent fd event => exact delEvent_perform m p caller ok fd event
  | cancelEvent fd event => exact cancelEvent_perform m p caller ok fd event
  | cancelAll fd => exact cancelAll_perform m p caller ok fd

end IOManager

/-! ## Section 3: The bit of EPOLLET -/

namespace Events

/-- Bits that no event of the manager sets or clears. -/
def OTHER : Events := 0x7ffffffa#32

/-- `EPOLLET` set where other bits keep `curEvents` from getting empty: no call
    tells it there. -/
def settled (a : Events) : Events := if a &&& OTHER ≠ 0 then a ||| EPOLLET else a

/-- `EPOLLET` set where there is any bit: `addEvent` does not tell it. -/
def shown (a : Events) : Events := if a = 0 then 0 else a ||| EPOLLET

/-- `EPOLLET` in `curEvents` is enough for it not to be 0. -/
theorem or_EPOLLET_ne_zero (a : Events) : a ||| EPOLLET ≠ 0 := by
  intro h
  have hbit := congrArg (fun b => b.getLsbD 31) h
  simp [EPOLLET] at hbit

theorem test_or_EPOLLET (a : Events) (e : Event) :
    (a ||| EPOLLET).test e.mask = a.test e.mask := by
  have hnone : EPOLLET &&& e.mask = 0#32 := by cases e <;> decide
  rw [test, BitVec.and_or_distrib_right, hnone, BitVec.or_zero, test]

/-- The kernel is told `EPOLLET` in any case, so it does not show there. -/
theorem EPOLLET_or (a : Events) : EPOLLET ||| (a ||| EPOLLET) = EPOLLET ||| a := by
  rw [BitVec.or_comm a, ← BitVec.or_assoc, BitVec.or_self]

/-- The bits that are neither an event nor `EPOLLET` are never set by a call. -/
theorem or_mask_OTHER (a : Events) (e : Event) : (a ||| e.mask) &&& OTHER = a &&& OTHER := by
  have hnone : e.mask &&& OTHER = 0#32 := by cases e <;> decide
  rw [BitVec.and_or_distrib_right, hnone, BitVec.or_zero]

/-- Nor are they ever cleared. -/
theorem andNot_OTHER (a : Events) (e : Event) : (a &&& ~~~e.mask) &&& OTHER = a &&& OTHER := by
  have hall : ~~~e.mask &&& OTHER = OTHER := by cases e <;> decide
  rw [BitVec.and_assoc, hall]

/-- To clear a bit that is not set changes nothing. -/
theorem andNot_of_clear {a : Events} {e : Event} (h : a.test e.mask = false) :
    a &&& ~~~e.mask = a := by
  have hnone : a &&& e.mask = 0#32 := by simpa [test] using h
  have hsplit : (a &&& e.mask) ||| (a &&& ~~~e.mask) = a := by
    rw [← BitVec.and_or_distrib_left, BitVec.or_not_self, BitVec.and_allOnes]
  rwa [hnone, BitVec.zero_or] at hsplit

/-- What a call reads of `curEvents` is left by `n`. -/
structure Keeps (n : Events → Events) : Prop where
  test : ∀ a (e : Event), (n a).test e.mask = a.test e.mask
  zero : ∀ a, n a = 0 ↔ a = 0
  mask : ∀ a, EPOLLET ||| n a = EPOLLET ||| a

theorem or_EPOLLET_or (a : Events) (e : Event) :
    a ||| EPOLLET ||| e.mask = a ||| e.mask ||| EPOLLET := by
  rw [BitVec.or_assoc, BitVec.or_comm EPOLLET, ← BitVec.or_assoc]

/-- `settled` does not get in the way of an event that is added. -/
theorem settled_or (a : Events) (e : Event) : settled a ||| e.mask = settled (a ||| e.mask) := by
  unfold settled
  rw [or_mask_OTHER]
  split
  · exact or_EPOLLET_or a e
  · rfl

/-- Nor of one that is taken away. -/
theorem settled_andNot (a : Events) (e : Event) :
    settled a &&& ~~~e.mask = settled (a &&& ~~~e.mask) := by
  unfold settled
  rw [andNot_OTHER]
  split
  · have hall : EPOLLET &&& ~~~e.mask = EPOLLET := by cases e <;> decide
    rw [BitVec.and_or_distrib_right, hall]
  · rfl

/-- `settled` leaves what a call reads of `curEvents`. -/
theorem keeps_settled : Keeps settled where
  test a e := by
    unfold settled
    split
    · exact test_or_EPOLLET a e
    · rfl
  zero a := by
    unfold settled
    split
    · rename_i h
      refine iff_of_false (or_EPOLLET_ne_zero a) ?_
      rintro rfl
      exact h BitVec.zero_and
    · rfl
  mask a := by
    unfold settled
    split
    · exact EPOLLET_or a
    · rfl

/-- So does `shown`; but that is not kept where an event is taken away. -/
theorem keeps_shown : Keeps shown where
  test a e := by
    unfold shown
    split
    · rename_i h
      rw [h]
    · exact test_or_EPOLLET a e
  zero a := by
    unfold shown
    split
    · rename_i h
      exact iff_of_true rfl h
    · rename_i h
      exact iff_of_false (or_EPOLLET_ne_zero a) h
  mask a := by
    unfold shown
    split
    · rename_i h
      rw [h]
    · exact EPOLLET_or a

theorem shown_or (a : Events) (e : Event) : shown (shown a ||| e.mask) = shown (a ||| e.mask) := by
  by_cases h : a = 0
  · rw [h]
    rfl
  · have hne : a ||| e.mask ≠ 0 := fun hzero => h (BitVec.or_eq_zero_iff.mp hzero).1
    unfold shown
    rw [if_neg h, or_EPOLLET_or, if_neg (or_EPOLLET_ne_zero _), if_neg hne, BitVec.or_assoc,
      BitVec.or_self]

/-- What is the same for every call is the same for `addEvent`. -/
theorem shown_of_settled {a b : Events} (h : settled a = settled b) : shown a = shown b := by
  have hzero : a = 0 ↔ b = 0 := by rw [← keeps_settled.zero a, h, keeps_settled.zero b]
  have hmask : a ||| EPOLLET = b ||| EPOLLET := by
    rw [BitVec.or_comm, ← keeps_settled.mask a, h, keeps_settled.mask b, BitVec.or_comm]
  unfold shown
  rw [hmask]
  simp only [hzero]

end Events

namespace FdContext

def mapEvents (n : Events → Events) (c : FdContext) : FdContext := { c with curEvents := n c.curEvents }

/-- An `addEvent` sees of `curEvents` what `shown` leaves of it. -/
theorem perform_shown (c : FdContext) (caller : IOManager.Caller) (granted : Bool) (fd : Int)
    (event : Event) (cb : Option FuncId) :
    ((c.mapEvents Events.shown).perform caller granted (.addEvent fd event cb)).map
        (fun r => (r.1.mapEvents Events.shown, r.2)) =
      (c.perform caller granted (.addEvent fd event cb)).map
        (fun r => (r.1.mapEvents Events.shown, r.2)) := by
  simp only [perform, mapEvents, Events.keeps_shown.test, bind, Except.bind, pure, Except.pure,
    throw, throwThe, MonadExceptOf.throw]
  split
  · rfl
  · split
    · cases event with
      | NONE => rfl
      | READ =>
        simp only [getContext]
        split
        · rfl
        · simp only [Except.map, setContext, Events.shown_or]
      | WRITE =>
        simp only [getContext]
        split
        · rfl
        · simp only [Except.map, setContext, Events.shown_or]
    · have htwice : Events.shown (Events.shown c.curEvents) = Events.shown c.curEvents := by
        have hself := Events.shown_or c.curEvents .NONE
        rwa [show Event.NONE.mask = 0#32 from rfl, BitVec.or_zero, BitVec.or_zero] at hself
      simp only [Except.map, htwice]

/-- `triggerEvent` looks at one bit and clears it. -/
theorem triggerEvent_settled (c : FdContext) (event : Event) :
    (c.mapEvents Events.settled).triggerEvent event =
      (c.triggerEvent event).map fun r => (r.1.mapEvents Events.settled, r.2) := by
  simp only [triggerEvent, mapEvents, Events.keeps_settled.test, Events.settled_andNot, bind,
    Except.bind, pure, Except.pure, throw, throwThe, MonadExceptOf.throw]
  split
  · rfl
  · obtain ⟨⟨rs, rf, rc⟩, ⟨ws, wf, wc⟩, fd, cur⟩ := c
    cases event with
    | NONE => rfl
    | READ => cases rs <;> cases rc <;> rfl
    | WRITE => cases ws <;> cases wc <;> rfl

theorem triggerIf_settled (c : FdContext) (events : Events) (event : Event) :
    (c.mapEvents Events.settled).triggerIf (Events.settled events) event =
      (c.triggerIf events event).map fun c => c.mapEvents Events.settled := by
  unfold triggerIf
  rw [Events.keeps_settled.test]
  split
  · rw [triggerEvent_settled]
    cases c.triggerEvent event <;> rfl
  · rfl

/-- Every call sees of `curEvents` at most what `settled` leaves of it. -/
theorem perform_settled (c : FdContext) (caller : IOManager.Caller) (granted : Bool)
    (call : IOManager.Call) :
    (c.mapEvents Events.settled).perform caller granted call =
      (c.perform caller granted call).map fun r => (r.1.mapEvents Events.settled, r.2) := by
  have hcur : (c.mapEvents Events.settled).curEvents = Events.settled c.curEvents := rfl
  -- each call tests, sets and clears READ and WRITE only, which settled keeps
  cases call with
  | addEvent fd event cb =>
    simp only [perform, hcur, Events.keeps_settled.test, Events.settled_or, bind, Except.bind, pure,
      Except.pure, throw, throwThe, MonadExceptOf.throw]
    split
    · rfl
    · split
      · cases event with
        | NONE => rfl
        | READ =>
          simp only [getContext, mapEvents]
          split <;> rfl
        | WRITE =>
          simp only [getContext, mapEvents]
          split <;> rfl
      · rfl
  | delEvent fd event =>
    simp only [perform, hcur, Events.keeps_settled.test, Events.settled_andNot, bind, Except.bind,
      pure, Except.pure]
    split
    · cases event <;> rfl
    · rfl
  | cancelEvent fd event =>
    simp only [perform, hcur, Events.keeps_settled.test]
    split
    · rw [triggerEvent_settled]
      cases c.triggerEvent event <;> rfl
    · rfl
  | cancelAll fd =>
    have hzero := Events.keeps_settled.zero
    simp only [perform, hcur, ne_eq, hzero, bind, Except.bind, pure, Except.pure, throw, throwThe,
      MonadExceptOf.throw]
    split
    · rw [triggerIf_settled]
      cases c.triggerIf c.curEvents .READ with
      | error f => rfl
      | ok c₁ =>
        have hcur₁ : (c₁.mapEvents Events.settled).curEvents = Events.settled c₁.curEvents := rfl
        simp only [Except.map, hcur₁, triggerIf_settled]
        cases c₁.triggerIf c₁.curEvents .WRITE with
        | error f => rfl
        | ok c₂ =>
          have hcur₂ : (c₂.mapEvents Events.settled).curEvents = Events.settled c₂.curEvents := rfl
          simp only [hcur₂, hzero]
          split <;> rfl
    · rfl

end FdContext

end MNSER
