import Mnser.Hook.Close

/-! # What a hooked call leaves behind

    A call of `do_io` arms a condition timer for each wait and has its event
    registered at most once.  Whatever way it returns, its timer is no longer
    in `m_timers` and its event is no longer registered.

    What it cannot take back is a callback that has locked `winfo` already: it
    sets `cancelled`, and then cancels the event of the fd, also when the call
    has returned in between and the event is somebody else's. -/

namespace MNSER

open LTS

/-! ## Section 1: What is to hold of a step -/

/-- Where the fiber's condition timer may be in `m_timers`. -/
def IoPc.timed : IoPc → Bool
  | .adding       => true
  | .resizing     => true
  | .locking _    => true
  | .failed       => true
  | .registered _ => true
  | .parked _     => true
  | .woken        => true
  | _             => false

/-- The timer whose callback takes the step. -/
def HookLabel.timer : HookLabel → Option IoTimerId
  | .callback i     => some i
  | .cancelLookup i => some i
  | .cancelLock i _ => some i
  | _               => none

namespace Hook

/-- The fiber has no timer in `m_timers` and no event registered. -/
def LeavesNothing (s : Hook) (f : FiberId) : Prop :=
  (∀ i t, s.timer i = some t → t.fiber = f → t.phase ≠ .pending) ∧
    ∀ p e, ((s.io.heap p).slot e).fiber ≠ some f

/-- Why `do_io` returns what it returns: a call of `fun(fd, ..)` did, the fd is
    closed, `addEvent` failed, or a timer of this call has fired. -/
inductive Because (fired : List InfoId) (s : Hook) (f : FiberId) : HookLabel → SysResult → Prop where
  | native {fd event timeout t_hook_enable ctx result}
      (entry : do_io_entry t_hook_enable ctx = .native) :
      Because fired s f (.call f .do_io fd event timeout t_hook_enable ctx result) result
  | closed {fd event timeout t_hook_enable result} {c : FdCtx} (isClose : c.isClose = true) :
      Because fired s f (.call f .do_io fd event timeout t_hook_enable (some c) result)
        (.error EBADF)
  | attempted (result : SysResult) : Because fired s f (.attempt f result) result
  | addEvent {errno : Int} (failed : (s.fiber f).pc = .failed) :
      Because fired s f (.cancelTimer f errno) (.error errno)
  | timedOut (timer : (s.fiber f).info ∈ fired) :
      Because fired s f (.check f) (.error ETIMEDOUT)

/-- What the call is that the fiber's step is a part of. -/
def callKind (s : Hook) (f : FiberId) : HookLabel → IoKind
  | .call _ kind _ _ _ _ _ _ => kind
  | _                        => (s.fiber f).kind

/-- A step from `s` to `t` when the timers of the calls in `fired` have fired. -/
structure Clean (fired : List InfoId) (s : Hook) (l : HookLabel) (t : Hook) : Prop where
  leaves  : ∀ f, (t.fiber f).pc = .outside → t.LeavesNothing f
  because : ∀ f, l.fiber = some f → s.callKind f l = .do_io → (t.fiber f).pc = .outside →
              ∃ result, (t.fiber f).result = some result ∧ Because fired s f l result
  /-- a callback whose call is over changes nothing -/
  stale   : ∀ i u, l.timer = some i → s.timer i = some u → s.alive u = false →
              ∃ phase, t = s.setPhase i u phase

/-- The condition on a step: a callback that comes to cancel the event when its
    call is over finds it not registered, or the kernel refuses. -/
def Harmless (s : Hook) : HookLabel → Prop
  | .cancelLock i ok =>
      ∀ u p, s.timer i = some u → u.phase = .locking p → s.alive u = false → ok = true →
        (s.io.interest u.fd).isSome = true → (s.io.heap p).curEvents.test u.event.mask = false
  | _ => True

/-- The calls whose timers have fired. -/
def recordFired (s : Hook) (l : HookLabel) (fired : List InfoId) : List InfoId :=
  match l with
  | .callback i => ((s.timer i).map IoTimer.info).toList ++ fired
  | _           => fired

end Hook

def firing (self : SchedulerId) : System (Hook × List InfoId) HookLabel :=
  (hooks self).withHistory Hook.recordFired []

namespace Hook

/-! ## Section 2: The invariant -/

structure Tidy (fired : List InfoId) (s : Hook) : Prop where
  timers  : ∀ i t, s.timer i = some t → t.phase = .pending →
              (s.fiber t.fiber).timer = some i ∧ (s.fiber t.fiber).pc.timed = true
  slots   : ∀ p e f, ((s.io.heap p).slot e).fiber = some f →
              s.Waits f p ∧ (s.fiber f).event = e ∧ f ∉ s.queue
  queued  : ∀ f ∈ s.queue, ∃ p, s.Waits f p
  nodup   : s.queue.Nodup
  fired   : ∀ f, (s.fiber f).pc ≠ .outside → (s.fiber f).cancelled = 0 ∨
              (s.fiber f).cancelled = ETIMEDOUT ∧ (s.fiber f).info ∈ fired
  sockopt : ∀ f, (s.fiber f).pc = .sockopt → (s.fiber f).kind = .connect

/-- A fiber that waits is inside of the span of its timer. -/
theorem Waits.timed {s : Hook} {f : FiberId} {p : FdContextPtr} (h : s.Waits f p) :
    (s.fiber f).pc.timed = true := by
  rcases h with hpc | hpc <;> rw [hpc] <;> rfl

/-- A fiber waits for one context. -/
theorem Waits.unique {s : Hook} {f : FiberId} {p q : FdContextPtr} (h : s.Waits f p)
    (h' : s.Waits f q) : p = q := by
  rcases h with hp | hp <;> rcases h' with hq | hq <;> rw [hp] at hq
  · exact IoPc.registered.inj hq
  · cases hq
  · cases hq
  · exact IoPc.parked.inj hq

/-- Outside of its calls a fiber has no timer and is in no slot. -/
theorem Tidy.leavesNothing {fired : List InfoId} {s : Hook} (h : Tidy fired s) {f : FiberId}
    (hpc : (s.fiber f).pc = .outside) : s.LeavesNothing f := by
  constructor
  · -- both would need a call
    rintro i t ht rfl hpending
    have htimed := (h.timers i t ht hpending).2
    rw [hpc] at htimed
    cases htimed
  · intro p e hslot
    have htimed := (h.slots p e f hslot).1.timed
    rw [hpc] at htimed
    cases htimed

/-- Nothing is registered at the start. -/
theorem tidy_start : Tidy [] start where
  timers i t ht  := by cases ht
  slots p e f hslot := by
    have hempty : ((start.io.heap p).slot e).fiber = none := by
      rcases IOManager.fewer_contextResize IOManager.core_empty 32 p e with h | h
      · exact congrArg EventContext.fiber h
      · refine (congrArg EventContext.fiber h).trans ?_
        cases e <;> rfl
    rw [hempty] at hslot
    cases hslot
  queued f hf    := by cases hf
  nodup          := List.nodup_nil
  fired f hpc    := absurd rfl hpc
  sockopt f hpc  := by cases hpc

/-- Who takes no timer with him and waits where he waited before. -/
theorem Tidy.setFiber {fired : List InfoId} {s : Hook} (h : Tidy fired s) {f : FiberId}
    {x : IoFiber}
    (htimers : ∀ i t, s.timer i = some t → t.phase = .pending → t.fiber = f →
      x.timer = some i ∧ x.pc.timed = true)
    (hwaits : ∀ p, s.Waits f p →
      (x.pc = .registered p ∨ x.pc = .parked p) ∧ x.event = (s.fiber f).event)
    (hfired : x.pc ≠ .outside → x.cancelled = 0 ∨ x.cancelled = ETIMEDOUT ∧ x.info ∈ fired)
    (hsockopt : x.pc = .sockopt → x.kind = .connect) : Tidy fired (s.setFiber f x) := by
  -- who waits goes on waiting, for f this is the hypothesis
  have hkeep : ∀ {g p}, s.Waits g p → (s.setFiber f x).Waits g p ∧
      ((s.setFiber f x).fiber g).event = (s.fiber g).event := by
    intro g p hg
    unfold Waits
    by_cases hgf : g = f
    · subst hgf
      rw [setFiber_self]
      exact hwaits p hg
    · rw [setFiber_ne s x hgf]
      exact ⟨hg, rfl⟩
  refine ⟨?_, ?_, ?_, h.nodup, ?_, ?_⟩
  · intro i t ht hpending
    by_cases hgf : t.fiber = f
    · rw [hgf, setFiber_self]
      exact htimers i t ht hpending hgf
    · rw [setFiber_ne s x hgf]
      exact h.timers i t ht hpending
  · intro p e g hslot
    obtain ⟨hg, hevent, hqueue⟩ := h.slots p e g hslot
    exact ⟨(hkeep hg).1, (hkeep hg).2.trans hevent, hqueue⟩
  · intro g hg
    obtain ⟨p, hp⟩ := h.queued g hg
    exact ⟨p, (hkeep hp).1⟩
  · intro g hpc
    by_cases hgf : g = f
    · subst hgf
      rw [setFiber_self] at hpc ⊢
      exact hfired hpc
    · rw [setFiber_ne s x hgf] at hpc ⊢
      exact h.fired g hpc
  · intro g hpc
    by_cases hgf : g = f
    · subst hgf
      rw [setFiber_self] at hpc ⊢
      exact hsockopt hpc
    · rw [setFiber_ne s x hgf] at hpc ⊢
      exact h.sockopt g hpc

/-- A fiber that does not wait goes on in its call. -/
theorem Tidy.goto {fired : List InfoId} {s : Hook} (h : Tidy fired s) {f : FiberId} {pc pc' : IoPc}
    (hpc : (s.fiber f).pc = pc) (hout : pc ≠ .outside)
    (hwaits : ∀ p, pc ≠ .registered p ∧ pc ≠ .parked p)
    (htimed : pc.timed = true → pc'.timed = true)
    (hsockopt : pc' = .sockopt → (s.fiber f).kind = .connect) : Tidy fired (s.goto f pc') := by
  refine h.setFiber ?_ ?_ (fun _ => h.fired f (hpc ▸ hout)) hsockopt
  · rintro i t ht hpending rfl
    obtain ⟨htimer, hold⟩ := h.timers i t ht hpending
    exact ⟨htimer, htimed (hpc ▸ hold)⟩
  · rintro p (hp | hp)
    · exact absurd (hpc.symm.trans hp) (hwaits p).1
    · exact absurd (hpc.symm.trans hp) (hwaits p).2

/-- A call returns from a place where it has no timer. -/
theorem Tidy.ret {fired : List InfoId} {s : Hook} (h : Tidy fired s) {f : FiberId}
    (htimed : (s.fiber f).pc.timed = false) (result : SysResult) :
    Tidy fired (s.ret f result) := by
  refine h.setFiber ?_ ?_ (fun hpc => absurd rfl hpc) (fun hpc => by cases hpc)
  · rintro i t ht hpending rfl
    rw [(h.timers i t ht hpending).2] at htimed
    cases htimed
  · intro p hp
    rw [hp.timed] at htimed
    cases htimed

/-- A timer leaves `m_timers`. -/
theorem Tidy.setPhase {fired : List InfoId} {s : Hook} (h : Tidy fired s) {i : IoTimerId}
    {t : IoTimer} {phase : TimerPhase} (hphase : phase ≠ .pending) :
    Tidy fired (s.setPhase i t phase) := by
  refine ⟨?_, h.slots, h.queued, h.nodup, h.fired, h.sockopt⟩
  intro j u hu hpending
  by_cases hji : j = i
  · subst hji
    rw [Hook.setPhase, setTimer_self] at hu
    obtain rfl := Option.some.inj hu
    exact absurd hpending hphase
  · rw [Hook.setPhase, setTimer_ne s _ hji] at hu
    exact h.timers j u hu hpending

/-- `timer->cancel()` only takes timers out. -/
theorem Tidy.cancelTimer {fired : List InfoId} {s : Hook} (h : Tidy fired s) (f : FiberId) :
    Tidy fired (s.cancelTimer f) := by
  unfold Hook.cancelTimer
  split
  · exact h
  · split
    · exact h
    · split
      · exact h.setPhase (by decide)
      · exact h

/-- `timer->cancel()` takes the only timer of the fiber out of `m_timers`. -/
theorem Tidy.cancelTimer_clears {fired : List InfoId} {s : Hook} (h : Tidy fired s) (f : FiberId)
    {i : IoTimerId} {t : IoTimer} (ht : (s.cancelTimer f).timer i = some t)
    (hpending : t.phase = .pending) : t.fiber ≠ f := by
  rintro rfl
  -- a pending timer is its fiber's own, and that one is cancelled here
  unfold Hook.cancelTimer at ht
  split at ht
  · rename_i hnone
    have htimer := (h.timers i t ht hpending).1
    rw [hnone] at htimer
    cases htimer
  · rename_i j hj
    split at ht
    · rename_i hgone
      have htimer := (h.timers i t ht hpending).1
      obtain rfl := Option.some.inj (hj.symm.trans htimer)
      rw [hgone] at ht
      cases ht
    · rename_i u hu
      split at ht
      · by_cases hij : i = j
        · subst hij
          rw [Hook.setPhase, setTimer_self] at ht
          obtain rfl := Option.some.inj ht
          cases hpending
        · rw [Hook.setPhase, setTimer_ne s _ hij] at ht
          have htimer := (h.timers i t ht hpending).1
          exact hij (Option.some.inj (htimer.symm.trans hj))
      · rename_i hother
        have htimer := (h.timers i t ht hpending).1
        obtain rfl := Option.some.inj (hj.symm.trans htimer)
        obtain rfl := Option.some.inj (hu.symm.trans ht)
        exact hother hpending

/-! ## Section 3: Events -/

theorem setIo_self (s : Hook) : s.setIo s.io = s := by
  have hnone : wokenSince s.io s.io = [] := by simp [wokenSince]
  rw [Hook.setIo, hnone, List.append_nil]

/-- What has been scheduled stays. -/
def Extends (m m' : IOManager) : Prop := ∃ effects, m'.effects = m.effects ++ effects

/-- Two changes in one locked section queue what each of them wakes. -/
theorem setIo_setIo {s : Hook} {m m' : IOManager} (h : Extends s.io m) (h' : Extends m m') :
    (s.setIo m).setIo m' = s.setIo m' := by
  obtain ⟨es, hes⟩ := h
  obtain ⟨es', hes'⟩ := h'
  -- first those of the first change, then those of the second
  have hwoken : wokenSince s.io m' = wokenSince s.io m ++ wokenSince m m' := by
    simp only [wokenSince, hes', hes, List.append_assoc, List.drop_left, List.filterMap_append]
    rw [← List.append_assoc, List.drop_left]
  simp only [Hook.setIo, hwoken, List.append_assoc]

theorem extends_disarm (m : IOManager) (p : FdContextPtr) (e : Event) (effect : Effect) :
    Extends m (m.disarm p e effect) := ⟨[effect], rfl⟩

/-- A triggered event schedules one task at most. -/
theorem extends_triggerIf {m m' : IOManager} {p : FdContextPtr} {events : Events} {e : Event}
    (hwf : (m.heap p).WF) (h : m.triggerIf p events e = .ok m') : Extends m m' := by
  rcases IOManager.triggerIf_cases hwf h with ⟨_, rfl⟩ | ⟨_, _, sched, task, _, rfl⟩
  · exact ⟨[], (List.append_nil _).symm⟩
  · exact extends_disarm _ _ _ _

/-- An operation that wakes nobody and registers nobody. -/
theorem Tidy.setIo {fired : List InfoId} {s : Hook} (h : Tidy fired s) {m : IOManager}
    (hfewer : s.io.Fewer m) (heffects : m.effects = s.io.effects) : Tidy fired (s.setIo m) := by
  have hnone : wokenSince s.io m = [] := by simp [wokenSince, heffects]
  have hqueue : (s.setIo m).queue = s.queue := by
    rw [Hook.setIo, hnone, List.append_nil]
  refine ⟨h.timers, ?_, hqueue.symm ▸ h.queued, hqueue.symm ▸ h.nodup, h.fired, h.sockopt⟩
  intro p e f hslot
  rw [hqueue]
  rcases hfewer p e with hempty | hsame
  · have hnobody : ((m.heap p).slot e).fiber = some f := hslot
    rw [hempty] at hnobody
    cases hnobody
  · have hold : ((m.heap p).slot e).fiber = some f := hslot
    rw [hsame] at hold
    exact h.slots p e f hold

/-- The list of the kernel is not looked at. -/
theorem Tidy.setInterest {fired : List InfoId} {s : Hook} (h : Tidy fired s) (k : InterestList) :
    Tidy fired (s.setIo (s.io.setInterest k)) :=
  h.setIo (fun _ _ => Or.inr rfl) rfl

/-- Growing the table schedules nothing. -/
theorem contextResize_effects (m : IOManager) (size : Nat) :
    (m.contextResize size).effects = m.effects := by
  have hfold : ∀ (ns : List Nat) (m : IOManager),
      (ns.foldl (fun m _ => m.newContext m.fdContexts.length) m).effects = m.effects := by
    intro ns
    induction ns with
    | nil => exact fun _ => rfl
    | cons n ns ih => exact fun m => ih _
  exact hfold _ _

/-- Whoever is woken was registered, and only there. -/
theorem Tidy.disarm {fired : List InfoId} {s : Hook} (h : Tidy fired s) {p : FdContextPtr}
    {e : Event} {sched : SchedulerId} {task : Task}
    (hslot : (s.io.heap p).slot e = EventContext.of (some sched) task) :
    Tidy fired (s.setIo (s.io.disarm p e (.scheduled p e sched (some task)))) := by
  -- only the slot of e in p is emptied
  have hcleared : ∀ q e' f,
      (((s.io.disarm p e (.scheduled p e sched (some task))).heap q).slot e').fiber = some f →
        ((s.io.heap q).slot e').fiber = some f ∧ ¬ (q = p ∧ e' = e) := by
    intro q e' f hfiber
    by_cases hq : q = p
    · subst hq
      rw [IOManager.disarm, IOManager.setContext_self] at hfiber
      by_cases he' : e' = .NONE
      · subst he'
        cases hfiber
      · rw [FdContext.slot_disarm _ _ _ he'] at hfiber
        split at hfiber
        · cases hfiber
        · rename_i hne
          exact ⟨hfiber, fun heq => hne heq.2⟩
    · rw [IOManager.disarm, IOManager.setContext_ne _ _ hq] at hfiber
      exact ⟨hfiber, fun heq => hq heq.1⟩
  cases task with
  | func c =>
    have hqueue : (s.setIo (s.io.disarm p e (.scheduled p e sched (some (.func c))))).queue =
        s.queue := by
      simp [Hook.setIo, wokenSince, IOManager.disarm]
    refine ⟨h.timers, ?_, hqueue.symm ▸ h.queued, hqueue.symm ▸ h.nodup, h.fired, h.sockopt⟩
    intro q e' f hfiber
    rw [hqueue]
    exact h.slots q e' f (hcleared q e' f hfiber).1
  | fiber g =>
    have hqueue : (s.setIo (s.io.disarm p e (.scheduled p e sched (some (.fiber g))))).queue =
        s.queue ++ [g] := by
      simp [Hook.setIo, wokenSince, IOManager.disarm]
    obtain ⟨hwaits, hevent, hfree⟩ := h.slots p e g (by rw [hslot]; rfl)
    refine ⟨h.timers, ?_, ?_, ?_, h.fired, h.sockopt⟩
    · intro q e' f hfiber
      obtain ⟨hold, hother⟩ := hcleared q e' f hfiber
      obtain ⟨hf, he', hqueued⟩ := h.slots q e' f hold
      refine ⟨hf, he', ?_⟩
      rw [hqueue, List.mem_append, List.mem_singleton]
      rintro (hmem | rfl)
      · exact hqueued hmem
      · exact hother ⟨hf.unique hwaits, he'.symm.trans hevent⟩
    · intro f hf
      rw [hqueue, List.mem_append, List.mem_singleton] at hf
      rcases hf with hf | rfl
      · exact h.queued f hf
      · exact ⟨p, hwaits⟩
    · rw [hqueue]
      exact List.nodup_append.mpr ⟨h.nodup, List.nodup_singleton g, fun a ha b hb hab =>
        hfree (by rw [← List.mem_singleton.mp hb, ← hab]; exact ha)⟩

/-- A triggered event frees its slot and queues its fiber. -/
theorem Tidy.triggerIf {fired : List InfoId} {s : Hook} (h : Tidy fired s) {p : FdContextPtr}
    {events : Events} {e : Event} (hwf : (s.io.heap p).WF) {m : IOManager}
    (hcall : s.io.triggerIf p events e = .ok m) : Tidy fired (s.setIo m) := by
  rcases IOManager.triggerIf_cases hwf hcall with ⟨_, rfl⟩ | ⟨_, _, sched, task, hslot, rfl⟩
  · rw [setIo_self]
    exact h
  · exact h.disarm hslot

/-- A report triggers READ and WRITE in turn. -/
theorem Tidy.handleReport {fired : List InfoId} {s : Hook} (hinv : Inv s) (h : Tidy fired s)
    {p : FdContextPtr} {events : Events} {ok : Bool} {m : IOManager}
    (hcall : s.io.handleReport p events ok = .ok m) : Tidy fired (s.setIo m) := by
  rcases IOManager.handleReport_cases hcall with rfl | ⟨k, m₁, _, hread, hwrite⟩
  · rw [setIo_self]
    exact h
  · -- the list of the kernel, then READ, then WRITE
    have hcore := hinv.core.setInterest k
    have hcore₁ := (hcore.triggerIf hread).1
    have hsame : Extends s.io (s.io.setInterest k) := ⟨[], (List.append_nil _).symm⟩
    have h₁ := (h.setInterest k).triggerIf (hcore.wf p) hread
    have h₂ := h₁.triggerIf (hcore₁.wf p) hwrite
    rw [setIo_setIo hsame (extends_triggerIf (hcore.wf p) hread)] at h₂
    have hextends : Extends s.io m₁ := extends_triggerIf (m := s.io.setInterest k) (hcore.wf p) hread
    rw [setIo_setIo hextends (extends_triggerIf (hcore₁.wf p) hwrite)] at h₂
    exact h₂

/-- A cancelled event frees its slot and queues its fiber. -/
theorem Tidy.cancelEventLocked {fired : List InfoId} {s : Hook} (hinv : Inv s) (h : Tidy fired s)
    {p : FdContextPtr} {fd : Int} {e : Event} {ok rt : Bool} {m : IOManager}
    (hcall : s.io.cancelEventLocked p fd e ok = .ok (m, rt)) : Tidy fired (s.setIo m) := by
  rcases IOManager.cancelEventLocked_cases (hinv.core.wf p) hcall with
    ⟨rfl, _⟩ | ⟨_, _, k, sched, task, _, hslot, rfl⟩
  · rw [setIo_self]
    exact h
  · have hsame : Extends s.io (s.io.setInterest k) := ⟨[], (List.append_nil _).symm⟩
    have hcleared := (h.setInterest k).disarm hslot
    have hextends := extends_disarm (s.io.setInterest k) p e (.scheduled p e sched (some task))
    rw [← setIo_setIo hsame hextends]
    exact hcleared

/-- Only the slot of the event gets a new fiber. -/
theorem slot_arm_cases {m : IOManager} {p q : FdContextPtr} {e e' : Event}
    {sched : Option SchedulerId} {f g : FiberId}
    (h : (((m.arm p e sched (.fiber f)).heap q).slot e').fiber = some g) :
    ((m.heap q).slot e').fiber = some g ∨ q = p ∧ e' = e ∧ g = f := by
  -- another fiber was there before
  by_cases hgf : g = f
  · by_cases hq : q = p
    · subst hq
      rw [IOManager.arm, IOManager.setContext_self] at h
      by_cases he' : e' = .NONE
      · subst he'
        cases h
      · rw [FdContext.slot_arm _ _ _ _ he'] at h
        split at h
        · rename_i he
          exact Or.inr ⟨rfl, he, hgf⟩
        · exact Or.inl h
    · rw [IOManager.arm, IOManager.setContext_ne _ _ hq] at h
      exact Or.inl h
  · exact Or.inl (slot_arm_fiber hgf h)

/-- `addEvent` registers a fiber that is in no queue. -/
theorem Tidy.arm {fired : List InfoId} {s : Hook} (h : Tidy fired s) {f : FiberId}
    {p : FdContextPtr} {e : Event} (hwaits : s.Waits f p) (hevent : (s.fiber f).event = e)
    (hfree : f ∉ s.queue) (k : InterestList) (sched : Option SchedulerId) :
    Tidy fired (s.setIo ((s.io.setInterest k).arm p e sched (.fiber f))) := by
  have hqueue : (s.setIo ((s.io.setInterest k).arm p e sched (.fiber f))).queue = s.queue := by
    simp [Hook.setIo, wokenSince, IOManager.arm, IOManager.setInterest]
  refine ⟨h.timers, ?_, hqueue.symm ▸ h.queued, hqueue.symm ▸ h.nodup, h.fired, h.sockopt⟩
  intro q e' g hslot
  rw [hqueue]
  rcases slot_arm_cases (m := s.io.setInterest k) hslot with hold | ⟨rfl, rfl, rfl⟩
  · exact h.slots q e' g hold
  · exact ⟨hwaits, hevent, hfree⟩

/-- The fiber waits where it is registered. -/
theorem Tidy.addEventLocked {fired : List InfoId} {s : Hook} {self : SchedulerId}
    (h : Tidy fired s) {f : FiberId} {p : FdContextPtr} (hpc : (s.fiber f).pc = .locking p)
    {ok : Bool} {rt : Int} {m : IOManager}
    (hcall : s.io.addEventLocked p (s.fiber f).fd (s.fiber f).event none ⟨some self, f⟩ ok =
      .ok (m, rt)) :
    Tidy fired ((s.setIo m).goto f (if rt = 0 then .registered p else .failed)) := by
  have hmove : ∀ pc : IoPc, pc.timed = true → pc ≠ .sockopt → Tidy fired (s.goto f pc) :=
    fun pc htimed hpc' => h.goto hpc (by simp) (by simp) (fun _ => htimed)
      fun hsockopt => absurd hsockopt hpc'
  rcases IOManager.addEventLocked_cases hcall with ⟨rfl, rfl⟩ | ⟨rfl, _, _, _, k, _, rfl⟩
  · rw [setIo_self, if_neg (by decide)]
    exact hmove _ rfl (by simp)
  · have hself : (s.goto f (.registered p)).fiber f = { s.fiber f with pc := .registered p } :=
      setFiber_self _ _ _
    -- who is in the queue waits, and this fiber does not yet
    have hfree : f ∉ (s.goto f (.registered p)).queue := by
      intro hf
      obtain ⟨q, hq⟩ := h.queued f hf
      rcases hq with hq | hq <;> rw [hpc] at hq <;> cases hq
    have hwaits : (s.goto f (.registered p)).Waits f p := by
      unfold Waits
      rw [hself]
      exact Or.inl rfl
    exact (hmove (.registered p) rfl (by simp)).arm hwaits (by rw [hself]) hfree k (some self)

/-! ## Section 4: One step -/

/-- More calls may have seen their timers fire. -/
theorem Tidy.mono {fired fired' : List InfoId} {s : Hook} (h : Tidy fired s)
    (hsub : fired ⊆ fired') : Tidy fired' s :=
  ⟨h.timers, h.slots, h.queued, h.nodup,
    fun f hpc => (h.fired f hpc).imp_right fun hf => ⟨hf.1, hsub hf.2⟩, h.sockopt⟩

/-- A new call has no timer yet. -/
theorem Tidy.call {fired : List InfoId} {s : Hook} (h : Tidy fired s) {f : FiberId} {x : IoFiber}
    (hout : (s.fiber f).pc = .outside) (hpc : x.pc = .attempting) (hcancelled : x.cancelled = 0) :
    Tidy fired ({ s with infos := s.infos + 1 }.setFiber f x) := by
  have hgrown : Tidy fired { s with infos := s.infos + 1 } :=
    ⟨h.timers, h.slots, h.queued, h.nodup, h.fired, h.sockopt⟩
  refine hgrown.setFiber ?_ ?_ (fun _ => Or.inl hcancelled) (fun hx => by rw [hpc] at hx; cases hx)
  · rintro i t ht hpending rfl
    have htimed := (h.timers i t ht hpending).2
    rw [hout] at htimed
    cases htimed
  · intro p hp
    have htimed := Waits.timed (s := s) hp
    rw [hout] at htimed
    cases htimed

/-- The new timer is the only one of its fiber. -/
theorem Tidy.newTimer {fired : List InfoId} {s : Hook} (h : Tidy fired s) {f : FiberId}
    (hpc : (s.fiber f).pc = .arming) {t : IoTimer} (hfiber : t.fiber = f) :
    Tidy fired (({ s with timers := s.timers + 1 }.setTimer s.timers t).setFiber f
      { s.fiber f with pc := .adding, timer := some s.timers }) := by
  have hnot : ∀ q, ¬ s.Waits f q := by
    rintro q (hq | hq) <;> rw [hpc] at hq <;> cases hq
  -- a fiber that is still arming has no pending timer
  have hmoved : Tidy fired (s.setFiber f { s.fiber f with pc := .adding, timer := some s.timers }) := by
    refine h.setFiber ?_ (fun p hp => absurd hp (hnot p))
      (fun _ => h.fired f (pc_ne_outside hpc (by simp))) (fun hx => by cases hx)
    rintro i u hu hpending rfl
    have htimed := (h.timers i u hu hpending).2
    rw [hpc] at htimed
    cases htimed
  refine ⟨?_, hmoved.slots, hmoved.queued, hmoved.nodup, hmoved.fired, hmoved.sockopt⟩
  intro i u hu hpending
  by_cases hi : i = s.timers
  · subst hi
    obtain rfl := Option.some.inj ((setTimer_self _ _ _).symm.trans hu)
    rw [hfiber, setFiber_self]
    exact ⟨rfl, rfl⟩
  · exact hmoved.timers i u ((setTimer_ne _ _ hi).symm.trans hu) hpending

/-- The fiber is woken, and no longer in the queue. -/
theorem Tidy.resume {fired : List InfoId} {s : Hook} (h : Tidy fired s) {f : FiberId}
    {p : FdContextPtr} (hpc : (s.fiber f).pc = .parked p) (hf : f ∈ s.queue) :
    Tidy fired ({ s with queue := s.queue.erase f }.goto f .woken) := by
  have hgone : f ∉ s.queue.erase f := fun hmem => h.nodup.not_mem_erase hmem
  refine ⟨?_, ?_, ?_, h.nodup.erase f, ?_, ?_⟩
  · intro i t ht hpending
    obtain ⟨htimer, htimed⟩ := h.timers i t ht hpending
    by_cases hgf : t.fiber = f
    · rw [Hook.goto, hgf, setFiber_self]
      exact ⟨hgf ▸ htimer, rfl⟩
    · rw [Hook.goto, setFiber_ne _ _ hgf]
      exact ⟨htimer, htimed⟩
  · -- who is in a slot is in no queue, so it is another fiber
    intro q e g hslot
    obtain ⟨hwaits, hevent, hmem⟩ := h.slots q e g hslot
    have hgf : g ≠ f := fun heq => hmem (heq ▸ hf)
    unfold Waits
    rw [Hook.goto, setFiber_ne _ _ hgf]
    exact ⟨hwaits, hevent, fun hg => hmem (List.mem_of_mem_erase hg)⟩
  · intro g hg
    have hgf : g ≠ f := fun heq => hgone (heq ▸ hg)
    obtain ⟨q, hq⟩ := h.queued g (List.mem_of_mem_erase hg)
    refine ⟨q, ?_⟩
    unfold Waits
    rw [Hook.goto, setFiber_ne _ _ hgf]
    exact hq
  · intro g hg
    by_cases hgf : g = f
    · subst hgf
      rw [Hook.goto, setFiber_self]
      exact h.fired g (pc_ne_outside hpc (by simp))
    · rw [Hook.goto, setFiber_ne _ _ hgf] at hg ⊢
      exact h.fired g hg
  · intro g hg
    by_cases hgf : g = f
    · subst hgf
      rw [Hook.goto, setFiber_self] at hg
      cases hg
    · rw [Hook.goto, setFiber_ne _ _ hgf] at hg ⊢
      exact h.sockopt g hg

/-- A fiber that yields goes on waiting. -/
theorem Tidy.park {fired : List InfoId} {s : Hook} (h : Tidy fired s) {f : FiberId}
    {p : FdContextPtr} (hpc : (s.fiber f).pc = .registered p) :
    Tidy fired (s.goto f (.parked p)) := by
  refine h.setFiber ?_ ?_ (fun _ => h.fired f (pc_ne_outside hpc (by simp)))
    (fun hx => by cases hx)
  · rintro i t ht hpending rfl
    exact ⟨(h.timers i t ht hpending).1, rfl⟩
  · -- the fiber was registered in the same context
    rintro q (hq | hq)
    · obtain rfl := IoPc.registered.inj (hpc.symm.trans hq)
      exact ⟨Or.inr rfl, rfl⟩
    · rw [hpc] at hq
      cases hq

/-- After `timer->cancel()` the fiber takes no timer anywhere. -/
theorem Tidy.cancelled {fired : List InfoId} {s : Hook} (h : Tidy fired s) {f : FiberId}
    {x : IoFiber} (hnot : ∀ p, ¬ s.Waits f p)
    (hfired : x.pc ≠ .outside → x.cancelled = 0 ∨ x.cancelled = ETIMEDOUT ∧ x.info ∈ fired)
    (hsockopt : x.pc = .sockopt → x.kind = .connect) :
    Tidy fired ((s.cancelTimer f).setFiber f x) := by
  refine (h.cancelTimer f).setFiber ?_ ?_ hfired hsockopt
  · intro i t ht hpending hfiber
    exact absurd hfiber (h.cancelTimer_clears f ht hpending)
  · intro p hp
    unfold Waits at hp
    rw [cancelTimer_fiber] at hp
    exact absurd hp (hnot p)

/-- A callback fires for the call its timer captured. -/
theorem recordFired_callback {s : Hook} {i : IoTimerId} {u : IoTimer} (hu : s.timer i = some u)
    (fired : List InfoId) : s.recordFired (.callback i) fired = u.info :: fired := by
  simp only [recordFired, hu, Option.map_some, Option.toList_some, List.singleton_append]

/-- A registered fiber waits and is in no queue, and a timer is pending only while
    its call is between `addConditionTimer` and `timer->cancel()`. -/
theorem tidy_next {self : SchedulerId} {fired : List InfoId} {s t : Hook} {l : HookLabel}
    (hinv : Inv s) (h : Tidy fired s) (hnext : s.next self l = some t) :
    Tidy (s.recordFired l fired) t := by
  cases next_cases hnext with
  | native f native hpc => exact h.ret (by rw [hpc]; rfl) _
  | badf f hpc => exact h.ret (by rw [hpc]; rfl) _
  | hooked f hpc => exact h.call hpc rfl rfl
  | again f result => exact h
  | wait f result hpc =>
    exact h.goto hpc (by simp) (by simp) (fun hx => by cases hx) (fun hx => by cases hx)
  | give f result r hpc => exact h.ret (by rw [hpc]; rfl) _
  | untimed f hpc =>
    refine h.setFiber ?_ ?_ (fun _ => h.fired f (pc_ne_outside hpc (by simp)))
      (fun hx => by cases hx)
    · -- no timer of a fiber that is still arming is pending
      rintro i u hu hpending rfl
      have htimed := (h.timers i u hu hpending).2
      rw [hpc] at htimed
      cases htimed
    · rintro q (hq | hq) <;> rw [hpc] at hq <;> cases hq
  | timed f ms hpc => exact h.newTimer hpc rfl
  | found f p hpc =>
    exact h.goto hpc (by simp) (by simp) (fun _ => rfl) (fun hx => by cases hx)
  | tooShort f hpc =>
    exact h.goto hpc (by simp) (by simp) (fun _ => rfl) (fun hx => by cases hx)
  | resized f m p hpc hresize =>
    obtain ⟨rfl, _⟩ := IOManager.resizeFor_ok hresize
    have hio := h.setIo (IOManager.fewer_contextResize hinv.core
      ((s.fiber f).fd.toNat * 3 / 2)) (contextResize_effects s.io _)
    exact hio.goto hpc (by simp) (by simp) (fun _ => rfl) (fun hx => by cases hx)
  | added f ok p m rt hpc hadd => exact h.addEventLocked hpc hadd
  | parked f p hpc => exact h.park hpc
  | resumed f p hpc hmem => exact h.resume hpc hmem
  | disarmed f errno hpc =>
    have hsame : (s.cancelTimer f).fiber f = s.fiber f := by rw [cancelTimer_fiber]
    refine h.cancelled ?_ ?_ (fun hx => by cases hx)
    · rintro q (hq | hq) <;> rw [hpc] at hq <;> cases hq
    · rw [hsame]
      exact fun _ => h.fired f (pc_ne_outside hpc (by simp))
  | unadded f errno hpc =>
    refine h.cancelled ?_ (fun hx => absurd rfl hx) (fun hx => by cases hx)
    rintro q (hq | hq) <;> rw [hpc] at hq <;> cases hq
  | passed f errno hpc hkind =>
    have hsame : (s.cancelTimer f).fiber f = s.fiber f := by rw [cancelTimer_fiber]
    refine h.cancelled ?_ ?_ ?_
    · rintro q (hq | hq) <;> rw [hpc] at hq <;> cases hq
    · rw [hsame]
      exact fun _ => h.fired f (pc_ne_outside hpc (by simp))
    · rw [hsame]
      exact fun _ => hkind
  | cancelled f hpc => exact h.ret (by rw [hpc]; rfl) _
  | retried f hpc =>
    exact h.goto hpc (by simp) (by simp) (fun hx => by cases hx) (fun hx => by cases hx)
  | asking f hpc hunset hkind =>
    exact h.goto hpc (by simp) (by simp) (fun hx => by cases hx) (fun _ => hkind)
  | unanswered f e error hpc => exact h.ret (by rw [hpc]; rfl) _
  | answered f n error hpc => exact h.ret (by rw [hpc]; rfl) _
  | expired i u => exact h.setPhase (by decide)
  | fired i u hu hphase halive =>
    rw [recordFired_callback hu]
    have hmore := h.mono (List.subset_cons_self u.info fired)
    have hset : Tidy (u.info :: fired) (s.setPhase i u .cancelling) :=
      hmore.setPhase (by decide)
    -- the fiber stays where it is, and its call is one of a timer that fired
    refine hset.setFiber ?_ ?_ (fun _ => Or.inr ⟨rfl, ?_⟩) (hmore.sockopt u.fiber)
    · rintro j v hv hpending hfiber
      have hold := hset.timers j v hv hpending
      rw [hfiber] at hold
      exact hold
    · intro p hp
      exact ⟨hp, rfl⟩
    · rw [(alive_iff.mp halive).2]
      exact List.mem_cons_self
  | late i u hu =>
    rw [recordFired_callback hu]
    exact (h.mono (List.subset_cons_self u.info fired)).setPhase (by decide)
  | cancelFound i u p => exact h.setPhase (by simp)
  | cancelTooShort i u => exact h.setPhase (by decide)
  | cancelLocked i ok u p m rt hu hphase hcancel =>
    exact (h.cancelEventLocked hinv hcancel).setPhase (by decide)
  | reported p events ok m hreport => exact h.handleReport hinv hreport

/-! ## Section 5: Steps and runs -/

/-- The kernel lets a cancelled event go only if it has the fd. -/
theorem cancelEventLocked_granted {m m' : IOManager} {p : FdContextPtr} {fd : Int} {e : Event}
    {ok : Bool} (h : m.cancelEventLocked p fd e ok = .ok (m', true)) :
    ok = true ∧ (m.interest fd).isSome = true := by
  simp only [IOManager.cancelEventLocked, bind, Except.bind, pure, Except.pure] at h
  split at h
  · cases h
  · split at h
    · cases h
    · rename_i k hctl
      refine (epoll_ctl_change_isSome m.interest ((m.heap p).curEvents &&& ~~~e.mask) fd
        ⟨EPOLLET ||| ((m.heap p).curEvents &&& ~~~e.mask), p⟩ ok).mp ?_
      rw [hctl]
      rfl

/-- Only an `FdCtx` that is closed makes `do_io` answer `EBADF`. -/
theorem do_io_entry_badf {t_hook_enable : Bool} {ctx : Option FdCtx}
    (h : do_io_entry t_hook_enable ctx = .badf) : ∃ c, ctx = some c ∧ c.isClose = true := by
  unfold do_io_entry at h
  split at h
  · cases h
  · split at h
    · cases h
    · rename_i c
      split at h
      · rename_i hclose
        exact ⟨c, rfl, hclose⟩
      · split at h <;> cases h

/-- What an attempt gives back is what the system call answered. -/
theorem do_io_attempt_give {result r : SysResult} (h : do_io_attempt result = .give r) :
    r = result := by
  unfold do_io_attempt at h
  split at h
  · exact (Attempt.give.inj h).symm
  · split at h
    · cases h
    · split at h
      · cases h
      · exact (Attempt.give.inj h).symm

/-- The step with which `do_io` returns. -/
theorem because_next {self : SchedulerId} {fired : List InfoId} {s t : Hook} {l : HookLabel}
    (h : Tidy fired s) (hnext : s.next self l = some t) {f : FiberId} (hl : l.fiber = some f)
    (hkind : s.callKind f l = .do_io) (hout : (t.fiber f).pc = .outside) :
    ∃ result, (t.fiber f).result = some result ∧ Because fired s f l result := by
  have hret : ∀ (u : Hook) (r : SysResult), ((u.ret f r).fiber f).result = some r := by
    intro u r
    rw [ret, setFiber_self]
  cases next_cases hnext with
  | native g native hpc hentry =>
    obtain rfl := Option.some.inj hl
    obtain rfl := hkind
    exact ⟨native, hret _ _, .native hentry⟩
  | badf g hpc hentry =>
    obtain rfl := Option.some.inj hl
    obtain rfl := hkind
    obtain ⟨c, rfl, hclose⟩ := do_io_entry_badf hentry
    exact ⟨.error EBADF, hret _ _, .closed hclose⟩
  | give g result r hpc hattempt =>
    obtain rfl := Option.some.inj hl
    rw [show (s.fiber g).kind = .do_io from hkind] at hattempt
    obtain rfl := do_io_attempt_give hattempt
    exact ⟨r, hret _ _, .attempted r⟩
  | unadded g errno hpc =>
    obtain rfl := Option.some.inj hl
    exact ⟨.error errno, hret _ _, .addEvent hpc⟩
  | cancelled g hpc hcancelled =>
    obtain rfl := Option.some.inj hl
    -- `cancelled` is set by a callback of this call, and to `ETIMEDOUT`
    obtain ⟨htimedout, hmem⟩ :=
      (h.fired g (pc_ne_outside hpc (by simp))).resolve_left hcancelled
    refine ⟨_, hret _ _, ?_⟩
    rw [htimedout]
    exact .timedOut hmem
  | unanswered g e error hpc =>
    obtain rfl := Option.some.inj hl
    -- `connect_with_timeout` only
    have hdo : (s.fiber g).kind = .do_io := hkind
    rw [h.sockopt g hpc] at hdo
    cases hdo
  | answered g n error hpc =>
    obtain rfl := Option.some.inj hl
    have hdo : (s.fiber g).kind = .do_io := hkind
    rw [h.sockopt g hpc] at hdo
    cases hdo
  | again g result hpc =>
    obtain rfl := Option.some.inj hl
    exact absurd hout (pc_ne_outside hpc (by simp))
  | hooked g =>
    obtain rfl := Option.some.inj hl
    rw [setFiber_self] at hout
    cases hout
  | added g ok p m rt =>
    obtain rfl := Option.some.inj hl
    rw [goto, setFiber_self] at hout
    dsimp only at hout
    split at hout <;> cases hout
  | expired | fired | late | cancelFound | cancelTooShort | cancelLocked | reported => cases hl
  | untimed g | timed g =>
    obtain rfl := Option.some.inj hl
    rw [setFiber_self] at hout
    cases hout
  | wait g | found g | tooShort g | resized g | parked g | resumed g | disarmed g | passed g
  | retried g | asking g =>
    -- the other steps lead on in the call
    obtain rfl := Option.some.inj hl
    rw [goto, setFiber_self] at hout
    cases hout

/-- What a callback does whose call is over. -/
theorem stale_next {self : SchedulerId} {s t : Hook} {l : HookLabel} (hinv : Inv s)
    (hharmless : s.Harmless l) (hnext : s.next self l = some t) {i : IoTimerId} {u : IoTimer}
    (hl : l.timer = some i) (hu : s.timer i = some u) (halive : s.alive u = false) :
    ∃ phase, t = s.setPhase i u phase := by
  -- the callback of a call that has returned finds nothing, so each of its steps moves the timer
  -- alone
  cases next_cases hnext with
  | fired j v hv hphase hfound =>
    obtain rfl := Option.some.inj hl
    obtain rfl := Option.some.inj (hu.symm.trans hv)
    rw [halive] at hfound
    cases hfound
  | late j v hv =>
    obtain rfl := Option.some.inj hl
    obtain rfl := Option.some.inj (hu.symm.trans hv)
    exact ⟨.finished, rfl⟩
  | cancelFound j v p hv =>
    obtain rfl := Option.some.inj hl
    obtain rfl := Option.some.inj (hu.symm.trans hv)
    exact ⟨.locking p, rfl⟩
  | cancelTooShort j v hv =>
    obtain rfl := Option.some.inj hl
    obtain rfl := Option.some.inj (hu.symm.trans hv)
    exact ⟨.finished, rfl⟩
  | cancelLocked j ok v p m rt hv hphase hcancel =>
    obtain rfl := Option.some.inj hl
    obtain rfl := Option.some.inj (hu.symm.trans hv)
    refine ⟨.finished, ?_⟩
    rcases IOManager.cancelEventLocked_cases (hinv.core.wf p) hcancel with
      ⟨rfl, _⟩ | ⟨rfl, htest, _⟩
    · rw [setIo_self]
    · -- the event is another call's, and the step would not be harmless
      obtain ⟨hok, hinterest⟩ := cancelEventLocked_granted hcancel
      rw [hharmless u p hu hphase halive hok hinterest] at htest
      cases htest
  | _ => cases hl

/-- A step leaves nothing behind exactly if no callback cancels an event of a later
    call. -/
theorem clean_iff {self : SchedulerId} {fired : List InfoId} {s t : Hook} {l : HookLabel}
    (hinv : Inv s) (h : Tidy fired s) (hnext : s.next self l = some t) :
    Clean fired s l t ↔ s.Harmless l := by
  constructor
  · intro hclean
    cases l with
    | cancelLock i ok =>
      intro u p hu hphase halive hok hinterest
      by_contra htest
      rw [Bool.not_eq_false] at htest
      obtain ⟨m, hm⟩ := IOManager.cancelEventLocked_registered (hinv.core.wf p) htest hok hinterest
      obtain ⟨phase, hsame⟩ := hclean.stale i u rfl hu halive
      simp only [next, hu, hphase, hm] at hnext
      -- the effect of the cancelled event is there, and cannot be
      have hio : m = s.io := congrArg Hook.io ((Option.some.inj hnext).trans hsame)
      rcases IOManager.cancelEventLocked_cases (hinv.core.wf p) hm with
        ⟨_, hrt⟩ | ⟨_, _, k, sched, task, _, _, hdisarm⟩
      · cases hrt
      · have hlength := congrArg (fun m => m.effects.length) (hio.symm.trans hdisarm)
        simp [IOManager.disarm, IOManager.setInterest, IOManager.setContext] at hlength
    | _ => trivial
  · intro hharmless
    have htidy := tidy_next hinv h hnext
    exact ⟨fun f hpc => htidy.leavesNothing hpc, fun f hl hkind hout =>
      because_next h hnext hl hkind hout, fun i u hl hu halive =>
      stale_next hinv hharmless hnext hl hu halive⟩

end Hook

/-- In every run each call leaves nothing behind, exactly if no callback that
    has outlived its call finds the event of the fd registered again. -/
theorem calls_leave_nothing_iff {self : SchedulerId} {x : Hook × List InfoId}
    {tr : List ((Hook × List InfoId) × HookLabel)}
    (hrun : Run (firing self) (Hook.start, []) tr x) :
    (∀ p ∈ tr, ∀ t, p.1.1.next self p.2 = some t → Hook.Clean p.1.2 p.1.1 p.2 t) ↔
      ∀ p ∈ tr, p.1.1.Harmless p.2 := by
  have hsteps := hrun.steps_invariant (G := fun _ _ => True)
    (I := fun x => x.1.Inv ∧ Hook.Tidy x.2 x.1)
    (fun x l y h _ hnext => by
      obtain ⟨hhook, hfired⟩ := System.withHistory_next hnext
      rw [hfired]
      exact ⟨Hook.inv_next h.1 hhook, Hook.tidy_next h.1 h.2 hhook⟩)
    (fun _ _ => trivial) ⟨Hook.start_inv, Hook.tidy_start⟩
  refine forall₂_congr fun p hp => ?_
  obtain ⟨⟨hinv, htidy⟩, y, hnext⟩ := hsteps p hp
  obtain ⟨hhook, -⟩ := System.withHistory_next hnext
  constructor
  · intro hclean
    exact (Hook.clean_iff hinv htidy hhook).mp (hclean y.1 hhook)
  · intro hharmless t ht
    exact (Hook.clean_iff hinv htidy ht).mpr hharmless

/-- The timer fires while the fiber is on its way back; the callback goes on
    when the call is over, and nothing is registered. -/
theorem calls_leave_nothing_late :
    ∃ x tr, Run (firing 1) (Hook.start, []) tr x ∧
      (x.1.fiber 9).result = some (.error ETIMEDOUT) ∧
      (x.1.timer 0).map IoTimer.phase = some .finished ∧
      ∀ p ∈ tr, ∀ t, p.1.1.next 1 p.2 = some t → Hook.Clean p.1.2 p.1.1 p.2 t := by
  -- the callback has looked up the context when the fiber returns, and locks afterwards
  let labels : List HookLabel :=
    [.call 9 .do_io 5 .READ (some 10) true (some ⟨false, true, false⟩) (.value 0),
     .attempt 9 (.error EAGAIN), .arm 9, .lookup 9, .lock 9 true, .park 9, .report 5 EPOLLIN true,
     .resume 9, .expire 0, .callback 0, .cancelTimer 9 0, .check 9, .cancelLookup 0]
  have hbefore : ((firing 1).exec (Hook.start, []) labels).map
      (fun x => ((x.1.timer 0).map IoTimer.phase, (x.1.io.heap 5).curEvents)) =
        some (some (.locking 5), 0) := by decide
  have hafter : (((firing 1).exec (Hook.start, []) labels).bind
      fun x => (firing 1).next x (.cancelLock 0 true)).map
      (fun y => ((y.1.fiber 9).result, (y.1.timer 0).map IoTimer.phase)) =
        some (some (.error ETIMEDOUT), some .finished) := by decide
  obtain ⟨x, hx, hfacts⟩ := Option.map_eq_some_iff.mp hbefore
  obtain ⟨htimer, hclear⟩ := Prod.mk.inj hfacts
  rw [hx, Option.bind_some] at hafter
  obtain ⟨y, hy, hend⟩ := Option.map_eq_some_iff.mp hafter
  obtain ⟨hresult, hphase⟩ := Prod.mk.inj hend
  have hrun := ((firing 1).exec_run labels hx).snoc hy
  refine ⟨y, _, hrun, hresult, hphase, (calls_leave_nothing_iff hrun).mpr ?_⟩
  intro p hp
  rcases List.mem_append.mp hp with hp | hp
  · -- no callback comes to the lock
    have hlabel := System.mem_of_mem_trace _ hp
    have hnot : ∀ l ∈ labels, ∀ i ok, l ≠ .cancelLock i ok := by simp [labels]
    cases hl : p.2 with
    | cancelLock i ok => exact absurd hl (hnot _ hlabel i ok)
    | _ => trivial
  · obtain rfl := List.mem_singleton.mp hp
    intro u q hu hlocking _ _ _
    rw [hu] at htimer
    obtain rfl := TimerPhase.locking.inj (hlocking.symm.trans (Option.some.inj htimer))
    rw [hclear]
    exact Events.test_zero u.event

/-- The same, when the fiber has begun to wait again: the callback of the first
    call cancels the event of the second. -/
theorem stale_callback_cancels :
    ∃ x u t, Reachable (firing 1) x ∧ x.1.timer 0 = some u ∧ x.1.alive u = false ∧
      x.1.Registered 9 5 ∧ x.1.next 1 (.cancelLock 0 true) = some t ∧ ¬ t.Registered 9 5 ∧
      ¬ Hook.Clean x.2 x.1 (.cancelLock 0 true) t := by
  -- the same fiber calls again and parks before the old callback takes the lock
  let labels : List HookLabel :=
    [.call 9 .do_io 5 .READ (some 10) true (some ⟨false, true, false⟩) (.value 0),
     .attempt 9 (.error EAGAIN), .arm 9, .lookup 9, .lock 9 true, .park 9, .report 5 EPOLLIN true,
     .resume 9, .expire 0, .callback 0, .cancelTimer 9 0, .check 9,
     .call 9 .do_io 5 .READ (some 10) true (some ⟨false, true, false⟩) (.value 0),
     .attempt 9 (.error EAGAIN), .arm 9, .lookup 9, .lock 9 true, .park 9, .cancelLookup 0]
  have hbefore : ((firing 1).exec (Hook.start, []) labels).map
      (fun x => ((x.1.timer 0).map x.1.alive, (x.1.io.heap 5).curEvents.test (x.1.fiber 9).event.mask,
        ((x.1.io.heap 5).slot (x.1.fiber 9).event).fiber)) =
        some (some false, true, some 9) := by decide
  have hafter : (((firing 1).exec (Hook.start, []) labels).bind
      fun x => x.1.next 1 (.cancelLock 0 true)).map
      (fun t => (t.io.heap 5).curEvents.test (t.fiber 9).event.mask) = some false := by decide
  obtain ⟨x, hx, hfacts⟩ := Option.map_eq_some_iff.mp hbefore
  obtain ⟨htimer, hslot⟩ := Prod.mk.inj hfacts
  obtain ⟨htest, hfiber⟩ := Prod.mk.inj hslot
  obtain ⟨u, hu, halive⟩ := Option.map_eq_some_iff.mp htimer
  rw [hx, Option.bind_some] at hafter
  obtain ⟨t, ht, hcleared⟩ := Option.map_eq_some_iff.mp hafter
  have hnot : ¬ t.Registered 9 5 := by
    rintro ⟨hstill, -⟩
    rw [hcleared] at hstill
    cases hstill
  refine ⟨x, u, t, ⟨(Hook.start, []), _, ⟨rfl, rfl⟩, (firing 1).exec_run labels hx⟩, hu, halive,
    ⟨htest, hfiber⟩, ht, hnot, ?_⟩
  intro hclean
  obtain ⟨phase, rfl⟩ := hclean.stale 0 u rfl hu halive
  exact hnot ⟨htest, hfiber⟩

end MNSER
