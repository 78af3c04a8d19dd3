import Mnser.Hook.Model

/-! # Timeouts that get lost

    A fiber that waits in a hooked call with its timeout already fired needs
    somebody who will wake it: an entry in the queue, or a callback that has
    set `cancelled` and is still to call `cancelEvent`.  The condition timer
    is armed before `addEvent`, so the callback can be over by the time the
    event is registered; `Keeps` names the steps where that happens. -/

namespace MNSER

open LTS

namespace Hook

/-! ## Section 1: Who wakes a fiber -/

/-- The fiber's event is registered in `p`. -/
def Registered (s : Hook) (f : FiberId) (p : FdContextPtr) : Prop :=
  (s.io.heap p).curEvents.test (s.fiber f).event.mask = true ∧
  ((s.io.heap p).slot (s.fiber f).event).fiber = some f

/-- `addEvent` has registered the fiber in `p` and it has not been resumed. -/
def Waits (s : Hook) (f : FiberId) (p : FdContextPtr) : Prop :=
  (s.fiber f).pc = .registered p ∨ (s.fiber f).pc = .parked p

/-- Timer `i` of the fiber's call has set `cancelled` and is still to cancel
    the event. -/
def Cancelling (s : Hook) (f : FiberId) (i : IoTimerId) : Prop :=
  ∃ t, s.timer i = some t ∧ t.fiber = f ∧ t.info = (s.fiber f).info ∧
    (t.phase = .cancelling ∨ ∃ p, t.phase = .locking p)

/-- Something is under way that will wake the fiber. -/
def Queued (s : Hook) (f : FiberId) : Prop :=
  f ∈ s.queue ∨ ∃ i, s.Cancelling f i

/-- The fiber's timeout is lost: it has fired, and the fiber hangs. -/
def Lost (s : Hook) (f : FiberId) : Prop :=
  ∃ p, (s.fiber f).pc = .parked p ∧ (s.fiber f).cancelled ≠ 0 ∧ s.Registered f p ∧
    ¬ s.Queued f

/-- No timeout is lost, nor will be once the fiber yields. -/
def Safe (s : Hook) : Prop :=
  ∀ f p, s.Waits f p → (s.fiber f).cancelled ≠ 0 → s.Registered f p → s.Queued f

/-- A parked fiber whose timeout has fired is queued, or a callback is on its way to
    queue it. -/
theorem Safe.not_lost {s : Hook} (h : Safe s) (f : FiberId) : ¬ s.Lost f := by
  rintro ⟨p, hpc, hcancelled, hregistered, hnot⟩
  exact hnot (h f p (Or.inr hpc) hcancelled hregistered)

/-- The callback of timer `i` is all that is left to wake the fiber. -/
def OnlyHope (s : Hook) (i : IoTimerId) (t : IoTimer) (q : FdContextPtr) : Prop :=
  (s.fiber t.fiber).info = t.info ∧ s.Waits t.fiber q ∧ s.Registered t.fiber q ∧
    t.fiber ∉ s.queue ∧ ∀ j, j ≠ i → ¬ s.Cancelling t.fiber j

/-- The condition on a step.  When `addEvent` registers a fiber whose timeout
    has fired, a wake-up is still under way; and a callback that is the only
    hope of a fiber finds the context the fiber is registered in and can
    take it out of the kernel's list. -/
def Keeps (s : Hook) : HookLabel → Prop
  | .lock f ok => (s.fiber f).cancelled ≠ 0 → ok = true → s.Queued f
  | .cancelLookup i =>
      ∀ t q, s.timer i = some t → s.OnlyHope i t q → t.fd < s.io.fdContexts.length
  | .cancelLock i ok =>
      ∀ t p q, s.timer i = some t → t.phase = .locking p → s.OnlyHope i t q →
        p = q ∧ ok = true ∧ (s.io.interest t.fd).isSome = true
  | _ => True

/-! ## Section 2: The invariant -/

structure Inv (s : Hook) : Prop where
  core     : s.io.Core
  pointers : s.io.Pointers
  locking  : ∀ f p, (s.fiber f).pc = .locking p → p < s.io.created
  fresh    : ∀ i, s.timers ≤ i → s.timer i = none
  infos    : ∀ i t, s.timer i = some t → t.info < s.infos
  captured : ∀ i t, s.timer i = some t → (s.fiber t.fiber).info = t.info →
               (s.fiber t.fiber).pc ≠ .outside →
               t.fd = (s.fiber t.fiber).fd ∧ t.event = (s.fiber t.fiber).event
  current  : ∀ f, (s.fiber f).pc ≠ .outside → (s.fiber f).info < s.infos

/-- In a well-formed context a slot with a fiber in it is registered. -/
theorem registered_iff {s : Hook} (h : Inv s) (f : FiberId) (p : FdContextPtr) :
    s.Registered f p ↔ ((s.io.heap p).slot (s.fiber f).event).fiber = some f := by
  refine ⟨fun hreg => hreg.2, fun hfiber => ⟨?_, hfiber⟩⟩
  by_contra htest
  rw [(h.core.wf p).clear _ (by simpa using htest)] at hfiber
  cases hfiber

@[simp] theorem setFiber_self (s : Hook) (f : FiberId) (x : IoFiber) :
    (s.setFiber f x).fiber f = x := by
  simp [setFiber]

@[simp] theorem setFiber_ne (s : Hook) {f g : FiberId} (x : IoFiber) (h : g ≠ f) :
    (s.setFiber f x).fiber g = s.fiber g := by
  simp [setFiber, h]

@[simp] theorem setTimer_self (s : Hook) (i : IoTimerId) (t : IoTimer) :
    (s.setTimer i t).timer i = some t := by
  simp [setTimer]

@[simp] theorem setTimer_ne (s : Hook) {i j : IoTimerId} (t : IoTimer) (h : j ≠ i) :
    (s.setTimer i t).timer j = s.timer j := by
  simp [setTimer, h]

/-- `start` has made the contexts, and no fiber is in a call. -/
theorem start_inv : Inv start where
  core     := IOManager.core_empty.contextResize 32
  pointers := (IOManager.pointers_contextResize (by simp [IOManager.Pointers]) 32).1
  locking  := by simp [start]
  fresh    := by simp [start]
  infos    := by simp [start]
  captured := by simp [start]
  current  := by simp [start]

/-- A fiber changes without leaving its call for another one. -/
theorem Inv.setFiber {s : Hook} (h : Inv s) {f : FiberId} {x : IoFiber}
    (hcall : x.pc ≠ .outside → (s.fiber f).pc ≠ .outside ∧ x.info = (s.fiber f).info ∧
      x.fd = (s.fiber f).fd ∧ x.event = (s.fiber f).event)
    (hlocking : ∀ p, x.pc = .locking p → p < s.io.created) : Inv (s.setFiber f x) where
  core     := h.core
  pointers := h.pointers
  locking  := by
    intro g p hg
    by_cases hgf : g = f
    · subst hgf; rw [setFiber_self] at hg; exact hlocking p hg
    · rw [setFiber_ne s x hgf] at hg; exact h.locking g p hg
  fresh    := h.fresh
  infos    := h.infos
  -- a call that goes on keeps its condition, its fd and its event
  captured := by
    intro i t ht hinfo hpc
    by_cases hgf : t.fiber = f
    · rw [hgf, setFiber_self] at hinfo hpc ⊢
      obtain ⟨hold, hsame, hfd, hevent⟩ := hcall hpc
      rw [hfd, hevent, ← hgf]
      rw [hsame, ← hgf] at hinfo
      exact h.captured i t ht hinfo (hgf ▸ hold)
    · rw [setFiber_ne s x hgf] at hinfo hpc ⊢
      exact h.captured i t ht hinfo hpc
  current  := by
    intro g hg
    by_cases hgf : g = f
    · subst hgf
      rw [setFiber_self] at hg ⊢
      obtain ⟨hold, hsame, _⟩ := hcall hg
      rw [hsame]
      exact h.current g hold
    · rw [setFiber_ne s x hgf] at hg ⊢
      exact h.current g hg

/-- A fiber moves on inside its call. -/
theorem Inv.goto {s : Hook} (h : Inv s) {f : FiberId} {pc : IoPc}
    (hold : (s.fiber f).pc ≠ .outside) (hlocking : ∀ p, pc = .locking p → p < s.io.created) :
    Inv (s.goto f pc) :=
  h.setFiber (fun _ => ⟨hold, rfl, rfl, rfl⟩) hlocking

/-- A call returns. -/
theorem Inv.ret {s : Hook} (h : Inv s) (f : FiberId) (result : SysResult) :
    Inv (s.ret f result) :=
  h.setFiber (fun hpc => absurd rfl hpc) (by simp)

/-- A timer is made, or moves on to another phase. -/
theorem Inv.setTimer {s : Hook} (h : Inv s) {i : IoTimerId} {t : IoTimer} (hi : i < s.timers)
    (hinfo : t.info < s.infos)
    (hcaptured : (s.fiber t.fiber).info = t.info → (s.fiber t.fiber).pc ≠ .outside →
      t.fd = (s.fiber t.fiber).fd ∧ t.event = (s.fiber t.fiber).event) :
    Inv (s.setTimer i t) where
  core     := h.core
  pointers := h.pointers
  locking  := h.locking
  fresh    := by
    intro j hj
    rw [setTimer_ne s t (Nat.ne_of_gt (Nat.lt_of_lt_of_le hi hj))]
    exact h.fresh j hj
  infos    := by
    intro j u hj
    -- only this timer is written
    by_cases hji : j = i
    · subst hji
      obtain rfl := Option.some.inj ((setTimer_self s j t).symm.trans hj)
      exact hinfo
    · rw [setTimer_ne s t hji] at hj; exact h.infos j u hj
  captured := by
    intro j u hj
    by_cases hji : j = i
    · subst hji
      obtain rfl := Option.some.inj ((setTimer_self s j t).symm.trans hj)
      exact hcaptured
    · rw [setTimer_ne s t hji] at hj; exact h.captured j u hj
  current  := h.current

/-- A timer that is there was made by a call. -/
theorem Inv.lt_timers {s : Hook} (h : Inv s) {i : IoTimerId} {t : IoTimer}
    (ht : s.timer i = some t) : i < s.timers := by
  by_contra hge
  rw [h.fresh i (Nat.le_of_not_lt hge)] at ht
  cases ht

/-- A timer moves on; what it captured stays. -/
theorem Inv.setPhase {s : Hook} (h : Inv s) {i : IoTimerId} {t : IoTimer}
    (ht : s.timer i = some t) (phase : TimerPhase) : Inv (s.setPhase i t phase) :=
  h.setTimer (t := { t with phase := phase }) (h.lt_timers ht) (h.infos i t ht)
    (h.captured i t ht)

/-- The manager does something, and frees no context. -/
theorem Inv.setIo {s : Hook} (h : Inv s) {m : IOManager} (hcore : m.Core)
    (hpointers : m.Pointers) (hcreated : s.io.created ≤ m.created) : Inv (s.setIo m) :=
  ⟨hcore, hpointers, fun f p hp => Nat.lt_of_lt_of_le (h.locking f p hp) hcreated, h.fresh,
    h.infos, h.captured, h.current⟩

/-- A locked section leaves the table of contexts as it is. -/
theorem Inv.setIo_sameTable {s : Hook} (h : Inv s) {m : IOManager} (hcore : m.Core)
    (htable : s.io.SameTable m) : Inv (s.setIo m) := by
  obtain ⟨hcreated, hpointers⟩ := htable
  refine h.setIo hcore ?_ (Nat.le_of_eq hcreated.symm)
  intro p hp
  rw [hpointers] at hp
  rw [hcreated]
  exact h.pointers p hp

/-- `timer->cancel()` moves at most one timer on. -/
theorem Inv.cancelTimer {s : Hook} (h : Inv s) (f : FiberId) : Inv (s.cancelTimer f) := by
  unfold Hook.cancelTimer
  split
  · exact h
  · split
    · exact h
    · rename_i t ht
      split
      · exact h.setPhase ht _
      · exact h

/-- The fibers do not notice `timer->cancel()`. -/
theorem cancelTimer_fiber (s : Hook) (f : FiberId) : (s.cancelTimer f).fiber = s.fiber := by
  unfold cancelTimer
  split
  · rfl
  · split
    · rfl
    · split <;> rfl

/-! ## Section 3: Steps that wake nobody's hope -/

/-- To lose nobody it is enough that whoever waits after the step waited
    before it and keeps what was under way. -/
theorem Safe.of_step {s s' : Hook} (h : Safe s)
    (hstep : ∀ f p, s'.Waits f p → (s'.fiber f).cancelled ≠ 0 → s'.Registered f p →
      s'.Queued f ∨ s.Waits f p ∧ (s.fiber f).cancelled ≠ 0 ∧ s.Registered f p ∧
        (s.Queued f → s'.Queued f)) : Safe s' := by
  intro f p hwaits hcancelled hregistered
  rcases hstep f p hwaits hcancelled hregistered with hqueued | ⟨hw, hc, hr, himp⟩
  · exact hqueued
  · exact himp (h f p hw hc hr)

/-- A callback is on its way for the other fibers as before. -/
theorem cancelling_setFiber {s : Hook} {f g : FiberId} {x : IoFiber} {i : IoTimerId}
    (hgf : g ≠ f) : (s.setFiber f x).Cancelling g i ↔ s.Cancelling g i := by
  unfold Cancelling
  rw [setFiber_ne s x hgf]
  rfl

/-- The other fibers are queued as before. -/
theorem queued_setFiber {s : Hook} {f g : FiberId} {x : IoFiber} (hgf : g ≠ f) :
    (s.setFiber f x).Queued g ↔ s.Queued g := by
  unfold Queued
  simp only [cancelling_setFiber hgf]
  rfl

/-- A fiber moves to a place where it does not wait. -/
theorem Safe.setFiber {s : Hook} (h : Safe s) {f : FiberId} {x : IoFiber}
    (hx : ∀ p, x.pc ≠ .registered p ∧ x.pc ≠ .parked p) : Safe (s.setFiber f x) := by
  apply h.of_step
  intro g p hwaits hcancelled hregistered
  by_cases hgf : g = f
  · subst hgf
    unfold Waits at hwaits
    rw [setFiber_self] at hwaits
    rcases hwaits with hpc | hpc
    · exact absurd hpc (hx p).1
    · exact absurd hpc (hx p).2
  · unfold Waits at hwaits
    unfold Registered at hregistered
    rw [setFiber_ne s x hgf] at hwaits hcancelled hregistered
    exact Or.inr ⟨hwaits, hcancelled, hregistered, (queued_setFiber hgf).mpr⟩

/-- A fiber moves on to a place where it does not wait. -/
theorem Safe.goto {s : Hook} (h : Safe s) {f : FiberId} {pc : IoPc}
    (hpc : ∀ p, pc ≠ .registered p ∧ pc ≠ .parked p) : Safe (s.goto f pc) :=
  h.setFiber hpc

/-- A fiber that returns does not wait. -/
theorem Safe.ret {s : Hook} (h : Safe s) (f : FiberId) (result : SysResult) :
    Safe (s.ret f result) :=
  h.setFiber (by simp)

/-- A timer that is not cancelling anything, or goes on doing so. -/
theorem Safe.setTimer {s : Hook} (h : Safe s) {i : IoTimerId} {t : IoTimer}
    (hkeep : ∀ f, s.Cancelling f i → (s.setTimer i t).Cancelling f i) :
    Safe (s.setTimer i t) := by
  apply h.of_step
  intro f p hwaits hcancelled hregistered
  refine Or.inr ⟨hwaits, hcancelled, hregistered, ?_⟩
  rintro (hqueue | ⟨j, hj⟩)
  · exact Or.inl hqueue
  · right
    by_cases hji : j = i
    · subst hji; exact ⟨j, hkeep f hj⟩
    · refine ⟨j, ?_⟩
      unfold Cancelling at hj ⊢
      rwa [setTimer_ne s t hji]

/-- A timer whose callback has not begun wakes nobody yet. -/
theorem Safe.setPhase_idle {s : Hook} (h : Safe s) {i : IoTimerId} {t : IoTimer}
    (ht : s.timer i = some t) (hidle : t.phase = .pending ∨ t.phase = .expired)
    (phase : TimerPhase) : Safe (s.setPhase i t phase) := by
  apply h.setTimer
  rintro f ⟨u, hu, _, _, hphase⟩
  obtain rfl := Option.some.inj (ht.symm.trans hu)
  rcases hidle with hidle | hidle <;> rcases hphase with hphase | ⟨p, hphase⟩ <;>
    rw [hidle] at hphase <;> cases hphase

/-- `timer->cancel()` takes out a timer whose callback has not begun. -/
theorem Safe.cancelTimer {s : Hook} (h : Safe s) (f : FiberId) : Safe (s.cancelTimer f) := by
  unfold Hook.cancelTimer
  split
  · exact h
  · split
    · exact h
    · rename_i t ht
      split
      · rename_i hpending
        exact h.setPhase_idle ht (Or.inl hpending) _
      · exact h

/-- Locked sections only add to the queue. -/
theorem mem_setIo_queue {s : Hook} {f : FiberId} (m : IOManager) (hf : f ∈ s.queue) :
    f ∈ (s.setIo m).queue :=
  List.mem_append_left _ hf

/-- An operation that registers nobody. -/
theorem Safe.setIo {s : Hook} (hinv : Inv s) (h : Safe s) {m : IOManager}
    (hfewer : s.io.Fewer m) : Safe (s.setIo m) := by
  apply h.of_step
  intro f p hwaits hcancelled hregistered
  refine Or.inr ⟨hwaits, hcancelled, (registered_iff hinv f p).mpr ?_, ?_⟩
  · have hfiber : ((m.heap p).slot (s.fiber f).event).fiber = some f := hregistered.2
    rcases hfewer p (s.fiber f).event with hempty | hsame
    · rw [hempty] at hfiber; cases hfiber
    · rwa [← hsame]
  · rintro (hqueue | hcancelling)
    · exact Or.inl (mem_setIo_queue m hqueue)
    · exact Or.inr hcancelling

/-! ## Section 4: What one step keeps -/

/-- The context that is found is in the table. -/
theorem mem_of_lookup {m : IOManager} {fd : Int} {p : FdContextPtr}
    (hlookup : m.lookup fd = .ok (some p)) : p ∈ m.fdContexts := by
  unfold IOManager.lookup at hlookup
  split at hlookup
  · cases hlookup
  · obtain ⟨q, hat, hq⟩ := map_eq_ok hlookup
    exact Option.some.inj hq ▸ IOManager.mem_of_fdContextAt hat

theorem pc_ne_outside {x : IoFiber} {pc : IoPc} (h : x.pc = pc) (hpc : pc ≠ .outside) :
    x.pc ≠ .outside := by
  rw [h]
  exact hpc

theorem cancelTimer_ne_outside {s : Hook} {f : FiberId} {pc : IoPc} (h : (s.fiber f).pc = pc)
    (hpc : pc ≠ .outside) : ((s.cancelTimer f).fiber f).pc ≠ .outside := by
  rw [cancelTimer_fiber]
  exact pc_ne_outside h hpc

/-- A new call gets a `timer_info` that no timer has captured. -/
theorem inv_call {s : Hook} (h : Inv s) {f : FiberId} {x : IoFiber}
    (hinfo : x.info = s.infos) (hpc : x.pc = .attempting) :
    Inv ({ s with infos := s.infos + 1 }.setFiber f x) := by
  refine ⟨h.core, h.pointers, ?_, h.fresh, ?_, ?_, ?_⟩
  · intro g p hg
    by_cases hgf : g = f
    · subst hgf; rw [setFiber_self, hpc] at hg; cases hg
    · rw [setFiber_ne _ x hgf] at hg; exact h.locking g p hg
  · exact fun i t ht => Nat.lt_succ_of_lt (h.infos i t ht)
  · -- who captured a call keeps its fd and event
    intro i t ht hsame hout
    by_cases hgf : t.fiber = f
    · -- no timer knows the new `timer_info`
      rw [hgf, setFiber_self, hinfo] at hsame
      exact absurd hsame.symm (Nat.ne_of_lt (h.infos i t ht))
    · rw [setFiber_ne _ x hgf] at hsame hout ⊢
      exact h.captured i t ht hsame hout
  · intro g hg
    by_cases hgf : g = f
    · subst hgf; rw [setFiber_self, hinfo]; exact Nat.lt_succ_self _
    · rw [setFiber_ne _ x hgf] at hg ⊢
      exact Nat.lt_succ_of_lt (h.current g hg)

/-- The invariant needs no condition: it is what the call keeps of its fd, of its
    event and of its `timer_info` while its timer is on the way. -/
theorem inv_next {self : SchedulerId} {s t : Hook} {l : HookLabel} (h : Inv s)
    (hnext : next self s l = some t) : Inv t := by
  cases next_cases hnext with
  | native f native => exact h.ret f native
  | badf f => exact h.ret f _
  | hooked f => exact inv_call h rfl rfl
  | again f result => exact h
  | wait f result hpc => exact h.goto (pc_ne_outside hpc (by simp)) (by simp)
  | give f result r => exact h.ret f r
  | untimed f hpc =>
    exact h.setFiber (fun _ => ⟨pc_ne_outside hpc (by simp), rfl, rfl, rfl⟩) (by simp)
  | timed f ms hpc =>
    have hout := pc_ne_outside hpc (by simp)
    have hgrown : Inv { s with timers := s.timers + 1 } :=
      ⟨h.core, h.pointers, h.locking, fun i hi => h.fresh i (Nat.le_of_succ_le hi), h.infos,
        h.captured, h.current⟩
    -- the new timer captures the call its fiber is in
    have hset := hgrown.setTimer (i := s.timers)
      (t := ⟨f, (s.fiber f).info, (s.fiber f).fd, (s.fiber f).event, ms, .pending⟩)
      (Nat.lt_succ_self _) (h.current f hout) (fun _ _ => ⟨rfl, rfl⟩)
    exact hset.setFiber (fun _ => ⟨hout, rfl, rfl, rfl⟩) (by simp)
  | found f p hpc hlookup =>
    refine h.goto (pc_ne_outside hpc (by simp)) fun q hq => ?_
    obtain rfl := IoPc.locking.inj hq
    exact h.pointers _ (mem_of_lookup hlookup)
  | tooShort f hpc => exact h.goto (pc_ne_outside hpc (by simp)) (by simp)
  | resized f m p hpc hresize =>
    obtain ⟨rfl, hp⟩ := IOManager.resizeFor_ok hresize
    obtain ⟨hpointers, hcreated⟩ :=
      IOManager.pointers_contextResize h.pointers ((s.fiber f).fd.toNat * 3 / 2)
    have hio := h.setIo (h.core.contextResize _) hpointers hcreated
    refine hio.goto (pc_ne_outside hpc (by simp)) fun q hq => ?_
    obtain rfl := IoPc.locking.inj hq
    exact hpointers _ (List.mem_of_getElem? hp)
  | added f ok p m rt hpc hadd =>
    have hcore := h.core.addEventLocked (h.locking f p hpc) rfl hadd
    have htable : s.io.SameTable m := by
      rcases IOManager.addEventLocked_cases hadd with ⟨rfl, _⟩ | ⟨_, _, _, _, k, _, rfl⟩ <;>
        exact ⟨rfl, rfl⟩
    refine (h.setIo_sameTable hcore htable).goto (pc_ne_outside hpc (by simp)) fun q hq => ?_
    split at hq <;> cases hq
  | parked f p hpc => exact h.goto (pc_ne_outside hpc (by simp)) (by simp)
  | resumed f p hpc =>
    have hqueue : Inv { s with queue := s.queue.erase f } :=
      ⟨h.core, h.pointers, h.locking, h.fresh, h.infos, h.captured, h.current⟩
    exact hqueue.goto (pc_ne_outside hpc (by simp)) (by simp)
  | disarmed f errno hpc =>
    exact (h.cancelTimer f).goto (cancelTimer_ne_outside hpc (by simp)) (by simp)
  | unadded f errno => exact (h.cancelTimer f).ret f _
  | passed f errno hpc =>
    exact (h.cancelTimer f).goto (cancelTimer_ne_outside hpc (by simp)) (by simp)
  | cancelled f => exact h.ret f _
  | retried f hpc => exact h.goto (pc_ne_outside hpc (by simp)) (by simp)
  | asking f hpc => exact h.goto (pc_ne_outside hpc (by simp)) (by simp)
  | unanswered f e error => exact h.ret f _
  | answered f n error => exact h.ret f _
  | expired i u hu => exact h.setPhase hu _
  | fired i u hu hphase halive =>
    -- the callback writes `cancelled` only, so the call is the one it was
    exact (h.setPhase hu _).setFiber (fun _ => ⟨(alive_iff.mp halive).1, rfl, rfl, rfl⟩)
      (fun p hp => h.locking u.fiber p hp)
  | late i u hu => exact h.setPhase hu _
  | cancelFound i u p hu => exact h.setPhase hu _
  | cancelTooShort i u hu => exact h.setPhase hu _
  | cancelLocked i ok u p m rt hu hphase hcancel =>
    have hlocked : s.io.locked p ⟨some 0, 0⟩ ok (.cancelEvent u.fd u.event) = .ok m := by
      simp only [IOManager.locked, hcancel]
      rfl
    exact (h.setIo_sameTable (h.core.cancelEventLocked hcancel)
      (IOManager.locked_table h.core hlocked)).setPhase hu _
  | reported p events ok m hreport =>
    exact h.setIo_sameTable (h.core.handleReport hreport)
      (IOManager.handleReport_table h.core hreport)

/-! ## Section 5: What one step that meets the condition keeps -/

/-- A fiber changes its place but not its call. -/
theorem queued_setFiber_same {s : Hook} {f g : FiberId} {x : IoFiber}
    (hinfo : x.info = (s.fiber f).info) : (s.setFiber f x).Queued g ↔ s.Queued g := by
  by_cases hgf : g = f
  · subst hgf
    unfold Queued Cancelling
    rw [setFiber_self, hinfo]
    rfl
  · exact queued_setFiber hgf

theorem queued_goto {s : Hook} {f g : FiberId} {pc : IoPc} :
    (s.goto f pc).Queued g ↔ s.Queued g :=
  queued_setFiber_same rfl

/-- A fiber that yields has been waiting since `addEvent`. -/
theorem safe_park {s : Hook} (h : Safe s) {f : FiberId} {p : FdContextPtr}
    (hpc : (s.fiber f).pc = .registered p) : Safe (s.goto f (.parked p)) := by
  apply h.of_step
  intro g q hwaits hcancelled hregistered
  right
  by_cases hgf : g = f
  · subst hgf
    unfold Waits at hwaits
    unfold Registered at hregistered
    rw [Hook.goto, setFiber_self] at hwaits hcancelled hregistered
    obtain rfl : p = q := by
      rcases hwaits with hq | hq
      · cases hq
      · exact IoPc.parked.inj hq
    exact ⟨Or.inl hpc, hcancelled, hregistered, queued_goto.mpr⟩
  · unfold Waits at hwaits
    unfold Registered at hregistered
    rw [Hook.goto, setFiber_ne _ _ hgf] at hwaits hcancelled hregistered
    exact ⟨hwaits, hcancelled, hregistered, queued_goto.mpr⟩

/-- Who is taken from the queue does not wait any more. -/
theorem safe_resume {s : Hook} (h : Safe s) (f : FiberId) :
    Safe ({ s with queue := s.queue.erase f }.goto f .woken) := by
  apply h.of_step
  intro g q hwaits hcancelled hregistered
  right
  by_cases hgf : g = f
  · subst hgf
    unfold Waits at hwaits
    rw [Hook.goto, setFiber_self] at hwaits
    rcases hwaits with hq | hq <;> cases hq
  · unfold Waits at hwaits
    unfold Registered at hregistered
    rw [Hook.goto, setFiber_ne _ _ hgf] at hwaits hcancelled hregistered
    refine ⟨hwaits, hcancelled, hregistered, fun hqueued => queued_goto.mpr ?_⟩
    rcases hqueued with hqueue | hcancelling
    · exact Or.inl ((List.mem_erase_of_ne hgf).mpr hqueue)
    · exact Or.inr hcancelling

/-- The callback sets `cancelled` and goes on to cancel the event. -/
theorem safe_callback {s : Hook} (h : Safe s) {i : IoTimerId} {t : IoTimer}
    (ht : s.timer i = some t) (hexpired : t.phase = .expired)
    (hinfo : (s.fiber t.fiber).info = t.info) (c : Int) :
    Safe ((s.setPhase i t .cancelling).setFiber t.fiber
      { s.fiber t.fiber with cancelled := c }) := by
  apply (h.setPhase_idle ht (Or.inr hexpired) .cancelling).of_step
  intro g q hwaits hcancelled hregistered
  by_cases hgf : g = t.fiber
  · -- from here on this callback is what wakes the fiber
    left
    subst hgf
    refine Or.inr ⟨i, { t with phase := .cancelling }, ?_, rfl, ?_, Or.inl rfl⟩
    · exact setTimer_self s i _
    · rw [setFiber_self]; exact hinfo.symm
  · -- the others wait as before
    right
    unfold Waits at hwaits
    unfold Registered at hregistered
    rw [setFiber_ne _ _ hgf] at hwaits hcancelled hregistered
    exact ⟨hwaits, hcancelled, hregistered, (queued_setFiber hgf).mpr⟩

/-- A callback that no fiber depends on comes to its end. -/
theorem safe_finish {s : Hook} (h : Safe s) {i : IoTimerId} {t : IoTimer}
    (ht : s.timer i = some t) (hnone : ∀ q, ¬ s.OnlyHope i t q) :
    Safe (s.setPhase i t .finished) := by
  intro f p hwaits hcancelled hregistered
  rcases h f p hwaits hcancelled hregistered with hqueue | ⟨j, hj⟩
  · exact Or.inl hqueue
  · -- another callback is on its way for the fiber, or it was the last one
    by_cases hother : ∃ k, k ≠ i ∧ s.Cancelling f k
    · obtain ⟨k, hki, hk⟩ := hother
      refine Or.inr ⟨k, ?_⟩
      unfold Cancelling at hk ⊢
      rwa [Hook.setPhase, setTimer_ne s _ hki]
    · by_cases hqueue : f ∈ s.queue
      · exact Or.inl hqueue
      · exfalso
        have hji : j = i := by
          by_contra hji
          exact hother ⟨j, hji, hj⟩
        obtain ⟨u, hu, rfl, hinfo, _⟩ := hj
        rw [hji] at hu
        obtain rfl := Option.some.inj (ht.symm.trans hu)
        refine hnone p ⟨hinfo.symm, hwaits, hregistered, hqueue, fun k hki hk => ?_⟩
        exact hother ⟨k, hki, hk⟩

/-- `addEvent` puts no other fiber into a slot. -/
theorem slot_arm_fiber {m : IOManager} {p q : FdContextPtr} {e e' : Event}
    {scheduler : Option SchedulerId} {f g : FiberId} (hgf : g ≠ f)
    (h : (((m.arm p e scheduler (.fiber f)).heap q).slot e').fiber = some g) :
    ((m.heap q).slot e').fiber = some g := by
  by_cases hq : q = p
  · subst hq
    rw [IOManager.arm, IOManager.setContext_self] at h
    by_cases he' : e' = .NONE
    · subst he'; cases h
    · rw [FdContext.slot_arm _ _ _ _ he'] at h
      split at h
      · exact absurd (Option.some.inj h).symm hgf
      · exact h
  · rwa [IOManager.arm, IOManager.setContext_ne _ _ hq] at h

/-- `addEvent`: the fiber waits from now on, and if its timeout has fired the
    condition says that a wake-up is under way. -/
theorem safe_lock {self : SchedulerId} {s : Hook} (hinv : Inv s) (h : Safe s) {f : FiberId}
    {ok : Bool} (hkeeps : s.Keeps (.lock f ok)) {p : FdContextPtr} {m : IOManager} {rt : Int}
    (hcall : s.io.addEventLocked p (s.fiber f).fd (s.fiber f).event none ⟨some self, f⟩ ok =
      .ok (m, rt)) :
    Safe ((s.setIo m).goto f (if rt = 0 then .registered p else .failed)) := by
  -- refused, or registered
  rcases IOManager.addEventLocked_cases hcall with ⟨rfl, rfl⟩ | ⟨rfl, he, _, _, k, _, rfl⟩
  · exact (h.setIo hinv (IOManager.fewer_refl _)).goto (by simp)
  · have hok := IOManager.addEventLocked_ok hcall
    apply h.of_step
    intro g q hwaits hcancelled hregistered
    have hkeep : s.Queued g →
        ((s.setIo ((s.io.setInterest k).arm p (s.fiber f).event (some self) (.fiber f))).goto f
          (.registered p)).Queued g := by
      intro hqueued
      refine queued_goto.mpr ?_
      rcases hqueued with hqueue | hcancelling
      · exact Or.inl (mem_setIo_queue _ hqueue)
      · exact Or.inr hcancelling
    by_cases hgf : g = f
    · subst hgf
      left
      rw [Hook.goto, setFiber_self] at hcancelled
      exact hkeep (hkeeps hcancelled hok)
    · right
      unfold Waits at hwaits
      unfold Registered at hregistered
      rw [Hook.goto, setFiber_ne _ _ hgf] at hwaits hcancelled hregistered
      refine ⟨hwaits, hcancelled, (registered_iff hinv g q).mpr ?_, hkeep⟩
      exact slot_arm_fiber (m := s.io.setInterest k) hgf hregistered.2

/-- The callback cancels the event: a fiber that has no other hope is found. -/
theorem safe_cancelLock {s : Hook} (hinv : Inv s) (h : Safe s) {i : IoTimerId} {t : IoTimer}
    {ok rt : Bool} (hkeeps : s.Keeps (.cancelLock i ok)) (ht : s.timer i = some t)
    {p : FdContextPtr} (hphase : t.phase = .locking p) {m : IOManager}
    (hcall : s.io.cancelEventLocked p t.fd t.event ok = .ok (m, rt)) :
    Safe ((s.setIo m).setPhase i t .finished) := by
  have hfewer := IOManager.fewer_cancelEventLocked hinv.core hcall
  apply safe_finish (h.setIo hinv hfewer) ht
  rintro q ⟨hinfo, hwaits, hregistered, hqueue, hothers⟩
  -- what is registered now was registered before, so the event was found
  have hfiber : ((m.heap q).slot (s.fiber t.fiber).event).fiber = some t.fiber := hregistered.2
  have hold : s.Registered t.fiber q := by
    rw [registered_iff hinv]
    rcases hfewer q (s.fiber t.fiber).event with hempty | hsame
    · rw [hempty] at hfiber; cases hfiber
    · rwa [← hsame]
  -- the timer is one of the call the fiber is in, so its event is the fiber's
  have hout : (s.fiber t.fiber).pc ≠ .outside := by
    rcases hwaits with hpc | hpc <;> exact pc_ne_outside hpc (by simp)
  obtain ⟨_, hevent⟩ := hinv.captured i t ht hinfo hout
  obtain ⟨rfl, hok, hinterest⟩ := hkeeps t p q ht hphase
    ⟨hinfo, hwaits, hold, fun hmem => hqueue (mem_setIo_queue m hmem), hothers⟩
  obtain ⟨m', hm'⟩ := IOManager.cancelEventLocked_registered (hinv.core.wf p)
    (hevent ▸ hold.1) hok hinterest
  obtain ⟨rfl, rfl⟩ := Prod.mk.inj (Except.ok.inj (hm'.symm.trans hcall))
  -- cancelled: nobody is registered in the slot after it
  rcases IOManager.cancelEventLocked_cases (hinv.core.wf p) hcall with
    ⟨_, hrt⟩ | ⟨_, htest, k, sched, task, _, _, rfl⟩
  · cases hrt
  · rw [IOManager.disarm, IOManager.setContext_self, ← hevent,
      FdContext.slot_disarm _ _ _ (FdContext.test_ne_none htest), if_pos rfl] at hfiber
    cases hfiber

/-- Only three steps can lose a fiber whose timeout has fired, and `Keeps` is asked
    of these alone; all others leave it queued or its callback on the way. -/
theorem safe_next {self : SchedulerId} {s t : Hook} {l : HookLabel} (hinv : Inv s)
    (h : Safe s) (hkeeps : s.Keeps l) (hnext : next self s l = some t) : Safe t := by
  cases next_cases hnext with
  | native f native => exact h.ret f native
  | badf f => exact h.ret f _
  | hooked f => exact Safe.setFiber (s := { s with infos := s.infos + 1 }) h (by simp)
  | again f result => exact h
  | wait f result => exact h.goto (by simp)
  | give f result r => exact h.ret f r
  | untimed f => exact h.setFiber (by simp)
  -- the timer is new: no callback of it is on its way
  | timed f ms =>
    have hset : Safe ({ s with timers := s.timers + 1 }.setTimer s.timers
        ⟨f, (s.fiber f).info, (s.fiber f).fd, (s.fiber f).event, ms, .pending⟩) := by
      apply Safe.setTimer (s := { s with timers := s.timers + 1 }) h
      rintro g ⟨u, hu, _⟩
      exact absurd ((hinv.fresh s.timers (Nat.le_refl _)).symm.trans hu) (by simp)
    exact hset.setFiber (by simp)
  | found f p => exact h.goto (by simp)
  | tooShort f => exact h.goto (by simp)
  | resized f m p hpc hresize =>
    obtain ⟨rfl, _⟩ := IOManager.resizeFor_ok hresize
    exact (h.setIo hinv (IOManager.fewer_contextResize hinv.core _)).goto (by simp)
  | added f ok p m rt hpc hadd => exact safe_lock hinv h hkeeps hadd
  | parked f p hpc => exact safe_park h hpc
  | resumed f p => exact safe_resume h f
  | disarmed f errno => exact (h.cancelTimer f).goto (by simp)
  | unadded f errno => exact (h.cancelTimer f).ret f _
  | passed f errno => exact (h.cancelTimer f).goto (by simp)
  | cancelled f => exact h.ret f _
  | retried f => exact h.goto (by simp)
  | asking f => exact h.goto (by simp)
  | unanswered f e error => exact h.ret f _
  | answered f n error => exact h.ret f _
  | expired i u hu hpending => exact h.setPhase_idle hu (Or.inl hpending) _
  | fired i u hu hexpired halive =>
    exact safe_callback h hu hexpired (alive_iff.mp halive).2 ETIMEDOUT
  | late i u hu hexpired => exact h.setPhase_idle hu (Or.inr hexpired) _
  | cancelFound i u p hu =>
    -- the callback goes on cancelling, for the same fiber and the same call
    apply h.setTimer
    rintro f ⟨v, hv, hfiber, hinfo, _⟩
    obtain rfl := Option.some.inj (hu.symm.trans hv)
    exact ⟨_, setTimer_self _ _ _, hfiber, hinfo, Or.inr ⟨p, rfl⟩⟩
  | cancelTooShort i u hu hphase hlookup =>
    -- the condition says that the table has the fd of a fiber that hopes for this callback
    refine safe_finish h hu fun q hhope => ?_
    have hlt := hkeeps u q hu hhope
    unfold IOManager.lookup at hlookup
    rw [if_neg (by omega)] at hlookup
    obtain ⟨_, _, hsome⟩ := map_eq_ok hlookup
    cases hsome
  | cancelLocked i ok u p m rt hu hphase hcancel =>
    exact safe_cancelLock hinv h hkeeps hu hphase hcancel
  | reported p events ok m hreport =>
    exact h.setIo hinv (IOManager.fewer_handleReport hinv.core hreport)

end Hook

/-! ## Section 6: Runs -/

/-- In every run whose steps meet the condition no timeout is lost. -/
theorem no_timeout_lost {self : SchedulerId} {s : Hook} {tr : List (Hook × HookLabel)}
    (hrun : Run (hooks self) Hook.start tr s) (hkeeps : ∀ step ∈ tr, step.1.Keeps step.2) :
    ∀ f, ¬ s.Lost f := by
  have hboth : s.Inv ∧ s.Safe := by
    refine hrun.guarded_invariant (G := Hook.Keeps) (I := fun s => s.Inv ∧ s.Safe) ?_ hkeeps
      ⟨Hook.start_inv, fun f p hwaits => ?_⟩
    · rintro s l t ⟨hinv, hsafe⟩ hkeep hnext
      exact ⟨Hook.inv_next hinv hnext, Hook.safe_next hinv hsafe hkeep hnext⟩
    · rcases hwaits with hpc | hpc <;> cases hpc
  exact hboth.2.not_lost

/-- The timer fires between `addConditionTimer` and `addEvent`. -/
theorem timeout_lost_before_addEvent :
    ∃ s f, Reachable (hooks 1) s ∧ s.Lost f := by
  have hrun := (hooks 1).run_of_exec (s := Hook.start)
    [.call 9 .do_io 5 .READ (some 10) true (some ⟨false, true, false⟩) (.value 0),
     .attempt 9 (.error EAGAIN), .arm 9, .expire 0, .callback 0, .cancelLookup 0,
     .cancelLock 0 true, .lookup 9, .lock 9 true, .park 9] (by decide)
  have hinv := hrun.invariant (I := Hook.Inv) (fun _ _ _ h hnext => Hook.inv_next h hnext)
    Hook.start_inv
  refine ⟨_, 9, ⟨_, _, rfl, hrun⟩, 5, by decide, by decide, ⟨by decide, by decide⟩, ?_⟩
  rintro (hqueue | ⟨i, t, ht, _, _, hphase⟩)
  · revert hqueue
    decide
  · -- there is one timer, and its callback is over
    have hlt : i < 1 := hinv.lt_timers ht
    obtain rfl : i = 0 := Nat.lt_one_iff.mp hlt
    obtain rfl := Option.some.inj ht
    rcases hphase with hphase | ⟨p, hphase⟩ <;> cases hphase

/-- The timer fires once the fiber is parked, and the fiber is woken. -/
theorem no_timeout_lost_parked :
    ∃ s tr, Run (hooks 1) Hook.start tr s ∧ s.queue = [9] ∧ ∀ f, ¬ s.Lost f := by
  have hrun := (hooks 1).run_of_exec (s := Hook.start)
    [.call 9 .do_io 5 .READ (some 10) true (some ⟨false, true, false⟩) (.value 0),
     .attempt 9 (.error EAGAIN), .arm 9, .lookup 9, .lock 9 true, .park 9, .expire 0,
     .callback 0, .cancelLookup 0, .cancelLock 0 true] (by decide)
  refine ⟨_, _, hrun, by decide, no_timeout_lost hrun ?_⟩
  refine List.forall_mem_cons.mpr ⟨trivial, List.forall_mem_cons.mpr ⟨trivial,
    List.forall_mem_cons.mpr ⟨trivial, List.forall_mem_cons.mpr ⟨trivial,
    List.forall_mem_cons.mpr ⟨fun hcancelled => absurd rfl hcancelled,
    List.forall_mem_cons.mpr ⟨trivial, List.forall_mem_cons.mpr ⟨trivial,
    List.forall_mem_cons.mpr ⟨trivial, List.forall_mem_cons.mpr ⟨?_,
    List.forall_mem_cons.mpr ⟨?_, fun _ h => nomatch h⟩⟩⟩⟩⟩⟩⟩⟩⟩⟩
  · intro t q ht _
    obtain rfl := Option.some.inj ht
    decide
  · intro t p q ht hphase hhope
    obtain rfl := Option.some.inj ht
    obtain rfl := TimerPhase.locking.inj hphase
    rcases hhope.2.1 with hpc | hpc
    · cases hpc
    · exact ⟨IoPc.parked.inj hpc, rfl, by decide⟩

end MNSER
