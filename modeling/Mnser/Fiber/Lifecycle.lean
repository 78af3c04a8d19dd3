import Mathlib.Data.Finset.Card
import Mathlib.Tactic.SplitIfs
import Mnser.Fiber.Model

/-! # The life of a fiber

    At any time a fiber is new, running, parked in a `YieldTo…` or over; the
    thread's fiber `T` and the scheduler's fiber `M`, which may be the same,
    wait in the call that started what runs.  A pointer counts for each of
    the frames that keep one, so a fiber that was started cannot be freed
    before it is over, and an object that goes was never on the processor. -/

namespace MNSER

open LTS Sched MNSER.Fiber

namespace FiberThread

/-! ## Section 1: What an object says -/

/-- What is known of the object at `p`. -/
inductive Described (T M : Ptr) (cpu : Cpu) (owners : Nat) (p : Ptr) : Object → Prop where
  | thread (ctx : Option Context) : p = T → (cpu.stack = T → cpu.main = none) →
      (cpu.stack ≠ T →
        ctx = some ⟨T, .switched (if M = T then .swapIn cpu.stack else .call M) none⟩) →
      Described T M cpu owners p ⟨0, .EXEC, false, false, ctx, owners + 1⟩
  | running (id : Nat) (cb : Bool) (ctx : Option Context) : p ≠ T →
      cpu = ⟨p, some ⟨p, decide (p = M)⟩⟩ →
      Described T M cpu owners p ⟨id, .EXEC, true, cb, ctx, owners + 2⟩
  /-- the scheduler's own fiber, while it lets another one run -/
  | waiting (id : Nat) (cb : Bool) : p ≠ T → p = M → cpu.stack ≠ T → cpu.stack ≠ M →
      Described T M cpu owners p
        ⟨id, .EXEC, true, cb, some ⟨p, .switched (.swapIn cpu.stack) (some ⟨p, true⟩)⟩, owners + 2⟩
  | parked (id : Nat) (cb : Bool) (x : State) : p ≠ T → p ≠ M → cpu.stack ≠ p →
      x = .HOLD ∨ x = .READY →
      Described T M cpu owners p
        ⟨id, x, true, cb, some ⟨p, .switched (.yieldTo p) (some ⟨p, false⟩)⟩, owners + 2⟩
  | fresh (id : Nat) (cb : Bool) : p ≠ T → cpu.stack ≠ p → (p = M → cpu.stack = T) → 0 < owners →
      Described T M cpu owners p
        ⟨id, .INIT, true, cb, some ⟨p, .entry (decide (p = M))⟩, owners⟩
  | finished (id : Nat) (cb : Bool) (x : State) : p ≠ T → cpu.stack ≠ p → (p = M → cpu.stack = T) →
      0 < owners → x = .TERM ∨ x = .EXCEPT →
      Described T M cpu owners p ⟨id, x, true, cb, some ⟨p, .last⟩, owners⟩

variable {T M : Ptr}

/-- What neither runs nor waits for what runs looks the same to any other. -/
theorem Described.elsewhere {cpu : Cpu} {k : Nat} {p : Ptr} {o : Object}
    (h : Described T M cpu k p o) {cpu' : Cpu} (hT : p ≠ T) (hM : p ≠ M) (hcpu : cpu.stack ≠ p)
    (hcpu' : cpu'.stack ≠ p) : Described T M cpu' k p o := by
  cases h with
  | thread ctx hp _ _ => exact absurd hp hT
  | running id cb ctx _ hrun => exact absurd (congrArg Cpu.stack hrun) hcpu
  | waiting id cb _ hp _ _ => exact absurd hp hM
  | parked id cb x _ _ _ hx => exact .parked id cb x hT hM hcpu' hx
  | fresh id cb _ _ _ hk => exact .fresh id cb hT hcpu' (fun h => absurd h hM) hk
  | finished id cb x _ _ _ hk hx => exact .finished id cb x hT hcpu' (fun h => absurd h hM) hk hx

/-- The live objects. -/
def live (s : FiberThread) : Finset Ptr :=
  (Finset.range s.created).filter fun p => s.objects p ≠ none

theorem live_congr {s t : FiberThread} (hcreated : t.created = s.created)
    (halive : ∀ p, t.objects p = none ↔ s.objects p = none) : t.live = s.live := by
  rw [live, live, hcreated]
  exact Finset.filter_congr fun p _ => not_congr (halive p)

theorem live_erase {s t : FiberThread} {p : Ptr} (hcreated : t.created = s.created)
    (hp : t.objects p = none) (hother : ∀ q, q ≠ p → t.objects q = s.objects q) :
    t.live = s.live.erase p := by
  ext q
  simp only [live, hcreated, Finset.mem_erase, Finset.mem_filter]
  by_cases hq : q = p
  · subst hq
    simp [hp]
  · simp only [hother q hq, hq, ne_eq, not_false_eq_true, true_and]

/-- What holds until the thread ends. -/
structure Healthy (T M : Ptr) (s : FiberThread) : Prop where
  fault   : s.fault = none
  exited  : s.exited = false
  this    : s.t_fiber = some s.cpu.stack
  thread  : s.t_threadFiber = some T
  sched   : s.t_scheduler_fiber = some M
  objects : ∀ p o, s.objects p = some o → Described T M s.cpu (s.owners p) p o
  unowned : ∀ p, s.objects p = none → s.owners p = 0
  present : ∀ p, p = T ∨ p = s.cpu.stack ∨ (p = M ∧ s.cpu.stack ≠ T) → s.objects p ≠ none
  below   : ∀ p, s.objects p ≠ none → p < s.created
  sched_below : M < s.created
  counted : s.s_fiber_count = s.live.card

/-- A step that does not create or free an object. -/
structure Kept (s t : FiberThread) : Prop where
  fault   : t.fault = s.fault
  exited  : t.exited = s.exited
  thread  : t.t_threadFiber = s.t_threadFiber
  sched   : t.t_scheduler_fiber = s.t_scheduler_fiber
  created : t.created = s.created
  count   : t.s_fiber_count = s.s_fiber_count

theorem Healthy.keep {s t : FiberThread} (h : Healthy T M s) (hkept : Kept s t)
    (halive : ∀ p, t.objects p = none ↔ s.objects p = none) (hthis : t.t_fiber = some t.cpu.stack)
    (hobjects : ∀ p o, t.objects p = some o → Described T M t.cpu (t.owners p) p o)
    (hunowned : ∀ p, s.objects p = none → t.owners p = 0)
    (hpresent : ∀ p, p = T ∨ p = t.cpu.stack ∨ (p = M ∧ t.cpu.stack ≠ T) → s.objects p ≠ none) :
    Healthy T M t where
  fault   := hkept.fault.trans h.fault
  exited  := hkept.exited.trans h.exited
  this    := hthis
  thread  := hkept.thread.trans h.thread
  sched   := hkept.sched.trans h.sched
  objects := hobjects
  unowned := fun p hp => hunowned p ((halive p).mp hp)
  present := fun p hp hnone => hpresent p hp ((halive p).mp hnone)
  below   := by
    intro p hp
    rw [hkept.created]
    exact h.below p fun hnone => hp ((halive p).mpr hnone)
  sched_below := by
    rw [hkept.created]
    exact h.sched_below
  counted := by
    rw [hkept.count, h.counted, live_congr hkept.created halive]

theorem Healthy.owned {s : FiberThread} (h : Healthy T M s) {p : Ptr} (hp : 0 < s.owners p) :
    ∃ o, s.objects p = some o ∧ Described T M s.cpu (s.owners p) p o := by
  cases ho : s.objects p with
  | none => exact absurd (h.unowned p ho) (Nat.pos_iff_ne_zero.mp hp)
  | some o => exact ⟨o, rfl, h.objects p o ho⟩

theorem Healthy.exists {s : FiberThread} (h : Healthy T M s) {p : Ptr}
    (hp : p = T ∨ p = s.cpu.stack ∨ (p = M ∧ s.cpu.stack ≠ T)) :
    ∃ o, s.objects p = some o ∧ Described T M s.cpu (s.owners p) p o := by
  obtain ⟨o, ho⟩ := Option.ne_none_iff_exists'.mp (h.present p hp)
  exact ⟨o, ho, h.objects p o ho⟩

/-- What a step does: a fiber nobody outside has a pointer to is left alone,
    unless it runs. -/
structure Carried (T M : Ptr) (s t : FiberThread) : Prop where
  healthy : Healthy T M t
  spares  : ∀ q, s.objects q ≠ none → q ≠ T → q ≠ M → q ≠ s.cpu.stack → s.owners q = 0 →
              t.objects q = s.objects q ∧ t.owners q = 0

/-! ## Section 2: Changes that keep a thread healthy -/

theorem modify_eq {s : FiberThread} {p : Ptr} {o : Object} (ho : s.objects p = some o)
    (g : Object → Object) : s.modify p g = s.setObject p (some (g o)) := by
  simp only [modify, ho]

/-- One object and the pointers to it change. -/
theorem Healthy.revise {s : FiberThread} (h : Healthy T M s) {p : Ptr} {o o' : Object} {k : Nat}
    (ho : s.objects p = some o) (hdescribed : Described T M s.cpu k p o')
    (hp : 0 < s.owners p ∨ p = s.cpu.stack) :
    Carried T M s ((s.setObject p (some o')).setOwners p k) := by
  -- the other objects are where they were, so only p has to be described anew
  have hother : ∀ q, q ≠ p → (s.setObject p (some o')).objects q = s.objects q :=
    fun q hq => if_neg hq
  refine ⟨?_, fun q _ _ _ hcpu hq => ?_⟩
  swap
  · have hne : q ≠ p := by
      rintro rfl
      exact hp.elim (fun hpos => absurd hq (Nat.pos_iff_ne_zero.mp hpos)) hcpu
    exact ⟨hother q hne, (if_neg hne).trans hq⟩
  apply h.keep
  · exact ⟨rfl, rfl, rfl, rfl, rfl, rfl⟩
  · intro q
    by_cases hq : q = p
    · subst hq
      simp [setOwners, setObject, ho]
    · exact (congrArg (· = none) (hother q hq)).to_iff
  · exact h.this
  · intro q x hx
    by_cases hq : q = p
    · subst hq
      have hx : some o' = some x := by simpa [setOwners, setObject] using hx
      obtain rfl := Option.some.inj hx
      simpa [setOwners, setObject] using hdescribed
    · have hx : s.objects q = some x := (hother q hq).symm.trans hx
      simpa [setOwners, setObject, hq] using h.objects q x hx
  · intro q hq
    have hne : q ≠ p := by
      rintro rfl
      rw [ho] at hq
      cases hq
    simpa [setOwners, setObject, hne] using h.unowned q hq
  · exact h.present

/-- An object goes that is new or over. -/
theorem Healthy.remove {s : FiberThread} (h : Healthy T M s) {p : Ptr} {o : Object}
    (ho : s.objects p = some o) (hT : p ≠ T) (hcpu : s.cpu.stack ≠ p)
    (hM : p = M → s.cpu.stack = T) (hp : 0 < s.owners p) :
    Carried T M s
      { (s.setOwners p 0).setObject p none with s_fiber_count := s.s_fiber_count - 1 } := by
  have hother : ∀ q, q ≠ p → ((s.setOwners p 0).setObject p none).objects q = s.objects q :=
    fun q hq => if_neg hq
  have hself : ((s.setOwners p 0).setObject p none).objects p = none := if_pos rfl
  refine ⟨⟨h.fault, h.exited, h.this, h.thread, h.sched, ?_, ?_, ?_, ?_, h.sched_below, ?_⟩,
    fun q _ _ _ _ hq => ?_⟩
  · intro q x hx
    by_cases hq : q = p
    · subst hq
      rw [show _ = none from hself] at hx
      cases hx
    · have hx : s.objects q = some x := (hother q hq).symm.trans hx
      simpa [setOwners, setObject, hq] using h.objects q x hx
  · intro q hq
    by_cases hqp : q = p
    · exact if_pos hqp
    · exact (if_neg hqp).trans (h.unowned q ((hother q hqp).symm.trans hq))
  · intro q hq hnone
    have hqp : q ≠ p := by
      rintro rfl
      rcases hq with hq | hq | ⟨hq, hstack⟩
      · exact hT hq
      · exact hcpu hq.symm
      · exact hstack (hM hq)
    exact h.present q hq ((hother q hqp).symm.trans hnone)
  · intro q hq
    by_cases hqp : q = p
    · exact absurd (hqp ▸ hself) hq
    · exact h.below q fun hnone => hq ((hother q hqp).trans hnone)
  · -- one object less, and the counter goes down with it
    have hmem : p ∈ s.live := by
      simp only [live, Finset.mem_filter, Finset.mem_range, ho]
      exact ⟨h.below p (by rw [ho]; exact Option.some_ne_none o), Option.some_ne_none o⟩
    have hcard : (s.live.erase p).card = s.s_fiber_count - 1 := by
      rw [Finset.card_erase_of_mem hmem, h.counted]
    exact hcard.symm.trans (congrArg Finset.card (live_erase (by rfl) hself hother)).symm
  · have hne : q ≠ p := by
      rintro rfl
      exact absurd hq (Nat.pos_iff_ne_zero.mp hp)
    exact ⟨hother q hne, (if_neg hne).trans hq⟩

/-- The processor goes from the stack of `a` to that of `b`, one of which is the scheduler's. -/
theorem Healthy.switch {s t : FiberThread} (h : Healthy T M s) {a b : Ptr} {oa ob : Object}
    {ka kb : Nat} {cpu : Cpu} (hM : M = a ∨ M = b) (ha : s.cpu.stack = a) (hb : cpu.stack = b)
    (hab : a ≠ b) (hkept : Kept s t) (hcpu : t.cpu = cpu) (hthis : t.t_fiber = some b)
    (hob : s.objects b ≠ none)
    (hobjects : ∀ q, t.objects q =
      if q = a then some oa else if q = b then some ob else s.objects q)
    (howners : ∀ q, t.owners q = if q = a then ka else if q = b then kb else s.owners q)
    (hda : Described T M cpu ka a oa) (hdb : Described T M cpu kb b ob)
    (hto : b = T ∨ b = M ∨ 0 < s.owners b) : Carried T M s t := by
  subst hcpu
  have hoa : s.objects a ≠ none := h.present a (.inr (.inl ha.symm))
  refine ⟨?_, fun q _ hqT hqM hqs hq => ?_⟩
  swap
  · have hqa : q ≠ a := fun heq => hqs (heq.trans ha.symm)
    have hqb : q ≠ b := by
      rintro rfl
      rcases hto with hto | hto | hto
      · exact hqT hto
      · exact hqM hto
      · exact absurd hq (Nat.pos_iff_ne_zero.mp hto)
    rw [hobjects, howners, if_neg hqa, if_neg hqb, if_neg hqa, if_neg hqb]
    exact ⟨rfl, hq⟩
  apply h.keep hkept
  · intro q
    rw [hobjects]
    -- a and b are described by hypothesis; of the others only the thread's fiber knows who runs
    by_cases hqa : q = a
    · subst hqa
      simp [hoa]
    · by_cases hqb : q = b
      · subst hqb
        simp [hqa, hob]
      · rw [if_neg hqa, if_neg hqb]
  · rw [hthis, hb]
  · intro q x hx
    rw [hobjects] at hx
    rw [howners]
    by_cases hqa : q = a
    · subst hqa
      rw [if_pos rfl] at hx ⊢
      exact Option.some.inj hx ▸ hda
    · rw [if_neg hqa] at hx ⊢
      by_cases hqb : q = b
      · subst hqb
        rw [if_pos rfl] at hx ⊢
        exact Option.some.inj hx ▸ hdb
      · rw [if_neg hqb] at hx ⊢
        have hd := h.objects q x hx
        have hqM : q ≠ M := by
          rintro rfl
          rcases hM with hM | hM
          · exact hqa hM
          · exact hqb hM
        by_cases hqT : q = T
        · -- the thread's fiber waits for the scheduler's own fiber all the time
          subst hqT
          have hold : s.cpu.stack ≠ q := ha ▸ Ne.symm hqa
          have hnew : t.cpu.stack ≠ q := hb ▸ Ne.symm hqb
          cases hd with
          | thread ctx _ _ hctx =>
            refine .thread ctx rfl (fun hstack => absurd hstack hnew) fun _ => ?_
            rw [hctx hold, if_neg (Ne.symm hqM), if_neg (Ne.symm hqM)]
          | running _ _ _ hne _ => exact absurd rfl hne
          | waiting _ _ hne _ _ _ => exact absurd rfl hne
          | parked _ _ _ hne _ _ _ => exact absurd rfl hne
          | fresh _ _ hne _ _ _ => exact absurd rfl hne
          | finished _ _ _ hne _ _ _ _ => exact absurd rfl hne
        · exact hd.elsewhere hqT hqM (ha ▸ Ne.symm hqa) (hb ▸ Ne.symm hqb)
  · intro q hq
    have hqa : q ≠ a := fun h' => hoa (h' ▸ hq)
    have hqb : q ≠ b := fun h' => hob (h' ▸ hq)
    rw [howners, if_neg hqa, if_neg hqb]
    exact h.unowned q hq
  · intro q hq
    rcases hq with hq | hq | ⟨hq, -⟩
    · exact h.present q (.inl hq)
    · rw [hq, hb]
      exact hob
    · rw [hq]
      rcases hM with hM | hM
      · rw [hM]
        exact hoa
      · rw [hM]
        exact hob

/-! ## Section 3: Pointers -/

theorem healthy_create {s : FiberThread} (h : Healthy T M s) :
    Carried T M s (s.newFiber false) := by
  have hnone : s.objects s.created = none := by
    by_contra hsome
    exact absurd (h.below s.created hsome) (Nat.lt_irrefl _)
  have hT : s.created ≠ T := fun heq => h.present T (.inl rfl) (heq ▸ hnone)
  have hcpu : s.cpu.stack ≠ s.created :=
    fun heq => h.present s.cpu.stack (.inr (.inl rfl)) (heq ▸ hnone)
  have hM : s.created ≠ M := fun heq => absurd h.sched_below (heq ▸ Nat.lt_irrefl _)
  have hother : ∀ q, q ≠ s.created → (s.newFiber false).objects q = s.objects q :=
    fun q hq => if_neg hq
  have hself : (s.newFiber false).objects s.created =
      some ⟨s.s_fiber_id + 1, .INIT, true, true, some ⟨s.created, .entry false⟩, 1⟩ := if_pos rfl
  -- the constructor's object is the only new one, and s_fiber_count counts it
  have hlive : (s.newFiber false).live = insert s.created s.live := by
    ext q
    simp only [live, Finset.mem_filter, Finset.mem_range, Finset.mem_insert]
    have hcreated : (s.newFiber false).created = s.created + 1 := rfl
    rw [hcreated]
    by_cases hq : q = s.created
    · subst hq
      rw [hself]
      simp
    · rw [hother q hq]
      simp only [hq, false_or]
      refine and_congr_left fun hsome => ?_
      have hbelow := h.below q hsome
      exact ⟨fun _ => hbelow, fun _ => Nat.lt_succ_of_lt hbelow⟩
  refine ⟨⟨h.fault, h.exited, h.this, h.thread, h.sched, ?_, ?_, ?_, ?_, ?_, ?_⟩,
    fun q hsome _ _ _ hq => ?_⟩
  · intro q x hx
    by_cases hq : q = s.created
    · subst hq
      rw [hself] at hx
      obtain rfl := Option.some.inj hx
      have hd := @Described.fresh T M s.cpu 1 s.created (s.s_fiber_id + 1) true hT hcpu
        (fun heq => absurd heq hM) Nat.one_pos
      rw [decide_eq_false hM] at hd
      rw [show (s.newFiber false).owners s.created = 1 from if_pos rfl]
      exact hd
    · rw [hother q hq] at hx
      simpa [newFiber, setOwners, setObject, hq] using h.objects q x hx
  · intro q hq
    have hne : q ≠ s.created := by
      rintro rfl
      rw [hself] at hq
      cases hq
    exact (if_neg hne).trans (h.unowned q ((hother q hne).symm.trans hq))
  · intro q hq
    by_cases hqc : q = s.created
    · subst hqc
      rw [hself]
      exact Option.some_ne_none _
    · rw [hother q hqc]
      exact h.present q hq
  · intro q hq
    show q < s.created + 1
    by_cases hqc : q = s.created
    · rw [hqc]
      exact Nat.lt_succ_self _
    · rw [hother q hqc] at hq
      exact Nat.lt_succ_of_lt (h.below q hq)
  · exact Nat.lt_succ_of_lt h.sched_below
  · have hnot : s.created ∉ s.live := by simp [live]
    rw [hlive, Finset.card_insert_of_notMem hnot, ← h.counted]
    rfl
  · have hne : q ≠ s.created := fun heq => hsome (heq ▸ hnone)
    exact ⟨hother q hne, (if_neg hne).trans hq⟩

/-- One pointer more, which is kept by nobody's stack. -/
theorem Described.more {cpu : Cpu} {k : Nat} {p : Ptr} {o : Object}
    (h : Described T M cpu k p o) :
    Described T M cpu (k + 1) p { o with use_count := o.use_count + 1 } := by
  cases h with
  | thread ctx hp hmain hctx => exact .thread ctx hp hmain hctx
  | running id cb ctx hp hcpu => exact .running id cb ctx hp hcpu
  | waiting id cb hp hM hstack hne => exact .waiting id cb hp hM hstack hne
  | parked id cb x hp hM hstack hx => exact .parked id cb x hp hM hstack hx
  | fresh id cb hp hstack hM hk => exact .fresh id cb hp hstack hM (Nat.succ_pos k)
  | finished id cb x hp hstack hM hk hx => exact .finished id cb x hp hstack hM (Nat.succ_pos k) hx

theorem healthy_copy {s : FiberThread} (h : Healthy T M s) {p : Ptr} {o : Object}
    (ho : s.objects p = some o) (hp : 0 < s.owners p ∨ p = s.cpu.stack) :
    Carried T M s ((s.copy p).setOwners p (s.owners p + 1)) := by
  rw [copy, modify_eq ho]
  exact h.revise ho (h.objects p o ho).more hp

theorem healthy_drop {s : FiberThread} (h : Healthy T M s) {p : Ptr} (hp : 0 < s.owners p) :
    Carried T M s ((s.setOwners p (s.owners p - 1)).release p) := by
  obtain ⟨o, ho, hd⟩ := h.owned hp
  obtain ⟨k, hk⟩ : ∃ k, s.owners p = k + 1 := ⟨s.owners p - 1, by omega⟩
  rw [hk] at hd
  -- the last pointer, or one of several
  have hlast : o.use_count = 1 → (o.m_state = .TERM ∨ o.m_state = .EXCEPT ∨ o.m_state = .INIT) ∧
      o.m_stack = true ∧ p ≠ T ∧ s.cpu.stack ≠ p ∧ (p = M → s.cpu.stack = T) ∧ k = 0 := by
    intro hone
    cases hd with
    | thread ctx _ _ _ => simp at hone
    | running id cb ctx _ _ => simp at hone
    | waiting id cb _ _ _ _ => simp at hone
    | parked id cb x _ _ _ _ => simp at hone
    | fresh id cb hT hstack hM _ =>
      exact ⟨.inr (.inr rfl), rfl, hT, hstack, hM, by simpa using hone⟩
    | finished id cb x hT hstack hM _ hx =>
      exact ⟨hx.imp_right .inl, rfl, hT, hstack, hM, by simpa using hone⟩
  have hmore : o.use_count ≠ 1 →
      Described T M s.cpu k p { o with use_count := o.use_count - 1 } := by
    intro hmany
    cases hd with
    | thread ctx hp hmain hctx => exact .thread ctx hp hmain hctx
    | running id cb ctx hp hcpu => exact .running id cb ctx hp hcpu
    | waiting id cb hp hM hstack hne => exact .waiting id cb hp hM hstack hne
    | parked id cb x hp hM hstack hx => exact .parked id cb x hp hM hstack hx
    | fresh id cb hp hstack hM _ =>
      exact .fresh id cb hp hstack hM (Nat.pos_of_ne_zero fun hzero => hmany (by rw [hzero]))
    | finished id cb x hp hstack hM _ hx =>
      exact .finished id cb x hp hstack hM
        (Nat.pos_of_ne_zero fun hzero => hmany (by rw [hzero])) hx
  by_cases hone : o.use_count = 1
  · obtain ⟨hstate, hstack, hT, hcpu, hM, rfl⟩ := hlast hone
    have hassert : (decide (o.m_state = .TERM) || decide (o.m_state = .EXCEPT) ||
        decide (o.m_state = .INIT)) = true := by
      rcases hstate with hx | hx | hx <;> simp [hx]
    have hgone : (s.setOwners p (s.owners p - 1)).release p =
        { (s.setOwners p 0).setObject p none with s_fiber_count := s.s_fiber_count - 1 } := by
      simp [release, setOwners, ho, hone, destroy, hstack, hassert, assert, hcpu, hk, setObject]
    rw [hgone]
    exact h.remove ho hT hcpu hM hp
  · have hless : (s.setOwners p (s.owners p - 1)).release p =
        (s.setObject p (some { o with use_count := o.use_count - 1 })).setOwners p k := by
      simp [release, setOwners, ho, hone, hk, setObject]
    rw [hless]
    exact h.revise ho (hmore hone) (.inl hp)

theorem GetThis_eq {s : FiberThread} {p : Ptr} (h : s.t_fiber = some p) :
    s.GetThis = (s.copy p, p) := by
  simp only [GetThis, h]

theorem healthy_keepThis {s : FiberThread} (h : Healthy T M s) :
    Carried T M s (s.act .keepThis) := by
  obtain ⟨o, ho, -⟩ := h.exists (.inr (.inl rfl))
  have hkept := healthy_copy h ho (.inr rfl)
  simp only [act, GetThis_eq h.this]
  rwa [show (s.copy s.cpu.stack).owners = s.owners by rw [copy, modify_eq ho]; rfl]

theorem healthy_reset {s : FiberThread} (h : Healthy T M s) {p : Ptr} (cb : Bool)
    (hen : s.enabled (.reset p cb) = true) : Carried T M s (s.reset p cb) := by
  simp only [enabled, Bool.and_eq_true, decide_eq_true_eq, Bool.or_eq_true] at hen
  obtain ⟨⟨⟨hp, hM⟩, hT⟩, hstate⟩ := hen
  rw [h.sched, ne_eq, Option.some.injEq] at hM
  rw [h.thread, ne_eq, Option.some.injEq] at hT
  obtain ⟨o, ho, hd⟩ := h.owned hp
  simp only [stateOf, ho, Option.map_some, Option.some.injEq] at hstate
  -- of the states reset accepts, each is left for that of a new fiber
  have hfresh : Described T M s.cpu (s.owners p) p
      { o with m_cb := cb, m_ctx := some ⟨p, .entry false⟩, m_state := .INIT } := by
    have hnew : s.cpu.stack ≠ p → Described T M s.cpu (s.owners p) p
        ⟨o.m_id, .INIT, true, cb, some ⟨p, .entry false⟩, s.owners p⟩ := fun hstack => by
      have hd := @Described.fresh T M s.cpu _ p o.m_id cb (Ne.symm hT) hstack
        (fun heq => absurd heq (Ne.symm hM)) hp
      rwa [decide_eq_false (Ne.symm hM)] at hd
    cases hd with
    | thread ctx heq _ _ => exact absurd heq (Ne.symm hT)
    | running id cb' ctx _ _ => simp at hstate
    | waiting id cb' _ heq _ _ => exact absurd heq (Ne.symm hM)
    | parked id cb' x _ _ _ hx => rcases hx with rfl | rfl <;> simp at hstate
    | fresh id cb' _ hstack _ _ => exact hnew hstack
    | finished id cb' x _ hstack _ _ _ => exact hnew hstack
  have hreset := h.revise ho hfresh (.inl hp)
  have hsame : s.reset p cb = (s.setObject p (some
      { o with m_cb := cb, m_ctx := some ⟨p, .entry false⟩, m_state := .INIT })).setOwners p
        (s.owners p) := by
    rw [reset, modify_eq ho]
    simp only [setOwners, setObject]
    congr 1
    funext q
    split
    · rename_i hq
      rw [hq]
    · rfl
  rw [hsame]
  exact hreset

/-! ## Section 4: Switching -/

theorem setObject_setObject (s : FiberThread) (p : Ptr) (a b : Option Object) :
    (s.setObject p a).setObject p b = s.setObject p b := by
  simp only [setObject]
  congr 1
  funext q
  split <;> rfl

theorem objects_setObject (s : FiberThread) (p q : Ptr) (o : Option Object) :
    (s.setObject p o).objects q = if q = p then o else s.objects q := rfl

theorem swapcontext_eq {s : FiberThread} {a b : Ptr} {oa ob : Object} {ctx : Context} (code : Code)
    (ha : s.objects a = some oa) (hb : s.objects b = some ob) (hab : a ≠ b)
    (hctx : ob.m_ctx = some ctx) :
    s.swapcontext (some a) (some b) code =
      (s.setObject a (some { oa with m_ctx := some ⟨s.cpu.stack, code⟩ })).resume ctx := by
  have hb' : (s.setObject a (some { oa with m_ctx := some ⟨s.cpu.stack, code⟩ })).objects b =
      some ⟨ob.m_id, ob.m_state, ob.m_stack, ob.m_cb, some ctx, ob.use_count⟩ := by
    rw [objects_setObject, if_neg (Ne.symm hab), hb, ← hctx]
  simp only [swapcontext, modify_eq ha, hb']

theorem resume_entry {s : FiberThread} {p : Ptr} {o : Object} (caller : Bool)
    (ho : s.objects p = some o) (hthis : s.t_fiber = some p) :
    s.resume ⟨p, .entry caller⟩ =
      { s.setObject p (some { o with use_count := o.use_count + 1 }) with
        cpu := ⟨p, some ⟨p, caller⟩⟩ } := by
  simp only [resume, ho, GetThis_eq hthis, copy, modify_eq ho]

theorem resume_yieldTo {s : FiberThread} {p : Ptr} {o : Object} (main : Option MainFrame)
    (ho : s.objects p = some o) (hcount : o.use_count ≠ 1) :
    s.resume ⟨p, .switched (.yieldTo p) main⟩ =
      { s.setObject p (some { o with use_count := o.use_count - 1 }) with cpu := ⟨p, main⟩ } := by
  simp only [resume, ho, release, if_neg hcount]
  rfl

/-- What `Scheduler::run` makes of a fiber that came back, and how many pointers it has then. -/
def settled (o : Object) : Object × Nat :=
  if o.m_state = .READY then ({ o with use_count := o.use_count + 1 }, 2)
  else if o.m_state ≠ .TERM ∧ o.m_state ≠ .EXCEPT then ({ o with m_state := .HOLD }, 1)
  else (o, 1)

theorem settle_eq {s : FiberThread} {f : Ptr} {o : Object} (ho : s.objects f = some o) :
    s.settle f = (s.setObject f (some (settled o).1)).setOwners f (s.owners f + (settled o).2) := by
  have ho' : (s.setOwners f (s.owners f + 1)).objects f = some o := ho
  have howners : (s.setOwners f (s.owners f + 1)).owners f = s.owners f + 1 := if_pos rfl
  have hsame : s.setObject f (some o) = s := by
    simp only [setObject]
    congr 1
    funext q
    split
    · rename_i hq
      rw [hq, ho]
    · rfl
  simp only [settle, ho', settled]
  split
  · rw [copy, modify_eq ho', howners]
    simp only [setOwners, setObject]
    congr 1
    funext q
    split <;> rfl
  · split
    · rw [modify_eq ho']
      rfl
    · rw [hsame]

theorem resume_swapIn {s : FiberThread} {m f : Ptr} {om o : Object} (main : Option MainFrame)
    (hm : s.objects m = some om) (ho : s.objects f = some o) :
    s.resume ⟨m, .switched (.swapIn f) main⟩ =
      { (s.setObject f (some (settled o).1)).setOwners f (s.owners f + (settled o).2) with
        cpu := ⟨m, main⟩ } := by
  have hsettle := @settle_eq { s with cpu := ⟨m, main⟩ } f o ho
  simp only [resume, hm, hsettle]
  rfl

/-- The scheduler's fiber lets another one run. -/
theorem Described.wait {cpu : Cpu} {k : Nat} {o : Object} (h : Described T M cpu k M o)
    (hstack : cpu.stack = M) {f : Ptr} (hT : f ≠ T) (hM : f ≠ M) (main : MainFrame) :
    Described T M ⟨f, some main⟩ k M
      { o with m_ctx := some ⟨cpu.stack, .switched (.swapIn f) cpu.main⟩ } := by
  cases h with
  | thread ctx hp hmain _ =>
    rw [hmain (hstack.trans hp), hstack]
    refine .thread _ hp (fun heq => absurd heq hT) fun _ => ?_
    rw [if_pos hp, hp]
  | running id cb ctx hp hcpu =>
    rw [hcpu, decide_eq_true rfl]
    exact .waiting id cb hp rfl hT hM
  | waiting id cb _ _ _ hne => exact absurd hstack hne
  | parked id cb x _ hne _ _ => exact absurd rfl hne
  | fresh id cb _ hne _ _ => exact absurd hstack hne
  | finished id cb x _ hne _ _ _ => exact absurd hstack hne

/-- It goes on where it let the other one run. -/
theorem Described.awaits {cpu : Cpu} {k : Nat} {o : Object} (h : Described T M cpu k M o)
    (hT : cpu.stack ≠ T) (hM : cpu.stack ≠ M) :
    ∃ main, o.m_ctx = some ⟨M, .switched (.swapIn cpu.stack) main⟩ ∧
      Described T M ⟨M, main⟩ k M o := by
  cases h with
  | thread ctx hp _ hctx =>
    refine ⟨none, ?_, .thread ctx hp (fun _ => rfl) fun hne => absurd hp hne⟩
    rw [hctx hT, if_pos hp, hp]
  | running id cb ctx _ hcpu => exact absurd (congrArg Cpu.stack hcpu) hM
  | waiting id cb hp _ _ _ =>
    refine ⟨some ⟨M, true⟩, rfl, .running id cb _ hp ?_⟩
    rw [decide_eq_true rfl]
  | parked id cb x _ hne _ _ => exact absurd rfl hne
  | fresh id cb _ _ hroot _ => exact absurd (hroot rfl) hT
  | finished id cb x _ _ hroot _ _ => exact absurd (hroot rfl) hT

theorem healthy_swapIn {s : FiberThread} (h : Healthy T M s) {p : Ptr}
    (hen : s.enabled (.swapIn p) = true) : Carried T M s (s.swapIn p) := by
  simp only [enabled, Bool.and_eq_true, decide_eq_true_eq, Bool.or_eq_true] at hen
  obtain ⟨⟨⟨⟨hp, hstack⟩, hM⟩, hT⟩, hstate⟩ := hen
  rw [h.sched, Option.some.injEq] at hstack
  rw [h.sched, ne_eq, Option.some.injEq] at hM
  rw [h.thread, ne_eq, Option.some.injEq] at hT
  obtain ⟨o, ho, hd⟩ := h.owned hp
  obtain ⟨om, hom, hdm⟩ := h.exists (p := M) (.inr (.inl hstack))
  simp only [stateOf, ho, Option.map_some, Option.some.injEq] at hstate
  obtain ⟨k, hk⟩ : ∃ k, s.owners p = k + 1 := ⟨s.owners p - 1, by omega⟩
  rw [hk] at hd
  have hwait := hdm.wait hstack.symm (Ne.symm hT) (Ne.symm hM) ⟨p, false⟩
  -- up to the context that is loaded
  let s₁ := (((s.setOwners p k).SetThis (some p)).setObject p (some { o with m_state := .EXEC })).setObject
    M (some { om with m_ctx := some ⟨s.cpu.stack, .switched (.swapIn p) s.cpu.main⟩ })
  have hs₁ : s₁.objects p = some { o with m_state := .EXEC } := by
    rw [objects_setObject, if_neg (Ne.symm hM), objects_setObject, if_pos rfl]
  have hrun : ∀ ctx, o.m_ctx = some ctx → s.swapIn p = s₁.resume ctx := by
    intro ctx hctx
    have ho' : ((s.setOwners p k).SetThis (some p)).objects p = some o := ho
    have hnot : decide (((s.setOwners p k).SetThis (some p)).stateOf p ≠ some .EXEC) = true := by
      rw [decide_eq_true_eq, stateOf, ho']
      rcases hstate with (hx | hx) | hx <;> simp [hx]
    rw [swapIn, hk, Nat.add_sub_cancel, hnot, assert, if_pos rfl, modify_eq ho']
    rw [show (((s.setOwners p k).SetThis (some p)).setObject p _).t_scheduler_fiber = some M from
      h.sched]
    refine swapcontext_eq _ ?_ (if_pos rfl) hM hctx
    rw [objects_setObject, if_neg hM]
    exact hom
  have hswitch : ∀ o', Described T M ⟨p, some ⟨p, false⟩⟩ k p o' →
      Carried T M s { s₁.setObject p (some o') with cpu := ⟨p, some ⟨p, false⟩⟩ } := by
    intro o' ho'
    refine h.switch (.inl rfl) hstack.symm rfl hM ⟨rfl, rfl, rfl, rfl, rfl, rfl⟩ rfl rfl
      (by rw [ho]; exact Option.some_ne_none o) ?_ ?_ hwait ho'
      (.inr (.inr hp))
    · intro q
      show (if q = p then some o' else s₁.objects q) = _
      simp only [s₁, objects_setObject]
      by_cases hq : q = p
      · subst hq
        simp [Ne.symm hM]
      · simp only [hq, if_false]
        rfl
    · intro q
      show (if q = p then k else s.owners q) = _
      by_cases hq : q = M
      · subst hq
        rw [if_neg hM, if_pos rfl]
      · rw [if_neg hq]
  cases hd with
  | thread ctx hp' _ _ => exact absurd hp' (Ne.symm hT)
  | running id cb ctx _ _ => simp at hstate
  | waiting id cb _ _ _ _ => simp at hstate
  | finished id cb x _ _ _ _ hx => rcases hx with rfl | rfl <;> simp at hstate
  | fresh id cb _ _ _ _ =>
    rw [hrun _ rfl, resume_entry _ hs₁ rfl, decide_eq_false (Ne.symm hM)]
    refine hswitch _ ?_
    exact @Described.running T M ⟨p, some ⟨p, false⟩⟩ k p id cb (some ⟨p, .entry false⟩) (Ne.symm hT)
      (by rw [decide_eq_false (Ne.symm hM)])
  | parked id cb x _ _ _ _ =>
    rw [hrun _ rfl, resume_yieldTo _ hs₁ (by simp)]
    refine hswitch _ ?_
    exact .running id cb _ (Ne.symm hT) (by rw [decide_eq_false (Ne.symm hM)])

/-- What runs goes back to the scheduler. -/
theorem healthy_swapOut {s : FiberThread} (h : Healthy T M s) {f : Ptr} (hf : s.cpu.stack = f)
    (hT : f ≠ T) (hM : f ≠ M) {o : Object} {code : Code}
    (hd : ∀ main, Described T M ⟨M, main⟩
      (s.owners f + (settled { o with m_ctx := some ⟨f, code⟩ }).2) f
      (settled { o with m_ctx := some ⟨f, code⟩ }).1) :
    Carried T M s ((s.setObject f (some o)).swapOut f code) := by
  subst hf
  obtain ⟨om, hom, hdm⟩ := h.exists (p := M) (.inr (.inr ⟨rfl, hT⟩))
  obtain ⟨main, hctx, hdm⟩ := hdm.awaits hT hM
  let s₁ := (s.setObject s.cpu.stack (some o)).SetThis (some M)
  let s₂ := s₁.setObject s.cpu.stack (some { o with m_ctx := some ⟨s.cpu.stack, code⟩ })
  have hom₁ : s₁.objects M = some om := (if_neg (Ne.symm hM)).trans hom
  have hom₂ : s₂.objects M = some om := (if_neg (Ne.symm hM)).trans hom₁
  -- the scheduler's fiber goes on in swapIn, which settles what it has switched to
  have hout : (s.setObject s.cpu.stack (some o)).swapOut s.cpu.stack code =
      { (s₂.setObject s.cpu.stack (some (settled { o with m_ctx := some ⟨s.cpu.stack, code⟩ }).1)).setOwners
          s.cpu.stack (s.owners s.cpu.stack + (settled { o with m_ctx := some ⟨s.cpu.stack, code⟩ }).2)
        with cpu := ⟨M, main⟩ } := by
    rw [swapOut, show (s.setObject s.cpu.stack (some o)).t_scheduler_fiber = some M from h.sched,
      show ((s.setObject s.cpu.stack (some o)).SetThis (some M)).t_scheduler_fiber = some M from
        h.sched]
    have hswap := swapcontext_eq (s := s₁) code (if_pos rfl) hom₁ hM hctx
    exact hswap.trans (resume_swapIn (s := s₂) main hom₂ (if_pos rfl))
  rw [hout]
  refine h.switch (.inr rfl) rfl rfl hM ⟨rfl, rfl, rfl, rfl, rfl, rfl⟩ rfl rfl
    (by rw [hom]; exact Option.some_ne_none om) ?_ ?_ (hd main) hdm (.inr (.inl rfl))
  · intro q
    show (if q = _ then _ else (if q = _ then _ else (if q = _ then _ else s.objects q))) = _
    by_cases hq : q = s.cpu.stack
    · rw [if_pos hq, if_pos hq]
    · rw [if_neg hq, if_neg hq, if_neg hq, if_neg hq]
      split
      · rename_i hqM
        rw [hqM, hom]
      · rfl
  · intro q
    show (if q = _ then _ else s.owners q) = _
    split
    · rfl
    · split
      · rename_i hqM
        rw [hqM]
      · rfl

/-- The fiber that runs, if it is a task's. -/
theorem Healthy.task {s : FiberThread} (h : Healthy T M s) (hT : s.cpu.stack ≠ T) :
    ∃ id cb ctx, s.objects s.cpu.stack =
      some ⟨id, .EXEC, true, cb, ctx, s.owners s.cpu.stack + 2⟩ ∧
      s.cpu.main = some ⟨s.cpu.stack, decide (s.cpu.stack = M)⟩ := by
  obtain ⟨o, ho, hd⟩ := h.exists (.inr (.inl rfl))
  rw [ho]
  generalize hk : s.owners s.cpu.stack = k at hd
  cases hd with
  | thread ctx hp _ _ => exact absurd hp hT
  | running id cb ctx _ hcpu => exact ⟨id, cb, ctx, rfl, congrArg Cpu.main hcpu⟩
  | waiting id cb _ hp _ hne => exact absurd hp hne
  | parked id cb x _ _ hne _ => exact absurd rfl hne
  | fresh id cb _ hne _ _ => exact absurd rfl hne
  | finished id cb x _ hne _ _ _ => exact absurd rfl hne

theorem healthy_yieldTo {s : FiberThread} (h : Healthy T M s) (ready : Bool)
    (hen : s.enabled (.yieldTo ready) = true) : Carried T M s (s.YieldTo ready) := by
  simp only [enabled, Bool.and_eq_true, decide_eq_true_eq] at hen
  obtain ⟨hM, hT⟩ := hen
  rw [h.sched, ne_eq, Option.some.injEq] at hM
  rw [h.thread, ne_eq, Option.some.injEq] at hT
  obtain ⟨id, cb, ctx, ho, hmain⟩ := h.task (Ne.symm hT)
  rw [decide_eq_false (Ne.symm hM)] at hmain
  -- `cur` is the fiber itself, and counts until the call returns
  let x : State := if ready then .READY else .EXEC
  have hyield : s.YieldTo ready =
      (s.setObject s.cpu.stack (some ⟨id, x, true, cb, ctx, s.owners s.cpu.stack + 3⟩)).swapOut
        s.cpu.stack (.switched (.yieldTo s.cpu.stack) (some ⟨s.cpu.stack, false⟩)) := by
    have hcopy : s.copy s.cpu.stack =
        s.setObject s.cpu.stack (some ⟨id, .EXEC, true, cb, ctx, s.owners s.cpu.stack + 3⟩) := by
      rw [copy, modify_eq ho]
    have hself : (s.copy s.cpu.stack).objects s.cpu.stack =
        some ⟨id, .EXEC, true, cb, ctx, s.owners s.cpu.stack + 3⟩ := by
      rw [hcopy]
      exact if_pos rfl
    have hexec : decide ((s.copy s.cpu.stack).stateOf s.cpu.stack = some .EXEC) = true := by
      rw [stateOf, hself]
      rfl
    simp only [YieldTo, GetThis_eq h.this, hexec, assert, if_true, modify_eq hself]
    cases ready with
    | false =>
      simp only [Bool.false_eq_true, if_false, x]
      rw [hcopy, show (s.setObject _ _).cpu = s.cpu from rfl, hmain]
    | true =>
      simp only [if_true, x]
      rw [hcopy, setObject_setObject, show (s.setObject _ _).cpu = s.cpu from rfl, hmain]
  rw [hyield]
  refine healthy_swapOut h rfl (Ne.symm hT) (Ne.symm hM) fun main => ?_
  have hstack : (⟨M, main⟩ : Cpu).stack ≠ s.cpu.stack := hM
  cases ready with
  | true => exact .parked id cb .READY (Ne.symm hT) (Ne.symm hM) hstack (.inr rfl)
  | false => exact .parked id cb .HOLD (Ne.symm hT) (Ne.symm hM) hstack (.inl rfl)

theorem healthy_call {s : FiberThread} (h : Healthy T M s) {p : Ptr}
    (hen : s.enabled (.call p) = true) : Carried T M s (s.call p) := by
  simp only [enabled, Bool.and_eq_true, decide_eq_true_eq] at hen
  obtain ⟨⟨⟨⟨hp, hstack⟩, hM⟩, hT⟩, hstate⟩ := hen
  rw [h.sched, Option.some.injEq] at hM
  rw [h.thread, Option.some.injEq] at hstack
  rw [h.thread, ne_eq, Option.some.injEq] at hT
  subst hM
  obtain ⟨o, ho, hd⟩ := h.owned hp
  obtain ⟨ot, hot, hdt⟩ := h.exists (p := T) (.inl rfl)
  obtain ⟨k, hk⟩ : ∃ k, s.owners M = k + 1 := ⟨s.owners M - 1, by omega⟩
  rw [hk] at hd
  simp only [stateOf, ho, Option.map_some, Option.some.injEq] at hstate
  -- the state checked by call leaves a fiber that has not been entered
  cases hd with
  | thread ctx hp' _ _ => exact absurd hp' (Ne.symm hT)
  | running id cb ctx _ _ => cases hstate
  | waiting id cb _ _ _ _ => cases hstate
  | parked id cb x _ _ _ hx => rcases hx with rfl | rfl <;> cases hstate
  | finished id cb x _ _ _ _ hx => rcases hx with rfl | rfl <;> cases hstate
  | fresh id cb _ hne _ _ =>
    obtain ⟨ctx, rfl, hmain⟩ : ∃ ctx, ot = ⟨0, .EXEC, false, false, ctx, s.owners T + 1⟩ ∧
        s.cpu.main = none := by
      generalize s.owners T = kt at hdt
      cases hdt with
      | thread ctx _ hmain _ => exact ⟨ctx, rfl, hmain hstack.symm⟩
      | running _ _ _ hne' _ => exact absurd rfl hne'
      | waiting _ _ hne' _ _ _ => exact absurd rfl hne'
      | parked _ _ _ hne' _ _ _ => exact absurd rfl hne'
      | fresh _ _ hne' _ _ _ => exact absurd rfl hne'
      | finished _ _ _ hne' _ _ _ _ => exact absurd rfl hne'
    let s₁ := ((s.setOwners M k).SetThis (some M)).setObject M
      (some ⟨id, .EXEC, true, cb, some ⟨M, .entry (decide (M = M))⟩, k + 1⟩)
    let s₂ := s₁.setObject T
      (some ⟨0, .EXEC, false, false, some ⟨T, .switched (.call M) none⟩, s.owners T + 1⟩)
    -- swapcontext enters the scheduler's fiber, which starts its function
    have hcall : s.call M = { s₂.setObject M
        (some ⟨id, .EXEC, true, cb, some ⟨M, .entry (decide (M = M))⟩, k + 2⟩) with
          cpu := ⟨M, some ⟨M, decide (M = M)⟩⟩ } := by
      have ho' : ((s.setOwners M k).SetThis (some M)).objects M = _ := ho
      rw [call, hk, Nat.add_sub_cancel, modify_eq ho',
        show (((s.setOwners M k).SetThis (some M)).setObject M _).t_threadFiber = some T from
          h.thread, hmain]
      have hot₁ : s₁.objects T = _ := (if_neg hT).trans hot
      have hswap := swapcontext_eq (s := s₁) (.switched (.call M) none) hot₁ (if_pos rfl) hT rfl
      rw [show s₁.cpu.stack = T from hstack.symm] at hswap
      have hom₂ : s₂.objects M =
          some ⟨id, .EXEC, true, cb, some ⟨M, .entry (decide (M = M))⟩, k + 1⟩ :=
        (if_neg (Ne.symm hT)).trans (if_pos rfl)
      exact hswap.trans (resume_entry (s := s₂) _ hom₂ rfl)
    have hdT : Described T M ⟨M, some ⟨M, decide (M = M)⟩⟩ (s.owners T) T
        ⟨0, .EXEC, false, false, some ⟨T, .switched (.call M) none⟩, s.owners T + 1⟩ := by
      refine .thread _ rfl (fun heq => absurd heq.symm hT) fun _ => ?_
      rw [if_neg (Ne.symm hT)]
    have hdM : Described T M ⟨M, some ⟨M, decide (M = M)⟩⟩ k M
        ⟨id, .EXEC, true, cb, some ⟨M, .entry (decide (M = M))⟩, k + 2⟩ :=
      .running id cb _ (Ne.symm hT) rfl
    rw [hcall]
    refine h.switch (.inr rfl) hstack.symm rfl hT ⟨rfl, rfl, rfl, rfl, rfl, rfl⟩ rfl rfl
      (by rw [ho]; exact Option.some_ne_none _) ?_ ?_ hdT hdM (.inr (.inl rfl))
    · intro q
      show (if q = M then _ else if q = T then _ else if q = M then _ else s.objects q) = _
      by_cases hq : q = M
      · subst hq
        rw [if_pos rfl, if_neg (Ne.symm hT), if_pos rfl]
      · simp only [if_neg hq]
    · intro q
      show (if q = M then k else s.owners q) = _
      by_cases hq : q = T
      · subst hq
        rw [if_neg hT, if_pos rfl]
      · rw [if_neg hq]

/-- The scheduler's own fiber goes back to the thread's. -/
theorem healthy_back {s : FiberThread} (h : Healthy T M s) (hM : s.cpu.stack = M) (hT : M ≠ T)
    {o : Object} {code : Code}
    (hd : Described T M ⟨T, none⟩ (s.owners M + 1) M { o with m_ctx := some ⟨M, code⟩ }) :
    Carried T M s ((s.setObject M (some o)).back M code) := by
  subst hM
  obtain ⟨ot, hot, hdt⟩ := h.exists (p := T) (.inl rfl)
  obtain ⟨hctx, hdt⟩ : ot.m_ctx = some ⟨T, .switched (.call s.cpu.stack) none⟩ ∧
      Described T s.cpu.stack ⟨T, none⟩ (s.owners T) T ot := by
    cases hdt with
    | thread ctx hp _ hctx =>
      refine ⟨?_, .thread ctx hp (fun _ => rfl) fun hne => absurd rfl hne⟩
      rw [hctx hT, if_neg hT]
    | running _ _ _ hne _ => exact absurd rfl hne
    | waiting _ _ hne _ _ _ => exact absurd rfl hne
    | parked _ _ _ hne _ _ _ => exact absurd rfl hne
    | fresh _ _ hne _ _ _ => exact absurd rfl hne
    | finished _ _ _ hne _ _ _ _ => exact absurd rfl hne
  let s₁ := (s.setObject s.cpu.stack (some o)).SetThis (some T)
  let s₂ := s₁.setObject s.cpu.stack (some { o with m_ctx := some ⟨s.cpu.stack, code⟩ })
  have hot₁ : s₁.objects T = some ot := (if_neg (Ne.symm hT)).trans hot
  have hot₂ : s₂.objects T = some ot := (if_neg (Ne.symm hT)).trans hot₁
  -- the thread's fiber goes on behind call, which does nothing more
  have hback : (s.setObject s.cpu.stack (some o)).back s.cpu.stack code =
      { s₂.setOwners s.cpu.stack (s.owners s.cpu.stack + 1) with cpu := ⟨T, none⟩ } := by
    rw [back, show (s.setObject s.cpu.stack (some o)).t_threadFiber = some T from h.thread,
      show ((s.setObject s.cpu.stack (some o)).SetThis (some T)).t_threadFiber = some T from h.thread]
    have hswap := swapcontext_eq (s := s₁) code (if_pos rfl) hot₁ hT hctx
    refine hswap.trans ?_
    show s₂.resume _ = _
    simp only [resume, hot₂]
    rfl
  rw [hback]
  refine h.switch (.inl rfl) rfl rfl hT ⟨rfl, rfl, rfl, rfl, rfl, rfl⟩ rfl rfl
    (by rw [hot]; exact Option.some_ne_none ot) ?_ ?_ hd hdt (.inl rfl)
  · intro q
    show (if q = _ then _ else (if q = _ then _ else s.objects q)) = _
    by_cases hq : q = s.cpu.stack
    · rw [if_pos hq, if_pos hq]
    · rw [if_neg hq, if_neg hq, if_neg hq]
      split
      · rename_i hqT
        rw [hqT, hot]
      · rfl
  · intro q
    show (if q = _ then _ else s.owners q) = _
    split
    · rfl
    · split
      · rename_i hqT
        rw [hqT]
      · rfl

theorem healthy_finish {s : FiberThread} (h : Healthy T M s) {main : MainFrame}
    (hmain : s.cpu.main = some main) (threw : Bool) : Carried T M s (s.finish main threw) := by
  have hT : s.cpu.stack ≠ T := by
    intro heq
    obtain ⟨o, ho, hd⟩ := h.exists (p := T) (.inl rfl)
    cases hd with
    | thread ctx _ hnone _ =>
      rw [hnone heq] at hmain
      cases hmain
    | running _ _ _ hne _ => exact hne rfl
    | waiting _ _ hne _ _ _ => exact hne rfl
    | parked _ _ _ hne _ _ _ => exact hne rfl
    | fresh _ _ hne _ _ _ => exact hne rfl
    | finished _ _ _ hne _ _ _ _ => exact hne rfl
  obtain ⟨id, cb, ctx, ho, hframe⟩ := h.task hT
  obtain rfl : main = ⟨s.cpu.stack, decide (s.cpu.stack = M)⟩ :=
    Option.some.inj (hmain.symm.trans hframe)
  -- `cur` is not the last pointer: whoever let the fiber run keeps one
  let x : State := if threw then .EXCEPT else .TERM
  let cb' : Bool := if threw then cb else false
  have hx : x = .TERM ∨ x = .EXCEPT := by
    cases threw with
    | true => exact .inr rfl
    | false => exact .inl rfl
  have hfinish : s.finish ⟨s.cpu.stack, decide (s.cpu.stack = M)⟩ threw =
      if s.cpu.stack = M then
        (s.setObject s.cpu.stack (some ⟨id, x, true, cb', ctx, s.owners s.cpu.stack + 1⟩)).back
          s.cpu.stack .last
      else
        (s.setObject s.cpu.stack (some ⟨id, x, true, cb', ctx, s.owners s.cpu.stack + 1⟩)).swapOut
          s.cpu.stack .last := by
    have hmodify : s.modify s.cpu.stack (fun o => if threw then { o with m_state := .EXCEPT }
        else { o with m_cb := false, m_state := .TERM }) =
          s.setObject s.cpu.stack (some ⟨id, x, true, cb', ctx, s.owners s.cpu.stack + 2⟩) := by
      rw [modify_eq ho]
      cases threw with
      | true => rfl
      | false => rfl
    have hrelease : (s.setObject s.cpu.stack
        (some ⟨id, x, true, cb', ctx, s.owners s.cpu.stack + 2⟩)).release s.cpu.stack =
          s.setObject s.cpu.stack (some ⟨id, x, true, cb', ctx, s.owners s.cpu.stack + 1⟩) := by
      rw [release, objects_setObject, if_pos rfl]
      dsimp only
      rw [if_neg (by omega), setObject_setObject]
      rfl
    simp only [finish, hmodify, hrelease, decide_eq_true_eq]
  rw [hfinish]
  split
  · rename_i hM
    refine hM ▸ healthy_back (o := ⟨id, x, true, cb', ctx, s.owners s.cpu.stack + 1⟩) h hM (hM ▸ hT) ?_
    rw [hM]
    exact .finished id cb' x (hM ▸ hT) (Ne.symm (hM ▸ hT)) (fun _ => rfl) (Nat.succ_pos _) hx
  · rename_i hM
    refine healthy_swapOut h rfl hT hM fun main => ?_
    have hsettled : settled (⟨id, x, true, cb', some ⟨s.cpu.stack, .last⟩, s.owners s.cpu.stack + 1⟩ :
        Object) = (⟨id, x, true, cb', some ⟨s.cpu.stack, .last⟩, s.owners s.cpu.stack + 1⟩, 1) := by
      rcases hx with hx | hx <;> simp [settled, hx]
    rw [hsettled]
    exact .finished id cb' x hT (Ne.symm hM) (fun heq => absurd heq hM) (Nat.succ_pos _) hx

/-! ## Section 5: Runs -/

theorem healthy_act {s : FiberThread} (h : Healthy T M s) {l : Label} (hen : s.enabled l = true)
    (hl : l ≠ .exit) : Carried T M s (s.act l) := by
  cases l with
  | create => exact healthy_create h
  | copy p =>
    have hp : 0 < s.owners p := of_decide_eq_true hen
    obtain ⟨o, ho, -⟩ := h.owned hp
    exact healthy_copy h ho (.inl hp)
  | drop p => exact healthy_drop h (of_decide_eq_true hen)
  | keepThis => exact healthy_keepThis h
  | reset p cb => exact healthy_reset h cb hen
  | swapIn p => exact healthy_swapIn h hen
  | call p => exact healthy_call h hen
  | yieldTo ready => exact healthy_yieldTo h ready hen
  | finish threw =>
    obtain ⟨main, hmain⟩ := Option.isSome_iff_exists.mp hen
    simp only [act, hmain]
    exact healthy_finish h hmain threw
  | exit => exact absurd rfl hl

/-- The thread has ended. -/
structure Ended (s : FiberThread) : Prop where
  exited  : s.exited = true
  fault   : s.fault = none
  counted : s.s_fiber_count = s.live.card

/-- The thread's fiber goes with `t_threadFiber` unless somebody kept a pointer to it. -/
theorem ended_exit {s : FiberThread} (h : Healthy T M s) (hen : s.enabled .exit = true) :
    Ended (s.act .exit) ∧ ∀ q, q ≠ T →
      (s.act .exit).objects q = s.objects q ∧ (s.act .exit).owners q = s.owners q := by
  have hstack : T = s.cpu.stack := by
    have hen := of_decide_eq_true hen
    rw [h.thread, Option.some.injEq] at hen
    exact hen
  obtain ⟨o, ho, hd⟩ := h.exists (p := T) (.inl rfl)
  generalize hk : s.owners T = k at hd
  obtain ⟨ctx, rfl⟩ : ∃ ctx, o = ⟨0, .EXEC, false, false, ctx, k + 1⟩ := by
    cases hd with
    | thread ctx _ _ _ => exact ⟨ctx, rfl⟩
    | running _ _ _ hne _ => exact absurd rfl hne
    | waiting _ _ hne _ _ _ => exact absurd rfl hne
    | parked _ _ _ hne _ _ _ => exact absurd rfl hne
    | fresh _ _ hne _ _ _ => exact absurd rfl hne
    | finished _ _ _ hne _ _ _ _ => exact absurd rfl hne
  have hmem : T ∈ s.live := by
    simp only [live, Finset.mem_filter, Finset.mem_range, ho]
    exact ⟨h.below T (by rw [ho]; exact Option.some_ne_none _), Option.some_ne_none _⟩
  have hact : s.act .exit = { s.release T with t_threadFiber := none, exited := true } := by
    simp only [act, h.thread]
  rw [hact]
  cases k with
  | zero =>
    -- the last pointer: `~Fiber` of a fiber without a stack
    have hgone : s.release T =
        { s.setObject T none with s_fiber_count := s.s_fiber_count - 1, t_fiber := none } := by
      have hthis : s.t_fiber = some T := h.this.trans (congrArg some hstack.symm)
      simp [release, ho, destroy, assert, hthis, SetThis, setObject]
    rw [hgone]
    refine ⟨⟨rfl, h.fault, ?_⟩, fun q hq => ⟨if_neg hq, rfl⟩⟩
    have hcard : (s.live.erase T).card = s.s_fiber_count - 1 := by
      rw [Finset.card_erase_of_mem hmem, h.counted]
    exact hcard.symm.trans
      (congrArg Finset.card (live_erase (by rfl) (if_pos rfl) fun q hq => if_neg hq)).symm
  | succ k =>
    have hless : s.release T = s.setObject T (some ⟨0, .EXEC, false, false, ctx, k + 1⟩) := by
      simp only [release, ho]
      rw [if_neg (by omega)]
      rfl
    rw [hless]
    refine ⟨⟨rfl, h.fault, ?_⟩, fun q hq => ⟨if_neg hq, rfl⟩⟩
    refine h.counted.trans (congrArg Finset.card (live_congr (by rfl) fun q => ?_)).symm
    show (if q = T then _ else s.objects q) = none ↔ _
    by_cases hq : q = T
    · subst hq
      simp [ho]
    · rw [if_neg hq]

def Safe (T M : Ptr) (s : FiberThread) : Prop := Healthy T M s ∨ Ended s

theorem next_some {s t : FiberThread} {l : Label} (hnext : s.next l = some t) :
    s.exited = false ∧ s.enabled l = true ∧ t = s.act l := by
  unfold next at hnext
  split at hnext
  · rename_i hgo
    exact ⟨hgo.2.1, hgo.2.2, (Option.some.inj hnext).symm⟩
  · cases hnext

theorem Safe.running {s : FiberThread} (h : Safe T M s) (hexited : s.exited = false) :
    Healthy T M s := by
  rcases h with h | h
  · exact h
  · rw [h.exited] at hexited
    cases hexited

theorem safe_next {s t : FiberThread} {l : Label} (h : Safe T M s) (hnext : s.next l = some t) :
    Safe T M t := by
  obtain ⟨hexited, hen, rfl⟩ := next_some hnext
  have hhealthy := h.running hexited
  by_cases hl : l = .exit
  · subst hl
    exact .inr (ended_exit hhealthy hen).1
  · exact .inl (healthy_act hhealthy hen hl).healthy

theorem healthy_worker : Healthy 0 0 worker := by
  -- a worker thread has the fiber GetThis made for it and no other
  have hobject : ∀ p, worker.objects p =
      if p = 0 then some ⟨0, .EXEC, false, false, none, 1⟩ else none := by
    intro p
    by_cases hp : p = 0
    · subst hp
      rfl
    · simp [worker, GetThis, empty, newMain, copy, modify, release, setObject, SetThis, hp]
  refine ⟨rfl, rfl, rfl, rfl, rfl, ?_, fun p _ => rfl, ?_, ?_, by decide, by decide⟩
  · intro p o ho
    rw [hobject] at ho
    split at ho
    · rename_i hp
      subst hp
      obtain rfl := Option.some.inj ho
      exact .thread none rfl (fun _ => rfl) fun hne => absurd rfl hne
    · cases ho
  · intro p hp
    have hzero : p = 0 := by
      rcases hp with hp | hp | ⟨hp, -⟩
      · exact hp
      · exact hp
      · exact hp
    rw [hobject, if_pos hzero]
    exact Option.some_ne_none _
  · intro p hp
    rw [hobject] at hp
    split at hp
    · rename_i hzero
      rw [hzero]
      decide
    · exact absurd rfl hp

theorem healthy_caller : Healthy 0 1 caller := by
  -- the caller's thread has that fiber and the scheduler's own
  have hobject : ∀ p, caller.objects p =
      if p = 0 then some ⟨0, .EXEC, false, false, none, 1⟩
      else if p = 1 then some ⟨1, .INIT, true, true, some ⟨1, .entry true⟩, 1⟩ else none := by
    intro p
    by_cases hp : p = 0
    · subst hp
      rfl
    · by_cases hp' : p = 1
      · subst hp'
        rfl
      · simp [caller, GetThis, empty, newMain, newFiber, copy, modify, release, setObject, SetThis,
          setOwners, hp, hp']
  have howners : ∀ p, caller.owners p = if p = 1 then 1 else 0 := fun p => rfl
  refine ⟨rfl, rfl, rfl, rfl, rfl, ?_, ?_, ?_, ?_, by decide, by decide⟩
  · intro p o ho
    rw [hobject] at ho
    rw [howners]
    split at ho
    · rename_i hp
      subst hp
      obtain rfl := Option.some.inj ho
      exact .thread none rfl (fun _ => rfl) fun hne => absurd rfl hne
    · split at ho
      · rename_i hp
        subst hp
        obtain rfl := Option.some.inj ho
        exact .fresh 1 true (by decide) (by decide) (fun _ => rfl) (by decide)
      · cases ho
  · intro p hp
    rw [hobject] at hp
    rw [howners]
    split
    · rename_i hone
      subst hone
      cases hp
    · rfl
  · intro p hp
    have hzero : p = 0 := by
      rcases hp with hp | hp | ⟨hp, hne⟩
      · exact hp
      · exact hp
      · exact absurd rfl hne
    rw [hobject, if_pos hzero]
    exact Option.some_ne_none _
  · intro p hp
    rw [hobject] at hp
    split at hp
    · rename_i hzero
      rw [hzero]
      decide
    · split at hp
      · rename_i hone
        rw [hone]
        decide
      · exact absurd rfl hp

theorem safe_run {s₀ s : FiberThread} {tr : List (FiberThread × Label)}
    (hinit : fiberThreads.init s₀) (hrun : Run fiberThreads s₀ tr s) : ∃ T M, Safe T M s := by
  rcases hinit with rfl | rfl
  · exact ⟨0, 0, hrun.invariant (I := Safe 0 0) (fun _ _ _ h hnext => safe_next h hnext)
      (.inl healthy_worker)⟩
  · exact ⟨0, 1, hrun.invariant (I := Safe 0 1) (fun _ _ _ h hnext => safe_next h hnext)
      (.inl healthy_caller)⟩

/-- A fiber's context is for its own stack, and goes on where its state says. -/
def Fits (s : FiberThread) (p : Ptr) (o : Object) : Prop :=
  match o.m_state with
  | .INIT           => ∃ caller, o.m_ctx = some ⟨p, .entry caller⟩
  | .HOLD | .READY  => ∃ main, o.m_ctx = some ⟨p, .switched (.yieldTo p) main⟩
  | .TERM | .EXCEPT => o.m_ctx = some ⟨p, .last⟩
  | .EXEC           => p = s.cpu.stack ∨
                         ∃ main, o.m_ctx = some ⟨p, .switched (.swapIn s.cpu.stack) main⟩

theorem Described.fits {s : FiberThread} {k : Nat} {p : Ptr} {o : Object}
    (h : Described T M s.cpu k p o) (hstack : o.m_stack = true) : s.Fits p o := by
  cases h with
  | thread ctx _ _ _ => cases hstack
  | running id cb ctx _ hcpu => exact .inl (congrArg Cpu.stack hcpu).symm
  | waiting id cb _ _ _ _ => exact .inr ⟨_, rfl⟩
  | parked id cb x _ _ _ hx =>
    rcases hx with rfl | rfl
    · exact ⟨_, rfl⟩
    · exact ⟨_, rfl⟩
  | fresh id cb _ _ _ _ => exact ⟨_, rfl⟩
  | finished id cb x _ _ _ _ hx =>
    rcases hx with rfl | rfl
    · rfl
    · rfl

end FiberThread

/-- A fiber that yielded and that nobody has a pointer to stays as it is,
    whatever happens: it never runs again and is never freed. -/
theorem parked_fiber_kept {s₀ s t : FiberThread} {tr tr' : List (FiberThread × FiberThread.Label)}
    (hinit : fiberThreads.init s₀) (hrun : Run fiberThreads s₀ tr s) {p : Ptr} {o : Object}
    (ho : s.objects p = some o) (hstate : o.m_state = .HOLD ∨ o.m_state = .READY)
    (howners : s.owners p = 0) (hlater : Run fiberThreads s tr' t) :
    t.objects p = some o ∧ t.owners p = 0 := by
  obtain ⟨T, M, hsafe⟩ := FiberThread.safe_run hinit hrun
  have h : FiberThread.Safe T M t ∧ t.objects p = some o ∧ t.owners p = 0 := by
    refine hlater.invariant
      (I := fun s => FiberThread.Safe T M s ∧ s.objects p = some o ∧ s.owners p = 0) ?_
      ⟨hsafe, ho, howners⟩
    intro s l t ⟨hsafe, ho, howners⟩ hnext
    obtain ⟨hexited, hen, rfl⟩ := FiberThread.next_some hnext
    have hhealthy := hsafe.running hexited
    -- a fiber in one of these states is parked, so it is none of the fibers of this step
    obtain ⟨hT, hM, hcpu⟩ : p ≠ T ∧ p ≠ M ∧ p ≠ s.cpu.stack := by
      have hd := hhealthy.objects p o ho
      cases hd with
      | thread ctx _ _ _ => simp at hstate
      | running id cb ctx _ _ => simp at hstate
      | waiting id cb _ _ _ _ => simp at hstate
      | parked id cb x hT hM hne _ => exact ⟨hT, hM, Ne.symm hne⟩
      | fresh id cb _ _ _ _ => simp at hstate
      | finished id cb x _ _ _ _ hx => rcases hx with rfl | rfl <;> simp at hstate
    refine ⟨FiberThread.safe_next hsafe hnext, ?_⟩
    by_cases hl : l = .exit
    · subst hl
      obtain ⟨hobject, hown⟩ := (FiberThread.ended_exit hhealthy hen).2 p hT
      exact ⟨hobject.trans ho, hown.trans howners⟩
    · obtain ⟨hobject, hown⟩ := (FiberThread.healthy_act hhealthy hen hl).spares p
        (by rw [ho]; exact Option.some_ne_none o) hT hM hcpu howners
      exact ⟨hobject.trans ho, hown⟩
  exact h.2

/-- A callback that yields without giving anybody a pointer to its fiber. -/
theorem parked_fiber_kept_callback :
    ∃ s t tr tr', Run fiberThreads FiberThread.worker tr s ∧ Run fiberThreads s tr' t ∧
      t.exited = true ∧ t.s_fiber_count = 1 ∧ t.objects 1 = s.objects 1 ∧ t.owners 1 = 0 := by
  have hrun := fiberThreads.run_of_exec (s := FiberThread.worker)
    [.create, .swapIn 1, .yieldTo false, .drop 1] (by decide)
  have hlater := fiberThreads.run_of_exec
    (s := (fiberThreads.exec FiberThread.worker
      [.create, .swapIn 1, .yieldTo false, .drop 1]).get (by decide))
    [.create, .swapIn 2, .finish false, .drop 2, .exit] (by decide)
  obtain ⟨hobject, howners⟩ := parked_fiber_kept (p := 1) (.inl rfl) hrun rfl (.inl rfl) rfl hlater
  exact ⟨_, _, _, _, hrun, hlater, by decide, by decide, hobject, howners⟩

end MNSER
