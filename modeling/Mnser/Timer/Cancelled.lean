import Mnser.Timer.Answers
import Mnser.Timer.Run

/-! # Callbacks of cancelled timers

    `listExpiredCb` copies the callbacks of the expired timers into a vector
    of the worker, `idle` hands the vector to `schedule`, and some worker
    takes the copies out of the queue, each under the lock of the queue, and
    starts them later, without it.  A one-shot timer gives its callback away
    with the copy, so `cancel` cannot succeed any more; a recurring timer
    keeps it. -/

namespace MNSER

open LTS

variable {Callback : Type}

/-! ## Section 1: From the timer to the worker -/

/-- A copy of a callback, with the timer it comes from. -/
structure Copy (Callback : Type) where
  timer : TimerId
  cb    : Callback
  deriving DecidableEq

structure Dispatch (Callback : Type) where
  timers    : Periods Callback
  /-- the vectors `cbs` of the workers in `idle`, each copy with its worker -/
  cbs       : List (Nat × Copy Callback)
  /-- the queue of the scheduler, `m_fibers` -/
  fibers    : List (Copy Callback)
  /-- the entries `ft` of the workers in `run`, out of the queue and not started -/
  fts       : List (Nat × Copy Callback)
  /-- the timers that `cancel` has returned true for -/
  cancelled : List TimerId

inductive DispatchLabel (Callback : Type) where
  | addTimer (ms : Nat) (cb : Option Callback) (recurring : Bool) (addr now : Nat)
  | cancel (id : TimerId)
  | refresh (id : TimerId) (now : Nat)
  | reset (id : TimerId) (ms : Nat) (from_now : Bool) (now : Nat)
  | listExpiredCb (w now probe : Nat)
  /-- `schedule(cbs.begin(), cbs.end())` and `cbs.clear()` -/
  | schedule (w : Nat)
  /-- the worker `w` takes the entry at `n` out of the queue -/
  | take (w n : Nat)
  /-- the worker `w` swaps in a fiber for the callback it has taken -/
  | start (w : Nat)

namespace Dispatch

/-- The copies `listExpiredCb` makes; `schedule` drops the empty ones. -/
def copies (m : TimerManager Callback) (now probe : Nat) : List (Copy Callback) :=
  (m.expiredIds now probe).filterMap fun id => (m.heap id).cb.map (Copy.mk id)

/-- A call that makes no copies. -/
def call (s : Dispatch Callback) (c : TimerCall Callback) : Option (Dispatch Callback) :=
  (s.timers.next c).map fun t => { s with timers := t }

/-- `cancel` returns true. -/
def cancels (s : Dispatch Callback) (id : TimerId) : Bool :=
  (s.timers.manager.cancel id).any Prod.snd

def next (s : Dispatch Callback) : DispatchLabel Callback → Option (Dispatch Callback)
  | .addTimer ms cb recurring addr now => s.call (.addTimer ms cb recurring addr now)
  | .cancel id =>
    (s.call (.cancel id)).map fun t =>
      { t with cancelled := if s.cancels id then id :: s.cancelled else s.cancelled }
  | .refresh id now => s.call (.refresh id now)
  | .reset id ms from_now now => s.call (.reset id ms from_now now)
  | .listExpiredCb w now probe =>
    if ∀ c ∈ s.cbs, c.1 ≠ w then
      (s.call (.listExpiredCb now probe)).map fun t =>
        { t with cbs := s.cbs ++ (copies s.timers.manager now probe).map (Prod.mk w) }
    else none
  | .schedule w =>
    some { s with cbs    := s.cbs.filter fun c => c.1 ≠ w
                  fibers := s.fibers ++ (s.cbs.filter fun c => c.1 = w).map Prod.snd }
  | .take w n =>
    if ∀ c ∈ s.fts, c.1 ≠ w then
      s.fibers[n]?.map fun c =>
        { s with fibers := s.fibers.eraseIdx n, fts := s.fts ++ [(w, c)] }
    else none
  | .start w =>
    if ∃ c ∈ s.fts, c.1 = w then some { s with fts := s.fts.filter fun c => c.1 ≠ w } else none

/-- The copies that have been made and not started. -/
def inFlight (s : Dispatch Callback) : List (Copy Callback) :=
  s.cbs.map Prod.snd ++ s.fibers ++ s.fts.map Prod.snd

/-- With the timers just constructed. -/
def empty (Callback : Type) (now : Nat) : Dispatch Callback :=
  ⟨.start Callback now, [], [], [], []⟩

end Dispatch

def dispatch (Callback : Type) : System (Dispatch Callback) (DispatchLabel Callback) where
  init s := ∃ now, s = Dispatch.empty Callback now
  next   := Dispatch.next

/-! ## Section 2: One step -/

/-- Timers keep their kind, and a callback that is gone does not come back. -/
theorem Periods.ages_next {s t : Periods Callback} (h : Inv s) {c : TimerCall Callback}
    (hnext : s.next c = some t) : TimerManager.Ages s.manager t.manager := by
  -- no call brings a callback back or changes whether the timer recurs
  cases c with
  | addTimer ms cb recurring addr now =>
    obtain ⟨_, heq⟩ := Option.ite_none_right_eq_some.mp hnext
    obtain rfl := Option.some.inj heq
    exact TimerManager.ages_addTimer s.manager ms addr now cb recurring
  | cancel id =>
    obtain ⟨_, heq⟩ := Option.ite_none_right_eq_some.mp hnext
    obtain ⟨⟨m, b⟩, hcancel, rfl⟩ := Option.map_eq_some_iff.mp heq
    by_cases hcb : (s.manager.heap id).cb.isSome = true
    · rw [TimerManager.cancel_of_cb h.set hcb] at hcancel
      obtain ⟨rfl, _⟩ := Prod.mk.inj (Option.some.inj hcancel)
      exact TimerManager.ages_of_heap (i := id) rfl (fun _ => rfl) rfl fun _ => rfl
    · rw [TimerManager.cancel_of_no_cb hcb] at hcancel
      obtain ⟨rfl, _⟩ := Prod.mk.inj (Option.some.inj hcancel)
      exact TimerManager.Ages.refl s.manager
  | refresh id now =>
    obtain ⟨_, heq⟩ := Option.ite_none_right_eq_some.mp hnext
    obtain rfl := Option.some.inj heq
    by_cases hcb : (s.manager.heap id).cb.isSome = true
    · show TimerManager.Ages s.manager (s.manager.refresh id now).1
      rw [TimerManager.refresh_of_cb h.set hcb]
      exact TimerManager.ages_of_heap (i := id) rfl (fun _ => rfl) rfl fun hnone => hnone
    · show TimerManager.Ages s.manager (s.manager.refresh id now).1
      rw [TimerManager.refresh_of_no_cb hcb]
      exact TimerManager.Ages.refl s.manager
  | reset id ms from_now now =>
    obtain ⟨_, heq⟩ := Option.ite_none_right_eq_some.mp hnext
    obtain rfl := Option.some.inj heq
    show TimerManager.Ages s.manager (s.manager.reset id ms from_now now).1
    by_cases hshort : ms = (s.manager.heap id).ms ∧ from_now = false
    · rw [TimerManager.reset, if_pos hshort]
      exact TimerManager.Ages.refl s.manager
    · by_cases hcb : (s.manager.heap id).cb.isSome = true
      · obtain ⟨front, heq⟩ := TimerManager.reset_of_cb h.set hcb hshort now
        rw [heq]
        exact TimerManager.ages_of_heap (i := id) rfl (fun _ => rfl) rfl fun hnone => hnone
      · rw [TimerManager.reset_of_no_cb hcb hshort]
        exact TimerManager.Ages.refl s.manager
  | listExpiredCb now probe =>
    obtain ⟨_, heq⟩ := Option.ite_none_right_eq_some.mp hnext
    obtain rfl := Option.some.inj heq
    have hspec := TimerManager.listExpiredCb_expires h.set now probe
    refine ⟨Nat.le_of_eq hspec.created.symm, fun j _ => ?_, fun j _ hnone => ?_⟩
    · show ((s.manager.listExpiredCb now probe).1.heap j).recurring = _
      rw [hspec.heap j]
      split
      · exact TimerManager.handOut_recurring _ _
      · rfl
    · show ((s.manager.listExpiredCb now probe).1.heap j).cb = none
      rw [hspec.heap j]
      split
      · rw [TimerManager.handOut_cb, hnone]
        split <;> rfl
      · exact hnone

namespace Dispatch

/-- A one-shot timer with a copy in flight has no callback left, and neither has
    a cancelled timer. -/
structure Inv (s : Dispatch Callback) : Prop where
  timers    : s.timers.Inv
  inFlight  : ∀ c ∈ s.inFlight, c.timer < s.timers.manager.created ∧
                ((s.timers.manager.heap c.timer).recurring = false →
                  (s.timers.manager.heap c.timer).cb = none)
  cancelled : ∀ id ∈ s.cancelled, id < s.timers.manager.created ∧
                (s.timers.manager.heap id).cb = none

/-- No copy of a cancelled timer is waiting to be started. -/
def Clean (s : Dispatch Callback) : Prop := ∀ c ∈ s.inFlight, c.timer ∉ s.cancelled

/-- A recurring timer is not cancelled while a copy of its callback is waiting to
    be started. -/
def CancelsInTime (s : Dispatch Callback) : DispatchLabel Callback → Prop
  | .cancel id =>
    s.cancels id = true → (s.timers.manager.heap id).recurring = true →
      ∀ c ∈ s.inFlight, c.timer ≠ id
  | _ => True

instance (s : Dispatch Callback) : (l : DispatchLabel Callback) → Decidable (s.CancelsInTime l)
  | .addTimer _ _ _ _ _  => inferInstanceAs (Decidable True)
  | .cancel _            => inferInstanceAs (Decidable (_ → _ → _))
  | .refresh _ _         => inferInstanceAs (Decidable True)
  | .reset _ _ _ _       => inferInstanceAs (Decidable True)
  | .listExpiredCb _ _ _ => inferInstanceAs (Decidable True)
  | .schedule _          => inferInstanceAs (Decidable True)
  | .take _ _            => inferInstanceAs (Decidable True)
  | .start _             => inferInstanceAs (Decidable True)

theorem Inv.call {s t : Dispatch Callback} (h : Inv s) {c : TimerCall Callback}
    (hcall : s.call c = some t) :
    Inv t ∧ t.cbs = s.cbs ∧ t.inFlight = s.inFlight ∧ t.cancelled = s.cancelled ∧
      TimerManager.Ages s.timers.manager t.timers.manager := by
  obtain ⟨u, hnext, rfl⟩ := Option.map_eq_some_iff.mp hcall
  have hages := Periods.ages_next h.timers hnext
  refine ⟨⟨Periods.inv_next s.timers c u h.timers hnext, fun c hc => ?_, fun id hid => ?_⟩,
    rfl, rfl, rfl, hages⟩
  · obtain ⟨hlt, hspent⟩ := h.inFlight c hc
    refine ⟨Nat.lt_of_lt_of_le hlt hages.created, fun hone => ?_⟩
    rw [show (u.manager.heap c.timer).recurring = _ from hages.recurring _ hlt] at hone
    exact hages.spent _ hlt (hspent hone)
  · obtain ⟨hlt, hnone⟩ := h.cancelled id hid
    exact ⟨Nat.lt_of_lt_of_le hlt hages.created, hages.spent id hlt hnone⟩

theorem Clean.call {s t : Dispatch Callback} (hclean : Clean s) {c : TimerCall Callback}
    (hcall : s.call c = some t) : Clean t := by
  obtain ⟨u, hnext, rfl⟩ := Option.map_eq_some_iff.mp hcall
  exact hclean

/-- Copies are moved or started, and none is made. -/
theorem Inv.of_subset {s t : Dispatch Callback} (h : Inv s) (hclean : Clean s)
    (htimers : t.timers = s.timers) (hcancelled : t.cancelled = s.cancelled)
    (hsub : ∀ c ∈ t.inFlight, c ∈ s.inFlight) : Inv t ∧ Clean t := by
  refine ⟨⟨htimers ▸ h.timers, ?_, ?_⟩, ?_⟩
  · intro c hc
    rw [htimers]
    exact h.inFlight c (hsub c hc)
  · rw [htimers, hcancelled]
    exact h.cancelled
  · intro c hc
    rw [hcancelled]
    exact hclean c (hsub c hc)

theorem mem_inFlight {s : Dispatch Callback} {c : Copy Callback} :
    c ∈ s.inFlight ↔ (∃ w, (w, c) ∈ s.cbs) ∨ c ∈ s.fibers ∨ ∃ w, (w, c) ∈ s.fts := by
  simp [inFlight]

/-- Where a copy comes from. -/
theorem mem_copies {m : TimerManager Callback} {now probe : Nat} {c : Copy Callback}
    (hc : c ∈ copies m now probe) :
    c.timer ∈ m.expiredIds now probe ∧ (m.heap c.timer).cb = some c.cb := by
  obtain ⟨id, hid, hcb⟩ := List.mem_filterMap.mp hc
  obtain ⟨cb, hsome, rfl⟩ := Option.map_eq_some_iff.mp hcb
  exact ⟨hid, hsome⟩

/-- New copies come from timers that had their callback; a one-shot timer has
    lost it by then. -/
theorem inv_listExpiredCb {s t : Dispatch Callback} (h : Inv s) (hclean : Clean s) (w : Nat)
    {now probe : Nat} (hcall : s.call (.listExpiredCb now probe) = some t) :
    Inv { t with cbs := s.cbs ++ (copies s.timers.manager now probe).map (Prod.mk w) } ∧
    Clean { t with cbs := s.cbs ++ (copies s.timers.manager now probe).map (Prod.mk w) } := by
  obtain ⟨ht, hcbs, hsame, hcancelled, hages⟩ := h.call hcall
  have hmanager : t.timers.manager = (s.timers.manager.listExpiredCb now probe).1 := by
    obtain ⟨u, hnext, rfl⟩ := Option.map_eq_some_iff.mp hcall
    obtain ⟨_, heq⟩ := Option.ite_none_right_eq_some.mp hnext
    rw [← Option.some.inj heq]
  have hspec := TimerManager.listExpiredCb_expires h.timers.set now probe
  -- what is under way was copied by this call or before it
  have hold : ∀ c ∈ inFlight
      { t with cbs := s.cbs ++ (copies s.timers.manager now probe).map (Prod.mk w) },
      c ∈ copies s.timers.manager now probe ∨ c ∈ s.inFlight := by
    intro c hc
    rw [← hsame, mem_inFlight, hcbs]
    rcases mem_inFlight.mp hc with ⟨w', hc⟩ | hc
    · rcases List.mem_append.mp hc with hc | hc
      · exact Or.inr (Or.inl ⟨w', hc⟩)
      · obtain ⟨c', hc', heq⟩ := List.mem_map.mp hc
        obtain ⟨-, rfl⟩ := Prod.mk.inj heq
        exact Or.inl hc'
    · exact Or.inr (Or.inr hc)
  refine ⟨⟨ht.timers, fun c hc => ?_, ht.cancelled⟩, fun c hc => ?_⟩
  · rcases hold c hc with hnew | hc
    · obtain ⟨hid, _⟩ := mem_copies hnew
      have hlt := h.timers.set.created c.timer (List.mem_append_left _ (hspec.subset _ hid))
      refine ⟨Nat.lt_of_lt_of_le hlt hages.created, fun hone => ?_⟩
      show (t.timers.manager.heap c.timer).cb = none
      rw [show (t.timers.manager.heap c.timer).recurring = _ from hages.recurring _ hlt] at hone
      rw [hmanager, hspec.heap, if_pos hid, TimerManager.handOut_cb, hone]
      rfl
    · exact ht.inFlight c (hsame ▸ hc)
  · show c.timer ∉ t.cancelled
    rw [hcancelled]
    rcases hold c hc with hnew | hc
    · intro hmem
      have hnone := (h.cancelled _ hmem).2
      rw [(mem_copies hnew).2] at hnone
      cases hnone
    · exact hclean c hc

/-- `cancel` returns true for a timer that has its callback, and takes it away. -/
theorem cancels_cb {s t : Dispatch Callback} (h : Inv s) {id : TimerId}
    (hcall : s.call (.cancel id) = some t) (hcancels : s.cancels id = true) :
    id < s.timers.manager.created ∧ (s.timers.manager.heap id).cb.isSome = true ∧
      (t.timers.manager.heap id).cb = none := by
  obtain ⟨u, hnext, rfl⟩ := Option.map_eq_some_iff.mp hcall
  obtain ⟨hlt, heq⟩ := Option.ite_none_right_eq_some.mp hnext
  by_cases hcb : (s.timers.manager.heap id).cb.isSome = true
  · rw [TimerManager.cancel_of_cb h.timers.set hcb] at heq
    refine ⟨hlt, hcb, ?_⟩
    rw [← Option.some.inj heq, TimerManager.setTimer_self]
  · rw [cancels, TimerManager.cancel_of_no_cb hcb] at hcancels
    cases hcancels

theorem inv_cancel {s t : Dispatch Callback} (h : Inv s) (hclean : Clean s) {id : TimerId}
    (hcall : s.call (.cancel id) = some t) (hin : s.CancelsInTime (.cancel id)) :
    Inv { t with cancelled := if s.cancels id then id :: s.cancelled else s.cancelled } ∧
    Clean { t with cancelled := if s.cancels id then id :: s.cancelled else s.cancelled } := by
  obtain ⟨ht, _, hsame, hcancelled, hages⟩ := h.call hcall
  by_cases hcancels : s.cancels id = true
  · obtain ⟨hlt, hsome, hnone⟩ := cancels_cb h hcall hcancels
    rw [if_pos hcancels]
    refine ⟨⟨ht.timers, ht.inFlight, fun j hj => ?_⟩, fun c hc hmem => ?_⟩
    · rcases List.mem_cons.mp hj with rfl | hj
      · exact ⟨Nat.lt_of_lt_of_le hlt hages.created, hnone⟩
      · exact ht.cancelled j (hcancelled.symm ▸ hj)
    · have hc' : c ∈ s.inFlight := hsame ▸ hc
      rcases List.mem_cons.mp hmem with heq | hmem
      · by_cases hrec : (s.timers.manager.heap id).recurring = true
        · exact hin hcancels hrec c hc' heq
        · -- a one-shot timer with a copy in flight could not be cancelled
          have hspent := (h.inFlight c hc').2 (by rw [heq]; simpa using hrec)
          rw [heq] at hspent
          rw [hspent] at hsome
          cases hsome
      · exact hclean c hc' hmem
  · rw [if_neg hcancels, ← hcancelled]
    exact ⟨ht, hclean.call hcall⟩

theorem inv_next {s t : Dispatch Callback} (h : Inv s) (hclean : Clean s)
    {l : DispatchLabel Callback} (hin : s.CancelsInTime l) (hnext : s.next l = some t) :
    Inv t ∧ Clean t := by
  -- only the copying of listExpiredCb brings something under way; afterwards the copies move on
  cases l with
  | addTimer ms cb recurring addr now => exact ⟨(h.call hnext).1, hclean.call hnext⟩
  | refresh id now => exact ⟨(h.call hnext).1, hclean.call hnext⟩
  | reset id ms from_now now => exact ⟨(h.call hnext).1, hclean.call hnext⟩
  | cancel id =>
    obtain ⟨u, hcall, rfl⟩ := Option.map_eq_some_iff.mp hnext
    exact inv_cancel h hclean hcall hin
  | listExpiredCb w now probe =>
    obtain ⟨_, heq⟩ := Option.ite_none_right_eq_some.mp hnext
    obtain ⟨u, hcall, rfl⟩ := Option.map_eq_some_iff.mp heq
    exact inv_listExpiredCb h hclean w hcall
  | schedule w =>
    obtain rfl := Option.some.inj hnext
    refine h.of_subset hclean rfl rfl ?_
    intro c hc
    rw [mem_inFlight] at hc ⊢
    rcases hc with ⟨w', hc⟩ | hc | hc
    · exact Or.inl ⟨w', (List.mem_filter.mp hc).1⟩
    · rcases List.mem_append.mp hc with hc | hc
      · exact Or.inr (Or.inl hc)
      · obtain ⟨⟨w', c'⟩, hmem, rfl⟩ := List.mem_map.mp hc
        exact Or.inl ⟨w', (List.mem_filter.mp hmem).1⟩
    · exact Or.inr (Or.inr hc)
  | take w n =>
    obtain ⟨_, heq⟩ := Option.ite_none_right_eq_some.mp hnext
    obtain ⟨c₀, hc₀, rfl⟩ := Option.map_eq_some_iff.mp heq
    refine h.of_subset hclean rfl rfl ?_
    intro c hc
    rw [mem_inFlight] at hc ⊢
    rcases hc with hc | hc | ⟨w', hc⟩
    · exact Or.inl hc
    · exact Or.inr (Or.inl ((List.eraseIdx_sublist _ _).subset hc))
    · rcases List.mem_append.mp hc with hc | hc
      · exact Or.inr (Or.inr ⟨w', hc⟩)
      · obtain ⟨-, rfl⟩ := Prod.mk.inj (List.mem_singleton.mp hc)
        exact Or.inr (Or.inl (List.mem_of_getElem? hc₀))
  | start w =>
    obtain ⟨_, heq⟩ := Option.ite_none_right_eq_some.mp hnext
    obtain rfl := Option.some.inj heq
    refine h.of_subset hclean rfl rfl ?_
    intro c hc
    rw [mem_inFlight] at hc ⊢
    rcases hc with hc | hc | ⟨w', hc⟩
    · exact Or.inl hc
    · exact Or.inr (Or.inl hc)
    · exact Or.inr (Or.inr ⟨w', (List.mem_filter.mp hc).1⟩)

end Dispatch

/-! ## Section 3: Whole runs -/

open Dispatch in
/-- When no recurring timer is cancelled while a copy of its callback is waiting
    to be started, no callback of a timer is started after `cancel` has
    returned true for it. -/
theorem no_start_after_cancel {s₀ s : Dispatch Callback}
    {tr : List (Dispatch Callback × DispatchLabel Callback)}
    (hinit : (dispatch Callback).init s₀) (hrun : Run (dispatch Callback) s₀ tr s)
    (hin : ∀ p ∈ tr, p.1.CancelsInTime p.2) :
    ∀ u w, (u, .start w) ∈ tr → ∀ c, (w, c) ∈ u.fts → c.timer ∉ u.cancelled := by
  obtain ⟨now, rfl⟩ := hinit
  intro u w hmem c hc
  have hempty : Inv (empty Callback now) ∧ Clean (empty Callback now) :=
    ⟨⟨Periods.inv_start now, by simp [inFlight, empty], by simp [empty]⟩,
      by simp [Clean, inFlight, empty]⟩
  have hsteps := hrun.steps_invariant (I := fun s => Inv s ∧ Clean s) (G := CancelsInTime)
    (fun s l t h hl hnext => Dispatch.inv_next h.1 h.2 hl hnext) hin hempty
  exact (hsteps _ hmem).1.2 c (mem_inFlight.mpr (Or.inr (Or.inr ⟨w, hc⟩)))

/-- A one-shot timer runs to its end, and a recurring timer is cancelled after
    its callback was started. -/
theorem no_start_after_cancel_in_time :
    ∃ s tr, Run (dispatch Nat) (Dispatch.empty Nat 3600000) tr s ∧ s.cancelled = [1] ∧
      ∀ u w, (u, .start w) ∈ tr → ∀ c, (w, c) ∈ u.fts → c.timer ∉ u.cancelled := by
  have hrun := (dispatch Nat).run_of_exec (s := Dispatch.empty Nat 3600000)
    [.addTimer 20 (some 7) false 4096 3600000, .addTimer 50 (some 8) true 8192 3600000,
     .listExpiredCb 0 3600050 0, .schedule 0, .take 1 1, .take 2 0, .start 1, .start 2, .cancel 0,
     .cancel 1] rfl
  exact ⟨_, _, hrun, by decide, no_start_after_cancel ⟨_, rfl⟩ hrun (by decide)⟩

/-- The copy of a recurring timer's callback is in the queue when `cancel` returns
    true, and is started afterwards. -/
theorem start_after_cancel :
    ∃ s u v, Run (dispatch Nat) (Dispatch.empty Nat 3600000) s u ∧
      (dispatch Nat).next u (.start 1) = some v ∧
      ∃ c, (1, c) ∈ u.fts ∧ c.timer ∈ u.cancelled := by
  have hrun := (dispatch Nat).run_of_exec (s := Dispatch.empty Nat 3600000)
    [.addTimer 50 (some 8) true 8192 3600000, .listExpiredCb 0 3600050 0, .schedule 0,
     .cancel 0, .take 1 0] rfl
  exact ⟨_, _, _, hrun, rfl, ⟨0, 8⟩, by decide, by decide⟩

/-- So it is when a worker has taken the copy already. -/
example : ∃ s u v, Run (dispatch Nat) (Dispatch.empty Nat 3600000) s u ∧
    (dispatch Nat).next u (.start 1) = some v ∧
      ∃ c, (1, c) ∈ u.fts ∧ c.timer ∈ u.cancelled := by
  have hrun := (dispatch Nat).run_of_exec (s := Dispatch.empty Nat 3600000)
    [.addTimer 50 (some 8) true 8192 3600000, .listExpiredCb 0 3600050 0, .schedule 0,
     .take 1 0, .cancel 0] rfl
  exact ⟨_, _, _, hrun, rfl, ⟨0, 8⟩, by decide, by decide⟩

end MNSER
