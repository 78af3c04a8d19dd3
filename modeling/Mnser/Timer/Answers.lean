import Mnser.Timer.Addresses
import Mnser.Timer.Expiry

/-! # What the timer operations answer

    `cancel`, `refresh` and `reset` each look for a callback and for the timer
    in the set before they do anything.  In every state reached the timers
    with a callback are in the set, so the two tests agree; `reset` has a
    shortcut in front of both.

    Deadlines are `uint64_t` and may wrap around, the clock may go back and a
    timer may be made without a callback. -/

namespace MNSER

open LTS

variable {Callback : Type}

/-! ## Section 1: One operation -/

namespace TimerManager

variable {m : TimerManager Callback} {id : TimerId}

/-- A timer with a callback is in the set, and `find` leads to it. -/
theorem Addressed.find (h : Addressed m []) (hid : id ∈ m.timers) :
    OrderedSet.find m.less id m.timers = some id :=
  OrderedSet.find_eq hid (m.less_irrefl id) (h.eq_of_equiv (List.mem_append_left _ hid))

/-- A timer with a callback is pending. -/
theorem Addressed.mem_of_cb (h : Addressed m []) (hcb : (m.heap id).cb.isSome = true) :
    id ∈ m.timers := by
  have hmem := h.live id hcb
  rwa [List.append_nil] at hmem

/-- `cancel` on a timer with a callback. -/
theorem cancel_of_cb (h : Addressed m []) (hcb : (m.heap id).cb.isSome = true) :
    m.cancel id = some ((m.eraseId id).setTimer id { m.heap id with cb := none }, true) := by
  have hfind := h.find (h.mem_of_cb hcb)
  simp only [cancel, hcb, if_true, eraseId, less_setTimer_cb, setTimer_timers, hfind]
  rfl

theorem cancel_of_no_cb (hcb : ¬ (m.heap id).cb.isSome = true) :
    m.cancel id = some (m, false) := if_neg hcb

/-- `refresh` on a timer with a callback. -/
theorem refresh_of_cb (h : Addressed m []) (hcb : (m.heap id).cb.isSome = true) (now : Nat) :
    m.refresh id now =
      (m.requeue id { m.heap id with next := add64 now (m.heap id).ms }, true) := by
  have hfind := h.find (h.mem_of_cb hcb)
  have hnone : (m.heap id).cb.isNone = false := by simpa using hcb
  simp only [refresh, hnone, hfind]
  rfl

theorem refresh_of_no_cb (hcb : ¬ (m.heap id).cb.isSome = true) (now : Nat) :
    m.refresh id now = (m, false) := by
  rw [refresh, if_pos (by simpa using hcb)]

/-- What `reset` makes of a timer. -/
def resetTimer (m : TimerManager Callback) (id : TimerId) (ms : Nat) (from_now : Bool)
    (now : Nat) : Timer Callback :=
  let t := m.heap id
  { t with ms := ms, next := add64 (if from_now then now else sub64 t.next t.ms) ms }

/-- `reset` on a timer with a callback, without its shortcut. -/
theorem reset_of_cb (h : Addressed m []) (hcb : (m.heap id).cb.isSome = true) {ms : Nat}
    {from_now : Bool} (hshort : ¬ (ms = (m.heap id).ms ∧ from_now = false)) (now : Nat) :
    ∃ front, m.reset id ms from_now now =
      ((((m.eraseId id).setTimer id (m.resetTimer id ms from_now now)).addTimerLocked id).1,
        true, front) := by
  have hfind := h.find (h.mem_of_cb hcb)
  have hnone : (m.heap id).cb.isNone = false := by simpa using hcb
  refine ⟨(((m.eraseId id).setTimer id (m.resetTimer id ms from_now now)).addTimerLocked id).2, ?_⟩
  rw [reset, if_neg hshort, if_neg (by simp [hnone])]
  simp only [hfind]
  rfl

theorem reset_of_no_cb (hcb : ¬ (m.heap id).cb.isSome = true) {ms : Nat} {from_now : Bool}
    (hshort : ¬ (ms = (m.heap id).ms ∧ from_now = false)) (now : Nat) :
    m.reset id ms from_now now = (m, false, false) := by
  rw [reset, if_neg hshort, if_pos (by simpa using hcb)]

/-- A timer that goes out and in again is still pending, whatever the sums are. -/
theorem mem_timers_requeue (h : Addressed m []) (hid : id ∈ m.timers) {t : Timer Callback}
    (haddr : t.addr = (m.heap id).addr) {j : TimerId} :
    j ∈ (m.requeue id t).timers ↔ j ∈ m.timers := by
  have hout := (h.eraseId hid).setTimer t List.mem_cons_self haddr
  -- no other timer is at its address
  have hfresh : ∀ a ∈ ((m.eraseId id).setTimer id t).timers,
      (((m.eraseId id).setTimer id t).heap a).addr ≠
        (((m.eraseId id).setTimer id t).heap id).addr := by
    intro a ha heq
    have hsame := List.inj_on_of_nodup_map hout.addrs (List.mem_append_left _ ha)
      (List.mem_append_right _ List.mem_cons_self) heq
    exact (List.nodup_append.mp hout.nodup).2.2 a ha id List.mem_cons_self hsame
  rw [requeue, mem_insertId hfresh, setTimer_timers]
  have herase := OrderedSet.mem_erase (z := j) hid (m.less_irrefl id)
    (h.eq_of_equiv (List.mem_append_left _ hid)) (List.nodup_append.mp h.nodup).1
  rw [eraseId, herase]
  by_cases hj : j = id
  · simp [hj, hid]
  · simp [hj]

/-! ## Section 2: The loop of `listExpiredCb` -/

/-- The timers `listExpiredCb` takes out of the set. -/
def expiredIds (m : TimerManager Callback) (now probe : Nat) : List TimerId :=
  match m.timers with
  | [] => []
  | first :: _ =>
    if m.rollover now = false ∧ now < (m.heap first).next then []
    else expiredRange { m with previousTime := now } now probe (m.rollover now)

/-- Each timer of the loop is handed out once. -/
theorem expireAll_heap (now : Nat) (out : List TimerId) :
    ∀ {m : TimerManager Callback}, out.Nodup → ∀ j,
      (expireAll now out m).1.heap j =
        if j ∈ out then (m.heap j).handOut now else m.heap j := by
  induction out with
  | nil =>
    intro m _ j
    rfl
  | cons id rest ih =>
    intro m hnodup j
    obtain ⟨hid, hrest⟩ := List.nodup_cons.mp hnodup
    show (expireAll now rest (m.expireOne now id)).1.heap j = _
    rw [ih hrest j, expireOne_heap]
    by_cases hj : j = id
    · subst hj
      rw [if_neg hid, if_pos rfl, if_pos List.mem_cons_self]
    · rw [if_neg hj]
      simp only [List.mem_cons, hj, false_or]

/-- A timer is in the set after the loop if it was there or is recurring and
    has had its turn. -/
theorem mem_of_mem_expireAll (now : Nat) (out : List TimerId) :
    ∀ {m : TimerManager Callback} {j : TimerId}, out.Nodup → j ∈ (expireAll now out m).1.timers →
      j ∈ m.timers ∨ j ∈ out ∧ (m.heap j).recurring = true := by
  induction out with
  | nil =>
    intro m j _ hj
    exact Or.inl hj
  | cons id rest ih =>
    intro m j hnodup hj
    obtain ⟨hid, hrest⟩ := List.nodup_cons.mp hnodup
    rcases ih (m := m.expireOne now id) hrest hj with hmem | ⟨hmem, hrec⟩
    · by_cases hr : (m.heap id).recurring = true
      · rw [expireOne_of_recurring now hr] at hmem
        rcases OrderedSet.insert_subset hmem with rfl | hmem
        · exact Or.inr ⟨List.mem_cons_self, hr⟩
        · exact Or.inl hmem
      · rw [expireOne_of_oneShot now hr] at hmem
        exact Or.inl hmem
    · have hne : j ≠ id := fun heq => hid (heq ▸ hmem)
      rw [expireOne_heap, if_neg hne] at hrec
      exact Or.inr ⟨List.mem_cons_of_mem _ hmem, hrec⟩

theorem expireAll_created (now : Nat) (out : List TimerId) :
    ∀ {m : TimerManager Callback}, (expireAll now out m).1.created = m.created := by
  induction out with
  | nil =>
    intro m
    rfl
  | cons id rest ih =>
    intro m
    exact (ih (m := m.expireOne now id)).trans (expireOne_created m now id)

/-- The callbacks are copied in the order of the range. -/
theorem expireAll_cbs (now : Nat) (out : List TimerId) :
    ∀ {m : TimerManager Callback}, out.Nodup →
      (expireAll now out m).2 = out.map fun id => (m.heap id).cb := by
  induction out with
  | nil =>
    intro m _
    rfl
  | cons id rest ih =>
    intro m hnodup
    obtain ⟨hid, hrest⟩ := List.nodup_cons.mp hnodup
    show (m.heap id).cb :: (expireAll now rest (m.expireOne now id)).2 = _
    rw [ih hrest, List.map_cons]
    congr 1
    apply List.map_congr_left
    intro j hj
    have hne : j ≠ id := fun heq => hid (heq ▸ hj)
    rw [expireOne_heap, if_neg hne]

/-- What one call of `listExpiredCb` does to the timers. -/
structure Expires (m : TimerManager Callback) (now : Nat) (out : List TimerId)
    (m' : TimerManager Callback) (cbs : List (Option Callback)) : Prop where
  cbs     : cbs = out.map fun id => (m.heap id).cb
  subset  : ∀ j ∈ out, j ∈ m.timers
  heap    : ∀ j, m'.heap j = if j ∈ out then (m.heap j).handOut now else m.heap j
  timers  : ∀ j ∈ m'.timers, j ∈ m.timers ∧ (j ∈ out → (m.heap j).recurring = true)
  created : m'.created = m.created

/-- The two early returns, and the rest of the call. -/
theorem listExpiredCb_expiredIds (m : TimerManager Callback) (now probe : Nat) :
    (m.expiredIds now probe = [] ∧ ∃ t, m.listExpiredCb now probe =
      ({ m with previousTime := t }, [])) ∨
    (m.expiredIds now probe <+: m.timers ∧ m.listExpiredCb now probe =
      expireAll now (m.expiredIds now probe)
        { m with timers       := m.timers.drop (m.expiredIds now probe).length
                 previousTime := now }) := by
  by_cases hnil : m.timers = []
  · have hids : m.expiredIds now probe = [] := by simp only [expiredIds, hnil]
    have hcall : m.listExpiredCb now probe = (m, []) := by simp only [listExpiredCb, hnil]
    exact Or.inl ⟨hids, m.previousTime, hcall⟩
  · obtain ⟨first, rest, htimers⟩ := List.exists_cons_of_ne_nil hnil
    let range := expiredRange { m with previousTime := now } now probe (m.rollover now)
    have hids : m.expiredIds now probe =
        if m.rollover now = false ∧ now < (m.heap first).next then [] else range := by
      simp only [expiredIds, htimers, range]
    have hcall : m.listExpiredCb now probe =
        if m.rollover now = false ∧ now < (m.heap first).next then
          ({ m with previousTime := now }, [])
        else expireAll now range
          { m with timers := m.timers.drop range.length, previousTime := now } := by
      unfold listExpiredCb
      split
      · rename_i hcons
        exact absurd hcons hnil
      · rename_i first' rest' hcons
        rw [htimers] at hcons
        obtain ⟨rfl, rfl⟩ := List.cons.inj hcons
        rfl
    by_cases hearly : m.rollover now = false ∧ now < (m.heap first).next
    · rw [if_pos hearly] at hids hcall
      exact Or.inl ⟨hids, now, hcall⟩
    · rw [if_neg hearly] at hids hcall
      rw [hids]
      exact Or.inr ⟨expiredRange_isTake { m with previousTime := now } now probe _, hcall⟩

/-- One call of `listExpiredCb`, with sums that may wrap around. -/
theorem listExpiredCb_expires (h : Addressed m []) (now probe : Nat) :
    Expires m now (m.expiredIds now probe) (m.listExpiredCb now probe).1
      (m.listExpiredCb now probe).2 := by
  have hnodup : m.timers.Nodup := (List.nodup_append.mp h.nodup).1
  rcases m.listExpiredCb_expiredIds now probe with ⟨hnone, t, heq⟩ | ⟨htake, heq⟩
  · rw [heq, hnone]
    exact ⟨rfl, by simp, by simp, by simp, rfl⟩
  · have hout : (m.expiredIds now probe).Nodup := htake.sublist.nodup hnodup
    rw [heq]
    refine ⟨expireAll_cbs now _ hout, fun j hj => htake.subset hj,
      expireAll_heap now _ hout, fun j hj => ?_, expireAll_created now _⟩
    rcases mem_of_mem_expireAll now _ hout hj with hmem | ⟨hmem, hrec⟩
    · -- behind the expired ones
      refine ⟨List.mem_of_mem_drop hmem, fun hj => ?_⟩
      obtain ⟨rest, hrest⟩ := htake
      have hdrop : m.timers.drop (m.expiredIds now probe).length = rest := by
        rw [← hrest, List.drop_left]
      rw [hdrop] at hmem
      rw [← hrest] at hnodup
      exact absurd rfl ((List.nodup_append.mp hnodup).2.2 j hj j hmem)
    · exact ⟨htake.subset hmem, fun _ => hrec⟩

end TimerManager

/-! ## Section 3: Calls in any order -/

inductive TimerCall (Callback : Type) where
  | addTimer (ms : Nat) (cb : Option Callback) (recurring : Bool) (addr now : Nat)
  | cancel (id : TimerId)
  | refresh (id : TimerId) (now : Nat)
  | reset (id : TimerId) (ms : Nat) (from_now : Bool) (now : Nat)
  | listExpiredCb (now probe : Nat)

/-- The manager, and the clock reading at which the current period of each
    timer began. -/
structure Periods (Callback : Type) where
  manager     : TimerManager Callback
  periodStart : TimerId → Nat

namespace Periods

/-- The periods of the timers `ids` begin at `now`. -/
def begun (s : Periods Callback) (ids : List TimerId) (now : Nat) : TimerId → Nat :=
  fun j => if j ∈ ids then now else s.periodStart j

def next (s : Periods Callback) : TimerCall Callback → Option (Periods Callback)
  -- the allocator does not hand out the address of a member
  | .addTimer ms cb recurring addr now =>
    if ms < 2 ^ 64 ∧ now < 2 ^ 64 ∧ ∀ a ∈ s.manager.timers, (s.manager.heap a).addr ≠ addr then
      some ⟨(s.manager.addTimer ms cb recurring addr now).1, s.begun [s.manager.created] now⟩
    else none
  | .cancel id =>
    if id < s.manager.created then
      (s.manager.cancel id).map fun r => ⟨r.1, s.periodStart⟩
    else none
  | .refresh id now =>
    if id < s.manager.created ∧ now < 2 ^ 64 then
      let r := s.manager.refresh id now
      some ⟨r.1, s.begun (if r.2 then [id] else []) now⟩
    else none
  | .reset id ms from_now now =>
    if id < s.manager.created ∧ ms < 2 ^ 64 ∧ now < 2 ^ 64 then
      let r := s.manager.reset id ms from_now now
      some ⟨r.1, s.begun (if r.2.1 && from_now then [id] else []) now⟩
    else none
  | .listExpiredCb now probe =>
    if now < 2 ^ 64 then
      some ⟨(s.manager.listExpiredCb now probe).1, s.begun (s.manager.expiredIds now probe) now⟩
    else none

def start (Callback : Type) (now : Nat) : Periods Callback := ⟨.init now, fun _ => 0⟩

/-- The deadline of a pending timer is one interval after the start of its period. -/
structure Inv (s : Periods Callback) : Prop where
  set     : s.manager.Addressed []
  periods : ∀ id ∈ s.manager.timers, s.periodStart id < 2 ^ 64 ∧
              (s.manager.heap id).ms < 2 ^ 64 ∧
              (s.manager.heap id).next = add64 (s.periodStart id) (s.manager.heap id).ms

end Periods

def timerCalls (Callback : Type) : System (Periods Callback) (TimerCall Callback) where
  init s := ∃ now, s = Periods.start Callback now
  next   := Periods.next

namespace Periods

theorem inv_start (now : Nat) : Inv (start Callback now) where
  set     := .init now
  periods := by simp [start, TimerManager.init]

/-- A pending timer `id` becomes `t` and goes back in. -/
theorem Inv.requeue {s : Periods Callback} (h : Inv s) {id : TimerId} {t : Timer Callback}
    {m : TimerManager Callback} {starts : TimerId → Nat} (hid : id ∈ s.manager.timers)
    (haddr : t.addr = (s.manager.heap id).addr) (hset : m.Addressed [])
    (htimers : m.timers = (s.manager.requeue id t).timers)
    (hheap : m.heap = (s.manager.requeue id t).heap)
    (hothers : ∀ j, j ≠ id → starts j = s.periodStart j)
    (hself : starts id < 2 ^ 64 ∧ t.ms < 2 ^ 64 ∧ t.next = add64 (starts id) t.ms) :
    Inv ⟨m, starts⟩ where
  set     := hset
  periods := by
    intro j hj
    have hmem : j ∈ s.manager.timers := by
      rw [show (Periods.mk m starts).manager.timers = _ from htimers] at hj
      exact (TimerManager.mem_timers_requeue h.set hid haddr).mp hj
    show starts j < 2 ^ 64 ∧ (m.heap j).ms < 2 ^ 64 ∧ (m.heap j).next = add64 (starts j) (m.heap j).ms
    rw [hheap, TimerManager.requeue_heap]
    -- the periods of the others go on
    by_cases hje : j = id
    · rw [hje, TimerManager.setTimer_self]
      exact hself
    · rw [TimerManager.setTimer_ne _ _ hje, hothers j hje]
      exact h.periods j hmem

theorem begun_self (s : Periods Callback) (id : TimerId) (now : Nat) :
    s.begun [id] now id = now := if_pos List.mem_cons_self

theorem begun_ne (s : Periods Callback) {id j : TimerId} (h : j ≠ id) (now : Nat) :
    s.begun [id] now j = s.periodStart j := if_neg (by simpa using h)

theorem begun_nil (s : Periods Callback) (now : Nat) : s.begun [] now = s.periodStart :=
  funext fun _ => if_neg List.not_mem_nil

/-- The period of a new timer begins now. -/
theorem inv_addTimer {s : Periods Callback} (h : Inv s) {ms : Nat} {cb : Option Callback}
    {recurring : Bool} {addr now : Nat} (hms : ms < 2 ^ 64) (hnow : now < 2 ^ 64)
    (hfresh : ∀ a ∈ s.manager.timers, (s.manager.heap a).addr ≠ addr) :
    Inv ⟨(s.manager.addTimer ms cb recurring addr now).1, s.begun [s.manager.created] now⟩ where
  set     := by
    rw [TimerManager.addTimer_eq]
    refine (h.set.construct ?_).addTimerLocked
    rwa [List.append_nil]
  periods := by
    intro j hj
    show s.begun [s.manager.created] now j < 2 ^ 64 ∧
      ((s.manager.construct ms cb recurring addr now).heap j).ms < 2 ^ 64 ∧
      ((s.manager.construct ms cb recurring addr now).heap j).next =
        add64 (s.begun [s.manager.created] now j)
          ((s.manager.construct ms cb recurring addr now).heap j).ms
    by_cases hnew : j = s.manager.created
    · rw [hnew, begun_self, TimerManager.construct, TimerManager.setTimer_self]
      exact ⟨hnow, hms, rfl⟩
    · -- the timers that were pending before
      have hmem : j ∈ s.manager.timers := (OrderedSet.insert_subset hj).resolve_left hnew
      rw [begun_ne s hnew, TimerManager.construct, TimerManager.setTimer_ne _ _ hnew]
      exact h.periods j hmem

/-- A cancelled timer has no period. -/
theorem inv_cancel {s : Periods Callback} (h : Inv s) {id : TimerId}
    {m : TimerManager Callback} {b : Bool} (hcancel : s.manager.cancel id = some (m, b)) :
    Inv ⟨m, s.periodStart⟩ := by
  refine ⟨h.set.cancel hcancel, ?_⟩
  by_cases hcb : (s.manager.heap id).cb.isSome = true
  · rw [TimerManager.cancel_of_cb h.set hcb] at hcancel
    obtain ⟨rfl, _⟩ := Prod.mk.inj (Option.some.inj hcancel)
    intro j hj
    have hmem : j ∈ s.manager.timers := (OrderedSet.erase_sublist _ _ _).subset hj
    by_cases hje : j = id
    · subst hje
      simp only [TimerManager.setTimer_self]
      exact h.periods j hmem
    · simp only [TimerManager.setTimer_ne _ _ hje]
      exact h.periods j hmem
  · rw [TimerManager.cancel_of_no_cb hcb] at hcancel
    obtain ⟨rfl, _⟩ := Prod.mk.inj (Option.some.inj hcancel)
    exact h.periods

/-- `refresh` begins a new period. -/
theorem inv_refresh {s : Periods Callback} (h : Inv s) (id : TimerId) {now : Nat}
    (hnow : now < 2 ^ 64) :
    Inv ⟨(s.manager.refresh id now).1,
      s.begun (if (s.manager.refresh id now).2 then [id] else []) now⟩ := by
  by_cases hcb : (s.manager.heap id).cb.isSome = true
  · have hid := h.set.mem_of_cb hcb
    have hset : TimerManager.Addressed (s.manager.refresh id now).1 [] := h.set.refresh now
    rw [TimerManager.refresh_of_cb h.set hcb] at hset ⊢
    refine h.requeue (t := { s.manager.heap id with next := add64 now (s.manager.heap id).ms })
      hid rfl hset rfl rfl (fun j hj => begun_ne s hj now) ?_
    show s.begun [id] now id < 2 ^ 64 ∧ _ ∧ add64 now _ = add64 (s.begun [id] now id) _
    rw [begun_self]
    exact ⟨hnow, (h.periods id hid).2.1, rfl⟩
  · rw [TimerManager.refresh_of_no_cb hcb]
    show Inv ⟨s.manager, s.begun [] now⟩
    rw [begun_nil]
    exact h

/-- `m_next - m_ms` is the start of the period, wrapped around or not. -/
theorem Inv.periodStart_eq {s : Periods Callback} (h : Inv s) {id : TimerId}
    (hid : id ∈ s.manager.timers) :
    sub64 (s.manager.heap id).next (s.manager.heap id).ms = s.periodStart id := by
  obtain ⟨hstart, hms, hnext⟩ := h.periods id hid
  rw [hnext, add64, sub64]
  omega

/-- The instant `reset` counts the interval from. -/
def resetStart (s : Periods Callback) (id : TimerId) (from_now : Bool) (now : Nat) : Nat :=
  if from_now then now else s.periodStart id

/-- The new deadline counts from now, or from the start of the period. -/
theorem Inv.resetTimer_next {s : Periods Callback} (h : Inv s) {id : TimerId}
    (hid : id ∈ s.manager.timers) (ms : Nat) (from_now : Bool) (now : Nat) :
    (s.manager.resetTimer id ms from_now now).next = add64 (s.resetStart id from_now now) ms := by
  have hstart := h.periodStart_eq hid
  cases from_now with
  | true => rfl
  | false =>
    show add64 (sub64 _ _) ms = add64 (s.periodStart id) ms
    rw [hstart]

/-- `reset` begins a new period if it counts from now. -/
theorem inv_reset {s : Periods Callback} (h : Inv s) (id : TimerId) {ms : Nat} (from_now : Bool)
    {now : Nat} (hms : ms < 2 ^ 64) (hnow : now < 2 ^ 64) :
    Inv ⟨(s.manager.reset id ms from_now now).1,
      s.begun (if (s.manager.reset id ms from_now now).2.1 && from_now then [id] else []) now⟩ := by
  -- the shortcut changes nothing
  by_cases hshort : ms = (s.manager.heap id).ms ∧ from_now = false
  · rw [TimerManager.reset, if_pos hshort, hshort.2]
    show Inv ⟨s.manager, s.begun [] now⟩
    rw [begun_nil]
    exact h
  · by_cases hcb : (s.manager.heap id).cb.isSome = true
    · have hid := h.set.mem_of_cb hcb
      have hset : TimerManager.Addressed (s.manager.resetLocked id ms from_now now).1 [] :=
        h.set.resetLocked ms from_now now
      have hreset : s.manager.reset id ms from_now now =
          s.manager.resetLocked id ms from_now now := by
        rw [TimerManager.reset_eq, if_neg hshort]
      obtain ⟨front, heq⟩ := TimerManager.reset_of_cb h.set hcb hshort now
      rw [← hreset, heq] at hset
      rw [heq]
      have hnext := h.resetTimer_next hid ms from_now now
      refine h.requeue (t := s.manager.resetTimer id ms from_now now) hid rfl hset rfl rfl
        (fun j hj => ?_) ?_
      · show s.begun (if true && from_now then [id] else []) now j = _
        cases from_now with
        | true => exact begun_ne s hj now
        | false => exact congrFun (begun_nil s now) j
      · show s.begun (if true && from_now then [id] else []) now id < 2 ^ 64 ∧ ms < 2 ^ 64 ∧ _
        -- the period begins now, or began where it did
        have hbegun : s.begun (if true && from_now then [id] else []) now id =
            s.resetStart id from_now now := by
          cases from_now with
          | true => exact begun_self s id now
          | false => exact congrFun (begun_nil s now) id
        rw [hbegun]
        refine ⟨?_, hms, hnext⟩
        cases from_now with
        | true => exact hnow
        | false => exact (h.periods id hid).1
    · rw [TimerManager.reset_of_no_cb hcb hshort]
      show Inv ⟨s.manager, s.begun [] now⟩
      rw [begun_nil]
      exact h

/-- A recurring timer begins a new period when it is handed out. -/
theorem inv_listExpiredCb {s : Periods Callback} (h : Inv s) {now : Nat} (probe : Nat)
    (hnow : now < 2 ^ 64) :
    Inv ⟨(s.manager.listExpiredCb now probe).1,
      s.begun (s.manager.expiredIds now probe) now⟩ := by
  have hspec := TimerManager.listExpiredCb_expires h.set now probe
  refine ⟨h.set.listExpiredCb now probe, fun j hj => ?_⟩
  obtain ⟨hmem, hrec⟩ := hspec.timers j hj
  show s.begun (s.manager.expiredIds now probe) now j < 2 ^ 64 ∧
    ((s.manager.listExpiredCb now probe).1.heap j).ms < 2 ^ 64 ∧
    ((s.manager.listExpiredCb now probe).1.heap j).next =
      add64 (s.begun (s.manager.expiredIds now probe) now j)
        ((s.manager.listExpiredCb now probe).1.heap j).ms
  rw [hspec.heap j]
  obtain ⟨hstart, hms, hnext⟩ := h.periods j hmem
  -- a timer that was taken out and is pending again is recurring
  by_cases hout : j ∈ s.manager.expiredIds now probe
  · rw [if_pos hout, Timer.handOut, if_pos (hrec hout), begun, if_pos hout]
    exact ⟨hnow, hms, rfl⟩
  · rw [if_neg hout, begun, if_neg hout]
    exact ⟨hstart, hms, hnext⟩

/-- Every call keeps the invariant. -/
theorem inv_next (s : Periods Callback) (c : TimerCall Callback) (t : Periods Callback)
    (h : Inv s) (hnext : s.next c = some t) : Inv t := by
  cases c with
  | addTimer ms cb recurring addr now =>
    obtain ⟨⟨hms, hnow, hfresh⟩, heq⟩ := Option.ite_none_right_eq_some.mp hnext
    exact Option.some.inj heq ▸ inv_addTimer h hms hnow hfresh
  | cancel id =>
    obtain ⟨_, heq⟩ := Option.ite_none_right_eq_some.mp hnext
    obtain ⟨⟨m, b⟩, hcancel, rfl⟩ := Option.map_eq_some_iff.mp heq
    exact inv_cancel h hcancel
  | refresh id now =>
    obtain ⟨⟨_, hnow⟩, heq⟩ := Option.ite_none_right_eq_some.mp hnext
    exact Option.some.inj heq ▸ inv_refresh h id hnow
  | reset id ms from_now now =>
    obtain ⟨⟨_, hms, hnow⟩, heq⟩ := Option.ite_none_right_eq_some.mp hnext
    exact Option.some.inj heq ▸ inv_reset h id from_now hms hnow
  | listExpiredCb now probe =>
    obtain ⟨hnow, heq⟩ := Option.ite_none_right_eq_some.mp hnext
    exact Option.some.inj heq ▸ inv_listExpiredCb h probe hnow

/-- In every state of a run a deadline is one interval after the start of its
    period. -/
theorem inv_run {s₀ s : Periods Callback} {tr : List (Periods Callback × TimerCall Callback)}
    (hinit : (timerCalls Callback).init s₀) (hrun : Run (timerCalls Callback) s₀ tr s) : Inv s := by
  obtain ⟨now, rfl⟩ := hinit
  exact hrun.invariant inv_next (inv_start now)

/-! ## Section 4: The answers -/

/-- The answer says whether the timer was pending, and false means that nothing
    was done. -/
def Told (m m' : TimerManager Callback) (id : TimerId) (answer : Bool) : Prop :=
  (answer = true ↔ id ∈ m.timers) ∧ (answer = false → m' = m)

/-- What the answer of a call is to mean. -/
def AnswersRight (s : Periods Callback) : TimerCall Callback → Prop
  | .cancel id => ∃ m b, s.manager.cancel id = some (m, b) ∧ Told s.manager m id b
  | .refresh id now =>
    Told s.manager (s.manager.refresh id now).1 id (s.manager.refresh id now).2
  | .reset id ms from_now now =>
    let r := s.manager.reset id ms from_now now
    Told s.manager r.1 id r.2.1 ∧
      (r.2.1 = true → id ∈ r.1.timers ∧ (r.1.heap id).ms = ms ∧
        (r.1.heap id).next = s.resetStart id from_now now + ms)
  | _ => True

/-- A pending timer has a callback; `reset` does not take its shortcut for a timer
    that is not pending; and the new deadline of a pending timer fits in a `uint64_t`. -/
def AnswerCondition (s : Periods Callback) : TimerCall Callback → Prop
  | .cancel id => id ∈ s.manager.timers → (s.manager.heap id).cb.isSome = true
  | .refresh id _ => id ∈ s.manager.timers → (s.manager.heap id).cb.isSome = true
  | .reset id ms from_now now =>
    (if ms = (s.manager.heap id).ms ∧ from_now = false then id ∈ s.manager.timers
     else id ∈ s.manager.timers → (s.manager.heap id).cb.isSome = true) ∧
    (id ∈ s.manager.timers → s.resetStart id from_now now + ms < 2 ^ 64)
  | _ => True

/-- The answer true is right for a pending timer. -/
theorem told_true {m m' : TimerManager Callback} {id : TimerId} (hid : id ∈ m.timers) :
    Told m m' id true := ⟨iff_of_true rfl hid, fun h => by cases h⟩

/-- Where the operation looks for a callback first. -/
theorem told_self_iff {s : Periods Callback} {id : TimerId}
    (hcb : ¬ (s.manager.heap id).cb.isSome = true) :
    Told s.manager s.manager id false ↔
      (id ∈ s.manager.timers → (s.manager.heap id).cb.isSome = true) := by
  unfold Told
  simp [hcb]

theorem add64_eq_iff (a b : Nat) : add64 a b = a + b ↔ a + b < 2 ^ 64 := by
  unfold add64
  omega

/-- The answer of `cancel`. -/
theorem cancel_told_iff {s : Periods Callback} (h : Inv s) (id : TimerId) :
    AnswersRight s (.cancel id) ↔ AnswerCondition s (.cancel id) := by
  by_cases hcb : (s.manager.heap id).cb.isSome = true
  · exact iff_of_true ⟨_, _, TimerManager.cancel_of_cb h.set hcb, told_true (h.set.mem_of_cb hcb)⟩
      fun _ => hcb
  · rw [AnswerCondition, ← told_self_iff hcb, AnswersRight, TimerManager.cancel_of_no_cb hcb]
    constructor
    · rintro ⟨m, b, heq, htold⟩
      obtain ⟨rfl, rfl⟩ := Prod.mk.inj (Option.some.inj heq)
      exact htold
    · exact fun htold => ⟨_, _, rfl, htold⟩

/-- The answer of `refresh`. -/
theorem refresh_told_iff {s : Periods Callback} (h : Inv s) (id : TimerId) (now : Nat) :
    AnswersRight s (.refresh id now) ↔ AnswerCondition s (.refresh id now) := by
  by_cases hcb : (s.manager.heap id).cb.isSome = true
  · refine iff_of_true ?_ fun _ => hcb
    rw [AnswersRight, TimerManager.refresh_of_cb h.set hcb]
    exact told_true (h.set.mem_of_cb hcb)
  · rw [AnswerCondition, ← told_self_iff hcb, AnswersRight, TimerManager.refresh_of_no_cb hcb]

/-- The answer of `reset`, and the deadline it leaves. -/
theorem reset_told_iff {s : Periods Callback} (h : Inv s) (id : TimerId) (ms : Nat)
    (from_now : Bool) (now : Nat) :
    AnswersRight s (.reset id ms from_now now) ↔
      AnswerCondition s (.reset id ms from_now now) := by
  rw [AnswersRight, AnswerCondition]
  by_cases hshort : ms = (s.manager.heap id).ms ∧ from_now = false
  · -- the shortcut answers true without a look at the set
    have hms := hshort.1
    have hfrom := hshort.2
    rw [TimerManager.reset, if_pos hshort, if_pos hshort]
    constructor
    · rintro ⟨htold, hreset⟩
      have hid := htold.1.mp rfl
      obtain ⟨-, -, hnext⟩ := hreset rfl
      rw [(h.periods id hid).2.2, hfrom, ← hms] at hnext
      exact ⟨hid, fun _ => hfrom ▸ (add64_eq_iff _ _).mp hnext⟩
    · rintro ⟨hid, hsum⟩
      refine ⟨told_true hid, fun _ => ⟨hid, hms.symm, ?_⟩⟩
      have hlt := hsum hid
      rw [hfrom] at hlt ⊢
      rw [(h.periods id hid).2.2, ← hms]
      exact (add64_eq_iff _ _).mpr hlt
  · rw [if_neg hshort]
    by_cases hcb : (s.manager.heap id).cb.isSome = true
    · have hid := h.set.mem_of_cb hcb
      obtain ⟨front, heq⟩ := TimerManager.reset_of_cb h.set hcb hshort now
      have hnext := h.resetTimer_next hid ms from_now now
      have htimer : ((((s.manager.eraseId id).setTimer id
          (s.manager.resetTimer id ms from_now now)).addTimerLocked id).1.heap id) =
            s.manager.resetTimer id ms from_now now := TimerManager.setTimer_self _ _ _
      have hmem : id ∈ (((s.manager.eraseId id).setTimer id
          (s.manager.resetTimer id ms from_now now)).addTimerLocked id).1.timers :=
        (TimerManager.mem_timers_requeue (t := s.manager.resetTimer id ms from_now now)
          h.set hid rfl).mpr hid
      rw [heq]
      -- the deadline is the sum exactly where it fits
      simp only [htimer, hnext, add64_eq_iff]
      constructor
      · rintro ⟨-, hreset⟩
        exact ⟨fun _ => hcb, fun _ => (hreset trivial).2.2⟩
      · rintro ⟨-, hsum⟩
        exact ⟨told_true hid, fun _ => ⟨hmem, rfl, hsum hid⟩⟩
    · -- without a callback the answer is false
      rw [TimerManager.reset_of_no_cb hcb hshort, ← told_self_iff hcb]
      constructor
      · rintro ⟨htold, -⟩
        exact ⟨htold, fun hid => absurd (htold.1.mpr hid) Bool.false_ne_true⟩
      · rintro ⟨htold, -⟩
        exact ⟨htold, fun hb => absurd hb Bool.false_ne_true⟩

end Periods

open Periods in
/-- After every run a call answers what it is to answer exactly under its condition. -/
theorem timers_answer_pending_iff {s₀ s : Periods Callback}
    {tr : List (Periods Callback × TimerCall Callback)} (hinit : (timerCalls Callback).init s₀)
    (hrun : Run (timerCalls Callback) s₀ tr s) (c : TimerCall Callback) :
    AnswersRight s c ↔ AnswerCondition s c := by
  have hinv := inv_run hinit hrun
  cases c with
  | addTimer => exact Iff.rfl
  | cancel id => exact cancel_told_iff hinv id
  | refresh id now => exact refresh_told_iff hinv id now
  | reset id ms from_now now => exact reset_told_iff hinv id ms from_now now
  | listExpiredCb => exact Iff.rfl

/-- A recurring timer that has expired once is refreshed and reset. -/
theorem timers_answer_pending_iff_recurring :
    ∃ s tr, Run (timerCalls Nat) (Periods.start Nat 3600000) tr s ∧
      Periods.AnswersRight s (.reset 0 70 false 3600080) := by
  have hrun := (timerCalls Nat).run_of_exec (s := Periods.start Nat 3600000)
    [.addTimer 50 (some 7) true 4096 3600000, .listExpiredCb 3600050 8192, .refresh 0 3600060] rfl
  exact ⟨_, _, hrun, (timers_answer_pending_iff ⟨_, rfl⟩ hrun _).mpr
    ⟨fun _ => rfl, fun _ => by decide⟩⟩

/-- A cancelled timer: `reset` with its own interval answers true. -/
theorem timer_reset_not_pending :
    ∃ s tr, Run (timerCalls Nat) (Periods.start Nat 3600000) tr s ∧
      (s.manager.reset 0 50 false 3600010).2.1 = true ∧ 0 ∉ s.manager.timers ∧
      ¬ Periods.AnswersRight s (.reset 0 50 false 3600010) := by
  have hrun := (timerCalls Nat).run_of_exec (s := Periods.start Nat 3600000)
    [.addTimer 50 (some 7) false 4096 3600000, .cancel 0] rfl
  refine ⟨_, _, hrun, by decide, by decide, fun h => ?_⟩
  exact absurd (h.1.1.mp rfl) (by decide)

end MNSER
