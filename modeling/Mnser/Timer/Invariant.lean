import Mnser.Timer.Model

/-! # The set of pending timers over whole runs

    `SetInv` is what `m_timers` needs to work as an ordered set although the
    keys of its elements sit on the heap.  The three lemmas of Section 2 say
    what taking a timer out, changing a timer that is out, and putting one
    back do to it; the operations of `Timer` and `TimerManager` are these
    three steps in some order. -/

namespace MNSER

variable {Callback : Type}

namespace TimerManager

/-! ## Section 1: The comparator -/

/-- The comparator orders by deadline, then by address. -/
theorem comparator_iff (l r : Timer Callback) :
    Timer.Comparator (some l) (some r) = true ↔
      l.next < r.next ∨ l.next = r.next ∧ l.addr < r.addr := by
  simp only [Timer.Comparator]
  -- the three comparisons of the source in their order
  by_cases hlt : l.next < r.next
  · simp [hlt]
  · by_cases hgt : r.next < l.next
    · rw [if_neg hlt, if_pos hgt, iff_false_left Bool.false_ne_true]
      omega
    · rw [if_neg hlt, if_neg hgt, decide_eq_true_eq]
      omega

theorem less_iff (m : TimerManager Callback) (a b : TimerId) :
    m.less a b = true ↔
      (m.heap a).next < (m.heap b).next ∨
      (m.heap a).next = (m.heap b).next ∧ (m.heap a).addr < (m.heap b).addr :=
  comparator_iff _ _

theorem less_irrefl (m : TimerManager Callback) (a : TimerId) : m.less a a = false := by
  rw [← Bool.not_eq_true, less_iff]
  omega

theorem less_trans (m : TimerManager Callback) {a b c : TimerId}
    (hab : m.less a b = true) (hbc : m.less b c = true) : m.less a c = true := by
  rw [less_iff] at hab hbc ⊢
  omega

/-- The set is in the order of the deadlines. -/
theorem next_le_of_less (m : TimerManager Callback) {a b : TimerId}
    (h : m.less a b = true) : (m.heap a).next ≤ (m.heap b).next := by
  rw [less_iff] at h
  omega

/-- For the set two timers are the same if deadline and address are. -/
theorem equiv_iff (m : TimerManager Callback) (a b : TimerId) :
    OrderedSet.equiv m.less a b = true ↔
      (m.heap a).next = (m.heap b).next ∧ (m.heap a).addr = (m.heap b).addr := by
  have hab := m.less_iff a b
  have hba := m.less_iff b a
  simp only [OrderedSet.equiv, Bool.and_eq_true, Bool.not_eq_true']
  rw [← Bool.not_eq_true, ← Bool.not_eq_true, hab, hba]
  omega

/-- The comparator only looks at the two timers it is given. -/
theorem less_congr {m m' : TimerManager Callback} {a b : TimerId}
    (ha : m'.heap a = m.heap a) (hb : m'.heap b = m.heap b) :
    m'.less a b = m.less a b := by
  simp only [less, ha, hb]

/-! ## Section 2: Taking out, changing, putting back -/

structure SetInv (m : TimerManager Callback) : Prop where
  sorted  : OrderedSet.Sorted m.less m.timers
  addrs   : ∀ a ∈ m.timers, ∀ b ∈ m.timers, (m.heap a).addr = (m.heap b).addr → a = b
  created : ∀ id ∈ m.timers, id < m.created
  keys    : ∀ id ∈ m.timers, (m.heap id).ms ≤ (m.heap id).next ∧ (m.heap id).next < 2 ^ 64

/-- A timer is in the set once. -/
theorem SetInv.nodup {m : TimerManager Callback} (h : SetInv m) : m.timers.Nodup :=
  OrderedSet.sorted_nodup (fun a _ => m.less_irrefl a) h.sorted

theorem SetInv.equiv_eq {m : TimerManager Callback} (h : SetInv m) {id : TimerId}
    (hid : id ∈ m.timers) :
    ∀ y ∈ m.timers, OrderedSet.equiv m.less id y = true → y = id := by
  intro y hy hequiv
  have haddr := ((m.equiv_iff id y).mp hequiv).2
  exact (h.addrs id hid y hy haddr).symm

/-- A pending timer is found. -/
theorem SetInv.find {m : TimerManager Callback} (h : SetInv m) {id : TimerId}
    (hid : id ∈ m.timers) : OrderedSet.find m.less id m.timers = some id :=
  OrderedSet.find_eq hid (m.less_irrefl id) (h.equiv_eq hid)

theorem SetInv.mem_eraseId {m : TimerManager Callback} (h : SetInv m) {id j : TimerId}
    (hid : id ∈ m.timers) : j ∈ (m.eraseId id).timers ↔ j ∈ m.timers ∧ j ≠ id :=
  OrderedSet.mem_erase hid (m.less_irrefl id) (h.equiv_eq hid) h.nodup

/-- Timers may be taken out at any place. -/
theorem SetInv.of_sublist {m : TimerManager Callback} (h : SetInv m)
    {l : List TimerId} (hl : l.Sublist m.timers) : SetInv { m with timers := l } where
  sorted  := h.sorted.sublist hl
  addrs   := fun a ha b hb => h.addrs a (hl.subset ha) b (hl.subset hb)
  created := fun id hid => h.created id (hl.subset hid)
  keys    := fun id hid => h.keys id (hl.subset hid)

theorem SetInv.eraseId {m : TimerManager Callback} (h : SetInv m) (id : TimerId) :
    SetInv (m.eraseId id) :=
  h.of_sublist (OrderedSet.erase_sublist _ _ _)

theorem setTimer_heap_of_mem {m : TimerManager Callback} {id j : TimerId}
    (t : Timer Callback) (hid : id ∉ m.timers) (hj : j ∈ m.timers) :
    (m.setTimer id t).heap j = m.heap j :=
  setTimer_ne m t fun h => hid (h ▸ hj)

/-- A timer that is not in the set may change in any way. -/
theorem SetInv.setTimer {m : TimerManager Callback} (h : SetInv m) {id : TimerId}
    (t : Timer Callback) (hid : id ∉ m.timers) : SetInv (m.setTimer id t) where
  sorted  := by
    refine List.Pairwise.imp_of_mem ?_ h.sorted
    intro a b ha hb hab
    rwa [less_congr (setTimer_heap_of_mem t hid ha) (setTimer_heap_of_mem t hid hb)]
  addrs   := by
    intro a ha b hb haddr
    rw [setTimer_heap_of_mem t hid ha, setTimer_heap_of_mem t hid hb] at haddr
    exact h.addrs a ha b hb haddr
  created := h.created
  keys    := by
    intro j hj
    rw [setTimer_heap_of_mem t hid hj]
    exact h.keys j hj

theorem not_equiv_of_addr {m : TimerManager Callback} {id : TimerId}
    (hfresh : ∀ a ∈ m.timers, (m.heap a).addr ≠ (m.heap id).addr) :
    ∀ y ∈ m.timers, OrderedSet.equiv m.less id y = false := by
  intro y hy
  rw [← Bool.not_eq_true, equiv_iff]
  exact fun h => hfresh y hy h.2.symm

theorem mem_insertId {m : TimerManager Callback} {id j : TimerId}
    (hfresh : ∀ a ∈ m.timers, (m.heap a).addr ≠ (m.heap id).addr) :
    j ∈ (m.insertId id).timers ↔ j = id ∨ j ∈ m.timers :=
  OrderedSet.mem_insert (not_equiv_of_addr hfresh)

/-- A timer at an address no member has goes in at its place. -/
theorem SetInv.insertId {m : TimerManager Callback} (h : SetInv m) {id : TimerId}
    (hfresh : ∀ a ∈ m.timers, (m.heap a).addr ≠ (m.heap id).addr)
    (hcreated : id < m.created)
    (hkey : (m.heap id).ms ≤ (m.heap id).next ∧ (m.heap id).next < 2 ^ 64) :
    SetInv (m.insertId id) where
  sorted  := OrderedSet.sorted_insert (fun _ _ => m.less_trans) h.sorted
  addrs   := by
    intro a ha b hb haddr
    simp only [insertId_heap] at haddr
    rcases (mem_insertId hfresh).mp ha with ha' | ha' <;>
      rcases (mem_insertId hfresh).mp hb with hb' | hb'
    · rw [ha', hb']
    · exact absurd (ha' ▸ haddr).symm (hfresh b hb')
    · exact absurd (hb' ▸ haddr) (hfresh a ha')
    · exact h.addrs a ha' b hb' haddr
  created := by
    intro j hj
    rcases (mem_insertId hfresh).mp hj with rfl | hj
    · exact hcreated
    · exact h.created j hj
  keys    := by
    intro j hj
    rcases (mem_insertId hfresh).mp hj with rfl | hj
    · exact hkey
    · exact h.keys j hj

/-- A timer that has just left the set leaves its address unused. -/
theorem SetInv.addr_fresh_of_erased {m : TimerManager Callback} (h : SetInv m)
    {id : TimerId} (hid : id ∈ m.timers) :
    ∀ a ∈ (m.eraseId id).timers, (m.heap a).addr ≠ (m.heap id).addr := by
  intro a ha haddr
  obtain ⟨hmem, hne⟩ := (h.mem_eraseId hid).mp ha
  exact hne (h.addrs a hmem id hid haddr)

/-! ## Section 3: The invariant and the timer operations -/

/-- A reading of `GetCurrentMS`: a `uint64_t` at least one hour after the epoch. -/
def clockOk (now : Nat) : Prop := 3600000 ≤ now ∧ now < 2 ^ 64

structure Inv (m : TimerManager Callback) : Prop where
  set   : SetInv m
  live  : ∀ id, id ∈ m.timers ↔ (m.heap id).cb.isSome = true
  clock : clockOk m.previousTime

/-- The constructor leaves an empty set. -/
theorem inv_init {now : Nat} (h : clockOk now) : Inv (init now : TimerManager Callback) where
  set   := ⟨List.Pairwise.nil, by simp [init], by simp [init], by simp [init]⟩
  live  := by simp [init, Timer.ofNext]
  clock := h

theorem inv_of_tickled {m : TimerManager Callback} (b : Bool) (h : Inv m) :
    Inv { m with tickled := b } :=
  ⟨⟨h.set.sorted, h.set.addrs, h.set.created, h.set.keys⟩, h.live, h.clock⟩

theorem inv_addTimerLocked {m : TimerManager Callback} {id : TimerId}
    (h : Inv (m.insertId id)) : Inv (m.addTimerLocked id).1 :=
  inv_of_tickled _ h

/-- A new timer goes in, at an address no pending timer has. -/
theorem inv_addTimer {m : TimerManager Callback} (h : Inv m) {ms addr now : Nat}
    (cb : Callback) (recurring : Bool) (hsum : now + ms < 2 ^ 64)
    (hfresh : ∀ a ∈ m.timers, (m.heap a).addr ≠ addr) :
    Inv (m.addTimer ms (some cb) recurring addr now).1 := by
  have hnot : m.created ∉ m.timers := fun hmem => Nat.lt_irrefl _ (h.set.created _ hmem)
  let t : Timer Callback :=
    { recurring := recurring, ms := ms, next := add64 now ms, cb := some cb, addr := addr }
  let m₁ : TimerManager Callback := { m with created := m.created + 1 }.setTimer m.created t
  -- the new timer is first written to the heap, where the set does not see it
  have hset₁ : SetInv m₁ := by
    refine SetInv.setTimer (m := { m with created := m.created + 1 }) ?_ t hnot
    exact ⟨h.set.sorted, h.set.addrs, fun id hid => Nat.lt_succ_of_lt (h.set.created id hid),
      h.set.keys⟩
  have hself : m₁.heap m.created = t := setTimer_self _ _ _
  have hfresh₁ : ∀ a ∈ m₁.timers, (m₁.heap a).addr ≠ (m₁.heap m.created).addr := by
    intro a ha
    rw [hself, setTimer_heap_of_mem (m := { m with created := m.created + 1 }) t hnot ha]
    exact hfresh a ha
  apply inv_addTimerLocked (m := m₁)
  refine ⟨hset₁.insertId hfresh₁ (Nat.lt_succ_self _) ?_, ?_, h.clock⟩
  · rw [hself]
    simp only [t, add64_of_lt hsum]
    omega
  · -- of the callbacks only the new one's is new
    intro j
    rw [mem_insertId hfresh₁, insertId_heap]
    by_cases hj : j = m.created
    · subst hj
      simp [hself, t]
    · have hheap : m₁.heap j = m.heap j := setTimer_ne _ t hj
      rw [hheap, ← h.live j]
      simp [hj, m₁]

/-! ## Section 4: `Timer::cancel`, `Timer::refresh`, `Timer::reset` -/

/-- The comparator does not look at the callback. -/
theorem less_setTimer_cb (m : TimerManager Callback) (id : TimerId) (cb : Option Callback) :
    (m.setTimer id { m.heap id with cb := cb }).less = m.less := by
  funext a b
  rw [Bool.eq_iff_iff, less_iff, less_iff]
  by_cases ha : a = id <;> by_cases hb : b = id
  · subst ha hb; simp
  · subst ha; simp [setTimer_ne m _ hb]
  · subst hb; simp [setTimer_ne m _ ha]
  · simp [setTimer_ne m _ ha, setTimer_ne m _ hb]

/-- The timer `id` leaves the set, becomes `t` and goes back in. -/
def requeue (m : TimerManager Callback) (id : TimerId) (t : Timer Callback) :
    TimerManager Callback :=
  ((m.eraseId id).setTimer id t).insertId id

theorem requeue_heap (m : TimerManager Callback) (id : TimerId) (t : Timer Callback) :
    (m.requeue id t).heap = (m.setTimer id t).heap := rfl

theorem eraseId_not_mem {m : TimerManager Callback} (h : SetInv m) {id : TimerId}
    (hid : id ∈ m.timers) : id ∉ (m.eraseId id).timers :=
  fun hmem => ((h.mem_eraseId hid).mp hmem).2 rfl

/-- After `id` was taken out and became `t`, its address is still unused. -/
theorem addr_fresh_requeue {m : TimerManager Callback} (h : SetInv m) {id : TimerId}
    (hid : id ∈ m.timers) {t : Timer Callback} (haddr : t.addr = (m.heap id).addr) :
    ∀ a ∈ ((m.eraseId id).setTimer id t).timers,
      (((m.eraseId id).setTimer id t).heap a).addr ≠
        (((m.eraseId id).setTimer id t).heap id).addr := by
  intro a ha
  rw [setTimer_self, setTimer_heap_of_mem t (eraseId_not_mem h hid) ha, haddr]
  exact h.addr_fresh_of_erased hid a ha

/-- A timer that goes out and in again is still pending, and so are the others. -/
theorem mem_requeue {m : TimerManager Callback} (h : SetInv m) {id j : TimerId}
    (hid : id ∈ m.timers) {t : Timer Callback} (haddr : t.addr = (m.heap id).addr) :
    j ∈ (m.requeue id t).timers ↔ j ∈ m.timers := by
  rw [requeue, mem_insertId (addr_fresh_requeue h hid haddr), setTimer_timers,
    h.mem_eraseId hid]
  by_cases hj : j = id
  · simp [hj, hid]
  · simp [hj]

/-- A pending timer may change its deadline while it is out. -/
theorem inv_requeue {m : TimerManager Callback} (h : Inv m) {id : TimerId}
    (hid : id ∈ m.timers) {t : Timer Callback} (haddr : t.addr = (m.heap id).addr)
    (hcb : t.cb = (m.heap id).cb) (hkey : t.ms ≤ t.next ∧ t.next < 2 ^ 64) :
    Inv (m.requeue id t) where
  set   := by
    have hout := eraseId_not_mem h.set hid
    refine ((h.set.eraseId id).setTimer t hout).insertId
      (addr_fresh_requeue h.set hid haddr) (h.set.created id hid) ?_
    rwa [setTimer_self]
  live  := by
    intro j
    rw [mem_requeue h.set hid haddr, h.live j, requeue_heap]
    by_cases hj : j = id
    · subst hj; rw [setTimer_self, hcb]
    · rw [setTimer_ne m t hj]
  clock := h.clock

/-- Cancelling a pending timer: it is found although its callback is gone by then.
    -/
theorem cancel_of_mem {m : TimerManager Callback} (h : Inv m) {id : TimerId}
    (hid : id ∈ m.timers) :
    m.cancel id = some ((m.eraseId id).setTimer id { m.heap id with cb := none }, true) := by
  have hcb : (m.heap id).cb.isSome = true := (h.live id).mp hid
  simp only [cancel, hcb, if_true, eraseId, less_setTimer_cb, setTimer_timers,
    h.set.find hid]
  rfl

/-- A timer that is not pending is left alone. -/
theorem cancel_of_not_mem {m : TimerManager Callback} (h : Inv m) {id : TimerId}
    (hid : id ∉ m.timers) : m.cancel id = some (m, false) := by
  have hcb : ¬ (m.heap id).cb.isSome = true := fun hs => hid ((h.live id).mpr hs)
  rw [cancel, if_neg hcb]

/-- `Timer::cancel` does not walk off the set. -/
theorem inv_cancel {m : TimerManager Callback} (h : Inv m) (id : TimerId) :
    ∃ m' b, m.cancel id = some (m', b) ∧ Inv m' := by
  by_cases hid : id ∈ m.timers
  · have hout := eraseId_not_mem h.set hid
    refine ⟨_, _, cancel_of_mem h hid, (h.set.eraseId id).setTimer _ hout, ?_, h.clock⟩
    intro j
    rw [setTimer_timers, h.set.mem_eraseId hid]
    -- the cancelled timer has neither a place in the set nor a callback
    by_cases hj : j = id
    · subst hj; simp
    · rw [setTimer_ne _ _ hj, eraseId_heap, ← h.live j]
      simp [hj]
  · exact ⟨m, false, cancel_of_not_mem h hid, h⟩

theorem refresh_of_mem {m : TimerManager Callback} (h : Inv m) {id : TimerId}
    (hid : id ∈ m.timers) (now : Nat) :
    m.refresh id now =
      (m.requeue id { m.heap id with next := add64 now (m.heap id).ms }, true) := by
  have hcb : (m.heap id).cb.isNone = false := by simpa using (h.live id).mp hid
  simp only [refresh, hcb, h.set.find hid]
  rfl

theorem refresh_of_not_mem {m : TimerManager Callback} (h : Inv m) {id : TimerId}
    (hid : id ∉ m.timers) (now : Nat) : m.refresh id now = (m, false) := by
  have hcb : (m.heap id).cb.isNone = true := by simpa using fun hs => hid ((h.live id).mpr hs)
  rw [refresh, if_pos hcb]

theorem inv_refresh {m : TimerManager Callback} (h : Inv m) {id : TimerId} {now : Nat}
    (hsum : id ∈ m.timers → now + (m.heap id).ms < 2 ^ 64) : Inv (m.refresh id now).1 := by
  by_cases hid : id ∈ m.timers
  · rw [refresh_of_mem h hid]
    refine inv_requeue h hid rfl rfl ?_
    have hlt := hsum hid
    simp only [add64_of_lt hlt]
    omega
  · rw [refresh_of_not_mem h hid]
    exact h

/-- The instant `Timer::reset` counts the new interval from. -/
def resetStart (m : TimerManager Callback) (id : TimerId) (from_now : Bool) (now : Nat) : Nat :=
  if from_now then now else (m.heap id).next - (m.heap id).ms

/-- `Timer::reset`, with the deadline it computes in range. -/
theorem inv_reset {m : TimerManager Callback} (h : Inv m) {id : TimerId} {ms now : Nat}
    {from_now : Bool}
    (hsum : id ∈ m.timers → m.resetStart id from_now now + ms < 2 ^ 64) :
    Inv (m.reset id ms from_now now).1 := by
  unfold reset
  split
  · exact h
  · split
    · exact h
    · rename_i _ hcb
      have hid : id ∈ m.timers := (h.live id).mpr (by simpa [Option.isSome_iff_ne_none] using hcb)
      obtain ⟨hms, hnext⟩ := h.set.keys id hid
      have hlt := hsum hid
      rw [h.set.find hid]
      -- out of the set, a new deadline, and in again
      apply inv_addTimerLocked
      refine inv_requeue h hid rfl rfl ?_
      -- the subtraction does not wrap around: the deadline is at least one interval
      have hstart : (if from_now = true then now
          else sub64 (m.heap id).next (m.heap id).ms) = m.resetStart id from_now now := by
        rw [resetStart, sub64_of_le hms hnext]
      simp only [eraseId_heap, hstart, add64_of_lt hlt]
      omega

end TimerManager

end MNSER
