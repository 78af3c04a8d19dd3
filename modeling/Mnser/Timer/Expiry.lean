import Mnser.Timer.Invariant

/-! # `listExpiredCb`

    The range the probe cuts off is the set of due timers, and the loop over
    it hands out each callback once.  Inside the loop the timers still to be
    handed out are neither in the set nor finished with: `Detached`. -/

namespace MNSER

variable {Callback : Type}

namespace TimerManager

/-! ## Section 1: The range of due timers -/

/-- The timers `listExpiredCb` is to hand out at clock reading `now`. -/
def due (m : TimerManager Callback) (now : Nat) : List TimerId :=
  if m.rollover now then m.timers
  else m.timers.filter fun id => (m.heap id).next ≤ now

theorem due_sublist (m : TimerManager Callback) (now : Nat) :
    (m.due now).Sublist m.timers := by
  unfold due
  split
  · exact List.Sublist.refl _
  · exact List.filter_sublist

/-- Due timers form an initial segment of the set. -/
theorem takeWhile_le_eq_filter {m : TimerManager Callback} (h : SetInv m) (now : Nat) :
    m.timers.takeWhile (fun id => (m.heap id).next ≤ now) =
      m.timers.filter fun id => (m.heap id).next ≤ now := by
  refine OrderedSet.takeWhile_eq_filter h.sorted ?_
  intro a _ b _ hab hb
  have hle := m.next_le_of_less hab
  simp only [decide_eq_true_eq] at hb ⊢
  omega

/-- Whatever address the probe is at, `lower_bound` and the loop after it
    stop behind the last due timer. -/
theorem expiredRange_eq_takeWhile {m : TimerManager Callback} (h : SetInv m)
    (now probe : Nat) :
    m.expiredRange now probe false =
      m.timers.takeWhile fun id => (m.heap id).next ≤ now := by
  -- the timers in front of the probe; those at `now` with a higher address are still to come
  let before : TimerId → Bool := fun id =>
    Timer.Comparator (some (m.heap id)) (some (Timer.ofNext now probe))
  have hbefore : ∀ id, before id = true ↔
      (m.heap id).next < now ∨ (m.heap id).next = now ∧ (m.heap id).addr < probe := by
    intro id
    exact comparator_iff (m.heap id) (Timer.ofNext now probe)
  have hsplit := OrderedSet.takeWhile_append_takeWhile (p := before)
    (q := fun id => (m.heap id).next = now) (r := fun id => (m.heap id).next ≤ now)
    (l := m.timers) ?_ ?_ ?_
  · rw [← hsplit]
    simp only [expiredRange, OrderedSet.beforeLowerBound, Bool.false_eq_true, if_false]
    congr 1
    rw [OrderedSet.drop_length_takeWhile]
  · intro a _ ha
    have := (hbefore a).mp ha
    simp only [decide_eq_true_eq]
    omega
  · intro a _ ha
    rw [← Bool.not_eq_true, hbefore] at ha
    simp only [decide_eq_decide]
    omega
  · -- behind the probe the timers stay behind it
    refine List.Pairwise.imp_of_mem ?_ h.sorted
    intro a b _ _ hab ha
    rw [← Bool.not_eq_true, hbefore] at ha ⊢
    rw [less_iff] at hab
    omega

/-- The range that is copied out holds the due timers. -/
theorem expiredRange_eq {m : TimerManager Callback} (h : SetInv m) (now probe : Nat) :
    m.expiredRange now probe (m.rollover now) = m.due now := by
  unfold due
  split
  · rename_i hroll
    rw [hroll]
    rfl
  · rename_i hroll
    rw [Bool.not_eq_true] at hroll
    rw [hroll, expiredRange_eq_takeWhile h, takeWhile_le_eq_filter h]

/-! ## Section 2: The loop over the expired timers -/

end TimerManager

/-- What becomes of a timer whose callback is handed out at clock reading `now`. -/
def Timer.handOut (t : Timer Callback) (now : Nat) : Timer Callback :=
  if t.recurring then { t with next := add64 now t.ms } else { t with cb := none }

namespace TimerManager

/-- The timers `out` have left the set and wait for their turn in the loop. -/
structure Detached (m : TimerManager Callback) (now : Nat) (out : List TimerId) : Prop where
  nodup   : out.Nodup
  absent  : ∀ id ∈ out, id ∉ m.timers
  fresh   : ∀ id ∈ out, ∀ a ∈ m.timers, (m.heap a).addr ≠ (m.heap id).addr
  addrs   : ∀ a ∈ out, ∀ b ∈ out, (m.heap a).addr = (m.heap b).addr → a = b
  created : ∀ id ∈ out, id < m.created
  sums    : ∀ id ∈ out, (m.heap id).recurring = true → now + (m.heap id).ms < 2 ^ 64

theorem handOut_addr (t : Timer Callback) (now : Nat) : (t.handOut now).addr = t.addr := by
  unfold Timer.handOut
  split <;> rfl

theorem handOut_cb (t : Timer Callback) (now : Nat) :
    (t.handOut now).cb = if t.recurring then t.cb else none := by
  unfold Timer.handOut
  split <;> rfl

theorem handOut_recurring (t : Timer Callback) (now : Nat) :
    (t.handOut now).recurring = t.recurring := by
  unfold Timer.handOut
  split <;> rfl

theorem expireOne_of_recurring {m : TimerManager Callback} {id : TimerId} (now : Nat)
    (hr : (m.heap id).recurring = true) :
    m.expireOne now id = (m.setTimer id ((m.heap id).handOut now)).insertId id := by
  rw [expireOne, Timer.handOut, if_pos hr, if_pos hr]

theorem expireOne_of_oneShot {m : TimerManager Callback} {id : TimerId} (now : Nat)
    (hr : ¬ (m.heap id).recurring = true) :
    m.expireOne now id = m.setTimer id ((m.heap id).handOut now) := by
  rw [expireOne, Timer.handOut, if_neg hr, if_neg hr]

/-- One turn of the loop writes to one timer. -/
theorem expireOne_heap (m : TimerManager Callback) (now : Nat) (id j : TimerId) :
    (m.expireOne now id).heap j =
      if j = id then (m.heap id).handOut now else m.heap j := by
  by_cases hr : (m.heap id).recurring = true
  · rw [expireOne_of_recurring now hr]; rfl
  · rw [expireOne_of_oneShot now hr]; rfl

@[simp] theorem expireOne_created (m : TimerManager Callback) (now : Nat) (id : TimerId) :
    (m.expireOne now id).created = m.created := by
  by_cases hr : (m.heap id).recurring = true
  · rw [expireOne_of_recurring now hr]; rfl
  · rw [expireOne_of_oneShot now hr]; rfl

theorem expireOne_clock (m : TimerManager Callback) (now : Nat) (id : TimerId) :
    (m.expireOne now id).previousTime = m.previousTime := by
  by_cases hr : (m.heap id).recurring = true
  · rw [expireOne_of_recurring now hr]; rfl
  · rw [expireOne_of_oneShot now hr]; rfl

theorem Detached.fresh_handOut {m : TimerManager Callback} {now : Nat} {id : TimerId}
    {rest : List TimerId} (hd : Detached m now (id :: rest)) :
    ∀ a ∈ (m.setTimer id ((m.heap id).handOut now)).timers,
      ((m.setTimer id ((m.heap id).handOut now)).heap a).addr ≠
        ((m.setTimer id ((m.heap id).handOut now)).heap id).addr := by
  intro a ha
  have hid := hd.absent id List.mem_cons_self
  rw [setTimer_self, setTimer_heap_of_mem _ hid ha, handOut_addr]
  exact hd.fresh id List.mem_cons_self a ha

/-- A recurring timer goes back into the set. -/
theorem mem_expireOne {m : TimerManager Callback} {now : Nat} {id j : TimerId}
    {rest : List TimerId} (hd : Detached m now (id :: rest)) :
    j ∈ (m.expireOne now id).timers ↔
      j ∈ m.timers ∨ j = id ∧ (m.heap id).recurring = true := by
  by_cases hr : (m.heap id).recurring = true
  · rw [expireOne_of_recurring now hr, mem_insertId hd.fresh_handOut, setTimer_timers, or_comm]
    simp [hr]
  · rw [expireOne_of_oneShot now hr, setTimer_timers]
    simp [hr]

/-- One turn keeps the set in order. -/
theorem SetInv.expireOne {m : TimerManager Callback} (h : SetInv m) {now : Nat}
    {id : TimerId} {rest : List TimerId} (hd : Detached m now (id :: rest)) :
    SetInv (m.expireOne now id) := by
  have hid := hd.absent id List.mem_cons_self
  by_cases hr : (m.heap id).recurring = true
  · -- the new deadline is one interval from now
    rw [expireOne_of_recurring now hr]
    have hsum := hd.sums id List.mem_cons_self hr
    refine (h.setTimer _ hid).insertId hd.fresh_handOut
      (hd.created id List.mem_cons_self) ?_
    rw [setTimer_self, Timer.handOut, if_pos hr]
    simp only [add64_of_lt hsum]
    omega
  · rw [expireOne_of_oneShot now hr]
    exact h.setTimer _ hid

/-- One turn leaves the timers behind it waiting. -/
theorem Detached.expireOne {m : TimerManager Callback} {now : Nat} {id : TimerId}
    {rest : List TimerId} (hd : Detached m now (id :: rest)) :
    Detached (m.expireOne now id) now rest := by
  obtain ⟨hid, hrest⟩ := List.nodup_cons.mp hd.nodup
  have hne : ∀ j ∈ rest, j ≠ id := fun j hj h => hid (h ▸ hj)
  have hheap : ∀ j ∈ rest, (m.expireOne now id).heap j = m.heap j := by
    intro j hj
    rw [expireOne_heap, if_neg (hne j hj)]
  have hcons : ∀ j ∈ rest, j ∈ id :: rest := fun j hj => List.mem_cons_of_mem _ hj
  refine ⟨hrest, ?_, ?_, ?_, ?_, ?_⟩
  · intro j hj hmem
    rcases (mem_expireOne hd).mp hmem with hmem | ⟨heq, _⟩
    · exact hd.absent j (hcons j hj) hmem
    · exact hne j hj heq
  · intro j hj a ha
    rw [hheap j hj, expireOne_heap]
    split
    · rw [handOut_addr]
      -- `id` goes back in at its own address, which `j` does not share
      intro haddr
      exact hne j hj (hd.addrs id List.mem_cons_self j (hcons j hj) haddr).symm
    · -- the other timers of the set were there before
      rcases (mem_expireOne hd).mp ha with ha | ⟨heq, _⟩
      · exact hd.fresh j (hcons j hj) a ha
      · contradiction
  · intro a ha b hb
    rw [hheap a ha, hheap b hb]
    exact hd.addrs a (hcons a ha) b (hcons b hb)
  · intro j hj
    rw [expireOne_created]
    exact hd.created j (hcons j hj)
  · intro j hj
    rw [hheap j hj]
    exact hd.sums j (hcons j hj)

/-- What the loop over `out` does. -/
structure Expired (m : TimerManager Callback) (now : Nat) (out : List TimerId)
    (m' : TimerManager Callback) (cbs : List (Option Callback)) : Prop where
  set     : SetInv m'
  cbs     : cbs = out.map fun id => (m.heap id).cb
  heap    : ∀ j, m'.heap j = if j ∈ out then (m.heap j).handOut now else m.heap j
  timers  : ∀ j, j ∈ m'.timers ↔ j ∈ m.timers ∨ j ∈ out ∧ (m.heap j).recurring = true
  created : m'.created = m.created
  clock   : m'.previousTime = m.previousTime

/-- The loop, by induction on the timers that wait for their turn. -/
theorem expireAll_spec {now : Nat} {out : List TimerId} :
    ∀ {m : TimerManager Callback}, SetInv m → Detached m now out →
      Expired m now out (expireAll now out m).1 (expireAll now out m).2 := by
  induction out with
  | nil =>
    intro m h _
    exact ⟨h, rfl, by simp [expireAll], by simp [expireAll], rfl, rfl⟩
  | cons id rest ih =>
    intro m h hd
    have hspec := ih (h.expireOne hd) hd.expireOne
    have hid := (List.nodup_cons.mp hd.nodup).1
    have hne : ∀ j ∈ rest, j ≠ id := fun j hj heq => hid (heq ▸ hj)
    -- the turn of `id` changes nothing for the timers behind it
    refine ⟨hspec.set, ?_, ?_, ?_, ?_, ?_⟩
    · show (m.heap id).cb :: (expireAll now rest (m.expireOne now id)).2 = _
      rw [hspec.cbs, List.map_cons]
      congr 1
      apply List.map_congr_left
      intro j hj
      rw [expireOne_heap, if_neg (hne j hj)]
    · intro j
      show (expireAll now rest (m.expireOne now id)).1.heap j = _
      rw [hspec.heap j, expireOne_heap]
      by_cases hj : j = id
      · subst hj; simp [hid]
      · simp [hj]
    · intro j
      show j ∈ (expireAll now rest (m.expireOne now id)).1.timers ↔ _
      rw [hspec.timers j, mem_expireOne hd, expireOne_heap]
      by_cases hj : j = id
      · subst hj; simp [hid]
      · simp [hj]
    · exact hspec.created.trans (expireOne_created m now id)
    · exact hspec.clock.trans (expireOne_clock m now id)

/-! ## Section 3: One call of `listExpiredCb` -/

/-- What one call at clock reading `now` does: it hands out the callbacks of
    the due timers in the order of their deadlines; of these timers the
    recurring ones stay with a new deadline and the others lose their
    callback and leave; the other timers stay as they are. -/
structure HandsOut (m : TimerManager Callback) (now : Nat) (m' : TimerManager Callback)
    (cbs : List (Option Callback)) : Prop where
  cbs     : cbs = (m.due now).map fun id => (m.heap id).cb
  order   : ((m.due now).map fun id => (m.heap id).next).Pairwise (· ≤ ·)
  due     : ∀ id, id ∈ m.due now ↔
              id ∈ m.timers ∧
                (now + 60 * 60 * 1000 < m.previousTime ∨ (m.heap id).next ≤ now)
  once    : (m.due now).Nodup
  heap    : ∀ id, m'.heap id =
              if id ∈ m.due now then (m.heap id).handOut now else m.heap id
  timers  : ∀ id, id ∈ m'.timers ↔
              id ∈ m.timers ∧ (id ∈ m.due now → (m.heap id).recurring = true)
  renewed : ∀ id ∈ m.due now, (m.heap id).recurring = true →
              (m'.heap id).next = now + (m.heap id).ms

/-- A rollover is a step back by more than an hour. -/
theorem rollover_iff {m : TimerManager Callback} (h : clockOk m.previousTime) (now : Nat) :
    m.rollover now = true ↔ now + 60 * 60 * 1000 < m.previousTime := by
  obtain ⟨hlow, hhigh⟩ := h
  rw [rollover, sub64_of_le hlow hhigh, Bool.and_eq_true, decide_eq_true_eq,
    decide_eq_true_eq]
  omega

/-- A timer is due at its deadline, and all are after a rollover. -/
theorem mem_due {m : TimerManager Callback} (h : clockOk m.previousTime) (now : Nat)
    (id : TimerId) :
    id ∈ m.due now ↔
      id ∈ m.timers ∧
        (now + 60 * 60 * 1000 < m.previousTime ∨ (m.heap id).next ≤ now) := by
  rw [← rollover_iff h]
  unfold due
  split
  · rename_i hroll; simp [hroll]
  · rename_i hroll; simp [hroll]

/-- The due timers come in the order of their deadlines. -/
theorem due_order {m : TimerManager Callback} (h : SetInv m) (now : Nat) :
    ((m.due now).map fun id => (m.heap id).next).Pairwise (· ≤ ·) := by
  rw [List.pairwise_map]
  refine List.Pairwise.imp ?_ (h.sorted.sublist (m.due_sublist now))
  intro a b hab
  exact m.next_le_of_less hab

/-- The timers behind the due ones are the others. -/
theorem mem_drop_due {m : TimerManager Callback} (h : SetInv m) (now : Nat) (id : TimerId) :
    id ∈ m.timers.drop (m.due now).length ↔ id ∈ m.timers ∧ id ∉ m.due now := by
  have hsplit : m.due now ++ m.timers.drop (m.due now).length = m.timers := by
    unfold due
    split
    · simp
    · rw [← takeWhile_le_eq_filter h, OrderedSet.drop_length_takeWhile]
      exact List.takeWhile_append_dropWhile
  have hnodup := h.nodup
  rw [← hsplit] at hnodup
  have hdisj := List.nodup_append.mp hnodup
  constructor
  · intro hid
    exact ⟨List.mem_of_mem_drop hid, fun hdue => hdisj.2.2 id hdue id hid rfl⟩
  · rintro ⟨hid, hdue⟩
    rw [← hsplit] at hid
    exact (List.mem_append.mp hid).resolve_left hdue

/-- The early return: the first timer is not due, so none is. -/
theorem due_eq_nil {m : TimerManager Callback} (h : Inv m) {now first : Nat}
    {rest : List TimerId} (htimers : m.timers = first :: rest)
    (hroll : m.rollover now = false) (hfirst : now < (m.heap first).next) :
    m.due now = [] := by
  rw [List.eq_nil_iff_forall_not_mem]
  intro id hid
  obtain ⟨hmem, hdue⟩ := (mem_due h.clock now id).mp hid
  have hsorted := h.set.sorted
  rw [htimers] at hmem hsorted
  -- the first timer has the least deadline
  have hle : (m.heap first).next ≤ (m.heap id).next := by
    rcases List.mem_cons.mp hmem with rfl | hmem
    · exact Nat.le_refl _
    · exact m.next_le_of_less ((List.pairwise_cons.mp hsorted).1 id hmem)
  rw [← rollover_iff h.clock, hroll] at hdue
  rcases hdue with hdue | hdue
  · cases hdue
  · omega

/-- A call that hands out nothing. -/
theorem handsOut_nothing {m : TimerManager Callback} (h : Inv m) {now : Nat}
    (hdue : m.due now = []) (t : Nat) : HandsOut m now { m with previousTime := t } [] :=
  ⟨by rw [hdue]; rfl, due_order h.set now, mem_due h.clock now, by rw [hdue]; exact List.nodup_nil,
    by simp [hdue], by simp [hdue], by simp [hdue]⟩

theorem inv_previousTime {m : TimerManager Callback} (h : Inv m) {t : Nat}
    (ht : clockOk t) : Inv { m with previousTime := t } :=
  ⟨⟨h.set.sorted, h.set.addrs, h.set.created, h.set.keys⟩, h.live, ht⟩

/-- The state the loop of `listExpiredCb` starts in. -/
theorem detached_due {m : TimerManager Callback} (h : SetInv m) {now : Nat}
    (hsums : ∀ id ∈ m.due now, (m.heap id).recurring = true →
      now + (m.heap id).ms < 2 ^ 64) :
    Detached { m with timers := m.timers.drop (m.due now).length, previousTime := now }
      now (m.due now) where
  nodup   := (m.due_sublist now).nodup h.nodup
  absent  := fun id hid hmem => ((mem_drop_due h now id).mp hmem).2 hid
  fresh   := by
    intro id hid a ha haddr
    obtain ⟨ha, hnot⟩ := (mem_drop_due h now a).mp ha
    have hmem := (m.due_sublist now).subset hid
    exact hnot (h.addrs a ha id hmem haddr ▸ hid)
  addrs   := fun a ha b hb =>
    h.addrs a ((m.due_sublist now).subset ha) b ((m.due_sublist now).subset hb)
  created := fun id hid => h.created id ((m.due_sublist now).subset hid)
  sums    := hsums

/-- The whole call, once the early returns are out of the way. -/
theorem listExpiredCb_eq {m : TimerManager Callback} (h : Inv m) (now probe : Nat) :
    (m.due now = [] ∧ ∃ t, (t = now ∨ t = m.previousTime) ∧
      m.listExpiredCb now probe = ({ m with previousTime := t }, [])) ∨
    m.listExpiredCb now probe =
      expireAll now (m.due now)
        { m with timers := m.timers.drop (m.due now).length, previousTime := now } := by
  unfold listExpiredCb
  split
  · rename_i htimers
    left
    refine ⟨?_, m.previousTime, Or.inr rfl, rfl⟩
    have hsub := m.due_sublist now
    rw [htimers] at hsub
    exact List.sublist_nil.mp hsub
  · -- the set is not empty: either the first timer is not due, or the range is copied
    rename_i first rest htimers
    by_cases hearly : m.rollover now = false ∧ now < (m.heap first).next
    · left
      refine ⟨due_eq_nil h htimers hearly.1 hearly.2, now, Or.inl rfl, ?_⟩
      exact if_pos hearly
    · right
      have hrange : expiredRange { m with previousTime := now } now probe (m.rollover now) =
          m.due now := expiredRange_eq h.set now probe
      refine (if_neg hearly).trans ?_
      show expireAll now
        (expiredRange { m with previousTime := now } now probe (m.rollover now)) _ = _
      rw [hrange]

/-- One call of `listExpiredCb`: the invariant, and what is handed out. -/
theorem listExpiredCb_spec {m : TimerManager Callback} (h : Inv m) {now : Nat}
    (probe : Nat) (hnow : clockOk now)
    (hsums : ∀ id ∈ m.due now, (m.heap id).recurring = true →
      now + (m.heap id).ms < 2 ^ 64) :
    Inv (m.listExpiredCb now probe).1 ∧
    HandsOut m now (m.listExpiredCb now probe).1 (m.listExpiredCb now probe).2 ∧
    (m.listExpiredCb now probe).1.created = m.created := by
  -- an early return, or the whole call
  rcases listExpiredCb_eq h now probe with ⟨hdue, t, ht, heq⟩ | heq
  · rw [heq]
    refine ⟨inv_previousTime h ?_, handsOut_nothing h hdue t, rfl⟩
    rcases ht with rfl | rfl
    · exact hnow
    · exact h.clock
  · rw [heq]
    have hset : SetInv { m with timers := m.timers.drop (m.due now).length,
                                previousTime := now } :=
      (inv_previousTime h hnow).set.of_sublist (List.drop_sublist _ _)
    have hspec := expireAll_spec hset (detached_due h.set hsums)
    -- a due timer is in the set again only if it is recurring
    have htimers : ∀ id, id ∈ (expireAll now (m.due now)
        { m with timers := m.timers.drop (m.due now).length, previousTime := now }).1.timers ↔
        id ∈ m.timers ∧ (id ∈ m.due now → (m.heap id).recurring = true) := by
      intro id
      rw [hspec.timers id, mem_drop_due h.set]
      have hsub : id ∈ m.due now → id ∈ m.timers := fun hid => (m.due_sublist now).subset hid
      by_cases hid : id ∈ m.due now
      · simp [hid, hsub hid]
      · simp [hid]
    refine ⟨⟨hspec.set, ?_, ?_⟩, ⟨hspec.cbs, due_order h.set now, mem_due h.clock now,
      (m.due_sublist now).nodup h.set.nodup, hspec.heap, htimers, ?_⟩, hspec.created⟩
    · intro id
      rw [htimers id, hspec.heap id, h.live id]
      by_cases hid : id ∈ m.due now
      · have hcb := (h.live id).mp ((m.due_sublist now).subset hid)
        rw [if_pos hid, handOut_cb]
        by_cases hr : (m.heap id).recurring = true <;> simp [hid, hr, hcb]
      · simp [hid]
    · show clockOk _
      rw [hspec.clock]
      exact hnow
    · intro id hid hr
      rw [hspec.heap id, if_pos hid, Timer.handOut, if_pos hr]
      exact add64_of_lt (hsums id hid hr)

end TimerManager

end MNSER
