import Mnser.Timer.Invariant

/-! # Timers at distinct addresses

    What keeps `m_timers` in order when deadlines may wrap around: no two
    timers that are alive share an address, and the keys of the members stay
    as they are.  `Addressed m out` counts the timers `out` as alive although
    they are not in the set: `addTimer` has constructed them, or an operation
    has taken them out and puts them back. -/

namespace MNSER

variable {Callback : Type}

/-! ## Section 1: The parts of the operations -/

namespace TimerManager

/-- `Timer::Timer`, before the lock is taken. -/
def construct (m : TimerManager Callback) (ms : Nat) (cb : Option Callback) (recurring : Bool)
    (addr now : Nat) : TimerManager Callback :=
  { m with created := m.created + 1 }.setTimer m.created
    { recurring := recurring, ms := ms, next := add64 now ms, cb := cb, addr := addr }

theorem addTimer_eq (m : TimerManager Callback) (ms : Nat) (cb : Option Callback)
    (recurring : Bool) (addr now : Nat) :
    m.addTimer ms cb recurring addr now =
      (((m.construct ms cb recurring addr now).addTimerLocked m.created).1, m.created,
        ((m.construct ms cb recurring addr now).addTimerLocked m.created).2) := rfl

/-- `Timer::reset` from the lock on; what it compares before is not looked at
    again. -/
def resetLocked (m : TimerManager Callback) (id : TimerId) (ms : Nat) (from_now : Bool)
    (now : Nat) : TimerManager Callback × Bool × Bool :=
  if (m.heap id).cb.isNone then (m, false, false)
  else
    match OrderedSet.find m.less id m.timers with
    | none   => (m, false, false)
    | some _ =>
      let m := m.eraseId id
      let t := m.heap id
      let start := if from_now then now else sub64 t.next t.ms
      let (m', front) :=
        (m.setTimer id { t with ms := ms, next := add64 start ms }).addTimerLocked id
      (m', true, front)

theorem reset_eq (m : TimerManager Callback) (id : TimerId) (ms : Nat) (from_now : Bool)
    (now : Nat) :
    m.reset id ms from_now now =
      if ms = (m.heap id).ms ∧ from_now = false then (m, true, false)
      else m.resetLocked id ms from_now now := rfl

/-- The two early returns of `listExpiredCb`, and the rest of the call. -/
theorem listExpiredCb_cases (m : TimerManager Callback) (now probe : Nat) :
    (∃ t, (m.listExpiredCb now probe).1 = { m with previousTime := t }) ∨
    ∃ expired, expired = expiredRange { m with previousTime := now } now probe (m.rollover now) ∧
      m.listExpiredCb now probe =
        expireAll now expired
          { m with timers := m.timers.drop expired.length, previousTime := now } := by
  unfold listExpiredCb
  split
  · exact Or.inl ⟨m.previousTime, rfl⟩
  · rename_i first rest htimers
    by_cases hearly : m.rollover now = false ∧ now < (m.heap first).next
    · exact Or.inl ⟨now, congrArg Prod.fst (if_pos hearly)⟩
    · exact Or.inr ⟨_, rfl, if_neg hearly⟩

/-- `[begin, it)` is a prefix of the set. -/
theorem expiredRange_isTake (m : TimerManager Callback) (now probe : Nat) (rollover : Bool) :
    m.expiredRange now probe rollover <+: m.timers := by
  cases rollover with
  | true => exact List.prefix_rfl
  | false =>
    let before := fun (id : TimerId) (k : Timer Callback) =>
      Timer.Comparator (some (m.heap id)) (some k)
    let low := OrderedSet.beforeLowerBound before (Timer.ofNext now probe) m.timers
    have hlow : low <+: m.timers := List.takeWhile_prefix _
    have hsplit : low ++ m.timers.drop low.length = m.timers := by
      obtain ⟨rest, hrest⟩ := hlow
      rw [← hrest, List.drop_left]
    show low ++ (m.timers.drop low.length).takeWhile _ <+: m.timers
    conv_rhs => rw [← hsplit]
    exact (List.prefix_append_right_inj low).mpr (List.takeWhile_prefix _)

/-- Without a rollover it holds timers that are due. -/
theorem next_le_of_mem_expiredRange {m : TimerManager Callback} {now probe : Nat} {id : TimerId}
    (h : id ∈ m.expiredRange now probe false) : (m.heap id).next ≤ now := by
  simp only [expiredRange, Bool.false_eq_true, if_false] at h
  rcases List.mem_append.mp h with h | h
  · -- in front of the probe
    have hbefore : Timer.Comparator (some (m.heap id)) (some (Timer.ofNext now probe)) = true :=
      List.mem_takeWhile_imp (l := m.timers)
        (p := fun y => Timer.Comparator (some (m.heap y)) (some (Timer.ofNext now probe))) h
    rw [comparator_iff] at hbefore
    simp only [Timer.ofNext] at hbefore
    omega
  · -- skipped by the loop behind `lower_bound`
    have heq := List.mem_takeWhile_imp h
    simp only [decide_eq_true_eq] at heq
    exact Nat.le_of_eq heq

/-! ## Section 2: What the steps do -/

structure Addressed (m : TimerManager Callback) (out : List TimerId) : Prop where
  sorted  : OrderedSet.Sorted m.less m.timers
  addrs   : ((m.timers ++ out).map fun a => (m.heap a).addr).Nodup
  created : ∀ a ∈ m.timers ++ out, a < m.created
  live    : ∀ a, (m.heap a).cb.isSome = true → a ∈ m.timers ++ out

namespace Addressed

variable {m : TimerManager Callback} {out : List TimerId} {id : TimerId}

/-- No timer is counted twice. -/
theorem nodup (h : Addressed m out) : (m.timers ++ out).Nodup := h.addrs.of_map _

/-- Two timers that are alive at one address are one. -/
theorem eq_of_equiv (h : Addressed m out) (hid : id ∈ m.timers ++ out) :
    ∀ y ∈ m.timers, OrderedSet.equiv m.less id y = true → y = id := by
  intro y hy hequiv
  have haddr := ((m.equiv_iff id y).mp hequiv).2
  exact List.inj_on_of_nodup_map h.addrs (List.mem_append_left _ hy) hid haddr.symm

/-- `find` leads a timer that is alive to itself. -/
theorem mem_of_find (h : Addressed m out) (hid : id ∈ m.timers ++ out) {it : TimerId}
    (hfind : OrderedSet.find m.less id m.timers = some it) : id ∈ m.timers := by
  have hmem := List.mem_of_find?_eq_some hfind
  exact h.eq_of_equiv hid it hmem (List.find?_some hfind) ▸ hmem

/-- The same timers, counted in another way. -/
theorem of_perm (h : Addressed m out) {m' : TimerManager Callback} {out' : List TimerId}
    (hheap : m'.heap = m.heap) (hcreated : m'.created = m.created)
    (hsorted : OrderedSet.Sorted m.less m'.timers)
    (hperm : (m'.timers ++ out').Perm (m.timers ++ out)) : Addressed m' out' where
  sorted  := by
    -- the comparator sees the same heap
    have hless : m'.less = m.less := by
      funext a b
      exact less_congr (congrFun hheap a) (congrFun hheap b)
    rw [hless]
    exact hsorted
  addrs   := by
    rw [hheap]
    exact (hperm.map _).nodup_iff.mpr h.addrs
  created := fun a ha => hcreated ▸ h.created a (hperm.mem_iff.mp ha)
  live    := fun a ha => hperm.mem_iff.mpr (h.live a (hheap ▸ ha))

/-- A timer leaves the set, and is still counted. -/
theorem eraseId (h : Addressed m out) (hid : id ∈ m.timers) :
    Addressed (m.eraseId id) (id :: out) := by
  refine h.of_perm rfl rfl (OrderedSet.sorted_erase id h.sorted) ?_
  have hperm := OrderedSet.erase_perm hid (m.less_irrefl id)
    (h.eq_of_equiv (List.mem_append_left _ hid))
  exact List.perm_middle.trans (hperm.append_right out)

/-- A timer that is out goes in. -/
theorem insertId (h : Addressed m (id :: out)) : Addressed (m.insertId id) out := by
  refine h.of_perm rfl rfl (OrderedSet.sorted_insert (fun _ _ => m.less_trans) h.sorted) ?_
  have hnotin : id ∉ m.timers :=
    fun hid => (List.nodup_append.mp h.nodup).2.2 id hid id List.mem_cons_self rfl
  -- `std::set` takes it, since no timer of the set has its address
  have hnew : ∀ y ∈ m.timers, OrderedSet.equiv m.less id y = false := by
    intro y hy
    rw [← Bool.not_eq_true]
    intro hequiv
    have hyid := h.eq_of_equiv (List.mem_append_right _ List.mem_cons_self) y hy hequiv
    exact hnotin (hyid ▸ hy)
  exact ((OrderedSet.insert_perm hnew).append_right out).trans List.perm_middle.symm

/-- The front of the set is taken out. -/
theorem drop (h : Addressed m out) (n : Nat) :
    Addressed { m with timers := m.timers.drop n } (m.timers.take n ++ out) := by
  refine h.of_perm rfl rfl (h.sorted.sublist (List.drop_sublist _ _)) ?_
  show (m.timers.drop n ++ (m.timers.take n ++ out)).Perm (m.timers ++ out)
  rw [← List.append_assoc]
  refine List.Perm.append_right out (List.perm_append_comm.trans ?_)
  rw [List.take_append_drop]

/-- A timer that is out of the set may change, but does not move. -/
theorem setTimer (h : Addressed m out) (t : Timer Callback) (hid : id ∈ out)
    (haddr : t.addr = (m.heap id).addr) : Addressed (m.setTimer id t) out := by
  have hnotin : id ∉ m.timers :=
    fun hmem => (List.nodup_append.mp h.nodup).2.2 id hmem id hid rfl
  have hsame : (fun a => ((m.setTimer id t).heap a).addr) = fun a => (m.heap a).addr := by
    funext a
    by_cases ha : a = id
    · rw [ha, setTimer_self, haddr]
    · rw [setTimer_ne m t ha]
  refine ⟨?_, ?_, h.created, fun a ha => ?_⟩
  · refine List.Pairwise.imp_of_mem ?_ h.sorted
    intro a b ha hb hab
    rwa [less_congr (setTimer_heap_of_mem t hnotin ha) (setTimer_heap_of_mem t hnotin hb)]
  · rw [hsame]
    exact h.addrs
  · by_cases haid : a = id
    · rw [haid]
      exact List.mem_append_right _ hid
    · rw [setTimer_ne m t haid] at ha
      exact h.live a ha

/-- A callback that is dropped changes nothing else. -/
theorem dropCallback (h : Addressed m out) (id : TimerId) :
    Addressed (m.setTimer id { m.heap id with cb := none }) out := by
  have hsame : (fun a => ((m.setTimer id { m.heap id with cb := none }).heap a).addr) =
      fun a => (m.heap a).addr := by
    funext a
    by_cases ha : a = id
    · rw [ha, setTimer_self]
    · rw [setTimer_ne m _ ha]
  refine ⟨?_, ?_, h.created, fun a ha => ?_⟩
  · rw [less_setTimer_cb]
    exact h.sorted
  · rw [hsame]
    exact h.addrs
  · by_cases haid : a = id
    · rw [haid, setTimer_self] at ha
      cases ha
    · rw [setTimer_ne m _ haid] at ha
      exact h.live a ha

/-- A timer without a callback that nobody puts back is no longer counted. -/
theorem forget (h : Addressed m (id :: out)) (hcb : (m.heap id).cb = none) : Addressed m out := by
  have hsub : (m.timers ++ out).Sublist (m.timers ++ id :: out) :=
    List.Sublist.append_left (List.sublist_cons_self id out) _
  refine ⟨h.sorted, h.addrs.sublist (hsub.map _), fun a ha => h.created a (hsub.subset ha),
    fun a ha => ?_⟩
  rcases List.mem_append.mp (h.live a ha) with hmem | hmem
  · exact List.mem_append_left _ hmem
  · rcases List.mem_cons.mp hmem with rfl | hmem
    · rw [hcb] at ha
      cases ha
    · exact List.mem_append_right _ hmem

/-! ## Section 3: What the operations do -/

theorem init (now : Nat) : Addressed (init now : TimerManager Callback) [] := by
  refine ⟨List.Pairwise.nil, List.nodup_nil, fun a ha => ?_, fun a ha => ?_⟩
  · cases ha
  · cases ha

theorem construct (h : Addressed m out) {ms addr now : Nat} {cb : Option Callback}
    {recurring : Bool} (hfresh : ∀ a ∈ m.timers ++ out, (m.heap a).addr ≠ addr) :
    Addressed (m.construct ms cb recurring addr now) (m.created :: out) := by
  have hne : ∀ a ∈ m.timers ++ out, a ≠ m.created := fun a ha => Nat.ne_of_lt (h.created a ha)
  have hheap : ∀ a ∈ m.timers ++ out,
      (m.construct ms cb recurring addr now).heap a = m.heap a :=
    fun a ha => setTimer_ne { m with created := m.created + 1 } _ (hne a ha)
  have hself : (m.construct ms cb recurring addr now).heap m.created =
      { recurring := recurring, ms := ms, next := add64 now ms, cb := cb, addr := addr } :=
    setTimer_self _ _ _
  refine ⟨?_, ?_, fun a ha => ?_, fun a ha => ?_⟩
  · refine List.Pairwise.imp_of_mem ?_ h.sorted
    intro a b ha hb hab
    rwa [less_congr (hheap a (List.mem_append_left _ ha)) (hheap b (List.mem_append_left _ hb))]
  · show ((m.timers ++ m.created :: out).map _).Nodup
    rw [(List.perm_middle.map _).nodup_iff, List.map_cons, List.nodup_cons, hself]
    constructor
    · intro hmem
      obtain ⟨a, ha, haddr⟩ := List.mem_map.mp hmem
      rw [hheap a ha] at haddr
      exact hfresh a ha haddr
    · rw [List.map_congr_left fun a ha => congrArg Timer.addr (hheap a ha)]
      exact h.addrs
  · rcases List.mem_cons.mp (List.perm_middle.mem_iff.mp ha) with rfl | ha
    · exact Nat.lt_succ_self _
    · exact Nat.lt_succ_of_lt (h.created a ha)
  · refine List.perm_middle.mem_iff.mpr ?_
    by_cases haid : a = m.created
    · exact haid ▸ List.mem_cons_self
    · have heq : (m.construct ms cb recurring addr now).heap a = m.heap a :=
        setTimer_ne { m with created := m.created + 1 } _ haid
      rw [heq] at ha
      exact List.mem_cons_of_mem _ (h.live a ha)

theorem addTimerLocked (h : Addressed m (id :: out)) : Addressed (m.addTimerLocked id).1 out :=
  ⟨h.insertId.sorted, h.insertId.addrs, h.insertId.created, h.insertId.live⟩

theorem cancel (h : Addressed m out) {m' : TimerManager Callback} {b : Bool}
    (heq : m.cancel id = some (m', b)) : Addressed m' out := by
  simp only [TimerManager.cancel] at heq
  split at heq
  · rename_i hcb
    split at heq
    · cases heq
    · rename_i it hfind
      obtain ⟨rfl, _⟩ := Prod.mk.inj (Option.some.inj heq)
      have hclear := h.dropCallback id
      have hid := hclear.mem_of_find (h.live id hcb) hfind
      refine (hclear.eraseId hid).forget ?_
      rw [eraseId_heap, setTimer_self]
  · obtain ⟨rfl, _⟩ := Prod.mk.inj (Option.some.inj heq)
    exact h

theorem refresh (h : Addressed m out) (now : Nat) : Addressed (m.refresh id now).1 out := by
  unfold TimerManager.refresh
  split
  · exact h
  · rename_i hcb
    split
    · exact h
    · rename_i it hfind
      have hlive : (m.heap id).cb.isSome = true := by
        simpa [Option.isSome_iff_ne_none] using hcb
      have hout := h.eraseId (h.mem_of_find (h.live id hlive) hfind)
      exact insertId (hout.setTimer _ List.mem_cons_self (by rfl))

theorem resetLocked (h : Addressed m out) (ms : Nat) (from_now : Bool) (now : Nat) :
    Addressed (m.resetLocked id ms from_now now).1 out := by
  unfold TimerManager.resetLocked
  split
  · exact h
  · rename_i hcb
    split
    · exact h
    · rename_i it hfind
      have hlive : (m.heap id).cb.isSome = true := by
        simpa [Option.isSome_iff_ne_none] using hcb
      have hout := h.eraseId (h.mem_of_find (h.live id hlive) hfind)
      exact addTimerLocked (hout.setTimer _ List.mem_cons_self (by rfl))

theorem expireAll (now : Nat) (expired : List TimerId) :
    ∀ {m : TimerManager Callback}, Addressed m (expired ++ out) →
      Addressed (expireAll now expired m).1 out := by
  induction expired with
  | nil =>
    intro m h
    exact h
  | cons id rest ih =>
    intro m h
    refine ih (m := m.expireOne now id) ?_
    have hid : id ∈ id :: rest ++ out := List.mem_cons_self
    unfold expireOne
    by_cases hrec : (m.heap id).recurring = true
    · rw [if_pos hrec]
      exact insertId (h.setTimer _ hid (by rfl))
    · rw [if_neg hrec]
      exact forget (h.setTimer _ hid (by rfl)) (by rw [setTimer_self])

theorem listExpiredCb (h : Addressed m out) (now probe : Nat) :
    Addressed (m.listExpiredCb now probe).1 out := by
  rcases m.listExpiredCb_cases now probe with ⟨t, heq⟩ | ⟨expired, hexpired, heq⟩
  · rw [heq]
    exact ⟨h.sorted, h.addrs, h.created, h.live⟩
  · have hprefix : expired <+: m.timers :=
      hexpired ▸ expiredRange_isTake { m with previousTime := now } now probe (m.rollover now)
    have hdrop := h.drop expired.length
    rw [← List.prefix_iff_eq_take.mp hprefix] at hdrop
    rw [heq]
    exact expireAll now expired ⟨hdrop.sorted, hdrop.addrs, hdrop.created, hdrop.live⟩

end Addressed

/-! ## Section 4: Deadlines are `uint64_t` -/

def InRange (m : TimerManager Callback) : Prop := ∀ id, (m.heap id).next < 2 ^ 64

namespace InRange

variable {m : TimerManager Callback} {id : TimerId}

theorem setTimer (h : InRange m) {t : Timer Callback} (ht : t.next < 2 ^ 64) :
    InRange (m.setTimer id t) := by
  intro j
  by_cases hj : j = id
  · rw [hj, setTimer_self]
    exact ht
  · rw [setTimer_ne m t hj]
    exact h j

theorem construct (h : InRange m) (ms : Nat) (cb : Option Callback) (recurring : Bool)
    (addr now : Nat) : InRange (m.construct ms cb recurring addr now) :=
  setTimer (m := { m with created := m.created + 1 }) h (add64_lt now ms)

theorem cancel (h : InRange m) {m' : TimerManager Callback} {b : Bool}
    (heq : m.cancel id = some (m', b)) : InRange m' := by
  simp only [TimerManager.cancel] at heq
  split at heq
  · split at heq
    · cases heq
    · obtain ⟨rfl, _⟩ := Prod.mk.inj (Option.some.inj heq)
      exact h.setTimer (h id)
  · obtain ⟨rfl, _⟩ := Prod.mk.inj (Option.some.inj heq)
    exact h

theorem refresh (h : InRange m) (now : Nat) : InRange (m.refresh id now).1 := by
  unfold TimerManager.refresh
  split
  · exact h
  · split
    · exact h
    · exact h.setTimer (add64_lt now _)

theorem resetLocked (h : InRange m) (ms : Nat) (from_now : Bool) (now : Nat) :
    InRange (m.resetLocked id ms from_now now).1 := by
  unfold TimerManager.resetLocked
  split
  · exact h
  · split
    · exact h
    · exact h.setTimer (add64_lt _ ms)

theorem expireAll (now : Nat) (expired : List TimerId) :
    ∀ {m : TimerManager Callback}, InRange m → InRange (expireAll now expired m).1 := by
  induction expired with
  | nil =>
    intro m h
    exact h
  | cons id rest ih =>
    intro m h
    refine ih (m := m.expireOne now id) ?_
    unfold expireOne
    by_cases hrec : (m.heap id).recurring = true
    · rw [if_pos hrec]
      exact h.setTimer (add64_lt now _)
    · rw [if_neg hrec]
      exact h.setTimer (h id)

theorem listExpiredCb (h : InRange m) (now probe : Nat) :
    InRange (m.listExpiredCb now probe).1 := by
  rcases m.listExpiredCb_cases now probe with ⟨t, heq⟩ | ⟨expired, _, heq⟩
  · rw [heq]
    exact h
  · rw [heq]
    exact expireAll now expired h

end InRange

end TimerManager

end MNSER
