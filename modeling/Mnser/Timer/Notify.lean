import Mnser.Timer.Addresses

/-! # Telling the waiter about an earlier timer

    `getNextTimer` tells a waiter when the next timer is due, and a timer that
    is inserted in front of that one has to call `onTimerInsertedAtFront`.
    Other calls come between the constructor of a timer and the lock, between
    the lock and the notification, and between the clock reading of
    `listExpiredCb` and its lock.

    A timer that goes back in without `addTimer` must not become earlier than
    all the timers were.  `refresh` and `listExpiredCb` rely on that; it holds
    as long as the sum of the clock and the interval does not wrap around and
    no rollover is detected. -/

namespace MNSER

open LTS

variable {Callback : Type}

/-! ## Section 1: Reading the next deadline -/

namespace TimerManager

/-- `TimerManager::getNextTimer` -/
def getNextTimer (m : TimerManager Callback) (now : Nat) : TimerManager Callback × Nat :=
  let m' := { m with tickled := false }
  match m.timers with
  | []        => (m', 2 ^ 64 - 1)
  | next :: _ => (m', if (m.heap next).next ≤ now then 0 else sub64 (m.heap next).next now)

/-- The deadline `getNextTimer` goes by; `none` where there is no timer. -/
def nextDeadline (m : TimerManager Callback) : Option Nat :=
  m.timers.head?.map fun id => (m.heap id).next

end TimerManager

/-! ## Section 2: Calls in flight -/

structure Timers (Callback : Type) where
  manager     : TimerManager Callback
  /-- Timers that `addTimer` has constructed and not inserted yet. -/
  constructed : List TimerId
  /-- Calls of `onTimerInsertedAtFront` that are due, the lock being released. -/
  notifying   : Nat
  /-- Clock readings of `listExpiredCb`, in front of its lock. -/
  expiring    : List Nat
  /-- The latest clock reading. -/
  clock       : Nat
  /-- What the last `getNextTimer` went by; no deadline before the first. -/
  reported    : Option Nat
  /-- `onTimerInsertedAtFront` was called since. -/
  notified    : Bool

inductive TimersLabel (Callback : Type) where
  | construct (ms : Nat) (cb : Option Callback) (recurring : Bool) (addr now : Nat)
  | insert (id : TimerId)
  | notify
  | cancel (id : TimerId)
  | refresh (id : TimerId) (now : Nat)
  | reset (id : TimerId) (ms : Nat) (from_now : Bool) (now : Nat)
  | readClock (now : Nat)
  | listNothing (now : Nat)
  | listExpiredCb (now probe : Nat)
  | getNextTimer (now : Nat)

namespace Timers

/-- A clock reading: a `uint64_t`, and not before an earlier one. -/
def Reading (s : Timers Callback) (now : Nat) : Prop := s.clock ≤ now ∧ now < 2 ^ 64

instance (s : Timers Callback) (now : Nat) : Decidable (s.Reading now) :=
  inferInstanceAs (Decidable (_ ∧ _))

/-- Behind the lock of the private `addTimer`. -/
def unlock (s : Timers Callback) (m : TimerManager Callback) (front : Bool) : Timers Callback :=
  { s with manager := m, notifying := if front then s.notifying + 1 else s.notifying }

def next (s : Timers Callback) : TimersLabel Callback → Option (Timers Callback)
  -- the allocator does not hand out the address of a timer that is alive
  | .construct ms cb recurring addr now =>
    if s.Reading now ∧ ms < 2 ^ 64 ∧
        ∀ a ∈ s.manager.timers ++ s.constructed, (s.manager.heap a).addr ≠ addr then
      some { s with
             manager     := s.manager.construct ms cb recurring addr now
             constructed := s.manager.created :: s.constructed
             clock       := now }
    else none
  | .insert id =>
    if id ∈ s.constructed then
      let (m, front) := s.manager.addTimerLocked id
      some ({ s with constructed := s.constructed.erase id }.unlock m front)
    else none
  | .notify =>
    if 0 < s.notifying then
      some { s with notifying := s.notifying - 1, notified := true }
    else none
  | .cancel id =>
    if id < s.manager.created then
      (s.manager.cancel id).map fun r => { s with manager := r.1 }
    else none
  | .refresh id now =>
    if id < s.manager.created ∧ s.Reading now then
      some { s with manager := (s.manager.refresh id now).1, clock := now }
    else none
  | .reset id ms from_now now =>
    if id < s.manager.created ∧ s.Reading now ∧ ms < 2 ^ 64 then
      let (m, _, front) := s.manager.resetLocked id ms from_now now
      some ({ s with clock := now }.unlock m front)
    else none
  | .readClock now =>
    if s.Reading now then some { s with expiring := now :: s.expiring, clock := now } else none
  -- `m_timers` was empty when the read lock was held
  | .listNothing now =>
    if now ∈ s.expiring ∧ s.manager.timers = [] then
      some { s with expiring := s.expiring.erase now }
    else none
  | .listExpiredCb now probe =>
    if now ∈ s.expiring then
      some { s with
             manager  := (s.manager.listExpiredCb now probe).1
             expiring := s.expiring.erase now }
    else none
  | .getNextTimer now =>
    if s.Reading now then
      some { s with
             manager  := (s.manager.getNextTimer now).1
             clock    := now
             reported := s.manager.nextDeadline
             notified := false }
    else none

end Timers

/-- After the constructor of the manager. -/
def Timers.start (Callback : Type) (now : Nat) : Timers Callback where
  manager     := .init now
  constructed := []
  notifying   := 0
  expiring    := []
  clock       := now
  reported    := none
  notified    := false

def timers (Callback : Type) : System (Timers Callback) (TimersLabel Callback) where
  init s := ∃ now, now < 2 ^ 64 ∧ s = Timers.start Callback now
  next   := Timers.next

/-- Where a timer goes back in without `addTimer`, the clock plus its interval
    does not wrap around, and no rollover is detected. -/
def NoBackdate (s : Timers Callback) : TimersLabel Callback → Prop
  | .refresh id now =>
    (s.manager.heap id).cb.isSome = true → now + (s.manager.heap id).ms < 2 ^ 64
  | .listExpiredCb now _ =>
    ∀ id ∈ s.manager.timers, (s.manager.heap id).recurring = true →
      s.manager.rollover now = false ∧
        ((s.manager.heap id).next ≤ now → now + (s.manager.heap id).ms < 2 ^ 64)
  | _ => True

instance (s : Timers Callback) : (l : TimersLabel Callback) → Decidable (NoBackdate s l)
  | .construct _ _ _ _ _ => inferInstanceAs (Decidable True)
  | .insert _            => inferInstanceAs (Decidable True)
  | .notify              => inferInstanceAs (Decidable True)
  | .cancel _            => inferInstanceAs (Decidable True)
  | .refresh _ _         => inferInstanceAs (Decidable (_ → _))
  | .reset _ _ _ _       => inferInstanceAs (Decidable True)
  | .readClock _         => inferInstanceAs (Decidable True)
  | .listNothing _       => inferInstanceAs (Decidable True)
  | .listExpiredCb now _ =>
    inferInstanceAs (Decidable (∀ id ∈ s.manager.timers, (s.manager.heap id).recurring = true →
      s.manager.rollover now = false ∧
        ((s.manager.heap id).next ≤ now → now + (s.manager.heap id).ms < 2 ^ 64)))
  | .getNextTimer _      => inferInstanceAs (Decidable True)

theorem Timers.inRange_next {s s' : Timers Callback} {l : TimersLabel Callback}
    (h : s.manager.InRange) (hnext : s.next l = some s') : s'.manager.InRange := by
  cases l with
  | construct ms cb recurring addr now =>
    obtain ⟨_, heq⟩ := Option.ite_none_right_eq_some.mp hnext
    obtain rfl := Option.some.inj heq
    exact h.construct ms cb recurring addr now
  | cancel id =>
    obtain ⟨_, heq⟩ := Option.ite_none_right_eq_some.mp hnext
    obtain ⟨⟨m, b⟩, hcancel, rfl⟩ := Option.map_eq_some_iff.mp heq
    exact h.cancel hcancel
  | refresh id now =>
    obtain ⟨_, heq⟩ := Option.ite_none_right_eq_some.mp hnext
    obtain rfl := Option.some.inj heq
    exact h.refresh now
  | reset id ms from_now now =>
    obtain ⟨_, heq⟩ := Option.ite_none_right_eq_some.mp hnext
    obtain rfl := Option.some.inj heq
    exact h.resetLocked ms from_now now
  | listExpiredCb now probe =>
    obtain ⟨_, heq⟩ := Option.ite_none_right_eq_some.mp hnext
    obtain rfl := Option.some.inj heq
    exact h.listExpiredCb now probe
  | getNextTimer now =>
    obtain ⟨_, heq⟩ := Option.ite_none_right_eq_some.mp hnext
    obtain rfl := Option.some.inj heq
    show (s.manager.getNextTimer now).1.InRange
    unfold TimerManager.getNextTimer
    split <;> exact h
  | _ =>
    obtain ⟨_, heq⟩ := Option.ite_none_right_eq_some.mp hnext
    obtain rfl := Option.some.inj heq
    exact h

/-! ## Section 3: Not earlier -/

namespace TimerManager

/-- No timer is earlier than all of those before. -/
def NotEarlier (m m' : TimerManager Callback) : Prop :=
  ∀ j ∈ m'.timers, ∃ i ∈ m.timers, (m.heap i).next ≤ (m'.heap j).next

/-- Members that keep their deadline, and no others. -/
theorem NotEarlier.of_subset {m m' : TimerManager Callback}
    (hsub : ∀ j ∈ m'.timers, j ∈ m.timers)
    (hnext : ∀ j ∈ m'.timers, (m'.heap j).next = (m.heap j).next) : NotEarlier m m' :=
  fun j hj => ⟨j, hsub j hj, Nat.le_of_eq (hnext j hj).symm⟩

theorem setTimer_next {m : TimerManager Callback} {id : TimerId} {t : Timer Callback}
    (h : t.next = (m.heap id).next) (j : TimerId) :
    ((m.setTimer id t).heap j).next = (m.heap j).next := by
  by_cases hj : j = id
  · rw [hj, setTimer_self, h]
  · rw [setTimer_ne m t hj]

theorem notEarlier_cancel {m m' : TimerManager Callback} {id : TimerId} {b : Bool}
    (h : m.cancel id = some (m', b)) : NotEarlier m m' := by
  simp only [cancel] at h
  split at h
  · split at h
    · cases h
    · obtain ⟨rfl, _⟩ := Prod.mk.inj (Option.some.inj h)
      refine .of_subset (fun j hj => ?_) fun j _ => ?_
      · exact (OrderedSet.erase_sublist _ _ _).subset hj
      · exact setTimer_next (m := m) (t := { m.heap id with cb := none }) rfl j
  · obtain ⟨rfl, _⟩ := Prod.mk.inj (Option.some.inj h)
    exact .of_subset (fun j hj => hj) fun j _ => rfl

/-- What is inserted was there, or is the new timer. -/
theorem mem_of_mem_insertId {m : TimerManager Callback} {id j : TimerId}
    (h : j ∈ (m.insertId id).timers) : j = id ∨ j ∈ m.timers := by
  have := OrderedSet.insert_subset h
  simpa using this

/-- A timer that `find` leads to and that goes back in with a deadline that is
    not earlier. -/
theorem notEarlier_requeue {m : TimerManager Callback} {id it : TimerId} {t : Timer Callback}
    (hfind : OrderedSet.find m.less id m.timers = some it) (hnext : (m.heap id).next ≤ t.next) :
    NotEarlier m (m.requeue id t) := by
  intro j hj
  rw [requeue_heap]
  by_cases heq : j = id
  · -- `it` is equivalent to `id`, so it has the same deadline
    subst heq
    have hmem := List.mem_of_find?_eq_some hfind
    have hequiv := (m.equiv_iff j it).mp (List.find?_some hfind)
    refine ⟨it, hmem, ?_⟩
    rw [setTimer_self, ← hequiv.1]
    exact hnext
  · rw [setTimer_ne m t heq]
    rcases mem_of_mem_insertId hj with hj | hj
    · exact absurd hj heq
    · exact ⟨j, (OrderedSet.erase_sublist _ _ _).subset hj, Nat.le_refl _⟩

/-- A deadline is the interval after some earlier reading of the clock. -/
def Started (clock : Nat) (t : Timer Callback) : Prop :=
  t.ms < 2 ^ 64 ∧ ∃ start ≤ clock, t.next = add64 start t.ms

theorem Started.mono {clock now : Nat} {t : Timer Callback} (h : Started clock t)
    (hle : clock ≤ now) : Started now t := by
  obtain ⟨hms, start, hstart, hnext⟩ := h
  exact ⟨hms, start, Nat.le_trans hstart hle, hnext⟩

/-- Started again, a timer is not due before it was. -/
theorem Started.next_le {clock now : Nat} {t : Timer Callback} (h : Started clock t)
    (hle : clock ≤ now) (hsum : now + t.ms < 2 ^ 64) : t.next ≤ add64 now t.ms := by
  obtain ⟨_, start, hstart, hnext⟩ := h
  rw [hnext, add64_of_lt hsum, add64_of_lt (by omega)]
  omega

/-- `m_next - m_ms` is the reading the timer was started at. -/
theorem Started.sub64_le {clock : Nat} {t : Timer Callback} (h : Started clock t)
    (hclock : clock < 2 ^ 64) : sub64 t.next t.ms ≤ clock := by
  obtain ⟨hms, start, hstart, hnext⟩ := h
  have heq : sub64 t.next t.ms = start := by
    rw [hnext, add64, sub64]
    omega
  exact heq ▸ hstart

/-- All timers are started after one of them is. -/
theorem started_setTimer {m : TimerManager Callback} {clock : Nat} {id : TimerId}
    {t : Timer Callback} (h : ∀ j, Started clock (m.heap j)) (ht : Started clock t) (j : TimerId) :
    Started clock ((m.setTimer id t).heap j) := by
  by_cases hj : j = id
  · rw [hj, setTimer_self]
    exact ht
  · rw [setTimer_ne m t hj]
    exact h j

theorem notEarlier_refresh {m : TimerManager Callback} {clock now : Nat} {id : TimerId}
    (hstarted : Started clock (m.heap id)) (hle : clock ≤ now)
    (hsum : (m.heap id).cb.isSome = true → now + (m.heap id).ms < 2 ^ 64) :
    NotEarlier m (m.refresh id now).1 := by
  unfold refresh
  split
  · exact .of_subset (fun j hj => hj) fun j _ => rfl
  · rename_i hcb
    split
    · exact .of_subset (fun j hj => hj) fun j _ => rfl
    · rename_i it hfind
      have hlive : (m.heap id).cb.isSome = true := by
        simpa [Option.isSome_iff_ne_none] using hcb
      exact notEarlier_requeue (t := { m.heap id with next := add64 now (m.heap id).ms }) hfind
        (hstarted.next_le hle (hsum hlive))

/-! ## Section 4: Expired timers -/

/-- What the last loop of `listExpiredCb` has made of `m` so far. -/
structure Expiring (m : TimerManager Callback) (now : Nat) (m' : TimerManager Callback) :
    Prop where
  notEarlier : NotEarlier m m'
  tickled    : m'.tickled = m.tickled
  ms         : ∀ j, (m'.heap j).ms = (m.heap j).ms
  recurring  : ∀ j, (m'.heap j).recurring = (m.heap j).recurring
  next       : ∀ j, (m'.heap j).next = (m.heap j).next ∨
                 (m'.heap j).next = add64 now (m.heap j).ms

theorem Expiring.expireOne {m m' : TimerManager Callback} {now : Nat} {id : TimerId}
    (h : Expiring m now m') (hid : id ∈ m.timers)
    (hkey : (m.heap id).recurring = true → (m.heap id).next ≤ add64 now (m.heap id).ms) :
    Expiring m now (m'.expireOne now id) := by
  unfold TimerManager.expireOne
  by_cases hrec : (m'.heap id).recurring = true
  · rw [if_pos hrec]
    refine ⟨fun j hj => ?_, h.tickled, fun j => ?_, fun j => ?_, fun j => ?_⟩ <;> by_cases hj' : j = id
    · -- the timer that goes back in was there before the call
      rw [hj', insertId_heap, setTimer_self]
      refine ⟨id, hid, ?_⟩
      rw [h.ms id]
      exact hkey (h.recurring id ▸ hrec)
    · rw [insertId_heap, setTimer_ne _ _ hj']
      exact h.notEarlier j ((mem_of_mem_insertId hj).resolve_left hj')
    · rw [hj', insertId_heap, setTimer_self]
      exact h.ms id
    · rw [insertId_heap, setTimer_ne _ _ hj']
      exact h.ms j
    · rw [hj', insertId_heap, setTimer_self]
      exact h.recurring id
    · rw [insertId_heap, setTimer_ne _ _ hj']
      exact h.recurring j
    · rw [hj', insertId_heap, setTimer_self]
      exact Or.inr (by rw [h.ms id])
    · rw [insertId_heap, setTimer_ne _ _ hj']
      exact h.next j
  · rw [if_neg hrec]
    have hheap : ∀ j, ((m'.setTimer id { m'.heap id with cb := none }).heap j).next =
        (m'.heap j).next := setTimer_next rfl
    refine ⟨fun j hj => ?_, h.tickled, fun j => ?_, fun j => ?_, fun j => ?_⟩
    · rw [hheap j]
      exact h.notEarlier j hj
    · rw [← h.ms j]
      by_cases hj : j = id
      · rw [hj, setTimer_self]
      · rw [setTimer_ne _ _ hj]
    · rw [← h.recurring j]
      by_cases hj : j = id
      · rw [hj, setTimer_self]
      · rw [setTimer_ne _ _ hj]
    · rw [hheap j]
      exact h.next j

theorem Expiring.expireAll {m : TimerManager Callback} {now : Nat} {expired : List TimerId} :
    ∀ {m' : TimerManager Callback}, Expiring m now m' →
      (∀ id ∈ expired, id ∈ m.timers ∧
        ((m.heap id).recurring = true → (m.heap id).next ≤ add64 now (m.heap id).ms)) →
      Expiring m now (expireAll now expired m').1 := by
  induction expired with
  | nil =>
    intro m' h _
    exact h
  | cons id rest ih =>
    intro m' h hkeys
    obtain ⟨hid, hkey⟩ := hkeys id List.mem_cons_self
    exact ih (h.expireOne hid hkey) fun i hi => hkeys i (List.mem_cons_of_mem _ hi)

theorem expiring_listExpiredCb {m : TimerManager Callback} {now : Nat} (probe : Nat)
    (hkeys : ∀ id ∈ m.timers, (m.heap id).recurring = true →
      m.rollover now = false ∧ ((m.heap id).next ≤ now → now + (m.heap id).ms < 2 ^ 64)) :
    Expiring m now (m.listExpiredCb now probe).1 := by
  have hfewer : ∀ (l : List TimerId) (t : Nat), l.Sublist m.timers →
      Expiring m now { m with timers := l, previousTime := t } := fun l t hl =>
    ⟨.of_subset (fun j hj => hl.subset hj) fun j _ => rfl, rfl, fun _ => rfl, fun _ => rfl,
      fun _ => Or.inl rfl⟩
  rcases m.listExpiredCb_cases now probe with ⟨t, heq⟩ | ⟨expired, hexpired, heq⟩
  · rw [heq]
    exact hfewer m.timers t (List.Sublist.refl _)
  · rw [heq]
    have hprefix : expired <+: m.timers :=
      hexpired ▸ expiredRange_isTake { m with previousTime := now } now probe (m.rollover now)
    refine (hfewer _ now (List.drop_sublist _ _)).expireAll fun id hid => ?_
    have hmem : id ∈ m.timers := hprefix.subset hid
    refine ⟨hmem, fun hrec => ?_⟩
    -- a timer that comes back is due, there being no rollover
    obtain ⟨hroll, hsum⟩ := hkeys id hmem hrec
    rw [hexpired, hroll] at hid
    have hdue : (m.heap id).next ≤ now := next_le_of_mem_expiredRange hid
    rw [add64_of_lt (hsum hdue)]
    exact Nat.le_trans hdue (Nat.le_add_right _ _)

end TimerManager

/-! ## Section 5: Runs -/

namespace Timers

open TimerManager

def BeforeReported (s : Timers Callback) (deadline : Nat) : Prop :=
  ∀ r ∈ s.reported, deadline < r

/-- `onTimerInsertedAtFront` was called since the last `getNextTimer`, or is
    about to be. -/
def Informed (s : Timers Callback) : Prop := s.notified = true ∨ 0 < s.notifying

/-- Nothing is due before the reported deadline without the waiter being told. -/
def FrontKnown (s : Timers Callback) : Prop :=
  ∀ id ∈ s.manager.timers, s.BeforeReported (s.manager.heap id).next → s.Informed

instance (s : Timers Callback) : Decidable s.FrontKnown :=
  inferInstanceAs (Decidable (∀ id ∈ s.manager.timers,
    (∀ r ∈ s.reported, (s.manager.heap id).next < r) → s.notified = true ∨ 0 < s.notifying))

structure Inv (s : Timers Callback) : Prop where
  addressed : Addressed s.manager s.constructed
  clock     : s.clock < 2 ^ 64
  readings  : ∀ now ∈ s.expiring, now ≤ s.clock
  started   : ∀ id, Started s.clock (s.manager.heap id)
  told      : s.manager.tickled = true → s.Informed
  front     : ∀ id ∈ s.manager.timers, s.BeforeReported (s.manager.heap id).next →
                s.manager.tickled = true

theorem Inv.frontKnown {s : Timers Callback} (h : Inv s) : s.FrontKnown :=
  fun id hid hbefore => h.told (h.front id hid hbefore)

/-- A step that makes no timer earlier than all of them were. -/
theorem Inv.notEarlier {s : Timers Callback} (h : Inv s) {m : TimerManager Callback}
    {constructed : List TimerId} {expiring : List Nat} {now : Nat} (hnow : s.Reading now)
    (haddressed : Addressed m constructed) (hne : NotEarlier s.manager m)
    (htickled : m.tickled = s.manager.tickled) (hstarted : ∀ id, Started now (m.heap id))
    (hexpiring : ∀ r ∈ expiring, r = now ∨ r ∈ s.expiring) :
    Inv { s with manager := m, constructed := constructed, expiring := expiring, clock := now } where
  addressed := haddressed
  clock     := hnow.2
  readings  := by
    intro r hr
    rcases hexpiring r hr with rfl | hr
    · exact Nat.le_refl _
    · exact Nat.le_trans (h.readings r hr) hnow.1
  started   := hstarted
  told      := fun htick => h.told (htickled ▸ htick)
  front     := by
    intro j hj hbefore
    obtain ⟨i, hi, hij⟩ := hne j hj
    have hi' : s.BeforeReported (s.manager.heap i).next :=
      fun r hr => Nat.lt_of_le_of_lt hij (hbefore r hr)
    exact htickled.trans (h.front i hi hi')

/-- The private `addTimer`: only the timer it inserts may be an earlier one. -/
theorem Inv.addTimerLocked {s : Timers Callback} (h : Inv s) {m : TimerManager Callback}
    {constructed : List TimerId} {now : Nat} {id : TimerId} (hnow : s.Reading now)
    (haddressed : Addressed (m.addTimerLocked id).1 constructed)
    (hne : ∀ j ∈ m.timers, j ≠ id →
      ∃ i ∈ s.manager.timers, (s.manager.heap i).next ≤ (m.heap j).next)
    (htickled : m.tickled = s.manager.tickled) (hstarted : ∀ j, Started now (m.heap j)) :
    Inv ({ s with constructed := constructed, clock := now }.unlock (m.addTimerLocked id).1
      (m.addTimerLocked id).2) := by
  -- of the timers that were there, one before the reported time has set the flag
  have hothers : ∀ j ∈ m.timers, j ≠ id → s.BeforeReported (m.heap j).next →
      m.tickled = true := by
    intro j hj hjid hbefore
    obtain ⟨i, hi, hij⟩ := hne j hj hjid
    have hi' : s.BeforeReported (s.manager.heap i).next :=
      fun r hr => Nat.lt_of_le_of_lt hij (hbefore r hr)
    exact htickled.trans (h.front i hi hi')
  refine ⟨haddressed, hnow.2, fun r hr => Nat.le_trans (h.readings r hr) hnow.1, hstarted,
    fun htick => ?_, fun j hj hbefore => ?_⟩
  · by_cases hfront : (m.addTimerLocked id).2 = true
    · right
      show 0 < if (m.addTimerLocked id).2 then s.notifying + 1 else s.notifying
      rw [if_pos hfront]
      exact Nat.succ_pos _
    · -- the flag was set before, by someone who has told the waiter
      have hold : m.tickled = true := by
        have hor : (m.tickled || (m.addTimerLocked id).2) = true := htick
        simpa [hfront] using hor
      refine (h.told (htickled ▸ hold)).imp_right fun hpos => ?_
      show 0 < if (m.addTimerLocked id).2 then s.notifying + 1 else s.notifying
      rw [if_neg hfront]
      exact hpos
  · show (m.tickled || (m.addTimerLocked id).2) = true
    by_cases hjid : j = id
    · subst hjid
      rcases OrderedSet.find_insert_front (m.less_irrefl j) m.timers with hhead | ⟨y, hy, hyj⟩
      · have hfront : (m.addTimerLocked j).2 =
            (OrderedSet.find m.less j (OrderedSet.insert m.less j m.timers) ==
              (OrderedSet.insert m.less j m.timers).head? && !m.tickled) := rfl
        rw [hfront, hhead]
        simp
      · -- a timer in front of it, which the waiter knows of
        have hyne : y ≠ j := by
          rintro rfl
          rw [m.less_irrefl y] at hyj
          cases hyj
        have hybefore : s.BeforeReported (m.heap y).next :=
          fun r hr => Nat.lt_of_le_of_lt (m.next_le_of_less hyj) (hbefore r hr)
        rw [hothers y hy hyne hybefore, Bool.true_or]
    · have hj' := (mem_of_mem_insertId hj).resolve_left hjid
      rw [hothers j hj' hjid hbefore, Bool.true_or]

theorem Inv.construct {s : Timers Callback} (h : Inv s) {ms addr now : Nat}
    {cb : Option Callback} {recurring : Bool} (hnow : s.Reading now) (hms : ms < 2 ^ 64)
    (hfresh : ∀ a ∈ s.manager.timers ++ s.constructed, (s.manager.heap a).addr ≠ addr) :
    Inv { s with
          manager     := s.manager.construct ms cb recurring addr now
          constructed := s.manager.created :: s.constructed
          clock       := now } := by
  have hne : NotEarlier s.manager (s.manager.construct ms cb recurring addr now) := by
    refine .of_subset (fun j hj => hj) fun j hj => ?_
    have hold : j ≠ s.manager.created :=
      Nat.ne_of_lt (h.addressed.created j (List.mem_append_left _ hj))
    exact congrArg Timer.next (setTimer_ne _ _ hold)
  have hstarted : ∀ j, Started now ((s.manager.construct ms cb recurring addr now).heap j) :=
    started_setTimer (fun j => (h.started j).mono hnow.1) ⟨hms, now, Nat.le_refl _, rfl⟩
  exact h.notEarlier hnow (h.addressed.construct hfresh) hne rfl hstarted fun r hr => Or.inr hr

theorem Inv.insert {s : Timers Callback} (h : Inv s) {id : TimerId} (hid : id ∈ s.constructed) :
    Inv ({ s with constructed := s.constructed.erase id }.unlock
      (s.manager.addTimerLocked id).1 (s.manager.addTimerLocked id).2) := by
  have hperm : (s.manager.timers ++ id :: s.constructed.erase id).Perm
      (s.manager.timers ++ s.constructed) := (List.perm_cons_erase hid).symm.append_left _
  have haddressed : Addressed s.manager (id :: s.constructed.erase id) :=
    h.addressed.of_perm rfl rfl h.addressed.sorted hperm
  exact h.addTimerLocked ⟨Nat.le_refl _, h.clock⟩ haddressed.addTimerLocked
    (fun j hj _ => ⟨j, hj, Nat.le_refl _⟩) rfl h.started

theorem Inv.cancel {s : Timers Callback} (h : Inv s) {id : TimerId}
    {m : TimerManager Callback} {b : Bool} (heq : s.manager.cancel id = some (m, b)) :
    Inv { s with manager := m } := by
  have hkept : m.tickled = s.manager.tickled ∧ ∀ j, Started s.clock (m.heap j) := by
    simp only [TimerManager.cancel] at heq
    split at heq
    · split at heq
      · cases heq
      · obtain ⟨rfl, _⟩ := Prod.mk.inj (Option.some.inj heq)
        exact ⟨rfl, started_setTimer h.started (h.started id)⟩
    · obtain ⟨rfl, _⟩ := Prod.mk.inj (Option.some.inj heq)
      exact ⟨rfl, h.started⟩
  exact h.notEarlier ⟨Nat.le_refl _, h.clock⟩ (h.addressed.cancel heq) (notEarlier_cancel heq)
    hkept.1 hkept.2 fun r hr => Or.inr hr

theorem Inv.refresh {s : Timers Callback} (h : Inv s) {id : TimerId} {now : Nat}
    (hnow : s.Reading now)
    (hsum : (s.manager.heap id).cb.isSome = true → now + (s.manager.heap id).ms < 2 ^ 64) :
    Inv { s with manager := (s.manager.refresh id now).1, clock := now } := by
  have hstarted : ∀ j, Started now (s.manager.heap j) := fun j => (h.started j).mono hnow.1
  have hkept : (s.manager.refresh id now).1.tickled = s.manager.tickled ∧
      ∀ j, Started now ((s.manager.refresh id now).1.heap j) := by
    unfold TimerManager.refresh
    split
    · exact ⟨rfl, hstarted⟩
    · split
      · exact ⟨rfl, hstarted⟩
      · exact ⟨rfl, started_setTimer hstarted ⟨(h.started id).1, now, Nat.le_refl _, rfl⟩⟩
  exact h.notEarlier hnow (h.addressed.refresh now)
    (notEarlier_refresh (h.started id) hnow.1 hsum) hkept.1 hkept.2 fun r hr => Or.inr hr

theorem Inv.resetLocked {s : Timers Callback} (h : Inv s) {ms now : Nat} {id : TimerId}
    {from_now : Bool} (hnow : s.Reading now) (hms : ms < 2 ^ 64) :
    Inv ({ s with clock := now }.unlock (s.manager.resetLocked id ms from_now now).1
      (s.manager.resetLocked id ms from_now now).2.2) := by
  have hstarted : ∀ j, Started now (s.manager.heap j) := fun j => (h.started j).mono hnow.1
  have haddressed : Addressed (s.manager.resetLocked id ms from_now now).1 s.constructed :=
    h.addressed.resetLocked ms from_now now
  have hsame : Inv { s with clock := now } :=
    h.notEarlier hnow h.addressed (.of_subset (fun j hj => hj) fun j _ => rfl) rfl hstarted
      fun r hr => Or.inr hr
  unfold TimerManager.resetLocked at haddressed ⊢
  by_cases hcb : (s.manager.heap id).cb.isNone = true
  · rw [if_pos hcb]
    exact hsame
  · rw [if_neg hcb] at haddressed ⊢
    cases hfind : OrderedSet.find s.manager.less id s.manager.timers with
    | none => exact hsame
    | some it =>
      rw [hfind] at haddressed
      refine h.addTimerLocked hnow haddressed (fun j hj hjid => ⟨j, ?_, ?_⟩) rfl
        (started_setTimer hstarted ⟨hms, _, ?_, rfl⟩)
      · exact (OrderedSet.erase_sublist _ _ _).subset hj
      · rw [setTimer_ne _ _ hjid]
        exact Nat.le_refl _
      · cases from_now with
        | true => exact Nat.le_refl _
        | false => exact (hstarted id).sub64_le hnow.2

theorem Inv.listExpiredCb {s : Timers Callback} (h : Inv s) {now : Nat} (probe : Nat)
    (hnow : now ∈ s.expiring)
    (hkeys : ∀ id ∈ s.manager.timers, (s.manager.heap id).recurring = true →
      s.manager.rollover now = false ∧
        ((s.manager.heap id).next ≤ now → now + (s.manager.heap id).ms < 2 ^ 64)) :
    Inv { s with
          manager  := (s.manager.listExpiredCb now probe).1
          expiring := s.expiring.erase now } := by
  have hexp := expiring_listExpiredCb probe hkeys
  have hstarted : ∀ j, Started s.clock ((s.manager.listExpiredCb now probe).1.heap j) := by
    intro j
    obtain ⟨hms, start, hstart, hnext⟩ := h.started j
    rw [Started, hexp.ms j]
    rcases hexp.next j with heq | heq
    · exact ⟨hms, start, hstart, heq.trans hnext⟩
    · exact ⟨hms, now, h.readings now hnow, heq⟩
  exact h.notEarlier ⟨Nat.le_refl _, h.clock⟩ (h.addressed.listExpiredCb now probe)
    hexp.notEarlier hexp.tickled hstarted fun r hr => Or.inr (List.mem_of_mem_erase hr)

/-- The first timer is the earliest. -/
theorem nextDeadline_le {m : TimerManager Callback} (hsorted : OrderedSet.Sorted m.less m.timers)
    {id : TimerId} (hid : id ∈ m.timers) : ∃ r ∈ m.nextDeadline, r ≤ (m.heap id).next := by
  unfold nextDeadline
  cases htimers : m.timers with
  | nil =>
    rw [htimers] at hid
    cases hid
  | cons first rest =>
    refine ⟨(m.heap first).next, rfl, ?_⟩
    rw [htimers] at hid hsorted
    rcases List.mem_cons.mp hid with rfl | hid
    · exact Nat.le_refl _
    · exact m.next_le_of_less ((List.pairwise_cons.mp hsorted).1 id hid)

theorem Inv.getNextTimer {s : Timers Callback} (h : Inv s) {now : Nat} (hnow : s.Reading now) :
    Inv { s with
          manager  := (s.manager.getNextTimer now).1
          clock    := now
          reported := s.manager.nextDeadline
          notified := false } := by
  have hmanager : (s.manager.getNextTimer now).1 = { s.manager with tickled := false } := by
    unfold TimerManager.getNextTimer
    split <;> rfl
  rw [hmanager]
  refine ⟨⟨h.addressed.sorted, h.addressed.addrs, h.addressed.created, h.addressed.live⟩, hnow.2,
    fun r hr => Nat.le_trans (h.readings r hr) hnow.1, fun j => (h.started j).mono hnow.1,
    fun htick => ?_, fun j hj hbefore => ?_⟩
  · cases htick
  · obtain ⟨r, hr, hle⟩ := nextDeadline_le h.addressed.sorted hj
    exact absurd (hbefore r hr) (Nat.not_lt.mpr hle)

theorem inv_init {s : Timers Callback} (h : (timers Callback).init s) : Inv s := by
  obtain ⟨now, hnow, rfl⟩ := h
  refine ⟨Addressed.init now, hnow, fun r hr => ?_, fun id => ?_, fun htick => ?_,
    fun id hid => ?_⟩
  · cases hr
  · exact ⟨Nat.two_pow_pos 64, 0, Nat.zero_le _, rfl⟩
  · cases htick
  · cases hid

theorem inv_next {s s' : Timers Callback} {l : TimersLabel Callback} (h : Inv s)
    (hl : NoBackdate s l) (hnext : (timers Callback).next s l = some s') : Inv s' := by
  -- each step keeps told and front: who is first is known to the waiter, or is about to be
  cases l with
  | construct ms cb recurring addr now =>
    obtain ⟨⟨hnow, hms, hfresh⟩, heq⟩ := Option.ite_none_right_eq_some.mp hnext
    obtain rfl := Option.some.inj heq
    exact h.construct hnow hms hfresh
  | insert id =>
    obtain ⟨hid, heq⟩ := Option.ite_none_right_eq_some.mp hnext
    obtain rfl := Option.some.inj heq
    exact h.insert hid
  | notify =>
    obtain ⟨_, heq⟩ := Option.ite_none_right_eq_some.mp hnext
    obtain rfl := Option.some.inj heq
    exact ⟨h.addressed, h.clock, h.readings, h.started, fun _ => Or.inl rfl, h.front⟩
  | cancel id =>
    obtain ⟨_, heq⟩ := Option.ite_none_right_eq_some.mp hnext
    obtain ⟨⟨m, b⟩, hcancel, rfl⟩ := Option.map_eq_some_iff.mp heq
    exact h.cancel hcancel
  | refresh id now =>
    obtain ⟨⟨_, hnow⟩, heq⟩ := Option.ite_none_right_eq_some.mp hnext
    obtain rfl := Option.some.inj heq
    exact h.refresh hnow hl
  | reset id ms from_now now =>
    obtain ⟨⟨_, hnow, hms⟩, heq⟩ := Option.ite_none_right_eq_some.mp hnext
    obtain rfl := Option.some.inj heq
    exact h.resetLocked hnow hms
  | readClock now =>
    obtain ⟨hnow, heq⟩ := Option.ite_none_right_eq_some.mp hnext
    obtain rfl := Option.some.inj heq
    exact h.notEarlier hnow h.addressed (.of_subset (fun j hj => hj) fun j _ => rfl) rfl
      (fun j => (h.started j).mono hnow.1) fun r hr => List.mem_cons.mp hr
  | listNothing now =>
    obtain ⟨_, heq⟩ := Option.ite_none_right_eq_some.mp hnext
    obtain rfl := Option.some.inj heq
    exact ⟨h.addressed, h.clock, fun r hr => h.readings r (List.mem_of_mem_erase hr), h.started,
      h.told, h.front⟩
  | listExpiredCb now probe =>
    obtain ⟨hnow, heq⟩ := Option.ite_none_right_eq_some.mp hnext
    obtain rfl := Option.some.inj heq
    exact h.listExpiredCb probe hnow hl
  | getNextTimer now =>
    obtain ⟨hnow, heq⟩ := Option.ite_none_right_eq_some.mp hnext
    obtain rfl := Option.some.inj heq
    exact h.getNextTimer hnow

end Timers

/-- In a run in which no timer goes back in with an earlier deadline, the
    waiter is told of every deadline before the one it knows. -/
theorem front_noticed {s₀ s : Timers Callback} {tr : List (Timers Callback × TimersLabel Callback)}
    (hinit : (timers Callback).init s₀) (hrun : Run (timers Callback) s₀ tr s)
    (htr : ∀ p ∈ tr, NoBackdate p.1 p.2) : ∀ u ∈ states tr s, u.FrontKnown := by
  intro u hu
  have hinv := hrun.states_invariant (I := Timers.Inv)
    (fun _ _ _ h hl hnext => Timers.inv_next h hl hnext) htr (Timers.inv_init hinit) u hu
  exact hinv.frontKnown

/-- A recurring timer goes back in and another one is refreshed, behind the
    deadline the waiter was given. -/
theorem front_noticed_recurring :
    ∃ tr s, Run (timers Unit) (Timers.start Unit 100) tr s ∧ (∀ u ∈ states tr s, u.FrontKnown) ∧
      s.manager.timers = [0, 1] ∧ s.reported = some 120 := by
  let labels : List (TimersLabel Unit) :=
    [.construct 20 (some ()) true 1 100, .insert 0, .notify, .getNextTimer 100,
     .construct 50 (some ()) false 2 110, .insert 1, .readClock 125, .refresh 1 130,
     .listExpiredCb 125 3]
  have hrun := (timers Unit).run_of_exec (s := Timers.start Unit 100) labels (by decide)
  exact ⟨_, _, hrun, front_noticed ⟨100, by decide, rfl⟩ hrun (by decide),
    by decide, by decide⟩

/-- The waiter was given a deadline near the end of the clock's range, and
    `refresh` computes one in the past. -/
theorem front_missed :
    ∃ s₀ tr s, (timers Unit).init s₀ ∧ Run (timers Unit) s₀ tr s ∧ ¬ s.FrontKnown := by
  let labels : List (TimersLabel Unit) :=
    [.construct (2 ^ 64 - 2000) (some ()) false 1 1000, .insert 0, .notify, .getNextTimer 1000,
     .refresh 0 5000]
  have hrun := (timers Unit).run_of_exec (s := Timers.start Unit 1000) labels (by decide)
  exact ⟨_, _, _, ⟨1000, by decide, rfl⟩, hrun, by decide⟩

end MNSER
