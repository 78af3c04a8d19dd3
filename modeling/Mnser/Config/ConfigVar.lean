import Mathlib.Data.Fintype.Basic
import Mathlib.Data.Fintype.Card
import Mnser.Framework.System

/-! # ConfigVar

    `ConfigVar<T>::setValue`, called by the threads of `ι` in any order.  The
    comparison and the notifications are made under the read lock, which
    several calls can have at once; the assignment is made later, under the
    write lock.  Between the two the call has no lock at all.

    The listeners are the ones that keep a copy: a static variable that is
    read from `getValue()` when the listener is added and takes the new value
    at every notification. -/

namespace MNSER

namespace Config

open LTS

/-! ## Section 1: State and steps -/

/-- How far a thread is in `setValue(v)`. -/
inductive Call (T : Type) where
  | idle
  /-- In the loop over `m_cbs`, with the read lock; `k` listeners are notified. -/
  | notifying (v : T) (k : Nat)
  /-- Before `WriteLock lock(m_mutex)`. -/
  | storing (v : T)
  deriving DecidableEq

def Call.isReading {T : Type} : Call T → Bool
  | .notifying _ _ => true
  | _ => false

/-- What a listener was given, and in whose call. -/
structure Notice (ι T : Type) where
  caller  : ι
  old_val : T
  new_val : T
  deriving DecidableEq

structure ConfigVar (ι T : Type) (n : Nat) where
  val     : T
  call    : ι → Call T
  /-- the last notice of each listener -/
  heard   : Fin n → Option (Notice ι T)
  /-- the copy that each listener keeps -/
  cached  : Fin n → T
  /-- some `setValue` has changed the value -/
  changed : Bool

inductive ConfigLabel (ι T : Type) where
  | setValue (w : ι) (v : T)
  | step (w : ι)
  deriving DecidableEq

namespace ConfigVar

variable {ι T : Type} {n : Nat} [DecidableEq ι]

def setCall (s : ConfigVar ι T n) (w : ι) (c : Call T) : ConfigVar ι T n :=
  { s with call := fun u => if u = w then c else s.call u }

/-- `it.second(m_val, v)` -/
def notify (s : ConfigVar ι T n) (w : ι) (v : T) (k : Fin n) : ConfigVar ι T n :=
  { s with
    heard  := fun i => if i = k then some ⟨w, s.val, v⟩ else s.heard i
    cached := fun i => if i = k then v else s.cached i }

/-- `m_val = v` -/
def store (s : ConfigVar ι T n) (v : T) : ConfigVar ι T n :=
  { s with val := v, changed := true }

def next [Fintype ι] [DecidableEq T] (s : ConfigVar ι T n) :
    ConfigLabel ι T → Option (ConfigVar ι T n)
  | .setValue w v =>
    match s.call w with
    | .idle => if v = s.val then some s else some (s.setCall w (.notifying v 0))
    | _ => none
  | .step w =>
    match s.call w with
    | .idle => none
    | .notifying v k =>
      if h : k < n then some ((s.notify w v ⟨k, h⟩).setCall w (.notifying v (k + 1)))
      else some (s.setCall w (.storing v))
    | .storing v =>
      -- the write lock has to wait for every read section
      if ∀ u, (s.call u).isReading = false then some ((s.store v).setCall w .idle) else none

def start (ι : Type) (n : Nat) (default_value : T) : ConfigVar ι T n where
  val     := default_value
  call    := fun _ => .idle
  heard   := fun _ => none
  cached  := fun _ => default_value
  changed := false

end ConfigVar

def configVars (ι T : Type) (n : Nat) [Fintype ι] [DecidableEq ι] [DecidableEq T] :
    System (ConfigVar ι T n) (ConfigLabel ι T) where
  init s := ∃ default_value, s = ConfigVar.start ι n default_value
  next   := ConfigVar.next

/-! ## Section 2: What one step can do -/

namespace ConfigVar

section steps

variable {ι T : Type} {n : Nat} [DecidableEq ι]

@[simp] theorem setCall_val (s : ConfigVar ι T n) (w : ι) (c : Call T) :
    (s.setCall w c).val = s.val := rfl

@[simp] theorem setCall_heard (s : ConfigVar ι T n) (w : ι) (c : Call T) :
    (s.setCall w c).heard = s.heard := rfl

@[simp] theorem setCall_cached (s : ConfigVar ι T n) (w : ι) (c : Call T) :
    (s.setCall w c).cached = s.cached := rfl

@[simp] theorem setCall_changed (s : ConfigVar ι T n) (w : ι) (c : Call T) :
    (s.setCall w c).changed = s.changed := rfl

@[simp] theorem setCall_self (s : ConfigVar ι T n) (w : ι) (c : Call T) :
    (s.setCall w c).call w = c := if_pos rfl

theorem setCall_ne {u w : ι} (h : u ≠ w) (s : ConfigVar ι T n) (c : Call T) :
    (s.setCall w c).call u = s.call u := if_neg h

omit [DecidableEq ι] in
@[simp] theorem notify_self (s : ConfigVar ι T n) (w : ι) (v : T) (k : Fin n) :
    (s.notify w v k).heard k = some ⟨w, s.val, v⟩ := if_pos rfl

omit [DecidableEq ι] in
theorem notify_ne {i k : Fin n} (h : i ≠ k) (s : ConfigVar ι T n) (w : ι) (v : T) :
    (s.notify w v k).heard i = s.heard i := if_neg h

variable [Fintype ι] [DecidableEq T]

/-- Every step is one of five. -/
theorem step_cases {s t : ConfigVar ι T n} {l : ConfigLabel ι T}
    (hnext : (configVars ι T n).next s l = some t) :
    (∃ w, l = .setValue w s.val ∧ t = s) ∨
    (∃ w v, l = .setValue w v ∧ s.call w = .idle ∧ v ≠ s.val ∧
      t = s.setCall w (.notifying v 0)) ∨
    (∃ w v k, l = .step w ∧ s.call w = .notifying v k.val ∧
      t = (s.notify w v k).setCall w (.notifying v (k.val + 1))) ∨
    (∃ w v k, l = .step w ∧ s.call w = .notifying v k ∧ n ≤ k ∧
      t = s.setCall w (.storing v)) ∨
    (∃ w v, l = .step w ∧ s.call w = .storing v ∧ t = (s.store v).setCall w .idle) := by
  -- setValue compares under the read lock; step notifies, ends the notifying, or stores
  cases l with
  | setValue w v =>
    simp only [configVars, next] at hnext
    split at hnext
    · rename_i hidle
      split at hnext
      · rename_i heq
        exact .inl ⟨w, by rw [heq], (Option.some.inj hnext).symm⟩
      · rename_i hne
        exact .inr (.inl ⟨w, v, rfl, hidle, hne, (Option.some.inj hnext).symm⟩)
    · cases hnext
  | step w =>
    simp only [configVars, next] at hnext
    split at hnext
    · cases hnext
    · rename_i v k hcall
      split at hnext
      · rename_i hk
        exact .inr (.inr (.inl ⟨w, v, ⟨k, hk⟩, rfl, hcall, (Option.some.inj hnext).symm⟩))
      · rename_i hk
        exact .inr (.inr (.inr (.inl
          ⟨w, v, k, rfl, hcall, Nat.le_of_not_lt hk, (Option.some.inj hnext).symm⟩)))
    · rename_i v hcall
      split at hnext
      · exact .inr (.inr (.inr (.inr ⟨w, v, rfl, hcall, (Option.some.inj hnext).symm⟩)))
      · cases hnext

end steps

/-! ## Section 3: What the listeners know -/

section agreement

variable {ι T : Type} {n : Nat}

/-- No `setValue` is in progress. -/
def Quiet (s : ConfigVar ι T n) : Prop := ∀ w, s.call w = .idle

/-- Once the value has been changed and no call is in progress, the last new
    value of each listener is `getValue()`; and so is the copy it keeps. -/
def Agrees (s : ConfigVar ι T n) : Prop :=
  s.Quiet → (s.changed = true → ∀ k, (s.heard k).map Notice.new_val = some s.val) ∧
    ∀ k, s.cached k = s.val

/-- The call has notified listener `k` of the value it is going to store. -/
def Call.Told (c : Call T) (k : Nat) (v : T) : Prop :=
  c = .storing v ∨ ∃ j, c = .notifying v j ∧ k < j

structure Coherent (s : ConfigVar ι T n) : Prop where
  told    : ∀ w k v, Call.Told (s.call w) k.val v → ∃ c, s.heard k = some c ∧
              (c.caller = w → c.new_val = v)
  copied  : ∀ k c, s.heard k = some c → s.cached k = c.new_val
  /-- a notice comes from a call that is still going to store, or has stored -/
  owed    : ∀ k c, s.heard k = some c → s.changed = true ∨ s.call c.caller ≠ .idle
  unheard : ∀ k, s.heard k = none → s.changed = false ∧ s.cached k = s.val

theorem start_coherent (ι : Type) (n : Nat) (v : T) : Coherent (start ι n v) where
  told w k v h := by
    rcases h with h | ⟨j, h, _⟩ <;> cases h
  copied k c h := by cases h
  owed k c h := by cases h
  unheard _ _ := ⟨rfl, rfl⟩

variable [DecidableEq ι]

theorem Coherent.enter {s : ConfigVar ι T n} {w : ι} (hs : Coherent s) (v : T)
    (hidle : s.call w = .idle) : Coherent (s.setCall w (.notifying v 0)) where
  told u k x h := by
    by_cases hu : u = w
    · subst hu
      rw [setCall_self] at h
      rcases h with h | ⟨j, h, hk⟩
      · cases h
      · obtain ⟨-, rfl⟩ := Call.notifying.inj h
        exact absurd hk (Nat.not_lt_zero _)
    · rw [setCall_ne hu] at h
      exact hs.told u k x h
  copied := hs.copied
  owed k c h := by
    refine (hs.owed k c h).imp_right fun hbusy => ?_
    by_cases hu : c.caller = w
    · exact absurd (hu ▸ hidle) hbusy
    · rwa [setCall_ne hu]
  unheard := hs.unheard

theorem Coherent.notify {s : ConfigVar ι T n} {w : ι} {v : T} {k : Fin n} (hs : Coherent s)
    (hcall : s.call w = .notifying v k.val) :
    Coherent ((s.notify w v k).setCall w (.notifying v (k.val + 1))) where
  told u i x h := by
    by_cases hi : i = k
    · subst hi
      refine ⟨⟨w, s.val, v⟩, notify_self s w v i, ?_⟩
      -- only the thread `w` can take this notice for its own
      rintro rfl
      rw [setCall_self] at h
      rcases h with h | ⟨j, h, _⟩
      · cases h
      · exact (Call.notifying.inj h).1
    · rw [setCall_heard, notify_ne hi]
      by_cases hu : u = w
      · subst hu
        rw [setCall_self] at h
        rcases h with h | ⟨j, h, hj⟩
        · cases h
        · obtain ⟨rfl, rfl⟩ := Call.notifying.inj h
          have hlt : i.val < k.val :=
            Nat.lt_of_le_of_ne (Nat.le_of_lt_succ hj) fun h => hi (Fin.ext h)
          exact hs.told u i v (.inr ⟨k, hcall, hlt⟩)
      · rw [setCall_ne hu] at h
        exact hs.told u i x h
  copied i c h := by
    by_cases hi : i = k
    · subst hi
      rw [setCall_heard, notify_self] at h
      obtain rfl := Option.some.inj h
      exact if_pos rfl
    · rw [setCall_heard, notify_ne hi] at h
      rw [← hs.copied i c h]
      exact if_neg hi
  owed i c h := by
    by_cases hu : c.caller = w
    · rw [hu, setCall_self]
      exact .inr fun h => by cases h
    · rw [setCall_ne hu]
      by_cases hi : i = k
      · subst hi
        rw [setCall_heard, notify_self] at h
        obtain rfl := Option.some.inj h
        exact absurd rfl hu
      · rw [setCall_heard, notify_ne hi] at h
        exact hs.owed i c h
  unheard i h := by
    by_cases hi : i = k
    · subst hi
      rw [setCall_heard, notify_self] at h
      cases h
    · rw [setCall_heard, notify_ne hi] at h
      rw [setCall_cached, show (s.notify w v k).cached i = s.cached i from if_neg hi]
      exact hs.unheard i h

theorem Coherent.leave {s : ConfigVar ι T n} {w : ι} {v : T} {k : Nat} (hs : Coherent s)
    (hcall : s.call w = .notifying v k) (hk : n ≤ k) :
    Coherent (s.setCall w (.storing v)) where
  told u i x h := by
    by_cases hu : u = w
    · subst hu
      rw [setCall_self] at h
      rcases h with h | ⟨j, h, _⟩
      · obtain rfl := Call.storing.inj h
        exact hs.told u i v (.inr ⟨k, hcall, Nat.lt_of_lt_of_le i.isLt hk⟩)
      · cases h
    · rw [setCall_ne hu] at h
      exact hs.told u i x h
  copied := hs.copied
  owed i c h := by
    by_cases hu : c.caller = w
    · rw [hu, setCall_self]
      exact .inr fun h => by cases h
    · rw [setCall_ne hu]
      exact hs.owed i c h
  unheard := hs.unheard

theorem Coherent.store {s : ConfigVar ι T n} {w : ι} {v : T} (hs : Coherent s)
    (hcall : s.call w = .storing v) : Coherent ((s.store v).setCall w .idle) where
  told u i x h := by
    by_cases hu : u = w
    · subst hu
      rw [setCall_self] at h
      rcases h with h | ⟨j, h, _⟩ <;> cases h
    · rw [setCall_ne hu] at h
      exact hs.told u i x h
  copied := hs.copied
  owed _ _ _ := .inl rfl
  unheard i h := by
    obtain ⟨c, hc, _⟩ := hs.told w i v (.inl hcall)
    exact absurd (h.symm.trans hc) (by simp)

variable [Fintype ι] [DecidableEq T]

theorem coherent_next {s t : ConfigVar ι T n} {l : ConfigLabel ι T} (hs : Coherent s)
    (hnext : (configVars ι T n).next s l = some t) : Coherent t := by
  obtain ⟨w, -, rfl⟩ | ⟨w, v, -, hidle, -, rfl⟩ | ⟨w, v, k, -, hcall, rfl⟩ |
    ⟨w, v, k, -, hcall, hk, rfl⟩ | ⟨w, v, -, hcall, rfl⟩ := step_cases hnext
  · exact hs
  · exact hs.enter v hidle
  · exact hs.notify hcall
  · exact hs.leave hcall hk
  · exact hs.store hcall

/-! ## Section 4: The last word -/

/-- The step is not a store that ends the last call in progress while some
    listener was last notified by another call, of another value. -/
def LastWord (s : ConfigVar ι T n) : ConfigLabel ι T → Prop
  | .setValue _ _ => True
  | .step w => ∀ v, s.call w = .storing v → (∀ u, u ≠ w → s.call u = .idle) →
      ∀ k c, s.heard k = some c → c.caller ≠ w → c.new_val = v

omit [Fintype ι] [DecidableEq T] in
theorem not_quiet_of_busy {s : ConfigVar ι T n} {w : ι} {c : Call T} (hc : c ≠ .idle) :
    ¬ (s.setCall w c).Quiet := by
  intro hquiet
  exact hc ((setCall_self s w c).symm.trans (hquiet w))

omit [Fintype ι] [DecidableEq T] in
theorem quiet_setCall_idle {s : ConfigVar ι T n} {w : ι} :
    (s.setCall w .idle).Quiet ↔ ∀ u, u ≠ w → s.call u = .idle := by
  constructor
  · intro hquiet u hu
    rw [← hquiet u, setCall_ne hu]
  · intro hidle u
    by_cases hu : u = w
    · rw [hu, setCall_self]
    · rw [setCall_ne hu, hidle u hu]

omit [Fintype ι] [DecidableEq T] in
/-- What the listeners know after a store is what they were told last before it. -/
theorem store_agrees_iff {s : ConfigVar ι T n} {w : ι} {v : T} (hs : Coherent s)
    (hcall : s.call w = .storing v) :
    Agrees ((s.store v).setCall w .idle) ↔ LastWord s (.step w) := by
  constructor
  · intro hagrees x hx hidle k c hc _
    obtain rfl := Call.storing.inj (hcall.symm.trans hx)
    have hknown := (hagrees (quiet_setCall_idle.mpr hidle)).1 rfl k
    rw [setCall_heard, show (s.store v).heard k = some c from hc] at hknown
    exact Option.some.inj hknown
  · intro hlast hquiet
    have hknown : ∀ k, ∃ c, s.heard k = some c ∧ c.new_val = v := by
      intro k
      obtain ⟨c, hc, hown⟩ := hs.told w k v (.inl hcall)
      by_cases hcaller : c.caller = w
      · exact ⟨c, hc, hown hcaller⟩
      · exact ⟨c, hc, hlast v hcall (quiet_setCall_idle.mp hquiet) k c hc hcaller⟩
    refine ⟨fun _ k => ?_, fun k => ?_⟩
    · obtain ⟨c, hc, hv⟩ := hknown k
      exact congrArg _ hc |>.trans (congrArg some hv)
    · obtain ⟨c, hc, hv⟩ := hknown k
      exact (hs.copied k c hc).trans hv

theorem agrees_iff_lastWord {s t : ConfigVar ι T n} {l : ConfigLabel ι T} (hs : Coherent s)
    (hagrees : Agrees s) (hnext : (configVars ι T n).next s l = some t) :
    Agrees t ↔ LastWord s l := by
  obtain ⟨w, rfl, rfl⟩ | ⟨w, v, rfl, -, -, rfl⟩ | ⟨w, v, k, rfl, hcall, rfl⟩ |
    ⟨w, v, k, rfl, hcall, hk, rfl⟩ | ⟨w, v, rfl, hcall, rfl⟩ := step_cases hnext
  · exact iff_of_true hagrees trivial
  · exact iff_of_true (fun hquiet => absurd hquiet (not_quiet_of_busy (by simp))) trivial
  · exact iff_of_true (fun hquiet => absurd hquiet (not_quiet_of_busy (by simp)))
      fun x hx => by rw [hcall] at hx; cases hx
  · exact iff_of_true (fun hquiet => absurd hquiet (not_quiet_of_busy (by simp)))
      fun x hx => by rw [hcall] at hx; cases hx
  · exact store_agrees_iff hs hcall

omit [DecidableEq ι] [Fintype ι] [DecidableEq T] in
theorem start_agrees (v : T) : Agrees (start ι n v) := by
  intro _
  refine ⟨fun h => ?_, fun _ => rfl⟩
  cases h

/-! ## Section 5: One call at a time -/

/-- A call that changes the value begins when no other is in progress. -/
def Serial (s : ConfigVar ι T n) : ConfigLabel ι T → Prop
  | .setValue _ v => v ≠ s.val → s.Quiet
  | .step _ => True

/-- At most one call is in progress, and its notices are the last ones. -/
structure Alone (s : ConfigVar ι T n) : Prop where
  single : ∀ u w, s.call u ≠ .idle → s.call w ≠ .idle → u = w
  latest : ∀ w k v, Call.Told (s.call w) k.val v → ∃ c, s.heard k = some c ∧ c.caller = w

omit [DecidableEq ι] [Fintype ι] [DecidableEq T] in
theorem start_alone (v : T) : Alone (start ι n v) where
  single _ _ h _ := absurd rfl h
  latest w k v h := by
    rcases h with h | ⟨j, h, _⟩ <;> cases h

omit [Fintype ι] [DecidableEq T] in
/-- A step of the call in progress leaves every other thread idle. -/
theorem Alone.single_set {s : ConfigVar ι T n} {w : ι} (hs : Alone s) (hbusy : s.call w ≠ .idle)
    (c : Call T) {u : ι} (hu : (s.setCall w c).call u ≠ .idle) : u = w := by
  by_contra hne
  rw [setCall_ne hne] at hu
  exact hne (hs.single u w hu hbusy)

theorem alone_next {s t : ConfigVar ι T n} {l : ConfigLabel ι T} (hs : Alone s)
    (hl : Serial s l) (hnext : (configVars ι T n).next s l = some t) : Alone t := by
  obtain ⟨w, rfl, rfl⟩ | ⟨w, v, rfl, -, hne, rfl⟩ | ⟨w, v, k, rfl, hcall, rfl⟩ |
    ⟨w, v, k, rfl, hcall, hk, rfl⟩ | ⟨w, v, rfl, hcall, rfl⟩ := step_cases hnext
  · exact hs
  · -- the call that begins is the only one
    have hquiet := hl hne
    have halone : ∀ u, (s.setCall w (.notifying v 0)).call u ≠ .idle → u = w := by
      intro u hu
      by_contra hother
      rw [setCall_ne hother] at hu
      exact hu (hquiet u)
    refine ⟨fun u x hu hx => (halone u hu).trans (halone x hx).symm, fun u k x h => ?_⟩
    obtain rfl : u = w := halone u (by rcases h with h | ⟨j, h, _⟩ <;> rw [h] <;> simp)
    rw [setCall_self] at h
    rcases h with h | ⟨j, h, hj⟩
    · cases h
    · obtain ⟨-, rfl⟩ := Call.notifying.inj h
      exact absurd hj (Nat.not_lt_zero _)
  · -- the listener k hears v, those before it have heard it
    have halone : ∀ u, ((s.notify w v k).setCall w (.notifying v (k.val + 1))).call u ≠ .idle →
        u = w := fun u hu => hs.single_set (by rw [hcall]; simp) (.notifying v (k.val + 1)) hu
    refine ⟨fun u x hu hx => (halone u hu).trans (halone x hx).symm, fun u i x h => ?_⟩
    obtain rfl : u = w := halone u (by rcases h with h | ⟨j, h, _⟩ <;> rw [h] <;> simp)
    by_cases hi : i = k
    · subst hi
      exact ⟨_, notify_self s u v i, rfl⟩
    · rw [setCall_self] at h
      rw [setCall_heard, notify_ne hi]
      rcases h with h | ⟨j, h, hj⟩
      · cases h
      · obtain ⟨-, rfl⟩ := Call.notifying.inj h
        have hlt : i.val < k.val :=
          Nat.lt_of_le_of_ne (Nat.le_of_lt_succ hj) fun h => hi (Fin.ext h)
        exact hs.latest u i v (.inr ⟨k, hcall, hlt⟩)
  · have halone : ∀ u, (s.setCall w (.storing v)).call u ≠ .idle → u = w :=
      fun u hu => hs.single_set (by rw [hcall]; simp) (.storing v) hu
    refine ⟨fun u x hu hx => (halone u hu).trans (halone x hx).symm, fun u i x h => ?_⟩
    obtain rfl : u = w := halone u (by rcases h with h | ⟨j, h, _⟩ <;> rw [h] <;> simp)
    exact hs.latest u i v (.inr ⟨k, hcall, Nat.lt_of_lt_of_le i.isLt hk⟩)
  · have halone : ∀ u, ((s.store v).setCall w .idle).call u ≠ .idle → u = w :=
      fun u hu => hs.single_set (by rw [hcall]; simp) .idle hu
    refine ⟨fun u x hu hx => (halone u hu).trans (halone x hx).symm, fun u i x h => ?_⟩
    obtain rfl : u = w := halone u (by rcases h with h | ⟨j, h, _⟩ <;> rw [h] <;> simp)
    rw [setCall_self] at h
    rcases h with h | ⟨j, h, _⟩ <;> cases h

omit [DecidableEq ι] [Fintype ι] [DecidableEq T] in
/-- A call that is alone has the last word. -/
theorem Alone.lastWord {s : ConfigVar ι T n} (hs : Alone s) (l : ConfigLabel ι T) :
    LastWord s l := by
  cases l with
  | setValue w v => trivial
  | step w =>
    intro v hcall _ k c hc hcaller
    obtain ⟨d, hd, hown⟩ := hs.latest w k v (.inl hcall)
    obtain rfl := Option.some.inj (hc.symm.trans hd)
    exact absurd hown hcaller

end agreement

end ConfigVar

open ConfigVar

/-- When no two calls that change the value overlap, the listeners always agree
    with it. -/
theorem agrees_of_serial {ι T : Type} {n : Nat} [Fintype ι] [DecidableEq ι] [DecidableEq T]
    (default_value : T) {t : ConfigVar ι T n} {tr : List (ConfigVar ι T n × ConfigLabel ι T)}
    (hrun : Run (configVars ι T n) (ConfigVar.start ι n default_value) tr t)
    (hserial : ∀ p ∈ tr, p.1.Serial p.2) : ∀ u ∈ states tr t, u.Agrees := by
  intro u hu
  have hgood := hrun.states_invariant (G := Serial) (I := fun s => Coherent s ∧ Alone s ∧ Agrees s)
    (fun s l _ h hl hnext => ⟨coherent_next h.1 hnext, alone_next h.2.1 hl hnext,
      (agrees_iff_lastWord h.1 h.2.2 hnext).mpr (h.2.1.lastWord l)⟩) hserial
    ⟨start_coherent ι n default_value, start_alone default_value, start_agrees default_value⟩
  exact (hgood u hu).2.2

/-- Listeners and value agree in every quiet state of a run exactly if no call
    that ends last was overtaken, in its notifications, by one that stored
    before it. -/
theorem listeners_agree_iff (ι T : Type) (n : Nat) [Fintype ι] [DecidableEq ι] [DecidableEq T]
    (default_value : T) {t : ConfigVar ι T n} {tr : List (ConfigVar ι T n × ConfigLabel ι T)}
    (hrun : Run (configVars ι T n) (ConfigVar.start ι n default_value) tr t) :
    (∀ u ∈ states tr t, u.Agrees) ↔ ∀ p ∈ tr, p.1.LastWord p.2 :=
  hrun.states_iff (fun _ _ _ hs _ hnext => coherent_next hs hnext)
    (fun _ _ _ hs hagrees hnext => agrees_iff_lastWord hs hagrees hnext)
    (start_coherent ι n default_value) (start_agrees default_value)

/-- Two calls, one after the other. -/
theorem listeners_agree_iff_serial :
    let labels : List (ConfigLabel (Fin 2) Nat) :=
      [.setValue 0 7, .step 0, .step 0, .step 0, .setValue 1 9, .step 1, .step 1, .step 1]
    ∃ t, Run (configVars (Fin 2) Nat 1) (ConfigVar.start (Fin 2) 1 5)
        ((configVars (Fin 2) Nat 1).trace (ConfigVar.start (Fin 2) 1 5) labels) t ∧
      ((∀ u ∈ states ((configVars (Fin 2) Nat 1).trace (ConfigVar.start (Fin 2) 1 5) labels) t,
          u.Agrees) ↔
        ∀ p ∈ (configVars (Fin 2) Nat 1).trace (ConfigVar.start (Fin 2) 1 5) labels,
          p.1.LastWord p.2) := by
  intro labels
  have hrun := (configVars (Fin 2) Nat 1).run_of_exec (s := ConfigVar.start (Fin 2) 1 5) labels
    (by decide)
  exact ⟨_, hrun, listeners_agree_iff (Fin 2) Nat 1 5 hrun⟩

/-- The call that notifies first stores last. -/
theorem listeners_disagree :
    ∃ (tr : _) (t : ConfigVar (Fin 2) Nat 1),
      Run (configVars (Fin 2) Nat 1) (ConfigVar.start (Fin 2) 1 5) tr t ∧
        (∀ w, t.call w = .idle) ∧ t.changed = true ∧
        (t.heard 0).map Notice.new_val = some 9 ∧ t.val = 7 := by
  let labels : List (ConfigLabel (Fin 2) Nat) :=
    [.setValue 0 7, .setValue 1 9, .step 0, .step 1, .step 0, .step 1, .step 1, .step 0]
  have hrun := (configVars (Fin 2) Nat 1).run_of_exec (s := ConfigVar.start (Fin 2) 1 5) labels
    (by decide)
  exact ⟨_, _, hrun, by decide, by decide, by decide, by decide⟩

end Config

end MNSER
