import Mnser.Framework.System
import Mnser.Hook.Intervals
import Mnser.IOManager.Model

/-! # FdManager

    `FdManager::get` looks its fd up under the read lock, and where there is no
    context yet it makes one and stores it under the write lock.  Between the two
    it has no lock, and it does not look again. -/

namespace MNSER

open LTS

/-! ## Section 1: The table -/

abbrev FdCtxPtr : Type := Nat

/-- What callers store in an `FdCtx`. -/
structure FdSettings where
  timeouts     : FdTimeouts := ⟨2 ^ 64 - 1, 2 ^ 64 - 1⟩
  userNonblock : Bool := false
  deriving DecidableEq, Repr

structure FdManager where
  datas   : List (Option FdCtxPtr)
  heap    : FdCtxPtr → FdSettings
  /-- Number of contexts constructed so far; the next pointer. -/
  created : Nat

/-- How the read-locked part of `get` ends. -/
inductive GetRead where
  | done (ctx : Option FdCtxPtr)
  /-- no context, and one is to be created -/
  | create
  deriving DecidableEq, Repr

namespace FdManager

def init : FdManager where
  datas   := List.replicate 64 none
  heap _  := {}
  created := 0

/-- `(int)m_datas.size()` -/
def size (m : FdManager) : Int := wrap32 m.datas.length

def getRead (m : FdManager) (fd : Int) (auto_create : Bool) : Except Fault GetRead :=
  if fd = -1 then .ok (.done none)
  else if m.size ≤ fd then .ok (if auto_create then .create else .done none)
  else if fd < 0 then .error .outOfRange
  else
    match m.datas[fd.toNat]? with
    | none => .error .outOfRange
    | some ctx => .ok (if ctx.isSome || !auto_create then .done ctx else .create)

/-- `m_datas.resize(n)` -/
def resize (datas : List (Option FdCtxPtr)) (n : Nat) : List (Option FdCtxPtr) :=
  datas.take n ++ List.replicate (n - datas.length) none

/-- `m_datas` where the new context is stored. -/
def grown (m : FdManager) (fd : Int) : List (Option FdCtxPtr) :=
  if m.size ≤ fd then resize m.datas (fd * 3 / 2).toNat else m.datas

/-- The write-locked part of `get`; a negative fd has no size to convert to. -/
def getWrite (m : FdManager) (fd : Int) : Except Fault (FdManager × FdCtxPtr) :=
  if 0 ≤ fd ∧ fd.toNat < (m.grown fd).length then
    .ok ({ datas   := (m.grown fd).set fd.toNat (some m.created)
           heap    := fun p => if p = m.created then {} else m.heap p
           created := m.created + 1 }, m.created)
  else .error .outOfRange

def del (m : FdManager) (fd : Int) : Except Fault FdManager :=
  if m.size ≤ fd then .ok m
  else if 0 ≤ fd ∧ fd.toNat < m.datas.length then .ok { m with datas := m.datas.set fd.toNat none }
  else .error .outOfRange

def setTimeout (m : FdManager) (p : FdCtxPtr) (type : Int) (v : Nat) : FdManager :=
  { m with heap := fun q =>
      if q = p then { m.heap p with timeouts := (m.heap p).timeouts.setTimeout type v } else m.heap q }

def setUserNonblock (m : FdManager) (p : FdCtxPtr) (v : Bool) : FdManager :=
  { m with heap := fun q => if q = p then { m.heap p with userNonblock := v } else m.heap q }

end FdManager

/-! ## Section 2: Threads -/

abbrev FdThread : Type := Nat

structure FdCalls where
  manager : FdManager
  /-- the fd of the `get` that a thread is in, between its two sections -/
  pc      : FdThread → Option Int
  /-- what `get(fd, ..)` has returned since the last `del(fd)` -/
  results : Int → List FdCtxPtr

inductive FdCallsLabel where
  | getRead (t : FdThread) (fd : Int) (auto_create : Bool)
  | getWrite (t : FdThread)
  | del (t : FdThread) (fd : Int)
  | setTimeout (p : FdCtxPtr) (type : Int) (v : Nat)
  | setUserNonblock (p : FdCtxPtr) (v : Bool)
  deriving DecidableEq, Repr

namespace FdCalls

def start : FdCalls := ⟨.init, fun _ => none, fun _ => []⟩

def setPc (s : FdCalls) (t : FdThread) (pc : Option Int) : FdCalls :=
  { s with pc := fun u => if u = t then pc else s.pc u }

/-- `get(fd, ..)` returns `ctx`. -/
def returned (s : FdCalls) (fd : Int) (ctx : Option FdCtxPtr) : FdCalls :=
  { s with results := fun j => if j = fd then s.results fd ++ ctx.toList else s.results j }

/-- An access outside of `m_datas` is not followed by another step. -/
def next (s : FdCalls) : FdCallsLabel → Option FdCalls
  | .getRead t fd auto_create =>
    if s.pc t = none then
      match s.manager.getRead fd auto_create with
      | .error _      => none
      | .ok .create   => some (s.setPc t (some fd))
      | .ok (.done c) => some (s.returned fd c)
    else none
  | .getWrite t =>
    match s.pc t with
    | none => none
    | some fd =>
      match s.manager.getWrite fd with
      | .error _   => none
      | .ok (m, p) => some (({ s with manager := m }.setPc t none).returned fd (some p))
  | .del t fd =>
    if s.pc t = none then
      match s.manager.del fd with
      | .error _ => none
      | .ok m    =>
        some { s with manager := m, results := fun j => if j = fd then [] else s.results j }
    else none
  | .setTimeout p type v => some { s with manager := s.manager.setTimeout p type v }
  | .setUserNonblock p v => some { s with manager := s.manager.setUserNonblock p v }

end FdCalls

def fdCalls : System FdCalls FdCallsLabel where
  init s := s = .start
  next   := FdCalls.next

namespace FdCalls

/-! ## Section 3: One context for an fd -/

/-- Since the last `del(fd)` there is one context, and what is stored through one
    result is seen through every other. -/
def Shared (s : FdCalls) : Prop :=
  ∀ fd, ∀ p ∈ s.results fd, ∀ q ∈ s.results fd, p = q ∧
    (∀ type v, ((s.manager.setTimeout p type v).heap q).timeouts.getTimeout type = v) ∧
    ∀ v, ((s.manager.setUserNonblock p v).heap q).userNonblock = v

/-- Two results for one fd are one object. -/
theorem shared_iff (s : FdCalls) :
    s.Shared ↔ ∀ fd, ∀ p ∈ s.results fd, ∀ q ∈ s.results fd, p = q := by
  constructor
  · intro h fd p hp q hq
    exact (h fd p hp q hq).1
  · intro h fd p hp q hq
    obtain rfl := h fd p hp q hq
    refine ⟨rfl, fun type v => ?_, fun v => ?_⟩
    · simp only [FdManager.setTimeout, if_true, FdTimeouts.getTimeout_setTimeout]
    · simp only [FdManager.setUserNonblock, if_true]

/-- The context in `m_datas[fd]` has been returned, unless nothing has. -/
structure Inv (s : FdCalls) : Prop where
  stored  : ∀ (fd : Int) p, 0 ≤ fd → s.manager.datas[fd.toNat]? = some (some p) →
    s.results fd = [] ∨ p ∈ s.results fd
  created : ∀ (i : Nat) p, s.manager.datas[i]? = some (some p) → p < s.manager.created
  fresh   : ∀ fd, ∀ p ∈ s.results fd, p < s.manager.created

/-- `get(fd, true)` stores a context where none was returned before. -/
def First (s : FdCalls) : FdCallsLabel → Prop
  | .getWrite t => ∀ fd ∈ s.pc t, s.results fd = []
  | _ => True

instance (s : FdCalls) : (l : FdCallsLabel) → Decidable (First s l)
  | .getWrite t => inferInstanceAs (Decidable (∀ fd ∈ s.pc t, s.results fd = []))
  | .getRead ..         => isTrue trivial
  | .del ..             => isTrue trivial
  | .setTimeout ..      => isTrue trivial
  | .setUserNonblock .. => isTrue trivial

/-- Growing the vector adds no object. -/
theorem getElem?_grown {m : FdManager} {fd : Int} {i : Nat} {p : FdCtxPtr}
    (h : (m.grown fd)[i]? = some (some p)) : m.datas[i]? = some (some p) := by
  unfold FdManager.grown at h
  split at h
  · unfold FdManager.resize at h
    rcases Nat.lt_or_ge i (m.datas.take (fd * 3 / 2).toNat).length with hi | hi
    · rw [List.getElem?_append_left hi, List.getElem?_take] at h
      split at h
      · exact h
      · cases h
    · rw [List.getElem?_append_right hi, List.getElem?_replicate] at h
      split at h <;> cases h
  · exact h

/-- `get` returns under the read lock what the table holds. -/
theorem getRead_done {m : FdManager} {fd : Int} {auto_create : Bool} {p : FdCtxPtr}
    (h : m.getRead fd auto_create = .ok (.done (some p))) :
    0 ≤ fd ∧ m.datas[fd.toNat]? = some (some p) := by
  unfold FdManager.getRead at h
  split at h
  · cases h
  · split at h
    · split at h <;> cases h
    · split at h
      · cases h
      · rename_i hneg
        split at h
        · cases h
        · rename_i ctx hctx
          split at h
          · obtain rfl := GetRead.done.inj (Except.ok.inj h)
            exact ⟨Int.not_lt.mp hneg, hctx⟩
          · cases h

/-- Under the write lock it stores the next context and returns it. -/
theorem getWrite_ok {m m' : FdManager} {fd : Int} {p : FdCtxPtr}
    (h : m.getWrite fd = .ok (m', p)) :
    0 ≤ fd ∧ fd.toNat < (m.grown fd).length ∧ p = m.created ∧ m'.created = m.created + 1 ∧
      m'.datas = (m.grown fd).set fd.toNat (some m.created) := by
  unfold FdManager.getWrite at h
  split at h
  · rename_i hin
    obtain ⟨rfl, rfl⟩ := Prod.mk.inj (Except.ok.inj h)
    exact ⟨hin.1, hin.2, rfl, rfl, rfl⟩
  · cases h

/-- `del` adds no object. -/
theorem del_ok {m m' : FdManager} {fd : Int} (h : m.del fd = .ok m') :
    m'.created = m.created ∧
      ∀ (i : Nat) p, m'.datas[i]? = some (some p) → m.datas[i]? = some (some p) := by
  unfold FdManager.del at h
  split at h
  · obtain rfl := Except.ok.inj h
    exact ⟨rfl, fun _ _ hp => hp⟩
  · split at h
    · rename_i hin
      obtain rfl := Except.ok.inj h
      refine ⟨rfl, fun i p hp => ?_⟩
      by_cases hi : fd.toNat = i
      · rw [← hi, List.getElem?_set_self hin.2] at hp
        cases hp
      · rwa [List.getElem?_set_ne hi] at hp
    · cases h

/-- Under the read lock `get` returns what is in the table. -/
theorem next_getRead {s t : FdCalls} {u : FdThread} {fd : Int} {auto_create : Bool}
    (h : s.next (.getRead u fd auto_create) = some t) :
    t.manager = s.manager ∧ (t.results = s.results ∨
      ∃ p, (0 ≤ fd ∧ s.manager.datas[fd.toNat]? = some (some p)) ∧
        t.results = (s.returned fd (some p)).results) := by
  simp only [next] at h
  split at h
  · split at h
    · cases h
    · obtain rfl := Option.some.inj h
      exact ⟨rfl, Or.inl rfl⟩
    · rename_i c hread
      obtain rfl := Option.some.inj h
      cases c with
      | none =>
        refine ⟨rfl, Or.inl (funext fun j => ?_)⟩
        show (if j = fd then s.results fd ++ [] else s.results j) = s.results j
        split
        · rename_i hj
          rw [hj, List.append_nil]
        · rfl
      | some p => exact ⟨rfl, Or.inr ⟨p, getRead_done hread, rfl⟩⟩
  · cases h

/-- Under the write lock `get` puts a new object in. -/
theorem next_getWrite {s t : FdCalls} {u : FdThread} (h : s.next (.getWrite u) = some t) :
    ∃ fd, s.pc u = some fd ∧ s.manager.getWrite fd = .ok (t.manager, s.manager.created) ∧
      t.results = (s.returned fd (some s.manager.created)).results := by
  simp only [next] at h
  split at h
  · cases h
  · rename_i fd hpc
    split at h
    · cases h
    · rename_i m p hwrite
      obtain rfl := Option.some.inj h
      obtain ⟨-, -, rfl, -, -⟩ := getWrite_ok hwrite
      exact ⟨fd, hpc, hwrite, rfl⟩

/-- `del` forgets the object and what was returned for the fd. -/
theorem next_del {s t : FdCalls} {u : FdThread} {fd : Int} (h : s.next (.del u fd) = some t) :
    s.manager.del fd = .ok t.manager ∧
      t.results = fun j => if j = fd then [] else s.results j := by
  simp only [next] at h
  split at h
  · split at h
    · cases h
    · rename_i m hdel
      obtain rfl := Option.some.inj h
      exact ⟨hdel, rfl⟩
  · cases h

/-- Only the object that is returned is new. -/
theorem mem_returned {s : FdCalls} {fd j : Int} {p q : FdCtxPtr}
    (h : q ∈ (s.returned fd (some p)).results j) : q ∈ s.results j ∨ (j = fd ∧ q = p) := by
  change q ∈ if j = fd then s.results fd ++ [p] else s.results j at h
  split at h
  · rename_i hj
    rcases List.mem_append.mp h with h | h
    · exact Or.inl (hj ▸ h)
    · exact Or.inr ⟨hj, List.mem_singleton.mp h⟩
  · exact Or.inl h

theorem mem_returned_self (s : FdCalls) (fd : Int) (p : FdCtxPtr) :
    p ∈ (s.returned fd (some p)).results fd := by
  show p ∈ if fd = fd then s.results fd ++ [p] else s.results fd
  rw [if_pos rfl]
  exact List.mem_append_right _ List.mem_cons_self

theorem mem_returned_of {s : FdCalls} {fd j : Int} {p q : FdCtxPtr} (h : q ∈ s.results j) :
    q ∈ (s.returned fd (some p)).results j := by
  show q ∈ if j = fd then s.results fd ++ [p] else s.results j
  split
  · rename_i hj
    exact List.mem_append_left _ (hj ▸ h)
  · exact h

/-- Nothing has been returned. -/
theorem inv_start : Inv start where
  stored fd p _ h := Or.inl rfl
  created i p h := by
    rw [start, FdManager.init, List.getElem?_replicate] at h
    split at h <;> cases h
  fresh _ _ hp := by cases hp

/-- A result was stored in the table, and the table holds objects that were made. -/
theorem inv_next {s t : FdCalls} {l : FdCallsLabel} (h : Inv s) (hnext : s.next l = some t) :
    Inv t := by
  cases l with
  | getRead u fd auto_create =>
    obtain ⟨hm, hres | ⟨p, hp, hres⟩⟩ := next_getRead hnext
    · refine ⟨fun j q hj hq => ?_, fun i q hq => ?_, fun j q hq => ?_⟩
      · rw [hres]
        exact h.stored j q hj (hm ▸ hq)
      · rw [hm] at hq ⊢
        exact h.created i q hq
      · rw [hm]
        exact h.fresh j q (hres ▸ hq)
    · refine ⟨fun j q hj hq => ?_, fun i q hq => ?_, fun j q hq => ?_⟩
      · rw [hm] at hq
        by_cases hjfd : j = fd
        · subst hjfd
          obtain rfl : q = p := Option.some.inj (Option.some.inj (hq.symm.trans hp.2))
          exact Or.inr (hres ▸ mem_returned_self s j q)
        · rcases h.stored j q hj hq with hnil | hmem
          · refine Or.inl (hres ▸ ?_)
            show (if j = fd then _ else s.results j) = []
            rw [if_neg hjfd, hnil]
          · exact Or.inr (hres ▸ mem_returned_of hmem)
      · rw [hm] at hq ⊢
        exact h.created i q hq
      · rw [hm]
        rcases mem_returned (hres ▸ hq) with hq | ⟨_, rfl⟩
        · exact h.fresh j q hq
        · exact h.created _ _ hp.2
  | getWrite u =>
    obtain ⟨fd, _, hwrite, hres⟩ := next_getWrite hnext
    obtain ⟨hfd, hin, -, hcreated, hdatas⟩ := getWrite_ok hwrite
    -- an entry of the table is the new context or was there before
    have hentry : ∀ (i : Nat) q, t.manager.datas[i]? = some (some q) →
        (i = fd.toNat ∧ q = s.manager.created) ∨
          (i ≠ fd.toNat ∧ s.manager.datas[i]? = some (some q)) := by
      intro i q hq
      rw [hdatas] at hq
      by_cases hi : fd.toNat = i
      · rw [← hi, List.getElem?_set_self hin] at hq
        exact Or.inl ⟨hi.symm, (Option.some.inj (Option.some.inj hq)).symm⟩
      · rw [List.getElem?_set_ne hi] at hq
        exact Or.inr ⟨Ne.symm hi, getElem?_grown hq⟩
    refine ⟨fun j q hj hq => ?_, fun i q hq => ?_, fun j q hq => ?_⟩
    · rcases hentry _ q hq with ⟨hi, rfl⟩ | ⟨hi, hq⟩
      · obtain rfl : j = fd := by omega
        exact Or.inr (hres ▸ mem_returned_self s j _)
      · have hjfd : j ≠ fd := fun hjfd => hi (congrArg Int.toNat hjfd)
        rcases h.stored j q hj hq with hnil | hmem
        · refine Or.inl (hres ▸ ?_)
          show (if j = fd then _ else s.results j) = []
          rw [if_neg hjfd, hnil]
        · exact Or.inr (hres ▸ mem_returned_of hmem)
    · rw [hcreated]
      rcases hentry i q hq with ⟨_, rfl⟩ | ⟨_, hq⟩
      · exact Nat.lt_succ_self _
      · exact Nat.lt_succ_of_lt (h.created i q hq)
    · rw [hcreated]
      rcases mem_returned (hres ▸ hq) with hq | ⟨_, rfl⟩
      · exact Nat.lt_succ_of_lt (h.fresh j q hq)
      · exact Nat.lt_succ_self _
  | del u fd =>
    obtain ⟨hdel, hres⟩ := next_del hnext
    obtain ⟨hcreated, hdatas⟩ := del_ok hdel
    refine ⟨fun j q hj hq => ?_, fun i q hq => ?_, fun j q hq => ?_⟩
    · rw [hres]
      show (if j = fd then [] else s.results j) = [] ∨ q ∈ if j = fd then [] else s.results j
      split
      · exact Or.inl rfl
      · exact h.stored j q hj (hdatas _ q hq)
    · rw [hcreated]
      exact h.created i q (hdatas i q hq)
    · rw [hcreated]
      rw [hres] at hq
      change q ∈ if j = fd then [] else s.results j at hq
      split at hq
      · cases hq
      · exact h.fresh j q hq
  | setTimeout p type v =>
    obtain rfl := Option.some.inj hnext
    exact ⟨h.stored, h.created, h.fresh⟩
  | setUserNonblock p v =>
    obtain rfl := Option.some.inj hnext
    exact ⟨h.stored, h.created, h.fresh⟩

/-! ## Section 4: Runs -/

/-- A context that `get` creates differs from all that are in use. -/
theorem shared_next {s t : FdCalls} {l : FdCallsLabel} (hI : Inv s) (h : s.Shared)
    (hnext : s.next l = some t) : t.Shared ↔ First s l := by
  rw [shared_iff] at h ⊢
  cases l with
  | getRead u fd auto_create =>
    refine iff_of_true (fun j => ?_) trivial
    obtain ⟨-, hres | ⟨p, hp, hres⟩⟩ := next_getRead hnext
    · rw [hres]
      exact h j
    · -- what the table holds is what was returned before
      have hold : ∀ q ∈ s.results fd, q = p := by
        intro q hq
        rcases hI.stored fd p hp.1 hp.2 with hnil | hmem
        · rw [hnil] at hq
          cases hq
        · exact h fd q hq p hmem
      intro a ha b hb
      rw [hres] at ha hb
      rcases mem_returned ha with ha | ⟨hj, ha⟩ <;> rcases mem_returned hb with hb | ⟨hj, hb⟩
      · exact h j a ha b hb
      · exact (hold a (hj ▸ ha)).trans hb.symm
      · exact ha.trans (hold b (hj ▸ hb)).symm
      · exact ha.trans hb.symm
  | getWrite u =>
    obtain ⟨fd, hpc, -, hres⟩ := next_getWrite hnext
    have hfirst : First s (.getWrite u) ↔ s.results fd = [] := by
      constructor
      · intro hall
        exact hall fd hpc
      · intro hnil j hj
        obtain rfl : fd = j := Option.some.inj (hpc.symm.trans hj)
        exact hnil
    rw [hfirst]
    constructor
    · intro hall
      rw [List.eq_nil_iff_forall_not_mem]
      intro q hq
      have heq := hall fd q (hres ▸ mem_returned_of hq) s.manager.created
        (hres ▸ mem_returned_self s fd _)
      exact absurd (hI.fresh fd q hq) (heq ▸ Nat.lt_irrefl _)
    · intro hnil j a ha b hb
      rw [hres] at ha hb
      rcases mem_returned ha with ha | ⟨hj, ha⟩ <;> rcases mem_returned hb with hb | ⟨hj, hb⟩
      · exact h j a ha b hb
      · rw [hj, hnil] at ha
        cases ha
      · rw [hj, hnil] at hb
        cases hb
      · exact ha.trans hb.symm
  | del u fd =>
    refine iff_of_true (fun j => ?_) trivial
    rw [(next_del hnext).2]
    show ∀ a ∈ (if j = fd then [] else s.results j), ∀ b ∈ (if j = fd then [] else s.results j), a = b
    split
    · intro a ha
      cases ha
    · exact h j
  | setTimeout p type v =>
    obtain rfl := Option.some.inj hnext
    exact iff_of_true h trivial
  | setUserNonblock p v =>
    obtain rfl := Option.some.inj hnext
    exact iff_of_true h trivial

/-- All that `get(fd, ..)` returns between two calls of `del(fd)` is one context, in
    every state of a run, exactly if no `get` takes the write lock after another
    has returned. -/
theorem fd_context_shared_iff {s t : FdCalls} {tr : List (FdCalls × FdCallsLabel)}
    (hinit : fdCalls.init s) (hrun : Run fdCalls s tr t) :
    (∀ u ∈ states tr t, u.Shared) ↔ ∀ p ∈ tr, First p.1 p.2 := by
  obtain rfl := hinit
  refine hrun.states_iff (I := Inv) (fun _ _ _ h _ hnext => inv_next h hnext)
    (fun _ _ _ hI h hnext => shared_next hI h hnext) inv_start ?_
  rw [shared_iff]
  intro fd p hp
  cases hp

/-- A `get` that creates, one that finds, `del`, and a `get` that creates again. -/
def getDelGet : List FdCallsLabel :=
  [.getRead 0 5 true, .getWrite 0, .getRead 1 5 true, .setTimeout 0 20 7, .del 0 5,
    .getRead 1 5 true, .getWrite 1]

theorem fd_context_shared_del :
    (∀ p ∈ fdCalls.trace start getDelGet, First p.1 p.2) ∧
      ∀ u ∈ states (fdCalls.trace start getDelGet)
        ((fdCalls.exec start getDelGet).get (by decide)), u.Shared := by
  have hfirst : ∀ p ∈ fdCalls.trace start getDelGet, First p.1 p.2 := by
    decide
  exact ⟨hfirst, (fd_context_shared_iff rfl (fdCalls.run_of_exec getDelGet (by decide))).mpr hfirst⟩

/-- Two threads find no context, and each stores its own. -/
def getTwice : List FdCallsLabel :=
  [.getRead 0 5 true, .getRead 1 5 true, .getWrite 0, .getWrite 1]

theorem fd_context_twice :
    ∃ t, Run fdCalls start (fdCalls.trace start getTwice) t ∧ t.results 5 = [0, 1] ∧ ¬ t.Shared := by
  have hrun := fdCalls.run_of_exec (s := start) getTwice (by decide)
  have hres : ((fdCalls.exec start getTwice).get (by decide)).results 5 = [0, 1] := by decide
  refine ⟨_, hrun, hres, fun h => ?_⟩
  have heq := (h 5 0 (by rw [hres]; decide) 1 (by rw [hres]; decide)).1
  cases heq

end FdCalls

end MNSER
