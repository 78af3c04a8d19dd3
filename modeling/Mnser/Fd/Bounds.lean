import Mnser.Fd.Manager
import Mnser.IOManager.Contexts
import Mnser.IOManager.IdleTimeout

/-! # Indices into m_datas and m_fdContexts

    The sections of `FdManager` and `IOManager` that index the two vectors, run
    by any number of threads with any fds.  The part of a call under
    `fd_ctx->mutex` has its context already and is left out. -/

namespace MNSER

open LTS

/-! ## Section 1: Sizes as int -/

namespace IOManager

/-- `(int)m_fdContexts.size()` -/
def size (m : IOManager) : Int := wrap32 m.fdContexts.length

/-- The read-locked lookup with the cast that the source makes. -/
def lookupInt (m : IOManager) (fd : Int) : Except Fault (Option FdContextPtr) :=
  if m.size ≤ fd then .ok none
  else (m.fdContextAt fd).map some

end IOManager

/-- An fd below a size has its place in the vector. -/
theorem lt_of_lt_wrap32 {n : Nat} {fd : Int} (h₀ : 0 ≤ fd) (h : fd < wrap32 n) : fd.toNat < n := by
  rw [wrap32, Int.bmod_def] at h
  split at h <;> omega

/-! ## Section 2: Threads -/

inductive FdTablesPc where
  | outside
  /-- `lock.unlock()` in `get` -/
  | get (fd : Int)
  /-- `lock.unlock()` in the `else` branch of `addEvent` -/
  | addEvent (fd : Int)
  deriving DecidableEq, Repr

structure FdTables where
  fds      : FdManager
  contexts : IOManager
  pc       : FdThread → FdTablesPc
  /-- an element was accessed that its vector does not have -/
  outside  : Bool

inductive FdTablesLabel where
  | getRead (t : FdThread) (fd : Int) (auto_create : Bool)
  | getWrite (t : FdThread)
  | del (t : FdThread) (fd : Int)
  | addEventLookup (t : FdThread) (fd : Int)
  | addEventResize (t : FdThread)
  /-- `delEvent`, `cancelEvent` and `cancelAll` -/
  | lookup (t : FdThread) (fd : Int)
  deriving DecidableEq, Repr

namespace FdTables

def start (uninitialised : FdContextPtr → Events) : FdTables :=
  ⟨.init, .init uninitialised, fun _ => .outside, false⟩

def setPc (s : FdTables) (t : FdThread) (pc : FdTablesPc) : FdTables :=
  { s with pc := fun u => if u = t then pc else s.pc u }

/-- The state after a section; one that leaves a vector is the last. -/
def after {α : Type} (s : FdTables) (r : Except Fault α) (k : α → FdTables) : FdTables :=
  match r with
  | .ok a    => k a
  | .error _ => { s with outside := true }

def step (s : FdTables) : FdTablesLabel → Option FdTables
  | .getRead t fd auto_create =>
    if s.pc t = .outside then
      some (s.after (s.fds.getRead fd auto_create) fun r =>
        if r = .create then s.setPc t (.get fd) else s)
    else none
  | .getWrite t =>
    match s.pc t with
    | .get fd =>
      some (s.after (s.fds.getWrite fd) fun r => { s with fds := r.1 }.setPc t .outside)
    | _ => none
  | .del t fd =>
    if s.pc t = .outside then some (s.after (s.fds.del fd) fun m => { s with fds := m }) else none
  | .addEventLookup t fd =>
    if s.pc t = .outside then
      some (s.after (s.contexts.lookupInt fd) fun r =>
        if r = none then s.setPc t (.addEvent fd) else s)
    else none
  | .addEventResize t =>
    match s.pc t with
    | .addEvent fd =>
      some (s.after (s.contexts.resizeFor fd) fun r => { s with contexts := r.1 }.setPc t .outside)
    | _ => none
  | .lookup t fd =>
    if s.pc t = .outside then some (s.after (s.contexts.lookupInt fd) fun _ => s) else none

def next (s : FdTables) (l : FdTablesLabel) : Option FdTables :=
  if s.outside then none else s.step l

end FdTables

def fdVectors : System FdTables FdTablesLabel where
  init s := ∃ uninitialised, s = .start uninitialised
  next   := FdTables.next

/-! ## Section 3: Where a section stays inside -/

namespace FdTables

/-- The fd of a section against the vector as it is then. -/
def Inside (s : FdTables) : FdTablesLabel → Prop
  | .getRead _ fd _ => fd = -1 ∨ 0 ≤ fd ∨ s.fds.size ≤ fd
  | .getWrite t => ∀ fd, s.pc t = .get fd → 0 ≤ fd ∧ (s.fds.size ≤ fd → 2 ≤ fd)
  | .del _ fd => 0 ≤ fd ∨ s.fds.size ≤ fd
  | .addEventLookup _ fd => 0 ≤ fd ∨ s.contexts.size ≤ fd
  | .addEventResize t => ∀ fd, s.pc t = .addEvent fd → 2 ≤ fd
  | .lookup _ fd => 0 ≤ fd ∨ s.contexts.size ≤ fd

/-- -1 answers at once, and another negative number is only caught by the size as an
    `int`. -/
theorem getRead_isOk (m : FdManager) (fd : Int) (auto_create : Bool) :
    (m.getRead fd auto_create).isOk = true ↔ fd = -1 ∨ 0 ≤ fd ∨ m.size ≤ fd := by
  unfold FdManager.getRead
  split
  · rename_i h
    exact iff_of_true rfl (Or.inl h)
  · rename_i h
    split
    · rename_i hsize
      exact iff_of_true rfl (Or.inr (Or.inr hsize))
    · rename_i hsize
      split
      · rename_i hneg
        refine iff_of_false (by intro h; cases h) ?_
        omega
      · rename_i hneg
        have hlt : fd.toNat < m.datas.length :=
          lt_of_lt_wrap32 (Int.not_lt.mp hneg) (Int.not_le.mp hsize)
        rw [List.getElem?_eq_getElem hlt]
        exact iff_of_true rfl (Or.inr (Or.inl (Int.not_lt.mp hneg)))

/-- Under the write lock the vector has grown; at 0 and 1 it grows to nothing. -/
theorem getWrite_isOk (m : FdManager) (fd : Int) :
    (m.getWrite fd).isOk = true ↔ 0 ≤ fd ∧ (m.size ≤ fd → 2 ≤ fd) := by
  have hiff : (m.getWrite fd).isOk = true ↔ 0 ≤ fd ∧ fd.toNat < (m.grown fd).length := by
    unfold FdManager.getWrite
    split
    · rename_i h
      exact iff_of_true rfl h
    · rename_i h
      exact iff_of_false (by intro h; cases h) h
  rw [hiff]
  refine and_congr_right fun h₀ => ?_
  unfold FdManager.grown
  split
  · rename_i hsize
    rw [FdManager.resize, List.length_append, List.length_take, List.length_replicate]
    omega
  · rename_i hsize
    exact iff_of_true (lt_of_lt_wrap32 h₀ (Int.not_le.mp hsize)) fun h => absurd h hsize

/-- `FdManager::del` has no check of its own for negative numbers. -/
theorem del_isOk (m : FdManager) (fd : Int) :
    (m.del fd).isOk = true ↔ 0 ≤ fd ∨ m.size ≤ fd := by
  unfold FdManager.del
  split
  · rename_i hsize
    exact iff_of_true rfl (Or.inr hsize)
  · rename_i hsize
    split
    · rename_i h
      exact iff_of_true rfl (Or.inl h.1)
    · rename_i h
      refine iff_of_false (by intro h; cases h) ?_
      rintro (h₀ | h₀)
      · exact h ⟨h₀, lt_of_lt_wrap32 h₀ (Int.not_le.mp hsize)⟩
      · exact hsize h₀

/-- `m_fdContexts[fd]` is not checked. -/
theorem fdContextAt_isOk (m : IOManager) (fd : Int) :
    (m.fdContextAt fd).isOk = true ↔ 0 ≤ fd ∧ fd.toNat < m.fdContexts.length := by
  unfold IOManager.fdContextAt
  split
  · rename_i hneg
    exact iff_of_false (by intro h; cases h) fun h => Int.not_lt.mpr h.1 hneg
  · rename_i hneg
    rcases Nat.lt_or_ge fd.toNat m.fdContexts.length with hlt | hge
    · rw [List.getElem?_eq_getElem hlt]
      exact iff_of_true rfl ⟨Int.not_lt.mp hneg, hlt⟩
    · rw [List.getElem?_eq_none hge]
      exact iff_of_false (by intro h; cases h) fun h => Nat.not_lt.mpr hge h.2

/-- The check of `addEvent` and its siblings only asks whether the vector is too
    short. -/
theorem lookupInt_isOk (m : IOManager) (fd : Int) :
    (m.lookupInt fd).isOk = true ↔ 0 ≤ fd ∨ m.size ≤ fd := by
  unfold IOManager.lookupInt
  split
  · rename_i hsize
    exact iff_of_true rfl (Or.inr hsize)
  · rename_i hsize
    have hmap : ((m.fdContextAt fd).map some).isOk = (m.fdContextAt fd).isOk := by
      cases m.fdContextAt fd <;> rfl
    rw [hmap, fdContextAt_isOk]
    constructor
    · intro h
      exact Or.inl h.1
    · rintro (h₀ | h₀)
      · exact ⟨h₀, lt_of_lt_wrap32 h₀ (Int.not_le.mp hsize)⟩
      · exact absurd h₀ hsize

/-- `fd * 1.5` is above `fd` from 2 on. -/
theorem resizeFor_isOk (m : IOManager) (fd : Int) :
    (m.resizeFor fd).isOk = true ↔ 2 ≤ fd := by
  obtain ⟨_, _, hlen⟩ := IOManager.contextResize_fdContexts m (fd.toNat * 3 / 2)
  have hbind : (m.resizeFor fd).isOk =
      ((m.contextResize (fd.toNat * 3 / 2)).fdContextAt fd).isOk := by
    simp only [IOManager.resizeFor, bind, Except.bind, pure, Except.pure]
    cases (m.contextResize (fd.toNat * 3 / 2)).fdContextAt fd <;> rfl
  rw [hbind, fdContextAt_isOk, hlen]
  omega

/-! ## Section 4: Runs -/

/-- A step goes outside exactly where the access does. -/
theorem after_outside {α : Type} {s : FdTables} {r : Except Fault α} {k : α → FdTables}
    (hk : ∀ a, (k a).outside = s.outside) (hs : s.outside = false) :
    (s.after r k).outside = false ↔ r.isOk = true := by
  cases r with
  | ok a => exact iff_of_true ((hk a).trans hs) rfl
  | error f => exact iff_of_false (by intro h; cases h) (by intro h; cases h)

/-- A step goes outside exactly if its index is none of the vector. -/
theorem inside_next {s t : FdTables} {l : FdTablesLabel} (hs : s.outside = false)
    (hnext : s.next l = some t) : t.outside = false ↔ Inside s l := by
  rw [next, hs] at hnext
  -- each access is inside exactly when the number it was given is
  cases l with
  | getRead u fd auto_create =>
    simp only [step, Bool.false_eq_true, if_false] at hnext
    split at hnext
    · obtain rfl := Option.some.inj hnext
      refine (after_outside (fun r => ?_) hs).trans (getRead_isOk _ _ _)
      split <;> rfl
    · cases hnext
  | getWrite u =>
    simp only [step, Bool.false_eq_true, if_false] at hnext
    split at hnext
    · rename_i fd hpc
      obtain rfl := Option.some.inj hnext
      refine (after_outside (fun r => ?_) hs).trans ((getWrite_isOk _ _).trans ?_)
      · rfl
      constructor
      · intro h j hj
        obtain rfl := FdTablesPc.get.inj (hpc.symm.trans hj)
        exact h
      · intro h
        exact h fd hpc
    · cases hnext
  | del u fd =>
    simp only [step, Bool.false_eq_true, if_false] at hnext
    split at hnext
    · obtain rfl := Option.some.inj hnext
      refine (after_outside (fun r => ?_) hs).trans (del_isOk _ _)
      rfl
    · cases hnext
  | addEventLookup u fd =>
    simp only [step, Bool.false_eq_true, if_false] at hnext
    split at hnext
    · obtain rfl := Option.some.inj hnext
      refine (after_outside (fun r => ?_) hs).trans (lookupInt_isOk _ _)
      split <;> rfl
    · cases hnext
  | addEventResize u =>
    simp only [step, Bool.false_eq_true, if_false] at hnext
    split at hnext
    · rename_i fd hpc
      obtain rfl := Option.some.inj hnext
      refine (after_outside (fun r => ?_) hs).trans ((resizeFor_isOk _ _).trans ?_)
      · rfl
      constructor
      · intro h j hj
        obtain rfl := FdTablesPc.addEvent.inj (hpc.symm.trans hj)
        exact h
      · intro h
        exact h fd hpc
    · cases hnext
  | lookup u fd =>
    simp only [step, Bool.false_eq_true, if_false] at hnext
    split at hnext
    · obtain rfl := Option.some.inj hnext
      exact (after_outside (fun r => rfl) hs).trans (lookupInt_isOk _ _)
    · cases hnext

/-- From a state with nothing outside the run goes on inside exactly if its steps do. -/
theorem run_inside_iff {s t : FdTables} {tr : List (FdTables × FdTablesLabel)}
    (hs : s.outside = false) (hrun : Run fdVectors s tr t) :
    t.outside = false ↔ ∀ p ∈ tr, Inside p.1 p.2 := by
  refine hrun.good_iff (P := fun s => s.outside = false) (I := fun _ => True)
    (fun _ _ _ _ _ => trivial) (fun s l h => ?_)
    (fun s l t _ hs hnext => inside_next hs hnext) trivial hs
  show (if s.outside then none else s.step l) = none
  rw [if_pos (by simpa using h)]

/-- No access leaves its vector exactly if every section of the run has an fd
    that its checks are made for. -/
theorem fd_tables_inside_iff {s t : FdTables} {tr : List (FdTables × FdTablesLabel)}
    (hinit : fdVectors.init s) (hrun : Run fdVectors s tr t) :
    t.outside = false ↔ ∀ p ∈ tr, Inside p.1 p.2 := by
  obtain ⟨_, rfl⟩ := hinit
  exact run_inside_iff rfl hrun

/-- One pass through each of the six entry points. -/
def sixEntries : List FdTablesLabel :=
  [.getRead 0 (-1) true, .getRead 0 70 true, .getWrite 0, .del 0 70, .addEventLookup 1 40,
    .addEventResize 1, .lookup 0 40, .lookup 1 90]

/-- Six calls on small numbers stay inside. -/
theorem fd_tables_inside_six :
    ∃ t, Run fdVectors (start fun _ => 0) (fdVectors.trace (start fun _ => 0) sixEntries) t ∧
      t.outside = false ∧ ∀ p ∈ fdVectors.trace (start fun _ => 0) sixEntries, Inside p.1 p.2 := by
  have hrun := fdVectors.run_of_exec (s := start fun _ => 0) sixEntries (by decide)
  have hin : ((fdVectors.exec (start fun _ => 0) sixEntries).get (by decide)).outside = false := by
    decide
  exact ⟨_, hrun, hin, (fd_tables_inside_iff ⟨_, rfl⟩ hrun).mp hin⟩

/-! ## Section 5: Closed sockets -/

structure Socket where
  sock        : Int
  isConnected : Bool
  deriving DecidableEq, Repr

namespace Socket

/-- `Socket::close` but for the sections of `::close(m_sock)`. -/
def close (k : Socket) : Socket :=
  if k.isConnected = false ∧ k.sock = -1 then k else ⟨-1, false⟩

/-- The lookup of `cancelRead`, `cancelWrite`, `cancelAccept` and `cancelAll`. -/
def cancel (k : Socket) (t : FdThread) : FdTablesLabel := .lookup t k.sock

/-- A closed socket has the number -1. -/
theorem close_sock (k : Socket) : k.close.sock = -1 := by
  unfold close
  split
  · rename_i h
    exact h.2
  · rfl

end Socket

/-- `-1` is below every size that is an `int`. -/
theorem cancel_close_not_inside {s : FdTables} (hs : s.contexts.fdContexts.length < 2 ^ 31)
    (k : Socket) (t : FdThread) : ¬ Inside s (k.close.cancel t) := by
  have hsize : s.contexts.size = s.contexts.fdContexts.length := wrap32_of_lt (by omega) (by omega)
  show ¬ (0 ≤ k.close.sock ∨ s.contexts.size ≤ k.close.sock)
  rw [k.close_sock, hsize]
  omega

/-- `cancelAll` of a closed socket goes outside. -/
theorem closed_socket_outside :
    ∃ t, Run fdVectors (start fun _ => 0)
      (fdVectors.trace (start fun _ => 0) [Socket.cancel (Socket.close ⟨7, true⟩) 0]) t ∧
        t.outside = true :=
  ⟨_, fdVectors.run_of_exec [Socket.cancel (Socket.close ⟨7, true⟩) 0] (by decide), by decide⟩

/-! ## Section 6: Fds of the kernel -/

/-- Not negative, and small enough that `fd * 1.5` is an `int`. -/
def SmallFd (fd : Int) : Prop := 0 ≤ fd ∧ fd ≤ 1431655765

def Valid : FdTablesLabel → Prop
  | .getRead _ fd _      => fd = -1 ∨ SmallFd fd
  | .del _ fd            => SmallFd fd
  | .addEventLookup _ fd => SmallFd fd
  | .lookup _ fd         => SmallFd fd
  | .getWrite _          => True
  | .addEventResize _    => True

/-- The vectors never get shorter than they were, and an fd that is about to be
    resized for is above what they were then. -/
structure Sized (s : FdTables) : Prop where
  datas      : 64 ≤ s.fds.datas.length ∧ s.fds.datas.length < 2 ^ 31
  fdContexts : 32 ≤ s.contexts.fdContexts.length ∧ s.contexts.fdContexts.length < 2 ^ 31
  get        : ∀ t fd, s.pc t = .get fd → SmallFd fd
  addEvent   : ∀ t fd, s.pc t = .addEvent fd → 32 ≤ fd ∧ SmallFd fd

/-- A vector of this size is counted by an `int`. -/
theorem Sized.fds_size {s : FdTables} (h : Sized s) : s.fds.size = s.fds.datas.length :=
  wrap32_of_lt (by omega) (by have := h.datas; omega)

/-- So is the vector of the contexts. -/
theorem Sized.contexts_size {s : FdTables} (h : Sized s) :
    s.contexts.size = s.contexts.fdContexts.length :=
  wrap32_of_lt (by omega) (by have := h.fdContexts; omega)

/-- The vectors that the constructors make. -/
theorem sized_start (uninitialised : FdContextPtr → Events) : Sized (start uninitialised) where
  datas := by
    show 64 ≤ (List.replicate 64 none).length ∧ (List.replicate 64 none).length < 2 ^ 31
    rw [List.length_replicate]
    omega
  fdContexts := by
    obtain ⟨_, _, hlen⟩ := IOManager.contextResize_fdContexts
      { fdContexts := [], heap := fun _ => ⟨.empty, .empty, -1, 0⟩, created := 0,
        uninitialised := uninitialised, interest := fun _ => none,
        pendingEventCount := 0, effects := [] } 32
    have hinit : (start uninitialised).contexts.fdContexts.length = 32 := hlen
    omega
  get _ _ h := by cases h
  addEvent _ _ h := by cases h

/-- An access may fail. -/
theorem Sized.after {α : Type} {s : FdTables} {r : Except Fault α} {k : α → FdTables}
    (h : Sized s) (hk : ∀ a, r = .ok a → Sized (k a)) : Sized (s.after r k) := by
  cases r with
  | ok a => exact hk a rfl
  | error f => exact ⟨h.datas, h.fdContexts, h.get, h.addEvent⟩

/-- A thread moves on with a small number. -/
theorem Sized.setPc {s : FdTables} {u : FdThread} {pc : FdTablesPc} (h : Sized s)
    (hget : ∀ fd, pc = .get fd → SmallFd fd)
    (hadd : ∀ fd, pc = .addEvent fd → 32 ≤ fd ∧ SmallFd fd) : Sized (s.setPc u pc) := by
  refine ⟨h.datas, h.fdContexts, fun t fd hpc => ?_, fun t fd hpc => ?_⟩
  · change (if t = u then pc else s.pc t) = _ at hpc
    split at hpc
    · exact hget fd hpc
    · exact h.get t fd hpc
  · change (if t = u then pc else s.pc t) = _ at hpc
    split at hpc
    · exact hadd fd hpc
    · exact h.addEvent t fd hpc

theorem Sized.outside {s : FdTables} {u : FdThread} (h : Sized s) : Sized (s.setPc u .outside) :=
  h.setPc (fun _ hpc => by cases hpc) (fun _ hpc => by cases hpc)

/-- Only `get(-1, ..)` is handed a negative fd, and it does not create. -/
theorem getRead_create {m : FdManager} {fd : Int} {auto_create : Bool}
    (h : m.getRead fd auto_create = .ok .create) : fd ≠ -1 := by
  rintro rfl
  unfold FdManager.getRead at h
  rw [if_pos rfl] at h
  cases h

/-- The check says that the vector is too short. -/
theorem lookupInt_none {m : IOManager} {fd : Int} (h : m.lookupInt fd = .ok none) :
    m.size ≤ fd := by
  unfold IOManager.lookupInt at h
  split at h
  · assumption
  · cases hat : m.fdContextAt fd with
    | error f =>
      rw [hat] at h
      cases h
    | ok p =>
      rw [hat] at h
      cases h

/-- `del` keeps the size. -/
theorem length_del {m m' : FdManager} {fd : Int} (h : m.del fd = .ok m') :
    m'.datas.length = m.datas.length := by
  unfold FdManager.del at h
  split at h
  · obtain rfl := Except.ok.inj h
    rfl
  · split at h
    · obtain rfl := Except.ok.inj h
      exact List.length_set ..
    · cases h

/-- Valid calls stay inside. -/
theorem sized_inside {s : FdTables} {l : FdTablesLabel} (h : Sized s) (hl : Valid l) :
    Inside s l := by
  cases l with
  | getRead u fd auto_create => exact hl.imp_right fun hfd => Or.inl hfd.1
  | getWrite u =>
    intro fd hpc
    refine ⟨(h.get u fd hpc).1, fun hsize => ?_⟩
    rw [h.fds_size] at hsize
    have := h.datas
    omega
  | del u fd => exact Or.inl hl.1
  | addEventLookup u fd => exact Or.inl hl.1
  | addEventResize u =>
    intro fd hpc
    have := (h.addEvent u fd hpc).1
    omega
  | lookup u fd => exact Or.inl hl.1

/-- Valid calls keep the vectors small enough for an `int`. -/
theorem sized_next {s t : FdTables} {l : FdTablesLabel} (h : Sized s) (hl : Valid l)
    (hnext : s.next l = some t) : Sized t := by
  unfold next at hnext
  split at hnext
  · cases hnext
  cases l with
  | getRead u fd auto_create =>
    simp only [step] at hnext
    split at hnext
    · obtain rfl := Option.some.inj hnext
      refine h.after fun r hr => ?_
      split
      · rename_i hcreate
        subst hcreate
        refine h.setPc (fun j hj => ?_) (fun _ hj => by cases hj)
        obtain rfl := FdTablesPc.get.inj hj
        exact hl.resolve_left (getRead_create hr)
      · exact h
    · cases hnext
  | getWrite u =>
    simp only [step] at hnext
    split at hnext
    · rename_i fd hpc
      obtain rfl := Option.some.inj hnext
      refine h.after fun r hr => Sized.outside ⟨?_, h.fdContexts, h.get, h.addEvent⟩
      obtain ⟨m, p⟩ := r
      obtain ⟨-, -, -, -, hdatas⟩ := FdCalls.getWrite_ok hr
      -- the number was checked under the read lock, and growing by half keeps the size an int
      have hfd := h.get u fd hpc
      have hsize := h.fds_size
      have hold := h.datas
      show 64 ≤ m.datas.length ∧ m.datas.length < 2 ^ 31
      rw [hdatas, List.length_set, FdManager.grown]
      split
      · rename_i hgrow
        rw [FdManager.resize, List.length_append, List.length_take, List.length_replicate]
        have := hfd.2
        omega
      · exact hold
    · cases hnext
  | del u fd =>
    simp only [step] at hnext
    split at hnext
    · obtain rfl := Option.some.inj hnext
      refine h.after fun m hm => ⟨?_, h.fdContexts, h.get, h.addEvent⟩
      show 64 ≤ m.datas.length ∧ m.datas.length < 2 ^ 31
      rw [length_del hm]
      exact h.datas
    · cases hnext
  | addEventLookup u fd =>
    simp only [step] at hnext
    split at hnext
    · obtain rfl := Option.some.inj hnext
      refine h.after fun r hr => ?_
      split
      · rename_i hnone
        subst hnone
        refine h.setPc (fun _ hj => by cases hj) (fun j hj => ?_)
        obtain rfl := FdTablesPc.addEvent.inj hj
        have hsize := lookupInt_none hr
        rw [h.contexts_size] at hsize
        exact ⟨by have := h.fdContexts; omega, hl⟩
      · exact h
    · cases hnext
  | addEventResize u =>
    simp only [step] at hnext
    split at hnext
    · rename_i fd hpc
      obtain rfl := Option.some.inj hnext
      refine h.after fun r hr => Sized.outside ⟨h.datas, ?_, h.get, h.addEvent⟩
      obtain ⟨m, p⟩ := r
      obtain ⟨rfl, -⟩ := IOManager.resizeFor_ok hr
      obtain ⟨_, _, hlen⟩ := IOManager.contextResize_fdContexts s.contexts (fd.toNat * 3 / 2)
      -- as for the table of FdManager
      have hfd := h.addEvent u fd hpc
      show 32 ≤ (s.contexts.contextResize (fd.toNat * 3 / 2)).fdContexts.length ∧
        (s.contexts.contextResize (fd.toNat * 3 / 2)).fdContexts.length < 2 ^ 31
      rw [hlen]
      have := hfd.2.2
      omega
    · cases hnext
  | lookup u fd =>
    simp only [step] at hnext
    split at hnext
    · obtain rfl := Option.some.inj hnext
      exact h.after fun _ _ => h
    · cases hnext

/-- With fds that the kernel hands out, and `get(-1, ..)`, nothing is accessed outside. -/
theorem valid_inside {s t : FdTables} {tr : List (FdTables × FdTablesLabel)}
    (hinit : fdVectors.init s) (hrun : Run fdVectors s tr t) (hvalid : ∀ p ∈ tr, Valid p.2) :
    t.outside = false := by
  obtain ⟨uninitialised, rfl⟩ := hinit
  refine (run_inside_iff rfl hrun).mpr fun p hp => ?_
  obtain ⟨hsized, -⟩ := hrun.steps_invariant (G := fun _ l => Valid l) (I := Sized)
    (fun _ _ _ h hl hnext => sized_next h hl hnext) hvalid (sized_start uninitialised) p hp
  exact sized_inside hsized (hvalid p hp)

end FdTables

end MNSER
