import Mnser.IOManager.Ledger

/-! # Reports and concurrent changes

    Any number of workers call the event operations and handle reports in
    `idle`.  Lookup, resize and the section under `fd_ctx->mutex` are steps
    of their own, and so are the call of `epoll_wait`, its return and the
    handling of each report, which may be long outdated by then. -/

namespace MNSER

open LTS

abbrev WorkerId : Type := Nat

/-- One `epoll_event`; `data.ptr` was registered for `fd`. -/
structure Report where
  fd     : Int
  ptr    : FdContextPtr
  events : Events
  deriving DecidableEq, Repr

/-- Where a worker is. -/
inductive WorkerPc where
  | running
  /-- in `addEvent`, between the read lock and the write lock -/
  | resizing (call : IOManager.Call) (caller : IOManager.Caller)
  /-- about to lock `fd_ctx->mutex` -/
  | locking (call : IOManager.Call) (caller : IOManager.Caller) (p : FdContextPtr)
  /-- in `epoll_wait`, called when this was registered -/
  | waiting (registered : InterestList)
  /-- in the loop over the reports, these left -/
  | handling (reports : List Report)

structure Workers where
  io    : IOManager
  pc    : WorkerId → WorkerPc
  fault : Option Fault

inductive WorkersLabel where
  | begin (w : WorkerId) (call : IOManager.Call) (fiber : FiberId)
  | resize (w : WorkerId)
  | lock (w : WorkerId) (ok : Bool)
  | epollWait (w : WorkerId)
  | epollReturn (w : WorkerId) (reports : List Report)
  | handle (w : WorkerId) (ok : Bool)
  | endIdle (w : WorkerId)

namespace Workers

def setPc (s : Workers) (w : WorkerId) (pc : WorkerPc) : Workers :=
  { s with pc := fun v => if v = w then pc else s.pc v }

/-- Go on at `pc`, or die. -/
def resume (s : Workers) (w : WorkerId) (pc : WorkerPc) :
    Except Fault IOManager → Workers
  | .ok m    => { s.setPc w pc with io := m }
  | .error f => { s with fault := some f }

/-- What `epoll_wait` may return for an fd: some of the events registered
    when it was called, errors and hang-ups besides. -/
def Returns (registered : InterestList) (r : Report) : Prop :=
  ∃ i ∈ registered r.fd, i.ptr = r.ptr ∧
    r.events &&& ~~~(i.events ||| EPOLLERR ||| EPOLLHUP) = 0

instance (registered : InterestList) (r : Report) : Decidable (Returns registered r) :=
  inferInstanceAs (Decidable (∃ i ∈ registered r.fd, _))

/-- One step of the workers of the scheduler `self`. -/
def next (self : SchedulerId) (s : Workers) (l : WorkersLabel) : Option Workers :=
  if s.fault.isSome then none
  else
    match l with
    | .begin w call fiber =>
      match s.pc w with
      | .running =>
        let caller : IOManager.Caller := ⟨some self, fiber⟩
        match s.io.lookup call.fd, call with
        | .ok (some p), _          => some (s.setPc w (.locking call caller p))
        -- addEvent drops the read lock and takes the write lock
        | .ok none, .addEvent ..   => some (s.setPc w (.resizing call caller))
        -- the other calls return false when fd is beyond the table
        | .ok none, _              => some s
        | .error f, _              => some { s with fault := some f }
      | _ => none
    | .resize w =>
      match s.pc w with
      | .resizing call caller =>
        match s.io.resizeFor call.fd with
        | .ok (m, p) => some { s.setPc w (.locking call caller p) with io := m }
        | .error f   => some { s with fault := some f }
      | _ => none
    | .lock w ok =>
      match s.pc w with
      | .locking call caller p => some (s.resume w .running (s.io.locked p caller ok call))
      | _ => none
    | .epollWait w =>
      match s.pc w with
      | .running => some (s.setPc w (.waiting s.io.interest))
      | _ => none
    | .epollReturn w reports =>
      match s.pc w with
      | .waiting registered =>
        if ∀ r ∈ reports, Returns registered r then some (s.setPc w (.handling reports))
        else none
      | _ => none
    | .handle w ok =>
      match s.pc w with
      | .handling (r :: rest) =>
        some (s.resume w (.handling rest) (s.io.handleReport r.ptr r.events ok))
      | _ => none
    | .endIdle w =>
      match s.pc w with
      | .handling [] => some (s.setPc w .running)
      | _ => none

end Workers

def workers (self : SchedulerId) : System Workers WorkersLabel where
  init := fun s =>
    s.io = IOManager.init (fun _ => 0) ∧ (∀ w, s.pc w = .running) ∧ s.fault = none
  next := Workers.next self

/-! ## Section 2: What every interleaving keeps -/

namespace Workers

open IOManager

structure Inv (s : Workers) : Prop where
  core     : Core s.io
  pointers : Pointers s.io
  resizing : ∀ w call caller, s.pc w = .resizing call caller → caller.scheduler.isSome = true
  locking  : ∀ w call caller p, s.pc w = .locking call caller p →
               caller.scheduler.isSome = true ∧ p < s.io.created

theorem inv_fault {s : Workers} (h : Inv s) (f : Option Fault) :
    Inv { s with fault := f } :=
  ⟨h.core, h.pointers, h.resizing, h.locking⟩

/-- Worker `w` moves on to `pc`, the table only growing. -/
theorem Inv.move {s : Workers} (h : Inv s) {w : WorkerId} {pc : WorkerPc} {m : IOManager}
    (hcore : Core m) (hpointers : Pointers m) (hcreated : s.io.created ≤ m.created)
    (hresizing : ∀ call caller, pc = .resizing call caller → caller.scheduler.isSome = true)
    (hlocking : ∀ call caller p, pc = .locking call caller p →
      caller.scheduler.isSome = true ∧ p < m.created) :
    Inv { s.setPc w pc with io := m } := by
  refine ⟨hcore, hpointers, ?_, ?_⟩
  · intro v call caller hv
    by_cases hvw : v = w
    · exact hresizing call caller (by simpa [setPc, hvw] using hv)
    · exact h.resizing v call caller (by simpa [setPc, hvw] using hv)
  · intro v call caller p hv
    by_cases hvw : v = w
    · exact hlocking call caller p (by simpa [setPc, hvw] using hv)
    · obtain ⟨hcaller, hp⟩ := h.locking v call caller p (by simpa [setPc, hvw] using hv)
      exact ⟨hcaller, Nat.lt_of_lt_of_le hp hcreated⟩

/-- The worker goes on with what its operation returned, or the run ends in a fault.
    -/
theorem Inv.resume {s : Workers} (h : Inv s) {w : WorkerId} {pc : WorkerPc}
    {res : Except Fault IOManager}
    (hres : ∀ m, res = .ok m → Core m ∧ SameTable s.io m)
    (hresizing : ∀ call caller, pc ≠ .resizing call caller)
    (hlocking : ∀ call caller p, pc ≠ .locking call caller p) : Inv (s.resume w pc res) := by
  cases res with
  | error f => exact inv_fault h _
  | ok m =>
    obtain ⟨hcore, hcreated, htable⟩ := hres m rfl
    have hpointers : Pointers m := by
      intro p hp
      rw [htable] at hp
      rw [hcreated]
      exact h.pointers p hp
    exact h.move hcore hpointers (Nat.le_of_eq hcreated.symm)
      (fun call caller hpc => absurd hpc (hresizing call caller))
      (fun call caller p hpc => absurd hpc (hlocking call caller p))

/-- Worker `w` moves on and nothing else changes. -/
theorem Inv.setPc {s : Workers} (h : Inv s) {w : WorkerId} {pc : WorkerPc}
    (hresizing : ∀ call caller, pc = .resizing call caller → caller.scheduler.isSome = true)
    (hlocking : ∀ call caller p, pc = .locking call caller p →
      caller.scheduler.isSome = true ∧ p < s.io.created) : Inv (s.setPc w pc) :=
  h.move h.core h.pointers (Nat.le_refl _) hresizing hlocking

/-- A worker that has its context resolved holds one that exists. -/
theorem inv_next {self : SchedulerId} (s : Workers) (l : WorkersLabel) (t : Workers)
    (h : Inv s) (hnext : next self s l = some t) : Inv t := by
  unfold next at hnext
  split at hnext
  · cases hnext
  · cases l with
    | begin w call fiber =>
      simp only at hnext
      split at hnext
      · split at hnext
        · rename_i p hlookup
          obtain rfl := Option.some.inj hnext
          refine h.setPc (by simp) ?_
          intro call' caller' p' hpc
          obtain ⟨_, rfl, rfl⟩ := WorkerPc.locking.inj hpc
          -- the caller is this scheduler's worker, and the context comes out of the table
          refine ⟨rfl, h.pointers _ ?_⟩
          unfold lookup at hlookup
          split at hlookup
          · cases hlookup
          · obtain ⟨q, hat, hq⟩ := map_eq_ok hlookup
            exact Option.some.inj hq ▸ mem_of_fdContextAt hat
        · obtain rfl := Option.some.inj hnext
          refine h.setPc ?_ (by simp)
          intro call' caller' hpc
          obtain ⟨_, rfl⟩ := WorkerPc.resizing.inj hpc
          rfl
        · exact Option.some.inj hnext ▸ h
        · exact Option.some.inj hnext ▸ inv_fault h _
      · cases hnext
    | resize w =>
      simp only at hnext
      split at hnext
      · rename_i call caller hpc
        split at hnext
        · rename_i m p hresize
          obtain rfl := Option.some.inj hnext
          obtain ⟨rfl, hp⟩ := resizeFor_ok hresize
          obtain ⟨hpointers, hcreated⟩ := pointers_contextResize h.pointers (call.fd.toNat * 3 / 2)
          refine h.move (h.core.contextResize _) hpointers hcreated (by simp) ?_
          intro call' caller' p' hpc'
          obtain ⟨_, rfl, rfl⟩ := WorkerPc.locking.inj hpc'
          exact ⟨h.resizing w call caller hpc, hpointers _ (List.mem_of_getElem? hp)⟩
        · exact Option.some.inj hnext ▸ inv_fault h _
      · cases hnext
    | lock w ok =>
      simp only at hnext
      split at hnext
      · rename_i call caller p hpc
        obtain ⟨hcaller, hp⟩ := h.locking w call caller p hpc
        obtain rfl := Option.some.inj hnext
        exact h.resume (fun m hm => ⟨h.core.locked hp hcaller hm, locked_table h.core hm⟩)
          (by simp) (by simp)
      · cases hnext
    | epollWait w =>
      simp only at hnext
      split at hnext
      · exact Option.some.inj hnext ▸ h.setPc (by simp) (by simp)
      · cases hnext
    | epollReturn w reports =>
      simp only at hnext
      split at hnext
      · split at hnext
        · exact Option.some.inj hnext ▸ h.setPc (by simp) (by simp)
        · cases hnext
      · cases hnext
    | handle w ok =>
      simp only at hnext
      split at hnext
      · obtain rfl := Option.some.inj hnext
        exact h.resume
          (fun m hm => ⟨h.core.handleReport hm, handleReport_table h.core hm⟩)
          (by simp) (by simp)
      · cases hnext
    | endIdle w =>
      simp only at hnext
      split at hnext
      · exact Option.some.inj hnext ▸ h.setPc (by simp) (by simp)
      · cases hnext

theorem inv_init {self : SchedulerId} {s : Workers} (h : (workers self).init s) : Inv s := by
  obtain ⟨hio, hpc, _⟩ := h
  refine ⟨?_, ?_, by simp [hpc], by simp [hpc]⟩
  · rw [hio]
    exact core_empty.contextResize 32
  · rw [hio]
    exact (pointers_contextResize (by simp [Pointers]) 32).1

end Workers

/-! ## Section 3: The steps that violate the assertion -/

namespace IOManager

/-- The report names an event that is no longer registered while the other
    one still is and is taken for real. -/
def Stale (m : IOManager) (p : FdContextPtr) (events : Events) : Prop :=
  ∃ gone left : Event,
    events.test gone.mask = true ∧ (m.heap p).curEvents.test gone.mask = false ∧
    (m.heap p).curEvents.test left.mask = true ∧
    (events.test left.mask = true ∨ events.test (EPOLLERR ||| EPOLLHUP) = true)

/-- All that can stop `triggerIf` is the assertion of `triggerEvent`. -/
theorem triggerIf_error {m : IOManager} {p : FdContextPtr} {events : Events} {e : Event}
    {f : Fault} (hwf : (m.heap p).WF) (h : m.triggerIf p events e = .error f) :
    f = .triggerEvent ∧ events.test e.mask = true ∧
      (m.heap p).curEvents.test e.mask = false := by
  unfold triggerIf at h
  split at h
  · rename_i htest
    by_cases hcur : (m.heap p).curEvents.test e.mask = true
    · obtain ⟨s, task, _, htrigger⟩ := triggerEvent_of_armed hwf hcur
      rw [htrigger] at h
      cases h
    · rw [Bool.not_eq_true] at hcur
      rw [triggerEvent_of_clear hcur] at h
      exact ⟨(Except.error.inj h).symm, htest, hcur⟩
  · cases h

/-- Something registered is taken for real. -/
theorem and_realEvents_ne_zero {cur : Events} (hcur : cur.Known) (events : Events) :
    cur &&& realEvents cur events ≠ 0 ↔
      ∃ left : Event, cur.test left.mask = true ∧
        (events.test left.mask = true ∨ events.test (EPOLLERR ||| EPOLLHUP) = true) := by
  rw [Ne, (hcur.and (known_realEvents cur events)).eq_zero_iff]
  simp only [Events.test_and, realEvents_test]
  constructor
  · intro hne
    obtain ⟨left, hleft⟩ := not_forall.mp hne
    refine ⟨left, ?_⟩
    revert hleft
    cases cur.test left.mask <;> cases events.test left.mask <;> simp
  · rintro ⟨left, hleft, hreal⟩ hall
    have hfalse := hall left
    rw [hleft] at hfalse
    rcases hreal with hreal | hreal <;> simp [hreal] at hfalse

/-- The handler dies on exactly the stale reports. -/
theorem handleReport_error_iff {m : IOManager} (h : Core m) {p : FdContextPtr}
    {events : Events} {ok : Bool} {f : Fault} :
    m.handleReport p events ok = .error f ↔
      f = .triggerEvent ∧ ok = true ∧ (m.interest (m.heap p).fd).isSome = true ∧
        m.Stale p events := by
  have hwf := h.wf p
  have hreal := realEvents_test (m.heap p).curEvents events
  constructor
  · intro hcall
    simp only [handleReport, bind, Except.bind, pure, Except.pure] at hcall
    split at hcall
    · cases hcall
    · rename_i hne
      obtain ⟨left, hleft, hevents⟩ := (and_realEvents_ne_zero hwf.known events).mp hne
      split at hcall
      · cases hcall
      · rename_i k hctl
        obtain ⟨hok, hinterest⟩ :=
          (epoll_ctl_change_isSome _ _ _ _ _).mp (Option.isSome_iff_exists.mpr ⟨k, hctl⟩)
        -- an event that is taken for real but not registered was reported
        have hstale : ∀ gone : Event,
            (realEvents (m.heap p).curEvents events).test gone.mask = true →
            (m.heap p).curEvents.test gone.mask = false → m.Stale p events := by
          intro gone hgone hcur
          rw [hreal, hcur, Bool.and_false, Bool.or_false] at hgone
          exact ⟨gone, left, hgone, hcur, hleft, hevents⟩
        split at hcall
        · rename_i f' hread
          obtain ⟨hf, hgone, hcur⟩ := triggerIf_error (m := m.setInterest k) hwf hread
          exact ⟨(Except.error.inj hcall).symm.trans hf, hok, hinterest, hstale .READ hgone hcur⟩
        · rename_i m₁ hread
          obtain ⟨h₁, _, _, _, _, _, hcur₁⟩ := (h.setInterest k).triggerIf hread
          obtain ⟨hf, hgone, hcur⟩ := triggerIf_error (h₁.wf p) hcall
          refine ⟨hf, hok, hinterest, hstale .WRITE hgone ?_⟩
          rw [hcur₁] at hcur
          split at hcur
          · simpa [Events.test_andNot, setInterest] using hcur
          · rwa [Events.andNot_zero] at hcur
  · rintro ⟨rfl, hok, hinterest, gone, left, hgone, hcur, hleft, hevents⟩
    have hgone' : (realEvents (m.heap p).curEvents events).test gone.mask = true := by
      rw [hreal, hgone, Bool.true_or]
    have hne := (and_realEvents_ne_zero hwf.known events).mpr ⟨left, hleft, hevents⟩
    cases hres : m.handleReport p events ok with
    | error f =>
      simp only [handleReport, bind, Except.bind, pure, Except.pure, if_neg hne] at hres
      split at hres
      · cases hres
      · rename_i k hctl
        split at hres
        · rename_i f' hread
          rw [← Except.error.inj hres, (triggerIf_error (m := m.setInterest k) hwf hread).1]
        · rename_i m₁ hread
          obtain ⟨h₁, _⟩ := (h.setInterest k).triggerIf hread
          rw [(triggerIf_error (h₁.wf p) hres).1]
    | ok m' =>
      -- both triggers came back, so both events were registered
      exfalso
      simp only [handleReport, bind, Except.bind, pure, Except.pure, if_neg hne] at hres
      split at hres
      · rename_i hctl
        have hnone := congrArg Option.isSome hctl
        rw [(epoll_ctl_change_isSome _ _ _ _ _).mpr ⟨hok, hinterest⟩] at hnone
        cases hnone
      · rename_i k hctl
        split at hres
        · cases hres
        · rename_i m₁ hread
          obtain ⟨h₁, _, _, _, _, _, hcur₁⟩ := (h.setInterest k).triggerIf hread
          cases gone with
          | NONE => simp at hgone
          | READ =>
            rcases triggerIf_cases (m := m.setInterest k) hwf hread with ⟨hno, _⟩ | ⟨_, hyes, _⟩
            · exact absurd (hgone'.symm.trans hno) (by decide)
            · exact absurd (hyes.symm.trans hcur) (by decide)
          | WRITE =>
            rcases triggerIf_cases (h₁.wf p) hres with ⟨hno, _⟩ | ⟨_, hyes, _⟩
            · exact absurd (hgone'.symm.trans hno) (by decide)
            · rw [hcur₁] at hyes
              have hyes' : (m.heap p).curEvents.test Event.WRITE.mask = true := by
                split at hyes
                · simpa [Events.test_andNot, setInterest] using hyes
                · rwa [Events.andNot_zero] at hyes
              exact absurd (hyes'.symm.trans hcur) (by decide)

/-- It comes back where the event is registered. -/
theorem triggerIf_registered_ok {m : IOManager} {p : FdContextPtr} {events : Events}
    {e : Event} (hwf : (m.heap p).WF)
    (hsub : events.test e.mask = true → (m.heap p).curEvents.test e.mask = true) :
    ∃ m', m.triggerIf p events e = .ok m' := by
  cases hres : m.triggerIf p events e with
  | ok m' => exact ⟨m', rfl⟩
  | error f =>
    obtain ⟨_, htest, hclear⟩ := triggerIf_error hwf hres
    exact absurd ((hsub htest).symm.trans hclear) (by decide)

/-- The operations look before they trigger. -/
theorem locked_error {m : IOManager} (h : Core m) {p : FdContextPtr} {call : Call}
    {caller : Caller} {ok : Bool} {f : Fault}
    (hcall : m.locked p caller ok call = .error f) : f ≠ .triggerEvent := by
  -- an event that is registered has its scheduler and its task, so triggerEvent's assertions hold
  have hmap : ∀ {α β : Type} {g : α → β} {x : Except Fault α},
      x.map g = .error f → x = .error f := by
    intro α β g x hx
    cases x with
    | ok _ => cases hx
    | error f' => exact congrArg Except.error (Except.error.inj hx)
  cases call with
  | addEvent fd e cb =>
    have hrun := hmap hcall
    simp only [addEventLocked, bind, Except.bind, pure, Except.pure, throw, throwThe,
      MonadExceptOf.throw] at hrun
    split at hrun
    · obtain rfl := Except.error.inj hrun; simp
    · split at hrun
      · cases hrun
      · cases e with
        | NONE => obtain rfl := Except.error.inj hrun; simp
        | READ =>
          simp only [FdContext.getContext] at hrun
          split at hrun
          · obtain rfl := Except.error.inj hrun; simp
          · cases hrun
        | WRITE =>
          simp only [FdContext.getContext] at hrun
          split at hrun
          · obtain rfl := Except.error.inj hrun; simp
          · cases hrun
  | delEvent fd e =>
    have hrun := hmap hcall
    simp only [delEventLocked, bind, Except.bind, pure, Except.pure] at hrun
    split at hrun
    · cases hrun
    · split at hrun
      · cases hrun
      · cases e with
        | NONE => obtain rfl := Except.error.inj hrun; simp
        | READ => cases hrun
        | WRITE => cases hrun
  | cancelEvent fd e =>
    have hrun := hmap hcall
    simp only [cancelEventLocked, bind, Except.bind, pure, Except.pure] at hrun
    split at hrun
    · cases hrun
    · rename_i htest
      simp only [Bool.not_eq_true', Bool.not_eq_false] at htest
      split at hrun
      · cases hrun
      · rename_i k _
        obtain ⟨s, task, _, htrigger⟩ :=
          triggerEvent_of_armed (m := m.setInterest k) (h.wf p) htest
        rw [show ({ m with interest := k } : IOManager).triggerEvent p e = _ from htrigger] at hrun
        cases hrun
  | cancelAll fd =>
    have hrun := hmap hcall
    simp only [cancelAllLocked, bind, Except.bind, pure, Except.pure, throw, throwThe,
      MonadExceptOf.throw] at hrun
    split at hrun
    · cases hrun
    · split at hrun
      · cases hrun
      · rename_i k _
        obtain ⟨m₁, hread⟩ := triggerIf_registered_ok (m := m.setInterest k) (e := .READ)
          (h.wf p) (show (m.heap p).curEvents.test _ = true → _ from id)
        obtain ⟨h₁, _⟩ := (h.setInterest k).triggerIf hread
        obtain ⟨m₂, hwrite⟩ := triggerIf_registered_ok (m := m₁) (e := .WRITE) (h₁.wf p)
          (show (m₁.heap p).curEvents.test _ = true → _ from id)
        rw [show ({ m with interest := k } : IOManager).triggerIf p (m.heap p).curEvents .READ =
          _ from hread] at hrun
        simp only [hwrite] at hrun
        split at hrun
        · obtain rfl := Except.error.inj hrun; simp
        · cases hrun

/-- The vector is too short, or the fd negative. -/
theorem fdContextAt_error {m : IOManager} {fd : Int} {f : Fault}
    (hat : m.fdContextAt fd = .error f) : f = .outOfRange := by
  unfold fdContextAt at hat
  split at hat
  · exact (Except.error.inj hat).symm
  · split at hat
    · exact (Except.error.inj hat).symm
    · cases hat

theorem lookup_error {m : IOManager} {fd : Int} {f : Fault} (h : m.lookup fd = .error f) :
    f = .outOfRange := by
  unfold lookup at h
  split at h
  · cases h
  · cases hat : m.fdContextAt fd with
    | ok p => rw [hat] at h; cases h
    | error f' =>
      rw [hat] at h
      exact (Except.error.inj h) ▸ fdContextAt_error hat

/-- Even a vector just resized for it may be too short for a small fd. -/
theorem resizeFor_error {m : IOManager} {fd : Int} {f : Fault} (h : m.resizeFor fd = .error f) :
    f = .outOfRange := by
  simp only [resizeFor, bind, Except.bind, pure, Except.pure] at h
  split at h
  · rename_i f' hat
    exact (Except.error.inj h) ▸ fdContextAt_error hat
  · cases h

end IOManager

namespace Workers

/-- The step handles a stale report and `epoll_ctl` succeeds. -/
def HandlesStale (s : Workers) : WorkersLabel → Prop
  | .handle w ok =>
      ∃ r rest, s.pc w = .handling (r :: rest) ∧ ok = true ∧
        (s.io.interest (s.io.heap r.ptr).fd).isSome = true ∧ s.io.Stale r.ptr r.events
  | _ => False

/-- The step faults where its operation does. -/
theorem resume_fault {s : Workers} {w : WorkerId} {pc : WorkerPc}
    {res : Except Fault IOManager} (hs : s.fault = none) (f : Fault) :
    (s.resume w pc res).fault = some f ↔ res = .error f := by
  cases res with
  | ok m => simp [resume, setPc, hs]
  | error f' => simp [resume]

/-- The assertion of `triggerEvent` fails on stale reports, and only there. -/
theorem violates_iff {self : SchedulerId} {s t : Workers} {l : WorkersLabel} (h : Inv s)
    (hnext : next self s l = some t) :
    t.fault = some .triggerEvent ↔ s.HandlesStale l := by
  unfold next at hnext
  split at hnext
  · cases hnext
  · rename_i halive
    have hs : s.fault = none := by simpa using halive
    -- only a report can ask for an event that is no longer registered
    cases l with
    | begin w call fiber =>
      simp only at hnext
      split at hnext
      · split at hnext
        · obtain rfl := Option.some.inj hnext; simp [HandlesStale, setPc, hs]
        · obtain rfl := Option.some.inj hnext; simp [HandlesStale, setPc, hs]
        · obtain rfl := Option.some.inj hnext; simp [HandlesStale, hs]
        · rename_i f hlookup
          obtain rfl := Option.some.inj hnext
          simp [HandlesStale, IOManager.lookup_error hlookup]
      · cases hnext
    | resize w =>
      simp only at hnext
      split at hnext
      · split at hnext
        · obtain rfl := Option.some.inj hnext; simp [HandlesStale, setPc, hs]
        · rename_i f hresize
          obtain rfl := Option.some.inj hnext
          simp [HandlesStale, IOManager.resizeFor_error hresize]
      · cases hnext
    | lock w ok =>
      simp only at hnext
      split at hnext
      · obtain rfl := Option.some.inj hnext
        simp only [HandlesStale, iff_false, resume_fault hs]
        exact fun hcall => IOManager.locked_error h.core hcall rfl
      · cases hnext
    | epollWait w =>
      simp only at hnext
      split at hnext
      · obtain rfl := Option.some.inj hnext; simp [HandlesStale, setPc, hs]
      · cases hnext
    | epollReturn w reports =>
      simp only at hnext
      split at hnext
      · split at hnext
        · obtain rfl := Option.some.inj hnext; simp [HandlesStale, setPc, hs]
        · cases hnext
      · cases hnext
    | handle w ok =>
      simp only at hnext
      split at hnext
      · rename_i r rest hpc
        obtain rfl := Option.some.inj hnext
        rw [resume_fault hs, IOManager.handleReport_error_iff h.core]
        constructor
        · rintro ⟨_, hok, hinterest, hstale⟩
          exact ⟨r, rest, hpc, hok, hinterest, hstale⟩
        · rintro ⟨r', rest', hpc', hok, hinterest, hstale⟩
          obtain ⟨rfl, rfl⟩ := List.cons.inj (WorkerPc.handling.inj (hpc.symm.trans hpc'))
          exact ⟨rfl, hok, hinterest, hstale⟩
      · cases hnext
    | endIdle w =>
      simp only at hnext
      split at hnext
      · obtain rfl := Option.some.inj hnext; simp [HandlesStale, setPc, hs]
      · cases hnext

end Workers

/-- A run keeps the assertion of `triggerEvent`, and takes only registered
    events off the counter, exactly if no step of it handles a stale report. -/
theorem reports_safe_iff {self : SchedulerId} {s₀ s : Workers}
    {tr : List (Workers × WorkersLabel)} (hinit : (workers self).init s₀)
    (hrun : Run (workers self) s₀ tr s) :
    (s.fault ≠ some .triggerEvent ∧
      ∀ p e, e ≠ .NONE → Ledger p e s.io.effects ((s.io.heap p).slot e).content) ↔
      ∀ step ∈ tr, ¬ step.1.HandlesStale step.2 := by
  have hinv : s.Inv := hrun.invariant Workers.inv_next (Workers.inv_init hinit)
  have hgood : s.fault ≠ some .triggerEvent ↔ ∀ step ∈ tr, ¬ step.1.HandlesStale step.2 := by
    refine hrun.good_iff (G := fun s l => ¬ s.HandlesStale l)
      (P := fun s => s.fault ≠ some .triggerEvent) Workers.inv_next ?_ ?_
      (Workers.inv_init hinit) (by simp [hinit.2.2])
    · intro s l hbad
      simp only [ne_eq, not_not] at hbad
      simp [workers, Workers.next, hbad]
    · intro s l t h _ hnext
      exact not_congr (Workers.violates_iff h hnext)
  exact ⟨fun h => hgood.mp h.1, fun h => ⟨hgood.mpr h, hinv.core.history⟩⟩

/-- The first state, all workers running. -/
def Workers.start : Workers :=
  ⟨IOManager.init fun _ => 0, fun _ => .running, none⟩

/-- Both events of an fd are reported to one worker and another cancels the
    reader before the report is handled. -/
theorem reports_unsafe :
    ∃ s, Reachable (workers 1) s ∧ s.fault = some .triggerEvent := by
  have hrun := (workers 1).run_of_exec (s := Workers.start)
    [.begin 0 (.addEvent 5 .READ (some 7)) 9, .lock 0 true,
     .begin 0 (.addEvent 5 .WRITE (some 8)) 9, .lock 0 true,
     .epollWait 1, .epollReturn 1 [⟨5, 5, EPOLLIN ||| EPOLLOUT⟩],
     .begin 0 (.cancelEvent 5 .READ) 9, .lock 0 true, .handle 1 true] (by decide)
  exact ⟨_, ⟨_, _, ⟨rfl, fun _ => rfl, rfl⟩, hrun⟩, by decide⟩

/-- The same orders with the report handled first. -/
theorem reports_safe_iff_in_order :
    ∃ s tr, Run (workers 1) Workers.start tr s ∧ ∀ step ∈ tr, ¬ step.1.HandlesStale step.2 := by
  have hrun := (workers 1).run_of_exec (s := Workers.start)
    [.begin 0 (.addEvent 5 .READ (some 7)) 9, .lock 0 true,
     .begin 0 (.addEvent 5 .WRITE (some 8)) 9, .lock 0 true,
     .epollWait 1, .epollReturn 1 [⟨5, 5, EPOLLIN ||| EPOLLOUT⟩],
     .handle 1 true, .begin 0 (.cancelEvent 5 .READ) 9, .lock 0 true] (by decide)
  have hsafe := (reports_safe_iff ⟨rfl, fun _ => rfl, rfl⟩ hrun).mp
  refine ⟨_, _, hrun, hsafe ⟨by decide, ?_⟩⟩
  have hinv := hrun.invariant Workers.inv_next (Workers.inv_init (show (workers 1).init _ from ⟨rfl, fun _ => rfl, rfl⟩))
  exact hinv.core.history

end MNSER
