import Mnser.Hook.LostTimeout

/-! # Closing a socket that fibers wait on

    The hooked `close` wakes the fibers that wait in `do_io` through
    `cancelAll`, drops the `FdCtx` and closes the fd, whose number the kernel
    may hand out again at once.  Inside `do_io` such a wake-up looks like
    readiness: only `tinfo->cancelled`, which the call's own timeout sets,
    keeps a woken fiber from trying again on the number. -/

namespace MNSER

open LTS

/-! ## Section 1: Closing and opening -/

/-- Where a fiber is in `close`. -/
inductive ClosePc where
  | outside
  /-- in `cancelAll`, before the lookup of the context -/
  | lookup (fd : Int)
  /-- in `cancelAll`, before the lock of the context -/
  | locking (fd : Int) (p : FdContextPtr)
  /-- before `FdMgr::GetInstance()->del(fd)` -/
  | del (fd : Int)
  /-- before `close_f` -/
  | close_f (fd : Int)
  deriving DecidableEq, Repr

structure Closing where
  hook    : Hook
  /-- `m_datas` of the `FdManager` -/
  datas   : Int → Option FdCtx
  /-- the numbers that are in use in the kernel -/
  isOpen  : Int → Bool
  closer  : FiberId → ClosePc
  /-- the fiber was woken by `cancelAll` in a `close` of its fd and has not
      returned from the call it was in -/
  hit     : FiberId → Bool

inductive ClosingLabel where
  | hook (l : HookLabel)
  /-- `close(fd)`; `iom` is the test of `IOManager::GetThis()` -/
  | close (f : FiberId) (fd : Int) (t_hook_enable iom : Bool)
  | closeLookup (f : FiberId)
  | closeLock (f : FiberId) (ok : Bool)
  | closeDel (f : FiberId)
  | close_f (f : FiberId)
  /-- `socket_f` or `accept_f` hands out the number -/
  | open (fd : Int)
  /-- `FdMgr::GetInstance()->get(fd, true)` for a socket -/
  | get (fd : Int)

/-- The fiber that takes the step. -/
def HookLabel.fiber : HookLabel → Option FiberId
  | .call f _ _ _ _ _ _ _ => some f
  | .attempt f _          => some f
  | .arm f                => some f
  | .lookup f             => some f
  | .resize f             => some f
  | .lock f _             => some f
  | .park f               => some f
  | .resume f             => some f
  | .cancelTimer f _      => some f
  | .check f              => some f
  | .sockopt f _ _        => some f
  | _                     => none

/-- A system call on the number of the fd: `fun(fd, ..)`, and `epoll_ctl` in
    `addEvent`. -/
def HookLabel.syscall : HookLabel → Option FiberId
  | .attempt f _   => some f
  | .lock f _      => some f
  | .sockopt f _ _ => some f
  | _              => none

/-- In `do_io`, with its event registered. -/
def IoFiber.blocked (x : IoFiber) : Bool :=
  decide (x.kind = .do_io) &&
    match x.pc with
    | .registered _ => true
    | .parked _     => true
    | _             => false

namespace Closing

def setCloser (s : Closing) (f : FiberId) (pc : ClosePc) : Closing :=
  { s with closer := fun g => if g = f then pc else s.closer g }

/-- What the environment answers: a hooked call finds the `FdCtx` of its fd,
    and a system call on a number that is not in use fails. -/
def answers (s : Closing) : HookLabel → Bool
  | .call f _ fd _ _ _ ctx _ => decide (s.closer f = .outside) && decide (ctx = s.datas fd)
  | .attempt f result        => s.isOpen (s.hook.fiber f).fd || decide (result = .error EBADF)
  | _                        => true

/-- A fiber that is back from its call no longer counts as hit. -/
def setHook (s : Closing) (hook : Hook) : Closing :=
  { s with
    hook := hook
    hit  := fun f => s.hit f && decide ((hook.fiber f).pc ≠ .outside) }

def next (self : SchedulerId) (s : Closing) : ClosingLabel → Option Closing
  | .hook l => if s.answers l then (s.hook.next self l).map s.setHook else none
  | .close f fd t_hook_enable iom =>
    if s.closer f = .outside ∧ (s.hook.fiber f).pc = .outside then
      if t_hook_enable = true ∧ (s.datas fd).isSome then
        some (s.setCloser f (if iom then .lookup fd else .del fd))
      else some (s.setCloser f (.close_f fd))
    else none
  | .closeLookup f =>
    match s.closer f with
    | .lookup fd =>
      match s.hook.io.lookup fd with
      | .ok (some p) => some (s.setCloser f (.locking fd p))
      | .ok none     => some (s.setCloser f (.del fd))
      | .error _     => none
    | _ => none
  | .closeLock f ok =>
    match s.closer f with
    | .locking fd p =>
      match s.hook.io.cancelAllLocked p fd ok with
      | .ok (m, _) =>
        some ({ s with
          hook := s.hook.setIo m
          -- the fibers this cancelAll has put into the queue
          hit  := fun g => s.hit g ||
            (decide (g ∈ Hook.wokenSince s.hook.io m) && (s.hook.fiber g).blocked) }.setCloser f
          (.del fd))
      | .error _ => none
    | _ => none
  | .closeDel f =>
    match s.closer f with
    | .del fd =>
      some ({ s with datas := fun j => if j = fd then none else s.datas j }.setCloser f
        (.close_f fd))
    | _ => none
  | .close_f f =>
    match s.closer f with
    | .close_f fd =>
      some ({ s with isOpen := fun j => if j = fd then false else s.isOpen j }.setCloser f
        .outside)
    | _ => none
  | .open fd =>
    if s.isOpen fd = false then
      some { s with isOpen := fun j => if j = fd then true else s.isOpen j }
    else none
  | .get fd =>
    if s.isOpen fd = true then
      some { s with datas := fun j => if j = fd then some ((s.datas fd).getD ⟨false, true, false⟩)
                                      else s.datas j }
    else none

def start : Closing where
  hook   := Hook.start
  datas  := fun _ => none
  isOpen := fun _ => false
  closer := fun _ => .outside
  hit    := fun _ => false

end Closing

def closings (self : SchedulerId) : System Closing ClosingLabel where
  init := fun s => s = Closing.start
  next := Closing.next self

/-! ## Section 2: Fibers that were hit -/

/-- Waiting, or on the way back to the check of `tinfo->cancelled`. -/
def IoPc.resting : IoPc → Bool
  | .registered _ => true
  | .parked _     => true
  | .woken        => true
  | .checking     => true
  | _             => false

namespace Closing

/-- No fiber that was hit goes on to a system call. -/
def Spared (s : Closing) : Prop :=
  ∀ f, s.hit f = true →
    (s.hook.fiber f).pc.resting = true ∧ (s.hook.fiber f).kind = .do_io

/-- When a fiber that was hit looks at `tinfo->cancelled`, its own timeout has
    fired. -/
def timedOut (s : Closing) : ClosingLabel → Bool
  | .hook (.check f) => !s.hit f || decide ((s.hook.fiber f).cancelled ≠ 0)
  | _                => true

/-- The step is no system call on the number, and a call that ends with it
    returns -1. -/
def Fails (s : Closing) (l : ClosingLabel) (t : Closing) : Prop :=
  ∀ f, s.hit f = true → (∀ h, l = .hook h → h.syscall ≠ some f) ∧
    ((t.hook.fiber f).pc = .outside → ∃ e, (t.hook.fiber f).result = some (.error e))

end Closing

namespace Hook

/-- What a step does to the fibers: one of them moves, or a callback sets its
    `cancelled`. -/
inductive Moved (s t : Hook) (l : HookLabel) : Prop where
  | same (fiber : t.fiber = s.fiber)
  | move (f : FiberId) (x : IoFiber) (label : l.fiber = some f)
      (fiber : t.fiber = (s.setFiber f x).fiber)
  | fire (f : FiberId)
      (fiber : t.fiber = (s.setFiber f { s.fiber f with cancelled := ETIMEDOUT }).fiber)

/-- Each step moves one fiber at most. -/
theorem moved_next {self : SchedulerId} {s t : Hook} {l : HookLabel}
    (hnext : s.next self l = some t) : Moved s t l := by
  -- `timer->cancel()` leaves the fibers alone
  have hfiber : ∀ (f : FiberId) (x : IoFiber),
      ((s.cancelTimer f).setFiber f x).fiber = (s.setFiber f x).fiber := by
    intro f x
    unfold setFiber
    rw [cancelTimer_fiber]
  cases next_cases hnext with
  | disarmed f | unadded f | passed f => exact .move f _ rfl (hfiber f _)
  | fired i u => exact .fire u.fiber rfl
  | again | expired | late | cancelFound | cancelTooShort | cancelLocked | reported =>
    exact .same rfl
  | native f | badf f | hooked f | wait f | give f | untimed f | timed f | found f | tooShort f
  | resized f | added f | parked f | resumed f | cancelled f | retried f | asking f
  | unanswered f | answered f => exact .move f _ rfl rfl

/-- A step of somebody else leaves the fiber where it is. -/
theorem next_frame {self : SchedulerId} {s t : Hook} {l : HookLabel} {f : FiberId}
    (hl : l.fiber ≠ some f) (hnext : s.next self l = some t) :
    (t.fiber f).pc = (s.fiber f).pc ∧ (t.fiber f).kind = (s.fiber f).kind ∧
      (t.fiber f).result = (s.fiber f).result := by
  cases moved_next hnext with
  | same hfiber =>
    rw [hfiber]
    exact ⟨rfl, rfl, rfl⟩
  | move g x hlabel hfiber =>
    have hne : f ≠ g := fun heq => hl (heq ▸ hlabel)
    rw [hfiber, setFiber_ne s x hne]
    exact ⟨rfl, rfl, rfl⟩
  | fire g hfiber =>
    rw [hfiber]
    by_cases hfg : f = g
    · subst hfg
      rw [setFiber_self]
      exact ⟨rfl, rfl, rfl⟩
    · rw [setFiber_ne s _ hfg]
      exact ⟨rfl, rfl, rfl⟩

/-- A step of a fiber that rests in `do_io`: it goes on resting, or looks at
    `tinfo->cancelled`. -/
theorem next_resting {self : SchedulerId} {s t : Hook} {l : HookLabel} {f : FiberId}
    (hl : l.fiber = some f) (hkind : (s.fiber f).kind = .do_io)
    (hrest : (s.fiber f).pc.resting = true) (hnext : s.next self l = some t) :
    l.syscall ≠ some f ∧
    ((l ≠ .check f ∧ (t.fiber f).pc.resting = true ∧ (t.fiber f).kind = .do_io) ∨
      (l = .check f ∧ t = if (s.fiber f).cancelled ≠ 0 then s.ret f (.error (s.fiber f).cancelled)
        else s.goto f .attempting)) := by
  have hrests : ∀ (u : Hook) (pc : IoPc), u.fiber = s.fiber → pc.resting = true →
      ((u.goto f pc).fiber f).pc.resting = true ∧ ((u.goto f pc).fiber f).kind = .do_io := by
    intro u pc hfiber hpc
    rw [goto, setFiber_self, hfiber]
    exact ⟨hpc, hkind⟩
  cases next_cases hnext with
  | parked g p =>
    obtain rfl := Option.some.inj hl
    exact ⟨(fun h => by cases h), Or.inl ⟨(fun h => by cases h), hrests s _ rfl rfl⟩⟩
  | resumed g p =>
    obtain rfl := Option.some.inj hl
    exact ⟨(fun h => by cases h), Or.inl ⟨(fun h => by cases h), hrests _ _ rfl rfl⟩⟩
  | disarmed g errno =>
    obtain rfl := Option.some.inj hl
    exact ⟨(fun h => by cases h),
      Or.inl ⟨(fun h => by cases h), hrests _ _ (cancelTimer_fiber s g) rfl⟩⟩
  | cancelled g hpc hcancelled =>
    obtain rfl := Option.some.inj hl
    exact ⟨(fun h => by cases h), Or.inr ⟨rfl, (if_pos hcancelled).symm⟩⟩
  | retried g hpc hunset =>
    obtain rfl := Option.some.inj hl
    exact ⟨(fun h => by cases h), Or.inr ⟨rfl, (if_neg fun h => h hunset).symm⟩⟩
  | asking g hpc hunset hconnect =>
    obtain rfl := Option.some.inj hl
    rw [hkind] at hconnect
    cases hconnect
  | expired | fired | late | cancelFound | cancelTooShort | cancelLocked | reported => cases hl
  | native g _ hpc | badf g hpc | hooked g hpc | again g _ hpc | wait g _ hpc | give g _ _ hpc
  | untimed g hpc | timed g _ hpc | found g _ hpc | tooShort g hpc | resized g _ _ hpc
  | added g _ _ _ _ hpc | unadded g _ hpc | passed g _ hpc | unanswered g _ _ hpc
  | answered g _ _ hpc =>
    -- the other steps are not taken at rest
    obtain rfl := Option.some.inj hl
    rw [hpc] at hrest
    cases hrest

end Hook

/-! ## Section 3: Steps and runs -/

namespace Closing

theorem Spared.same {s t : Closing} (h : s.Spared) (hfiber : t.hook.fiber = s.hook.fiber)
    (hhit : t.hit = s.hit) : t.Spared := by
  intro f hf
  rw [hhit] at hf
  rw [hfiber]
  exact h f hf

/-- A blocked fiber is in `do_io`, outside of any system call. -/
theorem resting_of_blocked {x : IoFiber} (h : x.blocked = true) :
    x.pc.resting = true ∧ x.kind = .do_io := by
  unfold IoFiber.blocked at h
  obtain ⟨hkind, hpc⟩ := Bool.and_eq_true_iff.mp h
  refine ⟨?_, of_decide_eq_true hkind⟩
  split at hpc
  · rename_i p hp
    rw [hp]
    rfl
  · rename_i p hp
    rw [hp]
    rfl
  · cases hpc

/-- A system call is a step of its fiber. -/
theorem syscall_fiber {l : HookLabel} {f : FiberId} (h : l.syscall = some f) :
    l.fiber = some f := by
  cases l with
  | attempt g result => exact h
  | lock g ok => exact h
  | sockopt g rt error => exact h
  | _ => cases h

/-- A step of `do_io` itself. -/
theorem spared_hook {self : SchedulerId} {s : Closing} {hook : Hook} {l : HookLabel}
    (h : s.Spared) (hnext : s.hook.next self l = some hook) :
    (s.setHook hook).Spared ↔ s.timedOut (.hook l) = true := by
  constructor
  · intro hspared
    -- only the check behind the waiting can send the fiber back to its call
    cases l with
    | check f =>
      by_cases hhit : s.hit f = true
      · obtain ⟨hrest, hkind⟩ := h f hhit
        rcases (Hook.next_resting rfl hkind hrest hnext).2 with ⟨hne, _⟩ | ⟨_, rfl⟩
        · exact absurd rfl hne
        · by_cases hcancelled : (s.hook.fiber f).cancelled ≠ 0
          · simp [timedOut, hcancelled]
          · -- the fiber would be on its way to `fun(fd, ..)`
            have hpc : ((s.hook.goto f .attempting).fiber f).pc = .attempting := by
              rw [Hook.goto, Hook.setFiber_self]
            rw [if_neg hcancelled] at hspared
            have hstill : (s.setHook (s.hook.goto f .attempting)).hit f = true := by
              simp [setHook, hhit, hpc]
            have hbad := (hspared f hstill).1
            rw [show ((s.setHook (s.hook.goto f .attempting)).hook.fiber f).pc = .attempting from
              hpc] at hbad
            cases hbad
      · simp [timedOut, hhit]
    | _ => rfl
  · intro htimed f hf
    obtain ⟨hhit, hout⟩ := Bool.and_eq_true_iff.mp hf
    have hout : (hook.fiber f).pc ≠ .outside := of_decide_eq_true hout
    obtain ⟨hrest, hkind⟩ := h f hhit
    by_cases hl : l.fiber = some f
    · rcases (Hook.next_resting hl hkind hrest hnext).2 with ⟨_, hrest', hkind'⟩ | ⟨rfl, heq⟩
      · exact ⟨hrest', hkind'⟩
      · -- back from its call
        have hcancelled : (s.hook.fiber f).cancelled ≠ 0 := by
          simpa [timedOut, hhit] using htimed
        rw [if_pos hcancelled] at heq
        refine absurd ?_ hout
        rw [heq, Hook.ret, Hook.setFiber_self]
    · obtain ⟨hpc, hkind', _⟩ := Hook.next_frame hl hnext
      exact ⟨hpc ▸ hrest, hkind'.trans hkind⟩

/-- A step leaves the fibers that were hit at rest, unless it is the check of one of
    them whose timeout has not fired. -/
theorem spared_next {self : SchedulerId} {s t : Closing} {l : ClosingLabel} (h : s.Spared)
    (hnext : s.next self l = some t) : t.Spared ↔ s.timedOut l = true := by
  -- cancelAll only hits fibers that wait, and close does nothing else to a fiber
  cases l with
  | hook l =>
    obtain ⟨_, heq⟩ := Option.ite_none_right_eq_some.mp hnext
    obtain ⟨hook, hhook, rfl⟩ := Option.map_eq_some_iff.mp heq
    exact spared_hook h hhook
  | closeLock f ok =>
    refine iff_of_true ?_ rfl
    simp only [next] at hnext
    split at hnext
    · split at hnext
      · rename_i m _ _
        obtain rfl := Option.some.inj hnext
        intro g hg
        rcases Bool.or_eq_true_iff.mp hg with hg | hg
        · exact h g hg
        · exact resting_of_blocked (Bool.and_eq_true_iff.mp hg).2
      · cases hnext
    · cases hnext
  | _ =>
    refine iff_of_true ?_ rfl
    simp only [next] at hnext
    repeat' split at hnext
    all_goals cases hnext
    all_goals exact h.same rfl rfl

/-- Such a step is no system call on the number, and a call that it ends returns -1.
    -/
theorem fails_next {self : SchedulerId} {s t : Closing} {l : ClosingLabel} (h : s.Spared)
    (htimed : s.timedOut l = true) (hnext : s.next self l = some t) : s.Fails l t := by
  intro f hhit
  obtain ⟨hrest, hkind⟩ := h f hhit
  have hin : (s.hook.fiber f).pc ≠ .outside := by
    intro hpc
    rw [hpc] at hrest
    cases hrest
  cases l with
  | hook l =>
    obtain ⟨_, heq⟩ := Option.ite_none_right_eq_some.mp hnext
    obtain ⟨hook, hhook, rfl⟩ := Option.map_eq_some_iff.mp heq
    by_cases hl : l.fiber = some f
    · obtain ⟨hsys, hcases⟩ := Hook.next_resting hl hkind hrest hhook
      refine ⟨fun l' hl' => ?_, fun hout => ?_⟩
      · obtain rfl := ClosingLabel.hook.inj hl'
        exact hsys
      · rcases hcases with ⟨_, hrest', _⟩ | ⟨rfl, hreturn⟩
        · rw [show (hook.fiber f).pc = .outside from hout] at hrest'
          cases hrest'
        · have hcancelled : (s.hook.fiber f).cancelled ≠ 0 := by
            simpa [timedOut, hhit] using htimed
          rw [if_pos hcancelled] at hreturn
          refine ⟨(s.hook.fiber f).cancelled, ?_⟩
          show (hook.fiber f).result = _
          rw [hreturn, Hook.ret, Hook.setFiber_self]
    · refine ⟨fun l' hl' hsys => ?_, fun hout => ?_⟩
      · obtain rfl := ClosingLabel.hook.inj hl'
        exact hl (syscall_fiber hsys)
      · exact absurd ((Hook.next_frame hl hhook).1.symm.trans hout) hin
  | _ =>
    -- close moves no fiber by itself
    have hsame : t.hook.fiber = s.hook.fiber := by
      simp only [next] at hnext
      repeat' split at hnext
      all_goals cases hnext
      all_goals rfl
    exact ⟨fun _ hl => ClosingLabel.noConfusion hl, fun hout => absurd (hsame ▸ hout) hin⟩

end Closing

/-- The fibers a `close` wakes are kept from the number exactly if each of
    them finds its own timeout fired; then their calls return -1. -/
theorem closed_fails_iff {self : SchedulerId} {s₀ s : Closing}
    {tr : List (Closing × ClosingLabel)} (hinit : (closings self).init s₀)
    (hrun : Run (closings self) s₀ tr s) :
    ((∀ u ∈ states tr s, u.Spared) ↔ ∀ p ∈ tr, p.1.timedOut p.2 = true) ∧
    ((∀ p ∈ tr, p.1.timedOut p.2 = true) →
      ∀ p ∈ tr, ∀ t, (closings self).next p.1 p.2 = some t → p.1.Fails p.2 t) := by
  have hstart : s₀.Spared := by
    rw [show s₀ = Closing.start from hinit]
    intro f hf
    cases hf
  refine ⟨hrun.states_iff (I := fun _ => True) (P := Closing.Spared)
      (G := fun u l => u.timedOut l = true) (fun _ _ _ _ _ _ => trivial)
      (fun _ _ _ _ h hnext => Closing.spared_next h hnext) trivial hstart,
    fun htr p hp t hnext => ?_⟩
  have hspared := (hrun.steps_invariant (I := Closing.Spared)
    (fun _ _ _ h hl hnext => (Closing.spared_next h hnext).mpr hl) htr hstart p hp).1
  exact Closing.fails_next hspared (htr p hp) hnext

/-- The timeout of the reader fires between the `close` and its return. -/
theorem closed_fails_iff_timeout :
    ∃ tr s, Run (closings 0) Closing.start tr s ∧ (∀ u ∈ states tr s, u.Spared) ∧
      (s.hook.fiber 0).result = some (.error ETIMEDOUT) := by
  let labels : List ClosingLabel :=
    [.open 5, .get 5,
     .hook (.call 0 .do_io 5 .READ (some 100) true (some ⟨false, true, false⟩) (.value 0)),
     .hook (.attempt 0 (.error EAGAIN)), .hook (.arm 0), .hook (.lookup 0), .hook (.lock 0 true),
     .hook (.park 0), .close 1 5 true true, .closeLookup 1, .closeLock 1 true, .closeDel 1,
     .close_f 1, .hook (.expire 0), .hook (.callback 0), .hook (.resume 0),
     .hook (.cancelTimer 0 0), .hook (.check 0)]
  have hrun := (closings 0).run_of_exec (s := Closing.start) labels (by decide)
  exact ⟨_, _, hrun, (closed_fails_iff rfl hrun).1.mpr (by decide), by decide⟩

/-- The number is in use again when the reader tries once more, and it reads
    what was sent to the new socket. -/
theorem closed_reads_again :
    ∃ tr s t, Run (closings 0) Closing.start tr s ∧
      (closings 0).next s (.hook (.attempt 0 (.value 10))) = some t ∧
      ¬ s.Fails (.hook (.attempt 0 (.value 10))) t ∧
      (t.hook.fiber 0).result = some (.value 10) := by
  let labels : List ClosingLabel :=
    [.open 5, .get 5,
     .hook (.call 0 .do_io 5 .READ none true (some ⟨false, true, false⟩) (.value 0)),
     .hook (.attempt 0 (.error EAGAIN)), .hook (.arm 0), .hook (.lookup 0), .hook (.lock 0 true),
     .hook (.park 0), .close 1 5 true true, .closeLookup 1, .closeLock 1 true, .closeDel 1,
     .close_f 1, .open 5, .get 5, .hook (.resume 0), .hook (.cancelTimer 0 0), .hook (.check 0)]
  have hrun := (closings 0).run_of_exec (s := Closing.start) labels (by decide)
  refine ⟨_, _, _, hrun, (Option.some_get (by decide)).symm, fun h => ?_,
    by decide⟩
  exact (h 0 (by decide)).1 _ rfl rfl

end MNSER
