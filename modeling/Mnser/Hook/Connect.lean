import Mnser.Fd.Bounds
import Mnser.Hook.Close

/-! # What `connect` takes for a connection

    After `EINPROGRESS` the hooked `connect` registers the fd for `WRITE`,
    waits, and asks for `SO_ERROR`.  A connection that is still in progress
    has no error either, so whoever wakes the fiber early makes the call
    return 0, and so does a registration that failed.  A report can wake it
    early too: one that `epoll_wait` returned for a socket that had the number
    before. -/

namespace MNSER

open LTS FdTables

/-! ## Section 1: Outcomes -/

/-- The kernel's side of a connection that was asked for. -/
inductive Link where
  | inProgress
  | established
  | refused (error : Int)
  deriving DecidableEq, Repr

/-- The value of `SO_ERROR`. -/
def Link.so_error : Link → Int
  | .inProgress  => 0
  | .established => 0
  | .refused e   => e

/-- What ends `YieldToHold`. -/
inductive WakeUp where
  /-- a report on the fd, of this socket or of one that had the number before -/
  | writable
  /-- the callback of the call's own timer -/
  | timer
  /-- `cancelEvent` or `cancelAll` of another fiber -/
  | cancelled
  deriving DecidableEq, Repr

/-- Everything a call of `connect_with_timeout` is answered. -/
structure ConnectOutcome where
  connect_f  : SysResult
  addEvent   : Int
  wake       : WakeUp
  /-- `tinfo->cancelled` when it is looked at -/
  cancelled  : Int
  getsockopt : SysResult
  /-- the connection when `SO_ERROR` is read -/
  link       : Link

namespace ConnectOutcome

/-- From `getsockopt` on. -/
def asked (o : ConnectOutcome) : SysResult :=
  match o.getsockopt with
  | .error e => .error e
  | .value _ => if o.link.so_error = 0 then .value 0 else .error o.link.so_error

/-- From `if(tinfo->cancelled)` on. -/
def checked (o : ConnectOutcome) : SysResult :=
  if o.cancelled ≠ 0 then .error o.cancelled else o.asked

/-- From `addEvent` on; a failed registration goes on to `getsockopt`. -/
def waited (o : ConnectOutcome) : SysResult :=
  if o.addEvent = 0 then o.checked else o.asked

/-- From `connect_f` on. -/
def attempted (o : ConnectOutcome) : SysResult :=
  match connect_attempt o.connect_f with
  | .give result => result
  | _            => o.waited

/-- What the kernel and the timer can answer: `connect` returns 0 or -1, a
    refused connection has an error, and only a timer that was set and has
    fired sets `cancelled`, before it cancels the event.  Whatever wakes the
    fiber, the connection may still be in progress. -/
structure Possible (timeout_ms : Option Nat) (o : ConnectOutcome) : Prop where
  connect   : o.connect_f = .value 0 ∨ ∃ e, o.connect_f = .error e
  refused   : ∀ e, o.link = .refused e → e ≠ 0
  cancelled : o.cancelled = 0 ∨ o.cancelled = ETIMEDOUT ∧ timeout_ms ≠ none
  timer     : o.wake = .timer → o.cancelled = ETIMEDOUT

/-- The connection stands. -/
def Connected (o : ConnectOutcome) : Prop := o.connect_f = .value 0 ∨ o.link = .established

end ConnectOutcome

def connect_with_timeout (t_hook_enable : Bool) (ctx : Option FdCtx) (o : ConnectOutcome) :
    SysResult :=
  match connect_entry t_hook_enable ctx with
  | .native => o.connect_f
  | .badf   => .error EBADF
  | .hooked => o.attempted

/-- `if(!isValid()) newSock();` with what `socket` answers. -/
def FdTables.Socket.validate (k : Socket) (socket : Int) : Socket :=
  if k.sock = -1 then { k with sock := socket } else k

/-- `Socket::connect`; the fd is closed when the call fails. -/
def FdTables.Socket.connect (k : Socket) (socket : Int) (sameFamily t_hook_enable : Bool)
    (ctx : Option FdCtx) (o : ConnectOutcome) : Socket × Bool :=
  let k := k.validate socket
  if k.sock = -1 then (k, false)
  else if !sameFamily then (k, false)
  else if connect_with_timeout t_hook_enable ctx o ≠ .value 0 then (k.close, false)
  else ({ k with isConnected := true }, true)

/-! ## Section 2: 0 only for a connection -/

/-- The call returns 0 for a connection, or -1; and `m_isConnected` is set only
    on a connection. -/
def ConnectHonest (t_hook_enable : Bool) (ctx : Option FdCtx) (o : ConnectOutcome) : Prop :=
  (connect_with_timeout t_hook_enable ctx o = .value 0 ∧ o.Connected ∨
    ∃ e, connect_with_timeout t_hook_enable ctx o = .error e) ∧
  ∀ (k : Socket) (socket : Int) (sameFamily : Bool),
    (k.connect socket sameFamily t_hook_enable ctx o).1.isConnected = true →
      k.isConnected = true ∨ o.Connected

/-- A hooked call that had to wait does not come to `SO_ERROR` of a connection in
    progress: it was registered, and its own timer has fired. -/
def ReadsSettled (t_hook_enable : Bool) (ctx : Option FdCtx) (o : ConnectOutcome) : Prop :=
  connect_entry t_hook_enable ctx = .hooked → o.connect_f = .error EINPROGRESS →
    o.link = .inProgress → (∃ n, o.getsockopt = .value n) →
      o.addEvent = 0 ∧ o.cancelled ≠ 0

/-- `connect_f` is not called again. -/
theorem connect_attempt_ne_again (r : SysResult) : connect_attempt r ≠ .again := by
  unfold connect_attempt
  split
  · simp
  · split <;> simp

namespace ConnectOutcome

variable {timeout_ms : Option Nat} {o : ConnectOutcome}

/-- 0 from `getsockopt` says that the connection is not refused. -/
theorem asked_eq (h : o.Possible timeout_ms) :
    o.asked = .value 0 ∧ (o.link = .established ∨ o.link = .inProgress) ∧
        (∃ n, o.getsockopt = .value n) ∨
      ∃ e, o.asked = .error e ∧ ((∀ n, o.getsockopt ≠ .value n) ∨ ∃ e, o.link = .refused e) := by
  unfold asked
  cases hsockopt : o.getsockopt with
  | error e => exact Or.inr ⟨e, rfl, Or.inl fun n hn => by cases hn⟩
  | value n =>
    cases hlink : o.link with
    | inProgress => exact Or.inl ⟨rfl, Or.inr rfl, n, rfl⟩
    | established => exact Or.inl ⟨rfl, Or.inl rfl, n, rfl⟩
    | refused e => exact Or.inr ⟨e, if_neg (h.refused e hlink), Or.inr ⟨e, rfl⟩⟩

/-- A connection in progress is waited for. -/
theorem attempted_wait (h : o.connect_f = .error EINPROGRESS) : o.attempted = o.waited := by
  unfold attempted
  rw [h]
  rfl

/-- Any other answer of `connect` is passed on. -/
theorem attempted_give (h : o.Possible timeout_ms) (hwait : o.connect_f ≠ .error EINPROGRESS) :
    o.attempted = .value 0 ∧ o.connect_f = .value 0 ∨ ∃ e, o.attempted = .error e := by
  unfold attempted
  rcases h.connect with hconnect | ⟨e, hconnect⟩
  · rw [hconnect]
    exact Or.inl ⟨rfl, rfl⟩
  · have he : e ≠ EINPROGRESS := fun heq => hwait (heq ▸ hconnect)
    rw [hconnect, connect_attempt, if_neg he]
    exact Or.inr ⟨e, rfl⟩

/-- After the wait the call is honest exactly if it does not ask too early. -/
theorem waited_iff (h : o.Possible timeout_ms) (hwait : o.connect_f = .error EINPROGRESS) :
    (o.waited = .value 0 ∧ o.Connected ∨ ∃ e, o.waited = .error e) ↔
      (o.link = .inProgress → (∃ n, o.getsockopt = .value n) →
        o.addEvent = 0 ∧ o.cancelled ≠ 0) := by
  have hlinked : o.Connected ↔ o.link = .established := by
    refine or_iff_right fun hvalue => ?_
    rw [hwait] at hvalue
    cases hvalue
  rw [hlinked]
  constructor
  · intro hhonest hlink hread
    -- `SO_ERROR` is 0, and there is no connection
    have hasked : o.asked = .value 0 := by
      obtain ⟨n, hn⟩ := hread
      rw [asked, hn, hlink]
      rfl
    have hnot : o.waited ≠ .value 0 := by
      intro hzero
      rcases hhonest with ⟨_, hlink'⟩ | ⟨e, he⟩
      · rw [hlink] at hlink'
        cases hlink'
      · rw [hzero] at he
        cases he
    unfold waited checked at hnot
    rw [hasked] at hnot
    by_cases hadd : o.addEvent = 0
    · refine ⟨hadd, fun hzero => hnot ?_⟩
      rw [if_pos hadd, if_neg (not_not.mpr hzero)]
    · exact absurd (if_neg hadd) hnot
  · intro hcond
    rcases asked_eq h with ⟨hasked, hlink, hread⟩ | ⟨e, hasked, _⟩
    · rcases hlink with hlink | hlink
      · -- the connection stands
        unfold waited checked
        rw [hasked]
        split
        · split
          · exact Or.inr ⟨o.cancelled, rfl⟩
          · exact Or.inl ⟨rfl, hlink⟩
        · exact Or.inl ⟨rfl, hlink⟩
      · obtain ⟨hadd, hcancelled⟩ := hcond hlink hread
        right
        refine ⟨o.cancelled, ?_⟩
        rw [waited, if_pos hadd, checked, if_pos hcancelled]
    · right
      unfold waited checked
      rw [hasked]
      split
      · split
        · exact ⟨o.cancelled, rfl⟩
        · exact ⟨e, rfl⟩
      · exact ⟨e, rfl⟩

end ConnectOutcome

/-- The call is honest exactly if it does not come to `SO_ERROR` of a connection in
    progress. -/
theorem connect_with_timeout_iff {timeout_ms : Option Nat} {o : ConnectOutcome}
    (h : o.Possible timeout_ms) (t_hook_enable : Bool) (ctx : Option FdCtx) :
    (connect_with_timeout t_hook_enable ctx o = .value 0 ∧ o.Connected ∨
      ∃ e, connect_with_timeout t_hook_enable ctx o = .error e) ↔
    ReadsSettled t_hook_enable ctx o := by
  unfold connect_with_timeout ReadsSettled
  cases connect_entry t_hook_enable ctx with
  | native =>
    refine iff_of_true ?_ fun hhooked => by cases hhooked
    rcases h.connect with hconnect | ⟨e, hconnect⟩
    · exact Or.inl ⟨hconnect, Or.inl hconnect⟩
    · exact Or.inr ⟨e, hconnect⟩
  | badf => exact iff_of_true (Or.inr ⟨EBADF, rfl⟩) fun hhooked => by cases hhooked
  | hooked =>
    by_cases hwait : o.connect_f = .error EINPROGRESS
    · rw [forall_prop_of_true rfl, forall_prop_of_true hwait]
      have hiff := ConnectOutcome.waited_iff h hwait
      rw [← ConnectOutcome.attempted_wait hwait] at hiff
      exact hiff
    · refine iff_of_true ?_ fun _ hprogress => absurd hprogress hwait
      rcases ConnectOutcome.attempted_give h hwait with ⟨hzero, hconnect⟩ | herror
      · exact Or.inl ⟨hzero, Or.inl hconnect⟩
      · exact Or.inr herror

/-- `m_isConnected` is set when the call has returned 0. -/
theorem connect_isConnected {k : Socket} {socket : Int} {sameFamily t_hook_enable : Bool}
    {ctx : Option FdCtx} {o : ConnectOutcome}
    (h : (k.connect socket sameFamily t_hook_enable ctx o).1.isConnected = true) :
    k.isConnected = true ∨ connect_with_timeout t_hook_enable ctx o = .value 0 := by
  have hsame : (k.validate socket).isConnected = k.isConnected := by
    unfold FdTables.Socket.validate
    split <;> rfl
  unfold FdTables.Socket.connect at h
  dsimp only at h
  split at h
  · exact Or.inl (hsame.symm.trans h)
  · split at h
    · exact Or.inl (hsame.symm.trans h)
    · split at h
      · rename_i hopen _ _
        rw [Socket.close, if_neg fun hclosed => hopen hclosed.2] at h
        cases h
      · rename_i hzero
        exact Or.inr (not_not.mp hzero)

/-! ## Section 3: The call among the steps of `hooks` -/

namespace Hook

/-- What the fiber's call has returned, or will return when it is answered `o`. -/
def returns (x : IoFiber) (o : ConnectOutcome) : Option SysResult :=
  match x.pc with
  | .outside      => x.result
  | .attempting   => some o.attempted
  | .arming       => some o.waited
  | .adding       => some o.waited
  | .resizing     => some o.waited
  | .locking _    => some o.waited
  | .registered _ => some o.checked
  | .parked _     => some o.checked
  | .woken        => some o.checked
  | .checking     => some o.checked
  | .failed       => some o.asked
  | .sockopt      => some o.asked

/-- What the step answers the fiber is as in `o`, and it makes no other call. -/
def Answered (self : SchedulerId) (f : FiberId) (o : ConnectOutcome) (s : Hook) :
    HookLabel → Prop
  | .call g _ _ _ _ _ _ _ => g ≠ f
  | .attempt g result     => g = f → result = o.connect_f
  | .lock g ok            => g = f → ∀ p m rt, (s.fiber f).pc = .locking p →
      s.io.addEventLocked p (s.fiber f).fd (s.fiber f).event none ⟨some self, f⟩ ok =
        .ok (m, rt) → rt = o.addEvent
  | .check g              => g = f → (s.fiber f).cancelled = o.cancelled
  | .sockopt g rt error   => g = f → rt = o.getsockopt ∧ error = o.link.so_error
  | _                     => True

/-- In `connect_with_timeout`, or in no call. -/
def Connecting (x : IoFiber) : Prop := x.pc = .outside ∨ x.kind = .connect

/-- A fiber that is connecting is in no other kind of call. -/
theorem Connecting.kind {x : IoFiber} (h : Connecting x) {pc : IoPc} (hpc : x.pc = pc)
    (hne : pc ≠ .outside) : x.kind = .connect :=
  h.resolve_left fun hout => hne (hpc.symm.trans hout)

/-- A step of the fiber that moves it on to `x`. -/
theorem returns_move {s t : Hook} {f : FiberId} {x : IoFiber} {o : ConnectOutcome}
    (hfiber : (t.fiber f) = x) (hconnecting : Connecting x)
    (hreturns : returns x o = returns (s.fiber f) o) :
    Connecting (t.fiber f) ∧ returns (t.fiber f) o = returns (s.fiber f) o := by
  rw [hfiber]
  exact ⟨hconnecting, hreturns⟩

/-- What the call will return is settled by `o` from its first step on: no step that
    is answered as in `o` changes it. -/
theorem returns_next {self : SchedulerId} {s t : Hook} {l : HookLabel} {f : FiberId}
    {o : ConnectOutcome} (h : Connecting (s.fiber f)) (hanswered : Answered self f o s l)
    (hnext : s.next self l = some t) :
    Connecting (t.fiber f) ∧ returns (t.fiber f) o = returns (s.fiber f) o := by
  by_cases hl : l.fiber = some f
  swap
  · -- somebody else moves
    obtain ⟨hpc, hkind, hresult⟩ := next_frame hl hnext
    unfold Connecting returns
    rw [hpc, hkind, hresult]
    exact ⟨h, rfl⟩
  cases next_cases hnext with
  | native g | badf g | hooked g => exact absurd (Option.some.inj hl) hanswered
  | again g result hpc hattempt =>
    obtain rfl := Option.some.inj hl
    rw [h.kind hpc (by decide)] at hattempt
    exact absurd hattempt (connect_attempt_ne_again _)
  | wait g result hpc hattempt =>
    obtain rfl := Option.some.inj hl
    obtain rfl := hanswered rfl
    have hkind := h.kind hpc (by decide)
    rw [hkind] at hattempt
    refine returns_move (setFiber_self _ _ _) (Or.inr hkind) ?_
    rw [show returns (s.fiber g) o = some o.attempted by rw [returns, hpc],
      ConnectOutcome.attempted, show connect_attempt o.connect_f = .wait from hattempt]
    rfl
  | give g result r hpc hattempt =>
    obtain rfl := Option.some.inj hl
    obtain rfl := hanswered rfl
    rw [h.kind hpc (by decide)] at hattempt
    refine returns_move (setFiber_self _ _ _) (Or.inl rfl) ?_
    rw [show returns (s.fiber g) o = some o.attempted by rw [returns, hpc],
      ConnectOutcome.attempted, show connect_attempt o.connect_f = .give r from hattempt]
    rfl
  | untimed g hpc =>
    obtain rfl := Option.some.inj hl
    have hbefore : returns (s.fiber g) o = some o.waited := by rw [returns, hpc]
    exact returns_move (setFiber_self _ _ _) (Or.inr (h.kind hpc (by decide))) hbefore.symm
  | timed g ms hpc =>
    obtain rfl := Option.some.inj hl
    have hbefore : returns (s.fiber g) o = some o.waited := by rw [returns, hpc]
    exact returns_move (setFiber_self _ _ _) (Or.inr (h.kind hpc (by decide))) hbefore.symm
  | found g p hpc =>
    obtain rfl := Option.some.inj hl
    have hbefore : returns (s.fiber g) o = some o.waited := by rw [returns, hpc]
    exact returns_move (setFiber_self _ _ _) (Or.inr (h.kind hpc (by decide))) hbefore.symm
  | tooShort g hpc =>
    obtain rfl := Option.some.inj hl
    have hbefore : returns (s.fiber g) o = some o.waited := by rw [returns, hpc]
    exact returns_move (setFiber_self _ _ _) (Or.inr (h.kind hpc (by decide))) hbefore.symm
  | resized g m p hpc =>
    obtain rfl := Option.some.inj hl
    have hbefore : returns (s.fiber g) o = some o.waited := by rw [returns, hpc]
    exact returns_move (setFiber_self _ _ _) (Or.inr (h.kind hpc (by decide))) hbefore.symm
  | added g ok p m rt hpc hadd =>
    obtain rfl := Option.some.inj hl
    obtain rfl : rt = o.addEvent := hanswered rfl p m rt hpc hadd
    refine returns_move (setFiber_self _ _ _) (Or.inr (h.kind hpc (by simp))) ?_
    rw [show returns (s.fiber g) o = some o.waited by rw [returns, hpc], ConnectOutcome.waited]
    -- a fiber that is not registered goes on to `getsockopt`
    by_cases hrt : o.addEvent = 0
    · simp only [returns, if_pos hrt]
    · simp only [returns, if_neg hrt]
  | parked g p hpc =>
    obtain rfl := Option.some.inj hl
    have hbefore : returns (s.fiber g) o = some o.checked := by rw [returns, hpc]
    exact returns_move (setFiber_self _ _ _) (Or.inr (h.kind hpc (by simp))) hbefore.symm
  | resumed g p hpc =>
    obtain rfl := Option.some.inj hl
    have hbefore : returns (s.fiber g) o = some o.checked := by rw [returns, hpc]
    exact returns_move (setFiber_self _ _ _) (Or.inr (h.kind hpc (by simp))) hbefore.symm
  | disarmed g errno hpc =>
    obtain rfl := Option.some.inj hl
    have hbefore : returns (s.fiber g) o = some o.checked := by rw [returns, hpc]
    refine returns_move (setFiber_self _ _ _) (Or.inr ?_) hbefore.symm
    rw [cancelTimer_fiber]
    exact h.kind hpc (by decide)
  | passed g errno hpc hkind =>
    obtain rfl := Option.some.inj hl
    have hbefore : returns (s.fiber g) o = some o.asked := by rw [returns, hpc]
    refine returns_move (setFiber_self _ _ _) (Or.inr ?_) hbefore.symm
    rw [cancelTimer_fiber]
    exact hkind
  | cancelled g hpc hfired =>
    obtain rfl := Option.some.inj hl
    have hcancelled : (s.fiber g).cancelled = o.cancelled := hanswered rfl
    refine returns_move (setFiber_self _ _ _) (Or.inl rfl) ?_
    rw [show returns (s.fiber g) o = some o.checked by rw [returns, hpc], ConnectOutcome.checked,
      ← hcancelled, if_pos hfired]
    rfl
  | asking g hpc hunset hkind =>
    obtain rfl := Option.some.inj hl
    have hcancelled : (s.fiber g).cancelled = o.cancelled := hanswered rfl
    refine returns_move (setFiber_self _ _ _) (Or.inr hkind) ?_
    rw [show returns (s.fiber g) o = some o.checked by rw [returns, hpc], ConnectOutcome.checked,
      ← hcancelled, if_neg fun h => h hunset]
    rfl
  | unadded g errno hpc hkind =>
    -- `do_io` only
    obtain rfl := Option.some.inj hl
    rw [h.kind hpc (by decide)] at hkind
    cases hkind
  | retried g hpc hunset hkind =>
    obtain rfl := Option.some.inj hl
    rw [h.kind hpc (by decide)] at hkind
    cases hkind
  | unanswered g e error hpc =>
    obtain rfl := Option.some.inj hl
    obtain ⟨hanswer, _⟩ := hanswered rfl
    refine returns_move (setFiber_self _ _ _) (Or.inl rfl) ?_
    rw [show returns (s.fiber g) o = some o.asked by rw [returns, hpc], ConnectOutcome.asked,
      ← hanswer]
    rfl
  | answered g n error hpc =>
    obtain rfl := Option.some.inj hl
    obtain ⟨hanswer, rfl⟩ := hanswered rfl
    refine returns_move (setFiber_self _ _ _) (Or.inl rfl) ?_
    rw [show returns (s.fiber g) o = some o.asked by rw [returns, hpc], ConnectOutcome.asked,
      ← hanswer]
    rfl
  | expired | fired | late | cancelFound | cancelTooShort | cancelLocked | reported => cases hl

/-- A call that the steps of a run answer with `o` returns what
    `connect_with_timeout` returns for it. -/
theorem connect_returns {self : SchedulerId} {s₀ s₁ s : Hook} {f : FiberId} {fd : Int}
    {event : Event} {timeout : Option Nat} {t_hook_enable : Bool} {ctx : Option FdCtx}
    {o : ConnectOutcome} {tr : List (Hook × HookLabel)}
    (hcall : s₀.next self (.call f .connect fd event timeout t_hook_enable ctx o.connect_f) =
      some s₁)
    (hrun : Run (hooks self) s₁ tr s) (hanswered : ∀ p ∈ tr, Answered self f o p.1 p.2)
    (hout : (s.fiber f).pc = .outside) :
    (s.fiber f).result = some (connect_with_timeout t_hook_enable ctx o) := by
  have hbegin : Connecting (s₁.fiber f) ∧
      returns (s₁.fiber f) o = some (connect_with_timeout t_hook_enable ctx o) := by
    simp only [next] at hcall
    unfold connect_with_timeout
    split at hcall
    · split at hcall
      · rename_i hentry
        obtain rfl := Option.some.inj hcall
        rw [ret, setFiber_self, show connect_entry t_hook_enable ctx = _ from hentry]
        exact ⟨Or.inl rfl, rfl⟩
      · rename_i hentry
        obtain rfl := Option.some.inj hcall
        rw [ret, setFiber_self, show connect_entry t_hook_enable ctx = _ from hentry]
        exact ⟨Or.inl rfl, rfl⟩
      · rename_i hentry
        obtain rfl := Option.some.inj hcall
        rw [setFiber_self, show connect_entry t_hook_enable ctx = _ from hentry]
        exact ⟨Or.inr rfl, rfl⟩
    · cases hcall
  -- every step of f either returns this value or leads on to one that does
  have hend := hrun.guarded_invariant (G := Answered self f o)
    (I := fun s => Connecting (s.fiber f) ∧
      returns (s.fiber f) o = some (connect_with_timeout t_hook_enable ctx o))
    (fun s l t h hl hnext => by
      obtain ⟨hconnecting, hreturns⟩ := returns_next h.1 hl hnext
      exact ⟨hconnecting, hreturns.trans h.2⟩)
    hanswered hbegin
  have hreturns := hend.2
  rw [returns, hout] at hreturns
  exact hreturns

end Hook

/-! ## Section 4: Every outcome -/

/-- The fiber is woken, or not registered at all, and the connection is in
    progress. -/
def wokenEarly (wake : WakeUp) (addEvent : Int) : ConnectOutcome :=
  ⟨.error EINPROGRESS, addEvent, wake, 0, .value 0, .inProgress⟩

/-- It can happen, unless the timer is what wakes the fiber. -/
theorem wokenEarly_possible {wake : WakeUp} (h : wake ≠ .timer) (addEvent : Int) :
    (wokenEarly wake addEvent).Possible (some 5000) :=
  ⟨Or.inr ⟨_, rfl⟩, (fun _ h => by cases h), Or.inl rfl, fun hwake => absurd hwake h⟩

/-- The call returns 0 all the same, and `m_isConnected` is set. -/
theorem wokenEarly_dishonest {wake : WakeUp} {addEvent : Int} (hwake : wake ≠ .timer)
    (hadd : addEvent = 0 ∨ addEvent = -1) :
    (wokenEarly wake addEvent).Possible (some 5000) ∧
      Socket.connect ⟨7, false⟩ 0 true true (some ⟨false, true, false⟩)
        (wokenEarly wake addEvent) = (⟨7, true⟩, true) ∧
      ¬ ConnectHonest true (some ⟨false, true, false⟩) (wokenEarly wake addEvent) := by
  have hset : Socket.connect ⟨7, false⟩ 0 true true (some ⟨false, true, false⟩)
      (wokenEarly wake addEvent) = (⟨7, true⟩, true) := by
    rcases hadd with rfl | rfl <;> rfl
  refine ⟨wokenEarly_possible hwake addEvent, hset, ?_⟩
  rintro ⟨-, hsockets⟩
  rcases hsockets ⟨7, false⟩ 0 true (congrArg (fun r => r.1.isConnected) hset) with
    hold | hconnect | hlink
  · cases hold
  · cases hconnect
  · cases hlink

end MNSER
