import Mnser.Hook.Model
import Mnser.Timer.Model

/-! # The intervals the hooked calls hand to the timers

    `sleep`, `usleep` and `nanosleep` compute an interval in milliseconds and
    hand it to `addTimer`; `setsockopt` computes one and stores it in the
    `FdCtx`, where `do_io` finds it.  Each computation uses integer types of
    its own. -/

namespace MNSER

open LTS

variable {Callback : Type}

/-! ## Section 1: Sleeping -/

structure timespec where
  tv_sec  : Int
  tv_nsec : Int
  deriving DecidableEq, Repr

/-- `seconds * 1000` is computed in `unsigned int`. -/
def sleep_ms (seconds : Nat) : Option Nat := some (seconds * 1000 % 2 ^ 32)

def usleep_ms (usec : Nat) : Option Nat := some (usec / 1000)

/-- The sum is computed in `long`, stored in an `int` and converted to `uint64_t`. -/
def nanosleep_ms (req : timespec) : Option Nat := do
  let ms ← long? (req.tv_sec * 1000)
  let timeout_ms ← long? (ms + (req.tv_nsec.tdiv 1000).tdiv 1000)
  return unsigned64 (wrap32 timeout_ms)

/-- The timer a hooked sleep adds at clock reading `now`; `none` where the
    interval has no value.  The callback schedules the fiber. -/
def sleepTimer (m : TimerManager Callback) (ms : Option Nat) (schedule : Callback)
    (addr now : Nat) : Option (Timer Callback) :=
  ms.map fun ms =>
    let r := m.addTimer ms (some schedule) false addr now
    r.1.heap r.2.1

/-- The timer waits for at least `ns` nanoseconds, and its deadline is not
    before the clock reading it was made at. -/
def SleepsFor (ns : Int) (now : Nat) (timer : Option (Timer Callback)) : Prop :=
  ∃ t, timer = some t ∧ ns ≤ t.ms * 10 ^ 6 ∧ now ≤ t.next

/-- The milliseconds a `timespec` asks for. -/
def timespec.millis (req : timespec) : Int := req.tv_sec * 1000 + req.tv_nsec / 10 ^ 6

/-- What `nanosleep` is called with. -/
structure timespec.Valid (req : timespec) : Prop where
  sec  : 0 ≤ req.tv_sec
  nsec : 0 ≤ req.tv_nsec ∧ req.tv_nsec < 10 ^ 9

theorem addTimer_heap (m : TimerManager Callback) (ms : Nat) (cb : Option Callback)
    (recurring : Bool) (addr now : Nat) :
    (m.addTimer ms cb recurring addr now).1.heap (m.addTimer ms cb recurring addr now).2.1 =
      { recurring := recurring, ms := ms, next := add64 now ms, cb := cb, addr := addr } :=
  TimerManager.setTimer_self _ _ _

/-- A deadline behind the clock is one whose sum has wrapped around. -/
theorem le_add64_iff {now ms : Nat} (hnow : now < 2 ^ 64) (hms : ms < 2 ^ 64) :
    now ≤ add64 now ms ↔ now + ms < 2 ^ 64 := by
  unfold add64
  omega

theorem sleepsFor_iff (m : TimerManager Callback) (schedule : Callback) (addr : Nat) {now ms : Nat}
    (hnow : now < 2 ^ 64) (hms : ms < 2 ^ 64) (ns : Int) :
    SleepsFor ns now (sleepTimer m (some ms) schedule addr now) ↔
      ns ≤ ms * 10 ^ 6 ∧ now + ms < 2 ^ 64 := by
  rw [← le_add64_iff hnow hms]
  simp only [SleepsFor, sleepTimer, Option.map_some, addTimer_heap, Option.some.injEq,
    exists_eq_left']

theorem not_sleepsFor_none (m : TimerManager Callback) (schedule : Callback) (addr now : Nat)
    (ns : Int) : ¬ SleepsFor ns now (sleepTimer m none schedule addr now) := by
  rintro ⟨_, h, _⟩
  cases h

theorem nanosleep_ms_eq {req : timespec} (h : req.Valid) :
    nanosleep_ms req =
      if req.millis < 2 ^ 63 then some (unsigned64 (wrap32 req.millis)) else none := by
  obtain ⟨hsec, hnsec, _⟩ := h
  have hquot : (req.tv_nsec.tdiv 1000).tdiv 1000 = req.tv_nsec / 10 ^ 6 := by
    rw [Int.tdiv_eq_ediv_of_nonneg hnsec,
      Int.tdiv_eq_ediv_of_nonneg (Int.ediv_nonneg hnsec (by decide))]
    omega
  have hpart : 0 ≤ req.tv_nsec / 10 ^ 6 := Int.ediv_nonneg hnsec (by decide)
  rw [nanosleep_ms, hquot, timespec.millis]
  by_cases hlong : req.tv_sec * 1000 + req.tv_nsec / 10 ^ 6 < 2 ^ 63
  · rw [if_pos hlong, long?_of_lt (by omega) (by omega)]
    show (long? _).bind _ = _
    rw [long?_of_lt (by omega) hlong]
    rfl
  · rw [if_neg hlong]
    by_cases hprod : req.tv_sec * 1000 < 2 ^ 63
    · rw [long?_of_lt (by omega) hprod]
      show (long? _).bind _ = _
      rw [long?_of_le (by omega)]
      rfl
    · rw [long?_of_le (by omega)]
      rfl

/-- The condition for `nanosleep`: the interval fits in an `int` and has no
    part below a millisecond; or its low half is a negative `int`, which is
    close to `2 ^ 64` as an interval, and the clock is that close to the epoch. -/
def NanosleepExact (req : timespec) (now : Nat) : Prop :=
  (req.millis < 2 ^ 31 ∧ 10 ^ 6 ∣ req.tv_nsec ∧ now + req.millis < 2 ^ 64) ∨
  (req.millis < 2 ^ 63 ∧ 2 ^ 31 ≤ req.millis % 2 ^ 32 ∧ now < 2 ^ 32 - req.millis % 2 ^ 32)

instance (req : timespec) (now : Nat) : Decidable (NanosleepExact req now) :=
  inferInstanceAs (Decidable (_ ∨ _))

theorem nanosleep_iff (m : TimerManager Callback) (schedule : Callback) (addr : Nat) {now : Nat}
    (hnow : now < 2 ^ 64) {req : timespec} (h : req.Valid) :
    SleepsFor (req.tv_sec * 10 ^ 9 + req.tv_nsec) now
        (sleepTimer m (nanosleep_ms req) schedule addr now) ↔
      NanosleepExact req now := by
  obtain ⟨hsec, hnsec, hlt⟩ := id h
  have hmillis : req.millis = req.tv_sec * 1000 + req.tv_nsec / 10 ^ 6 := rfl
  rw [nanosleep_ms_eq h, NanosleepExact]
  by_cases hlong : req.millis < 2 ^ 63
  · rw [if_pos hlong]
    -- timeout_ms is an int
    have hwrap : wrap32 req.millis =
        if req.millis % 2 ^ 32 < 2 ^ 31 then req.millis % 2 ^ 32
        else req.millis % 2 ^ 32 - 2 ^ 32 := by
      rw [wrap32, Int.bmod_def]
      split <;> split <;> omega
    have hbound : unsigned64 (wrap32 req.millis) < 2 ^ 64 := by
      unfold unsigned64
      omega
    rw [sleepsFor_iff m schedule addr hnow hbound]
    by_cases hneg : req.millis % 2 ^ 32 < 2 ^ 31
    · -- the `int` is the low half
      rw [if_pos hneg] at hwrap
      rw [hwrap, unsigned64_of_lt (by omega) (by omega)]
      omega
    · -- the `int` is negative
      rw [if_neg hneg] at hwrap
      have hvalue : (unsigned64 (wrap32 req.millis) : Int) =
          req.millis % 2 ^ 32 - 2 ^ 32 + 2 ^ 64 := by
        rw [hwrap, unsigned64]
        omega
      omega
  · rw [if_neg hlong]
    refine iff_of_false (not_sleepsFor_none m schedule addr now _) ?_
    omega

/-- Each of the three sleeps long enough exactly under its condition. -/
theorem sleeps_long_enough_iff (m : TimerManager Callback) (schedule : Callback) (addr : Nat)
    {now seconds usec : Nat} {req : timespec} (hnow : now < 2 ^ 64) (hsec : seconds < 2 ^ 32)
    (husec : usec < 2 ^ 32) (hreq : req.Valid) :
    (SleepsFor (seconds * 10 ^ 9) now (sleepTimer m (sleep_ms seconds) schedule addr now) ↔
      seconds * 1000 < 2 ^ 32 ∧ now + seconds * 1000 < 2 ^ 64) ∧
    (SleepsFor (usec * 10 ^ 3) now (sleepTimer m (usleep_ms usec) schedule addr now) ↔
      1000 ∣ usec ∧ now + usec / 1000 < 2 ^ 64) ∧
    (SleepsFor (req.tv_sec * 10 ^ 9 + req.tv_nsec) now
        (sleepTimer m (nanosleep_ms req) schedule addr now) ↔
      NanosleepExact req now) := by
  refine ⟨?_, ?_, nanosleep_iff m schedule addr hnow hreq⟩
  · rw [sleep_ms, sleepsFor_iff m schedule addr hnow (by omega)]
    omega
  · rw [usleep_ms, sleepsFor_iff m schedule addr hnow (by omega)]
    omega

/-- 2 s, 3000 us and 1 s 5 ms, one day after the epoch. -/
theorem sleeps_long_enough_iff_exact :
    let m : TimerManager Nat := .init 86400000
    SleepsFor (2 * 10 ^ 9) 86400000 (sleepTimer m (sleep_ms 2) 7 4096 86400000) ∧
    SleepsFor (3000 * 10 ^ 3) 86400000 (sleepTimer m (usleep_ms 3000) 7 4096 86400000) ∧
    SleepsFor (1 * 10 ^ 9 + 5000000) 86400000
      (sleepTimer m (nanosleep_ms ⟨1, 5000000⟩) 7 4096 86400000) := by
  have h := @sleeps_long_enough_iff Nat (.init 86400000) 7 4096 86400000 2 3000 ⟨1, 5000000⟩
    (by decide) (by decide) (by decide) ⟨by decide, by decide⟩
  exact ⟨h.1.mpr (by decide), h.2.1.mpr (by decide), h.2.2.mpr (by decide)⟩

/-- `sleep` for 50 days sleeps less than an hour, `usleep` for half a millisecond
    not at all, and the deadline of `nanosleep` for 25 days is in the past. -/
theorem sleeps_cut_short :
    let m : TimerManager Nat := .init 1700000000000
    ¬ SleepsFor (4320000 * 10 ^ 9) 1700000000000
        (sleepTimer m (sleep_ms 4320000) 7 4096 1700000000000) ∧
    ¬ SleepsFor (500 * 10 ^ 3) 1700000000000
        (sleepTimer m (usleep_ms 500) 7 4096 1700000000000) ∧
    ¬ SleepsFor (2160000 * 10 ^ 9 + 0) 1700000000000
        (sleepTimer m (nanosleep_ms ⟨2160000, 0⟩) 7 4096 1700000000000) := by
  refine ⟨?_, ?_, ?_⟩ <;> rintro ⟨t, h, hns, hnext⟩ <;> cases h <;> revert hns hnext <;> decide

/-! ## Section 2: The timeouts of a socket -/

def SOL_SOCKET  : Int := 1
def SO_RCVTIMEO : Int := 20
def SO_SNDTIMEO : Int := 21

structure timeval where
  tv_sec  : Int
  tv_usec : Int
  deriving DecidableEq, Repr

/-- The timeouts of an `FdCtx`; `2 ^ 64 - 1`, that is -1, where there is none. -/
structure FdTimeouts where
  recvTimeout : Nat
  sendTimeout : Nat
  deriving DecidableEq, Repr

namespace FdTimeouts

def setTimeout (c : FdTimeouts) (type : Int) (v : Nat) : FdTimeouts :=
  if type = SO_RCVTIMEO then { c with recvTimeout := v } else { c with sendTimeout := v }

def getTimeout (c : FdTimeouts) (type : Int) : Nat :=
  if type = SO_RCVTIMEO then c.recvTimeout else c.sendTimeout

end FdTimeouts

/-- `v->tv_sec * 1000 + v->tv_usec / 1000`, computed in `long`. -/
def timeval_ms (v : timeval) : Option Nat := do
  let ms ← long? (v.tv_sec * 1000)
  let sum ← long? (ms + v.tv_usec.tdiv 1000)
  return unsigned64 sum

/-- What `setsockopt` is called with. -/
structure SockoptCall where
  level   : Int
  optname : Int
  optval  : timeval
  /-- the answer of `setsockopt_f` -/
  rt      : SysResult
  deriving DecidableEq, Repr

/-- Hooked `setsockopt`: the `FdCtx` afterwards and the result; `none` where the
    interval has no value. -/
def setsockopt (t_hook_enable : Bool) (ctx : Option FdTimeouts) (call : SockoptCall) :
    Option (Option FdTimeouts × SysResult) :=
  if !t_hook_enable then some (ctx, call.rt)
  else if call.level = SOL_SOCKET ∧
      (call.optname = SO_RCVTIMEO ∨ call.optname = SO_SNDTIMEO) then
    match ctx with
    | none   => some (none, call.rt)
    | some c => (timeval_ms call.optval).map fun ms => (some (c.setTimeout call.optname ms), call.rt)
  else some (ctx, call.rt)

/-- `to` in `do_io`, `none` for `(uint64_t)-1`. -/
def do_io_timeout (c : FdTimeouts) (timeout_so : Int) : Option Nat :=
  if c.getTimeout timeout_so = 2 ^ 64 - 1 then none else some (c.getTimeout timeout_so)

/-- The interval of the timer a fiber waits with. -/
def Hook.armed (s : Hook) (f : FiberId) : Option Nat :=
  (s.fiber f).timer.bind fun i => (s.timer i).map IoTimer.ms

/-- `do_io` on a user-blocking socket up to its first wait: `fun` answers
    `EAGAIN`, and the timer is armed. -/
def do_io_waits (f : FiberId) (fd : Int) (event : Event) (c : FdTimeouts) (timeout_so : Int) :
    List HookLabel :=
  [.call f .do_io fd event (do_io_timeout c timeout_so) true (some ⟨false, true, false⟩) (.value 0),
   .attempt f (.error EAGAIN), .arm f]

/-- Later calls of `setsockopt` on the same descriptor. -/
def setsockopts (ctx : Option FdTimeouts) (calls : List SockoptCall) :
    Option (Option FdTimeouts) :=
  calls.foldlM (fun ctx call => (setsockopt true ctx call).map Prod.fst) ctx

def timeval.usecs (v : timeval) : Int := v.tv_sec * 10 ^ 6 + v.tv_usec

def timeval.millis (v : timeval) : Int := v.tv_sec * 1000 + v.tv_usec / 1000

structure timeval.Valid (v : timeval) : Prop where
  sec  : 0 ≤ v.tv_sec
  usec : 0 ≤ v.tv_usec ∧ v.tv_usec < 10 ^ 6

/-- As the native call waits with the timeout `v`: for ever when it is zero,
    otherwise not less than `v`. -/
def WaitsFor (v : timeval) (armed : Option Nat) : Prop :=
  (v.usecs = 0 → armed = none) ∧
  (v.usecs ≠ 0 → ∃ ms, armed = some ms ∧ v.usecs ≤ ms * 1000)

/-- What a call that sets a timeout is to do: if `setsockopt_f` fails, nothing;
    otherwise every later `do_io` waits that long, whatever was set on the
    descriptor since, this timeout apart. -/
def TimeoutKept (c : FdTimeouts) (call : SockoptCall) : Prop :=
  ∃ c', setsockopt true (some c) call = some (some c', call.rt) ∧
    (∀ e, call.rt = .error e → c' = c) ∧
    ∀ n, call.rt = .value n → ∀ later c'',
      (∀ l ∈ later, ¬ (l.level = SOL_SOCKET ∧ l.optname = call.optname)) →
      setsockopts (some c') later = some (some c'') →
      ∀ self s f fd event, (s.fiber f).pc = .outside →
        ∃ t, (hooks self).exec s (do_io_waits f fd event c'' call.optname) = some t ∧
          WaitsFor call.optval (t.armed f)

/-- The timer of the first wait is armed with what `do_io` found in the `FdCtx`. -/
theorem do_io_armed (self : SchedulerId) {s : Hook} {f : FiberId} (h : (s.fiber f).pc = .outside)
    (fd : Int) (event : Event) (c : FdTimeouts) (timeout_so : Int) :
    ∃ t, (hooks self).exec s (do_io_waits f fd event c timeout_so) = some t ∧
      t.armed f = do_io_timeout c timeout_so := by
  let x : IoFiber := ⟨.attempting, .do_io, fd, event, do_io_timeout c timeout_so, s.infos, 0, none,
    (s.fiber f).result⟩
  let s₁ : Hook := { s with infos := s.infos + 1 }.setFiber f x
  let s₂ : Hook := s₁.goto f .arming
  have hcall : (hooks self).next s (.call f .do_io fd event (do_io_timeout c timeout_so) true
      (some ⟨false, true, false⟩) (.value 0)) = some s₁ := if_pos h
  have hx₁ : s₁.fiber f = x := by simp [s₁, Hook.setFiber]
  have hattempt : (hooks self).next s₁ (.attempt f (.error EAGAIN)) = some s₂ := by
    simp only [hooks, Hook.next, hx₁]
    rfl
  have hx₂ : s₂.fiber f = { x with pc := .arming } := by simp [s₂, Hook.goto, Hook.setFiber, hx₁]
  have harm : ∃ t, (hooks self).next s₂ (.arm f) = some t ∧
      t.armed f = do_io_timeout c timeout_so := by
    simp only [hooks, Hook.next, hx₂, x]
    cases do_io_timeout c timeout_so with
    | none => exact ⟨_, rfl, by simp [Hook.armed, Hook.setFiber]⟩
    | some ms => exact ⟨_, rfl, by simp [Hook.armed, Hook.setFiber, Hook.setTimer]⟩
  obtain ⟨t, hlast, harmed⟩ := harm
  refine ⟨t, ?_, harmed⟩
  simp only [do_io_waits, System.exec, hcall, hattempt, hlast, Option.bind_some]

theorem timeval_ms_eq {v : timeval} (h : v.Valid) :
    timeval_ms v = if v.millis < 2 ^ 63 then some v.millis.toNat else none := by
  obtain ⟨hsec, husec, _⟩ := h
  have hpart : 0 ≤ v.tv_usec / 1000 := Int.ediv_nonneg husec (by decide)
  rw [timeval_ms, timeval.millis, Int.tdiv_eq_ediv_of_nonneg husec]
  by_cases hlong : v.tv_sec * 1000 + v.tv_usec / 1000 < 2 ^ 63
  · rw [if_pos hlong, long?_of_lt (by omega) (by omega)]
    show (long? _).bind _ = _
    rw [long?_of_lt (by omega) hlong]
    show some (unsigned64 _) = _
    rw [unsigned64_of_lt (by omega) (by omega)]
  · rw [if_neg hlong]
    by_cases hprod : v.tv_sec * 1000 < 2 ^ 63
    · rw [long?_of_lt (by omega) hprod]
      show (long? _).bind _ = _
      rw [long?_of_le (by omega)]
      rfl
    · rw [long?_of_le (by omega)]
      rfl

theorem FdTimeouts.getTimeout_setTimeout (c : FdTimeouts) (type : Int) (v : Nat) :
    (c.setTimeout type v).getTimeout type = v := by
  unfold setTimeout getTimeout
  split <;> rfl

/-- One direction does not touch the other. -/
theorem FdTimeouts.getTimeout_setTimeout_ne (c : FdTimeouts) {type type' : Int} (v : Nat)
    (htype : type = SO_RCVTIMEO ∨ type = SO_SNDTIMEO)
    (htype' : type' = SO_RCVTIMEO ∨ type' = SO_SNDTIMEO) (hne : type' ≠ type) :
    (c.setTimeout type' v).getTimeout type = c.getTimeout type := by
  rcases htype with rfl | rfl <;> rcases htype' with rfl | rfl
  · exact absurd rfl hne
  · rfl
  · rfl
  · exact absurd rfl hne

/-- Storing the timeout that is there changes nothing. -/
theorem FdTimeouts.setTimeout_eq_self_iff (c : FdTimeouts) {type : Int} {v : Nat} :
    c.setTimeout type v = c ↔ c.getTimeout type = v := by
  obtain ⟨recv, send⟩ := c
  unfold setTimeout getTimeout
  split <;> simp [eq_comm]

theorem getTimeout_setsockopt {c c' : FdTimeouts} {type : Int} {l : SockoptCall} {rt : SysResult}
    (htype : type = SO_RCVTIMEO ∨ type = SO_SNDTIMEO)
    (hother : ¬ (l.level = SOL_SOCKET ∧ l.optname = type))
    (h : setsockopt true (some c) l = some (some c', rt)) :
    c'.getTimeout type = c.getTimeout type := by
  simp only [setsockopt, Bool.not_true, Bool.false_eq_true, if_false] at h
  split at h
  · rename_i htimeout
    obtain ⟨ms, _, heq⟩ := Option.map_eq_some_iff.mp h
    obtain ⟨hc', _⟩ := Prod.mk.inj heq
    obtain rfl := Option.some.inj hc'
    exact c.getTimeout_setTimeout_ne ms htype htimeout.2 fun heq => hother ⟨htimeout.1, heq⟩
  · obtain ⟨hc', _⟩ := Prod.mk.inj (Option.some.inj h)
    rw [Option.some.inj hc']

/-- The `FdCtx` stays; only `FdManager` removes it. -/
theorem setsockopt_some {c : FdTimeouts} {l : SockoptCall} {ctx : Option FdTimeouts}
    {rt : SysResult} (h : setsockopt true (some c) l = some (ctx, rt)) : ∃ c', ctx = some c' := by
  simp only [setsockopt, Bool.not_true, Bool.false_eq_true, if_false] at h
  split at h
  · obtain ⟨ms, _, heq⟩ := Option.map_eq_some_iff.mp h
    exact ⟨_, (Prod.mk.inj heq).1.symm⟩
  · exact ⟨_, (Prod.mk.inj (Option.some.inj h)).1.symm⟩

theorem getTimeout_setsockopts {type : Int} (htype : type = SO_RCVTIMEO ∨ type = SO_SNDTIMEO)
    {later : List SockoptCall} (hother : ∀ l ∈ later, ¬ (l.level = SOL_SOCKET ∧ l.optname = type)) :
    ∀ {c c' : FdTimeouts}, setsockopts (some c) later = some (some c') →
      c'.getTimeout type = c.getTimeout type := by
  induction later with
  | nil =>
    intro c c' h
    rw [Option.some.inj (Option.some.inj h)]
  | cons l later ih =>
    intro c c' h
    rw [setsockopts, List.foldlM_cons] at h
    obtain ⟨ctx, hl, hlater⟩ := Option.bind_eq_some_iff.mp h
    obtain ⟨⟨ctx', rt⟩, hset, rfl⟩ := Option.map_eq_some_iff.mp hl
    obtain ⟨c₁, rfl⟩ := setsockopt_some hset
    rw [ih (fun l hl => hother l (List.mem_cons_of_mem _ hl)) hlater,
      getTimeout_setsockopt htype (hother l List.mem_cons_self) hset]

/-- The stored timeout makes `do_io` wait as long as the native call exactly if
    it is not zero and has no part below a millisecond. -/
theorem waitsFor_iff {v : timeval} (h : v.Valid) {c : FdTimeouts} {timeout_so : Int}
    (hlong : v.millis < 2 ^ 63) (hc : c.getTimeout timeout_so = v.millis.toNat) :
    WaitsFor v (do_io_timeout c timeout_so) ↔ v.usecs ≠ 0 ∧ 1000 ∣ v.tv_usec := by
  obtain ⟨hsec, husec, _⟩ := h
  have hmillis : v.millis = v.tv_sec * 1000 + v.tv_usec / 1000 := rfl
  have husecs : v.usecs = v.tv_sec * 10 ^ 6 + v.tv_usec := rfl
  have harmed : do_io_timeout c timeout_so = some v.millis.toNat := by
    rw [do_io_timeout, hc, if_neg (by omega)]
  rw [WaitsFor, harmed]
  constructor
  · rintro ⟨hzero, hlater⟩
    have hne : v.usecs ≠ 0 := fun h0 => by cases hzero h0
    obtain ⟨ms, hms, hle⟩ := hlater hne
    obtain rfl := Option.some.inj hms
    exact ⟨hne, by omega⟩
  · rintro ⟨hne, hdvd⟩
    exact ⟨fun h0 => absurd h0 hne, fun _ => ⟨_, rfl, by omega⟩⟩

/-- The next `do_io`, nothing having been set in between. -/
theorem TimeoutKept.next_wait {c c' : FdTimeouts} {call : SockoptCall} (h : TimeoutKept c call)
    (hset : setsockopt true (some c) call = some (some c', call.rt)) {n : Int}
    (hn : call.rt = .value n) : WaitsFor call.optval (do_io_timeout c' call.optname) := by
  obtain ⟨c'', hcall, -, hwaits⟩ := h
  rw [hset] at hcall
  obtain rfl := Option.some.inj (Prod.mk.inj (Option.some.inj hcall)).1
  obtain ⟨t, hexec, hwait⟩ := hwaits n hn [] c' (by simp) rfl 0 Hook.start 0 5 .READ rfl
  obtain ⟨t', hexec', harmed⟩ := do_io_armed 0 (s := Hook.start) (f := 0) rfl 5 .READ c' call.optname
  rw [hexec] at hexec'
  obtain rfl := Option.some.inj hexec'
  rwa [harmed] at hwait

/-- The timeout is kept exactly if the interval can be computed and either the
    call succeeds with a timeout of whole milliseconds that is not zero, or it
    fails and the timeout was there before. -/
theorem socket_timeout_kept_iff (c : FdTimeouts) {call : SockoptCall}
    (hlevel : call.level = SOL_SOCKET)
    (hopt : call.optname = SO_RCVTIMEO ∨ call.optname = SO_SNDTIMEO) (hv : call.optval.Valid) :
    TimeoutKept c call ↔
      call.optval.millis < 2 ^ 63 ∧
      (∀ n, call.rt = .value n → call.optval.usecs ≠ 0 ∧ 1000 ∣ call.optval.tv_usec) ∧
      ∀ e, call.rt = .error e → c.getTimeout call.optname = call.optval.millis := by
  -- setTimeout comes before the call of the kernel, whatever that answers
  have hset : setsockopt true (some c) call =
      if call.optval.millis < 2 ^ 63 then
        some (some (c.setTimeout call.optname call.optval.millis.toNat), call.rt)
      else none := by
    have htimeout := timeval_ms_eq hv
    simp only [setsockopt, Bool.not_true, Bool.false_eq_true, if_false, if_pos (And.intro hlevel hopt),
      htimeout]
    split <;> rfl
  have hpos : 0 ≤ call.optval.millis := by
    obtain ⟨hsec, husec, _⟩ := hv
    unfold timeval.millis
    omega
  by_cases hlong : call.optval.millis < 2 ^ 63
  · rw [if_pos hlong] at hset
    have hget := c.getTimeout_setTimeout call.optname call.optval.millis.toNat
    constructor
    · intro hkept
      refine ⟨hlong, fun n hn => (waitsFor_iff hv hlong hget).mp (hkept.next_wait hset hn),
        fun e he => ?_⟩
      obtain ⟨c', hcall, hfail, -⟩ := hkept
      rw [hset] at hcall
      obtain rfl := Option.some.inj (Prod.mk.inj (Option.some.inj hcall)).1
      have hsame := c.setTimeout_eq_self_iff.mp (hfail e he)
      omega
    · rintro ⟨-, hvalue, herror⟩
      refine ⟨_, hset, fun e he => ?_, ?_⟩
      · have hsame := herror e he
        exact c.setTimeout_eq_self_iff.mpr (by omega)
      · intro n hn later c'' hother hlater self s f fd event hout
        obtain ⟨t, hexec, harmed⟩ := do_io_armed self hout fd event c'' call.optname
        refine ⟨t, hexec, ?_⟩
        rw [harmed]
        -- no other call has changed the option since
        have hkept := getTimeout_setsockopts hopt hother hlater
        exact (waitsFor_iff hv hlong (hkept.trans hget)).mpr (hvalue n hn)
  · rw [if_neg hlong] at hset
    refine iff_of_false ?_ fun h => hlong h.1
    rintro ⟨c', hcall, _⟩
    rw [hset] at hcall
    cases hcall

/-- 2 s 300 ms for reading. -/
theorem socket_timeout_kept_iff_whole :
    TimeoutKept ⟨2 ^ 64 - 1, 2 ^ 64 - 1⟩ ⟨SOL_SOCKET, SO_RCVTIMEO, ⟨2, 300000⟩, .value 0⟩ :=
  (socket_timeout_kept_iff _ rfl (Or.inl rfl) ⟨by decide, by decide⟩).mpr
    ⟨by decide, fun _ _ => ⟨by decide, by decide⟩, fun _ h => by cases h⟩

/-- A timeout of zero arms a timer of zero milliseconds, half a millisecond does
    the same, and a call that the system rejects still sets the timeout. -/
theorem socket_timeout_lost :
    let c : FdTimeouts := ⟨2 ^ 64 - 1, 2 ^ 64 - 1⟩
    ¬ TimeoutKept c ⟨SOL_SOCKET, SO_RCVTIMEO, ⟨0, 0⟩, .value 0⟩ ∧
    ¬ TimeoutKept c ⟨SOL_SOCKET, SO_SNDTIMEO, ⟨0, 500⟩, .value 0⟩ ∧
    ¬ TimeoutKept c ⟨SOL_SOCKET, SO_RCVTIMEO, ⟨2, 0⟩, .error EBADF⟩ := by
  refine ⟨fun h => ?_, fun h => ?_, fun h => ?_⟩
  · have hwait := h.next_wait rfl rfl
    exact absurd (hwait.1 rfl) (by decide)
  · obtain ⟨ms, hms, hle⟩ := (h.next_wait rfl rfl).2 (by decide)
    obtain rfl : 0 = ms := Option.some.inj hms
    exact absurd hle (by decide)
  · obtain ⟨c', hcall, hfail, -⟩ := h
    have hc' := hfail EBADF rfl
    subst hc'
    exact absurd hcall (by decide)

end MNSER
