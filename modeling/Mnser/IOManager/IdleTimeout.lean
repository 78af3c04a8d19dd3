import Mnser.Timer.Notify

/-! # How long `idle` blocks in `epoll_wait`

    `stopping(next_timeout)` leaves in `next_timeout` what `getNextTimer`
    answers, a `uint64_t`.  The `do` loop of `idle` clamps it in place and
    hands it to `epoll_wait` as an `int`; after `EINTR` it clamps what the
    round before has left. -/

namespace MNSER

open LTS

/-! ## Section 1: The `do` loop -/

def MAX_TIMEOUT : Nat := 3000

/-- What one round of the loop leaves in `next_timeout`. -/
def clampTimeout (next_timeout : Nat) : Nat :=
  if next_timeout ≠ 2 ^ 64 - 1 then
    if wrap32 next_timeout > MAX_TIMEOUT then MAX_TIMEOUT else next_timeout
  else MAX_TIMEOUT

/-- `next_timeout` in the call of `epoll_wait` behind `retries` interrupted ones. -/
def waitTimeout (next_timeout : Nat) : (retries : Nat) → Nat
  | 0           => clampTimeout next_timeout
  | retries + 1 => clampTimeout (waitTimeout next_timeout retries)

/-- The last argument of that `epoll_wait`. -/
def epollTimeout (next_timeout retries : Nat) : Int :=
  wrap32 (waitTimeout next_timeout retries)

/-- The arguments `idle` hands to `epoll_wait` after `getNextTimer` at clock reading `now`. -/
def idleTimeout {Callback : Type} (m : TimerManager Callback) (now retries : Nat) : Int :=
  epollTimeout (m.getNextTimer now).2 retries

/-! ## Section 2: One round -/

/-- An `int` made of a `uint64_t` is the low half of it, the upper half of that negative. -/
theorem wrap32_low (n : Nat) :
    wrap32 n = if n % 2 ^ 32 < 2 ^ 31 then (n % 2 ^ 32 : Int) else (n % 2 ^ 32 : Int) - 2 ^ 32 := by
  rw [wrap32, Int.bmod_def]
  split <;> split <;> omega

/-- A clamped value is not clamped again. -/
theorem clampTimeout_idem (n : Nat) : clampTimeout (clampTimeout n) = clampTimeout n := by
  have hmax : clampTimeout MAX_TIMEOUT = MAX_TIMEOUT := by decide
  by_cases hn : n = 2 ^ 64 - 1
  · rw [hn]
    exact hmax
  · by_cases hlong : wrap32 n > MAX_TIMEOUT
    · rw [clampTimeout.eq_def n, if_pos hn, if_pos hlong]
      exact hmax
    · have hself : clampTimeout n = n := by rw [clampTimeout, if_pos hn, if_neg hlong]
      rw [hself, hself]

/-- Every retry waits as long as the first call. -/
theorem waitTimeout_eq (n retries : Nat) : waitTimeout n retries = clampTimeout n := by
  induction retries with
  | zero => rfl
  | succ retries ih => rw [waitTimeout, ih, clampTimeout_idem]

/-- Three kinds of values: no timer or far away, soon, and those whose low half
    is a negative `int`. -/
theorem epollTimeout_eq (n retries : Nat) :
    epollTimeout n retries =
      if n = 2 ^ 64 - 1 ∨ MAX_TIMEOUT < wrap32 n then (MAX_TIMEOUT : Int) else wrap32 n := by
  have hmax : wrap32 MAX_TIMEOUT = MAX_TIMEOUT := by decide
  rw [epollTimeout, waitTimeout_eq, clampTimeout]
  by_cases hn : n = 2 ^ 64 - 1
  · rw [if_neg (not_not.mpr hn), if_pos (Or.inl hn), hmax]
  · rw [if_pos hn]
    by_cases hlong : wrap32 n > MAX_TIMEOUT
    · rw [if_pos hlong, if_pos (Or.inr hlong), hmax]
    · rw [if_neg hlong, if_neg (not_or.mpr ⟨hn, hlong⟩)]

/-! ## Section 3: The bounds -/

/-- Every argument is between 0 and 3000 and no longer than the distance to the
    next deadline, exactly if there is no timer or the low half of the distance
    is not negative as an `int`. -/
theorem epoll_timeout_bounded_iff {next_timeout : Nat} (h : next_timeout < 2 ^ 64) :
    (∀ retries, 0 ≤ epollTimeout next_timeout retries ∧
      epollTimeout next_timeout retries ≤ 3000 ∧
      epollTimeout next_timeout retries ≤ next_timeout) ↔
    next_timeout = 2 ^ 64 - 1 ∨ next_timeout % 2 ^ 32 < 2 ^ 31 := by
  have hlow := wrap32_low next_timeout
  have hmax : (MAX_TIMEOUT : Int) = 3000 := rfl
  constructor
  · intro hbounds
    have hpos := (hbounds 0).1
    rw [epollTimeout_eq] at hpos
    by_contra hcon
    obtain ⟨hsome, hhalf⟩ := not_or.mp hcon
    rw [if_neg hhalf] at hlow
    split at hpos <;> omega
  · intro hcond retries
    rw [epollTimeout_eq]
    split <;> split at hlow <;> omega

/-- No timer, a timer due in 1500 ms, and one due in 2 ^ 32 + 7 ms. -/
theorem epoll_timeout_bounded_samples :
    epollTimeout (2 ^ 64 - 1) 2 ≤ (2 ^ 64 - 1 : Nat) ∧ epollTimeout 1500 0 ≤ (1500 : Nat) ∧
      epollTimeout (2 ^ 32 + 7) 1 ≤ (2 ^ 32 + 7 : Nat) := by
  refine ⟨?_, ?_, ?_⟩
  · exact ((epoll_timeout_bounded_iff (by decide)).mpr (by decide) 2).2.2
  · exact ((epoll_timeout_bounded_iff (by decide)).mpr (by decide) 0).2.2
  · exact ((epoll_timeout_bounded_iff (by decide)).mpr (by decide) 1).2.2

/-- The only timer is due in 2 ^ 31 ms, about 25 days: `epoll_wait` has no timeout. -/
theorem epoll_timeout_unbounded :
    ∃ s tr, Run (timers Nat) (Timers.start Nat 3600000) tr s ∧
      (s.manager.getNextTimer 3600000).2 = 2 ^ 31 ∧
      ∀ retries, idleTimeout s.manager 3600000 retries = -2 ^ 31 := by
  have hrun := (timers Nat).run_of_exec (s := Timers.start Nat 3600000)
    [.construct (2 ^ 31) (some 7) false 4096 3600000, .insert 0] rfl
  refine ⟨_, _, hrun, by decide, fun retries => ?_⟩
  rw [idleTimeout, epollTimeout, waitTimeout_eq]
  decide

end MNSER
