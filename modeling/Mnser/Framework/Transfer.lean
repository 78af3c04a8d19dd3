import Mathlib.Data.Nat.Basic

/-! # Transfers in pieces

    A call that is asked for some bytes moves some of them, and its result is
    their number; a result that is not positive says that it failed.  The loop
    calls it for what is left, until nothing is left or a call fails. -/

namespace Transfer

universe u v

variable {σ : Type u} {ε : Type v}

/-- What is asked for, and the state. -/
abbrev Call (σ : Type u) (ε : Type v) : Type (max u v) := Nat → σ → Except ε (Int × σ)

/-- The loop; gives the result of the call that failed, if one did. -/
def loop (call : Call σ ε) (left : Int) (s : σ) : Except ε (Option Int × σ) :=
  if 0 < left then
    match call left.toNat s with
    | .error e => .error e
    | .ok (len, s) => if len ≤ 0 then .ok (some len, s) else loop call (left - len) s
  else .ok (none, s)
termination_by left.toNat

/-- No call fails before all is there. -/
inductive Completes (call : Call σ ε) : Nat → σ → Prop where
  | done : ∀ {s : σ}, Completes call 0 s
  | step : ∀ {n : Nat} {s s' : σ} {len : Int}, 0 < n → call n s = .ok (len, s') → 0 < len →
      Completes call (n - len.toNat) s' → Completes call n s

/-- A call gives no more than it is asked for, and keeps what holds of the
    results so far, the number of bytes so far, and the state. -/
def Progress (call : Call σ ε) (I : List Int → Nat → σ → Prop) : Prop :=
  ∀ (rs : List Int) (k : Nat) (s : σ) (n : Nat), 0 < n → I rs k s →
    ∃ len s', call n s = .ok (len, s') ∧ len ≤ n ∧ I (rs ++ [len]) (k + len.toNat) s'

/-- What every call keeps can be carried along. -/
theorem Progress.frame {call : Call σ ε} {I : List Int → Nat → σ → Prop} {J : σ → Prop}
    (hprogress : Progress call I)
    (hframe : ∀ {n : Nat} {s s' : σ} {len : Int}, call n s = .ok (len, s') → J s → J s') :
    Progress call fun rs k s => I rs k s ∧ J s := by
  intro rs k s n hn hI
  obtain ⟨len, s', hcall, hle, hI'⟩ := hprogress rs k s n hn hI.1
  exact ⟨len, s', hcall, hle, hI', hframe hcall hI.2⟩

theorem completes_iff {call : Call σ ε} {n : Nat} {s s' : σ} {len : Int} (hn : 0 < n)
    (hcall : call n s = .ok (len, s')) :
    Completes call n s ↔ 0 < len ∧ Completes call (n - len.toNat) s' := by
  constructor
  · intro h
    cases h with
    | done => exact absurd hn (Nat.lt_irrefl 0)
    | step _ hcall' hlen hrest =>
      rw [hcall] at hcall'
      cases hcall'
      exact ⟨hlen, hrest⟩
  · rintro ⟨hlen, hrest⟩
    exact .step hn hcall hlen hrest

theorem loop_of_nonpos {call : Call σ ε} {left : Int} (h : left ≤ 0) (s : σ) :
    loop call left s = .ok (none, s) := by
  rw [loop, if_neg (by omega)]

theorem loop_of_pos {call : Call σ ε} {n : Nat} {s s' : σ} {len : Int} (hn : 0 < n)
    (hcall : call n s = .ok (len, s')) :
    loop call n s = if len ≤ 0 then .ok (some len, s') else loop call (n - len) s' := by
  rw [loop, if_pos (by omega), Int.toNat_natCast, hcall]

/-- How the loop ends: with everything, or with the call that failed. -/
inductive Ending (call : Call σ ε) (n : Nat) (s : σ) : Option Int → List Int → Nat → Prop where
  | all  : ∀ {rs : List Int}, Completes call n s → Ending call n s none rs n
  | fail : ∀ {len : Int} {rs : List Int} {k : Nat}, ¬ Completes call n s → len ≤ 0 → k < n →
      Ending call n s (some len) (rs ++ [len]) k

/-- By induction on what is left. -/
theorem loop_spec {call : Call σ ε} {I : List Int → Nat → σ → Prop} (hprogress : Progress call I)
    (n : Nat) : ∀ {rs : List Int} {k : Nat} {s : σ}, I rs k s →
      ∃ r s' rs' k', loop call n s = .ok (r, s') ∧ I (rs ++ rs') (k + k') s' ∧
        Ending call n s r rs' k' := by
  induction n using Nat.strongRecOn with
  | ind n ih =>
    intro rs k s hI
    by_cases hn : n = 0
    · subst hn
      refine ⟨none, s, [], 0, loop_of_nonpos (Int.le_refl 0) s, ?_, .all .done⟩
      simpa using hI
    · have hpos : 0 < n := Nat.pos_of_ne_zero hn
      obtain ⟨len, s', hcall, hle, hI'⟩ := hprogress rs k s n hpos hI
      have hloop := loop_of_pos hpos hcall
      have hcompletes := completes_iff hpos hcall
      by_cases hlen : len ≤ 0
      · -- the call that fails is the last one
        rw [if_pos hlen] at hloop
        refine ⟨some len, s', [len], 0, hloop, ?_, ?_⟩
        · rw [show len.toNat = 0 by omega] at hI'
          exact hI'
        · show Ending call n s (some len) ([] ++ [len]) 0
          refine .fail ?_ hlen hpos
          intro h
          have := (hcompletes.mp h).1
          omega
      · rw [if_neg hlen, show (n : Int) - len = ((n - len.toNat : Nat) : Int) by omega] at hloop
        obtain ⟨r, t, rs', k', hrest, hIt, hending⟩ := ih (n - len.toNat) (by omega) hI'
        refine ⟨r, t, len :: rs', len.toNat + k', hloop.trans hrest, ?_, ?_⟩
        · rw [List.append_assoc, Nat.add_assoc] at hIt
          exact hIt
        · cases hending with
          | all hall =>
            rw [show len.toNat + (n - len.toNat) = n by omega]
            exact .all (hcompletes.mpr ⟨by omega, hall⟩)
          | fail hfail hlast hlt =>
            rw [← List.cons_append]
            refine .fail ?_ hlast (by omega)
            intro h
            exact hfail (hcompletes.mp h).2

end Transfer
