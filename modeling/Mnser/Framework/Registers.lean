import Mnser.Framework.Scanner

/-! # Scans that start with other registers

    Two scans of a buffer whose registers differ.  Some registers are the same
    from the beginning, the others get the same as they are set; as long as
    call backs only use registers that are the same, so are the scans. -/

namespace Scanner

variable {σ β ρ κ S : Type} [DecidableEq ρ] {origin : ρ → Option ρ} {uses : κ → List ρ}
  {call : κ → List β → Nat → (ρ → Nat) → S → Option S} {δ : σ → β → Step σ (Act ρ κ)}

/-- The registers of `known` and those of `fresh` are the same. -/
structure Alike (known fresh : ρ → Bool) (regs₁ regs₂ : ρ → Nat) : Prop where
  known : ∀ r, known r = true → regs₁ r = regs₂ r
  fresh : ∀ r, fresh r = true → regs₁ r = regs₂ r

/-- Call backs read no other registers than those they use. -/
def Reads (uses : κ → List ρ) (call : κ → List β → Nat → (ρ → Nat) → S → Option S) : Prop :=
  ∀ k buf pos regs₁ regs₂ d, (∀ r ∈ uses k, regs₁ r = regs₂ r) →
    call k buf pos regs₁ d = call k buf pos regs₂ d

theorem Alike.move {known fresh fresh' : ρ → Bool} {regs₁ regs₂ : ρ → Nat} (pos : Nat)
    {a : Act ρ κ} (h : Alike known fresh regs₁ regs₂)
    (hknown : ∀ l r, origin l = some r → known l = true → known r = true)
    (hfresh : freshen origin uses a fresh = some fresh') :
    Alike known fresh' (move origin pos a regs₁) (move origin pos a regs₂) := by
  cases a with
  | mark r =>
    simp only [freshen] at hfresh
    split at hfresh
    · obtain rfl := Option.some.inj hfresh
      -- the register that is set is equal on both sides, the others are as before
      have hset : ∀ q, (q ≠ r → regs₁ q = regs₂ q) →
          Function.update regs₁ r pos q = Function.update regs₂ r pos q := by
        intro q hq
        by_cases hqr : q = r
        · rw [hqr, Function.update_self, Function.update_self]
        · rw [Function.update_of_ne hqr, Function.update_of_ne hqr, hq hqr]
      refine ⟨fun q hq => hset q fun _ => h.known q hq, fun q hq => hset q fun hqr => ?_⟩
      simp only [if_neg hqr] at hq
      split at hq
      · cases hq
      · exact h.fresh q hq
    · cases hfresh
  | measure l =>
    simp only [freshen] at hfresh
    cases horigin : origin l with
    | none =>
      rw [horigin] at hfresh
      cases hfresh
    | some r =>
      rw [horigin] at hfresh
      obtain rfl := Option.some.inj hfresh
      simp only [Scanner.move, horigin]
      have hset : ∀ q, (q = l → regs₁ r = regs₂ r) → (q ≠ l → regs₁ q = regs₂ q) →
          Function.update regs₁ l (pos - regs₁ r) q = Function.update regs₂ l (pos - regs₂ r) q := by
        intro q hl hq
        by_cases hql : q = l
        · rw [hql, Function.update_self, Function.update_self, hl hql]
        · rw [Function.update_of_ne hql, Function.update_of_ne hql, hq hql]
      refine ⟨fun q hq => hset q (fun hql => ?_) fun _ => h.known q hq, fun q hq => ?_⟩
      · exact h.known r (hknown l r horigin (hql ▸ hq))
      · refine hset q (fun hql => ?_) fun hql => ?_
        · rw [hql, Function.update_self] at hq
          exact h.fresh r hq
        · rw [Function.update_of_ne hql] at hq
          exact h.fresh q hq
  | call k =>
    simp only [freshen] at hfresh
    split at hfresh
    · obtain rfl := Option.some.inj hfresh
      exact h
    · cases hfresh

theorem perform_alike {known : ρ → Bool} (hreads : Reads uses call)
    (hknown : ∀ l r, origin l = some r → known l = true → known r = true) (buf : List β) (pos : Nat)
    (acts : List (Act ρ κ)) :
    ∀ {fresh fresh' : ρ → Bool} {regs₁ regs₂ : ρ → Nat} (d : S), Alike known fresh regs₁ regs₂ →
      track origin uses acts fresh = some fresh' →
      (perform origin call buf pos acts (regs₁, d) = none ∧
        perform origin call buf pos acts (regs₂, d) = none) ∨
      ∃ regs₁' regs₂' d', perform origin call buf pos acts (regs₁, d) = some (regs₁', d') ∧
        perform origin call buf pos acts (regs₂, d) = some (regs₂', d') ∧
        Alike known fresh' regs₁' regs₂' := by
  induction acts with
  | nil =>
    intro fresh fresh' regs₁ regs₂ d h htrack
    obtain rfl := Option.some.inj htrack
    exact Or.inr ⟨regs₁, regs₂, d, rfl, rfl, h⟩
  | cons a acts ih =>
    intro fresh fresh' regs₁ regs₂ d h htrack
    obtain ⟨fresh₁, hfresh, hrest⟩ := Option.bind_eq_some_iff.mp htrack
    have hmoved := h.move pos hknown hfresh
    cases a with
    | mark r => exact ih d hmoved hrest
    | measure l => exact ih d hmoved hrest
    | call k =>
      have huses : ∀ r ∈ uses k, regs₁ r = regs₂ r := by
        simp only [freshen] at hfresh
        split at hfresh
        · rename_i hall
          exact fun r hr => h.fresh r (hall r hr)
        · cases hfresh
      simp only [perform, hreads k buf pos regs₁ regs₂ d huses]
      cases call k buf pos regs₂ d with
      | none => exact Or.inl ⟨rfl, rfl⟩
      | some d' => exact ih d' hmoved hrest

/-- Two scans from a state whose registers are the same where it needs them. -/
theorem scan_alike {cover : σ → ρ → Bool} (hcover : Covers δ origin uses cover) {known : ρ → Bool}
    (hreads : Reads uses call)
    (hknown : ∀ l r, origin l = some r → known l = true → known r = true) {buf : List β}
    (xs : List β) :
    ∀ {pos : Nat} {s : σ} {regs₁ regs₂ : ρ → Nat} (d : S), Alike known (cover s) regs₁ regs₂ →
      (scan δ (perform origin call buf) pos s (regs₁, d) xs = none ∧
        scan δ (perform origin call buf) pos s (regs₂, d) xs = none) ∨
      ∃ t p regs₁' regs₂' d' stopped,
        scan δ (perform origin call buf) pos s (regs₁, d) xs = some ⟨t, p, (regs₁', d'), stopped⟩ ∧
        scan δ (perform origin call buf) pos s (regs₂, d) xs = some ⟨t, p, (regs₂', d'), stopped⟩ ∧
        (∀ r, known r = true → regs₁' r = regs₂' r) ∧
        (stopped = false → Alike known (cover t) regs₁' regs₂') := by
  induction xs with
  | nil =>
    intro pos s regs₁ regs₂ d h
    exact Or.inr ⟨s, pos, regs₁, regs₂, d, false, rfl, rfl, h.known, fun _ => h⟩
  | cons c cs ih =>
    intro pos s regs₁ regs₂ d h
    simp only [scan]
    -- the registers a state covers are alike, so both scans make the same calls
    cases hstep : δ s c with
    | next t acts =>
      obtain ⟨f, htrack, hle⟩ := hcover.next hstep
      rcases perform_alike hreads hknown buf pos acts d h htrack with
        ⟨h₁, h₂⟩ | ⟨regs₁', regs₂', d', h₁, h₂, halike⟩
      · simp only [h₁, h₂]
        exact Or.inl ⟨rfl, rfl⟩
      · simp only [h₁, h₂, Option.bind_some]
        exact ih d' ⟨halike.known, fun r hr => halike.fresh r (hle r hr)⟩
    | last t acts =>
      obtain ⟨f, htrack⟩ := hcover.last hstep
      rcases perform_alike hreads hknown buf pos acts d h htrack with
        ⟨h₁, h₂⟩ | ⟨regs₁', regs₂', d', h₁, h₂, halike⟩
      · simp only [h₁, h₂]
        exact Or.inl ⟨rfl, rfl⟩
      · simp only [h₁, h₂, Option.map_some]
        exact Or.inr ⟨t, pos + 1, regs₁', regs₂', d', true, rfl, rfl, halike.known,
          fun hstop => absurd hstop (by decide)⟩
    | fail t =>
      exact Or.inr ⟨t, pos, regs₁, regs₂, d, true, rfl, rfl, h.known,
        fun hstop => absurd hstop (by decide)⟩

end Scanner
