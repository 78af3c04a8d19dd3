import Mathlib.Data.List.Basic

/-! # Tables over ranges of bytes

    A generated scanner decides by ranges of bytes.  A row lists ranges, with
    what it has for the bytes in them.  A check over the entries of a row says
    what the row has for all bytes of a class. -/

namespace Ranges

/-! ## Section 1: Rows -/

/-- What a row has for ranges of bytes. -/
abbrev Row (γ : Type) : Type := List (Nat × Nat × γ)

variable {γ : Type}

/-- A class of bytes, as a list of ranges. -/
abbrev ByteClass : Type := List (Nat × Nat)

def ByteClass.has (cls : ByteClass) (c : UInt8) : Bool :=
  cls.any fun i => i.1 ≤ c.toNat && c.toNat ≤ i.2

/-- The entry of a row for a byte. -/
def entryAt (row : Row γ) (c : Nat) : Option γ :=
  (row.find? fun e => e.1 ≤ c && c ≤ e.2.1).map fun e => e.2.2

/-- From `lo` on the entries of a row follow one another up to `hi`. -/
def spans : Row γ → Nat → Nat → Bool
  | [], lo, hi => Nat.blt hi lo
  | e :: row, lo, hi =>
    Nat.blt hi lo || bif Nat.blt e.2.1 lo then spans row lo hi
      else Nat.ble e.1 lo && spans row (e.2.1 + 1) hi

/-- The bytes of a class have entries in a row, and these are as `P` says on
    the ranges they have in common with the class. -/
def onClass (row : Row γ) (cls : ByteClass) (P : Nat → Nat → γ → Bool) : Bool :=
  cls.all fun i => spans row i.1 i.2 &&
    row.all fun e => Nat.blt e.2.1 i.1 || Nat.blt i.2 e.1 ||
      P (max e.1 i.1) (min e.2.1 i.2) e.2.2

theorem entryAt_mem {row : Row γ} {c : Nat} {g : γ} (h : entryAt row c = some g) :
    ∃ lo hi, lo ≤ c ∧ c ≤ hi ∧ (lo, hi, g) ∈ row := by
  obtain ⟨e, he, rfl⟩ := Option.map_eq_some_iff.mp h
  have hrange := List.find?_some he
  rw [Bool.and_eq_true, decide_eq_true_iff, decide_eq_true_iff] at hrange
  exact ⟨e.1, e.2.1, hrange.1, hrange.2, List.mem_of_find?_eq_some he⟩

theorem spans_find {row : Row γ} : ∀ {lo hi : Nat}, spans row lo hi = true → ∀ {c : Nat}, lo ≤ c →
    c ≤ hi → ∃ e ∈ row, e.1 ≤ c ∧ c ≤ e.2.1 ∧ entryAt row c = some e.2.2 := by
  induction row with
  | nil =>
    intro lo hi h c hlo hhi
    rw [spans, Nat.blt_eq] at h
    omega
  | cons e row ih =>
    intro lo hi h c hlo hhi
    rw [spans, Bool.or_eq_true, Nat.blt_eq] at h
    rcases h with h | h
    · omega
    · by_cases hhit : e.1 ≤ c ∧ c ≤ e.2.1
      · exact ⟨e, List.mem_cons_self, hhit.1, hhit.2, by simp [entryAt, hhit.1, hhit.2]⟩
      · -- the entry is in front of the range, or its part of it is done
        obtain ⟨lo', hspans, hlo'⟩ : ∃ lo', spans row lo' hi = true ∧ lo' ≤ c := by
          cases hbehind : Nat.blt e.2.1 lo with
          | true =>
            rw [hbehind] at h
            exact ⟨lo, h, hlo⟩
          | false =>
            rw [hbehind, cond_false, Bool.and_eq_true, Nat.ble_eq] at h
            rw [← Bool.not_eq_true, Nat.blt_eq] at hbehind
            exact ⟨e.2.1 + 1, h.2, by omega⟩
        obtain ⟨e', he', hge, hle, hentry⟩ := ih hspans hlo' hhi
        refine ⟨e', List.mem_cons_of_mem _ he', hge, hle, ?_⟩
        rw [← hentry, entryAt, List.find?_cons_of_neg (by simpa using hhit)]
        rfl

theorem onClass_entry {row : Row γ} {cls : ByteClass} {P : Nat → Nat → γ → Bool}
    (h : onClass row cls P = true) {c : UInt8} (hc : cls.has c = true) :
    ∃ lo hi g, lo ≤ c.toNat ∧ c.toNat ≤ hi ∧ entryAt row c.toNat = some g ∧ P lo hi g = true := by
  obtain ⟨i, hi, hrange⟩ := List.any_eq_true.mp hc
  simp only [Bool.and_eq_true, decide_eq_true_eq] at hrange
  have hboth := List.all_eq_true.mp h i hi
  rw [Bool.and_eq_true] at hboth
  obtain ⟨e, he, hge, hle, hentry⟩ := spans_find hboth.1 hrange.1 hrange.2
  have hP := List.all_eq_true.mp hboth.2 e he
  rw [Bool.or_eq_true, Bool.or_eq_true, Nat.blt_eq, Nat.blt_eq] at hP
  rcases hP with (hP | hP) | hP
  · omega
  · omega
  · exact ⟨_, _, e.2.2, by omega, by omega, hentry, hP⟩

/-- A row from its exceptions, in ascending order, and what holds elsewhere. -/
def rowFrom (other : γ) : Nat → Row γ → Row γ
  | lo, [] => [(lo, 255, other)]
  | lo, e :: es => (lo, e.1 - 1, other) :: e :: rowFrom other (e.2.1 + 1) es

theorem rowFrom_other {other : γ} {c : Nat} (hc : c ≤ 255) {es : Row γ}
    (h : ∀ e ∈ es, ¬ (e.1 ≤ c ∧ c ≤ e.2.1)) :
    ∀ {lo : Nat}, lo ≤ c → entryAt (rowFrom other lo es) c = some other := by
  induction es with
  | nil =>
    intro lo hlo
    simp [rowFrom, entryAt, hlo, hc]
  | cons e es ih =>
    intro lo hlo
    have hout := h e List.mem_cons_self
    by_cases hfront : c ≤ e.1 - 1
    · simp [rowFrom, entryAt, hlo, hfront]
    · have hrest := ih (fun x hx => h x (List.mem_cons_of_mem _ hx)) (show e.2.1 + 1 ≤ c by omega)
      rw [← hrest, rowFrom, entryAt, List.find?_cons_of_neg (by simp; omega),
        List.find?_cons_of_neg (by simpa using hout)]
      rfl

end Ranges
