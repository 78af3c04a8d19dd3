import Mathlib.Data.List.Basic
import Mnser.Word

/-! # strtol

    `strtol` and `atoi` of the C library on a string in memory, for bases up to
    16.  The end of the list stands for the closing NUL, which is no digit. -/

namespace MNSER

namespace Strtol

/-! ## Section 1: The functions -/

def isspace (c : UInt8) : Bool := c = 32 || (9 ≤ c && c ≤ 13)

def digitVal (c : UInt8) : Nat :=
  if 48 ≤ c ∧ c ≤ 57 then c.toNat - 48
  else if 65 ≤ c ∧ c ≤ 70 then c.toNat - 55
  else if 97 ≤ c ∧ c ≤ 102 then c.toNat - 87
  else 16

def isdigit (base : Nat) (c : UInt8) : Bool := digitVal c < base

/-- The digits at the start of a text, read on from `acc`. -/
def magnitude (base : Nat) : Nat → List UInt8 → Nat
  | acc, [] => acc
  | acc, c :: cs => if isdigit base c then magnitude base (acc * base + digitVal c) cs else acc

/-- `0x` is skipped when a digit follows. -/
def skipPrefix (base : Nat) (s : List UInt8) : List UInt8 :=
  match s with
  | a :: x :: d :: cs =>
    if base = 16 ∧ a = 48 ∧ (x = 120 ∨ x = 88) ∧ isdigit 16 d then d :: cs else s
  | _ => s

end Strtol

open Strtol

/-- `strtol(s, NULL, base)`, on a platform where `long` has 64 bits. -/
def strtol (base : Nat) (s : List UInt8) : Int :=
  match s.dropWhile isspace with
  | 45 :: cs => -(min (magnitude base 0 (skipPrefix base cs)) (2 ^ 63) : Nat)
  | 43 :: cs => (min (magnitude base 0 (skipPrefix base cs)) (2 ^ 63 - 1) : Nat)
  | cs => (min (magnitude base 0 (skipPrefix base cs)) (2 ^ 63 - 1) : Nat)

/-- The `int` of `(int)strtol(s, NULL, base)`; `atoi` is base 10. -/
def strtoi (base : Nat) (s : List UInt8) : Int := wrap32 (strtol base s)

namespace Strtol

/-! ## Section 2: A run of digits -/

variable {base : Nat}

theorem isdigit_mono {c : UInt8} (hbase : base ≤ 16) (h : isdigit base c = true) :
    isdigit 16 c = true := by
  simp only [isdigit, decide_eq_true_eq] at h ⊢
  omega

/-- A digit is neither a blank nor a sign, nor the `x` of a prefix. -/
theorem digit_plain : ∀ c : UInt8, isdigit 16 c = true →
    isspace c = false ∧ c ≠ 45 ∧ c ≠ 43 ∧ c ≠ 120 ∧ c ≠ 88 := by
  apply forall_byte
  decide +kernel

theorem magnitude_append {ds rest : List UInt8} (hds : ∀ d ∈ ds, isdigit base d = true) :
    ∀ acc, magnitude base acc (ds ++ rest) = magnitude base (magnitude base acc ds) rest := by
  induction ds with
  | nil =>
    intro acc
    rfl
  | cons d ds ih =>
    intro acc
    have hd := hds d List.mem_cons_self
    simp only [List.cons_append, magnitude, hd, if_true]
    exact ih (fun x hx => hds x (List.mem_cons_of_mem _ hx)) _

/-- The text behind the digits does not matter when it begins with neither a
    digit nor an `x`. -/
def Stops (base : Nat) (rest : List UInt8) : Prop :=
  ∀ c, rest.head? = some c → isdigit base c = false ∧ c ≠ 120 ∧ c ≠ 88

theorem magnitude_stop {rest : List UInt8} (h : Stops base rest) (acc : Nat) :
    magnitude base acc rest = acc := by
  cases rest with
  | nil => rfl
  | cons c cs =>
    rw [magnitude, (h c rfl).1]
    rfl

theorem skipPrefix_digits {ds rest : List UInt8} (hbase : base ≤ 16)
    (hds : ∀ d ∈ ds, isdigit base d = true) (hne : ds ≠ []) (hrest : Stops base rest) :
    skipPrefix base (ds ++ rest) = ds ++ rest := by
  unfold skipPrefix
  split
  · rename_i a x d cs heq
    -- the second byte is a digit, or the one that ends them
    have hx : x ≠ 120 ∧ x ≠ 88 := by
      match ds, hne with
      | [b], _ =>
        obtain ⟨-, htail⟩ := List.cons_eq_cons.mp heq
        exact (hrest x (congrArg List.head? htail)).2
      | b :: b' :: ds', _ =>
        obtain ⟨-, htail⟩ := List.cons_eq_cons.mp heq
        obtain ⟨rfl, -⟩ := List.cons_eq_cons.mp htail
        have hb := hds b' (by simp)
        exact (digit_plain b' (isdigit_mono hbase hb)).2.2.2
    rw [if_neg fun h => h.2.2.1.elim hx.1 hx.2]
  · rfl

/-- `strtol` of digits is the number they denote, up to the largest `long`. -/
theorem strtol_digits {ds rest : List UInt8} (hbase : base ≤ 16)
    (hds : ∀ d ∈ ds, isdigit base d = true) (hne : ds ≠ []) (hrest : Stops base rest) :
    strtol base (ds ++ rest) = (min (magnitude base 0 ds) (2 ^ 63 - 1) : Nat) := by
  have hvalue : magnitude base 0 (skipPrefix base (ds ++ rest)) = magnitude base 0 ds := by
    rw [skipPrefix_digits hbase hds hne hrest, magnitude_append hds, magnitude_stop hrest]
  cases ds with
  | nil => exact absurd rfl hne
  | cons d ds =>
    obtain ⟨hspace, hminus, hplus, -, -⟩ :=
      digit_plain d (isdigit_mono hbase (hds d List.mem_cons_self))
    have hdrop : (d :: ds ++ rest).dropWhile isspace = d :: ds ++ rest := by
      rw [List.cons_append, List.dropWhile_cons, hspace]
      rfl
    unfold strtol
    rw [hdrop]
    split
    · rename_i heq
      exact absurd (List.cons_eq_cons.mp heq).1 hminus
    · rename_i heq
      exact absurd (List.cons_eq_cons.mp heq).1 hplus
    · rw [hvalue]

end Strtol

end MNSER
