import Mathlib.Algebra.Group.Int.Defs
import Mathlib.Algebra.Group.Nat.Defs
import Mathlib.Data.Nat.Basic

/-! # Unsigned 64-bit arithmetic

    `uint64_t` values are natural numbers below `2 ^ 64`; addition and
    subtraction wrap around. -/

namespace MNSER

def add64 (a b : Nat) : Nat := (a + b) % 2 ^ 64

def sub64 (a b : Nat) : Nat := (a + (2 ^ 64 - b)) % 2 ^ 64

theorem add64_of_lt {a b : Nat} (h : a + b < 2 ^ 64) : add64 a b = a + b :=
  Nat.mod_eq_of_lt h

theorem add64_lt (a b : Nat) : add64 a b < 2 ^ 64 := Nat.mod_lt _ (Nat.two_pow_pos 64)

theorem sub64_of_le {a b : Nat} (hba : b ≤ a) (ha : a < 2 ^ 64) : sub64 a b = a - b := by
  unfold sub64
  omega

/-! ## Signed 32-bit values -/

/-- An integer as an `int32_t`. -/
def wrap32 (x : Int) : Int := x.bmod (2 ^ 32)

theorem wrap32_of_lt {x : Int} (h₀ : 0 ≤ x) (h : x < 2 ^ 31) : wrap32 x = x :=
  Int.bmod_eq_of_le (by omega) (by omega)

theorem wrap32_add (x y : Int) : wrap32 (wrap32 x + y) = wrap32 (x + y) := Int.bmod_add_bmod

/-! ## Signed 64-bit values -/

/-- A result computed in `long`; `none` where the computation overflows. -/
def long? (x : Int) : Option Int := if -2 ^ 63 ≤ x ∧ x < 2 ^ 63 then some x else none

/-- An integer as a `uint64_t`. -/
def unsigned64 (x : Int) : Nat := (x % 2 ^ 64).toNat

theorem long?_of_lt {x : Int} (h₀ : 0 ≤ x) (h : x < 2 ^ 63) : long? x = some x :=
  if_pos ⟨by omega, h⟩

theorem long?_of_le {x : Int} (h : 2 ^ 63 ≤ x) : long? x = none :=
  if_neg fun hx => Int.not_lt.mpr h hx.2

theorem unsigned64_of_lt {x : Int} (h₀ : 0 ≤ x) (h : x < 2 ^ 64) : unsigned64 x = x.toNat := by
  rw [unsigned64, Int.emod_eq_of_lt h₀ h]

/-! ## Bytes -/

/-- What holds of the bytes of a text is decided along the text, not over all bytes. -/
instance decidableForallText (P : UInt8 → Prop) [DecidablePred P] (l : List UInt8) :
    Decidable (∀ c ∈ l, P c) := List.decidableBAll P l

instance decidableForallByte (P : UInt8 → Prop) [DecidablePred P] (o : Option UInt8) :
    Decidable (∀ c ∈ o, P c) := Option.decidableForallMem o

/-- What holds of all 256 bytes can be checked one by one. -/
theorem forall_byte {P : UInt8 → Prop} (h : ∀ i : Fin 256, P (UInt8.ofFin i)) (c : UInt8) : P c :=
  h c.toFin

end MNSER
