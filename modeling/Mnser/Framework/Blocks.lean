import Mathlib.Data.List.Basic
import Mathlib.Data.List.Flatten

/-! # Sequences in blocks of one size

    `overwrite` puts some elements over a sequence, from a given position on,
    and extends the sequence when they reach beyond its end.  The rest is
    about a sequence that is kept in blocks of one size: where a position
    falls, and what an overwrite that starts in a block does to the blocks
    behind it. -/

namespace Blocks

variable {α : Type}

/-! ## Section 1: Overwriting -/

def overwrite (xs : List α) (i : Nat) (ys : List α) : List α :=
  xs.take i ++ ys ++ xs.drop (i + ys.length)

theorem overwrite_length {xs ys : List α} {i : Nat} (h : i + ys.length ≤ xs.length) :
    (overwrite xs i ys).length = xs.length := by
  unfold overwrite
  rw [List.length_append, List.length_append, List.length_take, List.length_drop]
  omega

@[simp] theorem overwrite_nil (xs : List α) (i : Nat) : overwrite xs i [] = xs := by
  simp [overwrite]

/-- All of it falls into the first part. -/
theorem overwrite_append_left {xs ys : List α} {i : Nat} (zs : List α)
    (h : i + ys.length ≤ xs.length) :
    overwrite (xs ++ zs) i ys = overwrite xs i ys ++ zs := by
  unfold overwrite
  rw [List.take_append_of_le_length (by omega), List.drop_append_of_le_length h,
    ← List.append_assoc]

/-- All of it falls behind the first part. -/
theorem overwrite_append_right (xs zs ys : List α) (i : Nat) :
    overwrite (xs ++ zs) (xs.length + i) ys = xs ++ overwrite zs i ys := by
  unfold overwrite
  rw [List.take_length_add_append, Nat.add_assoc, List.drop_length_add_append]
  simp only [List.append_assoc]

/-- It starts in the first part; what does not fit there goes on from the start
    of the second. -/
theorem overwrite_append {xs : List α} {i : Nat} (zs ys : List α) (hi : i ≤ xs.length) :
    overwrite (xs ++ zs) i ys =
      overwrite xs i (ys.take (xs.length - i)) ++ overwrite zs 0 (ys.drop (xs.length - i)) := by
  by_cases h : i + ys.length ≤ xs.length
  · rw [overwrite_append_left zs h, List.take_of_length_le (by omega),
      List.drop_of_length_le (by omega), overwrite_nil]
  · have htake : (ys.take (xs.length - i)).length = xs.length - i := by
      rw [List.length_take]
      omega
    have hend : i + ys.length = xs.length + (ys.length - (xs.length - i)) := by omega
    have hys : ∀ rest, ys.take (xs.length - i) ++ (ys.drop (xs.length - i) ++ rest) =
        ys ++ rest := by
      intro rest
      rw [← List.append_assoc, List.take_append_drop]
    unfold overwrite
    rw [htake, List.length_drop, List.take_append_of_le_length hi, hend,
      List.drop_length_add_append,
      List.drop_of_length_le (show xs.length ≤ i + (xs.length - i) by omega),
      List.append_nil, List.take_zero, List.nil_append, Nat.zero_add]
    simp only [List.append_assoc, hys]

/-- What is kept of a longer sequence. -/
theorem take_overwrite {xs ys : List α} {i n : Nat} (hi : i ≤ n) (hn : n ≤ xs.length) :
    (overwrite xs i ys).take (max n (i + ys.length)) = overwrite (xs.take n) i ys := by
  have hpart : (xs.take i ++ ys).length = i + ys.length := by
    rw [List.length_append, List.length_take]
    omega
  unfold overwrite
  rw [List.take_take, Nat.min_eq_left hi, List.drop_take]
  by_cases hle : n ≤ i + ys.length
  · -- nothing is left behind the new elements
    rw [Nat.max_eq_right hle, Nat.sub_eq_zero_of_le hle, List.take_zero, List.append_nil, ← hpart,
      List.take_left]
  · rw [Nat.max_eq_left (by omega),
      show n = (xs.take i ++ ys).length + (n - (i + ys.length)) by omega,
      List.take_length_add_append, hpart, Nat.add_sub_cancel_left]

/-- One overwrite goes on where the other ended. -/
theorem overwrite_overwrite {xs : List α} {i : Nat} (ys zs : List α) (hi : i ≤ xs.length) :
    overwrite (overwrite xs i ys) (i + ys.length) zs = overwrite xs i (ys ++ zs) := by
  have hpart : (xs.take i ++ ys).length = i + ys.length := by
    rw [List.length_append, List.length_take]
    omega
  unfold overwrite
  rw [← hpart, List.take_left, List.drop_length_add_append, List.drop_drop, hpart,
    List.length_append, Nat.add_assoc]
  simp only [List.append_assoc]

/-! ## Section 2: Blocks of one size -/

def Uniform (b : Nat) (blocks : List (List α)) : Prop := ∀ x ∈ blocks, x.length = b

theorem Uniform.cons {b : Nat} {x : List α} {blocks : List (List α)} (hx : x.length = b)
    (h : Uniform b blocks) : Uniform b (x :: blocks) := by
  intro y hy
  rcases List.mem_cons.mp hy with rfl | hy
  · exact hx
  · exact h y hy

theorem Uniform.append {b : Nat} {blocks blocks' : List (List α)} (h : Uniform b blocks)
    (h' : Uniform b blocks') : Uniform b (blocks ++ blocks') := by
  intro y hy
  rcases List.mem_append.mp hy with hy | hy
  · exact h y hy
  · exact h' y hy

theorem Uniform.take {b : Nat} {blocks : List (List α)} (h : Uniform b blocks) (k : Nat) :
    Uniform b (blocks.take k) := fun x hx => h x (List.mem_of_mem_take hx)

theorem Uniform.drop {b : Nat} {blocks : List (List α)} (h : Uniform b blocks) (k : Nat) :
    Uniform b (blocks.drop k) := fun x hx => h x (List.mem_of_mem_drop hx)

theorem Uniform.length_flatten {b : Nat} {blocks : List (List α)} (h : Uniform b blocks) :
    blocks.flatten.length = blocks.length * b := by
  induction blocks with
  | nil => simp
  | cons x rest ih =>
    rw [List.flatten_cons, List.length_append, h x List.mem_cons_self,
      ih fun y hy => h y (List.mem_cons_of_mem _ hy), List.length_cons, Nat.succ_mul, Nat.add_comm]

/-- The blocks from the `k`th on start at position `k * b`. -/
theorem Uniform.flatten_drop {b : Nat} {blocks : List (List α)} (h : Uniform b blocks) {k : Nat}
    (hk : k ≤ blocks.length) : (blocks.drop k).flatten = blocks.flatten.drop (k * b) := by
  have hlen : (blocks.take k).flatten.length = k * b := by
    rw [(h.take k).length_flatten, List.length_take, Nat.min_eq_left hk]
  conv_rhs => rw [← List.take_append_drop k blocks, List.flatten_append, ← hlen, List.drop_left]

/-- Overwriting from the `k`th block on. -/
theorem Uniform.overwrite_drop {b : Nat} {blocks : List (List α)} (h : Uniform b blocks) {k : Nat}
    (hk : k ≤ blocks.length) (i : Nat) (ys : List α) :
    (blocks.take k).flatten ++ overwrite (blocks.drop k).flatten i ys =
      overwrite blocks.flatten (k * b + i) ys := by
  have hlen : (blocks.take k).flatten.length = k * b := by
    rw [(h.take k).length_flatten, List.length_take, Nat.min_eq_left hk]
  conv_rhs => rw [← List.take_append_drop k blocks, List.flatten_append, ← hlen,
    overwrite_append_right]

end Blocks
