import Mathlib.Algebra.BigOperators.Group.Finset.Basic
import Mathlib.Algebra.Order.Group.Multiset

/-! # Custody

    Tokens come into being, are passed from one place to another and go out
    of being.  `Once` says that every live token is at exactly one place and
    that nothing else is at any place; the three kinds of steps keep it.  A
    step is described with the places it touches only: `Step.frame` adds the
    others. -/

namespace Custody

universe u v

variable {Token : Type u}

/-- `places` lists what is at each place, over all places. -/
def Once (live : Finset Token) (places : Multiset Token) : Prop := places = live.val

theorem Once.mem_live {live : Finset Token} {places : Multiset Token} (h : Once live places)
    {x : Token} (hx : x ∈ places) : x ∈ live := by
  rw [show places = live.val from h] at hx
  exact hx

variable [DecidableEq Token]

/-- What a step may do to the tokens `live` and the places. -/
inductive Step (live : Finset Token) (places : Multiset Token)
    (live' : Finset Token) (places' : Multiset Token) : Prop where
  | pass (placed : places' = places) (same : live' = live)
  | mint (x : Token) (fresh : x ∉ live) (placed : places' = x ::ₘ places)
      (born : live' = insert x live)
  | burn (x : Token) (placed : places = x ::ₘ places') (gone : live' = live.erase x)

variable {live live' : Finset Token} {places places' : Multiset Token}

theorem Step.frame (h : Step live places live' places') (others : Multiset Token) :
    Step live (places + others) live' (places' + others) := by
  cases h with
  | pass placed same => exact .pass (by rw [placed]) same
  | mint x fresh placed born => exact .mint x fresh (by rw [placed, Multiset.cons_add]) born
  | burn x placed gone => exact .burn x (by rw [placed, Multiset.cons_add]) gone

namespace Once

theorem count_eq_one (h : Once live places) {x : Token} (hx : x ∈ live) :
    places.count x = 1 := by
  rw [show places = live.val from h]
  exact Multiset.count_eq_one_of_mem live.nodup hx

theorem step (h : Once live places) (hstep : Step live places live' places') :
    Once live' places' := by
  have hplaces : places = live.val := h
  show places' = live'.val
  cases hstep with
  | pass placed same => rw [placed, same, hplaces]
  | mint x fresh placed born => rw [placed, born, hplaces, Finset.insert_val_of_notMem fresh]
  | burn x placed gone =>
    rw [gone, Finset.erase_val, ← hplaces, placed, Multiset.erase_cons_head]

end Once

/-! ## A party among others -/

section Parties

variable {ι : Type u} {α : Type v} {M : Type*} [Fintype ι] [DecidableEq ι] [AddCommMonoid M]

/-- What the parties but `i` contribute. -/
def others (g : α → M) (f : ι → α) (i : ι) : M := ∑ j ∈ Finset.univ.erase i, g (f j)

theorem sum_eq_others (g : α → M) (f : ι → α) (i : ι) :
    ∑ j, g (f j) = g (f i) + others g f i :=
  (Finset.add_sum_erase _ (fun j => g (f j)) (Finset.mem_univ i)).symm

theorem others_update (g : α → M) (f : ι → α) (i : ι) (x : α) :
    others g (fun j => if j = i then x else f j) i = others g f i := by
  unfold others
  apply Finset.sum_congr rfl
  intro j hj
  show g (if j = i then x else f j) = g (f j)
  rw [if_neg (Finset.ne_of_mem_erase hj)]

/-- A sum over the parties when one of them changes. -/
theorem sum_update (g : α → M) (f : ι → α) (i : ι) (x : α) :
    ∑ j, g (if j = i then x else f j) = g x + others g f i := by
  rw [sum_eq_others g (fun j => if j = i then x else f j) i, others_update, if_pos rfl]

end Parties

/-! ## A member of a list -/

section Members

variable {α : Type u} {M : Type v} [AddCommMonoid M]

/-- A sum over a list, and the same sum with another value for one member. -/
theorem sum_set (g : α → M) {l : List α} {i : Nat} {a : α} (h : l[i]? = some a) (b : α) :
    ∃ rest, (l.map g).sum = g a + rest ∧ ((l.set i b).map g).sum = g b + rest := by
  induction l generalizing i with
  | nil => cases h
  | cons x xs ih =>
    cases i with
    | zero =>
      obtain rfl := Option.some.inj h
      exact ⟨(xs.map g).sum, List.sum_cons, List.sum_cons⟩
    | succ i =>
      obtain ⟨rest, hsum, hset⟩ := ih h
      refine ⟨g x + rest, ?_, ?_⟩
      · rw [List.map_cons, List.sum_cons, hsum, add_left_comm]
      · rw [List.set_cons_succ, List.map_cons, List.sum_cons, hset, add_left_comm]

theorem sum_snoc (g : α → M) (l : List α) (a : α) :
    ((l ++ [a]).map g).sum = (l.map g).sum + g a := by
  rw [List.map_append, List.sum_append, List.map_cons, List.map_nil, List.sum_singleton]

end Members

end Custody
