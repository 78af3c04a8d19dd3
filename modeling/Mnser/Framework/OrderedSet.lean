import Mathlib.Data.List.Basic
import Mathlib.Data.List.Nodup
import Mathlib.Data.List.TakeWhile

/-! # Ordered sets with a user comparator

    A set that is kept in the order of a comparator `lt` and holds at most
    one of any two elements the comparator does not separate.  It is
    represented by the list of its elements in iteration order, so an
    iterator is a position in that list and `[begin, it)` is a prefix of it.

    The comparator is only assumed to be transitive, irreflexive and total
    where the laws below need it, and only on the elements at hand: a
    comparator may read keys from memory that is not part of the set. -/

namespace OrderedSet

universe u v

variable {α : Type u}

/-! ## Section 1: Operations -/

/-- Neither element comes before the other. -/
def equiv (lt : α → α → Bool) (x y : α) : Bool :=
  !lt x y && !lt y x

/-- Insert before the first element that is not before `x`; an element
    equivalent to `x` stays and `x` is not inserted. -/
def insert (lt : α → α → Bool) (x : α) : List α → List α
  | [] => [x]
  | y :: ys =>
    if lt y x then y :: insert lt x ys
    else if lt x y then x :: y :: ys
    else y :: ys

/-- The element equivalent to `x`, if there is one. -/
def find (lt : α → α → Bool) (x : α) (l : List α) : Option α :=
  l.find? (equiv lt x)

/-- Remove the first element equivalent to `x`. -/
def erase (lt : α → α → Bool) (x : α) (l : List α) : List α :=
  l.eraseP (equiv lt x)

/-- The elements before `lower_bound` of the probe `k`: those in front of the
    first one that is not before `k`. -/
def beforeLowerBound {κ : Type v} (lt : α → κ → Bool) (k : κ) (l : List α) : List α :=
  l.takeWhile fun y => lt y k

/-- In iteration order every element comes before all later ones. -/
def Sorted (lt : α → α → Bool) (l : List α) : Prop :=
  l.Pairwise fun a b => lt a b = true

/-! ## Section 2: Insertion -/

/-- An element that is equivalent to none of `l` is inserted. -/
theorem insert_perm {lt : α → α → Bool} {x : α} {l : List α}
    (hnew : ∀ y ∈ l, equiv lt x y = false) : (insert lt x l).Perm (x :: l) := by
  induction l with
  | nil => exact List.Perm.refl _
  | cons y ys ih =>
    have hys := ih fun z hz => hnew z (List.mem_cons_of_mem _ hz)
    have hy := hnew y List.mem_cons_self
    unfold insert
    split
    · exact (hys.cons y).trans (List.Perm.swap x y ys)
    · split
      · exact List.Perm.refl _
      · simp_all [equiv]

theorem mem_insert {lt : α → α → Bool} {x z : α} {l : List α}
    (hnew : ∀ y ∈ l, equiv lt x y = false) : z ∈ insert lt x l ↔ z = x ∨ z ∈ l := by
  rw [(insert_perm hnew).mem_iff, List.mem_cons]

theorem insert_subset {lt : α → α → Bool} {x z : α} {l : List α}
    (h : z ∈ insert lt x l) : z = x ∨ z ∈ l := by
  induction l with
  | nil => exact Or.inl (List.mem_singleton.mp h)
  | cons y ys ih =>
    unfold insert at h
    split at h
    · rcases List.mem_cons.mp h with h | h
      · exact Or.inr (h ▸ List.mem_cons_self)
      · exact (ih h).imp_right (List.mem_cons_of_mem _)
    · split at h
      · exact List.mem_cons.mp h
      · exact Or.inr h

theorem sorted_insert {lt : α → α → Bool} {x : α} {l : List α}
    (htrans : ∀ a b, lt x a = true → lt a b = true → lt x b = true)
    (h : Sorted lt l) : Sorted lt (insert lt x l) := by
  induction l with
  | nil => exact List.pairwise_singleton _ _
  | cons y ys ih =>
    obtain ⟨hy, hys⟩ := List.pairwise_cons.mp h
    unfold insert
    split
    · rename_i hyx
      refine List.pairwise_cons.mpr ⟨fun z hz => ?_, ih hys⟩
      rcases insert_subset hz with rfl | hz
      · exact hyx
      · exact hy z hz
    · split
      · rename_i hxy
        refine List.pairwise_cons.mpr ⟨fun z hz => ?_, h⟩
        rcases List.mem_cons.mp hz with rfl | hz
        · exact hxy
        · exact htrans y z hxy (hy z hz)
      · exact h

/-- An insertion is not seen by those who do not look for the element. -/
theorem filter_insert {lt : α → α → Bool} {x : α} {p : α → Bool} (hp : p x = false) (l : List α) :
    (insert lt x l).filter p = l.filter p := by
  induction l with
  | nil => simp [insert, hp]
  | cons y ys ih =>
    unfold insert
    split
    · rw [List.filter_cons, List.filter_cons, ih]
    · split
      · simp [hp]
      · rfl

/-! ## Section 3: Lookup and removal -/

/-- A new element that `find` does not lead to at the front has one before it. -/
theorem find_insert_front {lt : α → α → Bool} {x : α} (hirrefl : lt x x = false) (l : List α) :
    find lt x (insert lt x l) = (insert lt x l).head? ∨ ∃ y ∈ l, lt y x = true := by
  have hself : equiv lt x x = true := by simp [equiv, hirrefl]
  cases l with
  | nil =>
    left
    simp [insert, find, hself]
  | cons y ys =>
    by_cases hyx : lt y x = true
    · exact Or.inr ⟨y, List.mem_cons_self, hyx⟩
    · left
      by_cases hxy : lt x y = true
      · simp [insert, hyx, hxy, find, hself]
      · have hequiv : equiv lt x y = true := by simp [equiv, hyx, hxy]
        simp [insert, hyx, hxy, find, hequiv]

/-- Where `x` is the only element equivalent to `x`, looking it up finds it. -/
theorem find_eq {lt : α → α → Bool} {x : α} {l : List α}
    (hx : x ∈ l) (hirr : lt x x = false) (huniq : ∀ y ∈ l, equiv lt x y = true → y = x) :
    find lt x l = some x := by
  have hex : ∃ y ∈ l, equiv lt x y = true := ⟨x, hx, by simp [equiv, hirr]⟩
  obtain ⟨y, hy⟩ := Option.isSome_iff_exists.mp (List.find?_isSome.mpr hex)
  have hequiv := List.find?_some hy
  have hmem := List.mem_of_find?_eq_some hy
  rw [find, hy, huniq y hmem hequiv]

theorem erase_sublist (lt : α → α → Bool) (x : α) (l : List α) :
    (erase lt x l).Sublist l :=
  List.eraseP_sublist

theorem sorted_erase {lt : α → α → Bool} (x : α) {l : List α} (h : Sorted lt l) :
    Sorted lt (erase lt x l) :=
  h.sublist (erase_sublist lt x l)

theorem sorted_nodup {lt : α → α → Bool} {l : List α}
    (hirr : ∀ a ∈ l, lt a a = false) (h : Sorted lt l) : l.Nodup := by
  refine List.Pairwise.imp_of_mem (R := fun a b => lt a b = true) ?_ h
  intro a b ha _ hab heq
  rw [← heq, hirr a ha] at hab
  cases hab

/-- Removing an element that is equivalent to no other takes it out. -/
theorem erase_perm {lt : α → α → Bool} {x : α} {l : List α} (hx : x ∈ l)
    (hirr : lt x x = false) (huniq : ∀ y ∈ l, equiv lt x y = true → y = x) :
    (x :: erase lt x l).Perm l := by
  obtain ⟨a, l₁, l₂, _, ha, hl, herase⟩ :=
    List.exists_of_eraseP hx (p := equiv lt x) (by simp [equiv, hirr])
  have hax : a = x := huniq a (by simp [hl]) ha
  subst hax
  rw [erase, herase, hl]
  exact List.perm_middle.symm

/-- In a set without duplicates, removing `x` leaves exactly the others. -/
theorem mem_erase {lt : α → α → Bool} {x z : α} {l : List α}
    (hx : x ∈ l) (hirr : lt x x = false) (huniq : ∀ y ∈ l, equiv lt x y = true → y = x)
    (hnodup : l.Nodup) : z ∈ erase lt x l ↔ z ∈ l ∧ z ≠ x := by
  have hperm := erase_perm hx hirr huniq
  have hnotin : x ∉ erase lt x l := (List.nodup_cons.mp (hperm.nodup_iff.mpr hnodup)).1
  rw [← hperm.mem_iff, List.mem_cons]
  constructor
  · intro hz
    exact ⟨Or.inr hz, fun h => hnotin (h ▸ hz)⟩
  · rintro ⟨hz, hne⟩
    exact hz.resolve_left hne

/-! ## Section 4: Ranges -/

/-- A prefix test that is inherited by all smaller elements picks exactly the
    elements that pass it. -/
theorem takeWhile_eq_filter {lt : α → α → Bool} {p : α → Bool} {l : List α}
    (hsorted : Sorted lt l)
    (hdown : ∀ a ∈ l, ∀ b ∈ l, lt a b = true → p b = true → p a = true) :
    l.takeWhile p = l.filter p := by
  induction l with
  | nil => rfl
  | cons y ys ih =>
    obtain ⟨hy, hys⟩ := List.pairwise_cons.mp hsorted
    have ih' := ih hys fun a ha b hb =>
      hdown a (List.mem_cons_of_mem _ ha) b (List.mem_cons_of_mem _ hb)
    by_cases hp : p y = true
    · rw [List.takeWhile_cons_of_pos hp, List.filter_cons_of_pos hp, ih']
    · have hrest : ys.filter p = [] := by
        refine List.filter_eq_nil_iff.mpr fun z hz hpz => hp ?_
        exact hdown y List.mem_cons_self z (List.mem_cons_of_mem _ hz) (hy z hz) hpz
      rw [List.takeWhile_cons_of_neg hp, List.filter_cons_of_neg hp, hrest]

theorem takeWhile_congr {q r : α → Bool} {l : List α} (h : ∀ a ∈ l, q a = r a) :
    l.takeWhile q = l.takeWhile r := by
  induction l with
  | nil => rfl
  | cons y ys ih =>
    have hy := h y List.mem_cons_self
    have ih' := ih fun a ha => h a (List.mem_cons_of_mem y ha)
    simp only [List.takeWhile_cons, hy, ih']

theorem drop_length_takeWhile (p : α → Bool) (l : List α) :
    l.drop (l.takeWhile p).length = l.dropWhile p := by
  have h : (l.takeWhile p ++ l.dropWhile p).drop (l.takeWhile p).length = l.dropWhile p :=
    List.drop_left
  rwa [List.takeWhile_append_dropWhile] at h

/-- Two adjoining prefix tests: first everything that passes `p`, then from
    there on everything that passes `q`. -/
theorem takeWhile_append_takeWhile {p q r : α → Bool} {l : List α}
    (hpr : ∀ a ∈ l, p a = true → r a = true)
    (hqr : ∀ a ∈ l, p a = false → q a = r a)
    (hmono : l.Pairwise fun a b => p a = false → p b = false) :
    l.takeWhile p ++ (l.dropWhile p).takeWhile q = l.takeWhile r := by
  induction l with
  | nil => rfl
  | cons y ys ih =>
    obtain ⟨hy, hys⟩ := List.pairwise_cons.mp hmono
    by_cases hp : p y = true
    · have hr := hpr y List.mem_cons_self hp
      have ih' := ih (fun a ha => hpr a (List.mem_cons_of_mem _ ha))
        (fun a ha => hqr a (List.mem_cons_of_mem _ ha)) hys
      simp only [List.takeWhile_cons_of_pos hp, List.dropWhile_cons_of_pos hp,
        List.takeWhile_cons_of_pos hr, List.cons_append, ih']
    · have hpf : p y = false := by simpa using hp
      have hall : ∀ a ∈ y :: ys, q a = r a := by
        intro a ha
        rcases List.mem_cons.mp ha with rfl | hmem
        · exact hqr a ha hpf
        · exact hqr a ha (hy a hmem hpf)
      rw [List.takeWhile_cons_of_neg hp, List.dropWhile_cons_of_neg hp, List.nil_append]
      exact takeWhile_congr hall

end OrderedSet
