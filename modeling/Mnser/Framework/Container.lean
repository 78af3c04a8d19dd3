import Mathlib.Data.List.Dedup
import Mnser.Framework.OrderedSet

/-! # Containers in the order of a comparator

    A set or map that is kept in order, as a value: two of them are equal when
    they have the same elements.  Containers are themselves compared element
    by element, so they can be elements of containers. -/

namespace OrderedSet

universe u v

/-! ## Section 1: Comparators -/

structure StrictLess {α : Type u} (lt : α → α → Bool) : Prop where
  irrefl : ∀ a, lt a a = false
  trans  : ∀ a b c, lt a b = true → lt b c = true → lt a c = true

/-- No two elements are equivalent. -/
structure TotalLess {α : Type u} (lt : α → α → Bool) : Prop extends StrictLess lt where
  total : ∀ a b, lt a b = false → lt b a = false → a = b

/-- `std::lexicographical_compare` -/
def lexLt {α : Type u} (lt : α → α → Bool) : List α → List α → Bool
  | [], [] => false
  | [], _ :: _ => true
  | _ :: _, [] => false
  | a :: as, b :: bs => if lt a b then true else if lt b a then false else lexLt lt as bs

/-- `operator<` of `std::pair` -/
def pairLt {α : Type u} {β : Type v} (lt : α → α → Bool) (lt' : β → β → Bool)
    (a b : α × β) : Bool :=
  if lt a.1 b.1 then true else if lt b.1 a.1 then false else lt' a.2 b.2

/-- Entries of a map are compared by their keys. -/
def keyLt {α : Type u} (β : Type v) (lt : α → α → Bool) (a b : α × β) : Bool := lt a.1 b.1

theorem StrictLess.asymm {α : Type u} {lt : α → α → Bool} (h : StrictLess lt) {a b : α}
    (hab : lt a b = true) : lt b a = false := by
  cases hba : lt b a with
  | false => rfl
  | true =>
    have hself := h.trans a b a hab hba
    rw [h.irrefl] at hself
    cases hself

theorem StrictLess.keyLt {α : Type u} {lt : α → α → Bool} (h : StrictLess lt) (β : Type v) :
    StrictLess (keyLt β lt) where
  irrefl a := h.irrefl a.1
  trans a b c := h.trans a.1 b.1 c.1

/-- The three ways in which two elements can stand to each other. -/
theorem TotalLess.cases {α : Type u} {lt : α → α → Bool} (h : TotalLess lt) (a b : α) :
    (lt a b = true ∧ lt b a = false) ∨ (lt a b = false ∧ lt b a = true) ∨
      (a = b ∧ lt a b = false ∧ lt b a = false) := by
  cases hab : lt a b with
  | true => exact Or.inl ⟨rfl, h.asymm hab⟩
  | false =>
    cases hba : lt b a with
    | true => exact Or.inr (Or.inl ⟨rfl, rfl⟩)
    | false => exact Or.inr (Or.inr ⟨h.total a b hab hba, rfl, rfl⟩)

/-- Comparing a pair decides by the first component, or by the second one where
    the first ones are equal. -/
theorem pairLt_iff {α : Type u} {β : Type v} {lt : α → α → Bool} (h : TotalLess lt)
    (lt' : β → β → Bool) (a b : α × β) :
    pairLt lt lt' a b = true ↔ lt a.1 b.1 = true ∨ a.1 = b.1 ∧ lt' a.2 b.2 = true := by
  unfold pairLt
  rcases h.cases a.1 b.1 with ⟨hab, hba⟩ | ⟨hab, hba⟩ | ⟨heq, hab, hba⟩
  · simp [hab]
  · have hne : a.1 ≠ b.1 := by
      intro heq
      rw [heq, h.irrefl] at hba
      cases hba
    simp [hab, hba, hne]
  · simp [heq, h.irrefl]

theorem pairLt_total {α : Type u} {β : Type v} {lt : α → α → Bool} {lt' : β → β → Bool}
    (h : TotalLess lt) (h' : TotalLess lt') : TotalLess (pairLt lt lt') where
  irrefl a := by simp [pairLt, h.irrefl, h'.irrefl]
  trans a b c hab hbc := by
    rw [pairLt_iff h] at hab hbc ⊢
    rcases hab with hab | ⟨hab, hab'⟩
    · rcases hbc with hbc | ⟨hbc, hbc'⟩
      · exact Or.inl (h.trans _ _ _ hab hbc)
      · exact Or.inl (hbc ▸ hab)
    · rcases hbc with hbc | ⟨hbc, hbc'⟩
      · exact Or.inl (hab ▸ hbc)
      · exact Or.inr ⟨hab.trans hbc, h'.trans _ _ _ hab' hbc'⟩
  total a b hab hba := by
    unfold pairLt at hab hba
    rcases h.cases a.1 b.1 with ⟨h₁, h₂⟩ | ⟨h₁, h₂⟩ | ⟨heq, h₁, h₂⟩
    · simp [h₁] at hab
    · simp [h₂] at hba
    · simp only [h₁, h₂, Bool.false_eq_true, if_false] at hab hba
      exact Prod.ext heq (h'.total _ _ hab hba)

/-- Comparing two lists is comparing their heads and their tails as a pair. -/
theorem lexLt_cons {α : Type u} (lt : α → α → Bool) (a b : α) (as bs : List α) :
    lexLt lt (a :: as) (b :: bs) = pairLt lt (lexLt lt) (a, as) (b, bs) := rfl

theorem lexLt_total {α : Type u} {lt : α → α → Bool} (h : TotalLess lt) : TotalLess (lexLt lt) := by
  refine ⟨⟨?_, ?_⟩, ?_⟩
  · intro as
    induction as with
    | nil => rfl
    | cons a as ih => simp [lexLt, h.irrefl, ih]
  · intro as
    induction as with
    | nil =>
      intro bs cs hab hbc
      cases cs with
      | cons c cs => rfl
      | nil => cases bs <;> simp [lexLt] at hab hbc
    | cons a as ih =>
      intro bs cs hab hbc
      cases bs with
      | nil => cases hab
      | cons b bs =>
        cases cs with
        | nil => cases hbc
        | cons c cs =>
          rw [lexLt_cons, pairLt_iff h] at hab hbc ⊢
          rcases hab with hab | ⟨hab, hab'⟩
          · rcases hbc with hbc | ⟨hbc, hbc'⟩
            · exact Or.inl (h.trans _ _ _ hab hbc)
            · exact Or.inl (hbc ▸ hab)
          · rcases hbc with hbc | ⟨hbc, hbc'⟩
            · exact Or.inl (hab ▸ hbc)
            · exact Or.inr ⟨hab.trans hbc, ih bs cs hab' hbc'⟩
  · intro as
    induction as with
    | nil =>
      intro bs hab hba
      cases bs with
      | nil => rfl
      | cons b bs => cases hab
    | cons a as ih =>
      intro bs hab hba
      cases bs with
      | nil => cases hba
      | cons b bs =>
        unfold lexLt at hab hba
        rcases h.cases a b with ⟨h₁, h₂⟩ | ⟨h₁, h₂⟩ | ⟨heq, h₁, h₂⟩
        · simp [h₁] at hab
        · simp [h₂] at hba
        · simp only [h₁, h₂, Bool.false_eq_true, if_false] at hab hba
          rw [heq, ih bs hab hba]

/-! ## Section 2: Containers -/

/-- The elements in order, no two of them equivalent. -/
structure Container {α : Type u} (lt : α → α → Bool) where
  entries : List α
  sorted  : Sorted lt entries

namespace Container

variable {α : Type u} {lt : α → α → Bool}

def empty : Container lt := ⟨[], List.Pairwise.nil⟩

def insert (h : StrictLess lt) (s : Container lt) (x : α) : Container lt where
  entries := OrderedSet.insert lt x s.entries
  sorted  := sorted_insert (h.trans x) s.sorted

/-- The elements inserted one after the other; the first of equivalent ones stays. -/
def ofList (h : StrictLess lt) (l : List α) : Container lt := l.foldl (insert h) empty

/-- `operator<` of containers -/
def before (less : α → α → Bool) (s t : Container lt) : Bool := lexLt less s.entries t.entries

theorem ext_entries {s t : Container lt} (h : s.entries = t.entries) : s = t := by
  obtain ⟨entries, hs⟩ := s
  obtain ⟨entries', ht⟩ := t
  obtain rfl : entries = entries' := h
  rfl

theorem before_total {less : α → α → Bool} (h : TotalLess less) :
    TotalLess (before less : Container lt → Container lt → Bool) where
  irrefl s := (lexLt_total h).irrefl s.entries
  trans s t u := (lexLt_total h).trans s.entries t.entries u.entries
  total s t hst hts := ext_entries ((lexLt_total h).total s.entries t.entries hst hts)

theorem nodup (h : StrictLess lt) (s : Container lt) : s.entries.Nodup :=
  sorted_nodup (fun a _ => h.irrefl a) s.sorted

/-- Containers with the same elements are equal. -/
theorem ext_mem (h : StrictLess lt) {s t : Container lt}
    (hmem : ∀ x, x ∈ s.entries ↔ x ∈ t.entries) : s = t := by
  have hperm : s.entries.Perm t.entries :=
    (List.perm_ext_iff_of_nodup (s.nodup h) (t.nodup h)).mpr hmem
  refine ext_entries (hperm.eq_of_pairwise ?_ s.sorted t.sorted)
  intro a b _ _ hab hba
  rw [h.asymm hab] at hba
  cases hba

theorem mem_foldl_insert (h : StrictLess lt) {x : α} (l : List α) :
    ∀ {s : Container lt}, x ∈ (l.foldl (insert h) s).entries → x ∈ s.entries ∨ x ∈ l := by
  induction l with
  | nil => exact fun hx => Or.inl hx
  | cons y ys ih =>
    intro s hx
    rcases ih hx with hx | hx
    · rcases insert_subset hx with rfl | hx
      · exact Or.inr List.mem_cons_self
      · exact Or.inl hx
    · exact Or.inr (List.mem_cons_of_mem _ hx)

theorem mem_of_mem_ofList (h : StrictLess lt) {l : List α} {x : α}
    (hx : x ∈ (ofList h l).entries) : x ∈ l := by
  rcases mem_foldl_insert h l hx with hx | hx
  · cases hx
  · exact hx

/-- Elements no two of which are equivalent are all there. -/
theorem mem_foldl_insert_iff (h : StrictLess lt) {x : α} (l : List α) :
    ∀ {s : Container lt}, l.Pairwise (fun a b => equiv lt a b = false) →
      (∀ y ∈ l, ∀ z ∈ s.entries, equiv lt y z = false) →
      (x ∈ (l.foldl (insert h) s).entries ↔ x ∈ s.entries ∨ x ∈ l) := by
  induction l with
  | nil => simp
  | cons y ys ih =>
    intro s hl hs
    obtain ⟨hy, hys⟩ := List.pairwise_cons.mp hl
    have hnew := hs y List.mem_cons_self
    have hrest : ∀ z ∈ ys, ∀ w ∈ (insert h s y).entries, equiv lt z w = false := by
      intro z hz w hw
      rcases insert_subset hw with rfl | hw
      · have hyz := hy z hz
        unfold equiv at hyz ⊢
        rw [Bool.and_comm]
        exact hyz
      · exact hs z (List.mem_cons_of_mem _ hz) w hw
    have hinsert : x ∈ (insert h s y).entries ↔ x = y ∨ x ∈ s.entries := mem_insert hnew
    rw [List.foldl_cons, ih hys hrest, hinsert, List.mem_cons]
    tauto

theorem mem_ofList (h : StrictLess lt) {l : List α}
    (hl : l.Pairwise fun a b => equiv lt a b = false) (x : α) :
    x ∈ (ofList h l).entries ↔ x ∈ l := by
  have hmem := @mem_foldl_insert_iff _ _ h x l empty hl fun _ _ _ hz => absurd hz List.not_mem_nil
  exact hmem.trans (or_iff_right List.not_mem_nil)

/-- Distinct elements of a container are not equivalent. -/
theorem pairwise_of_perm {s : Container lt} {l : List α} (hperm : l.Perm s.entries) :
    l.Pairwise fun a b => equiv lt a b = false := by
  have hsorted : s.entries.Pairwise fun a b => equiv lt a b = false :=
    s.sorted.imp fun {a b} hab => by simp [equiv, hab]
  refine hperm.symm.pairwise hsorted fun {a b} hab => ?_
  unfold equiv at hab ⊢
  rw [Bool.and_comm]
  exact hab

/-- The elements of a container, inserted in any order, give the container. -/
theorem ofList_perm (h : StrictLess lt) {s : Container lt} {l : List α} (hperm : l.Perm s.entries) :
    ofList h l = s :=
  ext_mem h fun x => (mem_ofList h (pairwise_of_perm hperm) x).trans hperm.mem_iff

end Container

end OrderedSet
