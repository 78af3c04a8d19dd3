import Mathlib.Data.List.Basic
import Mathlib.Data.List.Induction

/-! # The last word on a key

    Operations come one after the other, and each of them may say something
    about a key: that it has a value from now on, or that it has none.  What
    counts is the last operation that says anything about the key.

    A table of the values can be kept as a list in the order in which they
    were given: an operation takes the keys it speaks of out of the list, and
    puts the one it gives a value to at the end. -/

namespace LastWord

universe u v w

variable {Op : Type u} {Key : Type v} {Value : Type w}

-- `some (some v)`: the key has the value `v`; `some none`: it has none
variable (word : Key → Op → Option (Option Value))

/-! ## Section 1: Values that stand -/

/-- The value of the key after the operations `h`. -/
def last (h : List Op) (k : Key) : Option Value := (h.reverse.findSome? (word k)).join

/-- Operation `i` gave the key the value `v`, and none has spoken of it since. -/
def Stands (h : List Op) (k : Key) (i : Nat) (v : Value) : Prop :=
  (∃ op, h[i]? = some op ∧ word k op = some (some v)) ∧
    ∀ j op, i < j → h[j]? = some op → word k op = none

theorem last_snoc (h : List Op) (op : Op) (k : Key) :
    last word (h ++ [op]) k = match word k op with
      | some v => v
      | none   => last word h k := by
  unfold last
  rw [List.reverse_append, List.reverse_singleton, List.singleton_append, List.findSome?_cons]
  cases word k op <;> rfl

theorem stands_nil (k : Key) (i : Nat) (v : Value) : ¬ Stands word [] k i v := by
  rintro ⟨⟨op, hop, -⟩, -⟩
  cases hop

theorem stands_snoc (h : List Op) (op : Op) (k : Key) (i : Nat) (v : Value) :
    Stands word (h ++ [op]) k i v ↔
      Stands word h k i v ∧ word k op = none ∨
        i = h.length ∧ word k op = some (some v) := by
  constructor
  · rintro ⟨⟨op', hop', hword⟩, hlater⟩
    have hlt : i < (h ++ [op]).length := (List.getElem?_eq_some_iff.mp hop').1
    rw [List.length_append, List.length_singleton] at hlt
    by_cases hi : i = h.length
    · subst hi
      rw [List.getElem?_concat_length] at hop'
      obtain rfl := Option.some.inj hop'
      exact Or.inr ⟨rfl, hword⟩
    · have hih : i < h.length := by omega
      refine Or.inl ⟨⟨⟨op', ?_, hword⟩, ?_⟩, ?_⟩
      · rwa [List.getElem?_append_left hih] at hop'
      · intro j op'' hij hj
        have hjh := (List.getElem?_eq_some_iff.mp hj).1
        exact hlater j op'' hij (by rwa [List.getElem?_append_left hjh])
      · exact hlater h.length op hih List.getElem?_concat_length
  · rintro (⟨⟨⟨op', hop', hword⟩, hlater⟩, hnone⟩ | ⟨rfl, hword⟩)
    · have hih := (List.getElem?_eq_some_iff.mp hop').1
      refine ⟨⟨op', by rwa [List.getElem?_append_left hih], hword⟩, ?_⟩
      intro j op'' hij hj
      have hlt := (List.getElem?_eq_some_iff.mp hj).1
      rw [List.length_append, List.length_singleton] at hlt
      by_cases hjh : j = h.length
      · subst hjh
        rw [List.getElem?_concat_length] at hj
        obtain rfl := Option.some.inj hj
        exact hnone
      · rw [List.getElem?_append_left (by omega)] at hj
        exact hlater j op'' hij hj
    · refine ⟨⟨op, List.getElem?_concat_length, hword⟩, ?_⟩
      intro j op'' hij hj
      have hlt := (List.getElem?_eq_some_iff.mp hj).1
      rw [List.length_append, List.length_singleton] at hlt
      omega

theorem Stands.unique {h : List Op} {k : Key} {i j : Nat} {v w : Value}
    (hi : Stands word h k i v) (hj : Stands word h k j w) : i = j ∧ v = w := by
  obtain ⟨⟨op, hop, hv⟩, hafter⟩ := hi
  obtain ⟨⟨op', hop', hw⟩, hafter'⟩ := hj
  have hij : i = j := by
    rcases Nat.lt_trichotomy i j with hlt | heq | hgt
    · rw [hafter j op' hlt hop'] at hw
      cases hw
    · exact heq
    · rw [hafter' i op hgt hop] at hv
      cases hv
  subst hij
  obtain rfl := Option.some.inj (hop.symm.trans hop')
  exact ⟨rfl, Option.some.inj (Option.some.inj (hv.symm.trans hw))⟩

theorem last_eq_some_iff (h : List Op) (k : Key) (v : Value) :
    last word h k = some v ↔ ∃ i, Stands word h k i v := by
  induction h using List.reverseRecOn with
  | nil =>
    constructor
    · intro hlast
      cases hlast
    · rintro ⟨i, hi⟩
      exact absurd hi (stands_nil word k i v)
  | append_singleton h op ih =>
    simp only [last_snoc, stands_snoc]
    cases hword : word k op with
    | none => simp [ih]
    | some w => simp

/-! ## Section 2: Tables -/

/-- The table has the values that stand, in the order in which they were given. -/
structure Lists (h : List Op) (table : List (Key × Value)) : Prop where
  mem   : ∀ k v, (k, v) ∈ table ↔ ∃ i, Stands word h k i v
  order : table.Pairwise fun a b => ∀ i j, Stands word h a.1 i a.2 → Stands word h b.1 j b.2 → i < j

theorem lists_nil : Lists word ([] : List Op) [] where
  mem k v := by
    constructor
    · intro hmem
      cases hmem
    · rintro ⟨i, hi⟩
      exact absurd hi (stands_nil word k i v)
  order := List.Pairwise.nil

variable {word}

/-- No key is listed twice. -/
theorem Lists.nodup {h : List Op} {table : List (Key × Value)} (hl : Lists word h table) :
    (table.map Prod.fst).Nodup := by
  refine List.pairwise_map.mpr (hl.order.imp_of_mem ?_)
  intro a b ha hb hlt heq
  obtain ⟨i, hi⟩ := (hl.mem a.1 a.2).mp ha
  obtain ⟨j, hj⟩ := (hl.mem b.1 b.2).mp hb
  obtain ⟨rfl, -⟩ := Stands.unique word hi (heq ▸ hj)
  exact absurd (hlt i i hi hj) (Nat.lt_irrefl i)

/-- The step of a table: keys that are spoken of go, and a value is put at the end. -/
theorem Lists.snoc {h : List Op} {table table' : List (Key × Value)} (hl : Lists word h table)
    {op : Op} (given : Option (Key × Value))
    (hkept : table' = (table.filter fun e => (word e.1 op).isNone) ++ given.toList)
    (hgiven : ∀ k v, given = some (k, v) ↔ word k op = some (some v)) :
    Lists word (h ++ [op]) table' := by
  subst hkept
  constructor
  · intro k v
    simp only [List.mem_append, List.mem_filter, Option.isNone_iff_eq_none, Option.mem_toList,
      stands_snoc, exists_or, exists_eq_left, exists_and_right, hl.mem, hgiven]
  · have hold : ∀ {k v i}, word k op = none → Stands word (h ++ [op]) k i v → Stands word h k i v := by
      intro k v i hnone hstands
      rcases (stands_snoc word h op k i v).mp hstands with ⟨hstands, -⟩ | ⟨-, hword⟩
      · exact hstands
      · rw [hnone] at hword
        cases hword
    refine List.pairwise_append.mpr ⟨?_, ?_, ?_⟩
    · refine (hl.order.filter _).imp_of_mem ?_
      intro a b ha hb hlt i j hi hj
      have hanone := Option.isNone_iff_eq_none.mp (List.mem_filter.mp ha).2
      have hbnone := Option.isNone_iff_eq_none.mp (List.mem_filter.mp hb).2
      exact hlt i j (hold hanone hi) (hold hbnone hj)
    · cases given with
      | none => exact List.Pairwise.nil
      | some e => exact List.pairwise_singleton _ _
    · intro a ha b hb i j hi hj
      have hanone := Option.isNone_iff_eq_none.mp (List.mem_filter.mp ha).2
      obtain ⟨⟨op', hop', -⟩, -⟩ := hold hanone hi
      have hih := (List.getElem?_eq_some_iff.mp hop').1
      -- what is given now is given behind everything else
      have hword := (hgiven b.1 b.2).mp (Option.mem_toList.mp hb)
      rcases (stands_snoc word h op b.1 j b.2).mp hj with ⟨-, hnone⟩ | ⟨rfl, -⟩
      · rw [hnone] at hword
        cases hword
      · exact hih

/-- The first entry of the table with a property is the one given first. -/
theorem Lists.find {h : List Op} {table : List (Key × Value)} (hl : Lists word h table)
    {p : Key → Bool} {k : Key} {v : Value}
    (hfind : table.find? (fun e => p e.1) = some (k, v)) :
    p k = true ∧ ∃ i, Stands word h k i v ∧
      ∀ k' j w, Stands word h k' j w → p k' = true → i ≤ j := by
  obtain ⟨hp, front, back, rfl, hfront⟩ := List.find?_eq_some_iff_append.mp hfind
  obtain ⟨i, hi⟩ := (hl.mem k v).mp (by simp)
  refine ⟨hp, i, hi, ?_⟩
  intro k' j w hj hp'
  rcases List.mem_append.mp ((hl.mem k' w).mpr ⟨j, hj⟩) with hmem | hmem
  · exact absurd hp' (by simpa using hfront (k', w) hmem)
  · rcases List.mem_cons.mp hmem with heq | hmem
    · obtain ⟨rfl, rfl⟩ := Prod.mk.inj heq
      exact Nat.le_of_eq (Stands.unique word hi hj).1
    · have hafter := (List.pairwise_append.mp hl.order).2.1
      exact Nat.le_of_lt ((List.pairwise_cons.mp hafter).1 (k', w) hmem i j hi hj)

theorem Lists.find_none {h : List Op} {table : List (Key × Value)} (hl : Lists word h table)
    {p : Key → Bool} (hfind : table.find? (fun e => p e.1) = none) {k : Key} {i : Nat} {v : Value}
    (hi : Stands word h k i v) : p k = false :=
  Bool.eq_false_iff.mpr (List.find?_eq_none.mp hfind (k, v) ((hl.mem k v).mpr ⟨i, hi⟩))

/-- What a table has for a key is the last word on it. -/
theorem Lists.find_key [DecidableEq Key] {h : List Op} {table : List (Key × Value)}
    (hl : Lists word h table) (k : Key) :
    (table.find? fun e => decide (e.1 = k)).map Prod.snd = last word h k := by
  cases hfind : table.find? fun e => decide (e.1 = k) with
  | none =>
    cases hlast : last word h k with
    | none => rfl
    | some v =>
      obtain ⟨i, hi⟩ := (last_eq_some_iff word h k v).mp hlast
      have hfalse := hl.find_none (p := fun k' => decide (k' = k)) hfind hi
      exact absurd rfl (of_decide_eq_false hfalse)
  | some e =>
    obtain ⟨hk, i, hi, -⟩ := hl.find (p := fun k' => decide (k' = k)) (k := e.1) (v := e.2) hfind
    rw [← of_decide_eq_true hk]
    exact ((last_eq_some_iff word h e.1 e.2).mpr ⟨i, hi⟩).symm

end LastWord
