import Mathlib.Data.List.Basic
import Mathlib.Data.List.Nodup

/-! # Trees with names

    A node of a rose tree lists its entries under names, as a directory does;
    a leaf is anything else.  A path is a list of names.  `find` gives what is at a path
    of a tree that may be missing, and `put` puts something there, or takes
    away what is there; with the laws of a lens.  A node may list a name twice:
    the first entry counts. -/

namespace NamedTree

universe u v

inductive Rose (Name : Type u) (Leaf : Type v) where
  | leaf (x : Leaf)
  | node (entries : List (Name × Rose Name Leaf))

variable {Name : Type u} {Leaf : Type v} [DecidableEq Name]

/-! ## Section 1: Entries -/

abbrev Entries (Name : Type u) (Leaf : Type v) : Type (max u v) := List (Name × Rose Name Leaf)

def lookup (name : Name) (es : Entries Name Leaf) : Option (Rose Name Leaf) :=
  (es.find? fun e => decide (e.1 = name)).map Prod.snd

/-- The first entry under the name becomes `t`. -/
def replace (name : Name) (t : Rose Name Leaf) : Entries Name Leaf → Entries Name Leaf
  | []      => []
  | e :: es => if e.1 = name then (name, t) :: es else e :: replace name t es

/-- The entry under the name becomes `o`, or goes away. -/
def setEntry (name : Name) (o : Option (Rose Name Leaf)) (es : Entries Name Leaf) :
    Entries Name Leaf :=
  match o with
  | some t => replace name t es
  | none   => es.filter fun e => decide (e.1 ≠ name)

theorem lookup_cons (name : Name) (e : Name × Rose Name Leaf) (es : Entries Name Leaf) :
    lookup name (e :: es) = if e.1 = name then some e.2 else lookup name es := by
  unfold lookup
  rw [List.find?_cons]
  by_cases h : e.1 = name <;> simp [h]

theorem lookup_eq_none_iff {name : Name} {es : Entries Name Leaf} :
    lookup name es = none ↔ ∀ e ∈ es, e.1 ≠ name := by
  simp [lookup]

theorem mem_of_lookup {name : Name} {es : Entries Name Leaf} {t : Rose Name Leaf}
    (h : lookup name es = some t) : (name, t) ∈ es := by
  obtain ⟨e, he, rfl⟩ := Option.map_eq_some_iff.mp h
  have hname : decide (e.1 = name) = true := by simpa using List.find?_some he
  obtain rfl := of_decide_eq_true hname
  exact List.mem_of_find?_eq_some he

/-- Where no name comes twice, every entry is found. -/
theorem lookup_of_mem {name : Name} {es : Entries Name Leaf} {t : Rose Name Leaf}
    (hnodup : (es.map Prod.fst).Nodup) (hmem : (name, t) ∈ es) : lookup name es = some t := by
  induction es with
  | nil => cases hmem
  | cons e es ih =>
    rw [List.map_cons, List.nodup_cons] at hnodup
    rw [lookup_cons]
    rcases List.mem_cons.mp hmem with rfl | hmem
    · exact if_pos rfl
    · rw [if_neg, ih hnodup.2 hmem]
      intro heq
      exact hnodup.1 (List.mem_map.mpr ⟨(name, t), hmem, heq.symm⟩)

theorem lookup_replace {name : Name} {t : Rose Name Leaf} {es : Entries Name Leaf}
    (h : lookup name es ≠ none) : lookup name (replace name t es) = some t := by
  induction es with
  | nil => exact absurd rfl h
  | cons e es ih =>
    rw [lookup_cons] at h
    rw [replace]
    by_cases he : e.1 = name
    · rw [if_pos he, lookup_cons, if_pos rfl]
    · rw [if_neg he] at h ⊢
      rw [lookup_cons, if_neg he]
      exact ih h

theorem lookup_setEntry {name : Name} {o : Option (Rose Name Leaf)} {es : Entries Name Leaf}
    (h : lookup name es ≠ none) : lookup name (setEntry name o es) = o := by
  cases o with
  | some t => exact lookup_replace h
  | none =>
    refine lookup_eq_none_iff.mpr ?_
    intro e he
    exact of_decide_eq_true (List.mem_filter.mp he).2

/-- Other names keep their entries. -/
theorem lookup_setEntry_ne {name other : Name} (hne : other ≠ name) (o : Option (Rose Name Leaf))
    (es : Entries Name Leaf) : lookup other (setEntry name o es) = lookup other es := by
  induction es with
  | nil => cases o <;> rfl
  | cons e es ih =>
    rw [lookup_cons]
    cases o with
    | some t =>
      have ih : lookup other (replace name t es) = lookup other es := ih
      rw [setEntry, replace]
      by_cases he : e.1 = name
      · rw [if_pos he, lookup_cons, if_neg (Ne.symm hne), if_neg (he ▸ Ne.symm hne)]
      · rw [if_neg he, lookup_cons, ih]
    | none =>
      have ih : lookup other (es.filter fun e => decide (e.1 ≠ name)) = lookup other es := ih
      rw [setEntry, List.filter_cons]
      by_cases he : e.1 = name
      · rw [if_neg (by simpa using he), ih, if_neg (he ▸ Ne.symm hne)]
      · rw [if_pos (by simpa using he), lookup_cons, ih]

theorem replace_of_lookup {name : Name} {t : Rose Name Leaf} {es : Entries Name Leaf}
    (h : lookup name es = some t) : replace name t es = es := by
  induction es with
  | nil => rfl
  | cons e es ih =>
    rw [lookup_cons] at h
    rw [replace]
    by_cases he : e.1 = name
    · rw [if_pos he] at h
      obtain rfl := Option.some.inj h
      rw [if_pos he, ← he]
    · rw [if_neg he] at h
      rw [if_neg he, ih h]

theorem setEntry_replace (name : Name) (o : Option (Rose Name Leaf)) (t : Rose Name Leaf)
    (es : Entries Name Leaf) : setEntry name o (replace name t es) = setEntry name o es := by
  induction es with
  | nil => cases o <;> rfl
  | cons e es ih =>
    cases o with
    | some t' =>
      have ih : replace name t' (replace name t es) = replace name t' es := ih
      simp only [setEntry, replace]
      by_cases he : e.1 = name
      · rw [if_pos he, replace, if_pos rfl, if_pos he]
      · rw [if_neg he, replace, if_neg he, if_neg he, ih]
    | none =>
      have ih : ((replace name t es).filter fun e => decide (e.1 ≠ name)) =
          es.filter fun e => decide (e.1 ≠ name) := ih
      simp only [setEntry, replace]
      by_cases he : e.1 = name
      · rw [if_pos he]
        simp [he]
      · rw [if_neg he, List.filter_cons, List.filter_cons, ih]

/-- An entry behind others under other names. -/
theorem setEntry_append {name : Name} {front back : Entries Name Leaf} {t : Rose Name Leaf}
    (o : Option (Rose Name Leaf))
    (hnodup : ((front ++ (name, t) :: back).map Prod.fst).Nodup) :
    setEntry name o (front ++ (name, t) :: back) =
      front ++ (o.toList.map fun t => (name, t)) ++ back := by
  induction front with
  | nil =>
    rw [List.nil_append, List.map_cons, List.nodup_cons] at hnodup
    have hback : (back.filter fun e => decide (e.1 ≠ name)) = back := by
      refine List.filter_eq_self.mpr ?_
      intro e he
      refine decide_eq_true ?_
      intro heq
      exact hnodup.1 (List.mem_map.mpr ⟨e, he, heq⟩)
    cases o with
    | some t' => simp [setEntry, replace]
    | none =>
      rw [List.nil_append, setEntry, List.filter_cons, if_neg (by simp), hback]
      rfl
  | cons e front ih =>
    rw [List.cons_append, List.map_cons, List.nodup_cons] at hnodup
    have he : e.1 ≠ name := by
      rintro rfl
      exact hnodup.1 (by simp)
    have ih := ih hnodup.2
    cases o with
    | some t' =>
      rw [List.cons_append, setEntry, replace, if_neg he]
      rw [setEntry] at ih
      rw [ih]
      rfl
    | none =>
      rw [List.cons_append, setEntry, List.filter_cons, if_pos (by simpa using he)]
      rw [setEntry] at ih
      rw [ih]
      rfl

/-! ## Section 2: Paths -/

/-- What is at the path. -/
def find : List Name → Option (Rose Name Leaf) → Option (Rose Name Leaf)
  | [], t => t
  | name :: path, t =>
    match t with
    | some (.node es) => find path (lookup name es)
    | _ => none

/-- `o` in place of what is at the path. -/
def put (o : Option (Rose Name Leaf)) : List Name → Option (Rose Name Leaf) →
    Option (Rose Name Leaf)
  | [], _ => o
  | name :: path, t =>
    match t with
    | some (.node es) => some (.node (setEntry name (put o path (lookup name es)) es))
    | t => t

theorem find_none (path : List Name) : find path (none : Option (Rose Name Leaf)) = none := by
  cases path <;> rfl

theorem find_append (path q : List Name) (t : Option (Rose Name Leaf)) :
    find (path ++ q) t = find q (find path t) := by
  induction path generalizing t with
  | nil => rfl
  | cons name path ih =>
    match t with
    | some (.node es) => exact ih (lookup name es)
    | some (.leaf x) => exact (find_none q).symm
    | none => exact (find_none q).symm

/-- The step into a node on the way to something that is there. -/
theorem exists_node {name : Name} {path : List Name} {t : Option (Rose Name Leaf)}
    (h : find (name :: path) t ≠ none) :
    ∃ es, t = some (.node es) ∧ find path (lookup name es) ≠ none ∧ lookup name es ≠ none := by
  match t with
  | some (.node es) =>
    refine ⟨es, rfl, h, ?_⟩
    intro hnone
    rw [find, hnone, find_none] at h
    exact h rfl
  | some (.leaf x) => exact absurd rfl h
  | none => exact absurd rfl h

theorem find_put {path : List Name} {t : Option (Rose Name Leaf)} (h : find path t ≠ none)
    (o : Option (Rose Name Leaf)) : find path (put o path t) = o := by
  induction path generalizing t with
  | nil => rfl
  | cons name path ih =>
    obtain ⟨es, rfl, hpath, hlookup⟩ := exists_node h
    rw [put, find, lookup_setEntry hlookup]
    exact ih hpath

theorem put_some {path : List Name} {t : Option (Rose Name Leaf)} (h : find path t ≠ none)
    (x : Rose Name Leaf) : ∃ t', put (some x) path t = some t' := by
  cases path with
  | nil => exact ⟨x, rfl⟩
  | cons name path =>
    obtain ⟨es, rfl, -, -⟩ := exists_node h
    exact ⟨_, rfl⟩

theorem put_put {path : List Name} {t : Option (Rose Name Leaf)} (h : find path t ≠ none)
    (o : Option (Rose Name Leaf)) (x : Rose Name Leaf) :
    put o path (put (some x) path t) = put o path t := by
  induction path generalizing t with
  | nil => rfl
  | cons name path ih =>
    obtain ⟨es, rfl, hpath, hlookup⟩ := exists_node h
    obtain ⟨t', ht'⟩ := put_some hpath x
    rw [put, put, put, lookup_setEntry hlookup, ih hpath, ht']
    rw [show setEntry name (some t') es = replace name t' es from rfl, setEntry_replace]

theorem put_find {path : List Name} {t : Option (Rose Name Leaf)} {x : Rose Name Leaf}
    (h : find path t = some x) : put (some x) path t = t := by
  induction path generalizing t with
  | nil => exact h.symm
  | cons name path ih =>
    obtain ⟨es, rfl, -, hlookup⟩ := exists_node (t := t) (by rw [h]; simp)
    rw [put, ih h]
    obtain ⟨c, hc⟩ := Option.ne_none_iff_exists'.mp hlookup
    rw [hc, setEntry, replace_of_lookup hc]

/-- Nothing is taken away where nothing is. -/
theorem put_none_of_find {path : List Name} {t : Option (Rose Name Leaf)} (h : find path t = none) :
    put none path t = t := by
  induction path generalizing t with
  | nil => exact h.symm
  | cons name path ih =>
    match t with
    | some (.leaf x) => rfl
    | none => rfl
    | some (.node es) =>
      rw [put, ih h]
      cases hlookup : lookup name es with
      | some c => rw [setEntry, replace_of_lookup hlookup]
      | none =>
        have hall : (es.filter fun e => decide (e.1 ≠ name)) = es := by
          refine List.filter_eq_self.mpr ?_
          intro e he
          exact decide_eq_true (lookup_eq_none_iff.mp hlookup e he)
        rw [setEntry, hall]

/-- What is put below a node is put into its entries. -/
theorem put_child {path : List Name} {t : Option (Rose Name Leaf)} {es : Entries Name Leaf}
    (h : find path t = some (.node es)) (name : Name) (o : Option (Rose Name Leaf)) :
    put o (path ++ [name]) t = put (some (.node (setEntry name o es))) path t := by
  induction path generalizing t with
  | nil =>
    obtain rfl : t = some (.node es) := h
    rfl
  | cons m path ih =>
    obtain ⟨es', rfl, -, -⟩ := exists_node (t := t) (by rw [h]; simp)
    rw [List.cons_append, put, put, ih h]

/-- Neither path leads through the other. -/
def Apart (path q : List Name) : Prop := ¬ path <+: q ∧ ¬ q <+: path

/-- What is elsewhere stays. -/
theorem find_put_apart {path q : List Name} (h : Apart path q) (o : Option (Rose Name Leaf))
    (t : Option (Rose Name Leaf)) : find q (put o path t) = find q t := by
  induction path generalizing q t with
  | nil => exact absurd List.nil_prefix h.1
  | cons name path ih =>
    cases q with
    | nil => exact absurd List.nil_prefix h.2
    | cons m q =>
      match t with
      | some (.leaf x) => rfl
      | none => rfl
      | some (.node es) =>
        rw [put, find, find]
        by_cases hm : m = name
        · subst hm
          have hapart : Apart path q := by
            refine ⟨fun hp => h.1 ?_, fun hp => h.2 ?_⟩
            · exact List.cons_prefix_cons.mpr ⟨rfl, hp⟩
            · exact List.cons_prefix_cons.mpr ⟨rfl, hp⟩
          cases hlookup : lookup m es with
          | some c =>
            rw [lookup_setEntry (by rw [hlookup]; simp)]
            exact ih hapart (some c)
          | none =>
            -- the path does not exist, and it does not come to exist
            have hne : path ≠ [] := by
              rintro rfl
              exact hapart.1 List.nil_prefix
            obtain ⟨k, path', rfl⟩ := List.exists_cons_of_ne_nil hne
            have hall : lookup m (setEntry m none es) = none := by
              refine lookup_eq_none_iff.mpr ?_
              intro e he
              exact of_decide_eq_true (List.mem_filter.mp he).2
            have hput : put o (k :: path') (none : Option (Rose Name Leaf)) = none := rfl
            rw [hput, hall]
        · rw [lookup_setEntry_ne hm]

end NamedTree
