import Mathlib.Data.List.Basic

/-! # YAML nodes

    What the configuration uses of `YAML::Node`.  A node that is not defined is
    `none`; where an operation throws, the result of the operation is `none`. -/

namespace MNSER

namespace YAML

/-- `std::string` -/
abbrev Text : Type := List UInt8

def text (s : String) : Text := s.toList.map fun c => c.toNat.toUInt8

inductive Node where
  | null
  | scalar (s : Text)
  | sequence (l : List Node)
  | map (l : List (Node × Node))

/-- The parts of yaml-cpp that are not modelled: `os << node`, `YAML::Load`, the
    text of an `int` and its reading, and what `as<std::string>` makes of a null
    node, which depends on the version. -/
structure Yaml where
  emit      : Node → Text
  Load      : Text → Option Node
  encodeInt : Int → Text
  decodeInt : Text → Option Int
  nullText  : Option Text

/-! ## Section 1: Reading a node -/

namespace Node

def IsScalar : Node → Bool
  | scalar _ => true
  | _ => false

def IsMap : Node → Bool
  | map _ => true
  | _ => false

def Scalar : Node → Text
  | scalar s => s
  | _ => []

def isKey (key : Text) : Node → Bool
  | scalar s => s == key
  | _ => false

end Node

/-- The value of the first entry for `key`. -/
def find (key : Text) (entries : List (Node × Node)) : Option Node :=
  (entries.find? fun e => e.1.isKey key).map Prod.snd

/-- `node[key]` for a key that is no number; it throws for a scalar. -/
def subscript (node : Option Node) (key : Text) : Option (Option Node) :=
  match node with
  | some (.map entries) => some (find key entries)
  | some (.scalar _) => none
  | _ => some none

def size : Option Node → Nat
  | some (.sequence l) => l.length
  | some (.map entries) => entries.length
  | _ => 0

/-- `node[i]` for `i < node.size()`; a map is asked for the key `i`. -/
def element (yaml : Yaml) (node : Option Node) (i : Nat) : Option Node :=
  match node with
  | some (.sequence l) => l[i]?
  | some (.map entries) => find (yaml.encodeInt i) entries
  | _ => none

/-- The nodes a loop from 0 to `node.size()` sees. -/
def elements (yaml : Yaml) (node : Option Node) : List (Option Node) :=
  (List.range (size node)).map (element yaml node)

/-- `as<std::string>()`, which throws for what is not a scalar. -/
def asString (yaml : Yaml) : Option Node → Option Text
  | some (.scalar s) => some s
  | some .null => yaml.nullText
  | _ => none

/-- `as<std::string>(fallback)` -/
def asStringOr (yaml : Yaml) (node : Option Node) (fallback : Text) : Text :=
  (asString yaml node).getD fallback

/-- `as<int>(fallback)` -/
def asIntOr (yaml : Yaml) (node : Option Node) (fallback : Int) : Int :=
  match node with
  | some (.scalar s) => (yaml.decodeInt s).getD fallback
  | _ => fallback

@[simp] theorem asString_scalar (yaml : Yaml) (s : Text) :
    asString yaml (some (.scalar s)) = some s := rfl

@[simp] theorem asStringOr_scalar (yaml : Yaml) (s fallback : Text) :
    asStringOr yaml (some (.scalar s)) fallback = s := rfl

theorem elements_sequence (yaml : Yaml) (l : List Node) :
    elements yaml (some (.sequence l)) = l.map some := by
  apply List.ext_getElem
  · simp [elements, size]
  · intro i h₁ h₂
    simp [elements, element]

@[simp] theorem elements_none (yaml : Yaml) : elements yaml none = [] := rfl

/-! ## Section 2: Building a node -/

/-- `node[key] = v` -/
def set (entries : List (Node × Node)) (key : Text) (v : Node) : List (Node × Node) :=
  match entries with
  | [] => [(.scalar key, v)]
  | e :: rest => if e.1.isKey key = true then (e.1, v) :: rest else e :: set rest key v

/-- `node[key].push_back(v)`, for a key without a value or with a sequence. -/
def push (entries : List (Node × Node)) (key : Text) (v : Node) : List (Node × Node) :=
  match find key entries with
  | some (.sequence l) => set entries key (.sequence (l ++ [v]))
  | _ => set entries key (.sequence [v])

/-- `YAML::Node node;` is null until it gets an entry. -/
def Node.ofEntries : List (Node × Node) → Node
  | [] => .null
  | entries => .map entries

@[simp] theorem find_nil (key : Text) : find key [] = none := rfl

@[simp] theorem find_set_self (entries : List (Node × Node)) (key : Text) (v : Node) :
    find key (set entries key v) = some v := by
  induction entries with
  | nil => simp [set, find, Node.isKey]
  | cons e rest ih =>
    unfold set
    by_cases he : e.1.isKey key = true
    · simp [he, find]
    · rw [if_neg he]
      simp only [find, List.find?_cons, he] at ih ⊢
      exact ih

theorem isKey_unique {k : Node} {key key' : Text} (h : k.isKey key = true)
    (h' : k.isKey key' = true) : key = key' := by
  cases k with
  | scalar s => exact (beq_iff_eq.mp h).symm.trans (beq_iff_eq.mp h')
  | null => cases h
  | sequence l => cases h
  | map l => cases h

theorem find_set_ne {key key' : Text} (hne : key ≠ key') (entries : List (Node × Node)) (v : Node) :
    find key (set entries key' v) = find key entries := by
  have hother : ∀ k : Node, k.isKey key' = true → k.isKey key = false := by
    intro k hk
    cases hkey : k.isKey key with
    | false => rfl
    | true => exact absurd (isKey_unique hkey hk) hne
  induction entries with
  | nil => simp [set, find, Node.isKey, Ne.symm hne]
  | cons e rest ih =>
    unfold set
    by_cases he : e.1.isKey key' = true
    · rw [if_pos he]
      simp only [find, List.find?_cons, hother _ he]
    · rw [if_neg he]
      simp only [find, List.find?_cons] at ih ⊢
      cases e.1.isKey key with
      | true => rfl
      | false => exact ih

theorem find_push_ne {key key' : Text} (hne : key ≠ key') (entries : List (Node × Node)) (v : Node) :
    find key (push entries key' v) = find key entries := by
  unfold push
  split <;> exact find_set_ne hne entries _

/-- What is pushed to a key that had no value, one after the other. -/
theorem find_foldl_push (key : Text) (entries : List (Node × Node)) (vs : List Node)
    (hfresh : find key entries = none) :
    find key (vs.foldl (fun node v => push node key v) entries) =
      if vs = [] then none else some (.sequence vs) := by
  -- from a sequence that is there already, by induction on what is pushed
  have hmore : ∀ (vs : List Node) (entries : List (Node × Node)) (l : List Node),
      find key entries = some (.sequence l) →
      find key (vs.foldl (fun node v => push node key v) entries) = some (.sequence (l ++ vs)) := by
    intro vs
    induction vs with
    | nil => exact fun entries l h => by rw [List.append_nil]; exact h
    | cons v vs ih =>
      intro entries l h
      rw [List.foldl_cons, ih (push entries key v) (l ++ [v]) (by rw [push, h, find_set_self]),
        List.append_assoc]
      rfl
  cases vs with
  | nil => exact hfresh
  | cons v vs =>
    rw [if_neg (List.cons_ne_nil v vs), List.foldl_cons]
    exact hmore vs _ [v] (by rw [push, hfresh, find_set_self])

theorem find_foldl_push_ne {key key' : Text} (hne : key ≠ key') (vs : List Node) :
    ∀ entries : List (Node × Node),
      find key (vs.foldl (fun node v => push node key' v) entries) = find key entries := by
  induction vs with
  | nil => exact fun _ => rfl
  | cons v vs ih => exact fun entries => (ih _).trans (find_push_ne hne entries v)

/-- A node with an entry is a map. -/
theorem subscript_ofEntries (entries : List (Node × Node)) (key : Text) :
    subscript (some (Node.ofEntries entries)) key = some (find key entries) := by
  cases entries <;> rfl

end YAML

end MNSER
