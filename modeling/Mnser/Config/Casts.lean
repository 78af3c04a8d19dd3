import Mnser.Framework.Container
import Mnser.Yaml.Node

/-! # Texts of containers

    The partial specialisations of `LexicalCast` for the containers of the
    standard library.  A container becomes a YAML node whose elements are what
    `YAML::Load` makes of the texts of its elements, and it is read back
    through the texts that are emitted for the elements of the node.  So a
    string inside a container goes through YAML on its own. -/

namespace MNSER

namespace Config

open YAML OrderedSet

/-! ## Section 1: The specialisations -/

/-- `LexicalCast<T, std::string>` and `LexicalCast<std::string, T>`; `none` when
    they throw. -/
structure LexicalCast (T : Type) where
  toString   : T → Option Text
  fromString : Text → Option T

/-- A hash table is iterated over in an order that is not specified. -/
structure Casting where
  yaml    : Yaml
  iterate : (α : Type) → List α → List α
  perm    : ∀ α l, (iterate α l).Perm l

namespace LexicalCast

variable {T : Type} (env : Casting) (c : LexicalCast T)

/-- `std::string` to itself, by `boost::lexical_cast` -/
def string : LexicalCast Text where
  toString   := some
  fromString := some

def int : LexicalCast Int where
  toString i := some (env.yaml.encodeInt i)
  fromString := env.yaml.decodeInt

/-- `YAML::Load(LexicalCast<T, std::string>()(it))` -/
def node (x : T) : Option Node := (c.toString x).bind env.yaml.Load

/-- `ss << node`, which writes nothing for a node that is not defined. -/
def emitted : Option Node → Text
  | none   => []
  | some n => env.yaml.emit n

/-- The node of a sequence with the elements `l`. -/
def sequenceNode (l : List T) : Option Node := (l.mapM (c.node env)).map Node.sequence

/-- The elements of the node that is loaded, each from its own text. -/
def sequenceItems (text : Text) : Option (List T) :=
  (env.yaml.Load text).bind fun node =>
    (elements env.yaml (some node)).mapM fun n => c.fromString (emitted env n)

def vector : LexicalCast (List T) where
  toString l := (c.sequenceNode env l).map env.yaml.emit
  fromString := c.sequenceItems env

def list : LexicalCast (List T) where
  toString l := (c.sequenceNode env l).map env.yaml.emit
  fromString := c.sequenceItems env

section sets

variable {lt : T → T → Bool} (h : StrictLess lt)

def set : LexicalCast (Container lt) where
  toString s      := (c.sequenceNode env s.entries).map env.yaml.emit
  fromString text := (c.sequenceItems env text).map (Container.ofList h)

def unordered_set : LexicalCast (Container lt) where
  toString s      := (c.sequenceNode env (env.iterate T s.entries)).map env.yaml.emit
  fromString text := (c.sequenceItems env text).map (Container.ofList h)

end sets

/-- `operator<` of `std::string` -/
def textLt : Text → Text → Bool := lexLt fun a b => decide (a < b)

theorem textLt_total : TotalLess textLt := by
  refine lexLt_total ⟨⟨?_, ?_⟩, ?_⟩
  · intro a
    simp
  · intro a b c hab hbc
    have hab := of_decide_eq_true hab
    have hbc := of_decide_eq_true hbc
    exact decide_eq_true (UInt8.lt_trans hab hbc)
  · intro a b hab hba
    have hab := of_decide_eq_false hab
    have hba := of_decide_eq_false hba
    exact UInt8.le_antisymm (UInt8.not_lt.mp hba) (UInt8.not_lt.mp hab)

/-- `std::map<std::string, T>` -/
abbrev StdMap (T : Type) : Type := Container (keyLt T textLt)

/-- The node of a map with the entries `l`. -/
def mapNode (l : List (Text × T)) : Option Node :=
  (l.foldlM (fun node it => (c.node env it.2).map (YAML.set node it.1)) []).map Node.map

/-- What the loop from `node.begin()` to `node.end()` sees; the entries of a
    sequence have no `first`. -/
def items : Node → Option (List (Node × Node))
  | .map entries => some entries
  | .sequence (_ :: _) => none
  | _ => some []

/-- The entries of the node that is loaded, each value from its own text. -/
def mapItems (text : Text) : Option (List (Text × T)) :=
  (env.yaml.Load text).bind fun node =>
    (items node).bind fun entries =>
      entries.mapM fun it => (c.fromString (env.yaml.emit it.2)).map (it.1.Scalar, ·)

def map : LexicalCast (StdMap T) where
  toString m      := (c.mapNode env m.entries).map env.yaml.emit
  fromString text :=
    (c.mapItems env text).map (Container.ofList (textLt_total.toStrictLess.keyLt T))

def unordered_map : LexicalCast (StdMap T) where
  toString m      := (c.mapNode env (env.iterate _ m.entries)).map env.yaml.emit
  fromString text :=
    (c.mapItems env text).map (Container.ofList (textLt_total.toStrictLess.keyLt T))

end LexicalCast

/-! ## Section 2: Types -/

/-- The types that `LexicalCast` is nested for.  A type that is no key in C++
    (an unordered container in a set) is none here either. -/
inductive Ty where
  | string
  | int
  | vector (t : Ty)
  | list (t : Ty)
  | set (t : Ty)
  | unordered_set (t : Ty)
  | map (t : Ty)
  | unordered_map (t : Ty)

/-- A type and its `operator<`; for an unordered container the order only tells
    which of the lists with its elements stands for it. -/
structure Ordered where
  El    : Type
  less  : El → El → Bool
  total : TotalLess less

theorem intLt_total : TotalLess fun a b : Int => decide (a < b) := by
  refine ⟨⟨fun a => by simp, ?_⟩, ?_⟩
  · intro a b c hab hbc
    simp only [decide_eq_true_eq] at hab hbc ⊢
    omega
  · intro a b hab hba
    simp only [decide_eq_false_iff_not] at hab hba
    omega

namespace Ordered

def listOf (o : Ordered) : Ordered := ⟨List o.El, lexLt o.less, lexLt_total o.total⟩

def setOf (o : Ordered) : Ordered :=
  ⟨Container o.less, Container.before o.less, Container.before_total o.total⟩

def mapOf (o : Ordered) : Ordered :=
  ⟨LexicalCast.StdMap o.El, Container.before (pairLt LexicalCast.textLt o.less),
    Container.before_total (pairLt_total LexicalCast.textLt_total o.total)⟩

end Ordered

def Ty.dom : Ty → Ordered
  | string          => ⟨Text, LexicalCast.textLt, LexicalCast.textLt_total⟩
  | int             => ⟨Int, fun a b => decide (a < b), intLt_total⟩
  | vector t        => t.dom.listOf
  | list t          => t.dom.listOf
  | set t           => t.dom.setOf
  | unordered_set t => t.dom.setOf
  | map t           => t.dom.mapOf
  | unordered_map t => t.dom.mapOf

/-- The values of a type. -/
abbrev Ty.El (t : Ty) : Type := t.dom.El

def Ty.cast (env : Casting) : (t : Ty) → LexicalCast t.El
  | string          => LexicalCast.string
  | int             => LexicalCast.int env
  | vector t        => LexicalCast.vector env (t.cast env)
  | list t          => LexicalCast.list env (t.cast env)
  | set t           => LexicalCast.set env (t.cast env) t.dom.total.toStrictLess
  | unordered_set t => LexicalCast.unordered_set env (t.cast env) t.dom.total.toStrictLess
  | map t           => LexicalCast.map env (t.cast env)
  | unordered_map t => LexicalCast.unordered_map env (t.cast env)

/-! ## Section 3: What goes through YAML -/

/-- Written out and read back. -/
def LexicalCast.roundTrip {T : Type} (c : LexicalCast T) (x : T) : Option T :=
  (c.toString x).bind c.fromString

/-- What becomes of an element of a container. -/
def LexicalCast.through {T : Type} (env : Casting) (c : LexicalCast T) (x : T) : Option T :=
  (c.node env x).bind fun n => c.fromString (env.yaml.emit n)

/-- Every string in the value is the text of the node that YAML takes it for. -/
def Ty.Canonical (env : Casting) : (t : Ty) → t.El → Prop
  | string          => fun (s : Text) => (env.yaml.Load s).map env.yaml.emit = some s
  | int             => fun _ => True
  | vector t        => fun (l : List t.El) => ∀ x ∈ l, t.Canonical env x
  | list t          => fun (l : List t.El) => ∀ x ∈ l, t.Canonical env x
  | set t           => fun (s : Container t.dom.less) => ∀ x ∈ s.entries, t.Canonical env x
  | unordered_set t => fun (s : Container t.dom.less) => ∀ x ∈ s.entries, t.Canonical env x
  | map t           => fun (m : LexicalCast.StdMap t.El) => ∀ e ∈ m.entries, t.Canonical env e.2
  | unordered_map t => fun (m : LexicalCast.StdMap t.El) => ∀ e ∈ m.entries, t.Canonical env e.2

/-- What is given to yaml-cpp for a value. -/
inductive Part where
  | node (n : Node)
  | int (i : Int)

/-- A node is loaded again as it was emitted; an `int` is a scalar of its own. -/
def Part.Kept (yaml : Yaml) : Part → Prop
  | node n => yaml.Load (yaml.emit n) = some n
  | int i  =>
    yaml.Load (yaml.encodeInt i) = some (.scalar (yaml.encodeInt i)) ∧
      yaml.emit (.scalar (yaml.encodeInt i)) = yaml.encodeInt i ∧
      yaml.decodeInt (yaml.encodeInt i) = some i

/-- The node of a container, and the parts of its elements. -/
def partsOf {α : Type} (built : Option Node) (l : List α) (parts : α → List Part) : List Part :=
  built.toList.map Part.node ++ l.flatMap parts

/-- The nodes that are built and loaded for a value, and its numbers. -/
def Ty.parts (env : Casting) : (t : Ty) → t.El → List Part
  | string          => fun (s : Text) => (env.yaml.Load s).toList.map Part.node
  | int             => fun (i : Int) => [Part.int i]
  | vector t        => fun (l : List t.El) =>
    partsOf ((t.cast env).sequenceNode env l) l (t.parts env)
  | list t          => fun (l : List t.El) =>
    partsOf ((t.cast env).sequenceNode env l) l (t.parts env)
  | set t           => fun (s : Container t.dom.less) =>
    partsOf ((t.cast env).sequenceNode env s.entries) s.entries (t.parts env)
  | unordered_set t => fun (s : Container t.dom.less) =>
    partsOf ((t.cast env).sequenceNode env (env.iterate _ s.entries)) s.entries (t.parts env)
  | map t           => fun (m : LexicalCast.StdMap t.El) =>
    partsOf ((t.cast env).mapNode env m.entries) m.entries fun e => t.parts env e.2
  | unordered_map t => fun (m : LexicalCast.StdMap t.El) =>
    partsOf ((t.cast env).mapNode env (env.iterate _ m.entries)) m.entries fun e => t.parts env e.2

/-- yaml-cpp is inverse on what it is given for a value. -/
def Ty.Inverse (env : Casting) (t : Ty) (v : t.El) : Prop :=
  ∀ p ∈ t.parts env v, p.Kept env.yaml

/-- All of a container is written, element by element, or nothing. -/
theorem mapM_bind_mapM {α β γ : Type} (f : α → Option β) (g : β → Option γ) (l : List α) :
    ((l.mapM f).bind fun ys => ys.mapM g) = l.mapM fun x => (f x).bind g := by
  induction l with
  | nil => rfl
  | cons x xs ih =>
    rw [List.mapM_cons, List.mapM_cons, ← ih]
    cases f x with
    | none => rfl
    | some y =>
      cases xs.mapM f with
      | none => cases hg : g y <;> simp [hg]
      | some ys => simp

theorem mem_of_mapM {α β : Type} {f : α → Option β} {l : List α} {ys : List β}
    (h : l.mapM f = some ys) {y : β} (hy : y ∈ ys) : ∃ x ∈ l, f x = some y := by
  induction l generalizing ys with
  | nil =>
    obtain rfl : [] = ys := Option.some.inj h
    cases hy
  | cons x xs ih =>
    rw [List.mapM_cons] at h
    obtain ⟨z, hz, hrest⟩ := Option.bind_eq_some_iff.mp h
    obtain ⟨zs, hzs, hcons⟩ := Option.bind_eq_some_iff.mp hrest
    obtain rfl := Option.some.inj hcons
    rcases List.mem_cons.mp hy with rfl | hy
    · exact ⟨x, List.mem_cons_self, hz⟩
    · obtain ⟨x', hx', heq⟩ := ih hzs hy
      exact ⟨x', List.mem_cons_of_mem _ hx', heq⟩

theorem mapM_self {α : Type} {f : α → Option α} {l : List α} (h : ∀ x ∈ l, f x = some x) :
    l.mapM f = some l := by
  induction l with
  | nil => rfl
  | cons x xs ih =>
    rw [List.mapM_cons, h x List.mem_cons_self, ih fun y hy => h y (List.mem_cons_of_mem _ hy)]
    rfl

namespace LexicalCast

variable {T : Type} {env : Casting} {c : LexicalCast T}

/-- Where the text is that of a node which is loaded again, going through YAML
    is the round trip of the text. -/
theorem through_eq {x : T} {built : Option Node} (htext : c.toString x = built.map env.yaml.emit)
    (hinverse : ∀ n ∈ built, env.yaml.Load (env.yaml.emit n) = some n) :
    c.through env x = c.roundTrip x := by
  unfold through node roundTrip
  rw [htext]
  cases built with
  | none => rfl
  | some n =>
    simp only [Option.map_some, Option.bind_some]
    rw [hinverse n rfl, Option.bind_some]

/-- The elements of a sequence go through YAML one by one. -/
theorem sequence_items {l : List T}
    (hinverse : ∀ n ∈ c.sequenceNode env l, env.yaml.Load (env.yaml.emit n) = some n) :
    ((c.sequenceNode env l).map env.yaml.emit).bind (c.sequenceItems env) =
      l.mapM (c.through env) := by
  have hthrough : l.mapM (c.through env) = (l.mapM (c.node env)).bind fun ns =>
      ns.mapM fun n => c.fromString (env.yaml.emit n) := (mapM_bind_mapM _ _ l).symm
  rw [hthrough]
  unfold sequenceNode at hinverse ⊢
  cases hnodes : l.mapM (c.node env) with
  | none => rfl
  | some ns =>
    rw [hnodes] at hinverse
    have hload := hinverse _ rfl
    simp only [Option.map_some, Option.bind_some, sequenceItems]
    rw [hload, Option.bind_some, elements_sequence, List.mapM_map]
    rfl

/-- A key that is not there yet is set behind the others. -/
theorem set_fresh {entries : List (Node × Node)} {key : Text} (v : Node)
    (h : ∀ e ∈ entries, e.1.isKey key = false) :
    YAML.set entries key v = entries ++ [(.scalar key, v)] := by
  induction entries with
  | nil => rfl
  | cons e rest ih =>
    have he := h e List.mem_cons_self
    rw [YAML.set, if_neg (by rw [he]; decide), ih fun e' he' => h e' (List.mem_cons_of_mem _ he')]
    rfl

/-- The entry of the node for an entry of the map. -/
def entryNode (env : Casting) (c : LexicalCast T) (it : Text × T) : Option (Node × Node) :=
  (c.node env it.2).map (Node.scalar it.1, ·)

theorem foldlM_set (l : List (Text × T)) : ∀ {entries : List (Node × Node)},
    (l.map Prod.fst).Nodup → (∀ it ∈ l, ∀ e ∈ entries, e.1.isKey it.1 = false) →
    l.foldlM (fun node it => (c.node env it.2).map (YAML.set node it.1)) entries =
      (l.mapM (c.entryNode env)).map (entries ++ ·) := by
  induction l with
  | nil =>
    intro entries _ _
    simp
  | cons it its ih =>
    intro entries hnodup hfresh
    rw [List.map_cons, List.nodup_cons] at hnodup
    rw [List.foldlM_cons, List.mapM_cons, entryNode]
    cases hnode : c.node env it.2 with
    | none => rfl
    | some n =>
      have hset := set_fresh n (hfresh it List.mem_cons_self)
      have hrest : ∀ it' ∈ its, ∀ e ∈ entries ++ [(Node.scalar it.1, n)],
          e.1.isKey it'.1 = false := by
        intro it' hit' e he
        rcases List.mem_append.mp he with he | he
        · exact hfresh it' (List.mem_cons_of_mem _ hit') e he
        · rw [List.mem_singleton.mp he]
          refine beq_eq_false_iff_ne.mpr fun heq => hnodup.1 ?_
          rw [heq]
          exact List.mem_map_of_mem hit'
      simp only [Option.map_some, Option.bind_eq_bind, Option.bind_some, hset]
      rw [ih hnodup.2 hrest]
      cases its.mapM (c.entryNode env) with
      | none => rfl
      | some ns => simp

/-- The values of a map go through YAML one by one. -/
theorem map_items {l : List (Text × T)} (hnodup : (l.map Prod.fst).Nodup)
    (hinverse : ∀ n ∈ c.mapNode env l, env.yaml.Load (env.yaml.emit n) = some n) :
    ((c.mapNode env l).map env.yaml.emit).bind (c.mapItems env) =
      l.mapM fun it => (c.through env it.2).map (it.1, ·) := by
  have hbuilt : c.mapNode env l = (l.mapM (c.entryNode env)).map Node.map := by
    unfold mapNode
    rw [foldlM_set l hnodup fun _ _ _ he => absurd he List.not_mem_nil]
    cases l.mapM (c.entryNode env) <;> rfl
  have hthrough : (l.mapM fun it => (c.through env it.2).map (it.1, ·)) =
      (l.mapM (c.entryNode env)).bind fun es =>
        es.mapM fun e => (c.fromString (env.yaml.emit e.2)).map (e.1.Scalar, ·) := by
    rw [mapM_bind_mapM]
    congr 1
    funext it
    unfold entryNode through
    cases c.node env it.2 <;> rfl
  rw [hthrough]
  rw [hbuilt] at hinverse ⊢
  cases hentries : l.mapM (c.entryNode env) with
  | none => rfl
  | some es =>
    rw [hentries] at hinverse
    have hload := hinverse _ rfl
    simp only [Option.map_some, Option.bind_some, mapItems]
    rw [hload]
    rfl

/-! ## Section 4: What comes back -/

/-- What comes back of an element has the property, and what has it comes back. -/
def Settles (env : Casting) (c : LexicalCast T) (P : T → Prop) (x : T) : Prop :=
  (∀ w, c.through env x = some w → P w) ∧ (P x → c.through env x = some x)

variable {P : T → Prop}

theorem sequence_settles {l : List T} (h : ∀ x ∈ l, c.Settles env P x) :
    (∀ ws, l.mapM (c.through env) = some ws → ∀ w ∈ ws, P w) ∧
      ((∀ x ∈ l, P x) → l.mapM (c.through env) = some l) := by
  constructor
  · intro ws hws w hw
    obtain ⟨x, hx, heq⟩ := mem_of_mapM hws hw
    exact (h x hx).1 w heq
  · intro hP
    exact mapM_self fun x hx => (h x hx).2 (hP x hx)

/-- The elements of a set may be written in any order. -/
theorem set_settles {lt : T → T → Bool} (hlt : StrictLess lt) {s : Container lt} {l : List T}
    (hperm : l.Perm s.entries) (h : ∀ x ∈ s.entries, c.Settles env P x) :
    (∀ w, (l.mapM (c.through env)).map (Container.ofList hlt) = some w → ∀ x ∈ w.entries, P x) ∧
      ((∀ x ∈ s.entries, P x) →
        (l.mapM (c.through env)).map (Container.ofList hlt) = some s) := by
  obtain ⟨hback, hstays⟩ := sequence_settles fun x hx => h x (hperm.mem_iff.mp hx)
  constructor
  · intro w hw x hx
    obtain ⟨ws, hws, rfl⟩ := Option.map_eq_some_iff.mp hw
    exact hback ws hws x (Container.mem_of_mem_ofList hlt hx)
  · intro hP
    rw [hstays fun x hx => hP x (hperm.mem_iff.mp hx), Option.map_some,
      Container.ofList_perm hlt hperm]

/-- The entries of a map may be written in any order. -/
theorem map_settles {m : StdMap T} {l : List (Text × T)} (hperm : l.Perm m.entries)
    (h : ∀ e ∈ m.entries, c.Settles env P e.2) :
    (∀ w, ((l.mapM fun it => (c.through env it.2).map (it.1, ·)).map
        (Container.ofList (textLt_total.toStrictLess.keyLt T))) = some w →
        ∀ e ∈ w.entries, P e.2) ∧
      ((∀ e ∈ m.entries, P e.2) →
        ((l.mapM fun it => (c.through env it.2).map (it.1, ·)).map
          (Container.ofList (textLt_total.toStrictLess.keyLt T))) = some m) := by
  constructor
  · intro w hw e he
    obtain ⟨ws, hws, rfl⟩ := Option.map_eq_some_iff.mp hw
    obtain ⟨it, hit, heq⟩ := mem_of_mapM hws (Container.mem_of_mem_ofList _ he)
    obtain ⟨v, hv, rfl⟩ := Option.map_eq_some_iff.mp heq
    exact (h it (hperm.mem_iff.mp hit)).1 v hv
  · intro hP
    have hall : ∀ it ∈ l, (c.through env it.2).map (it.1, ·) = some it := by
      intro it hit
      have hmem := hperm.mem_iff.mp hit
      rw [(h it hmem).2 (hP it hmem)]
      rfl
    rw [mapM_self hall, Option.map_some, Container.ofList_perm _ hperm]

/-- The keys of a map are distinct, in any order. -/
theorem keys_nodup {m : StdMap T} {l : List (Text × T)} (hperm : l.Perm m.entries) :
    (l.map Prod.fst).Nodup := by
  refine List.pairwise_map.mpr ((Container.pairwise_of_perm hperm).imp ?_)
  intro a b hab heq
  have hself := textLt_total.irrefl b.1
  simp [equiv, keyLt, heq, hself] at hab

end LexicalCast

open LexicalCast

theorem LexicalCast.settles_of_eq {T : Type} {env : Casting} {c : LexicalCast T} {P : T → Prop}
    {x : T} {rhs : Option T} (hthrough : c.through env x = rhs)
    (h : (∀ w, rhs = some w → P w) ∧ (P x → rhs = some x)) : c.Settles env P x := by
  unfold Settles
  rw [hthrough]
  exact h

theorem inverse_partsOf {yaml : Yaml} {α : Type} {built : Option Node} {l : List α}
    {parts : α → List Part} (h : ∀ p ∈ partsOf built l parts, p.Kept yaml) :
    (∀ n ∈ built, yaml.Load (yaml.emit n) = some n) ∧
      ∀ x ∈ l, ∀ p ∈ parts x, p.Kept yaml := by
  constructor
  · intro n hn
    exact h (.node n) (List.mem_append_left _ (List.mem_map_of_mem (Option.mem_toList.mpr hn)))
  · intro x hx p hp
    exact h p (List.mem_append_right _ (List.mem_flatMap.mpr ⟨x, hx, hp⟩))

def Ty.isContainer : Ty → Bool
  | string => false
  | int    => false
  | _      => true

/-- A container goes through YAML as its text is written and read back. -/
theorem Ty.through_eq {env : Casting} {t : Ty} (ht : t.isContainer = true) {v : t.El}
    (hinverse : t.Inverse env v) : (t.cast env).through env v = (t.cast env).roundTrip v := by
  cases t with
  | string => cases ht
  | int => cases ht
  | vector t => exact LexicalCast.through_eq rfl (inverse_partsOf hinverse).1
  | list t => exact LexicalCast.through_eq rfl (inverse_partsOf hinverse).1
  | set t => exact LexicalCast.through_eq rfl (inverse_partsOf hinverse).1
  | unordered_set t => exact LexicalCast.through_eq rfl (inverse_partsOf hinverse).1
  | map t => exact LexicalCast.through_eq rfl (inverse_partsOf hinverse).1
  | unordered_map t => exact LexicalCast.through_eq rfl (inverse_partsOf hinverse).1

theorem LexicalCast.roundTrip_map {T U : Type} {text : Option Text} {f : Text → Option T}
    {g : T → U} : (text.bind fun s => (f s).map g) = (text.bind f).map g := by
  cases text <;> rfl

/-- What comes back of any value is canonical, and what is canonical comes back:
    by induction on the type, a container from its elements. -/
theorem Ty.settles (env : Casting) : ∀ (t : Ty) (v : t.El), t.Inverse env v →
    (t.cast env).Settles env (t.Canonical env) v := by
  intro t
  induction t with
  | string =>
    intro (s : Text) hinverse
    have hthrough : LexicalCast.string.through env s = (env.yaml.Load s).map env.yaml.emit := by
      unfold through node LexicalCast.string
      rw [Option.bind_some]
      -- a string goes through the parser and comes out as the text of what was read
      cases env.yaml.Load s <;> rfl
    refine settles_of_eq hthrough ⟨fun w hw => ?_, id⟩
    obtain ⟨n, hn, rfl⟩ := Option.map_eq_some_iff.mp hw
    have hload : env.yaml.Load (env.yaml.emit n) = some n :=
      hinverse (.node n) (List.mem_map_of_mem (Option.mem_toList.mpr hn))
    show (env.yaml.Load (env.yaml.emit n)).map env.yaml.emit = some (env.yaml.emit n)
    rw [hload]
    rfl
  | int =>
    intro (i : Int) hinverse
    -- an int comes back whatever it is
    obtain ⟨hload, hemit, hdecode⟩ := hinverse (.int i) List.mem_cons_self
    refine ⟨fun _ _ => trivial, fun _ => ?_⟩
    show (LexicalCast.int env).through env i = some i
    unfold through node LexicalCast.int
    simp only [Option.bind_some, hload, hemit, hdecode]
  | vector t ih =>
    intro (l : List t.El) hinverse
    obtain ⟨hbuilt, helements⟩ := inverse_partsOf hinverse
    have hthrough := (Ty.through_eq rfl hinverse).trans (sequence_items hbuilt)
    exact settles_of_eq hthrough (sequence_settles fun x hx => ih x (helements x hx))
  | list t ih =>
    intro (l : List t.El) hinverse
    obtain ⟨hbuilt, helements⟩ := inverse_partsOf hinverse
    have hthrough := (Ty.through_eq rfl hinverse).trans (sequence_items hbuilt)
    exact settles_of_eq hthrough (sequence_settles fun x hx => ih x (helements x hx))
  | set t ih =>
    intro (s : Container t.dom.less) hinverse
    obtain ⟨hbuilt, helements⟩ := inverse_partsOf hinverse
    have hthrough := (Ty.through_eq rfl hinverse).trans (roundTrip_map.trans
      (congrArg (Option.map (Container.ofList t.dom.total.toStrictLess)) (sequence_items hbuilt)))
    exact settles_of_eq hthrough
      (set_settles _ (List.Perm.refl _) fun x hx => ih x (helements x hx))
  | unordered_set t ih =>
    intro (s : Container t.dom.less) hinverse
    obtain ⟨hbuilt, helements⟩ := inverse_partsOf hinverse
    have hthrough := (Ty.through_eq rfl hinverse).trans (roundTrip_map.trans
      (congrArg (Option.map (Container.ofList t.dom.total.toStrictLess)) (sequence_items hbuilt)))
    exact settles_of_eq hthrough
      (set_settles _ (env.perm _ _) fun x hx => ih x (helements x hx))
  | map t ih =>
    intro (m : StdMap t.El) hinverse
    obtain ⟨hbuilt, helements⟩ := inverse_partsOf hinverse
    have hperm : m.entries.Perm m.entries := List.Perm.refl _
    have hthrough := (Ty.through_eq rfl hinverse).trans (roundTrip_map.trans
      (congrArg (Option.map (Container.ofList _)) (map_items (keys_nodup hperm) hbuilt)))
    exact settles_of_eq hthrough (map_settles hperm fun e he => ih e.2 (helements e he))
  | unordered_map t ih =>
    intro (m : StdMap t.El) hinverse
    obtain ⟨hbuilt, helements⟩ := inverse_partsOf hinverse
    have hperm := env.perm _ m.entries
    have hthrough := (Ty.through_eq rfl hinverse).trans (roundTrip_map.trans
      (congrArg (Option.map (Container.ofList _)) (map_items (keys_nodup hperm) hbuilt)))
    exact settles_of_eq hthrough (map_settles hperm fun e he => ih e.2 (helements e he))

end Config

open Config YAML OrderedSet

end MNSER
