import Mnser.Config.LoadYaml
import Mnser.Framework.OrderedSet
import Mnser.Framework.System
import Mnser.Word

/-! # Config

    `Config` keeps its variables in a map from names to objects that are
    shared with whoever looked them up.  Variables are of many types; which
    type a variable has is decided by the first `Lookup` of its name.

    A variable is used through a pointer, the documents know only names.
    Seen from outside there is one variable for a name: section 3 says what
    the operations do there, without the map and the pointers. -/

namespace MNSER

open LTS YAML

namespace Config

/-! ## Section 1: A variable -/

variable {τ : Type} {Val : τ → Type}

section

variable [DecidableEq τ] [∀ t, DecidableEq (Val t)]

/-- `on_change_val`; false where it throws. -/
abbrev OnChange (Val : τ → Type) (t : τ) : Type := Val t → Val t → Bool

/-- A `ConfigVarBase`: a `ConfigVar<T>` of some type. -/
structure ConfigVarBase (Val : τ → Type) where
  m_name        : Text
  m_description : Text
  type          : τ
  m_val         : Val type
  /-- a `std::map<int, …>`, in the order of the keys -/
  m_cbs         : List (Int × OnChange Val type)

namespace ConfigVarBase

/-- `setValue`; the value stays when a listener throws. -/
def setValue (var : ConfigVarBase Val) (v : Val var.type) : ConfigVarBase Val :=
  if v = var.m_val then var
  else if var.m_cbs.all fun it => it.2 var.m_val v then { var with m_val := v }
  else var

/-- `fromString`; what is thrown by the conversion or by a listener is caught. -/
def fromString (FromStr : (t : τ) → Text → Option (Val t)) (var : ConfigVarBase Val) (val : Text) :
    ConfigVarBase Val :=
  match FromStr var.type val with
  | some v => var.setValue v
  | none   => var

/-- `addListener`, under the next `s_cb_id`, which becomes an `int`. -/
def addListener (var : ConfigVarBase Val) (s_cb_id : UInt64) (cb : OnChange Val var.type) :
    ConfigVarBase Val :=
  let key := wrap32 s_cb_id.toNat
  { var with
    m_cbs :=
      if var.m_cbs.any fun it => it.1 = key then
        var.m_cbs.map fun it => if it.1 = key then (key, cb) else it
      else OrderedSet.insert (fun a b => decide (a.1 < b.1)) (key, cb) var.m_cbs }

def delListener (var : ConfigVarBase Val) (cb_id : UInt64) : ConfigVarBase Val :=
  { var with m_cbs := var.m_cbs.filter fun it => it.1 ≠ wrap32 cb_id.toNat }

def clearListener (var : ConfigVarBase Val) : ConfigVarBase Val :=
  { var with m_cbs := [] }

end ConfigVarBase

/-- What is done to a variable of the type that whoever does it knows. -/
inductive Access (Val : τ → Type) where
  | setValue (t : τ) (v : Val t)
  | fromString (val : Text)
  | addListener (t : τ) (cb : OnChange Val t)
  | delListener (cb_id : UInt64)
  | clearListener

/-- The variable afterwards; `none` where it is of another type. -/
def Access.run (FromStr : (t : τ) → Text → Option (Val t)) (s_cb_id : τ → UInt64)
    (var : ConfigVarBase Val) : Access Val → Option (ConfigVarBase Val)
  | .setValue t v     => if h : t = var.type then some (var.setValue (h ▸ v)) else none
  | .fromString val   => some (var.fromString FromStr val)
  | .addListener t cb =>
    if h : t = var.type then some (var.addListener (s_cb_id t + 1) (h ▸ cb)) else none
  | .delListener id   => some (var.delListener id)
  | .clearListener    => some var.clearListener

/-- `s_cb_id` is one number for each type. -/
def Access.count (s_cb_id : τ → UInt64) : Access Val → τ → UInt64
  | .addListener t _ => fun u => if u = t then s_cb_id u + 1 else s_cb_id u
  | _                => s_cb_id

/-- Operations on the variables, which are named by pointers or by names. -/
inductive Label (Val : τ → Type) (Handle : Type) where
  | Lookup (t : τ) (name : Text) (default_value : Val t) (description : Text)
  | access (var : Handle) (a : Access Val)
  | LoadFromYaml (root : Node)

/-! ## Section 2: The map of names -/

structure Registry (Val : τ → Type) where
  /-- `GetDatas()`; a pointer is a place in `vars` -/
  datas   : List (Text × Nat)
  vars    : List (ConfigVarBase Val)
  s_cb_id : τ → UInt64

/-- What `Lookup` gives. -/
inductive Found where
  | var (p : Nat)
  | null
  | invalid_argument
  deriving DecidableEq, Repr

namespace Registry

def empty : Registry Val := ⟨[], [], fun _ => 0⟩

def find (r : Registry Val) (name : Text) : Option Nat := r.datas.lookup name

def LookupBase (r : Registry Val) (name : Text) : Option (ConfigVarBase Val) :=
  (r.find name).bind fun p => r.vars[p]?

/-- `Lookup` with a default value -/
def Lookup (r : Registry Val) (t : τ) (name : Text) (default_value : Val t)
    (description : Text) : Registry Val × Found :=
  match r.find name with
  | some p =>
    -- `dynamic_pointer_cast`
    if (r.vars[p]?).map ConfigVarBase.type = some t then (r, .var p) else (r, .null)
  | none =>
    if validName name then
      ({ r with
          datas := r.datas ++ [(name, r.vars.length)]
          vars  := r.vars ++ [⟨name, description, t, default_value, []⟩] }, .var r.vars.length)
    else (r, .invalid_argument)

/-- `Lookup` without one -/
def LookupOnly (r : Registry Val) (t : τ) (name : Text) : Option Nat :=
  (r.find name).filter fun p => (r.vars[p]?).map ConfigVarBase.type = some t

variable (FromStr : (t : τ) → Text → Option (Val t)) (emit : Node → Text)

def access (r : Registry Val) (p : Nat) (a : Access Val) : Option (Registry Val) := do
  let var ← r.vars[p]?
  let var' ← a.run FromStr r.s_cb_id var
  return { r with vars := r.vars.set p var', s_cb_id := a.count r.s_cb_id }

/-- A node of a document is looked up and read. -/
def fromNode (r : Registry Val) (it : FromString) : Registry Val :=
  match r.find it.var with
  | some p => (r.access FromStr p (.fromString it.val)).getD r
  | none   => r

def LoadFromYaml (r : Registry Val) (root : Node) : Registry Val :=
  (Config.LoadFromYaml emit (fun name => (r.find name).isSome) root).foldl (fromNode FromStr) r

def next (r : Registry Val) : Label Val Nat → Option (Registry Val)
  | .Lookup t name dv description => some (r.Lookup t name dv description).1
  | .access p a                   => r.access FromStr p a
  | .LoadFromYaml root            => some (r.LoadFromYaml FromStr emit root)

end Registry

def registries (FromStr : (t : τ) → Text → Option (Val t)) (emit : Node → Text) :
    System (Registry Val) (Label Val Nat) where
  init := fun r => r = Registry.empty
  next := Registry.next FromStr emit

/-! ## Section 3: One variable for a name -/

/-- The configuration: what each name stands for. -/
structure Settings (Val : τ → Type) where
  var     : Text → Option (ConfigVarBase Val)
  s_cb_id : τ → UInt64

namespace Settings

variable (FromStr : (t : τ) → Text → Option (Val t)) (emit : Node → Text)

def put (s : Settings Val) (name : Text) (var : ConfigVarBase Val) : Settings Val :=
  { s with var := fun k => if k = name then some var else s.var k }

/-- The first default is the one that counts. -/
def declare (s : Settings Val) (t : τ) (name : Text) (default_value : Val t)
    (description : Text) : Settings Val :=
  if s.var name = none ∧ validName name then
    s.put name ⟨name, description, t, default_value, []⟩
  else s

def access (s : Settings Val) (name : Text) (a : Access Val) : Option (Settings Val) := do
  let var ← s.var name
  let var' ← a.run FromStr s.s_cb_id var
  return { s.put name var' with s_cb_id := a.count s.s_cb_id }

/-- A document sets the variables it names, one after the other. -/
def load (s : Settings Val) (root : Node) : Settings Val :=
  (Config.LoadFromYaml emit (fun name => (s.var name).isSome) root).foldl
    (fun s it => (s.access FromStr it.var (.fromString it.val)).getD s) s

def next (s : Settings Val) : Label Val Text → Option (Settings Val)
  | .Lookup t name dv description => some (s.declare t name dv description)
  | .access name a                => s.access FromStr name a
  | .LoadFromYaml root            => some (s.load FromStr emit root)

end Settings

def settings (FromStr : (t : τ) → Text → Option (Val t)) (emit : Node → Text) :
    System (Settings Val) (Label Val Text) where
  init := fun s => s = ⟨fun _ => none, fun _ => 0⟩
  next := Settings.next FromStr emit

/-- A registry seen by names. -/
def Registry.settings (r : Registry Val) : Settings Val := ⟨r.LookupBase, r.s_cb_id⟩

/-- An operation on a pointer is one on the name of its variable. -/
def Registry.named (r : Registry Val) : Label Val Nat → Label Val Text
  | .Lookup t name dv description => .Lookup t name dv description
  | .access p a                   => .access ((r.vars[p]?).elim [] ConfigVarBase.m_name) a
  | .LoadFromYaml root            => .LoadFromYaml root

end

/-! ## Section 4: Pointers and names -/

/-- The name, the description and the type of a variable are for ever. -/
structure ConfigVarBase.Same (var var' : ConfigVarBase Val) : Prop where
  m_name        : var'.m_name = var.m_name
  m_description : var'.m_description = var.m_description
  type          : var'.type = var.type

theorem ConfigVarBase.Same.refl (var : ConfigVarBase Val) : var.Same var := ⟨rfl, rfl, rfl⟩

theorem ConfigVarBase.Same.trans {a b c : ConfigVarBase Val} (hab : a.Same b) (hbc : b.Same c) :
    a.Same c :=
  ⟨hbc.m_name.trans hab.m_name, hbc.m_description.trans hab.m_description,
    hbc.type.trans hab.type⟩

theorem ConfigVarBase.setValue_same [∀ t, DecidableEq (Val t)] (var : ConfigVarBase Val)
    (v : Val var.type) :
    var.Same (var.setValue v) := by
  unfold setValue
  split
  · exact .refl var
  · split
    · exact ⟨rfl, rfl, rfl⟩
    · exact .refl var

theorem Access.run_same [DecidableEq τ] [∀ t, DecidableEq (Val t)]
    {FromStr : (t : τ) → Text → Option (Val t)} {s_cb_id : τ → UInt64} {var var' : ConfigVarBase Val}
    {a : Access Val} (h : a.run FromStr s_cb_id var = some var') : var.Same var' := by
  cases a with
  | setValue t v =>
    simp only [run] at h
    split at h
    · cases h
      exact var.setValue_same _
    · cases h
  | fromString val =>
    cases h
    unfold ConfigVarBase.fromString
    split
    · exact var.setValue_same _
    · exact .refl var
  | addListener t cb =>
    simp only [run] at h
    split at h
    · cases h
      exact ⟨rfl, rfl, rfl⟩
    · cases h
  | delListener cb_id =>
    cases h
    exact ⟨rfl, rfl, rfl⟩
  | clearListener =>
    cases h
    exact ⟨rfl, rfl, rfl⟩

namespace Registry

/-- The names and the variables belong to each other, one to one. -/
structure WellFormed (r : Registry Val) : Prop where
  found : ∀ {name p}, r.find name = some p → ∃ var, r.vars[p]? = some var ∧ var.m_name = name
  owned : ∀ {p var}, r.vars[p]? = some var → r.find var.m_name = some p
  valid : ∀ {name p}, r.find name = some p → validName name = true

/-- What a variable is, and where, does not change. -/
def Keeps (r r' : Registry Val) : Prop :=
  ∀ name p var, r.find name = some p → r.vars[p]? = some var →
    r'.find name = some p ∧ ∃ var', r'.vars[p]? = some var' ∧ var.Same var'

theorem Keeps.refl (r : Registry Val) : r.Keeps r :=
  fun _ _ var hfind hvar => ⟨hfind, var, hvar, .refl var⟩

theorem Keeps.trans {a b c : Registry Val} (hab : a.Keeps b) (hbc : b.Keeps c) : a.Keeps c := by
  intro name p var hfind hvar
  obtain ⟨hfind', var', hvar', hsame⟩ := hab name p var hfind hvar
  obtain ⟨hfind'', var'', hvar'', hsame'⟩ := hbc name p var' hfind' hvar'
  exact ⟨hfind'', var'', hvar'', hsame.trans hsame'⟩

theorem empty_wellFormed : (empty : Registry Val).WellFormed where
  found := by intro name p h; cases h
  owned := by intro p var h; cases h
  valid := by intro name p h; cases h

theorem WellFormed.isSome_find {r : Registry Val} (h : r.WellFormed) (name : Text) :
    (r.find name).isSome = (r.settings.var name).isSome := by
  show _ = ((r.find name).bind fun p => r.vars[p]?).isSome
  cases hfind : r.find name with
  | none => rfl
  | some p =>
    obtain ⟨var, hvar, _⟩ := h.found hfind
    simp [hvar]

/-- A name that is not there yet, and its variable behind the others. -/
theorem WellFormed.add {r : Registry Val} (h : r.WellFormed) {var : ConfigVarBase Val}
    (hnew : r.find var.m_name = none) (hvalid : validName var.m_name = true) :
    let r' : Registry Val := { r with datas := r.datas ++ [(var.m_name, r.vars.length)]
                                      vars  := r.vars ++ [var] }
    r'.WellFormed ∧ r.Keeps r' ∧ r'.settings = r.settings.put var.m_name var := by
  intro r'
  have hfind : ∀ name, r'.find name =
      if name = var.m_name then some r.vars.length else r.find name := by
    intro name
    show (r.datas ++ [(var.m_name, r.vars.length)]).lookup name = _
    rw [List.lookup_append]
    by_cases hname : name = var.m_name
    · rw [if_pos hname, hname, show r.datas.lookup var.m_name = none from hnew]
      simp
    · have hother : (name == var.m_name) = false := beq_eq_false_iff_ne.mpr hname
      rw [if_neg hname, List.lookup_cons, hother]
      exact Option.or_none
  have hvars : ∀ p, r'.vars[p]? = if p = r.vars.length then some var else r.vars[p]? := by
    intro p
    show (r.vars ++ [var])[p]? = _
    rw [List.getElem?_append]
    split
    · rw [if_neg (by omega)]
    · rename_i hge
      by_cases hp : p = r.vars.length
      · simp [hp]
      · rw [if_neg hp, List.getElem?_eq_none (by simp; omega), List.getElem?_eq_none (by omega)]
  -- a pointer that was handed out is a place before the new one
  have hold : ∀ {name p}, r.find name = some p → p ≠ r.vars.length := by
    intro name p hp
    obtain ⟨x, hx, _⟩ := h.found hp
    have hlt := (List.getElem?_eq_some_iff.mp hx).1
    omega
  refine ⟨⟨?_, ?_, ?_⟩, ?_, ?_⟩
  · intro name p hp
    rw [hfind] at hp
    split at hp
    · rename_i hname
      cases hp
      exact ⟨var, by rw [hvars, if_pos rfl], hname.symm⟩
    · obtain ⟨x, hx, hname⟩ := h.found hp
      exact ⟨x, by rw [hvars, if_neg (hold hp)]; exact hx, hname⟩
  · intro p x hx
    rw [hvars] at hx
    split at hx
    · rename_i hp
      cases hx
      rw [hfind, if_pos rfl, hp]
    · have hp := h.owned hx
      rw [hfind, if_neg ?_]
      · exact hp
      · intro hname
        rw [hname, hnew] at hp
        cases hp
  · intro name p hp
    rw [hfind] at hp
    split at hp
    · rename_i hname
      rw [hname]
      exact hvalid
    · exact h.valid hp
  · intro name p x hp hx
    refine ⟨?_, x, ?_, .refl x⟩
    · rw [hfind, if_neg ?_]
      · exact hp
      · intro hname
        rw [hname, hnew] at hp
        cases hp
    · rw [hvars, if_neg (hold hp)]
      exact hx
  · show (⟨r'.LookupBase, r.s_cb_id⟩ : Settings Val) = _
    unfold Settings.put
    congr 1
    funext name
    show (r'.find name).bind (fun p => r'.vars[p]?) = _
    rw [hfind]
    by_cases hname : name = var.m_name
    · rw [if_pos hname, if_pos hname]
      show r'.vars[r.vars.length]? = _
      rw [hvars, if_pos rfl]
    · rw [if_neg hname, if_neg hname]
      show _ = (r.find name).bind fun p => r.vars[p]?
      cases hp : r.find name with
      | none => rfl
      | some p =>
        show r'.vars[p]? = r.vars[p]?
        rw [hvars, if_neg (hold hp)]

/-- A variable is put back changed, but under its name. -/
theorem WellFormed.put {r : Registry Val} (h : r.WellFormed) {p : Nat}
    {var var' : ConfigVarBase Val} (hvar : r.vars[p]? = some var) (hsame : var.Same var')
    (s_cb_id : τ → UInt64) :
    let r' : Registry Val := { r with vars := r.vars.set p var', s_cb_id := s_cb_id }
    r'.WellFormed ∧ r.Keeps r' ∧
      r'.settings = { r.settings.put var.m_name var' with s_cb_id := s_cb_id } := by
  intro r'
  have hlt := (List.getElem?_eq_some_iff.mp hvar).1
  have hvars : ∀ q, r'.vars[q]? = if q = p then some var' else r.vars[q]? := by
    intro q
    show (r.vars.set p var')[q]? = _
    rw [List.getElem?_set]
    by_cases hq : p = q
    · subst hq
      rw [if_pos rfl, if_pos hlt, if_pos rfl]
    · rw [if_neg hq, if_neg (Ne.symm hq)]
  have hkept : ∀ {q : Nat} {x : ConfigVarBase Val}, r.vars[q]? = some x →
      ∃ x', r'.vars[q]? = some x' ∧ ConfigVarBase.Same x x' := by
    intro q x hx
    rw [hvars]
    by_cases hq : q = p
    · subst hq
      obtain rfl := Option.some.inj (hvar.symm.trans hx)
      exact ⟨var', if_pos rfl, hsame⟩
    · rw [if_neg hq]
      exact ⟨x, hx, .refl x⟩
  refine ⟨⟨?_, ?_, h.valid⟩, ?_, ?_⟩
  · intro name q hq
    obtain ⟨x, hx, hname⟩ := h.found hq
    obtain ⟨x', hx', hsame'⟩ := hkept hx
    exact ⟨x', hx', hsame'.m_name.trans hname⟩
  · intro q x hx
    rw [hvars] at hx
    split at hx
    · rename_i hq
      cases hx
      rw [hsame.m_name, hq]
      exact h.owned hvar
    · exact h.owned hx
  · intro name q x hq hx
    exact ⟨hq, hkept hx⟩
  · show (⟨r'.LookupBase, s_cb_id⟩ : Settings Val) = _
    unfold Settings.put
    congr 1
    funext name
    show (r.find name).bind (fun q => r'.vars[q]?) =
      if name = var.m_name then some var' else r.settings.var name
    by_cases hname : name = var.m_name
    · rw [if_pos hname, hname, h.owned hvar]
      show r'.vars[p]? = _
      rw [hvars, if_pos rfl]
    · rw [if_neg hname]
      show _ = (r.find name).bind fun q => r.vars[q]?
      cases hq : r.find name with
      | none => rfl
      | some q =>
        show r'.vars[q]? = r.vars[q]?
        rw [hvars, if_neg ?_]
        -- another name has another pointer
        rintro rfl
        obtain ⟨x, hx, hname'⟩ := h.found hq
        obtain rfl := Option.some.inj (hvar.symm.trans hx)
        exact hname hname'.symm

/-! ## Section 5: Steps -/

variable [DecidableEq τ]

theorem WellFormed.lookup {r : Registry Val} (h : r.WellFormed) (t : τ) (name : Text)
    (default_value : Val t) (description : Text) :
    (r.Lookup t name default_value description).1.WellFormed ∧
      r.Keeps (r.Lookup t name default_value description).1 ∧
      (r.Lookup t name default_value description).1.settings =
        r.settings.declare t name default_value description := by
  have hsome := h.isSome_find name
  unfold Registry.Lookup
  cases hfind : r.find name with
  | some p =>
    rw [hfind] at hsome
    have hdeclare : r.settings.declare t name default_value description = r.settings := by
      rw [Settings.declare, if_neg]
      rintro ⟨hnone, _⟩
      rw [hnone] at hsome
      cases hsome
    rw [hdeclare]
    dsimp only
    split <;> exact ⟨h, .refl r, rfl⟩
  | none =>
    rw [hfind] at hsome
    have hbase : r.settings.var name = none := Option.not_isSome_iff_eq_none.mp (by simp [← hsome])
    by_cases hvalid : validName name = true
    · rw [Settings.declare, if_pos (show _ ∧ _ from ⟨hbase, hvalid⟩)]
      dsimp only
      rw [if_pos hvalid]
      exact @WellFormed.add _ _ _ h ⟨name, description, t, default_value, []⟩ hfind hvalid
    · rw [Settings.declare, if_neg (show ¬ (_ ∧ _) from fun hboth => hvalid hboth.2)]
      dsimp only
      rw [if_neg hvalid]
      exact ⟨h, .refl r, rfl⟩

variable [∀ t, DecidableEq (Val t)] {FromStr : (t : τ) → Text → Option (Val t)}
  {emit : Node → Text}

theorem WellFormed.access {r r' : Registry Val} (h : r.WellFormed) {p : Nat} {a : Access Val}
    (hnext : r.access FromStr p a = some r') :
    r'.WellFormed ∧ r.Keeps r' ∧ ∃ var, r.vars[p]? = some var ∧
      r.settings.access FromStr var.m_name a = some r'.settings := by
  obtain ⟨var, hvar, hnext⟩ := Option.bind_eq_some_iff.mp hnext
  obtain ⟨var', hrun, hnext⟩ := Option.bind_eq_some_iff.mp hnext
  cases hnext
  obtain ⟨h', hkeeps, hsettings⟩ := h.put hvar (Access.run_same hrun) (a.count r.s_cb_id)
  refine ⟨h', hkeeps, var, hvar, ?_⟩
  have hbase : r.settings.var var.m_name = some var := by
    show (r.find var.m_name).bind (fun p => r.vars[p]?) = some var
    rw [h.owned hvar]
    exact hvar
  rw [hsettings, Settings.access, hbase]
  show (a.run FromStr r.s_cb_id var).bind _ = _
  rw [hrun]
  rfl

/-- Reading a node always succeeds, and is nothing for a name that is not
    registered. -/
theorem WellFormed.fromNode (FromStr : (t : τ) → Text → Option (Val t)) {r : Registry Val}
    (h : r.WellFormed) (it : FromString) :
    (r.fromNode FromStr it).WellFormed ∧ r.Keeps (r.fromNode FromStr it) ∧
      (r.fromNode FromStr it).settings =
        (r.settings.access FromStr it.var (.fromString it.val)).getD r.settings := by
  cases hfind : r.find it.var with
  | none =>
    have hbase : r.settings.var it.var = none := by
      show (r.find it.var).bind _ = none
      rw [hfind]
      rfl
    rw [Registry.fromNode, hfind, Settings.access, hbase]
    exact ⟨h, .refl r, rfl⟩
  | some p =>
    obtain ⟨var, hvar, hname⟩ := h.found hfind
    have hsome : r.access FromStr p (.fromString it.val) = some
        { r with vars := r.vars.set p (var.fromString FromStr it.val), s_cb_id := r.s_cb_id } := by
      rw [Registry.access, hvar]
      rfl
    obtain ⟨h', hkeeps, x, hx, hsettings⟩ := h.access hsome
    obtain rfl := Option.some.inj (hvar.symm.trans hx)
    rw [hname] at hsettings
    simp only [Registry.fromNode, hfind]
    rw [hsome, hsettings]
    exact ⟨h', hkeeps, rfl⟩

theorem WellFormed.foldl (FromStr : (t : τ) → Text → Option (Val t)) {r : Registry Val}
    (h : r.WellFormed) (calls : List FromString) :
    (calls.foldl (Registry.fromNode FromStr) r).WellFormed ∧
      r.Keeps (calls.foldl (Registry.fromNode FromStr) r) ∧
      (calls.foldl (Registry.fromNode FromStr) r).settings = calls.foldl
        (fun s it => (s.access FromStr it.var (.fromString it.val)).getD s) r.settings := by
  induction calls generalizing r with
  | nil => exact ⟨h, .refl r, rfl⟩
  | cons it calls ih =>
    obtain ⟨h₁, hkeeps₁, hsettings₁⟩ := WellFormed.fromNode FromStr h it
    obtain ⟨h₂, hkeeps₂, hsettings₂⟩ := ih h₁
    rw [hsettings₁] at hsettings₂
    exact ⟨h₂, hkeeps₁.trans hkeeps₂, hsettings₂⟩

/-- An operation on the objects is the operation of the same name on what the
    names stand for. -/
theorem WellFormed.next {r r' : Registry Val} (h : r.WellFormed) {l : Label Val Nat}
    (hnext : r.next FromStr emit l = some r') :
    r'.WellFormed ∧ r.Keeps r' ∧ r.settings.next FromStr emit (r.named l) = some r'.settings := by
  cases l with
  | Lookup t name default_value description =>
    cases hnext
    obtain ⟨h', hkeeps, hsettings⟩ := h.lookup t name default_value description
    exact ⟨h', hkeeps, congrArg some hsettings.symm⟩
  | access p a =>
    obtain ⟨h', hkeeps, var, hvar, hsettings⟩ := h.access hnext
    refine ⟨h', hkeeps, ?_⟩
    rw [Registry.named, hvar]
    exact hsettings
  | LoadFromYaml root =>
    cases hnext
    have hsome : (fun name => (r.find name).isSome) = fun name => (r.settings.var name).isSome :=
      funext h.isSome_find
    obtain ⟨h', hkeeps, hsettings⟩ := WellFormed.foldl FromStr h
      (Config.LoadFromYaml emit (fun name => (r.find name).isSome) root)
    refine ⟨h', hkeeps, congrArg some ?_⟩
    show r.settings.load FromStr emit root = _
    rw [Settings.load, ← hsome]
    exact hsettings.symm

end Registry

end Config

open Config

/-- In every run the objects behind the pointers do what a configuration with
    one variable for each name does.  Once a name has been found it stands for
    the same object, of the same type, for ever; and a `Lookup` gives this
    object to those who ask for its type, nothing to the others, and throws
    only for a name that is neither known nor valid. -/
theorem registry_refines_settings {τ : Type} {Val : τ → Type} [DecidableEq τ]
    [∀ t, DecidableEq (Val t)] {FromStr : (t : τ) → Text → Option (Val t)} {emit : Node → Text}
    {r : Registry Val} {tr : List (Registry Val × Label Val Nat)}
    (hrun : Run (registries FromStr emit) Registry.empty tr r) :
    Run (settings FromStr emit) Registry.empty.settings
      (tr.map fun step => (step.1.settings, step.1.named step.2)) r.settings ∧
    (∀ step ∈ tr, ∀ name p var, step.1.find name = some p → step.1.vars[p]? = some var →
      r.find name = some p ∧ ∃ var', r.vars[p]? = some var' ∧ var.Same var') ∧
    (∀ t name default_value description,
      (r.Lookup t name default_value description).2 =
        match r.find name with
        | some p => if (r.settings.var name).map ConfigVarBase.type = some t then .var p else .null
        | none   => if validName name then .var r.vars.length else .invalid_argument) ∧
    (∀ t name, r.LookupOnly t name =
      if (r.settings.var name).map ConfigVarBase.type = some t then r.find name else none) := by
  -- the three are kept together by every step, from the empty registry
  have hall : r.WellFormed ∧
      Run (settings FromStr emit) Registry.empty.settings
        (tr.map fun step => (step.1.settings, step.1.named step.2)) r.settings ∧
      ∀ step ∈ tr, step.1.Keeps r := by
    refine hrun.trace_invariant (I := fun tr r => r.WellFormed ∧
      Run (settings FromStr emit) Registry.empty.settings
        (tr.map fun step => (step.1.settings, step.1.named step.2)) r.settings ∧
      ∀ step ∈ tr, step.1.Keeps r) ?_ ⟨Registry.empty_wellFormed, .nil, by simp⟩
    rintro tr s l t ⟨h, hrun', hkept⟩ hnext
    obtain ⟨h', hkeeps, hsettings⟩ := h.next hnext
    refine ⟨h', ?_, ?_⟩
    · rw [List.map_append]
      exact .snoc hrun' hsettings
    · intro step hstep
      rcases List.mem_append.mp hstep with hstep | hstep
      · exact (hkept step hstep).trans hkeeps
      · obtain rfl := List.mem_singleton.mp hstep
        exact hkeeps
  -- the settings read the variable through the map
  have hbase : ∀ {name p}, r.find name = some p → r.settings.var name = r.vars[p]? := by
    intro name p hfind
    show (r.find name).bind _ = _
    rw [hfind]
    rfl
  refine ⟨hall.2.1, fun step hstep => hall.2.2 step hstep, ?_, ?_⟩
  · intro t name default_value description
    unfold Registry.Lookup
    cases hfind : r.find name with
    | none =>
      dsimp only
      split <;> rfl
    | some p =>
      rw [hbase hfind]
      dsimp only
      split <;> rfl
  · intro t name
    unfold Registry.LookupOnly
    cases hfind : r.find name with
    | none => rw [ite_self, Option.filter_none]
    | some p =>
      rw [hbase hfind, Option.filter_some]
      simp only [decide_eq_true_eq]

/-- Two of the types: a string and a number. -/
abbrev Config.StringOrInt : Bool → Type
  | true  => Text
  | false => Int

instance : (t : Bool) → DecidableEq (StringOrInt t)
  | true  => inferInstanceAs (DecidableEq Text)
  | false => inferInstanceAs (DecidableEq Int)

/-- Of the numbers only one digit. -/
def Config.stringOrInt : (t : Bool) → Text → Option (StringOrInt t)
  | true, s    => some s
  | false, [c] => if 48 ≤ c ∧ c ≤ 57 then some ((c.toNat : Int) - 48) else none
  | false, _   => none

/-- A document is read before the number it names is looked up, and again
    afterwards; a listener throws for negative numbers. -/
theorem registry_refines_settings_port :
    let port := text "tcp.port"
    ∃ r tr, Run (registries stringOrInt fun _ => []) Registry.empty tr r ∧
      (r.find port).isSome ∧ (r.vars.map ConfigVarBase.m_name) = [port] ∧
      (r.Lookup false port 0 []).2 = .var 0 ∧ (r.Lookup true port [] []).2 = .null ∧
      Run (settings stringOrInt fun _ => []) Registry.empty.settings
        (tr.map fun step => (step.1.settings, step.1.named step.2)) r.settings := by
  intro port
  let document := Node.map
    [(.scalar (text "tcp"), .map [(.scalar (text "port"), .scalar (text "8"))])]
  have hrun := (registries stringOrInt fun _ => []).run_of_exec (s := Registry.empty)
    [.LoadFromYaml document, .Lookup false port 80 [], .Lookup true port [] [],
     .access 0 (.addListener false fun _ new => decide (0 ≤ new)), .LoadFromYaml document,
     .access 0 (.setValue false (-1))]
    (by decide +kernel)
  have hsettings := (registry_refines_settings hrun).1
  exact ⟨_, _, hrun, by decide +kernel, by decide +kernel, by decide +kernel, by decide +kernel,
    hsettings⟩

end MNSER
