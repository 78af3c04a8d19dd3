import Mnser.Framework.System
import Mnser.Log.Model

/-! # Which logger has a name

    `LoggerManager` as a map from names to pointers.  `getLogger` and the two
    `addLogger` insert into one map: `getLogger` makes a logger only for a new
    name, `addLogger(logger)` does not overwrite either, but
    `addLogger(name)` does; and only a logger that the manager has made itself
    knows the root logger. -/

namespace MNSER

namespace Log

open LTS

/-! ## Section 1: The manager -/

/-- A `Logger` object; `appenders` says whether it has any. -/
structure LoggerObject where
  m_name    : Str
  appenders : Bool
  m_root    : Option Nat
  deriving DecidableEq

/-- The loggers that have been made, each under its pointer, and the map. -/
structure Registry where
  objects   : List LoggerObject
  m_root    : Nat
  m_loggers : Str → Option Nat
  valid     : ∀ name p, m_loggers name = some p → p < objects.length

namespace Registry

/-- `m_loggers[name] = new Logger`; the pointer is the old number of objects. -/
def insertNew (s : Registry) (name : Str) (object : LoggerObject) : Registry where
  objects := s.objects ++ [object]
  m_root := s.m_root
  m_loggers n := if n = name then some s.objects.length else s.m_loggers n
  valid n p hp := by
    rw [List.length_append, List.length_singleton]
    split at hp
    · obtain rfl := Option.some.inj hp
      exact Nat.lt_succ_self _
    · exact Nat.lt_succ_of_lt (s.valid n p hp)

/-- `LoggerManager::LoggerManager` -/
def start : Registry where
  objects := [⟨str "root", true, none⟩]
  m_root := 0
  m_loggers n := if n = str "root" then some 0 else none
  valid n p hp := by
    split at hp
    · obtain rfl := Option.some.inj hp
      exact Nat.zero_lt_one
    · cases hp

/-- `_addLogger`: the new logger and the manager after it. -/
def addNew (s : Registry) (name : Str) : Nat × Registry :=
  (s.objects.length, s.insertNew name ⟨name, false, some s.m_root⟩)

def getLogger (s : Registry) (name : Str) : Nat × Registry :=
  match s.m_loggers name with
  | some p => (p, s)
  | none => s.addNew name

def getRoot (s : Registry) : Nat := s.m_root

/-- `addLogger` of a name -/
def addName (s : Registry) (name : Str) : Registry := (s.addNew name).2

/-- `addLogger` of an object -/
def addLogger (s : Registry) (p : Fin s.objects.length) : Registry :=
  let name := s.objects[p].m_name
  match s.m_loggers name with
  | some _ => s
  | none =>
    { s with
      m_loggers := fun n => if n = name then some p else s.m_loggers n
      valid := fun n q hq => by
        split at hq
        · obtain rfl := Option.some.inj hq
          exact p.isLt
        · exact s.valid n q hq }

/-- A logger that the caller has made. -/
def make (s : Registry) (object : LoggerObject) : Registry where
  objects := s.objects ++ [object]
  m_root := s.m_root
  m_loggers := s.m_loggers
  valid n p hp := by
    rw [List.length_append]
    exact Nat.lt_add_right _ (s.valid n p hp)

end Registry

inductive RegistryLabel where
  | getLogger (name : Str)
  | addName (name : Str)
  | addLogger (p : Nat)
  | make (object : LoggerObject)
  deriving DecidableEq

namespace Registry

def next (s : Registry) : RegistryLabel → Option Registry
  | .getLogger name => some (s.getLogger name).2
  | .addName name => some (s.addName name)
  | .addLogger p => if h : p < s.objects.length then some (s.addLogger ⟨p, h⟩) else none
  | .make object => some (s.make object)

end Registry

/-- Any calls, in any order. -/
def registries : System Registry RegistryLabel where
  init s := s = Registry.start
  next   := Registry.next

namespace Registry

/-! ## Section 2: What is to hold -/

/-- The loggers of `s` still have their names in `u`. -/
def Same (s u : Registry) : Prop := ∀ n p, s.m_loggers n = some p → u.m_loggers n = some p

/-- A logger that passes its events on has the root logger to pass them to. -/
def Passes (u : Registry) (object : LoggerObject) : Prop :=
  object.appenders = false → object.m_root = some u.m_root

/-- The root logger has its name, and one step leads to it from every
    registered logger without appenders. -/
structure Rooted (u : Registry) : Prop where
  root   : u.m_loggers (str "root") = some u.m_root
  passes : ∀ n p object, u.m_loggers n = some p → u.objects[p]? = some object → u.Passes object

/-- A name is given away by `addLogger(name)` once. -/
def Fresh (s : Registry) : RegistryLabel → Prop
  | .addName name => s.m_loggers name = none
  | _ => True

/-- A logger that becomes registered has appenders or knows the root logger. -/
def Connected (s : Registry) : RegistryLabel → Prop
  | .addLogger p => ∀ object ∈ s.objects[p]?, s.m_loggers object.m_name = none → s.Passes object
  | _ => True

instance (s : Registry) (l : RegistryLabel) : Decidable (s.Fresh l) := by
  cases l <;> unfold Fresh <;> infer_instance

instance (s : Registry) (object : LoggerObject) : Decidable (s.Passes object) :=
  inferInstanceAs (Decidable (_ → _))

instance (s : Registry) (l : RegistryLabel) : Decidable (s.Connected l) := by
  cases l <;> unfold Connected <;> infer_instance

theorem getElem?_append_old {s : Registry} {n : Str} {p : Nat} (h : s.m_loggers n = some p)
    (object : LoggerObject) : (s.objects ++ [object])[p]? = s.objects[p]? :=
  List.getElem?_append_left (s.valid n p h)

/-! ## Section 3: One step -/

theorem same_refl (s : Registry) : Same s s := fun _ _ h => h

theorem Same.trans {a b c : Registry} (hab : Same a b) (hbc : Same b c) : Same a c :=
  fun n p h => hbc n p (hab n p h)

theorem insertNew_same {s : Registry} {name : Str} (hnone : s.m_loggers name = none)
    (object : LoggerObject) : Same s (s.insertNew name object) := by
  intro n p h
  have hne : n ≠ name := by
    rintro rfl
    rw [hnone] at h
    cases h
  exact (if_neg hne).trans h

/-- A second logger for a name is another object. -/
theorem addName_same_iff (s : Registry) (name : Str) :
    Same s (s.addName name) ↔ s.m_loggers name = none := by
  constructor
  · intro hsame
    cases hname : s.m_loggers name with
    | none => rfl
    | some p =>
      have hnew : (s.addName name).m_loggers name = some s.objects.length := if_pos rfl
      rw [hsame name p hname] at hnew
      have hlt := s.valid name p hname
      rw [Option.some.inj hnew] at hlt
      exact absurd hlt (Nat.lt_irrefl _)
  · intro hnone
    exact insertNew_same hnone _

/-- The state after `addLogger` of a logger whose name is new. -/
theorem addLogger_new {s : Registry} {p : Fin s.objects.length}
    (h : s.m_loggers s.objects[p].m_name = none) :
    (s.addLogger p).objects = s.objects ∧ (s.addLogger p).m_root = s.m_root ∧
      ∀ n, (s.addLogger p).m_loggers n =
        if n = s.objects[p].m_name then some p.val else s.m_loggers n := by
  unfold addLogger
  simp only
  split
  · rename_i q hq
    rw [h] at hq
    cases hq
  · exact ⟨rfl, rfl, fun _ => rfl⟩

theorem addLogger_old {s : Registry} {p : Fin s.objects.length} {q : Nat}
    (h : s.m_loggers s.objects[p].m_name = some q) : s.addLogger p = s := by
  unfold addLogger
  simp only
  split
  · rfl
  · rename_i hnone
    rw [h] at hnone
    cases hnone

theorem getLogger_old {s : Registry} {name : Str} {p : Nat} (h : s.m_loggers name = some p) :
    s.getLogger name = (p, s) := by
  rw [getLogger, h]

theorem getLogger_new {s : Registry} {name : Str} (h : s.m_loggers name = none) :
    s.getLogger name = s.addNew name := by
  rw [getLogger, h]

theorem same_next_iff {s t : Registry} {l : RegistryLabel} (hnext : registries.next s l = some t) :
    Same s t ↔ s.Fresh l := by
  cases l with
  | getLogger name =>
    obtain rfl := Option.some.inj hnext
    refine ⟨fun _ => trivial, fun _ => ?_⟩
    cases hname : s.m_loggers name with
    | none =>
      rw [getLogger_new hname]
      exact insertNew_same hname _
    | some p =>
      rw [getLogger_old hname]
      exact same_refl s
  | addName name =>
    obtain rfl := Option.some.inj hnext
    exact addName_same_iff s name
  | addLogger p =>
    refine ⟨fun _ => trivial, fun _ => ?_⟩
    by_cases hp : p < s.objects.length
    · obtain rfl : s.addLogger ⟨p, hp⟩ = t := Option.some.inj ((dif_pos hp).symm.trans hnext)
      -- a name that is taken keeps its object, a free one is new to everybody
      cases hname : s.m_loggers s.objects[(⟨p, hp⟩ : Fin s.objects.length)].m_name with
      | none =>
        intro n q hq
        rw [(addLogger_new hname).2.2 n, if_neg]
        · exact hq
        · rintro rfl
          rw [hname] at hq
          cases hq
      | some q =>
        rw [addLogger_old hname]
        exact same_refl s
    · have hnone : registries.next s (.addLogger p) = none := dif_neg hp
      rw [hnone] at hnext
      cases hnext
  | make object =>
    obtain rfl := Option.some.inj hnext
    exact ⟨fun _ => trivial, fun _ => same_refl s⟩

/-- A logger that the manager makes for a new name passes its events on. -/
theorem insertNew_rooted {s : Registry} (h : s.Rooted) {name : Str}
    (hnone : s.m_loggers name = none) : (s.addName name).Rooted := by
  constructor
  · exact insertNew_same hnone _ _ _ h.root
  · intro n p object hp hobject
    have hp' : (if n = name then some s.objects.length else s.m_loggers n) = some p := hp
    have hobject' : (s.objects ++ [⟨name, false, some s.m_root⟩])[p]? = some object := hobject
    split at hp'
    · obtain rfl := Option.some.inj hp'
      rw [List.getElem?_concat_length] at hobject'
      obtain rfl := Option.some.inj hobject'
      exact fun _ => rfl
    · rw [getElem?_append_old hp'] at hobject'
      exact h.passes n p object hp' hobject'

theorem rooted_next_iff {s t : Registry} {l : RegistryLabel} (h : s.Rooted) (hfresh : s.Fresh l)
    (hnext : registries.next s l = some t) : t.Rooted ↔ s.Connected l := by
  cases l with
  | getLogger name =>
    obtain rfl := Option.some.inj hnext
    refine ⟨fun _ => trivial, fun _ => ?_⟩
    cases hname : s.m_loggers name with
    | none =>
      rw [getLogger_new hname]
      exact insertNew_rooted h hname
    | some p =>
      rw [getLogger_old hname]
      exact h
  | addName name =>
    obtain rfl := Option.some.inj hnext
    exact ⟨fun _ => trivial, fun _ => insertNew_rooted h hfresh⟩
  | addLogger p =>
    by_cases hp : p < s.objects.length
    · obtain rfl : s.addLogger ⟨p, hp⟩ = t := Option.some.inj ((dif_pos hp).symm.trans hnext)
      have hobject : s.objects[p]? = some s.objects[p] := List.getElem?_eq_getElem hp
      -- only a logger that comes in from outside can have appenders and no root
      cases hname : s.m_loggers s.objects[p].m_name with
      | none =>
        obtain ⟨hobjects, hroot, hloggers⟩ := @addLogger_new s ⟨p, hp⟩ hname
        constructor
        · intro ht object hobj _ happ
          obtain rfl := Option.some.inj (hobject.symm.trans hobj)
          have hin : (s.addLogger ⟨p, hp⟩).m_loggers s.objects[p].m_name = some p :=
            (hloggers _).trans (if_pos rfl)
          have hpass := ht.passes _ p _ hin (by rw [hobjects]; exact hobject) happ
          rwa [hroot] at hpass
        · intro hconn
          constructor
          · rw [hloggers, if_neg, h.root, hroot]
            intro heq
            have hsome : s.m_loggers s.objects[p].m_name = some s.m_root := heq ▸ h.root
            rw [hname] at hsome
            cases hsome
          · intro n q object hq hobj happ
            rw [hobjects] at hobj
            rw [hroot]
            rw [hloggers] at hq
            split at hq
            · obtain rfl := Option.some.inj hq
              obtain rfl := Option.some.inj (hobject.symm.trans hobj)
              exact hconn _ hobject hname happ
            · exact h.passes n q object hq hobj happ
      | some q =>
        rw [@addLogger_old s ⟨p, hp⟩ q hname]
        refine ⟨fun _ object hobj hnone => ?_, fun _ => h⟩
        obtain rfl := Option.some.inj (hobject.symm.trans hobj)
        rw [hname] at hnone
        cases hnone
    · have hnone : registries.next s (.addLogger p) = none := dif_neg hp
      rw [hnone] at hnext
      cases hnext
  | make object =>
    obtain rfl := Option.some.inj hnext
    refine ⟨fun _ => trivial, fun _ => ⟨h.root, ?_⟩⟩
    intro n p o hp ho
    have hp' : s.m_loggers n = some p := hp
    have ho' : (s.objects ++ [object])[p]? = some o := ho
    rw [getElem?_append_old hp'] at ho'
    exact h.passes n p o hp' ho'

/-! ## Section 4: Runs -/

/-- No object goes away, and the root logger stays the root logger. -/
def Grows (s u : Registry) : Prop := s.objects.length ≤ u.objects.length ∧ u.m_root = s.m_root

theorem grows_next {s t : Registry} {l : RegistryLabel} (hnext : registries.next s l = some t) :
    Grows s t := by
  cases l with
  | getLogger name =>
    obtain rfl := Option.some.inj hnext
    cases hname : s.m_loggers name with
    | none =>
      rw [getLogger_new hname]
      exact ⟨by simp [addNew, insertNew], rfl⟩
    | some p =>
      rw [getLogger_old hname]
      exact ⟨le_refl _, rfl⟩
  | addName name =>
    obtain rfl := Option.some.inj hnext
    exact ⟨by simp [addName, addNew, insertNew], rfl⟩
  | addLogger p =>
    by_cases hp : p < s.objects.length
    · obtain rfl : s.addLogger ⟨p, hp⟩ = t := Option.some.inj ((dif_pos hp).symm.trans hnext)
      cases hname : s.m_loggers s.objects[p].m_name with
      | none =>
        obtain ⟨hobjects, hroot, -⟩ := @addLogger_new s ⟨p, hp⟩ hname
        exact ⟨by rw [hobjects], hroot⟩
      | some q =>
        rw [@addLogger_old s ⟨p, hp⟩ q hname]
        exact ⟨le_refl _, rfl⟩
    · have hnone : registries.next s (.addLogger p) = none := dif_neg hp
      rw [hnone] at hnext
      cases hnext
  | make object =>
    obtain rfl := Option.some.inj hnext
    exact ⟨by simp [make], rfl⟩

theorem run_grows {s t : Registry} {tr : List (Registry × RegistryLabel)}
    (hrun : Run registries s tr t) : (states tr t).Pairwise Grows := by
  refine (hrun.pairwise_iff (G := fun _ _ => True) ?_ ?_).mpr fun _ _ => trivial
  · intro a b c hab hbc
    exact ⟨hab.1.trans hbc.1, hbc.2.trans hab.2⟩
  · intro s l t hnext
    exact ⟨fun _ => trivial, fun _ => grows_next hnext⟩

/-- What `getLogger` returns for a name: the logger in the map, or a new object. -/
theorem getLogger_fst_iff {u : Registry} {n : Str} {p : Nat} (hp : p < u.objects.length) :
    (u.getLogger n).1 = p ↔ u.m_loggers n = some p := by
  cases hname : u.m_loggers n with
  | none =>
    rw [getLogger_new hname]
    have hne : u.objects.length ≠ p := by omega
    simp [addNew, hne]
  | some q =>
    rw [getLogger_old hname]
    simp

/-- A logger once returned or registered for a name is what `getLogger` returns
    ever after. -/
def Identity (tr : List (Registry × RegistryLabel)) (t : Registry) : Prop :=
  (states tr t).Pairwise fun s u => ∀ n p, s.m_loggers n = some p → (u.getLogger n).1 = p

/-- `getRoot()` and `getLogger("root")` are one object, and the root logger is
    one step away from the loggers without appenders. -/
def RootInReach (u : Registry) : Prop :=
  (u.getLogger (str "root")).1 = u.getRoot ∧
    ∀ n p object, u.m_loggers n = some p → u.objects[p]? = some object →
      object.appenders = false → object.m_root = some u.getRoot

theorem identity_iff {s t : Registry} {tr : List (Registry × RegistryLabel)}
    (hrun : Run registries s tr t) : Identity tr t ↔ (states tr t).Pairwise Same := by
  have hgrows := run_grows hrun
  constructor
  · intro h
    refine (hgrows.and h).imp ?_
    rintro a b ⟨hgrow, hsame⟩ n p hp
    have hlt : p < b.objects.length := Nat.lt_of_lt_of_le (a.valid n p hp) hgrow.1
    exact (getLogger_fst_iff hlt).mp (hsame n p hp)
  · intro h
    refine h.imp ?_
    intro a b hsame n p hp
    exact (getLogger_fst_iff (b.valid n p (hsame n p hp))).mpr (hsame n p hp)

theorem rooted_start : start.Rooted := by
  refine ⟨rfl, ?_⟩
  intro n p object hp hobject happ
  have hp' : (if n = str "root" then some 0 else none) = some p := hp
  split at hp'
  · obtain rfl := Option.some.inj hp'
    obtain rfl : (⟨str "root", true, none⟩ : LoggerObject) = object := Option.some.inj hobject
    cases happ
  · cases hp'

theorem rootInReach_iff {u : Registry} (hroot : u.m_root < u.objects.length) :
    u.RootInReach ↔ u.Rooted := by
  constructor
  · rintro ⟨hget, hpass⟩
    exact ⟨(getLogger_fst_iff hroot).mp hget, hpass⟩
  · intro h
    exact ⟨(getLogger_fst_iff hroot).mpr h.root, h.passes⟩

/-- The root logger of every state is an object that has been made. -/
theorem root_lt {tr : List (Registry × RegistryLabel)} {t : Registry}
    (hrun : Run registries start tr t) : ∀ u ∈ states tr t, u.m_root < u.objects.length := by
  refine hrun.states_invariant (G := fun _ _ => True) ?_ (fun _ _ => trivial) Nat.zero_lt_one
  intro s l u hs _ hnext
  obtain ⟨hlength, hroot⟩ := grows_next hnext
  rw [hroot]
  exact Nat.lt_of_lt_of_le hs hlength

theorem identity_and_reach_iff {tr : List (Registry × RegistryLabel)} {t : Registry}
    (hrun : Run registries start tr t) :
    Identity tr t ∧ (∀ u ∈ states tr t, u.RootInReach) ↔
      ∀ p ∈ tr, p.1.Fresh p.2 ∧ p.1.Connected p.2 := by
  have hroot := root_lt hrun
  have hreach : (∀ u ∈ states tr t, u.RootInReach) ↔ ∀ u ∈ states tr t, u.Rooted := by
    constructor
    · exact fun h u hu => (rootInReach_iff (hroot u hu)).mp (h u hu)
    · exact fun h u hu => (rootInReach_iff (hroot u hu)).mpr (h u hu)
  have hsame : (states tr t).Pairwise Same ↔ ∀ p ∈ tr, p.1.Fresh p.2 :=
    hrun.pairwise_iff (G := Fresh) (R := Same) (fun hab hbc => hab.trans hbc)
      fun _ _ _ hnext => same_next_iff hnext
  -- where names are fresh, only the other condition is left
  have hrooted : (∀ p ∈ tr, p.1.Fresh p.2) →
      ((∀ u ∈ states tr t, u.Rooted) ↔ ∀ p ∈ tr, p.1.Connected p.2) := fun hfresh =>
    hrun.states_iff_of (I := fun _ => True) (fun _ _ _ _ _ _ _ => trivial)
      (fun _ _ _ _ h hl hnext => rooted_next_iff h hl hnext) hfresh trivial rooted_start
  rw [identity_iff hrun, hreach, hsame]
  constructor
  · rintro ⟨hfresh, hall⟩ p hp
    exact ⟨hfresh p hp, (hrooted hfresh).mp hall p hp⟩
  · intro h
    have hfresh : ∀ p ∈ tr, p.1.Fresh p.2 := fun p hp => (h p hp).1
    exact ⟨hfresh, (hrooted hfresh).mpr fun p hp => (h p hp).2⟩

end Registry

end Log

open Log LTS in
/-- Exactly when every name keeps its logger in a run, and the root logger
    stays in reach of the others. -/
theorem logger_identity_iff {tr : List (Registry × RegistryLabel)} {t : Registry}
    (hrun : Run registries Registry.start tr t) :
    Registry.Identity tr t ∧ (∀ u ∈ states tr t, u.RootInReach) ↔
      ∀ p ∈ tr, p.1.Fresh p.2 ∧ p.1.Connected p.2 :=
  Registry.identity_and_reach_iff hrun

open Log LTS in
/-- Loggers made for new names, one of them by the caller, with an appender. -/
theorem logger_identity_usual :
    let labels : List RegistryLabel :=
      [.getLogger (str "system"), .addName (str "http"), .make ⟨str "x", true, none⟩, .addLogger 3,
        .getLogger (str "root")]
    ∃ h : (registries.exec Registry.start labels).isSome = true,
      Registry.Identity (registries.trace Registry.start labels)
          ((registries.exec Registry.start labels).get h) ∧
        ∀ u ∈ states (registries.trace Registry.start labels)
          ((registries.exec Registry.start labels).get h), u.RootInReach :=
  ⟨by decide, (logger_identity_iff (registries.run_of_exec _ (by decide))).mpr (by decide)⟩

namespace Log

open LTS

/-- `getLogger("system")`, then `addLogger("system")` -/
def addAgain : List RegistryLabel := [.getLogger (str "system"), .addName (str "system")]

end Log

open Log LTS in
/-- After `addLogger("system")` another object has the name than was returned. -/
theorem addLogger_replaces :
    (Registry.start.getLogger (str "system")).1 = 1 ∧
      ((registries.exec Registry.start addAgain).map fun u => (u.getLogger (str "system")).1) = some 2 ∧
      ¬ ∀ tr t, Run registries Registry.start tr t →
        Registry.Identity tr t ∧ ∀ u ∈ states tr t, u.RootInReach := by
  refine ⟨by decide, by decide, ?_⟩
  intro hall
  have hrun := registries.run_of_exec addAgain (s := Registry.start) (by decide)
  have hfresh := (Registry.identity_and_reach_iff hrun).mp (hall _ _ hrun)
  exact absurd hfresh (by decide)

end MNSER
