import Mathlib.Data.List.Basic

/-! # Labelled transition systems with executable steps

    A `System` has a predicate on initial states and a partial step
    function: `next s l = some s'` when the label `l` is enabled in `s` and
    leads to `s'`.  Everything the environment decides (which thread moves,
    what a system call answers, what the clock reads) is part of the label,
    so a run is determined by its labels and can be evaluated.

    A `Run` keeps, for every step, the state it was taken in together with
    its label.  Conditions on the steps of a run are predicates on these
    pairs; the rules below turn what one step does into what holds after a
    whole run, with or without such a condition. -/

namespace LTS

universe u v w

structure System (State : Type u) (Label : Type v) where
  init : State → Prop
  next : State → Label → Option State

variable {State : Type u} {Label : Type v}

/-! ## Section 1: Runs -/

/-- `Run sys s tr t`: the steps `tr`, taken in order from `s`, end in `t`. -/
inductive Run (sys : System State Label) (s : State) :
    List (State × Label) → State → Prop where
  | nil  : Run sys s [] s
  | snoc : ∀ {t u : State} {tr : List (State × Label)} {l : Label},
             Run sys s tr t → sys.next t l = some u → Run sys s (tr ++ [(t, l)]) u

def Reachable (sys : System State Label) (s : State) : Prop :=
  ∃ s₀ tr, sys.init s₀ ∧ Run sys s₀ tr s

/-- Evaluate a list of labels; `none` as soon as one of them is not enabled. -/
def System.exec (sys : System State Label) (s : State) : List Label → Option State
  | [] => some s
  | l :: ls => (sys.next s l).bind fun t => sys.exec t ls

theorem Run.cons {sys : System State Label} {s t u : State}
    {tr : List (State × Label)} {l : Label}
    (hnext : sys.next s l = some t) (hrun : Run sys t tr u) :
    Run sys s ((s, l) :: tr) u := by
  induction hrun with
  | nil => exact Run.snoc Run.nil hnext
  | snoc _ hlast ih => exact Run.snoc ih hlast

/-- Every state of the trace is itself the end of a run. -/
theorem Run.reaches_of_mem {sys : System State Label} {s t u : State}
    {tr : List (State × Label)} {l : Label}
    (hrun : Run sys s tr t) (hmem : (u, l) ∈ tr) : ∃ tr', Run sys s tr' u := by
  induction hrun with
  | nil => cases hmem
  | @snoc t' _ tr' _ hprev _ ih =>
    rcases List.mem_append.mp hmem with hmem | hmem
    · exact ih hmem
    · obtain ⟨rfl, _⟩ := Prod.mk.inj (List.mem_singleton.mp hmem)
      exact ⟨tr', hprev⟩

/-- The trace of `exec`: the labels together with the states they fire in. -/
def System.trace (sys : System State Label) (s : State) :
    List Label → List (State × Label)
  | [] => []
  | l :: ls => (s, l) :: ((sys.next s l).elim [] fun t => sys.trace t ls)

theorem System.exec_run (sys : System State Label) (ls : List Label) :
    ∀ {s t : State}, sys.exec s ls = some t → Run sys s (sys.trace s ls) t := by
  induction ls with
  | nil =>
    intro s t h
    obtain rfl := Option.some.inj h
    exact Run.nil
  | cons l ls ih =>
    intro s t h
    obtain ⟨m, hm, hrest⟩ := Option.bind_eq_some_iff.mp h
    simp only [System.trace, hm, Option.elim_some]
    exact Run.cons hm (ih hrest)

theorem System.trace_labels (sys : System State Label) (ls : List Label) :
    ∀ {s t : State}, sys.exec s ls = some t → (sys.trace s ls).map Prod.snd = ls := by
  induction ls with
  | nil =>
    intro s t _
    rfl
  | cons l ls ih =>
    intro s t h
    obtain ⟨m, hm, hrest⟩ := Option.bind_eq_some_iff.mp h
    simp only [System.trace, hm, Option.elim_some, List.map_cons, ih hrest]

/-- The run of an evaluation that succeeds. -/
theorem System.run_of_exec (sys : System State Label) {s : State} (ls : List Label)
    (h : (sys.exec s ls).isSome = true) :
    Run sys s (sys.trace s ls) ((sys.exec s ls).get h) :=
  sys.exec_run ls (Option.some_get h).symm

theorem System.mem_of_mem_trace (sys : System State Label) {ls : List Label} :
    ∀ {s : State} {p : State × Label}, p ∈ sys.trace s ls → p.2 ∈ ls := by
  induction ls with
  | nil =>
    intro s p h
    cases h
  | cons l ls ih =>
    intro s p h
    rcases List.mem_cons.mp h with rfl | h
    · exact List.mem_cons_self
    · cases hnext : sys.next s l with
      | none => rw [hnext] at h; cases h
      | some t => rw [hnext] at h; exact List.mem_cons_of_mem _ (ih h)

/-! ## Section 2: From one step to a whole run -/

/-- What the initial state satisfies and every step keeps holds after every run. -/
theorem Run.invariant {sys : System State Label} {I : State → Prop}
    (hstep : ∀ s l t, I s → sys.next s l = some t → I t)
    {s t : State} {tr : List (State × Label)}
    (hrun : Run sys s tr t) (hs : I s) : I t := by
  induction hrun with
  | nil => exact hs
  | snoc _ hnext ih => exact hstep _ _ _ ih hnext

/-- The same for what a state satisfies together with the steps that led to it. -/
theorem Run.trace_invariant {sys : System State Label}
    {I : List (State × Label) → State → Prop}
    (hstep : ∀ tr s l t, I tr s → sys.next s l = some t → I (tr ++ [(s, l)]) t)
    {s t : State} {tr : List (State × Label)}
    (hrun : Run sys s tr t) (hs : I [] s) : I tr t := by
  induction hrun with
  | nil => exact hs
  | snoc _ hnext ih => exact hstep _ _ _ _ ih hnext

/-- The same for the runs all of whose steps meet the condition `G`. -/
theorem Run.guarded_invariant {sys : System State Label}
    {G : State → Label → Prop} {I : State → Prop}
    (hstep : ∀ s l t, I s → G s l → sys.next s l = some t → I t)
    {s t : State} {tr : List (State × Label)}
    (hrun : Run sys s tr t) (hG : ∀ p ∈ tr, G p.1 p.2) (hs : I s) : I t := by
  induction hrun with
  | nil => exact hs
  | @snoc t u tr l _ hnext ih =>
    have hI := ih (fun p hp => hG p (List.mem_append_left _ hp))
    exact hstep _ _ _ hI (hG (t, l) (by simp)) hnext

/-- The states of a run, the last one included. -/
def states (tr : List (State × Label)) (s : State) : List State := tr.map Prod.fst ++ [s]

theorem states_snoc (tr : List (State × Label)) (t : State) (l : Label) (u : State) :
    states (tr ++ [(t, l)]) u = states tr t ++ [u] := by
  simp [states]

/-- What guarded steps keep holds in every state of the run. -/
theorem Run.states_invariant {sys : System State Label}
    {G : State → Label → Prop} {I : State → Prop}
    (hstep : ∀ s l t, I s → G s l → sys.next s l = some t → I t)
    {s t : State} {tr : List (State × Label)}
    (hrun : Run sys s tr t) (hG : ∀ p ∈ tr, G p.1 p.2) (hs : I s) : ∀ u ∈ states tr t, I u := by
  induction hrun with
  | nil =>
    intro u hu
    obtain rfl := List.mem_singleton.mp hu
    exact hs
  | @snoc t v tr l hprev hnext ih =>
    have hG' : ∀ p ∈ tr, G p.1 p.2 := fun p hp => hG p (List.mem_append_left _ hp)
    intro u hu
    rw [states_snoc] at hu
    rcases List.mem_append.mp hu with hu | hu
    · exact ih hG' u hu
    · obtain rfl := List.mem_singleton.mp hu
      exact hstep _ _ _ (hprev.guarded_invariant hstep hG' hs) (hG (t, l) (by simp)) hnext

/-- Every step of a run is taken in a state that the guarded steps keep. -/
theorem Run.steps_invariant {sys : System State Label}
    {G : State → Label → Prop} {I : State → Prop}
    (hstep : ∀ s l t, I s → G s l → sys.next s l = some t → I t)
    {s t : State} {tr : List (State × Label)}
    (hrun : Run sys s tr t) (hG : ∀ p ∈ tr, G p.1 p.2) (hs : I s) :
    ∀ p ∈ tr, I p.1 ∧ ∃ u, sys.next p.1 p.2 = some u := by
  induction hrun with
  | nil =>
    intro p hp
    cases hp
  | @snoc t u tr l hprev hnext ih =>
    have hG' : ∀ p ∈ tr, G p.1 p.2 := fun p hp => hG p (List.mem_append_left _ hp)
    intro p hp
    rcases List.mem_append.mp hp with hp | hp
    · exact ih hG' p hp
    · obtain rfl := List.mem_singleton.mp hp
      exact ⟨hprev.guarded_invariant hstep hG' hs, u, hnext⟩

/-- When one step relates its two states exactly if it meets `G`, all the states
    of a run are related, in their order, exactly if all its steps meet `G`. -/
theorem Run.pairwise_iff {sys : System State Label}
    {G : State → Label → Prop} {R : State → State → Prop}
    (htrans : ∀ {a b c}, R a b → R b c → R a c)
    (hexact : ∀ s l t, sys.next s l = some t → (R s t ↔ G s l))
    {s t : State} {tr : List (State × Label)} (hrun : Run sys s tr t) :
    (states tr t).Pairwise R ↔ ∀ p ∈ tr, G p.1 p.2 := by
  -- a new state is related to the last one, and by transitivity to all before it
  induction hrun with
  | nil => simp [states]
  | @snoc t u tr l _ hnext ih =>
    have hlast : t ∈ states tr t := List.mem_append_right _ List.mem_cons_self
    rw [states_snoc, List.pairwise_append]
    constructor
    · rintro ⟨hprev, _, hu⟩ p hp
      rcases List.mem_append.mp hp with hp | hp
      · exact ih.mp hprev p hp
      · obtain rfl := List.mem_singleton.mp hp
        exact (hexact t l u hnext).mp (hu t hlast u List.mem_cons_self)
    · intro hG
      have hprev := ih.mpr fun p hp => hG p (List.mem_append_left _ hp)
      have hR : R t u := (hexact t l u hnext).mpr (hG (t, l) (by simp))
      refine ⟨hprev, List.pairwise_singleton _ _, fun v hv w hw => ?_⟩
      obtain rfl := List.mem_singleton.mp hw
      rcases List.mem_append.mp hv with hv' | hv'
      · exact htrans ((List.pairwise_append.mp hprev).2.2 v hv' t List.mem_cons_self) hR
      · obtain rfl := List.mem_singleton.mp hv'
        exact hR

/-- When a step from a good state stays good exactly if it meets `G`, all states
    of a run are good exactly if all its steps meet `G`.  Steps from good states
    keep `I`, and all steps may be assumed to meet `E`. -/
theorem Run.states_iff_of {sys : System State Label}
    {E G : State → Label → Prop} {I P : State → Prop}
    (hkeep : ∀ s l t, I s → P s → E s l → sys.next s l = some t → I t)
    (hexact : ∀ s l t, I s → P s → E s l → sys.next s l = some t → (P t ↔ G s l))
    {s t : State} {tr : List (State × Label)} (hrun : Run sys s tr t)
    (hE : ∀ p ∈ tr, E p.1 p.2) (hI : I s) (hs : P s) :
    (∀ u ∈ states tr t, P u) ↔ ∀ p ∈ tr, G p.1 p.2 := by
  constructor
  · intro hP
    suffices hboth : I t ∧ ∀ p ∈ tr, G p.1 p.2 from hboth.2
    -- the invariant is carried along only as far as P has held
    induction hrun with
    | nil => exact ⟨hI, fun p hp => by cases hp⟩
    | @snoc t u tr l _ hnext ih =>
      rw [states_snoc] at hP
      have hprev : ∀ v ∈ states tr t, P v := fun v hv => hP v (List.mem_append_left _ hv)
      have ht : P t := hprev t (List.mem_append_right _ List.mem_cons_self)
      have hu : P u := hP u (List.mem_append_right _ List.mem_cons_self)
      have hl : E t l := hE (t, l) (by simp)
      obtain ⟨hIt, hG⟩ := ih (fun p hp => hE p (List.mem_append_left _ hp)) hprev
      refine ⟨hkeep t l u hIt ht hl hnext, fun p hp => ?_⟩
      rcases List.mem_append.mp hp with hp | hp
      · exact hG p hp
      · obtain rfl := List.mem_singleton.mp hp
        exact (hexact t l u hIt ht hl hnext).mp hu
  · intro hG u hu
    have hgood := hrun.states_invariant (I := fun u => I u ∧ P u) (G := fun s l => E s l ∧ G s l)
      (fun s l t h hl hnext => ⟨hkeep s l t h.1 h.2 hl.1 hnext,
        (hexact s l t h.1 h.2 hl.1 hnext).mpr hl.2⟩)
      (fun p hp => ⟨hE p hp, hG p hp⟩) ⟨hI, hs⟩
    exact (hgood u hu).2

theorem Run.states_iff {sys : System State Label}
    {G : State → Label → Prop} {I P : State → Prop}
    (hkeep : ∀ s l t, I s → P s → sys.next s l = some t → I t)
    (hexact : ∀ s l t, I s → P s → sys.next s l = some t → (P t ↔ G s l))
    {s t : State} {tr : List (State × Label)} (hrun : Run sys s tr t) (hI : I s) (hs : P s) :
    (∀ u ∈ states tr t, P u) ↔ ∀ p ∈ tr, G p.1 p.2 :=
  hrun.states_iff_of (E := fun _ _ => True) (fun s l t h hP _ hnext => hkeep s l t h hP hnext)
    (fun s l t h hP _ hnext => hexact s l t h hP hnext) (fun _ _ => trivial) hI hs

/-- A sequence of steps of a relation, with their labels. -/
inductive Path (R : State → Label → State → Prop) (s : State) : List Label → State → Prop where
  | nil  : Path R s [] s
  | snoc : ∀ {t u : State} {ls : List Label} {l : Label},
             Path R s ls t → R t l u → Path R s (ls ++ [l]) u

/-- A run seen through `view` is a path of the abstract steps. -/
theorem Run.path {Abstract : Type w} {sys : System State Label} {I : State → Prop}
    {R : Abstract → Label → Abstract → Prop} (view : State → Abstract)
    (hstep : ∀ s l t, I s → sys.next s l = some t → I t ∧ R (view s) l (view t))
    {s t : State} {tr : List (State × Label)}
    (hrun : Run sys s tr t) (hs : I s) : I t ∧ Path R (view s) (tr.map Prod.snd) (view t) := by
  induction hrun with
  | nil => exact ⟨hs, Path.nil⟩
  | @snoc t u tr l _ hnext ih =>
    obtain ⟨hI, hpath⟩ := ih
    obtain ⟨hI', hR⟩ := hstep t l u hI hnext
    rw [List.map_append]
    exact ⟨hI', Path.snoc hpath hR⟩

/-- When a bad state is final and a step from a good state stays good exactly
    if it meets `G`, a run from a good state ends well exactly if all its steps
    meet `G`. -/
theorem Run.good_iff {sys : System State Label}
    {G : State → Label → Prop} {P I : State → Prop}
    (hkeep : ∀ s l t, I s → sys.next s l = some t → I t)
    (hfinal : ∀ s l, ¬ P s → sys.next s l = none)
    (hexact : ∀ s l t, I s → P s → sys.next s l = some t → (P t ↔ G s l))
    {s t : State} {tr : List (State × Label)}
    (hrun : Run sys s tr t) (hI : I s) (hs : P s) :
    P t ↔ ∀ p ∈ tr, G p.1 p.2 := by
  induction hrun with
  | nil => simpa using hs
  | @snoc t u tr l hprev hnext ih =>
    -- a system that has failed takes no step
    have hgood : P t := by
      by_contra hbad
      rw [hfinal t l hbad] at hnext
      cases hnext
    have hprefix := ih.mp hgood
    rw [hexact t l u (hprev.invariant hkeep hI) hgood hnext]
    constructor
    · intro hG p hp
      rcases List.mem_append.mp hp with hp | hp
      · exact hprefix p hp
      · obtain rfl := List.mem_singleton.mp hp
        exact hG
    · intro hall
      exact hall (t, l) (by simp)

/-! ## Section 3: History -/

/-- `sys` together with a history that each step adds to. -/
def System.withHistory {History : Type w} (sys : System State Label)
    (record : State → Label → History → History) (empty : History) :
    System (State × History) Label where
  init s := sys.init s.1 ∧ s.2 = empty
  next s l := (sys.next s.1 l).map fun t => (t, record s.1 l s.2)

theorem System.withHistory_next {History : Type w} {sys : System State Label}
    {record : State → Label → History → History} {empty : History}
    {s t : State × History} {l : Label}
    (h : (sys.withHistory record empty).next s l = some t) :
    sys.next s.1 l = some t.1 ∧ t.2 = record s.1 l s.2 := by
  obtain ⟨u, hu, rfl⟩ := Option.map_eq_some_iff.mp h
  exact ⟨hu, rfl⟩

end LTS
