import Mnser.Framework.System
import Mnser.IOManager.Slots

/-! # Which context an fd has

    `addEvent` looks its fd up under the read lock, may resize `m_fdContexts`
    under the write lock, and works on the context it found under the mutex of
    that context.  Other threads move in between.  The size of a resize is
    computed from the caller's own fd, so a resize that comes late can make the
    vector shorter and drop contexts that are in use. -/

namespace MNSER

open LTS

/-! ## Section 1: Threads in addEvent -/

abbrev CallerId : Type := Nat

/-- Where a thread is in `addEvent(fd, ..)`. -/
inductive AddEventPc where
  | outside
  /-- `lock.unlock()` in the `else` branch. -/
  | missing (fd : Int)
  /-- In front of the lock of `fd_ctx->mutex`. -/
  | found (fd : Int) (p : FdContextPtr)
  deriving DecidableEq, Repr

structure AddEvents where
  manager : IOManager
  pc      : CallerId → AddEventPc
  /-- The contexts `addEvent` has worked on, with the fd it did it for. -/
  used    : List (Int × FdContextPtr)

inductive AddEventsLabel where
  | lookup (t : CallerId) (fd : Int)
  | resize (t : CallerId)
  | locked (t : CallerId) (event : Event) (cb : Option FuncId) (caller : IOManager.Caller)
      (ok : Bool)

namespace AddEvents

def setPc (s : AddEvents) (t : CallerId) (pc : AddEventPc) : AddEvents :=
  { s with pc := fun u => if u = t then pc else s.pc u }

/-- A step that aborts the process is not followed by another one. -/
def next (s : AddEvents) : AddEventsLabel → Option AddEvents
  | .lookup t fd =>
    if s.pc t = .outside ∧ 0 ≤ fd then
      match s.manager.lookup fd with
      | .error _      => none
      | .ok none      => some (s.setPc t (.missing fd))
      | .ok (some p)  => some (s.setPc t (.found fd p))
    else none
  | .resize t =>
    match s.pc t with
    | .missing fd =>
      match s.manager.resizeFor fd with
      | .error _     => none
      | .ok (m, p)   => some ({ s with manager := m }.setPc t (.found fd p))
    | _ => none
  | .locked t event cb caller ok =>
    match s.pc t with
    | .found fd p =>
      match s.manager.locked p caller ok (.addEvent fd event cb) with
      | .error _ => none
      | .ok m    => some ({ s with manager := m, used := s.used ++ [(fd, p)] }.setPc t .outside)
    | _ => none

end AddEvents

def addEvents : System AddEvents AddEventsLabel where
  init s := ∃ uninitialised,
    s = { manager := .init uninitialised, pc := fun _ => .outside, used := [] }
  next   := AddEvents.next

/-! ## Section 2: The vector -/

namespace IOManager

/-- New contexts are put behind the ones that are there. -/
theorem newContexts_prefix {α : Type} (xs : List α) :
    ∀ m : IOManager, ∃ new, (xs.foldl (fun m _ => m.newContext m.fdContexts.length) m).fdContexts =
      m.fdContexts ++ new ∧ new.length = xs.length := by
  induction xs with
  | nil =>
    intro m
    exact ⟨[], (List.append_nil _).symm, rfl⟩
  | cons x xs ih =>
    intro m
    obtain ⟨new, hnew, hlen⟩ := ih (m.newContext m.fdContexts.length)
    refine ⟨m.created :: new, ?_, by rw [List.length_cons, List.length_cons, hlen]⟩
    rw [List.foldl_cons, hnew]
    exact List.append_assoc _ [m.created] new

/-- A resize keeps a prefix of the vector and fills up the rest. -/
theorem contextResize_fdContexts (m : IOManager) (size : Nat) :
    ∃ new, (m.contextResize size).fdContexts = m.fdContexts.take size ++ new ∧
      (m.contextResize size).fdContexts.length = size := by
  obtain ⟨new, hnew, hlen⟩ := newContexts_prefix (List.range (size - m.fdContexts.length))
    { m with fdContexts := m.fdContexts.take size }
  refine ⟨new, hnew, ?_⟩
  unfold contextResize
  rw [hnew, List.length_append, hlen, List.length_range]
  show (m.fdContexts.take size).length + _ = size
  rw [List.length_take]
  omega

/-- A resize keeps the contexts exactly when it does not make the vector shorter. -/
theorem prefix_contextResize (m : IOManager) (size : Nat) :
    m.fdContexts <+: (m.contextResize size).fdContexts ↔ m.fdContexts.length ≤ size := by
  obtain ⟨new, hnew, hlen⟩ := contextResize_fdContexts m size
  constructor
  · intro h
    rw [← hlen]
    exact h.length_le
  · intro h
    rw [hnew, List.take_of_length_le h]
    exact List.prefix_append _ _

/-- The vector is not touched under `fd_ctx->mutex`. -/
theorem locked_addEvent_fdContexts {m m' : IOManager} {p : FdContextPtr} {caller : Caller}
    {ok : Bool} {fd : Int} {event : Event} {cb : Option FuncId}
    (h : m.locked p caller ok (.addEvent fd event cb) = .ok m') :
    m'.fdContexts = m.fdContexts := by
  obtain ⟨⟨m₁, rt⟩, hrun, rfl⟩ := map_eq_ok h
  rcases addEventLocked_cases hrun with ⟨rfl, _⟩ | ⟨_, _, _, _, k, _, rfl⟩
  · rfl
  · rfl

end IOManager

/-! ## Section 3: Runs -/

/-- A resize finds the vector not longer than what it asks for. -/
def Grows (s : AddEvents) : AddEventsLabel → Prop
  | .resize t =>
    match s.pc t with
    | .missing fd => s.manager.fdContexts.length ≤ fd.toNat * 3 / 2
    | _           => True
  | _ => True

instance (s : AddEvents) (l : AddEventsLabel) : Decidable (Grows s l) :=
  match l with
  | .resize t =>
    match h : s.pc t with
    | .missing fd =>
      decidable_of_iff (s.manager.fdContexts.length ≤ fd.toNat * 3 / 2) (by simp only [Grows, h])
    | .outside   => isTrue (by simp only [Grows, h])
    | .found _ _ => isTrue (by simp only [Grows, h])
  | .lookup _ _       => isTrue trivial
  | .locked _ _ _ _ _ => isTrue trivial

namespace AddEvents

/-- What one step does to the vector, and which context it found or used. -/
theorem next_cases {s s' : AddEvents} {l : AddEventsLabel} (h : s.next l = some s') :
    (∃ t fd pc, l = .lookup t fd ∧ s' = s.setPc t pc ∧ 0 ≤ fd ∧
      (pc = .missing fd ∨ ∃ p, pc = .found fd p ∧ s.manager.fdContexts[fd.toNat]? = some p)) ∨
    (∃ t fd p, l = .resize t ∧ s.pc t = .missing fd ∧
      s' = { s with manager := s.manager.contextResize (fd.toNat * 3 / 2) }.setPc t (.found fd p) ∧
      s'.manager.fdContexts[fd.toNat]? = some p) ∨
    (∃ t event cb caller ok fd p m, l = .locked t event cb caller ok ∧ s.pc t = .found fd p ∧
      m.fdContexts = s.manager.fdContexts ∧
      s' = { s with manager := m, used := s.used ++ [(fd, p)] }.setPc t .outside) := by
  cases l with
  | lookup t fd =>
    simp only [next] at h
    split at h
    · rename_i hguard
      split at h
      · cases h
      · obtain rfl := Option.some.inj h
        exact Or.inl ⟨t, fd, _, rfl, rfl, hguard.2, Or.inl rfl⟩
      · rename_i p hlookup
        obtain rfl := Option.some.inj h
        refine Or.inl ⟨t, fd, _, rfl, rfl, hguard.2, Or.inr ⟨p, rfl, ?_⟩⟩
        unfold IOManager.lookup at hlookup
        split at hlookup
        · cases hlookup
        · obtain ⟨q, hat, hq⟩ := map_eq_ok hlookup
          obtain rfl := Option.some.inj hq
          exact IOManager.fdContextAt_getElem? hat
    · cases h
  | resize t =>
    simp only [next] at h
    split at h
    · rename_i fd hpc
      split at h
      · cases h
      · rename_i m p hresize
        obtain rfl := Option.some.inj h
        obtain ⟨rfl, hp⟩ := IOManager.resizeFor_ok hresize
        exact Or.inr (Or.inl ⟨t, fd, p, rfl, hpc, rfl, hp⟩)
    · cases h
  | locked t event cb caller ok =>
    simp only [next] at h
    split at h
    · rename_i fd p hpc
      split at h
      · cases h
      · rename_i m hlocked
        obtain rfl := Option.some.inj h
        exact Or.inr (Or.inr ⟨t, event, cb, caller, ok, fd, p, m, rfl, hpc,
          IOManager.locked_addEvent_fdContexts hlocked, rfl⟩)
    · cases h

/-- One step keeps the contexts exactly when it meets `Grows`. -/
theorem next_prefix_iff (s : AddEvents) (l : AddEventsLabel) (s' : AddEvents)
    (h : s.next l = some s') :
    s.manager.fdContexts <+: s'.manager.fdContexts ↔ Grows s l := by
  rcases next_cases h with ⟨t, fd, pc, rfl, rfl, _⟩ | ⟨t, fd, p, rfl, hpc, rfl, _⟩ |
    ⟨t, event, cb, caller, ok, fd, p, m, rfl, _, hm, rfl⟩
  · exact ⟨fun _ => trivial, fun _ => List.prefix_refl _⟩
  · show s.manager.fdContexts <+: (s.manager.contextResize _).fdContexts ↔ _
    rw [IOManager.prefix_contextResize]
    simp only [Grows, hpc]
  · show s.manager.fdContexts <+: m.fdContexts ↔ _
    rw [hm]
    exact ⟨fun _ => trivial, fun _ => List.prefix_refl _⟩

/-- The contexts that were found or used are where the fd says. -/
structure InPlace (s : AddEvents) : Prop where
  found : ∀ t fd p, s.pc t = .found fd p → s.manager.fdContexts[fd.toNat]? = some p
  used  : ∀ fd p, (fd, p) ∈ s.used → s.manager.fdContexts[fd.toNat]? = some p

theorem setPc_eq {s : AddEvents} {t u : CallerId} {pc pc' : AddEventPc}
    (h : (s.setPc t pc).pc u = pc') : (u = t ∧ pc = pc') ∨ s.pc u = pc' := by
  simp only [setPc] at h
  split at h
  · rename_i heq
    exact Or.inl ⟨heq, h⟩
  · exact Or.inr h

/-- A vector that only grows keeps what is in it in place. -/
theorem getElem?_extend {α : Type} {xs ys : List α} {i : Nat} {x : α} (h : xs <+: ys)
    (hx : xs[i]? = some x) : ys[i]? = some x := by
  obtain ⟨zs, rfl⟩ := h
  rw [List.getElem?_append_left (List.getElem?_eq_some_iff.mp hx).1]
  exact hx

/-- A resolved context stays in its place as long as no resize makes the vector
    shorter. -/
theorem inPlace_next (s : AddEvents) (l : AddEventsLabel) (s' : AddEvents) (hs : s.InPlace)
    (hgrows : Grows s l) (h : s.next l = some s') : s'.InPlace := by
  have hprefix := (next_prefix_iff s l s' h).mpr hgrows
  have hstays : ∀ {fd : Int} {p : FdContextPtr}, s.manager.fdContexts[fd.toNat]? = some p →
      s'.manager.fdContexts[fd.toNat]? = some p := fun hp => getElem?_extend hprefix hp
  rcases next_cases h with ⟨t, fd, pc, rfl, rfl, _, hpc⟩ | ⟨t, fd, p, rfl, _, rfl, hp⟩ |
    ⟨t, event, cb, caller, ok, fd, p, m, rfl, hpc, _, rfl⟩
  · refine ⟨fun u fd' p hu => ?_, fun fd' p hmem => hstays (hs.used fd' p hmem)⟩
    rcases setPc_eq hu with ⟨rfl, heq⟩ | hu
    · rcases hpc with rfl | ⟨q, rfl, hq⟩
      · cases heq
      · obtain ⟨rfl, rfl⟩ := AddEventPc.found.inj heq
        exact hstays hq
    · exact hstays (hs.found u fd' p hu)
  · refine ⟨fun u fd' q hu => ?_, fun fd' q hmem => hstays (hs.used fd' q hmem)⟩
    rcases setPc_eq hu with ⟨rfl, heq⟩ | hu
    · obtain ⟨rfl, rfl⟩ := AddEventPc.found.inj heq
      exact hp
    · exact hstays (hs.found u fd' q hu)
  · refine ⟨fun u fd' q hu => ?_, fun fd' q hmem => ?_⟩
    · rcases setPc_eq hu with ⟨_, heq⟩ | hu
      · cases heq
      · exact hstays (hs.found u fd' q hu)
    · rcases List.mem_append.mp hmem with hmem | hmem
      · exact hstays (hs.used fd' q hmem)
      · obtain ⟨rfl, rfl⟩ := Prod.mk.inj (List.mem_singleton.mp hmem)
        exact hstays (hs.found t _ _ hpc)

end AddEvents

/-- From one state of the run to a later one the vector only grows, and every
    context that was used for an fd is at its index. -/
structure ContextsKept (tr : List (AddEvents × AddEventsLabel)) (s : AddEvents) : Prop where
  grows : (states tr s).Pairwise fun u v => u.manager.fdContexts <+: v.manager.fdContexts
  used  : ∀ u ∈ states tr s, ∀ fd p, (fd, p) ∈ u.used →
            u.manager.fdContexts[fd.toNat]? = some p
  same  : ∀ u ∈ states tr s, ∀ fd p q, (fd, p) ∈ u.used → (fd, q) ∈ u.used → p = q

/-- The contexts are kept exactly in the runs in which no resize finds a vector
    that is longer than what it asks for. -/
theorem contexts_kept_iff {s₀ s : AddEvents} {tr : List (AddEvents × AddEventsLabel)}
    (hinit : addEvents.init s₀) (hrun : Run addEvents s₀ tr s) :
    ContextsKept tr s ↔ ∀ p ∈ tr, Grows p.1 p.2 := by
  have hexact := hrun.pairwise_iff (G := Grows)
    (R := fun u v => u.manager.fdContexts <+: v.manager.fdContexts)
    (fun h h' => List.IsPrefix.trans h h') AddEvents.next_prefix_iff
  constructor
  · intro hkept
    exact hexact.mp hkept.grows
  · intro hgrows
    have hplace : ∀ u ∈ states tr s, u.InPlace := by
      refine hrun.states_invariant AddEvents.inPlace_next hgrows ?_
      obtain ⟨uninitialised, rfl⟩ := hinit
      exact ⟨fun t fd p h => (nomatch h), fun fd p h => (nomatch h)⟩
    refine ⟨hexact.mpr hgrows, fun u hu => (hplace u hu).used, ?_⟩
    intro u hu fd p q hp hq
    exact Option.some.inj (((hplace u hu).used fd p hp).symm.trans ((hplace u hu).used fd q hq))

def AddEvents.start : AddEvents where
  manager := .init fun _ => 0
  pc      := fun _ => .outside
  used    := []

/-- Two threads that find the vector too short, one after the other. -/
theorem contexts_kept_iff_one_by_one :
    ∃ tr s, Run addEvents AddEvents.start tr s ∧ ContextsKept tr s ∧
      s.used = [(33, 33), (100, 100)] := by
  let labels : List AddEventsLabel :=
    [.lookup 0 33, .resize 0, .locked 0 .READ none ⟨some 0, 7⟩ true,
     .lookup 1 100, .resize 1, .locked 1 .WRITE none ⟨some 0, 8⟩ true]
  have hrun := addEvents.run_of_exec (s := AddEvents.start) labels (by decide +kernel)
  exact ⟨_, _, hrun, (contexts_kept_iff ⟨_, rfl⟩ hrun).mpr (by decide +kernel), by decide +kernel⟩

/-- Two threads find the vector too short.  The second one asks for less than
    the first one got, and drops the context that is in use for fd 100. -/
theorem contexts_dropped :
    ∃ tr s, Run addEvents AddEvents.start tr s ∧ (100, 100) ∈ s.used ∧
      s.manager.fdContexts[100]? = none := by
  let labels : List AddEventsLabel :=
    [.lookup 0 33, .lookup 1 100, .resize 1, .locked 1 .WRITE none ⟨some 0, 8⟩ true, .resize 0]
  have hrun := addEvents.run_of_exec (s := AddEvents.start) labels (by decide +kernel)
  exact ⟨_, _, hrun, by decide +kernel, by decide +kernel⟩

end MNSER
