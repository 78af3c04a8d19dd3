import Mnser.IOManager.Memory

/-! # Executions that differ in the memory of new contexts

    Two managers that differ in nothing else are given the same calls, with the
    same answers of `epoll_ctl`.  Which contexts the calls get at is the same for
    both; whether they can be told apart is a matter of the `curEvents` found
    in these. -/

namespace MNSER

/-! ## Section 1: The table -/

namespace IOManager

/-- The managers have made the same contexts and hold them in the same places. -/
structure Lockstep (m₁ m₂ : IOManager) : Prop where
  fdContexts : m₁.fdContexts = m₂.fdContexts
  created    : m₁.created = m₂.created

/-- The contexts of `R` differ in what `n` does not tell, those to come included. -/
def AgreeOn (n : Events → Events) (R : FdContextPtr → Prop) (m₁ m₂ : IOManager) : Prop :=
  ∀ p, R p → (m₁.heap p).mapEvents n = (m₂.heap p).mapEvents n ∧
    n (m₁.uninitialised p) = n (m₂.uninitialised p)

/-- The same `new` on both sides leaves the same table. -/
theorem newContext_lockstep {m₁ m₂ : IOManager} (h : Lockstep m₁ m₂) (fd : Int) :
    Lockstep (m₁.newContext fd) (m₂.newContext fd) where
  fdContexts := by
    show m₁.fdContexts ++ [m₁.created] = m₂.fdContexts ++ [m₂.created]
    rw [h.fdContexts, h.created]
  created := congrArg (· + 1) h.created

/-- And contexts that agree where the memories do. -/
theorem newContext_agreeOn {n : Events → Events} {R : FdContextPtr → Prop} {m₁ m₂ : IOManager}
    (h : Lockstep m₁ m₂) (hagree : AgreeOn n R m₁ m₂) (fd : Int) :
    AgreeOn n R (m₁.newContext fd) (m₂.newContext fd) := by
  intro p hp
  obtain ⟨hheap, hmem⟩ := hagree p hp
  refine ⟨?_, hmem⟩
  show FdContext.mapEvents n (if p = m₁.created then _ else m₁.heap p) =
    FdContext.mapEvents n (if p = m₂.created then _ else m₂.heap p)
  rw [h.created]
  split
  · rename_i hnew
    subst hnew
    simp only [FdContext.mapEvents, hmem]
  · exact hheap

/-- One `new` after the other. -/
theorem newContexts_lockstep {α : Type} (xs : List α) :
    ∀ {m₁ m₂ : IOManager}, Lockstep m₁ m₂ →
      Lockstep (xs.foldl (fun m _ => m.newContext m.fdContexts.length) m₁)
        (xs.foldl (fun m _ => m.newContext m.fdContexts.length) m₂) ∧
      ∀ {n : Events → Events} {R : FdContextPtr → Prop}, AgreeOn n R m₁ m₂ →
        AgreeOn n R (xs.foldl (fun m _ => m.newContext m.fdContexts.length) m₁)
          (xs.foldl (fun m _ => m.newContext m.fdContexts.length) m₂) := by
  induction xs with
  | nil =>
    intro m₁ m₂ h
    exact ⟨h, fun hagree => hagree⟩
  | cons x xs ih =>
    intro m₁ m₂ h
    rw [List.foldl_cons, List.foldl_cons, h.fdContexts]
    obtain ⟨htable, hkeep⟩ := ih (newContext_lockstep h m₂.fdContexts.length)
    exact ⟨htable, fun hagree => hkeep (newContext_agreeOn h hagree _)⟩

/-- A resize is the same on both sides. -/
theorem contextResize_lockstep {m₁ m₂ : IOManager} (h : Lockstep m₁ m₂) (size : Nat) :
    Lockstep (m₁.contextResize size) (m₂.contextResize size) ∧
      ∀ {n : Events → Events} {R : FdContextPtr → Prop}, AgreeOn n R m₁ m₂ →
        AgreeOn n R (m₁.contextResize size) (m₂.contextResize size) := by
  have htake : Lockstep { m₁ with fdContexts := m₁.fdContexts.take size }
      { m₂ with fdContexts := m₂.fdContexts.take size } :=
    ⟨congrArg (List.take size) h.fdContexts, h.created⟩
  unfold contextResize
  rw [h.fdContexts]
  rw [h.fdContexts] at htake
  exact newContexts_lockstep _ htake

theorem lookupInt_congr {m₁ m₂ : IOManager} (h : m₁.fdContexts = m₂.fdContexts) (fd : Int) :
    m₁.lookupInt fd = m₂.lookupInt fd := by
  unfold lookupInt size fdContextAt
  rw [h]

theorem fdContextAt_congr {m₁ m₂ : IOManager} (h : m₁.fdContexts = m₂.fdContexts) (fd : Int) :
    m₁.fdContextAt fd = m₂.fdContextAt fd := by
  unfold fdContextAt
  rw [h]

/-- Which context a call works on depends on the table only. -/
theorem find_lockstep {m₁ m₂ : IOManager} (h : Lockstep m₁ m₂) (fd : Int) (adds : Bool) :
    (∃ f, m₁.find fd adds = .error f ∧ m₂.find fd adds = .error f) ∨
    (adds = false ∧ m₁.find fd adds = .ok (m₁, none) ∧ m₂.find fd adds = .ok (m₂, none)) ∨
    (∃ p, m₂.lookupInt fd = .ok (some p) ∧
      m₁.find fd adds = .ok (m₁, some p) ∧ m₂.find fd adds = .ok (m₂, some p)) ∨
    (adds = true ∧ ∃ p, p ∈ (m₁.contextResize (fd.toNat * 3 / 2)).fdContexts ∧
      m₁.find fd adds = .ok (m₁.contextResize (fd.toNat * 3 / 2), some p) ∧
      m₂.find fd adds = .ok (m₂.contextResize (fd.toNat * 3 / 2), some p)) := by
  have htable := (contextResize_lockstep h (fd.toNat * 3 / 2)).1.fdContexts
  have hresize := fdContextAt_congr htable fd
  simp only [find, resizeFor, lookupInt_congr h.fdContexts fd, hresize, bind, Except.bind, pure,
    Except.pure]
  cases m₂.lookupInt fd with
  | error f => exact Or.inl ⟨f, rfl, rfl⟩
  | ok o =>
    cases o with
    | some p => exact Or.inr (Or.inr (Or.inl ⟨p, rfl, rfl, rfl⟩))
    | none =>
      cases adds with
      | false => exact Or.inr (Or.inl ⟨rfl, rfl, rfl⟩)
      | true =>
        cases hat : (m₂.contextResize (fd.toNat * 3 / 2)).fdContextAt fd with
        | error f => exact Or.inl ⟨f, rfl, rfl⟩
        | ok p =>
          have hmem := List.mem_of_getElem? (fdContextAt_getElem? hat)
          exact Or.inr (Or.inr (Or.inr ⟨rfl, p, htable ▸ hmem, rfl, rfl⟩))

/-! ## Section 2: Contexts that calls get at -/

/-- An `addEvent` that leaves everything but the table as it is. -/
def quiet (fd : Int) : IOCall := ⟨.addEvent fd .NONE none, ⟨none, 0⟩, fun _ => none, false⟩

/-- The table is one that calls of `addEvent` make of that of a new manager. -/
def Grown (m : IOManager) : Prop :=
  ∃ (fds : List Int) (m₀ : IOManager), (∀ fd ∈ fds, IsInt fd) ∧ (init fun _ => 0).after (fds.map quiet) = some m₀ ∧
    Lockstep m m₀

/-- Some `addEvent` works on the context. -/
def Added (p : FdContextPtr) : Prop :=
  ∃ m fd m', Grown m ∧ IsInt fd ∧ m.find fd true = .ok (m', some p)

/-- The other calls work on it, too. -/
def Found (p : FdContextPtr) : Prop :=
  ∃ m fd, Grown m ∧ IsInt fd ∧ m.lookupInt fd = .ok (some p)

/-- An `addEvent` of nothing shows the memory to the kernel and returns -1. -/
theorem callOnce_quiet {m m' : IOManager} {fd : Int} {p : FdContextPtr}
    (h : m.find fd true = .ok (m', some p)) :
    m.callOnce (quiet fd) =
      (⟨some (if (m'.heap p).curEvents ≠ 0 then .MOD else .ADD,
          EPOLLET ||| (m'.heap p).curEvents ||| Event.NONE.mask), some (.rt (-1))⟩,
        some { m' with interest := fun _ => none }) := by
  have hanswer : { m' with interest := fun _ => none }.answer p ⟨none, 0⟩ false
      (.addEvent fd .NONE none) = .ok ({ m' with interest := fun _ => none }, .rt (-1)) := by
    simp only [answer, addEventLocked, Events.test_NONE, epoll_ctl, Bool.false_eq_true, if_false,
      bind, Except.bind, pure, Except.pure, Except.map]
  simp only [callOnce, quiet, Call.fd, Call.isAdd, h, hanswer, issued, Events.test_NONE,
    Bool.false_eq_true, if_false]

/-- The manager after one more call. -/
theorem after_append (cs : List IOCall) (c : IOCall) :
    ∀ {m m' : IOManager}, m.after cs = some m' → m.after (cs ++ [c]) = (m'.callOnce c).2 := by
  induction cs with
  | nil =>
    intro m m' h
    obtain rfl := Option.some.inj h
    show (m.callOnce c).2.bind some = (m.callOnce c).2
    cases (m.callOnce c).2 <;> rfl
  | cons d ds ih =>
    intro m m' h
    obtain ⟨m₁, hd, hrest⟩ := Option.bind_eq_some_iff.mp h
    show (m.callOnce d).2.bind _ = _
    rw [hd]
    exact ih hrest

theorem Lockstep.symm {m₁ m₂ : IOManager} (h : Lockstep m₁ m₂) : Lockstep m₂ m₁ :=
  ⟨h.fdContexts.symm, h.created.symm⟩

theorem Lockstep.trans {m₁ m₂ m₃ : IOManager} (h : Lockstep m₁ m₂) (h' : Lockstep m₂ m₃) :
    Lockstep m₁ m₃ :=
  ⟨h.fdContexts.trans h'.fdContexts, h.created.trans h'.created⟩

/-- A call finds its context in a grown table, which is then grown. -/
theorem Grown.find {m m' : IOManager} (h : Grown m) {fd : Int} (hfd : IsInt fd) {adds : Bool}
    {o : Option FdContextPtr} (hfind : m.find fd adds = .ok (m', o)) :
    Grown m' ∧ ∀ p ∈ o, Added p ∧ (adds = false → Found p) := by
  obtain ⟨fds, m₀, hfds, hrun, hsame⟩ := h
  have hgrown₀ : Grown m₀ := ⟨fds, m₀, hfds, hrun, ⟨rfl, rfl⟩⟩
  rcases find_lockstep hsame fd adds with
    ⟨f, herr, -⟩ | ⟨-, hnone, -⟩ | ⟨p, hlook, hsome, -⟩ | ⟨hadds, p, -, hsome, hsome₀⟩
  · rw [herr] at hfind
    cases hfind
  · obtain ⟨rfl, rfl⟩ := Prod.mk.inj (Except.ok.inj (hnone.symm.trans hfind))
    exact ⟨⟨fds, m₀, hfds, hrun, hsame⟩, fun p hp => by cases hp⟩
  · obtain ⟨rfl, rfl⟩ := Prod.mk.inj (Except.ok.inj (hsome.symm.trans hfind))
    refine ⟨⟨fds, m₀, hfds, hrun, hsame⟩, fun q hq => ?_⟩
    obtain rfl := Option.some.inj hq
    refine ⟨⟨m₀, fd, m₀, hgrown₀, hfd, ?_⟩, fun _ => ⟨m₀, fd, hgrown₀, hfd, hlook⟩⟩
    simp only [IOManager.find, hlook, bind, Except.bind, pure, Except.pure]
  · obtain ⟨rfl, rfl⟩ := Prod.mk.inj (Except.ok.inj (hsome.symm.trans hfind))
    subst hadds
    refine ⟨⟨fds ++ [fd], { m₀.contextResize (fd.toNat * 3 / 2) with interest := fun _ => none },
      ?_, ?_, ?_⟩, fun q hq => ?_⟩
    · intro j hj
      rcases List.mem_append.mp hj with hj | hj
      · exact hfds j hj
      · obtain rfl := List.mem_singleton.mp hj
        exact hfd
    · rw [List.map_append]
      exact (after_append _ (quiet fd) hrun).trans (congrArg Prod.snd (callOnce_quiet hsome₀))
    · have hresize := (contextResize_lockstep hsame (fd.toNat * 3 / 2)).1
      exact ⟨hresize.fdContexts, hresize.created⟩
    · obtain rfl := Option.some.inj hq
      exact ⟨⟨m₀, fd, _, hgrown₀, hfd, hsome₀⟩, fun h => by cases h⟩

/-! ## Section 3: Two managers -/

/-- Two managers that no call has told apart. -/
structure Twins (m₁ m₂ : IOManager) : Prop where
  table : Lockstep m₁ m₂
  added : AgreeOn Events.shown Added m₁ m₂
  found : AgreeOn Events.settled Found m₁ m₂

theorem issued_shown (a : Events) (fd : Int) (event : Event) (cb : Option FuncId) :
    issued (Events.shown a) (.addEvent fd event cb) = issued a (.addEvent fd event cb) := by
  simp only [issued, Events.keeps_shown.test, Events.keeps_shown.zero, Events.keeps_shown.mask, ne_eq]

theorem issued_settled (a : Events) (call : Call) :
    issued (Events.settled a) call = issued a call := by
  cases call <;>
    simp only [issued, Events.settled_andNot, Events.keeps_settled.test, Events.keeps_settled.zero,
      Events.keeps_settled.mask, ne_eq]

/-- What no call tells apart `addEvent` does not either. -/
theorem shown_of_settled {c₁ c₂ : FdContext}
    (h : c₁.mapEvents Events.settled = c₂.mapEvents Events.settled) :
    c₁.mapEvents Events.shown = c₂.mapEvents Events.shown := by
  obtain ⟨⟩ := c₁
  obtain ⟨⟩ := c₂
  simp only [FdContext.mapEvents, FdContext.mk.injEq] at h ⊢
  exact ⟨h.1, h.2.1, h.2.2.1, Events.shown_of_settled h.2.2.2⟩

/-- Contexts that `settled` makes one give the same answers to every call. -/
theorem perform_agree_settled {c₁ c₂ : FdContext} (caller : Caller) (granted : Bool) (call : Call)
    (h : c₁.mapEvents Events.settled = c₂.mapEvents Events.settled) :
    issued c₁.curEvents call = issued c₂.curEvents call ∧
    (c₁.perform caller granted call).map (fun r => (r.1.mapEvents Events.settled, r.2)) =
      (c₂.perform caller granted call).map (fun r => (r.1.mapEvents Events.settled, r.2)) := by
  constructor
  · rw [← issued_settled c₁.curEvents, ← issued_settled c₂.curEvents]
    exact congrArg (fun c : FdContext => issued c.curEvents call) h
  · rw [← FdContext.perform_settled, h, FdContext.perform_settled]

/-- Those that `shown` makes one give the same answers to `addEvent`. -/
theorem perform_agree_shown {c₁ c₂ : FdContext} (caller : Caller) (granted : Bool) (fd : Int)
    (event : Event) (cb : Option FuncId)
    (h : c₁.mapEvents Events.shown = c₂.mapEvents Events.shown) :
    issued c₁.curEvents (.addEvent fd event cb) = issued c₂.curEvents (.addEvent fd event cb) ∧
    (c₁.perform caller granted (.addEvent fd event cb)).map
        (fun r => (r.1.mapEvents Events.shown, r.2)) =
      (c₂.perform caller granted (.addEvent fd event cb)).map
        (fun r => (r.1.mapEvents Events.shown, r.2)) := by
  constructor
  · rw [← issued_shown c₁.curEvents, ← issued_shown c₂.curEvents]
    exact congrArg (fun c : FdContext => issued c.curEvents (.addEvent fd event cb)) h
  · rw [← FdContext.perform_shown, h, FdContext.perform_shown]

/-- Two results that map to one: both fail, or both are of that form. -/
theorem map_eq_map {α β γ : Type} {x : Except Fault α} {y : Except Fault β} {f : α → γ} {g : β → γ}
    (h : x.map f = y.map g) :
    (∃ e, x = .error e ∧ y = .error e) ∨ ∃ a b, x = .ok a ∧ y = .ok b ∧ f a = g b := by
  cases x with
  | error e =>
    cases y with
    | error e' => exact Or.inl ⟨e, rfl, congrArg _ (Except.error.inj h).symm⟩
    | ok b => cases h
  | ok a =>
    cases y with
    | error e' => cases h
    | ok b => exact Or.inr ⟨a, b, rfl, rfl, Except.ok.inj h⟩

theorem map_settled_shown {x y : Except Fault (FdContext × Answer)}
    (h : x.map (fun r => (r.1.mapEvents Events.settled, r.2)) =
      y.map (fun r => (r.1.mapEvents Events.settled, r.2))) :
    x.map (fun r => (r.1.mapEvents Events.shown, r.2)) =
      y.map (fun r => (r.1.mapEvents Events.shown, r.2)) := by
  rcases map_eq_map h with ⟨e, rfl, rfl⟩ | ⟨a, b, rfl, rfl, hab⟩
  · rfl
  · obtain ⟨hc, ha⟩ := Prod.mk.inj hab
    simp only [Except.map, shown_of_settled hc, ha]

theorem of_bare {m m' : IOManager} (h : m'.bare = m.bare) :
    m'.heap = m.heap ∧ m'.uninitialised = m.uninitialised ∧ Lockstep m' m := by
  obtain ⟨⟩ := m
  obtain ⟨⟩ := m'
  simp only [bare, mk.injEq] at h
  exact ⟨h.2.1, h.2.2.2.1, h.1, h.2.2.1⟩

/-- A call writes to one context, and there the two agree afterwards. -/
theorem agreeOn_bare {n : Events → Events} {R : FdContextPtr → Prop} {m₁ m₂ m₁' m₂' : IOManager}
    {p : FdContextPtr} {c₁ c₂ : FdContext} (h : AgreeOn n R m₁ m₂)
    (h₁ : m₁'.bare = (m₁.setContext p c₁).bare) (h₂ : m₂'.bare = (m₂.setContext p c₂).bare)
    (hc : R p → c₁.mapEvents n = c₂.mapEvents n) : AgreeOn n R m₁' m₂' := by
  intro q hq
  obtain ⟨hheap, hmem⟩ := h q hq
  obtain ⟨hheap₁, hmem₁, -⟩ := of_bare h₁
  obtain ⟨hheap₂, hmem₂, -⟩ := of_bare h₂
  rw [hheap₁, hheap₂, hmem₁, hmem₂]
  show FdContext.mapEvents n (if q = p then c₁ else m₁.heap q) =
    FdContext.mapEvents n (if q = p then c₂ else m₂.heap q) ∧ _
  refine ⟨?_, hmem⟩
  split
  · rename_i hqp
    exact hc (hqp ▸ hq)
  · exact hheap

/-- One call on twins: the same operation for the kernel, the same answer, and twins
    again. -/
theorem answer_twins {m₁ m₂ : IOManager} (h : Twins m₁ m₂) (hk : m₁.interest = m₂.interest)
    {p : FdContextPtr} (caller : Caller) (ok : Bool) (call : Call)
    (hadded : Added p) (hfound : call.isAdd = false → Found p) :
    issued (m₁.heap p).curEvents call = issued (m₂.heap p).curEvents call ∧
    ((∃ f f', m₁.answer p caller ok call = .error f ∧ m₂.answer p caller ok call = .error f') ∨
      ∃ m₁' m₂' a, m₁.answer p caller ok call = .ok (m₁', a) ∧
        m₂.answer p caller ok call = .ok (m₂', a) ∧ Twins m₁' m₂' ∧ Lockstep m₁' m₁) := by
  have hshown := (h.added p hadded).1
  have hsettled : Found p → (m₁.heap p).mapEvents Events.settled =
      (m₂.heap p).mapEvents Events.settled := fun hp => (h.found p hp).1
  -- an `addEvent` is told what `shown` leaves, any other call what `settled` leaves
  have hagree : issued (m₁.heap p).curEvents call = issued (m₂.heap p).curEvents call ∧
      ∀ granted, ((m₁.heap p).perform caller granted call).map
          (fun r => (r.1.mapEvents Events.shown, r.2)) =
        ((m₂.heap p).perform caller granted call).map
          (fun r => (r.1.mapEvents Events.shown, r.2)) := by
    have hother (hfalse : call.isAdd = false) := fun granted =>
      perform_agree_settled caller granted call (hsettled (hfound hfalse))
    have hweaker (hfalse : call.isAdd = false) := fun granted =>
      map_settled_shown (hother hfalse granted).2
    cases call with
    | addEvent fd event cb =>
      have hadd := fun granted => perform_agree_shown caller granted fd event cb hshown
      exact ⟨(hadd true).1, fun granted => (hadd granted).2⟩
    | delEvent fd event => exact ⟨(hother rfl true).1, hweaker rfl⟩
    | cancelEvent fd event => exact ⟨(hother rfl true).1, hweaker rfl⟩
    | cancelAll fd => exact ⟨(hother rfl true).1, hweaker rfl⟩
  obtain ⟨hissued, hperform⟩ := hagree
  refine ⟨hissued, ?_⟩
  have hgranted : m₁.granted p ok call = m₂.granted p ok call := by
    unfold granted
    rw [hissued, hk]
  have h₁ := answer_perform m₁ p caller ok call
  have h₂ := answer_perform m₂ p caller ok call
  rw [hgranted] at h₁
  -- both sides fault, or both answer
  rcases map_eq_map (hperform (m₂.granted p ok call)) with
    ⟨e, hc₁, hc₂⟩ | ⟨⟨c₁, a⟩, ⟨c₂, a'⟩, hc₁, hc₂, hc⟩
  · rw [hc₁] at h₁
    rw [hc₂] at h₂
    rcases map_eq_map h₁ with ⟨f, hf, -⟩ | ⟨_, _, _, hr, _⟩
    · rcases map_eq_map h₂ with ⟨f', hf', -⟩ | ⟨_, _, _, hr, _⟩
      · exact Or.inl ⟨f, f', hf, hf'⟩
      · cases hr
    · cases hr
  · obtain ⟨hc, rfl⟩ := Prod.mk.inj hc
    rw [hc₁] at h₁
    rw [hc₂] at h₂
    rcases map_eq_map h₁ with ⟨f, -, hf⟩ | ⟨⟨m₁', a₁⟩, r₁, ha₁, hr₁, heq₁⟩
    · cases hf
    rcases map_eq_map h₂ with ⟨f, -, hf⟩ | ⟨⟨m₂', a₂⟩, r₂, ha₂, hr₂, heq₂⟩
    · cases hf
    obtain rfl := Except.ok.inj hr₁
    obtain rfl := Except.ok.inj hr₂
    obtain ⟨hbare₁, rfl⟩ := Prod.mk.inj heq₁
    obtain ⟨hbare₂, rfl⟩ := Prod.mk.inj heq₂
    obtain ⟨-, -, htable₁⟩ := of_bare hbare₁
    obtain ⟨-, -, htable₂⟩ := of_bare hbare₂
    -- a call under the lock of a context leaves the table alone
    have htable₁' : Lockstep m₁' m₁ := ⟨htable₁.fdContexts, htable₁.created⟩
    have htable₂' : Lockstep m₂' m₂ := ⟨htable₂.fdContexts, htable₂.created⟩
    refine Or.inr ⟨m₁', m₂', _, ha₁, ha₂, ⟨?_, ?_, ?_⟩, htable₁'⟩
    · exact htable₁'.trans (h.table.trans htable₂'.symm)
    · exact agreeOn_bare h.added hbare₁ hbare₂ fun _ => hc
    · refine agreeOn_bare h.found hbare₁ hbare₂ fun hp => ?_
      have hall := (perform_agree_settled caller (m₂.granted p ok call) call (hsettled hp)).2
      rw [hc₁, hc₂] at hall
      exact (Prod.mk.inj (Except.ok.inj hall)).1

theorem Grown.lockstep {m m' : IOManager} (h : Grown m) (hsame : Lockstep m' m) : Grown m' := by
  obtain ⟨fds, m₀, hfds, hrun, h₀⟩ := h
  exact ⟨fds, m₀, hfds, hrun, hsame.trans h₀⟩

/-- A call that faults is seen by what it asked of the kernel. -/
theorem callOnce_error {m m' : IOManager} {c : IOCall} {p : FdContextPtr} {f : Fault}
    (hfind : m.find c.call.fd c.call.isAdd = .ok (m', some p))
    (h : { m' with interest := c.interest }.answer p c.caller c.ok c.call = .error f) :
    m.callOnce c = (⟨issued (m'.heap p).curEvents c.call, none⟩, none) := by
  simp only [callOnce, hfind, h]

/-- And one that returns by its answer as well. -/
theorem callOnce_ok {m m' m'' : IOManager} {c : IOCall} {p : FdContextPtr} {a : Answer}
    (hfind : m.find c.call.fd c.call.isAdd = .ok (m', some p))
    (h : { m' with interest := c.interest }.answer p c.caller c.ok c.call = .ok (m'', a)) :
    m.callOnce c = (⟨issued (m'.heap p).curEvents c.call, some a⟩, some m'') := by
  simp only [callOnce, hfind, h]

/-- A call that finds its context does the same in both. -/
theorem callOnce_at {m₁ m₂ m₁' m₂' : IOManager} {c : IOCall} {p : FdContextPtr}
    (h₁ : m₁.find c.call.fd c.call.isAdd = .ok (m₁', some p))
    (h₂ : m₂.find c.call.fd c.call.isAdd = .ok (m₂', some p)) (h : Twins m₁' m₂')
    (hgrown : Grown m₁') (hadded : Added p) (hfound : c.call.isAdd = false → Found p) :
    ∃ seen, (m₁.callOnce c = (seen, none) ∧ m₂.callOnce c = (seen, none)) ∨
      ∃ n₁ n₂, m₁.callOnce c = (seen, some n₁) ∧ m₂.callOnce c = (seen, some n₂) ∧
        Twins n₁ n₂ ∧ Grown n₁ := by
  have htwins : Twins { m₁' with interest := c.interest } { m₂' with interest := c.interest } :=
    ⟨⟨h.table.fdContexts, h.table.created⟩, h.added, h.found⟩
  obtain ⟨hissued, hcases⟩ := answer_twins htwins rfl c.caller c.ok c.call hadded hfound
  rcases hcases with ⟨f, f', hf, hf'⟩ | ⟨n₁, n₂, a, ha₁, ha₂, hn, hsame⟩
  · exact ⟨_, Or.inl ⟨callOnce_error h₁ hf, (callOnce_error h₂ hf').trans (by rw [hissued])⟩⟩
  · refine ⟨_, Or.inr ⟨n₁, n₂, callOnce_ok h₁ ha₁, (callOnce_ok h₂ ha₂).trans ?_, hn, ?_⟩⟩
    · rw [hissued]
    · exact hgrown.lockstep ⟨hsame.fdContexts, hsame.created⟩

/-- A whole call on twins, with its lookup. -/
theorem callOnce_twins {m₁ m₂ : IOManager} (h : Twins m₁ m₂) (hgrown : Grown m₁) {c : IOCall}
    (hc : IsInt c.call.fd) :
    ∃ seen, (m₁.callOnce c = (seen, none) ∧ m₂.callOnce c = (seen, none)) ∨
      ∃ n₁ n₂, m₁.callOnce c = (seen, some n₁) ∧ m₂.callOnce c = (seen, some n₂) ∧
        Twins n₁ n₂ ∧ Grown n₁ := by
  rcases find_lockstep h.table c.call.fd c.call.isAdd with
    ⟨f, h₁, h₂⟩ | ⟨-, h₁, h₂⟩ | ⟨p, -, h₁, h₂⟩ | ⟨-, p, -, h₁, h₂⟩
  · refine ⟨⟨none, none⟩, Or.inl ⟨?_, ?_⟩⟩
    · simp only [callOnce, h₁]
    · simp only [callOnce, h₂]
  · refine ⟨⟨none, some (.done false)⟩, Or.inr ⟨m₁, m₂, ?_, ?_, h, hgrown⟩⟩
    · simp only [callOnce, h₁]
    · simp only [callOnce, h₂]
  · obtain ⟨hadded, hfound⟩ := (hgrown.find hc h₁).2 p rfl
    exact callOnce_at h₁ h₂ h hgrown hadded hfound
  · obtain ⟨hgrown', hp⟩ := hgrown.find hc h₁
    obtain ⟨hadded, hfound⟩ := hp p rfl
    obtain ⟨htable, hagree⟩ := contextResize_lockstep h.table (c.call.fd.toNat * 3 / 2)
    exact callOnce_at h₁ h₂ ⟨htable, hagree h.added, hagree h.found⟩ hgrown' hadded hfound

/-- All that is seen of a run of calls on twins. -/
theorem observe_twins (cs : List IOCall) :
    ∀ {m₁ m₂ : IOManager}, Twins m₁ m₂ → Grown m₁ → (∀ c ∈ cs, IsInt c.call.fd) →
      m₁.observe cs = m₂.observe cs := by
  induction cs with
  | nil =>
    intro m₁ m₂ _ _ _
    rfl
  | cons c cs ih =>
    intro m₁ m₂ h hgrown hcs
    obtain ⟨seen, ⟨h₁, h₂⟩ | ⟨n₁, n₂, h₁, h₂, hn, hgrown'⟩⟩ :=
      callOnce_twins h hgrown (hcs c List.mem_cons_self)
    · rw [observe, observe, h₁, h₂]
    · rw [observe, observe, h₁, h₂]
      exact congrArg (seen :: ·) (ih hn hgrown' fun d hd => hcs d (List.mem_cons_of_mem _ hd))

/-- `init` before it makes contexts. -/
def noContexts (uninitialised : FdContextPtr → Events) : IOManager where
  fdContexts        := []
  heap _            := ⟨.empty, .empty, -1, 0⟩
  created           := 0
  uninitialised     := uninitialised
  interest _        := none
  pendingEventCount := 0
  effects           := []

theorem grown_init (uninitialised : FdContextPtr → Events) : Grown (init uninitialised) :=
  ⟨[], init fun _ => 0, (fun _ h => by cases h), rfl,
    (contextResize_lockstep (show Lockstep (noContexts uninitialised) (noContexts fun _ => 0)
      from ⟨rfl, rfl⟩) 32).1⟩

/-- Two memories that agree as far as they are looked at make twins. -/
theorem twins_init {u₁ u₂ : FdContextPtr → Events}
    (hadded : ∀ p, Added p → Events.shown (u₁ p) = Events.shown (u₂ p))
    (hfound : ∀ p, Found p → Events.settled (u₁ p) = Events.settled (u₂ p)) :
    Twins (init u₁) (init u₂) := by
  have hstart : Lockstep (noContexts u₁) (noContexts u₂) := ⟨rfl, rfl⟩
  obtain ⟨htable, hagree⟩ := contextResize_lockstep hstart 32
  exact ⟨htable, hagree fun p hp => ⟨rfl, hadded p hp⟩, hagree fun p hp => ⟨rfl, hfound p hp⟩⟩

/-! ## Section 4: Telling contexts apart -/

/-- No call has changed a context of the table. -/
structure Untouched (m : IOManager) (uninitialised : FdContextPtr → Events) : Prop where
  memory   : m.uninitialised = uninitialised
  contexts : ∀ p ∈ m.fdContexts, p < m.created ∧ (m.heap p).curEvents = uninitialised p

/-- A new context holds what its memory held. -/
theorem newContexts_untouched {α : Type} {u : FdContextPtr → Events} (xs : List α) :
    ∀ {m : IOManager}, Untouched m u →
      Untouched (xs.foldl (fun m _ => m.newContext m.fdContexts.length) m) u := by
  induction xs with
  | nil =>
    intro m h
    exact h
  | cons x xs ih =>
    intro m h
    rw [List.foldl_cons]
    refine ih ⟨h.memory, fun p hp => ?_⟩
    have hheap : (m.newContext m.fdContexts.length).heap p =
        if p = m.created then ⟨.empty, .empty, m.fdContexts.length, m.uninitialised m.created⟩
        else m.heap p := rfl
    rw [hheap]
    show p < m.created + 1 ∧ _
    rcases List.mem_append.mp hp with hp | hp
    · obtain ⟨hlt, hcur⟩ := h.contexts p hp
      rw [if_neg (Nat.ne_of_lt hlt)]
      exact ⟨Nat.lt_succ_of_lt hlt, hcur⟩
    · obtain rfl := List.mem_singleton.mp hp
      rw [if_pos rfl, h.memory]
      exact ⟨Nat.lt_succ_self _, rfl⟩

theorem contextResize_untouched {m : IOManager} {u : FdContextPtr → Events} (h : Untouched m u)
    (size : Nat) : Untouched (m.contextResize size) u :=
  newContexts_untouched _ ⟨h.memory, fun p hp => h.contexts p (List.mem_of_mem_take hp)⟩

theorem init_untouched (u : FdContextPtr → Events) : Untouched (init u) u :=
  contextResize_untouched (m := noContexts u) ⟨rfl, fun _ hp => by cases hp⟩ 32

theorem lookupInt_mem {m : IOManager} {fd : Int} {p : FdContextPtr}
    (h : m.lookupInt fd = .ok (some p)) : p ∈ m.fdContexts := by
  unfold lookupInt at h
  split at h
  · cases h
  · obtain ⟨q, hq, hp⟩ := map_eq_ok h
    obtain rfl := Option.some.inj hp
    exact List.mem_of_getElem? (fdContextAt_getElem? hq)

/-- The context that a call finds is in the table. -/
theorem find_mem {m m' : IOManager} {fd : Int} {adds : Bool} {p : FdContextPtr}
    (h : m.find fd adds = .ok (m', some p)) : p ∈ m'.fdContexts := by
  have hself : Lockstep m m := ⟨rfl, rfl⟩
  rcases find_lockstep hself fd adds with
    ⟨f, herr, -⟩ | ⟨-, hnone, -⟩ | ⟨q, hlook, hsome, -⟩ | ⟨-, q, hmem, hsome, -⟩
  · rw [herr] at h
    cases h
  · rw [hnone] at h
    cases h
  · obtain ⟨rfl, hq⟩ := Prod.mk.inj (Except.ok.inj (hsome.symm.trans h))
    obtain rfl := Option.some.inj hq
    exact lookupInt_mem hlook
  · obtain ⟨rfl, hq⟩ := Prod.mk.inj (Except.ok.inj (hsome.symm.trans h))
    obtain rfl := Option.some.inj hq
    exact hmem

/-- What `Grown` says of one manager can be had from any memory. -/
theorem after_quiet {u : FdContextPtr → Events} (fds : List Int) :
    ∀ {m m₀ m₁ : IOManager}, Lockstep m m₀ → Untouched m u →
      m₀.after (fds.map quiet) = some m₁ →
      ∃ m', m.after (fds.map quiet) = some m' ∧ Lockstep m' m₁ ∧ Untouched m' u := by
  induction fds with
  | nil =>
    intro m m₀ m₁ h hu hrun
    obtain rfl := Option.some.inj hrun
    exact ⟨m, rfl, h, hu⟩
  | cons fd fds ih =>
    intro m m₀ m₁ h hu hrun
    obtain ⟨n₀, hcall, hrest⟩ := Option.bind_eq_some_iff.mp hrun
    -- a quiet call grows the table at most, and both tables grow alike
    have hstep : ∃ n, (m.callOnce (quiet fd)).2 = some n ∧ Lockstep n n₀ ∧ Untouched n u := by
      rcases find_lockstep h fd true with
        ⟨f, -, herr⟩ | ⟨hadds, -⟩ | ⟨p, -, hsome, hsome₀⟩ | ⟨-, p, -, hsome, hsome₀⟩
      · rw [callOnce, show m₀.find (quiet fd).call.fd (quiet fd).call.isAdd = _ from herr] at hcall
        cases hcall
      · cases hadds
      · rw [callOnce_quiet hsome₀] at hcall
        obtain rfl := Option.some.inj hcall
        rw [callOnce_quiet hsome]
        exact ⟨_, rfl, ⟨h.fdContexts, h.created⟩, ⟨hu.memory, hu.contexts⟩⟩
      · rw [callOnce_quiet hsome₀] at hcall
        obtain rfl := Option.some.inj hcall
        rw [callOnce_quiet hsome]
        have htable := (contextResize_lockstep h (fd.toNat * 3 / 2)).1
        have huntouched := contextResize_untouched hu (fd.toNat * 3 / 2)
        exact ⟨_, rfl, ⟨htable.fdContexts, htable.created⟩,
          ⟨huntouched.memory, huntouched.contexts⟩⟩
    obtain ⟨n, hn, hsame, huntouched⟩ := hstep
    obtain ⟨m', hm', hlast⟩ := ih hsame huntouched hrest
    refine ⟨m', ?_, hlast⟩
    show (m.callOnce (quiet fd)).2.bind _ = _
    rw [hn]
    exact hm'

/-- The other side finds the same one. -/
theorem find_of_lockstep {m₁ m m' : IOManager} (h : Lockstep m₁ m) {fd : Int} {adds : Bool}
    {p : FdContextPtr} (hfind : m.find fd adds = .ok (m', some p)) :
    ∃ m₁', m₁.find fd adds = .ok (m₁', some p) := by
  rcases find_lockstep h fd adds with
    ⟨f, -, herr⟩ | ⟨-, -, hnone⟩ | ⟨q, -, h₁, h₂⟩ | ⟨-, q, -, h₁, h₂⟩
  · rw [herr] at hfind
    cases hfind
  · rw [hnone] at hfind
    cases hfind
  · obtain ⟨-, hq⟩ := Prod.mk.inj (Except.ok.inj (h₂.symm.trans hfind))
    exact ⟨_, hq ▸ h₁⟩
  · obtain ⟨-, hq⟩ := Prod.mk.inj (Except.ok.inj (h₂.symm.trans hfind))
    exact ⟨_, hq ▸ h₁⟩

/-- The context found in an untouched table is as its memory was. -/
theorem find_untouched {m m' : IOManager} {u : FdContextPtr → Events} (h : Untouched m u)
    {fd : Int} {adds : Bool} {p : FdContextPtr} (hfind : m.find fd adds = .ok (m', some p)) :
    (m'.heap p).curEvents = u p := by
  have hself : Lockstep m m := ⟨rfl, rfl⟩
  have hmem := find_mem hfind
  rcases find_lockstep hself fd adds with
    ⟨f, herr, -⟩ | ⟨-, hnone, -⟩ | ⟨q, -, hsome, -⟩ | ⟨-, q, -, hsome, -⟩
  · rw [herr] at hfind
    cases hfind
  · rw [hnone] at hfind
    cases hfind
  · obtain ⟨rfl, -⟩ := Prod.mk.inj (Except.ok.inj (hsome.symm.trans hfind))
    exact (h.contexts p hmem).2
  · obtain ⟨rfl, -⟩ := Prod.mk.inj (Except.ok.inj (hsome.symm.trans hfind))
    exact ((contextResize_untouched h _).contexts p hmem).2

/-- A `delEvent` that the kernel grants. -/
def removal (fd : Int) (event : Event) : IOCall :=
  ⟨.delEvent fd event, ⟨none, 0⟩, fun _ => some ⟨0, 0⟩, true⟩

/-- Removed or not there: afterwards the bit is clear. -/
theorem callOnce_removal {m : IOManager} {fd : Int} {p : FdContextPtr} (event : Event)
    (hlook : m.lookupInt fd = .ok (some p)) :
    ∃ a m', m.callOnce (removal fd event) =
        (⟨issued (m.heap p).curEvents (.delEvent fd event), some a⟩, some m') ∧
      m'.lookupInt fd = .ok (some p) ∧
      (m'.heap p).curEvents = (m.heap p).curEvents &&& ~~~event.mask := by
  have hfind : m.find (removal fd event).call.fd (removal fd event).call.isAdd =
      .ok (m, some p) := by
    simp only [removal, Call.fd, find, hlook, bind, Except.bind, pure, Except.pure]
  have hanswer := answer_perform { m with interest := fun _ => some ⟨0, 0⟩ } p ⟨none, 0⟩ true
    (.delEvent fd event)
  have hperform : ∃ c a, (m.heap p).perform ⟨none, 0⟩
      ({ m with interest := fun _ => some ⟨0, 0⟩ }.granted p true (.delEvent fd event))
      (.delEvent fd event) = .ok (c, a) ∧
      c.curEvents = (m.heap p).curEvents &&& ~~~event.mask := by
    -- an event that is set is taken away, one that is not leaves the word as it is
    rcases Bool.eq_false_or_eq_true ((m.heap p).curEvents.test event.mask) with htest | htest
    · have hgranted : ({ m with interest := fun _ => some ⟨0, 0⟩ } : IOManager).granted p true
          (.delEvent fd event) = true := by
        simp only [granted, issued, htest, if_true, Option.any_some]
        exact (epoll_ctl_change_isSome _ _ _ _ _).mpr ⟨rfl, rfl⟩
      rw [hgranted]
      simp only [FdContext.perform, htest, Bool.and_self, if_true, bind, Except.bind, pure,
        Except.pure]
      cases event with
      | NONE =>
        rw [Events.test_NONE] at htest
        cases htest
      | READ => exact ⟨_, _, rfl, rfl⟩
      | WRITE => exact ⟨_, _, rfl, rfl⟩
    · simp only [FdContext.perform, htest, Bool.false_and, Bool.false_eq_true, if_false]
      exact ⟨_, _, rfl, (Events.andNot_of_clear htest).symm⟩
  obtain ⟨c, a, hok, hcur⟩ := hperform
  rw [show ({ m with interest := fun _ => some ⟨0, 0⟩ } : IOManager).heap p = m.heap p from rfl,
    hok] at hanswer
  rcases map_eq_map hanswer with ⟨f, -, hf⟩ | ⟨⟨m', a'⟩, r, hm', hr, heq⟩
  · cases hf
  · obtain rfl := Except.ok.inj hr
    obtain ⟨hbare, rfl⟩ := Prod.mk.inj heq
    obtain ⟨hheap, -, htable⟩ := of_bare hbare
    refine ⟨a', m', callOnce_ok hfind hm', ?_, ?_⟩
    · rw [lookupInt_congr htable.fdContexts]
      exact (lookupInt_congr rfl fd).trans hlook
    · rw [hheap]
      show (if p = p then c else m.heap p).curEvents = _
      rw [if_pos rfl, hcur]

/-- Both removals seen: whether anything else is left is known. -/
theorem observe_removals {m : IOManager} {fd : Int} {p : FdContextPtr}
    (hlook : m.lookupInt fd = .ok (some p)) :
    ∃ a a', m.observe [removal fd .READ, removal fd .WRITE] =
      [⟨issued (m.heap p).curEvents (.delEvent fd .READ), some a⟩,
        ⟨issued ((m.heap p).curEvents &&& ~~~Event.READ.mask) (.delEvent fd .WRITE), some a'⟩] := by
  obtain ⟨a, m', hfirst, hlook', hcur⟩ := callOnce_removal .READ hlook
  obtain ⟨a', m'', hsecond, -, -⟩ := callOnce_removal .WRITE hlook'
  refine ⟨a, a', ?_⟩
  simp only [observe, hfirst, Option.elim_some, hsecond, hcur]

end IOManager

namespace Events

/-- What the kernel is told of an `addEvent` tells `shown`. -/
theorem shown_of_issued {a b : Events}
    (hop : (if a ≠ 0 then EpollCtlOp.MOD else .ADD) = if b ≠ 0 then EpollCtlOp.MOD else .ADD)
    (hmask : EPOLLET ||| a ||| Event.NONE.mask = EPOLLET ||| b ||| Event.NONE.mask) :
    shown a = shown b := by
  rw [show Event.NONE.mask = 0#32 from rfl, BitVec.or_zero, BitVec.or_zero, BitVec.or_comm _ a,
    BitVec.or_comm _ b] at hmask
  unfold shown
  rw [hmask]
  by_cases ha : a = 0
  · by_cases hb : b = 0
    · rw [if_pos ha, if_pos hb]
    · rw [if_neg (not_not_intro ha), if_pos hb] at hop
      cases hop
  · by_cases hb : b = 0
    · rw [if_pos ha, if_neg (not_not_intro hb)] at hop
      cases hop
    · rw [if_neg ha, if_neg hb]

/-- The `epoll_ctl` of a removal tells whether it leaves anything. -/
theorem left_of_issued {a b : Events} {fd : Int} {e : Event} (htest : a.test e.mask = true)
    (h : IOManager.issued a (.delEvent fd e) = IOManager.issued b (.delEvent fd e)) :
    a &&& ~~~e.mask = 0 ↔ b &&& ~~~e.mask = 0 := by
  by_cases hb : b.test e.mask = true
  · simp only [IOManager.issued, htest, hb, if_true, Option.some.injEq, Prod.mk.injEq] at h
    by_cases ha0 : a &&& ~~~e.mask = 0 <;> by_cases hb0 : b &&& ~~~e.mask = 0 <;>
      simp_all
  · simp only [IOManager.issued, htest, hb, if_true] at h
    cases h

/-- What `shown` leaves: whether it is 0, and the bits but `EPOLLET`. -/
theorem eq_of_shown {a b : Events} (h : shown a = shown b) :
    (a = 0 ↔ b = 0) ∧ EPOLLET ||| a = EPOLLET ||| b ∧ ∀ e : Event, a.test e.mask = b.test e.mask := by
  refine ⟨?_, ?_, fun e => ?_⟩
  · rw [← keeps_shown.zero a, h, keeps_shown.zero]
  · rw [← keeps_shown.mask a, h, keeps_shown.mask]
  · rw [← keeps_shown.test a, h, keeps_shown.test]

theorem and_EPOLLET (a : Events) : a &&& EPOLLET = 0 ∨ a &&& EPOLLET = EPOLLET := by
  rw [show EPOLLET = BitVec.twoPow 32 31 by decide, BitVec.and_twoPow]
  split
  · exact Or.inr rfl
  · exact Or.inl rfl

/-- Whether anything is left after both removals. -/
theorem left_of_removals {a b : Events} {fd : Int} (hshown : shown a = shown b)
    (hread : IOManager.issued a (.delEvent fd .READ) = IOManager.issued b (.delEvent fd .READ))
    (hwrite : IOManager.issued (a &&& ~~~Event.READ.mask) (.delEvent fd .WRITE) =
      IOManager.issued (b &&& ~~~Event.READ.mask) (.delEvent fd .WRITE)) :
    a &&& ~~~Event.READ.mask &&& ~~~Event.WRITE.mask = 0 ↔
      b &&& ~~~Event.READ.mask &&& ~~~Event.WRITE.mask = 0 := by
  obtain ⟨hzero, -, htest⟩ := eq_of_shown hshown
  have htest' : (a &&& ~~~Event.READ.mask).test Event.WRITE.mask =
      (b &&& ~~~Event.READ.mask).test Event.WRITE.mask := by
    rw [test_andNot, test_andNot, htest]
  cases hW : (a &&& ~~~Event.READ.mask).test Event.WRITE.mask with
  | true => exact left_of_issued hW hwrite
  | false =>
    rw [andNot_of_clear hW, andNot_of_clear (htest'.symm.trans hW)]
    cases hR : a.test Event.READ.mask with
    | true => exact left_of_issued hR hread
    | false => rwa [andNot_of_clear hR, andNot_of_clear ((htest .READ).symm.trans hR)]

/-- What the kernel is told of two removals tells `settled`. -/
theorem settled_of_removals {a b : Events} {fd : Int} (hshown : shown a = shown b)
    (hread : IOManager.issued a (.delEvent fd .READ) = IOManager.issued b (.delEvent fd .READ))
    (hwrite : IOManager.issued (a &&& ~~~Event.READ.mask) (.delEvent fd .WRITE) =
      IOManager.issued (b &&& ~~~Event.READ.mask) (.delEvent fd .WRITE)) :
    settled a = settled b := by
  have hleft := left_of_removals hshown hread hwrite
  obtain ⟨-, hmask, -⟩ := eq_of_shown hshown
  have hother : a &&& OTHER = b &&& OTHER := by
    have h := congrArg (· &&& OTHER) hmask
    simpa only [BitVec.and_or_distrib_right, show EPOLLET &&& OTHER = 0#32 by decide,
      BitVec.zero_or] using h
  unfold settled
  rw [← hother]
  split
  · rw [BitVec.or_comm a, BitVec.or_comm b, hmask]
  · rename_i hnone
    -- but for `EPOLLET` nothing is left then, and the removals have told it
    have hrest : ∀ c : Events, c &&& OTHER = 0 →
        c &&& ~~~Event.READ.mask &&& ~~~Event.WRITE.mask = c &&& EPOLLET := by
      intro c hc
      rw [BitVec.and_assoc, show ~~~Event.READ.mask &&& ~~~Event.WRITE.mask = EPOLLET ||| OTHER by
        decide, BitVec.and_or_distrib_left, hc]
      exact BitVec.or_zero
    have hnone' : a &&& OTHER = 0 := not_not.mp hnone
    rw [hrest a hnone', hrest b (hother ▸ hnone')] at hleft
    have hbit : a &&& EPOLLET = b &&& EPOLLET := by
      rcases and_EPOLLET a with ha | ha <;> rcases and_EPOLLET b with hb | hb
      · rw [ha, hb]
      · exact absurd (hb.symm.trans (hleft.mp ha)) (by decide)
      · exact absurd (ha.symm.trans (hleft.mpr hb)) (by decide)
      · rw [ha, hb]
    have hbits : a &&& ~~~EPOLLET = b &&& ~~~EPOLLET := by
      have h := congrArg (· &&& ~~~EPOLLET) hmask
      simpa only [BitVec.and_or_distrib_right, show EPOLLET &&& ~~~EPOLLET = 0#32 by decide,
        BitVec.zero_or] using h
    have hsplit : ∀ c : Events, (c &&& EPOLLET) ||| (c &&& ~~~EPOLLET) = c := fun c => by
      rw [← BitVec.and_or_distrib_left, BitVec.or_not_self, BitVec.and_allOnes]
    rw [← hsplit a, hbit, hbits, hsplit b]

end Events

namespace IOManager

/-- Every grown table is reached from either memory, and what is seen from there
    on is the same. -/
theorem observe_from_grown {u₁ u₂ : FdContextPtr → Events}
    (hsame : ∀ calls : List IOCall, (∀ c ∈ calls, IsInt c.call.fd) →
      (init u₁).observe calls = (init u₂).observe calls)
    {m : IOManager} (hgrown : Grown m) :
    ∃ m₁ m₂, Lockstep m₁ m ∧ Lockstep m₂ m ∧ Untouched m₁ u₁ ∧ Untouched m₂ u₂ ∧
      ∀ calls : List IOCall, (∀ c ∈ calls, IsInt c.call.fd) → m₁.observe calls = m₂.observe calls := by
  obtain ⟨fds, m₀, hfds, hrun, hm⟩ := hgrown
  have hstart : ∀ u, Lockstep (init u) (init fun _ => 0) := fun u => by
    have h : Lockstep (noContexts u) (noContexts fun _ => 0) := ⟨rfl, rfl⟩
    exact (contextResize_lockstep h 32).1
  obtain ⟨m₁, hrun₁, h₁, hu₁⟩ := after_quiet fds (hstart u₁) (init_untouched u₁) hrun
  obtain ⟨m₂, hrun₂, h₂, hu₂⟩ := after_quiet fds (hstart u₂) (init_untouched u₂) hrun
  refine ⟨m₁, m₂, h₁.trans hm.symm, h₂.trans hm.symm, hu₁, hu₂, fun calls hcalls => ?_⟩
  obtain ⟨hlen₁, happ₁⟩ := observe_append (fds.map quiet) calls hrun₁
  obtain ⟨hlen₂, happ₂⟩ := observe_append (fds.map quiet) calls hrun₂
  have hall := hsame (fds.map quiet ++ calls) (by
    intro c hc
    rcases List.mem_append.mp hc with hc | hc
    · obtain ⟨fd, hfd, rfl⟩ := List.mem_map.mp hc
      exact hfds fd hfd
    · exact hcalls c hc)
  rw [happ₁, happ₂] at hall
  exact (List.append_inj hall (hlen₁.trans hlen₂.symm)).2

/-- A failing `addEvent` tells what `shown` leaves. -/
theorem shown_of_observe {m₁ m₂ m₁' m₂' : IOManager} {u₁ u₂ : FdContextPtr → Events} {fd : Int}
    {p : FdContextPtr} (hu₁ : Untouched m₁ u₁) (hu₂ : Untouched m₂ u₂)
    (h₁ : m₁.find fd true = .ok (m₁', some p)) (h₂ : m₂.find fd true = .ok (m₂', some p))
    (hobs : m₁.observe [quiet fd] = m₂.observe [quiet fd]) :
    Events.shown (u₁ p) = Events.shown (u₂ p) := by
  simp only [observe, callOnce_quiet h₁, callOnce_quiet h₂, find_untouched hu₁ h₁,
    find_untouched hu₂ h₂, Option.elim_some, List.cons.injEq, Seen.mk.injEq, Option.some.injEq,
    Prod.mk.injEq] at hobs
  exact Events.shown_of_issued hobs.1.1.1 hobs.1.1.2

/-- Two executions that differ in the memory of new contexts cannot be told apart
    by their calls exactly if the `curEvents` found there are the same, up to
    `EPOLLET` where no call depends on it. -/
theorem fresh_memory_unseen_iff (u₁ u₂ : FdContextPtr → Events) :
    (∀ calls : List IOCall, (∀ c ∈ calls, IsInt c.call.fd) →
      (init u₁).observe calls = (init u₂).observe calls) ↔
    (∀ p, Added p → Events.shown (u₁ p) = Events.shown (u₂ p)) ∧
      ∀ p, Found p → Events.settled (u₁ p) = Events.settled (u₂ p) := by
  constructor
  · intro hsame
    have hshown : ∀ p, Added p → Events.shown (u₁ p) = Events.shown (u₂ p) := by
      rintro p ⟨m, fd, m', hgrown, hfd, hfind⟩
      obtain ⟨m₁, m₂, h₁, h₂, hu₁, hu₂, hobs⟩ := observe_from_grown hsame hgrown
      obtain ⟨m₁', hfind₁⟩ := find_of_lockstep h₁ hfind
      obtain ⟨m₂', hfind₂⟩ := find_of_lockstep h₂ hfind
      refine shown_of_observe hu₁ hu₂ hfind₁ hfind₂ (hobs _ fun c hc => ?_)
      obtain rfl := List.mem_singleton.mp hc
      exact hfd
    refine ⟨hshown, ?_⟩
    rintro p ⟨m, fd, hgrown, hfd, hlook⟩
    obtain ⟨m₁, m₂, h₁, h₂, hu₁, hu₂, hobs⟩ := observe_from_grown hsame hgrown
    have hlook₁ := (lookupInt_congr h₁.fdContexts fd).trans hlook
    have hlook₂ := (lookupInt_congr h₂.fdContexts fd).trans hlook
    -- a context that is found may be added to as well
    have hadded : Added p := by
      refine ⟨m, fd, m, hgrown, hfd, ?_⟩
      simp only [find, hlook, bind, Except.bind, pure, Except.pure]
    -- removing both events shows the two bits one after the other
    obtain ⟨a₁, b₁, hobs₁⟩ := observe_removals hlook₁
    obtain ⟨a₂, b₂, hobs₂⟩ := observe_removals hlook₂
    have hremovals := hobs [removal fd .READ, removal fd .WRITE] (by
      intro c hc
      rcases List.mem_cons.mp hc with rfl | hc
      · exact hfd
      · obtain rfl := List.mem_singleton.mp hc
        exact hfd)
    rw [hobs₁, hobs₂, (hu₁.contexts p (lookupInt_mem hlook₁)).2,
      (hu₂.contexts p (lookupInt_mem hlook₂)).2] at hremovals
    simp only [List.cons.injEq, Seen.mk.injEq] at hremovals
    exact Events.settled_of_removals (hshown p hadded) hremovals.1.1 hremovals.2.1.1
  · rintro ⟨hadded, hfound⟩ calls hcalls
    exact observe_twins calls (twins_init hadded hfound) (grown_init u₁) hcalls

/-- `READ` left in the memory of a context: `addEvent` asserts for one execution
    and registers the event for the other. -/
theorem fresh_memory_seen :
    (∀ c ∈ [IOCall.mk (.addEvent 5 .READ none) ⟨some 0, 0⟩ (fun _ => none) true],
      IsInt c.call.fd) ∧
    (init fun _ => 0x1#32).observe
        [⟨.addEvent 5 .READ none, ⟨some 0, 0⟩, fun _ => none, true⟩] = [⟨none, none⟩] ∧
    (init fun _ => 0x0#32).observe
        [⟨.addEvent 5 .READ none, ⟨some 0, 0⟩, fun _ => none, true⟩] =
      [⟨some (.ADD, 0x80000001#32), some (.rt 0)⟩] := by
  refine ⟨?_, by decide, by decide⟩
  intro c hc
  obtain rfl := List.mem_singleton.mp hc
  unfold IsInt
  decide

end IOManager

end MNSER
