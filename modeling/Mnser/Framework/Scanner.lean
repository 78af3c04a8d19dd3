import Mathlib.Data.List.Basic
import Mathlib.Logic.Function.Basic

/-! # Resumable scanners

    A scanner goes through a buffer byte by byte.  Its actions note the
    position they are performed at in registers, and call back with what the
    registers delimit.  A scanner is resumable when its state is kept from one
    buffer to the next; the registers are positions in the buffer at hand, so
    they mean nothing in the next buffer.

    `scan` runs a scanner over one buffer.  Freshness says which registers
    were set since the buffer began.  As long as every call back only uses
    fresh registers, the scan of a part of a text in a buffer of its own and
    the scan of that part inside the whole text do the same. -/

namespace Scanner

/-- How a scanner goes on after a byte: behind it, with the end of the scan
    behind it, or with the end of the scan in front of it. -/
inductive Step (σ α : Type) where
  | next (s : σ) (acts : List α)
  | last (s : σ) (acts : List α)
  | fail (s : σ)
  deriving DecidableEq

/-- The end of a scan; `stopped` unless the buffer was used up. -/
structure Scan (σ D : Type) where
  state   : σ
  pos     : Nat
  data    : D
  stopped : Bool

variable {σ α β D : Type}

def Step.acts : Step σ α → List α
  | .next _ acts => acts
  | .last _ acts => acts
  | .fail _      => []

/-! ## Section 1: Scans -/

/-- Scan a list of bytes that starts at `pos`; `none` when an action throws. -/
def scan (δ : σ → β → Step σ α) (eff : Nat → List α → D → Option D) :
    Nat → σ → D → List β → Option (Scan σ D)
  | pos, s, d, [] => some ⟨s, pos, d, false⟩
  | pos, s, d, c :: cs =>
    match δ s c with
    | .next t acts => (eff pos acts d).bind fun d => scan δ eff (pos + 1) t d cs
    | .last t acts => (eff pos acts d).map fun d => ⟨t, pos + 1, d, true⟩
    | .fail t      => some ⟨t, pos, d, true⟩

theorem scan_append (δ : σ → β → Step σ α) (eff : Nat → List α → D → Option D)
    (ys : List β) (xs : List β) :
    ∀ pos s d, scan δ eff pos s d (xs ++ ys) =
      (scan δ eff pos s d xs).bind fun r =>
        if r.stopped then some r else scan δ eff r.pos r.state r.data ys := by
  induction xs with
  | nil => intro pos s d; rfl
  | cons c cs ih =>
    intro pos s d
    simp only [List.cons_append, scan]
    cases δ s c with
    | next t acts =>
      cases heff : eff pos acts d with
      | none => simp only [heff, Option.bind_none]
      | some d' => simp only [heff, Option.bind_some, ih]
    | last t acts =>
      cases heff : eff pos acts d with
      | none => simp only [heff, Option.map_none, Option.bind_none]
      | some d' => simp only [heff, Option.map_some, Option.bind_some, if_true]
    | fail t => rfl

/-- A scan that does not stop reads all of the buffer. -/
theorem scan_pos (δ : σ → β → Step σ α) (eff : Nat → List α → D → Option D) (xs : List β) :
    ∀ {pos s d r}, scan δ eff pos s d xs = some r →
      pos ≤ r.pos ∧ r.pos ≤ pos + xs.length ∧
        (r.stopped = false → r.pos = pos + xs.length) := by
  -- only a scan that has not stopped has read all of the list
  induction xs with
  | nil =>
    intro pos s d r h
    obtain rfl := Option.some.inj h
    simp
  | cons c cs ih =>
    intro pos s d r h
    rw [List.length_cons]
    simp only [scan] at h
    cases hstep : δ s c with
    | next t acts =>
      rw [hstep] at h
      obtain ⟨d', _, hrest⟩ := Option.bind_eq_some_iff.mp h
      obtain ⟨hge, hle, hend⟩ := ih hrest
      refine ⟨by omega, by omega, fun hstop => ?_⟩
      have := hend hstop
      omega
    | last t acts =>
      rw [hstep] at h
      obtain ⟨d', _, rfl⟩ := Option.map_eq_some_iff.mp h
      refine ⟨by simp, by simp, fun hstop => ?_⟩
      cases hstop
    | fail t =>
      rw [hstep] at h
      obtain rfl := Option.some.inj h
      refine ⟨by simp, by simp, fun hstop => ?_⟩
      cases hstop

/-- A scan that moves nowhere failed at its first byte. -/
theorem scan_stuck {δ : σ → β → Step σ α} {eff : Nat → List α → D → Option D} {pos : Nat}
    {s : σ} {d : D} {c : β} {cs : List β} {r : Scan σ D}
    (h : scan δ eff pos s d (c :: cs) = some r) (hpos : r.pos = pos) : δ s c = .fail r.state := by
  simp only [scan] at h
  cases hstep : δ s c with
  | next t acts =>
    rw [hstep] at h
    obtain ⟨d', _, hrest⟩ := Option.bind_eq_some_iff.mp h
    have := (scan_pos δ eff cs hrest).1
    omega
  | last t acts =>
    rw [hstep] at h
    obtain ⟨d', _, rfl⟩ := Option.map_eq_some_iff.mp h
    exact absurd hpos (Nat.succ_ne_self _)
  | fail t =>
    rw [hstep] at h
    obtain rfl := Option.some.inj h
    rfl

/-- What holds of state and data together, from one step to the next. -/
theorem scan_rule {δ : σ → β → Step σ α} {eff : Nat → List α → D → Option D}
    (Goes Ends : σ → D → Prop)
    (hnext : ∀ pos s c t acts d d', Goes s d → δ s c = .next t acts → eff pos acts d = some d' →
      Goes t d')
    (hlast : ∀ pos s c t acts d d', Goes s d → δ s c = .last t acts → eff pos acts d = some d' →
      Ends t d')
    (hfail : ∀ s c t d, Goes s d → δ s c = .fail t → Ends t d) (xs : List β) :
    ∀ {pos s d r}, Goes s d → scan δ eff pos s d xs = some r →
      if r.stopped = true then Ends r.state r.data else Goes r.state r.data := by
  -- one step goes on in Goes or stops in Ends
  induction xs with
  | nil =>
    intro pos s d r hs h
    obtain rfl := Option.some.inj h
    exact hs
  | cons c cs ih =>
    intro pos s d r hs h
    simp only [scan] at h
    cases hstep : δ s c with
    | next t acts =>
      rw [hstep] at h
      obtain ⟨d', hd', hrest⟩ := Option.bind_eq_some_iff.mp h
      exact ih (hnext pos s c t acts d d' hs hstep hd') hrest
    | last t acts =>
      rw [hstep] at h
      obtain ⟨d', hd', rfl⟩ := Option.map_eq_some_iff.mp h
      exact hlast pos s c t acts d d' hs hstep hd'
    | fail t =>
      rw [hstep] at h
      obtain rfl := Option.some.inj h
      exact hfail s c t d hs hstep

/-- What the states a scanner goes on in, and those it ends in, have in common. -/
theorem scan_state {δ : σ → β → Step σ α} {eff : Nat → List α → D → Option D}
    {Goes Ends : σ → Prop} (hnext : ∀ s c t acts, δ s c = .next t acts → Goes t)
    (hlast : ∀ s c t acts, δ s c = .last t acts → Ends t)
    (hfail : ∀ s c t, δ s c = .fail t → Ends t) (xs : List β) {pos : Nat} {s : σ} {d : D}
    {r : Scan σ D} (hs : Goes s) (h : scan δ eff pos s d xs = some r) :
    if r.stopped = true then Ends r.state else Goes r.state :=
  scan_rule (fun s _ => Goes s) (fun s _ => Ends s)
    (fun _ s c t acts _ _ _ hstep _ => hnext s c t acts hstep)
    (fun _ s c t acts _ _ _ hstep _ => hlast s c t acts hstep)
    (fun s c t _ _ hstep => hfail s c t hstep) xs hs h

/-- Effects that never throw do not change how a scan moves. -/
theorem scan_total {δ : σ → β → Step σ α} {eff : Nat → List α → D → Option D}
    (htotal : ∀ pos acts d, ∃ d', eff pos acts d = some d') (xs : List β) :
    ∀ {pos s} (d : D) {r}, scan δ (fun _ _ (u : Unit) => some u) pos s () xs = some r →
      ∃ d', scan δ eff pos s d xs = some ⟨r.state, r.pos, d', r.stopped⟩ := by
  -- the states and positions do not depend on the effects
  induction xs with
  | nil =>
    intro pos s d r h
    obtain rfl := Option.some.inj h
    exact ⟨d, rfl⟩
  | cons c cs ih =>
    intro pos s d r h
    simp only [scan] at h ⊢
    cases hstep : δ s c with
    | next t acts =>
      rw [hstep] at h
      obtain ⟨d', hd'⟩ := htotal pos acts d
      obtain ⟨d'', hd''⟩ := ih d' h
      refine ⟨d'', ?_⟩
      dsimp only
      rw [hd']
      exact hd''
    | last t acts =>
      rw [hstep] at h
      obtain rfl := Option.some.inj h
      obtain ⟨d', hd'⟩ := htotal pos acts d
      refine ⟨d', ?_⟩
      dsimp only
      rw [hd']
      rfl
    | fail t =>
      rw [hstep] at h
      obtain rfl := Option.some.inj h
      exact ⟨d, rfl⟩

/-- Two scans whose effects keep their data related go the same way. -/
theorem scan_related {E : Type} {δ : σ → β → Step σ α} {eff : Nat → List α → D → Option D}
    {eff' : Nat → List α → E → Option E} {R : D → E → Prop}
    (heff : ∀ pos acts d d' e, R d e → eff pos acts d = some d' →
      ∃ e', eff' pos acts e = some e' ∧ R d' e') (xs : List β) :
    ∀ {pos s d e r}, R d e → scan δ eff pos s d xs = some r →
      ∃ e', scan δ eff' pos s e xs = some ⟨r.state, r.pos, e', r.stopped⟩ ∧ R r.data e' := by
  -- both scans take the same steps, so only the effects have to be related
  induction xs with
  | nil =>
    intro pos s d e r hR h
    obtain rfl := Option.some.inj h
    exact ⟨e, rfl, hR⟩
  | cons c cs ih =>
    intro pos s d e r hR h
    simp only [scan] at h ⊢
    cases hstep : δ s c with
    | next t acts =>
      rw [hstep] at h
      obtain ⟨d', hd', hrest⟩ := Option.bind_eq_some_iff.mp h
      obtain ⟨e', he', hR'⟩ := heff pos acts d d' e hR hd'
      simp only [he', Option.bind_some]
      exact ih hR' hrest
    | last t acts =>
      rw [hstep] at h
      obtain ⟨d', hd', rfl⟩ := Option.map_eq_some_iff.mp h
      obtain ⟨e', he', hR'⟩ := heff pos acts d d' e hR hd'
      exact ⟨e', by simp only [he', Option.map_some], hR'⟩
    | fail t =>
      rw [hstep] at h
      obtain rfl := Option.some.inj h
      exact ⟨e, rfl, hR⟩

/-- Without effects a scan comes to an end. -/
theorem scan_unit (δ : σ → β → Step σ α) (xs : List β) :
    ∀ (pos : Nat) (s : σ), ∃ r, scan δ (fun _ _ (u : Unit) => some u) pos s () xs = some r := by
  induction xs with
  | nil => exact fun pos s => ⟨_, rfl⟩
  | cons c cs ih =>
    intro pos s
    simp only [scan]
    cases δ s c with
    | next t acts => exact ih (pos + 1) t
    | last t acts => exact ⟨_, rfl⟩
    | fail t => exact ⟨_, rfl⟩

/-- What every effect keeps, the scan keeps. -/
theorem scan_keeps {δ : σ → β → Step σ α} {eff : Nat → List α → D → Option D}
    {K : D → Prop} (heff : ∀ pos acts d d', eff pos acts d = some d' → K d → K d')
    (xs : List β) {pos : Nat} {s : σ} {d : D} {r : Scan σ D}
    (h : scan δ eff pos s d xs = some r) (hd : K d) : K r.data := by
  have hrule := scan_rule (fun _ d => K d) (fun _ d => K d)
    (fun pos _ _ _ acts d d' hd _ h => heff pos acts d d' h hd)
    (fun pos _ _ _ acts d d' hd _ h => heff pos acts d d' h hd) (fun _ _ _ _ hd _ => hd) xs hd h
  split at hrule <;> exact hrule

/-! ## Section 2: Registers -/

/-- Actions on registers `ρ` and call backs `κ`. -/
inductive Act (ρ κ : Type) where
  | mark (r : ρ)
  | measure (l : ρ)
  | call (k : κ)
  deriving DecidableEq

variable {ρ κ S : Type} [DecidableEq ρ]

section

-- the position register a length is measured from; `none` for a position
variable (origin : ρ → Option ρ)

def move (pos : Nat) (a : Act ρ κ) (regs : ρ → Nat) : ρ → Nat :=
  match a with
  | .mark r => Function.update regs r pos
  | .measure l =>
    match origin l with
    | some r => Function.update regs l (pos - regs r)
    | none   => regs
  | .call _ => regs

/-- The registers after some actions at `pos`. -/
def moves (pos : Nat) : List (Act ρ κ) → (ρ → Nat) → ρ → Nat
  | [], regs => regs
  | a :: acts, regs => moves pos acts (move origin pos a regs)

/-- Perform actions at `pos` of a buffer. -/
def perform (call : κ → List β → Nat → (ρ → Nat) → S → Option S) (buf : List β) (pos : Nat) :
    List (Act ρ κ) → (ρ → Nat) × S → Option ((ρ → Nat) × S)
  | [], x => some x
  | .call k :: acts, x =>
    (call k buf pos x.1 x.2).bind fun d => perform call buf pos acts (x.1, d)
  | a :: acts, x => perform call buf pos acts (move origin pos a x.1, x.2)

theorem perform_keeps {call : κ → List β → Nat → (ρ → Nat) → S → Option S} {K : S → Prop}
    (hcall : ∀ k buf pos regs d d', call k buf pos regs d = some d' → K d → K d')
    {buf : List β} {pos : Nat} (acts : List (Act ρ κ)) :
    ∀ {x y : (ρ → Nat) × S}, perform origin call buf pos acts x = some y → K x.2 → K y.2 := by
  induction acts with
  | nil =>
    intro x y h hx
    obtain rfl := Option.some.inj h
    exact hx
  | cons a acts ih =>
    intro x y h hx
    cases a with
    | mark r => exact ih h hx
    | measure l => exact ih h hx
    | call k =>
      obtain ⟨d', hd', hrest⟩ := Option.bind_eq_some_iff.mp h
      exact ih hrest (hcall _ _ _ _ _ _ hd' hx)

/-- Call backs that keep data related do so on the way through the actions. -/
theorem perform_related {call : κ → List β → Nat → (ρ → Nat) → S → Option S} {R : S → S → Prop}
    (hcall : ∀ k buf pos regs d d' e, R d e → call k buf pos regs d = some d' →
      ∃ e', call k buf pos regs e = some e' ∧ R d' e')
    {buf : List β} {pos : Nat} (acts : List (Act ρ κ)) :
    ∀ {x x' y : (ρ → Nat) × S}, x.1 = y.1 ∧ R x.2 y.2 →
      perform origin call buf pos acts x = some x' →
      ∃ y', perform origin call buf pos acts y = some y' ∧ x'.1 = y'.1 ∧ R x'.2 y'.2 := by
  induction acts with
  | nil =>
    intro x x' y hxy h
    obtain rfl := Option.some.inj h
    exact ⟨y, rfl, hxy⟩
  | cons a acts ih =>
    intro x x' y hxy h
    have hmoved : move origin pos a x.1 = move origin pos a y.1 := by rw [hxy.1]
    cases a with
    | mark r =>
      exact ih (x := (move origin pos (.mark r) x.1, x.2))
        (y := (move origin pos (.mark r) y.1, y.2)) ⟨hmoved, hxy.2⟩ h
    | measure l =>
      exact ih (x := (move origin pos (.measure l) x.1, x.2))
        (y := (move origin pos (.measure l) y.1, y.2)) ⟨hmoved, hxy.2⟩ h
    | call k =>
      obtain ⟨d', hd', hrest⟩ := Option.bind_eq_some_iff.mp h
      obtain ⟨e', he', hR⟩ := hcall k buf pos x.1 x.2 d' y.2 hxy.2 hd'
      rw [hxy.1] at he' hrest
      obtain ⟨y', hy', hrelated⟩ := ih (x := (y.1, d')) (y := (y.1, e')) ⟨rfl, hR⟩ hrest
      exact ⟨y', by simp only [perform, he', Option.bind_some, hy'], hrelated⟩

/-! ## Section 3: Freshness -/

variable (uses : κ → List ρ)

/-- The fresh registers after an action; `none` if it uses another one.  A
    length is only fresh together with what it is measured from. -/
def freshen (a : Act ρ κ) (fresh : ρ → Bool) : Option (ρ → Bool) :=
  match a with
  | .mark r =>
    if origin r = none then
      some fun q => if q = r then true else if origin q = some r then false else fresh q
    else none
  | .measure l =>
    match origin l with
    | some r => some (Function.update fresh l (fresh r))
    | none   => none
  | .call k => if ∀ r ∈ uses k, fresh r = true then some fresh else none

def track : List (Act ρ κ) → (ρ → Bool) → Option (ρ → Bool)
  | [], fresh => some fresh
  | a :: acts, fresh => (freshen origin uses a fresh).bind (track acts)

/-- The registers `regs'` of a buffer that starts at `base` of a text agree
    with the registers `regs` of the text. -/
structure Agree (base pos : Nat) (fresh : ρ → Bool) (regs' regs : ρ → Nat) : Prop where
  position : ∀ r, fresh r = true → origin r = none → regs r = base + regs' r
  length   : ∀ l, fresh l = true → origin l ≠ none → regs l = regs' l
  le       : ∀ r, fresh r = true → regs' r ≤ pos
  within   : ∀ l r, fresh l = true → origin l = some r →
               fresh r = true ∧ regs' r + regs' l ≤ pos

variable {origin}

omit [DecidableEq ρ] in
/-- In a new buffer no register is fresh. -/
theorem Agree.stale {base pos : Nat} {regs' regs : ρ → Nat} :
    Agree origin base pos (fun _ => false) regs' regs where
  position := fun _ h => nomatch h
  length   := fun _ h => nomatch h
  le       := fun _ h => nomatch h
  within   := fun _ _ h => nomatch h

omit [DecidableEq ρ] in
theorem Agree.later {base pos : Nat} {fresh : ρ → Bool} {regs' regs : ρ → Nat}
    (h : Agree origin base pos fresh regs' regs) :
    Agree origin base (pos + 1) fresh regs' regs where
  position := h.position
  length   := h.length
  le       := fun r hr => Nat.le_succ_of_le (h.le r hr)
  within   := fun l r hl hr =>
    ⟨(h.within l r hl hr).1, Nat.le_succ_of_le (h.within l r hl hr).2⟩

variable {uses}

theorem Agree.mark (hflat : ∀ l r, origin l = some r → origin r = none)
    {base pos : Nat} {fresh : ρ → Bool} {regs' regs : ρ → Nat}
    (h : Agree origin base pos fresh regs' regs) {r : ρ} (hr : origin r = none) :
    Agree origin base pos
      (fun q => if q = r then true else if origin q = some r then false else fresh q)
      (Function.update regs' r pos) (Function.update regs r (base + pos)) where
  position := by
    intro q hq horigin
    by_cases hqr : q = r
    · subst hqr
      simp
    · rw [Function.update_of_ne hqr, Function.update_of_ne hqr]
      rw [if_neg hqr, horigin] at hq
      exact h.position q hq horigin
  length := by
    intro q hq horigin
    have hqr : q ≠ r := fun heq => horigin (heq ▸ hr)
    rw [Function.update_of_ne hqr, Function.update_of_ne hqr]
    rw [if_neg hqr] at hq
    split at hq
    · cases hq
    · exact h.length q hq horigin
  le := by
    intro q hq
    by_cases hqr : q = r
    · subst hqr
      simp
    · rw [Function.update_of_ne hqr]
      rw [if_neg hqr] at hq
      split at hq
      · cases hq
      · exact h.le q hq
  within := by
    intro l q hl horigin
    have hlr : l ≠ r := by
      rintro rfl
      rw [hr] at horigin
      cases horigin
    rw [if_neg hlr] at hl
    -- a length measured from `r` is not fresh any more
    have hqr : q ≠ r := by
      rintro rfl
      rw [if_pos horigin] at hl
      cases hl
    rw [if_neg (fun heq => hqr (Option.some.inj (horigin.symm.trans heq)))] at hl
    obtain ⟨hfresh, hle⟩ := h.within l q hl horigin
    rw [Function.update_of_ne hqr, Function.update_of_ne hlr, if_neg hqr, hflat l q horigin]
    exact ⟨hfresh, hle⟩

theorem Agree.measure (hflat : ∀ l r, origin l = some r → origin r = none)
    {base pos : Nat} {fresh : ρ → Bool} {regs' regs : ρ → Nat}
    (h : Agree origin base pos fresh regs' regs) {l r : ρ} (hl : origin l = some r) :
    Agree origin base pos (Function.update fresh l (fresh r))
      (Function.update regs' l (pos - regs' r))
      (Function.update regs l (base + pos - regs r)) := by
  -- a length is no origin, so r is a position and keeps its value
  have hrl : r ≠ l := by
    rintro rfl
    rw [hflat r r hl] at hl
    cases hl
  refine ⟨?_, ?_, ?_, ?_⟩
  · intro q hq horigin
    have hql : q ≠ l := by
      rintro rfl
      rw [hl] at horigin
      cases horigin
    rw [Function.update_of_ne hql] at hq
    rw [Function.update_of_ne hql, Function.update_of_ne hql]
    exact h.position q hq horigin
  · intro q hq horigin
    by_cases hql : q = l
    · subst hql
      rw [Function.update_self] at hq
      rw [Function.update_self, Function.update_self, h.position r hq (hflat q r hl)]
      omega
    · rw [Function.update_of_ne hql] at hq
      rw [Function.update_of_ne hql, Function.update_of_ne hql]
      exact h.length q hq horigin
  · intro q hq
    by_cases hql : q = l
    · subst hql
      rw [Function.update_self]
      exact Nat.sub_le _ _
    · rw [Function.update_of_ne hql] at hq
      rw [Function.update_of_ne hql]
      exact h.le q hq
  · intro q p hq horigin
    have hpl : p ≠ l := by
      rintro rfl
      rw [hflat q p horigin] at hl
      cases hl
    rw [Function.update_of_ne hpl, Function.update_of_ne hpl]
    by_cases hql : q = l
    · subst hql
      obtain rfl := Option.some.inj (hl.symm.trans horigin)
      rw [Function.update_self] at hq
      rw [Function.update_self]
      have hle := h.le r hq
      exact ⟨hq, by omega⟩
    · rw [Function.update_of_ne hql] at hq
      rw [Function.update_of_ne hql]
      exact h.within q p hq horigin

theorem Agree.move (hflat : ∀ l r, origin l = some r → origin r = none)
    {base pos : Nat} {fresh fresh' : ρ → Bool} {regs' regs : ρ → Nat} {a : Act ρ κ}
    (h : Agree origin base pos fresh regs' regs)
    (hfresh : freshen origin uses a fresh = some fresh') :
    Agree origin base pos fresh' (move origin pos a regs')
      (move origin (base + pos) a regs) := by
  -- a mark sets a position, a measure the length behind one, a call neither
  cases a with
  | mark r =>
    simp only [freshen] at hfresh
    split at hfresh
    · rename_i hr
      obtain rfl := Option.some.inj hfresh
      exact h.mark hflat hr
    · cases hfresh
  | measure l =>
    cases hl : origin l with
    | none =>
      simp only [freshen, hl] at hfresh
      cases hfresh
    | some r =>
      simp only [freshen, hl] at hfresh
      obtain rfl := Option.some.inj hfresh
      simp only [Scanner.move, hl]
      exact h.measure hflat hl
  | call k =>
    simp only [freshen] at hfresh
    split at hfresh
    · obtain rfl := Option.some.inj hfresh
      exact h
    · cases hfresh

end

/-! ## Section 4: A part of a text in a buffer of its own -/

section

variable {origin : ρ → Option ρ} {uses : κ → List ρ}
  {call : κ → List β → Nat → (ρ → Nat) → S → Option S} {δ : σ → β → Step σ (Act ρ κ)}

/-- With fresh registers a call back does not throw, and does not see what
    else the text holds. -/
def Local (origin : ρ → Option ρ) (uses : κ → List ρ)
    (call : κ → List β → Nat → (ρ → Nat) → S → Option S) (k : κ) (buf : List β) (pos : Nat)
    (regs' : ρ → Nat) : Prop :=
  ∀ text base post fresh regs d, text.drop base = buf ++ post →
    Agree origin base pos fresh regs' regs → (∀ r ∈ uses k, fresh r = true) →
      ∃ d', call k buf pos regs' d = some d' ∧ call k text (base + pos) regs d = some d'

/-- What a scanner has to keep so that its call backs are local. -/
structure Sound (origin : ρ → Option ρ) (uses : κ → List ρ)
    (call : κ → List β → Nat → (ρ → Nat) → S → Option S) (δ : σ → β → Step σ (Act ρ κ))
    (Inv : σ → (ρ → Bool) → List β → Nat → (ρ → Nat) → Prop) : Prop where
  flat  : ∀ l r, origin l = some r → origin r = none
  keep  : ∀ {s fresh buf pos regs c t acts fresh'}, Inv s fresh buf pos regs →
            buf[pos]? = some c → δ s c = .next t acts →
            track origin uses acts fresh = some fresh' →
            Inv t fresh' buf (pos + 1) (moves origin pos acts regs)
  calls : ∀ {s fresh buf pos regs c before k after fresh'}, Inv s fresh buf pos regs →
            buf[pos]? = some c → (δ s c).acts = before ++ .call k :: after →
            track origin uses before fresh = some fresh' → (∀ r ∈ uses k, fresh' r = true) →
            Local origin uses call k buf pos (moves origin pos before regs)

theorem perform_agree (hflat : ∀ l r, origin l = some r → origin r = none)
    {text buf post : List β} {base pos : Nat} (htext : text.drop base = buf ++ post)
    (acts : List (Act ρ κ)) :
    ∀ {regs' regs : ρ → Nat} {fresh fresh' : ρ → Bool} (d : S),
      (∀ before k after fresh₁, acts = before ++ .call k :: after →
        track origin uses before fresh = some fresh₁ → (∀ r ∈ uses k, fresh₁ r = true) →
        Local origin uses call k buf pos (moves origin pos before regs')) →
      Agree origin base pos fresh regs' regs → track origin uses acts fresh = some fresh' →
      ∃ regs₁ d', perform origin call buf pos acts (regs', d) =
          some (moves origin pos acts regs', d') ∧
        perform origin call text (base + pos) acts (regs, d) = some (regs₁, d') ∧
        Agree origin base pos fresh' (moves origin pos acts regs') regs₁ := by
  -- induction on the actions; before each call the registers it uses are fresh in both scans
  induction acts with
  | nil =>
    intro regs' regs fresh fresh' d _ hagree htrack
    obtain rfl := Option.some.inj htrack
    exact ⟨regs, d, rfl, rfl, hagree⟩
  | cons a acts ih =>
    intro regs' regs fresh fresh' d hlocal hagree htrack
    obtain ⟨fresh₁, hfresh, hrest⟩ := Option.bind_eq_some_iff.mp htrack
    have hmoved := hagree.move hflat hfresh
    have hlater : ∀ before k after fresh₂, acts = before ++ .call k :: after →
        track origin uses before fresh₁ = some fresh₂ → (∀ r ∈ uses k, fresh₂ r = true) →
        Local origin uses call k buf pos (moves origin pos before (move origin pos a regs')) :=
      fun before k after fresh₂ heq hbefore =>
        hlocal (a :: before) k after fresh₂ (by rw [heq, List.cons_append])
          (Option.bind_eq_some_iff.mpr ⟨fresh₁, hfresh, hbefore⟩)
    cases a with
    | mark r => exact ih d hlater hmoved hrest
    | measure l => exact ih d hlater hmoved hrest
    | call k =>
      have huses : ∀ r ∈ uses k, fresh r = true := by
        simp only [freshen] at hfresh
        split at hfresh
        · assumption
        · cases hfresh
      obtain ⟨d', hbuf, hwhole⟩ :=
        hlocal [] k acts fresh rfl rfl huses text base post fresh regs d htext hagree huses
      simp only [perform]
      rw [show call k buf pos regs' d = some d' from hbuf, hwhole]
      exact ih d' hlater hmoved hrest

/-- A part of a text is scanned the same in a buffer of its own as inside the
    text, as long as the call backs only use registers set in this buffer. -/
theorem scan_agree {Inv : σ → (ρ → Bool) → List β → Nat → (ρ → Nat) → Prop}
    (hsound : Sound origin uses call δ Inv) {text buf post : List β} {base : Nat}
    (htext : text.drop base = buf ++ post) (rest : List β) :
    ∀ {pos : Nat} {s : σ} {fresh : ρ → Bool} {regs' : ρ → Nat} (regs : ρ → Nat) (d : S)
      {r : Scan σ (ρ → Bool)}, buf.drop pos = rest → Inv s fresh buf pos regs' →
      Agree origin base pos fresh regs' regs →
      scan δ (fun _ => track origin uses) pos s fresh rest = some r →
      ∃ regs₁' regs₁ d',
        scan δ (perform origin call buf) pos s (regs', d) rest =
          some ⟨r.state, r.pos, (regs₁', d'), r.stopped⟩ ∧
        scan δ (perform origin call text) (base + pos) s (regs, d) rest =
          some ⟨r.state, base + r.pos, (regs₁, d'), r.stopped⟩ ∧
        Agree origin base r.pos r.data regs₁' regs₁ := by
  induction rest with
  | nil =>
    intro pos s fresh regs' regs d r _ _ hagree hscan
    obtain rfl := Option.some.inj hscan
    exact ⟨regs', regs, d, rfl, rfl, hagree⟩
  | cons c cs ih =>
    intro pos s fresh regs' regs d r hrest hinv hagree hscan
    have hc : buf[pos]? = some c := by
      rw [← List.head?_drop, hrest]
      rfl
    have hcs : buf.drop (pos + 1) = cs := by
      rw [← List.tail_drop, hrest]
      rfl
    simp only [scan] at hscan ⊢
    cases hstep : δ s c with
    | next t acts =>
      rw [hstep] at hscan
      obtain ⟨fresh₁, htrack, hlater⟩ := Option.bind_eq_some_iff.mp hscan
      -- what the table's calls rely on holds here, since the buffer has c at pos
      have hcalls : ∀ before k after fresh₂, acts = before ++ .call k :: after →
          track origin uses before fresh = some fresh₂ → (∀ r ∈ uses k, fresh₂ r = true) →
          Local origin uses call k buf pos (moves origin pos before regs') :=
        fun before k after fresh₂ heq => hsound.calls hinv hc (by rw [hstep]; exact heq)
      obtain ⟨regs₁, d', hbuf, hwhole, hagree₁⟩ :=
        perform_agree hsound.flat htext acts d hcalls hagree htrack
      have hinv₁ := hsound.keep hinv hc hstep htrack
      simp only [hbuf, hwhole, Option.bind_some]
      exact ih _ d' hcs hinv₁ hagree₁.later hlater
    | last t acts =>
      rw [hstep] at hscan
      obtain ⟨fresh₁, htrack, rfl⟩ := Option.map_eq_some_iff.mp hscan
      have hcalls : ∀ before k after fresh₂, acts = before ++ .call k :: after →
          track origin uses before fresh = some fresh₂ → (∀ r ∈ uses k, fresh₂ r = true) →
          Local origin uses call k buf pos (moves origin pos before regs') :=
        fun before k after fresh₂ heq => hsound.calls hinv hc (by rw [hstep]; exact heq)
      obtain ⟨regs₁, d', hbuf, hwhole, hagree₁⟩ :=
        perform_agree hsound.flat htext acts d hcalls hagree htrack
      refine ⟨_, _, d', ?_, ?_, hagree₁.later⟩
      · simp only [hbuf, Option.map_some]
      · simp only [hwhole, Option.map_some, Nat.add_assoc]
    | fail t =>
      rw [hstep] at hscan
      obtain rfl := Option.some.inj hscan
      exact ⟨regs', regs, d, rfl, rfl, hagree⟩

/-! ## Section 5: One buffer after the other -/

/-- Every buffer, scanned from the state the one before it ended in, only uses
    registers that were set in it. -/
def unbroken (δ : σ → β → Step σ (Act ρ κ)) (origin : ρ → Option ρ) (uses : κ → List ρ) :
    σ → List (List β) → Bool
  | _, [] => true
  | s, buf :: bufs =>
    match scan δ (fun _ => track origin uses) 0 s (fun _ => false) buf with
    | none   => false
    | some r => r.stopped || unbroken δ origin uses r.state bufs

/-- The scan of one buffer is a part of the scan of the whole text. -/
theorem scan_part {Inv : σ → (ρ → Bool) → List β → Nat → (ρ → Nat) → Prop}
    (hsound : Sound origin uses call δ Inv) {text buf post : List β} {base : Nat}
    (htext : text.drop base = buf ++ post) {bufs : List (List β)} {s : σ} (regs' : ρ → Nat)
    (hinv : Inv s (fun _ => false) buf 0 regs')
    (hunbroken : unbroken δ origin uses s (buf :: bufs) = true) (regs : ρ → Nat) (d : S) :
    ∃ r regs₁, scan δ (perform origin call buf) 0 s (regs', d) buf = some r ∧
      scan δ (perform origin call text) base s (regs, d) buf =
        some ⟨r.state, base + r.pos, (regs₁, r.data.2), r.stopped⟩ ∧
      (r.stopped = false → r.pos = buf.length ∧ unbroken δ origin uses r.state bufs = true) := by
  simp only [unbroken] at hunbroken
  cases htrack : scan δ (fun _ => track origin uses) 0 s (fun _ => false) buf with
  | none =>
    rw [htrack] at hunbroken
    cases hunbroken
  | some rf =>
    rw [htrack] at hunbroken
    obtain ⟨regs₁', regs₁, d', hbuf, hwhole, _⟩ :=
      scan_agree hsound htext buf regs d List.drop_zero hinv Agree.stale htrack
    refine ⟨_, regs₁, hbuf, hwhole, fun hstop => ?_⟩
    have hpos := (scan_pos δ _ buf hbuf).2.2 hstop
    dsimp only at hstop
    simp only [hstop, Bool.false_or] at hunbroken
    exact ⟨by rw [hpos, Nat.zero_add], hunbroken⟩

/-- Behind the buffer the scan of the whole text goes on with the next one. -/
theorem scan_resume {Inv : σ → (ρ → Bool) → List β → Nat → (ρ → Nat) → Prop}
    (hsound : Sound origin uses call δ Inv) {text buf post : List β} {base : Nat}
    (htext : text.drop base = buf ++ post) {bufs : List (List β)} {s : σ} (regs' : ρ → Nat)
    (hinv : Inv s (fun _ => false) buf 0 regs')
    (hunbroken : unbroken δ origin uses s (buf :: bufs) = true) (regs : ρ → Nat) (d : S) :
    ∃ r regs₁, scan δ (perform origin call buf) 0 s (regs', d) buf = some r ∧
      scan δ (perform origin call text) base s (regs, d) (buf ++ post) =
        (if r.stopped then some ⟨r.state, base + r.pos, (regs₁, r.data.2), true⟩
        else scan δ (perform origin call text) (base + buf.length) r.state (regs₁, r.data.2) post) ∧
      (r.stopped = false → r.pos = buf.length ∧ unbroken δ origin uses r.state bufs = true) := by
  obtain ⟨r, regs₁, hbuf, hwhole, hgo⟩ := scan_part hsound htext regs' hinv hunbroken regs d
  refine ⟨r, regs₁, hbuf, ?_, hgo⟩
  rw [scan_append, hwhole, Option.bind_some]
  cases hstop : r.stopped with
  | true => rfl
  | false =>
    rw [(hgo hstop).1]
    rfl

end

/-! ## Section 6: A text in one buffer -/

section

variable {origin : ρ → Option ρ} {uses : κ → List ρ} {δ : σ → β → Step σ (Act ρ κ)}

theorem freshen_mono {a : Act ρ κ} {f g f' : ρ → Bool} (hle : ∀ r, f r = true → g r = true)
    (h : freshen origin uses a f = some f') :
    ∃ g', freshen origin uses a g = some g' ∧ ∀ r, f' r = true → g' r = true := by
  -- what is required of the registers is still met when more of them are fresh
  cases a with
  | mark r =>
    simp only [freshen] at h ⊢
    split at h
    · rename_i hr
      obtain rfl := Option.some.inj h
      refine ⟨_, if_pos hr, fun q hq => ?_⟩
      dsimp only at hq ⊢
      split
      · rfl
      · rename_i hqr
        rw [if_neg hqr] at hq
        split
        · rename_i horigin
          rw [if_pos horigin] at hq
          exact hq
        · rename_i horigin
          rw [if_neg horigin] at hq
          exact hle q hq
    · cases h
  | measure l =>
    simp only [freshen] at h ⊢
    cases horigin : origin l with
    | none =>
      rw [horigin] at h
      cases h
    | some r =>
      rw [horigin] at h
      obtain rfl := Option.some.inj h
      refine ⟨_, rfl, fun q hq => ?_⟩
      by_cases hql : q = l
      · subst hql
        rw [Function.update_self] at hq ⊢
        exact hle r hq
      · rw [Function.update_of_ne hql] at hq ⊢
        exact hle q hq
  | call k =>
    simp only [freshen] at h ⊢
    split at h
    · rename_i huses
      obtain rfl := Option.some.inj h
      exact ⟨g, if_pos fun r hr => hle r (huses r hr), hle⟩
    · cases h

theorem track_mono (acts : List (Act ρ κ)) :
    ∀ {f g f' : ρ → Bool}, (∀ r, f r = true → g r = true) →
      track origin uses acts f = some f' →
      ∃ g', track origin uses acts g = some g' ∧ ∀ r, f' r = true → g' r = true := by
  induction acts with
  | nil =>
    intro f g f' hle h
    obtain rfl := Option.some.inj h
    exact ⟨g, rfl, hle⟩
  | cons a acts ih =>
    intro f g f' hle h
    obtain ⟨f₁, hfirst, hrest⟩ := Option.bind_eq_some_iff.mp h
    obtain ⟨g₁, hg₁, hle₁⟩ := freshen_mono hle hfirst
    obtain ⟨g', hg', hle'⟩ := ih hle₁ hrest
    exact ⟨g', Option.bind_eq_some_iff.mpr ⟨g₁, hg₁, hg'⟩, hle'⟩

theorem scan_track_mono (xs : List β) :
    ∀ {pos pos' : Nat} {s : σ} {f g : ρ → Bool} {r : Scan σ (ρ → Bool)},
      (∀ q, f q = true → g q = true) →
      scan δ (fun _ => track origin uses) pos s f xs = some r →
      ∃ r', scan δ (fun _ => track origin uses) pos' s g xs = some r' ∧ r'.state = r.state ∧
        r'.stopped = r.stopped ∧ ∀ q, r.data q = true → r'.data q = true := by
  induction xs with
  | nil =>
    intro pos pos' s f g r hle h
    obtain rfl := Option.some.inj h
    exact ⟨⟨s, pos', g, false⟩, rfl, rfl, rfl, hle⟩
  | cons c cs ih =>
    intro pos pos' s f g r hle h
    simp only [scan] at h ⊢
    cases hstep : δ s c with
    | next t acts =>
      rw [hstep] at h
      obtain ⟨f', htrack, hrest⟩ := Option.bind_eq_some_iff.mp h
      obtain ⟨g', htrack', hle'⟩ := track_mono acts hle htrack
      simp only [htrack', Option.bind_some]
      exact ih hle' hrest
    | last t acts =>
      rw [hstep] at h
      obtain ⟨f', htrack, rfl⟩ := Option.map_eq_some_iff.mp h
      obtain ⟨g', htrack', hle'⟩ := track_mono acts hle htrack
      exact ⟨⟨t, pos' + 1, g', true⟩, by simp only [htrack', Option.map_some], rfl, rfl, hle'⟩
    | fail t =>
      rw [hstep] at h
      obtain rfl := Option.some.inj h
      exact ⟨⟨t, pos', g, true⟩, rfl, rfl, rfl, hle⟩

/-- What can be scanned in pieces can be scanned in one piece. -/
theorem scan_joined (bufs : List (List β)) :
    ∀ {s : σ}, unbroken δ origin uses s bufs = true → ∀ (pos : Nat) (fresh : ρ → Bool),
      ∃ r, scan δ (fun _ => track origin uses) pos s fresh bufs.flatten = some r := by
  induction bufs with
  | nil =>
    intro s _ pos fresh
    exact ⟨_, rfl⟩
  | cons buf bufs ih =>
    intro s h pos fresh
    simp only [unbroken] at h
    cases htrack : scan δ (fun _ => track origin uses) 0 s (fun _ => false) buf with
    | none =>
      rw [htrack] at h
      cases h
    | some r =>
      rw [htrack] at h
      obtain ⟨r', hscan, hstate, hstop, -⟩ :=
        @scan_track_mono _ _ _ _ _ origin uses δ buf 0 pos s (fun _ => false) fresh r
          (fun _ hq => by cases hq) htrack
      rw [List.flatten_cons, scan_append, hscan, Option.bind_some]
      split
      · exact ⟨_, rfl⟩
      · rename_i hgoes
        rw [hstop] at hgoes
        rw [hstate]
        exact ih (by simpa [hgoes] using h) _ _

/-- `cover` lists registers that are set whenever a state is reached, enough
    of them for all call backs. -/
structure Covers (δ : σ → β → Step σ (Act ρ κ)) (origin : ρ → Option ρ) (uses : κ → List ρ)
    (cover : σ → ρ → Bool) : Prop where
  next : ∀ {s c t acts}, δ s c = .next t acts →
           ∃ f, track origin uses acts (cover s) = some f ∧ ∀ r, cover t r = true → f r = true
  last : ∀ {s c t acts}, δ s c = .last t acts → ∃ f, track origin uses acts (cover s) = some f

/-- Within some states, which lead to each other, `cover` is enough. -/
theorem scan_covered {cover : σ → ρ → Bool} {P : σ → Prop}
    (hnext : ∀ {s c t acts}, P s → δ s c = .next t acts → P t ∧
      ∃ f, track origin uses acts (cover s) = some f ∧ ∀ r, cover t r = true → f r = true)
    (hlast : ∀ {s c t acts}, P s → δ s c = .last t acts →
      ∃ f, track origin uses acts (cover s) = some f) (xs : List β) :
    ∀ (pos : Nat) {s : σ} {fresh : ρ → Bool}, P s → (∀ r, cover s r = true → fresh r = true) →
      ∃ r, scan δ (fun _ => track origin uses) pos s fresh xs = some r := by
  induction xs with
  | nil =>
    intro pos s fresh _ _
    exact ⟨_, rfl⟩
  | cons c cs ih =>
    intro pos s fresh hs hfresh
    simp only [Scanner.scan]
    cases hstep : δ s c with
    | next t acts =>
      obtain ⟨ht, f, htrack, hcover⟩ := hnext hs hstep
      obtain ⟨g, htrack', hle⟩ := track_mono acts hfresh htrack
      obtain ⟨r, hr⟩ := ih (pos + 1) ht fun q hq => hle q (hcover q hq)
      exact ⟨r, by simp only [htrack', Option.bind_some, hr]⟩
    | last t acts =>
      obtain ⟨f, htrack⟩ := hlast hs hstep
      obtain ⟨g, htrack', _⟩ := track_mono acts hfresh htrack
      exact ⟨⟨t, pos + 1, g, true⟩, by simp only [htrack', Option.map_some]⟩
    | fail t => exact ⟨_, rfl⟩

theorem Covers.scan {cover : σ → ρ → Bool} (h : Covers δ origin uses cover) (xs : List β)
    (pos : Nat) {s : σ} {fresh : ρ → Bool} (hfresh : ∀ r, cover s r = true → fresh r = true) :
    ∃ r, scan δ (fun _ => track origin uses) pos s fresh xs = some r :=
  scan_covered (P := fun _ => True) (fun _ hstep => ⟨trivial, h.next hstep⟩)
    (fun _ hstep => h.last hstep) xs pos trivial hfresh

/-- From a state that needs nothing a buffer never uses what was set before it. -/
theorem Covers.unbroken {cover : σ → ρ → Bool} (h : Covers δ origin uses cover) {s : σ}
    (hs : ∀ r, cover s r = false) (buf : List β) : unbroken δ origin uses s [buf] = true := by
  have hnone : ∀ r, cover s r = true → (fun _ : ρ => false) r = true := by
    intro r hr
    rw [hs r] at hr
    exact hr
  obtain ⟨r, hr⟩ := h.scan buf 0 hnone
  simp only [Scanner.unbroken, hr, Bool.or_true]

end

/-! ## Section 7: Silent stretches -/

/-- Where a list leads to without any action. -/
def silent (δ : σ → β → Step σ α) : σ → List β → Option σ
  | s, [] => some s
  | s, c :: cs =>
    match δ s c with
    | .next t [] => silent δ t cs
    | _ => none

theorem silent_loop {δ : σ → β → Step σ α} {s : σ} {xs : List β}
    (h : ∀ c ∈ xs, δ s c = .next s []) : silent δ s xs = some s := by
  induction xs with
  | nil => rfl
  | cons c cs ih =>
    simp only [silent, h c List.mem_cons_self]
    exact ih fun x hx => h x (List.mem_cons_of_mem _ hx)

theorem scan_silent {δ : σ → β → Step σ α} {eff : Nat → List α → D → Option D}
    (heff : ∀ pos d, eff pos [] d = some d) {xs : List β} :
    ∀ {s t : σ}, silent δ s xs = some t → ∀ (rest : List β) (pos : Nat) (d : D),
      scan δ eff pos s d (xs ++ rest) = scan δ eff (pos + xs.length) t d rest := by
  induction xs with
  | nil =>
    intro s t h rest pos d
    obtain rfl := Option.some.inj h
    rfl
  | cons c cs ih =>
    intro s t h rest pos d
    simp only [silent] at h
    split at h
    · rename_i hstep
      rw [List.cons_append, scan, hstep, List.length_cons, Nat.add_comm cs.length, ← Nat.add_assoc]
      dsimp only
      rw [heff, Option.bind_some]
      exact ih h rest (pos + 1) d
    · cases h

/-- One byte with its actions. -/
theorem scan_next {δ : σ → β → Step σ α} {eff : Nat → List α → D → Option D} {s t : σ} {c : β}
    {acts : List α} (hstep : δ s c = .next t acts) {pos : Nat} {d e : D}
    (heff : eff pos acts d = some e) (rest : List β) :
    scan δ eff pos s d (c :: rest) = scan δ eff (pos + 1) t e rest := by
  simp only [scan, hstep, heff, Option.bind_some]

/-! ## Section 8: Runs without data -/

/-- Where a list leads to, whatever the actions do; `none` if the scan stops. -/
def walk (δ : σ → β → Step σ α) : σ → List β → Option σ
  | s, [] => some s
  | s, c :: cs =>
    match δ s c with
    | .next t _ => walk δ t cs
    | _ => none

theorem walk_append (δ : σ → β → Step σ α) (ys : List β) (xs : List β) :
    ∀ s, walk δ s (xs ++ ys) = (walk δ s xs).bind fun t => walk δ t ys := by
  induction xs with
  | nil => intro s; rfl
  | cons c cs ih =>
    intro s
    simp only [List.cons_append, walk]
    cases δ s c with
    | next t acts => exact ih t
    | last t acts => rfl
    | fail t => rfl

theorem scan_walk {δ : σ → β → Step σ α} {eff : Nat → List α → D → Option D} (xs : List β) :
    ∀ {pos s d r}, scan δ eff pos s d xs = some r → r.stopped = false →
      walk δ s xs = some r.state := by
  induction xs with
  | nil =>
    intro pos s d r h _
    obtain rfl := Option.some.inj h
    rfl
  | cons c cs ih =>
    intro pos s d r h hstop
    simp only [scan] at h
    simp only [walk]
    cases hstep : δ s c with
    | next t acts =>
      rw [hstep] at h
      obtain ⟨d', _, hrest⟩ := Option.bind_eq_some_iff.mp h
      exact ih hrest hstop
    | last t acts =>
      rw [hstep] at h
      obtain ⟨d', _, rfl⟩ := Option.map_eq_some_iff.mp h
      cases hstop
    | fail t =>
      rw [hstep] at h
      obtain rfl := Option.some.inj h
      cases hstop

end Scanner
