import Mnser.Pool.Stages

/-! # The limits of a pool

    A pool is made with a bound on the number of its connections, on their age
    and on how often each is used.  Only the last one works: `m_createTime` is
    never set, so both tests of the age compare the clock with
    `m_maxAliveTime`, and nothing reads `m_maxSize`.

    When a connection was made and how often it was used is kept as a history
    beside the pool. -/

namespace MNSER

namespace Http

open LTS HttpConnectionPool

variable {cfg : Limits} {n : Nat}

/-! ## Section 1: What the limits mean -/

structure Records (n : Nat) where
  /-- when the connection was made -/
  born   : Ptr → Nat
  /-- how many of its uses are over -/
  served : Ptr → Nat
  /-- what the last call of `getConnection` has read from the clock -/
  asked  : Fin n → Nat

namespace Records

def empty (n : Nat) : Records n := ⟨fun _ => 0, fun _ => 0, fun _ => 0⟩

def setServed (h : Records n) (p : Ptr) (k : Nat) : Records n :=
  { h with served := fun q => if q = p then k else h.served q }

def record (s : HttpConnectionPool n) (l : PoolLabel n) (h : Records n) : Records n :=
  match l with
  | .getConnection w => { h with asked := fun v => if v = w then s.clock else h.asked v }
  | .connect _ (some p) =>
    { h with born := fun q => if q = p then s.clock else h.born q }.setServed p 0
  | .step w =>
    match s.call w with
    | .releasing p => h.setServed p (h.served p + 1)
    | _            => h
  | _ => h

end Records

def recordedPools (cfg : Limits) (n : Nat) :
    System (HttpConnectionPool n × Records n) (PoolLabel n) :=
  (pools cfg n).withHistory Records.record (Records.empty n)

/-- The connection `getConnection` has chosen from `m_conns`. -/
def Call.chosen : Call → Option Ptr
  | .unlocking _ ptr  => ptr
  | .deleting _ _ ptr => ptr
  | .returning p true => some p
  | _                 => none

/-- The bounds hold: of the connections handed out again, of those given back
    and of their number. -/
structure Limited (cfg : Limits) (u : HttpConnectionPool n × Records n) : Prop where
  young : ∀ w, ∀ p ∈ (u.1.call w).chosen, u.2.asked w ≤ u.2.born p + cfg.maxAliveTime.toNat
  below : ∀ w, ∀ p ∈ (u.1.call w).chosen, u.2.served p < cfg.maxRequest.toNat
  stays : ∀ w p t, u.1.next cfg (.step w) = some t →
            (u.1.call w = .checking p → (u.1.obj p).isConnected = true → t.call w = .limiting p) ∧
            (u.1.call w = .limiting p → u.1.clock < u.2.born p + cfg.maxAliveTime.toNat →
              u.2.served p < cfg.maxRequest.toNat → t.call w = .pushing p) ∧
            (u.1.call w = .pushing p → p ∈ t.conns)
  size  : u.1.live.card ≤ cfg.maxSize.toNat

/-- The clock does not go back. -/
def Forward (s : HttpConnectionPool n) : PoolLabel n → Bool
  | .clock now => decide (s.clock ≤ now)
  | _          => true

/-- A connected connection that comes up in the loop of `getConnection` is not
    too old. -/
def scansYoung (cfg : Limits) (u : HttpConnectionPool n × Records n) : PoolLabel n → Bool
  | .step w =>
    match u.1.call w, u.1.conns with
    | .scanning now_ms _, p :: _ =>
      !(u.1.obj p).isConnected || decide (now_ms ≤ u.2.born p + cfg.maxAliveTime.toNat)
    | _, _ => true
  | _ => true

/-- A connection is only made while there are fewer than `m_maxSize`. -/
def hasRoom (cfg : Limits) (s : HttpConnectionPool n) : PoolLabel n → Bool
  | .connect _ (some _) => decide (s.live.card < cfg.maxSize.toNat)
  | _                   => true

/-! ## Section 2: What is known of a connection -/

/-- How often a connection has been used, by its stage. -/
def Bound (cfg : Limits) (h : Records n) : Stage → Ptr → Prop
  | .pooled, p    => h.served p < cfg.maxRequest.toNat
  | .user, p      => h.served p ≤ cfg.maxRequest.toNat
  | .releasing, p => h.served p ≤ cfg.maxRequest.toNat
  | _, _          => True

/-- What `getConnection` has read, as long as it uses it. -/
def Call.nowMs : Call → Option Nat
  | .getting now_ms    => some now_ms
  | .scanning now_ms _ => some now_ms
  | _                  => none

structure Recorded (cfg : Limits) (u : HttpConnectionPool n × Records n) : Prop where
  books  : u.1.Books
  object : ∀ p ∈ u.1.live, (u.1.obj p).createTime = 0 ∧ (u.1.obj p).request = u.2.served p
  bound  : ∀ x p, u.1.At x p → Bound cfg u.2 x p
  clock  : cfg.maxAliveTime.toNat < u.1.clock
  asked  : ∀ w, ∀ now ∈ (u.1.call w).nowMs, now = u.2.asked w ∧ cfg.maxAliveTime.toNat < now

/-- A connection is made with 0 as its time, so this is when it expires. -/
theorem maxAliveTime_lt (cfg : Limits) : add64 0 cfg.maxAliveTime.toNat = cfg.maxAliveTime.toNat := by
  have := cfg.maxAliveTime.toNat_lt
  rw [add64_of_lt (by omega), Nat.zero_add]

/-- The history of a connection that is neither made nor given back stays. -/
theorem served_same {s : HttpConnectionPool n} {l : PoolLabel n} {h : Records n} {p : Ptr}
    (hmade : ∀ w, l ≠ .connect w (some p)) (hcounted : ∀ w, l = .step w → s.call w ≠ .releasing p) :
    (Records.record s l h).served p = h.served p := by
  cases l with
  | connect w ptr =>
    cases ptr with
    | none => rfl
    | some q => exact if_neg fun heq => hmade w (by rw [heq])
  | step w =>
    have hne := hcounted w rfl
    cases hcall : s.call w with
    | releasing q =>
      simp only [Records.record, hcall]
      exact if_neg fun heq => hne (by rw [hcall, heq])
    | _ => simp only [Records.record, hcall]
  | _ => rfl

/-- The time a connection was made at stays. -/
theorem born_same {s : HttpConnectionPool n} {l : PoolLabel n} {h : Records n} {p : Ptr}
    (hmade : ∀ w, l ≠ .connect w (some p)) : (Records.record s l h).born p = h.born p := by
  cases l with
  | connect w ptr =>
    cases ptr with
    | none => rfl
    | some q => exact if_neg fun heq => hmade w (by rw [heq])
  | step w =>
    cases hcall : s.call w with
    | releasing q => simp only [Records.record, hcall]; rfl
    | _ => simp only [Records.record, hcall]
  | _ => rfl

/-- The time of a call of `getConnection` stays. -/
theorem asked_same {s : HttpConnectionPool n} {l : PoolLabel n} {h : Records n} {w : Fin n}
    (hl : l ≠ .getConnection w) : (Records.record s l h).asked w = h.asked w := by
  cases l with
  | getConnection v => exact if_neg fun heq => hl (by rw [heq])
  | connect v ptr => cases ptr <;> rfl
  | step v =>
    cases hcall : s.call v with
    | releasing q => simp only [Records.record, hcall]; rfl
    | _ => simp only [Records.record, hcall]
  | _ => rfl

/-- After `++ptr->m_request` the connection is at its next stage. -/
theorem stage_counted {s t : HttpConnectionPool n} (h : s.Books) {w : Fin n} {x : Stage} {p : Ptr}
    (hcall : s.call w = .releasing p) (hnext : s.next cfg (.step w) = some t) (hat : t.At x p) :
    x = .checking := by
  have hstep := advance_cases (fun _ hp => h.mem_live hp) rfl hnext
  rw [hcall] at hstep
  cases hstep with
  | count =>
    have hstage := (books_next h hnext).at_of_owns (w := w)
      (by rw [setCall_self]; exact List.mem_singleton.mpr rfl) hat
    rw [setCall_self] at hstage
    exact (Prod.mk.inj (Option.some.inj hstage)).1.symm

section Steps

variable {u : HttpConnectionPool n × Records n} {t : HttpConnectionPool n} {l : PoolLabel n}

/-- A connection carries what is on record about it. -/
theorem Recorded.object_next (h : Recorded cfg u) (hnext : u.1.next cfg l = some t) {p : Ptr}
    (hp : p ∈ t.live) :
    (t.obj p).createTime = 0 ∧ (t.obj p).request = (Records.record u.1 l u.2).served p := by
  have hbecomes := h.books.becomes hnext hp
  generalize t.obj p = conn at hbecomes
  cases hbecomes with
  | made w => exact ⟨rfl, (if_pos rfl).symm⟩
  -- `++m_request` does not wrap around below the limit
  | counted w hcall hlive =>
    obtain ⟨hcreate, hrequest⟩ := h.object p hlive
    have hbound : u.2.served p ≤ cfg.maxRequest.toNat :=
      h.bound .releasing p (.call w (by rw [hcall]; rfl))
    have := cfg.maxRequest.toNat_lt
    refine ⟨hcreate, ?_⟩
    simp only [Records.record, hcall]
    show add64 (u.1.obj p).request 1 = if p = p then _ else _
    rw [if_pos rfl, hrequest, add64_of_lt (by omega)]
  | closed hlive => exact h.object p hlive
  | same _ hmade hcounted hlive =>
    rw [served_same hmade hcounted]
    exact h.object p hlive

/-- A step keeps the bounds on how often connections have been used. -/
theorem Recorded.bound_next (h : Recorded cfg u) (hnext : u.1.next cfg l = some t) {x : Stage}
    {p : Ptr} (hat : t.At x p) : Bound cfg (Records.record u.1 l u.2) x p := by
  have hsame : ∀ {y}, u.1.At y p → (∀ w, l = .step w → u.1.call w ≠ .releasing p) →
      (Records.record u.1 l u.2).served p = u.2.served p := by
    intro y hy hcounted
    refine served_same (fun w hl => ?_) hcounted
    subst hl
    cases h.books.next_cases hnext with
    | made _ _ _ hfresh => exact hfresh (h.books.at_live hy)
  -- where it was, or one stage on
  rcases h.books.stage_next hnext hat with hstay | hmoved
  · by_cases hcounted : ∃ w, l = .step w ∧ u.1.call w = .releasing p
    · obtain ⟨w, rfl, hcall⟩ := hcounted
      rw [stage_counted h.books hcall hnext hat]
      trivial
    · have hserved := hsame hstay fun w hl hcall => hcounted ⟨w, hl, hcall⟩
      have hbound := h.bound x p hstay
      cases x with
      | pooled => exact hserved.trans_lt hbound
      | user => exact hserved.trans_le hbound
      | releasing => exact hserved.trans_le hbound
      | checking => trivial
      | limiting => trivial
  · cases hmoved with
    | made w p hfresh =>
      show (if p = p then 0 else _) ≤ _
      rw [if_pos rfl]
      exact Nat.zero_le _
    | given w p hstage hcall =>
      have hserved := hsame hstage fun v hv hc => by cases hv; rw [hcall] at hc; cases hc
      exact hserved.trans_le (Nat.le_of_lt (h.bound _ _ hstage))
    | released w p hmem => exact h.bound .user p (.handed hmem)
    | counted => trivial
    | connected => trivial
    -- `ReleasePtr` has compared the count with the limit
    | kept w p hcall hyoung hbelow =>
      have hstage : u.1.At .limiting p := .call w (by rw [hcall]; rfl)
      have hserved := hsame hstage fun v hv hc => by cases hv; rw [hcall] at hc; cases hc
      rw [(h.object p (h.books.at_live hstage)).2] at hbelow
      exact hserved.trans_lt hbelow

/-- A call of `getConnection` keeps its reading of the clock. -/
theorem nowMs_advance {s t : HttpConnectionPool n} {w : Fin n}
    (hstep : Advance cfg s w (s.call w) t) {now : Nat} (hnow : now ∈ (t.call w).nowMs) :
    now ∈ (s.call w).nowMs := by
  generalize s.call w = c at hstep
  cases hstep with
  | subtract size ptr =>
    rw [setCall_self] at hnow
    cases ptr <;> cases hnow
  | lock => rw [setCall_self] at hnow; exact hnow
  | reject => rw [setCall_self] at hnow; exact hnow
  | _ => rw [setCall_self] at hnow; cases hnow

/-- What `getConnection` has read is the time it was called at. -/
theorem Recorded.asked_next (h : Recorded cfg u) (hnext : u.1.next cfg l = some t) {w : Fin n}
    {now : Nat} (hnow : now ∈ (t.call w).nowMs) :
    now = (Records.record u.1 l u.2).asked w ∧ cfg.maxAliveTime.toNat < now := by
  -- the time a call goes by is the one it was begun at
  by_cases hl : caller l = some w
  · cases h.books.next_cases hnext with
    | clock => cases hl
    | close => cases hl
    | get v =>
      obtain rfl := Option.some.inj hl
      rw [setCall_self] at hnow
      obtain rfl := Option.some.inj hnow
      exact ⟨(if_pos rfl).symm, h.clock⟩
    | release v p =>
      obtain rfl := Option.some.inj hl
      rw [setCall_self] at hnow
      cases hnow
    | step v t hstep =>
      obtain rfl := Option.some.inj hl
      rw [asked_same (fun h => by cases h)]
      exact h.asked v now (nowMs_advance hstep hnow)
    | failed v =>
      obtain rfl := Option.some.inj hl
      rw [setCall_self] at hnow
      cases hnow
    | made v p =>
      obtain rfl := Option.some.inj hl
      rw [setCall_self] at hnow
      cases hnow
  · rw [h.books.call_frame hnext hl] at hnow
    rw [asked_same (fun h => hl (by rw [h]; rfl))]
    exact h.asked w now hnow

/-- Every step keeps the record. -/
theorem recorded_next (h : Recorded cfg u) (hforward : Forward u.1 l = true)
    (hnext : u.1.next cfg l = some t) : Recorded cfg (t, Records.record u.1 l u.2) := by
  refine ⟨books_next h.books hnext, fun p hp => h.object_next hnext hp,
    fun x p hat => h.bound_next hnext hat, ?_, fun w now hnow => h.asked_next hnext hnow⟩
  have hclock := h.clock
  rcases h.books.clock_next hnext with hsame | hset
  · show _ < t.clock
    omega
  · rw [hset] at hforward
    have hle : u.1.clock ≤ t.clock := of_decide_eq_true hforward
    show _ < t.clock
    omega

/-! ## Section 3: When the bounds hold -/

/-- A connection that is chosen was in the pool. -/
theorem chosen_stage {c : Call} {p : Ptr} (h : p ∈ c.chosen) : c.stage = some (.pooled, p) := by
  cases c with
  | unlocking invalid ptr =>
    obtain rfl : ptr = some p := h
    rfl
  | deleting invalid size ptr =>
    obtain rfl : ptr = some p := h
    rfl
  | returning q reused =>
    cases reused with
    | true =>
      obtain rfl := Option.some.inj h
      rfl
    | false => cases h
  | _ => cases h

/-- How a connection gets chosen. -/
theorem chosen_advance {s t : HttpConnectionPool n} {w : Fin n}
    (hstep : Advance cfg s w (s.call w) t) {p : Ptr} (hp : p ∈ (t.call w).chosen) :
    p ∈ (s.call w).chosen ∨ ∃ now_ms invalid rest, s.call w = .scanning now_ms invalid ∧
      s.conns = p :: rest ∧ (s.obj p).isConnected = true := by
  generalize s.call w = c at hstep
  cases hstep with
  | choose now_ms invalid q rest hconns htest =>
    rw [setCall_self] at hp
    obtain rfl := Option.some.inj hp
    exact Or.inr ⟨now_ms, invalid, rest, rfl, hconns, htest⟩
  | unlock => rw [setCall_self] at hp; exact Or.inl hp
  | delete => rw [setCall_self] at hp; exact Or.inl hp
  | subtract size ptr =>
    rw [setCall_self] at hp
    cases ptr with
    | none => cases hp
    | some q => exact Or.inl hp
  | _ => rw [setCall_self] at hp; cases hp

/-- A connection that getConnection has chosen was chosen before or is chosen
    now, and what is recorded of it stays. -/
theorem Recorded.chosen_next (h : Recorded cfg u) (hnext : u.1.next cfg l = some t) {w : Fin n}
    {p : Ptr} (hp : p ∈ (t.call w).chosen) :
    ((Records.record u.1 l u.2).asked w = u.2.asked w ∧
      (Records.record u.1 l u.2).born p = u.2.born p) ∧
    (p ∈ (u.1.call w).chosen ∨ ∃ now_ms invalid rest, l = .step w ∧
      u.1.call w = .scanning now_ms invalid ∧ u.1.conns = p :: rest ∧
      (u.1.obj p).isConnected = true) := by
  have hlive : ∀ {v : Fin n}, p ∈ (u.1.call v).chosen → p ∈ u.1.live := fun hv =>
    h.books.at_live (.call _ (chosen_stage hv))
  -- a call chooses at its scan and nowhere else
  by_cases hl : caller l = some w
  · cases h.books.next_cases hnext with
    | clock => cases hl
    | close => cases hl
    | get v =>
      obtain rfl := Option.some.inj hl
      rw [setCall_self] at hp
      cases hp
    | release v q =>
      obtain rfl := Option.some.inj hl
      rw [setCall_self] at hp
      cases hp
    | step v t hstep =>
      obtain rfl := Option.some.inj hl
      refine ⟨⟨asked_same (fun h => by cases h), born_same (fun v h => by cases h)⟩, ?_⟩
      rcases chosen_advance hstep hp with hp | ⟨now_ms, invalid, rest, hcall, hconns, htest⟩
      · exact Or.inl hp
      · exact Or.inr ⟨now_ms, invalid, rest, rfl, hcall, hconns, htest⟩
    | failed v =>
      obtain rfl := Option.some.inj hl
      rw [setCall_self] at hp
      cases hp
    | made v q =>
      obtain rfl := Option.some.inj hl
      rw [setCall_self] at hp
      cases hp
  · have hcall := h.books.call_frame hnext hl
    rw [hcall] at hp
    refine ⟨⟨asked_same (fun h => hl (by rw [h]; rfl)), born_same fun v hv => ?_⟩, Or.inl hp⟩
    subst hv
    cases h.books.next_cases hnext with
    | made _ _ _ hfresh => exact hfresh (hlive hp)

/-- The age of what is chosen. -/
def Young (cfg : Limits) (u : HttpConnectionPool n × Records n) : Prop :=
  ∀ w, ∀ p ∈ (u.1.call w).chosen, u.2.asked w ≤ u.2.born p + cfg.maxAliveTime.toNat

theorem scansYoung_step {w : Fin n} :
    scansYoung cfg u (.step w) = true ↔
      ∀ now_ms invalid p rest, u.1.call w = .scanning now_ms invalid → u.1.conns = p :: rest →
        (u.1.obj p).isConnected = true → now_ms ≤ u.2.born p + cfg.maxAliveTime.toNat := by
  simp only [scansYoung]
  split
  · rename_i now_ms invalid p rest hcall hconns
    rw [Bool.or_eq_true, Bool.not_eq_true', decide_eq_true_eq]
    constructor
    · rintro hfits now invalid' q rest' hcall' hconns' htest
      rw [hcall] at hcall'
      rw [hconns] at hconns'
      obtain ⟨rfl, rfl⟩ := Call.scanning.inj hcall'
      obtain ⟨rfl, rfl⟩ := List.cons.inj hconns'
      exact hfits.resolve_left fun hclosed => by rw [htest] at hclosed; cases hclosed
    · intro hall
      by_cases htest : (u.1.obj p).isConnected = true
      · exact Or.inr (hall now_ms invalid p rest hcall hconns htest)
      · exact Or.inl (Bool.eq_false_iff.mpr htest)
  · rename_i hother
    exact iff_of_true rfl fun now_ms invalid p rest hcall hconns _ =>
      absurd hconns (hother now_ms invalid p rest hcall)

/-- A step hands out no connection that is too old, unless the scan looks at a
    connected one that was born in time. -/
theorem young_next (h : Recorded cfg u) (hyoung : Young cfg u) (hnext : u.1.next cfg l = some t) :
    Young cfg (t, Records.record u.1 l u.2) ↔ scansYoung cfg u l = true := by
  constructor
  · intro hnew
    cases l with
    | step w =>
      have hstep := advance_cases (fun _ hp => h.books.mem_live hp) rfl hnext
      have hchosen := hnew w
      refine scansYoung_step.mpr fun now_ms invalid p rest hcall hconns hconnected => ?_
      obtain ⟨hnow, hepoch⟩ := h.asked w now_ms (by rw [hcall]; rfl)
      rw [hcall] at hstep
      cases hstep with
      | exhaust _ _ hempty =>
        rw [hconns] at hempty
        cases hempty
      | reject _ _ q _ hconns' htest =>
        obtain ⟨rfl, rfl⟩ := List.cons.inj (hconns.symm.trans hconns')
        -- the test of the age rejects nothing
        have hlive : p ∈ u.1.live := h.books.at_live (.conns (hconns ▸ List.mem_cons_self))
        have hlt := htest hconnected
        rw [(h.object p hlive).1, maxAliveTime_lt] at hlt
        omega
      | choose _ _ q _ hconns' =>
        obtain ⟨rfl, rfl⟩ := List.cons.inj (hconns.symm.trans hconns')
        have hle := hchosen p (by rw [setCall_self]; rfl)
        rw [asked_same (fun h => by cases h), born_same (fun v h => by cases h)] at hle
        rw [hnow]
        exact hle
    | _ => rfl
  · intro hfits w p hp
    obtain ⟨⟨hasked, hborn⟩, hold | ⟨now_ms, invalid, rest, rfl, hcall, hconns, htest⟩⟩ :=
      h.chosen_next hnext hp
    · show (Records.record u.1 l u.2).asked w ≤ (Records.record u.1 l u.2).born p + _
      rw [hasked, hborn]
      exact hyoung w p hold
    · show (Records.record u.1 _ u.2).asked w ≤ (Records.record u.1 _ u.2).born p + _
      rw [hasked, hborn, ← (h.asked w now_ms (by rw [hcall]; rfl)).1]
      exact scansYoung_step.mp hfits now_ms invalid p rest hcall hconns htest

/-- The pool only grows past its size where a new connection is made without room.
    -/
theorem size_next (h : Recorded cfg u) (hsize : u.1.live.card ≤ cfg.maxSize.toNat)
    (hnext : u.1.next cfg l = some t) :
    t.live.card ≤ cfg.maxSize.toNat ↔ hasRoom cfg u.1 l = true := by
  cases h.books.next_cases hnext with
  | made w p _ hfresh =>
    show (insert p u.1.live).card ≤ _ ↔ decide (u.1.live.card < cfg.maxSize.toNat) = true
    rw [Finset.card_insert_of_notMem hfresh, decide_eq_true_eq]
    exact Nat.succ_le_iff
  | step w t hstep =>
    have hle : t.live.card ≤ u.1.live.card := by
      generalize u.1.call w = c at hstep
      cases hstep with
      | delete => exact Finset.card_erase_le
      | drop => exact Finset.card_erase_le
      | _ => exact Nat.le_refl _
    exact iff_of_true (Nat.le_trans hle hsize) rfl
  | _ => exact iff_of_true hsize rfl

/-- What is connected, young and below the limit of uses is kept. -/
theorem Recorded.stays (h : Recorded cfg u) (w : Fin n) (p : Ptr)
    (hnext : u.1.next cfg (.step w) = some t) :
    (u.1.call w = .checking p → (u.1.obj p).isConnected = true → t.call w = .limiting p) ∧
    (u.1.call w = .limiting p → u.1.clock < u.2.born p + cfg.maxAliveTime.toNat →
      u.2.served p < cfg.maxRequest.toNat → t.call w = .pushing p) ∧
    (u.1.call w = .pushing p → p ∈ t.conns) := by
  have hstep := advance_cases (fun _ hp => h.books.mem_live hp) rfl hnext
  refine ⟨fun hcall htest => ?_, fun hcall _ hbelow => ?_, fun hcall => ?_⟩
  · rw [hcall] at hstep
    cases hstep with
    | closed _ hclosed =>
      rw [htest] at hclosed
      cases hclosed
    | connected => exact setCall_self _ _ _
  · have hlive : p ∈ u.1.live := h.books.at_live (.call (x := .limiting) w (by rw [hcall]; rfl))
    obtain ⟨hcreate, hrequest⟩ := h.object p hlive
    rw [hcall] at hstep
    cases hstep with
    | expire _ htest =>
      -- the time of a connection is 0 and the clock is beyond the limit, so the test of the age
      -- rejects none
      have hclock := h.clock
      rw [hcreate, maxAliveTime_lt, hrequest] at htest
      omega
    | keep => exact setCall_self _ _ _
  · rw [hcall] at hstep
    cases hstep with
    | push => exact List.mem_append_right _ (List.mem_singleton.mpr rfl)

theorem Recorded.limited_iff_young (h : Recorded cfg u) :
    Limited cfg u ↔ Young cfg u ∧ u.1.live.card ≤ cfg.maxSize.toNat := by
  constructor
  · intro hlimited
    exact ⟨hlimited.young, hlimited.size⟩
  · rintro ⟨hyoung, hsize⟩
    exact ⟨hyoung, fun w p hp => h.bound .pooled p (.call w (chosen_stage hp)),
      fun w p t hnext => h.stays w p hnext, hsize⟩

end Steps

/-- With a clock that does not go back and is past `m_maxAliveTime`, the bounds
    hold in all states of a run exactly if no connected connection that comes up
    in `getConnection` is too old and none is made in a full pool. -/
theorem limited_iff {u₀ u : HttpConnectionPool n × Records n}
    {tr : List ((HttpConnectionPool n × Records n) × PoolLabel n)}
    (hinit : (recordedPools cfg n).init u₀) (hepoch : cfg.maxAliveTime.toNat < u₀.1.clock)
    (hclock : ∀ p ∈ tr, Forward p.1.1 p.2 = true) (hrun : Run (recordedPools cfg n) u₀ tr u) :
    (∀ v ∈ states tr u, Limited cfg v) ↔
      ∀ p ∈ tr, scansYoung cfg p.1 p.2 = true ∧ hasRoom cfg p.1.1 p.2 = true := by
  obtain ⟨s₀, h₀⟩ := u₀
  obtain ⟨⟨clock, rfl⟩, rfl⟩ := hinit
  have hstart : Recorded cfg (start n clock, Records.empty n) := by
    refine ⟨books_start n clock, ?_, ?_, hepoch, ?_⟩
    · intro p hp
      cases hp
    · intro x p hat
      cases hat with
      | conns mem => cases mem
      | handed mem => cases mem
      | call w stage => cases stage
    · intro w now hnow
      cases hnow
  -- the records follow every step while the clock does not go back
  have hkeep : ∀ v l t, Recorded cfg v → Forward v.1 l = true →
      (recordedPools cfg n).next v l = some t → Recorded cfg t := by
    intro v l t hv hl hnext
    obtain ⟨hpool, hrecord⟩ := System.withHistory_next hnext
    have hnew := recorded_next hv hl hpool
    rw [← hrecord] at hnew
    exact hnew
  have hyoung : Young cfg (start n clock, Records.empty n) := by
    intro w p hp
    cases hp
  have hrecorded := hrun.states_invariant (G := fun v l => Forward v.1 l = true) hkeep hclock hstart
  -- each half is decided by one kind of step: the scan, and the creation of a connection
  have hexact := hrun.states_iff_of (I := Recorded cfg)
    (P := fun v => Young cfg v ∧ v.1.live.card ≤ cfg.maxSize.toNat)
    (E := fun v l => Forward v.1 l = true)
    (G := fun v l => scansYoung cfg v l = true ∧ hasRoom cfg v.1 l = true)
    (fun v l t hv _ hl hnext => hkeep v l t hv hl hnext)
    (fun v l t hv hgood _ hnext => by
      obtain ⟨hpool, hrecord⟩ := System.withHistory_next hnext
      have hyoung := young_next hv hgood.1 hpool
      rw [← hrecord] at hyoung
      exact and_congr hyoung (size_next hv hgood.2 hpool))
    hclock hstart ⟨hyoung, Nat.zero_le _⟩
  rw [← hexact]
  constructor
  · intro hlimited v hv
    exact (hrecorded v hv).limited_iff_young.mp (hlimited v hv)
  · intro hgood v hv
    exact (hrecorded v hv).limited_iff_young.mpr (hgood v hv)

/-- A connection is used twice, twenty seconds apart. -/
theorem limited_iff_reuse :
    ∃ (tr : List ((HttpConnectionPool 1 × Records 1) × PoolLabel 1))
      (u : HttpConnectionPool 1 × Records 1),
      Run (recordedPools ⟨10, 30000, 5⟩ 1) (start 1 1000000, Records.empty 1) tr u ∧
        (∀ v ∈ states tr u, Limited ⟨10, 30000, 5⟩ v) ∧ u.1.handed = [7] ∧ u.2.served 7 = 1 := by
  let labels : List (PoolLabel 1) :=
    [.getConnection 0, .step 0, .step 0, .step 0, .step 0, .connect 0 (some 7), .step 0, .step 0,
     .clock 1020000, .release 0 7, .step 0, .step 0, .step 0, .step 0,
     .getConnection 0, .step 0, .step 0, .step 0, .step 0, .step 0]
  have hrun := (recordedPools ⟨10, 30000, 5⟩ 1).run_of_exec
    (s := (start 1 1000000, Records.empty 1)) labels (by decide)
  exact ⟨_, _, hrun,
    (limited_iff ⟨⟨1000000, rfl⟩, rfl⟩ (by decide) (by decide) hrun).mpr
      (by decide), by decide, by decide⟩

/-- A connection is handed out when it is 31 s old, with a limit of 30 s, and
    then another one is made, with a limit of one. -/
theorem limits_ignored :
    ∃ (tr : List ((HttpConnectionPool 2 × Records 2) × PoolLabel 2))
      (u : HttpConnectionPool 2 × Records 2),
      Run (recordedPools ⟨1, 30000, 5⟩ 2) (start 2 1000000, Records.empty 2) tr u ∧
        (∀ p ∈ tr, Forward p.1.1 p.2 = true) ∧
        (∃ p ∈ (u.1.call 0).chosen, u.2.born p + 30000 < u.2.asked 0) ∧ 1 < u.1.live.card := by
  let labels : List (PoolLabel 2) :=
    [.getConnection 0, .step 0, .step 0, .step 0, .step 0, .connect 0 (some 7), .step 0, .step 0,
     .release 0 7, .step 0, .step 0, .step 0, .step 0, .clock 1031000,
     .getConnection 0, .step 0, .step 0, .step 0, .step 0,
     .getConnection 1, .step 1, .step 1, .step 1, .step 1, .connect 1 (some 9)]
  have hrun := (recordedPools ⟨1, 30000, 5⟩ 2).run_of_exec
    (s := (start 2 1000000, Records.empty 2)) labels (by decide)
  exact ⟨_, _, hrun, by decide, ⟨7, by decide, by decide⟩, by decide⟩

end Http

end MNSER
