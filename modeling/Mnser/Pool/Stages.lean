import Mnser.Pool.Owners

/-! # The stages of a connection

    A connection that is not about to be deleted is in the pool, with a user or
    on its way through `ReleasePtr`.  What is known of it depends on the stage
    it is at; `stage_next` lists all the ways to get from one to another. -/

namespace MNSER

namespace Http

open LTS

variable {cfg : Limits} {n : Nat}

/-! ## Section 1: Stages -/

inductive Stage where
  /-- in `m_conns`, or chosen from it, or about to be put there -/
  | pooled
  /-- with a user, or made for one -/
  | user
  /-- in `ReleasePtr` before `++ptr->m_request` -/
  | releasing
  /-- before `isConnected` is asked -/
  | checking
  /-- found connected -/
  | limiting
  deriving DecidableEq, Repr

/-- The connection a call has, with its stage, if it is not to be deleted. -/
def Call.stage : Call → Option (Stage × Ptr)
  | .unlocking _ ptr    => ptr.map fun p => (.pooled, p)
  | .deleting _ _ ptr   => ptr.map fun p => (.pooled, p)
  | .created p          => some (.user, p)
  | .returning p reused => some (if reused then .pooled else .user, p)
  | .releasing p        => some (.releasing, p)
  | .checking p         => some (.checking, p)
  | .limiting p         => some (.limiting, p)
  | .pushing p          => some (.pooled, p)
  | _                   => none

/-- A connection at a stage of a call is the call's. -/
theorem Call.mem_owns_of_stage {c : Call} {x : Stage} {p : Ptr} (h : c.stage = some (x, p)) :
    p ∈ c.owns := by
  cases c with
  | unlocking invalid ptr =>
    obtain ⟨q, rfl, heq⟩ := Option.map_eq_some_iff.mp h
    obtain ⟨_, rfl⟩ := Prod.mk.inj heq
    exact List.mem_append_right _ (Option.mem_toList.mpr rfl)
  | deleting invalid size ptr =>
    obtain ⟨q, rfl, heq⟩ := Option.map_eq_some_iff.mp h
    obtain ⟨_, rfl⟩ := Prod.mk.inj heq
    exact List.mem_append_right _ (Option.mem_toList.mpr rfl)
  | idle => cases h
  | getting _ => cases h
  | scanning _ _ => cases h
  | connecting => cases h
  | dropping _ => cases h
  | uncounting => cases h
  | created q | returning q _ | releasing q | checking q | limiting q | pushing q =>
    obtain ⟨_, rfl⟩ := Prod.mk.inj (Option.some.inj h)
    exact List.mem_singleton.mpr rfl

namespace HttpConnectionPool

/-- Connection `p` is at stage `x`. -/
inductive At (s : HttpConnectionPool n) : Stage → Ptr → Prop where
  | conns {p : Ptr} (mem : p ∈ s.conns) : At s .pooled p
  | handed {p : Ptr} (mem : p ∈ s.handed) : At s .user p
  | call {x : Stage} {p : Ptr} (w : Fin n) (stage : (s.call w).stage = some (x, p)) : At s x p

/-- What a step may do to the stage of a connection. -/
inductive Moved (cfg : Limits) (s : HttpConnectionPool n) : PoolLabel n → Stage → Ptr → Prop where
  | made (w : Fin n) (p : Ptr) (fresh : p ∉ s.live) : Moved cfg s (.connect w (some p)) .user p
  | given (w : Fin n) (p : Ptr) (stage : s.At .pooled p) (call : s.call w = .returning p true) :
      Moved cfg s (.step w) .user p
  | released (w : Fin n) (p : Ptr) (mem : p ∈ s.handed) : Moved cfg s (.release w p) .releasing p
  | counted (w : Fin n) (p : Ptr) (call : s.call w = .releasing p) :
      Moved cfg s (.step w) .checking p
  | connected (w : Fin n) (p : Ptr) (call : s.call w = .checking p)
      (test : (s.obj p).isConnected = true) : Moved cfg s (.step w) .limiting p
  | kept (w : Fin n) (p : Ptr) (call : s.call w = .limiting p)
      (young : add64 (s.obj p).createTime cfg.maxAliveTime.toNat < s.clock)
      (below : (s.obj p).request < cfg.maxRequest.toNat) : Moved cfg s (.step w) .pooled p

/-! ## Section 2: One place at a time -/

/-- A connection at a stage has not been deleted. -/
theorem Books.at_live {s : HttpConnectionPool n} (h : s.Books) {x : Stage} {p : Ptr}
    (hat : s.At x p) : p ∈ s.live := by
  apply h.custody.mem_live
  unfold places
  cases hat with
  | conns mem => exact Multiset.mem_add.mpr (Or.inl (List.mem_append_left _ mem))
  | handed mem => exact Multiset.mem_add.mpr (Or.inl (List.mem_append_right _ mem))
  | call w stage =>
    have hmem : p ∈ (((s.call w).owns : List Ptr) : Multiset Ptr) := Call.mem_owns_of_stage stage
    exact Multiset.mem_add.mpr (Or.inr (Multiset.mem_sum.mpr ⟨w, Finset.mem_univ w, hmem⟩))

/-- No connection is in two places. -/
theorem Books.nodup {s : HttpConnectionPool n} (h : s.Books) (w : Fin n) :
    (↑(s.reach w) + Custody.others (fun c => (Call.owns c : Multiset Ptr)) s.call w).Nodup := by
  rw [← places_eq s w, show s.places = s.live.val from h.custody]
  exact s.live.nodup

/-- A pooled connection is with no user. -/
theorem Books.conns_not_handed {s : HttpConnectionPool n} (h : s.Books) {p : Ptr}
    (hp : p ∈ s.conns) : p ∉ s.handed := by
  intro hhanded
  have hnodup : s.places.Nodup := by
    rw [show s.places = s.live.val from h.custody]
    exact s.live.nodup
  have hshared := Multiset.coe_nodup.mp (Multiset.nodup_add.mp hnodup).1
  exact (List.nodup_append.mp hshared).2.2 p hp p hhanded rfl

/-- What a call has is at no other place. -/
theorem Books.owns_only {s : HttpConnectionPool n} (h : s.Books) {w : Fin n} {p : Ptr}
    (howns : p ∈ (s.call w).owns) :
    p ∉ s.conns ++ s.handed ∧ ∀ v, p ∈ (s.call v).owns → v = w := by
  obtain ⟨hreach, _, hothers⟩ := Multiset.nodup_add.mp (h.nodup w)
  refine ⟨fun hmem =>
    (List.nodup_append.mp (Multiset.coe_nodup.mp hreach)).2.2 p hmem p howns rfl, fun v hv => ?_⟩
  by_contra hne
  have hother : p ∈ Custody.others (fun c => (Call.owns c : Multiset Ptr)) s.call w :=
    Multiset.mem_sum.mpr ⟨v, Finset.mem_erase.mpr ⟨hne, Finset.mem_univ v⟩, hv⟩
  have hmem : p ∈ (s.reach w : Multiset Ptr) := List.mem_append_right _ howns
  exact Multiset.disjoint_left.mp hothers hmem hother

/-- A connection of a call is at the stage of this call. -/
theorem Books.at_of_owns {s : HttpConnectionPool n} (h : s.Books) {w : Fin n} {x : Stage} {p : Ptr}
    (howns : p ∈ (s.call w).owns) (hat : s.At x p) : (s.call w).stage = some (x, p) := by
  obtain ⟨hshared, honly⟩ := h.owns_only howns
  cases hat with
  | conns mem => exact absurd (List.mem_append_left _ mem) hshared
  | handed mem => exact absurd (List.mem_append_right _ mem) hshared
  | call v stage => rw [← honly v (Call.mem_owns_of_stage stage)]; exact stage

/-- A connection with a user is at no stage of a call. -/
theorem Books.at_of_handed {s : HttpConnectionPool n} (h : s.Books) {x : Stage} {p : Ptr}
    (hp : p ∈ s.handed) (hat : s.At x p) : x = .user := by
  cases hat with
  | conns mem => exact absurd hp (h.conns_not_handed mem)
  | handed => rfl
  | call w stage =>
    exact absurd (List.mem_append_right _ hp) (h.owns_only (Call.mem_owns_of_stage stage)).1

/-! ## Section 3: Steps -/

/-- After a fiber has moved, a connection is with it or where it was. -/
theorem At.of_setCall {s t : HttpConnectionPool n} {w : Fin n} {c : Call} {x : Stage} {p : Ptr}
    (hcall : t.call = fun v => if v = w then c else s.call v)
    (hat : t.At x p) :
    (x = .pooled ∧ p ∈ t.conns) ∨ (x = .user ∧ p ∈ t.handed) ∨ c.stage = some (x, p) ∨
      ∃ v, (s.call v).stage = some (x, p) := by
  cases hat with
  | conns mem => exact Or.inl ⟨rfl, mem⟩
  | handed mem => exact Or.inr (Or.inl ⟨rfl, mem⟩)
  | call v stage =>
    rw [hcall] at stage
    by_cases hv : v = w
    · exact Or.inr (Or.inr (Or.inl (by rw [← stage]; exact (congrArg Call.stage (if_pos hv)).symm)))
    · exact Or.inr (Or.inr (Or.inr ⟨v, by rw [← stage]; exact (congrArg Call.stage (if_neg hv)).symm⟩))

/-- A step that leaves the lists alone. -/
theorem stage_setCall {s t : HttpConnectionPool n} {w : Fin n} {c : Call} {l : PoolLabel n}
    {x : Stage} {p : Ptr} (hat : t.At x p)
    (hcall : t.call = fun v => if v = w then c else s.call v)
    (hconns : ∀ q ∈ t.conns, q ∈ s.conns) (hhanded : ∀ q ∈ t.handed, q ∈ s.handed)
    (hstage : c.stage = some (x, p) → s.At x p ∨ Moved cfg s l x p) :
    s.At x p ∨ Moved cfg s l x p := by
  rcases hat.of_setCall hcall with ⟨rfl, hmem⟩ | ⟨rfl, hmem⟩ | hc | ⟨v, hv⟩
  · exact Or.inl (.conns (hconns p hmem))
  · exact Or.inl (.handed (hhanded p hmem))
  · exact hstage hc
  · exact Or.inl (.call v hv)

/-- A step inside of a call moves one connection on. -/
theorem stage_advance {s t : HttpConnectionPool n} {w : Fin n} {x : Stage} {p : Ptr}
    (hstep : Advance cfg s w (s.call w) t) (hat : t.At x p) :
    s.At x p ∨ Moved cfg s (.step w) x p := by
  -- most steps leave every connection at its stage; the others move the one w holds
  have hstay : ∀ {y q}, (s.call w).stage = some (y, q) → s.At y q := fun h => .call w h
  generalize hcall : s.call w = c at hstep
  cases hstep with
  | lock => exact stage_setCall hat rfl (fun _ h => h) (fun _ h => h) (fun h => by cases h)
  | exhaust => exact stage_setCall hat rfl (fun _ h => h) (fun _ h => h) (fun h => by cases h)
  | reject now_ms invalid q rest hconns =>
    exact stage_setCall hat rfl (fun _ h => hconns ▸ List.mem_cons_of_mem _ h) (fun _ h => h)
      (fun h => by cases h)
  | choose now_ms invalid q rest hconns =>
    refine stage_setCall hat rfl (fun _ h => hconns ▸ List.mem_cons_of_mem _ h) (fun _ h => h)
      (fun h => ?_)
    obtain ⟨rfl, rfl⟩ := Prod.mk.inj (Option.some.inj h)
    exact Or.inl (.conns (hconns ▸ List.mem_cons_self))
  | unlock =>
    exact stage_setCall hat rfl (fun _ h => h) (fun _ h => h)
      (fun h => Or.inl (hstay (by rw [hcall]; exact h)))
  | delete =>
    exact stage_setCall hat rfl (fun _ h => h) (fun _ h => h)
      (fun h => Or.inl (hstay (by rw [hcall]; exact h)))
  | subtract size ptr =>
    refine stage_setCall hat rfl (fun _ h => h) (fun _ h => h) (fun h => Or.inl (hstay ?_))
    rw [hcall]
    cases ptr with
    | none => cases h
    | some q => exact h
  | increment =>
    exact stage_setCall hat rfl (fun _ h => h) (fun _ h => h)
      (fun h => Or.inl (hstay (by rw [hcall]; exact h)))
  | hand q reused =>
    have hq : s.At (if reused then .pooled else .user) q := hstay (by rw [hcall]; rfl)
    rcases hat.of_setCall (s := s) rfl with ⟨rfl, hmem⟩ | ⟨rfl, hmem⟩ | hc | ⟨v, hv⟩
    · exact Or.inl (.conns hmem)
    · rcases List.mem_cons.mp hmem with rfl | hmem
      · cases reused with
        | true => exact Or.inr (.given w p hq hcall)
        | false => exact Or.inl hq
      · exact Or.inl (.handed hmem)
    · cases hc
    · exact Or.inl (.call v hv)
  | count q =>
    refine stage_setCall hat rfl (fun _ h => h) (fun _ h => h) (fun h => ?_)
    obtain ⟨rfl, rfl⟩ := Prod.mk.inj (Option.some.inj h)
    exact Or.inr (.counted w q hcall)
  | closed => exact stage_setCall hat rfl (fun _ h => h) (fun _ h => h) (fun h => by cases h)
  | connected q htest =>
    refine stage_setCall hat rfl (fun _ h => h) (fun _ h => h) (fun h => ?_)
    obtain ⟨rfl, rfl⟩ := Prod.mk.inj (Option.some.inj h)
    exact Or.inr (.connected w q hcall htest)
  | expire => exact stage_setCall hat rfl (fun _ h => h) (fun _ h => h) (fun h => by cases h)
  | keep q hyoung hbelow =>
    refine stage_setCall hat rfl (fun _ h => h) (fun _ h => h) (fun h => ?_)
    obtain ⟨rfl, rfl⟩ := Prod.mk.inj (Option.some.inj h)
    exact Or.inr (.kept w q hcall hyoung hbelow)
  | drop => exact stage_setCall hat rfl (fun _ h => h) (fun _ h => h) (fun h => by cases h)
  | decrement => exact stage_setCall hat rfl (fun _ h => h) (fun _ h => h) (fun h => by cases h)
  | push q =>
    have hq : s.At .pooled q := hstay (by rw [hcall]; rfl)
    rcases hat.of_setCall (s := s) rfl with ⟨rfl, hmem⟩ | ⟨rfl, hmem⟩ | hc | ⟨v, hv⟩
    · rcases List.mem_append.mp hmem with hmem | hmem
      · exact Or.inl (.conns hmem)
      · obtain rfl := List.mem_singleton.mp hmem
        exact Or.inl hq
    · exact Or.inl (.handed hmem)
    · cases hc
    · exact Or.inl (.call v hv)

/-- The ways to get to a stage. -/
theorem Books.stage_next {s t : HttpConnectionPool n} {l : PoolLabel n} {x : Stage} {p : Ptr}
    (h : s.Books) (hnext : s.next cfg l = some t) (hat : t.At x p) :
    s.At x p ∨ Moved cfg s l x p := by
  -- besides the steps of a call only release and connect move a connection
  cases h.next_cases hnext with
  | clock now =>
    cases hat with
    | conns mem => exact Or.inl (.conns mem)
    | handed mem => exact Or.inl (.handed mem)
    | call w stage => exact Or.inl (.call w stage)
  | close q =>
    cases hat with
    | conns mem => exact Or.inl (.conns mem)
    | handed mem => exact Or.inl (.handed mem)
    | call w stage => exact Or.inl (.call w stage)
  | get w => exact stage_setCall hat rfl (fun _ h => h) (fun _ h => h) (fun h => by cases h)
  | release w q _ hq =>
    refine stage_setCall hat rfl (fun _ h => h) (fun _ h => List.mem_of_mem_erase h) (fun h => ?_)
    obtain ⟨rfl, rfl⟩ := Prod.mk.inj (Option.some.inj h)
    exact Or.inr (.released w q hq)
  | step w t hstep => exact stage_advance hstep hat
  | failed w => exact stage_setCall hat rfl (fun _ h => h) (fun _ h => h) (fun h => by cases h)
  | made w q _ hfresh =>
    refine stage_setCall hat rfl (fun _ h => h) (fun _ h => h) (fun h => ?_)
    obtain ⟨rfl, rfl⟩ := Prod.mk.inj (Option.some.inj h)
    exact Or.inr (.made w q hfresh)

/-- The caller that takes a step. -/
def caller : PoolLabel n → Option (Fin n)
  | .clock _         => none
  | .close _         => none
  | .getConnection w => some w
  | .release w _     => some w
  | .step w          => some w
  | .connect w _     => some w

theorem setCall_self (s : HttpConnectionPool n) (w : Fin n) (c : Call) :
    (s.setCall w c).call w = c := if_pos rfl

/-- The other fibers stay where they are. -/
theorem advance_frame {s t : HttpConnectionPool n} {w v : Fin n} {c : Call}
    (hstep : Advance cfg s w c t) (hv : v ≠ w) : t.call v = s.call v := by
  cases hstep <;> exact if_neg hv

/-- The clock does not run inside of a call. -/
theorem advance_clock {s t : HttpConnectionPool n} {w : Fin n} {c : Call}
    (hstep : Advance cfg s w c t) : t.clock = s.clock := by
  cases hstep <;> rfl

/-- The other callers do not notice a step. -/
theorem Books.call_frame {s t : HttpConnectionPool n} {l : PoolLabel n} {v : Fin n} (h : s.Books)
    (hnext : s.next cfg l = some t) (hv : caller l ≠ some v) : t.call v = s.call v := by
  have hne : ∀ {w}, caller l = some w → v ≠ w := fun hw heq => hv (by rw [hw, heq])
  cases h.next_cases hnext with
  | clock => rfl
  | close => rfl
  | get w => exact if_neg (hne rfl)
  | release w p => exact if_neg (hne rfl)
  | step w t hstep => exact advance_frame hstep (hne rfl)
  | failed w => exact if_neg (hne rfl)
  | made w p => exact if_neg (hne rfl)

/-- Only its own label sets the clock. -/
theorem Books.clock_next {s t : HttpConnectionPool n} {l : PoolLabel n} (h : s.Books)
    (hnext : s.next cfg l = some t) : t.clock = s.clock ∨ l = .clock t.clock := by
  cases h.next_cases hnext with
  | clock now => exact Or.inr rfl
  | step w t hstep => exact Or.inl (advance_clock hstep)
  | _ => exact Or.inl rfl

/-! ## Section 4: Objects -/

/-- What a step may make of the connection at `q`. -/
inductive Becomes (s : HttpConnectionPool n) (q : Ptr) : PoolLabel n → HttpConnection → Prop where
  | made (w : Fin n) (fresh : q ∉ s.live) :
      Becomes s q (.connect w (some q)) { isConnected := true }
  | counted (w : Fin n) (call : s.call w = .releasing q) (live : q ∈ s.live) :
      Becomes s q (.step w) { s.obj q with request := add64 (s.obj q).request 1 }
  | closed (live : q ∈ s.live) : Becomes s q (.close q) { s.obj q with isConnected := false }
  | same (l : PoolLabel n) (made : ∀ w, l ≠ .connect w (some q))
      (counted : ∀ w, l = .step w → s.call w ≠ .releasing q) (live : q ∈ s.live) :
      Becomes s q l (s.obj q)

/-- What a step inside of a call does to the connection it is about. -/
theorem becomes_advance {s t : HttpConnectionPool n} {w : Fin n} {q : Ptr}
    (hstep : Advance cfg s w (s.call w) t) (hq : q ∈ t.live) :
    Becomes s q (.step w) (t.obj q) := by
  have hsame : ∀ {c : Call}, s.call w = c → c ≠ .releasing q → q ∈ s.live →
      Becomes s q (.step w) (s.obj q) := fun {c} hcall hne hlive =>
    .same _ (fun v h => by cases h) (fun v h => by cases h; rw [hcall]; exact hne) hlive
  generalize hcall : s.call w = c at hstep
  cases hstep with
  | delete => exact hsame hcall Call.noConfusion (Finset.mem_of_mem_erase hq)
  | drop => exact hsame hcall Call.noConfusion (Finset.mem_of_mem_erase hq)
  | count p =>
    by_cases hqp : q = p
    · subst hqp
      show Becomes s q (.step w) (if q = q then _ else s.obj q)
      rw [if_pos rfl]
      exact .counted w hcall hq
    · show Becomes s q (.step w) (if q = p then _ else s.obj q)
      rw [if_neg hqp]
      exact hsame hcall (fun h => hqp (Call.releasing.inj h).symm) hq
  | _ => exact hsame hcall Call.noConfusion hq

/-- What becomes of the objects. -/
theorem Books.becomes {s t : HttpConnectionPool n} {l : PoolLabel n} {q : Ptr} (h : s.Books)
    (hnext : s.next cfg l = some t) (hq : q ∈ t.live) : Becomes s q l (t.obj q) := by
  cases h.next_cases hnext with
  | step w t hstep => exact becomes_advance hstep hq
  | close p =>
    by_cases hqp : q = p
    · subst hqp
      show Becomes s q (.close q) (if q = q then _ else s.obj q)
      rw [if_pos rfl]
      exact .closed hq
    · show Becomes s q (.close p) (if q = p then _ else s.obj q)
      rw [if_neg hqp]
      exact .same _ (fun v h => by cases h) (fun v h => by cases h) hq
  | made w p _ hfresh =>
    by_cases hqp : q = p
    · subst hqp
      show Becomes s q (.connect w (some q)) (if q = q then _ else s.obj q)
      rw [if_pos rfl]
      exact .made w hfresh
    · show Becomes s q (.connect w (some p)) (if q = p then _ else s.obj q)
      rw [if_neg hqp]
      exact .same _ (fun v h => hqp (by cases h; rfl)) (fun v h => by cases h)
        (Finset.mem_of_mem_insert_of_ne hq hqp)
  | _ => exact .same _ (fun v h => by cases h) (fun v h => by cases h) hq

/-- A closed connection stays closed. -/
theorem Books.closed_next {s t : HttpConnectionPool n} {l : PoolLabel n} {q : Ptr} (h : s.Books)
    (hnext : s.next cfg l = some t) (hs : q ∈ s.live) (ht : q ∈ t.live)
    (hclosed : (s.obj q).isConnected = false) : (t.obj q).isConnected = false := by
  have hbecomes := h.becomes hnext ht
  generalize t.obj q = conn at hbecomes
  cases hbecomes with
  | made w hfresh => exact absurd hs hfresh
  | counted => exact hclosed
  | closed => rfl
  | same => exact hclosed

/-- A user keeps its connections until it lets them go. -/
theorem Books.handed_next {s t : HttpConnectionPool n} {l : PoolLabel n} {q : Ptr} (h : s.Books)
    (hnext : s.next cfg l = some t) (hl : ∀ w, l ≠ .release w q) (hq : q ∈ s.handed) :
    q ∈ t.handed := by
  cases h.next_cases hnext with
  | release w p =>
    have hne : q ≠ p := fun heq => hl w (by rw [heq])
    exact (List.mem_erase_of_ne hne).mpr hq
  | step w t hstep =>
    generalize s.call w = c at hstep
    cases hstep with
    | hand p => exact List.mem_cons_of_mem _ hq
    | _ => exact hq
  | _ => exact hq

end HttpConnectionPool

end Http

end MNSER
