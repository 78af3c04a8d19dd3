import Mnser.Pool.Exchange
import Mnser.Pool.Stages

/-! # Which connections are used again

    `ReleasePtr` keeps what is connected.  `recvResponse` closes the connection
    wherever it gives up, but after a failed `sendRequest`, or when an exception
    leaves `recvResponse`, nobody does, and a response that is returned before
    all of it has come leaves the rest to whoever is next.  Apart from these, a
    connection in the pool has every request written and every response read. -/

namespace MNSER

namespace Http

open LTS HttpConnectionPool

variable {cfg : Limits} {n : Nat}

/-! ## Section 1: Reusable connections, and what ReleasePtr rejects -/

namespace Client

/-- What is in `m_conns`, or taken from it, has no exchange unfinished. -/
def Reusable (s : Client n) : Prop := ∀ p, s.pool.At .pooled p → (s.wire p).Clean

/-- One of the last two tests of `ReleasePtr` rejects the connection. -/
def expired (cfg : Limits) (s : HttpConnectionPool n) (p : Ptr) : Bool :=
  decide (add64 (s.obj p).createTime cfg.maxAliveTime.toNat ≥ s.clock ∨
    (s.obj p).request ≥ cfg.maxRequest.toNat)

/-- A connection that is found connected after its exchange was given up, or
    with bytes of a response to come, is rejected by another test. -/
def rejects (cfg : Limits) (s : Client n) : ClientLabel n → Bool
  | .step w =>
    match s.pool.call w with
    | .limiting p => !((s.wire p).abandoned || (s.wire p).cut) || expired cfg s.pool p
    | _ => true
  | _ => true

/-! ## Section 2: What is known of a connection -/

/-- The rest of the request is to be written. -/
structure Sending (wire : Wire) (left : Int) (length : Nat) : Prop where
  bound : left ≤ length
  good  : wire.failed = false ∧ wire.abandoned = false ∧ wire.cut = false
  count : if left = length then wire.begun = wire.whole ∧ wire.begun = wire.answered
          else wire.begun = wire.answered + 1 ∧
            wire.begun = if left ≤ 0 then wire.whole else wire.whole + 1

/-- The request is written, and the response is to be read. -/
structure Awaiting (wire : Wire) : Prop where
  good  : wire.failed = false ∧ wire.abandoned = false ∧ wire.cut = false
  count : wire.begun = wire.whole ∧ wire.begun = wire.answered + 1

/-- Clean, or not to be used again. -/
def Disposed (s : Client n) (p : Ptr) : Prop :=
  (s.wire p).Clean ∨ (s.pool.obj p).isConnected = false ∨ (s.wire p).abandoned = true ∨
    (s.wire p).cut = true

/-- What is known on the way through `ReleasePtr`. -/
def Disposal (s : Client n) : Stage → Ptr → Prop
  | .releasing, p => s.Disposed p
  | .checking, p  => s.Disposed p
  | .limiting, p  => (s.wire p).Clean ∨ (s.wire p).abandoned = true ∨ (s.wire p).cut = true
  | _, _          => True

/-- The marks say something about the counts. -/
def Marked (wire : Wire) : Prop :=
  (wire.abandoned = true → wire.failed = true) ∧ (wire.cut = true → wire.answered < wire.begun)

end Client

/-- In `getConnection`. -/
def Call.gets : Call → Bool
  | .getting _      => true
  | .scanning _ _   => true
  | .unlocking _ _  => true
  | .deleting _ _ _ => true
  | .connecting     => true
  | .created _      => true
  | .returning _ _  => true
  | _               => false

/-- In `ReleasePtr`. -/
def Call.releases : Call → Bool
  | .releasing _ => true
  | .checking _  => true
  | .limiting _  => true
  | .dropping _  => true
  | .uncounting  => true
  | .pushing _   => true
  | _            => false

/-- A connection that is made for the caller. -/
def Call.fresh : Call → Option Ptr
  | .created p         => some p
  | .returning p false => some p
  | _                  => none

/-- The connection a request has. -/
def Request.conn : Request → Option Ptr
  | .sending p _ _ => some p
  | .receiving p   => some p
  | .leaving p _   => some p
  | _              => none

namespace Client

/-- What a request does, and what is known of its connection. -/
def Link (s : Client n) (w : Fin n) : Prop :=
  match s.request w with
  | .idle => s.pool.call w = .idle
  | .getting _ =>
    (s.pool.call w).gets = true ∧ ∀ p ∈ (s.pool.call w).fresh, (s.wire p).Clean
  | .sending p left length =>
    s.pool.call w = .idle ∧ p ∈ s.pool.handed ∧ Sending (s.wire p) left length
  | .receiving p => s.pool.call w = .idle ∧ p ∈ s.pool.handed ∧ Awaiting (s.wire p)
  | .leaving p _ => s.pool.call w = .idle ∧ p ∈ s.pool.handed ∧ s.Disposed p
  | .releasing => (s.pool.call w).releases = true

structure Sound (s : Client n) : Prop where
  books  : s.pool.Books
  marked : ∀ p, Marked (s.wire p)
  link   : ∀ w, s.Link w
  mine   : ∀ v w p, (s.request v).conn = some p → (s.request w).conn = some p → v = w
  stage  : ∀ x p, s.pool.At x p → s.Disposal x p

/-- A connection between two exchanges is not marked. -/
theorem Marked.of_clean {wire : Wire} (h : Marked wire) (hclean : wire.Clean) :
    wire.abandoned = false ∧ wire.cut = false := by
  obtain ⟨_, hanswered, hfailed⟩ := hclean
  refine ⟨Bool.eq_false_iff.mpr fun habandoned => ?_, Bool.eq_false_iff.mpr fun hcut => ?_⟩
  · rw [h.1 habandoned] at hfailed
    cases hfailed
  · have := h.2 hcut
    omega

theorem Marked.of_unmarked {wire : Wire} (habandoned : wire.abandoned = false)
    (hcut : wire.cut = false) : Marked wire := by
  constructor
  · intro h
    rw [habandoned] at h
    cases h
  · intro h
    rw [hcut] at h
    cases h

/-- A fiber with a connection is in no call, and the pool has handed the connection
    out. -/
theorem Sound.held {s : Client n} (h : s.Sound) {w : Fin n} {p : Ptr}
    (hp : (s.request w).conn = some p) : s.pool.call w = .idle ∧ p ∈ s.pool.handed := by
  have hlink := h.link w
  unfold Link at hlink
  cases hreq : s.request w with
  | idle => rw [hreq] at hp; cases hp
  | getting => rw [hreq] at hp; cases hp
  | releasing => rw [hreq] at hp; cases hp
  | sending q left length =>
    rw [hreq] at hp hlink
    obtain rfl := Option.some.inj hp
    exact ⟨hlink.1, hlink.2.1⟩
  | receiving q =>
    rw [hreq] at hp hlink
    obtain rfl := Option.some.inj hp
    exact ⟨hlink.1, hlink.2.1⟩
  | leaving q r =>
    rw [hreq] at hp hlink
    obtain rfl := Option.some.inj hp
    exact ⟨hlink.1, hlink.2.1⟩

/-- The other requests go on as before. -/
theorem Link.frame {s t : Client n} {v : Fin n} (h : s.Link v)
    (hrequest : t.request v = s.request v) (hcall : t.pool.call v = s.pool.call v)
    (hheld : ∀ p, (s.request v).conn = some p → t.wire p = s.wire p ∧
      (p ∈ s.pool.handed → p ∈ t.pool.handed) ∧
      ((s.pool.obj p).isConnected = false → (t.pool.obj p).isConnected = false))
    (hfresh : ∀ p, (s.pool.call v).fresh = some p → t.wire p = s.wire p) : t.Link v := by
  unfold Link at h ⊢
  rw [hrequest, hcall]
  -- only a request that holds a connection says anything about the wire
  cases hreq : s.request v with
  | idle => rw [hreq] at h; exact h
  | releasing => rw [hreq] at h; exact h
  | getting length =>
    rw [hreq] at h
    exact ⟨h.1, fun p hp => by rw [hfresh p hp]; exact h.2 p hp⟩
  | sending p left length =>
    rw [hreq] at h hheld
    obtain ⟨hwire, hhanded, _⟩ := hheld p rfl
    exact ⟨h.1, hhanded h.2.1, by rw [hwire]; exact h.2.2⟩
  | receiving p =>
    rw [hreq] at h hheld
    obtain ⟨hwire, hhanded, _⟩ := hheld p rfl
    exact ⟨h.1, hhanded h.2.1, by rw [hwire]; exact h.2.2⟩
  | leaving p result =>
    rw [hreq] at h hheld
    obtain ⟨hwire, hhanded, hclosed⟩ := hheld p rfl
    refine ⟨h.1, hhanded h.2.1, ?_⟩
    have hdisposed := h.2.2
    unfold Disposed at hdisposed ⊢
    rw [hwire]
    exact hdisposed.imp_right (Or.imp_left hclosed)

/-! ## Section 3: One request acts -/

/-- A step with pool step `l`, in which request `who` acts if there is one: it
    only touches the connection it has, and keeps what is known of itself. -/
structure Act (cfg : Limits) (s t : Client n) (who : Option (Fin n)) (l : PoolLabel n) : Prop where
  pool    : s.pool.next cfg l = some t.pool
  caller  : ∀ v, caller l = some v → who = some v
  request : ∀ v, who ≠ some v → t.request v = s.request v
  wire    : ∀ q ∈ s.pool.live, (∀ w, who = some w → (s.request w).conn ≠ some q) →
              t.wire q = s.wire q
  release : ∀ v p, l = .release v p → (s.request v).conn = some p ∧ t.Disposed p
  marked  : ∀ q, Marked (t.wire q)
  link    : ∀ w, who = some w → t.Link w
  mine    : ∀ w, who = some w → ∀ q, (t.request w).conn = some q →
              (s.request w).conn = some q ∨ q ∉ s.pool.handed

section Act

variable {s t : Client n} {who : Option (Fin n)} {l : PoolLabel n}

/-- A connection that no user has is not touched. -/
theorem Act.wire_same (hact : Act cfg s t who l) (h : s.Sound) {q : Ptr} (hlive : q ∈ s.pool.live)
    (hhanded : q ∉ s.pool.handed) : t.wire q = s.wire q :=
  hact.wire q hlive fun _ _ hconn => hhanded (h.held hconn).2

/-- The connections of the other fibers are not touched. -/
theorem Act.link_other (hact : Act cfg s t who l) (h : s.Sound) {v : Fin n}
    (hv : who ≠ some v) : t.Link v := by
  have hbooks := books_next h.books hact.pool
  refine (h.link v).frame (hact.request v hv)
    (h.books.call_frame hact.pool fun hcaller => hv (hact.caller v hcaller)) ?_ ?_
  · intro p hp
    have hhanded := (h.held hp).2
    have hlive := h.books.at_live (.handed hhanded)
    -- only its own fiber gives a connection back
    have hkeep : p ∈ t.pool.handed := by
      refine h.books.handed_next hact.pool (fun w hl => hv ?_) hhanded
      rw [h.mine v w p hp (hact.release w p hl).1]
      exact hact.caller w (by rw [hl]; rfl)
    refine ⟨hact.wire p hlive fun w hw hconn => hv ?_, fun _ => hkeep, fun hclosed => ?_⟩
    · rw [hw, h.mine v w p hp hconn]
    · exact h.books.closed_next hact.pool hlive (hbooks.at_live (.handed hkeep)) hclosed
  · intro p hp
    have howns : p ∈ (s.pool.call v).owns := by
      generalize s.pool.call v = c at hp
      cases c with
      | created q => exact List.mem_singleton.mpr (Option.some.inj hp).symm
      | returning q reused =>
        cases reused with
        | true => cases hp
        | false => exact List.mem_singleton.mpr (Option.some.inj hp).symm
      | _ => cases hp
    -- a new connection is on the way to this fiber, and nobody has it yet
    have hlive := h.books.mem_live (w := v) (List.mem_append_right _ howns)
    exact hact.wire_same h hlive fun hmem =>
      (h.books.owns_only howns).1 (List.mem_append_right _ hmem)

/-- What is known on the way through `ReleasePtr` stays known. -/
theorem Act.stage (hact : Act cfg s t who l) (h : s.Sound) {x : Stage} {q : Ptr}
    (hat : t.pool.At x q) : t.Disposal x q := by
  have hbooks := books_next h.books hact.pool
  have hlive := hbooks.at_live hat
  have hsame : ∀ {y}, s.pool.At y q → y ≠ .user → t.wire q = s.wire q := fun {y} hy hne =>
    hact.wire_same h (h.books.at_live hy) fun hmem => hne (h.books.at_of_handed hmem hy)
  have hdisposed : ∀ {y}, s.pool.At y q → y ≠ .user → s.Disposed q → t.Disposed q := by
    intro y hy hne hd
    unfold Disposed at hd ⊢
    rw [hsame hy hne]
    exact hd.imp_right (Or.imp_left (h.books.closed_next hact.pool (h.books.at_live hy) hlive))
  -- the connection was at the stage before, or has come to it
  rcases h.books.stage_next hact.pool hat with hold | hmoved
  · have hknown := h.stage x q hold
    cases x with
    | pooled => trivial
    | user => trivial
    | releasing => exact hdisposed hold Stage.noConfusion hknown
    | checking => exact hdisposed hold Stage.noConfusion hknown
    | limiting =>
      show (t.wire q).Clean ∨ (t.wire q).abandoned = true ∨ (t.wire q).cut = true
      rw [hsame hold Stage.noConfusion]
      exact hknown
  · cases hmoved with
    | made => trivial
    | given => trivial
    | released w q => exact (hact.release w q rfl).2
    | counted w q hcall =>
      have hold : s.pool.At .releasing q := .call w (by rw [hcall]; rfl)
      exact hdisposed hold Stage.noConfusion (h.stage _ _ hold)
    | connected w q hcall htest =>
      have hold : s.pool.At .checking q := .call w (by rw [hcall]; rfl)
      have hknown : s.Disposed q := h.stage _ _ hold
      show (t.wire q).Clean ∨ (t.wire q).abandoned = true ∨ (t.wire q).cut = true
      rw [hsame hold Stage.noConfusion]
      rcases hknown with hclean | hclosed | hmarks
      · exact Or.inl hclean
      · rw [htest] at hclosed
        cases hclosed
      · exact Or.inr hmarks
    | kept => trivial

/-- A step that is an act keeps the invariant. -/
theorem Act.sound (hact : Act cfg s t who l) (h : s.Sound) : t.Sound := by
  refine ⟨books_next h.books hact.pool, hact.marked, fun v => ?_, ?_, fun x q hat => hact.stage h hat⟩
  · by_cases hv : who = some v
    · exact hact.link v hv
    · exact hact.link_other h hv
  · have hnew : ∀ v w q, who = some v → who ≠ some w → (t.request v).conn = some q →
        (t.request w).conn = some q → v = w := by
      intro v w q hv hw hq hq'
      rw [hact.request w hw] at hq'
      rcases hact.mine v hv q hq with hold | hfresh
      · exact h.mine v w q hold hq'
      · exact absurd (h.held hq').2 hfresh
    intro v w q hv hw
    by_cases hwhov : who = some v
    · by_cases hwhow : who = some w
      · exact Option.some.inj (hwhov.symm.trans hwhow)
      · exact hnew v w q hwhov hwhow hv hw
    · by_cases hwhow : who = some w
      · exact (hnew w v q hwhow hwhov hw hv).symm
      · rw [hact.request v hwhov] at hv
        rw [hact.request w hwhow] at hw
        exact h.mine v w q hv hw

/-- What is in the pool after the step is clean exactly if what `ReleasePtr`
    has kept in it was not marked. -/
theorem Act.reusable (hact : Act cfg s t who l) (h : s.Sound) (hclean : s.Reusable) :
    t.Reusable ↔ ∀ w p, l = .step w → s.pool.call w = .limiting p →
      ((s.wire p).abandoned || (s.wire p).cut) = true → expired cfg s.pool p = true := by
  have hsame : ∀ {y q}, s.pool.At y q → y ≠ .user → t.wire q = s.wire q := fun {y q} hy hne =>
    hact.wire_same h (h.books.at_live hy) fun hmem => hne (h.books.at_of_handed hmem hy)
  constructor
  · -- a marked connection at the test was rejected, or it would be in the pool now
    intro hnew w p hl hcall hmarks
    subst hl
    have hold : s.pool.At .limiting p := .call w (by rw [hcall]; rfl)
    have hstep := advance_cases (fun _ hp => h.books.mem_live hp) rfl hact.pool
    rw [hcall] at hstep
    generalize hpool : t.pool = pool at hstep
    cases hstep with
    | expire _ htest => exact decide_eq_true htest
    | keep =>
      have hat : t.pool.At .pooled p := .call w (by rw [hpool, setCall_self]; rfl)
      have hp := hnew p hat
      rw [hsame hold Stage.noConfusion] at hp
      obtain ⟨habandoned, hcut⟩ := (h.marked p).of_clean hp
      rw [habandoned, hcut] at hmarks
      cases hmarks
  · intro hrejects p hat
    -- what is pooled was there before, or has come through the test in this step
    rcases h.books.stage_next hact.pool hat with hold | hmoved
    · rw [hsame hold Stage.noConfusion]
      exact hclean p hold
    · cases hmoved with
      | kept w p hcall hyoung hbelow =>
        have hold : s.pool.At .limiting p := .call w (by rw [hcall]; rfl)
        rw [hsame hold Stage.noConfusion]
        rcases h.stage _ _ hold with hp | hmarks
        · exact hp
        · have hexpired := of_decide_eq_true
            (hrejects w p rfl hcall (by simpa using hmarks))
          omega

end Act

/-! ## Section 4: Steps -/

theorem setRequest_self (s : Client n) (w : Fin n) (r : Request) :
    (s.setRequest w r).request w = r := if_pos rfl

theorem setRequest_ne {s : Client n} {w v : Fin n} {r : Request} (h : some w ≠ some v) :
    (s.setRequest w r).request v = s.request v := if_neg fun heq => h (by rw [heq])

/-- What `getConnection` does next. -/
theorem gets_advance {s t : HttpConnectionPool n} {w : Fin n} {c : Call}
    (hstep : Advance cfg s w c t) (hgets : c.gets = true) :
    ((∀ p reused, c ≠ .returning p reused) ∧ (t.call w).gets = true ∧
      ∀ p ∈ (t.call w).fresh, p ∈ c.fresh) ∨
    ∃ p reused, c = .returning p reused ∧ t.call w = .idle ∧ p ∈ t.handed := by
  -- the calls of ReleasePtr are none of getConnection's, which hgets excludes
  cases hstep with
  | hand p reused => exact Or.inr ⟨p, reused, rfl, setCall_self _ _ _, List.mem_cons_self⟩
  | subtract size ptr =>
    refine Or.inl ⟨fun _ _ => Call.noConfusion, ?_, ?_⟩
    · rw [setCall_self]
      cases ptr <;> rfl
    · rw [setCall_self]
      intro p hp
      cases ptr <;> cases hp
  | increment p =>
    refine Or.inl ⟨fun _ _ => Call.noConfusion, by rw [setCall_self]; rfl, ?_⟩
    rw [setCall_self]
    exact fun _ hp => hp
  | count => cases hgets
  | closed => cases hgets
  | connected => cases hgets
  | expire => cases hgets
  | keep => cases hgets
  | drop => cases hgets
  | decrement => cases hgets
  | push => cases hgets
  | _ =>
    refine Or.inl ⟨fun _ _ => Call.noConfusion, by rw [setCall_self]; rfl, ?_⟩
    rw [setCall_self]
    intro p hp
    cases hp

/-- A call of `ReleasePtr` goes on to its end. -/
theorem releases_advance {s t : HttpConnectionPool n} {w : Fin n} {c : Call}
    (hstep : Advance cfg s w c t) (hreleases : c.releases = true) :
    (t.call w).releases = true ∨ t.call w = .idle := by
  cases hstep with
  | count => exact Or.inl (by rw [setCall_self]; rfl)
  | closed => exact Or.inl (by rw [setCall_self]; rfl)
  | connected => exact Or.inl (by rw [setCall_self]; rfl)
  | expire => exact Or.inl (by rw [setCall_self]; rfl)
  | keep => exact Or.inl (by rw [setCall_self]; rfl)
  | drop => exact Or.inl (by rw [setCall_self]; rfl)
  | decrement => exact Or.inr (setCall_self _ _ _)
  | push => exact Or.inr (setCall_self _ _ _)
  | _ => cases hreleases

section Steps

variable {s : Client n} {pool : HttpConnectionPool n} {w : Fin n}

/-- A step of the clock, or of a server. -/
theorem act_outside (h : s.Sound) {l : PoolLabel n} (hpool : s.pool.next cfg l = some pool)
    (hcaller : caller l = none) : Act cfg s (s.setPool pool) none l where
  pool    := hpool
  caller  := fun v hv => by rw [hcaller] at hv; cases hv
  request := fun _ _ => rfl
  wire    := fun _ _ _ => rfl
  release := fun v p hl => by rw [hl] at hcaller; cases hcaller
  marked  := h.marked
  link    := fun w hw => by cases hw
  mine    := fun w hw => by cases hw

/-- `doRequest` asks for a connection. -/
theorem act_doRequest (h : s.Sound) {length : Nat}
    (hpool : s.pool.next cfg (.getConnection w) = some pool) :
    Act cfg s ((s.setPool pool).setRequest w (.getting length)) (some w) (.getConnection w) where
  pool    := hpool
  caller  := fun v hv => hv
  request := fun v hv => setRequest_ne hv
  wire    := fun _ _ _ => rfl
  release := fun v p hl => by cases hl
  marked  := h.marked
  link    := fun v hv => by
    obtain rfl := Option.some.inj hv
    -- getConnection has begun and has made nothing yet
    unfold Link
    rw [setRequest_self]
    cases h.books.next_cases hpool with
    | get _ hcall =>
      refine ⟨?_, fun p hp => ?_⟩
      · show ((s.pool.setCall w _).call w).gets = true
        rw [setCall_self]
        rfl
      · change p ∈ ((s.pool.setCall w _).call w).fresh at hp
        rw [setCall_self] at hp
        cases hp
  mine    := fun v hv q hq => by
    obtain rfl := Option.some.inj hv
    rw [setRequest_self] at hq
    cases hq

/-- `getConnection` goes on. -/
theorem act_getting (h : s.Sound) {length : Nat} (hrequest : s.request w = .getting length)
    (hpool : s.pool.next cfg (.step w) = some pool)
    (hgets : (pool.call w).gets = true) (hfresh : ∀ p ∈ (pool.call w).fresh, (s.wire p).Clean) :
    Act cfg s (s.setPool pool) (some w) (.step w) where
  pool    := hpool
  caller  := fun v hv => hv
  request := fun _ _ => rfl
  wire    := fun _ _ _ => rfl
  release := fun v p hl => by cases hl
  marked  := h.marked
  link    := fun v hv => by
    obtain rfl := Option.some.inj hv
    unfold Link
    rw [show (s.setPool pool).request w = .getting length from hrequest]
    exact ⟨hgets, hfresh⟩
  mine    := fun v hv q hq => Or.inl hq

/-- `getConnection` returns a connection. -/
theorem act_got (h : s.Sound) {length : Nat} {p : Ptr} {reused : Bool}
    (hpool : s.pool.next cfg (.step w) = some pool) (hcall : s.pool.call w = .returning p reused)
    (hclean : (s.wire p).Clean) (hidle : pool.call w = .idle) (hhanded : p ∈ pool.handed) :
    Act cfg s ((s.setPool pool).setRequest w (.sending p length length)) (some w) (.step w) where
  pool    := hpool
  caller  := fun v hv => hv
  request := fun v hv => setRequest_ne hv
  wire    := fun _ _ _ => rfl
  release := fun v p hl => by cases hl
  marked  := h.marked
  link    := fun v hv => by
    obtain rfl := Option.some.inj hv
    unfold Link
    rw [setRequest_self]
    obtain ⟨habandoned, hcut⟩ := (h.marked p).of_clean hclean
    refine ⟨hidle, hhanded, Int.le_refl _, ⟨hclean.2.2, habandoned, hcut⟩, ?_⟩
    rw [if_pos rfl]
    exact ⟨hclean.1, hclean.2.1⟩
  mine    := fun v hv q hq => by
    obtain rfl := Option.some.inj hv
    rw [setRequest_self] at hq
    obtain rfl := Option.some.inj hq
    -- the call held the connection alone, so no other request has it
    have howns : p ∈ (s.pool.call w).owns := by
      rw [hcall]
      exact List.mem_singleton.mpr rfl
    exact Or.inr fun hmem => (h.books.owns_only howns).1 (List.mem_append_right _ hmem)

/-- `getConnection` has failed, or `ReleasePtr` is over. -/
theorem act_done (h : s.Sound) {l : PoolLabel n} (hpool : s.pool.next cfg l = some pool)
    (hcaller : caller l = some w) (hl : ∀ v p, l ≠ .release v p) (hidle : pool.call w = .idle) :
    Act cfg s ((s.setPool pool).setRequest w .idle) (some w) l where
  pool    := hpool
  caller  := fun v hv => by rw [← hcaller, hv]
  request := fun v hv => setRequest_ne hv
  wire    := fun _ _ _ => rfl
  release := fun v p h => absurd h (hl v p)
  marked  := h.marked
  link    := fun v hv => by
    obtain rfl := Option.some.inj hv
    unfold Link
    rw [setRequest_self]
    exact hidle
  mine    := fun v hv q hq => by
    obtain rfl := Option.some.inj hv
    rw [setRequest_self] at hq
    cases hq

/-- The connection is on its way back. -/
theorem act_releasing (h : s.Sound) (hrequest : s.request w = .releasing)
    (hpool : s.pool.next cfg (.step w) = some pool) (hreleases : (pool.call w).releases = true) :
    Act cfg s (s.setPool pool) (some w) (.step w) where
  pool    := hpool
  caller  := fun v hv => hv
  request := fun _ _ => rfl
  wire    := fun _ _ _ => rfl
  release := fun v p hl => by cases hl
  marked  := h.marked
  link    := fun v hv => by
    obtain rfl := Option.some.inj hv
    unfold Link
    rw [show (s.setPool pool).request w = .releasing from hrequest]
    exact hreleases
  mine    := fun v hv q hq => Or.inl hq

/-- A new connection has a clean wire. -/
theorem act_made (h : s.Sound) {length : Nat} {p : Ptr} (hrequest : s.request w = .getting length)
    (hpool : s.pool.next cfg (.connect w (some p)) = some pool) :
    Act cfg s ((s.setPool pool).setWire p {}) (some w) (.connect w (some p)) := by
  cases h.books.next_cases hpool with
  | made _ _ _ hfresh =>
    refine ⟨hpool, fun v hv => hv, fun _ _ => rfl, ?_, ?_, ?_, ?_, fun v hv q hq => Or.inl hq⟩
    · intro q hlive _
      exact if_neg fun heq : q = p => hfresh (heq ▸ hlive)
    · intro v q hl
      cases hl
    · intro q
      show Marked (if q = p then {} else s.wire q)
      split
      · exact .of_unmarked rfl rfl
      · exact h.marked q
    · intro v hv
      obtain rfl := Option.some.inj hv
      unfold Link
      rw [show ((s.setPool _).setWire p {}).request w = .getting length from hrequest]
      refine ⟨?_, fun q hq => ?_⟩
      · show (((_ : HttpConnectionPool n).setCall w (.created p)).call w).gets = true
        rw [setCall_self]
        rfl
      · change q ∈ (((_ : HttpConnectionPool n).setCall w (.created p)).call w).fresh at hq
        rw [setCall_self] at hq
        obtain rfl := Option.some.inj hq
        -- nothing has gone over a new connection
        show (if p = p then ({} : Wire) else s.wire p).Clean
        rw [if_pos rfl]
        exact ⟨rfl, rfl, rfl⟩

/-- The connection is given back as it is. -/
theorem act_release (h : s.Sound) {p : Ptr} {result : Option Error}
    (hrequest : s.request w = .leaving p result)
    (hpool : s.pool.next cfg (.release w p) = some pool) :
    Act cfg s ((s.setPool pool).setRequest w .releasing) (some w) (.release w p) := by
  have hlink := h.link w
  unfold Link at hlink
  rw [hrequest] at hlink
  cases h.books.next_cases hpool with
  | release _ _ hcall hmem =>
    refine ⟨hpool, fun v hv => hv, fun v hv => setRequest_ne hv, fun _ _ _ => rfl, ?_, h.marked,
      ?_, ?_⟩
    · intro v q hl
      obtain ⟨rfl, rfl⟩ := PoolLabel.release.inj hl
      exact ⟨by rw [hrequest]; rfl, hlink.2.2⟩
    · intro v hv
      obtain rfl := Option.some.inj hv
      unfold Link
      rw [setRequest_self]
      -- the deleter of the shared_ptr calls ReleasePtr, and the request is over
      show (((_ : HttpConnectionPool n).setCall w (.releasing p)).call w).releases = true
      rw [setCall_self]
      rfl
    · intro v hv q hq
      obtain rfl := Option.some.inj hv
      rw [setRequest_self] at hq
      cases hq

/-! ## Section 5: Writing and reading -/

/-- A request works on its connection `p`. -/
theorem act_exchange {t : Client n} (h : s.Sound) {l : PoolLabel n} {p : Ptr}
    (hconn : (s.request w).conn = some p) (hpool : s.pool.next cfg l = some t.pool)
    (hcaller : caller l = none) (hrequest : ∀ v, v ≠ w → t.request v = s.request v)
    (hwire : ∀ q, q ≠ p → t.wire q = s.wire q) (hmarked : Marked (t.wire p)) (hlink : t.Link w)
    (hnew : (t.request w).conn = some p) : Act cfg s t (some w) l where
  pool    := hpool
  caller  := fun v hv => by rw [hcaller] at hv; cases hv
  request := fun v hv => hrequest v fun heq => hv (by rw [heq])
  wire    := fun q _ hq => hwire q fun heq => hq w rfl (by rw [heq]; exact hconn)
  release := fun v q hl => by rw [hl] at hcaller; cases hcaller
  marked  := fun q => by
    by_cases hq : q = p
    · rw [hq]
      exact hmarked
    · rw [hwire q hq]
      exact h.marked q
  link    := fun v hv => by
    obtain rfl := Option.some.inj hv
    exact hlink
  mine    := fun v hv q hq => by
    obtain rfl := Option.some.inj hv
    rw [hnew] at hq
    exact Or.inl (by rw [hconn, hq])

/-- The exchange ends with `result`. -/
theorem act_leave (h : s.Sound) {l : PoolLabel n} {p : Ptr} {result : Option Error} {wire : Wire}
    (hconn : (s.request w).conn = some p) (hpool : s.pool.next cfg l = some pool)
    (hcaller : caller l = none) (hidle : pool.call w = .idle) (hhanded : p ∈ pool.handed)
    (hmarked : Marked { wire with failed := wire.failed || decide (result ≠ some .OK) })
    (hdisposed : (result = some .OK ∧ wire.Clean) ∨ (pool.obj p).isConnected = false ∨
      wire.abandoned = true ∨ wire.cut = true) :
    Act cfg s ((s.setPool pool).leave w p result wire) (some w) l := by
  have hwire : ((s.setPool pool).leave w p result wire).wire p =
      { wire with failed := wire.failed || decide (result ≠ some .OK) } := if_pos rfl
  refine act_exchange h hconn hpool hcaller (fun v hv => if_neg hv) (fun q hq => if_neg hq) ?_ ?_ ?_
  · rw [hwire]
    exact hmarked
  · unfold Link
    rw [show ((s.setPool pool).leave w p result wire).request w = .leaving p result from
      setRequest_self _ _ _]
    refine ⟨hidle, hhanded, ?_⟩
    unfold Disposed
    rw [hwire]
    -- a request is left answered, or with a connection that is closed or marked
    rcases hdisposed with ⟨rfl, hwhole, hanswered, hfailed⟩ | hclosed | habandoned | hcut
    · refine Or.inl ⟨hwhole, hanswered, ?_⟩
      show (wire.failed || decide (some Error.OK ≠ some Error.OK)) = false
      rw [hfailed]
      rfl
    · exact Or.inr (Or.inl hclosed)
    · exact Or.inr (Or.inr (Or.inl habandoned))
    · exact Or.inr (Or.inr (Or.inr hcut))
  · rw [show ((s.setPool pool).leave w p result wire).request w = .leaving p result from
      setRequest_self _ _ _]
    rfl

/-- Nothing happens in the pool. -/
theorem pool_still (cfg : Limits) (s : HttpConnectionPool n) :
    s.next cfg (.clock s.clock) = some s := rfl

/-- The exchange is given up, and the connection stays as it is. -/
theorem act_abandon (h : s.Sound) {p : Ptr} {result : Option Error}
    (hconn : (s.request w).conn = some p) (hresult : result ≠ some .OK) :
    Act cfg s (s.abandon w p result) (some w) (.clock s.pool.clock) := by
  obtain ⟨hidle, hhanded⟩ := h.held hconn
  refine act_leave h hconn (pool_still cfg s.pool) rfl hidle hhanded
    ⟨fun _ => ?_, (h.marked p).2⟩ (Or.inr (Or.inr (Or.inl rfl)))
  rw [decide_eq_true hresult, Bool.or_true]

/-- `sendRequest` comes to its end. -/
theorem act_sent (h : s.Sound) {p : Ptr} {left : Int} {length : Nat} {rt : Int}
    (hrequest : s.request w = .sending p left length)
    (hrt : 0 < rt → Awaiting (s.wire p)) :
    Act cfg s (s.sent w p rt) (some w) (.clock s.pool.clock) := by
  have hconn : (s.request w).conn = some p := by rw [hrequest]; rfl
  obtain ⟨hidle, hhanded⟩ := h.held hconn
  unfold sent
  split
  · exact act_abandon h hconn (by decide)
  · -- an error, nothing written, or all of it
    split
    · exact act_abandon h hconn (by decide)
    · refine act_exchange h hconn (pool_still cfg s.pool) rfl (fun v hv => if_neg hv)
        (fun _ _ => rfl) (h.marked p) ?_ ?_
      · unfold Link
        rw [setRequest_self]
        exact ⟨hidle, hhanded, hrt (by omega)⟩
      · rw [setRequest_self]
        rfl

/-- The counts after one call of `write`. -/
theorem Sending.write {wire : Wire} {left : Int} {length : Nat} {rt : Int}
    (h : Sending wire left length) (hleft : 0 < left) (hrt : 0 < rt) :
    Sending (wire.write left length rt) (left - rt) length := by
  obtain ⟨hbound, hgood, hcount⟩ := h
  refine ⟨by omega, hgood, ?_⟩
  rw [if_neg (show ¬ left - rt = length by omega)]
  simp only [Wire.write]
  -- the first call of `write` begins the request
  by_cases hfirst : left = length
  · rw [if_pos hfirst] at hcount ⊢
    refine ⟨by omega, ?_⟩
    split <;> omega
  · rw [if_neg hfirst] at hcount ⊢
    rw [if_neg (show ¬ left ≤ 0 by omega)] at hcount
    refine ⟨hcount.1, ?_⟩
    split <;> omega

/-- One call of `write`. -/
theorem act_write (h : s.Sound) {p : Ptr} {left : Int} {length : Nat} {rt : Int}
    (hrequest : s.request w = .sending p left length) (hleft : 0 < left) :
    Act cfg s (s.write w p left length rt) (some w) (.clock s.pool.clock) := by
  unfold write
  split
  · exact act_sent h hrequest fun hpos => by omega
  · rename_i hrt
    have hlink := h.link w
    unfold Link at hlink
    rw [hrequest] at hlink
    obtain ⟨hidle, hhanded, hsending⟩ := hlink
    -- a part of the request has gone out, the rest is still to go
    have hnew := hsending.write hleft (show 0 < rt by omega)
    have hwire : ((s.setWire p ((s.wire p).write left length rt)).setRequest w
        (.sending p (left - rt) length)).wire p = (s.wire p).write left length rt := if_pos rfl
    refine act_exchange h (by rw [hrequest]; rfl) (pool_still cfg s.pool) rfl
      (fun v hv => if_neg hv) (fun q hq => if_neg hq) ?_ ?_ ?_
    · rw [hwire]
      exact .of_unmarked hnew.good.2.1 hnew.good.2.2
    · unfold Link
      rw [setRequest_self]
      refine ⟨hidle, hhanded, ?_⟩
      rw [hwire]
      exact hnew
    · rw [setRequest_self]
      rfl

/-- All of it was written. -/
theorem act_written (h : s.Sound) {p : Ptr} {left : Int} {length : Nat}
    (hrequest : s.request w = .sending p left length) (hleft : left ≤ 0) :
    Act cfg s (s.sent w p (wrap32 length)) (some w) (.clock s.pool.clock) := by
  refine act_sent h hrequest fun hpos => ?_
  have hlink := h.link w
  unfold Link at hlink
  rw [hrequest] at hlink
  obtain ⟨_, _, hbound, hgood, hcount⟩ := hlink
  -- an empty request counts as an error
  have hlength : length ≠ 0 := by
    rintro rfl
    exact absurd hpos (by decide)
  rw [if_neg (by omega), if_pos hleft] at hcount
  exact ⟨hgood, hcount.2, hcount.1⟩

/-- `recvResponse` closes the connection and gives up. -/
theorem act_giveUp (h : s.Sound) {t : Client n} {p : Ptr} (hrequest : s.request w = .receiving p)
    (hnext : s.giveUp cfg w p = some t) : Act cfg s t (some w) (.close p) := by
  obtain ⟨pool, hpool, rfl⟩ := Option.map_eq_some_iff.mp hnext
  have hconn : (s.request w).conn = some p := by rw [hrequest]; rfl
  obtain ⟨hidle, hhanded⟩ := h.held hconn
  have hmarked := h.marked p
  cases h.books.next_cases hpool with
  -- a closed connection counts as done with
  | close _ hlive =>
    refine act_leave h hconn hpool rfl hidle hhanded ⟨fun habandoned => ?_, hmarked.2⟩
      (Or.inr (Or.inl ?_))
    · show ((s.wire p).failed || true) = true
      rw [Bool.or_true]
    · exact congrArg HttpConnection.isConnected (if_pos rfl)

/-- The response is read. -/
theorem act_receive (h : s.Sound) {p : Ptr} (hrequest : s.request w = .receiving p) (left : Nat) :
    Act cfg s (s.receive w p left) (some w) (.clock s.pool.clock) := by
  have hconn : (s.request w).conn = some p := by rw [hrequest]; rfl
  have hlink := h.link w
  unfold Link at hlink
  rw [hrequest] at hlink
  obtain ⟨hidle, hhanded, ⟨hfailed, habandoned, hcut⟩, hwhole, hanswered⟩ := hlink
  unfold receive
  -- the response was the whole of what the server sent, or cuts it
  by_cases hleft : left = 0
  · rw [if_pos hleft]
    refine act_leave h hconn (pool_still cfg s.pool) rfl hidle hhanded ?_
      (Or.inl ⟨rfl, hwhole, hanswered, hfailed⟩)
    exact .of_unmarked habandoned hcut
  · rw [if_neg hleft]
    refine act_leave h hconn (pool_still cfg s.pool) rfl hidle hhanded ?_
      (Or.inr (Or.inr (Or.inr rfl)))
    refine ⟨fun h => ?_, fun _ => ?_⟩
    · change (s.wire p).abandoned = true at h
      rw [habandoned] at h
      cases h
    show (s.wire p).answered < (s.wire p).begun
    omega

/-! ## Section 6: Runs -/

/-- What a step of a client is for the pool. -/
def poolLabel (s : Client n) : ClientLabel n → PoolLabel n
  | .clock now     => .clock now
  | .close p       => .close p
  | .doRequest w _ => .getConnection w
  | .step w        => .step w
  | .connect w ptr => .connect w ptr
  | .write _ _     => .clock s.pool.clock
  | .written _     => .clock s.pool.clock
  | .read w rt v   =>
    match s.request w with
    | .receiving p => if rt ≤ 0 ∨ v = .invalid then .close p else .clock s.pool.clock
    | _            => .clock s.pool.clock
  | .release w     =>
    match s.request w with
    | .leaving p _ => .release w p
    | _            => .clock s.pool.clock

/-- A step of the pool for a client. -/
theorem act_step (h : s.Sound) (hclean : s.Reusable) {t : Client n}
    (hnext : s.next cfg (.step w) = some t) : Act cfg s t (some w) (.step w) := by
  have hlink := h.link w
  unfold Link at hlink
  simp only [next] at hnext
  split at hnext
  · -- inside of `getConnection`
    rename_i length hrequest
    rw [hrequest] at hlink
    obtain ⟨hgets, hfresh⟩ := hlink
    obtain ⟨pool, hpool, rfl⟩ := Option.map_eq_some_iff.mp hnext
    have hstep := advance_cases (fun _ hp => h.books.mem_live hp) rfl hpool
    rcases gets_advance hstep hgets with ⟨hne, hgets', hfresh'⟩ | ⟨p, reused, hcall, hidle, hhanded⟩
    · have hact := act_getting h hrequest hpool hgets' fun p hp => hfresh p (hfresh' p hp)
      split
      · rename_i p reused hcall
        exact absurd hcall (hne p reused)
      · exact hact
    · have hp : (s.wire p).Clean := by
        cases reused with
        -- a reused connection was found clean
        | true => exact hclean p (.call w (by rw [hcall]; rfl))
        | false => exact hfresh p (by rw [hcall]; rfl)
      rw [hcall]
      exact act_got h hpool hcall hp hidle hhanded
  · -- inside of `ReleasePtr`
    rename_i hrequest
    rw [hrequest] at hlink
    obtain ⟨pool, hpool, rfl⟩ := Option.map_eq_some_iff.mp hnext
    have hstep := advance_cases (fun _ hp => h.books.mem_live hp) rfl hpool
    split
    · rename_i hidle
      exact act_done h hpool rfl (fun v p hl => by cases hl) hidle
    · rename_i hbusy
      exact act_releasing h hrequest hpool ((releases_advance hstep hlink).resolve_right hbusy)
  · cases hnext

/-- `connect` answers. -/
theorem act_connect (h : s.Sound) {ptr : Option Ptr} {t : Client n}
    (hnext : s.next cfg (.connect w ptr) = some t) : Act cfg s t (some w) (.connect w ptr) := by
  simp only [next] at hnext
  split at hnext
  · rename_i length hrequest
    obtain ⟨pool, hpool, rfl⟩ := Option.map_eq_some_iff.mp hnext
    cases ptr with
    | none =>
      refine act_done h hpool rfl (fun v p hl => by cases hl) ?_
      cases h.books.next_cases hpool with
      | failed => exact setCall_self _ _ _
    | some p => exact act_made h hrequest hpool
  · cases hnext

/-- `read` answers. -/
theorem act_read (h : s.Sound) {rt : Int} {v : Verdict} {t : Client n}
    (hnext : s.next cfg (.read w rt v) = some t) :
    Act cfg s t (some w) (s.poolLabel (.read w rt v)) := by
  simp only [next] at hnext
  split at hnext
  · rename_i p hrequest
    obtain ⟨_, hnext⟩ := Option.ite_none_right_eq_some.mp hnext
    simp only [poolLabel, hrequest]
    split at hnext
    · rename_i hrt
      rw [if_pos (Or.inl hrt)]
      exact act_giveUp h hrequest hnext
    · rename_i hrt
      cases v with
      | more =>
        obtain rfl := Option.some.inj hnext
        rw [if_neg (by simp [hrt])]
        exact act_exchange h (by rw [hrequest]; rfl) (pool_still cfg s.pool) rfl (fun _ _ => rfl)
          (fun _ _ => rfl) (h.marked p) (h.link w) (by rw [hrequest]; rfl)
      | invalid =>
        rw [if_pos (Or.inr rfl)]
        exact act_giveUp h hrequest hnext
      -- nobody closes the connection
      | exception =>
        obtain rfl := Option.some.inj hnext
        rw [if_neg (by simp [hrt])]
        exact act_abandon h (by rw [hrequest]; rfl) (by decide)
      | response left =>
        obtain rfl := Option.some.inj hnext
        rw [if_neg (by simp [hrt])]
        exact act_receive h hrequest left
  · cases hnext

/-- Every step is an act of one fiber or of nobody. -/
theorem act_next (h : s.Sound) (hclean : s.Reusable) {t : Client n} {l : ClientLabel n}
    (hnext : s.next cfg l = some t) : ∃ who, Act cfg s t who (s.poolLabel l) := by
  -- one lemma for each label
  cases l with
  | clock now =>
    simp only [next] at hnext
    obtain ⟨pool, hpool, rfl⟩ := Option.map_eq_some_iff.mp hnext
    exact ⟨none, act_outside h hpool rfl⟩
  | close p =>
    simp only [next] at hnext
    obtain ⟨pool, hpool, rfl⟩ := Option.map_eq_some_iff.mp hnext
    exact ⟨none, act_outside h hpool rfl⟩
  | doRequest w length =>
    simp only [next] at hnext
    split at hnext
    · obtain ⟨pool, hpool, rfl⟩ := Option.map_eq_some_iff.mp hnext
      exact ⟨some w, act_doRequest h hpool⟩
    · cases hnext
  | step w => exact ⟨some w, act_step h hclean hnext⟩
  | connect w ptr => exact ⟨some w, act_connect h hnext⟩
  | write w rt =>
    simp only [next] at hnext
    split at hnext
    · rename_i hrequest
      obtain ⟨⟨hleft, _⟩, heq⟩ := Option.ite_none_right_eq_some.mp hnext
      obtain rfl := Option.some.inj heq
      exact ⟨some w, act_write h hrequest hleft⟩
    · cases hnext
  | written w =>
    simp only [next] at hnext
    split at hnext
    · rename_i hrequest
      obtain ⟨hleft, heq⟩ := Option.ite_none_right_eq_some.mp hnext
      obtain rfl := Option.some.inj heq
      exact ⟨some w, act_written h hrequest hleft⟩
    · cases hnext
  | read w rt v => exact ⟨some w, act_read h hnext⟩
  | release w =>
    simp only [next] at hnext
    split at hnext
    · rename_i hrequest
      obtain ⟨pool, hpool, rfl⟩ := Option.map_eq_some_iff.mp hnext
      refine ⟨some w, ?_⟩
      simp only [poolLabel, hrequest]
      exact act_release h hrequest hpool
    · cases hnext

end Steps

/-- Asked of the steps of the pool only. -/
theorem rejects_iff {s : Client n} {l : ClientLabel n} :
    rejects cfg s l = true ↔ ∀ w p, s.poolLabel l = .step w → s.pool.call w = .limiting p →
      ((s.wire p).abandoned || (s.wire p).cut) = true → expired cfg s.pool p = true := by
  -- only a step of a worker at the test can keep a connection
  cases l with
  | step w =>
    simp only [rejects, poolLabel]
    constructor
    · intro hrejects v p hl hcall hmarks
      obtain rfl := PoolLabel.step.inj hl
      rw [hcall] at hrejects
      simp only [hmarks, Bool.not_true, Bool.false_or] at hrejects
      exact hrejects
    · intro hall
      split
      · rename_i p hcall
        by_cases hmarks : ((s.wire p).abandoned || (s.wire p).cut) = true
        · rw [hall w p rfl hcall hmarks, Bool.or_true]
        · rw [Bool.eq_false_iff.mpr hmarks]
          rfl
      · rfl
  | read w rt v =>
    refine iff_of_true rfl fun u p hl => ?_
    simp only [poolLabel] at hl
    repeat' split at hl
    all_goals cases hl
  | release w =>
    refine iff_of_true rfl fun u p hl => ?_
    simp only [poolLabel] at hl
    repeat' split at hl
    all_goals cases hl
  | _ => exact iff_of_true rfl fun u p hl => by cases hl

/-- Nothing has been handed out. -/
theorem sound_start (n clock : Nat) : (start n clock).Sound := by
  refine ⟨books_start n clock, fun _ => .of_unmarked rfl rfl, fun _ => rfl, ?_, ?_⟩
  · intro v w p hv
    cases hv
  · intro x p hat
    cases hat with
    | conns mem => cases mem
    | handed mem => cases mem
    | call w stage => cases stage

/-- And nothing is in the pool. -/
theorem reusable_start (n clock : Nat) : (start n clock).Reusable := by
  intro p hat
  cases hat with
  | conns mem => cases mem
  | call w stage => cases stage

end Client

/-- In all states of a run the connections in the pool are clean exactly if
    `ReleasePtr` never keeps one whose exchange was given up without `close()`
    or of whose last response bytes are still to come. -/
theorem reusable_iff {s₀ s : Client n} {tr : List (Client n × ClientLabel n)}
    (hinit : (clients cfg n).init s₀) (hrun : Run (clients cfg n) s₀ tr s) :
    (∀ u ∈ states tr s, u.Reusable) ↔ ∀ p ∈ tr, Client.rejects cfg p.1 p.2 = true := by
  obtain ⟨clock, rfl⟩ := hinit
  exact hrun.states_iff (I := Client.Sound) (P := Client.Reusable)
    (G := fun u l => Client.rejects cfg u l = true)
    (fun u l t hu hclean hnext => by
      obtain ⟨who, hact⟩ := Client.act_next hu hclean hnext
      exact hact.sound hu)
    (fun u l t hu hclean hnext => by
      obtain ⟨who, hact⟩ := Client.act_next hu hclean hnext
      rw [Client.rejects_iff]
      exact hact.reusable hu hclean)
    (Client.sound_start n clock) (Client.reusable_start n clock)

/-- A request with its response, and the connection is taken again. -/
theorem reusable_iff_answered :
    ∃ (tr : List (Client 1 × ClientLabel 1)) (s : Client 1),
      Run (clients ⟨10, 30000, 5⟩ 1) (Client.start 1 1000000) tr s ∧
        (∀ u ∈ states tr s, u.Reusable) ∧ s.pool.call 0 = .returning 7 true := by
  let labels : List (ClientLabel 1) :=
    [.doRequest 0 100, .step 0, .step 0, .step 0, .step 0, .connect 0 (some 7), .step 0, .step 0,
     .write 0 40, .write 0 60, .written 0, .read 0 20 .more, .read 0 30 (.response 0), .release 0,
     .step 0, .step 0, .step 0, .step 0, .doRequest 0 100, .step 0, .step 0, .step 0, .step 0]
  have hrun := (clients ⟨10, 30000, 5⟩ 1).run_of_exec (s := Client.start 1 1000000) labels
    (by decide)
  exact ⟨_, _, hrun, (reusable_iff ⟨1000000, rfl⟩ hrun).mpr (by decide), by decide⟩

/-- `send` fails after 40 of 100 bytes, and the connection is taken again. -/
theorem partial_reused :
    ∃ (tr : List (Client 1 × ClientLabel 1)) (s : Client 1),
      Run (clients ⟨10, 30000, 5⟩ 1) (Client.start 1 1000000) tr s ∧
        s.pool.call 0 = .returning 7 true ∧ (s.wire 7).whole < (s.wire 7).begun ∧
        (s.wire 7).failed = true := by
  let labels : List (ClientLabel 1) :=
    [.doRequest 0 100, .step 0, .step 0, .step 0, .step 0, .connect 0 (some 7), .step 0, .step 0,
     .write 0 40, .write 0 (-1), .release 0, .step 0, .step 0, .step 0, .step 0,
     .doRequest 0 100, .step 0, .step 0, .step 0, .step 0]
  have hrun := (clients ⟨10, 30000, 5⟩ 1).run_of_exec (s := Client.start 1 1000000) labels
    (by decide)
  exact ⟨_, _, hrun, by decide, by decide, by decide⟩

end Http

end MNSER
