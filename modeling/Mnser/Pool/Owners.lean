import Mathlib.Data.Fintype.Basic
import Mnser.Framework.Custody
import Mnser.Pool.Model

/-! # Who owns a connection

    Every allocated connection is at exactly one place: in `m_conns`, with a
    user, or in the variables of a call that is under way.  What `m_total` is
    off by, the calls under way are going to add or subtract. -/

namespace MNSER

namespace Http

open LTS

variable {cfg : Limits} {n : Nat}

/-! ## Section 1: The books -/

/-- The connections in the variables of a call. -/
def Call.owns : Call → List Ptr
  | .idle                       => []
  | .getting _                  => []
  | .scanning _ invalid_conns   => invalid_conns
  | .unlocking invalid_conns p  => invalid_conns ++ p.toList
  | .deleting invalid_conns _ p => invalid_conns ++ p.toList
  | .connecting                 => []
  | .created p                  => [p]
  | .returning p _              => [p]
  | .releasing p                => [p]
  | .checking p                 => [p]
  | .limiting p                 => [p]
  | .dropping p                 => [p]
  | .uncounting                 => []
  | .pushing p                  => [p]

/-- What the call is going to take off `m_total` for connections that are
    deleted, or to add for one that exists. -/
def Call.owed : Call → Int
  | .deleting invalid_conns size _ => size - invalid_conns.length
  | .created _                     => -1
  | .uncounting                    => 1
  | _                              => 0

namespace HttpConnectionPool

/-- What caller `w` can reach. -/
def reach (s : HttpConnectionPool n) (w : Fin n) : List Ptr :=
  s.conns ++ s.handed ++ (s.call w).owns

/-- All places where pointers are kept. -/
def places (s : HttpConnectionPool n) : Multiset Ptr :=
  ↑(s.conns ++ s.handed) + ∑ w, ((s.call w).owns : Multiset Ptr)

structure Books (s : HttpConnectionPool n) : Prop where
  custody : Custody.Once s.live s.places
  total   : s.total = wrap32 (s.live.card + ∑ w, (s.call w).owed)
  safe    : s.dangling = false

/-- What a fiber can reach, and what is with the others. -/
theorem places_eq (s : HttpConnectionPool n) (w : Fin n) :
    s.places = ↑(s.reach w) +
      Custody.others (fun c => (Call.owns c : Multiset Ptr)) s.call w := by
  unfold places reach
  rw [Custody.sum_eq_others (fun c => (Call.owns c : Multiset Ptr)) s.call w, ← add_assoc,
    Multiset.coe_add]

/-- What a fiber can reach has not been deleted. -/
theorem Books.mem_live {s : HttpConnectionPool n} (h : s.Books) {w : Fin n} {p : Ptr}
    (hp : p ∈ s.reach w) : p ∈ s.live := by
  apply h.custody.mem_live
  rw [places_eq s w]
  exact Multiset.mem_add.mpr (Or.inl (Multiset.mem_coe.mpr hp))

/-! ## Section 2: A caller's turn -/

/-- What the next step of caller `w` can do, when all pointers in its reach
    point to connections. -/
inductive Advance (cfg : Limits) (s : HttpConnectionPool n) (w : Fin n) :
    Call → HttpConnectionPool n → Prop where
  | lock (now_ms : Nat) (free : s.mutex = none) :
      Advance cfg s w (.getting now_ms) ({ s with mutex := some w }.setCall w (.scanning now_ms []))
  | exhaust (now_ms : Nat) (invalid : List Ptr) (empty : s.conns = []) :
      Advance cfg s w (.scanning now_ms invalid) (s.setCall w (.unlocking invalid none))
  | reject (now_ms : Nat) (invalid : List Ptr) (p : Ptr) (rest : List Ptr)
      (conns : s.conns = p :: rest)
      (test : (s.obj p).isConnected = true →
        now_ms < add64 (s.obj p).createTime cfg.maxAliveTime.toNat) :
      Advance cfg s w (.scanning now_ms invalid)
        ({ s with conns := rest }.setCall w (.scanning now_ms (invalid ++ [p])))
  | choose (now_ms : Nat) (invalid : List Ptr) (p : Ptr) (rest : List Ptr)
      (conns : s.conns = p :: rest) (test : (s.obj p).isConnected = true) :
      Advance cfg s w (.scanning now_ms invalid)
        ({ s with conns := rest }.setCall w (.unlocking invalid (some p)))
  | unlock (invalid : List Ptr) (ptr : Option Ptr) :
      Advance cfg s w (.unlocking invalid ptr)
        ({ s with mutex := none }.setCall w (.deleting invalid invalid.length ptr))
  | delete (p : Ptr) (rest : List Ptr) (size : Nat) (ptr : Option Ptr) :
      Advance cfg s w (.deleting (p :: rest) size ptr)
        ({ s with live := s.live.erase p }.setCall w (.deleting rest size ptr))
  | subtract (size : Nat) (ptr : Option Ptr) :
      Advance cfg s w (.deleting [] size ptr)
        ({ s with total := wrap32 (s.total - size) }.setCall w
          (ptr.elim .connecting fun p => .returning p true))
  | increment (p : Ptr) :
      Advance cfg s w (.created p)
        ({ s with total := wrap32 (s.total + 1) }.setCall w (.returning p false))
  | hand (p : Ptr) (reused : Bool) :
      Advance cfg s w (.returning p reused) ({ s with handed := p :: s.handed }.setCall w .idle)
  | count (p : Ptr) :
      Advance cfg s w (.releasing p)
        ((s.setObj p { s.obj p with request := add64 (s.obj p).request 1 }).setCall w (.checking p))
  | closed (p : Ptr) (test : (s.obj p).isConnected = false) :
      Advance cfg s w (.checking p) (s.setCall w (.dropping p))
  | connected (p : Ptr) (test : (s.obj p).isConnected = true) :
      Advance cfg s w (.checking p) (s.setCall w (.limiting p))
  | expire (p : Ptr)
      (test : add64 (s.obj p).createTime cfg.maxAliveTime.toNat ≥ s.clock ∨
        (s.obj p).request ≥ cfg.maxRequest.toNat) :
      Advance cfg s w (.limiting p) (s.setCall w (.dropping p))
  | keep (p : Ptr) (young : add64 (s.obj p).createTime cfg.maxAliveTime.toNat < s.clock)
      (below : (s.obj p).request < cfg.maxRequest.toNat) :
      Advance cfg s w (.limiting p) (s.setCall w (.pushing p))
  | drop (p : Ptr) :
      Advance cfg s w (.dropping p) ({ s with live := s.live.erase p }.setCall w .uncounting)
  | decrement :
      Advance cfg s w .uncounting ({ s with total := wrap32 (s.total - 1) }.setCall w .idle)
  | push (p : Ptr) (free : s.mutex = none) :
      Advance cfg s w (.pushing p) ({ s with conns := s.conns ++ [p] }.setCall w .idle)

/-- A connection that has not been deleted may be looked at. -/
theorem touch_of_live {s : HttpConnectionPool n} {p : Ptr} (h : p ∈ s.live) :
    s.touch p = s := if_pos h

/-- And it may be deleted. -/
theorem delete_of_live {s : HttpConnectionPool n} {p : Ptr} (h : p ∈ s.live) :
    s.delete p = { s with live := s.live.erase p } := by
  unfold delete
  rw [touch_of_live h]

/-- The loop of `getConnection` over the pool. -/
theorem advance_scan {s : HttpConnectionPool n} {w : Fin n} {now_ms : Nat} {invalid : List Ptr}
    (hlive : ∀ p ∈ s.conns, p ∈ s.live) :
    Advance cfg s w (.scanning now_ms invalid) (s.scan cfg w now_ms invalid) := by
  unfold scan
  cases hconns : s.conns with
  | nil => exact .exhaust now_ms invalid hconns
  | cons p rest =>
    have hp : p ∈ s.live := hlive p (hconns ▸ List.mem_cons_self)
    simp only [touch_of_live hp]
    split
    · rename_i hclosed
      refine .reject now_ms invalid p rest hconns fun htest => ?_
      rw [htest] at hclosed
      cases hclosed
    · rename_i hconnected
      split
      · rename_i hyoung
        exact .reject now_ms invalid p rest hconns fun _ => hyoung
      · exact .choose now_ms invalid p rest hconns (by simpa using hconnected)

/-- The places a call can go on to. -/
theorem advance_cases {s t : HttpConnectionPool n} {w : Fin n}
    (hlive : ∀ p ∈ s.reach w, p ∈ s.live) {c : Call} (hcall : s.call w = c)
    (hnext : s.advance cfg w c = some t) : Advance cfg s w c t := by
  have hconns : ∀ p ∈ s.conns, p ∈ s.live := fun p hp =>
    hlive p (List.mem_append_left _ (List.mem_append_left _ hp))
  -- no step touches an object that was deleted
  have howns : ∀ p ∈ c.owns, p ∈ s.live := fun p hp =>
    hlive p (List.mem_append_right _ (by rw [hcall]; exact hp))
  cases c with
  | idle => cases hnext
  | connecting => cases hnext
  | getting now_ms =>
    obtain ⟨hfree, heq⟩ := Option.ite_none_right_eq_some.mp hnext
    obtain rfl := Option.some.inj heq
    exact .lock now_ms hfree
  | scanning now_ms invalid =>
    obtain rfl := Option.some.inj hnext
    exact advance_scan hconns
  | unlocking invalid ptr =>
    obtain rfl := Option.some.inj hnext
    exact .unlock invalid ptr
  | deleting invalid size ptr =>
    cases invalid with
    | cons p rest =>
      obtain rfl := Option.some.inj hnext
      rw [delete_of_live (howns p List.mem_cons_self)]
      exact .delete p rest size ptr
    | nil =>
      cases ptr with
      | none =>
        obtain rfl := Option.some.inj hnext
        exact .subtract size none
      | some p =>
        obtain rfl := Option.some.inj hnext
        exact .subtract size (some p)
  | created p =>
    obtain rfl := Option.some.inj hnext
    exact .increment p
  | returning p reused =>
    obtain rfl := Option.some.inj hnext
    rw [touch_of_live (howns p List.mem_cons_self)]
    exact .hand p reused
  | releasing p =>
    obtain rfl := Option.some.inj hnext
    rw [touch_of_live (howns p List.mem_cons_self)]
    exact .count p
  | checking p =>
    simp only [advance, touch_of_live (howns p List.mem_cons_self)] at hnext
    split at hnext
    · rename_i htest
      obtain rfl := Option.some.inj hnext
      exact .closed p (by simpa using htest)
    · rename_i htest
      obtain rfl := Option.some.inj hnext
      exact .connected p (by simpa using htest)
  | limiting p =>
    simp only [advance, touch_of_live (howns p List.mem_cons_self)] at hnext
    split at hnext
    · rename_i htest
      obtain rfl := Option.some.inj hnext
      exact .expire p htest
    · rename_i htest
      rw [not_or] at htest
      obtain rfl := Option.some.inj hnext
      exact .keep p (Nat.lt_of_not_le htest.1) (Nat.lt_of_not_le htest.2)
  | dropping p =>
    obtain rfl := Option.some.inj hnext
    rw [delete_of_live (howns p List.mem_cons_self)]
    exact .drop p
  | uncounting =>
    obtain rfl := Option.some.inj hnext
    exact .decrement
  | pushing p =>
    obtain ⟨hfree, heq⟩ := Option.ite_none_right_eq_some.mp hnext
    obtain rfl := Option.some.inj heq
    exact .push p hfree

/-- What a step can do. -/
inductive Next (cfg : Limits) (s : HttpConnectionPool n) :
    PoolLabel n → HttpConnectionPool n → Prop where
  | clock (now : Nat) : Next cfg s (.clock now) { s with clock := now }
  | close (p : Ptr) (live : p ∈ s.live) :
      Next cfg s (.close p) (s.setObj p { s.obj p with isConnected := false })
  | get (w : Fin n) (call : s.call w = .idle) :
      Next cfg s (.getConnection w) (s.setCall w (.getting s.clock))
  | release (w : Fin n) (p : Ptr) (call : s.call w = .idle) (mem : p ∈ s.handed) :
      Next cfg s (.release w p) ({ s with handed := s.handed.erase p }.setCall w (.releasing p))
  | step (w : Fin n) (t : HttpConnectionPool n) (advance : Advance cfg s w (s.call w) t) :
      Next cfg s (.step w) t
  | failed (w : Fin n) (call : s.call w = .connecting) :
      Next cfg s (.connect w none) (s.setCall w .idle)
  | made (w : Fin n) (p : Ptr) (call : s.call w = .connecting) (fresh : p ∉ s.live) :
      Next cfg s (.connect w (some p))
        (({ s with live := insert p s.live }.setObj p { isConnected := true }).setCall w
          (.created p))

/-- What each label can do. -/
theorem Books.next_cases {s t : HttpConnectionPool n} {l : PoolLabel n} (h : s.Books)
    (hnext : s.next cfg l = some t) : Next cfg s l t := by
  -- the objects a step touches are alive, by the books
  cases l with
  | clock now =>
    obtain rfl := Option.some.inj hnext
    exact .clock now
  | close p =>
    obtain ⟨hlive, heq⟩ := Option.ite_none_right_eq_some.mp hnext
    obtain rfl := Option.some.inj heq
    exact .close p hlive
  | getConnection w =>
    obtain ⟨hcall, heq⟩ := Option.ite_none_right_eq_some.mp hnext
    obtain rfl := Option.some.inj heq
    exact .get w hcall
  | release w p =>
    obtain ⟨⟨hcall, hmem⟩, heq⟩ := Option.ite_none_right_eq_some.mp hnext
    obtain rfl := Option.some.inj heq
    exact .release w p hcall hmem
  | step w => exact .step w t (advance_cases (fun _ hp => h.mem_live hp) rfl hnext)
  | connect w ptr =>
    obtain ⟨hcall, heq⟩ := Option.ite_none_right_eq_some.mp hnext
    cases ptr with
    | none =>
      obtain rfl := Option.some.inj heq
      exact .failed w hcall
    | some p =>
      obtain ⟨hfresh, heq⟩ := Option.ite_none_left_eq_some.mp heq
      obtain rfl := Option.some.inj heq
      exact .made w p hcall hfresh

/-- What a step of caller `w` that ends in `c` does to the books. -/
structure Turn (s t : HttpConnectionPool n) (w : Fin n) (c : Call) : Prop where
  call    : t.call = fun v => if v = w then c else s.call v
  custody : Custody.Step s.live ↑(s.reach w) t.live ↑(t.conns ++ t.handed ++ c.owns)
  total   : t.total = s.total ∧ (t.live.card : Int) + c.owed = s.live.card + (s.call w).owed ∨
              t.total = wrap32 (s.total + (t.live.card + c.owed - s.live.card - (s.call w).owed))
  safe    : t.dangling = s.dangling

/-- A turn of one fiber keeps the books. -/
theorem Turn.books {s t : HttpConnectionPool n} {w : Fin n} {c : Call} (hturn : Turn s t w c)
    (h : s.Books) : t.Books := by
  have hc : t.call w = c := by rw [hturn.call]; exact if_pos rfl
  -- the calls of the other users hold and owe what they did
  have howns : Custody.others (fun c => (Call.owns c : Multiset Ptr)) t.call w =
      Custody.others (fun c => (Call.owns c : Multiset Ptr)) s.call w := by
    rw [hturn.call, Custody.others_update]
  have howed : Custody.others Call.owed t.call w = Custody.others Call.owed s.call w := by
    rw [hturn.call, Custody.others_update]
  refine ⟨?_, ?_, by rw [hturn.safe, h.safe]⟩
  · have hstep := hturn.custody.frame
      (Custody.others (fun c => (Call.owns c : Multiset Ptr)) s.call w)
    rw [← places_eq, ← howns] at hstep
    have hplaces := places_eq t w
    unfold reach at hplaces
    rw [hc] at hplaces
    rw [← hplaces] at hstep
    exact h.custody.step hstep
  · have hsum := Custody.sum_eq_others Call.owed t.call w
    have hsum' := Custody.sum_eq_others Call.owed s.call w
    rw [hc, howed] at hsum
    have htotal := h.total
    rcases hturn.total with ⟨hsame, hcard⟩ | hadd
    · rw [hsame, htotal]
      congr 1
      omega
    · rw [hadd, htotal, wrap32_add]
      congr 1
      omega

/-- A step that leaves `m_total` and the objects alone. -/
theorem Turn.pass {s t : HttpConnectionPool n} {w : Fin n} {c : Call}
    (hcall : t.call = fun v => if v = w then c else s.call v)
    (hperm : (t.conns ++ t.handed ++ c.owns).Perm (s.reach w)) (hlive : t.live = s.live)
    (htotal : t.total = s.total) (howed : c.owed = (s.call w).owed)
    (hsafe : t.dangling = s.dangling) : Turn s t w c :=
  ⟨hcall, .pass (Multiset.coe_eq_coe.mpr hperm) hlive,
    Or.inl ⟨htotal, by rw [hlive, howed]⟩, hsafe⟩

/-- A step that only changes `m_total`, by `d`. -/
theorem Turn.count {s t : HttpConnectionPool n} {w : Fin n} {c : Call} {d : Int}
    (hcall : t.call = fun v => if v = w then c else s.call v)
    (hplaces : t.conns ++ t.handed ++ c.owns = s.reach w) (hlive : t.live = s.live)
    (htotal : t.total = wrap32 (s.total + d)) (howed : c.owed = (s.call w).owed + d)
    (hsafe : t.dangling = s.dangling) : Turn s t w c := by
  refine ⟨hcall, .pass (by rw [hplaces]) hlive, Or.inr ?_, hsafe⟩
  rw [htotal, hlive, howed]
  congr 1
  omega

/-- A connection moves from the pool to those to be deleted. -/
theorem perm_pop (x : Ptr) (rest handed invalid : List Ptr) :
    (rest ++ handed ++ (invalid ++ [x])).Perm (x :: rest ++ handed ++ invalid) := by
  rw [← List.append_assoc]
  exact List.perm_append_singleton x _

/-- `delete p` of a connection the caller has. -/
theorem Turn.burn {s : HttpConnectionPool n} {w : Fin n} {p : Ptr} {c : Call}
    (hlive : ∀ q ∈ s.reach w, q ∈ s.live) (howns : (s.call w).owns = p :: c.owns)
    (howed : c.owed = (s.call w).owed + 1) :
    Turn s ({ s with live := s.live.erase p }.setCall w c) w c := by
  have hperm : (s.reach w).Perm (p :: (s.conns ++ s.handed ++ c.owns)) := by
    unfold reach
    rw [howns]
    exact List.perm_middle
  have hp : p ∈ s.live := hlive p (hperm.mem_iff.mpr List.mem_cons_self)
  refine ⟨rfl, .burn p (Multiset.coe_eq_coe.mpr hperm) rfl, Or.inl ⟨rfl, ?_⟩, rfl⟩
  have hcard := Finset.card_erase_add_one hp
  show ((s.live.erase p).card : Int) + c.owed = _
  omega

/-- A step inside of a call is a turn. -/
theorem turn_advance {s t : HttpConnectionPool n} {w : Fin n}
    (hlive : ∀ p ∈ s.reach w, p ∈ s.live) (hstep : Advance cfg s w (s.call w) t) :
    ∃ c, Turn s t w c := by
  have hreach : s.reach w = s.conns ++ s.handed ++ (s.call w).owns := rfl
  generalize hcall : s.call w = c at hstep hreach
  have howed : (s.call w).owed = c.owed := congrArg Call.owed hcall
  -- a step passes its objects on, deletes one, or settles what it owes to m_total
  cases hstep with
  | lock => exact ⟨_, .pass rfl (by rw [hreach]; rfl) rfl rfl howed.symm rfl⟩
  | exhaust now_ms invalid =>
    refine ⟨_, .pass rfl ?_ rfl rfl howed.symm rfl⟩
    rw [hreach]
    show (s.conns ++ s.handed ++ (invalid ++ [])).Perm (s.conns ++ s.handed ++ invalid)
    rw [List.append_nil]
  | reject now_ms invalid p rest hconns =>
    refine ⟨_, .pass rfl ?_ rfl rfl howed.symm rfl⟩
    rw [hreach, hconns]
    exact perm_pop p rest s.handed invalid
  | choose now_ms invalid p rest hconns =>
    refine ⟨_, .pass rfl ?_ rfl rfl howed.symm rfl⟩
    rw [hreach, hconns]
    exact perm_pop p rest s.handed invalid
  | unlock invalid ptr =>
    refine ⟨_, .pass rfl (by rw [hreach]; rfl) rfl rfl ?_ rfl⟩
    rw [howed]
    show (invalid.length : Int) - invalid.length = 0
    omega
  | delete p rest size ptr =>
    refine ⟨_, .burn hlive (by rw [hcall]; rfl) ?_⟩
    rw [howed]
    show (size : Int) - rest.length = size - (p :: rest).length + 1
    rw [List.length_cons]
    omega
  | subtract size ptr =>
    have hzero : (0 : Int) = (s.call w).owed + -size := by
      rw [howed]
      show (0 : Int) = (size : Int) - ([] : List Ptr).length + -size
      simp
    cases ptr with
    | none => exact ⟨_, .count rfl (by rw [hreach]; rfl) rfl rfl hzero rfl⟩
    | some p => exact ⟨_, .count rfl (by rw [hreach]; rfl) rfl rfl hzero rfl⟩
  | increment p => exact ⟨_, .count (d := 1) rfl (by rw [hreach]; rfl) rfl rfl (by rw [howed]; rfl) rfl⟩
  | hand p reused =>
    refine ⟨_, .pass rfl ?_ rfl rfl howed.symm rfl⟩
    rw [hreach]
    show (s.conns ++ p :: s.handed ++ []).Perm (s.conns ++ s.handed ++ [p])
    rw [List.append_nil]
    exact List.perm_middle.trans (List.perm_append_singleton p _).symm
  | count => exact ⟨_, .pass rfl (by rw [hreach]; rfl) rfl rfl howed.symm rfl⟩
  | closed => exact ⟨_, .pass rfl (by rw [hreach]; rfl) rfl rfl howed.symm rfl⟩
  | connected => exact ⟨_, .pass rfl (by rw [hreach]; rfl) rfl rfl howed.symm rfl⟩
  | expire => exact ⟨_, .pass rfl (by rw [hreach]; rfl) rfl rfl howed.symm rfl⟩
  | keep => exact ⟨_, .pass rfl (by rw [hreach]; rfl) rfl rfl howed.symm rfl⟩
  | drop p => exact ⟨_, .burn hlive (by rw [hcall]; rfl) (by rw [howed]; rfl)⟩
  | decrement => exact ⟨_, .count (d := -1) rfl (by rw [hreach]; rfl) rfl rfl (by rw [howed]; rfl) rfl⟩
  | push p =>
    refine ⟨_, .pass rfl ?_ rfl rfl howed.symm rfl⟩
    rw [hreach]
    show (s.conns ++ [p] ++ s.handed ++ []).Perm (s.conns ++ s.handed ++ [p])
    rw [List.append_nil, List.append_assoc, List.append_assoc]
    exact List.Perm.append_left _ List.perm_append_comm

/-- A new connection is with the fiber that made it. -/
theorem turn_made {s : HttpConnectionPool n} {w : Fin n} {p : Ptr}
    (hcall : s.call w = .connecting) (hfresh : p ∉ s.live) :
    Turn s (({ s with live := insert p s.live }.setObj p { isConnected := true }).setCall w
      (.created p)) w (.created p) := by
  refine ⟨rfl, .mint p hfresh ?_ rfl, Or.inl ⟨rfl, ?_⟩, rfl⟩
  · unfold reach
    rw [hcall]
    show ((s.conns ++ s.handed ++ [p] : List Ptr) : Multiset Ptr) =
      p ::ₘ ((s.conns ++ s.handed ++ [] : List Ptr) : Multiset Ptr)
    rw [List.append_nil, Multiset.cons_coe]
    exact Multiset.coe_eq_coe.mpr (List.perm_append_singleton p _)
  · have hcard := Finset.card_insert_of_notMem hfresh
    rw [hcall]
    show ((insert p s.live).card : Int) + -1 = s.live.card + 0
    omega

/-- Every step keeps the books. -/
theorem books_next {s t : HttpConnectionPool n} {l : PoolLabel n} (h : s.Books)
    (hnext : s.next cfg l = some t) : t.Books := by
  have hreach : ∀ {w c}, s.call w = c → s.reach w = s.conns ++ s.handed ++ c.owns :=
    fun hcall => by rw [← hcall]; rfl
  cases h.next_cases hnext with
  | clock => exact ⟨h.custody, h.total, h.safe⟩
  | close => exact ⟨h.custody, h.total, h.safe⟩
  | get w hcall =>
    exact Turn.books (.pass rfl (by rw [hreach hcall]; rfl) rfl rfl (by rw [hcall]; rfl) rfl) h
  | release w p hcall hp =>
    refine Turn.books (s := s) (.pass rfl ?_ rfl rfl (by rw [hcall]; rfl) rfl) h
    rw [hreach hcall]
    show (s.conns ++ s.handed.erase p ++ [p]).Perm (s.conns ++ s.handed ++ [])
    rw [List.append_nil, List.append_assoc]
    exact List.Perm.append_left _
      ((List.perm_append_singleton p _).trans (List.perm_cons_erase hp).symm)
  | step w t hstep =>
    obtain ⟨_, hturn⟩ := turn_advance (fun _ hp => h.mem_live hp) hstep
    exact hturn.books h
  | failed w hcall =>
    exact Turn.books (.pass rfl (by rw [hreach hcall]; rfl) rfl rfl (by rw [hcall]; rfl) rfl) h
  | made w p hcall hfresh => exact (turn_made hcall hfresh).books h

/-- The pool is empty. -/
theorem books_start (n clock : Nat) : (start n clock).Books := by
  refine ⟨?_, ?_, rfl⟩
  · show ((([] : List Ptr) : Multiset Ptr) + ∑ _ : Fin n, ((([] : List Ptr)) : Multiset Ptr)) = _
    simp [start]
  · show (0 : Int) = wrap32 (((∅ : Finset Ptr).card : Int) + ∑ _ : Fin n, (0 : Int))
    simp [wrap32]

/-! ## Section 3: Between the calls -/

/-- No pool call is in progress. -/
def Quiescent (s : HttpConnectionPool n) : Prop := ∀ w, s.call w = .idle

instance (s : HttpConnectionPool n) : Decidable s.Quiescent :=
  inferInstanceAs (Decidable (∀ _, _))

/-- `m_total` is the number of connections, as an `int32_t`, and each of them is
    with a user or once in `m_conns`. -/
structure Accounted (s : HttpConnectionPool n) : Prop where
  total  : s.total = wrap32 s.live.card
  exact  : s.live.card < 2 ^ 31 → s.total = s.live.card
  either : ∀ p ∈ s.live, s.handed.count p = 1 ∧ p ∉ s.conns ∨
             p ∉ s.handed ∧ s.conns.count p = 1
  alive  : ∀ p, p ∈ s.handed ∨ p ∈ s.conns → p ∈ s.live

/-- When nobody is in a call every connection is in the pool or with a user. -/
theorem Books.accounted {s : HttpConnectionPool n} (h : s.Books) (hquiet : s.Quiescent) :
    s.Accounted := by
  have hplaces : s.places = ↑(s.conns ++ s.handed) := by
    unfold places
    simp [hquiet _, Call.owns]
  have htotal : s.total = wrap32 s.live.card := by
    rw [h.total]
    simp [hquiet _, Call.owed]
  refine ⟨htotal, ?_, ?_, ?_⟩
  · intro hsmall
    rw [htotal]
    exact wrap32_of_lt (by omega) (by omega)
  · intro p hp
    have hone := h.custody.count_eq_one hp
    rw [hplaces, Multiset.coe_count, List.count_append] at hone
    by_cases hconns : p ∈ s.conns
    · have := List.count_pos_iff.mpr hconns
      exact Or.inr ⟨List.count_eq_zero.mp (by omega), by omega⟩
    · have := List.count_eq_zero.mpr hconns
      exact Or.inl ⟨by omega, hconns⟩
  · intro p hp
    apply h.custody.mem_live
    rw [hplaces, Multiset.mem_coe, List.mem_append]
    exact hp.symm

end HttpConnectionPool

open HttpConnectionPool

/-- In every run, no connection is used, returned or deleted after its deletion,
    and between the calls all connections are accounted for. -/
theorem pool_accounted {s₀ s : HttpConnectionPool n}
    {tr : List (HttpConnectionPool n × PoolLabel n)} (hinit : (pools cfg n).init s₀)
    (hrun : Run (pools cfg n) s₀ tr s) :
    s.dangling = false ∧ (s.Quiescent → s.Accounted) := by
  obtain ⟨clock, rfl⟩ := hinit
  have hbooks := hrun.invariant (I := Books) (fun _ _ _ h hnext => books_next h hnext)
    (books_start n clock)
  exact ⟨hbooks.safe, hbooks.accounted⟩

/-- One caller makes a connection and gives it back; the next one finds it
    closed, deletes it and makes another. -/
theorem pool_accounted_reuse :
    ∃ (tr : List (HttpConnectionPool 2 × PoolLabel 2)) (s : HttpConnectionPool 2),
      Run (pools ⟨10, 30000, 5⟩ 2) (start 2 100000) tr s ∧ s.Accounted ∧
        s.handed = [9] ∧ s.total = 1 := by
  let labels : List (PoolLabel 2) :=
    [.getConnection 0, .step 0, .step 0, .step 0, .step 0, .connect 0 (some 7), .step 0, .step 0,
     .release 0 7, .step 0, .step 0, .step 0, .step 0,
     .getConnection 1, .step 1, .close 7, .step 1, .step 1, .step 1, .step 1, .step 1,
     .connect 1 (some 9), .step 1, .step 1]
  have hrun := (pools ⟨10, 30000, 5⟩ 2).run_of_exec (s := start 2 100000) labels (by decide)
  exact ⟨_, _, hrun, (pool_accounted ⟨100000, rfl⟩ hrun).2 (by decide), by decide,
    by decide⟩

end Http

end MNSER
