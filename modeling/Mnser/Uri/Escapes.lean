import Mnser.Http.RequestRoundTrip
import Mnser.Uri.RoundTrip

/-! # The text of the components

    The grammar of a URI and that of a request line are written down twice, in
    two scanners.  What the first one lets through as a path, a query or a
    fragment is text that the second one reads. -/

namespace MNSER

namespace UriParser

open Http (Bytes hexDigits)
open Http.HttpParser (Escaped pathChar queryChar PlainValue)
open Ranges Scanner

/-! ## Section 1: Loops over escaped text -/

/-- The transitions of the states of a loop: its bytes lead back, `%` leads to `s₁`,
    and the loop is left by other bytes. -/
def loops (H : StateClass) (s₁ : Nat) (cls : ByteClass) (stops : Bytes) : Bool :=
  checkRows H fun lo hi t _ => (List.range' lo (hi + 1 - lo)).all fun n =>
    stops.any (fun x => x.toNat == n) || (n == 37 && t == s₁) ||
      (cls.any fun i => i.1 ≤ n && n ≤ i.2) && among H t

/-- Only hexadecimal digits lead on. -/
def needsHex (s : Nat) (T : Nat → Bool) : Bool :=
  checkRows [(s, s)] fun lo hi t _ => T t && (List.range' lo (hi + 1 - lo)).all fun n =>
    hexDigits.any fun i => i.1 ≤ n && n ≤ i.2

/-- A loop of the table: the states between two characters, and those behind
    `%` and behind its first digit. -/
structure Loop (H : StateClass) (s₁ s₂ : Nat) (cls : ByteClass) (stops : Bytes) : Prop where
  plain  : loops H s₁ cls stops = true
  high   : needsHex s₁ (· == s₂) = true
  low    : needsHex s₂ (among H) = true
  inside : among H s₁ = false ∧ among H s₂ = false

theorem path_loop : Loop [(513, 513)] 243 244 pathChar [63, 35] := by
  constructor <;> decide +kernel

theorem query_loop : Loop [(456, 457)] 7 8 queryChar [35] := by
  constructor <;> decide +kernel

theorem fragment_loop : Loop [(453, 454)] 1 2 queryChar [] := by
  constructor <;> decide +kernel

variable {H : StateClass} {s s₁ s₂ t : Nat} {cls : ByteClass} {stops w xs ys : Bytes} {c : UInt8}
  {acts : List Action}

theorem loops_step (h : loops H s₁ cls stops = true) (hs : among H s = true) (hc : c ∉ stops)
    (hstep : step s c = .next t acts) :
    (c = 37 ∧ t = s₁) ∨ (cls.has c = true ∧ among H t = true) := by
  obtain ⟨lo, hi, hlo, hhi, hP⟩ := checkRows_step h hs hstep
  have hbyte := List.all_eq_true.mp hP c.toNat (List.mem_range'_1.mpr (by omega))
  rw [Bool.or_eq_true, Bool.or_eq_true, Bool.and_eq_true, Bool.and_eq_true, beq_iff_eq,
    beq_iff_eq] at hbyte
  rcases hbyte with (hstop | ⟨hpercent, ht⟩) | ⟨hclass, ht⟩
  · obtain ⟨x, hx, heq⟩ := List.any_eq_true.mp hstop
    rw [UInt8.toNat_inj.mp (beq_iff_eq.mp heq)] at hx
    exact absurd hx hc
  · exact Or.inl ⟨UInt8.toNat_inj.mp hpercent, ht⟩
  · exact Or.inr ⟨hclass, ht⟩

theorem needsHex_step {T : Nat → Bool} (h : needsHex s T = true) (hstep : step s c = .next t acts) :
    hexDigits.has c = true ∧ T t = true := by
  obtain ⟨lo, hi, hlo, hhi, hP⟩ := checkRows_step h (by simp [among]) hstep
  rw [Bool.and_eq_true] at hP
  exact ⟨List.all_eq_true.mp hP.2 c.toNat (List.mem_range'_1.mpr (by omega)), hP.1⟩

/-- What is read on the way round the loop is escaped text, and so is what is
    read to the end of an escape. -/
theorem Loop.escaped (h : Loop H s₁ s₂ cls stops) (ht : among H t = true) :
    ∀ {w : Bytes}, (∀ c ∈ w, c ∉ stops) →
      (∀ s, among H s = true → walk step s w = some t → Escaped cls w) ∧
      (walk step s₁ w = some t → Escaped cls (37 :: w)) ∧
      (walk step s₂ w = some t → ∀ a, hexDigits.has a = true → Escaped cls (37 :: a :: w)) := by
  intro w
  induction w with
  | nil =>
    intro _
    refine ⟨fun _ _ _ => .nil, fun hwalk => ?_, fun hwalk => ?_⟩
    · obtain rfl := Option.some.inj hwalk
      rw [h.inside.1] at ht
      cases ht
    · obtain rfl := Option.some.inj hwalk
      rw [h.inside.2] at ht
      cases ht
  | cons c cs ih =>
    intro hw
    obtain ⟨hhome, hhigh, hlow⟩ := ih fun x hx => hw x (List.mem_cons_of_mem _ hx)
    refine ⟨fun s hs hwalk => ?_, fun hwalk => ?_, fun hwalk a ha => ?_⟩
    · obtain ⟨u, acts, hstep, hrest⟩ := walk_cons hwalk
      rcases loops_step h.plain hs (hw c List.mem_cons_self) hstep with ⟨rfl, rfl⟩ | ⟨hclass, hu⟩
      · exact hhigh hrest
      · exact .plain hclass (hhome u hu hrest)
    · obtain ⟨u, acts, hstep, hrest⟩ := walk_cons hwalk
      obtain ⟨hhex, hu⟩ := needsHex_step h.high hstep
      obtain rfl := beq_iff_eq.mp hu
      exact hlow hrest c hhex
    · obtain ⟨u, acts, hstep, hrest⟩ := walk_cons hwalk
      obtain ⟨hhex, hu⟩ := needsHex_step h.low hstep
      exact .escape ha hhex (hhome u hu hrest)

/-! ## Section 2: The parts of an accepted text -/

/-- In front of the query and the fragment. -/
def inFront : StateClass := [(3, 6), (9, 452), (455, 455), (458, 560)]

/-- What leaves the front and the loops, and for where. -/
structure Ways : Prop where
  front_stays : leadsBut inFront [63, 35] (among inFront) = true
  front_query : leadsOn inFront [63] (· == 456) = true
  front_hash : leadsOn inFront [35] (· == 453) = true
  query_hash : leadsOn [(456, 457)] [35] (· == 453) = true
  fragment_stays : leadsBut [(1, 2), (453, 454)] [] (among [(1, 2), (453, 454)]) = true
  blank : leadsOn [(0, 560)] [0, 9, 10, 13, 32, 127] (fun _ => false) = true

theorem ways : Ways := by
  constructor <;> decide +kernel

theorem lt_of_step (hstep : step s c = .next t acts) : s < rows.length := by
  by_contra hlt
  unfold step at hstep
  rw [List.getD_eq_default _ _ (Nat.not_lt.mp hlt)] at hstep
  cases hstep

theorem length_rows : rows.length = 561 := by decide +kernel

/-- In an accepted text there are no bytes that would end a line or a value. -/
theorem Accepts.visible : ∀ {xs : Bytes} {s : Nat}, Accepts s xs →
    ∀ c ∈ xs, c ∉ ([0, 9, 10, 13, 32, 127] : Bytes) := by
  intro xs
  induction xs with
  | nil =>
    intro s _ c hc
    cases hc
  | cons x xs ih =>
    intro s h c hc hbad
    obtain ⟨t, acts, hstep, hrest⟩ := h.cons
    rcases List.mem_cons.mp hc with rfl | hc
    · have hlt := lt_of_step hstep
      rw [length_rows] at hlt
      have hs : among [(0, 560)] s = true := by
        simp only [among, List.any_cons, List.any_nil, Bool.or_false, Bool.and_eq_true, Nat.ble_eq]
        omega
      have hnone := leadsOn_step ways.blank hs hbad hstep
      cases hnone
    · exact ih hrest c hc hbad

/-- A text that ends in a loop, or goes on with a byte that leaves it, is not in
    the middle of an escape. -/
theorem home_of_accepts {H pct : StateClass} (hall : ∀ s, among (pct ++ H) s = true →
      among pct s = true ∨ among H s = true)
    (hinside : leadsOn pct stops (fun _ => false) = true)
    (hunfinished : ∀ s, among pct s = true → s < uri_parser_first_final)
    (ht : among (pct ++ H) t = true) (haccepts : Accepts t ys) (hys : ∀ c ∈ ys.head?, c ∈ stops) :
    among H t = true := by
  refine (hall t ht).resolve_left fun hpct => ?_
  cases ys with
  | nil =>
    obtain ⟨u, hwalk, hfinal⟩ := haccepts
    obtain rfl := Option.some.inj hwalk
    exact absurd (hunfinished t hpct) (Nat.not_lt.mpr hfinal)
  | cons c cs =>
    obtain ⟨u, acts, hstep, _⟩ := haccepts.cons
    have hnone := leadsOn_step hinside hpct (hys c rfl) hstep
    cases hnone

/-- A part of an accepted text that is read in a loop. -/
theorem Loop.part (h : Loop H s₁ s₂ cls stops) (pct : StateClass)
    (hstays : leadsBut (pct ++ H) stops (among (pct ++ H)) = true)
    (hinside : leadsOn pct stops (fun _ => false) = true)
    (hunfinished : ∀ s, among pct s = true → s < uri_parser_first_final)
    (hs : among H s = true) (hw : ∀ c ∈ w, c ∉ stops) (hys : ∀ c ∈ ys.head?, c ∈ stops)
    (haccepts : Accepts s (w ++ ys)) :
    Escaped cls w ∧ ∃ t, among H t = true ∧ Accepts t ys := by
  have hor : ∀ s, among (pct ++ H) s = true → among pct s = true ∨ among H s = true := by
    intro s hs
    rw [among, List.any_append, Bool.or_eq_true] at hs
    exact hs
  have hsall : among (pct ++ H) s = true := by
    rw [among, List.any_append, Bool.or_eq_true]
    exact Or.inr hs
  obtain ⟨t, hwalk, hrest⟩ := accepts_append.mp haccepts
  have ht := home_of_accepts hor hinside hunfinished (walk_stays hstays hw hsall hwalk) hrest hys
  exact ⟨(h.escaped ht hw).1 s hs hwalk, t, ht, hrest⟩

/-- The query and the fragment, from the end of the path on. -/
theorem tail_escaped {T query fragment : Bytes} (htail : Tail T query fragment)
    (hs : among inFront s = true) (haccepts : Accepts s T) :
    Escaped queryChar query ∧ Escaped queryChar fragment := by
  -- no text ends inside an escape, whose states are not final
  have hunfinished : ∀ lo hi : Nat, hi < uri_parser_first_final → ∀ s, among [(lo, hi)] s = true →
      s < uri_parser_first_final := by
    intro lo hi hlt s hs
    simp only [among, List.any_cons, List.any_nil, Bool.or_false, Bool.and_eq_true,
      Nat.ble_eq] at hs
    omega
  have hfragment : ∀ {f : Bytes}, Accepts 453 f → Escaped queryChar f := by
    intro f haccepts
    rw [← List.append_nil f] at haccepts
    exact (fragment_loop.part [(1, 2)] ways.fragment_stays (by decide +kernel)
      (hunfinished 1 2 (by decide)) rfl (by simp) (by simp) haccepts).1
  have hquery : ∀ {q ys : Bytes}, 35 ∉ q → (∀ c ∈ ys.head?, c ∈ ([35] : Bytes)) →
      Accepts 456 (q ++ ys) → Escaped queryChar q ∧
        ∃ t, among [(456, 457)] t = true ∧ Accepts t ys := by
    intro q ys hq hys haccepts
    refine query_loop.part [(7, 8)] classes.query_stays classes.query_ends
      (hunfinished 7 8 (by decide)) rfl ?_ hys haccepts
    intro c hc hstop
    rw [List.mem_singleton.mp hstop] at hc
    exact hq hc
  cases htail with
  | none => exact ⟨.nil, .nil⟩
  | fragment =>
    obtain ⟨t, acts, hstep, hrest⟩ := haccepts.cons
    have ht := leadsOn_step ways.front_hash hs List.mem_cons_self hstep
    obtain rfl := beq_iff_eq.mp ht
    exact ⟨.nil, hfragment hrest⟩
  | query hq =>
    obtain ⟨t, acts, hstep, hrest⟩ := haccepts.cons
    have ht := leadsOn_step ways.front_query hs List.mem_cons_self hstep
    obtain rfl := beq_iff_eq.mp ht
    rw [← List.append_nil query] at hrest
    exact ⟨(hquery hq (by simp) hrest).1, .nil⟩
  | both hq =>
    obtain ⟨t, acts, hstep, hrest⟩ := haccepts.cons
    have ht := leadsOn_step ways.front_query hs List.mem_cons_self hstep
    obtain rfl := beq_iff_eq.mp ht
    obtain ⟨hescaped, t, ht, hrest⟩ := hquery hq (by simp) hrest
    obtain ⟨t', acts, hstep, hrest⟩ := hrest.cons
    have ht' := leadsOn_step ways.query_hash ht List.mem_cons_self hstep
    obtain rfl := beq_iff_eq.mp ht'
    exact ⟨hescaped, hfragment hrest⟩

/-- In front of a path there is no `?` or `#`. -/
theorem behindPath_append (pre r : Bytes) (hpre : ∀ c ∈ pre, c ∉ ([63, 35] : Bytes)) :
    behindPath (pre ++ r) = behindPath r := by
  refine List.dropWhile_append_of_pos fun c hc => ?_
  simpa [notIn] using hpre c hc

theorem behind_splitScheme (s : Bytes) : behindPath (splitScheme s).2 = behindPath s := by
  cases hscheme : (splitScheme s).1 with
  | none =>
    have hsame : (splitScheme s).2 = s := by
      unfold splitScheme at hscheme ⊢
      split at hscheme
      · dsimp only at hscheme ⊢
        split at hscheme
        · rename_i hempty
          rw [if_pos hempty]
        · cases hscheme
      · rfl
    rw [hsame]
  | some name =>
    obtain ⟨hs, _, hname⟩ := splitScheme_spec hscheme
    have hfront : s = (name ++ [58]) ++ (splitScheme s).2 := by
      rw [List.append_assoc]
      exact hs
    have hbehind := behindPath_append (name ++ [58]) (splitScheme s).2 ?_
    · rw [← hfront] at hbehind
      exact hbehind.symm
    · intro c hc hstop
      rcases List.mem_append.mp hc with hc | hc
      · refine hname c hc ?_
        simp only [List.mem_cons, List.not_mem_nil, or_false] at hstop ⊢
        rcases hstop with rfl | rfl <;> decide
      · rw [List.mem_singleton.mp hc] at hstop
        revert hstop
        decide

theorem behind_splitAuthority (s : Bytes) : behindPath (splitAuthority s).2 = behindPath s := by
  cases hauthority : (splitAuthority s).1 with
  | none =>
    have hsame : (splitAuthority s).2 = s := by
      unfold splitAuthority at hauthority ⊢
      split at hauthority
      · cases hauthority
      · rfl
    rw [hsame]
  | some a =>
    obtain ⟨hs, ha, _⟩ := splitAuthority_spec hauthority
    have hbehind := behindPath_append (47 :: 47 :: a) (splitAuthority s).2 ?_
    · rw [List.cons_append, List.cons_append, ← hs] at hbehind
      exact hbehind.symm
    · intro c hc hstop
      simp only [List.mem_cons, List.not_mem_nil, or_false] at hc hstop
      rcases hc with rfl | rfl | hc
      · revert hstop
        decide
      · revert hstop
        decide
      · refine ha c hc ?_
        rcases hstop with rfl | rfl <;> decide

theorem components_tail (s : Bytes) :
    (components s).query = queryOf (behindPath s) ∧
      (components s).fragment = fragmentOf (behindPath s) := by
  have hbehind : behindPath (splitAuthority (splitScheme s).2).2 = behindPath s := by
    rw [behind_splitAuthority, behind_splitScheme]
  unfold components
  dsimp only
  rw [hbehind]
  exact ⟨rfl, rfl⟩

/-- A path behind an authority begins with a slash. -/
theorem Parts.path {s name a r : Bytes} (h : Parts s name a r)
    (haccepts : Accepts uri_parser_start s) :
    pathOf r = [] ∨ ∃ cs, pathOf r = 47 :: cs ∧ Escaped pathChar cs := by
  obtain ⟨_, t, _, hrest, hin, _⟩ := h.walks haccepts
  cases r with
  | nil => exact Or.inl rfl
  | cons c cs =>
    have hc := h.rest c rfl
    simp only [List.mem_cons, List.not_mem_nil, or_false] at hc
    rcases hc with rfl | hstop
    · right
      refine ⟨pathOf cs, pathOf_next (by decide) (by decide), ?_⟩
      obtain ⟨t', acts, hstep, hrest⟩ := hrest.cons
      have ht := leadsOn_step classes.authority_slash hin List.mem_cons_self hstep
      obtain rfl := beq_iff_eq.mp ht
      rw [← List.takeWhile_append_dropWhile (p := notIn [63, 35]) (l := cs)] at hrest
      refine (path_loop.part [(243, 244)] classes.path_stays classes.path_ends ?_ rfl
        mem_takeWhile (head_dropWhile _ _) hrest).1
      intro s hs
      simp only [among, List.any_cons, List.any_nil, Bool.or_false, Bool.and_eq_true,
        Nat.ble_eq] at hs
      unfold uri_parser_first_final
      omega
    · left
      exact pathOf_stop hstop.symm

/-! ## Section 3: The bytes of a host -/

theorem mem_splitHost {w : Bytes} {c : UInt8} (hc : c ∈ (splitHost w).1) : c ∈ w ∨ c = 93 := by
  unfold splitHost at hc
  by_cases hliteral : w.head? = some 91
  · rw [if_pos hliteral] at hc
    rcases List.mem_append.mp hc with hc | hc
    · exact Or.inl (List.takeWhile_sublist _ |>.subset hc)
    · exact Or.inr (List.mem_singleton.mp hc)
  · rw [if_neg hliteral] at hc
    exact Or.inl (List.takeWhile_sublist _ |>.subset hc)

theorem mem_host {a : Bytes} {c : UInt8} (hc : c ∈ (parseAuthority a).host) : c ∈ a ∨ c = 93 := by
  unfold parseAuthority at hc
  by_cases hat : (64 : UInt8) ∈ a
  · rw [if_pos hat] at hc
    rcases mem_splitHost hc with hc | hc
    · exact Or.inl ((List.dropWhile_sublist _).subset (List.mem_of_mem_tail hc))
    · exact Or.inr hc
  · rw [if_neg hat] at hc
    exact mem_splitHost hc

theorem mem_authority {s a : Bytes} {c : UInt8} (h : (splitAuthority (splitScheme s).2).1 = some a)
    (hc : c ∈ a) : c ∈ s := by
  have hrest : c ∈ (splitScheme s).2 := by
    rw [(splitAuthority_spec h).1]
    exact List.mem_cons_of_mem _ (List.mem_cons_of_mem _ (List.mem_append_left _ hc))
  unfold splitScheme at hrest
  split at hrest
  · rename_i rest hdrop
    dsimp only at hrest
    split at hrest
    · exact hrest
    · refine (List.dropWhile_sublist (notIn [58, 47, 63, 35])).subset ?_
      rw [hdrop]
      exact List.mem_cons_of_mem _ hrest
  · exact hrest

/-- The host of a URI can be the value of a header. -/
theorem host_plain {s : Bytes} (haccepts : Accepts uri_parser_start s) :
    PlainValue (((components s).authority.map Authority.host).getD []) := by
  have hbytes : ∀ c ∈ ((components s).authority.map Authority.host).getD [],
      c ∉ ([0, 9, 10, 13, 32, 127] : Bytes) := by
    intro c hc
    have hauthority : (components s).authority =
      (splitAuthority (splitScheme s).2).1.map parseAuthority := rfl
    rw [hauthority] at hc
    cases ha : (splitAuthority (splitScheme s).2).1 with
    | none =>
      rw [ha] at hc
      cases hc
    | some a =>
      rw [ha] at hc
      rcases mem_host hc with hc | rfl
      · exact haccepts.visible c (mem_authority ha hc)
      · decide
  refine ⟨fun c hc => ?_, fun c hc => ?_⟩
  · have hnot := hbytes c hc
    simp only [List.mem_cons, List.not_mem_nil, or_false, not_or] at hnot
    exact ⟨hnot.1, hnot.2.2.1, hnot.2.2.2.1, hnot.2.2.2.2.2⟩
  · have hnot := hbytes c (List.mem_of_mem_head? hc)
    simp only [List.mem_cons, List.not_mem_nil, or_false, not_or] at hnot
    exact ⟨hnot.2.2.2.2.1, hnot.2.1⟩

/-- What a URI object holds can stand in a request. -/
structure Sendable (u : Uri) : Prop where
  path     : u.path = [] ∨ ∃ cs, u.path = 47 :: cs ∧ Escaped pathChar cs
  query    : Escaped queryChar u.query
  fragment : Escaped queryChar u.fragment
  host     : PlainValue u.host

theorem sendable_of_created {s : Bytes} {u : Uri} (h : Uri.Create s = .uri u) : Sendable u := by
  have haccepts := accepts_of_created h
  obtain ⟨rfl, _⟩ := objectOf_of_created h
  obtain ⟨hquery, hfragment⟩ := components_tail s
  have hfront : Escaped queryChar ((queryOf (behindPath s)).getD []) ∧
      Escaped queryChar ((fragmentOf (behindPath s)).getD []) := by
    have hsplit := List.takeWhile_append_dropWhile (p := notIn [63, 35]) (l := s)
    rw [← hsplit] at haccepts
    obtain ⟨t, hwalk, hrest⟩ := accepts_append.mp haccepts
    have ht := walk_stays ways.front_stays mem_takeWhile (by decide) hwalk
    exact tail_escaped (tail_of_head (head_dropWhile _ _)) ht hrest
  refine ⟨?_, ?_, ?_, host_plain haccepts⟩
  · show (if _ then _ else _) = [] ∨ _
    unfold objectOf
    dsimp only
    split
    · rename_i hboth
      rw [Bool.and_eq_true, Option.isSome_iff_ne_none, Option.isSome_iff_ne_none] at hboth
      obtain ⟨name, a, r, hparts⟩ := exists_parts hboth.1 hboth.2
      rw [hparts.parts]
      exact hparts.path haccepts
    · exact Or.inl rfl
  · show Escaped queryChar ((components s).query.getD [])
    rw [hquery]
    exact hfront.1
  · show Escaped queryChar ((components s).fragment.getD [])
    rw [hfragment]
    exact hfront.2

end UriParser

end MNSER
