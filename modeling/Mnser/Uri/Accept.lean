import Mnser.Uri.Authority

/-! # What the URI scanner accepts

    The states fall into classes, and a class is only left by some bytes.  So a
    part of an accepted text can be put in another place, where the states are
    related to those it was read in. -/

namespace MNSER

namespace UriParser

open Http (Bytes)
open Ranges Scanner

variable {s t : Nat} {c : UInt8} {acts : List Action} {xs ys w : Bytes}

/-! ## Section 1: Walks -/

theorem walk_cons (h : walk step s (c :: xs) = some t) :
    ∃ u acts, step s c = .next u acts ∧ walk step u xs = some t := by
  simp only [walk] at h
  split at h
  · rename_i u acts hstep
    exact ⟨u, acts, hstep, h⟩
  · cases h

/-- An accepted text can be cut anywhere. -/
theorem accepts_append : Accepts s (xs ++ ys) ↔ ∃ t, walk step s xs = some t ∧ Accepts t ys := by
  unfold Accepts
  rw [walk_append]
  constructor
  · rintro ⟨u, hwalk, hfinal⟩
    obtain ⟨t, hxs, hys⟩ := Option.bind_eq_some_iff.mp hwalk
    exact ⟨t, hxs, u, hys, hfinal⟩
  · rintro ⟨t, hxs, u, hys, hfinal⟩
    exact ⟨u, Option.bind_eq_some_iff.mpr ⟨t, hxs, hys⟩, hfinal⟩

/-- A text without some bytes stays in a class. -/
theorem walk_stays {S : StateClass} {stops : Bytes} (h : leadsBut S stops (among S) = true)
    (hw : ∀ c ∈ w, c ∉ stops) (hs : among S s = true) (hwalk : walk step s w = some t) :
    among S t = true := by
  induction w generalizing s with
  | nil =>
    obtain rfl := Option.some.inj hwalk
    exact hs
  | cons c cs ih =>
    obtain ⟨u, acts, hstep, hrest⟩ := walk_cons hwalk
    have hu := leadsBut_step h hs (hw c List.mem_cons_self) hstep
    exact ih (fun x hx => hw x (List.mem_cons_of_mem _ hx)) hu hrest

/-! ## Section 2: Related states -/

def related (pairs : List (Nat × Nat)) (a b : Nat) : Bool := a == b || pairs.contains (a, b)

/-- The second state of a pair goes wherever the first one goes, except with
    some bytes, up to related states. -/
def simulates (pairs : List (Nat × Nat)) (stops : Bytes) : Bool :=
  pairs.all fun ab => (rows.getD ab.1 []).all fun e =>
    match follow e.2.2 with
    | .next t _ =>
      ((List.range' e.1 (e.2.1 + 1 - e.1)).all fun n => stops.any fun x => x.toNat == n) ||
        onClass (rows.getD ab.2 []) [(e.1, e.2.1)] fun _ _ g =>
          match follow g with
          | .next t' _ => related pairs t t'
          | _ => false
    | _ => true

/-- What the check of the table says of one byte. -/
theorem simulates_step {pairs : List (Nat × Nat)} {stops : Bytes} (h : simulates pairs stops = true)
    {a b : Nat} (hab : related pairs a b = true) (hc : c ∉ stops) (hstep : step a c = .next t acts) :
    ∃ t' acts', step b c = .next t' acts' ∧ related pairs t t' = true := by
  rw [related, Bool.or_eq_true, beq_iff_eq, List.contains_iff_mem] at hab
  -- a state is related to itself
  rcases hab with rfl | hmem
  · exact ⟨t, acts, hstep, by simp [related]⟩
  have hpair := List.all_eq_true.mp h (a, b) hmem
  unfold step at hstep
  cases hentry : entryAt (rows.getD a []) c.toNat with
  | none =>
    rw [hentry] at hstep
    cases hstep
  | some g =>
    rw [hentry] at hstep
    obtain ⟨lo, hi, hlo, hhi, hmem⟩ := entryAt_mem hentry
    have hentry' := List.all_eq_true.mp hpair _ hmem
    dsimp only at hentry' hstep
    rw [hstep] at hentry'
    dsimp only at hentry'
    rw [Bool.or_eq_true] at hentry'
    rcases hentry' with hrange | hgoes
    · -- the whole entry is excepted
      obtain ⟨x, hx, heq⟩ := List.any_eq_true.mp
        (List.all_eq_true.mp hrange c.toNat (List.mem_range'_1.mpr (by omega)))
      rw [UInt8.toNat_inj.mp (beq_iff_eq.mp heq)] at hx
      exact absurd hx hc
    · -- the other state has the same transition, up to related states
      have hclass : ByteClass.has [(lo, hi)] c = true := by simp [ByteClass.has, hlo, hhi]
      obtain ⟨_, _, g', _, _, hg', htarget⟩ := onClass_entry hgoes hclass
      unfold step
      rw [hg']
      dsimp only
      cases hfollow : follow g' with
      | next t' acts' =>
        rw [hfollow] at htarget
        exact ⟨t', acts', rfl, htarget⟩
      | last t' acts' =>
        rw [hfollow] at htarget
        cases htarget
      | fail t' =>
        rw [hfollow] at htarget
        cases htarget

/-- The second state of a pair takes every text the first one takes, as long as it
    has none of the excepted bytes. -/
theorem simulates_walk {pairs : List (Nat × Nat)} {stops : Bytes} (h : simulates pairs stops = true)
    (hw : ∀ c ∈ w, c ∉ stops) {a b : Nat} (hab : related pairs a b = true)
    (hwalk : walk step a w = some t) :
    ∃ t', walk step b w = some t' ∧ related pairs t t' = true := by
  induction w generalizing a b with
  | nil =>
    obtain rfl := Option.some.inj hwalk
    exact ⟨b, rfl, hab⟩
  | cons c cs ih =>
    obtain ⟨u, acts, hstep, hrest⟩ := walk_cons hwalk
    obtain ⟨u', acts', hstep', hu⟩ := simulates_step h hab (hw c List.mem_cons_self) hstep
    obtain ⟨t', hwalk', ht⟩ := ih (fun x hx => hw x (List.mem_cons_of_mem _ hx)) hu hrest
    refine ⟨t', ?_, ht⟩
    simp only [walk, hstep']
    exact hwalk'

/-! ## Section 3: The classes of the table -/

/-- In a scheme, or in the first segment of a path. -/
def inScheme : StateClass := [(3, 4), (451, 452), (508, 508)]

/-- In the authority of a URI. -/
def inAuthority : StateClass := [(229, 242), (245, 450), (511, 512), (514, 560)]

/-- The states of an authority that no text ends in. -/
def unfinished : StateClass := [(229, 242), (245, 450)]

/-- In user information, or in an IP literal. -/
def noHost : StateClass := [(255, 257), (260, 450)]

def inLiteral : StateClass := [(260, 450)]

/-- Behind `@`, or where none can follow. -/
def noUserinfo : StateClass :=
  [(229, 242), (245, 252), (258, 450), (512, 512), (514, 519), (522, 541)]

/-- In front of the first colon. -/
def noColon : StateClass :=
  noUserinfo ++ [(253, 254), (511, 511), (520, 520), (543, 560)]

def inPath : StateClass := [(243, 244), (513, 513)]

def inQuery : StateClass := [(7, 8), (456, 457)]

def atPort (s : Nat) : Bool := s == 514 || s == 521

/-- What leaves the classes of states, and for where. -/
structure Classes : Prop where
  scheme_stays : leadsBut inScheme [58, 47, 63, 35] (among inScheme) = true
  scheme_colon : leadsOn inScheme [58] (· == 509) = true
  scheme_slash : leadsOn [(509, 509)] [47] (· == 510) = true
  slash_slash : leadsOn [(510, 510)] [47] (· == 511) = true
  authority_stays : leadsBut inAuthority [47, 63, 35] (among inAuthority) = true
  authority_slash : leadsOn inAuthority [47] (· == 513) = true
  authority_colon : leadsOn inAuthority [58] (fun t => atPort t || among noHost t) = true
  authority_at : leadsOn inAuthority [64] (· == 522) = true
  unfinished_stops : leadsOn unfinished [47, 63, 35] (fun _ => false) = true
  unfinished_colon : leadsOn unfinished [58] (among noHost) = true
  noHost_digits : leadsOn noHost digits (among noHost) = true
  literal_opens : leadsOn [(511, 511), (522, 522)] [91] (among inLiteral) = true
  literal_stays : leadsBut inLiteral [93, 47, 63, 35] (among inLiteral) = true
  noUserinfo_stays : leadsBut noUserinfo [47, 63, 35] (among noUserinfo) = true
  noUserinfo_at : leadsOn noUserinfo [64] (fun _ => false) = true
  noColon_stays : leadsBut noColon [47, 63, 35, 58, 64] (among noColon) = true
  noColon_colon : leadsOn noColon [58] (fun t => t == 521 || among noUserinfo t) = true
  path_stays : leadsBut inPath [63, 35] (among inPath) = true
  path_ends : leadsOn [(243, 244)] [63, 35] (fun _ => false) = true
  query_opens : leadsOn ((513, 513) :: inAuthority) [63] (· == 456) = true
  query_stays : leadsBut inQuery [35] (among inQuery) = true
  query_ends : leadsOn [(7, 8)] [35] (fun _ => false) = true
  fragment_opens : leadsOn ((513, 513) :: inAuthority ++ inQuery) [35] (· == 453) = true

/-- Found by going through the rows of the table. -/
theorem classes : Classes := by
  constructor <;> decide +kernel

/-- Behind the first colon of user information, and at its start. -/
def userinfoPairs : List (Nat × Nat) :=
  [(255, 520), (255, 521), (255, 542), (255, 544), (255, 545), (255, 546), (255, 547),
   (255, 548), (255, 549), (255, 550), (255, 551), (255, 552), (255, 553), (255, 554),
   (255, 555), (255, 556), (256, 253), (257, 254), (521, 511), (542, 520), (542, 543),
   (542, 557), (542, 558), (542, 559), (542, 560)]

/-- Behind `@`, and where there is none. -/
def hostPairs : List (Nat × Nat) :=
  [(258, 253), (259, 254), (514, 521), (515, 542), (522, 511), (523, 520), (524, 543),
   (525, 544), (526, 545), (527, 546), (528, 547), (529, 548), (530, 549), (531, 550),
   (532, 551), (533, 552), (534, 553), (535, 554), (536, 555), (537, 556), (538, 557),
   (539, 558), (540, 559), (541, 560)]

/-- Where the classes can be left. -/
structure Exits : Prop where
  closes : goesAll [(511, 512), (514, 560)] [47] 513 = true
  port : goesAll [(514, 515)] digits 515 = true
  digits : goesAll [(521, 521), (542, 542)] digits 542 = true
  query : goesAll [(513, 513)] [63] 456 = true
  fragment : goesAll [(456, 457), (513, 513)] [35] 453 = true
  userinfo : simulates userinfoPairs [47, 63, 35] = true
  host : simulates hostPairs [47, 63, 35] = true

theorem exits : Exits := by
  constructor <;> decide +kernel

/-! ## Section 4: The parts of an accepted text -/

/-- `scheme://` leads to one state. -/
theorem walk_scheme (hw : ∀ c ∈ w, c ∉ ([58, 47, 63, 35] : Bytes))
    (hwalk : walk step uri_parser_start (w ++ [58, 47, 47]) = some t) : t = 511 := by
  rw [walk_append] at hwalk
  obtain ⟨u, hwalk₁, hrest⟩ := Option.bind_eq_some_iff.mp hwalk
  have hu := walk_stays classes.scheme_stays hw rfl hwalk₁
  -- the colon
  obtain ⟨u₁, _, hstep₁, hrest⟩ := walk_cons hrest
  have h₁ := leadsOn_step classes.scheme_colon hu List.mem_cons_self hstep₁
  obtain rfl := beq_iff_eq.mp h₁
  -- the two slashes
  obtain ⟨u₂, _, hstep₂, hrest⟩ := walk_cons hrest
  have h₂ := leadsOn_step classes.scheme_slash rfl List.mem_cons_self hstep₂
  obtain rfl := beq_iff_eq.mp h₂
  obtain ⟨u₃, _, hstep₃, hrest⟩ := walk_cons hrest
  have h₃ := leadsOn_step classes.slash_slash rfl List.mem_cons_self hstep₃
  obtain rfl := beq_iff_eq.mp h₃
  exact (Option.some.inj hrest).symm

end UriParser

end MNSER
