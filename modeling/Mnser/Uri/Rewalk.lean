import Mnser.Uri.Accept
import Mnser.Uri.Dump

/-! # The text of a URI object is accepted

    Its parts are those of a text that was accepted.  Where a part was
    shortened or left out, what follows is read in states related to those it
    was read in before. -/

namespace MNSER

namespace UriParser

open Http (Bytes)
open Ranges Scanner

variable {s t : Nat} {w : Bytes}

/-! ## Section 1: The states of an authority -/

/-- The authority can end here. -/
def closable : StateClass := [(511, 512), (514, 560)]

theorem among_append (S T : StateClass) (s : Nat) : among (S ++ T) s = (among S s || among T s) :=
  List.any_append

theorem rows_length : rows.length = 561 := by
  decide +kernel

theorem lt_rows {S : StateClass} (hS : S.all (fun i => Nat.blt i.2 561) = true)
    (hs : among S s = true) : s < rows.length := by
  obtain ⟨i, hi, hrange⟩ := List.any_eq_true.mp hs
  have hbound := List.all_eq_true.mp hS i hi
  rw [Nat.blt_eq] at hbound
  rw [Bool.and_eq_true, Nat.ble_eq, Nat.ble_eq] at hrange
  rw [rows_length]
  omega

/-- What the classes of states miss of IP literals, and the pairs of final states. -/
structure MoreClasses : Prop where
  literal_closes : leadsOn inLiteral [93] (· == 512) = true
  bracket_next : leadsBut [(512, 512)] [47, 63, 35, 58] (fun _ => false) = true
  pairs_closable : (hostPairs.all fun ab => among unfinished ab.1 || among closable ab.2) = true

theorem moreClasses : MoreClasses := by
  constructor <;> decide +kernel

/-- A text of some bytes stays in a class. -/
theorem walk_stays_on {S : StateClass} {bytes : Bytes} (h : leadsOn S bytes (among S) = true)
    (hw : ∀ c ∈ w, c ∈ bytes) (hs : among S s = true) (hwalk : walk step s w = some t) :
    among S t = true := by
  induction w generalizing s with
  | nil =>
    obtain rfl := Option.some.inj hwalk
    exact hs
  | cons c cs ih =>
    obtain ⟨u, acts, hstep, hrest⟩ := walk_cons hwalk
    have hu := leadsOn_step h hs (hw c List.mem_cons_self) hstep
    exact ih (fun x hx => hw x (List.mem_cons_of_mem _ hx)) hu hrest

/-- Bytes that lead from a class to one of its states lead there from any of them. -/
theorem walk_all {S : StateClass} {bytes : Bytes} (h : goesAll S bytes t = true)
    (ht : among S t = true) (hS : S.all (fun i => Nat.blt i.2 561) = true)
    (hw : ∀ c ∈ w, c ∈ bytes) (hne : w ≠ []) (hs : among S s = true) :
    walk step s w = some t := by
  induction w generalizing s with
  | nil => exact absurd rfl hne
  | cons c cs ih =>
    obtain ⟨acts, hstep⟩ := goesAll_step h hs (lt_rows hS hs) (hw c List.mem_cons_self)
    simp only [walk, hstep]
    by_cases hcs : cs = []
    · rw [hcs]
      rfl
    · exact ih (fun x hx => hw x (List.mem_cons_of_mem _ hx)) hcs ht

/-- Between `//` and what follows it a text is in the authority. -/
theorem closable_of_accepts {rest : Bytes} (hs : among inAuthority s = true) (haccepts : Accepts s rest)
    (hrest : ∀ c ∈ rest.head?, c ∈ ([47, 63, 35] : Bytes)) : among closable s = true := by
  have hclasses : inAuthority = unfinished ++ closable := rfl
  rw [hclasses, among_append, Bool.or_eq_true] at hs
  refine hs.resolve_left ?_
  intro hunfinished
  cases rest with
  -- the text ends, and no unfinished state is final
  | nil =>
    obtain ⟨t, hwalk, hfinal⟩ := haccepts
    obtain rfl := Option.some.inj hwalk
    have hall : ∀ i ∈ unfinished, i.2 < uri_parser_first_final := by decide
    obtain ⟨i, hi, hrange⟩ := List.any_eq_true.mp hunfinished
    rw [Bool.and_eq_true, Nat.ble_eq, Nat.ble_eq] at hrange
    have := hall i hi
    omega
  -- the authority ends, and no unfinished state takes its delimiter
  | cons c cs =>
    obtain ⟨t, acts, hstep, -⟩ := haccepts.cons
    have hstop := leadsOn_step classes.unfinished_stops hunfinished (hrest c rfl) hstep
    cases hstop

/-- An authority cannot end in user information or in an IP literal. -/
theorem not_noHost {s : Nat} (hs : among closable s = true) : ¬ among noHost s = true := by
  intro hno
  simp only [among, closable, noHost, List.any_cons, List.any_nil, Bool.or_false, Bool.or_eq_true,
    Bool.and_eq_true, Nat.ble_eq] at hs hno
  omega

/-- Behind a host any port can follow where one port does. -/
theorem walk_port {ds : Bytes} (hs : among inAuthority s = true) (hds : ∀ c ∈ ds, c ∈ digits)
    (hwalk : walk step s (58 :: ds) = some t) (ht : among closable t = true) :
    among closable s = true ∧ ∀ ds', (∀ c ∈ ds', c ∈ digits) → ds' ≠ [] →
      ∃ t', walk step s (58 :: ds') = some t' ∧ among closable t' = true := by
  obtain ⟨u, acts, hstep, hrest⟩ := walk_cons hwalk
  -- a colon of user information or of an IP literal does not come to an end
  have hu : ¬ among noHost u = true := by
    intro hno
    exact not_noHost ht (walk_stays_on classes.noHost_digits hds hno hrest)
  constructor
  · have hclasses : inAuthority = unfinished ++ closable := rfl
    rw [hclasses, among_append, Bool.or_eq_true] at hs
    refine hs.resolve_left ?_
    intro hunfinished
    exact hu (leadsOn_step classes.unfinished_colon hunfinished List.mem_cons_self hstep)
  · intro ds' hds' hne
    have hport := leadsOn_step classes.authority_colon hs List.mem_cons_self hstep
    rw [Bool.or_eq_true] at hport
    have hat := hport.resolve_right hu
    rw [atPort, Bool.or_eq_true, beq_iff_eq, beq_iff_eq] at hat
    have hwalk' : ∀ t', walk step u ds' = some t' → walk step s (58 :: ds') = some t' := by
      intro t' h
      simp only [walk, hstep]
      exact h
    rcases hat with rfl | rfl
    · exact ⟨515, hwalk' 515 (walk_all exits.port rfl rfl hds' hne rfl), rfl⟩
    · exact ⟨542, hwalk' 542 (walk_all exits.digits rfl rfl hds' hne rfl), rfl⟩

/-- In front of the authority, or behind `@`. -/
def opens : StateClass := [(511, 511), (522, 522)]

/-- Where a host can begin, the text is in the authority. -/
theorem inAuthority_of_opens (h : among opens s = true) : among inAuthority s = true := by
  simp only [among, opens, inAuthority, List.any_cons, List.any_nil, Bool.or_false, Bool.or_eq_true,
    Bool.and_eq_true, Nat.ble_eq] at h ⊢
  omega

/-- A host and a port that the scanner goes through are put together again from
    their parts. -/
theorem splitHost_spec {b : Bytes} (hs : among opens s = true)
    (hb : ∀ c ∈ b, c ∉ ([47, 63, 35] : Bytes)) (hwalk : walk step s b = some t)
    (ht : among closable t = true) :
    Host (splitHost b).1 ∧ b = (splitHost b).1 ++ portText (splitHost b).2 := by
  -- an IP literal up to its bracket, or a name up to its colon
  by_cases hopen : b.head? = some 91
  · obtain ⟨b', rfl⟩ : ∃ b', b = 91 :: b' := by
      cases b with
      | nil => cases hopen
      | cons c cs =>
        obtain rfl := Option.some.inj hopen
        exact ⟨cs, rfl⟩
    obtain ⟨u, acts, hstep, hrest⟩ := walk_cons hwalk
    have hu := leadsOn_step classes.literal_opens hs List.mem_cons_self hstep
    have hstops : ∀ w : Bytes, 93 ∉ w → (∀ c ∈ w, c ∈ b') →
        ∀ c ∈ w, c ∉ ([93, 47, 63, 35] : Bytes) := by
      intro w hw hsub c hc
      have hcb := hb c (List.mem_cons_of_mem _ (hsub c hc))
      rw [List.mem_cons, not_or]
      refine ⟨?_, hcb⟩
      rintro rfl
      exact hw hc
    -- otherwise the text would end inside the literal
    have hclose : 93 ∈ b' := by
      by_contra hnone
      have hliteral := walk_stays classes.literal_stays (hstops b' hnone fun _ h => h) hu hrest
      have hno : among noHost t = true := by
        rw [show noHost = [(255, 257)] ++ inLiteral from rfl, among_append, hliteral, Bool.or_true]
      exact not_noHost ht hno
    obtain ⟨v, w, rfl, hv⟩ := List.eq_append_cons_of_mem hclose
    have hsplit : splitHost (91 :: (v ++ 93 :: w)) = (91 :: v ++ [93], portOf w) :=
      splitHost_literal hv
    rw [walk_append] at hrest
    obtain ⟨u₁, hwalk₁, hrest⟩ := Option.bind_eq_some_iff.mp hrest
    have hu₁ := walk_stays classes.literal_stays
      (hstops v hv fun c hc => List.mem_append_left _ hc) hu hwalk₁
    obtain ⟨u₂, acts₂, hstep₂, hrest⟩ := walk_cons hrest
    have hu₂ := leadsOn_step moreClasses.literal_closes hu₁ List.mem_cons_self hstep₂
    obtain rfl := beq_iff_eq.mp hu₂
    -- only a colon may follow the bracket
    have hport : w = portText (portOf w) := by
      cases w with
      | nil => rfl
      | cons c cs =>
        obtain ⟨u₃, acts₃, hstep₃, -⟩ := walk_cons hrest
        have hc : c = 58 := by
          by_contra hne
          have hcb := hb c (by simp)
          have hstop := leadsBut_step moreClasses.bracket_next rfl
            (show c ∉ ([47, 63, 35, 58] : Bytes) by simpa [hne] using hcb) hstep₃
          cases hstop
        subst hc
        rfl
    rw [hsplit]
    refine ⟨.literal hv, ?_⟩
    dsimp only
    rw [← hport, List.append_assoc]
    rfl
  · have hsplit := List.takeWhile_append_dropWhile (p := notIn [58]) (l := b)
    have hhead := head_dropWhile [58] b
    have hhost : splitHost b = (b.takeWhile (notIn [58]),
        if b.dropWhile (notIn [58]) = [] then none else some (b.dropWhile (notIn [58])).tail) := by
      unfold splitHost
      rw [if_neg hopen]
    rw [hhost]
    refine ⟨.name (fun hmem => mem_takeWhile 58 hmem (by simp)) ?_, ?_⟩
    · cases b with
      | nil => simp
      | cons c cs =>
        rw [List.takeWhile_cons]
        split
        · exact hopen
        · simp
    · dsimp only
      cases hrest : b.dropWhile (notIn [58]) with
      | nil =>
        rw [hrest] at hsplit
        simpa [portText] using hsplit.symm
      | cons c cs =>
        rw [hrest] at hsplit hhead
        obtain rfl : c = 58 := by simpa using hhead c rfl
        simpa [portText] using hsplit.symm

/-! ## Section 2: Another text for an authority -/

/-- A port can be left out, or another number can stand for it. -/
def Replaces (port port' : Option Bytes) : Prop :=
  port' = none ∨ port ≠ none ∧ ∃ ds, port' = some ds ∧ ds ≠ [] ∧ ∀ c ∈ ds, c ∈ digits

/-- Behind the same host another port is accepted, or none. -/
theorem walk_hostPort {host : Bytes} {port port' : Option Bytes} (hs : among opens s = true)
    (hhost : ∀ c ∈ host, c ∉ ([47, 63, 35] : Bytes)) (hport : ∀ c ∈ port.getD [], c ∈ digits)
    (hreplaces : Replaces port port') (hwalk : walk step s (host ++ portText port) = some t)
    (ht : among closable t = true) :
    ∃ t', walk step s (host ++ portText port') = some t' ∧ among closable t' = true := by
  rw [walk_append] at hwalk
  obtain ⟨u, hwalk₁, hrest⟩ := Option.bind_eq_some_iff.mp hwalk
  have hu := walk_stays classes.authority_stays hhost (inAuthority_of_opens hs) hwalk₁
  -- the authority could have ended in front of the port
  have hclosable : among closable u = true := by
    cases port with
    | none =>
      obtain rfl := Option.some.inj hrest
      exact ht
    | some ds => exact (walk_port hu hport hrest ht).1
  rcases hreplaces with rfl | ⟨hsome, ds', rfl, hne, hds'⟩
  · refine ⟨u, ?_, hclosable⟩
    rw [portText, List.append_nil, hwalk₁]
  · obtain ⟨ds, rfl⟩ := Option.ne_none_iff_exists'.mp hsome
    obtain ⟨t', hwalk', ht'⟩ := (walk_port hu hport hrest ht).2 ds' hds' hne
    refine ⟨t', ?_, ht'⟩
    rw [walk_append, hwalk₁]
    exact hwalk'

/-- There is no second `@`. -/
theorem noAt_of_walk {b : Bytes} (hb : ∀ c ∈ b, c ∉ ([47, 63, 35] : Bytes))
    (hwalk : walk step 522 b = some t) : 64 ∉ b := by
  intro hmem
  obtain ⟨x, y, rfl, -⟩ := List.eq_append_cons_of_mem hmem
  rw [walk_append] at hwalk
  obtain ⟨u, hwalk₁, hrest⟩ := Option.bind_eq_some_iff.mp hwalk
  -- behind one `@` no state takes another
  have hu := walk_stays classes.noUserinfo_stays (fun c hc => hb c (List.mem_append_left _ hc)) rfl
    hwalk₁
  obtain ⟨u', acts, hstep, -⟩ := walk_cons hrest
  have hstop := leadsOn_step classes.noUserinfo_at hu List.mem_cons_self hstep
  cases hstop

/-- Behind `@` a text is accepted that is accepted without user information too. -/
theorem walk_noUserinfo {b : Bytes} (hb : ∀ c ∈ b, c ∉ ([47, 63, 35] : Bytes))
    (hwalk : walk step 522 b = some t) (ht : among closable t = true) :
    ∃ t', walk step 511 b = some t' ∧ among closable t' = true := by
  have hopens : related hostPairs 522 511 = true := rfl
  obtain ⟨t', hwalk', hrelated⟩ := simulates_walk exits.host hb hopens hwalk
  refine ⟨t', hwalk', ?_⟩
  rw [related, Bool.or_eq_true, beq_iff_eq, List.contains_iff_mem] at hrelated
  rcases hrelated with rfl | hpair
  · exact ht
  · have hclosable := List.all_eq_true.mp moreClasses.pairs_closable (t, t') hpair
    rw [Bool.or_eq_true] at hclosable
    refine hclosable.resolve_left ?_
    intro hunfinished
    simp only [among, closable, unfinished, List.any_cons, List.any_nil, Bool.or_false,
      Bool.or_eq_true, Bool.and_eq_true, Nat.ble_eq] at ht hunfinished
    omega

/-- The text up to `@` leads to one state. -/
theorem walk_at {v b : Bytes} (hv : ∀ c ∈ v, c ∉ ([47, 63, 35] : Bytes))
    (hwalk : walk step 511 (v ++ 64 :: b) = some t) :
    walk step 522 b = some t ∧ walk step 511 (v ++ [64]) = some 522 := by
  rw [walk_append] at hwalk
  obtain ⟨u, hwalk₁, hrest⟩ := Option.bind_eq_some_iff.mp hwalk
  have hu := walk_stays classes.authority_stays hv rfl hwalk₁
  obtain ⟨u', acts, hstep, hrest⟩ := walk_cons hrest
  have hu' := leadsOn_step classes.authority_at hu List.mem_cons_self hstep
  obtain rfl := beq_iff_eq.mp hu'
  refine ⟨hrest, ?_⟩
  rw [walk_append, hwalk₁]
  show walk step u [64] = some 522
  simp only [walk, hstep]

/-- The stored part of user information is user information. -/
theorem walk_stored {v : Bytes} (hv : ∀ c ∈ v, c ∉ ([47, 63, 35] : Bytes)) (hnoAt : 64 ∉ v)
    (hwalk : walk step 511 (v ++ [64]) = some 522) :
    walk step 511 (storedUserinfo v ++ [64]) = some 522 := by
  -- what is stored may begin behind the first colon
  by_cases hcolon : 58 ∈ v
  · obtain ⟨x, y, rfl, hx⟩ := List.eq_append_cons_of_mem hcolon
    rw [storedUserinfo_colon hx]
    split
    · have hstops : ∀ c ∈ x, c ∉ ([47, 63, 35, 58, 64] : Bytes) := by
        intro c hc
        have hstop := hv c (List.mem_append_left _ hc)
        have h58 : c ≠ 58 := by
          rintro rfl
          exact hx hc
        have h64 : c ≠ 64 := by
          rintro rfl
          exact hnoAt (List.mem_append_left _ hc)
        simp only [List.mem_cons, not_or] at hstop ⊢
        exact ⟨hstop.1, hstop.2.1, hstop.2.2.1, h58, h64, List.not_mem_nil⟩
      have hy : ∀ c ∈ y, c ∉ ([47, 63, 35] : Bytes) := fun c hc => hv c (by simp [hc])
      rw [List.append_assoc, walk_append] at hwalk
      obtain ⟨u, hwalk₁, hrest⟩ := Option.bind_eq_some_iff.mp hwalk
      have hu := walk_stays classes.noColon_stays hstops rfl hwalk₁
      rw [List.cons_append] at hrest
      obtain ⟨u₁, acts₁, hstep₁, hrest⟩ := walk_cons hrest
      have hu₁ := leadsOn_step classes.noColon_colon hu List.mem_cons_self hstep₁
      rw [walk_append] at hrest
      obtain ⟨u₂, hwalk₂, hrest⟩ := Option.bind_eq_some_iff.mp hrest
      obtain ⟨u₃, acts₃, hstep₃, hrest⟩ := walk_cons hrest
      obtain rfl := Option.some.inj hrest
      -- `@` follows, so the colon is one of user information
      have h521 : u₁ = 521 := by
        rw [Bool.or_eq_true, beq_iff_eq] at hu₁
        refine hu₁.resolve_right ?_
        intro hno
        have hu₂ := walk_stays classes.noUserinfo_stays hy hno hwalk₂
        have hstop := leadsOn_step classes.noUserinfo_at hu₂ List.mem_cons_self hstep₃
        cases hstop
      subst h521
      have hopens : related userinfoPairs 521 511 = true := rfl
      -- what is behind the colon is user information by itself
      obtain ⟨t', hwalk', hrelated⟩ := simulates_walk exits.userinfo hy hopens hwalk₂
      obtain ⟨t'', acts'', hstep'', -⟩ := simulates_step exits.userinfo hrelated (by decide) hstep₃
      have ht' := walk_stays classes.authority_stays hy rfl hwalk'
      have ht'' := leadsOn_step classes.authority_at ht' List.mem_cons_self hstep''
      obtain rfl := beq_iff_eq.mp ht''
      rw [walk_append, hwalk']
      show walk step t' [64] = some 522
      simp only [walk, hstep'']
    · exact hwalk
  · rw [storedUserinfo_name hcolon]
    exact hwalk

/-- What is stored of user information is a part of it. -/
theorem mem_storedUserinfo {v : Bytes} : ∀ c ∈ storedUserinfo v, c ∈ v := by
  by_cases hcolon : 58 ∈ v
  · obtain ⟨x, y, rfl, hx⟩ := List.eq_append_cons_of_mem hcolon
    rw [storedUserinfo_colon hx]
    intro c hc
    split at hc
    · simp [hc]
    · exact hc
  · rw [storedUserinfo_name hcolon]
    exact fun c hc => hc

/-- What can be done with the parts of an accepted authority. -/
structure AuthorityOk (a : Authority) : Prop where
  host     : Host a.host
  bytes    : ∀ c ∈ a.host, c ∉ ([47, 63, 35, 64] : Bytes)
  userinfo : ∀ c ∈ storedUserinfo (a.userinfo.getD []), c ∉ ([47, 63, 35, 64] : Bytes)
  walks    : (∀ c ∈ a.port.getD [], c ∈ digits) → ∀ port', Replaces a.port port' →
    ∃ t, walk step 511 (authorityText (storedUserinfo (a.userinfo.getD [])) a.host port') = some t ∧
      among closable t = true

theorem noStops_at {w : Bytes} (hw : ∀ c ∈ w, c ∉ ([47, 63, 35] : Bytes)) (hnoAt : 64 ∉ w) :
    ∀ c ∈ w, c ∉ ([47, 63, 35, 64] : Bytes) := by
  intro c hc
  have hstop := hw c hc
  have hat : c ≠ 64 := by
    rintro rfl
    exact hnoAt hc
  simp only [List.mem_cons, not_or] at hstop ⊢
  exact ⟨hstop.1, hstop.2.1, hstop.2.2.1, hat, List.not_mem_nil⟩

/-- An accepted authority may be written with what was stored of its user
    information, and with another port. -/
theorem authorityOk {a : Bytes} (ha : ∀ c ∈ a, c ∉ ([47, 63, 35] : Bytes))
    (hwalk : walk step 511 a = some t) (ht : among closable t = true) :
    AuthorityOk (parseAuthority a) := by
  by_cases hat : 64 ∈ a
  · -- the user information and what is behind it are each put together again
    obtain ⟨v, b, rfl, hv⟩ := List.eq_append_cons_of_mem hat
    have hvs : ∀ c ∈ v, c ∉ ([47, 63, 35] : Bytes) := fun c hc => ha c (List.mem_append_left _ hc)
    have hbs : ∀ c ∈ b, c ∉ ([47, 63, 35] : Bytes) := fun c hc => ha c (by simp [hc])
    obtain ⟨hwalkb, hwalkv⟩ := walk_at hvs hwalk
    have hstored := walk_stored hvs hv hwalkv
    have hnoAt := noAt_of_walk hbs hwalkb
    obtain ⟨hhost, heq⟩ := splitHost_spec rfl hbs hwalkb ht
    have hmem : ∀ c ∈ (splitHost b).1, c ∈ b := by
      intro c hc
      rw [heq]
      exact List.mem_append_left _ hc
    rw [parseAuthority_at hv]
    refine ⟨hhost, fun c hc => noStops_at hbs hnoAt c (hmem c hc), ?_, ?_⟩
    · intro c hc
      exact noStops_at hvs hv c (mem_storedUserinfo c hc)
    · intro hport port' hreplaces
      have hhosts : ∀ c ∈ (splitHost b).1, c ∉ ([47, 63, 35] : Bytes) := fun c hc => hbs c (hmem c hc)
      show ∃ t, walk step 511 (authorityText (storedUserinfo v) (splitHost b).1 port') = some t ∧ _
      -- empty user information is not written: the host is read without it
      by_cases hempty : storedUserinfo v = []
      · obtain ⟨t', hwalk', ht'⟩ := walk_noUserinfo hbs hwalkb ht
        rw [heq] at hwalk'
        rw [authorityText, if_pos hempty, List.nil_append]
        exact walk_hostPort rfl hhosts hport hreplaces hwalk' ht'
      · rw [heq] at hwalkb
        obtain ⟨t', hwalk', ht'⟩ := walk_hostPort rfl hhosts hport hreplaces hwalkb ht
        refine ⟨t', ?_, ht'⟩
        rw [authorityText, if_neg hempty, walk_append, hstored]
        exact hwalk'
  · obtain ⟨hhost, heq⟩ := splitHost_spec rfl ha hwalk ht
    have hmem : ∀ c ∈ (splitHost a).1, c ∈ a := by
      intro c hc
      rw [heq]
      exact List.mem_append_left _ hc
    rw [parseAuthority_noAt hat]
    refine ⟨hhost, fun c hc => noStops_at ha hat c (hmem c hc), ?_, ?_⟩
    · intro c hc
      cases hc
    · intro hport port' hreplaces
      rw [heq] at hwalk
      exact walk_hostPort rfl (fun c hc => ha c (hmem c hc)) hport hreplaces hwalk ht

/-! ## Section 3: Path, query and fragment -/

theorem accepts_cons {c : UInt8} {cs : Bytes} {acts : List Action} (hstep : step s c = .next t acts)
    (h : Accepts t cs) : Accepts s (c :: cs) := by
  obtain ⟨u, hwalk, hfinal⟩ := h
  refine ⟨u, ?_, hfinal⟩
  simp only [walk, hstep]
  exact hwalk

theorem accepts_nil (h : uri_parser_first_final ≤ s) : Accepts s [] := ⟨s, rfl, h⟩

/-- The query and the fragment behind an authority are accepted behind a path, with
    empty ones left out. -/
theorem accepts_tail {T query fragment : Bytes} (hs : among ((513, 513) :: inAuthority) s = true)
    (hT : Tail T query fragment) (h : Accepts s T) : Accepts 513 (tailText query fragment) := by
  have hdone : Accepts 513 [] := accepts_nil (by decide)
  have hopen : ∀ {x : Nat} {f : Bytes}, among [(456, 457), (513, 513)] x = true → Accepts 453 f →
      Accepts x (if f = [] then [] else 35 :: f) := by
    intro x f hx hf
    split
    · refine accepts_nil ?_
      simp only [among, List.any_cons, List.any_nil, Bool.or_false, Bool.or_eq_true,
        Bool.and_eq_true, Nat.ble_eq] at hx
      unfold uri_parser_first_final
      omega
    · obtain ⟨acts, hstep⟩ := goesAll_step exits.fragment hx (lt_rows rfl hx)
        (List.mem_singleton_self 35)
      exact accepts_cons hstep hf
  have hquery : ∃ acts, step 513 63 = .next 456 acts := by
    have h513 : among [(513, 513)] 513 = true := rfl
    exact goesAll_step exits.query h513 (lt_rows rfl h513) (List.mem_singleton_self 63)
  have hs' : among ((513, 513) :: inAuthority ++ inQuery) s = true := by
    rw [among_append, hs, Bool.true_or]
  unfold tailText
  cases hT with
  | none => exact hdone
  | fragment =>
    obtain ⟨t, acts, hstep, hrest⟩ := h.cons
    have ht := leadsOn_step classes.fragment_opens hs' List.mem_cons_self hstep
    obtain rfl := beq_iff_eq.mp ht
    exact hopen rfl hrest
  | query hq =>
    obtain ⟨t, acts, hstep, hrest⟩ := h.cons
    have ht := leadsOn_step classes.query_opens hs List.mem_cons_self hstep
    obtain rfl := beq_iff_eq.mp ht
    obtain ⟨acts', hstep'⟩ := hquery
    rw [if_pos rfl, List.append_nil]
    split
    · exact hdone
    · exact accepts_cons hstep' hrest
  | both hq =>
    obtain ⟨t, acts, hstep, hrest⟩ := h.cons
    have ht := leadsOn_step classes.query_opens hs List.mem_cons_self hstep
    obtain rfl := beq_iff_eq.mp ht
    obtain ⟨u, hwalk, hrest⟩ := accepts_append.mp hrest
    have hu := walk_stays classes.query_stays (notIn_one hq) rfl hwalk
    obtain ⟨t', acts', hstep', hrest⟩ := hrest.cons
    have ht' := leadsOn_step classes.fragment_opens (s := u) (by rw [among_append, hu, Bool.or_true])
      List.mem_cons_self hstep'
    obtain rfl := beq_iff_eq.mp ht'
    -- inside of an escape a query does not end
    have hends : among [(456, 457), (513, 513)] u = true := by
      rw [show inQuery = [(7, 8)] ++ [(456, 457)] from rfl, among_append, Bool.or_eq_true] at hu
      have h456 := hu.resolve_left fun h7 => by
        have hstop := leadsOn_step classes.query_ends h7 List.mem_cons_self hstep'
        cases hstop
      rw [show [(456, 457), (513, 513)] = [(456, 457)] ++ [(513, 513)] from rfl, among_append, h456,
        Bool.true_or]
    by_cases hempty : query = []
    · rw [if_pos hempty, List.nil_append]
      exact hopen rfl hrest
    · obtain ⟨acts'', hstep''⟩ := hquery
      rw [if_neg hempty, List.cons_append]
      exact accepts_cons hstep'' (accepts_append.mpr ⟨u, hwalk, hopen hends hrest⟩)

/-- The path of `dump` and what is behind it, after an authority that ends in `t`. -/
theorem accepts_path {r query fragment : Bytes} (hs : among inAuthority s = true)
    (hr : ∀ c ∈ r.head?, c ∈ ([47, 63, 35] : Bytes)) (htail : Tail (behindPath r) query fragment)
    (h : Accepts s r) (ht : among closable t = true) :
    Accepts t ((if pathOf r = [] then [47] else pathOf r) ++ tailText query fragment) := by
  have hsplit : pathOf r ++ behindPath r = r := List.takeWhile_append_dropWhile
  have hpath : ∀ c ∈ pathOf r, c ∉ ([63, 35] : Bytes) := mem_takeWhile
  have hbehind : ∀ c ∈ (behindPath r).head?, c ∈ ([63, 35] : Bytes) := head_dropWhile _ _
  obtain ⟨acts, hslash⟩ := goesAll_step exits.closes ht (lt_rows rfl ht) (List.mem_singleton_self 47)
  generalize pathOf r = path at hsplit hpath ⊢
  generalize behindPath r = T at hsplit htail hbehind
  subst hsplit
  cases path with
  -- the empty path is written as a slash
  | nil =>
    have hs' : among ((513, 513) :: inAuthority) s = true := by
      rw [show (513, 513) :: inAuthority = [(513, 513)] ++ inAuthority from rfl, among_append, hs,
        Bool.or_true]
    exact accepts_cons hslash (accepts_tail hs' htail h)
  | cons c p =>
    have hstop := hpath c List.mem_cons_self
    obtain rfl : c = 47 := by
      have hc := hr c rfl
      simp only [List.mem_cons, List.not_mem_nil, or_false, not_or] at hc hstop
      exact hc.resolve_right (by simp [hstop])
    obtain ⟨u, acts', hstep, hrest⟩ := h.cons
    have hu := leadsOn_step classes.authority_slash hs List.mem_cons_self hstep
    obtain rfl := beq_iff_eq.mp hu
    obtain ⟨v, hwalk, hrest⟩ := accepts_append.mp hrest
    have hv := walk_stays classes.path_stays (fun c hc => hpath c (List.mem_cons_of_mem _ hc)) rfl hwalk
    -- inside of an escape a path does not end
    have h513 : v = 513 := by
      rw [show inPath = [(243, 244)] ++ [(513, 513)] from rfl, among_append, Bool.or_eq_true] at hv
      have hlast := hv.resolve_left fun hescape => by
        cases T with
        | nil =>
          obtain ⟨w, hnil, hfinal⟩ := hrest
          obtain rfl := Option.some.inj hnil
          simp only [among, List.any_cons, List.any_nil, Bool.or_false, Bool.and_eq_true,
            Nat.ble_eq] at hescape
          unfold uri_parser_first_final at hfinal
          omega
        | cons d ds =>
          obtain ⟨w, acts'', hstep', -⟩ := hrest.cons
          have hstuck := leadsOn_step classes.path_ends hescape (hbehind d rfl) hstep'
          cases hstuck
      simp only [among, List.any_cons, List.any_nil, Bool.or_false, Bool.and_eq_true,
        Nat.ble_eq] at hlast
      omega
    subst h513
    rw [if_neg (List.cons_ne_nil _ _), List.cons_append]
    exact accepts_cons hslash (accepts_append.mpr ⟨513, hwalk, accepts_tail rfl htail hrest⟩)

end UriParser

end MNSER
