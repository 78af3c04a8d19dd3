import Mnser.Uri.Tail

/-! # What the URI scanner stores of an authority

    One mark serves the host, the port and the user information.  What looks
    like a host is saved as one, and saved again behind `@`; digits behind the
    first colon move the mark. -/

namespace MNSER

namespace UriParser

open Http (Bytes text)
open Ranges Scanner UriParser.Action

variable {s pre rest cs : Bytes} {c : UInt8} {m p : Nat} {ph t : Phase} {acts : List Action}
  {d e : Data} {u : Uri}

/-! ## Section 1: Ports -/

/-- A host without a port. -/
theorem hosted_none {uri : Bool} (hport : u.port = 0) (host : Bytes) (s : Bytes) :
    hosted uri u (host, none) s = some (afterAuthority uri { u with host := host } s) := by
  rw [hosted, if_pos ⟨by simp, by simp⟩]
  simp only [Option.getD_none, show strtoi 10 [] = 0 from rfl, ← hport]

/-- What is left of the authority. -/
def authorityPart (s : Bytes) : Bytes := s.takeWhile (notIn [47, 63, 35])

/-- What is behind the authority. -/
def behindAuthority (s : Bytes) : Bytes := s.dropWhile (notIn [47, 63, 35])

/-- A text is behind an authority, or goes on with it. -/
theorem ends_or_next (rest : Bytes) :
    Ends rest ∨ ∃ c cs, rest = c :: cs ∧ c ≠ 47 ∧ c ≠ 63 ∧ c ≠ 35 := by
  cases rest with
  | nil => exact .inl fun c hc => by cases hc
  | cons c cs =>
    by_cases hc : c = 47 ∨ c = 63 ∨ c = 35
    · exact .inl fun x hx => by
        obtain rfl := Option.some.inj hx
        exact hc
    · simp only [not_or] at hc
      exact .inr ⟨c, cs, rfl, hc⟩

/-- Nothing is left of an authority that has ended. -/
theorem part_ends (h : Ends rest) : authorityPart rest = [] ∧ behindAuthority rest = rest := by
  cases rest with
  | nil => exact ⟨rfl, rfl⟩
  | cons c cs => rcases h c rfl with rfl | rfl | rfl <;> exact ⟨rfl, rfl⟩

theorem part_next (h : c ≠ 47 ∧ c ≠ 63 ∧ c ≠ 35) :
    authorityPart (c :: cs) = c :: authorityPart cs ∧ behindAuthority (c :: cs) = behindAuthority cs := by
  simp [authorityPart, behindAuthority, notIn, h.1, h.2.1, h.2.2]

/-- `atoi` only reads the port. -/
theorem strtoi_stop {ds : Bytes} (hds : ∀ c ∈ ds, Strtol.isdigit 10 c = true) (hne : ds ≠ [])
    (hends : Ends rest) : strtoi 10 (ds ++ rest) = strtoi 10 ds := by
  have hstops : Strtol.Stops 10 rest := by
    intro c hc
    rcases hends c hc with rfl | rfl | rfl <;> decide
  have hnil : Strtol.Stops 10 [] := fun c hc => by cases hc
  have hdigits := Strtol.strtol_digits (by decide) hds hne hnil
  rw [List.append_nil] at hdigits
  rw [strtoi, strtoi, Strtol.strtol_digits (by decide) hds hne hstops, hdigits]

/-- An authority can end with a digit of a port. -/
theorem closing_port (uri : Bool) : Closing (.port uri) uri false save_port := by
  cases uri <;> exact ⟨rfl, rfl, rfl, rfl⟩

/-- The outline also ends an authority behind the colon of a port. -/
theorem closing_port0 (uri : Bool) : Closing (.port0 uri) uri true save_port := by
  cases uri <;> exact ⟨rfl, rfl, rfl, rfl⟩

def digits : Bytes := [48, 49, 50, 51, 52, 53, 54, 55, 56, 57]

/-- The bytes that `isdigit` takes. -/
theorem mem_digits : ∀ c : UInt8, Strtol.isdigit 10 c = true ↔ c ∈ digits := by
  apply forall_byte
  decide +kernel

theorem move_port (uri : Bool) (hc : Strtol.isdigit 10 c = true) :
    move (.port uri) c = goes (.port uri) [] := by
  have hall : ∀ c ∈ digits, move (.port uri) c = goes (.port uri) [] := by
    cases uri <;> decide +kernel
  exact hall c ((mem_digits c).mp hc)

theorem move_port0 (uri : Bool) (hc : Strtol.isdigit 10 c = true) :
    move (.port0 uri) c = goes (.port uri) [markh] := by
  have hall : ∀ c ∈ digits, move (.port0 uri) c = goes (.port uri) [markh] := by
    cases uri <;> decide +kernel
  exact hall c ((mem_digits c).mp hc)

/-- A port has no other bytes than digits. -/
theorem move_port_none (uri : Bool) (hc : c ≠ 47 ∧ c ≠ 63 ∧ c ≠ 35)
    (hdigit : ¬ Strtol.isdigit 10 c = true) :
    move (.port uri) c = none ∧ move (.port0 uri) c = none := by
  have hstops : c ∉ [47, 63, 35] ++ digits := by
    simpa [hc.1, hc.2.1, hc.2.2] using mt (mem_digits c).mpr hdigit
  constructor
  · exact move_other ([47, 63, 35] ++ digits) rfl rfl hstops
  · exact move_other ([47, 63, 35] ++ digits) rfl rfl hstops

/-- The digits of a port. -/
theorem save_digits (hmark : Marked s m p pre rest)
    (hpre : ∀ c ∈ pre, Strtol.isdigit 10 c = true) (hne : pre ≠ []) (hends : Ends rest) :
    performs s p [save_port] (some m, u) = some (none, { u with port := strtoi 10 pre }) := by
  have hmoved : p ≠ m := by
    have := List.length_pos_iff.mpr hne
    have := hmark.here
    omega
  simp [performs, perform, hmoved, hmark.drop, strtoi_stop hpre hne hends]

/-- A port of which the digits `pre` have been read; the rest of the authority has
    to be digits. -/
theorem result_port {uri : Bool} (hmark : Marked s m p pre rest)
    (hpre : ∀ c ∈ pre, Strtol.isdigit 10 c = true) (hne : pre ≠ [])
    (hfollows : Follows (.port uri) rest) :
    result s (.port uri) p (some m, u) rest =
        some (afterAuthority uri { u with port := strtoi 10 (pre ++ authorityPart rest) }
          (behindAuthority rest)) ∧
      ∀ c ∈ authorityPart rest, Strtol.isdigit 10 c = true := by
  -- over what is left; `pre` takes over the digits read
  induction rest generalizing p pre with
  | nil =>
    have hends : Ends [] := fun c hc => by cases hc
    rw [result_close (closing_port uri) hmark.ahead hends (save_digits hmark hpre hne hends)
      (fun h => by cases h), (part_ends hends).1, (part_ends hends).2, List.append_nil]
    exact ⟨rfl, fun c hc => by cases hc⟩
  | cons c cs ih =>
    rcases ends_or_next (c :: cs) with hends | ⟨c', cs', heq, hc⟩
    · rw [result_close (closing_port uri) hmark.ahead hends (save_digits hmark hpre hne hends)
        (fun h => by cases h), (part_ends hends).1, (part_ends hends).2, List.append_nil]
      exact ⟨rfl, fun c hc => by cases hc⟩
    · obtain ⟨rfl, rfl⟩ := List.cons_eq_cons.mp heq
      by_cases hdigit : Strtol.isdigit 10 c = true
      · have hmove := move_port uri hdigit
        have hpre' : ∀ x ∈ pre ++ [c], Strtol.isdigit 10 x = true := by
          intro x hx
          rcases List.mem_append.mp hx with hx | hx
          · exact hpre x hx
          · rw [List.mem_singleton.mp hx]
            exact hdigit
        obtain ⟨hresult, hdigits⟩ := ih hmark.next hpre' (by simp) (hfollows.next hmove)
        rw [result_next hmove rfl, hresult, (part_next hc).1, (part_next hc).2, List.append_assoc,
          List.singleton_append]
        refine ⟨rfl, fun x hx => ?_⟩
        rcases List.mem_cons.mp hx with rfl | hx
        · exact hdigit
        · exact hdigits x hx
      · -- the scanner would have stopped
        exact (hfollows.stuck (move_port_none uri hc hdigit).1).elim

/-- A port from its colon on, behind a host that is saved. -/
theorem result_port0 {uri : Bool} (hdrop : s.drop p = rest) (hport : u.port = 0) (mark : Option Nat)
    (hfollows : Follows (.port0 uri) rest) :
    result s (.port0 uri) p (mark, u) rest =
        hosted uri u (u.host, some (authorityPart rest)) (behindAuthority rest) ∧
      ∀ c ∈ authorityPart rest, Strtol.isdigit 10 c = true := by
  rcases ends_or_next rest with hends | ⟨c, cs, rfl, hc⟩
  · rw [(part_ends hends).1, (part_ends hends).2]
    refine ⟨?_, fun c hc => by cases hc⟩
    cases uri with
    -- `save_port` clears the mark that `save_path` then needs
    | true => rw [result_emptyPort (closing_port0 true) hends, hosted, if_neg fun h => h.filled ⟨rfl, rfl⟩]
    | false =>
      have hsave : performs s p (opening true save_port) (mark, u) = some (none, u) := by
        simp [opening, performs, perform]
      rw [result_close (closing_port0 false) hdrop hends hsave (fun _ h => by cases h), hosted,
        if_pos ⟨by simp, by simp⟩]
      simp only [Option.getD_some, show strtoi 10 [] = 0 from rfl, ← hport]
  · -- the first digit sets the mark
    by_cases hdigit : Strtol.isdigit 10 c = true
    · have hmove := move_port0 uri hdigit
      have hone : ∀ x ∈ [c], Strtol.isdigit 10 x = true := fun x hx => by
        rw [List.mem_singleton.mp hx]
        exact hdigit
      obtain ⟨hresult, hdigits⟩ := result_port (u := u) (Marked.first hdrop) hone (List.cons_ne_nil _ _)
        (hfollows.next hmove)
      have hall : ∀ x ∈ c :: authorityPart cs, Strtol.isdigit 10 x = true := by
        intro x hx
        rcases List.mem_cons.mp hx with rfl | hx
        · exact hdigit
        · exact hdigits x hx
      rw [result_next (e := (some p, u)) hmove rfl, hresult, (part_next hc).1, (part_next hc).2,
        hosted, if_pos ⟨hall, by simp⟩]
      exact ⟨rfl, hall⟩
    · exact (hfollows.stuck (move_port_none uri hc hdigit).2).elim

/-! ## Section 2: Hosts -/

theorem digits_noAt {w : Bytes} (h : ∀ c ∈ w, Strtol.isdigit 10 c = true) : 64 ∉ w := by
  intro hmem
  exact absurd (h 64 hmem) (by decide)

/-- A host may end in a phase, or go on with a port. -/
structure HostEnd (ph : Phase) (uri : Bool) : Prop where
  closing : Closing ph uri false save_host
  colon   : move ph 58 = goes (.port0 uri) [save_host]

/-- The name of a host can end anywhere. -/
theorem hostEnd_host (uri : Bool) : HostEnd (.host uri) uri := by
  cases uri <;> exact ⟨⟨rfl, rfl, rfl, rfl⟩, rfl⟩

/-- An IP literal ends with its bracket. -/
theorem hostEnd_bracket (uri : Bool) : HostEnd (.bracket uri) uri := by
  cases uri <;> exact ⟨⟨rfl, rfl, rfl, rfl⟩, rfl⟩

/-- The port behind a host. -/
def portOf (s : Bytes) : Option Bytes := if s = [] then none else some s.tail

/-- The host is saved, and a port follows or the authority ends. -/
theorem result_hostEnd {uri : Bool} (h : HostEnd ph uri) (hmark : Marked s m p pre rest)
    (hport : u.port = 0) (hfollows : Follows ph rest) (hrest : Ends rest ∨ ∃ cs, rest = 58 :: cs) :
    result s ph p (some m, u) rest =
        hosted uri u (pre, portOf (authorityPart rest)) (behindAuthority rest) ∧
      64 ∉ authorityPart rest ∧ (authorityPart rest = [] ∨ ∃ w, authorityPart rest = 58 :: w) := by
  have hsave : performs s p [save_host] (some m, u) = some (some m, { u with host := pre }) := by
    simp [performs, perform, hmark.text]
  rcases hrest with hends | ⟨cs, rfl⟩
  · rw [result_close h.closing hmark.ahead hends hsave (fun h => by cases h), (part_ends hends).1,
      (part_ends hends).2, portOf, if_pos rfl, hosted_none hport]
    exact ⟨rfl, List.not_mem_nil, .inl rfl⟩
  · obtain ⟨hresult, hdigits⟩ := result_port0 (u := { u with host := pre }) hmark.next.ahead hport (some m)
      (hfollows.next h.colon)
    -- the colon belongs to the authority
    have hcolon : (58 : UInt8) ≠ 47 ∧ (58 : UInt8) ≠ 63 ∧ (58 : UInt8) ≠ 35 := by decide
    rw [result_next h.colon hsave, hresult, (part_next hcolon).1, (part_next hcolon).2]
    refine ⟨rfl, ?_, .inr ⟨_, rfl⟩⟩
    rw [List.mem_cons, not_or]
    exact ⟨by decide, digits_noAt hdigits⟩

/-- A name reaches up to the colon. -/
theorem splitHost_name {w : Bytes} (hpre : ∀ c ∈ pre, c ≠ 58 ∧ c ≠ 91)
    (hw : w = [] ∨ ∃ v, w = 58 :: v) : splitHost (pre ++ w) = (pre, portOf w) := by
  have hhead : (pre ++ w).head? ≠ some 91 := by
    cases pre with
    | nil => rcases hw with rfl | ⟨v, rfl⟩ <;> simp
    | cons c cs => simpa using (hpre c List.mem_cons_self).2
  have hpre' : ∀ c ∈ pre, c ∉ ([58] : Bytes) := fun c hc => by simpa using (hpre c hc).1
  have hw' : ∀ c ∈ w.head?, c ∈ ([58] : Bytes) := by
    rcases hw with rfl | ⟨v, rfl⟩ <;> simp
  simp only [splitHost, if_neg hhead, takeWhile_stop hpre' hw', dropWhile_stop hpre' hw', portOf]

/-- An IP literal reaches up to its `]`, and may have colons. -/
theorem splitHost_literal {v w : Bytes} (hv : 93 ∉ v) :
    splitHost (91 :: v ++ 93 :: w) = (91 :: v ++ [93], portOf w) := by
  have hv' : ∀ c ∈ 91 :: v, c ∉ ([93] : Bytes) := by
    intro c hc
    rw [List.mem_singleton]
    rintro rfl
    exact hv (by simpa using hc)
  have hw' : ∀ c ∈ (93 :: w).head?, c ∈ ([93] : Bytes) := by simp
  have hhead : (91 :: v ++ 93 :: w).head? = some 91 := rfl
  simp only [splitHost, if_pos hhead, takeWhile_stop hv' hw', dropWhile_stop hv' hw', List.tail_cons,
    portOf]

theorem move_host (uri : Bool) (hc : c ≠ 47 ∧ c ≠ 63 ∧ c ≠ 35) (hcolon : c ≠ 58)
    (hstuck : ¬ (c = 64 ∨ c = 91 ∨ c = 93)) : move (.host uri) c = goes (.host uri) [] := by
  simp only [not_or] at hstuck
  exact move_other [47, 63, 35, 58, 64, 91, 93] rfl rfl
    (by simp [hc, hcolon, hstuck])

/-- A name has none of `@`, `[` and `]`. -/
theorem move_host_none (uri : Bool) (hstuck : c = 64 ∨ c = 91 ∨ c = 93) :
    move (.host uri) c = none := by
  rcases hstuck with rfl | rfl | rfl <;> cases uri <;> rfl

/-- A host of which `pre` has been read, when no `@` can follow any more. -/
theorem result_host {uri : Bool} (hmark : Marked s m p pre rest) (hport : u.port = 0)
    (hpre : ∀ c ∈ pre, c ≠ 58 ∧ c ≠ 91) (hfollows : Follows (.host uri) rest) :
    result s (.host uri) p (some m, u) rest =
        hosted uri u (splitHost (pre ++ authorityPart rest)) (behindAuthority rest) ∧
      64 ∉ authorityPart rest := by
  -- up to a colon or the end of the authority
  induction rest generalizing p pre with
  | nil =>
    obtain ⟨hresult, hnoAt, hw⟩ := result_hostEnd (hostEnd_host uri) hmark hport hfollows
      (.inl fun c hc => by cases hc)
    exact ⟨by rw [hresult, splitHost_name hpre hw], hnoAt⟩
  | cons c cs ih =>
    by_cases hrest : Ends (c :: cs) ∨ ∃ cs', c :: cs = 58 :: cs'
    · obtain ⟨hresult, hnoAt, hw⟩ := result_hostEnd (hostEnd_host uri) hmark hport hfollows hrest
      exact ⟨by rw [hresult, splitHost_name hpre hw], hnoAt⟩
    · obtain ⟨hnotEnds, hnotColon⟩ := not_or.mp hrest
      obtain ⟨c', cs', heq, hc⟩ := (ends_or_next (c :: cs)).resolve_left hnotEnds
      obtain ⟨rfl, rfl⟩ := List.cons_eq_cons.mp heq
      have hcolon : c ≠ 58 := fun h => hnotColon ⟨cs, by rw [h]⟩
      by_cases hstuck : c = 64 ∨ c = 91 ∨ c = 93
      · exact (hfollows.stuck (move_host_none uri hstuck)).elim
      · have hmove := move_host uri hc hcolon hstuck
        simp only [not_or] at hstuck
        have hpre' : ∀ x ∈ pre ++ [c], x ≠ 58 ∧ x ≠ 91 := by
          intro x hx
          rcases List.mem_append.mp hx with hx | hx
          · exact hpre x hx
          · rw [List.mem_singleton.mp hx]
            exact ⟨hcolon, hstuck.2.1⟩
        obtain ⟨hresult, hnoAt⟩ := ih hmark.next hpre' (hfollows.next hmove)
        rw [result_next hmove rfl, hresult, (part_next hc).1, (part_next hc).2, List.append_assoc,
          List.singleton_append, List.mem_cons, not_or]
        exact ⟨rfl, Ne.symm hstuck.1, hnoAt⟩

/-- Behind the `]` only a port may follow. -/
theorem move_bracket (uri : Bool) (hc : c ≠ 47 ∧ c ≠ 63 ∧ c ≠ 35) (hcolon : c ≠ 58) :
    move (.bracket uri) c = none :=
  move_other [47, 63, 35, 58] rfl rfl (by simp [hc, hcolon])

/-- An IP literal that has been read. -/
theorem result_bracket {uri : Bool} {v : Bytes} (hmark : Marked s m p (91 :: v ++ [93]) rest)
    (hport : u.port = 0) (hv : 93 ∉ v) (hfollows : Follows (.bracket uri) rest) :
    result s (.bracket uri) p (some m, u) rest =
        hosted uri u (splitHost (91 :: v ++ [93] ++ authorityPart rest)) (behindAuthority rest) ∧
      64 ∉ authorityPart rest := by
  -- any other byte behind the bracket is refused
  have hrest : Ends rest ∨ ∃ cs, rest = 58 :: cs := by
    rcases ends_or_next rest with hends | ⟨c, cs, rfl, hc⟩
    · exact .inl hends
    · by_cases hcolon : c = 58
      · exact .inr ⟨cs, by rw [hcolon]⟩
      · exact (hfollows.stuck (move_bracket uri hc hcolon)).elim
  obtain ⟨hresult, hnoAt, -⟩ := result_hostEnd (hostEnd_bracket uri) hmark hport hfollows hrest
  rw [hresult, List.append_assoc, List.singleton_append, splitHost_literal hv]
  exact ⟨rfl, hnoAt⟩

theorem move_literal (uri : Bool) (hstuck : ¬ (c = 47 ∨ c = 63 ∨ c = 35 ∨ c = 64 ∨ c = 91))
    (hclose : c ≠ 93) : move (.literal uri) c = goes (.literal uri) [] := by
  simp only [not_or] at hstuck
  exact move_other [47, 63, 35, 64, 91, 93] rfl rfl
    (by simp [hclose, hstuck])

theorem move_literal_none (uri : Bool) (hstuck : c = 47 ∨ c = 63 ∨ c = 35 ∨ c = 64 ∨ c = 91) :
    move (.literal uri) c = none := by
  rcases hstuck with rfl | rfl | rfl | rfl | rfl <;> cases uri <;> rfl

/-- An IP literal of which `[` and `v` have been read. -/
theorem result_literal {uri : Bool} {v : Bytes} (hmark : Marked s m p (91 :: v) rest)
    (hport : u.port = 0) (hv : 93 ∉ v) (hfollows : Follows (.literal uri) rest) :
    result s (.literal uri) p (some m, u) rest =
        hosted uri u (splitHost (91 :: v ++ authorityPart rest)) (behindAuthority rest) ∧
      64 ∉ authorityPart rest := by
  induction rest generalizing p v with
  -- the bracket has to be closed
  | nil => exact absurd hfollows (by simp [Follows, Phase.final])
  | cons c cs ih =>
    by_cases hstuck : c = 47 ∨ c = 63 ∨ c = 35 ∨ c = 64 ∨ c = 91
    · exact (hfollows.stuck (move_literal_none uri hstuck)).elim
    obtain ⟨hslash, hquery, hhash, hat, -⟩ : c ≠ 47 ∧ c ≠ 63 ∧ c ≠ 35 ∧ c ≠ 64 ∧ c ≠ 91 := by
      simpa only [not_or] using hstuck
    have hc : c ≠ 47 ∧ c ≠ 63 ∧ c ≠ 35 := ⟨hslash, hquery, hhash⟩
    rw [(part_next hc).1, (part_next hc).2, List.mem_cons, not_or]
    by_cases hclose : c = 93
    · subst hclose
      have hmove : move (.literal uri) 93 = goes (.bracket uri) [] := by cases uri <;> rfl
      -- the bracket closes here
      obtain ⟨hresult, hnoAt⟩ := result_bracket hmark.next hport hv (hfollows.next hmove)
      rw [result_next hmove rfl, hresult, List.append_assoc, List.singleton_append]
      exact ⟨rfl, Ne.symm hat, hnoAt⟩
    · have hmove := move_literal uri hstuck hclose
      obtain ⟨hresult, hnoAt⟩ := ih (v := v ++ [c]) hmark.next
        (by simp [hv, Ne.symm hclose]) (hfollows.next hmove)
      rw [result_next hmove rfl, hresult, ← List.cons_append, List.append_assoc,
        List.singleton_append]
      exact ⟨rfl, Ne.symm hat, hnoAt⟩

/-- The host behind `@` may be empty. -/
theorem closing_host0 (uri : Bool) : Closing (.host0 uri) uri true save_host := by
  cases uri <;> exact ⟨rfl, rfl, rfl, rfl⟩

theorem move_host0 (uri : Bool) (hc : c ≠ 47 ∧ c ≠ 63 ∧ c ≠ 35) (hcolon : c ≠ 58) (hopen : c ≠ 91)
    (hstuck : ¬ (c = 64 ∨ c = 93)) : move (.host0 uri) c = goes (.host uri) [markh] := by
  simp only [not_or] at hstuck
  exact move_other [47, 63, 35, 58, 64, 91, 93] rfl rfl
    (by simp [hc, hcolon, hopen, hstuck])

theorem move_host0_none (uri : Bool) (hstuck : c = 64 ∨ c = 93) : move (.host0 uri) c = none := by
  rcases hstuck with rfl | rfl <;> cases uri <;> rfl

/-- The host behind `@`. -/
theorem result_host0 {uri : Bool} (hdrop : s.drop p = rest) (hport : u.port = 0) (mark : Option Nat)
    (hfollows : Follows (.host0 uri) rest) :
    result s (.host0 uri) p (mark, u) rest =
        hosted uri u (splitHost (authorityPart rest)) (behindAuthority rest) ∧
      64 ∉ authorityPart rest := by
  rcases ends_or_next rest with hends | ⟨c, cs, rfl, hc⟩
  · have hsave : performs s p (opening true save_host) (mark, u) =
        some (some p, { u with host := [] }) := by
      simp [opening, performs, perform]
    rw [result_close (closing_host0 uri) hdrop hends hsave (fun _ _ => rfl), (part_ends hends).1,
      (part_ends hends).2, show splitHost [] = ([], none) from rfl, hosted_none hport]
    exact ⟨rfl, List.not_mem_nil⟩
  · rw [(part_next hc).1, (part_next hc).2]
    by_cases hcolon : c = 58
    · subst hcolon
      have hmove : move (.host0 uri) 58 = goes (.port0 uri) [markh, save_host] := by
        cases uri <;> rfl
      have hsave : performs s p [markh, save_host] (mark, u) =
          some (some p, { u with host := [] }) := by
        simp [performs, perform]
      obtain ⟨hresult, hdigits⟩ := result_port0 (u := { u with host := [] }) (drop_next hdrop) hport
        (some p) (hfollows.next hmove)
      rw [result_next hmove hsave, hresult, ← List.nil_append (58 :: authorityPart cs),
        splitHost_name (fun c hc => by cases hc) (.inr ⟨_, rfl⟩), List.nil_append, List.mem_cons, not_or]
      exact ⟨rfl, by decide, digits_noAt hdigits⟩
    by_cases hopen : c = 91
    · subst hopen
      have hmove : move (.host0 uri) 91 = goes (.literal uri) [markh] := by cases uri <;> rfl
      obtain ⟨hresult, hnoAt⟩ := result_literal (u := u) (v := []) (Marked.first hdrop) hport
        List.not_mem_nil (hfollows.next hmove)
      rw [result_next (e := (some p, u)) hmove rfl, hresult, List.mem_cons, not_or]
      exact ⟨rfl, by decide, hnoAt⟩
    by_cases hstuck : c = 64 ∨ c = 93
    · exact (hfollows.stuck (move_host0_none uri hstuck)).elim
    have hmove := move_host0 uri hc hcolon hopen hstuck
    obtain ⟨hresult, hnoAt⟩ := result_host (u := u) (Marked.first hdrop) hport
      (by simpa using ⟨hcolon, hopen⟩) (hfollows.next hmove)
    rw [result_next (e := (some p, u)) hmove rfl, hresult, List.mem_cons, not_or]
    exact ⟨rfl, fun h => hstuck (.inl h.symm), hnoAt⟩

end UriParser

end MNSER
