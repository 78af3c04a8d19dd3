import Mnser.Uri.Authority

/-! # What the URI scanner stores of a text

    User information, then the start of the text.  `Create_stored` says what
    `Create` makes of every text it accepts. -/

namespace MNSER

namespace UriParser

open Http (Bytes text)
open Ranges Scanner UriParser.Action

variable {s pre rest cs : Bytes} {c : UInt8} {m p : Nat} {ph t : Phase} {acts : List Action}
  {d e : Data} {u : Uri}

/-! ## Section 1: User information -/

theorem notIn_one {x : UInt8} {w : Bytes} (hw : x ∉ w) : ∀ c ∈ w, c ∉ ([x] : Bytes) := by
  intro c hc
  rw [List.mem_singleton]
  rintro rfl
  exact hw hc

/-- Without `@` there is no user information. -/
theorem parseAuthority_noAt {w : Bytes} (hw : 64 ∉ w) :
    parseAuthority w = ⟨none, (splitHost w).1, (splitHost w).2⟩ := by
  simp only [parseAuthority, if_neg hw]

/-- The user information reaches up to the first `@`. -/
theorem parseAuthority_at {v w : Bytes} (hv : 64 ∉ v) :
    parseAuthority (v ++ 64 :: w) = ⟨some v, (splitHost w).1, (splitHost w).2⟩ := by
  have hmem : (64 : UInt8) ∈ v ++ 64 :: w := by simp
  have hw : ∀ c ∈ (64 :: w).head?, c ∈ ([64] : Bytes) := by simp
  simp only [parseAuthority, if_pos hmem, takeWhile_stop (notIn_one hv) hw,
    dropWhile_stop (notIn_one hv) hw, List.tail_cons]

/-- User information without a colon is stored as it is. -/
theorem storedUserinfo_name {w : Bytes} (hw : 58 ∉ w) : storedUserinfo w = w := by
  have hdrop : (w ++ []).dropWhile (notIn [58]) = [] :=
    dropWhile_stop (notIn_one hw) fun c hc => by cases hc
  rw [List.append_nil] at hdrop
  rw [storedUserinfo, hdrop]

/-- User information with a digit behind its first colon is stored from this digit
    on. -/
theorem storedUserinfo_colon {w : Bytes} (hw : 58 ∉ w) (v : Bytes) :
    storedUserinfo (w ++ 58 :: v) =
      if ∃ c ∈ v.head?, Strtol.isdigit 10 c = true then v else w ++ 58 :: v := by
  have hdrop : (w ++ 58 :: v).dropWhile (notIn [58]) = 58 :: v :=
    dropWhile_stop (notIn_one hw) (by simp)
  rw [storedUserinfo, hdrop]
  cases v with
  | nil => simp
  | cons c cs => simp

/-- An authority without user information is a host and a port. -/
theorem authored_noAt {uri : Bool} {w : Bytes} (hw : 64 ∉ w) (hu : u.userinfo = []) (s : Bytes) :
    authored uri u (parseAuthority w) s = hosted uri u (splitHost w) s := by
  have heq : { u with userinfo := storedUserinfo [] } = u := by
    rw [show storedUserinfo [] = [] from rfl, ← hu]
  rw [parseAuthority_noAt hw, authored, Option.getD_none, heq]

/-- The user information ends. -/
theorem result_at {uri : Bool} {v : Bytes} (hmove : move ph 64 = goes (.host0 uri) acts)
    (hdrop : s.drop p = 64 :: cs)
    (hacts : performs s p acts d = some (none, { u with userinfo := storedUserinfo v }))
    (hport : u.port = 0) (hv : 64 ∉ v) (hfollows : Follows ph (64 :: cs)) :
    result s ph p d (64 :: cs) =
      authored uri u (parseAuthority (v ++ authorityPart (64 :: cs))) (behindAuthority (64 :: cs)) := by
  have hat : (64 : UInt8) ≠ 47 ∧ (64 : UInt8) ≠ 63 ∧ (64 : UInt8) ≠ 35 := by decide
  obtain ⟨hresult, -⟩ := result_host0 (u := { u with userinfo := storedUserinfo v }) (drop_next hdrop)
    hport none (hfollows.next hmove)
  rw [result_next hmove hacts, hresult, (part_next hat).1, (part_next hat).2, parseAuthority_at hv,
    authored]
  rfl

theorem move_userinfo (uri : Bool) (hc : c ≠ 47 ∧ c ≠ 63 ∧ c ≠ 35) (hat : c ≠ 64) :
    move (.userinfo uri) c = goes (.userinfo uri) [] :=
  move_other [47, 63, 35, 64] rfl rfl (by simp [hc, hat])

/-- User information with a colon: `v` has been read of it, and is stored as
    what is behind the mark. -/
theorem result_userinfo {uri : Bool} {v : Bytes} (hmark : Marked s m p pre rest) (hport : u.port = 0)
    (hv : 64 ∉ v) (hstored : ∀ w, storedUserinfo (v ++ w) = pre ++ w)
    (hfollows : Follows (.userinfo uri) rest) :
    result s (.userinfo uri) p (some m, u) rest =
      authored uri u (parseAuthority (v ++ authorityPart rest)) (behindAuthority rest) := by
  -- the scanner looks for the `@`; what is stored may lack the front of `v`
  induction rest generalizing p pre v with
  -- an `@` has to come
  | nil => exact absurd hfollows (by simp [Follows, Phase.final])
  | cons c cs ih =>
    by_cases hat : c = 64
    · subst hat
      have hpre : storedUserinfo v = pre := by simpa using hstored []
      have hacts : performs s p [save_userinfo] (some m, u) =
          some (none, { u with userinfo := storedUserinfo v }) := by
        simp [performs, perform, hmark.text, hpre]
      exact result_at (by cases uri <;> rfl) hmark.ahead hacts hport hv hfollows
    · have hc : c ≠ 47 ∧ c ≠ 63 ∧ c ≠ 35 := by
        refine ⟨?_, ?_, ?_⟩ <;> rintro rfl <;> exact hfollows.stuck (by cases uri <;> rfl)
      have hmove := move_userinfo uri hc hat
      have hv' : 64 ∉ v ++ [c] := by simp [hv, Ne.symm hat]
      have hstored' : ∀ w, storedUserinfo (v ++ [c] ++ w) = pre ++ [c] ++ w := by
        intro w
        rw [List.append_assoc, hstored, List.append_assoc]
      rw [result_next hmove rfl, ih hmark.next hv' hstored' (hfollows.next hmove), (part_next hc).1,
        (part_next hc).2, List.append_assoc, List.singleton_append]

/-- The text in front of the first colon, before it is known to be a host. -/
structure Name (w : Bytes) : Prop where
  noColon : 58 ∉ w
  noOpen  : 91 ∉ w
  noAt    : 64 ∉ w

theorem Name.host {w : Bytes} (h : Name w) : ∀ c ∈ w, c ≠ 58 ∧ c ≠ 91 := by
  intro c hc
  constructor <;> rintro rfl
  · exact h.noColon hc
  · exact h.noOpen hc

/-- An authority can end with digits that may be a port. -/
theorem closing_digits (uri : Bool) : Closing (.digits uri) uri false save_port := by
  cases uri <;> exact ⟨rfl, rfl, rfl, rfl⟩

/-- The outline also ends an authority behind its first colon. -/
theorem closing_colon (uri : Bool) : Closing (.colon uri) uri true save_port := by
  cases uri <;> exact ⟨rfl, rfl, rfl, rfl⟩

theorem move_digits (uri : Bool) (hc : Strtol.isdigit 10 c = true) :
    move (.digits uri) c = goes (.digits uri) [] := by
  have hall : ∀ c ∈ digits, move (.digits uri) c = goes (.digits uri) [] := by
    cases uri <;> decide +kernel
  exact hall c ((mem_digits c).mp hc)

theorem move_colon (uri : Bool) (hc : Strtol.isdigit 10 c = true) :
    move (.colon uri) c = goes (.digits uri) [markh] := by
  have hall : ∀ c ∈ digits, move (.colon uri) c = goes (.digits uri) [markh] := by
    cases uri <;> decide +kernel
  exact hall c ((mem_digits c).mp hc)

/-- What is behind the first colon is user information. -/
theorem move_noPort (uri : Bool) (hc : c ≠ 47 ∧ c ≠ 63 ∧ c ≠ 35) (hat : c ≠ 64)
    (hdigit : ¬ Strtol.isdigit 10 c = true) :
    move (.colon uri) c = goes (.userinfo uri) [] ∧
      move (.digits uri) c = goes (.userinfo uri) [] := by
  have hstops : c ∉ [47, 63, 35, 64] ++ digits := by
    simpa [hc.1, hc.2.1, hc.2.2, hat] using mt (mem_digits c).mpr hdigit
  constructor
  · exact move_other ([47, 63, 35, 64] ++ digits) rfl rfl hstops
  · exact move_other ([47, 63, 35, 64] ++ digits) rfl rfl hstops

/-- An authority of a name and a port. -/
theorem close_digits {uri : Bool} {name : Bytes} (hmark : Marked s m p pre rest)
    (huserinfo : u.userinfo = []) (hname : Name name) (hhost : u.host = name)
    (hpre : ∀ c ∈ pre, Strtol.isdigit 10 c = true) (hne : pre ≠ []) (hends : Ends rest) :
    result s (.digits uri) p (some m, u) rest =
      authored uri u (parseAuthority (name ++ 58 :: (pre ++ authorityPart rest)))
        (behindAuthority rest) := by
  have hnoAt : 64 ∉ name ++ 58 :: pre := by simp [hname.noAt, digits_noAt hpre]
  have hsplit : splitHost (name ++ 58 :: pre) = (name, some pre) := by
    rw [splitHost_name hname.host (.inr ⟨_, rfl⟩)]
    rfl
  rw [result_close (closing_digits uri) hmark.ahead hends (save_digits hmark hpre hne hends)
    (fun h => by cases h), (part_ends hends).1, (part_ends hends).2, List.append_nil,
    authored_noAt hnoAt huserinfo, hsplit, hosted, if_pos ⟨hpre, by simp [hne]⟩, ← hhost]
  rfl

/-- Digits behind the first colon: a port, or the start of a password. -/
theorem result_digits {uri : Bool} {name : Bytes} (hmark : Marked s m p pre rest) (hport : u.port = 0)
    (huserinfo : u.userinfo = []) (hname : Name name) (hhost : u.host = name)
    (hpre : ∀ c ∈ pre, Strtol.isdigit 10 c = true) (hne : pre ≠ [])
    (hfollows : Follows (.digits uri) rest) :
    result s (.digits uri) p (some m, u) rest =
      authored uri u (parseAuthority (name ++ 58 :: (pre ++ authorityPart rest)))
        (behindAuthority rest) := by
  induction rest generalizing p pre with
  | nil => exact close_digits hmark huserinfo hname hhost hpre hne fun c hc => by cases hc
  | cons c cs ih =>
    rcases ends_or_next (c :: cs) with hends | ⟨c', cs', heq, hc⟩
    · exact close_digits hmark huserinfo hname hhost hpre hne hends
    obtain ⟨rfl, rfl⟩ := List.cons_eq_cons.mp heq
    -- the first digit has been read
    have hfirst : ∀ w, ∃ c ∈ (pre ++ w).head?, Strtol.isdigit 10 c = true := by
      intro w
      cases pre with
      | nil => exact absurd rfl hne
      | cons x xs => exact ⟨x, rfl, hpre x List.mem_cons_self⟩
    -- whatever follows, the mark stays at the first digit
    have hstored : ∀ w, storedUserinfo (name ++ 58 :: (pre ++ w)) = pre ++ w := by
      intro w
      rw [storedUserinfo_colon hname.noColon, if_pos (hfirst w)]
    -- they were the password
    by_cases hat : c = 64
    · subst hat
      have hnoAt : 64 ∉ name ++ 58 :: pre := by simp [hname.noAt, digits_noAt hpre]
      have hacts : performs s p [save_userinfo] (some m, u) =
          some (none, { u with userinfo := storedUserinfo (name ++ 58 :: pre) }) := by
        have hpre' := hstored []
        rw [List.append_nil] at hpre'
        simp [performs, perform, hmark.text, hpre']
      have hmove : move (.digits uri) 64 = goes (.host0 uri) [save_userinfo] := by
        cases uri <;> rfl
      rw [result_at hmove hmark.ahead hacts hport hnoAt hfollows, List.append_assoc, List.cons_append]
    by_cases hdigit : Strtol.isdigit 10 c = true
    · have hmove := move_digits uri hdigit
      have hpre' : ∀ x ∈ pre ++ [c], Strtol.isdigit 10 x = true := by
        intro x hx
        rcases List.mem_append.mp hx with hx | hx
        · exact hpre x hx
        · rw [List.mem_singleton.mp hx]
          exact hdigit
      rw [result_next hmove rfl, ih hmark.next hpre' (by simp) (hfollows.next hmove), (part_next hc).1,
        (part_next hc).2, List.append_assoc, List.singleton_append]
    · -- they are the front of a password
      have hmove := (move_noPort uri hc hat hdigit).2
      have hstored' : ∀ w, storedUserinfo (name ++ 58 :: (pre ++ [c]) ++ w) = pre ++ [c] ++ w := by
        intro w
        rw [List.append_assoc, List.cons_append, List.append_assoc, hstored]
      have hnoAt : 64 ∉ name ++ 58 :: (pre ++ [c]) := by
        simp [hname.noAt, digits_noAt hpre, Ne.symm hat]
      rw [result_next hmove rfl, result_userinfo hmark.next hport hnoAt hstored' (hfollows.next hmove),
        (part_next hc).1, (part_next hc).2, List.append_assoc, List.cons_append, List.append_assoc,
        List.singleton_append]

/-- Behind the first colon: a port, an empty port, or a password. -/
theorem result_colon {uri : Bool} (name : Bytes) (hmark : Marked s m p (name ++ [58]) rest)
    (hport : u.port = 0) (huserinfo : u.userinfo = []) (hname : Name name) (hhost : u.host = name)
    (hfollows : Follows (.colon uri) rest) :
    result s (.colon uri) p (some m, u) rest =
      authored uri u (parseAuthority (name ++ 58 :: authorityPart rest)) (behindAuthority rest) := by
  have hnoAt : 64 ∉ name ++ [58] := by simp [hname.noAt]
  -- nothing behind the colon: the port is empty
  rcases ends_or_next rest with hends | ⟨c, cs, rfl, hc⟩
  · have hsplit : splitHost (name ++ [58]) = (name, some []) := by
      rw [splitHost_name hname.host (.inr ⟨[], rfl⟩)]
      rfl
    rw [(part_ends hends).1, (part_ends hends).2, authored_noAt hnoAt huserinfo, hsplit, hosted]
    cases uri with
    | true => rw [result_emptyPort (closing_colon true) hends, if_neg fun h => h.filled ⟨rfl, rfl⟩]
    | false =>
      have hsave : performs s p (opening true save_port) (some m, u) = some (none, u) := by
        simp [opening, performs, perform]
      rw [result_close (closing_colon false) hmark.ahead hends hsave (fun _ h => by cases h),
        if_pos ⟨by simp, by simp⟩]
      simp only [Option.getD_some, show strtoi 10 [] = 0 from rfl, ← hport, ← hhost]
  -- an empty password: the mark is still at the name
  by_cases hat : c = 64
  · subst hat
    have hacts : performs s p [save_userinfo] (some m, u) =
        some (none, { u with userinfo := storedUserinfo (name ++ [58]) }) := by
      simp [performs, perform, hmark.text, storedUserinfo_colon hname.noColon]
    have hmove : move (.colon uri) 64 = goes (.host0 uri) [save_userinfo] := by cases uri <;> rfl
    rw [result_at hmove hmark.ahead hacts hport hnoAt hfollows, List.append_assoc,
      List.singleton_append]
  -- a digit sets the mark again
  by_cases hdigit : Strtol.isdigit 10 c = true
  · have hmove := move_colon uri hdigit
    have hone : ∀ x ∈ [c], Strtol.isdigit 10 x = true := fun x hx => by
      rw [List.mem_singleton.mp hx]
      exact hdigit
    rw [result_next (e := (some p, u)) hmove rfl, result_digits (Marked.first hmark.ahead) hport huserinfo
      hname hhost hone (List.cons_ne_nil _ _) (hfollows.next hmove), (part_next hc).1, (part_next hc).2,
      List.singleton_append]
  · have hmove := (move_noPort uri hc hat hdigit).1
    have hstored : ∀ w, storedUserinfo (name ++ [58] ++ [c] ++ w) = name ++ [58] ++ [c] ++ w := by
      intro w
      rw [List.append_assoc, List.append_assoc, List.singleton_append, List.singleton_append,
        storedUserinfo_colon hname.noColon, if_neg (by simpa using hdigit)]
    have hnoAt' : 64 ∉ name ++ [58] ++ [c] := by simp [hname.noAt, Ne.symm hat]
    rw [result_next hmove rfl, result_userinfo hmark.next hport hnoAt' hstored (hfollows.next hmove),
      (part_next hc).1, (part_next hc).2, List.append_assoc, List.append_assoc, List.singleton_append,
      List.singleton_append]

/-- An authority can end with what may be a host. -/
theorem closing_name (uri : Bool) : Closing (.name uri) uri false save_host := by
  cases uri <;> exact ⟨rfl, rfl, rfl, rfl⟩

/-- An authority may be empty. -/
theorem closing_authority (uri : Bool) : Closing (.authority uri) uri true save_host := by
  cases uri <;> exact ⟨rfl, rfl, rfl, rfl⟩

theorem move_name (uri : Bool) (hc : c ≠ 47 ∧ c ≠ 63 ∧ c ≠ 35) (hcolon : c ≠ 58) (hat : c ≠ 64)
    (hopen : c ≠ 91) (hclose : c ≠ 93) (hquirk : c ≠ 2) :
    move (.name uri) c = goes (.name uri) [] :=
  move_other [47, 63, 35, 58, 64, 91, 93, 2] rfl rfl
    (by simp [hc, hcolon, hat, hopen, hclose, hquirk])

theorem move_authority (uri : Bool) (hc : c ≠ 47 ∧ c ≠ 63 ∧ c ≠ 35) (hcolon : c ≠ 58) (hat : c ≠ 64)
    (hopen : c ≠ 91) (hclose : c ≠ 93) (hquirk : c ≠ 2) :
    move (.authority uri) c = goes (.name uri) [markh] :=
  move_other [47, 63, 35, 58, 64, 91, 93, 2] rfl rfl
    (by simp [hc, hcolon, hat, hopen, hclose, hquirk])

theorem Name.nil : Name [] := ⟨List.not_mem_nil, List.not_mem_nil, List.not_mem_nil⟩

/-- One more byte of a name. -/
theorem Name.next {w : Bytes} (h : Name w) (hcolon : c ≠ 58) (hat : c ≠ 64) (hopen : c ≠ 91) :
    Name (w ++ [c]) := by
  constructor
  · simp [h.noColon, Ne.symm hcolon]
  · simp [h.noOpen, Ne.symm hopen]
  · simp [h.noAt, Ne.symm hat]

/-- An authority that is a host only. -/
theorem close_name {uri fresh : Bool} (h : Closing ph uri fresh save_host) (hdrop : s.drop p = rest)
    (hport : u.port = 0) (huserinfo : u.userinfo = []) (hname : Name pre) (hends : Ends rest)
    {mark : Option Nat}
    (hsave : performs s p (opening fresh save_host) d = some (mark, { u with host := pre }))
    (hfresh : fresh = true → uri = true → mark = some p) :
    result s ph p d rest =
      authored uri u (parseAuthority (pre ++ authorityPart rest)) (behindAuthority rest) := by
  have hsplit : splitHost pre = (pre, none) := by
    have hw := splitHost_name hname.host (.inl rfl : [] = [] ∨ _)
    rw [List.append_nil] at hw
    exact hw
  rw [result_close h hdrop hends hsave hfresh, (part_ends hends).1, (part_ends hends).2,
    List.append_nil, authored_noAt hname.noAt huserinfo, hsplit, hosted_none hport]

/-- What looks like a host until a colon, `@` or the end. -/
theorem result_name {uri : Bool} (hmark : Marked s m p pre rest) (hport : u.port = 0)
    (huserinfo : u.userinfo = []) (hname : Name pre) (hfollows : Follows (.name uri) rest) :
    result s (.name uri) p (some m, u) rest =
      authored uri u (parseAuthority (pre ++ authorityPart rest)) (behindAuthority rest) := by
  induction rest generalizing p pre with
  | nil =>
    have hsave : performs s p [save_host] (some m, u) = some (some m, { u with host := pre }) := by
      simp [performs, perform, hmark.text]
    exact close_name (closing_name uri) hmark.ahead hport huserinfo hname (fun c hc => by cases hc)
      hsave (fun h => by cases h)
  | cons c cs ih =>
    have hsave : performs s p [save_host] (some m, u) = some (some m, { u with host := pre }) := by
      simp [performs, perform, hmark.text]
    rcases ends_or_next (c :: cs) with hends | ⟨c', cs', heq, hc⟩
    · exact close_name (closing_name uri) hmark.ahead hport huserinfo hname hends hsave
        (fun h => by cases h)
    obtain ⟨rfl, rfl⟩ := List.cons_eq_cons.mp heq
    by_cases hat : c = 64
    · subst hat
      have hacts : performs s p [save_userinfo] (some m, u) =
          some (none, { u with userinfo := storedUserinfo pre }) := by
        simp [performs, perform, hmark.text, storedUserinfo_name hname.noColon]
      exact result_at (by cases uri <;> rfl) hmark.ahead hacts hport hname.noAt hfollows
    rw [(part_next hc).1, (part_next hc).2]
    by_cases hcolon : c = 58
    · subst hcolon
      have hmove : move (.name uri) 58 = goes (.colon uri) [save_host] := by cases uri <;> rfl
      rw [result_next hmove hsave, result_colon (u := { u with host := pre }) pre hmark.next hport
        huserinfo hname rfl (hfollows.next hmove)]
      rfl
    by_cases hopen : c = 91
    · subst hopen
      exact (hfollows.stuck (by cases uri <;> rfl)).elim
    by_cases hclose : c = 93
    · subst hclose
      exact (hfollows.stuck (by cases uri <;> rfl)).elim
    have hname' := hname.next hcolon hat hopen
    -- a byte 2 is for the scanner the start of a host: no `@` may follow
    by_cases hquirk : c = 2
    · subst hquirk
      have hmove : move (.name uri) 2 = goes (.host uri) [] := by cases uri <;> rfl
      obtain ⟨hresult, hnoAt⟩ := result_host (u := u) hmark.next hport hname'.host (hfollows.next hmove)
      have hnoAt' : 64 ∉ pre ++ [2] ++ authorityPart cs := by
        rw [List.mem_append, not_or]
        exact ⟨hname'.noAt, hnoAt⟩
      rw [result_next hmove rfl, hresult, ← authored_noAt hnoAt' huserinfo, List.append_assoc,
        List.singleton_append]
    · have hmove := move_name uri hc hcolon hat hopen hclose hquirk
      rw [result_next hmove rfl, ih hmark.next hname' (hfollows.next hmove), List.append_assoc,
        List.singleton_append]

/-- What follows `//`. -/
theorem result_authority {uri : Bool} (hdrop : s.drop p = rest) (hport : u.port = 0)
    (huserinfo : u.userinfo = []) (mark : Option Nat) (hfollows : Follows (.authority uri) rest) :
    result s (.authority uri) p (mark, u) rest =
      authored uri u (parseAuthority (authorityPart rest)) (behindAuthority rest) := by
  have hsave : performs s p [markh, save_host] (mark, u) =
      some (some p, { u with host := [] }) := by
    simp [performs, perform]
  -- an empty authority
  rcases ends_or_next rest with hends | ⟨c, cs, rfl, hc⟩
  · exact close_name (closing_authority uri) hdrop hport huserinfo Name.nil hends hsave
      (fun _ _ => rfl)
  by_cases hat : c = 64
  · subst hat
    have hacts : performs s p [markh, save_userinfo] (mark, u) =
        some (none, { u with userinfo := storedUserinfo [] }) := by
      simp [performs, perform, storedUserinfo]
    exact result_at (by cases uri <;> rfl) hdrop hacts hport List.not_mem_nil hfollows
  rw [(part_next hc).1, (part_next hc).2]
  by_cases hcolon : c = 58
  · subst hcolon
    have hmove : move (.authority uri) 58 = goes (.colon uri) [markh, save_host] := by
      cases uri <;> rfl
    rw [result_next hmove hsave, result_colon (u := { u with host := [] }) []
      (Marked.first hdrop) hport huserinfo Name.nil rfl (hfollows.next hmove)]
    rfl
  -- only here an IP literal may begin
  by_cases hopen : c = 91
  · subst hopen
    have hmove : move (.authority uri) 91 = goes (.literal uri) [markh] := by cases uri <;> rfl
    obtain ⟨hresult, hnoAt⟩ := result_literal (u := u) (v := []) (Marked.first hdrop) hport
      List.not_mem_nil (hfollows.next hmove)
    have hnoAt' : 64 ∉ 91 :: authorityPart cs := by
      rw [List.mem_cons, not_or]
      exact ⟨by decide, hnoAt⟩
    rw [result_next (e := (some p, u)) hmove rfl, hresult, authored_noAt hnoAt' huserinfo]
    rfl
  by_cases hclose : c = 93
  · subst hclose
    exact (hfollows.stuck (by cases uri <;> rfl)).elim
  have hname' : Name [c] := Name.nil.next hcolon hat hopen
  by_cases hquirk : c = 2
  · subst hquirk
    have hmove : move (.authority uri) 2 = goes (.host uri) [markh] := by cases uri <;> rfl
    obtain ⟨hresult, hnoAt⟩ := result_host (u := u) (Marked.first hdrop) hport hname'.host
      (hfollows.next hmove)
    have hnoAt' : 64 ∉ 2 :: authorityPart cs := by
      rw [List.mem_cons, not_or]
      exact ⟨by decide, hnoAt⟩
    rw [result_next (e := (some p, u)) hmove rfl, hresult, authored_noAt hnoAt' huserinfo]
    rfl
  · have hmove := move_authority uri hc hcolon hat hopen hclose hquirk
    rw [result_next (e := (some p, u)) hmove rfl, result_name (u := u) (Marked.first hdrop) hport
      huserinfo hname' (hfollows.next hmove)]
    rfl

/-! ## Section 2: The start of a text -/

/-- Without `//` there is no authority. -/
theorem splitAuthority_none (h : ∀ cs, s ≠ 47 :: 47 :: cs) : splitAuthority s = (none, s) := by
  unfold splitAuthority
  split
  · exact absurd rfl (h _)
  · rfl

/-- Without an authority the path is not saved. -/
theorem hierarchy_none (uri : Bool) (h : ∀ cs, s ≠ 47 :: 47 :: cs) :
    hierarchy uri u s = some (behind u (behindPath s)) := by
  rw [hierarchy, splitAuthority_none h]

/-- A slash in front of an authority, or of a path. -/
structure Slash (ph : Phase) (uri : Bool) : Prop where
  slash  : move ph 47 = goes (.authority uri) []
  hash   : move ph 35 = goes .fragment0 []
  query  : move ph 63 = goes .query0 []
  ending : ending ph = []
  path   : ∀ {c : UInt8}, c ≠ 47 → c ≠ 35 → c ≠ 63 → move ph c = goes .path []

/-- The slash at the start of a relative reference. -/
theorem slash_slash : Slash .slash false :=
  ⟨rfl, rfl, rfl, rfl, fun hslash hhash hquery =>
    move_other [47, 35, 63] rfl rfl (by simp [hslash, hhash, hquery])⟩

/-- The slash behind a scheme. -/
theorem slash_schemeSlash : Slash .schemeSlash true :=
  ⟨rfl, rfl, rfl, rfl, fun hslash hhash hquery =>
    move_other [47, 35, 63] rfl rfl (by simp [hslash, hhash, hquery])⟩

/-- Behind a first slash an authority begins with a second one. -/
theorem result_slash {uri : Bool} (h : Slash ph uri) (hdrop : s.drop p = rest) (hport : u.port = 0)
    (huserinfo : u.userinfo = []) (mark : Option Nat) (hfollows : Follows ph rest) :
    result s ph p (mark, u) rest = hierarchy uri u (47 :: rest) := by
  cases rest with
  | nil =>
    rw [result_nil, h.ending, hierarchy_none uri (by simp)]
    rfl
  | cons c cs =>
    -- the second slash
    by_cases hslash : c = 47
    · subst hslash
      rw [result_next (e := (mark, u)) h.slash rfl, result_authority (drop_next hdrop) hport huserinfo
        mark (hfollows.next h.slash)]
      rfl
    have hnone : ∀ cs', 47 :: c :: cs ≠ 47 :: 47 :: cs' := by simp [hslash]
    -- otherwise the slash was the start of a path
    rw [hierarchy_none uri hnone, behindPath_next (by decide) (by decide)]
    by_cases hc : c = 35 ∨ c = 63
    · rw [result_behind hdrop h.hash h.query rfl hc, behindPath_stop hc]
    · obtain ⟨hhash, hquery⟩ := not_or.mp hc
      have hmove := h.path hslash hhash hquery
      rw [result_next (e := (mark, u)) hmove rfl, result_path (drop_next hdrop),
        behindPath_next hhash hquery]

theorem move_afterScheme (hslash : c ≠ 47) (hhash : c ≠ 35) (hquery : c ≠ 63) :
    move .afterScheme c = goes .path [] :=
  move_other [47, 35, 63] rfl rfl (by simp [hslash, hhash, hquery])

/-- What follows the colon of a scheme. -/
theorem result_afterScheme (hdrop : s.drop p = rest) (hport : u.port = 0)
    (huserinfo : u.userinfo = []) (mark : Option Nat) (hfollows : Follows .afterScheme rest) :
    result s .afterScheme p (mark, u) rest = hierarchy true u rest := by
  cases rest with
  | nil => rfl
  | cons c cs =>
    by_cases hslash : c = 47
    · subst hslash
      have hmove : move .afterScheme 47 = goes .schemeSlash [] := rfl
      rw [result_next (e := (mark, u)) hmove rfl, result_slash slash_schemeSlash (drop_next hdrop)
        hport huserinfo mark (hfollows.next hmove)]
    rw [hierarchy_none true (by simp [hslash])]
    by_cases hc : c = 35 ∨ c = 63
    · rw [result_behind hdrop rfl rfl rfl hc, behindPath_stop hc]
    · obtain ⟨hhash, hquery⟩ := not_or.mp hc
      rw [result_next (e := (mark, u)) (move_afterScheme hslash hhash hquery) rfl,
        result_path (drop_next hdrop), behindPath_next hhash hquery]

/-- Without a colon in front of the first `/`, `?` or `#` there is no scheme. -/
theorem splitScheme_none (h : 58 ∉ authorityPart s) : splitScheme s = (none, s) := by
  have hsplit := List.takeWhile_append_dropWhile (p := notIn [58, 47, 63, 35]) (l := s)
  unfold splitScheme
  split
  · rename_i rest hdrop
    rw [hdrop] at hsplit
    have hname : ∀ c ∈ s.takeWhile (notIn [58, 47, 63, 35]), notIn [47, 63, 35] c = true := by
      intro c hc
      have hstop := List.mem_takeWhile_imp hc
      simp only [notIn, List.contains_cons, Bool.not_eq_true', Bool.or_eq_false_iff] at hstop ⊢
      exact hstop.2
    -- a colon up to which there is no other delimiter
    have hmem : (58 : UInt8) ∈ authorityPart s := by
      rw [← hsplit, authorityPart, List.takeWhile_append_of_pos hname,
        List.takeWhile_cons_of_pos (by decide)]
      simp
    exact absurd hmem h
  · rfl

/-- The scheme reaches up to the colon. -/
theorem splitScheme_some (hpre : ∀ c ∈ pre, c ∉ ([58, 47, 63, 35] : Bytes)) (hne : pre ≠ []) :
    splitScheme (pre ++ 58 :: cs) = (some pre, cs) := by
  have hhead : ∀ c ∈ (58 :: cs).head?, c ∈ ([58, 47, 63, 35] : Bytes) := by simp
  simp only [splitScheme, takeWhile_stop hpre hhead, dropWhile_stop hpre hhead, if_neg hne]

/-- A relative reference that starts with a path segment. -/
theorem stored_relative (hpre : ∀ c ∈ pre, c ∉ ([58, 47, 63, 35] : Bytes)) (hne : pre ≠ [])
    (hrest : 58 ∉ authorityPart rest) :
    stored (pre ++ rest) = some (behind Uri.new (behindPath rest)) := by
  have hpart : ∀ c ∈ pre, notIn [47, 63, 35] c = true := by
    intro c hc
    have hstop := hpre c hc
    simp only [List.mem_cons, not_or] at hstop
    simp [notIn, hstop]
  have hpath : ∀ c ∈ pre, notIn [63, 35] c = true := by
    intro c hc
    have hstop := hpre c hc
    simp only [List.mem_cons, not_or] at hstop
    simp [notIn, hstop]
  have hcolon : 58 ∉ authorityPart (pre ++ rest) := by
    rw [authorityPart, List.takeWhile_append_of_pos hpart, List.mem_append, not_or]
    exact ⟨fun h => hpre 58 h (by simp), hrest⟩
  have hslash : ∀ cs', pre ++ rest ≠ 47 :: 47 :: cs' := by
    intro cs' heq
    cases pre with
    | nil => exact hne rfl
    | cons c cs =>
      obtain ⟨rfl, -⟩ := List.cons_eq_cons.mp heq
      exact hpre 47 List.mem_cons_self (by simp)
  rw [stored, splitScheme_none hcolon, hierarchy_none _ hslash, behindPath,
    List.dropWhile_append_of_pos hpath]
  rfl

/-- A byte of a scheme goes on with it, or makes it a path segment. -/
theorem move_scheme : ∀ c : UInt8, c ≠ 35 → c ≠ 47 → c ≠ 58 → c ≠ 63 →
    move .scheme c = goes .segment [] ∨ move .scheme c = goes .scheme [] := by
  apply forall_byte
  decide +kernel

/-- A scheme, or the first segment of a path. -/
theorem result_scheme (hmark : Marked s m p pre rest)
    (hpre : ∀ c ∈ pre, c ∉ ([58, 47, 63, 35] : Bytes)) (hne : pre ≠ [])
    (hfollows : Follows .scheme rest) :
    result s .scheme p (some m, Uri.new) rest = stored (pre ++ rest) := by
  induction rest generalizing p pre with
  | nil =>
    rw [stored_relative hpre hne (by simp [authorityPart])]
    rfl
  | cons c cs ih =>
    by_cases hc : c = 35 ∨ c = 63
    · rw [result_behind hmark.ahead rfl rfl rfl hc, stored_relative hpre hne, behindPath_stop hc]
      rcases hc with rfl | rfl <;> exact List.not_mem_nil
    obtain ⟨hhash, hquery⟩ := not_or.mp hc
    -- what was read is the first segment of a path
    by_cases hslash : c = 47
    · subst hslash
      rw [result_next (t := .path) rfl rfl, result_path hmark.next.ahead,
        stored_relative hpre hne List.not_mem_nil]
      rfl
    -- what was read is a scheme, and is saved
    by_cases hcolon : c = 58
    · subst hcolon
      have hacts : performs s p [save_scheme] (some m, Uri.new) =
          some (none, { Uri.new with scheme := pre }) := by
        simp [performs, perform, hmark.text]
      have hmove : move .scheme 58 = goes .afterScheme [save_scheme] := rfl
      rw [result_next hmove hacts, result_afterScheme hmark.next.ahead rfl rfl none
        (hfollows.next hmove), stored, splitScheme_some hpre hne]
      rfl
    have hpre' : ∀ x ∈ pre ++ [c], x ∉ ([58, 47, 63, 35] : Bytes) := by
      intro x hx
      rcases List.mem_append.mp hx with hx | hx
      · exact hpre x hx
      · rw [List.mem_singleton.mp hx]
        simp [hhash, hquery, hslash, hcolon]
    rw [← List.singleton_append, ← List.append_assoc]
    -- a byte that no scheme has, or one more of the scheme
    rcases move_scheme c hhash hslash hcolon hquery with hmove | hmove
    · obtain ⟨hresult, hnoColon⟩ := result_segment (d := (some m, Uri.new)) hmark.next.ahead
        (hfollows.next hmove)
      rw [List.singleton_append, result_next (e := (some m, Uri.new)) hmove rfl, hresult,
        stored_relative hpre' (by simp) hnoColon]
    · rw [List.singleton_append, result_next (e := (some m, Uri.new)) hmove rfl,
        ih hmark.next hpre' (by simp) (hfollows.next hmove)]

/-- The first byte of a text begins a scheme, or a path segment. -/
theorem move_start : ∀ c : UInt8, c ≠ 35 → c ≠ 47 → c ≠ 58 → c ≠ 63 →
    move .start c = goes .segment [] ∨ move .start c = goes .scheme [marku] := by
  apply forall_byte
  decide +kernel

/-- The outline stores what the text says, from its first byte on. -/
theorem result_start (hfollows : Follows .start s) :
    result s .start 0 (none, Uri.new) s = stored s := by
  cases s with
  | nil => rfl
  | cons c cs =>
    have hdrop : (c :: cs).drop 0 = c :: cs := rfl
    have hnone : c = 47 ∨ c = 35 ∨ c = 63 → splitScheme (c :: cs) = (none, c :: cs) := by
      intro hc
      refine splitScheme_none ?_
      rcases hc with rfl | rfl | rfl <;> exact List.not_mem_nil
    by_cases hc : c = 35 ∨ c = 63
    · have hslash : ∀ cs', c :: cs ≠ 47 :: 47 :: cs' := by
        intro cs' heq
        obtain ⟨rfl, -⟩ := List.cons_eq_cons.mp heq
        exact absurd hc (by decide)
      rw [result_behind hdrop rfl rfl rfl hc, stored, hnone (.inr hc), hierarchy_none _ hslash,
        behindPath_stop hc]
      rfl
    obtain ⟨hhash, hquery⟩ := not_or.mp hc
    by_cases hslash : c = 47
    · subst hslash
      have hmove : move .start 47 = goes .slash [] := rfl
      rw [result_next (e := (none, Uri.new)) hmove rfl, result_slash (u := Uri.new) slash_slash
        (drop_next hdrop) rfl rfl none (hfollows.next hmove), stored, hnone (.inl rfl)]
      rfl
    -- an empty scheme is refused
    by_cases hcolon : c = 58
    · subst hcolon
      exact (hfollows.stuck rfl).elim
    have hone : ∀ x ∈ [c], x ∉ ([58, 47, 63, 35] : Bytes) := by
      simp [hhash, hquery, hslash, hcolon]
    rcases move_start c hhash hslash hcolon hquery with hmove | hmove
    · obtain ⟨hresult, hnoColon⟩ := result_segment (d := (none, Uri.new)) (drop_next hdrop)
        (hfollows.next hmove)
      rw [result_next (e := (none, Uri.new)) hmove rfl, hresult, ← List.singleton_append (l := cs),
        stored_relative hone (List.cons_ne_nil _ _) hnoColon]
    · rw [result_next (e := (some 0, Uri.new)) hmove rfl, result_scheme (Marked.first hdrop) hone
        (List.cons_ne_nil _ _) (hfollows.next hmove)]
      rfl

/-- What `Create` makes of an accepted text. -/
theorem Create_stored (h : Accepts uri_parser_start s) :
    Uri.Create s = match stored s with
      | none => .threw
      | some u => .uri u := by
  have hresult := result_start (h.follows rfl)
  rw [Create_eq h, ← hresult, result]
  cases runFrom s .start 0 (none, Uri.new) s <;> rfl

end UriParser

end MNSER
