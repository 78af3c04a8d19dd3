import Mnser.Http.Passage
import Mnser.Uri.Components
import Mnser.Uri.Outline

/-! # What the URI scanner stores

    The outline is followed from the end of a text to its start: for each
    phase a lemma says what the rest of the text adds to the object.  This
    module comes as far as the end of an authority. -/

namespace MNSER

namespace UriParser

open Http (Bytes text)
open Ranges Scanner UriParser.Action

/-! ## Section 1: The object -/

/-- The mark is set again at a digit behind the first colon. -/
def storedUserinfo (userinfo : Bytes) : Bytes :=
  match userinfo.dropWhile (notIn [58]) with
  | 58 :: c :: rest => if Strtol.isdigit 10 c then c :: rest else userinfo
  | _ => userinfo

/-- The query and the fragment, from the end of the path on. -/
def behind (u : Uri) (s : Bytes) : Uri :=
  { u with query := (queryOf s).getD u.query, fragment := (fragmentOf s).getD u.fragment }

/-- Only the path of a URI with an authority is saved. -/
def afterAuthority (uri : Bool) (u : Uri) (s : Bytes) : Uri :=
  behind { u with path := if uri then pathOf s else u.path } (behindPath s)

/-- A port is a number, and an empty port in a URI throws. -/
structure PortOk (uri : Bool) (port : Option Bytes) : Prop where
  digits : ∀ c ∈ port.getD [], Strtol.isdigit 10 c = true
  filled : ¬ (uri = true ∧ port = some [])

instance (uri : Bool) (port : Option Bytes) : Decidable (PortOk uri port) :=
  decidable_of_iff ((∀ c ∈ port.getD [], Strtol.isdigit 10 c = true) ∧
    ¬ (uri = true ∧ port = some [])) ⟨fun h => ⟨h.1, h.2⟩, fun h => ⟨h.digits, h.filled⟩⟩

/-- The host and the port, and what is behind them. -/
def hosted (uri : Bool) (u : Uri) (a : Bytes × Option Bytes) (s : Bytes) : Option Uri :=
  if PortOk uri a.2 then
    some (afterAuthority uri { u with host := a.1, port := strtoi 10 (a.2.getD []) } s)
  else none

def authored (uri : Bool) (u : Uri) (a : Authority) (s : Bytes) : Option Uri :=
  hosted uri { u with userinfo := storedUserinfo (a.userinfo.getD []) } (a.host, a.port) s

/-- What follows the scheme, or a relative reference. -/
def hierarchy (uri : Bool) (u : Uri) (s : Bytes) : Option Uri :=
  match (splitAuthority s).1 with
  | none => some (behind u (behindPath (splitAuthority s).2))
  | some a => authored uri u (parseAuthority a) (splitAuthority s).2

/-- What `Create` stores; `none` when it throws. -/
def stored (s : Bytes) : Option Uri :=
  hierarchy (splitScheme s).1.isSome { Uri.new with scheme := (splitScheme s).1.getD [] }
    (splitScheme s).2

/-! ## Section 2: Marks -/

/-- The scan is at `p` with `rest` to come, and has read `pre` since the mark. -/
structure Marked (s : Bytes) (m p : Nat) (pre rest : Bytes) : Prop where
  drop : s.drop m = pre ++ rest
  here : p = m + pre.length

variable {s pre rest cs : Bytes} {c : UInt8} {m p : Nat}

/-- One more byte behind the mark. -/
theorem Marked.next (h : Marked s m p pre (c :: cs)) : Marked s m (p + 1) (pre ++ [c]) cs :=
  ⟨by rw [h.drop, List.append_assoc, List.singleton_append], by
    rw [h.here, List.length_append, List.length_singleton, Nat.add_assoc]⟩

/-- What a saving action writes. -/
theorem Marked.text (h : Marked s m p pre rest) : text s m (p - m) = pre := by
  rw [h.here]
  exact Http.text_marked h.drop

theorem Marked.ahead (h : Marked s m p pre rest) : s.drop p = rest := by
  rw [h.here, Http.drop_add h.drop]

/-- A mark that is set here. -/
theorem Marked.fresh (h : s.drop p = rest) : Marked s p p [] rest := ⟨h, rfl⟩

theorem Marked.first (h : s.drop p = c :: cs) : Marked s p (p + 1) [c] cs := (Marked.fresh h).next

theorem drop_next (h : s.drop p = c :: cs) : s.drop (p + 1) = cs := (Marked.first h).ahead

@[simp] theorem text_empty (s : Bytes) (p : Nat) : text s p 0 = [] := List.take_zero

/-! ## Section 3: Steps -/

/-- The object that the outline ends with from a phase on. -/
def result (s : Bytes) (ph : Phase) (p : Nat) (d : Data) (rest : Bytes) : Option Uri :=
  (runFrom s ph p d rest).map Prod.snd

variable {ph t : Phase} {acts : List Action} {d e : Data} {u : Uri}

/-- One byte of the outline. -/
theorem result_next (hmove : move ph c = goes t acts) (hacts : performs s p acts d = some e) :
    result s ph p d (c :: cs) = result s t (p + 1) e cs := by
  simp only [result, runFrom, hmove, goes, hacts, Option.bind_some]

theorem result_nil : result s ph p d [] = (performs s p (ending ph) d).map Prod.snd := rfl

theorem Follows.next (h : Follows ph (c :: cs)) (hmove : move ph c = goes t acts) : Follows t cs := by
  obtain ⟨t', acts', hmove', hrest⟩ := h
  rw [hmove] at hmove'
  obtain ⟨rfl, -⟩ := Prod.mk.inj (Option.some.inj hmove')
  exact hrest

/-- A text that is accepted meets no byte without a move. -/
theorem Follows.stuck (h : Follows ph (c :: cs)) (hmove : move ph c = none) : False := by
  obtain ⟨t', acts', hmove', -⟩ := h
  rw [hmove] at hmove'
  cases hmove'

/-- The exceptions of a row are among some bytes. -/
def exceptions (es : Row Move) (stops : Bytes) : Bool :=
  es.all fun e => (List.range' e.1 (e.2.1 + 1 - e.1)).all fun n => stops.any fun x => x.toNat == n

/-- What all bytes but some do. -/
theorem move_other {mv : Move} {es : Row Move} (stops : Bytes) (hrow : outline ph = rowFrom mv 0 es)
    (hes : exceptions es stops = true) (hc : c ∉ stops) : move ph c = mv := by
  have hout : ∀ e ∈ es, ¬ (e.1 ≤ c.toNat ∧ c.toNat ≤ e.2.1) := by
    rintro e he ⟨hlo, hhi⟩
    have hrange := List.all_eq_true.mp (List.all_eq_true.mp hes e he) c.toNat
      (List.mem_range'_1.mpr (by omega))
    -- an exception would cover only bytes of `stops`
    obtain ⟨x, hx, heq⟩ := List.any_eq_true.mp hrange
    rw [UInt8.toNat_inj.mp (beq_iff_eq.mp heq)] at hx
    exact hc hx
  have hbyte := c.toNat_lt
  rw [move, hrow, rowFrom_other (by omega) hout (Nat.zero_le _)]
  rfl

/-! ## Section 4: Query and fragment -/

theorem move_query0 (hc : c ≠ 35) : move .query0 c = goes .query [marku] :=
  move_other [35] rfl rfl (by simpa using hc)

theorem move_query (hc : c ≠ 35) : move .query c = goes .query [] :=
  move_other [35] rfl rfl (by simpa using hc)

theorem move_fragment0 (c : UInt8) : move .fragment0 c = goes .fragment [marku] :=
  move_other [] rfl rfl List.not_mem_nil

theorem move_fragment (c : UInt8) : move .fragment c = goes .fragment [] :=
  move_other [] rfl rfl List.not_mem_nil

/-- The rest of the text is the fragment. -/
theorem result_fragment (hmark : Marked s m p pre rest) :
    result s .fragment p (some m, u) rest = some { u with fragment := pre ++ rest } := by
  -- the mark stays, and what has been read since grows
  induction rest generalizing p pre with
  | nil => simp [result_nil, ending, performs, perform, hmark.text]
  | cons c cs ih =>
    rw [result_next (move_fragment c) rfl, ih hmark.next, List.append_assoc, List.singleton_append]

theorem result_fragment0 (mark : Option Nat) (hdrop : s.drop p = rest) :
    result s .fragment0 p (mark, u) rest = some { u with fragment := rest } := by
  cases rest with
  | nil => simp [result_nil, ending, performs, perform]
  | cons c cs => rw [result_next (move_fragment0 c) rfl, result_fragment (Marked.first hdrop),
      List.singleton_append]

/-- A query up to the end, or up to a fragment. -/
theorem result_query (hmark : Marked s m p pre rest) :
    result s .query p (some m, u) rest =
      some { u with query := pre ++ rest.takeWhile (notIn [35]),
                    fragment := (fragmentOf rest).getD u.fragment } := by
  induction rest generalizing p pre with
  | nil => simp [result_nil, ending, performs, perform, hmark.text, fragmentOf]
  | cons c cs ih =>
    by_cases hc : c = 35
    · subst hc
      have hacts : performs s p [save_query] (some m, u) = some (none, { u with query := pre }) := by
        simp [performs, perform, hmark.text]
      -- `#` saves the query
      rw [result_next (t := .fragment0) rfl hacts, result_fragment0 none hmark.next.ahead]
      simp [fragmentOf, notIn]
    · rw [result_next (move_query hc) rfl, ih hmark.next]
      simp [fragmentOf, notIn, hc]

/-- A query from its `?` on; it may be empty. -/
theorem result_query0 (mark : Option Nat) (hdrop : s.drop p = rest) :
    result s .query0 p (mark, u) rest = some (behind u (63 :: rest)) := by
  cases rest with
  | nil =>
    simp [result_nil, ending, performs, perform, behind, queryOf, fragmentOf,
      notIn]
  | cons c cs =>
    by_cases hc : c = 35
    · subst hc
      have hacts : performs s p [marku, save_query] (mark, u) = some (none, { u with query := [] }) := by
        simp [performs, perform]
      rw [result_next (t := .fragment0) rfl hacts, result_fragment0 none (drop_next hdrop)]
      simp [behind, queryOf, fragmentOf, notIn]
    · rw [result_next (move_query0 hc) rfl, result_query (Marked.first hdrop)]
      simp [behind, queryOf, fragmentOf, notIn, hc]

/-! ## Section 5: Paths -/

@[simp] theorem behind_nil (u : Uri) : behind u [] = u := rfl

theorem behind_fragment (u : Uri) (cs : Bytes) : behind u (35 :: cs) = { u with fragment := cs } := by
  simp [behind, queryOf, fragmentOf, notIn]

/-- A path ends at `?` and at `#`. -/
theorem behindPath_stop (hc : c = 35 ∨ c = 63) : behindPath (c :: cs) = c :: cs := by
  rcases hc with rfl | rfl <;> rfl

theorem behindPath_next (hhash : c ≠ 35) (hquery : c ≠ 63) : behindPath (c :: cs) = behindPath cs := by
  simp [behindPath, notIn, hhash, hquery]

theorem pathOf_stop (hc : c = 35 ∨ c = 63) : pathOf (c :: cs) = [] := by
  rcases hc with rfl | rfl <;> rfl

theorem pathOf_next (hhash : c ≠ 35) (hquery : c ≠ 63) : pathOf (c :: cs) = c :: pathOf cs := by
  simp [pathOf, notIn, hhash, hquery]

/-- A query or a fragment begins. -/
theorem result_behind (hdrop : s.drop p = c :: cs) {mark : Option Nat}
    (hhash : move ph 35 = goes .fragment0 acts) (hquery : move ph 63 = goes .query0 acts)
    (hacts : performs s p acts d = some (mark, u)) (hc : c = 35 ∨ c = 63) :
    result s ph p d (c :: cs) = some (behind u (c :: cs)) := by
  rcases hc with rfl | rfl
  · rw [result_next hhash hacts, result_fragment0 _ (drop_next hdrop), behind_fragment]
  · rw [result_next hquery hacts, result_query0 _ (drop_next hdrop)]

theorem move_path (hhash : c ≠ 35) (hquery : c ≠ 63) : move .path c = goes .path [] :=
  move_other [35, 63] rfl rfl (by simp [hhash, hquery])

theorem move_savedPath (hhash : c ≠ 35) (hquery : c ≠ 63) : move .savedPath c = goes .savedPath [] :=
  move_other [35, 63] rfl rfl (by simp [hhash, hquery])

theorem move_segment (hhash : c ≠ 35) (hquery : c ≠ 63) (hslash : c ≠ 47) (hcolon : c ≠ 58) :
    move .segment c = goes .segment [] :=
  move_other [35, 63, 47, 58] rfl rfl (by simp [hhash, hquery, hslash, hcolon])

/-- A path that is not saved. -/
theorem result_path (hdrop : s.drop p = rest) : result s .path p d rest = some (behind d.2 (behindPath rest)) := by
  induction rest generalizing p with
  | nil => rfl
  | cons c cs ih =>
    by_cases hc : c = 35 ∨ c = 63
    · rw [result_behind hdrop rfl rfl rfl hc, behindPath_stop hc]
    · obtain ⟨hhash, hquery⟩ := not_or.mp hc
      rw [result_next (move_path hhash hquery) rfl, ih (drop_next hdrop), behindPath_next hhash hquery]

/-- The first segment of a relative path has no colon. -/
theorem result_segment (hdrop : s.drop p = rest) (hfollows : Follows .segment rest) :
    result s .segment p d rest = some (behind d.2 (behindPath rest)) ∧
      58 ∉ rest.takeWhile (notIn [47, 63, 35]) := by
  induction rest generalizing p with
  | nil => exact ⟨rfl, List.not_mem_nil⟩
  | cons c cs ih =>
    by_cases hc : c = 35 ∨ c = 63
    · refine ⟨by rw [result_behind hdrop rfl rfl rfl hc, behindPath_stop hc], ?_⟩
      rcases hc with rfl | rfl <;> exact List.not_mem_nil
    obtain ⟨hhash, hquery⟩ := not_or.mp hc
    rw [behindPath_next hhash hquery]
    -- a slash ends the first segment: from here on colons are allowed
    by_cases hslash : c = 47
    · subst hslash
      exact ⟨by rw [result_next (t := .path) rfl rfl, result_path (drop_next hdrop)], List.not_mem_nil⟩
    by_cases hcolon : c = 58
    · subst hcolon
      exact (hfollows.stuck rfl).elim
    have hmove := move_segment hhash hquery hslash hcolon
    obtain ⟨hresult, hnotin⟩ := ih (drop_next hdrop) (hfollows.next hmove)
    refine ⟨by rw [result_next hmove rfl, hresult], ?_⟩
    rw [List.takeWhile_cons_of_pos (by simp [notIn, hslash, hhash, hquery]), List.mem_cons, not_or]
    exact ⟨Ne.symm hcolon, hnotin⟩

/-- The path of a URI with an authority: `pre` has been read of it. -/
theorem result_savedPath (hmark : Marked s m p pre rest) :
    result s .savedPath p (some m, u) rest =
      some (behind { u with path := pre ++ pathOf rest } (behindPath rest)) := by
  induction rest generalizing p pre with
  | nil => simp [result_nil, ending, performs, perform, hmark.text, pathOf, behindPath]
  | cons c cs ih =>
    by_cases hc : c = 35 ∨ c = 63
    · -- the path ends here and is saved
      have hacts : performs s p [save_path] (some m, u) = some (none, { u with path := pre }) := by
        simp [performs, perform, hmark.text]
      rw [result_behind hmark.ahead rfl rfl hacts hc, behindPath_stop hc, pathOf_stop hc,
        List.append_nil]
    · obtain ⟨hhash, hquery⟩ := not_or.mp hc
      rw [result_next (move_savedPath hhash hquery) rfl, ih hmark.next, behindPath_next hhash hquery,
        pathOf_next hhash hquery, List.append_assoc, List.singleton_append]

/-- Behind an empty port there is no mark to save a path from. -/
theorem result_savedPath_none : ∀ {rest : Bytes} {p : Nat}, result s .savedPath p (none, u) rest = none := by
  intro rest
  induction rest with
  | nil => intro p; rfl
  | cons c cs ih =>
    intro p
    by_cases hc : c = 35 ∨ c = 63
    · rcases hc with rfl | rfl <;> rfl
    · obtain ⟨hhash, hquery⟩ := not_or.mp hc
      rw [result_next (move_savedPath hhash hquery) rfl, ih]

/-! ## Section 6: The end of an authority -/

/-- An authority can end in a phase. -/
structure Closing (ph : Phase) (uri fresh : Bool) (save : Action) : Prop where
  hash   : move ph 35 = goes .fragment0 (leaves uri fresh save false)
  query  : move ph 63 = goes .query0 (leaves uri fresh save false)
  slash  : move ph 47 = goes (if uri then .savedPath else .path) (leaves uri fresh save true)
  ending : ending ph = leaves uri fresh save false

/-- A text that does not go on with an authority. -/
def Ends (rest : Bytes) : Prop := ∀ c ∈ rest.head?, c = 47 ∨ c = 63 ∨ c = 35

theorem performs_append (xs ys : List Action) :
    ∀ d, performs s p (xs ++ ys) d = (performs s p xs d).bind (performs s p ys) := by
  induction xs with
  | nil => intro d; rfl
  | cons a acts ih =>
    intro d
    simp only [List.cons_append, performs]
    cases perform s p a d with
    | none => rfl
    | some d' => exact ih d'

/-- The first actions of `leaves` save what is open. -/
def opening (fresh : Bool) (save : Action) : List Action :=
  if fresh then [markh, save] else [save]

/-- What an authority saves when it ends: the component that is open, and in a URI
    the mark for the path, or the empty path. -/
theorem performs_leaves {uri fresh : Bool} {save : Action} {mark : Option Nat}
    (hsave : performs s p (opening fresh save) d = some (mark, u))
    (hfresh : fresh = true → uri = true → mark = some p) (slash : Bool) :
    performs s p (leaves uri fresh save slash) d =
      some (if uri then (if slash then some p else none) else mark,
        { u with path := if uri && !slash then [] else u.path }) := by
  have hsplit : leaves uri fresh save slash = opening fresh save ++
      (if uri then (if fresh then [] else [markh]) ++ (if slash then [] else [save_path]) else []) := by
    cases uri <;> cases fresh <;> cases slash <;> rfl
  -- then a URI marks the path, unless the mark was only just set, and saves it if it is empty
  rw [hsplit, performs_append, hsave, Option.bind_some]
  cases uri with
  | false => rfl
  | true =>
    cases fresh with
    | true =>
      obtain rfl := hfresh rfl rfl
      cases slash <;> simp [performs, perform]
    | false => cases slash <;> simp [performs, perform]

/-- An authority ends: what was open is saved, and a path, a query or a fragment
    follows. -/
theorem result_close {uri fresh : Bool} {save : Action} (h : Closing ph uri fresh save)
    (hdrop : s.drop p = rest) (hends : Ends rest) {mark : Option Nat}
    (hsave : performs s p (opening fresh save) d = some (mark, u))
    (hfresh : fresh = true → uri = true → mark = some p) :
    result s ph p d rest = some (afterAuthority uri u rest) := by
  cases rest with
  | nil =>
    rw [result_nil, h.ending, performs_leaves hsave hfresh false]
    cases uri <;> rfl
  | cons c cs =>
    have hacts := performs_leaves hsave hfresh false
    by_cases hc : c = 35 ∨ c = 63
    · rw [result_behind hdrop h.hash h.query hacts hc, afterAuthority, behindPath_stop hc, pathOf_stop hc]
      cases uri <;> rfl
    · obtain ⟨hhash, hquery⟩ := not_or.mp hc
      -- an authority only ends at `/`, `?` and `#`
      obtain rfl : c = 47 := by
        rcases hends c rfl with hslash | hquery' | hhash'
        · exact hslash
        · exact absurd hquery' hquery
        · exact absurd hhash' hhash
      rw [result_next h.slash (performs_leaves hsave hfresh true), afterAuthority,
        behindPath_next hhash hquery, pathOf_next hhash hquery]
      cases uri with
      | false => exact result_path (drop_next hdrop)
      | true => exact result_savedPath (Marked.first hdrop)

/-- A URI with an empty port. -/
theorem result_emptyPort (h : Closing ph true true save_port) (hends : Ends rest) :
    result s ph p d rest = none := by
  have hacts : ∀ slash, performs s p (leaves true true save_port slash) d =
      if slash then some (none, d.2) else none := by
    intro slash
    cases slash <;> simp [leaves, performs, perform]
  cases rest with
  | nil =>
    rw [result_nil, h.ending, hacts]
    rfl
  | cons c cs =>
    rcases hends c rfl with rfl | rfl | rfl
    · rw [result_next h.slash (hacts true), if_pos rfl, result_savedPath_none]
    · simp only [result, runFrom, h.query, goes, hacts]
      rfl
    · simp only [result, runFrom, h.hash, goes, hacts]
      rfl

end UriParser

end MNSER
