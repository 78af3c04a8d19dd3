import Mnser.Uri.Parse

/-! # The text of a URI object

    `toString` leaves out a default port and empty parts, and writes `/` for an
    empty path.  This module says which components the text has; it does not
    look at the scanner. -/

namespace MNSER

namespace UriParser

open Http (Bytes ascii decimal)

/-! ## Section 1: The text -/

def portText : Option Bytes → Bytes
  | none    => []
  | some ds => 58 :: ds

def authorityText (userinfo host : Bytes) (port : Option Bytes) : Bytes :=
  (if userinfo = [] then [] else userinfo ++ [64]) ++ (host ++ portText port)

/-- The query and the fragment, empty ones left out. -/
def tailText (query fragment : Bytes) : Bytes :=
  (if query = [] then [] else 63 :: query) ++ (if fragment = [] then [] else 35 :: fragment)

def dumpedPort (u : Uri) : Option Bytes :=
  if u.isDefaultPort then none else some (Uri.to_string u.port)

/-- The text of an object, taken apart. -/
theorem toString_eq (u : Uri) :
    u.toString = u.scheme ++ [58, 47, 47] ++
      (authorityText u.userinfo u.host (dumpedPort u) ++
        (u.getPath ++ tailText u.query u.fragment)) := by
  have hport : (if u.isDefaultPort then [] else ascii ":" ++ Uri.to_string u.port) =
      portText (dumpedPort u) := by
    unfold dumpedPort
    split <;> rfl
  have huserinfo : u.userinfo ++ (if u.userinfo = [] then [] else ascii "@") =
      if u.userinfo = [] then [] else u.userinfo ++ [64] := by
    split
    · rename_i hempty
      rw [hempty]
      rfl
    · rfl
  have hquery : (if u.query = [] then [] else ascii "?") ++ u.query =
      if u.query = [] then [] else 63 :: u.query := by
    split
    · rename_i hempty
      rw [hempty]
      rfl
    · rfl
  have hfragment : (if u.fragment = [] then [] else ascii "#") ++ u.fragment =
      if u.fragment = [] then [] else 35 :: u.fragment := by
    split
    · rename_i hempty
      rw [hempty]
      rfl
    · rfl
  unfold Uri.toString authorityText tailText
  rw [hport, ← hquery, ← hfragment, ← huserinfo]
  simp only [List.append_assoc]
  rfl

/-! ## Section 2: Splitting -/

/-- What is left starts with one of the delimiters. -/
theorem head_dropWhile (stops s : Bytes) : ∀ c ∈ (s.dropWhile (notIn stops)).head?, c ∈ stops := by
  intro c hc
  have hnot := List.head?_dropWhile_not (notIn stops) s
  rw [Option.mem_def.mp hc] at hnot
  simpa [notIn] using hnot

/-- No delimiter is in what was taken. -/
theorem mem_takeWhile {stops s : Bytes} : ∀ c ∈ s.takeWhile (notIn stops), c ∉ stops := by
  intro c hc
  simpa [notIn] using List.mem_takeWhile_imp hc

/-- A text with a scheme. -/
theorem splitScheme_spec {s name : Bytes} (h : (splitScheme s).1 = some name) :
    s = name ++ 58 :: (splitScheme s).2 ∧ name ≠ [] ∧ ∀ c ∈ name, c ∉ ([58, 47, 63, 35] : Bytes) := by
  have hsplit := List.takeWhile_append_dropWhile (p := notIn [58, 47, 63, 35]) (l := s)
  unfold splitScheme at h ⊢
  split at h
  · rename_i rest hdrop
    rw [hdrop] at hsplit
    dsimp only at h ⊢
    by_cases hempty : s.takeWhile (notIn [58, 47, 63, 35]) = []
    · rw [if_pos hempty] at h
      cases h
    · rw [if_neg hempty] at h ⊢
      obtain rfl := Option.some.inj h
      exact ⟨hsplit.symm, hempty, mem_takeWhile⟩
  · cases h

/-- A text with an authority. -/
theorem splitAuthority_spec {s a : Bytes} (h : (splitAuthority s).1 = some a) :
    s = 47 :: 47 :: (a ++ (splitAuthority s).2) ∧ (∀ c ∈ a, c ∉ ([47, 63, 35] : Bytes)) ∧
      ∀ c ∈ (splitAuthority s).2.head?, c ∈ ([47, 63, 35] : Bytes) := by
  unfold splitAuthority at h ⊢
  split at h
  · rename_i rest
    obtain rfl := Option.some.inj h
    refine ⟨?_, mem_takeWhile, head_dropWhile _ _⟩
    dsimp only
    rw [List.takeWhile_append_dropWhile]
  · cases h

/-- The query and the fragment behind a path. -/
inductive Tail : Bytes → Bytes → Bytes → Prop where
  | none     : Tail [] [] []
  | fragment : ∀ {f : Bytes}, Tail (35 :: f) [] f
  | query    : ∀ {q : Bytes}, 35 ∉ q → Tail (63 :: q) q []
  | both     : ∀ {q f : Bytes}, 35 ∉ q → Tail (63 :: (q ++ 35 :: f)) q f

/-- What follows a path is a query and a fragment, or one of them. -/
theorem tail_of_head {T : Bytes} (h : ∀ c ∈ T.head?, c ∈ ([63, 35] : Bytes)) :
    Tail T ((queryOf T).getD []) ((fragmentOf T).getD []) := by
  cases T with
  | nil => exact .none
  | cons c cs =>
    have hc : c = 63 ∨ c = 35 := by simpa using h c rfl
    rcases hc with rfl | rfl
    · have hsplit := List.takeWhile_append_dropWhile (p := notIn [35]) (l := cs)
      have hq : (35 : UInt8) ∉ cs.takeWhile (notIn [35]) := by
        intro hmem
        exact mem_takeWhile 35 hmem (by simp)
      have hquery : (queryOf (63 :: cs)).getD [] = cs.takeWhile (notIn [35]) := rfl
      have hdrop : (63 :: cs).dropWhile (notIn [35]) = cs.dropWhile (notIn [35]) := rfl
      have hhead := head_dropWhile [35] cs
      rw [hquery, fragmentOf, hdrop]
      -- the query goes up to a `#`, if there is one
      cases hrest : cs.dropWhile (notIn [35]) with
      | nil =>
        rw [hrest, List.append_nil] at hsplit
        rw [hsplit] at hq ⊢
        exact .query hq
      | cons d f =>
        rw [hrest] at hsplit hhead
        obtain rfl : d = 35 := by simpa using hhead d rfl
        have hboth := Tail.both (f := f) hq
        rw [hsplit] at hboth
        exact hboth
    · exact .fragment

/-- The query and the fragment are found again. -/
theorem queryOf_tailText {query : Bytes} (hquery : 35 ∉ query) (fragment : Bytes) :
    (queryOf (tailText query fragment)).getD [] = query ∧
      (fragmentOf (tailText query fragment)).getD [] = fragment := by
  have hq : ∀ c ∈ query, c ∉ ([35] : Bytes) := notIn_one hquery
  have hhead : ∀ c ∈ (if fragment = [] then [] else 35 :: fragment).head?, c ∈ ([35] : Bytes) := by
    split <;> simp
  have hfragment : ∀ rest : Bytes, rest = (if fragment = [] then [] else 35 :: fragment) →
      (if rest = [] then Option.none else some rest.tail).getD [] = fragment := by
    rintro _ rfl
    by_cases hf : fragment = [] <;> simp [hf]
  unfold tailText
  -- an empty query is not written
  by_cases hempty : query = []
  · rw [if_pos hempty, List.nil_append]
    constructor
    · rw [hempty]
      by_cases hf : fragment = [] <;> simp [hf, queryOf]
    · refine hfragment _ ?_
      have hdrop := dropWhile_stop (w := []) (by simp) hhead
      exact hdrop
  · rw [if_neg hempty]
    constructor
    · have htake := takeWhile_stop hq hhead
      exact htake
    · refine hfragment _ ?_
      have hdrop := dropWhile_stop hq hhead
      exact hdrop

/-- A name in front of a port, or an IP literal. -/
inductive Host : Bytes → Prop where
  | name    : ∀ {w : Bytes}, 58 ∉ w → w.head? ≠ some 91 → Host w
  | literal : ∀ {v : Bytes}, 93 ∉ v → Host (91 :: v ++ [93])

theorem portOf_portText (port : Option Bytes) : portOf (portText port) = port := by
  cases port <;> rfl

/-- The host and the port are found again. -/
theorem splitHost_text {host : Bytes} (h : Host host) (port : Option Bytes) :
    splitHost (host ++ portText port) = (host, port) := by
  cases h with
  -- the colon of the port is the first one
  | name hcolon hopen =>
    have hhead : (host ++ portText port).head? ≠ some 91 := by
      cases host with
      | nil => cases port <;> simp [portText]
      | cons c cs => simpa using hopen
    have hw : ∀ c ∈ (portText port).head?, c ∈ ([58] : Bytes) := by
      cases port <;> simp [portText]
    simp only [splitHost, if_neg hhead, takeWhile_stop (notIn_one hcolon) hw,
      dropWhile_stop (notIn_one hcolon) hw]
    cases port <;> rfl
  | literal hclose =>
    rw [List.append_assoc, List.singleton_append, splitHost_literal hclose, portOf_portText]

theorem Tail.noHash {T query fragment : Bytes} (h : Tail T query fragment) : 35 ∉ query := by
  cases h with
  | none => exact List.not_mem_nil
  | fragment => exact List.not_mem_nil
  | query hq => exact hq
  | both hq => exact hq

/-- The path of `dump` starts with a slash, and ends in front of a query. -/
theorem dumpedPath_spec {r : Bytes} (hr : ∀ c ∈ r.head?, c ∈ ([47, 63, 35] : Bytes)) :
    (if pathOf r = [] then [47] else pathOf r).head? = some 47 ∧
      ∀ c ∈ (if pathOf r = [] then [47] else pathOf r), c ∉ ([63, 35] : Bytes) := by
  have hpath : ∀ c ∈ pathOf r, c ∉ ([63, 35] : Bytes) := mem_takeWhile
  by_cases hempty : pathOf r = []
  · rw [if_pos hempty]
    exact ⟨rfl, by decide⟩
  · rw [if_neg hempty]
    refine ⟨?_, hpath⟩
    cases r with
    | nil => exact absurd rfl hempty
    | cons c cs =>
      have hc := hr c rfl
      have hstop : ¬ (c = 35 ∨ c = 63) := by
        intro hc
        exact hempty (pathOf_stop hc)
      rw [not_or] at hstop
      obtain rfl : c = 47 := by
        simp only [List.mem_cons, List.not_mem_nil, or_false] at hc
        exact hc.resolve_right (by simp [hstop])
      rw [pathOf_next hstop.1 hstop.2]
      rfl

/-! ## Section 3: The components of the text -/

/-- A digit ends no component. -/
theorem digits_stop : ∀ c ∈ digits, c ∉ ([47, 63, 35, 64] : Bytes) := by
  decide

/-- Nor does the text of a port. -/
theorem portText_stop {port : Option Bytes} (hport : ∀ c ∈ port.getD [], c ∈ digits) :
    ∀ c ∈ portText port, c ∉ ([47, 63, 35, 64] : Bytes) := by
  cases port with
  | none => exact fun c hc => by cases hc
  | some ds =>
    intro c hc
    rcases List.mem_cons.mp hc with rfl | hc
    · decide
    · exact digits_stop c (hport c hc)

/-- Nor does a host with its port. -/
theorem hostPort_stop {host : Bytes} {port : Option Bytes}
    (hbytes : ∀ c ∈ host, c ∉ ([47, 63, 35, 64] : Bytes)) (hport : ∀ c ∈ port.getD [], c ∈ digits) :
    ∀ c ∈ host ++ portText port, c ∉ ([47, 63, 35, 64] : Bytes) := by
  intro c hc
  rcases List.mem_append.mp hc with hc | hc
  · exact hbytes c hc
  · exact portText_stop hport c hc

theorem noAt_of_stop {w : Bytes} (h : ∀ c ∈ w, c ∉ ([47, 63, 35, 64] : Bytes)) : 64 ∉ w := by
  intro hmem
  exact h 64 hmem (by simp)

/-- The parts of an authority are found again; empty user information is none. -/
theorem parse_authorityText {userinfo host : Bytes} {port : Option Bytes}
    (huserinfo : ∀ c ∈ userinfo, c ∉ ([47, 63, 35, 64] : Bytes)) (hhost : Host host)
    (hbytes : ∀ c ∈ host, c ∉ ([47, 63, 35, 64] : Bytes)) (hport : ∀ c ∈ port.getD [], c ∈ digits) :
    parseAuthority (authorityText userinfo host port) =
      ⟨if userinfo = [] then none else some userinfo, host, port⟩ := by
  have hsplit := splitHost_text hhost port
  unfold authorityText
  by_cases hempty : userinfo = []
  · rw [if_pos hempty, if_pos hempty, List.nil_append,
      parseAuthority_noAt (noAt_of_stop (hostPort_stop hbytes hport)), hsplit]
  · rw [if_neg hempty, if_neg hempty, List.append_assoc, List.singleton_append,
      parseAuthority_at (noAt_of_stop huserinfo), hsplit]

/-- An authority has no delimiter that would end it. -/
theorem authorityText_stop {userinfo host : Bytes} {port : Option Bytes}
    (huserinfo : ∀ c ∈ userinfo, c ∉ ([47, 63, 35, 64] : Bytes))
    (hbytes : ∀ c ∈ host, c ∉ ([47, 63, 35, 64] : Bytes)) (hport : ∀ c ∈ port.getD [], c ∈ digits) :
    ∀ c ∈ authorityText userinfo host port, c ∉ ([47, 63, 35] : Bytes) := by
  have hweak : ∀ c : UInt8, c ∉ ([47, 63, 35, 64] : Bytes) → c ∉ ([47, 63, 35] : Bytes) := by
    intro c hc hmem
    exact hc (List.mem_append_left [64] hmem)
  intro c hc
  rcases List.mem_append.mp hc with hc | hc
  · split at hc
    · cases hc
    · rcases List.mem_append.mp hc with hc | hc
      · exact hweak c (huserinfo c hc)
      · obtain rfl := List.mem_singleton.mp hc
        decide
  · exact hweak c (hostPort_stop hbytes hport c hc)

/-- A query or a fragment ends the path in front of it. -/
theorem tailText_head (query fragment : Bytes) :
    ∀ c ∈ (tailText query fragment).head?, c ∈ ([63, 35] : Bytes) := by
  unfold tailText
  by_cases hq : query = []
  · by_cases hf : fragment = [] <;> simp [hq, hf]
  · simp [hq]

/-- The components of a text that is put together from parts, each free of the
    delimiters that would end it. -/
theorem components_text {scheme userinfo host path query fragment : Bytes} {port : Option Bytes}
    (hscheme : ∀ c ∈ scheme, c ∉ ([58, 47, 63, 35] : Bytes)) (hne : scheme ≠ [])
    (huserinfo : ∀ c ∈ userinfo, c ∉ ([47, 63, 35, 64] : Bytes)) (hhost : Host host)
    (hbytes : ∀ c ∈ host, c ∉ ([47, 63, 35, 64] : Bytes)) (hport : ∀ c ∈ port.getD [], c ∈ digits)
    (hpath : ∀ c ∈ path, c ∉ ([63, 35] : Bytes)) (hslash : path.head? = some 47) :
    components (scheme ++ [58, 47, 47] ++
        (authorityText userinfo host port ++ (path ++ tailText query fragment))) =
      ⟨some scheme, some ⟨if userinfo = [] then none else some userinfo, host, port⟩, path,
        queryOf (tailText query fragment), fragmentOf (tailText query fragment)⟩ := by
  have hhead : ∀ c ∈ (path ++ tailText query fragment).head?, c ∈ ([47, 63, 35] : Bytes) := by
    intro c hc
    rw [List.head?_append, hslash] at hc
    obtain rfl := Option.some.inj hc
    decide
  have hauthority := authorityText_stop huserinfo hbytes hport
  have hsplit : splitAuthority
      (47 :: 47 :: (authorityText userinfo host port ++ (path ++ tailText query fragment))) =
        (some (authorityText userinfo host port), path ++ tailText query fragment) := by
    rw [splitAuthority, takeWhile_stop hauthority hhead, dropWhile_stop hauthority hhead]
  have hpathOf : pathOf (path ++ tailText query fragment) = path :=
    takeWhile_stop hpath (tailText_head query fragment)
  have hbehind : behindPath (path ++ tailText query fragment) = tailText query fragment :=
    dropWhile_stop hpath (tailText_head query fragment)
  -- scheme, authority, path and tail in turn
  rw [List.append_assoc, List.cons_append, List.cons_append, List.cons_append, List.nil_append,
    components, splitScheme_some hscheme hne]
  dsimp only
  rw [hsplit]
  dsimp only
  rw [Option.map_some, parse_authorityText huserinfo hhost hbytes hport, hpathOf, hbehind]

end UriParser

end MNSER
