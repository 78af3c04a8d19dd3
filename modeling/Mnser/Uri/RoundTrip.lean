import Mnser.Uri.Holds
import Mnser.Uri.Rewalk

/-! # URIs written out and read again

    The text of an object is accepted, and what is made of it follows from its
    components. -/

namespace MNSER

namespace UriParser

open Http (Bytes ascii decimal)
open Scanner

/-! ## Section 1: Ports -/

theorem decimal_eq (n : Nat) :
    decimal n = (if n < 10 then [] else decimal (n / 10)) ++ [(n % 10).digitChar.toNat.toUInt8] := by
  unfold decimal
  rw [Nat.toDigits_eq_if (by decide)]
  split
  · rename_i h
    rw [Nat.mod_eq_of_lt h]
    rfl
  · rw [List.map_append]
    rfl

theorem magnitude_decimal (n : Nat) : Strtol.magnitude 10 0 (decimal n) = n := by
  induction n using Nat.strongRecOn with
  | ind n ih =>
    have hdigit : ∀ d < 10, Strtol.digitVal d.digitChar.toNat.toUInt8 = d := by decide
    have hlast : ∀ acc, Strtol.magnitude 10 acc [(n % 10).digitChar.toNat.toUInt8] =
        acc * 10 + n % 10 := by
      intro acc
      have hlt := Nat.mod_lt n (show 10 > 0 by decide)
      simp [Strtol.magnitude, Strtol.isdigit, hdigit _ hlt, hlt]
    rw [decimal_eq]
    split
    · rw [List.nil_append, hlast]
      omega
    · rw [Strtol.magnitude_append (Http.decimal_digits _), ih (n / 10) (by omega), hlast]
      omega

theorem strtoi_decimal {n : Nat} (h : n < 2 ^ 31) : strtoi 10 (decimal n) = n := by
  have hds : ∀ c ∈ decimal n, Strtol.isdigit 10 c = true := Http.decimal_digits n
  rw [(strtoi_iff hds).mpr (by rw [magnitude_decimal]; exact h), magnitude_decimal]

theorem strtoi_nil : strtoi 10 [] = 0 := by
  decide

theorem port_eq {port : Option Bytes} (hds : ∀ c ∈ port.getD [], Strtol.isdigit 10 c = true)
    (hle : portNumber port ≤ 65535) : strtoi 10 (port.getD []) = portNumber port := by
  have hlt : portNumber port < 2 ^ 31 := by omega
  exact (strtoi_iff hds).mpr hlt

theorem to_string_nat (n : Nat) : Uri.to_string n = decimal n := by
  unfold Uri.to_string
  rw [if_neg (by omega), Int.natAbs_natCast]

/-- The port that is written out. -/
theorem dumpedPort_cases {u : Uri} {n : Nat} (hport : u.port = n) :
    (u.isDefaultPort = true ∧ dumpedPort u = none) ∨
      (n ≠ 0 ∧ dumpedPort u = some (decimal n)) := by
  unfold dumpedPort
  cases hdefault : u.isDefaultPort with
  | true => exact .inl ⟨rfl, rfl⟩
  | false =>
    refine .inr ⟨?_, ?_⟩
    · rintro rfl
      have hzero : u.port = 0 := hport
      rw [Uri.isDefaultPort, if_pos hzero] at hdefault
      cases hdefault
    · rw [hport, to_string_nat]
      rfl

theorem replaces_dumped {u : Uri} {port : Option Bytes} (hport : u.port = portNumber port) :
    Replaces port (dumpedPort u) := by
  rcases dumpedPort_cases hport with ⟨-, hnone⟩ | ⟨hne, hsome⟩
  · exact .inl hnone
  · refine .inr ⟨?_, _, hsome, Http.decimal_ne_nil _, ?_⟩
    · rintro rfl
      exact hne rfl
    · intro c hc
      exact (mem_digits c).mp (Http.decimal_digits _ c hc)

/-- A default port that is left out is the port of the scheme. -/
theorem getPort_default {u u' : Uri} (hscheme : u'.scheme = u.scheme) (hdefault : u.isDefaultPort = true)
    (hzero : u'.port = 0) : u'.getPort = u.getPort := by
  unfold Uri.isDefaultPort at hdefault
  unfold Uri.getPort
  rw [hscheme, hzero]
  by_cases hport : u.port = 0
  · rw [hport]
  · rw [if_neg hport] at hdefault
    rw [if_neg (fun h => h rfl), if_pos hport]
    by_cases hhttp : u.scheme = ascii "http" ∨ u.scheme = ascii "ws"
    · rw [if_pos hhttp] at hdefault ⊢
      exact (of_decide_eq_true hdefault).symm
    · rw [if_neg hhttp] at hdefault ⊢
      by_cases hhttps : u.scheme = ascii "https" ∨ u.scheme = ascii "wss"
      · rw [if_pos hhttps] at hdefault ⊢
        exact (of_decide_eq_true hdefault).symm
      · rw [if_neg hhttps] at hdefault
        cases hdefault

theorem getPort_dumped {u u' : Uri} {n : Nat} (hport : u.port = n) (hn : n < 2 ^ 31)
    (hscheme : u'.scheme = u.scheme) (hdumped : u'.port = strtoi 10 ((dumpedPort u).getD [])) :
    u'.getPort = u.getPort := by
  rcases dumpedPort_cases hport with ⟨hdefault, hnone⟩ | ⟨-, hsome⟩
  · rw [hnone] at hdumped
    exact getPort_default hscheme hdefault (hdumped.trans strtoi_nil)
  · rw [hsome, Option.getD_some, strtoi_decimal hn, ← hport] at hdumped
    unfold Uri.getPort
    rw [hscheme, hdumped]

/-! ## Section 2: Objects of accepted URIs -/

/-- The parts of an accepted URI with an authority, and the states it is read in. -/
structure Parts (s name a r : Bytes) : Prop where
  text      : s = name ++ [58, 47, 47] ++ (a ++ r)
  scheme    : ∀ c ∈ name, c ∉ ([58, 47, 63, 35] : Bytes)
  filled    : name ≠ []
  authority : ∀ c ∈ a, c ∉ ([47, 63, 35] : Bytes)
  rest      : ∀ c ∈ r.head?, c ∈ ([47, 63, 35] : Bytes)
  parts     : components s = ⟨some name, some (parseAuthority a), pathOf r,
                queryOf (behindPath r), fragmentOf (behindPath r)⟩

theorem exists_parts {s : Bytes} (hscheme : (components s).scheme ≠ none)
    (hauthority : (components s).authority ≠ none) : ∃ name a r, Parts s name a r := by
  obtain ⟨name, hname⟩ := Option.ne_none_iff_exists'.mp hscheme
  have hname : (splitScheme s).1 = some name := hname
  obtain ⟨hs, hne, hbytes⟩ := splitScheme_spec hname
  have hsome : (splitAuthority (splitScheme s).2).1 ≠ none := by
    intro hnone
    apply hauthority
    show (splitAuthority (splitScheme s).2).1.map parseAuthority = none
    rw [hnone, Option.map_none]
  obtain ⟨a, ha⟩ := Option.ne_none_iff_exists'.mp hsome
  obtain ⟨hrest, hstops, hhead⟩ := splitAuthority_spec ha
  refine ⟨name, a, (splitAuthority (splitScheme s).2).2, ?_, hbytes, hne, hstops, hhead, ?_⟩
  · rw [List.append_assoc, List.cons_append, List.cons_append, List.cons_append, List.nil_append,
      ← hrest]
    exact hs
  · unfold components
    dsimp only
    rw [hname, ha, Option.map_some]

/-- The states of the authority. -/
theorem Parts.walks {s name a r : Bytes} (h : Parts s name a r) (haccepts : Accepts uri_parser_start s) :
    walk step uri_parser_start (name ++ [58, 47, 47]) = some 511 ∧
      ∃ t, walk step 511 a = some t ∧ Accepts t r ∧ among inAuthority t = true ∧
        among closable t = true := by
  rw [h.text] at haccepts
  obtain ⟨u, hwalk, hrest⟩ := accepts_append.mp haccepts
  obtain rfl := walk_scheme h.scheme hwalk
  obtain ⟨t, hwalk', hrest⟩ := accepts_append.mp hrest
  have ht := walk_stays classes.authority_stays h.authority rfl hwalk'
  exact ⟨hwalk, t, hwalk', hrest, ht, closable_of_accepts ht hrest h.rest⟩

/-- What `Create` makes of a URI with an authority, and a port in range. -/
structure Written (u : Uri) : Prop where
  scheme   : ∀ c ∈ u.scheme, c ∉ ([58, 47, 63, 35] : Bytes)
  filled   : u.scheme ≠ []
  userinfo : ∀ c ∈ u.userinfo, c ∉ ([47, 63, 35, 64] : Bytes)
  host     : Host u.host
  bytes    : ∀ c ∈ u.host, c ∉ ([47, 63, 35, 64] : Bytes)
  port     : ∃ n : Nat, u.port = n ∧ n < 2 ^ 31
  slash    : u.getPath.head? = some 47
  path     : ∀ c ∈ u.getPath, c ∉ ([63, 35] : Bytes)
  query    : 35 ∉ u.query

/-- The text of the object is accepted like the text it was made of. -/
theorem written_of_created {s : Bytes} {u : Uri} (h : Uri.Create s = .uri u)
    (hscheme : (components s).scheme ≠ none) (hauthority : (components s).authority ≠ none)
    (hport : portNumber ((components s).authority.bind Authority.port) ≤ 65535) :
    Written u ∧ Accepts uri_parser_start u.toString ∧
      u.userinfo = storedUserinfo (((components s).authority.bind Authority.userinfo).getD []) := by
  obtain ⟨hobject, hportOk⟩ := objectOf_of_created h
  obtain ⟨name, a, r, hparts⟩ := exists_parts hscheme hauthority
  obtain ⟨hwalk, t, hwalka, haccepts, hin, ht⟩ := hparts.walks (accepts_of_created h)
  have hok := authorityOk hparts.authority hwalka ht
  rw [hparts.parts] at hobject hportOk hport ⊢
  have hdigits : ∀ c ∈ (parseAuthority a).port.getD [], c ∈ digits := by
    intro c hc
    exact (mem_digits c).mp (hportOk.digits c hc)
  -- below 65536 the port is the number that was written
  have hnumber : u.port = portNumber (parseAuthority a).port := by
    rw [hobject]
    exact port_eq hportOk.digits hport
  have hle : portNumber (parseAuthority a).port ≤ 65535 := hport
  have htail : Tail (behindPath r) u.query u.fragment := by
    rw [hobject]
    exact tail_of_head (head_dropWhile _ _)
  have hpath : u.getPath = if pathOf r = [] then [47] else pathOf r := by
    rw [hobject]
    rfl
  obtain ⟨hslash, hstops⟩ := dumpedPath_spec hparts.rest
  refine ⟨?_, ?_, ?_⟩
  · refine ⟨?_, ?_, ?_, ?_, ?_, ⟨_, hnumber, by omega⟩, hpath ▸ hslash, hpath ▸ hstops, htail.noHash⟩
    · rw [hobject]
      exact hparts.scheme
    · rw [hobject]
      exact hparts.filled
    · rw [hobject]
      exact hok.userinfo
    · rw [hobject]
      exact hok.host
    · rw [hobject]
      exact hok.bytes
  · -- the authority with the dumped port leads to the same states
    obtain ⟨t', hwalk', ht'⟩ := hok.walks hdigits (dumpedPort u) (replaces_dumped hnumber)
    rw [toString_eq]
    refine accepts_append.mpr ⟨511, ?_, accepts_append.mpr ⟨t', ?_, ?_⟩⟩
    · rw [hobject]
      exact hwalk
    · rw [hobject] at hwalk' ⊢
      exact hwalk'
    · rw [hpath]
      exact accepts_path hin hparts.rest htail haccepts ht'
  · rw [hobject]
    rfl

/-! ## Section 3: What the text is read as -/

theorem Written.dumped {u : Uri} (h : Written u) :
    (∀ c ∈ (dumpedPort u).getD [], c ∈ digits) ∧ dumpedPort u ≠ some [] := by
  obtain ⟨n, hport, -⟩ := h.port
  rcases dumpedPort_cases hport with ⟨-, hnone⟩ | ⟨-, hsome⟩
  · rw [hnone]
    refine ⟨?_, by simp⟩
    intro c hc
    cases hc
  · rw [hsome]
    refine ⟨?_, ?_⟩
    · intro c hc
      exact (mem_digits c).mp (Http.decimal_digits n c hc)
    · intro hnil
      exact Http.decimal_ne_nil n (Option.some.inj hnil)

theorem Written.components {u : Uri} (h : Written u) :
    components u.toString =
      ⟨some u.scheme, some ⟨if u.userinfo = [] then none else some u.userinfo, u.host, dumpedPort u⟩,
        u.getPath, queryOf (tailText u.query u.fragment),
        fragmentOf (tailText u.query u.fragment)⟩ := by
  rw [toString_eq]
  exact components_text h.scheme h.filled h.userinfo h.host h.bytes h.dumped.1 h.path h.slash

theorem Written.create {u : Uri} (h : Written u) (haccepts : Accepts uri_parser_start u.toString) :
    Uri.Create u.toString = .uri (objectOf (MNSER.components u.toString)) := by
  have hport : PortOk true (dumpedPort u) := by
    refine ⟨?_, fun hempty => h.dumped.2 hempty.2⟩
    intro c hc
    exact (mem_digits c).mpr (h.dumped.1 c hc)
  rw [Create_stored haccepts, stored_eq, if_pos]
  rw [h.components]
  exact hport

/-- What is compared of two objects. -/
structure Same (u u' : Uri) : Prop where
  scheme   : u.scheme = u'.scheme
  userinfo : u.userinfo = u'.userinfo
  host     : u.host = u'.host
  port     : u.getPort = u'.getPort
  path     : u.getPath = u'.getPath
  query    : u.query = u'.query
  fragment : u.fragment = u'.fragment

theorem Written.same_iff {u : Uri} (h : Written u) :
    Same (objectOf (MNSER.components u.toString)) u ↔ storedUserinfo u.userinfo = u.userinfo := by
  have huserinfo : (if u.userinfo = [] then none else some u.userinfo).getD [] = u.userinfo := by
    split
    · rename_i hempty
      exact hempty.symm
    · rfl
  rw [h.components]
  constructor
  · intro hsame
    have heq := hsame.userinfo
    simpa only [objectOf, Option.bind_some, huserinfo] using heq
  · intro heq
    obtain ⟨hquery, hfragment⟩ := queryOf_tailText h.query u.fragment
    obtain ⟨n, hport, hn⟩ := h.port
    refine ⟨rfl, ?_, rfl, getPort_dumped hport hn rfl rfl, ?_, hquery, hfragment⟩
    · simpa only [objectOf, Option.bind_some, huserinfo] using heq
    · have hne : u.getPath ≠ [] := by
        intro hnil
        have hslash := h.slash
        rw [hnil] at hslash
        cases hslash
      show (if u.getPath = [] then ascii "/" else u.getPath) = u.getPath
      rw [if_neg hne]

/-- What is behind the first colon. -/
def behindColon (userinfo : Bytes) : Bytes := (userinfo.dropWhile (notIn [58])).tail

/-- What is left of user information is shortened again when its second colon
    is in front of a digit too. -/
theorem stored_again_iff (w : Bytes) :
    storedUserinfo (storedUserinfo w) = storedUserinfo w ↔
      ¬ (digitBehindColon w = true ∧ digitBehindColon (behindColon w) = true) := by
  rw [storedUserinfo_iff]
  cases hdigit : digitBehindColon w with
  | false =>
    rw [(storedUserinfo_iff w).mpr hdigit, hdigit]
    simp
  | true =>
    have hstored : storedUserinfo w = behindColon w := by
      unfold digitBehindColon at hdigit
      unfold storedUserinfo behindColon
      split at hdigit
      · rename_i c rest hdrop
        rw [hdrop]
        simp only [hdigit, if_true, List.tail_cons]
      · cases hdigit
    rw [hstored]
    simp

end UriParser

open Http (ascii)
open UriParser

/-- What `toString` writes is accepted, and gives the same unless the first two
    colons of the user information are in front of digits. -/
theorem toString_same_iff {s : Http.Bytes} {u : Uri} (h : Uri.Create s = .uri u)
    (hscheme : (components s).scheme ≠ none) (hauthority : (components s).authority ≠ none)
    (hport : portNumber ((components s).authority.bind Authority.port) ≤ 65535) :
    ∃ u', Uri.Create u.toString = .uri u' ∧
      (Same u' u ↔
        let userinfo := ((components s).authority.bind Authority.userinfo).getD []
        ¬ (digitBehindColon userinfo = true ∧ digitBehindColon (behindColon userinfo) = true)) := by
  obtain ⟨hwritten, haccepts, huserinfo⟩ := written_of_created h hscheme hauthority hport
  refine ⟨_, hwritten.create haccepts, ?_⟩
  rw [hwritten.same_iff, huserinfo]
  exact stored_again_iff _

/-- A default port, no path and an empty query. -/
theorem toString_same_default :
    let s := ascii "http://u:p@h:80?#f"
    ∃ u u', Uri.Create s = .uri u ∧ u.toString = ascii "http://u:p@h/#f" ∧
      Uri.Create u.toString = .uri u' ∧ Same u' u := by
  intro s
  let u : Uri := ⟨ascii "http", ascii "u:p", ascii "h", [], [], ascii "f", 80⟩
  have h : Uri.Create s = .uri u := by decide +kernel
  obtain ⟨u', hcreate, hsame⟩ := toString_same_iff h (by decide) (by decide) (by decide)
  exact ⟨u, u', h, by decide +kernel, hcreate, hsame.mpr (by decide)⟩

/-- The user information is `1:2` at first, and `2` when it is read again. -/
theorem toString_loses_userinfo :
    let u : Uri := ⟨ascii "http", ascii "1:2", ascii "h", [], [], [], 0⟩
    let u' : Uri := ⟨ascii "http", ascii "2", ascii "h", ascii "/", [], [], 0⟩
    Uri.Create (ascii "http://a:1:2@h") = .uri u ∧ Uri.Create u.toString = .uri u' ∧ ¬ Same u' u := by
  refine ⟨by decide +kernel, by decide +kernel, ?_⟩
  intro hsame
  exact absurd hsame.userinfo (by decide)

end MNSER
