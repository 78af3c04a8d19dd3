import Mathlib.Data.List.Basic
import Mnser.Http.Message

/-! # Address::Lookup

    How `Address::Lookup` splits a host string into the node and the service
    that it passes to `getaddrinfo`.  A pointer into `host.c_str()` is an
    offset, and what is passed is read up to the first NUL.

    The search for a colon sets `service` also when no node comes of it. -/

namespace MNSER

namespace Address

open Http (Bytes ascii cstr)

/-! ## Section 1: memchr -/

/-- `memchr(s + start, c, n)` -/
def memchr (s : Bytes) (start : Nat) (c : UInt8) (n : Nat) : Option Nat :=
  (((s.drop start).take n).idxOf? c).map (start + ·)

theorem memchr_none (pre : Bytes) {s : Bytes} {c : UInt8} (h : c ∉ s) (n : Nat) :
    memchr (pre ++ s) pre.length c n = none := by
  unfold memchr
  rw [List.drop_left, Option.map_eq_none_iff, List.idxOf?_eq_none_iff]
  intro hmem
  exact h (List.mem_of_mem_take hmem)

theorem memchr_some (pre : Bytes) {a : Bytes} {c : UInt8} (ha : c ∉ a) (b : Bytes) {n : Nat}
    (hn : a.length < n) :
    memchr (pre ++ (a ++ c :: b)) pre.length c n = some (pre.length + a.length) := by
  have htake : (a ++ c :: b).take n = a ++ c :: b.take (n - a.length - 1) := by
    obtain ⟨k, rfl⟩ : ∃ k, n = a.length + (k + 1) := ⟨n - a.length - 1, by omega⟩
    have hk : a.length + (k + 1) - a.length - 1 = k := by omega
    rw [List.take_length_add_append, List.take_succ_cons, hk]
  have hidx : (a ++ c :: b.take (n - a.length - 1)).idxOf? c = some a.length := by
    refine List.idxOf?_eq_some_iff.mpr ⟨by simp, by simp, ?_⟩
    intro j hj heq
    rw [List.getElem_append_left hj] at heq
    exact ha (heq ▸ List.getElem_mem hj)
  unfold memchr
  rw [List.drop_left, htake, hidx]
  rfl

/-! ## Section 2: Lookup -/

/-- `host[0] == '['`: the node in the brackets, and the service. -/
def lookupBrackets (host : Bytes) : Bytes × Option Nat :=
  if host.head? = some 91 then
    match memchr host 1 93 (host.length - 1) with
    | some endipv6 =>
      ((host.drop 1).take (endipv6 - 1),
        -- the byte behind the string is a NUL
        if (host ++ [0])[endipv6 + 1]? = some 58 then some (endipv6 + 2) else none)
    | none => ([], none)
  else ([], none)

/-- The search for a colon that is the only one. -/
def lookupColons (host : Bytes) : Bytes × Option Nat :=
  match memchr host 0 58 host.length with
  | some service =>
    if memchr host (service + 1) 58 (host.length - service - 1) = none then
      (host.take service, some (service + 1))
    else ([], some service)
  | none => ([], none)

/-- `node` and `service` of the call of `getaddrinfo`. -/
def lookupParts (host : Bytes) : Bytes × Option Nat :=
  let (node, service) := lookupBrackets host
  let (node, service) := if node = [] then lookupColons host else (node, service)
  if node = [] then (host, service) else (node, service)

/-- The two strings that `getaddrinfo` gets. -/
def lookupArgs (host : Bytes) : Bytes × Option Bytes :=
  (cstr (lookupParts host).1, (lookupParts host).2.map fun service => cstr (host.drop service))

/-! ## Section 3: The split that is meant -/

/-- What stands before and behind the first `c`. -/
def cut (c : UInt8) (s : Bytes) : Option (Bytes × Bytes) :=
  if c ∈ s then some (s.takeWhile (· ≠ c), (s.dropWhile (· ≠ c)).tail) else none

/-- `[x]rest` -/
def bracketed (host : Bytes) : Option (Bytes × Bytes) :=
  if host.head? = some 91 then (cut 93 host.tail).filter fun r => r.1 ≠ [] else none

/-- `x:y`, with no other colon -/
def oneColon (host : Bytes) : Option (Bytes × Bytes) :=
  (cut 58 host).filter fun r => r.1 ≠ [] ∧ 58 ∉ r.2

/-- The node and the service of a host string. -/
def documented (host : Bytes) : Bytes × Option Bytes :=
  match bracketed host with
  | some (x, rest) => (x, if rest.head? = some 58 then some rest.tail else none)
  | none =>
    match oneColon host with
    | some (x, y) => (x, some y)
    | none        => (host, none)

def documentedArgs (host : Bytes) : Bytes × Option Bytes :=
  (cstr (documented host).1, (documented host).2.map cstr)

theorem cut_none {c : UInt8} {s : Bytes} (h : c ∉ s) : cut c s = none := if_neg h

theorem cut_append {c : UInt8} {a : Bytes} (ha : c ∉ a) (b : Bytes) :
    cut c (a ++ c :: b) = some (a, b) := by
  have hall : ∀ x ∈ a, decide (x ≠ c) = true := by
    intro x hx
    refine decide_eq_true ?_
    rintro rfl
    exact ha hx
  unfold cut
  rw [if_pos (by simp), List.takeWhile_append_of_pos hall, List.dropWhile_append_of_pos hall]
  simp

/-! ## Section 4: Where they agree -/

/-- Brackets around something, no colon, or one colon behind something. -/
def Plain (host : Bytes) : Prop :=
  bracketed host ≠ none ∨ 58 ∉ host ∨ oneColon host ≠ none

instance (host : Bytes) : Decidable (Plain host) := inferInstanceAs (Decidable (_ ∨ _ ∨ _))

/-- A host that opens with a bracket, by what follows it. -/
theorem bracketed_cases (host : Bytes) :
    (∃ x rest, host = 91 :: (x ++ 93 :: rest) ∧ 93 ∉ x ∧ x ≠ [] ∧ bracketed host = some (x, rest)) ∨
      (lookupBrackets host).1 = [] ∧ bracketed host = none := by
  by_cases hhead : host.head? = some 91
  · obtain ⟨s, rfl⟩ : ∃ s, host = 91 :: s := List.head?_eq_some_iff.mp hhead
    by_cases hmem : 93 ∈ s
    · obtain ⟨x, rest, rfl, hx⟩ := List.eq_append_cons_of_mem hmem
      have hbracketed : bracketed (91 :: (x ++ 93 :: rest)) =
          (some (x, rest)).filter fun r => r.1 ≠ [] := by
        rw [bracketed, if_pos hhead, List.tail_cons, cut_append hx]
      by_cases hempty : x = []
      · right
        subst hempty
        have hn : ([] : Bytes).length < (91 :: ([] ++ 93 :: rest)).length - 1 := by simp
        have hfound := memchr_some [91] hx rest hn
        rw [List.singleton_append, List.length_singleton] at hfound
        refine ⟨?_, ?_⟩
        · unfold lookupBrackets
          rw [if_pos hhead]
          simp only [hfound]
          rfl
        · rw [hbracketed]
          rfl
      · exact Or.inl ⟨x, rest, rfl, hx, hempty, by simp [hbracketed, hempty]⟩
    · right
      have hnone := memchr_none [91] hmem (List.length (91 :: s) - 1)
      refine ⟨?_, ?_⟩
      · have hbrackets : lookupBrackets (91 :: s) = ([], none) := by
          unfold lookupBrackets
          rw [if_pos hhead]
          rw [List.singleton_append, List.length_singleton] at hnone
          rw [hnone]
        rw [hbrackets]
      · rw [bracketed, if_pos hhead, List.tail_cons, cut_none hmem]
        rfl
  · right
    exact ⟨by rw [lookupBrackets, if_neg hhead], by rw [bracketed, if_neg hhead]⟩

/-- In brackets the node is what stands between them. -/
theorem lookupParts_brackets {x rest : Bytes} (hx : 93 ∉ x) (hne : x ≠ []) :
    lookupParts (91 :: (x ++ 93 :: rest)) =
      (x, if rest.head? = some 58 then some (x.length + 3) else none) := by
  have hn : x.length < (91 :: (x ++ 93 :: rest)).length - 1 := by simp
  have hfound := memchr_some [91] hx rest hn
  rw [List.singleton_append, List.length_singleton] at hfound
  have hnext : (91 :: (x ++ 93 :: rest) ++ [0])[1 + x.length + 1]? = (rest ++ [0]).head? := by
    rw [show 1 + x.length + 1 = (x.length + 1) + 1 by omega, List.cons_append,
      List.getElem?_cons_succ, List.append_assoc, List.getElem?_append_right (by omega)]
    simp [List.head?_eq_getElem?]
  have hcolon : (rest ++ [0]).head? = some 58 ↔ rest.head? = some 58 := by
    cases rest <;> simp
  have hbrackets : lookupBrackets (91 :: (x ++ 93 :: rest)) =
      (x, if rest.head? = some 58 then some (x.length + 3) else none) := by
    have hhead : (91 :: (x ++ 93 :: rest)).head? = some 91 := rfl
    unfold lookupBrackets
    rw [if_pos hhead]
    simp only [hfound, hnext, hcolon]
    rw [show 1 + x.length - 1 = x.length by omega, show 1 + x.length + 2 = x.length + 3 by omega]
    simp
  unfold lookupParts
  rw [hbrackets]
  simp [hne]

theorem lookupColons_none {host : Bytes} (h : 58 ∉ host) : lookupColons host = ([], none) := by
  have hnone := memchr_none [] h host.length
  rw [List.nil_append, List.length_nil] at hnone
  unfold lookupColons
  simp only [hnone]

/-- The pointer stays when there is a second colon. -/
theorem lookupColons_some {a : Bytes} (ha : 58 ∉ a) (b : Bytes) :
    lookupColons (a ++ 58 :: b) = if 58 ∈ b then ([], some a.length) else (a, some (a.length + 1)) := by
  have hn : a.length < (a ++ 58 :: b).length := by simp
  have hfirst := memchr_some [] ha b hn
  rw [List.nil_append, List.length_nil, Nat.zero_add] at hfirst
  have happ : a ++ 58 :: b = (a ++ [58]) ++ b := by simp
  have hlen : a.length + 1 = (a ++ [58]).length := by simp
  unfold lookupColons
  simp only [hfirst]
  by_cases hb : 58 ∈ b
  · obtain ⟨y, z, rfl, hy⟩ := List.eq_append_cons_of_mem hb
    have hn : y.length < (a ++ 58 :: (y ++ 58 :: z)).length - a.length - 1 := by simp
    have hsecond := memchr_some (a ++ [58]) hy z hn
    rw [← happ, ← hlen] at hsecond
    rw [hsecond, if_neg (by simp), if_pos hb]
  · have hsecond := memchr_none (a ++ [58]) hb ((a ++ 58 :: b).length - a.length - 1)
    rw [← happ, ← hlen] at hsecond
    rw [if_pos hsecond, if_neg hb, List.take_left]

theorem oneColon_append {a : Bytes} (ha : 58 ∉ a) (b : Bytes) :
    oneColon (a ++ 58 :: b) = if a ≠ [] ∧ 58 ∉ b then some (a, b) else none := by
  rw [oneColon, cut_append ha]
  by_cases h : a ≠ [] ∧ 58 ∉ b <;> simp [Option.filter, h]

theorem lookupArgs_iff (host : Bytes) : lookupArgs host = documentedArgs host ↔ Plain host := by
  rcases bracketed_cases host with ⟨x, rest, rfl, hx, hne, hbracketed⟩ | ⟨hbrackets, hbracketed⟩
  · have hplain : Plain (91 :: (x ++ 93 :: rest)) := Or.inl (by simp [hbracketed])
    refine ⟨fun _ => hplain, fun _ => ?_⟩
    rw [lookupArgs, lookupParts_brackets hx hne, documentedArgs, documented, hbracketed]
    cases rest with
    | nil => rfl
    | cons c rest =>
      by_cases hc : c = 58
      · subst hc
        simp
      · simp [hc]
  · have hparts : lookupParts host =
        if (lookupColons host).1 = [] then (host, (lookupColons host).2) else lookupColons host := by
      unfold lookupParts
      simp [hbrackets]
    rw [lookupArgs, documentedArgs, documented, Plain, hbracketed, hparts]
    by_cases hcolon : 58 ∈ host
    · obtain ⟨a, b, rfl, ha⟩ := List.eq_append_cons_of_mem hcolon
      rw [oneColon_append ha, lookupColons_some ha]
      by_cases hb : 58 ∈ b
      · -- the pointer to the first of several colons
        simp [hb]
      · by_cases hempty : a = []
        · -- the part behind the colon, with the whole string as the node
          simp [hb, hempty]
        · simp [hb, hempty]
    · rw [lookupColons_none hcolon]
      have hcut : oneColon host = none := by
        rw [oneColon, cut_none hcolon]
        rfl
      simp [hcolon, hcut]

end Address

/-- Exactly when `Lookup` passes the node and the service that are meant. -/
theorem lookup_split_iff (host : Http.Bytes) :
    Address.lookupArgs host = Address.documentedArgs host ↔ Address.Plain host :=
  Address.lookupArgs_iff host

open Address in
/-- The service of a bare `::1` is `::1` itself. -/
theorem lookup_bare_ipv6 :
    lookupArgs (Http.ascii "::1") = (Http.ascii "::1", some (Http.ascii "::1")) ∧
      documentedArgs (Http.ascii "::1") = (Http.ascii "::1", none) ∧
      ¬ ∀ host, lookupArgs host = documentedArgs host := by
  refine ⟨by decide, by decide, ?_⟩
  intro h
  exact absurd (h (Http.ascii "::1")) (by decide)

end MNSER
