import Mnser.Http.RequestRoundTrip

/-! # Which method a request names

    `on_request_method` asks `CharsToHttpMethod`, which compares a name of
    `HTTP_METHOD_MAP` with as many bytes as the name has and does not know
    where the token ends. -/

namespace MNSER

namespace Http

open Ranges Scanner HttpParser

/-! ## Section 1: The token in the scanner -/

/-- `upper | digit` -/
def methodChar : ByteClass := [(48, 57), (65, 90)]

/-- `( upper | digit ){1,20}` -/
structure MethodToken (t : Bytes) : Prop where
  length : 1 ≤ t.length ∧ t.length ≤ 20
  chars  : ∀ c ∈ t, methodChar.has c = true

/-- The state behind `n + 1` bytes of the method. -/
def methodState (n : Nat) : Nat := if n = 0 then 2 else 174 + n

theorem method_rows :
    onClass (rows.getD 1 []) methodChar (fun _ _ e => e == .tr 0) = true ∧
    (∀ n < 19, onClass (rows.getD (methodState n) []) methodChar
      (fun _ _ e => e == .st (methodState (n + 1))) = true) ∧
    ∀ n < 20, onClass (rows.getD (methodState n) []) [(32, 32)] (fun _ _ e => e == .tr 4) = true := by
  decide +kernel

/-- Only the bytes `^`, `{` and `}` are treated in two ways. -/
theorem step_relaxed (uri_relaxed : Bool) (s : Nat) {c : UInt8}
    (hc : [94, 123, 125].contains c.toNat = false) : step uri_relaxed s c = step false s c := by
  unfold step goto
  rw [hc, Bool.and_false, Bool.and_false]

/-- The bytes of a method are none of those that `uri_relaxed` is about. -/
theorem methodChar_plain {c : UInt8} (h : methodChar.has c = true) :
    [94, 123, 125].contains c.toNat = false := by
  revert h c
  apply forall_byte
  decide +kernel

/-- The bytes of a method are read without an action. -/
theorem silent_method (uri_relaxed : Bool) {cs : Bytes} (hcs : ∀ c ∈ cs, methodChar.has c = true) :
    ∀ {n : Nat}, n + cs.length < 20 →
      silent (step uri_relaxed) (methodState n) cs = some (methodState (n + cs.length)) := by
  induction cs with
  | nil =>
    intro n _
    rfl
  | cons c cs ih =>
    intro n hn
    rw [List.length_cons] at hn ⊢
    have hc := hcs c List.mem_cons_self
    have hstep : step uri_relaxed (methodState n) c = .next (methodState (n + 1)) [] := by
      rw [step_relaxed uri_relaxed _ (methodChar_plain hc)]
      exact step_st (method_rows.2.1 n (by omega)) hc
    simp only [silent, hstep]
    rw [ih (fun x hx => hcs x (List.mem_cons_of_mem _ hx)) (by omega)]
    congr 2
    omega

/-- Up to the blank behind it a method token leads to one call of `on_request_method`. -/
theorem passes_method (uri_relaxed : Bool) (buffer : Bytes) {t : Bytes} (ht : MethodToken t) :
    Passes origin callback (step uri_relaxed) buffer 1 (t ++ [32]) 3
      fun d d' => d' = on_request_method t d := by
  obtain ⟨⟨hne, hlen⟩, hchars⟩ := ht
  obtain ⟨c, cs, rfl⟩ := List.exists_cons_of_length_pos hne
  have hc := hchars c List.mem_cons_self
  rw [List.length_cons] at hlen
  have hfirst : step uri_relaxed 1 c = .next 2 [mark] := by
    rw [step_relaxed uri_relaxed _ (methodChar_plain hc)]
    exact step_tr method_rows.1 hc
  have hrest := @silent_method uri_relaxed cs (fun x hx => hchars x (List.mem_cons_of_mem _ hx))
    0 (by omega)
  have hend : step uri_relaxed (methodState (0 + cs.length)) 32 = .next 3 [request_method] := by
    rw [step_relaxed uri_relaxed _ (by decide)]
    exact step_tr (method_rows.2.2 _ (by omega)) (by decide)
  refine Passes.marked hfirst hrest hend fun regs d rest hdrop => ?_
  refine ⟨regs, _, ?_, rfl⟩
  have hcall : on_request_method (buffer.drop (regs .mark)) d = on_request_method (c :: cs) d := by
    rw [hdrop, on_request_method, on_request_method, charsToHttpMethod_blank]
  simp only [perform, request_method, callback, Option.bind_some, hcall]

/-! ## Section 2: The names -/

/-- No name begins another one, and no method has two. -/
theorem entry_unique : ∀ e ∈ httpMethodMap, ∀ e' ∈ httpMethodMap,
    (ascii e'.2).isPrefixOf (ascii e.2) = true ∨ e'.1 = e.1 → e' = e := by
  decide +kernel

/-- The name of a method gives the method. -/
theorem charsToHttpMethod_name {e : HttpMethod × String} (he : e ∈ httpMethodMap) :
    charsToHttpMethod (ascii e.2) = some e.1 := by
  unfold charsToHttpMethod
  cases hfind : httpMethodMap.find? fun x => (ascii x.2).isPrefixOf (ascii e.2) with
  | none =>
    have hself := List.find?_eq_none.mp hfind e he
    exact absurd (List.isPrefixOf_iff_prefix.mpr List.prefix_rfl) hself
  | some x =>
    have hprefix := List.find?_some hfind
    rw [entry_unique e he x (List.mem_of_find?_eq_some hfind) (Or.inl hprefix)]
    rfl

/-- No method is found exactly if no name is a prefix. -/
theorem charsToHttpMethod_none_iff (t : Bytes) :
    charsToHttpMethod t = none ↔ ∀ e ∈ httpMethodMap, ¬ ascii e.2 <+: t := by
  rw [charsToHttpMethod, Option.map_eq_none_iff, List.find?_eq_none]
  simp only [List.isPrefixOf_iff_prefix]

/-! ## Section 3: The method of a request -/

/-- The text is one of the names. -/
def IsName (t : Bytes) : Prop := ∃ e ∈ httpMethodMap, ascii e.2 = t

/-- What `on_request_method` is to make of the token `t`, whatever is behind the
    blank and whatever the request is so far: it sets a method exactly if the
    token is a name, that of the method; for another token it sets the error,
    and a request whose first read reaches behind the token is rejected. -/
def MethodNamed (t : Bytes) : Prop :=
  ∀ (rest : Bytes) (r : HttpRequest),
    ((∃ m, on_request_method (t ++ 32 :: rest) (r, 0) = ({ r with method := m }, 0)) ↔ IsName t) ∧
    (∀ m, on_request_method (t ++ 32 :: rest) (r, 0) = ({ r with method := m }, 0) →
      methodToString m = t) ∧
    (¬ IsName t → on_request_method (t ++ 32 :: rest) (r, 0) = (r, 1000) ∧
      ∀ env n s got s', read n s = some (got, s') → t ++ [32] <+: got →
        outcome (recvRequest env n s) = .error .nullptr)

/-- Then `recvRequest` gives up at the first `execute`. -/
theorem recvRequest_unknown {t : Bytes} (ht : MethodToken t) (hnone : charsToHttpMethod t = none)
    {env : Env} {n : Nat} {s s' : Stream} {got : Bytes} (hread : read n s = some (got, s'))
    (hgot : t ++ [32] <+: got) : recvRequest env n s = .error .nullptr := by
  obtain ⟨rest, rfl⟩ := hgot
  have hstart : ∀ r, cover http_parser_start r = false := by
    intro r
    cases r <;> rfl
  let regs := HttpRequestParser.forget (HttpRequestParser.new env).regs
  obtain ⟨r, _, hscan, _, _⟩ :=
    scan_resume (request_sound env.uri_relaxed) (List.drop_zero (l := t ++ [32] ++ rest ++ []))
      regs trivial ((request_covers env.uri_relaxed).unbroken hstart (t ++ [32] ++ rest))
      regs (HttpRequestParser.new env).data
  -- behind the token the error is set, and it stays
  obtain ⟨regs', d', hpassed, hd'⟩ := passes_method env.uri_relaxed (t ++ [32] ++ rest) ht 0 regs
    (HttpRequestParser.new env).data rest rfl
  have hbad : d'.2 ≠ 0 := by
    rw [hd', show (HttpRequestParser.new env).data = (HttpRequest.new, 0) from rfl,
      on_request_method, hnone]
    exact Nat.succ_ne_zero _
  have herror : r.data.2.2 ≠ 0 := scan_error (hpassed.symm.trans hscan) hbad
  have hexecute := @execute_eq env (HttpRequestParser.new env) (t ++ [32] ++ rest) (by simp) _ hscan
  have hheader : recvHeader (requestParser env) n (s.flatten.length + 1) (HttpRequestParser.new env)
      [] s = .error .nullptr :=
    recvHeader_error hread hexecute (decide_eq_true (Or.inl herror))
  unfold recvRequest fuelFor
  rw [hheader]

/-- A token is understood exactly if it does not go on behind the name of a method. -/
theorem method_named_iff {t : Bytes} (ht : MethodToken t) :
    MethodNamed t ↔ ¬ ∃ e ∈ httpMethodMap, ascii e.2 <+: t ∧ ascii e.2 ≠ t := by
  have hcall : ∀ rest r, on_request_method (t ++ 32 :: rest) (r, 0) = on_request_method t (r, 0) := by
    intro rest r
    rw [on_request_method, on_request_method, charsToHttpMethod_blank]
  cases hmethod : charsToHttpMethod t with
  | none =>
    have hnot := (charsToHttpMethod_none_iff t).mp hmethod
    have hname : ¬ IsName t := by
      rintro ⟨e, he, rfl⟩
      exact hnot e he List.prefix_rfl
    have hbegins : ¬ ∃ e ∈ httpMethodMap, ascii e.2 <+: t ∧ ascii e.2 ≠ t := by
      rintro ⟨e, he, hprefix, _⟩
      exact hnot e he hprefix
    refine iff_of_true (fun rest r => ?_) hbegins
    have hset : on_request_method (t ++ 32 :: rest) (r, 0) = (r, 1000) := by
      rw [hcall, on_request_method, hmethod]
    have hno : ∀ m, on_request_method (t ++ 32 :: rest) (r, 0) ≠ ({ r with method := m }, 0) := by
      intro m heq
      rw [hset] at heq
      cases (Prod.mk.inj heq).2
    refine ⟨iff_of_false (not_exists.mpr hno) hname, fun m h => absurd h (hno m), fun _ => ?_⟩
    refine ⟨hset, fun env n s got s' hread hgot => ?_⟩
    rw [recvRequest_unknown ht hmethod hread hgot]
    rfl
  | some m =>
    have hset : ∀ rest r, on_request_method (t ++ 32 :: rest) (r, 0) = ({ r with method := m }, 0) := by
      intro rest r
      rw [hcall, on_request_method, hmethod]
    obtain ⟨e, hfind, hm⟩ := Option.map_eq_some_iff.mp hmethod
    have he := List.mem_of_find?_eq_some hfind
    have hfound : (ascii e.2).isPrefixOf t = true := List.find?_some
      (p := fun x : HttpMethod × String => (ascii x.2).isPrefixOf t) hfind
    have hprefix : ascii e.2 <+: t := List.isPrefixOf_iff_prefix.mp hfound
    constructor
    · rintro hnamed ⟨x, hx, hxprefix, hxne⟩
      obtain ⟨y, hy, rfl⟩ := (hnamed [] .new).1.mp ⟨m, hset [] .new⟩
      -- the token is the name `y`, and `x` begins it
      exact hxne (by rw [entry_unique y hy x hx (Or.inl (List.isPrefixOf_iff_prefix.mpr hxprefix))])
    · intro hexact rest r
      have heq : ascii e.2 = t := by
        by_contra hne
        exact hexact ⟨e, he, hprefix, hne⟩
      have hname : IsName t := ⟨e, he, heq⟩
      refine ⟨iff_of_true ⟨m, hset rest r⟩ hname, fun m' hm' => ?_, fun h => absurd hname h⟩
      rw [hset] at hm'
      obtain rfl : m = m' := congrArg HttpRequest.method (Prod.mk.inj hm').1
      obtain ⟨x, hx, hxm, htext⟩ := methodToString_entry m
      rw [htext, ← heq, entry_unique e he x hx (Or.inr (hxm.trans hm.symm))]

/-- An unknown method. -/
theorem method_named_iff_unknown : MethodNamed (ascii "FETCH") :=
  (method_named_iff ⟨by decide, by decide⟩).mpr (by decide)

/-- A request for `GETX` is accepted as a `GET`. -/
theorem method_named_getx :
    MethodToken (ascii "GETX") ∧ ¬ MethodNamed (ascii "GETX") ∧
    outcome (recvRequest ⟨false, 0, fun _ => none⟩ 4096 [ascii "GETX / HTTP/1.1\r\n\r\n"]) =
      .ok HttpRequest.new := by
  refine ⟨⟨by decide, by decide⟩, fun h => ?_, by decide +kernel⟩
  have hset : on_request_method (ascii "GETX" ++ 32 :: []) (HttpRequest.new, 0) =
      ({ HttpRequest.new with method := .GET }, 0) := by decide
  obtain ⟨e, he, hname⟩ := (h [] .new).1.mp ⟨_, hset⟩
  revert e
  decide

end Http

end MNSER
