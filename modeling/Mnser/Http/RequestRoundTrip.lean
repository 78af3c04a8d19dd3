import Mnser.Http.ByteClass
import Mnser.Http.Passage
import Mnser.Http.Session

/-! # A request goes through

    The request scanner on what `HttpRequest::dump` writes: the method, the
    parts of the target that are there, the version, the header lines and the
    end of the header. -/

namespace MNSER

namespace Http

open Ranges Scanner

namespace HttpParser

/-! ## Section 1: What a passage does -/

/-- In `buffer` the text `xs` leads from `s` to `t`, and changes the request by
    `f`; nothing goes wrong.  `uri_relaxed` is not set. -/
abbrev Reads (buffer : Bytes) (s : Nat) (xs : Bytes) (t : Nat) (f : HttpRequest → HttpRequest) :
    Prop :=
  Passes origin callback (step false) buffer s xs t fun d d' => d' = (f d.1, d.2)

theorem Reads.append {buffer xs ys : Bytes} {s t u : Nat} {f g : HttpRequest → HttpRequest}
    (h₁ : Reads buffer s xs t f) (h₂ : Reads buffer t ys u g) :
    Reads buffer s (xs ++ ys) u fun r => g (f r) :=
  h₁.trans h₂ fun _ _ _ h h' => by rw [h', h]

theorem step_eq (s : Nat) (c : UInt8) :
    step false s c = match entryAt (rows.getD s []) c.toNat with
      | none         => .fail http_parser_error
      | some (.st n) => .next n []
      | some (.tr k) => tr k := rfl

/-- Where the bytes of a class lead without an action. -/
theorem step_st {s t : Nat} {cls : ByteClass}
    (h : onClass (rows.getD s []) cls (fun _ _ e => e == .st t) = true) {c : UInt8}
    (hc : cls.has c = true) : step false s c = .next t [] := by
  obtain ⟨_, _, e, _, _, hentry, he⟩ := onClass_entry h hc
  rw [step_eq, hentry, beq_iff_eq.mp he]

/-- Where the bytes of a class lead with the actions of a transition. -/
theorem step_tr {s k : Nat} {cls : ByteClass}
    (h : onClass (rows.getD s []) cls (fun _ _ e => e == .tr k) = true) {c : UInt8}
    (hc : cls.has c = true) : step false s c = tr k := by
  obtain ⟨_, _, e, _, _, hentry, he⟩ := onClass_entry h hc
  rw [step_eq, hentry, beq_iff_eq.mp he]

/-! ## Section 2: The method -/

/-- A name of capital letters leads to the blank, and no other method is found there. -/
def methodGoes (m : HttpMethod) : Bytes → Bool
  | [] => false
  | c :: cs =>
    step false 1 c == .next 2 [mark] && charsToHttpMethod (c :: cs) == some m &&
      match silent (step false) 2 cs with
      | none   => false
      | some u => step false u 32 == .next 3 [request_method]

theorem methods_go : ∀ e ∈ httpMethodMap, e.1 ≠ .MSEARCH → methodGoes e.1 (ascii e.2) = true := by
  decide +kernel

/-- A method has one name in the table. -/
theorem methodToString_entry (m : HttpMethod) :
    ∃ e ∈ httpMethodMap, e.1 = m ∧ methodToString m = ascii e.2 := by
  unfold methodToString
  split
  · rename_i e hfind
    exact ⟨e, List.mem_of_find?_eq_some hfind, by simpa using List.find?_some hfind, rfl⟩
  · rename_i hfind
    have hmem : m ∈ httpMethodMap.map Prod.fst := by cases m <;> decide
    obtain ⟨e, he, rfl⟩ := List.mem_map.mp hmem
    exact absurd (decide_eq_true rfl) (List.find?_eq_none.mp hfind e he)

/-- The method and its blank. -/
theorem reads_method (buffer : Bytes) {m : HttpMethod} (hm : m ≠ .MSEARCH) :
    Reads buffer 1 (methodToString m ++ [32]) 3 fun r => { r with method := m } := by
  obtain ⟨e, he, rfl, hname⟩ := methodToString_entry m
  have hgoes := methods_go e he hm
  rw [← hname] at hgoes
  obtain ⟨c, cs, htext⟩ : ∃ c cs, methodToString e.1 = c :: cs := by
    refine List.exists_cons_of_ne_nil fun hnil => ?_
    rw [hnil] at hgoes
    cases hgoes
  rw [htext] at hgoes ⊢
  simp only [methodGoes, Bool.and_eq_true, beq_iff_eq] at hgoes
  obtain ⟨⟨hfirst, hmethod⟩, hrest⟩ := hgoes
  split at hrest
  · cases hrest
  · rename_i u hsilent
    refine Passes.marked hfirst hsilent (beq_iff_eq.mp hrest) fun regs d rest hdrop => ?_
    refine ⟨regs, _, ?_, rfl⟩
    have hfound : on_request_method (buffer.drop (regs .mark)) d =
        ({ d.1 with method := e.1 }, d.2) := by
      rw [hdrop, on_request_method, charsToHttpMethod_blank, hmethod]
    simp only [perform, request_method, callback, Option.bind_some, hfound]

/-! ## Section 3: The target -/

/-- Bytes of a class, and `%` with two hexadecimal digits. -/
inductive Escaped (cls : ByteClass) : Bytes → Prop where
  | nil : Escaped cls []
  | plain {c : UInt8} {cs : Bytes} : cls.has c = true → Escaped cls cs → Escaped cls (c :: cs)
  | escape {a b : UInt8} {cs : Bytes} : hexDigits.has a = true → hexDigits.has b = true →
      Escaped cls cs → Escaped cls (37 :: a :: b :: cs)

/-- `pchar` without `pct_encoded` -/
def pchar : ByteClass :=
  [(33, 33), (36, 36), (38, 46), (48, 59), (61, 61), (64, 90), (95, 95), (97, 122), (126, 126),
   (128, 255)]

/-- `pchar | "/"` -/
def pathChar : ByteClass := (47, 47) :: pchar

/-- `pchar | "/" | "?"` -/
def queryChar : ByteClass := (47, 47) :: (63, 63) :: pchar

/-- The states of a loop over escaped text. -/
structure UriLoop (cls : ByteClass) (s s₁ s₂ : Nat) : Prop where
  plain  : ∀ c, cls.has c = true → step false s c = .next s []
  escape : step false s 37 = .next s₁ []
  high   : ∀ c, hexDigits.has c = true → step false s₁ c = .next s₂ []
  low    : ∀ c, hexDigits.has c = true → step false s₂ c = .next s []

/-- The states of a path. -/
theorem path_loop : UriLoop pathChar 26 27 28 where
  plain  := fun _ => step_st (by decide)
  escape := by decide
  high   := fun _ => step_st (by decide)
  low    := fun _ => step_st (by decide)

/-- The states of a query. -/
theorem query_loop : UriLoop queryChar 30 31 32 where
  plain  := fun _ => step_st (by decide)
  escape := by decide
  high   := fun _ => step_st (by decide)
  low    := fun _ => step_st (by decide)

/-- The states of a fragment. -/
theorem fragment_loop : UriLoop queryChar 21 22 23 where
  plain  := fun _ => step_st (by decide)
  escape := by decide
  high   := fun _ => step_st (by decide)
  low    := fun _ => step_st (by decide)

/-- Bytes and escapes are read without an action. -/
theorem UriLoop.silent {cls : ByteClass} {s s₁ s₂ : Nat} (h : UriLoop cls s s₁ s₂) {xs : Bytes}
    (hxs : Escaped cls xs) : Scanner.silent (step false) s xs = some s := by
  induction hxs with
  | nil => rfl
  | plain hc _ ih =>
    simp only [Scanner.silent, h.plain _ hc]
    exact ih
  | escape ha hb _ ih =>
    simp only [Scanner.silent, h.escape, h.high _ ha, h.low _ hb]
    exact ih

/-- The first byte of the text is noted, and leads into the loop. -/
theorem UriLoop.first {cls : ByteClass} {s s₁ s₂ q : Nat} (h : UriLoop cls s s₁ s₂)
    (acts : List Action) (hplain : ∀ c, cls.has c = true → step false q c = .next s acts)
    (hescape : step false q 37 = .next s₁ acts) {c : UInt8} {cs : Bytes}
    (hxs : Escaped cls (c :: cs)) :
    ∃ t, step false q c = .next t acts ∧ Scanner.silent (step false) t cs = some s := by
  cases hxs with
  | plain hc hcs => exact ⟨s, hplain c hc, h.silent hcs⟩
  | escape ha hb hcs =>
    refine ⟨s₁, hescape, ?_⟩
    simp only [Scanner.silent, h.high _ ha, h.low _ hb]
    exact h.silent hcs

/-- `path_absolute` -/
def PathAbsolute (path : Bytes) : Prop :=
  ∃ cs, path = 47 :: cs ∧ Escaped pathChar cs ∧ cs.head? ≠ some 47

/-- The path up to its end. -/
theorem path_silent {cs : Bytes} (hcs : Escaped pathChar cs) (hslash : cs.head? ≠ some 47) :
    ∃ u, u ∈ [33, 26] ∧ silent (step false) 33 cs = some u := by
  cases hcs with
  | nil => exact ⟨33, by decide, rfl⟩
  | @plain c cs hc hcs =>
    have hclass : pchar.has c = true := by
      refine (Bool.or_eq_true_iff.mp hc).resolve_left fun heq => hslash ?_
      simp only [Bool.and_eq_true, decide_eq_true_eq] at heq
      exact congrArg some (UInt8.toNat_inj.mp (show c.toNat = 47 by omega))
    refine ⟨26, by decide, ?_⟩
    simp only [silent, step_st (s := 33) (t := 26) (by decide) hclass]
    exact path_loop.silent hcs
  | escape ha hb hcs =>
    refine ⟨26, by decide, ?_⟩
    simp only [silent, show step false 33 37 = .next 27 [] by decide,
      path_loop.high _ ha, path_loop.low _ hb]
    exact path_loop.silent hcs

/-- The path, up to what ends it. -/
theorem reads_path (buffer : Bytes) {path : Bytes} (hpath : PathAbsolute path) {e : UInt8} {t : Nat}
    {acts : List Action} (hend : ∀ u ∈ [33, 26], step false u e = .next t acts)
    (hacts : acts = [request_path, request_uri] ∨ acts = [request_path]) :
    Reads buffer 3 (path ++ [e]) t fun r => { r with path := path } := by
  obtain ⟨cs, rfl, hcs, hslash⟩ := hpath
  obtain ⟨u, hu, hsilent⟩ := path_silent hcs hslash
  refine Passes.marked (t := 33) (r := .mark) (by decide) hsilent (hend u hu)
    fun regs d rest hdrop => ⟨regs, _, ?_, rfl⟩
  rcases hacts with rfl | rfl
  · simp only [perform, request_path, request_uri, callback, text_marked hdrop, Option.bind_some]
  · simp only [perform, request_path, callback, text_marked hdrop, Option.bind_some]

/-- A query, up to the byte that ends it. -/
theorem reads_query {buffer query : Bytes} (hne : query ≠ []) (hquery : Escaped queryChar query)
    {e : UInt8} {t : Nat} (hend : step false 30 e = .next t [query_string, request_uri]) :
    Reads buffer 29 (query ++ [e]) t fun r => { r with query := query } := by
  obtain ⟨c, cs, rfl⟩ := List.exists_cons_of_ne_nil hne
  obtain ⟨u, hfirst, hsilent⟩ := query_loop.first [start_query] (q := 29)
    (fun _ => step_tr (k := 53) (by decide)) (by decide) hquery
  refine Passes.marked hfirst hsilent hend fun regs d rest hdrop => ⟨regs, _, ?_, rfl⟩
  have hle : regs .query_start ≤ regs .query_start + (c :: cs).length := Nat.le_add_right _ _
  simp only [perform, query_string, request_uri, callback, if_pos hle, text_marked hdrop,
    Option.bind_some]

/-- A fragment and its blank. -/
theorem reads_fragment {buffer frag : Bytes} (hne : frag ≠ []) (hfrag : Escaped queryChar frag) :
    Reads buffer 20 (frag ++ [32]) 4 fun r => { r with fragment := frag } := by
  obtain ⟨c, cs, rfl⟩ := List.exists_cons_of_ne_nil hne
  obtain ⟨u, hfirst, hsilent⟩ := fragment_loop.first [mark] (q := 20)
    (fun _ => step_tr (k := 43) (by decide)) (by decide) hfrag
  refine Passes.marked hfirst hsilent (show step false 21 32 = .next 4 [fragment] by
    decide +kernel) fun regs d rest hdrop => ⟨regs, _, ?_, rfl⟩
  simp only [perform, fragment, callback, text_marked hdrop, Option.bind_some]

/-- The part of the request line between the method and the version. -/
def targetText (r : HttpRequest) : Bytes :=
  r.path ++ (if r.query = [] then [] else ascii "?") ++ r.query ++
    (if r.fragment = [] then [] else ascii "#") ++ r.fragment ++ ascii " "

/-- What of the target is there is set. -/
def withTarget (r x : HttpRequest) : HttpRequest :=
  { x with
    path     := r.path
    query    := if r.query = [] then x.query else r.query
    fragment := if r.fragment = [] then x.fragment else r.fragment }

/-- The request target, with a query and a fragment or without. -/
theorem reads_target {buffer : Bytes} {r : HttpRequest} (hpath : PathAbsolute r.path)
    (hquery : Escaped queryChar r.query) (hfragment : Escaped queryChar r.fragment) :
    Reads buffer 3 (targetText r) 4 (withTarget r) := by
  have hblank : ∀ u ∈ [33, 26],
      step false u 32 = .next 4 [request_path, request_uri] := by decide
  have hmark : ∀ u ∈ [33, 26], step false u 63 = .next 29 [request_path] := by
    decide +kernel
  have hhash : ∀ u ∈ [33, 26],
      step false u 35 = .next 20 [request_path, request_uri] := by decide
  -- the path ends at a blank, a question mark or a hash, which decides the state behind it
  by_cases hq : r.query = []
  · by_cases hf : r.fragment = []
    · have hread := reads_path buffer hpath hblank (.inl rfl)
      have hset : withTarget r = fun x => { x with path := r.path } :=
        funext fun x => by simp [withTarget, hq, hf]
      simpa [targetText, hset, hq, hf, ascii] using hread
    · have hread := (reads_path buffer hpath hhash (.inl rfl)).append
        (reads_fragment hf hfragment)
      have hset : withTarget r = fun x => { x with path := r.path, fragment := r.fragment } :=
        funext fun x => by simp [withTarget, hq, hf]
      simpa [targetText, hset, hq, hf, ascii] using hread
  · by_cases hf : r.fragment = []
    · have hread := (reads_path buffer hpath hmark (.inr rfl)).append
        (reads_query hq hquery (e := 32) (t := 4) (by decide))
      have hset : withTarget r = fun x => { x with path := r.path, query := r.query } :=
        funext fun x => by simp [withTarget, hq, hf]
      simpa [targetText, hset, hq, hf, ascii] using hread
    · have hread := ((reads_path buffer hpath hmark (.inr rfl)).append
        (reads_query hq hquery (e := 35) (t := 20) (by decide))).append
        (reads_fragment hf hfragment)
      have hset : withTarget r = fun x =>
          { x with path := r.path, query := r.query, fragment := r.fragment } :=
        funext fun x => by simp [withTarget, hq, hf]
      simpa [targetText, hset, hq, hf, ascii] using hread

/-! ## Section 4: The version and the header lines -/

/-- The version and the end of the line. -/
theorem reads_version {buffer : Bytes} {version : UInt8} (h : version = 0x10 ∨ version = 0x11) :
    Reads buffer 4 (versionText version ++ crlf) 13 fun r => { r with version := version } := by
  obtain ⟨cs, htext, hpath, hset⟩ : ∃ cs, versionText version = 72 :: cs ∧
      silent (step false) 5 cs = some 12 ∧ ∀ d : Parsed,
        on_request_version (72 :: cs) d = ({ d.1 with version := version }, d.2) := by
    rcases h with rfl | rfl
    · exact ⟨ascii "TTP/1.0", by decide, by decide, fun d => rfl⟩
    · exact ⟨ascii "TTP/1.1", by decide, by decide, fun d => rfl⟩
  rw [htext]
  have hversion : Reads buffer 4 (72 :: cs ++ [13]) 17 fun r => { r with version := version } := by
    refine Passes.marked (t := 5) (r := .mark) (by decide) hpath
      (show step false 12 13 = .next 17 [http_version] by decide)
      fun regs d rest hdrop => ⟨regs, _, ?_, rfl⟩
    simp only [perform, http_version, callback, text_marked hdrop, Option.bind_some, hset]
  have hend : Reads buffer 17 [10] 13 id :=
    Passes.byte (show step false 17 10 = .next 13 [] by decide) fun _ regs d =>
      ⟨regs, d, rfl, rfl⟩
  have hline := hversion.append hend
  rwa [List.append_assoc] at hline

/-- The bytes of a value: `content` on one line. -/
def content : ByteClass := [(1, 9), (11, 12), (14, 126), (128, 255)]

/-- What a value in a line of its own may be. -/
def PlainValue (value : Bytes) : Prop :=
  (∀ c ∈ value, c ≠ 0 ∧ c ≠ 10 ∧ c ≠ 13 ∧ c ≠ 127) ∧ ∀ c ∈ value.head?, c ≠ 32 ∧ c ≠ 9

instance (value : Bytes) : Decidable (PlainValue value) :=
  inferInstanceAs (Decidable (_ ∧ _))

theorem has_content {c : UInt8} (h : c ≠ 0 ∧ c ≠ 10 ∧ c ≠ 13 ∧ c ≠ 127) :
    content.has c = true := by
  revert h c
  apply forall_byte
  decide +kernel

/-- A value up to the end of its line. -/
theorem PlainValue.reads {value : Bytes} (h : PlainValue value) :
    ReadsValue (step false) 15 .mark value 17 [write_value] := by
  obtain ⟨hline, hblank⟩ := h
  cases value with
  | nil => exact .inl ⟨rfl, by decide⟩
  | cons b bs =>
    have hfirst : ∀ b : UInt8, (b ≠ 32 ∧ b ≠ 9) ∧ b ≠ 0 ∧ b ≠ 10 ∧ b ≠ 13 ∧ b ≠ 127 →
        step false 15 b = .next 16 [start_value] := by
      apply forall_byte
      decide +kernel
    refine .inr ⟨b, bs, 16, 16, rfl, hfirst b ⟨hblank b rfl, hline b List.mem_cons_self⟩,
      silent_loop fun x hx => ?_, by decide⟩
    exact step_st (by decide) (has_content (hline x (List.mem_cons_of_mem _ hx)))

/-- The request with a further header. -/
def withHeader (name value : Bytes) (r : HttpRequest) : HttpRequest :=
  { r with headers := r.headers.set name value }

/-- One header line. -/
theorem reads_line (buffer : Bytes) {name value : Bytes} (htoken : Token name) (hvalue : PlainValue value) :
    Reads buffer 13 (headerLine name value) 13 (withHeader name value) := by
  obtain ⟨c, cs, rfl⟩ := List.exists_cons_of_ne_nil htoken.1
  have hfirst : step false 13 c = .next 14 ([] ++ [start_field]) :=
    step_tr (k := 23) (by decide) (has_tchars (htoken.2 c List.mem_cons_self))
  have hname : silent (step false) 14 cs = some 14 := silent_loop fun x hx =>
    step_st (by decide) (has_tchars (htoken.2 x (List.mem_cons_of_mem _ hx)))
  refine Passes.line (fun d d' => d' = d)
    (fun d d' => d' = (withHeader (c :: cs) value d.1, d.2)) (a := .field_start) (l := .field_len)
    rfl rfl rfl
    (by decide) hfirst (fun _ _ d => ⟨d, rfl, rfl⟩) hname
    (show step false 14 58 = .next 15 [write_field] by decide) (by decide)
    hvalue.reads (fun regs d rest hname hvalue => ?_) (by decide)
    fun _ _ _ h h' => by rw [h', h]
  refine ⟨regs, on_request_http_field (c :: cs) value d, ?_, rfl⟩
  simp only [perform, write_value, callback, hname, text_marked hvalue, Option.bind_some]

/-- The loop over the headers. -/
theorem reads_lines (buffer : Bytes) {headers : Headers}
    (h : ∀ e ∈ headers, Token e.1 ∧ strcaseeq e.1 (ascii "connection") = false ∧
      PlainValue e.2) :
    Reads buffer 13 (headerLines false headers) 13 fun r =>
      { r with headers := headers.foldl (fun m e => m.set e.1 e.2) r.headers } := by
  induction headers with
  | nil => exact Passes.nil fun _ => rfl
  | cons e es ih =>
    obtain ⟨htoken, hne, hvalue⟩ := h e List.mem_cons_self
    have hline := (reads_line buffer htoken hvalue).append
      (ih fun x hx => h x (List.mem_cons_of_mem _ hx))
    rw [headerLines, List.map_cons, List.flatten_cons, hne]
    exact hline

/-- The empty line ends the header. -/
theorem reads_end (buffer rest : Bytes) (p : Nat) (regs : Reg → Nat) (d : Parsed) :
    ∃ regs', scan (step false) (perform origin callback buffer) p 13 (regs, d) (crlf ++ rest) =
      some ⟨348, p + crlf.length, (regs', d), true⟩ := by
  have hcr : step false 13 13 = .next 18 [start_field] := by decide
  have hlast : step false 18 10 = .last 348 [done] := by decide
  refine ⟨Function.update regs .field_start p, ?_⟩
  rw [crlf, List.cons_append,
    scan_next hcr (e := (Function.update regs .field_start p, d)) rfl]
  simp only [List.singleton_append, scan, hlast]
  rfl

/-- The values of `connection` are plain. -/
theorem PlainValue.connection (close : Bool) : PlainValue (connectionValue close) := by
  cases close <;> decide

/-- A number is a plain value. -/
theorem PlainValue.decimal (n : Nat) : PlainValue (Http.decimal n) := by
  have hdigit : ∀ c : UInt8, Strtol.isdigit 10 c = true →
      (c ≠ 0 ∧ c ≠ 10 ∧ c ≠ 13 ∧ c ≠ 127) ∧ c ≠ 32 ∧ c ≠ 9 := by
    apply forall_byte
    decide +kernel
  refine ⟨fun c hc => (hdigit c (decimal_digits n c hc)).1, fun c hc => (hdigit c ?_).2⟩
  exact decimal_digits n c (List.mem_of_mem_head? hc)

def withLength (body : Bytes) (r : HttpRequest) : HttpRequest :=
  if body = [] then r else withHeader (ascii "content-length") (Http.decimal body.length) r

/-- The end of the header, with or without a length. -/
theorem reads_last {buffer rest : Bytes} (body : Bytes) {p : Nat} (regs : Reg → Nat) (d : Parsed)
    (hp : buffer.drop p = lastLines body ++ rest) :
    ∃ regs', scan (step false) (perform origin callback buffer) p 13 (regs, d)
      (lastLines body ++ rest) =
        some ⟨348, p + (lastLines body).length, (regs', withLength body d.1, d.2), true⟩ := by
  by_cases hbody : body = []
  · have hlast : lastLines body = crlf := if_neg (not_not_intro hbody)
    obtain ⟨regs', hend⟩ := reads_end buffer rest p regs d
    rw [hlast]
    refine ⟨regs', ?_⟩
    rw [hend, withLength, if_pos hbody]
  · have hlast : lastLines body =
        headerLine (ascii "content-length") (Http.decimal body.length) ++ crlf := if_pos hbody
    rw [hlast, List.append_assoc] at hp
    have htoken : Token (ascii "content-length") := by decide
    obtain ⟨regs₁, d₁, hline, hd₁⟩ := reads_line buffer htoken (PlainValue.decimal body.length) p regs
      d (crlf ++ rest) hp
    obtain ⟨regs', hend⟩ := reads_end buffer rest
      (p + (headerLine (ascii "content-length") (Http.decimal body.length)).length) regs₁ d₁
    refine ⟨regs', ?_⟩
    rw [hlast, List.append_assoc, hline, hend, List.length_append, Nat.add_assoc, hd₁, withLength,
      if_neg hbody]

end HttpParser

open HttpParser

/-! ## Section 5: The message -/

/-- A request as `HttpRequest::dump` can write it down unambiguously. -/
structure HttpRequest.Plain (r : HttpRequest) : Prop where
  method   : ∀ c ∈ methodToString r.method, 65 ≤ c ∧ c ≤ 90
  path     : PathAbsolute r.path
  query    : Escaped queryChar r.query
  fragment : Escaped queryChar r.fragment
  version  : r.version = 0x10 ∨ r.version = 0x11
  headers  : ∀ e ∈ r.headers, Token e.1 ∧ (∀ n ∈ reservedNames, strcaseeq e.1 n = false) ∧
               HttpParser.PlainValue e.2
  distinct : r.headers.Distinct

/-- The headers that the other side finds. -/
def HttpRequest.sentHeaders (r : HttpRequest) : Headers :=
  [(ascii "connection", connectionValue r.close)] ++ r.headers ++
    if r.body = [] then [] else [(ascii "content-length", decimal r.body.length)]

/-- The request as it is when its header was parsed. -/
def HttpRequest.received (r : HttpRequest) : HttpRequest :=
  { r with close := true, headers := r.sentHeaders, body := [] }

/-- The part of the header up to the last header of the request. -/
def HttpRequest.front (r : HttpRequest) : Bytes :=
  methodToString r.method ++ ascii " " ++ targetText r ++ versionText r.version ++ crlf ++
    connectionLine r.close ++ headerLines false r.headers

/-- What is written in front of the body. -/
theorem HttpRequest.header_eq (r : HttpRequest) :
    r.header false = r.front ++ lastLines r.body := by
  simp [HttpRequest.header, HttpRequest.front, targetText, List.append_assoc]

theorem HttpRequest.Plain.lines {r : HttpRequest} (hr : r.Plain) {key : Bytes}
    (hkey : key ∈ reservedNames) : ∀ e ∈ r.headers, strcaseeq e.1 key = false :=
  fun e he => (hr.headers e he).2.1 key hkey

/-- The request line and the headers of the user. -/
theorem reads_front (buffer : Bytes) {r : HttpRequest} (hr : r.Plain) :
    Reads buffer 1 r.front 13 fun x =>
      { withTarget r { x with method := r.method } with
        version := r.version
        headers := r.headers.foldl (fun m e => m.set e.1 e.2)
          (x.headers.set (ascii "connection") (connectionValue r.close)) } := by
  have hmethod : r.method ≠ .MSEARCH := by
    intro heq
    have hletters := hr.method
    rw [heq] at hletters
    revert hletters
    decide
  have hline := ((reads_method buffer hmethod).append
    (reads_target hr.path hr.query hr.fragment)).append (reads_version hr.version)
  have htoken : Token (ascii "connection") := by decide
  have hconnection := reads_line buffer htoken (PlainValue.connection r.close)
  have hlines := reads_lines buffer fun e he =>
    ⟨(hr.headers e he).1, hr.lines connection_reserved e he,
      (hr.headers e he).2.2⟩
  have hfront := (hline.append hconnection).append hlines
  unfold HttpRequest.front connectionLine
  simp only [List.append_assoc] at hfront ⊢
  exact hfront

/-- The changes of all the lines, one after the other. -/
theorem HttpRequest.Plain.received_eq {r : HttpRequest} (hr : r.Plain) :
    withLength r.body { withTarget r { HttpRequest.new with method := r.method } with
      version := r.version
      headers := r.headers.foldl (fun m e => m.set e.1 e.2)
        [(ascii "connection", connectionValue r.close)] } = r.received := by
  have hheaders := Headers.foldl_set r.headers
    (m := [(ascii "connection", connectionValue r.close)]) (List.pairwise_cons.mpr
      ⟨fun e he => by
        rw [strcaseeq_comm]
        exact hr.lines connection_reserved e he, hr.distinct⟩)
  -- the connection line is dumped first, content-length last
  have hlength : Headers.set ([(ascii "connection", connectionValue r.close)] ++ r.headers)
      (ascii "content-length") (decimal r.body.length) =
      [(ascii "connection", connectionValue r.close)] ++ r.headers ++
        [(ascii "content-length", decimal r.body.length)] := by
    refine Headers.set_new _ fun e he => ?_
    rcases List.mem_append.mp he with he | he
    · rw [List.mem_singleton.mp he]
      exact (by decide : strcaseeq (ascii "connection") (ascii "content-length") = false)
    · exact hr.lines (by decide) e he
  rw [hheaders]
  have hquery : (if r.query = [] then [] else r.query) = r.query := by
    split
    · rename_i h; rw [h]
    · rfl
  have hfragment : (if r.fragment = [] then [] else r.fragment) = r.fragment := by
    split
    · rename_i h; rw [h]
    · rfl
  simp only [withHeader, withLength, withTarget, HttpRequest.received, HttpRequest.sentHeaders,
    HttpRequest.new, hlength, hquery, hfragment]
  split
  · rw [List.append_nil]
  · rfl

/-- The scan of a whole header. -/
theorem scan_request {env : Env} (henv : env.uri_relaxed = false) {r : HttpRequest} (hr : r.Plain)
    (rest : Bytes) :
    ∃ regs, scan (step env.uri_relaxed) (perform origin callback (r.header false ++ rest)) 0
        (HttpRequestParser.new env).cs (HttpRequestParser.forget (HttpRequestParser.new env).regs,
          (HttpRequestParser.new env).data) (r.header false ++ rest) =
      some ⟨348, (r.header false).length, (regs, r.received, 0), true⟩ := by
  obtain ⟨buffer, hbuffer⟩ : ∃ buffer, buffer = r.front ++ (lastLines r.body ++ rest) := ⟨_, rfl⟩
  obtain ⟨regs₁, d₁, hfront, hd₁⟩ := reads_front buffer hr 0
    (HttpRequestParser.forget (HttpRequestParser.new env).regs) (HttpRequestParser.new env).data
    (lastLines r.body ++ rest) hbuffer
  have hdrop : buffer.drop (0 + r.front.length) = lastLines r.body ++ rest := by
    rw [Nat.zero_add, hbuffer, List.drop_left]
  obtain ⟨regs, hlast⟩ := reads_last r.body regs₁ d₁ hdrop
  refine ⟨regs, ?_⟩
  rw [r.header_eq, List.append_assoc, ← hbuffer, List.length_append, ← Nat.zero_add
    r.front.length, henv, ← hr.received_eq]
  nth_rewrite 2 [hbuffer]
  rw [hd₁] at hfront hlast
  exact hfront.trans hlast

/-- The `connection` header of what is sent. -/
theorem sent_connection (r : HttpRequest) :
    r.sentHeaders.lookup (ascii "connection") = some (connectionValue r.close) := by
  have hsame : strcaseeq (ascii "connection") (ascii "connection") = true := by decide
  exact congrArg (Option.map Prod.snd) (List.find?_cons_of_pos hsame)

/-- The `content-length` header of what is sent. -/
theorem sent_length {r : HttpRequest} (hr : r.Plain) :
    r.sentHeaders.lookup (ascii "content-length") =
      if r.body = [] then none else some (decimal r.body.length) := by
  rw [HttpRequest.sentHeaders, Headers.lookup_append]
  · split
    · rfl
    · have hsame : strcaseeq (ascii "content-length") (ascii "content-length") = true := by decide
      exact congrArg (Option.map Prod.snd) (List.find?_cons_of_pos hsame)
  · intro e he
    rcases List.mem_append.mp he with he | he
    · rw [List.mem_singleton.mp he]
      exact (by decide : strcaseeq (ascii "connection") (ascii "content-length") = false)
    · exact hr.lines (by decide) e he

/-- `init` takes the close flag from the connection header. -/
theorem init_received (r : HttpRequest) (body : Bytes) :
    HttpRequest.init { r.received with body := body } =
      { r with headers := r.sentHeaders, body := body } := by
  have hne : connectionValue r.close ≠ [] := by cases r.close <;> decide
  have hclose : (!strcaseeq (connectionValue r.close) (ascii "keep-alive")) = r.close := by
    cases r.close <;> decide
  unfold HttpRequest.init
  simp only [HttpRequest.received, sent_connection, if_neg hne, hclose]

/-- The header loop ends in its first round. -/
theorem recvHeader_request {env : Env} (rest : Stream) (henv : env.uri_relaxed = false) {n : Nat}
    (hn : n < 0x80000000) {r : HttpRequest} (hr : r.Plain) {first : Bytes}
    (hfits : (r.header false).length ≤ n) (hfirst : r.header false <+: first) :
    ∃ parser got s, recvHeader (requestParser env) n (fuelFor (first :: rest))
        (HttpRequestParser.new env) [] (first :: rest) = .ok (parser, got, s) ∧
      parser.data.1 = r.received ∧
      got ++ s.flatten = (first :: rest).flatten.drop (r.header false).length ∧
      ((∀ c ∈ rest, c ≠ []) → ∀ c ∈ s, c ≠ []) := by
  have hne : r.header false ≠ [] := by
    rw [r.header_eq]
    simp [HttpRequest.front, ascii]
  have hscan := scan_request henv hr
  generalize r.header false = header at hne hfits hfirst hscan ⊢
  obtain ⟨got, s, hread, hflat, hs⟩ := read_first (s := rest) hne hfits hfirst
  obtain ⟨regs, hscan⟩ := hscan got
  have hexecute : (requestParser env).execute (HttpRequestParser.new env) (header ++ got) =
      some (⟨348, regs, r.received, 0⟩, header.length) :=
    execute_eq (by simp [hne]) hscan
  -- 348 is first_final
  have hnoerror : (requestParser env).hasError ⟨348, regs, r.received, 0⟩ = false := by
    simp [requestParser, HttpRequestParser.hasError, http_parser_error]
  have hfinished : (requestParser env).isFinished ⟨348, regs, r.received, 0⟩ ≠ 0 := by
    simp [requestParser, HttpRequestParser.isFinished, http_parser_error, http_parser_first_final]
  refine ⟨⟨348, regs, r.received, 0⟩, got, s, ?_, rfl, hflat, hs⟩
  rw [fuelFor, recvHeader_read _ hn hread hexecute (List.length_pos_iff.mpr hne), hnoerror,
    if_neg (by decide), if_pos hfinished, List.drop_left]

end Http

open Http

/-- What `HttpRequest::dump` writes is read back by `recvRequest`: the header
    in one read, the body in any pieces, and anything behind it. -/
theorem request_round_trip {env : Env} (henv : env.uri_relaxed = false) {buff_size : Nat}
    (hsize : buff_size < 0x80000000) {r : HttpRequest} (hr : r.Plain)
    (hbody : r.body.length < 0x80000000)
    (hcast : env.lexical_cast (decimal r.body.length) = some r.body.length.toUInt64)
    {first : Bytes} {rest : Stream} (hpieces : ∀ c ∈ rest, c ≠ [])
    (hfits : (r.header false).length ≤ buff_size) (hfirst : r.header false <+: first)
    (hdump : r.dump false <+: (first :: rest).flatten) :
    outcome (recvRequest env buff_size (first :: rest)) =
      .ok { r with headers := r.sentHeaders } := by
  obtain ⟨parser, got, s, hheader, hreceived, hflat, hs⟩ :=
    recvHeader_request rest henv hsize hr hfits hfirst
  obtain ⟨after, hafter⟩ := hdump
  rw [← hafter, HttpRequest.dump, List.append_assoc, List.drop_left] at hflat
  have hlookup := sent_length hr
  have hinit := init_received r
  unfold recvRequest
  rw [hheader]
  simp only [finishRequest, HttpRequestParser.getContentLength, hreceived]
  rw [show r.received.headers = r.sentHeaders from rfl, hlookup]
  -- without a body nothing more is read
  by_cases hnil : r.body = []
  · have hzero : ¬ 0 < toInt64 (0 : UInt64).toNat := by decide
    simp only [if_pos hnil, if_neg hzero]
    have hsame := hinit []
    rw [show { r.received with body := [] } = r.received from rfl] at hsame
    rw [hsame, ← hnil]
    rfl
  · have hpos : (0 : Int) < r.body.length := Int.natCast_pos.mpr (List.length_pos_iff.mpr hnil)
    have hread := recvBody_spec got hpos (hs hpieces) (by omega)
    rw [if_pos (by rw [hflat, List.length_append]; omega), hflat, Int.toNat_natCast,
      List.take_left] at hread
    obtain ⟨s', hread⟩ := hread
    simp only [if_neg hnil, hcast, Option.getD_some, toInt64_length hbody, if_pos hpos, hread]
    exact congrArg Except.ok (hinit r.body)

/-- A request with all parts of a target and a body that arrives in three pieces. -/
theorem request_round_trip_search :
    let env : Env := ⟨false, 7, fun val => if val = ascii "5" then some 5 else none⟩
    let r : HttpRequest := ⟨.POST, 0x10, false, ascii "/a/b%2fc", ascii "k=v?", ascii "top",
      ascii "hello", [(ascii "Host", ascii "x"), (ascii "Accept", [])]⟩
    outcome (recvRequest env 4096 [r.header false ++ ascii "h", ascii "ell", ascii "oGET"]) =
        .ok { r with headers := r.sentHeaders } ∧
      r.sentHeaders = [(ascii "connection", ascii "keep-alive"), (ascii "Host", ascii "x"),
        (ascii "Accept", []), (ascii "content-length", ascii "5")] := by
  have hpath : HttpParser.PathAbsolute (ascii "/a/b%2fc") := by
    refine ⟨[97, 47, 98, 37, 50, 102, 99], by decide, ?_, by decide⟩
    exact .plain rfl (.plain rfl (.plain rfl (.escape rfl rfl (.plain rfl .nil))))
  have hquery : HttpParser.Escaped HttpParser.queryChar (ascii "k=v?") :=
    .plain rfl (.plain rfl (.plain rfl (.plain rfl .nil)))
  have hfragment : HttpParser.Escaped HttpParser.queryChar (ascii "top") := .plain rfl (.plain rfl (.plain rfl .nil))
  refine ⟨request_round_trip rfl (by decide) ⟨by decide, hpath, hquery, hfragment, by decide, ?_, ?_⟩
    (by decide) (by decide) (by decide) (by decide)
    (List.prefix_append _ _) (by decide), by decide⟩
  · decide +kernel
  · decide +kernel

end MNSER
