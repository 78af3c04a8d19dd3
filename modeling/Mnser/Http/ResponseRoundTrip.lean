import Mnser.Http.ByteClass
import Mnser.Http.Connection
import Mnser.Http.Passage

/-! # A response goes through

    The response scanner on what `HttpResponse::dump` writes: the status line,
    the header lines one after the other, and the end of the header.  Names
    that begin like `connection`, `content-length` or `transfer-encoding` are
    read in states of their own, which keep the letters that were read. -/

namespace MNSER

namespace Http

open Ranges Scanner
open HttpParser (Goto)

namespace HttpClientParser

/-! ## Section 1: What a passage does -/

/-- The response changes by `f`, and nothing else that `recvResponse` looks at. -/
structure Sets (f : HttpResponse → HttpResponse) (d d' : Received) : Prop where
  response : d'.response = f d.response
  error    : d'.error = d.error
  chunked  : d'.chunked = d.chunked

theorem Sets.rfl {d : Received} : Sets id d d := ⟨Eq.refl _, Eq.refl _, Eq.refl _⟩

/-- What is set is set part by part. -/
theorem Sets.trans {f g : HttpResponse → HttpResponse} {a b c : Received} (h₁ : Sets f a b)
    (h₂ : Sets g b c) : Sets (fun r => g (f r)) a c where
  response := by rw [h₂.response, h₁.response]
  error    := h₂.error.trans h₁.error
  chunked  := h₂.chunked.trans h₁.chunked

/-- In `buffer` the text `xs` leads from `s` to `t`, and changes the response by `f`. -/
abbrev Reads (buffer : Bytes) (s : Nat) (xs : Bytes) (t : Nat) (f : HttpResponse → HttpResponse) :
    Prop :=
  Passes origin HttpClientParser.callback step buffer s xs t (Sets f)

theorem Reads.append {buffer xs ys : Bytes} {s t u : Nat} {f g : HttpResponse → HttpResponse}
    (h₁ : Reads buffer s xs t f) (h₂ : Reads buffer t ys u g) :
    Reads buffer s (xs ++ ys) u fun r => g (f r) :=
  h₁.trans h₂ fun _ _ _ => Sets.trans

theorem step_eq (s : Nat) (c : UInt8) :
    step s c = match entryAt (rows.getD s []) c.toNat with
      | none   => .fail httpclient_parser_error
      | some g => follow g := rfl

/-- Where the bytes of a class lead. -/
theorem step_class {s : Nat} {cls : ByteClass} {g : Goto}
    (h : onClass (rows.getD s []) cls (fun _ _ e => e == g) = true) {c : UInt8}
    (hc : cls.has c = true) : step s c = follow g := by
  obtain ⟨_, _, e, _, _, hentry, he⟩ := onClass_entry h hc
  rw [step_eq, hentry, ← beq_iff_eq.mp he]

/-! ## Section 2: The status line -/

/-- The version and its blank. -/
theorem reads_version (buffer : Bytes) {version : UInt8} (h : version = 0x10 ∨ version = 0x11) :
    Reads buffer 1 (versionText version ++ [32]) 16 fun r => { r with version := version } := by
  obtain ⟨cs, htext, hpath, hset⟩ : ∃ cs, versionText version = 72 :: cs ∧
      silent step 8 cs = some 15 ∧ ∀ d : Received, Sets (fun r => { r with version := version }) d
        (d.on_response_version (72 :: cs)) := by
    rcases h with rfl | rfl
    · exact ⟨ascii "TTP/1.0", by decide, by decide, fun d => ⟨rfl, rfl, rfl⟩⟩
    · exact ⟨ascii "TTP/1.1", by decide, by decide, fun d => ⟨rfl, rfl, rfl⟩⟩
  rw [htext]
  refine Passes.marked (t := 8) (r := .mark) (by decide) hpath
    (show step 15 32 = .next 16 [http_version] by decide) fun regs d rest hdrop => ?_
  refine ⟨regs, d.on_response_version (72 :: cs), ?_, hset d⟩
  simp only [perform, http_version, HttpClientParser.callback, text_marked hdrop, Option.bind_some]

theorem step_status_digit {c : UInt8} (hc : digits.has c = true) :
    step 16 c = .next 17 [mark] ∧ step 17 c = .next 17 [] :=
  ⟨step_class (g := .tr 27) (by decide) hc, step_class (g := .st 17) (by decide) hc⟩

/-- The numbers of `HTTP_STATUS_MAP` are read back. -/
theorem status_magnitude : ∀ e ∈ httpStatusMap,
    wrap32 (min (Strtol.magnitude 10 0 (decimal (e.1 % 2 ^ 32).toNat)) (2 ^ 63 - 1) : Nat) = e.1 := by
  decide +kernel

/-- The status and its blank. -/
theorem reads_status {buffer : Bytes} {e : Int × String} (he : e ∈ httpStatusMap) :
    Reads buffer 16 (decimal (e.1 % 2 ^ 32).toNat ++ [32]) 18 fun r => { r with status := e.1 } := by
  have hmagnitude := status_magnitude e he
  obtain ⟨n, hn⟩ : ∃ n, n = (e.1 % 2 ^ 32).toNat := ⟨_, rfl⟩
  rw [← hn] at hmagnitude ⊢
  have hdigits := decimal_digits n
  obtain ⟨c, cs, htext⟩ := List.exists_cons_of_ne_nil (decimal_ne_nil n)
  rw [htext] at hdigits hmagnitude ⊢
  have hfirst := (step_status_digit (has_digits (hdigits c List.mem_cons_self))).1
  have hrest : silent step 17 cs = some 17 := silent_loop fun x hx =>
    (step_status_digit (has_digits (hdigits x (List.mem_cons_of_mem _ hx)))).2
  refine Passes.marked hfirst hrest
    (show step 17 32 = .next 18 [status_code] by decide) fun regs d rest hdrop => ?_
  refine ⟨regs, d.on_response_status (buffer.drop (regs .mark)), ?_, ?_, rfl, rfl⟩
  · simp only [perform, status_code, HttpClientParser.callback, Option.bind_some]
  · have hstops : Strtol.Stops 10 (32 :: rest) := by
      intro d hd
      rw [← Option.some.inj hd]
      decide
    have hvalue : strtoi 10 (buffer.drop (regs .mark)) = e.1 := by
      rw [hdrop, strtoi,
        Strtol.strtol_digits (by omega) hdigits (List.cons_ne_nil _ _) hstops, hmagnitude]
    simp only [Received.on_response_status, hvalue]

/-- Neither CR nor LF. -/
def inLine : ByteClass := [(0, 9), (11, 12), (14, 255)]

theorem has_inLine {c : UInt8} (h : c ≠ 13 ∧ c ≠ 10) : inLine.has c = true := by
  revert h c
  apply forall_byte
  decide +kernel

/-- The reason and the end of the line. -/
theorem reads_reason {buffer reason : Bytes} (hne : reason ≠ [])
    (hreason : ∀ c ∈ reason, c ≠ 13 ∧ c ≠ 10) :
    Reads buffer 18 (reason ++ crlf) 20 fun r => { r with reason := reason } := by
  obtain ⟨c, cs, rfl⟩ := List.exists_cons_of_ne_nil hne
  have hfirst : step 18 c = .next 19 [mark] :=
    step_class (g := .tr 30) (by decide) (has_inLine (hreason c List.mem_cons_self))
  have hrest : silent step 19 cs = some 19 := silent_loop fun x hx =>
    step_class (g := .st 19) (by decide)
      (has_inLine (hreason x (List.mem_cons_of_mem _ hx)))
  have hphrase : Reads buffer 18 (c :: cs ++ [13]) 24 fun r => { r with reason := c :: cs } := by
    refine Passes.marked hfirst hrest
      (show step 19 13 = .next 24 [reason_phrase] by decide) fun regs d rest hdrop => ?_
    refine ⟨regs, d.on_response_reason (c :: cs), ?_, rfl, rfl, rfl⟩
    simp only [perform, HttpClientParser.reason_phrase, HttpClientParser.callback,
      text_marked hdrop, Option.bind_some]
  have hend : Reads buffer 24 [10] 20 id :=
    Passes.byte (show step 24 10 = .next 20 [] by decide) fun _ regs d =>
      ⟨regs, d, rfl, Sets.rfl⟩
  have hline := hphrase.append hend
  rwa [List.append_assoc] at hline

/-! ## Section 3: Header names -/

/-- The states in which a name begins like one of the three words. -/
def wordStates : List Nat := List.range' 25 10 ++ List.range' 44 17 ++ List.range' 101 11

/-- The letters read in such a state. -/
def wordOf (s : Nat) : Bytes :=
  if s ≤ 34 then (ascii "connection").take (s - 24)
  else if s ≤ 60 then (ascii "transfer-encoding").take (s - 43)
  else (ascii "content-length").take (s - 97)

/-- The states in which a name is read. -/
def InName (s : Nat) (name : Bytes) : Prop :=
  s = 21 ∨ s ∈ wordStates ∧ name.map tolower = wordOf s

/-- A further letter leads to the next state of the word or out of it. -/
def wordGoes (s lo hi : Nat) : Goto → Bool
  | .st t => t == 21 || wordStates.contains t &&
      allBytes lo hi fun c => wordOf s ++ [tolower c] == wordOf t
  | .tr _ => false

theorem word_rows : ∀ row ∈ rows.zipIdx, wordStates.contains row.2 = true →
    onClass row.1 tchars (wordGoes row.2) = true ∧
      (entryAt row.1 58 = some (.tr 39) ∨ wordOf row.2 ∈ reservedNames) := by
  decide +kernel

/-- In the middle of a reserved name any byte of a token may follow. -/
theorem word_row {s : Nat} (hs : s ∈ wordStates) :
    onClass (rows.getD s []) tchars (wordGoes s) = true ∧
      (step s 58 = .next 22 [write_field] ∨ wordOf s ∈ reservedNames) := by
  have hlt : s < rows.length := by
    have hrows : ∀ s ∈ wordStates, s < rows.length := by decide +kernel
    exact hrows s hs
  have hrow := List.mk_mem_zipIdx_iff_getElem?.mpr (List.getElem?_eq_getElem hlt)
  obtain ⟨hgoes, hcolon⟩ := word_rows _ hrow (List.contains_iff_mem.mpr hs)
  rw [← List.getD_eq_getElem _ [] hlt] at hgoes hcolon
  refine ⟨hgoes, hcolon.imp_left fun h => ?_⟩
  rw [step_eq, show (58 : UInt8).toNat = 58 from rfl, h]
  rfl

/-- One more byte of a name. -/
theorem InName.step {s : Nat} {name : Bytes} (h : InName s name) {c : UInt8}
    (hc : istchar c = true) :
    ∃ t, HttpClientParser.step s c = .next t [] ∧ InName t (name ++ [c]) := by
  rcases h with rfl | ⟨hs, hname⟩
  · exact ⟨21, step_class (g := .st 21) (by decide) (has_tchars hc), .inl rfl⟩
  · obtain ⟨lo, hi, g, hlo, hhi, hentry, hgoes⟩ := onClass_entry (word_row hs).1 (has_tchars hc)
    cases g with
    | st t =>
      refine ⟨t, by rw [step_eq, hentry]; rfl, ?_⟩
      simp only [wordGoes, Bool.or_eq_true, Bool.and_eq_true, beq_iff_eq,
        List.contains_iff_mem] at hgoes
      refine hgoes.imp_right fun hgoes => ⟨hgoes.1, ?_⟩
      have hletter := beq_iff_eq.mp (allBytes_byte hgoes.2 hlo hhi)
      rw [List.map_append, hname, ← hletter]
      rfl
    | tr k => cases hgoes

/-- The bytes of a name are read without an action. -/
theorem InName.silent (cs : Bytes) : ∀ {s : Nat} {name : Bytes}, InName s name →
    (∀ c ∈ cs, istchar c = true) →
    ∃ t, Scanner.silent HttpClientParser.step s cs = some t ∧ InName t (name ++ cs) := by
  induction cs with
  | nil =>
    intro s name h _
    exact ⟨s, rfl, by rwa [List.append_nil]⟩
  | cons c cs ih =>
    intro s name h hcs
    obtain ⟨t, hstep, ht⟩ := h.step (hcs c List.mem_cons_self)
    obtain ⟨u, hsilent, hu⟩ := ih ht fun x hx => hcs x (List.mem_cons_of_mem _ hx)
    refine ⟨u, ?_, by rwa [List.append_assoc] at hu⟩
    simp only [Scanner.silent, hstep]
    exact hsilent

/-- Behind a name that is none of the three the colon leads to a plain value. -/
theorem InName.colon {s : Nat} {name : Bytes} (h : InName s name) (htoken : Token name)
    (hplain : ∀ n ∈ reservedNames, strcaseeq name n = false) :
    HttpClientParser.step s 58 = .next 22 [write_field] := by
  rcases h with rfl | ⟨hs, hname⟩
  · decide +kernel
  · refine (word_row hs).2.resolve_right fun hreserved => ?_
    have hsame := hplain _ hreserved
    have hlower : ∀ n ∈ reservedNames, (cstr n).map tolower = n := by decide
    rw [strcaseeq, htoken.cstr_eq, hname, hlower _ hreserved] at hsame
    simp at hsame

/-- The first letter of a name. -/
theorem first_letter {c : UInt8} (hc : istchar c = true) :
    ∃ t, step 20 c = .next t [start_field] ∧ InName t [c] := by
  have hclass : onClass (rows.getD 20 []) tchars (fun lo hi g => g == .tr 35 ||
      g == .tr 36 && allBytes lo hi (fun c => [tolower c] == wordOf 25) ||
      g == .tr 37 && allBytes lo hi (fun c => [tolower c] == wordOf 44)) = true := by
    decide +kernel
  obtain ⟨lo, hi, g, hlo, hhi, hentry, hgoes⟩ := onClass_entry hclass (has_tchars hc)
  have hstep : step 20 c = follow g := by rw [step_eq, hentry]
  simp only [Bool.or_eq_true, Bool.and_eq_true, beq_iff_eq] at hgoes
  rcases hgoes with (rfl | ⟨rfl, hletter⟩) | ⟨rfl, hletter⟩
  · exact ⟨21, hstep, .inl rfl⟩
  · exact ⟨25, hstep, .inr ⟨by decide, beq_iff_eq.mp (allBytes_byte hletter hlo hhi)⟩⟩
  · exact ⟨44, hstep, .inr ⟨by decide, beq_iff_eq.mp (allBytes_byte hletter hlo hhi)⟩⟩

/-! ## Section 4: Header lines -/

/-- What a value in a line of its own may be. -/
def PlainValue (value : Bytes) : Prop :=
  (∀ c ∈ value, c ≠ 13 ∧ c ≠ 10) ∧ ∀ c ∈ value.head?, Strtol.isspace c = false

instance (value : Bytes) : Decidable (PlainValue value) :=
  inferInstanceAs (Decidable (_ ∧ _))

/-- A value up to the end of its line. -/
theorem PlainValue.reads {value : Bytes} (h : PlainValue value) :
    ReadsValue step 22 .mark value 24 [write_value] := by
  obtain ⟨hline, hspace⟩ := h
  cases value with
  | nil => exact .inl ⟨rfl, by decide⟩
  | cons b bs =>
    have hfirst : ∀ b : UInt8, Strtol.isspace b = false → step 22 b = .next 23 [start_value] := by
      apply forall_byte
      decide +kernel
    refine .inr ⟨b, bs, 23, 23, rfl, hfirst b (hspace b rfl), silent_loop fun x hx => ?_,
      by decide⟩
    exact step_class (g := .st 23) (by decide)
      (has_inLine (hline x (List.mem_cons_of_mem _ hx)))

/-- The call back at the end of a value. -/
theorem perform_value {buffer : Bytes} {p : Nat} {c : UInt8} {cs value rest : Bytes}
    {regs : Reg → Nat} {d : Received}
    (hname : text buffer (regs .field_start) (regs .field_len) = c :: cs)
    (hvalue : buffer.drop (regs .mark) = value ++ rest) (hp : p = regs .mark + value.length) :
    perform origin HttpClientParser.callback buffer p [write_value] (regs, d) =
      some (regs, d.on_response_http_field (c :: cs) value) := by
  simp only [perform, write_value, HttpClientParser.callback, hp, hname, text_marked hvalue,
    Option.bind_some]

/-- The response with a further header. -/
def withHeader (name value : Bytes) (r : HttpResponse) : HttpResponse :=
  { r with headers := r.headers.set name value }

/-- A field with a name is set as a header. -/
theorem sets_field (c : UInt8) (cs value : Bytes) (d : Received) :
    Sets (withHeader (c :: cs) value) d (d.on_response_http_field (c :: cs) value) :=
  ⟨rfl, rfl, rfl⟩

/-- One header line with a name that is not reserved. -/
theorem reads_line (buffer : Bytes) {name value : Bytes} (htoken : Token name)
    (hplain : ∀ n ∈ reservedNames, strcaseeq name n = false) (hvalue : PlainValue value) :
    Reads buffer 20 (headerLine name value) 20 (withHeader name value) := by
  obtain ⟨c, cs, rfl⟩ := List.exists_cons_of_ne_nil htoken.1
  obtain ⟨t, hfirst, ht⟩ := first_letter (htoken.2 c List.mem_cons_self)
  obtain ⟨u, hname, hu⟩ := ht.silent cs fun x hx => htoken.2 x (List.mem_cons_of_mem _ hx)
  exact Passes.line (Sets id) (Sets (withHeader (c :: cs) value)) (a := .field_start)
    (l := .field_len) rfl rfl rfl (by decide) (show step 20 c = .next t ([] ++ [start_field]) from hfirst) (fun _ _ d => ⟨d, rfl, Sets.rfl⟩) hname (hu.colon htoken hplain)
    (by decide) hvalue.reads
    (fun regs d _ hname hvalue => ⟨regs, _, perform_value hname hvalue rfl, sets_field c cs value d⟩)
    (by decide) fun _ _ _ => Sets.trans

/-- The loop over the headers. -/
theorem reads_lines {buffer : Bytes} {headers : Headers}
    (h : ∀ e ∈ headers, Token e.1 ∧ (∀ n ∈ reservedNames, strcaseeq e.1 n = false) ∧
      PlainValue e.2) :
    Reads buffer 20 (headerLines false headers) 20 fun r =>
      { r with headers := headers.foldl (fun m e => m.set e.1 e.2) r.headers } := by
  induction headers with
  | nil => exact Passes.nil fun _ => Sets.rfl
  | cons e es ih =>
    obtain ⟨htoken, hplain, hvalue⟩ := h e List.mem_cons_self
    have hne : strcaseeq e.1 (ascii "connection") = false := hplain _ (by decide)
    have hline := (reads_line buffer htoken hplain hvalue).append
      (ih fun x hx => h x (List.mem_cons_of_mem _ hx))
    rw [headerLines, List.map_cons, List.flatten_cons, hne]
    exact hline

/-! ## Section 5: The lines that are added -/

/-- `close` is read in states of its own, and noted at the byte behind its line. -/
def afterConnection (m_close : Bool) : Nat := if m_close then 43 else 20

/-- The `connection` header, which the parser looks at itself. -/
theorem reads_connection {buffer : Bytes} (m_close : Bool) :
    Reads buffer 20 (connectionLine m_close) (afterConnection m_close)
      (withHeader (ascii "connection") (connectionValue m_close)) := by
  have hvalue : ∃ w, ReadsValue step 35 .mark (connectionValue m_close) w [write_value] ∧
      step w 10 = .next (afterConnection m_close) [] := by
    cases m_close with
    | true => exact ⟨88, .inr ⟨99, ascii "lose", 96, 100, by decide⟩, by decide⟩
    | false => exact ⟨24, .inr ⟨107, ascii "eep-alive", 23, 23, by decide⟩, by decide⟩
  obtain ⟨w, hreads, hend⟩ := hvalue
  have hfirst : step 20 99 = .next 25 ([] ++ [start_field]) := by decide
  have hname : silent step 25 (ascii "onnection") = some 34 := by decide
  show Reads buffer 20 (headerLine (99 :: ascii "onnection") (connectionValue m_close)) _ _
  exact Passes.line (Sets id) (Sets (withHeader (99 :: ascii "onnection") (connectionValue m_close)))
    (a := .field_start) (l := .field_len) rfl rfl rfl (by decide) hfirst
    (fun _ _ d => ⟨d, rfl, Sets.rfl⟩) hname (by decide) (by decide) hreads
    (fun regs d _ hname hvalue => ⟨regs, _, perform_value hname hvalue rfl, sets_field _ _ _ d⟩)
    hend fun _ _ _ => Sets.trans

/-- Behind the connection line, whatever it said. -/
theorem reads_length {buffer : Bytes} (m_close : Bool) (n : Nat) :
    Reads buffer (afterConnection m_close) (headerLine (ascii "content-length") (decimal n)) 20
      (withHeader (ascii "content-length") (decimal n)) := by
  obtain ⟨front, hfirst, hfront⟩ : ∃ front, step (afterConnection m_close) 99 =
      .next 25 (front ++ [start_field]) ∧ ∀ p regs d, ∃ d', perform origin
        HttpClientParser.callback buffer p (front ++ [start_field]) (regs, d) =
          some (Function.update regs .field_start p, d') ∧ Sets id d d' := by
    cases m_close with
    | true =>
      exact ⟨[write_connection_close], by decide,
        fun _ _ d => ⟨{ d with close := true }, rfl, rfl, rfl, rfl⟩⟩
    | false => exact ⟨[], by decide, fun _ _ d => ⟨d, rfl, Sets.rfl⟩⟩
  have hdigits := decimal_digits n
  obtain ⟨c, cs, htext⟩ := List.exists_cons_of_ne_nil (decimal_ne_nil n)
  rw [htext] at hdigits ⊢
  have hvalue : ReadsValue step 112 .mark (c :: cs) 24 [write_content_len, write_value] := by
    refine .inr ⟨c, cs, 119, 119, rfl, ?_, silent_loop fun x hx => ?_, by decide⟩
    · exact step_class (g := .tr 152) (by decide) (has_digits (hdigits c List.mem_cons_self))
    · exact step_class (g := .st 119) (by decide)
        (has_digits (hdigits x (List.mem_cons_of_mem _ hx)))
  have hname : silent step 25 (ascii "ontent-length") = some 111 := by decide
  show Reads buffer _ (headerLine (99 :: ascii "ontent-length") (c :: cs)) 20 _
  refine Passes.line (Sets id) (Sets (withHeader (99 :: ascii "ontent-length") (c :: cs)))
    (a := .field_start) (l := .field_len) rfl rfl rfl (by decide) hfirst hfront hname
    (by decide) (by decide) hvalue (fun regs d rest hname hvalue => ?_)
    (by decide) fun _ _ _ => Sets.trans
  -- `content_len` is set as well, but `recvResponse` asks the header
  obtain ⟨d', hd'⟩ : ∃ d' : Received, d' = { d with
      content_len := strtoi 10 (buffer.drop (regs .mark)) } := ⟨_, rfl⟩
  refine ⟨regs, d'.on_response_http_field (99 :: ascii "ontent-length") (c :: cs), ?_, ?_⟩
  · have hfield := perform_value (d := d') hname hvalue rfl
    simp only [perform, write_content_len, HttpClientParser.callback, Option.bind_some]
    rw [← hd']
    exact hfield
  · rw [hd']
    exact ⟨rfl, rfl, rfl⟩

/-- The empty line ends the header. -/
theorem reads_end (buffer rest : Bytes) {s : Nat} (hs : s = 20 ∨ s = 43) (p : Nat)
    (regs : Reg → Nat) (d : Received) :
    ∃ d', scan step (perform origin HttpClientParser.callback buffer) p s (regs, d) (crlf ++ rest) =
      some ⟨120, p + crlf.length, (regs, d'), true⟩ ∧ Sets id d d' := by
  have hlast : step 3 10 = .last 120 [done] := by decide
  obtain ⟨acts, d', hcr, heff, hsets⟩ : ∃ acts d', step s 13 = .next 3 acts ∧
      perform origin HttpClientParser.callback buffer p acts (regs, d) = some (regs, d') ∧
      Sets id d d' := by
    rcases hs with rfl | rfl
    · exact ⟨[], d, by decide, rfl, Sets.rfl⟩
    · exact ⟨[write_connection_close], { d with close := true }, by decide, rfl, rfl, rfl,
        rfl⟩
  refine ⟨d', ?_, hsets⟩
  rw [crlf, List.cons_append, scan_next hcr heff]
  simp only [List.singleton_append, scan, hlast]
  rfl

def withLength (body : Bytes) (r : HttpResponse) : HttpResponse :=
  if body = [] then r else withHeader (ascii "content-length") (decimal body.length) r

/-- The end of the header, with or without a length. -/
theorem reads_last {buffer rest : Bytes} (m_close : Bool) (body : Bytes) {p : Nat}
    (regs : Reg → Nat) (d : Received) (hp : buffer.drop p = lastLines body ++ rest) :
    ∃ regs' d', scan step (perform origin HttpClientParser.callback buffer) p
        (afterConnection m_close) (regs, d) (lastLines body ++ rest) =
          some ⟨120, p + (lastLines body).length, (regs', d'), true⟩ ∧
      Sets (withLength body) d d' := by
  -- dump writes content-length only with a body
  by_cases hbody : body = []
  · have hlast : lastLines body = crlf := if_neg (not_not_intro hbody)
    obtain ⟨d', hend, hsets⟩ := reads_end buffer rest
      (s := afterConnection m_close) (by cases m_close <;> decide) p regs d
    rw [hlast]
    refine ⟨regs, d', hend, ?_⟩
    rw [show withLength body = id from funext fun _ => if_pos hbody]
    exact hsets
  · have hlast : lastLines body =
        headerLine (ascii "content-length") (decimal body.length) ++ crlf := if_pos hbody
    rw [hlast, List.append_assoc] at hp
    obtain ⟨regs₁, d₁, hline, hsets₁⟩ := reads_length m_close body.length p regs d (crlf ++ rest) hp
    obtain ⟨d', hend, hsets⟩ := reads_end buffer rest (s := 20) (.inl rfl)
      (p + (headerLine (ascii "content-length") (decimal body.length)).length) regs₁ d₁
    rw [hlast, List.append_assoc, hline, hend, List.length_append, Nat.add_assoc]
    refine ⟨regs₁, d', rfl, ?_⟩
    rw [show withLength body = withHeader (ascii "content-length") (decimal body.length) from
      funext fun _ => if_neg hbody]
    exact hsets₁.trans hsets

end HttpClientParser

open HttpClientParser

/-! ## Section 6: The message -/

/-- A response as `HttpResponse::dump` can write it down unambiguously. -/
structure HttpResponse.Plain (r : HttpResponse) : Prop where
  version  : r.version = 0x10 ∨ r.version = 0x11
  status   : ∃ e ∈ httpStatusMap, e.1 = r.status
  reason   : ∀ c ∈ r.reason, c ≠ 13 ∧ c ≠ 10
  headers  : ∀ e ∈ r.headers, Token e.1 ∧ (∀ n ∈ reservedNames, strcaseeq e.1 n = false) ∧
               PlainValue e.2
  distinct : r.headers.Distinct

/-- The headers that the other side finds. -/
def sentHeaders (headers : Headers) (close : Bool) (body : Bytes) : Headers :=
  headers ++ [(ascii "connection", connectionValue close)] ++
    if body = [] then [] else [(ascii "content-length", decimal body.length)]

theorem HttpResponse.Plain.lines {r : HttpResponse} (hr : r.Plain) {key : Bytes}
    (hkey : key ∈ reservedNames) : ∀ e ∈ r.headers, strcaseeq e.1 key = false :=
  fun e he => (hr.headers e he).2.1 key hkey

/-- The text written for a reason is never empty, and fits in a line. -/
theorem HttpResponse.Plain.reasonText {r : HttpResponse} (hr : r.Plain) :
    r.reasonText ≠ [] ∧ ∀ c ∈ r.reasonText, c ≠ 13 ∧ c ≠ 10 := by
  unfold HttpResponse.reasonText
  split
  · obtain ⟨e, he, hstatus⟩ := hr.status
    have hall : ∀ e ∈ httpStatusMap, ascii e.2 ≠ [] ∧ ∀ c ∈ ascii e.2, c ≠ 13 ∧ c ≠ 10 := by
      decide +kernel
    unfold statusToString
    split
    · rename_i e' hfind
      exact hall e' (List.mem_of_find?_eq_some hfind)
    · rename_i hfind
      exact absurd hstatus (by simpa using List.find?_eq_none.mp hfind e he)
  · rename_i hne
    exact ⟨hne, hr.reason⟩

/-- The response as it is when its header was parsed. -/
def HttpResponse.received (r : HttpResponse) (m_close : Bool) : HttpResponse :=
  { r with
    reason  := r.reasonText
    headers := sentHeaders r.headers m_close r.body
    body    := [] }

/-- The part of the header up to the connection line. -/
def HttpResponse.front (r : HttpResponse) (m_close : Bool) : Bytes :=
  versionText r.version ++ ascii " " ++ decimal (r.status % 2 ^ 32).toNat ++ ascii " " ++
    r.reasonText ++ crlf ++ headerLines false r.headers ++ connectionLine m_close

/-- What is written in front of the body. -/
theorem HttpResponse.header_eq (r : HttpResponse) (m_close : Bool) :
    r.header m_close false [] = r.front m_close ++ lastLines r.body := by
  simp [HttpResponse.header, HttpResponse.front, List.append_assoc]

/-- The status line and the headers of the user. -/
theorem reads_response_front (buffer : Bytes) {r : HttpResponse} (hr : r.Plain) (m_close : Bool) :
    Reads buffer 1 (r.front m_close) (afterConnection m_close) fun x =>
      withHeader (ascii "connection") (connectionValue m_close)
        { x with
          version := r.version
          status  := r.status
          reason  := r.reasonText
          headers := r.headers.foldl (fun m e => m.set e.1 e.2) x.headers } := by
  obtain ⟨e, he, hstatus⟩ := hr.status
  have hline := ((reads_version buffer hr.version).append (reads_status he)).append
    (reads_reason hr.reasonText.1 hr.reasonText.2)
  have hfront := (hline.append (reads_lines hr.headers)).append (reads_connection m_close)
  rw [hstatus] at hfront
  unfold HttpResponse.front
  simp only [List.append_assoc] at hfront ⊢
  exact hfront

/-- The changes of all the lines, one after the other. -/
theorem HttpResponse.Plain.received_eq {r : HttpResponse} (hr : r.Plain) (m_close : Bool) :
    withLength r.body (withHeader (ascii "connection") (connectionValue m_close)
      { HttpResponse.new with
        version := r.version
        status  := r.status
        reason  := r.reasonText
        headers := r.headers.foldl (fun m e => m.set e.1 e.2) [] }) = r.received m_close := by
  have hheaders := Headers.foldl_set r.headers (m := []) hr.distinct
  have hconnection := Headers.set_new (connectionValue m_close)
    (hr.lines connection_reserved)
  -- content-length is not among the headers yet, so it goes to the end
  have hlength : (r.headers ++ [(ascii "connection", connectionValue m_close)]).set
      (ascii "content-length") (decimal r.body.length) =
      r.headers ++ [(ascii "connection", connectionValue m_close)] ++
        [(ascii "content-length", decimal r.body.length)] := by
    refine Headers.set_new _ fun e he => ?_
    rcases List.mem_append.mp he with he | he
    · exact hr.lines (by decide) e he
    · rw [List.mem_singleton.mp he]
      exact (by decide : strcaseeq (ascii "connection") (ascii "content-length") = false)
  rw [hheaders, List.nil_append]
  simp only [withHeader, withLength, HttpResponse.received, sentHeaders, HttpResponse.new,
    hconnection, hlength]
  split
  · rw [List.append_nil]
  · rfl

/-- The scan of a whole header. -/
theorem scan_response {r : HttpResponse} (hr : r.Plain) (m_close : Bool) (rest : Bytes) :
    ∃ regs d, scan step (perform origin HttpClientParser.callback
        (r.header m_close false [] ++ rest)) 0 HttpResponseParser.new.cs
        (fun _ => 0, HttpResponseParser.new.data)
        (r.header m_close false [] ++ rest) =
          some ⟨120, (r.header m_close false []).length, (regs, d), true⟩ ∧
      d.response = r.received m_close ∧ d.error = 0 ∧ d.chunked = false := by
  -- the front is read up to the last lines, which end the header
  obtain ⟨buffer, hbuffer⟩ : ∃ buffer, buffer = r.front m_close ++ (lastLines r.body ++ rest) :=
    ⟨_, rfl⟩
  obtain ⟨regs₁, d₁, hfront, hsets₁⟩ := reads_response_front buffer hr m_close 0 (fun _ => 0)
    HttpResponseParser.new.data (lastLines r.body ++ rest) hbuffer
  have hdrop : buffer.drop (0 + (r.front m_close).length) = lastLines r.body ++ rest := by
    rw [Nat.zero_add, hbuffer, List.drop_left]
  obtain ⟨regs, d, hlast, hsets⟩ := reads_last m_close r.body regs₁ d₁ hdrop
  refine ⟨regs, d, ?_, ?_, ?_, ?_⟩
  · rw [r.header_eq, List.append_assoc, ← hbuffer, List.length_append, ← Nat.zero_add
      (r.front m_close).length]
    nth_rewrite 2 [hbuffer]
    exact hfront.trans hlast
  · rw [← hr.received_eq m_close, hsets.response, hsets₁.response]
    rfl
  · rw [hsets.error, hsets₁.error]
    rfl
  · rw [hsets.chunked, hsets₁.chunked]
    rfl

/-! ## Section 7: Receiving it -/

/-- The `content-length` header of what is sent. -/
theorem lookup_sent {headers : Headers}
    (h : ∀ e ∈ headers, strcaseeq e.1 (ascii "content-length") = false) (close : Bool)
    (body : Bytes) : (sentHeaders headers close body).lookup (ascii "content-length") =
      if body = [] then none else some (decimal body.length) := by
  rw [sentHeaders, List.append_assoc, Headers.lookup_append h, Headers.lookup_append]
  · split
    · rfl
    · have hsame : strcaseeq (ascii "content-length") (ascii "content-length") = true := by decide
      exact congrArg (Option.map Prod.snd) (List.find?_cons_of_pos hsame)
  · intro e he
    rw [List.mem_singleton.mp he]
    exact (by decide : strcaseeq (ascii "connection") (ascii "content-length") = false)

/-- `execute` is one scan. -/
theorem execute_scan {parser : HttpResponseParser} {data : Bytes}
    {r : Scan Nat ((Reg → Nat) × Received)}
    (h : scan step (perform origin HttpClientParser.callback data) 0 parser.cs
      (fun _ => 0, parser.data) data = some r) :
    responseParser.execute parser data = some (⟨r.state, r.data.1, r.data.2⟩, r.pos) := by
  show HttpResponseParser.execute parser data false = _
  unfold HttpResponseParser.execute
  rw [if_neg (by decide)]
  dsimp only
  rw [h]
  rfl

/-- The header loop ends in its first round. -/
theorem recvHeader_response {n : Nat} (rest : Stream) (hn : n < 0x80000000) {r : HttpResponse}
    (hr : r.Plain) (m_close : Bool) {first : Bytes}
    (hfits : (r.header m_close false []).length ≤ n) (hfirst : r.header m_close false [] <+: first) :
    ∃ parser got s, recvHeader responseParser n (fuelFor (first :: rest)) HttpResponseParser.new []
        (first :: rest) = .ok (parser, got, s) ∧
      parser.data.response = r.received m_close ∧ parser.data.chunked = false ∧
      got ++ s.flatten = (first :: rest).flatten.drop (r.header m_close false []).length ∧
      ((∀ c ∈ rest, c ≠ []) → ∀ c ∈ s, c ≠ []) := by
  have hne : r.header m_close false [] ≠ [] := by
    rw [r.header_eq]
    simp [HttpResponse.front, versionText, ascii]
  have hscan := scan_response hr m_close
  generalize r.header m_close false [] = header at hne hfits hfirst hscan ⊢
  obtain ⟨got, s, hread, hflat, hs⟩ := read_first (s := rest) hne hfits hfirst
  obtain ⟨regs, d, hscan, hresponse, herror, hchunked⟩ := hscan got
  have hexecute : responseParser.execute HttpResponseParser.new (header ++ got) =
      some (⟨120, regs, d⟩, header.length) := execute_scan hscan
  -- 120 is first_final: the first execute finishes the header
  have hnoerror : responseParser.hasError ⟨120, regs, d⟩ = false := by
    simp [responseParser, HttpResponseParser.hasError, herror, httpclient_parser_error]
  have hfinished : responseParser.isFinished ⟨120, regs, d⟩ ≠ 0 := by
    simp [responseParser, HttpResponseParser.isFinished, httpclient_parser_error,
      httpclient_parser_first_final]
  refine ⟨⟨120, regs, d⟩, got, s, ?_, hresponse, hchunked, hflat, hs⟩
  rw [fuelFor, recvHeader_read _ hn hread hexecute (List.length_pos_iff.mpr hne), hnoerror,
    if_neg (by decide), if_pos hfinished, List.drop_left]

end Http

open Http

/-- What `HttpResponse::dump` writes is read back by `recvResponse`: the header
    in one read, the body in any pieces, and anything behind it. -/
theorem response_round_trip {lexical_cast : Bytes → Option UInt64} {buff_size : Nat}
    (hsize : buff_size < 0x80000000) {r : HttpResponse} (hr : r.Plain) (m_close : Bool)
    (hbody : r.body.length < 0x80000000)
    (hcast : lexical_cast (decimal r.body.length) = some r.body.length.toUInt64) {first : Bytes}
    {rest : Stream} (hpieces : ∀ c ∈ rest, c ≠ [])
    (hfits : (r.header m_close false []).length ≤ buff_size)
    (hfirst : r.header m_close false [] <+: first)
    (hdump : r.dump m_close false [] <+: (first :: rest).flatten) :
    ∃ s, recvResponse lexical_cast buff_size (first :: rest) =
      .ok ({ r with
             reason := r.reasonText, headers := sentHeaders r.headers m_close r.body }, s) := by
  obtain ⟨parser, got, s, hheader, hresponse, hchunked, hflat, hs⟩ :=
    recvHeader_response rest hsize hr m_close hfits hfirst
  obtain ⟨after, hafter⟩ := hdump
  rw [← hafter, HttpResponse.dump, List.append_assoc, List.drop_left] at hflat
  have hreserved : ascii "content-length" ∈ reservedNames := by decide
  have hlookup := lookup_sent (hr.lines hreserved) m_close r.body
  unfold recvResponse
  rw [hheader]
  simp only [finishResponse, hchunked, Bool.false_eq_true, if_false,
    HttpResponseParser.getContentLength, hresponse, HttpResponse.received, hlookup]
  -- without a body nothing more is read
  by_cases hnil : r.body = []
  · have hzero : ¬ 0 < toInt64 (0 : UInt64).toNat := by decide
    refine ⟨s, ?_⟩
    simp only [if_pos hnil, if_neg hzero]
    rw [hnil]
  · have hpos : (0 : Int) < r.body.length := Int.natCast_pos.mpr (List.length_pos_iff.mpr hnil)
    have hread := recvBody_spec got hpos (hs hpieces) (by omega)
    rw [if_pos (by rw [hflat, List.length_append]; omega), hflat, Int.toNat_natCast,
      List.take_left] at hread
    obtain ⟨s', hread⟩ := hread
    refine ⟨s', ?_⟩
    simp only [if_neg hnil, hcast, Option.getD_some, toInt64_length hbody, if_pos hpos, hread]

/-- A response with a body that arrives in three pieces, and the next one behind it. -/
theorem response_round_trip_hello :
    let r : HttpResponse := ⟨404, 0x11, [], ascii "hello", [(ascii "Content-Type", ascii "text")]⟩
    let header : Bytes := r.header true false []
    (∃ s, recvResponse (fun val => if val = ascii "5" then some 5 else none) 4096
        [header ++ ascii "h", ascii "ell", ascii "oHTTP"] =
      .ok ({ r with
             reason := r.reasonText, headers := sentHeaders r.headers true r.body }, s)) ∧
      r.reasonText = ascii "Not Found" ∧
      sentHeaders r.headers true r.body =
        [(ascii "Content-Type", ascii "text"), (ascii "connection", ascii "close"),
         (ascii "content-length", ascii "5")] := by
  refine ⟨response_round_trip (by decide) ⟨by decide, by decide, by decide, ?_, ?_⟩ true (by decide)
    (by decide) (by decide) (by decide) (List.prefix_append _ _)
    (by decide), by decide, by decide⟩
  · decide +kernel
  · decide +kernel

end MNSER
