import Mnser.Http.Announced
import Mnser.Http.ResponseRoundTrip

/-! # A response in chunks

    The line in front of a chunk may have extensions behind the size.  The
    scanner reads them with the actions of a header line, and calls back
    `on_response_http_field` for each of them: what an extension says is set
    in the headers of the response.

    The data come in any pieces.  A line has to be in the buffer as a whole
    when it is parsed, since every call of `execute` for a chunk starts anew. -/

namespace MNSER

namespace Http

open Ranges Scanner HttpClientParser

/-! ## Section 1: Chunks as they are sent -/

/-- `;name` or `;name=value` -/
structure Extension where
  name  : Bytes
  value : Option Bytes

/-- What stands behind the semicolon. -/
def Extension.text (x : Extension) : Bytes :=
  match x.value with
  | none       => x.name
  | some value => x.name ++ 61 :: value

/-- What `on_response_http_field` is given. -/
def Extension.field (x : Extension) : Bytes × Bytes := (x.name, x.value.getD [])

structure Extension.Valid (x : Extension) : Prop where
  name  : Token x.name
  value : ∀ v ∈ x.value, Token v

structure Chunk where
  digits     : Bytes
  extensions : List Extension
  data       : Bytes

/-- The rest of a line, from the end of the size on. -/
def lineRest : List Extension → Bytes
  | []      => crlf
  | x :: xs => 59 :: x.text ++ lineRest xs

namespace Chunk

def line (c : Chunk) : Bytes := c.digits ++ lineRest c.extensions

/-- The last chunk has no data, and the empty line behind it. -/
def wire (c : Chunk) : Bytes := c.line ++ c.data ++ crlf

def fields (c : Chunk) : List (Bytes × Bytes) := c.extensions.map Extension.field

structure Valid (c : Chunk) : Prop where
  xdigits    : ∀ d ∈ c.digits, isxdigit d = true
  digits     : c.digits ≠ []
  size       : chunkSize c.digits = c.data.length
  extensions : ∀ x ∈ c.extensions, x.Valid

end Chunk

/-- `m[key] = val` for one field after the other. -/
def Headers.setAll (m : Headers) (fields : List (Bytes × Bytes)) : Headers :=
  fields.foldl (fun m e => m.set e.1 e.2) m

/-! ## Section 2: Reading an extension -/

/-- What an extension, or the rest of a line, does. -/
def Extends (fields : List (Bytes × Bytes)) (d d' : Received) : Prop :=
  d'.response = { d.response with headers := d.response.headers.setAll fields } ∧
    SameNumbers d d'

/-- Fields are added one after the other. -/
theorem Extends.trans {fs gs : List (Bytes × Bytes)} {d d' d'' : Received}
    (h : Extends fs d d') (h' : Extends gs d' d'') : Extends (fs ++ gs) d d'' := by
  refine ⟨?_, h.2.trans h'.2⟩
  rw [h'.1, h.1]
  simp only [Headers.setAll, List.foldl_append]

/-- A field with a name is set. -/
theorem extends_field {name : Bytes} (hname : name ≠ []) (value : Bytes) (d : Received) :
    Extends [(name, value)] d (d.on_response_http_field name value) := by
  have hlen : ¬ name.length = 0 := fun h => hname (List.length_eq_zero_iff.mp h)
  rw [Received.on_response_http_field, if_neg hlen]
  exact ⟨rfl, rfl, rfl, rfl, rfl⟩

/-- In `buffer` the text `xs` leads from `s` to `t`, and sets these fields. -/
abbrev ReadsFields (buffer : Bytes) (s : Nat) (xs : Bytes) (t : Nat)
    (fields : List (Bytes × Bytes)) : Prop :=
  Passes origin HttpClientParser.callback step buffer s xs t (Extends fields)

/-- The name of an extension begins. -/
theorem step_name_first {c : UInt8} (hc : istchar c = true) : step 4 c = .next 5 [start_field] :=
  step_class (g := .tr 8) (by decide) (has_tchars hc)

/-- It goes on. -/
theorem step_name {c : UInt8} (hc : istchar c = true) : step 5 c = .next 5 [] :=
  step_class (g := .st 5) (by decide) (has_tchars hc)

/-- The value of an extension begins. -/
theorem step_value_first {c : UInt8} (hc : istchar c = true) : step 6 c = .next 7 [start_value] :=
  step_class (g := .tr 14) (by decide) (has_tchars hc)

/-- It goes on. -/
theorem step_value {c : UInt8} (hc : istchar c = true) : step 7 c = .next 7 [] :=
  step_class (g := .st 7) (by decide) (has_tchars hc)

/-- What closes an extension: the next semicolon, or the end of the line. -/
def Closes (e : UInt8) (t : Nat) : Prop := e = 59 ∧ t = 4 ∨ e = 13 ∧ t = 3

/-- A size ends here. -/
theorem Closes.size {e : UInt8} {t : Nat} (h : Closes e t) : step 2 e = .next t [chunk_size] := by
  rcases h with ⟨rfl, rfl⟩ | ⟨rfl, rfl⟩ <;> decide

/-- An extension without a value has the empty one. -/
theorem Closes.name {e : UInt8} {t : Nat} (h : Closes e t) :
    step 5 e = .next t [write_field, start_value, write_value] := by
  rcases h with ⟨rfl, rfl⟩ | ⟨rfl, rfl⟩ <;> decide

/-- A value ends here. -/
theorem Closes.value {e : UInt8} {t : Nat} (h : Closes e t) : step 7 e = .next t [write_value] := by
  rcases h with ⟨rfl, rfl⟩ | ⟨rfl, rfl⟩ <;> decide

/-- The end of an extension that is only a name. -/
theorem perform_name (buffer : Bytes) (p : Nat) (regs : Reg → Nat) (d : Received) :
    ∃ regs', perform origin HttpClientParser.callback buffer p
        [write_field, start_value, write_value] (regs, d) =
      some (regs', d.on_response_http_field
        (text buffer (regs .field_start) (p - regs .field_start)) []) := by
  obtain ⟨regs', hregs'⟩ : ∃ regs', regs' = Function.update
    (Function.update regs .field_len (p - regs .field_start)) .mark p := ⟨_, rfl⟩
  have hstart : regs' .field_start = regs .field_start := by rw [hregs']; rfl
  have hlen : regs' .field_len = p - regs .field_start := by rw [hregs']; rfl
  have hmark : regs' .mark = p := by rw [hregs']; rfl
  have hempty : text buffer p (p - p) = [] := by rw [Nat.sub_self, text, List.take_zero]
  refine ⟨regs', ?_⟩
  simp only [perform, write_field, start_value, write_value, move, origin, ← hregs',
    HttpClientParser.callback, hstart, hlen, hmark, hempty, Option.bind_some]

/-- An extension without a value sets an empty one. -/
theorem reads_name (buffer : Bytes) {name : Bytes} (hname : Token name) {e : UInt8} {t : Nat}
    (he : Closes e t) : ReadsFields buffer 4 (name ++ [e]) t [(name, [])] := by
  obtain ⟨hne, htchar⟩ := hname
  obtain ⟨c, cs, rfl⟩ := List.exists_cons_of_ne_nil hne
  refine Passes.marked (step_name_first (htchar c List.mem_cons_self))
    (silent_loop fun x hx => step_name (htchar x (List.mem_cons_of_mem _ hx))) he.name
    fun regs d rest hdrop => ?_
  obtain ⟨regs', heff⟩ := perform_name buffer (regs .field_start + (c :: cs).length) regs d
  rw [Nat.add_sub_cancel_left, text_of_drop hdrop] at heff
  exact ⟨regs', _, heff, extends_field hne [] d⟩

/-- The name, the equals sign and the value, each from its first byte on. -/
theorem reads_value (buffer : Bytes) {name value : Bytes} (hname : Token name)
    (hvalue : Token value) {e : UInt8} {t : Nat} (he : Closes e t) :
    ReadsFields buffer 4 (name ++ 61 :: value ++ [e]) t [(name, value)] := by
  obtain ⟨hne, htchar⟩ := hname
  obtain ⟨hne', htchar'⟩ := hvalue
  obtain ⟨c, cs, rfl⟩ := List.exists_cons_of_ne_nil hne
  obtain ⟨b, bs, rfl⟩ := List.exists_cons_of_ne_nil hne'
  have hcs : silent step 5 cs = some 5 :=
    silent_loop fun x hx => step_name (htchar x (List.mem_cons_of_mem _ hx))
  have hbs : silent step 7 bs = some 7 :=
    silent_loop fun x hx => step_value (htchar' x (List.mem_cons_of_mem _ hx))
  have hequals : step 5 61 = .next 6 [write_field, start_value] := by decide
  intro p regs d rest hp
  have hsplit : c :: cs ++ 61 :: (b :: bs) ++ [e] ++ rest =
      c :: (cs ++ 61 :: b :: (bs ++ e :: rest)) := by simp
  have hlen : (c :: cs ++ 61 :: (b :: bs) ++ [e]).length = cs.length + bs.length + 4 := by
    simp only [List.length_append, List.length_cons, List.length_nil]
    omega
  rw [hsplit] at hp ⊢
  rw [hlen]
  -- the registers in front of the value, and behind its first byte
  obtain ⟨q, hq⟩ : ∃ q, q = p + 1 + cs.length := ⟨_, rfl⟩
  obtain ⟨regs₁, hregs₁⟩ : ∃ regs₁, regs₁ = Function.update (Function.update
    (Function.update regs .field_start p) .field_len (q - p)) .mark q := ⟨_, rfl⟩
  have hmeasure : perform origin HttpClientParser.callback buffer q [write_field, start_value]
      (Function.update regs .field_start p, d) = some (regs₁, d) := by
    simp only [perform, write_field, start_value, move, origin, Function.update_self, hregs₁]
  obtain ⟨regs₂, hregs₂⟩ : ∃ regs₂, regs₂ = Function.update regs₁ .mark (q + 1) := ⟨_, rfl⟩
  have hstart : regs₂ .field_start = p := by rw [hregs₂, hregs₁]; rfl
  have hwidth : regs₂ .field_len = (c :: cs).length := by
    have hupdate : regs₂ .field_len = q - p := by rw [hregs₂, hregs₁]; rfl
    rw [hupdate, hq, List.length_cons]
    omega
  have hmark : regs₂ .mark = q + 1 := by rw [hregs₂]; rfl
  have htext : text buffer p (c :: cs).length = c :: cs := text_of_drop hp
  have hdrop : buffer.drop (q + 1) = (b :: bs) ++ e :: rest := by
    have hfront : buffer.drop p = (c :: (cs ++ [61])) ++ ((b :: bs) ++ e :: rest) := by
      rw [hp]
      simp
    have hrest := drop_add hfront
    rwa [show p + (c :: (cs ++ [61])).length = q + 1 by simp [hq]; omega] at hrest
  have hfield : text buffer (regs₂ .field_start) (regs₂ .field_len) = c :: cs := by
    rw [hstart, hwidth, htext]
  have hfound : buffer.drop (regs₂ .mark) = (b :: bs) ++ e :: rest := by
    rw [hmark]
    exact hdrop
  have heff : perform origin HttpClientParser.callback buffer (q + 1 + (b :: bs).length)
      [write_value] (regs₂, d) = some (regs₂, d.on_response_http_field (c :: cs) (b :: bs)) :=
    perform_value hfield hfound (by rw [hmark])
  refine ⟨regs₂, _, ?_, extends_field hne (b :: bs) d⟩
  rw [scan_next (step_name_first (htchar c List.mem_cons_self))
      (e := (Function.update regs .field_start p, d)) rfl,
    scan_silent (fun _ _ => rfl) hcs, ← hq, scan_next hequals hmeasure,
    scan_next (step_value_first (htchar' b List.mem_cons_self)) (e := (regs₂, d))
      (by rw [hregs₂]; rfl),
    scan_silent (fun _ _ => rfl) hbs,
    show q + 1 + 1 + bs.length = q + 1 + (b :: bs).length by rw [List.length_cons]; omega,
    scan_next he.value heff]
  rw [show q + 1 + (b :: bs).length + 1 = p + (cs.length + bs.length + 4) by
    rw [hq, List.length_cons]
    omega]

/-- One extension is read as one field. -/
theorem reads_extension (buffer : Bytes) {x : Extension} (hx : x.Valid) {e : UInt8} {t : Nat}
    (he : Closes e t) : ReadsFields buffer 4 (x.text ++ [e]) t [x.field] := by
  obtain ⟨name, value⟩ := x
  cases value with
  | none => exact reads_name buffer hx.name he
  | some value => exact reads_value buffer hx.name (hx.value value rfl) he

/-- From the first extension to the end of the line. -/
theorem reads_extensions (buffer : Bytes) {x : Extension} {xs : List Extension}
    (h : ∀ y ∈ x :: xs, y.Valid) :
    ∃ front, x.text ++ lineRest xs = front ++ [10] ∧
      ReadsFields buffer 4 front 3 ((x :: xs).map Extension.field) := by
  induction xs generalizing x with
  | nil =>
    refine ⟨x.text ++ [13], ?_, reads_extension buffer (h x List.mem_cons_self) (.inr ⟨rfl, rfl⟩)⟩
    simp [lineRest, crlf]
  | cons y ys ih =>
    obtain ⟨front, hfront, hreads⟩ := ih fun z hz => h z (List.mem_cons_of_mem _ hz)
    refine ⟨x.text ++ [59] ++ front, ?_, ?_⟩
    · rw [lineRest, List.cons_append, hfront]
      simp
    · exact (reads_extension buffer (h x List.mem_cons_self) (.inl ⟨rfl, rfl⟩)).trans hreads
        fun _ _ _ => Extends.trans

/-! ## Section 3: Reading the line in front of a chunk -/

/-- The size is read, and nothing else changes. -/
structure Sized (n : Nat) (d d' : Received) : Prop where
  response    : d'.response = d.response
  error       : d'.error = d.error
  content_len : d'.content_len = wrap32 (min n (2 ^ 63 - 1) : Nat)
  chunks_done : d'.chunks_done = decide (d'.content_len ≤ 0)

/-- The digits are read as the size. -/
theorem reads_size (buffer : Bytes) {digits : Bytes} (hdigits : ∀ d ∈ digits, isxdigit d = true)
    (hne : digits ≠ []) {e : UInt8} {t : Nat} (he : Closes e t) :
    Passes origin HttpClientParser.callback step buffer httpclient_parser_start (digits ++ [e]) t
      (Sized (chunkSize digits)) := by
  obtain ⟨c, cs, rfl⟩ := List.exists_cons_of_ne_nil hne
  refine Passes.marked (step_start_xdigit c (hdigits c List.mem_cons_self))
    (silent_loop fun x hx => step_digits_xdigit x (hdigits x (List.mem_cons_of_mem _ hx))) he.size
    fun regs d rest hdrop => ?_
  have hstops : Strtol.Stops 16 (e :: rest) := by
    intro y hy
    rw [← Option.some.inj hy]
    rcases he with ⟨rfl, -⟩ | ⟨rfl, -⟩ <;> decide
  have hnumber : strtoi 16 (buffer.drop (regs .mark)) =
      wrap32 (min (chunkSize (c :: cs)) (2 ^ 63 - 1) : Nat) := by
    rw [hdrop, strtoi, Strtol.strtol_digits (le_refl 16) hdigits hne hstops]
  refine ⟨regs, d.chunk_size (buffer.drop (regs .mark)), ?_, rfl, rfl, hnumber, rfl⟩
  simp only [perform, chunk_size, HttpClientParser.callback, Option.bind_some]

/-- What is known of the data behind a line. -/
structure LineRead (c : Chunk) (d d' : Received) : Prop where
  response    : d'.response = { d.response with headers := d.response.headers.setAll c.fields }
  error       : d'.error = d.error
  content_len : d'.content_len = wrap32 (min (chunkSize c.digits) (2 ^ 63 - 1) : Nat)
  chunks_done : d'.chunks_done = decide (d'.content_len ≤ 0)

/-- A whole chunk line, with its extensions. -/
theorem scan_chunkLine {c : Chunk} (hc : c.Valid) (rest : Bytes) (d : Received) :
    ∃ regs d', scan step (perform origin HttpClientParser.callback (c.line ++ rest)) 0
        httpclient_parser_start (fun _ => 0, d) (c.line ++ rest) =
          some ⟨httpclient_parser_first_final, c.line.length, (regs, d'), true⟩ ∧
      LineRead c d d' := by
  obtain ⟨buffer, hbuffer⟩ : ∃ buffer, buffer = c.line ++ rest := ⟨_, rfl⟩
  obtain ⟨front, hline, hreads⟩ : ∃ front, c.line = front ++ [10] ∧
      Passes origin HttpClientParser.callback step buffer httpclient_parser_start front 3
        (LineRead c) := by
    unfold Chunk.line
    -- the line is the digits, the extensions if there are any, and CR LF
    cases hext : c.extensions with
    | nil =>
      refine ⟨c.digits ++ [13], by simp [lineRest, crlf], ?_⟩
      intro p regs d rest hp
      obtain ⟨regs', d', hscan, hsized⟩ :=
        reads_size buffer hc.xdigits hc.digits (.inr ⟨rfl, rfl⟩) p regs d rest hp
      refine ⟨regs', d', hscan, ?_, hsized.error, hsized.content_len, hsized.chunks_done⟩
      rw [hsized.response, Chunk.fields, hext]
      rfl
    | cons x xs =>
      have hvalid : ∀ y ∈ x :: xs, y.Valid := fun y hy => hc.extensions y (hext ▸ hy)
      obtain ⟨front, hfront, hreads⟩ := reads_extensions buffer hvalid
      refine ⟨c.digits ++ [59] ++ front, ?_, ?_⟩
      · rw [lineRest, List.cons_append, hfront]
        simp
      · refine (reads_size buffer hc.xdigits hc.digits (.inl ⟨rfl, rfl⟩)).trans hreads
          fun a b d hsized hextends => ?_
        obtain ⟨hresponse, hlen, -, hdone, herror⟩ := hextends
        refine ⟨?_, herror.trans hsized.error, hlen.trans hsized.content_len, ?_⟩
        · rw [hresponse, hsized.response, Chunk.fields, hext]
        · rw [hdone, hlen, hsized.chunks_done]
  -- the feed ends the scan wherever the rest goes
  have hdone : step 3 10 = .last httpclient_parser_first_final [done] := by decide
  have hsplit : buffer = front ++ ([10] ++ rest) := by
    rw [hbuffer, hline, List.append_assoc]
  obtain ⟨regs, d', hscan, hread⟩ := hreads 0 (fun _ => 0) d ([10] ++ rest) hsplit
  refine ⟨regs, d', ?_, hread⟩
  rw [← hbuffer, hline, List.length_append, ← Nat.zero_add front.length]
  nth_rewrite 2 [hsplit]
  rw [hscan]
  simp only [List.singleton_append, scan, hdone]
  rfl

/-! ## Section 4: Data in pieces -/

/-- The stream behind its first `k` bytes; the pieces stay cut as they were. -/
def skip : Nat → Stream → Stream
  | 0, s => s
  | _ + 1, [] => []
  | k + 1, c :: cs =>
    if c.length ≤ k + 1 then skip (k + 1 - c.length) cs else c.drop (k + 1) :: cs

theorem skip_zero (s : Stream) : skip 0 s = s := by
  cases s <;> rfl

/-- A read that is used up. -/
theorem skip_cons_le {k : Nat} {c : Bytes} (cs : Stream) (hc : c ≠ []) (hle : c.length ≤ k) :
    skip k (c :: cs) = skip (k - c.length) cs := by
  cases k with
  | zero => exact absurd (List.length_eq_zero_iff.mp (Nat.le_zero.mp hle)) hc
  | succ k => rw [skip, if_pos hle]

/-- A read that is used in part. -/
theorem skip_cons_lt {k : Nat} {c : Bytes} (cs : Stream) (hlt : k < c.length) :
    skip k (c :: cs) = c.drop k :: cs := by
  cases k with
  | zero => rfl
  | succ k => rw [skip, if_neg (by omega)]

/-- A stream without empty pieces: no `read` finds it closed before its end. -/
def Flowing (s : Stream) : Prop := ∀ c ∈ s, c ≠ []

instance (s : Stream) : Decidable (Flowing s) := inferInstanceAs (Decidable (∀ _ ∈ _, _))

/-- What is left has no empty read. -/
theorem Flowing.skip {s : Stream} (h : Flowing s) : ∀ k, Flowing (skip k s) := by
  induction s with
  | nil =>
    intro k
    cases k <;> exact h
  | cons c cs ih =>
    have hc : c ≠ [] := h c List.mem_cons_self
    have hcs : Flowing cs := fun x hx => h x (List.mem_cons_of_mem _ hx)
    intro k
    by_cases hle : c.length ≤ k
    · rw [skip_cons_le cs hc hle]
      exact ih hcs _
    · rw [skip_cons_lt cs (by omega)]
      intro x hx
      rcases List.mem_cons.mp hx with rfl | hx
      · intro hnil
        have hlen := congrArg List.length hnil
        rw [List.length_drop, List.length_nil] at hlen
        omega
      · exact hcs x hx

/-- What is left of the bytes. -/
theorem flatten_skip {s : Stream} (h : Flowing s) : ∀ k, (skip k s).flatten = s.flatten.drop k := by
  induction s with
  | nil =>
    intro k
    cases k <;> rfl
  | cons c cs ih =>
    have hc : c ≠ [] := h c List.mem_cons_self
    have hcs : Flowing cs := fun x hx => h x (List.mem_cons_of_mem _ hx)
    intro k
    by_cases hle : c.length ≤ k
    · rw [skip_cons_le cs hc hle, ih hcs, List.flatten_cons, List.drop_append,
        List.drop_of_length_le hle, List.nil_append]
    · rw [skip_cons_lt cs (by omega), List.flatten_cons, List.flatten_cons,
        List.drop_append_of_le_length (by omega)]

/-- Bytes may be skipped in two steps. -/
theorem skip_skip {s : Stream} (h : Flowing s) :
    ∀ j k, skip k (skip j s) = skip (j + k) s := by
  induction s with
  | nil =>
    intro j k
    cases j <;> cases k <;> rfl
  | cons c cs ih =>
    have hc : c ≠ [] := h c List.mem_cons_self
    have hcs : Flowing cs := fun x hx => h x (List.mem_cons_of_mem _ hx)
    intro j k
    by_cases hj : c.length ≤ j
    · rw [skip_cons_le cs hc hj, ih hcs, skip_cons_le cs hc (by omega),
        show j - c.length + k = j + k - c.length by omega]
    · have hdrop : c.drop j ≠ [] := by
        intro hnil
        have hlen := congrArg List.length hnil
        rw [List.length_drop, List.length_nil] at hlen
        omega
      rw [skip_cons_lt cs (by omega)]
      by_cases hk : c.length ≤ j + k
      · rw [skip_cons_le cs hdrop (by rw [List.length_drop]; omega), skip_cons_le cs hc hk,
          List.length_drop, show k - (c.length - j) = j + k - c.length by omega]
      · rw [skip_cons_lt cs (by rw [List.length_drop]; omega), skip_cons_lt cs (by omega),
          List.drop_drop]

/-- A `read` takes a part of the first piece. -/
theorem read_flowing {s : Stream} (h : Flowing s) (hne : s.flatten ≠ []) {n : Nat} (hn : 0 < n) :
    ∃ k, 0 < k ∧ k ≤ n ∧ k ≤ s.flatten.length ∧ read n s = some (s.flatten.take k, skip k s) := by
  cases s with
  | nil => exact absurd rfl hne
  | cons c cs =>
    have hc : c ≠ [] := h c List.mem_cons_self
    have hpos := List.length_pos_iff.mpr hc
    have hopen : ¬ (c = [] ∨ n = 0) := by
      rw [not_or]
      exact ⟨hc, by omega⟩
    rw [List.flatten_cons]
    by_cases hle : c.length ≤ n
    · refine ⟨c.length, hpos, hle, by rw [List.length_append]; omega, ?_⟩
      rw [read, if_neg hopen, if_pos hle, List.take_left, skip_cons_le cs hc (le_refl _),
        Nat.sub_self, skip_zero]
    · refine ⟨n, hn, le_refl n, by rw [List.length_append]; omega, ?_⟩
      rw [read, if_neg hopen, if_neg hle, List.take_append_of_le_length (by omega),
        skip_cons_lt cs (by omega)]

/-- The reads for what is left of a chunk. -/
theorem readLeft_flowing {buff_size : Nat} (hpos : 0 < buff_size) (hsize : buff_size < 2 ^ 31)
    (fuel : Nat) :
    ∀ (left : Nat) {s : Stream}, Flowing s → left ≤ s.flatten.length → left < fuel →
      readLeft buff_size fuel left s = .ok (s.flatten.take left, skip left s) := by
  induction fuel with
  | zero => exact fun left s _ _ h => absurd h (Nat.not_lt_zero _)
  | succ fuel ih =>
    intro left s hs henough hfuel
    cases left with
    | zero =>
      rw [skip_zero]
      rfl
    | succ left =>
      have hne : s.flatten ≠ [] := by
        intro hnil
        rw [hnil] at henough
        cases henough
      have hfits : toInt buff_size = buff_size := toInt_of_lt hsize
      -- each round asks for what is left, up to the buffer's size, and gets a byte at least
      obtain ⟨n, hn, hpositive, hle⟩ : ∃ n : Nat,
          (if toInt buff_size < ((left + 1 : Nat) : Int) then toInt buff_size
            else ((left + 1 : Nat) : Int)) = n ∧ 0 < n ∧ n ≤ left + 1 := by
        rw [hfits]
        split
        · exact ⟨buff_size, rfl, hpos, by omega⟩
        · exact ⟨left + 1, rfl, Nat.succ_pos _, le_refl _⟩
      obtain ⟨k, hk, hkn, hklen, hread⟩ := read_flowing hs hne hpositive
      have hlength : (s.flatten.take k).length = k := by
        rw [List.length_take]
        omega
      have hrest := ih (left + 1 - k) (hs.skip k)
        (by rw [flatten_skip hs, List.length_drop]; omega) (by omega)
      have hleft : ((left + 1 : Nat) : Int) - (k : Nat) = ((left + 1 - k : Nat) : Int) := by omega
      simp only [readLeft, if_neg (show ¬ ((left + 1 : Nat) : Int) ≤ 0 by omega), hn,
        if_neg (show ¬ (n : Int) < 0 by omega), Int.toNat_natCast, hread, hlength, hleft, hrest,
        Except.map]
      rw [flatten_skip hs, skip_skip hs, show k + (left + 1 - k) = left + 1 by omega,
        ← List.take_append_drop k (s.flatten.take (left + 1)), List.take_take,
        Nat.min_eq_left (by omega), List.drop_take]

/-- What is in the buffer and what is to come behind `k` bytes of them. -/
def behind (k : Nat) (data : Bytes) (s : Stream) : Bytes × Stream :=
  if k ≤ data.length then (data.drop k, s) else ([], skip (k - data.length) s)

/-- The buffer is used up before the stream. -/
theorem flatten_behind {s : Stream} (h : Flowing s) (k : Nat) (data : Bytes) :
    (behind k data s).1 ++ (behind k data s).2.flatten = (data ++ s.flatten).drop k := by
  unfold behind
  split
  · rename_i hle
    rw [List.drop_append_of_le_length hle]
  · rw [List.nil_append, flatten_skip h, List.drop_append,
      List.drop_of_length_le (l := data) (by omega), List.nil_append]

/-- What is left of the stream has no empty read. -/
theorem flowing_behind {s : Stream} (h : Flowing s) (k : Nat) (data : Bytes) :
    Flowing (behind k data s).2 := by
  unfold behind
  split
  · exact h
  · exact h.skip _

/-- The buffer does not grow. -/
theorem length_behind_le (k : Nat) (data : Bytes) (s : Stream) :
    (behind k data s).1.length ≤ data.length := by
  unfold behind
  split
  · rw [List.length_drop]
    omega
  · exact Nat.zero_le _

/-- The data of a chunk is taken from the buffer and then from the stream. -/
theorem recvChunkData_flowing {buff_size n : Nat} (hpos : 0 < buff_size)
    (hsize : buff_size < 2 ^ 31) (hn : n + 2 < 2 ^ 31) (body data : Bytes) {s : Stream}
    (hs : Flowing s) (henough : n + 2 ≤ (data ++ s.flatten).length) :
    recvChunkData buff_size n body data s =
      .ok (body ++ (data ++ s.flatten).take n, behind (n + 2) data s) := by
  unfold behind
  by_cases hall : n + 2 ≤ data.length
  · rw [if_pos hall]
    exact recvChunkData_buffered buff_size hn body s hall
  · rw [if_neg hall]
    have hlen := henough
    rw [List.length_append] at hlen
    exact recvChunkData_left hn body (by omega) henough
      (readLeft_flowing hpos hsize _ _ hs (by omega) (by omega))

/-! ## Section 5: All chunks -/

/-- The line in front of each chunk is in the buffer as a whole when it is parsed. -/
def LinesWhole (buff_size : Nat) : List Chunk → Bytes → Stream → Prop
  | [], _, _ => True
  | c :: cs, data, s =>
    ∃ buffer s', nextBuffer buff_size data s = some (buffer, s') ∧ c.line <+: buffer ∧
      LinesWhole buff_size cs (behind (c.data.length + 2) (buffer.drop c.line.length) s').1
        (behind (c.data.length + 2) (buffer.drop c.line.length) s').2

/-- A read leaves no empty one. -/
theorem read_keeps_flowing {n : Nat} {s s' : Stream} {got : Bytes} (h : Flowing s)
    (hread : read n s = some (got, s')) : Flowing s' := by
  obtain ⟨hne, hle, hflat⟩ := read_spec hread
  have hpos := List.length_pos_iff.mpr hne
  have hsome : s.flatten ≠ [] := by
    rw [hflat]
    simp [hne]
  obtain ⟨k, -, -, -, hskip⟩ := read_flowing h hsome (n := n) (by omega)
  rw [hread] at hskip
  rw [(Prod.mk.inj (Option.some.inj hskip)).2]
  exact h.skip k

/-- Nor does a turn of the loop. -/
theorem nextBuffer_flowing {buff_size : Nat} {data buffer : Bytes} {s s' : Stream}
    (h : Flowing s) (hbuffer : nextBuffer buff_size data s = some (buffer, s')) : Flowing s' := by
  unfold nextBuffer at hbuffer
  split at hbuffer
  · exact read_keeps_flowing h hbuffer
  · obtain ⟨-, rfl⟩ := Prod.mk.inj (Option.some.inj hbuffer)
    exact h

theorem Chunk.line_ne_nil {c : Chunk} (hc : c.Valid) : c.line ≠ [] := by
  unfold Chunk.line
  simp [hc.digits]

/-- One round of the loop. -/
theorem recvChunk_flowing {buff_size : Nat} (hpos : 0 < buff_size) (hsize : buff_size < 2 ^ 31)
    {parser : HttpResponseParser} (hparser : parser.data.error = 0) {c : Chunk} (hc : c.Valid)
    (hlen : c.data.length + 2 < 2 ^ 31) (body : Bytes) {data : Bytes} {s : Stream}
    (hdata : data.length < buff_size) (hs : Flowing s) {buffer : Bytes} {s' : Stream}
    (hbuffer : nextBuffer buff_size data s = some (buffer, s')) (hline : c.line <+: buffer)
    {tail : Bytes} (hbytes : data ++ s.flatten = c.wire ++ tail) :
    ∃ parser', recvChunk buff_size parser body data s =
        .ok (parser', body ++ c.data,
          behind (c.data.length + 2) (buffer.drop c.line.length) s') ∧
      LineRead c parser.data parser'.data ∧
      (buffer.drop c.line.length).length < buff_size ∧
      (buffer.drop c.line.length) ++ s'.flatten = c.data ++ crlf ++ tail := by
  obtain ⟨hfits, hflat⟩ := nextBuffer_spec hdata hbuffer
  obtain ⟨more, rfl⟩ := hline
  have hpositive := List.length_pos_iff.mpr (Chunk.line_ne_nil hc)
  rw [List.length_append] at hfits
  -- what is behind the line
  have hmore : more ++ s'.flatten = c.data ++ crlf ++ tail := by
    rw [hbytes, Chunk.wire, List.append_assoc, List.append_assoc, List.append_assoc] at hflat
    rw [← List.append_cancel_left hflat, List.append_assoc]
  obtain ⟨regs, d', hscan, hread⟩ := scan_chunkLine hc more parser.init.data
  have hexecute : parser.execute (c.line ++ more) true =
      some (⟨httpclient_parser_first_final, regs, d'⟩, c.line.length) := by
    simp only [HttpResponseParser.execute, if_true]
    rw [show parser.init.cs = httpclient_parser_start from rfl, hscan]
    rfl
  have hresult := recvChunkLine_executed hsize (s.flatten.length + 1) hdata hbuffer hpositive
    (by rw [List.length_append]; omega) hexecute (hread.error.trans hparser) rfl
  have hcontent : d'.content_len = c.data.length := by
    rw [hread.content_len, hc.size, Nat.min_eq_left (by omega)]
    exact wrap32_of_lt (by omega) (by omega)
  have henough : c.data.length + 2 ≤ (more ++ s'.flatten).length := by
    rw [hmore]
    simp [crlf]
  have hchunk := recvChunkData_flowing hpos hsize hlen body more
    (nextBuffer_flowing hs hbuffer) henough
  rw [hmore, List.append_assoc, List.take_left] at hchunk
  rw [List.drop_left] at hresult ⊢
  refine ⟨⟨httpclient_parser_first_final, regs, d'⟩, ?_, ⟨hread.response, hread.error,
    hread.content_len, hread.chunks_done⟩, by omega, hmore⟩
  simp only [recvChunk, hresult, hcontent, hchunk]

/-- The rounds of the loop, up to the chunk without data. -/
theorem recvChunks_flowing {buff_size : Nat} (hpos : 0 < buff_size) (hsize : buff_size < 2 ^ 31)
    {last : Chunk} (hlast : last.Valid) (hempty : last.data = []) (chunks : List Chunk) :
    ∀ {fuel : Nat} {parser : HttpResponseParser} {body data tail : Bytes} {s : Stream},
      chunks.length < fuel → parser.data.error = 0 →
      (∀ c ∈ chunks, c.Valid ∧ 1 ≤ c.data.length ∧ c.data.length < 2 ^ 31 - 2) →
      data.length < buff_size → Flowing s → LinesWhole buff_size (chunks ++ [last]) data s →
      data ++ s.flatten = (chunks ++ [last]).flatMap Chunk.wire ++ tail →
      ∃ parser' s', recvChunks buff_size fuel parser body data s =
          .ok (parser', body ++ chunks.flatMap Chunk.data, s') ∧
        parser'.data.response = { parser.data.response with
          headers := parser.data.response.headers.setAll
            ((chunks ++ [last]).flatMap Chunk.fields) } := by
  induction chunks with
  | nil =>
    intro fuel parser body data tail s hfuel hparser _ hdata hs hwhole hbytes
    obtain ⟨fuel, rfl⟩ : ∃ k, fuel = k + 1 := ⟨fuel - 1, by omega⟩
    obtain ⟨buffer, s', hbuffer, hline, -⟩ := hwhole
    have hwire : data ++ s.flatten = last.wire ++ tail := by simpa using hbytes
    obtain ⟨parser', hround, hread, -, -⟩ := recvChunk_flowing hpos hsize hparser hlast
      (by rw [hempty]; decide) body hdata hs hbuffer hline hwire
    have hdone : parser'.data.chunks_done = true := by
      rw [hread.chunks_done, hread.content_len, hlast.size, hempty]
      rfl
    refine ⟨parser', (behind (last.data.length + 2) (buffer.drop last.line.length) s').2, ?_,
      by simpa using hread.response⟩
    simp only [recvChunks, hround, hdone, if_true, hempty, List.flatMap_nil]
  | cons c cs ih =>
    intro fuel parser body data tail s hfuel hparser hchunks hdata hs hwhole hbytes
    rw [List.length_cons] at hfuel
    obtain ⟨fuel, rfl⟩ : ∃ k, fuel = k + 1 := ⟨fuel - 1, by omega⟩
    obtain ⟨buffer, s', hbuffer, hline, hrest⟩ := hwhole
    obtain ⟨hc, hpositive, hlong⟩ := hchunks c List.mem_cons_self
    have hwire : data ++ s.flatten =
        c.wire ++ ((cs ++ [last]).flatMap Chunk.wire ++ tail) := by
      rw [hbytes, List.cons_append, List.flatMap_cons, List.append_assoc]
    obtain ⟨parser', hround, hread, hleft, hmore⟩ := recvChunk_flowing hpos hsize hparser hc
      (by omega) body hdata hs hbuffer hline hwire
    have hmany : ¬ parser'.data.chunks_done = true := by
      have hcontent : parser'.data.content_len = c.data.length := by
        rw [hread.content_len, hc.size, Nat.min_eq_left (by omega)]
        exact wrap32_of_lt (by omega) (by omega)
      rw [hread.chunks_done, hcontent, decide_eq_true_eq]
      omega
    -- what the next round begins with
    have hflowing := nextBuffer_flowing hs hbuffer
    have hnext := flatten_behind hflowing (c.data.length + 2) (buffer.drop c.line.length)
    rw [hmore, show c.data.length + 2 = (c.data ++ crlf).length by simp [crlf],
      List.drop_left] at hnext
    obtain ⟨parser'', s'', hrounds, hresponse⟩ := @ih fuel parser' (body ++ c.data) _ tail _
      (by omega) (hread.error.trans hparser)
      (fun x hx => hchunks x (List.mem_cons_of_mem _ hx))
      (Nat.lt_of_le_of_lt (length_behind_le _ _ _) hleft) (flowing_behind hflowing _ _) hrest
      (by simpa [crlf] using hnext)
    refine ⟨parser'', s'', ?_, ?_⟩
    · simp only [recvChunks, hround, if_neg hmany]
      rw [hrounds, List.flatMap_cons, List.append_assoc]
    · rw [hresponse, hread.response, List.cons_append, List.flatMap_cons]
      simp only [Headers.setAll, List.foldl_append]

/-! ## Section 6: The header map -/

/-- The value given last for a name. -/
def lastValue (fields : List (Bytes × Bytes)) (name : Bytes) : Option Bytes :=
  (fields.reverse.find? fun f => strcaseeq f.1 name).map Prod.snd

/-- Each field says in the end what the header map says already. -/
def Repeats (m : Headers) (fields : List (Bytes × Bytes)) : Prop :=
  ∀ f ∈ fields, m.lookup f.1 = lastValue fields f.1

instance (m : Headers) (fields : List (Bytes × Bytes)) : Decidable (Repeats m fields) :=
  inferInstanceAs (Decidable (∀ _ ∈ _, _))

theorem strcaseeq_refl (a : Bytes) : strcaseeq a a = true := by
  unfold strcaseeq
  exact beq_self_eq_true _

/-- Names that are equal are equal to the same names. -/
theorem strcaseeq_congr {a b : Bytes} (h : strcaseeq a b = true) (c : Bytes) :
    strcaseeq c a = strcaseeq c b := by
  unfold strcaseeq at h ⊢
  rw [eq_of_beq h]

/-- Names are looked up without regard to case. -/
theorem lookup_congr {a b : Bytes} (h : strcaseeq a b = true) (m : Headers) :
    m.lookup a = m.lookup b := by
  unfold Headers.lookup
  simp only [strcaseeq_congr h]

/-- The last value of a field goes by its name without regard to case. -/
theorem lastValue_congr {a b : Bytes} (h : strcaseeq a b = true) (fields : List (Bytes × Bytes)) :
    lastValue fields a = lastValue fields b := by
  unfold lastValue
  simp only [strcaseeq_congr h]

/-- A later field hides an earlier one of its name. -/
theorem lastValue_cons (f : Bytes × Bytes) (fs : List (Bytes × Bytes)) (name : Bytes) :
    lastValue (f :: fs) name =
      (lastValue fs name).or (if strcaseeq f.1 name then some f.2 else none) := by
  unfold lastValue
  rw [List.reverse_cons, List.find?_append, Option.map_or]
  congr 1
  by_cases h : strcaseeq f.1 name = true
  · simp [h]
  · simp [h]

/-- The name is there, in some spelling. -/
theorem lookup_isSome {m : Headers} {name : Bytes} :
    (m.lookup name).isSome = true ↔ (m.any fun e => strcaseeq e.1 name) = true := by
  unfold Headers.lookup
  rw [Option.isSome_map, List.find?_isSome, List.any_eq_true]

/-- Setting names that are all there changes their values. -/
theorem setAll_present (fields : List (Bytes × Bytes)) :
    ∀ {m : Headers}, (∀ f ∈ fields, (m.any fun e => strcaseeq e.1 f.1) = true) →
      m.setAll fields = m.map fun e => (e.1, (lastValue fields e.1).getD e.2) := by
  induction fields with
  | nil =>
    intro m _
    exact (List.map_id' m).symm
  | cons f fs ih =>
    intro m h
    -- a name that is there is overwritten in place, so the order of the map stays
    have hset : m.set f.1 f.2 = m.map fun e => if strcaseeq e.1 f.1 then (e.1, f.2) else e :=
      if_pos (h f List.mem_cons_self)
    have hsame : ∀ e : Bytes × Bytes,
        (if strcaseeq e.1 f.1 then (e.1, f.2) else e) =
          (e.1, if strcaseeq e.1 f.1 then f.2 else e.2) := by
      intro e
      split <;> rfl
    have hpresent : ∀ g ∈ fs, ((m.set f.1 f.2).any fun e => strcaseeq e.1 g.1) = true := by
      intro g hg
      have hany := h g (List.mem_cons_of_mem _ hg)
      rw [hset, List.any_map]
      simp only [hsame, Function.comp_def]
      exact hany
    show (m.set f.1 f.2).setAll fs = _
    rw [ih hpresent, hset, List.map_map]
    refine List.map_congr_left fun e _ => ?_
    simp only [Function.comp_apply, hsame, lastValue_cons, strcaseeq_comm f.1 e.1]
    cases lastValue fs e.1 with
    | some v => rfl
    | none =>
      rw [Option.none_or]
      split <;> rfl

/-- No header is lost. -/
theorem length_le_set (m : Headers) (key value : Bytes) : m.length ≤ (m.set key value).length := by
  unfold Headers.set
  split
  · rw [List.length_map]
  · rw [List.length_append]
    exact Nat.le_add_right _ _

/-- However many are set. -/
theorem length_le_setAll (fields : List (Bytes × Bytes)) :
    ∀ m : Headers, m.length ≤ (m.setAll fields).length := by
  induction fields with
  | nil => exact fun m => le_refl _
  | cons f fs ih => exact fun m => (length_le_set m f.1 f.2).trans (ih _)

/-- A map that does not grow had all the names. -/
theorem present_of_length (fields : List (Bytes × Bytes)) :
    ∀ {m : Headers}, (m.setAll fields).length = m.length →
      ∀ f ∈ fields, (m.any fun e => strcaseeq e.1 f.1) = true := by
  induction fields with
  | nil =>
    intro m _ f hf
    cases hf
  | cons f fs ih =>
    intro m h g hg
    have hfirst := length_le_set m f.1 f.2
    have hrest := length_le_setAll fs (m.set f.1 f.2)
    have htotal : ((m.set f.1 f.2).setAll fs).length = m.length := h
    -- a name that was not there would have made the map longer
    have hany : (m.any fun e => strcaseeq e.1 f.1) = true := by
      by_contra hnot
      have hgrows : (m.set f.1 f.2).length = m.length + 1 := by
        rw [Headers.set, if_neg hnot, List.length_append]
        rfl
      omega
    rcases List.mem_cons.mp hg with rfl | hg
    · exact hany
    · have hlater := ih (m := m.set f.1 f.2) (by omega) g hg
      have hkeys : ∀ e : Bytes × Bytes,
          strcaseeq (if strcaseeq e.1 f.1 then (e.1, f.2) else e).1 g.1 = strcaseeq e.1 g.1 := by
        intro e
        split <;> rfl
      rw [Headers.set, if_pos hany, List.any_map] at hlater
      simp only [Function.comp_def, hkeys] at hlater
      exact hlater

/-- A field has a last value. -/
theorem lastValue_mem {fields : List (Bytes × Bytes)} {f : Bytes × Bytes} (hf : f ∈ fields) :
    ∃ v, lastValue fields f.1 = some v := by
  unfold lastValue
  have hsome : (fields.reverse.find? fun g => strcaseeq g.1 f.1).isSome = true := by
    rw [List.find?_isSome]
    exact ⟨f, List.mem_reverse.mpr hf, strcaseeq_refl f.1⟩
  obtain ⟨g, hg⟩ := Option.isSome_iff_exists.mp hsome
  exact ⟨g.2, by rw [hg]; rfl⟩

/-- Entries of a map are found under their names. -/
theorem lookup_mem {m : Headers} (hm : m.Distinct) {e : Bytes × Bytes} (he : e ∈ m) :
    m.lookup e.1 = some e.2 := by
  induction m with
  | nil => cases he
  | cons x xs ih =>
    obtain ⟨hx, hxs⟩ := List.pairwise_cons.mp hm
    unfold Headers.lookup
    rcases List.mem_cons.mp he with rfl | he
    · simp only [List.find?_cons, strcaseeq_refl, Option.map_some]
    · have hne : ¬ strcaseeq x.1 e.1 = true := by
        rw [hx e he]
        decide
      simp only [List.find?_cons, hne]
      exact ih hxs he

/-- The map stays as it is exactly if the fields repeat it. -/
theorem setAll_eq_self_iff {m : Headers} (hm : m.Distinct) (fields : List (Bytes × Bytes)) :
    m.setAll fields = m ↔ Repeats m fields := by
  constructor
  · intro h f hf
    have hpresent := present_of_length fields (congrArg List.length h)
    rw [setAll_present fields hpresent] at h
    obtain ⟨e, he, hname⟩ := List.any_eq_true.mp (hpresent f hf)
    obtain ⟨v, hv⟩ := lastValue_mem hf
    have hlast : lastValue fields e.1 = some v := (lastValue_congr hname fields).trans hv
    have hvalue : (e.1, (lastValue fields e.1).getD e.2) = e := by
      have hmap := (List.map_eq_map_iff (g := id)).mp (h.trans (List.map_id m).symm) e he
      exact hmap
    have hsame : v = e.2 := by
      rw [hlast] at hvalue
      exact congrArg Prod.snd hvalue
    rw [← lookup_congr hname, lookup_mem hm he, hv, hsame]
  · intro h
    have hpresent : ∀ f ∈ fields, (m.any fun e => strcaseeq e.1 f.1) = true := by
      intro f hf
      obtain ⟨v, hv⟩ := lastValue_mem hf
      rw [← lookup_isSome, h f hf, hv]
      rfl
    rw [setAll_present fields hpresent]
    refine (List.map_congr_left fun e he => ?_).trans (List.map_id m)
    cases hlast : lastValue fields e.1 with
    | none => rfl
    | some v =>
      -- some field has this name
      obtain ⟨f, hfind, hv⟩ := Option.map_eq_some_iff.mp hlast
      have hname := List.find?_some hfind
      have hrepeats := h f (List.mem_reverse.mp (List.mem_of_find?_eq_some hfind))
      rw [lookup_congr hname, lookup_mem hm he, lastValue_congr hname, hlast] at hrepeats
      rw [Option.getD_some, ← Option.some.inj hrepeats]
      rfl

/-- Setting a header keeps the names apart. -/
theorem Headers.Distinct.set {m : Headers} (h : m.Distinct) (key value : Bytes) :
    (m.set key value).Distinct := by
  unfold Headers.set
  by_cases hany : (m.any fun e => strcaseeq e.1 key) = true
  · rw [if_pos hany]
    -- only values change
    have hkeys : ∀ e : Bytes × Bytes, (if strcaseeq e.1 key then (e.1, value) else e).1 = e.1 := by
      intro e
      split <;> rfl
    refine List.Pairwise.map _ (fun a b hab => ?_) h
    rw [hkeys, hkeys]
    exact hab
  · rw [if_neg hany]
    refine List.pairwise_append.mpr ⟨h, List.pairwise_singleton _ _, ?_⟩
    intro a ha b hb
    rw [List.mem_singleton.mp hb]
    rw [Bool.not_eq_true, List.any_eq_false] at hany
    exact Bool.eq_false_iff.mpr (hany a ha)

/-- The names of a response are those of a `std::map`. -/
theorem callback_distinct (k : Callback) (buffer : Bytes) (p : Nat) (regs : Reg → Nat)
    (d d' : Received) (h : HttpClientParser.callback k buffer p regs d = some d')
    (hd : d.response.headers.Distinct) : d'.response.headers.Distinct := by
  cases k with
  | http_field =>
    obtain rfl := Option.some.inj h
    unfold Received.on_response_http_field
    split
    · exact hd
    · exact hd.set _ _
  | http_version =>
    obtain rfl := Option.some.inj h
    unfold Received.on_response_version
    split
    · exact hd
    · split <;> exact hd
  | _ =>
    obtain rfl := Option.some.inj h
    exact hd

/-- The parser keeps the names of the headers apart. -/
theorem execute_distinct (parser : HttpResponseParser) (data : Bytes)
    (parser' : HttpResponseParser) (nparse : Nat)
    (h : responseParser.execute parser data = some (parser', nparse))
    (hd : parser.data.response.headers.Distinct) :
    parser'.data.response.headers.Distinct := by
  obtain ⟨r, hscan, hr⟩ := Option.map_eq_some_iff.mp h
  have hkept : r.data.2.response.headers.Distinct :=
    scan_keeps (K := fun x : (Reg → Nat) × Received => x.2.response.headers.Distinct)
      (fun _ acts _ _ heff hx => perform_keeps origin callback_distinct acts heff hx) data hscan hd
  rw [← (Prod.mk.inj hr).1]
  exact hkept

/-! ## Section 7: The response -/

/-- Where the header loop ends well. -/
structure HeaderLeft {P : Type} (parser : Parser P) (n : Nat) (p : P) (data : Bytes)
    (s : Stream) : Prop where
  accepted : parser.hasError p = false
  room     : data.length < n
  flowing  : Flowing s

/-- What the loop over the header leaves in the buffer. -/
theorem recvHeader_left {P : Type} {parser : Parser P} {n : Nat} (hn : n < 2 ^ 31) (fuel : Nat) :
    ∀ {p p' : P} {data data' : Bytes} {s s' : Stream}, data.length ≤ n → Flowing s →
      recvHeader parser n fuel p data s = .ok (p', data', s') →
      HeaderLeft parser n p' data' s' := by
  induction fuel with
  | zero =>
    intro p p' data data' s s' _ _ h
    cases h
  | succ fuel ih =>
    intro p p' data data' s s' hle hs h
    simp only [recvHeader] at h
    split at h
    · cases h
    · rename_i got s₁ hread
      obtain ⟨-, hgot, -⟩ := read_spec hread
      have hs₁ := read_keeps_flowing hs hread
      split at h
      · cases h
      · rename_i p₁ nparse _
        split at h
        · cases h
        · rename_i haccepted
          split at h
          · cases h
          · rename_i hfull
            -- the buffer is not full, so something can be read in the next round
            have hroom : ((data ++ got).drop nparse).length < n := by
              rw [toInt_of_lt hn] at hfull
              rw [List.length_drop, List.length_append] at hfull ⊢
              omega
            split at h
            · obtain ⟨rfl, hrest⟩ := Prod.mk.inj (Except.ok.inj h)
              obtain ⟨rfl, rfl⟩ := Prod.mk.inj hrest
              exact ⟨Bool.eq_false_iff.mpr haccepted, hroom, hs₁⟩
            · exact ih (Nat.le_of_lt hroom) hs₁ h

/-- Each chunk takes at least its line. -/
theorem length_le_wire {chunks : List Chunk} (h : ∀ c ∈ chunks, c.Valid) :
    chunks.length ≤ (chunks.flatMap Chunk.wire).length := by
  induction chunks with
  | nil => exact le_refl _
  | cons c cs ih =>
    have hc := List.length_pos_iff.mpr (Chunk.line_ne_nil (h c List.mem_cons_self))
    have hcs := ih fun x hx => h x (List.mem_cons_of_mem _ hx)
    rw [List.flatMap_cons, List.length_cons, List.length_append, Chunk.wire, List.length_append,
      List.length_append]
    omega

/-- The body is that of the chunks; the headers are those of the header, and
    then what the extensions set. -/
theorem recvResponse_chunked {lexical_cast : Bytes → Option UInt64} {buff_size : Nat}
    (hsize : buff_size < 2 ^ 31) {s : Stream} (hs : Flowing s) {parser : HttpResponseParser}
    {data : Bytes} {s' : Stream}
    (hheader : recvHeader responseParser buff_size (fuelFor s) HttpResponseParser.new [] s =
      .ok (parser, data, s'))
    (hchunked : parser.data.chunked = true) {chunks : List Chunk} {last : Chunk} {tail : Bytes}
    (hchunks : ∀ c ∈ chunks, c.Valid ∧ 1 ≤ c.data.length ∧ c.data.length < 2 ^ 31 - 2)
    (hlast : last.Valid) (hempty : last.data = [])
    (hbytes : data ++ s'.flatten = (chunks ++ [last]).flatMap Chunk.wire ++ tail)
    (hwhole : LinesWhole buff_size (chunks ++ [last]) data s') :
    ∃ s'', recvResponse lexical_cast buff_size s =
      .ok ({ parser.data.response with
             headers := parser.data.response.headers.setAll
               ((chunks ++ [last]).flatMap Chunk.fields)
             body := chunks.flatMap Chunk.data }, s'') := by
  obtain ⟨haccepted, hroom, hs'⟩ := recvHeader_left hsize _ (Nat.zero_le _) hs hheader
  have herror : parser.data.error = 0 := by
    by_contra hne
    exact absurd (Or.inl hne) (of_decide_eq_false haccepted)
  have hvalid : ∀ c ∈ chunks ++ [last], c.Valid := by
    intro c hc
    rcases List.mem_append.mp hc with hc | hc
    · exact (hchunks c hc).1
    · rw [List.mem_singleton.mp hc]
      exact hlast
  -- every chunk has a byte on the wire, so the fuel covers the rounds
  have hfuel : chunks.length < data.length + s'.flatten.length + 1 := by
    have hlen := congrArg List.length hbytes
    have hmany := length_le_wire hvalid
    simp only [List.length_append, List.length_cons, List.length_nil] at hlen hmany
    omega
  have hpos : 0 < buff_size := Nat.lt_of_le_of_lt (Nat.zero_le _) hroom
  obtain ⟨parser', s'', hrounds, hresponse⟩ := @recvChunks_flowing _ hpos hsize _ hlast hempty
    chunks _ parser [] data tail s' hfuel herror hchunks hroom hs' hwhole hbytes
  refine ⟨s'', ?_⟩
  unfold recvResponse
  rw [hheader]
  dsimp only
  rw [finishResponse, if_pos hchunked, hrounds]
  dsimp only
  rw [hresponse, List.nil_append]

end Http

open Http

/-- The header parser without its registers. -/
theorem recvHeader_data {n fuel : Nat} {s s' : Stream} {d : Received} {data : Bytes}
    (h : (recvHeader responseParser n fuel HttpResponseParser.new [] s).toOption.map
      (fun r => (r.1.data, r.2)) = some (d, data, s')) :
    ∃ parser, recvHeader responseParser n fuel HttpResponseParser.new [] s =
      .ok (parser, data, s') ∧ parser.data = d := by
  cases hheader : recvHeader responseParser n fuel HttpResponseParser.new [] s with
  | error e =>
    rw [hheader] at h
    cases h
  | ok r =>
    rw [hheader] at h
    obtain ⟨rfl, hrest⟩ := Prod.mk.inj (Option.some.inj h)
    obtain ⟨rfl, rfl⟩ := Prod.mk.inj hrest
    exact ⟨r.1, rfl, rfl⟩

end MNSER
