import Mathlib.Data.List.TakeWhile
import Mnser.Http.Connection

/-! # One chunk

    The line in front of a chunk is parsed from the start of the buffer.  Its
    digits go through `strtol` into an `int`; the data are then taken by that
    `int`.  A line in one buffer gives an exact chunk as long as its size and the
    line end behind the data fit an `int`.  Of a line that comes in pieces only
    the last piece counts: every call of `execute` starts anew. -/

namespace MNSER

namespace Http

open Scanner HttpClientParser

/-! ## Section 1: The line in front of a chunk -/

abbrev isxdigit : UInt8 → Bool := Strtol.isdigit 16

/-- Where the first header or chunk line of a buffer ends. -/
def lineEnd (buffer : Bytes) : Option Nat :=
  match scan step (fun _ _ (u : Unit) => some u) 0 httpclient_parser_start () buffer with
  | none   => none
  | some r => if r.state = httpclient_parser_first_final then some r.pos else none

/-- A whole line is one that the scanner stops behind. -/
theorem lineEnd_some {buffer : Bytes} {k : Nat} (h : lineEnd buffer = some k) :
    ∃ r, scan step (fun _ _ (u : Unit) => some u) 0 httpclient_parser_start () buffer = some r ∧
      r.state = httpclient_parser_first_final ∧ r.pos = k := by
  unfold lineEnd at h
  split at h
  · cases h
  · rename_i r hscan
    split at h
    · rename_i hfinal
      exact ⟨r, hscan, hfinal, Option.some.inj h⟩
    · cases h

/-- The first digit of a size sets the mark. -/
theorem step_start_xdigit : ∀ c, isxdigit c = true → step 1 c = .next 2 [mark] := by
  apply forall_byte
  decide +kernel

/-- The other digits go on. -/
theorem step_digits_xdigit : ∀ c, isxdigit c = true → step 2 c = .next 2 [] := by
  apply forall_byte
  decide +kernel

/-- Behind the digits comes the line end or an extension. -/
theorem step_digits_other : ∀ c, isxdigit c = false →
    step 2 c = .last 120 [chunk_size, done] ∨ step 2 c = .next 3 [chunk_size] ∨
      step 2 c = .next 4 [chunk_size] ∨ step 2 c = .fail 0 := by
  apply forall_byte
  decide +kernel

/-- The states behind the size: of the line end and of extensions. -/
def extensionStates : List Nat := [3, 4, 5, 6, 7]

/-- What extensions do, and the end of the line. -/
def extensionActions : List Action := [start_field, write_field, start_value, write_value, done]

def inExtension (s : Step Nat Action) : Bool :=
  match s with
  | .next t acts => extensionStates.contains t && acts.all extensionActions.contains
  | .last t acts => t == httpclient_parser_first_final && acts.all extensionActions.contains
  | .fail t      => t == httpclient_parser_error

theorem extension_rows :
    ∀ s ∈ extensionStates, ∀ e ∈ rows.getD s [], inExtension (follow e.2.2) = true := by
  decide +kernel

/-- An extension writes fields only, up to the end of the line. -/
theorem step_extension {s : Nat} (hs : s ∈ extensionStates) (c : UInt8) :
    inExtension (step s c) = true := by
  unfold step
  cases hlookup : lookup s c.toNat with
  | none => rfl
  | some g =>
    obtain ⟨lo, hi, -, -, hmem⟩ := lookup_mem hlookup
    exact extension_rows s hs (lo, hi, g) hmem

/-- What an extension leaves alone. -/
def SameNumbers (d d' : Received) : Prop :=
  d'.content_len = d.content_len ∧ d'.chunked = d.chunked ∧ d'.chunks_done = d.chunks_done ∧
    d'.error = d.error

theorem SameNumbers.refl (d : Received) : SameNumbers d d := ⟨rfl, rfl, rfl, rfl⟩

theorem SameNumbers.trans {d d' d'' : Received} (h : SameNumbers d d') (h' : SameNumbers d' d'') :
    SameNumbers d d'' :=
  ⟨h'.1.trans h.1, h'.2.1.trans h.2.1, h'.2.2.1.trans h.2.2.1, h'.2.2.2.trans h.2.2.2⟩

/-- No callback throws. -/
theorem callback_total (k : Callback) (buffer : Bytes) (p : Nat) (regs : Reg → Nat)
    (d : Received) : ∃ d', HttpClientParser.callback k buffer p regs d = some d' := by
  cases k <;> exact ⟨_, rfl⟩

/-- So no transition throws. -/
theorem perform_total (buffer : Bytes) (p : Nat) (acts : List Action) :
    ∀ x : (Reg → Nat) × Received,
      ∃ x', perform origin HttpClientParser.callback buffer p acts x = some x' := by
  induction acts with
  | nil =>
    intro x
    exact ⟨x, rfl⟩
  | cons a acts ih =>
    intro x
    cases a with
    | mark r => exact ih _
    | measure l => exact ih _
    | call k =>
      obtain ⟨d', hd'⟩ := callback_total k buffer p x.1 x.2
      obtain ⟨x', hx'⟩ := ih (x.1, d')
      exact ⟨x', by simp only [perform, hd', Option.bind_some, hx']⟩

/-- Fields do not change the numbers of the parser. -/
theorem perform_extension {buffer : Bytes} {p : Nat} (acts : List Action) :
    ∀ {x x' : (Reg → Nat) × Received}, acts.all extensionActions.contains = true →
      perform origin HttpClientParser.callback buffer p acts x = some x' →
      SameNumbers x.2 x'.2 := by
  induction acts with
  | nil =>
    intro x x' _ h
    obtain rfl := Option.some.inj h
    exact .refl _
  | cons a acts ih =>
    intro x x' hacts h
    rw [List.all_cons, Bool.and_eq_true] at hacts
    obtain ⟨ha, hacts⟩ := hacts
    cases a with
    | mark r => exact ih (x := (move origin p (.mark r) x.1, x.2)) hacts h
    | measure l => exact ih (x := (move origin p (.measure l) x.1, x.2)) hacts h
    | call k =>
      obtain ⟨d', hd', hrest⟩ := Option.bind_eq_some_iff.mp h
      refine SameNumbers.trans ?_ (ih hacts hrest)
      -- an extension of a chunk is stored as a header, which is no number
      cases k with
      | http_field =>
        obtain rfl := Option.some.inj hd'
        simp only [Received.on_response_http_field]
        split <;> exact .refl _
      | done =>
        obtain rfl := Option.some.inj hd'
        exact .refl _
      | _ => simp [extensionActions, start_field, write_field, start_value, write_value, done] at ha

/-- Extensions up to the end of the line. -/
theorem scan_extension (buffer : Bytes) {xs : Bytes} {p s : Nat} (x : (Reg → Nat) × Received)
    {r : Scan Nat Unit} (hs : s ∈ extensionStates)
    (hunit : scan step (fun _ _ (u : Unit) => some u) p s () xs = some r)
    (hfinal : r.state = httpclient_parser_first_final) :
    ∃ x', scan step (perform origin HttpClientParser.callback buffer) p s x xs =
        some ⟨httpclient_parser_first_final, r.pos, x', true⟩ ∧ SameNumbers x.2 x'.2 := by
  obtain ⟨x', hscan⟩ := scan_total (perform_total buffer) xs x hunit
  have hrule := scan_rule
    (fun s y => s ∈ extensionStates ∧ SameNumbers x.2 y.2)
    (fun t y => t = httpclient_parser_first_final → SameNumbers x.2 y.2)
    (fun p s c t acts y y' hgoes hstep heff => by
      have hin := step_extension hgoes.1 c
      rw [hstep] at hin
      simp only [inExtension, Bool.and_eq_true, List.contains_eq_mem, decide_eq_true_eq] at hin
      exact ⟨hin.1, hgoes.2.trans (perform_extension acts (by simpa using hin.2) heff)⟩)
    (fun p s c t acts y y' hgoes hstep heff _ => by
      have hin := step_extension hgoes.1 c
      rw [hstep] at hin
      simp only [inExtension, Bool.and_eq_true] at hin
      exact hgoes.2.trans (perform_extension acts hin.2 heff))
    (fun s c t y hgoes hstep hfinal => by
      have hin := step_extension hgoes.1 c
      rw [hstep, hfinal] at hin
      exact absurd hin (by decide)) xs ⟨hs, .refl _⟩ hscan
  cases hstop : r.stopped with
  | true =>
    rw [hstop, hfinal] at hscan
    rw [hstop] at hrule
    exact ⟨x', hscan, hrule hfinal⟩
  | false =>
    -- the last state is none of those that extensions go on in
    rw [hstop] at hrule
    have hmem : r.state ∈ extensionStates := hrule.1
    rw [hfinal] at hmem
    exact absurd hmem (by decide)

/-- Digits do nothing. -/
theorem scan_digits {D : Type} {eff : Nat → List Action → D → Option D}
    (heff : ∀ p d, eff p [] d = some d) {ds : Bytes} (hds : ∀ d ∈ ds, isxdigit d = true)
    (rest : Bytes) (p : Nat) (d : D) :
    scan step eff p 2 d (ds ++ rest) = scan step eff (p + ds.length) 2 d rest :=
  scan_silent heff (silent_loop fun c hc => step_digits_xdigit c (hds c hc)) rest p d

/-- A buffer that begins with the line in front of a chunk. -/
structure ChunkLine (buffer digits : Bytes) (k : Nat) : Prop where
  cut     : ∃ tail, buffer = digits ++ tail ∧ ∀ c, tail.head? = some c → isxdigit c = false
  xdigits : ∀ d ∈ digits, isxdigit d = true
  size    : digits ≠ []
  ends    : lineEnd buffer = some k

/-- The number the text denotes. -/
abbrev chunkSize (digits : Bytes) : Nat := Strtol.magnitude 16 0 digits

/-- What is known after the line: the size as an `int`, and whether it is the last. -/
structure AfterLine (d d' : Received) (digits : Bytes) : Prop where
  content_len : d'.content_len = wrap32 (min (chunkSize digits) (2 ^ 63 - 1) : Nat)
  chunks_done : d'.chunks_done = decide (d'.content_len ≤ 0)
  error       : d'.error = d.error

/-- The scan of a whole chunk line. -/
theorem scan_line {buffer digits : Bytes} {k : Nat} (hline : ChunkLine buffer digits k)
    (d : Received) :
    ∃ regs d', scan step (perform origin HttpClientParser.callback buffer) 0
        httpclient_parser_start (fun _ => 0, d) buffer =
          some ⟨httpclient_parser_first_final, k, (regs, d'), true⟩ ∧
      AfterLine d d' digits ∧ 0 < k ∧ k ≤ buffer.length := by
  obtain ⟨⟨tail, rfl, htail⟩, hdigits, hne, hends⟩ := hline
  obtain ⟨r, hscan, hstate, rfl⟩ := lineEnd_some hends
  obtain ⟨c, cs, rfl⟩ := List.exists_cons_of_ne_nil hne
  have hc := hdigits c List.mem_cons_self
  have hcs : ∀ x ∈ cs, isxdigit x = true := fun x hx => hdigits x (List.mem_cons_of_mem _ hx)
  -- the unit scan shows that something that is no digit follows
  have hunit : scan step (fun _ _ (u : Unit) => some u) (1 + cs.length) 2 () tail = some r := by
    rw [← scan_digits (fun _ _ => rfl) hcs tail, ← hscan, List.cons_append, scan,
      show httpclient_parser_start = 1 from rfl, step_start_xdigit c hc]
    rfl
  have hfull : ∀ eff : Nat → List Action → (Reg → Nat) × Received → Option ((Reg → Nat) × Received),
      eff = perform origin HttpClientParser.callback (c :: cs ++ tail) →
      scan step eff 0 httpclient_parser_start (fun _ => 0, d) (c :: cs ++ tail) =
        scan step eff (1 + cs.length) 2 (fun _ => 0, d) tail := by
    rintro eff rfl
    rw [← scan_digits (fun _ _ => rfl) hcs tail, List.cons_append, scan,
      show httpclient_parser_start = 1 from rfl, step_start_xdigit c hc]
    dsimp only [perform, mark, move, Option.bind_some]
    rw [Function.update_eq_self_iff.mpr rfl]
  cases tail with
  | nil =>
    obtain rfl := Option.some.inj hunit
    cases hstate
  | cons x xs =>
    have hx : isxdigit x = false := htail x rfl
    have hnumber : strtoi 16 (c :: cs ++ x :: xs) =
        wrap32 (min (chunkSize (c :: cs)) (2 ^ 63 - 1) : Nat) := by
      have hplain : x ≠ 120 ∧ x ≠ 88 := by
        constructor
        · rintro rfl
          simp only [scan, show step 2 120 = .fail 0 by decide] at hunit
          obtain rfl := Option.some.inj hunit
          cases hstate
        · rintro rfl
          simp only [scan, show step 2 88 = .fail 0 by decide] at hunit
          obtain rfl := Option.some.inj hunit
          cases hstate
      unfold strtoi
      rw [Strtol.strtol_digits (le_refl 16) hdigits hne]
      intro y hy
      rw [← Option.some.inj hy]
      exact ⟨hx, hplain⟩
    have hafter : ∀ d', SameNumbers (d.chunk_size (c :: cs ++ x :: xs)) d' →
        AfterLine d d' (c :: cs) := by
      rintro d' ⟨hlen, -, hdone, herror⟩
      refine ⟨hlen.trans hnumber, ?_, herror⟩
      rw [hdone, hlen]
      rfl
    have hpos := scan_pos _ _ _ hscan
    rw [hfull _ rfl]
    rcases step_digits_other x hx with hstep | hstep | hstep | hstep
    · simp only [scan, hstep] at hunit ⊢
      obtain rfl := Option.some.inj hunit
      exact ⟨_, _, rfl, hafter _ (.refl _), Nat.succ_pos _, by simpa using hpos.2.1⟩
    · simp only [scan, hstep, Option.bind_some] at hunit ⊢
      obtain ⟨⟨regs, d'⟩, hrest, hsame⟩ := scan_extension (c :: cs ++ x :: xs)
        (fun _ => 0, d.chunk_size (c :: cs ++ x :: xs)) (by decide) hunit hstate
      have hmore := (scan_pos _ _ _ hunit).1
      exact ⟨regs, d', hrest, hafter d' hsame, by omega, by simpa using hpos.2.1⟩
    · simp only [scan, hstep, Option.bind_some] at hunit ⊢
      obtain ⟨⟨regs, d'⟩, hrest, hsame⟩ := scan_extension (c :: cs ++ x :: xs)
        (fun _ => 0, d.chunk_size (c :: cs ++ x :: xs)) (by decide) hunit hstate
      have hmore := (scan_pos _ _ _ hunit).1
      exact ⟨regs, d', hrest, hafter d' hsame, by omega, by simpa using hpos.2.1⟩
    · simp only [scan, hstep] at hunit
      obtain rfl := Option.some.inj hunit
      cases hstate

/-- What the parser is given for the first time in a round. -/
def nextBuffer (buff_size : Nat) (data : Bytes) (s : Stream) : Option (Bytes × Stream) :=
  if data = [] then read buff_size s else some (data, s)

/-- A read adds to the buffer what it takes from the stream. -/
theorem nextBuffer_spec {buff_size : Nat} {data buffer : Bytes} {s s' : Stream}
    (hdata : data.length < buff_size) (h : nextBuffer buff_size data s = some (buffer, s')) :
    buffer.length ≤ buff_size ∧ data ++ s.flatten = buffer ++ s'.flatten := by
  unfold nextBuffer at h
  split at h
  · rename_i hnil
    obtain ⟨-, hle, hflat⟩ := read_spec h
    rw [hnil]
    exact ⟨hle, hflat⟩
  · obtain ⟨rfl, rfl⟩ := Prod.mk.inj (Option.some.inj h)
    exact ⟨hdata.le, rfl⟩

/-- The first turn reads. -/
theorem refill_first (buff_size : Nat) (data : Bytes) (s : Stream) :
    refill buff_size true data s = nextBuffer buff_size data s := by
  unfold refill nextBuffer
  by_cases hnil : data = []
  · rw [if_pos (by simp [hnil]), if_pos hnil, hnil]
    simp
  · rw [if_neg (by simp [hnil]), if_neg hnil]

/-- One call of `execute` that comes to the end of the line. -/
theorem recvChunkLine_executed {buff_size : Nat} (hsize : buff_size < 2 ^ 31) (fuel : Nat)
    {parser parser' : HttpResponseParser} {data buffer : Bytes} {s s' : Stream}
    (hdata : data.length < buff_size)
    (hbuffer : nextBuffer buff_size data s = some (buffer, s')) {k : Nat} (hk : 0 < k)
    (hle : k ≤ buffer.length) (hexecute : parser.execute buffer true = some (parser', k))
    (herror : parser'.data.error = 0) (hfinal : parser'.cs = httpclient_parser_first_final) :
    recvChunkLine buff_size (fuel + 1) true parser data s = .ok (parser', buffer.drop k, s') := by
  obtain ⟨hlen, -⟩ := nextBuffer_spec hdata hbuffer
  have hnoerror : ¬ parser'.hasError := by
    rintro (h | h)
    · exact h herror
    · rw [hfinal] at h
      cases h
  have hfull : ¬ ((buffer.drop k).length : Int) = toInt buff_size := by
    rw [toInt_of_lt hsize, List.length_drop]
    omega
  have hfinished : parser'.isFinished ≠ 0 := by
    unfold HttpResponseParser.isFinished
    rw [hfinal]
    decide
  simp only [recvChunkLine, refill_first, hbuffer, hexecute, if_neg hnoerror, if_neg hfull,
    if_pos hfinished]

/-- A line that is in the buffer as a whole is parsed in one call. -/
theorem recvChunkLine_line {buff_size : Nat} (hsize : buff_size < 2 ^ 31) (fuel : Nat)
    {parser : HttpResponseParser} (hparser : parser.data.error = 0) {data buffer : Bytes}
    {s s' : Stream} (hdata : data.length < buff_size)
    (hbuffer : nextBuffer buff_size data s = some (buffer, s')) {digits : Bytes} {k : Nat}
    (hline : ChunkLine buffer digits k) :
    ∃ parser', recvChunkLine buff_size (fuel + 1) true parser data s =
        .ok (parser', buffer.drop k, s') ∧
      AfterLine parser.init.data parser'.data digits := by
  obtain ⟨regs, d', hscan, hafter, hpos, hle⟩ := scan_line hline parser.init.data
  have hexecute : parser.execute buffer true =
      some (⟨httpclient_parser_first_final, regs, d'⟩, k) := by
    simp only [HttpResponseParser.execute, if_true]
    rw [show parser.init.cs = httpclient_parser_start from rfl, hscan]
    rfl
  exact ⟨_, recvChunkLine_executed hsize fuel hdata hbuffer hpos hle hexecute
    (hafter.error.trans hparser) rfl, hafter⟩

/-! ## Section 2: The data behind the line -/

/-- What is left of a chunk either comes, or the stream ends. -/
theorem readLeft_spec {buff_size : Nat} (hsize : buff_size < 2 ^ 31) (fuel : Nat) :
    ∀ (left : Int) (s : Stream), 0 ≤ left →
      readLeft buff_size fuel left s = .error .nullptr ∨
        ∃ s', readLeft buff_size fuel left s = .ok (s.flatten.take left.toNat, s') ∧
          left.toNat ≤ s.flatten.length ∧ s'.flatten = s.flatten.drop left.toNat := by
  induction fuel with
  | zero => exact fun _ _ _ => .inl rfl
  | succ fuel ih =>
    intro left s hleft
    by_cases hzero : left ≤ 0
    · obtain rfl : left = 0 := by omega
      exact .inr ⟨s, rfl, Nat.zero_le _, rfl⟩
    · have hfits : toInt buff_size = buff_size := toInt_of_lt hsize
      -- each read asks for no more than the buffer and no more than is left
      have hnonneg : ¬ (if toInt buff_size < left then toInt buff_size else left) < 0 := by
        rw [hfits]
        split <;> omega
      simp only [readLeft, if_neg hzero, if_neg hnonneg]
      cases hread : read (if toInt buff_size < left then toInt buff_size else left).toNat s with
      | none => exact .inl rfl
      | some r =>
        obtain ⟨got, s'⟩ := r
        obtain ⟨-, hle, hflat⟩ := read_spec hread
        have hgot : (got.length : Int) ≤ left := by
          rw [hfits] at hle
          split at hle <;> omega
        rcases ih (left - got.length) s' (by omega) with herr | ⟨s'', hok, henough, hrest⟩
        · exact .inl (by simp only [herr]; rfl)
        · refine .inr ⟨s'', ?_, ?_, ?_⟩
          · simp only [hok, Except.map, hflat]
            rw [List.take_append, List.take_of_length_le (l := got) (by omega),
              show left.toNat - got.length = (left - got.length).toNat by omega]
          · rw [hflat, List.length_append]
            omega
          · rw [hrest, hflat, List.drop_append, List.drop_of_length_le (l := got) (by omega),
              List.nil_append, show left.toNat - got.length = (left - got.length).toNat by omega]

/-- A chunk that is in the buffer together with the line end behind it. -/
theorem recvChunkData_buffered (buff_size : Nat) {n : Nat} (hn : n + 2 < 2 ^ 31) (body : Bytes)
    {data : Bytes} (s : Stream) (hall : n + 2 ≤ data.length) :
    recvChunkData buff_size n body data s =
      .ok (body ++ (data ++ s.flatten).take n, data.drop (n + 2), s) := by
  unfold recvChunkData
  rw [if_neg (by omega), if_pos (by omega), if_neg (by omega), Int.toNat_natCast,
    List.take_append_of_le_length (by omega)]

/-- A chunk whose end comes in further reads; the last two bytes of what is
    read are the line end. -/
theorem recvChunkData_left {buff_size n : Nat} (hn : n + 2 < 2 ^ 31) (body : Bytes)
    {data : Bytes} {s s' : Stream} (hall : data.length < n + 2)
    (henough : n + 2 ≤ (data ++ s.flatten).length)
    (hread : readLeft buff_size (s.flatten.length + 1) ((n + 2 - data.length : Nat) : Int) s =
      .ok (s.flatten.take (n + 2 - data.length), s')) :
    recvChunkData buff_size n body data s =
      .ok (body ++ (data ++ s.flatten).take n, [], s') := by
  have hleft : (n : Int) - data.length + 2 = ((n + 2 - data.length : Nat) : Int) := by omega
  rw [List.length_append] at henough
  have htake : (body ++ data ++ s.flatten.take (n + 2 - data.length)).length =
      body.length + (n + 2) := by
    simp only [List.length_append, List.length_take]
    omega
  unfold recvChunkData
  rw [if_neg (by omega), if_neg (by omega)]
  simp only [hleft, hread]
  rw [if_neg (by omega), htake, List.append_assoc,
    show body.length + (n + 2) - 2 = body.length + n by omega, List.take_length_add_append,
    show data ++ s.flatten.take (n + 2 - data.length) = (data ++ s.flatten).take (n + 2) by
      rw [List.take_append, List.take_of_length_le (l := data) (by omega)],
    List.take_take, Nat.min_eq_left (by omega)]

/-- A size that fits an `int` together with the line end is taken exactly. -/
theorem recvChunkData_exact {buff_size n : Nat} (hsize : buff_size < 2 ^ 31)
    (hn : n + 2 < 2 ^ 31) (body data : Bytes) (s : Stream) :
    recvChunkData buff_size n body data s = .error .nullptr ∨
      ∃ data' s', recvChunkData buff_size n body data s =
          .ok (body ++ (data ++ s.flatten).take n, data', s') ∧
        n + 2 ≤ (data ++ s.flatten).length ∧
        data' ++ s'.flatten = (data ++ s.flatten).drop (n + 2) := by
  -- the data and its CR LF are in the buffer already, or the rest is read
  by_cases hall : n + 2 ≤ data.length
  · refine .inr ⟨data.drop (n + 2), s, recvChunkData_buffered buff_size hn body s hall, ?_, ?_⟩
    · rw [List.length_append]
      omega
    · rw [List.drop_append_of_le_length hall]
  · rcases readLeft_spec hsize (s.flatten.length + 1)
      ((n + 2 - data.length : Nat) : Int) s (by omega) with herr | ⟨s', hok, henough, hrest⟩
    · have hleft : (n : Int) - data.length + 2 = ((n + 2 - data.length : Nat) : Int) := by omega
      left
      unfold recvChunkData
      rw [if_neg (by omega), if_neg (by omega)]
      simp only [hleft, herr]
    · rw [Int.toNat_natCast] at hok henough hrest
      have hlong : n + 2 ≤ (data ++ s.flatten).length := by
        rw [List.length_append]
        omega
      refine .inr ⟨[], s', recvChunkData_left hn body (by omega) hlong hok, hlong, ?_⟩
      rw [List.nil_append, hrest, List.drop_append, List.drop_of_length_le (l := data) (by omega),
        List.nil_append]

/-! ## Section 3: The buffer in which a line ends -/

/-- The callbacks do the same to two parsers with the same numbers. -/
theorem callback_same (k : Callback) (buffer : Bytes) (p : Nat) (regs : Reg → Nat)
    (d d' e : Received) (hsame : SameNumbers d e)
    (h : HttpClientParser.callback k buffer p regs d = some d') :
    ∃ e', HttpClientParser.callback k buffer p regs e = some e' ∧ SameNumbers d' e' := by
  obtain ⟨hlen, hchunked, hdone, herror⟩ := hsame
  -- what a callback sets it sets alike; the response alone is not compared
  cases k with
  | http_field =>
    obtain rfl := Option.some.inj h
    refine ⟨_, rfl, ?_⟩
    unfold Received.on_response_http_field
    split <;> exact ⟨hlen, hchunked, hdone, herror⟩
  | http_version =>
    obtain rfl := Option.some.inj h
    refine ⟨_, rfl, ?_⟩
    unfold Received.on_response_version
    split
    · exact ⟨hlen, hchunked, hdone, herror⟩
    · split
      · exact ⟨hlen, hchunked, hdone, herror⟩
      · exact ⟨hlen, hchunked, hdone, rfl⟩
  | chunk_size =>
    obtain rfl := Option.some.inj h
    exact ⟨_, rfl, rfl, rfl, rfl, herror⟩
  | content_len =>
    obtain rfl := Option.some.inj h
    exact ⟨_, rfl, rfl, hchunked, hdone, herror⟩
  | chunked =>
    obtain rfl := Option.some.inj h
    exact ⟨_, rfl, hlen, rfl, hdone, herror⟩
  | _ =>
    obtain rfl := Option.some.inj h
    exact ⟨_, rfl, hlen, hchunked, hdone, herror⟩

/-- A call for a chunk finds the same numbers whatever was parsed before. -/
theorem execute_same {p q p' : HttpResponseParser} (hpq : q.data.error = p.data.error)
    {buffer : Bytes} {k : Nat} (h : p.execute buffer true = some (p', k)) :
    ∃ q', q.execute buffer true = some (q', k) ∧ q'.cs = p'.cs ∧ SameNumbers p'.data q'.data := by
  obtain ⟨r, hscan, hr⟩ := Option.map_eq_some_iff.mp h
  obtain ⟨y, hscan', hrelated⟩ := @scan_related _ _ _ _ _ step _
    (perform origin HttpClientParser.callback buffer)
    (fun x y : (Reg → Nat) × Received => x.1 = y.1 ∧ SameNumbers x.2 y.2)
    (fun pos acts x x' y hxy hx => perform_related origin callback_same acts hxy hx) buffer 0 _
    (fun _ => 0, p.init.data) (fun _ => 0, q.init.data) r ⟨rfl, rfl, rfl, rfl, hpq⟩ hscan
  obtain ⟨rfl, rfl⟩ := Prod.mk.inj hr
  exact ⟨⟨r.state, y.1, y.2⟩, Option.map_eq_some_iff.mpr ⟨_, hscan', rfl⟩, rfl, hrelated.2⟩

/-- `execute` returns. -/
theorem execute_total (parser : HttpResponseParser) (buffer : Bytes) :
    ∃ parser' k, parser.execute buffer true = some (parser', k) := by
  obtain ⟨r, hunit⟩ := scan_unit step buffer 0 httpclient_parser_start
  obtain ⟨x, hscan⟩ := scan_total (perform_total buffer) buffer (fun _ => 0, parser.init.data) hunit
  exact ⟨_, _, Option.map_eq_some_iff.mpr ⟨_, hscan, rfl⟩⟩

/-- A scan that is not refused has parsed a byte. -/
theorem scan_advances {D : Type} {eff : Nat → List Action → D → Option D} {xs : Bytes}
    {pos cs : Nat} {d : D} {r : Scan Nat D} (hxs : xs ≠ []) (h : scan step eff pos cs d xs = some r)
    (hne : r.state ≠ httpclient_parser_error) : pos < r.pos := by
  obtain ⟨c, cs', rfl⟩ := List.exists_cons_of_ne_nil hxs
  refine Nat.lt_of_le_of_ne (scan_pos _ _ _ h).1 fun hpos => ?_
  -- a scan that stays where it is fails at its first byte
  have hfail := scan_stuck h hpos.symm
  rcases step_cases cs c with ⟨_, _, h', _⟩ | ⟨_, _, h', _⟩ | h'
  · rw [hfail] at h'; cases h'
  · rw [hfail] at h'; cases h'
  · rw [hfail] at h'
    exact hne (Step.fail.inj h')

/-- The buffer in which the loop for a line comes to the end of one, and what is
    left of the stream then; `none` if it gives up before.  What a buffer holds
    of a line that does not end in it is thrown away. -/
def lastBuffer (buff_size : Nat) :
    (fuel : Nat) → (begin_ : Bool) → (data : Bytes) → Stream → Option (Bytes × Stream)
  | 0, _, _, _ => none
  | fuel + 1, begin_, data, s =>
    match refill buff_size begin_ data s with
    | none => none
    | some (buffer, s) =>
      match HttpResponseParser.new.execute buffer true with
      | none => none
      | some (parser, nparse) =>
        if parser.hasError then none
        else if parser.isFinished ≠ 0 then some (buffer, s)
        else lastBuffer buff_size fuel false (buffer.drop nparse) s

/-- A turn that goes on has something in the buffer. -/
theorem refill_spec {buff_size : Nat} {begin_ : Bool} {data buffer : Bytes} {s s' : Stream}
    (hdata : data.length < buff_size) (h : refill buff_size begin_ data s = some (buffer, s')) :
    buffer ≠ [] ∧ buffer.length ≤ buff_size := by
  unfold refill at h
  split at h
  · obtain ⟨⟨got, s₁⟩, hread, heq⟩ := Option.map_eq_some_iff.mp h
    obtain ⟨rfl, rfl⟩ := Prod.mk.inj heq
    obtain ⟨hne, hle, -⟩ := read_spec hread
    refine ⟨by simp [hne], ?_⟩
    rw [List.length_append]
    dsimp only
    omega
  · rename_i hfirst
    obtain ⟨rfl, rfl⟩ := Prod.mk.inj (Option.some.inj h)
    exact ⟨fun hnil => hfirst (by simp [hnil]), hdata.le⟩

/-- What the loop makes of the buffer in which the line ends. -/
structure LineTaken (buff_size fuel : Nat) (begin_ : Bool) (parser : HttpResponseParser)
    (data : Bytes) (s : Stream) (buffer : Bytes) (s' : Stream) (q parser' : HttpResponseParser)
    (k : Nat) : Prop where
  ends   : lastBuffer buff_size fuel begin_ data s = some (buffer, s')
  parsed : HttpResponseParser.new.execute buffer true = some (q, k)
  final  : q.cs = httpclient_parser_first_final
  result : recvChunkLine buff_size fuel begin_ parser data s = .ok (parser', buffer.drop k, s')
  same   : SameNumbers q.data parser'.data

/-- The loop that reads a chunk line: it ends with the last buffer, or fails where
    there is none. -/
theorem recvChunkLine_lastBuffer {buff_size : Nat} (hsize : buff_size < 2 ^ 31) (fuel : Nat) :
    ∀ {begin_ : Bool} {parser : HttpResponseParser} {data : Bytes} {s : Stream},
      parser.data.error = 0 → data.length < buff_size →
      (lastBuffer buff_size fuel begin_ data s = none ∧
        recvChunkLine buff_size fuel begin_ parser data s = .error .nullptr) ∨
      ∃ buffer s' q parser' k,
        LineTaken buff_size fuel begin_ parser data s buffer s' q parser' k := by
  induction fuel with
  | zero => exact fun _ _ => .inl ⟨rfl, rfl⟩
  | succ fuel ih =>
    intro begin_ parser data s hparser hdata
    cases hrefill : refill buff_size begin_ data s with
    | none => exact .inl ⟨by simp only [lastBuffer, hrefill], by simp only [recvChunkLine, hrefill]⟩
    | some r =>
      obtain ⟨buffer, s₁⟩ := r
      obtain ⟨hne, hfits⟩ := refill_spec hdata hrefill
      obtain ⟨q, k, hnew⟩ := execute_total HttpResponseParser.new buffer
      obtain ⟨parser', hexecute, hcs, hsame⟩ := execute_same (q := parser) hparser hnew
      -- the new parser and the one of the loop end in the same state
      have herror : parser'.hasError ↔ q.hasError := by
        unfold HttpResponseParser.hasError
        rw [hcs, hsame.2.2.2]
      have hfinished : parser'.isFinished = q.isFinished := by
        unfold HttpResponseParser.isFinished
        rw [hcs]
      by_cases hq : q.hasError
      · exact .inl ⟨by simp only [lastBuffer, hrefill, hnew, if_pos hq],
          by simp only [recvChunkLine, hrefill, hexecute, if_pos (herror.mpr hq)]⟩
      · have hnoerror : q.data.error = 0 ∧ q.cs ≠ httpclient_parser_error := by
          unfold HttpResponseParser.hasError at hq
          rw [not_or, not_not] at hq
          exact hq
        -- execute takes a byte at least, so the buffer has room again
        have hshort : (buffer.drop k).length < buff_size := by
          obtain ⟨sc, hscan, hsc⟩ := Option.map_eq_some_iff.mp hnew
          obtain ⟨rfl, rfl⟩ := Prod.mk.inj hsc
          have hpos := scan_advances hne hscan hnoerror.2
          rw [List.length_drop]
          have := List.length_pos_iff.mpr hne
          omega
        have hfull : ¬ ((buffer.drop k).length : Int) = toInt buff_size := by
          rw [toInt_of_lt hsize]
          omega
        by_cases hend : q.isFinished ≠ 0
        · refine .inr ⟨buffer, s₁, q, parser', k, ?_, hnew, ?_, ?_, hsame⟩
          · simp only [lastBuffer, hrefill, hnew, if_neg hq, if_pos hend]
          · by_contra hother
            unfold HttpResponseParser.isFinished at hend
            rw [if_neg hnoerror.2, if_neg hother] at hend
            exact hend rfl
          · simp only [recvChunkLine, hrefill, hexecute, if_neg (mt herror.mp hq), if_neg hfull,
              hfinished, if_pos hend]
        · -- the line goes on in another buffer, and is parsed anew there
          have hlater := @ih false parser' (buffer.drop k) s₁ (hsame.2.2.2.trans hnoerror.1) hshort
          have hlast : lastBuffer buff_size (fuel + 1) begin_ data s =
              lastBuffer buff_size fuel false (buffer.drop k) s₁ := by
            simp only [lastBuffer, hrefill, hnew, if_neg hq, if_neg hend]
          have hloop : recvChunkLine buff_size (fuel + 1) begin_ parser data s =
              recvChunkLine buff_size fuel false parser' (buffer.drop k) s₁ := by
            simp only [recvChunkLine, hrefill, hexecute, if_neg (mt herror.mp hq), if_neg hfull,
              hfinished, if_neg hend]
          rw [hlast, hloop]
          refine hlater.imp_right ?_
          rintro ⟨buffer', s', q', parser'', k', htaken⟩
          exact ⟨buffer', s', q', parser'', k', hlast.trans htaken.ends, htaken.parsed,
            htaken.final, hloop.trans htaken.result, htaken.same⟩

/-- The start, and the states that only a chunk line goes through. -/
def chunkStates : List Nat := [1, 2, 4, 5, 6, 7]

/-- A step of a header, which never reads a size. -/
def ofHeader (s : Step Nat Action) : Bool :=
  match s with
  | .next t acts => !chunkStates.contains t && !acts.contains chunk_size
  | .last _ acts => !acts.contains chunk_size
  | .fail _      => true

theorem header_rows : ∀ row ∈ rows.zipIdx, ∀ e ∈ row.1, row.2 ∉ chunkStates →
    ofHeader (follow e.2.2) = true := by
  decide +kernel

/-- Outside of a chunk line no size is taken. -/
theorem step_header {s : Nat} (hs : s ∉ chunkStates) (c : UInt8) :
    ofHeader (step s c) = true := by
  unfold step
  cases hlookup : lookup s c.toNat with
  | none => rfl
  | some g =>
    obtain ⟨lo, hi, -, -, hmem⟩ := lookup_mem hlookup
    by_cases hrow : s < rows.length
    · rw [List.getD_eq_getElem _ _ hrow] at hmem
      exact header_rows (rows[s], s)
        (List.mk_mem_zipIdx_iff_getElem?.mpr (List.getElem?_eq_getElem hrow)) _ hmem hs
    · rw [List.getD_eq_default _ _ (Nat.not_lt.mp hrow)] at hmem
      cases hmem

/-- A line that begins with another byte is no chunk line. -/
theorem step_start_other : ∀ c, isxdigit c = false →
    ofHeader (step httpclient_parser_start c) = true := by
  apply forall_byte
  decide +kernel

/-- Only `chunk_size` ends the chunks. -/
theorem perform_header {buffer : Bytes} {p : Nat} (acts : List Action) :
    ∀ {x x' : (Reg → Nat) × Received}, chunk_size ∉ acts →
      perform origin HttpClientParser.callback buffer p acts x = some x' →
      x'.2.chunks_done = x.2.chunks_done := by
  -- only chunk_size writes chunks_done
  induction acts with
  | nil =>
    intro x x' _ h
    obtain rfl := Option.some.inj h
    rfl
  | cons a acts ih =>
    intro x x' hacts h
    rw [List.mem_cons, not_or] at hacts
    cases a with
    | mark r => exact ih (x := (move origin p (.mark r) x.1, x.2)) hacts.2 h
    | measure l => exact ih (x := (move origin p (.measure l) x.1, x.2)) hacts.2 h
    | call k =>
      obtain ⟨d', hd', hrest⟩ := Option.bind_eq_some_iff.mp h
      refine (ih hacts.2 hrest).trans ?_
      cases k with
      | chunk_size => exact absurd rfl hacts.1
      | http_field =>
        obtain rfl := Option.some.inj hd'
        simp only [Received.on_response_http_field]
        split <;> rfl
      | http_version =>
        obtain rfl := Option.some.inj hd'
        simp only [Received.on_response_version]
        split
        · rfl
        · split <;> rfl
      | _ =>
        obtain rfl := Option.some.inj hd'
        rfl

/-- A scan outside of a chunk line does not end the chunks. -/
theorem scan_header {buffer xs : Bytes} {pos s : Nat} {x : (Reg → Nat) × Received}
    {r : Scan Nat ((Reg → Nat) × Received)} (hs : s ∉ chunkStates)
    (hx : x.2.chunks_done = false)
    (h : scan step (perform origin HttpClientParser.callback buffer) pos s x xs = some r) :
    r.data.2.chunks_done = false := by
  have hrule := scan_rule
    (fun s (y : (Reg → Nat) × Received) => s ∉ chunkStates ∧ y.2.chunks_done = false)
    (fun _ y => y.2.chunks_done = false)
    (fun p s c t acts y y' hgoes hstep heff => by
      have hin := step_header hgoes.1 c
      rw [hstep] at hin
      simp only [ofHeader, Bool.and_eq_true, Bool.not_eq_true', List.contains_eq_mem,
        decide_eq_false_iff_not] at hin
      exact ⟨hin.1, (perform_header acts hin.2 heff).trans hgoes.2⟩)
    (fun p s c t acts y y' hgoes hstep heff => by
      have hin := step_header hgoes.1 c
      rw [hstep] at hin
      simp only [ofHeader, Bool.not_eq_true', List.contains_eq_mem, decide_eq_false_iff_not] at hin
      exact (perform_header acts hin heff).trans hgoes.2)
    (fun _ _ _ _ hgoes _ => hgoes.2) xs ⟨hs, hx⟩ h
  split at hrule
  · exact hrule
  · exact hrule.2

/-- What does not begin with a digit is never taken for the last chunk. -/
theorem scan_start_other {buffer : Bytes} {c : UInt8} {cs : Bytes} (hc : isxdigit c = false)
    {x : (Reg → Nat) × Received} (hx : x.2.chunks_done = false)
    {r : Scan Nat ((Reg → Nat) × Received)}
    (h : scan step (perform origin HttpClientParser.callback buffer) 0 httpclient_parser_start x
      (c :: cs) = some r) : r.data.2.chunks_done = false := by
  have hfirst := step_start_other c hc
  simp only [scan] at h
  cases hstep : step httpclient_parser_start c with
  | next t acts =>
    rw [hstep] at h hfirst
    obtain ⟨y, heff, hrest⟩ := Option.bind_eq_some_iff.mp h
    simp only [ofHeader, Bool.and_eq_true, Bool.not_eq_true', List.contains_eq_mem,
      decide_eq_false_iff_not] at hfirst
    exact scan_header hfirst.1 ((perform_header acts hfirst.2 heff).trans hx) hrest
  | last t acts =>
    rw [hstep] at h hfirst
    obtain ⟨y, heff, rfl⟩ := Option.map_eq_some_iff.mp h
    simp only [ofHeader, Bool.not_eq_true', List.contains_eq_mem, decide_eq_false_iff_not] at hfirst
    exact (perform_header acts hfirst heff).trans hx
  | fail t =>
    rw [hstep] at h
    obtain rfl := Option.some.inj h
    exact hx

/-- The size text a buffer begins with. -/
def sizeText (buffer : Bytes) : Bytes := buffer.takeWhile isxdigit

/-- What is stored in `content_len` for the buffer in which a line ends: the
    number its size text denotes, through `strtol` into an `int`.  A header
    block is taken for a line as well, with its own `Content-Length`. -/
def sizeTaken (buffer : Bytes) : Int :=
  if sizeText buffer = [] then
    match HttpResponseParser.new.execute buffer true with
    | none => -1
    | some (parser, _) => parser.data.content_len
  else wrap32 (min (chunkSize (sizeText buffer)) (2 ^ 63 - 1) : Nat)

/-- The size that the loop goes on with. -/
theorem sizeTaken_eq {buffer : Bytes} {q : HttpResponseParser} {k : Nat}
    (h : HttpResponseParser.new.execute buffer true = some (q, k))
    (hfinal : q.cs = httpclient_parser_first_final) :
    sizeTaken buffer = q.data.content_len ∧
      (q.data.chunks_done = true → q.data.content_len ≤ 0) := by
  obtain ⟨r, hscan, hr⟩ := Option.map_eq_some_iff.mp h
  obtain ⟨hparser, hpos⟩ := Prod.mk.inj hr
  simp only [if_true] at hscan
  rw [show HttpResponseParser.new.init.cs = httpclient_parser_start from rfl] at hscan
  -- without a digit in front the line is no chunk line, and it is never the last
  by_cases htext : sizeText buffer = []
  · unfold sizeTaken
    rw [if_pos htext, h]
    refine ⟨rfl, fun hdone => ?_⟩
    cases buffer with
    | nil =>
      obtain rfl := Option.some.inj hscan
      rw [← hparser] at hfinal
      cases hfinal
    | cons c cs =>
      have hc : isxdigit c = false := by
        by_contra hdigit
        rw [sizeText, List.takeWhile_cons_of_pos (by simpa using hdigit)] at htext
        cases htext
      have hfalse := scan_start_other hc (by rfl) hscan
      rw [← hparser, hfalse] at hdone
      cases hdone
  · have hends : lineEnd buffer = some k := by
      obtain ⟨_, hunit, -⟩ := @scan_related _ _ _ _ _ step _ (fun _ _ (u : Unit) => some u)
        (fun _ _ => True) (fun _ _ _ _ _ _ _ => ⟨(), rfl, trivial⟩) buffer 0 _ _ () r trivial hscan
      unfold lineEnd
      rw [hunit]
      dsimp only
      rw [← hparser] at hfinal
      rw [if_pos hfinal, hpos]
    -- with digits, scan_line says what the callback stored
    have hline : ChunkLine buffer (sizeText buffer) k :=
      ⟨⟨buffer.dropWhile isxdigit, (List.takeWhile_append_dropWhile).symm, fun c hc => by
          have hhead := List.head?_dropWhile_not isxdigit buffer
          rw [hc] at hhead
          simpa using hhead⟩,
        fun d hd => List.mem_takeWhile_imp hd, htext, hends⟩
    obtain ⟨regs, d', hscan', hafter, -⟩ := scan_line hline HttpResponseParser.new.init.data
    rw [show HttpResponseParser.new.init.data = HttpResponseParser.new.init.data from rfl] at hscan
    obtain rfl := Option.some.inj (hscan.symm.trans hscan')
    rw [← hparser]
    refine ⟨?_, fun hdone => ?_⟩
    · rw [sizeTaken, if_neg htext]
      exact hafter.content_len.symm
    · exact of_decide_eq_true (hafter.chunks_done.symm.trans hdone)

/-! ## Section 4: The chunk -/

/-- A round for a chunk of `n` bytes returns `nullptr`, or it has appended them
    and left what is behind their line end.  What is computed with the size on
    the way fits an `int`, and only an empty chunk is taken for the last one. -/
def ChunkExact (buff_size n : Nat) (parser : HttpResponseParser) (body data : Bytes) (s : Stream) :
    Prop :=
  match recvChunkLine buff_size (s.flatten.length + 2) true parser data s with
  | .error e => e = .nullptr
  | .ok (parser', data', s') =>
    parser'.data.content_len = n ∧
      parser'.data.content_len + 2 < 2 ^ 31 ∧
      (parser'.data.chunks_done = true → n = 0) ∧
      (recvChunk buff_size parser body data s = .error .nullptr ∨
        ∃ data'' s'', recvChunk buff_size parser body data s =
            .ok (parser', body ++ (data' ++ s'.flatten).take n, data'', s'') ∧
          n + 2 ≤ (data' ++ s'.flatten).length ∧
          data'' ++ s''.flatten = (data' ++ s'.flatten).drop (n + 2))

/-- A chunk whose line is in the buffer as a whole is exact if and only if its
    size and the two bytes behind the data fit an `int`. -/
theorem chunk_exact_line_iff {buff_size : Nat} (hsize : buff_size < 2 ^ 31)
    {parser : HttpResponseParser} (hparser : parser.data.error = 0) (body : Bytes)
    {data : Bytes} (hdata : data.length < buff_size) {s s' : Stream} {buffer : Bytes}
    (hbuffer : nextBuffer buff_size data s = some (buffer, s')) {digits : Bytes} {k : Nat}
    (hline : ChunkLine buffer digits k) :
    ChunkExact buff_size (chunkSize digits) parser body data s ↔ chunkSize digits ≤ 2 ^ 31 - 3 := by
  obtain ⟨parser', hresult, hafter⟩ := recvChunkLine_line hsize (s.flatten.length + 1) hparser
    hdata hbuffer hline
  unfold ChunkExact
  rw [hresult]
  dsimp only
  constructor
  · rintro ⟨hlen, hadd, -, -⟩
    rw [hlen] at hadd
    omega
  · intro hn
    -- the size fits an int, and so content_len is what the digits say
    have hlen : parser'.data.content_len = chunkSize digits := by
      rw [hafter.content_len, Nat.min_eq_left (by omega)]
      exact wrap32_of_lt (by omega) (by omega)
    refine ⟨hlen, by omega, ?_, ?_⟩
    · rw [hafter.chunks_done, hlen, decide_eq_true_eq]
      omega
    · rcases recvChunkData_exact hsize (n := chunkSize digits) (by omega) body (buffer.drop k) s' with
        herr | ⟨data'', s'', hok, henough, hrest⟩
      · exact .inl (by simp only [recvChunk, hresult, hlen, herr])
      · exact .inr ⟨data'', s'', by simp only [recvChunk, hresult, hlen, hok], henough, hrest⟩

end Http

open Http HttpClientParser

end MNSER
