import Mnser.Http.Receive
import Mnser.Http.RequestParser

/-! # Receiving a request

    `HttpSession::recvRequest`.  What `read` returns may end anywhere in the
    request.  The parser keeps its state from one buffer to the next, but its
    positions are set back to the start of the new buffer.  So the outcome is
    that of the request read at once as long as no read ends between the byte
    where a token's start is noted and the byte where the token is used. -/

namespace MNSER

namespace Http

open Scanner HttpParser

/-! ## Section 1: The session -/

def requestParser (env : Env) : Parser HttpRequestParser where
  execute    := HttpRequestParser.execute env
  hasError   := fun parser => decide parser.hasError
  isFinished := HttpRequestParser.isFinished

/-- The part of `recvRequest` behind the header loop. -/
def finishRequest (data : HttpRequest) (length : Int) (buffer : Bytes) (s : Stream) :
    Except Failure (HttpRequest × Stream) :=
  if 0 < length then
    match recvBody length buffer s with
    | .error e => .error e
    | .ok (body, s) => .ok ({ data with body := body }.init, s)
  else .ok (data.init, s)

/-- The request and what is left of the stream. -/
def recvRequest (env : Env) (buff_size : Nat) (s : Stream) :
    Except Failure (HttpRequest × Stream) :=
  match recvHeader (requestParser env) buff_size (fuelFor s) (HttpRequestParser.new env) [] s with
  | .error e => .error e
  | .ok (parser, buffer, s) =>
    finishRequest parser.data.1 (toInt64 (parser.getContentLength env).toNat) buffer s

/-- What the caller of `recvRequest` gets. -/
def outcome (r : Except Failure (HttpRequest × Stream)) : Except Failure HttpRequest :=
  r.map Prod.fst

/-! ## Section 2: The parser's states -/

/-- Neither in error nor finished. -/
def Parsing (cs : Nat) : Prop := 0 < cs ∧ cs < http_parser_first_final

theorem parsing_start : Parsing http_parser_start := by
  unfold Parsing
  decide

def Ended (cs : Nat) : Prop := cs = http_parser_error ∨ http_parser_first_final ≤ cs

/-- A scan stops at the end of a header or at an error, and goes on in between. -/
theorem scan_parsing {uri_relaxed : Bool} {D : Type}
    {eff : Nat → List Action → D → Option D} {xs : Bytes} {pos cs : Nat} {d : D}
    {r : Scan Nat D} (hcs : Parsing cs) (h : scan (step uri_relaxed) eff pos cs d xs = some r) :
    if r.stopped = true then Ended r.state else Parsing r.state := by
  refine scan_state ?_ ?_ ?_ xs hcs h
  · intro s c t acts hstep
    -- the parser goes on below first_final, and ends at it or in the error state
    rcases step_cases uri_relaxed s c with ⟨t', acts', h', hpos, hlt, _⟩ | ⟨_, _, h', _⟩ | h'
    · rw [hstep] at h'
      obtain ⟨rfl, _⟩ := Step.next.inj h'
      exact ⟨hpos, hlt⟩
    · rw [hstep] at h'; cases h'
    · rw [hstep] at h'; cases h'
  · intro s c t acts hstep
    rcases step_cases uri_relaxed s c with ⟨_, _, h', _⟩ | ⟨t', acts', h', hle, _⟩ | h'
    · rw [hstep] at h'; cases h'
    · rw [hstep] at h'
      obtain ⟨rfl, _⟩ := Step.last.inj h'
      exact Or.inr hle
    · rw [hstep] at h'; cases h'
  · intro s c t hstep
    rcases step_cases uri_relaxed s c with ⟨_, _, h', _⟩ | ⟨_, _, h', _⟩ | h'
    · rw [hstep] at h'; cases h'
    · rw [hstep] at h'; cases h'
    · rw [hstep] at h'
      exact Or.inl (Step.fail.inj h')

/-- A scan that ends elsewhere than in the error state has parsed a byte. -/
theorem scan_progress {uri_relaxed : Bool} {D : Type} {eff : Nat → List Action → D → Option D}
    {xs : Bytes} {cs : Nat} {d : D} {r : Scan Nat D} (hxs : xs ≠ [])
    (h : scan (step uri_relaxed) eff 0 cs d xs = some r) (hne : r.state ≠ http_parser_error) :
    0 < r.pos := by
  obtain ⟨c, cs', rfl⟩ := List.exists_cons_of_ne_nil hxs
  apply Nat.pos_of_ne_zero
  intro hzero
  -- a scan that stays where it is fails at its first byte
  have hfail := scan_stuck h hzero
  rcases step_cases uri_relaxed cs c with ⟨_, _, h', _⟩ | ⟨_, _, h', _⟩ | h'
  · rw [hfail] at h'; cases h'
  · rw [hfail] at h'; cases h'
  · rw [hfail] at h'
    exact hne (Step.fail.inj h')

/-- `m_error` stays set, and the body is left alone. -/
theorem callback_keeps {k : Callback} {buffer : Bytes} {p : Nat} {regs : Reg → Nat}
    {d d' : Parsed} (h : callback k buffer p regs d = some d') :
    (d.2 ≠ 0 → d'.2 ≠ 0) ∧ d'.1.body = d.1.body := by
  obtain ⟨request, error⟩ := d
  -- the callbacks of method, version and query can fail; none resets the error or writes the body
  cases k with
  | http_field =>
    obtain rfl := Option.some.inj h
    simp only [on_request_http_field]
    split <;> exact ⟨id, rfl⟩
  | request_method =>
    obtain rfl := Option.some.inj h
    simp only [on_request_method]
    split
    · exact ⟨id, rfl⟩
    · exact ⟨fun _ => Nat.succ_ne_zero _, rfl⟩
  | http_version =>
    obtain rfl := Option.some.inj h
    simp only [on_request_version]
    split
    · exact ⟨id, rfl⟩
    · split
      · exact ⟨id, rfl⟩
      · exact ⟨fun _ => Nat.succ_ne_zero _, rfl⟩
  | query_string =>
    simp only [callback] at h
    split at h
    · obtain rfl := Option.some.inj h
      exact ⟨id, rfl⟩
    · cases h
  | fragment => obtain rfl := Option.some.inj h; exact ⟨id, rfl⟩
  | request_path => obtain rfl := Option.some.inj h; exact ⟨id, rfl⟩
  | request_uri => obtain rfl := Option.some.inj h; exact ⟨id, rfl⟩
  | done => obtain rfl := Option.some.inj h; exact ⟨id, rfl⟩
  | xml => obtain rfl := Option.some.inj h; exact ⟨id, rfl⟩
  | json => obtain rfl := Option.some.inj h; exact ⟨id, rfl⟩

/-- What the call backs keep, a scan keeps. -/
theorem scan_parsed {K : Parsed → Prop}
    (hcall : ∀ k buffer p regs d d', callback k buffer p regs d = some d' → K d → K d')
    {uri_relaxed : Bool} {buffer xs : Bytes} {pos cs : Nat} {regs : Reg → Nat}
    {d : Parsed} {r : Scan Nat ((Reg → Nat) × Parsed)}
    (h : scan (step uri_relaxed) (perform origin callback buffer) pos cs (regs, d) xs = some r)
    (hd : K d) : K r.data.2 :=
  scan_keeps (K := fun x : (Reg → Nat) × Parsed => K x.2)
    (fun _ acts _ _ heff hx => perform_keeps origin hcall acts heff hx) xs h hd

/-- Errors are not taken back. -/
theorem scan_error {uri_relaxed : Bool} {buffer xs : Bytes} {pos cs : Nat} {regs : Reg → Nat}
    {d : Parsed} {r : Scan Nat ((Reg → Nat) × Parsed)}
    (h : scan (step uri_relaxed) (perform origin callback buffer) pos cs (regs, d) xs = some r)
    (hd : d.2 ≠ 0) : r.data.2.2 ≠ 0 :=
  scan_parsed (K := fun d => d.2 ≠ 0) (fun _ _ _ _ _ _ hcall => (callback_keeps hcall).1) h hd

/-! ## Section 3: The header in pieces -/

/-- How the parse of the whole text ends. -/
def HeaderOutcome (whole : Bytes) (r : Scan Nat ((Reg → Nat) × Parsed))
    (result : Except Failure (HttpRequestParser × Bytes × Stream)) : Prop :=
  if r.data.2.2 = 0 ∧ http_parser_first_final ≤ r.state then
    ∃ parser buffer rest, result = .ok (parser, buffer, rest) ∧ parser.data = r.data.2 ∧
      buffer ++ rest.flatten = whole.drop r.pos ∧ ∀ c ∈ rest, c ≠ []
  else result = .error .nullptr

/-- Without a header there is no request. -/
theorem HeaderOutcome.bad {whole : Bytes} {r : Scan Nat ((Reg → Nat) × Parsed)}
    {result : Except Failure (HttpRequestParser × Bytes × Stream)}
    (hbad : ¬ (r.data.2.2 = 0 ∧ http_parser_first_final ≤ r.state))
    (hresult : result = .error .nullptr) : HeaderOutcome whole r result := by
  unfold HeaderOutcome
  rw [if_neg hbad]
  exact hresult

/-- `execute` is one scan. -/
theorem execute_eq {env : Env} {parser : HttpRequestParser} {data : Bytes} (hdata : data ≠ [])
    {r : Scan Nat ((Reg → Nat) × Parsed)}
    (h : scan (step env.uri_relaxed) (perform origin callback data) 0 parser.cs
      (HttpRequestParser.forget parser.regs, parser.data) data = some r) :
    (requestParser env).execute parser data =
      some (⟨r.state, r.data.1, r.data.2⟩, r.pos) := by
  show HttpRequestParser.execute env parser data = _
  unfold HttpRequestParser.execute
  rw [if_neg hdata, h]
  rfl

/-- A buffer in which the parse ends: with an error, or behind the header. -/
theorem headerOutcome_stopped {env : Env} {n : Nat} (fuel : Nat) (hn : n < 0x80000000)
    {parser : HttpRequestParser} (hcs : Parsing parser.cs) {whole got : Bytes} {s s' : Stream}
    (hs' : ∀ c ∈ s', c ≠ []) (hread : read n s = some (got, s')) (base : Nat)
    (hwhole : whole.drop base = got ++ s'.flatten) {r : Scan Nat ((Reg → Nat) × Parsed)}
    (hscan : scan (step env.uri_relaxed) (perform origin callback got) 0 parser.cs
      (HttpRequestParser.forget parser.regs, parser.data) got = some r)
    (hstop : r.stopped = true) (regs : Reg → Nat) :
    HeaderOutcome whole ⟨r.state, base + r.pos, (regs, r.data.2), true⟩
      (recvHeader (requestParser env) n (fuel + 1) parser [] s) := by
  obtain ⟨hgot, _, _⟩ := read_spec hread
  have hexecute := execute_eq hgot hscan
  have hend := scan_parsing hcs hscan
  rw [if_pos hstop] at hend
  -- hasError looks at the callbacks' error and at the state
  by_cases hok : r.data.2.2 = 0 ∧ http_parser_first_final ≤ r.state
  · have hne : r.state ≠ http_parser_error := by
      intro heq
      rw [heq] at hok
      exact absurd hok.2 (by decide)
    have hpos := scan_progress hgot hscan hne
    have hresult := recvHeader_read fuel hn hread hexecute hpos
    have hnoerror : (requestParser env).hasError ⟨r.state, r.data.1, r.data.2⟩ = false := by
      simp [requestParser, HttpRequestParser.hasError, hok.1, hne]
    have hfinished : (requestParser env).isFinished ⟨r.state, r.data.1, r.data.2⟩ ≠ 0 := by
      simp [requestParser, HttpRequestParser.isFinished, hne, hok.2]
    unfold HeaderOutcome
    rw [if_pos hok, hresult, hnoerror, if_neg (by decide), if_pos hfinished]
    have hle := (scan_pos _ _ _ hscan).2.1
    refine ⟨_, _, _, rfl, rfl, ?_, hs'⟩
    rw [← List.drop_drop, hwhole, List.drop_append_of_le_length (by omega)]
  · refine .bad hok (recvHeader_error hread hexecute ?_)
    have herror : r.data.2.2 ≠ 0 ∨ r.state = http_parser_error := by
      by_cases hdata : r.data.2.2 = 0
      · rcases hend with herr | hfinal
        · exact Or.inr herr
        · exact absurd ⟨hdata, hfinal⟩ hok
      · exact Or.inl hdata
    exact decide_eq_true herror

/-- The parse of the whole text, as far as the bytes `xs` it begins with. -/
def parse (env : Env) (whole xs : Bytes) : Option (Scan Nat ((Reg → Nat) × Parsed)) :=
  scan (step env.uri_relaxed) (perform origin callback whole) 0 (HttpRequestParser.new env).cs
    (HttpRequestParser.forget (HttpRequestParser.new env).regs, (HttpRequestParser.new env).data) xs

/-- A call back rejects the method or the version in the first `k` bytes. -/
def rejected (env : Env) (whole : Bytes) (k : Nat) : Bool :=
  (parse env whole (whole.take k)).any fun r => decide (r.data.2.2 ≠ 0)

/-- The reads from `k` on up to the one that brings what is rejected: behind it
    `recvRequest` makes no more. -/
def readsMade (env : Env) (whole : Bytes) : (k : Nat) → Stream → Stream
  | _, [] => []
  | k, c :: cs => if rejected env whole k then [] else c :: readsMade env whole (k + c.length) cs

/-- No read that is made ends inside a token. -/
def NoTokenCut (env : Env) (chunks : Stream) : Prop :=
  unbroken (step env.uri_relaxed) origin uses http_parser_start
    (readsMade env chunks.flatten 0 chunks) = true

instance (env : Env) (chunks : Stream) : Decidable (NoTokenCut env chunks) :=
  inferInstanceAs (Decidable (_ = true))

/-- No read at all ends inside a token. -/
theorem noTokenCut_of_unbroken {env : Env} {chunks : Stream}
    (h : unbroken (step env.uri_relaxed) origin uses http_parser_start chunks = true) :
    NoTokenCut env chunks := by
  unfold NoTokenCut
  generalize http_parser_start = cs at h
  generalize chunks.flatten = whole
  generalize 0 = k
  induction chunks generalizing cs k with
  | nil => rfl
  | cons c chunks ih =>
    rw [readsMade]
    split
    · rfl
    · simp only [unbroken] at h ⊢
      split at h
      · cases h
      · rename_i r hscan
        rw [Bool.or_eq_true] at h
        exact Bool.or_eq_true_iff.mpr (h.imp_right fun hrest => ih _ hrest _)

/-- A prefix is rejected if a callback has set the error. -/
theorem rejected_of_parse {env : Env} {whole : Bytes} {k : Nat}
    {r : Scan Nat ((Reg → Nat) × Parsed)} (h : parse env whole (whole.take k) = some r) :
    rejected env whole k = decide (r.data.2.2 ≠ 0) := by
  unfold rejected
  rw [h]
  rfl

/-- A text does not make the parse throw. -/
theorem parse_total (env : Env) (whole : Bytes) : ∃ r, parse env whole whole = some r := by
  have hstart : ∀ r, cover http_parser_start r = false := by
    intro r
    cases r <;> rfl
  obtain ⟨r, -, hscan, -⟩ :=
    scan_part (request_sound env.uri_relaxed) (show whole.drop 0 = whole ++ [] by simp)
      (HttpRequestParser.forget (HttpRequestParser.new env).regs) trivial
      ((request_covers env.uri_relaxed).unbroken hstart whole)
      (HttpRequestParser.forget (HttpRequestParser.new env).regs) (HttpRequestParser.new env).data
  exact ⟨r, hscan⟩

/-- The loop, from the state in which it has read the first `base` bytes. -/
theorem recvHeader_chunks {env : Env} {n : Nat} (hn : n < 0x80000000) {whole : Bytes}
    {r : Scan Nat ((Reg → Nat) × Parsed)} (hr : parse env whole whole = some r) (chunks : Stream) :
    ∀ {base : Nat} (fuel : Nat) (parser : HttpRequestParser) (regs : Reg → Nat),
      whole.drop base = chunks.flatten → (∀ c ∈ chunks, c ≠ [] ∧ c.length ≤ n) →
      chunks.flatten.length < fuel → Parsing parser.cs →
      parse env whole (whole.take base) = some ⟨parser.cs, base, (regs, parser.data), false⟩ →
      unbroken (step env.uri_relaxed) origin uses parser.cs (readsMade env whole base chunks) =
        true →
      parser.data.2 = 0 →
      HeaderOutcome whole r (recvHeader (requestParser env) n fuel parser [] chunks) := by
  -- what is left of the parse of the whole text
  have hrest : ∀ {base cs regs d}, parse env whole (whole.take base) =
      some ⟨cs, base, (regs, d), false⟩ →
      scan (step env.uri_relaxed) (perform origin callback whole) base cs (regs, d)
        (whole.drop base) = some r := by
    intro base cs regs d hbefore
    rw [← hr]
    conv_rhs => rw [parse, ← List.take_append_drop base whole, scan_append]
    rw [parse] at hbefore
    rw [List.take_append_drop, hbefore]
    rfl
  induction chunks with
  | nil =>
    intro base fuel parser regs hwhole _ _ hcs hbefore _ _
    have hend := hrest hbefore
    rw [hwhole] at hend
    obtain rfl := Option.some.inj hend
    refine .bad (fun h => absurd hcs.2 (Nat.not_lt.mpr h.2)) ?_
    cases fuel <;> rfl
  | cons c cs ih =>
    intro base fuel parser regs hwhole hchunks hfuel hcs hbefore hunbroken hzero
    obtain ⟨hc, hcn⟩ := hchunks c List.mem_cons_self
    have hcs' : ∀ x ∈ cs, x ≠ [] ∧ x.length ≤ n := fun x hx =>
      hchunks x (List.mem_cons_of_mem _ hx)
    have hread := read_cons cs hc hcn
    obtain ⟨fuel, rfl⟩ : ∃ k, fuel = k + 1 := ⟨fuel - 1, by omega⟩
    rw [List.flatten_cons, List.length_append] at hfuel
    rw [List.flatten_cons] at hwhole
    have hclen := List.length_pos_iff.mpr hc
    rw [readsMade, rejected_of_parse hbefore, if_neg (by simp [hzero])] at hunbroken
    obtain ⟨q, regs₁, hscan, hpart, hgo⟩ :=
      scan_part (request_sound env.uri_relaxed) hwhole
        (HttpRequestParser.forget parser.regs) trivial hunbroken regs parser.data
    have hlater := hrest hbefore
    rw [hwhole, scan_append, hpart, Option.bind_some] at hlater
    cases hstop : q.stopped with
    | true =>
      rw [hstop, if_pos rfl] at hlater
      rw [← Option.some.inj hlater]
      exact headerOutcome_stopped fuel hn hcs (fun x hx => (hcs' x hx).1) hread base hwhole hscan
        hstop regs₁
    | false =>
      obtain ⟨hpos, hunbroken'⟩ := hgo hstop
      have hparsing := scan_parsing hcs hscan
      rw [hstop, if_neg (by decide)] at hparsing
      rw [hstop, hpos] at hpart
      have hwhole' : whole.drop (base + c.length) = cs.flatten := by
        rw [← List.drop_drop, hwhole, List.drop_left]
      have htake : whole.take (base + c.length) = whole.take base ++ c := by
        rw [List.take_add, hwhole, List.take_left]
      have hbefore' : parse env whole (whole.take (base + c.length)) =
          some ⟨q.state, base + c.length, (regs₁, q.data.2), false⟩ := by
        rw [parse] at hbefore ⊢
        rw [htake, scan_append, hbefore, Option.bind_some]
        exact hpart
      have hexecute := execute_eq hc hscan
      by_cases herror : q.data.2.2 = 0
      · have hresult := recvHeader_read fuel hn hread hexecute (by omega)
        have hne : q.state ≠ http_parser_error := Nat.ne_of_gt hparsing.1
        have hnoerror : (requestParser env).hasError ⟨q.state, q.data.1, q.data.2⟩ = false := by
          simp [requestParser, HttpRequestParser.hasError, herror, hne]
        have hmore : ¬ (requestParser env).isFinished ⟨q.state, q.data.1, q.data.2⟩ ≠ 0 := by
          simp [requestParser, HttpRequestParser.isFinished, hne, hparsing.2]
        rw [hresult, hnoerror, if_neg (by decide), if_neg hmore, hpos, List.drop_length]
        exact ih fuel ⟨q.state, q.data.1, q.data.2⟩ regs₁ hwhole' hcs' (by omega) hparsing hbefore'
          hunbroken' herror
      · -- an invalid method or version ends the loop here
        refine .bad (fun h => scan_error (hrest hbefore') herror h.1)
          (recvHeader_error hread hexecute ?_)
        simp [requestParser, HttpRequestParser.hasError, herror]

/-- The loop from its start. -/
theorem headerOutcome_pieces {env : Env} {n : Nat} (hn : n < 0x80000000) {chunks : Stream}
    (hchunks : ∀ c ∈ chunks, c ≠ [] ∧ c.length ≤ n) (hcut : NoTokenCut env chunks)
    {r : Scan Nat ((Reg → Nat) × Parsed)}
    (hr : parse env chunks.flatten chunks.flatten = some r) :
    HeaderOutcome chunks.flatten r
      (recvHeader (requestParser env) n (fuelFor chunks) (HttpRequestParser.new env) [] chunks) :=
  @recvHeader_chunks env n hn _ r hr chunks 0 (fuelFor chunks) (HttpRequestParser.new env) _
    List.drop_zero hchunks (Nat.lt_succ_self _) parsing_start rfl hcut rfl

/-- The whole text in one read. -/
theorem headerOutcome_whole {env : Env} {n : Nat} (hn : n < 0x80000000) {whole : Bytes}
    (hwhole : whole ≠ []) (hlen : whole.length ≤ n) {parser : HttpRequestParser}
    (hcs : Parsing parser.cs) {r : Scan Nat ((Reg → Nat) × Parsed)}
    (hscan : scan (step env.uri_relaxed) (perform origin callback whole) 0 parser.cs
      (HttpRequestParser.forget parser.regs, parser.data) whole = some r) :
    HeaderOutcome whole r
      (recvHeader (requestParser env) n (fuelFor [whole]) parser [] [whole]) := by
  have hread := read_cons [] hwhole hlen
  have hparsing := scan_parsing hcs hscan
  cases hstop : r.stopped with
  | true =>
    have hflat : whole.drop 0 = whole ++ ([] : Stream).flatten := (List.append_nil whole).symm
    have houtcome := headerOutcome_stopped [whole].flatten.length hn hcs
      (fun _ h => absurd h List.not_mem_nil) hread 0 hflat hscan hstop r.data.1
    rw [Nat.zero_add] at houtcome
    exact houtcome
  | false =>
    -- the header is not complete, and there is nothing more to read
    rw [hstop, if_neg (by decide)] at hparsing
    refine .bad (fun h => absurd hparsing.2 (Nat.not_lt.mpr h.2)) ?_
    have hexecute := execute_eq hwhole hscan
    have hlen' := List.length_pos_iff.mpr hwhole
    have hpos := (scan_pos _ _ _ hscan).2.2 hstop
    by_cases herror : r.data.2.2 = 0
    · have hne : r.state ≠ http_parser_error := Nat.ne_of_gt hparsing.1
      have hnoerror : (requestParser env).hasError ⟨r.state, r.data.1, r.data.2⟩ = false := by
        simp [requestParser, HttpRequestParser.hasError, herror, hne]
      have hmore : ¬ (requestParser env).isFinished ⟨r.state, r.data.1, r.data.2⟩ ≠ 0 := by
        simp [requestParser, HttpRequestParser.isFinished, hne, hparsing.2]
      unfold fuelFor
      rw [recvHeader_read _ hn hread hexecute (by omega), hnoerror, if_neg (by decide), if_neg hmore]
      cases [whole].flatten.length <;> rfl
    · refine recvHeader_error hread hexecute ?_
      simp [requestParser, HttpRequestParser.hasError, herror]

/-! ## Section 4: The request -/

/-- The request with the bytes behind its header. -/
def withBody (data : HttpRequest) (length : Int) (bytes : Bytes) : Except Failure HttpRequest :=
  if 0 < length then
    if length.toNat ≤ bytes.length then
      .ok { data with body := bytes.take length.toNat }.init
    else .error .nullptr
  else .ok data.init

/-- The body is read by its length. -/
theorem outcome_finishRequest (data : HttpRequest) (length : Int) (buffer : Bytes) {s : Stream}
    (hs : ∀ c ∈ s, c ≠ []) (hsmall : s.flatten.length < 0x80000000) :
    outcome (finishRequest data length buffer s) =
      withBody data length (buffer ++ s.flatten) := by
  unfold finishRequest withBody
  split
  · rename_i hpositive
    have hbody := recvBody_spec buffer hpositive hs (by omega)
    split at hbody
    · rename_i henough
      obtain ⟨s', hbody⟩ := hbody
      rw [hbody, if_pos henough]
      rfl
    · rename_i hshort
      rw [hbody, if_neg hshort]
      rfl
  · rfl

/-- What the parse of the whole text makes of it. -/
def requestOf (env : Env) (whole : Bytes) (r : Scan Nat ((Reg → Nat) × Parsed)) :
    Except Failure HttpRequest :=
  if r.data.2.2 = 0 ∧ http_parser_first_final ≤ r.state then
    withBody r.data.2.1
      (toInt64 (HttpRequestParser.getContentLength env ⟨r.state, r.data.1, r.data.2⟩).toNat)
      (whole.drop r.pos)
  else .error .nullptr

/-- What `recvRequest` makes of the stream. -/
theorem outcome_recvRequest {env : Env} {n : Nat} {whole : Bytes}
    (hsmall : whole.length < 0x80000000) {s : Stream} {r : Scan Nat ((Reg → Nat) × Parsed)}
    (h : HeaderOutcome whole r (recvHeader (requestParser env) n (fuelFor s)
      (HttpRequestParser.new env) [] s)) :
    outcome (recvRequest env n s) = requestOf env whole r := by
  unfold HeaderOutcome at h
  unfold requestOf recvRequest
  split at h
  · rename_i hok
    obtain ⟨parser, buffer, rest, hresult, hdata, hflat, hrest⟩ := h
    have hlength : parser.getContentLength env =
        HttpRequestParser.getContentLength env ⟨r.state, r.data.1, r.data.2⟩ := by
      unfold HttpRequestParser.getContentLength
      rw [hdata]
    have hbytes : rest.flatten.length < 0x80000000 := by
      have hle := congrArg List.length hflat
      rw [List.length_append, List.length_drop] at hle
      omega
    rw [hresult, if_pos hok]
    show outcome (finishRequest _ _ buffer rest) = _
    rw [outcome_finishRequest _ _ buffer hrest hbytes, hlength, hdata, hflat]
  · rename_i hbad
    rw [h, if_neg hbad]
    rfl

end Http

open Http

/-- A text that arrives in pieces gives the same outcome as in one piece, when
    no piece ends inside a token. -/
theorem request_same_in_pieces {env : Env} {buff_size : Nat} {chunks : Stream}
    (hsize : buff_size < 0x80000000) (hchunks : ∀ c ∈ chunks, c ≠ [])
    (hlen : chunks.flatten.length < buff_size) (hcut : NoTokenCut env chunks) :
    outcome (recvRequest env buff_size chunks) =
      outcome (recvRequest env buff_size [chunks.flatten]) := by
  cases hnil : chunks with
  | nil => rfl
  | cons c cs =>
    rw [← hnil]
    have hwhole : chunks.flatten ≠ [] := by
      rw [hnil, List.flatten_cons]
      exact fun h => hchunks c (hnil ▸ List.mem_cons_self) (List.append_eq_nil_iff.mp h).1
    have hpieces : ∀ x ∈ chunks, x ≠ [] ∧ x.length ≤ buff_size := fun x hx =>
      ⟨hchunks x hx, (List.sublist_flatten_of_mem hx).length_le.trans hlen.le⟩
    obtain ⟨r, hr⟩ := parse_total env chunks.flatten
    have hsmall : chunks.flatten.length < 0x80000000 := hlen.trans hsize
    rw [outcome_recvRequest hsmall (headerOutcome_pieces hsize hpieces hcut hr),
      outcome_recvRequest hsmall (headerOutcome_whole hsize hwhole hlen.le parsing_start hr)]

/-- The method is rejected in the first read, and the path is never looked at. -/
example : NoTokenCut ⟨false, 0, fun _ => none⟩
    [ascii "FOO ", ascii "/pa", ascii "th HTTP/1.1\r\n\r\n"] := by decide +kernel

/-- Five reads, each of which ends between two tokens or in the body. -/
theorem request_same_in_pieces_five :
    let env : Env := ⟨false, 0, fun val => if val = ascii "2" then some 2 else none⟩
    let chunks : Stream := [ascii "POST ", ascii "/a?b HTTP/1.1\r\n",
      ascii "Content-Length: 2\r\n", ascii "\r\nh", ascii "i"]
    outcome (recvRequest env 4096 chunks) = outcome (recvRequest env 4096 [chunks.flatten]) ∧
      outcome (recvRequest env 4096 [chunks.flatten]) =
        .ok { HttpRequest.new with
              method  := .POST
              path    := ascii "/a"
              query   := ascii "b"
              headers := [(ascii "Content-Length", ascii "2")]
              body    := ascii "hi" } :=
  ⟨request_same_in_pieces (by decide) (by decide) (by decide) (by decide),
    by decide⟩

/-- The first read ends inside the method. -/
theorem request_cut_in_method :
    let env : Env := ⟨false, 0, fun _ => none⟩
    let chunks : Stream := [ascii "GE", ascii "T / HTTP/1.1\r\n\r\n"]
    outcome (recvRequest env 4096 chunks) = .error .nullptr ∧
      outcome (recvRequest env 4096 [chunks.flatten]) = .ok HttpRequest.new := by
  decide +kernel

end MNSER
