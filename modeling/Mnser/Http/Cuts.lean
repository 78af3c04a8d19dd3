import Mnser.Http.BodyLimit
import Mnser.Http.Extensions

/-! # A response in pieces

    What `recvResponse` reads may end anywhere.  The header parser keeps its
    state from one read to the next but not its positions, and the parser of
    a chunk line keeps nothing.  As long as no read ends inside a token of the
    header or inside the line in front of a chunk, what is received is a
    function of the bytes alone. -/

namespace MNSER

namespace Http

open Scanner HttpClientParser

/-! ## Section 1: The header in pieces -/

/-- Neither in error nor finished. -/
def Going (cs : Nat) : Prop := 0 < cs ∧ cs < httpclient_parser_first_final

theorem going_start : Going httpclient_parser_start := by
  unfold Going
  decide

/-- A scan stops at a final state or at an error, and goes on in between. -/
theorem scan_going {D : Type} {eff : Nat → List Action → D → Option D} {xs : Bytes}
    {pos cs : Nat} {d : D} {r : Scan Nat D} (hcs : Going cs)
    (h : scan step eff pos cs d xs = some r) :
    if r.stopped = true then ¬ Going r.state else Going r.state := by
  refine @scan_state _ _ _ _ step eff Going (fun s => ¬ Going s) ?_ ?_ ?_ xs _ _ _ _ hcs h
  · intro s c t acts hstep
    -- a scan goes on in the states between error and first_final
    rcases step_cases s c with ⟨t', acts', h', hpos, hlt⟩ | ⟨_, _, h', _⟩ | h'
    · rw [hstep] at h'
      obtain ⟨rfl, _⟩ := Step.next.inj h'
      exact ⟨hpos, hlt⟩
    · rw [hstep] at h'; cases h'
    · rw [hstep] at h'; cases h'
  · intro s c t acts hstep hgoing
    rcases step_cases s c with ⟨_, _, h', _⟩ | ⟨t', acts', h', hle⟩ | h'
    · rw [hstep] at h'; cases h'
    · rw [hstep] at h'
      obtain ⟨rfl, _⟩ := Step.last.inj h'
      exact absurd hgoing.2 (Nat.not_lt.mpr hle)
    · rw [hstep] at h'; cases h'
  · intro s c t hstep hgoing
    rcases step_cases s c with ⟨_, _, h', _⟩ | ⟨_, _, h', _⟩ | h'
    · rw [hstep] at h'; cases h'
    · rw [hstep] at h'; cases h'
    · rw [hstep] at h'
      rw [Step.fail.inj h'] at hgoing
      exact absurd hgoing.1 (Nat.lt_irrefl 0)

/-- A scan that comes to the end of a header or a line has stopped there, behind a byte. -/
theorem scan_final {D : Type} {eff : Nat → List Action → D → Option D} {xs : Bytes}
    {pos cs : Nat} {d : D} {r : Scan Nat D} (hcs : Going cs)
    (h : scan step eff pos cs d xs = some r) (hfinal : r.state = httpclient_parser_first_final) :
    r.stopped = true ∧ pos < r.pos := by
  have hgoing := scan_going hcs h
  have hstop : r.stopped = true := by
    by_contra hnot
    rw [if_neg hnot, hfinal] at hgoing
    exact absurd hgoing.2 (Nat.lt_irrefl _)
  refine ⟨hstop, scan_advances ?_ h ?_⟩
  · rintro rfl
    obtain rfl := Option.some.inj h
    cases hstop
  · rw [hfinal]
    decide

/-- `m_error` stays set. -/
theorem callback_error (k : Callback) (buffer : Bytes) (p : Nat) (regs : Reg → Nat)
    (d d' : Received) (h : HttpClientParser.callback k buffer p regs d = some d')
    (hd : d.error ≠ 0) : d'.error ≠ 0 := by
  cases k with
  | http_field =>
    obtain rfl := Option.some.inj h
    simp only [Received.on_response_http_field]
    split <;> exact hd
  | http_version =>
    obtain rfl := Option.some.inj h
    simp only [Received.on_response_version]
    split
    · exact hd
    · split
      · exact hd
      · exact Nat.succ_ne_zero 1000
  | _ =>
    obtain rfl := Option.some.inj h
    exact hd

/-- Errors are not taken back. -/
theorem scan_error_zero {buffer xs : Bytes} {pos cs : Nat} {regs : Reg → Nat} {d : Received}
    {r : Scan Nat ((Reg → Nat) × Received)}
    (h : scan step (perform origin HttpClientParser.callback buffer) pos cs (regs, d) xs = some r)
    (hr : r.data.2.error = 0) : d.error = 0 := by
  by_contra hd
  exact scan_keeps (K := fun x : (Reg → Nat) × Received => x.2.error ≠ 0)
    (fun _ acts _ _ heff hx => perform_keeps origin callback_error acts heff hx) xs h hd hr

/-- Where the reads that bring the first `k` bytes leave the buffer and the stream. -/
def readPast (n : Nat) : (k : Nat) → Stream → Bytes × Stream
  | 0, s => ([], s)
  | _ + 1, [] => ([], [])
  | k + 1, c :: cs =>
    if c.length ≤ k + 1 then readPast n (k + 1 - c.length) cs
    else ((c.take n).drop (k + 1), if c.length ≤ n then cs else c.drop n :: cs)

/-- The end of the header, in a buffer that holds the rest of it. -/
theorem recvHeader_ends {n : Nat} (hn : n < 2 ^ 31) (fuel : Nat) {parser : HttpResponseParser}
    {got : Bytes} {s s' : Stream} (hread : read n s = some (got, s')) {regs : Reg → Nat}
    {d : Received} {k : Nat} (hk : 0 < k)
    (hexecute : responseParser.execute parser got =
      some (⟨httpclient_parser_first_final, regs, d⟩, k)) (herror : d.error = 0) :
    recvHeader responseParser n (fuel + 1) parser [] s =
      .ok (⟨httpclient_parser_first_final, regs, d⟩, got.drop k, s') := by
  have hnoerror : responseParser.hasError ⟨httpclient_parser_first_final, regs, d⟩ = false := by
    simp [responseParser, HttpResponseParser.hasError, herror, httpclient_parser_error,
      httpclient_parser_first_final]
  have hfinished : responseParser.isFinished ⟨httpclient_parser_first_final, regs, d⟩ ≠ 0 := by
    simp [responseParser, HttpResponseParser.isFinished, httpclient_parser_error,
      httpclient_parser_first_final]
  rw [recvHeader_read fuel hn hread hexecute hk, hnoerror, if_neg (by decide), if_pos hfinished]

/-- What a read returns of a piece that reaches at least `k` bytes. -/
theorem read_reach {n k : Nat} {c : Bytes} (cs : Stream) (hk : 0 < k) (hkn : k ≤ n)
    (hkc : k ≤ c.length) :
    ∃ got s', read n (c :: cs) = some (got, s') ∧ k ≤ got.length ∧ got <+: c ∧
      (got.drop k, s') = readPast n k (c :: cs) := by
  obtain ⟨k, rfl⟩ : ∃ j, k = j + 1 := ⟨k - 1, by omega⟩
  have hc : c ≠ [] := by
    rintro rfl
    simp at hkc
  have hopen : ¬ (c = [] ∨ n = 0) := by
    rw [not_or]
    exact ⟨hc, by omega⟩
  by_cases hle : c.length ≤ n
  · refine ⟨c, cs, by rw [read, if_neg hopen, if_pos hle], hkc, List.prefix_rfl, ?_⟩
    rw [readPast]
    split
    · rename_i hshort
      rw [List.drop_of_length_le hshort, show k + 1 - c.length = 0 by omega, readPast]
    · rw [List.take_of_length_le hle]
  · refine ⟨c.take n, c.drop n :: cs, by rw [read, if_neg hopen, if_neg hle], ?_,
      List.take_prefix n c, ?_⟩
    · rw [List.length_take]
      omega
    · rw [readPast, if_neg (by omega), if_neg hle]

/-- A header that the parser accepts in one piece is accepted in pieces, if no
    piece ends inside a token. -/
theorem recvHeader_cut {n : Nat} (hn : n < 2 ^ 31) {whole : Bytes} {d : Received}
    (herror : d.error = 0) {regs' : Reg → Nat} (s : Stream) :
    ∀ {base k fuel : Nat} {parser : HttpResponseParser} {regs : Reg → Nat}, Flowing s →
      whole.drop base = s.flatten → unbroken step origin HttpClientParser.uses parser.cs s = true →
      Going parser.cs → k ≤ n → s.flatten.length < fuel →
      scan step (perform origin HttpClientParser.callback whole) base parser.cs (regs, parser.data)
        s.flatten = some ⟨httpclient_parser_first_final, base + k, (regs', d), true⟩ →
      ∃ parser', recvHeader responseParser n fuel parser [] s = .ok (parser', readPast n k s) ∧
        parser'.data = d := by
  induction s with
  | nil =>
    intro base k fuel parser regs _ _ _ _ _ _ hscan
    have hstop := congrArg (Option.map Scan.stopped) hscan
    cases hstop
  | cons c cs ih =>
    intro base k fuel parser regs hs hwhole hunbroken hcs hkn hfuel hscan
    obtain ⟨fuel, rfl⟩ : ∃ m, fuel = m + 1 := ⟨fuel - 1, by omega⟩
    obtain ⟨-, hk⟩ := scan_final hcs hscan rfl
    have hk : 0 < k := by
      dsimp only at hk
      omega
    by_cases hreach : k ≤ c.length
    · -- the header ends in this piece
      obtain ⟨got, s', hread, hlen, ⟨more, hmore⟩, hpast⟩ := read_reach cs hk hkn hreach
      obtain ⟨-, -, hflat⟩ := read_spec hread
      have hgot : unbroken step origin HttpClientParser.uses parser.cs [got] = true := by
        simp only [unbroken, ← hmore, scan_append] at hunbroken ⊢
        cases htrack : scan step (fun _ => track origin HttpClientParser.uses) 0 parser.cs
            (fun _ => false) got with
        | none =>
          rw [htrack] at hunbroken
          cases hunbroken
        | some r => simp
      obtain ⟨r, regs₁, hbuf, hrest, -⟩ :=
        scan_resume response_sound (hwhole.trans hflat) (fun _ => 0)
          (fun _ _ h => by cases h) hgot regs parser.data
      rw [← hflat, hscan] at hrest
      have hstop : r.stopped = true := by
        by_contra hnot
        rw [if_neg hnot] at hrest
        have hgoing := scan_going hcs hbuf
        rw [if_neg hnot] at hgoing
        obtain ⟨-, hlt⟩ := scan_final hgoing hrest.symm rfl
        dsimp only at hlt
        omega
      rw [if_pos hstop] at hrest
      obtain ⟨hstate, hpos, hdata⟩ : httpclient_parser_first_final = r.state ∧
          base + k = base + r.pos ∧ (regs', d) = (regs₁, r.data.2) := by
        simpa using hrest
      obtain ⟨state, pos, ⟨regs₂, d₂⟩, stopped⟩ := r
      dsimp only at hstate hpos hdata
      obtain rfl : k = pos := by omega
      subst hstate
      refine ⟨⟨httpclient_parser_first_final, regs₂, d₂⟩, ?_, (Prod.mk.inj hdata).2.symm⟩
      rw [(Prod.mk.inj hdata).2] at herror
      rw [← hpast]
      exact recvHeader_ends hn fuel hread hk (execute_scan hbuf) herror
    · -- more of the header is to come
      have hc : c ≠ [] := hs c List.mem_cons_self
      have hclen := List.length_pos_iff.mpr hc
      have hread := read_cons cs hc (show c.length ≤ n by omega)
      obtain ⟨r, regs₁, hbuf, hrest, hgo⟩ :=
        scan_resume response_sound hwhole (fun _ => 0) (fun _ _ h => by cases h) hunbroken regs
          parser.data
      rw [← List.flatten_cons, hscan] at hrest
      have hstop : r.stopped = false := by
        by_contra hnot
        rw [Bool.not_eq_false] at hnot
        rw [if_pos hnot] at hrest
        have hpos : base + k = base + r.pos := by
          have := congrArg (Option.map Scan.pos) hrest
          simpa using this
        have hle := (scan_pos _ _ _ hbuf).2.1
        omega
      obtain ⟨hpos, hunbroken'⟩ := hgo hstop
      have hgoing := scan_going hcs hbuf
      rw [hstop, if_neg (by decide)] at hgoing hrest
      rw [List.flatten_cons, List.length_append] at hfuel
      have hwhole' : whole.drop (base + c.length) = cs.flatten := by
        rw [← List.drop_drop, hwhole, List.flatten_cons, List.drop_left]
      have hzero : r.data.2.error = 0 := scan_error_zero hrest.symm herror
      obtain ⟨parser', hresult, hd⟩ := @ih (base + c.length) (k - c.length) fuel
        ⟨r.state, r.data.1, r.data.2⟩ regs₁ (fun x hx => hs x (List.mem_cons_of_mem _ hx)) hwhole'
        hunbroken' hgoing (by omega) (by omega)
        (by rw [show base + c.length + (k - c.length) = base + k by omega]; exact hrest.symm)
      have hnoerror : responseParser.hasError ⟨r.state, r.data.1, r.data.2⟩ = false := by
        have hne : r.state ≠ httpclient_parser_error := Nat.ne_of_gt hgoing.1
        simp [responseParser, HttpResponseParser.hasError, hzero, hne]
      have hmore : ¬ responseParser.isFinished ⟨r.state, r.data.1, r.data.2⟩ ≠ 0 := by
        have hne : r.state ≠ httpclient_parser_error := Nat.ne_of_gt hgoing.1
        have hne' : r.state ≠ httpclient_parser_first_final := Nat.ne_of_lt hgoing.2
        simp [responseParser, HttpResponseParser.isFinished, hne, hne']
      refine ⟨parser', ?_, hd⟩
      rw [recvHeader_read fuel hn hread (execute_scan hbuf) (by omega), hnoerror,
        if_neg (by decide), if_neg hmore, hpos, List.drop_length, hresult]
      obtain ⟨k, rfl⟩ : ∃ j, k = j + 1 := ⟨k - 1, by omega⟩
      rw [readPast, if_pos (by omega)]

/-! ## Section 2: The line in front of a chunk -/

/-- A chunk whose line ends at its line feed; what its extensions say is left open. -/
structure Chunk.Framed (c : Chunk) : Prop where
  xdigits    : ∀ d ∈ c.digits, isxdigit d = true
  digits     : c.digits ≠ []
  size       : chunkSize c.digits = c.data.length
  extensions : ∀ x ∈ c.extensions, 10 ∉ x.text

/-- The states that a line goes through behind the first digit. -/
def lineStates : List Nat := 2 :: extensionStates

/-- A line does not go on behind a line feed, and nothing else ends it. -/
def endsAtFeed (c : UInt8) (s : Step Nat Action) : Bool :=
  match s with
  | .next t _ => lineStates.contains t && c != 10
  | .last t _ => t == httpclient_parser_first_final && c == 10
  | .fail t   => t == httpclient_parser_error

/-- A line ends at its line feed only. -/
theorem step_line : ∀ c, ∀ s ∈ lineStates, endsAtFeed c (step s c) = true := by
  apply forall_byte
  decide +kernel

/-- Where the rest of a line leads to. -/
structure LineEnds (p k : Nat) (r : Scan Nat Unit) : Prop where
  stopped : r.stopped = true
  ended   : r.state = httpclient_parser_first_final ∧ r.pos = p + k ∨
              r.state = httpclient_parser_error

/-- A scan goes up to the line feed. -/
theorem scan_toFeed {xs : Bytes} (hxs : 10 ∉ xs) (rest : Bytes) :
    ∀ {p s : Nat}, s ∈ lineStates →
      ∃ r, scan step (fun _ _ (u : Unit) => some u) p s () (xs ++ 10 :: rest) = some r ∧
        LineEnds p (xs.length + 1) r := by
  -- induction on what stands before the feed; every state of a line reads on or ends at it
  induction xs with
  | nil =>
    intro p s hs
    have hend := step_line 10 s hs
    simp only [List.nil_append, scan]
    cases hstep : step s 10 with
    | next t acts => simp [hstep, endsAtFeed] at hend
    | last t acts =>
      simp only [hstep, endsAtFeed, Bool.and_eq_true, beq_iff_eq] at hend
      exact ⟨_, rfl, rfl, .inl ⟨hend.1, rfl⟩⟩
    | fail t =>
      simp only [hstep, endsAtFeed, beq_iff_eq] at hend
      exact ⟨_, rfl, rfl, .inr hend⟩
  | cons c cs ih =>
    intro p s hs
    rw [List.mem_cons, not_or] at hxs
    have hend := step_line c s hs
    simp only [List.cons_append, scan]
    cases hstep : step s c with
    | next t acts =>
      simp only [hstep, endsAtFeed, Bool.and_eq_true, List.contains_eq_mem, decide_eq_true_eq]
        at hend
      obtain ⟨r, hscan, hstop, hended⟩ := @ih hxs.2 (p + 1) t hend.1
      refine ⟨r, hscan, hstop, hended.imp_left fun h => ⟨h.1, ?_⟩⟩
      rw [h.2, List.length_cons]
      omega
    | last t acts =>
      simp only [hstep, endsAtFeed, Bool.and_eq_true, beq_iff_eq] at hend
      exact absurd hend.2.symm hxs.1
    | fail t =>
      simp only [hstep, endsAtFeed, beq_iff_eq] at hend
      exact ⟨_, rfl, rfl, .inr hend⟩

/-- A line has one line feed, at its end, and a byte that is no digit behind its size. -/
theorem lineRest_feed (xs : List Extension) (h : ∀ x ∈ xs, 10 ∉ x.text) :
    ∃ front, lineRest xs = front ++ [10] ∧ 10 ∉ front ∧
      ∀ c, (lineRest xs).head? = some c → isxdigit c = false := by
  induction xs with
  | nil => exact ⟨[13], rfl, by decide, by decide⟩
  | cons x xs ih =>
    obtain ⟨front, hfront, hno, -⟩ := ih fun y hy => h y (List.mem_cons_of_mem _ hy)
    refine ⟨59 :: x.text ++ front, ?_, ?_, ?_⟩
    · rw [lineRest, hfront]
      simp
    · have hx := h x List.mem_cons_self
      simp [hx, hno]
    · intro c hc
      rw [lineRest] at hc
      obtain rfl := Option.some.inj hc
      decide

/-- A framed line has one line feed, at its end. -/
theorem Chunk.Framed.feed {c : Chunk} (hc : c.Framed) :
    ∃ front, c.line = front ++ [10] ∧ 10 ∉ front := by
  obtain ⟨front, hrest, hno, -⟩ := lineRest_feed c.extensions hc.extensions
  refine ⟨c.digits ++ front, by rw [Chunk.line, hrest, List.append_assoc], ?_⟩
  rw [List.mem_append, not_or]
  refine ⟨fun h => ?_, hno⟩
  have hdigit := hc.xdigits 10 h
  revert hdigit
  decide

/-- A framed line is scanned to its end. -/
theorem Chunk.Framed.scan {c : Chunk} (hc : c.Framed) :
    ∃ r, scan step (fun _ _ (u : Unit) => some u) 0 httpclient_parser_start () c.line = some r ∧
      LineEnds 0 c.line.length r := by
  obtain ⟨front, hline, hno⟩ := hc.feed
  obtain ⟨x, xs, hdigits⟩ := List.exists_cons_of_ne_nil hc.digits
  have hx : isxdigit x = true := hc.xdigits x (hdigits ▸ List.mem_cons_self)
  -- the first digit is not the feed, so the scan starts inside the line
  obtain ⟨ys, hfront⟩ : ∃ ys, front = x :: ys := by
    cases front with
    | nil =>
      have hlen := congrArg List.length hline
      have hrest : 2 ≤ c.line.length := by
        obtain ⟨front', hrest', -, -⟩ := lineRest_feed c.extensions hc.extensions
        rw [Chunk.line, hrest', hdigits]
        simp
        omega
      rw [List.length_append, List.length_nil, List.length_singleton] at hlen
      omega
    | cons y ys =>
      rw [Chunk.line, hdigits] at hline
      exact ⟨ys, by rw [(List.cons.inj hline).1]⟩
  subst hfront
  rw [List.mem_cons, not_or] at hno
  obtain ⟨r, hscan, hstop, hended⟩ := @scan_toFeed ys hno.2 [] 1 2 (by decide)
  refine ⟨r, ?_, hstop, hended.imp_left fun h => ⟨h.1, ?_⟩⟩
  · rw [hline, List.cons_append, Scanner.scan, show httpclient_parser_start = 1 from rfl,
      step_start_xdigit x hx]
    exact hscan
  · rw [h.2, hline]
    simp
    omega

/-- The registers that are set behind the first digit. -/
def lineCover (s : Nat) : Reg → Bool
  | .mark        => true
  | .field_start => [5, 6, 7].contains s
  | .field_len   => [6, 7].contains s

def lineCovered (s : Nat) : Step Nat Action → Bool
  | .next t acts =>
    lineStates.contains t && (track origin HttpClientParser.uses acts (lineCover s)).any fun f =>
      [Reg.mark, .field_start, .field_len].all fun r => !lineCover t r || f r
  | .last _ acts => (track origin HttpClientParser.uses acts (lineCover s)).isSome
  | .fail _      => true

theorem line_rows :
    ∀ s ∈ lineStates, ∀ e ∈ rows.getD s [], lineCovered s (follow e.2.2) = true := by
  decide +kernel

/-- Inside of a line a scan does not stop. -/
theorem step_covered {s : Nat} (hs : s ∈ lineStates) (c : UInt8) :
    lineCovered s (step s c) = true := by
  unfold step
  cases hlookup : lookup s c.toNat with
  | none => rfl
  | some g =>
    obtain ⟨lo, hi, -, -, hmem⟩ := HttpClientParser.lookup_mem hlookup
    exact line_rows s hs (lo, hi, g) hmem

/-- A line only uses positions that were noted in it. -/
theorem Chunk.Framed.unbroken {c : Chunk} (hc : c.Framed) :
    unbroken step origin HttpClientParser.uses httpclient_parser_start [c.line] = true := by
  obtain ⟨x, xs, hdigits⟩ := List.exists_cons_of_ne_nil hc.digits
  have hx : isxdigit x = true := hc.xdigits x (hdigits ▸ List.mem_cons_self)
  have hregs : ∀ r : Reg, r ∈ [Reg.mark, .field_start, .field_len] := fun r => by
    cases r <;> decide
  -- the registers a state of the line may use were set on the way to it
  obtain ⟨r, hr⟩ := @scan_covered _ _ _ _ _ origin HttpClientParser.uses step lineCover
    (· ∈ lineStates)
    (fun {s c t acts} hs hstep => by
      have hcovered := step_covered hs c
      simp only [hstep, lineCovered, Bool.and_eq_true, Option.any_eq_true, List.contains_eq_mem,
        decide_eq_true_eq, List.all_eq_true] at hcovered
      obtain ⟨ht, f, htrack, hkept⟩ := hcovered
      refine ⟨ht, f, htrack, fun r hr => ?_⟩
      have hkept := hkept r (hregs r)
      rw [hr] at hkept
      exact hkept)
    (fun {s c t acts} hs hstep => by
      have hcovered := step_covered hs c
      simp only [hstep, lineCovered] at hcovered
      exact Option.isSome_iff_exists.mp hcovered)
    (xs ++ lineRest c.extensions) 1 2 (lineCover 2) (by decide) fun _ h => h
  -- the first digit sets the mark and nothing else
  have hmark : track origin HttpClientParser.uses [mark] (fun _ => false) = some (lineCover 2) := by
    simp only [track, mark, freshen, origin, if_true, Option.bind_some, Option.some.injEq]
    funext q
    cases q <;> rfl
  have hline : c.line = x :: (xs ++ lineRest c.extensions) := by
    rw [Chunk.line, hdigits]
    rfl
  simp only [Scanner.unbroken, hline, Scanner.scan, show httpclient_parser_start = 1 from rfl,
    step_start_xdigit x hx, hmark, Option.bind_some, hr, Bool.or_true]

/-- What the parser makes of a line by itself; `none` if it refuses it. -/
def readLine (d : Received) (line : Bytes) : Option Received :=
  match HttpResponseParser.execute ⟨httpclient_parser_start, fun _ => 0, d⟩ line true with
  | none => none
  | some (parser, _) => if parser.hasError then none else some parser.data

/-- A line that the parser accepts is parsed to its end, whatever is behind it,
    and any other is an error. -/
theorem execute_line {c : Chunk} (hc : c.Framed) {parser : HttpResponseParser}
    (hparser : parser.data.error = 0) (more : Bytes) :
    match readLine parser.data c.line with
    | none => ∃ parser' k, parser.execute (c.line ++ more) true = some (parser', k) ∧
        parser'.hasError
    | some d => ∃ regs, parser.execute (c.line ++ more) true =
        some (⟨httpclient_parser_first_final, regs, d⟩, c.line.length) ∧
        AfterLine parser.init.data d c.digits := by
  obtain ⟨ru, hunit, hstop, hended⟩ := hc.scan
  -- what follows the line does not change what the line alone gives
  obtain ⟨x, hbuf⟩ :=
    scan_total (perform_total c.line) c.line ((fun _ => 0), parser.init.data) hunit
  obtain ⟨r, regs₁, hbuf', hrest, -⟩ := scan_resume response_sound
    (show (c.line ++ more).drop 0 = c.line ++ more from rfl) (fun _ => 0) (fun _ _ h => by cases h)
    hc.unbroken (fun _ => 0) parser.init.data
  obtain rfl := Option.some.inj (hbuf'.symm.trans hbuf)
  dsimp only at hrest
  rw [hstop, if_pos rfl, Nat.zero_add] at hrest
  have hexecute : parser.execute (c.line ++ more) true =
      some (⟨ru.state, regs₁, x.2⟩, ru.pos) := by
    simp only [HttpResponseParser.execute, if_true]
    rw [show parser.init.cs = httpclient_parser_start from rfl, hrest]
    rfl
  -- readLine runs on the line alone, execute on the buffer
  have hread : readLine parser.data c.line =
      if (⟨ru.state, x.1, x.2⟩ : HttpResponseParser).hasError then none else some x.2 := by
    have halone : HttpResponseParser.execute ⟨httpclient_parser_start, fun _ => 0, parser.data⟩
        c.line true = some (⟨ru.state, x.1, x.2⟩, ru.pos) := by
      simp only [HttpResponseParser.execute, if_true]
      rw [show (HttpResponseParser.init ⟨httpclient_parser_start, fun _ => 0, parser.data⟩).data =
        parser.init.data from rfl,
        show (HttpResponseParser.init ⟨httpclient_parser_start, fun _ => 0, parser.data⟩).cs =
          httpclient_parser_start from rfl, hbuf]
      rfl
    rw [readLine, halone]
  rcases hended with ⟨hfinal, hpos⟩ | herror
  · -- the line is accepted
    rw [Nat.zero_add] at hpos
    have hline : ChunkLine c.line c.digits c.line.length := by
      obtain ⟨-, -, -, hhead⟩ := lineRest_feed c.extensions hc.extensions
      refine ⟨⟨lineRest c.extensions, rfl, hhead⟩, hc.xdigits, hc.digits, ?_⟩
      rw [lineEnd, hunit]
      dsimp only
      rw [if_pos hfinal, hpos]
    obtain ⟨regs, d', hscan, hafter, -, -⟩ := scan_line hline parser.init.data
    have hsame := congrArg (Option.map fun r => r.data.2) (hscan.symm.trans hbuf)
    obtain rfl : d' = x.2 := by simpa using hsame
    have hzero : x.2.error = 0 := hafter.error.trans hparser
    have hnoerror : ¬ (⟨ru.state, x.1, x.2⟩ : HttpResponseParser).hasError := by
      rintro (h | h)
      · exact h hzero
      · rw [hfinal] at h
        cases h
    rw [hread, if_neg hnoerror]
    exact ⟨regs₁, by rw [hexecute, hfinal, hpos], hafter⟩
  · rw [hread, if_pos (show HttpResponseParser.hasError _ from .inr herror)]
    exact ⟨_, _, hexecute, .inr herror⟩

/-! ## Section 3: The chunks -/

/-- The lines, one after the other. -/
def readLines : Received → List Chunk → Option Received
  | d, [] => some d
  | d, c :: cs => (readLine d c.line).bind fun d => readLines d cs

/-- One call of `execute` that fails. -/
theorem recvChunkLine_refused {buff_size : Nat} (fuel : Nat) {parser parser' : HttpResponseParser}
    {data buffer : Bytes} {s s' : Stream}
    (hbuffer : nextBuffer buff_size data s = some (buffer, s')) {k : Nat}
    (hexecute : parser.execute buffer true = some (parser', k)) (herror : parser'.hasError) :
    recvChunkLine buff_size (fuel + 1) true parser data s = .error .nullptr := by
  simp only [recvChunkLine, refill_first, hbuffer, hexecute, if_pos herror]

/-- What one round of the loop leaves. -/
structure RoundDone (c : Chunk) (n : Nat) (d : Received) (parser' : HttpResponseParser)
    (data : Bytes) (s : Stream) (tail : Bytes) : Prop where
  parsed  : parser'.data = d
  error   : d.error = 0
  last    : d.chunks_done = decide (c.data = [])
  room    : data.length < n
  flowing : Flowing s
  rest    : data ++ s.flatten = tail

/-- One chunk, however it comes in. -/
theorem recvChunk_cut {n : Nat} (hpos : 0 < n) (hn : n < 2 ^ 31) {parser : HttpResponseParser}
    (hparser : parser.data.error = 0) {c : Chunk} (hc : c.Framed)
    (hlen : c.data.length < 2 ^ 31 - 2) (body : Bytes) {data : Bytes} {s : Stream}
    (hdata : data.length < n) (hs : Flowing s) {buffer : Bytes} {s' : Stream}
    (hbuffer : nextBuffer n data s = some (buffer, s')) (hline : c.line <+: buffer)
    {e tail : Bytes} (he : e.length = 2)
    (hbytes : data ++ s.flatten = c.line ++ c.data ++ e ++ tail) :
    match readLine parser.data c.line with
    | none => recvChunk n parser body data s = .error .nullptr
    | some d => ∃ parser', recvChunk n parser body data s =
        .ok (parser', body ++ c.data, behind (c.data.length + 2) (buffer.drop c.line.length) s') ∧
        RoundDone c n d parser' (behind (c.data.length + 2) (buffer.drop c.line.length) s').1
          (behind (c.data.length + 2) (buffer.drop c.line.length) s').2 tail := by
  obtain ⟨hfits, hflat⟩ := nextBuffer_spec hdata hbuffer
  obtain ⟨more, rfl⟩ := hline
  have hexecute := execute_line hc hparser more
  cases hread : readLine parser.data c.line with
  | none =>
    rw [hread] at hexecute
    obtain ⟨parser', k, hexecute, herror⟩ := hexecute
    simp only [recvChunk, recvChunkLine_refused (s.flatten.length + 1) hbuffer hexecute herror]
  | some d =>
    rw [hread] at hexecute
    obtain ⟨regs, hexecute, hafter⟩ := hexecute
    have hpositive : 0 < c.line.length := by
      rw [Chunk.line, List.length_append]
      exact Nat.add_pos_left (List.length_pos_iff.mpr hc.digits) _
    rw [List.length_append] at hfits
    have hzero : d.error = 0 := hafter.error.trans hparser
    have hresult := recvChunkLine_executed hn (s.flatten.length + 1) hdata hbuffer hpositive
      (by rw [List.length_append]; omega) hexecute hzero rfl
    have hcontent : d.content_len = c.data.length := by
      rw [hafter.content_len, hc.size, Nat.min_eq_left (by omega)]
      exact wrap32_of_lt (by omega) (by omega)
    -- what is behind the line
    have hmore : more ++ s'.flatten = c.data ++ (e ++ tail) := by
      rw [hbytes, List.append_assoc, List.append_assoc, List.append_assoc] at hflat
      exact (List.append_cancel_left hflat).symm
    have hflowing := nextBuffer_flowing hs hbuffer
    have hchunk := recvChunkData_flowing hpos hn (by omega) body more hflowing
      (n := c.data.length) (by rw [hmore]; simp only [List.length_append]; omega)
    rw [hmore, List.take_left] at hchunk
    rw [List.drop_left] at hresult ⊢
    refine ⟨⟨httpclient_parser_first_final, regs, d⟩, ?_, rfl, hzero, ?_, ?_,
      flowing_behind hflowing _ _, ?_⟩
    · simp only [recvChunk, hresult, hcontent, hchunk]
    · rw [hafter.chunks_done, hcontent]
      cases hd : c.data <;> simp
    · exact Nat.lt_of_le_of_lt (length_behind_le _ _ _) (by omega)
    · rw [flatten_behind hflowing, hmore, ← List.append_assoc,
        show c.data.length + 2 = (c.data ++ e).length by rw [List.length_append, he],
        List.drop_left]

/-- The rounds of the loop, up to the chunk without data. -/
theorem recvChunks_cut {n : Nat} (hpos : 0 < n) (hn : n < 2 ^ 31) {last : Chunk}
    (hlast : last.Framed) (hempty : last.data = []) {rest : Bytes} (hrest : 2 ≤ rest.length)
    (chunks : List Chunk) :
    ∀ {fuel : Nat} {parser : HttpResponseParser} {body data : Bytes} {s : Stream},
      chunks.length < fuel → parser.data.error = 0 →
      (∀ c ∈ chunks, c.Framed ∧ c.data ≠ [] ∧ c.data.length < 2 ^ 31 - 2) →
      data.length < n → Flowing s → LinesWhole n (chunks ++ [last]) data s →
      data ++ s.flatten = chunks.flatMap Chunk.wire ++ last.line ++ rest →
      match readLines parser.data (chunks ++ [last]) with
      | none => recvChunks n fuel parser body data s = .error .nullptr
      | some d => ∃ parser' s', recvChunks n fuel parser body data s =
          .ok (parser', body ++ chunks.flatMap Chunk.data, s') ∧ parser'.data = d := by
  induction chunks with
  | nil =>
    intro fuel parser body data s hfuel hparser _ hdata hs hwhole hbytes
    obtain ⟨fuel, rfl⟩ : ∃ k, fuel = k + 1 := ⟨fuel - 1, by omega⟩
    -- the empty chunk ends the loop
    obtain ⟨buffer, s', hbuffer, hline, -⟩ := hwhole
    have hwire : data ++ s.flatten = last.line ++ last.data ++ rest.take 2 ++ rest.drop 2 := by
      rw [hbytes, hempty, List.append_nil, List.append_assoc last.line, List.take_append_drop]
      rfl
    have hround := recvChunk_cut hpos hn hparser hlast (by rw [hempty]; decide) body hdata hs
      hbuffer hline (by rw [List.length_take]; omega) hwire
    simp only [List.nil_append, readLines]
    cases hread : readLine parser.data last.line with
    | none =>
      rw [hread] at hround
      simp only [Option.bind_none, recvChunks, hround]
    | some d =>
      rw [hread] at hround
      obtain ⟨parser', hround, hdone⟩ := hround
      have hend : parser'.data.chunks_done = true := by
        rw [hdone.parsed, hdone.last, hempty]
        rfl
      refine ⟨parser', (behind (last.data.length + 2) (buffer.drop last.line.length) s').2, ?_,
        hdone.parsed⟩
      simp only [recvChunks, hround, hend, if_true, hempty, List.flatMap_nil]
  | cons c cs ih =>
    intro fuel parser body data s hfuel hparser hchunks hdata hs hwhole hbytes
    rw [List.length_cons] at hfuel
    obtain ⟨fuel, rfl⟩ : ∃ k, fuel = k + 1 := ⟨fuel - 1, by omega⟩
    obtain ⟨buffer, s', hbuffer, hline, hlines⟩ := hwhole
    obtain ⟨hc, hne, hlong⟩ := hchunks c List.mem_cons_self
    have hwire : data ++ s.flatten =
        c.line ++ c.data ++ crlf ++ (cs.flatMap Chunk.wire ++ last.line ++ rest) := by
      rw [hbytes, List.flatMap_cons, Chunk.wire]
      simp only [List.append_assoc]
    have hround := recvChunk_cut hpos hn hparser hc hlong body hdata hs hbuffer hline
      (show crlf.length = 2 from rfl) hwire
    simp only [List.cons_append, readLines]
    cases hread : readLine parser.data c.line with
    | none =>
      rw [hread] at hround
      simp only [Option.bind_none, recvChunks, hround]
    | some d =>
      rw [hread] at hround
      obtain ⟨parser', hround, hdone⟩ := hround
      have hmany : ¬ parser'.data.chunks_done = true := by
        rw [hdone.parsed, hdone.last, decide_eq_true_eq]
        exact hne
      have hlater := @ih fuel parser' (body ++ c.data) _ _ (by omega)
        (by rw [hdone.parsed]; exact hdone.error)
        (fun x hx => hchunks x (List.mem_cons_of_mem _ hx))
        hdone.room hdone.flowing hlines hdone.rest
      rw [hdone.parsed] at hlater
      simp only [Option.bind_some, recvChunks, hround, if_neg hmany]
      cases hreads : readLines d (cs ++ [last]) with
      | none =>
        rw [hreads] at hlater
        exact hlater
      | some d' =>
        rw [hreads] at hlater
        obtain ⟨parser'', s'', hrounds, hd⟩ := hlater
        exact ⟨parser'', s'', by rw [hrounds, List.flatMap_cons, List.append_assoc], hd⟩

/-! ## Section 4: The response -/

/-- The block that the parser takes for a whole header, and what it makes of it. -/
structure HeaderBlock (header : Bytes) (d : Received) : Prop where
  accepted : ∃ regs, HttpResponseParser.new.execute header false =
    some (⟨httpclient_parser_first_final, regs, d⟩, header.length)
  error    : d.error = 0

/-- What is sent behind the header: anything where the length counts, otherwise
    chunks, the last of them without data, and at least the empty line. -/
inductive SentBody (d : Received) : List Chunk → Bytes → Prop where
  | counted (bytes : Bytes) : d.chunked = false → SentBody d [] bytes
  | chunked (chunks : List Chunk) (last : Chunk) (rest : Bytes) : d.chunked = true →
      (∀ c ∈ chunks, c.Framed ∧ c.data ≠ [] ∧ c.data.length < 2 ^ 31 - 2) → last.Framed →
      last.data = [] → 2 ≤ rest.length →
      SentBody d (chunks ++ [last]) (chunks.flatMap Chunk.wire ++ last.line ++ rest)

/-- The length of the body as `recvResponse` computes with it. -/
def bodyLength (lexical_cast : Bytes → Option UInt64) (d : Received) : Int :=
  toInt64 (HttpResponseParser.getContentLength lexical_cast ⟨0, fun _ => 0, d⟩).toNat

/-- No read ends inside a token of the header or a line in front of a chunk, and
    what is left of a counted body behind the buffer is positive as an `int`. -/
structure Uncut (lexical_cast : Bytes → Option UInt64) (n : Nat) (header : Bytes) (d : Received)
    (chunks : List Chunk) (s : Stream) : Prop where
  tokens  : unbroken step origin HttpClientParser.uses httpclient_parser_start s = true
  lines   : LinesWhole n chunks (readPast n header.length s).1 (readPast n header.length s).2
  counted : d.chunked = false →
    let length := (bodyLength lexical_cast d).toNat
    length ≤ (readPast n header.length s).1.length ∨
      0 < toInt (length - (readPast n header.length s).1.length)

/-- The response that the bytes stand for. -/
def responseOf (lexical_cast : Bytes → Option UInt64) (d : Received) (chunks : List Chunk)
    (bytes : Bytes) : Except Halt HttpResponse :=
  if d.chunked then
    match readLines d chunks with
    | none => .error .nullptr
    | some d => .ok { d.response with body := chunks.flatMap Chunk.data }
  else if 0 < bodyLength lexical_cast d then
    if (bodyLength lexical_cast d).toNat ≤ bytes.length then
      .ok { d.response with body := bytes.take (bodyLength lexical_cast d).toNat }
    else .error .nullptr
  else .ok d.response

/-- What is left behind some bytes, by the reads that take them. -/
theorem readPast_flowing {n : Nat} {s : Stream} (hs : Flowing s) :
    ∀ {k : Nat}, k ≤ n → k ≤ s.flatten.length →
      (readPast n k s).1 ++ (readPast n k s).2.flatten = s.flatten.drop k ∧
        Flowing (readPast n k s).2 ∧ (k ≠ 0 → (readPast n k s).1.length < n) ∧
        (k = 0 → (readPast n k s).1 = []) := by
  induction s with
  | nil =>
    intro k _ hk
    obtain rfl : k = 0 := Nat.le_zero.mp hk
    exact ⟨rfl, hs, fun h => absurd rfl h, fun _ => rfl⟩
  | cons c cs ih =>
    have hc : c ≠ [] := hs c List.mem_cons_self
    have hcs : Flowing cs := fun x hx => hs x (List.mem_cons_of_mem _ hx)
    intro k hkn hk
    cases k with
    | zero => exact ⟨rfl, hs, fun h => absurd rfl h, fun _ => rfl⟩
    | succ k =>
      rw [List.flatten_cons, List.length_append] at hk
      rw [readPast]
      -- the header ends behind this piece or within it
      by_cases hle : c.length ≤ k + 1
      · rw [if_pos hle]
        obtain ⟨hflat, hflowing, hroom, hnone⟩ :=
          ih hcs (show k + 1 - c.length ≤ n by omega) (by omega)
        refine ⟨?_, hflowing, fun _ => ?_, fun h => absurd h (Nat.succ_ne_zero k)⟩
        · rw [hflat, List.flatten_cons, List.drop_append, List.drop_of_length_le hle,
            List.nil_append]
        · by_cases hzero : k + 1 - c.length = 0
          · rw [hnone hzero, List.length_nil]
            omega
          · exact hroom hzero
      · rw [if_neg hle]
        refine ⟨?_, ?_, fun _ => ?_, fun h => absurd h (Nat.succ_ne_zero k)⟩
        · rw [List.flatten_cons]
          -- a longer piece is cut at the size of the buffer
          by_cases hfits : c.length ≤ n
          · rw [if_pos hfits, List.take_of_length_le hfits,
              List.drop_append_of_le_length (by omega)]
          · rw [if_neg hfits, List.flatten_cons, ← List.append_assoc,
              List.drop_append_of_le_length (by omega)]
            congr 1
            rw [← List.drop_append_of_le_length (by rw [List.length_take]; omega),
              List.take_append_drop]
        · dsimp only
          split
          · exact hcs
          · rename_i hlong
            intro x hx
            rcases List.mem_cons.mp hx with rfl | hx
            · intro hnil
              have hlen := congrArg List.length hnil
              rw [List.length_drop, List.length_nil] at hlen
              omega
            · exact hcs x hx
        · simp only [List.length_drop, List.length_take]
          omega

/-- A stream without an empty read delivers all of it. -/
theorem delivered_flowing {s : Stream} (hs : Flowing s) : delivered s = s.flatten := by
  have hall : s.takeWhile (· ≠ []) = s := by
    rw [List.takeWhile_eq_self_iff]
    intro c hc
    simpa using hs c hc
  rw [delivered, hall]

/-- The length that is announced. -/
theorem bodyLength_eq (lexical_cast : Bytes → Option UInt64) (parser : HttpResponseParser) :
    toInt64 (parser.getContentLength lexical_cast).toNat = bodyLength lexical_cast parser.data := by
  unfold bodyLength HttpResponseParser.getContentLength
  dsimp only

/-- A body that is not chunked is read by its length. -/
theorem finishResponse_plain {lexical_cast : Bytes → Option UInt64} {n : Nat}
    {parser : HttpResponseParser} (hplain : parser.data.chunked = false) (data : Bytes)
    (s : Stream) {length : Int}
    (hlength : toInt64 (parser.getContentLength lexical_cast).toNat = length) :
    finishResponse lexical_cast n parser data s =
      if 0 < length then
        match recvBody length data s with
        | .error e => .error e.halt
        | .ok (body, s) => .ok ({ parser.data.response with body := body }, s)
      else .ok (parser.data.response, s) := by
  have hcounted : ¬ parser.data.chunked = true := by
    rw [hplain]
    decide
  unfold finishResponse
  rw [if_neg hcounted]
  generalize toInt64 (parser.getContentLength lexical_cast).toNat = sent at hlength ⊢
  subst hlength
  rfl

/-- The body whose length was sent. -/
theorem finishResponse_counted {lexical_cast : Bytes → Option UInt64} {n : Nat}
    {parser : HttpResponseParser} (hplain : parser.data.chunked = false) (data : Bytes)
    (s : Stream) {length : Int}
    (hlength : toInt64 (parser.getContentLength lexical_cast).toNat = length) :
    (finishResponse lexical_cast n parser data s).map Prod.fst =
      if 0 < length then
        match (recvBody length data s).map Prod.fst with
        | .error e => .error e.halt
        | .ok body => .ok { parser.data.response with body := body }
      else .ok parser.data.response := by
  rw [finishResponse_plain hplain data s hlength]
  by_cases hsome : 0 < length
  · rw [if_pos hsome, if_pos hsome]
    cases recvBody length data s with
    | error e => rfl
    | ok r => rfl
  · rw [if_neg hsome, if_neg hsome]
    rfl

/-- A chunk is at least one byte. -/
theorem length_le_framed {chunks : List Chunk} (h : ∀ c ∈ chunks, c.Framed) :
    chunks.length ≤ (chunks.flatMap Chunk.wire).length := by
  induction chunks with
  | nil => exact Nat.zero_le _
  | cons c cs ih =>
    have hdigits := List.length_pos_iff.mpr (h c List.mem_cons_self).digits
    have hcs := ih fun x hx => h x (List.mem_cons_of_mem _ hx)
    rw [List.flatMap_cons, List.length_cons, List.length_append, Chunk.wire, Chunk.line]
    simp only [List.length_append]
    omega

/-- The part behind the header, from any buffer and stream. -/
theorem finishResponse_uncut {lexical_cast : Bytes → Option UInt64} {n : Nat} (hpos : 0 < n)
    (hn : n < 2 ^ 31) {parser : HttpResponseParser} (hparser : parser.data.error = 0)
    {chunks : List Chunk} {bytes data : Bytes} {s : Stream}
    (hsent : SentBody parser.data chunks bytes) (hdata : data.length < n) (hs : Flowing s)
    (hbytes : data ++ s.flatten = bytes) (hlines : LinesWhole n chunks data s)
    (hcounted : parser.data.chunked = false →
      (bodyLength lexical_cast parser.data).toNat ≤ data.length ∨
        0 < toInt ((bodyLength lexical_cast parser.data).toNat - data.length)) :
    (finishResponse lexical_cast n parser data s).map Prod.fst =
      responseOf lexical_cast parser.data chunks bytes := by
  unfold responseOf
  cases hsent with
  | counted _ hplain =>
    rw [if_neg (by rw [hplain]; decide),
      finishResponse_counted hplain data s (bodyLength_eq lexical_cast parser)]
    by_cases hsome : 0 < bodyLength lexical_cast parser.data
    · rw [if_pos hsome, if_pos hsome]
      have hbody := recvBody_delivered (bodyLength lexical_cast parser.data).toNat data s
      rw [delivered_flowing hs, hbytes, Int.toNat_of_nonneg hsome.le] at hbody
      rw [hbody]
      -- the body is there in full, or the peer has closed before its end
      by_cases henough : (bodyLength lexical_cast parser.data).toNat ≤ bytes.length
      · rw [if_pos ⟨henough, hcounted hplain⟩, if_pos henough]
      · rw [if_neg fun h => henough h.1, if_neg henough]
        rfl
    · rw [if_neg hsome, if_neg hsome]
  | chunked parts last rest hchunked hparts hlast hempty hrest =>
    -- every chunk has a byte on the wire
    have hfuel : parts.length < data.length + s.flatten.length + 1 := by
      have hlen := congrArg List.length hbytes
      have hmany := length_le_framed fun c hc => (hparts c hc).1
      simp only [List.length_append] at hlen
      omega
    have hrounds := @recvChunks_cut n hpos hn last hlast hempty rest hrest parts _ parser [] data s
      hfuel hparser hparts hdata hs hlines hbytes
    unfold finishResponse
    rw [if_pos hchunked, if_pos hchunked]
    cases hreads : readLines parser.data (parts ++ [last]) with
    | none =>
      rw [hreads] at hrounds
      simp only [hrounds]
      rfl
    | some d =>
      rw [hreads] at hrounds
      obtain ⟨parser', s', hrounds, rfl⟩ := hrounds
      simp only [hrounds, List.nil_append, List.flatMap_append, List.flatMap_singleton, hempty,
        List.append_nil]
      rfl

/-- A header block, by one call of `execute` on all of it. -/
theorem headerBlock_of_execute {header : Bytes} {d : Received}
    (h : (HttpResponseParser.new.execute header false).map (fun r => (r.1.cs, r.1.data, r.2)) =
      some (httpclient_parser_first_final, d, header.length)) (herror : d.error = 0) :
    HeaderBlock header d := by
  obtain ⟨⟨⟨cs, regs, d'⟩, k⟩, hexecute, hr⟩ := Option.map_eq_some_iff.mp h
  obtain ⟨rfl, hrest⟩ := Prod.mk.inj hr
  obtain ⟨rfl, rfl⟩ := Prod.mk.inj hrest
  exact ⟨⟨regs, hexecute⟩, herror⟩

/-- The header of bytes of which no read cuts a token, and where the body begins. -/
theorem recvHeader_uncut {n : Nat} (hn : n < 2 ^ 31) {header bytes : Bytes} {d : Received}
    (hblock : HeaderBlock header d) (hroom : header.length ≤ n) {s : Stream} (hs : Flowing s)
    (hflat : s.flatten = header ++ bytes)
    (htokens : unbroken step origin HttpClientParser.uses httpclient_parser_start s = true) :
    ∃ parser, recvHeader responseParser n (fuelFor s) HttpResponseParser.new [] s =
      .ok (parser, readPast n header.length s) ∧ parser.data = d ∧ 0 < header.length := by
  obtain ⟨regs, hexecute⟩ := hblock.accepted
  obtain ⟨r, hscan, hr⟩ := Option.map_eq_some_iff.mp hexecute
  obtain ⟨hparser, hpos⟩ := Prod.mk.inj hr
  obtain ⟨hstate, -, hd⟩ := HttpResponseParser.mk.inj hparser
  have hscan' : scan step (perform origin HttpClientParser.callback header) 0
      httpclient_parser_start ((fun _ => 0), HttpResponseParser.new.data) header = some r := hscan
  obtain ⟨hstop, hpositive⟩ := scan_final going_start hscan' hstate
  rw [hpos] at hpositive
  -- what no read cuts is not cut by the end of the header either
  have hheader : unbroken step origin HttpClientParser.uses httpclient_parser_start [header] =
      true := by
    obtain ⟨all, hall⟩ := scan_joined s htokens 0 (fun _ => false)
    rw [hflat, scan_append] at hall
    obtain ⟨first, hfirst, -⟩ := Option.bind_eq_some_iff.mp hall
    simp only [unbroken, hfirst, Bool.or_true]
  -- the scan of the header goes the same way with the body behind it
  obtain ⟨r', regs₁, hbuf, hwhole, -⟩ :=
    scan_resume response_sound (show s.flatten.drop 0 = header ++ bytes from hflat) (fun _ => 0)
      (fun _ _ h => by cases h) hheader (fun _ => 0) HttpResponseParser.new.data
  obtain rfl : r = r' := Option.some.inj (hscan'.symm.trans hbuf)
  rw [hstop, if_pos rfl, hpos, hstate, hd, ← hflat] at hwhole
  obtain ⟨parser, hrecv, hdata⟩ :=
    @recvHeader_cut n hn s.flatten _ hblock.error _ s 0 header.length _ HttpResponseParser.new _ hs
      List.drop_zero htokens going_start hroom (Nat.lt_succ_self _) hwhole
  exact ⟨parser, hrecv, hdata, hpositive⟩

/-- The part behind the header, where the header loop leaves it. -/
theorem finishResponse_past {lexical_cast : Bytes → Option UInt64} {n : Nat} (hn : n < 2 ^ 31)
    {header bytes : Bytes} {chunks : List Chunk} {parser : HttpResponseParser}
    (herror : parser.data.error = 0) (hpositive : 0 < header.length) (hroom : header.length ≤ n)
    (hsent : SentBody parser.data chunks bytes) {s : Stream} (hs : Flowing s)
    (hflat : s.flatten = header ++ bytes)
    (huncut : Uncut lexical_cast n header parser.data chunks s) :
    (finishResponse lexical_cast n parser (readPast n header.length s).1
      (readPast n header.length s).2).map Prod.fst =
        responseOf lexical_cast parser.data chunks bytes := by
  have hlong : header.length ≤ s.flatten.length := by
    rw [hflat, List.length_append]
    exact Nat.le_add_right _ _
  obtain ⟨hbytes, hflowing, hbuffer, -⟩ := readPast_flowing hs hroom hlong
  rw [hflat, List.drop_left] at hbytes
  exact finishResponse_uncut (by omega) hn herror hsent (hbuffer (by omega)) hflowing hbytes
    huncut.lines huncut.counted

end Http

open Http Scanner HttpClientParser

/-- Every stream of the bytes that cuts no token of the header and no line in
    front of a chunk gives the response that the bytes stand for. -/
theorem response_uncut {lexical_cast : Bytes → Option UInt64} {n : Nat} (hn : n < 2 ^ 31)
    {header bytes : Bytes} {d : Received} {chunks : List Chunk} (hblock : HeaderBlock header d)
    (hroom : header.length ≤ n) (hsent : SentBody d chunks bytes) {s : Stream} (hs : Flowing s)
    (hflat : s.flatten = header ++ bytes) (huncut : Uncut lexical_cast n header d chunks s) :
    (recvResponse lexical_cast n s).map Prod.fst = responseOf lexical_cast d chunks bytes := by
  obtain ⟨parser, hrecv, rfl, hpositive⟩ :=
    recvHeader_uncut hn hblock hroom hs hflat huncut.tokens
  simp only [recvResponse, hrecv]
  exact finishResponse_past hn hblock.error hpositive hroom hsent hs hflat huncut

/-- A response that comes in a line at a time, with a chunk in two pieces. -/
theorem response_uncut_lines :
    let first : Bytes := ascii "HTTP/1.1 200 OK\r\n"
    let second : Bytes := ascii "Transfer-Encoding: chunked\r\n"
    let s : Stream := [first, second, ascii "\r\n5\r\nhe", ascii "llo\r", ascii "\n",
      ascii "0\r\n", ascii "\r\n"]
    (recvResponse (fun _ => none) 64 s).map Prod.fst =
      .ok ⟨200, 0x11, ascii "OK", ascii "hello", [(ascii "Transfer-Encoding", ascii "chunked")]⟩ := by
  intro first second s
  let hello : Chunk := ⟨ascii "5", [], ascii "hello"⟩
  let last : Chunk := ⟨ascii "0", [], []⟩
  let d : Received := ⟨⟨200, 0x11, ascii "OK", [], [(ascii "Transfer-Encoding", ascii "chunked")]⟩,
    0, -1, true, false, false⟩
  have hblock : HeaderBlock (first ++ second ++ crlf) d :=
    headerBlock_of_execute (by decide +kernel) rfl
  -- the reads end after each line and inside the chunk, never inside a token
  have hframed : ∀ c ∈ [hello, last], c.Framed := by
    intro c hc
    rcases List.mem_pair.mp hc with rfl | rfl
    · exact ⟨by decide, by decide, by decide, by decide⟩
    · exact ⟨by decide, by decide, by decide, by decide⟩
  have hsent :
      SentBody d ([hello] ++ [last]) ([hello].flatMap Chunk.wire ++ last.line ++ crlf) := by
    refine .chunked [hello] last crlf rfl ?_
      (hframed last (List.mem_cons_of_mem _ List.mem_cons_self)) rfl (by decide)
    intro c hc
    obtain rfl := List.mem_singleton.mp hc
    exact ⟨hframed hello List.mem_cons_self, by decide, by decide⟩
  have huncut : Uncut (fun _ => none) 64 (first ++ second ++ crlf) d ([hello] ++ [last]) s := by
    refine ⟨by decide +kernel, ⟨_, _, rfl, ⟨ascii "he", rfl⟩, _, _, rfl, ⟨[], rfl⟩, trivial⟩, ?_⟩
    intro hplain
    cases hplain
  have hresult := response_uncut (by decide) hblock (by decide) hsent (by decide) (by decide) huncut
  exact hresult.trans (by decide +kernel)

/-- The bytes in pieces give the same response as in the coarsest cutting the
    buffer allows, when neither cuts a token of the header or a line in front of
    a chunk. -/
theorem response_same_in_pieces {lexical_cast : Bytes → Option UInt64} {n : Nat} (hn : n < 2 ^ 31)
    {header bytes : Bytes} {d : Received} {chunks : List Chunk} (hblock : HeaderBlock header d)
    (hroom : header.length ≤ n) (hsent : SentBody d chunks bytes) {s : Stream} (hs : Flowing s)
    (hflat : s.flatten = header ++ bytes) (huncut : Uncut lexical_cast n header d chunks s)
    (hcoarse : Uncut lexical_cast n header d chunks [header ++ bytes]) :
    (recvResponse lexical_cast n s).map Prod.fst =
      (recvResponse lexical_cast n [header ++ bytes]).map Prod.fst := by
  obtain ⟨parser, hrecv, rfl, hpositive⟩ :=
    recvHeader_uncut hn hblock hroom hs hflat huncut.tokens
  have hone : Flowing [header ++ bytes] := by
    intro c hc hnil
    rw [List.mem_singleton.mp hc, List.append_eq_nil_iff] at hnil
    rw [hnil.1] at hpositive
    exact absurd hpositive (Nat.lt_irrefl 0)
  have hwhole : [header ++ bytes].flatten = header ++ bytes := by simp
  obtain ⟨parser', hrecv', hdata, -⟩ :=
    recvHeader_uncut hn hblock hroom hone hwhole hcoarse.tokens
  rw [← hdata] at hsent hcoarse
  simp only [recvResponse, hrecv, hrecv']
  rw [finishResponse_past hn (hdata ▸ hblock.error) hpositive hroom hsent hone hwhole hcoarse]
  rw [hdata] at hsent ⊢
  exact finishResponse_past hn hblock.error hpositive hroom hsent hs hflat huncut

/-- A counted body, and reads that end between two lines and in the body. -/
theorem response_same_in_pieces_counted :
    let lexical_cast : Bytes → Option UInt64 := fun val => if val = ascii "5" then some 5 else none
    let s : Stream := [ascii "HTTP/1.1 200 OK\r\n", ascii "Content-Length: 5\r\n\r\nhe", ascii "llo"]
    (recvResponse lexical_cast 4096 s).map Prod.fst =
      (recvResponse lexical_cast 4096
        [ascii "HTTP/1.1 200 OK\r\nContent-Length: 5\r\n\r\n" ++ ascii "hello"]).map Prod.fst := by
  intro lexical_cast s
  let header : Bytes := ascii "HTTP/1.1 200 OK\r\nContent-Length: 5\r\n\r\n"
  let d : Received := ⟨⟨200, 0x11, ascii "OK", [], [(ascii "Content-Length", ascii "5")]⟩,
    0, 5, false, false, false⟩
  have hblock : HeaderBlock header d := headerBlock_of_execute (by decide +kernel) rfl
  have hsent : SentBody d [] (ascii "hello") := .counted _ rfl
  have huncut : Uncut lexical_cast 4096 header d [] s :=
    ⟨by decide +kernel, trivial, fun _ => by decide +kernel⟩
  have hcoarse : Uncut lexical_cast 4096 header d [] [header ++ ascii "hello"] :=
    ⟨by decide +kernel, trivial, fun _ => by decide +kernel⟩
  exact response_same_in_pieces (by decide) hblock (by decide) hsent (by decide) (by decide) huncut
    hcoarse

/-- A read that ends between the two digits of a chunk size: the second of them
    is taken for the whole line, and the chunk for the last one. -/
theorem response_cut_in_size :
    let header : Bytes := ascii "HTTP/1.1 200 OK\r\nTransfer-Encoding: chunked\r\n\r\n"
    let s : Stream := [header, ascii "1", ascii "0\r\n0123456789abcdef\r\n0\r\n\r\n"]
    let headers : Headers := [(ascii "Transfer-Encoding", ascii "chunked")]
    (recvResponse (fun _ => none) 64 s).map Prod.fst = .ok ⟨200, 0x11, ascii "OK", [], headers⟩ ∧
      (recvResponse (fun _ => none) 64 [s.flatten]).map Prod.fst =
        .ok ⟨200, 0x11, ascii "OK", ascii "0123456789abcdef", headers⟩ := by
  decide +kernel

end MNSER
