import Mnser.Http.Chunk

/-! # The header line for chunks

    `recvResponse` reads a body in chunks when a line of the header has set the
    flag `chunked` of the parser.  The flag hangs on the states alone and not on
    the positions, so the line sets it wherever the reads end. -/

namespace MNSER

namespace Http

open Scanner HttpClientParser

/-! ## Section 1: The line -/

/-- `Transfer-Encoding: chunked` in small or large letters; nothing stands
    between the value and the line end. -/
def ChunkedLine (line : Bytes) : Prop :=
  ∃ name blanks value eol, line = name ++ 58 :: (blanks ++ (value ++ eol)) ∧
    name.map tolower = ascii "transfer-encoding" ∧ (∀ b ∈ blanks, b = 32) ∧
    value.map tolower = ascii "chunked" ∧ (eol = ascii "\r\n" ∨ eol = ascii "\n")

/-- A line of the header, behind the line feed of another one. -/
def Announces (header : Bytes) : Prop :=
  ∃ front line behind, header = front ++ 10 :: (line ++ behind) ∧ ChunkedLine line

/-! ## Section 2: The flag -/

/-- A step of the parser, as far as the flag goes. -/
def flagStep (x : Nat × Bool) (c : UInt8) : Option (Nat × Bool) :=
  match step x.1 c with
  | .next t acts => some (t, x.2 || acts.contains trans_chunked)
  | .last t acts => some (t, x.2 || acts.contains trans_chunked)
  | .fail _      => none

def flagRun (x : Nat × Bool) (bytes : Bytes) : Option (Nat × Bool) := bytes.foldlM flagStep x

theorem flagRun_cons (x : Nat × Bool) (c : UInt8) (cs : Bytes) :
    flagRun x (c :: cs) = (flagStep x c).bind fun y => flagRun y cs := rfl

/-- A text is read part by part. -/
theorem flagRun_append (x : Nat × Bool) (xs ys : Bytes) :
    flagRun x (xs ++ ys) = (flagRun x xs).bind fun y => flagRun y ys :=
  List.foldlM_append

/-- The flag is not taken back. -/
theorem flagStep_set {x y : Nat × Bool} {c : UInt8} (h : flagStep x c = some y)
    (hx : x.2 = true) : y.2 = true := by
  unfold flagStep at h
  split at h
  · rw [← Option.some.inj h, hx, Bool.true_or]
  · rw [← Option.some.inj h, hx, Bool.true_or]
  · cases h

/-- Once it is set it stays set. -/
theorem flagRun_set {bytes : Bytes} : ∀ {x y : Nat × Bool}, flagRun x bytes = some y →
    x.2 = true → y.2 = true := by
  induction bytes with
  | nil =>
    intro x y h hx
    rw [← Option.some.inj h]
    exact hx
  | cons c cs ih =>
    intro x y h hx
    obtain ⟨z, hz, hrest⟩ := Option.bind_eq_some_iff.mp h
    exact ih hrest (flagStep_set hz hx)

/-- A callback keeps the flag of the parser, and that of `chunked` sets it. -/
theorem callback_chunked (k : Callback) (buffer : Bytes) (p : Nat) (regs : Reg → Nat)
    (d d' : Received) (h : HttpClientParser.callback k buffer p regs d = some d')
    (hd : d.chunked = true ∨ k = .chunked) : d'.chunked = true := by
  cases k with
  | chunked =>
    obtain rfl := Option.some.inj h
    rfl
  | chunk_size =>
    obtain rfl := Option.some.inj h
    rfl
  | http_field =>
    obtain rfl := Option.some.inj h
    simp only [Received.on_response_http_field]
    split <;> exact hd.resolve_right Callback.noConfusion
  | http_version =>
    obtain rfl := Option.some.inj h
    simp only [Received.on_response_version]
    split
    · exact hd.resolve_right Callback.noConfusion
    · split <;> exact hd.resolve_right Callback.noConfusion
  | _ =>
    obtain rfl := Option.some.inj h
    exact hd.resolve_right Callback.noConfusion

/-- The actions of a transition keep the flag, and `trans_chunked` sets it. -/
theorem perform_chunked {buffer : Bytes} {p : Nat} (acts : List Action) :
    ∀ {x x' : (Reg → Nat) × Received},
      perform origin HttpClientParser.callback buffer p acts x = some x' →
      x.2.chunked = true ∨ trans_chunked ∈ acts → x'.2.chunked = true := by
  induction acts with
  | nil =>
    intro x x' h hx
    obtain rfl := Option.some.inj h
    exact hx.resolve_right List.not_mem_nil
  | cons a acts ih =>
    intro x x' h hx
    rw [List.mem_cons] at hx
    cases a with
    | mark r =>
      exact ih (x := (move origin p (.mark r) x.1, x.2)) h
        (hx.imp_right fun hmem => hmem.resolve_left fun heq => by cases heq)
    | measure l =>
      exact ih (x := (move origin p (.measure l) x.1, x.2)) h
        (hx.imp_right fun hmem => hmem.resolve_left fun heq => by cases heq)
    | call k =>
      obtain ⟨d', hd', hrest⟩ := Option.bind_eq_some_iff.mp h
      rcases hx with hset | hhere | hlater
      · exact ih hrest (.inl (callback_chunked k _ _ _ _ _ hd' (.inl hset)))
      · exact ih hrest (.inl (callback_chunked k _ _ _ _ _ hd' (.inr (Act.call.inj hhere).symm)))
      · exact ih hrest (.inr hlater)

/-- What a scan has parsed sets the flag as it should. -/
theorem scan_flag {buffer xs : Bytes} : ∀ {pos s : Nat} {x : (Reg → Nat) × Received}
    {r : Scan Nat ((Reg → Nat) × Received)} {b : Bool},
    scan step (perform origin HttpClientParser.callback buffer) pos s x xs = some r →
    r.state ≠ httpclient_parser_error → (b = true → x.2.chunked = true) →
    ∃ b', flagRun (s, b) (xs.take (r.pos - pos)) = some (r.state, b') ∧
      (b' = true → r.data.2.chunked = true) := by
  induction xs with
  | nil =>
    intro pos s x r b h _ hb
    obtain rfl := Option.some.inj h
    exact ⟨b, by rw [List.take_nil]; rfl, hb⟩
  | cons c cs ih =>
    intro pos s x r b h hne hb
    -- trans_chunked is the only callback that sets the flag, and none clears it
    have hperformed : ∀ {acts x'}, perform origin HttpClientParser.callback buffer pos acts x =
        some x' → (b || acts.contains trans_chunked) = true → x'.2.chunked = true := by
      intro acts x' heff hflag
      rw [Bool.or_eq_true, List.contains_iff_mem] at hflag
      exact perform_chunked acts heff (hflag.imp_left hb)
    simp only [scan] at h
    cases hstep : step s c with
    | next t acts =>
      rw [hstep] at h
      obtain ⟨x', heff, hrest⟩ := Option.bind_eq_some_iff.mp h
      have hle := (scan_pos _ _ _ hrest).1
      obtain ⟨b', hrun, hb'⟩ := ih hrest hne (hperformed heff)
      refine ⟨b', ?_, hb'⟩
      rw [show r.pos - pos = r.pos - (pos + 1) + 1 by omega, List.take_succ_cons, flagRun_cons]
      simp only [flagStep, hstep, Option.bind_some]
      exact hrun
    | last t acts =>
      rw [hstep] at h
      obtain ⟨x', heff, rfl⟩ := Option.map_eq_some_iff.mp h
      refine ⟨b || acts.contains trans_chunked, ?_, hperformed heff⟩
      rw [show pos + 1 - pos = 0 + 1 by omega, List.take_succ_cons, List.take_zero, flagRun_cons]
      simp only [flagStep, hstep, Option.bind_some]
      rfl
    | fail t =>
      rw [hstep] at h
      obtain rfl := Option.some.inj h
      rcases step_cases s c with ⟨_, _, h', _⟩ | ⟨_, _, h', _⟩ | h'
      · rw [hstep] at h'; cases h'
      · rw [hstep] at h'; cases h'
      · rw [hstep] at h'
        exact absurd (Step.fail.inj h') hne

/-- The header loop has parsed the header, in whatever pieces. -/
theorem recvHeader_flag {n : Nat} (fuel : Nat) :
    ∀ {p p' : HttpResponseParser} {data data' : Bytes} {s s' : Stream} {b : Bool},
      (b = true → p.data.chunked = true) →
      recvHeader responseParser n fuel p data s = .ok (p', data', s') →
      ∃ header b', data ++ s.flatten = header ++ (data' ++ s'.flatten) ∧
        flagRun (p.cs, b) header = some (p'.cs, b') ∧ (b' = true → p'.data.chunked = true) := by
  induction fuel with
  | zero =>
    intro p p' data data' s s' b _ h
    cases h
  | succ fuel ih =>
    intro p p' data data' s s' b hb h
    simp only [recvHeader] at h
    split at h
    · cases h
    · rename_i got s₁ hread
      obtain ⟨-, -, hflat⟩ := read_spec hread
      split at h
      · cases h
      · rename_i p₁ nparse hexecute
        split at h
        · cases h
        · rename_i haccepted
          obtain ⟨r, hscan, hr⟩ := Option.map_eq_some_iff.mp hexecute
          obtain ⟨rfl, rfl⟩ := Prod.mk.inj hr
          have hne : r.state ≠ httpclient_parser_error := fun heq =>
            haccepted (decide_eq_true (Or.inr heq))
          obtain ⟨b₁, hparsed, hb₁⟩ := scan_flag hscan hne hb
          have hrun : flagRun (p.cs, b) ((data ++ got).take r.pos) = some (r.state, b₁) := hparsed
          -- what execute has taken is the header so far, the rest is still to be read
          have hsplit : data ++ s.flatten =
              (data ++ got).take r.pos ++ ((data ++ got).drop r.pos ++ s₁.flatten) := by
            rw [hflat, ← List.append_assoc, ← List.append_assoc, List.take_append_drop]
          split at h
          · cases h
          · split at h
            · obtain ⟨rfl, hrest⟩ := Prod.mk.inj (Except.ok.inj h)
              obtain ⟨rfl, rfl⟩ := Prod.mk.inj hrest
              exact ⟨_, b₁, hsplit, hrun, hb₁⟩
            · obtain ⟨header, b', hflat', hrun', hb'⟩ := ih hb₁ h
              refine ⟨(data ++ got).take r.pos ++ header, b', ?_, ?_, hb'⟩
              · rw [hsplit, hflat', List.append_assoc]
              · rw [flagRun_append, hrun]
                exact hrun'

/-! ## Section 3: The way through the line -/

def toupper (c : UInt8) : UInt8 := if 97 ≤ c ∧ c ≤ 122 then c - 32 else c

/-- A letter is written in two ways. -/
theorem tolower_cases : ∀ x c : UInt8, tolower x = c → x = c ∨ x = toupper c := by
  rintro x _ rfl
  revert x
  apply forall_byte
  decide +kernel

/-- From `s` a text leads to `t`, in small letters and in large ones. -/
def leads : Nat → Bytes → Nat → Bool
  | s, [], t => s == t
  | s, c :: cs, t =>
    match step s c, step s (toupper c) with
    | .next u _, .next v _ => u == v && leads u cs t
    | _, _                 => false

/-- The states that follow the letters of a name, in any case. -/
theorem flagRun_leads {pattern : Bytes} : ∀ {s t : Nat} {bytes : Bytes} (b : Bool),
    leads s pattern t = true → bytes.map tolower = pattern →
    ∃ b', flagRun (s, b) bytes = some (t, b') := by
  induction pattern with
  | nil =>
    intro s t bytes b hleads hbytes
    obtain rfl := List.map_eq_nil_iff.mp hbytes
    exact ⟨b, by rw [beq_iff_eq.mp hleads]; rfl⟩
  | cons c cs ih =>
    intro s t bytes b hleads hbytes
    obtain ⟨x, xs, rfl, hx, hxs⟩ := List.map_eq_cons_iff.mp hbytes
    have hstep : ∃ u acts, step s x = .next u acts ∧ leads u cs t = true := by
      simp only [leads] at hleads
      split at hleads
      · rename_i u acts v acts' hsmall hlarge
        rw [Bool.and_eq_true, beq_iff_eq] at hleads
        obtain ⟨rfl, hleads⟩ := hleads
        rcases tolower_cases x c hx with rfl | rfl
        · exact ⟨u, acts, hsmall, hleads⟩
        · exact ⟨u, acts', hlarge, hleads⟩
      · cases hleads
    obtain ⟨u, acts, hstep, hleads'⟩ := hstep
    obtain ⟨b', hrun⟩ := ih (b || acts.contains trans_chunked) hleads' hxs
    refine ⟨b', ?_⟩
    rw [flagRun_cons]
    simp only [flagStep, hstep, Option.bind_some]
    exact hrun

/-- Behind a line feed a `t` is refused, or it begins the name. -/
theorem feed_rows : ∀ s < rows.length, ∀ b, ∀ c ∈ [116, 84],
    (flagRun (s, b) [10, c]).all fun y => y.1 == 44 := by
  decide +kernel

/-- A line feed ends the line, and a `t` begins the name of the header. -/
theorem flagRun_feed {x y : Nat × Bool} {c : UInt8} (hc : tolower c = 116)
    (h : flagRun x [10, c] = some y) : y.1 = 44 := by
  have hmem : c ∈ ([116, 84] : Bytes) := by
    rcases tolower_cases c 116 hc with rfl | rfl <;> decide
  by_cases hs : x.1 < rows.length
  · have hfeed := feed_rows x.1 hs x.2 c hmem
    rw [h] at hfeed
    exact beq_iff_eq.mp hfeed
  · -- there is no such state
    have hfail : step x.1 10 = .fail httpclient_parser_error := by
      unfold step lookup
      rw [List.getD_eq_default _ _ (Nat.not_lt.mp hs)]
      rfl
    simp only [flagRun_cons, flagStep, hfail] at h
    cases h

/-- Blanks in front of the value are skipped. -/
theorem flagRun_blanks {blanks : Bytes} (h : ∀ b ∈ blanks, b = 32) :
    ∀ b : Bool, flagRun (61, b) blanks = some (61, b) := by
  induction blanks with
  | nil => exact fun b => rfl
  | cons c cs ih =>
    intro b
    obtain rfl := h c List.mem_cons_self
    have hstep : flagStep (61, b) 32 = some (61, b) := by
      cases b <;> decide
    rw [flagRun_cons, hstep]
    exact ih (fun x hx => h x (List.mem_cons_of_mem _ hx)) b

/-- The line ends right behind the value, and the flag is set. -/
theorem flagRun_eol {eol : Bytes} (h : eol = ascii "\r\n" ∨ eol = ascii "\n") (b : Bool) :
    flagRun (87, b) eol = some (20, true) := by
  rcases h with rfl | rfl <;> cases b <;> decide

/-- The flag is set behind a header with the line. -/
theorem announces_flag {header : Bytes} (h : Announces header) {x y : Nat × Bool}
    (hrun : flagRun x header = some y) : y.2 = true := by
  obtain ⟨front, _, behind, rfl, name, blanks, value, eol, rfl, hname, hblanks, hvalue, heol⟩ := h
  obtain ⟨c, cs, rfl, hc, hcs⟩ := List.map_eq_cons_iff.mp
    (show name.map tolower = 116 :: ascii "ransfer-encoding" from hname)
  rw [show front ++ 10 :: ((c :: cs ++ 58 :: (blanks ++ (value ++ eol))) ++ behind) =
      front ++ ([10, c] ++ (cs ++ ([58] ++ (blanks ++ (value ++ (eol ++ behind)))))) by simp] at hrun
  rw [flagRun_append] at hrun
  obtain ⟨x₁, -, hrun⟩ := Option.bind_eq_some_iff.mp hrun
  rw [flagRun_append] at hrun
  obtain ⟨⟨s, b₂⟩, hfeed, hrun⟩ := Option.bind_eq_some_iff.mp hrun
  obtain rfl : s = 44 := flagRun_feed hc hfeed
  obtain ⟨b₃, hrest⟩ := @flagRun_leads (ascii "ransfer-encoding") 44 60 cs b₂ (by decide) hcs
  obtain ⟨b₄, hcolon⟩ := @flagRun_leads (ascii ":") 60 61 (ascii ":") b₃ (by decide) (by decide)
  obtain ⟨b₅, hchunked⟩ := @flagRun_leads (ascii "chunked") 61 87 value b₄ (by decide) hvalue
  rw [flagRun_append, hrest, Option.bind_some, flagRun_append, show [58] = ascii ":" from rfl,
    hcolon, Option.bind_some, flagRun_append, flagRun_blanks hblanks, Option.bind_some,
    flagRun_append, hchunked, Option.bind_some, flagRun_append, flagRun_eol heol,
    Option.bind_some] at hrun
  exact flagRun_set hrun rfl

/-- A header that announces chunks makes `recvResponse` read chunks. -/
theorem recvHeader_announced {n fuel : Nat} {s s' : Stream} {parser : HttpResponseParser}
    {data header : Bytes}
    (hheader : recvHeader responseParser n fuel HttpResponseParser.new [] s =
      .ok (parser, data, s'))
    (hflat : s.flatten = header ++ (data ++ s'.flatten)) (hannounced : Announces header) :
    parser.data.chunked = true := by
  obtain ⟨header', b, hflat', hrun, hflag⟩ :=
    recvHeader_flag fuel (b := false) (fun h => by cases h) hheader
  rw [List.nil_append, hflat] at hflat'
  rw [← List.append_cancel_right hflat'] at hrun
  exact hflag (announces_flag hannounced hrun)

end Http

end MNSER
