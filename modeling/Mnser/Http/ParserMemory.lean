import Mnser.Framework.Registers
import Mnser.Http.Session

/-! # What the request parser finds in its memory

    `http_parser_init` leaves two members as they were: `query_start`, which is
    always written before it is read, and `uri_relaxed`, which is never written.
    Executions that differ in nothing else are fed the same blocks. -/

namespace MNSER

namespace Http

open Scanner HttpParser

/-! ## Section 1: What is seen of a parser -/

/-- After a block: `hasError`, `isFinished`, what `execute` returned, the request. -/
structure ParserSeen where
  hasError   : Bool
  isFinished : Int
  executed   : Nat
  request    : HttpRequest

namespace HttpRequestParser

def seen (parser : HttpRequestParser) (executed : Nat) : ParserSeen :=
  ⟨parser.hasError, parser.isFinished, executed, parser.data.1⟩

/-- What is seen of the blocks, one after the other; `none` where `execute` throws. -/
def observe (env : Env) (parser : HttpRequestParser) : List Bytes → List (Option ParserSeen)
  | [] => []
  | block :: blocks =>
    match parser.execute env block with
    | none => [none]
    | some (parser, n) => some (parser.seen n) :: observe env parser blocks

end HttpRequestParser

/-- `uri_relaxed` decides: a delimiter of `more_delims` in a state that asks for it. -/
def asks (s : Nat) (c : UInt8) : Bool := relaxedStates.contains s && [94, 123, 125].contains c.toNat

/-- A scan with `uri_relaxed` unset gets to a byte for which it decides. -/
def meets {D : Type} (eff : Nat → List Action → D → Option D) : Nat → Nat → D → Bytes → Bool
  | _, _, _, [] => false
  | pos, s, d, c :: cs =>
    asks s c ||
      match step false s c with
      | .next t acts => (eff pos acts d).any fun d => meets eff (pos + 1) t d cs
      | .last _ _    => false
      | .fail _      => false

namespace HttpRequestParser

/-- A parser with the two members set to 0. -/
def strict : Env := ⟨false, 0, fun _ => none⟩

/-- With `uri_relaxed` unset the parser gets to a byte for which it decides. -/
def meetsDelim (parser : HttpRequestParser) : List Bytes → Bool
  | [] => false
  | block :: blocks =>
    meets (perform origin callback block) 0 parser.cs (forget parser.regs, parser.data) block ||
      match parser.execute strict block with
      | none             => false
      | some (parser, _) => parser.meetsDelim blocks

/-! ## Section 2: The register of the query -/

/-- All registers but `query_start` are initialised. -/
def initialised : Reg → Bool
  | .query_start => false
  | _            => true

/-- The callbacks read no other register than the table says. -/
theorem callback_reads : Reads uses callback := by
  intro k buffer pos regs₁ regs₂ d h
  cases k with
  | http_field =>
    simp only [callback, h .field_start (by decide), h .field_len (by decide), h .mark (by decide)]
  | request_method => simp only [callback, h .mark (by decide)]
  | fragment => simp only [callback, h .mark (by decide)]
  | query_string => simp only [callback, h .query_start (by decide)]
  | http_version => simp only [callback, h .mark (by decide)]
  | request_path => simp only [callback, h .mark (by decide)]
  | request_uri => rfl
  | done => rfl
  | xml => rfl
  | json => rfl

/-- Two parsers that differ at most in a `query_start` that is not set yet. -/
structure Same (p₁ p₂ : HttpRequestParser) : Prop where
  cs   : p₁.cs = p₂.cs
  data : p₁.data = p₂.data
  regs : ∀ r, initialised r = true ∨ cover p₁.cs r = true → p₁.regs r = p₂.regs r

/-- A parser that has ended reads nothing more. -/
theorem cover_ended {cs : Nat} (h : Ended cs) : cover cs .query_start = false := by
  show [30, 31, 32].contains cs = false
  unfold Ended http_parser_error http_parser_first_final at h
  rw [List.contains_eq_mem, decide_eq_false_iff_not]
  intro hmem
  simp only [List.mem_cons, List.not_mem_nil, or_false] at hmem
  omega

/-- Where a scan ends, from whatever state. -/
theorem scan_ended (u : Bool) {D : Type} {eff : Nat → List Action → D → Option D} {pos cs : Nat}
    {d : D} {xs : Bytes} {r : Scan Nat D} (h : scan (step u) eff pos cs d xs = some r)
    (hstop : r.stopped = true) : Ended r.state := by
  have hstate : if r.stopped = true then Ended r.state else (fun _ : Nat => True) r.state := by
    refine scan_state (fun _ _ _ _ _ => trivial) ?_ ?_ xs trivial h
    · intro s c t acts hstep
      rcases step_cases u s c with ⟨_, _, h', _⟩ | ⟨t', acts', h', hle, _⟩ | h'
      · rw [hstep] at h'
        cases h'
      · rw [hstep] at h'
        obtain ⟨rfl, _⟩ := Step.last.inj h'
        exact Or.inr hle
      · rw [hstep] at h'
        cases h'
    · intro s c t hstep
      rcases step_cases u s c with ⟨_, _, h', _⟩ | ⟨_, _, h', _⟩ | h'
      · rw [hstep] at h'
        cases h'
      · rw [hstep] at h'
        cases h'
      · rw [hstep] at h'
        exact Or.inl (Step.fail.inj h')
  rwa [if_pos hstop] at hstate

/-- Two parsers that are the same up to what they forget. -/
theorem forget_alike {p₁ p₂ : HttpRequestParser} (h : Same p₁ p₂) :
    Alike initialised (cover p₁.cs) (forget p₁.regs) (forget p₂.regs) := by
  have hforget : ∀ r, initialised r = true ∨ cover p₁.cs r = true →
      forget p₁.regs r = forget p₂.regs r := by
    intro r hr
    cases r with
    | query_start => exact h.regs .query_start hr
    | mark => rfl
    | field_start => rfl
    | field_len => rfl
  exact ⟨fun r hr => hforget r (Or.inl hr), fun r hr => hforget r (Or.inr hr)⟩

/-- A block does the same with both. -/
theorem execute_same {u : Bool} (q₁ q₂ : Nat) (l₁ l₂ : Bytes → Option UInt64)
    {p₁ p₂ : HttpRequestParser} (h : Same p₁ p₂) (block : Bytes) :
    (p₁.execute ⟨u, q₁, l₁⟩ block = none ∧ p₂.execute ⟨u, q₂, l₂⟩ block = none) ∨
    ∃ n₁ n₂ n, p₁.execute ⟨u, q₁, l₁⟩ block = some (n₁, n) ∧
      p₂.execute ⟨u, q₂, l₂⟩ block = some (n₂, n) ∧ Same n₁ n₂ := by
  by_cases hblock : block = []
  · refine Or.inr ⟨p₁, p₂, 0, ?_, ?_, h⟩
    · rw [execute, if_pos hblock]
    · rw [execute, if_pos hblock]
  · have hknown : ∀ l r, origin l = some r → initialised l = true → initialised r = true := by
      intro l r horigin _
      cases l <;> cases horigin
      rfl
    simp only [execute, if_neg hblock, ← h.cs, ← h.data]
    rcases scan_alike (request_covers u) callback_reads hknown block p₁.data (forget_alike h) with
      ⟨h₁, h₂⟩ | ⟨t, n, regs₁, regs₂, d, stopped, h₁, h₂, hinit, hgoes⟩
    · rw [h₁, h₂]
      exact Or.inl ⟨rfl, rfl⟩
    · rw [h₁, h₂]
      refine Or.inr ⟨_, _, n, rfl, rfl, rfl, rfl, fun r hr => ?_⟩
      rcases hr with hr | hr
      · exact hinit r hr
      · cases stopped with
        | false => exact (hgoes rfl).fresh r hr
        | true =>
          -- where a scan ends no query is open
          have hend : Ended t := scan_ended u h₁ rfl
          cases r with
          | query_start =>
            rw [cover_ended hend] at hr
            cases hr
          | mark => exact hinit .mark rfl
          | field_start => exact hinit .field_start rfl
          | field_len => exact hinit .field_len rfl

/-- They stay the same over all blocks. -/
theorem observe_same {u : Bool} {q₁ q₂ : Nat} {l₁ l₂ : Bytes → Option UInt64}
    (blocks : List Bytes) :
    ∀ {p₁ p₂ : HttpRequestParser}, Same p₁ p₂ →
      observe ⟨u, q₁, l₁⟩ p₁ blocks = observe ⟨u, q₂, l₂⟩ p₂ blocks := by
  induction blocks with
  | nil =>
    intro p₁ p₂ _
    rfl
  | cons block blocks ih =>
    intro p₁ p₂ h
    unfold observe
    rcases execute_same q₁ q₂ l₁ l₂ h block with ⟨h₁, h₂⟩ | ⟨n₁, n₂, n, h₁, h₂, hn⟩
    · rw [h₁, h₂]
    · rw [h₁, h₂]
      have hseen : n₁.seen n = n₂.seen n := by
        have herror : n₁.hasError ↔ n₂.hasError := by
          unfold hasError
          rw [hn.cs, hn.data]
        simp only [seen, isFinished, herror, hn.cs, hn.data]
      simp only [hseen, ih hn]

/-! ## Section 3: The delimiters -/

/-- Where no byte is special the two scanners take one step. -/
theorem step_asks {s : Nat} {c : UInt8} (h : asks s c = false) : step true s c = step false s c := by
  unfold step goto
  rw [Bool.true_and, Bool.false_and, show (relaxedStates.contains s && [94, 123, 125].contains c.toNat)
    = false from h]
  rfl

/-- Where the scanner goes for `!`. -/
def goesOn (s : Nat) : Bool :=
  match lookup s 33 with
  | none         => false
  | some (.st _) => true
  | some (.tr k) =>
    match tr k with
    | .fail _ => false
    | _       => true

theorem relaxed_rows :
    ∀ s ∈ relaxedStates, (∀ c ∈ [94, 123, 125], lookup s c = none) ∧ goesOn s = true := by
  decide

/-- Refused when `uri_relaxed` is unset, and otherwise not. -/
theorem asks_step {s : Nat} {c : UInt8} (h : asks s c = true) :
    step false s c = .fail http_parser_error ∧ ∀ t, step true s c ≠ .fail t := by
  obtain ⟨hs, hc⟩ := Bool.and_eq_true_iff.mp h
  rw [List.contains_eq_mem, decide_eq_true_iff] at hs hc
  obtain ⟨hnone, hgoes⟩ := relaxed_rows s hs
  constructor
  · unfold step goto
    rw [Bool.false_and, Bool.false_and, if_neg (by decide), hnone _ hc]
  · intro t ht
    unfold step goto at ht
    rw [Bool.true_and, show (relaxedStates.contains s && [94, 123, 125].contains c.toNat) = true
      from h, if_pos rfl] at ht
    unfold goesOn at hgoes
    cases hlook : lookup s 33 with
    | none =>
      rw [hlook] at hgoes
      cases hgoes
    | some g =>
      rw [hlook] at ht hgoes
      cases g with
      | st n => cases ht
      | tr k =>
        simp only at ht hgoes
        rw [ht] at hgoes
        cases hgoes

section

variable {D : Type} {eff : Nat → List Action → D → Option D}

/-- A scan that does not get to such a byte does not depend on `uri_relaxed`. -/
theorem scan_of_not_meets (xs : Bytes) :
    ∀ {pos s : Nat} {d : D}, meets eff pos s d xs = false →
      scan (step true) eff pos s d xs = scan (step false) eff pos s d xs := by
  induction xs with
  | nil =>
    intro pos s d _
    rfl
  | cons c cs ih =>
    intro pos s d h
    obtain ⟨hasks, hrest⟩ := Bool.or_eq_false_iff.mp h
    simp only [scan, step_asks hasks]
    cases hstep : step false s c with
    | next t acts =>
      rw [hstep] at hrest
      change (eff pos acts d).any _ = false at hrest
      show (eff pos acts d).bind _ = (eff pos acts d).bind _
      cases heff : eff pos acts d with
      | none => rfl
      | some d' =>
        rw [heff] at hrest
        exact ih hrest
    | last t acts => rfl
    | fail t => rfl

/-- One that gets there ends there if it is unset, and behind it if it is set. -/
theorem scan_of_meets (xs : Bytes) :
    ∀ {pos s : Nat} {d : D}, meets eff pos s d xs = true →
      ∃ r, scan (step false) eff pos s d xs = some r ∧
        ∀ r', scan (step true) eff pos s d xs = some r' → r.pos < r'.pos := by
  induction xs with
  | nil =>
    intro pos s d h
    cases h
  | cons c cs ih =>
    intro pos s d h
    cases hasks : asks s c with
    | true =>
      obtain ⟨hstrict, hrelaxed⟩ := asks_step hasks
      refine ⟨⟨http_parser_error, pos, d, true⟩, by simp only [scan, hstrict], fun r' hr' => ?_⟩
      refine Nat.lt_of_le_of_ne (scan_pos _ _ _ hr').1 fun hpos => ?_
      exact hrelaxed _ (scan_stuck hr' hpos.symm)
    | false =>
      rw [meets, hasks, Bool.false_or] at h
      simp only [scan, step_asks hasks]
      cases hstep : step false s c with
      | next t acts =>
        rw [hstep] at h
        change (eff pos acts d).any _ = true at h
        cases heff : eff pos acts d with
        | none =>
          rw [heff] at h
          cases h
        | some d' =>
          rw [heff] at h
          simp only [heff, Option.bind_some]
          exact ih h
      | last t acts =>
        rw [hstep] at h
        cases h
      | fail t =>
        rw [hstep] at h
        cases h

end

/-! ## Section 4: Runs -/

/-- A block that meets no special byte is read in one way. -/
theorem execute_of_not_meets {p : HttpRequestParser} {block : Bytes} {q : Nat}
    {l : Bytes → Option UInt64}
    (h : meets (perform origin callback block) 0 p.cs (forget p.regs, p.data) block = false) :
    p.execute ⟨true, q, l⟩ block = p.execute ⟨false, q, l⟩ block := by
  unfold execute
  rw [scan_of_not_meets block h]

/-- At a special byte the relaxed parser goes on, and the strict one stops. -/
theorem execute_of_meets {p : HttpRequestParser} {block : Bytes} {q : Nat}
    {l : Bytes → Option UInt64}
    (h : meets (perform origin callback block) 0 p.cs (forget p.regs, p.data) block = true) :
    ∃ n k, p.execute ⟨false, q, l⟩ block = some (n, k) ∧
      ∀ n' k', p.execute ⟨true, q, l⟩ block = some (n', k') → k < k' := by
  have hblock : block ≠ [] := by
    rintro rfl
    cases h
  obtain ⟨r, hr, hlater⟩ := scan_of_meets block h
  unfold execute
  simp only [if_neg hblock, hr]
  refine ⟨_, _, rfl, fun n' k' hrelaxed => ?_⟩
  obtain ⟨r', hr', heq⟩ := Option.map_eq_some_iff.mp hrelaxed
  obtain ⟨-, rfl⟩ := Prod.mk.inj heq
  exact hlater r' hr'

/-- With and without `uri_relaxed` the same is seen of a parser exactly if it does
    not get to a byte for which that decides. -/
theorem observe_relaxed_iff {q : Nat} {l : Bytes → Option UInt64} (blocks : List Bytes) :
    ∀ p : HttpRequestParser, observe ⟨true, q, l⟩ p blocks = observe ⟨false, q, l⟩ p blocks ↔
      p.meetsDelim blocks = false := by
  induction blocks with
  | nil =>
    intro p
    exact iff_of_true rfl rfl
  | cons block blocks ih =>
    intro p
    have hstrict : p.execute ⟨false, q, l⟩ block = p.execute strict block := rfl
    unfold observe meetsDelim
    cases hmeets : meets (perform origin callback block) 0 p.cs (forget p.regs, p.data) block with
    | true =>
      rw [Bool.true_or]
      refine iff_of_false (fun hsame => ?_) (by decide)
      obtain ⟨n, k, hk, hlater⟩ := execute_of_meets (q := q) (l := l) hmeets
      rw [hk] at hsame
      cases hrelaxed : p.execute ⟨true, q, l⟩ block with
      | none =>
        rw [hrelaxed] at hsame
        cases hsame
      | some r =>
        rw [hrelaxed] at hsame
        have hhead := Option.some.inj (List.cons.inj hsame).1
        have hk' : r.2 = k := congrArg ParserSeen.executed hhead
        exact Nat.ne_of_lt (hlater r.1 r.2 hrelaxed) hk'.symm
    | false =>
      rw [Bool.false_or, execute_of_not_meets hmeets, hstrict]
      cases p.execute strict block with
      | none => exact iff_of_true rfl rfl
      | some r => exact (List.cons_inj_right _).trans (ih r.1)

/-- Two executions that differ in the memory of the parser are seen to do the same
    exactly if both find `uri_relaxed` set or both find it unset, or the blocks do
    not bring the parser to a delimiter for which it counts. -/
theorem request_memory_unseen_iff (env₁ env₂ : Env) (blocks : List Bytes) :
    observe env₁ (new env₁) blocks = observe env₂ (new env₂) blocks ↔
      env₁.uri_relaxed = env₂.uri_relaxed ∨ (new strict).meetsDelim blocks = false := by
  have hmemory : ∀ env : Env, observe env (new env) blocks =
      observe ⟨env.uri_relaxed, 0, fun _ => none⟩ (new strict) blocks := by
    intro env
    refine observe_same blocks ⟨rfl, rfl, fun r hr => ?_⟩
    cases r with
    | query_start =>
      rcases hr with hr | hr
      · cases hr
      · cases hr
    | mark => rfl
    | field_start => rfl
    | field_len => rfl
  rw [hmemory env₁, hmemory env₂]
  cases env₁.uri_relaxed <;> cases env₂.uri_relaxed
  · exact iff_of_true rfl (Or.inl rfl)
  · rw [eq_comm, observe_relaxed_iff]
    simp
  · rw [observe_relaxed_iff]
    simp
  · exact iff_of_true rfl (Or.inl rfl)

/-- A request line with a delimiter of `more_delims` in its path. -/
def braceRequest : List Bytes := [ascii "GET /\x7b HTTP/1.1\r\n\r\n"]

/-- It is read to its end where `uri_relaxed` is found set, else refused. -/
theorem request_memory_seen :
    (observe ⟨true, 0, fun _ => none⟩ (new ⟨true, 0, fun _ => none⟩) braceRequest).map
        (Option.map fun s => (s.hasError, s.executed)) = [some (false, 19)] ∧
      (observe strict (new strict) braceRequest).map
        (Option.map fun s => (s.hasError, s.executed)) = [some (true, 5)] := by
  decide

end HttpRequestParser

end Http

end MNSER
