import Mnser.Http.Message
import Mnser.Http.RequestTable

/-! # The request parser

    `http_parser_execute` with the call backs of `HttpRequestParser`.  Every
    call forgets `mark`, `field_start` and `field_len`, and the positions it
    notes are positions in the buffer of that call. -/

namespace MNSER

namespace Http

open Scanner HttpParser

/-- What the parser takes from outside: two members of `http_parser` that are
    never initialised, and `boost::lexical_cast<uint64_t>`. -/
structure Env where
  uri_relaxed  : Bool
  query_start  : Nat
  lexical_cast : Bytes → Option UInt64

/-! ## Section 1: Call backs -/

/-- `m_data` and `m_error` -/
abbrev Parsed : Type := HttpRequest × Nat

def on_request_method (at_ : Bytes) : Parsed → Parsed
  | (r, error) =>
    match charsToHttpMethod at_ with
    | some m => ({ r with method := m }, error)
    | none   => (r, 1000)

def on_request_version (at_ : Bytes) : Parsed → Parsed
  | (r, error) =>
    if strneq at_ (ascii "HTTP/1.1") at_.length then ({ r with version := 0x11 }, error)
    else if strneq at_ (ascii "HTTP/1.0") at_.length then ({ r with version := 0x10 }, error)
    else (r, 1001)

def on_request_http_field (field value : Bytes) : Parsed → Parsed
  | (r, error) =>
    if field.length = 0 then (r, error)
    else ({ r with headers := r.headers.set field value }, error)

/-- The call backs with their arguments; `none` when one throws.  The method
    is looked for in all that the buffer holds from `mark` on. -/
def callback (k : Callback) (buffer : Bytes) (p : Nat) (regs : Reg → Nat) (d : Parsed) :
    Option Parsed :=
  match k with
  | .http_field =>
    some (on_request_http_field (text buffer (regs .field_start) (regs .field_len))
      (text buffer (regs .mark) (p - regs .mark)) d)
  | .request_method => some (on_request_method (buffer.drop (regs .mark)) d)
  | .fragment => some ({ d.1 with fragment := text buffer (regs .mark) (p - regs .mark) }, d.2)
  | .query_string =>
    -- a negative length is an enormous `size_t` for `std::string`
    if regs .query_start ≤ p then
      some ({ d.1 with query := text buffer (regs .query_start) (p - regs .query_start) }, d.2)
    else none
  | .http_version => some (on_request_version (text buffer (regs .mark) (p - regs .mark)) d)
  | .request_path => some ({ d.1 with path := text buffer (regs .mark) (p - regs .mark) }, d.2)
  | .request_uri => some d
  | .done => some d
  | .xml => some d
  | .json => some d

/-- The registers a call back reads. -/
def uses : Callback → List Reg
  | .http_field     => [.field_start, .field_len, .mark]
  | .request_method => [.mark]
  | .fragment       => [.mark]
  | .query_string   => [.query_start]
  | .http_version   => [.mark]
  | .request_path   => [.mark]
  | .request_uri    => []
  | .done           => []
  | .xml            => []
  | .json           => []

/-! ## Section 2: The parser -/

structure HttpRequestParser where
  cs   : Nat
  regs : Reg → Nat
  data : Parsed

namespace HttpRequestParser

def new (env : Env) : HttpRequestParser where
  cs   := http_parser_start
  regs := fun | .query_start => env.query_start | _ => 0
  data := (HttpRequest.new, 0)

/-- `http_parser_execute` sets all but `query_start` to 0. -/
def forget (regs : Reg → Nat) : Reg → Nat
  | .query_start => regs .query_start
  | _            => 0

/-- The parser and the number of bytes parsed. -/
def execute (env : Env) (parser : HttpRequestParser) (data : Bytes) :
    Option (HttpRequestParser × Nat) :=
  if data = [] then some (parser, 0)
  else
    (scan (step env.uri_relaxed) (perform origin callback data) 0 parser.cs
      (forget parser.regs, parser.data) data).map fun r => (⟨r.state, r.data.1, r.data.2⟩, r.pos)

def hasError (parser : HttpRequestParser) : Prop :=
  parser.data.2 ≠ 0 ∨ parser.cs = http_parser_error

instance (parser : HttpRequestParser) : Decidable parser.hasError :=
  inferInstanceAs (Decidable (_ ∨ _))

/-- `http_parser_finish` -/
def isFinished (parser : HttpRequestParser) : Int :=
  if parser.cs = http_parser_error then -1
  else if http_parser_first_final ≤ parser.cs then 1
  else 0

def getContentLength (env : Env) (parser : HttpRequestParser) : UInt64 :=
  match parser.data.1.headers.lookup (ascii "content-length") with
  | none => 0
  | some val => (env.lexical_cast val).getD 0

end HttpRequestParser

/-! ## Section 3: What the call backs see -/

/-- Text between two positions of the buffer. -/
theorem text_drop {whole buffer post : Bytes} {base start length : Nat}
    (hwhole : whole.drop base = buffer ++ post) (hle : start + length ≤ buffer.length) :
    text buffer start length = text whole (base + start) length := by
  unfold text
  rw [← List.drop_drop, hwhole, List.drop_append_of_le_length (by omega),
    List.take_append_of_le_length (by rw [List.length_drop]; omega)]

/-- A name without the byte `c` cannot reach beyond it. -/
theorem isPrefixOf_delim {c : UInt8} {name : Bytes} (hname : c ∉ name) (xs ys : Bytes) :
    name.isPrefixOf (xs ++ c :: ys) = name.isPrefixOf xs := by
  induction xs generalizing name with
  | nil =>
    cases name with
    | nil => rfl
    | cons b bs =>
      have hbc : b ≠ c := fun heq => hname (heq ▸ List.mem_cons_self)
      simp [List.isPrefixOf, hbc]
  | cons x xs ih =>
    cases name with
    | nil => rfl
    | cons b bs =>
      simp only [List.cons_append, List.isPrefixOf]
      rw [ih fun hmem => hname (List.mem_cons_of_mem _ hmem)]

theorem blank_notMem_method : ∀ e ∈ httpMethodMap, (32 : UInt8) ∉ ascii e.2 := by
  decide +kernel

/-- What is behind the blank does not matter. -/
theorem charsToHttpMethod_blank (xs ys : Bytes) :
    charsToHttpMethod (xs ++ 32 :: ys) = charsToHttpMethod xs := by
  unfold charsToHttpMethod
  congr 1
  apply List.find?_congr
  intro e he
  exact isPrefixOf_delim (blank_notMem_method e he) xs ys

/-- In front of a blank the method does not depend on what is behind it. -/
theorem charsToHttpMethod_drop {whole buffer post : Bytes} {base start p : Nat}
    (hwhole : whole.drop base = buffer ++ post) (hle : start ≤ p)
    (hblank : buffer[p]? = some 32) :
    charsToHttpMethod (buffer.drop start) = charsToHttpMethod (whole.drop (base + start)) := by
  have hp : p < buffer.length := (List.getElem?_eq_some_iff.mp hblank).1
  have hsplit : buffer.drop start =
      text buffer start (p - start) ++ 32 :: buffer.drop (p + 1) := by
    unfold text
    have htake := List.take_append_drop (p - start) (buffer.drop start)
    rw [List.drop_drop, show start + (p - start) = p by omega, List.drop_eq_getElem_cons hp,
      (List.getElem?_eq_some_iff.mp hblank).2] at htake
    exact htake.symm
  rw [← List.drop_drop, hwhole, List.drop_append_of_le_length (by omega), hsplit,
    List.append_assoc, List.cons_append, charsToHttpMethod_blank, charsToHttpMethod_blank]

/-- A register that is set from another one is not copied on. -/
theorem origin_flat : ∀ l r, origin l = some r → origin r = none := by
  intro l r h
  cases l <;> cases h
  rfl

/-- The call backs of a transition only see the text between fresh registers
    and the position they are called at. -/
theorem callback_local {buffer : Bytes} {p : Nat} {k : Callback} {regs' : Reg → Nat} {c : UInt8}
    (hc : buffer[p]? = some c) (hmethod : k = .request_method → c = 32) :
    Local origin uses callback k buffer p regs' := by
  intro whole base post fresh regs d hwhole hagree huses
  have hp : p < buffer.length := (List.getElem?_eq_some_iff.mp hc).1
  have hposition : ∀ r, r ∈ uses k → origin r = none →
      text buffer (regs' r) (p - regs' r) = text whole (regs r) (base + p - regs r) ∧
        regs' r ≤ p ∧ regs r = base + regs' r := by
    intro r hr horigin
    have hle := hagree.le r (huses r hr)
    have heq := hagree.position r (huses r hr) horigin
    rw [heq, show base + p - (base + regs' r) = p - regs' r by omega]
    exact ⟨text_drop hwhole (by omega), hle, rfl⟩
  cases k with
  | http_field =>
    obtain ⟨htext, _, _⟩ := hposition .mark (by decide) rfl
    have hstart := hagree.position .field_start (huses _ (by decide)) rfl
    have hlen := hagree.length .field_len (huses _ (by decide)) (by decide)
    have hin := (hagree.within .field_len .field_start (huses _ (by decide)) rfl).2
    have hfield : text buffer (regs' .field_start) (regs' .field_len) =
        text whole (regs .field_start) (regs .field_len) := by
      rw [hstart, hlen]
      exact text_drop hwhole (by omega)
    exact ⟨_, rfl, by simp only [callback, htext, hfield]⟩
  | request_method =>
    obtain rfl := hmethod rfl
    obtain ⟨_, hle, heq⟩ := hposition .mark (by decide) rfl
    refine ⟨_, rfl, ?_⟩
    simp only [callback, on_request_method, heq, charsToHttpMethod_drop hwhole hle hc]
  | fragment =>
    obtain ⟨htext, _, _⟩ := hposition .mark (by decide) rfl
    exact ⟨_, rfl, by simp only [callback, htext]⟩
  | query_string =>
    obtain ⟨htext, hle, heq⟩ := hposition .query_start (by decide) rfl
    refine ⟨_, if_pos hle, ?_⟩
    simp only [callback, if_pos (show regs .query_start ≤ base + p by omega), htext]
  | http_version =>
    obtain ⟨htext, _, _⟩ := hposition .mark (by decide) rfl
    exact ⟨_, rfl, by simp only [callback, htext]⟩
  | request_path =>
    obtain ⟨htext, _, _⟩ := hposition .mark (by decide) rfl
    exact ⟨_, rfl, by simp only [callback, htext]⟩
  | request_uri => exact ⟨_, rfl, rfl⟩
  | done => exact ⟨_, rfl, rfl⟩
  | xml => exact ⟨_, rfl, rfl⟩
  | json => exact ⟨_, rfl, rfl⟩

/-- Every register has been set when it is read. -/
theorem request_sound (uri_relaxed : Bool) :
    Sound origin uses callback (step uri_relaxed) (fun _ _ _ _ _ => True) where
  flat  := origin_flat
  keep  := fun _ _ _ _ => trivial
  calls := by
    intro s fresh buffer p regs c before k after fresh' _ hc hacts _ _
    refine callback_local hc fun hk => ?_
    subst hk
    have hmem : request_method ∈ (step uri_relaxed s c).acts := by
      rw [hacts]
      exact List.mem_append_right _ List.mem_cons_self
    rcases step_cases uri_relaxed s c with ⟨t, acts, hstep, _, _, hblank⟩ |
      ⟨t, acts, hstep, _, hnot⟩ | hstep
    · rw [hstep] at hmem
      exact hblank hmem
    · rw [hstep] at hmem
      exact absurd hmem hnot
    · rw [hstep] at hmem
      cases hmem

/-! ## Section 4: What is set in a buffer -/

/-- The registers that are set whenever `cs` is reached from the start. -/
def cover (cs : Nat) : Reg → Bool
  | .mark        => cs ≠ http_parser_start
  | .field_start => [14, 15, 16, 18, 348].contains cs
  | .field_len   => [15, 16].contains cs
  | .query_start => [30, 31, 32].contains cs

/-- An entry of the row of `cs` keeps the registers of the state it leads to. -/
def covered (cs : Nat) (e : Nat × Nat × Goto) : Bool :=
  let registers : List Reg := [.mark, .field_start, .field_len, .query_start]
  match e.2.2 with
  | .st n => registers.all fun r => !cover n r || cover cs r
  | .tr k =>
    match tr k with
    | .next t acts =>
      (track origin uses acts (cover cs)).any fun f => registers.all fun r => !cover t r || f r
    | .last _ acts => (track origin uses acts (cover cs)).isSome
    | .fail _ => true

theorem rows_covered : ∀ row ∈ rows.zipIdx, ∀ e ∈ row.1, covered row.2 e = true := by
  decide +kernel

/-- What the table says of the byte a state meets. -/
theorem lookup_covered {cs c : Nat} {g : Goto} (h : lookup cs c = some g) :
    ∃ lo hi, covered cs (lo, hi, g) = true := by
  obtain ⟨e, he, rfl⟩ := Option.map_eq_some_iff.mp h
  have hmem := List.mem_of_find?_eq_some he
  refine ⟨e.1, e.2.1, ?_⟩
  by_cases hcs : cs < rows.length
  · rw [List.getD_eq_getElem _ _ hcs] at hmem
    have hrow := List.mk_mem_zipIdx_iff_getElem?.mpr (List.getElem?_eq_getElem hcs)
    exact rows_covered (rows[cs], cs) hrow e hmem
  · rw [List.getD_eq_default _ _ (Nat.not_lt.mp hcs)] at hmem
    cases hmem

/-- With or without `uri_relaxed`. -/
theorem goto_covered {uri_relaxed : Bool} {cs : Nat} {c : UInt8} {g : Goto}
    (h : goto uri_relaxed cs c = some g) : ∃ lo hi, covered cs (lo, hi, g) = true := by
  unfold goto at h
  split at h <;> exact lookup_covered h

theorem mem_registers (r : Reg) : r ∈ [Reg.mark, .field_start, .field_len, .query_start] := by
  cases r <;> decide

/-- A method, path, query, fragment, version or header that begins in a buffer
    has all its registers set in it. -/
theorem request_covers (uri_relaxed : Bool) :
    Covers (step uri_relaxed) origin uses cover where
  next := by
    intro s c t acts hstep
    unfold step at hstep
    cases hgoto : goto uri_relaxed s c with
    | none =>
      rw [hgoto] at hstep
      cases hstep
    | some g =>
      obtain ⟨lo, hi, hcovered⟩ := goto_covered hgoto
      rw [hgoto] at hstep
      cases g with
      | st n =>
        obtain ⟨rfl, rfl⟩ := Step.next.inj hstep
        simp only [covered, List.all_eq_true] at hcovered
        refine ⟨_, rfl, fun r hr => ?_⟩
        have hkept := hcovered r (mem_registers r)
        rw [hr] at hkept
        exact hkept
      | tr k =>
        simp only at hstep
        simp only [covered, hstep, Option.any_eq_true, List.all_eq_true] at hcovered
        obtain ⟨f, htrack, hkept⟩ := hcovered
        refine ⟨f, htrack, fun r hr => ?_⟩
        have hkept := hkept r (mem_registers r)
        rw [hr] at hkept
        exact hkept
  last := by
    intro s c t acts hstep
    unfold step at hstep
    cases hgoto : goto uri_relaxed s c with
    | none =>
      rw [hgoto] at hstep
      cases hstep
    | some g =>
      obtain ⟨lo, hi, hcovered⟩ := goto_covered hgoto
      rw [hgoto] at hstep
      cases g with
      | st n => cases hstep
      | tr k =>
        simp only at hstep
        simp only [covered, hstep] at hcovered
        exact Option.isSome_iff_exists.mp hcovered

end Http

end MNSER
