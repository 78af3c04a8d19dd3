import Mnser.Http.RequestParser
import Mnser.Http.ResponseTable

/-! # The response parser

    `httpclient_parser_execute` with the call backs of `HttpResponseParser`.
    As in the request parser, every call forgets the positions it noted.  A
    call for a chunk sets the parser back to its start as well. -/

namespace MNSER

namespace Http

open Scanner

/-! ## Section 1: Call backs -/

/-- `m_data`, `m_error` and the members of `httpclient_parser` that actions set;
    `status` is never read and left out. -/
structure Received where
  response    : HttpResponse
  error       : Nat
  content_len : Int
  chunked     : Bool
  chunks_done : Bool
  close       : Bool
  deriving DecidableEq, Repr

namespace Received

def on_response_reason (at_ : Bytes) (d : Received) : Received :=
  { d with response := { d.response with reason := at_ } }

/-- `atoi(at)` -/
def on_response_status (at_ : Bytes) (d : Received) : Received :=
  { d with response := { d.response with status := strtoi 10 at_ } }

def on_response_version (at_ : Bytes) (d : Received) : Received :=
  if strneq at_ (ascii "HTTP/1.1") at_.length then
    { d with response := { d.response with version := 0x11 } }
  else if strneq at_ (ascii "HTTP/1.0") at_.length then
    { d with response := { d.response with version := 0x10 } }
  else { d with error := 1001 }

def on_response_http_field (field value : Bytes) (d : Received) : Received :=
  if field.length = 0 then d
  else { d with response := { d.response with headers := d.response.headers.set field value } }

/-- `action chunk_size`; a result beyond `int` is cut off by the assignment. -/
def chunk_size (at_ : Bytes) (d : Received) : Received :=
  { d with chunked := true, content_len := strtoi 16 at_, chunks_done := strtoi 16 at_ ≤ 0 }

end Received

namespace HttpClientParser

/-- The actions with their arguments.  A number is read from `mark` on, as far
    as it goes. -/
def callback (k : Callback) (buffer : Bytes) (p : Nat) (regs : Reg → Nat) (d : Received) :
    Option Received :=
  match k with
  | .http_field =>
    some (d.on_response_http_field (text buffer (regs .field_start) (regs .field_len))
      (text buffer (regs .mark) (p - regs .mark)))
  | .reason_phrase => some (d.on_response_reason (text buffer (regs .mark) (p - regs .mark)))
  | .status_code => some (d.on_response_status (buffer.drop (regs .mark)))
  | .http_version => some (d.on_response_version (text buffer (regs .mark) (p - regs .mark)))
  | .chunk_size => some (d.chunk_size (buffer.drop (regs .mark)))
  | .content_len => some { d with content_len := strtoi 10 (buffer.drop (regs .mark)) }
  | .connection_close => some { d with close := true }
  | .chunked => some { d with chunked := true }
  | .done => some d

/-- The registers a call back reads. -/
def uses : Callback → List Reg
  | .http_field       => [.field_start, .field_len, .mark]
  | .reason_phrase    => [.mark]
  | .status_code      => [.mark]
  | .http_version     => [.mark]
  | .chunk_size       => [.mark]
  | .content_len      => [.mark]
  | .connection_close => []
  | .chunked          => []
  | .done             => []

end HttpClientParser

open HttpClientParser

/-! ## Section 2: The parser -/

structure HttpResponseParser where
  cs   : Nat
  regs : Reg → Nat
  data : Received

namespace HttpResponseParser

/-- `httpclient_parser_init` -/
def init (parser : HttpResponseParser) : HttpResponseParser where
  cs   := httpclient_parser_start
  regs := fun _ => 0
  data := { parser.data with
            content_len := -1, chunked := false, chunks_done := false, close := false }

def new : HttpResponseParser where
  cs   := httpclient_parser_start
  regs := fun _ => 0
  data := ⟨HttpResponse.new, 0, -1, false, false, false⟩

/-- The parser and the number of bytes parsed; `data` is never empty. -/
def execute (parser : HttpResponseParser) (data : Bytes) (chunck : Bool) :
    Option (HttpResponseParser × Nat) :=
  let parser := if chunck then parser.init else parser
  (scan step (perform origin HttpClientParser.callback data) 0 parser.cs (fun _ => 0, parser.data)
    data).map
    fun r => (⟨r.state, r.data.1, r.data.2⟩, r.pos)

def hasError (parser : HttpResponseParser) : Prop :=
  parser.data.error ≠ 0 ∨ parser.cs = httpclient_parser_error

instance (parser : HttpResponseParser) : Decidable parser.hasError :=
  inferInstanceAs (Decidable (_ ∨ _))

/-- `httpclient_parser_finish`: one of the four final states counts. -/
def isFinished (parser : HttpResponseParser) : Int :=
  if parser.cs = httpclient_parser_error then -1
  else if parser.cs = httpclient_parser_first_final then 1
  else 0

def getContentLength (lexical_cast : Bytes → Option UInt64) (parser : HttpResponseParser) :
    UInt64 :=
  match parser.data.response.headers.lookup (ascii "content-length") with
  | none => 0
  | some val => (lexical_cast val).getD 0

end HttpResponseParser

/-! ## Section 3: What the actions see -/

namespace HttpClientParser

/-- From `m` to `p` the buffer holds digits, and at least one. -/
def DigitsFrom (base : Nat) (buffer : Bytes) (m p : Nat) : Prop :=
  m < p ∧ p ≤ buffer.length ∧ ∀ d ∈ text buffer m (p - m), Strtol.isdigit base d = true

/-- In a state that reads a number, its digits begin at a fresh `mark`. -/
def Reading (s : Nat) (fresh : Reg → Bool) (buffer : Bytes) (p : Nat) (regs : Reg → Nat) : Prop :=
  ∀ b, numberBase s = some b → fresh .mark = true → DigitsFrom b buffer (regs .mark) p

/-- The text grows by the byte that is read. -/
theorem text_succ {buffer : Bytes} {m p : Nat} {c : UInt8} (hmp : m ≤ p)
    (hc : buffer[p]? = some c) : text buffer m (p + 1 - m) = text buffer m (p - m) ++ [c] := by
  unfold text
  rw [show p + 1 - m = p - m + 1 by omega, List.take_add_one, List.getElem?_drop,
    show m + (p - m) = p by omega, hc]
  rfl

/-- The text from `m` on: digits up to `p`, and what stops them. -/
theorem drop_eq_text {buffer : Bytes} {m p : Nat} (hmp : m ≤ p) :
    buffer.drop m = text buffer m (p - m) ++ buffer.drop p := by
  unfold text
  have hdrop : buffer.drop p = (buffer.drop m).drop (p - m) := by
    rw [List.drop_drop, show m + (p - m) = p by omega]
  rw [hdrop, List.take_append_drop]

/-- `strtol` reads the digits between the mark and the scan, and stops there. -/
theorem strtol_text {buffer : Bytes} {m p base : Nat} {c : UInt8} (hbase : base ≤ 16)
    (hdigits : DigitsFrom base buffer m p) (hc : buffer[p]? = some c)
    (hstop : Strtol.isdigit base c = false ∧ c ≠ 120 ∧ c ≠ 88) :
    strtol base (buffer.drop m) =
      (min (Strtol.magnitude base 0 (text buffer m (p - m))) (2 ^ 63 - 1) : Nat) := by
  obtain ⟨hlt, hle, hall⟩ := hdigits
  rw [drop_eq_text hlt.le]
  refine Strtol.strtol_digits hbase hall ?_ fun d hd => ?_
  · intro hnil
    have hlen := congrArg List.length hnil
    simp only [text, List.length_take, List.length_drop, List.length_nil] at hlen
    omega
  · rw [List.head?_drop, hc] at hd
    rw [← Option.some.inj hd]
    exact hstop

theorem Callback.base_le {k : Callback} {b : Nat} (h : k.base = some b) : b ≤ 16 := by
  cases k <;> simp only [Callback.base, Option.some.injEq, reduceCtorEq] at h <;> omega

/-- The actions of a transition only see the text between fresh registers and
    the position they are performed at. -/
theorem callback_local {buffer : Bytes} {p : Nat} {k : Callback} {regs' : Reg → Nat} {c : UInt8}
    (hc : buffer[p]? = some c)
    (hnumber : ∀ b, k.base = some b → DigitsFrom b buffer (regs' .mark) p ∧
      Strtol.isdigit b c = false ∧ c ≠ 120 ∧ c ≠ 88) :
    Local origin uses callback k buffer p regs' := by
  intro whole base post fresh regs d hwhole hagree huses
  have hp : p < buffer.length := (List.getElem?_eq_some_iff.mp hc).1
  have hmark : Reg.mark ∈ uses k → text buffer (regs' .mark) (p - regs' .mark) =
      text whole (regs .mark) (base + p - regs .mark) := by
    intro hr
    have hle := hagree.le .mark (huses _ hr)
    have heq := hagree.position .mark (huses _ hr) rfl
    rw [heq, show base + p - (base + regs' .mark) = p - regs' .mark by omega]
    exact text_drop hwhole (by omega)
  -- a number reads the same, as it ends in front of `c`
  have hstrtol : ∀ b, k.base = some b → Reg.mark ∈ uses k →
      strtoi b (buffer.drop (regs' .mark)) = strtoi b (whole.drop (regs .mark)) := by
    intro b hb hr
    obtain ⟨hdigits, hstop⟩ := hnumber b hb
    have heq := hagree.position .mark (huses _ hr) rfl
    have hlen : p < (whole.drop base).length := by
      rw [hwhole, List.length_append]
      omega
    have hc' : whole[base + p]? = some c := by
      rw [← List.getElem?_drop, hwhole, List.getElem?_append_left hp, hc]
    have hdigits' : DigitsFrom b whole (regs .mark) (base + p) := by
      obtain ⟨hlt, -, hall⟩ := hdigits
      rw [List.length_drop] at hlen
      refine ⟨by omega, by omega, ?_⟩
      rw [← hmark hr]
      exact hall
    have hbase := Callback.base_le hb
    rw [strtoi, strtoi, strtol_text hbase hdigits hc hstop, strtol_text hbase hdigits' hc' hstop,
      hmark hr]
  cases k with
  | http_field =>
    have htext := hmark (by decide)
    have hstart := hagree.position .field_start (huses _ (by decide)) rfl
    have hlen := hagree.length .field_len (huses _ (by decide)) (by decide)
    have hin := (hagree.within .field_len .field_start (huses _ (by decide)) rfl).2
    have hfield : text buffer (regs' .field_start) (regs' .field_len) =
        text whole (regs .field_start) (regs .field_len) := by
      rw [hstart, hlen]
      exact text_drop hwhole (by omega)
    exact ⟨_, rfl, by simp only [callback, htext, hfield]⟩
  | reason_phrase => exact ⟨_, rfl, by simp only [callback, hmark (by decide)]⟩
  | status_code =>
    exact ⟨_, rfl, by simp only [callback, Received.on_response_status,
      hstrtol 10 rfl (by decide)]⟩
  | http_version => exact ⟨_, rfl, by simp only [callback, hmark (by decide)]⟩
  | chunk_size =>
    exact ⟨_, rfl, by simp only [callback, Received.chunk_size, hstrtol 16 rfl (by decide)]⟩
  | content_len => exact ⟨_, rfl, by simp only [callback, hstrtol 10 rfl (by decide)]⟩
  | connection_close => exact ⟨_, rfl, rfl⟩
  | chunked => exact ⟨_, rfl, rfl⟩
  | done => exact ⟨_, rfl, rfl⟩

theorem origin_flat : ∀ l r, origin l = some r → origin r = none := by
  intro l r h
  cases l <;> cases h
  rfl

theorem move_mark (p : Nat) (a : Action) (regs : Reg → Nat) :
    move origin p a regs .mark = p ∨ move origin p a regs .mark = regs .mark := by
  cases a with
  | mark r => cases r <;> simp [move, Function.update]
  | measure l => cases l <;> simp [move, origin, Function.update]
  | call k => exact .inr rfl

/-- The mark is set where `mark` is among the actions. -/
theorem moves_mark {p : Nat} (acts : List Action) :
    ∀ (regs : Reg → Nat), mark ∈ acts ∨ regs .mark = p → moves origin p acts regs .mark = p := by
  induction acts with
  | nil =>
    rintro regs (h | h)
    · cases h
    · exact h
  | cons a acts ih =>
    intro regs h
    refine ih _ ?_
    rcases h with h | h
    · rcases List.mem_cons.mp h with rfl | h
      · exact .inr rfl
      · exact .inl h
    · rcases move_mark p a regs with hm | hm
      · exact .inr hm
      · exact .inr (hm.trans h)

/-- A number is read behind its digits. -/
theorem response_sound : Sound origin uses callback step Reading where
  flat := origin_flat
  keep := by
    intro s fresh buffer p regs c t acts fresh' hreading hc hstep htrack b hbase hfresh
    have hp : p < buffer.length := (List.getElem?_eq_some_iff.mp hc).1
    obtain ⟨hdigit, hcase⟩ := step_enters hstep hbase
    rcases hcase with ⟨rfl, rfl⟩ | hmark
    · -- one more digit
      obtain rfl := Option.some.inj htrack
      obtain ⟨hlt, -, hall⟩ := hreading b hbase hfresh
      refine ⟨Nat.lt_succ_of_lt hlt, hp, fun d hd => ?_⟩
      rw [show moves origin p [] regs = regs from rfl, text_succ hlt.le hc] at hd
      rcases List.mem_append.mp hd with hd | hd
      · exact hall d hd
      · rwa [List.mem_singleton.mp hd]
    · -- the first digit
      have hm := moves_mark (p := p) acts regs (.inl hmark)
      rw [hm]
      refine ⟨Nat.lt_succ_self p, hp, fun d hd => ?_⟩
      rw [text_succ (le_refl p) hc, Nat.sub_self] at hd
      rcases List.mem_append.mp hd with hd | hd
      · simp [text] at hd
      · rwa [List.mem_singleton.mp hd]
  calls := by
    intro s fresh buffer p regs c before k after fresh' hreading hc hacts htrack huses
    refine callback_local hc fun b hb => ?_
    obtain ⟨rfl, hbase, hstop⟩ := step_leaves hacts hb
    obtain rfl := Option.some.inj htrack
    have hmark : Reg.mark ∈ uses k := by
      cases k <;> simp_all [Callback.base, uses]
    exact ⟨hreading b hbase (huses _ hmark), hstop⟩

end HttpClientParser

end Http

end MNSER
