import Mathlib.Tactic.IntervalCases
import Mnser.Http.Message
import Mnser.Strtol

/-! # Dumping messages

    `HttpRequest::dump` and `HttpResponse::dump`.  The members that no parser
    sets (`m_websocket`, `m_cookies`, `m_close` of a response) are arguments. -/

namespace MNSER

namespace Http

/-! ## Section 1: Texts -/

def crlf : Bytes := [13, 10]

/-- `os << n` -/
def decimal (n : Nat) : Bytes := (Nat.toDigits 10 n).map fun c => c.toNat.toUInt8

/-- `HttpMethodToString` -/
def methodToString (m : HttpMethod) : Bytes :=
  match httpMethodMap.find? fun e => e.1 = m with
  | some e => ascii e.2
  | none   => ascii "<unknown>"

/-- `HTTP_STATUS_MAP` -/
def httpStatusMap : List (Int × String) :=
  [(100, "Continue"), (101, "Switching Protocols"), (102, "Processing"), (200, "OK"),
   (201, "Created"), (202, "Accepted"), (203, "Non-Authoritative Information"),
   (204, "No Content"), (205, "Reset Content"), (206, "Partial Content"), (207, "Multi-Status"),
   (208, "Already Reported"), (226, "IM Used"), (300, "Multiple Choices"),
   (301, "Moved Permanently"), (302, "Found"), (303, "See Other"), (304, "Not Modified"),
   (305, "Use Proxy"), (307, "Temporary Redirect"), (308, "Permanent Redirect"),
   (400, "Bad Request"), (401, "Unauthorized"), (402, "Payment Required"), (403, "Forbidden"),
   (404, "Not Found"), (405, "Method Not Allowed"), (406, "Not Acceptable"),
   (407, "Proxy Authentication Required"), (408, "Request Timeout"), (409, "Conflict"),
   (410, "Gone"), (411, "Length Required"), (412, "Precondition Failed"),
   (413, "Payload Too Large"), (414, "URI Too Long"), (415, "Unsupported Media Type"),
   (416, "Range Not Satisfiable"), (417, "Expectation Failed"), (421, "Misdirected Request"),
   (422, "Unprocessable Entity"), (423, "Locked"), (424, "Failed Dependency"),
   (426, "Upgrade Required"), (428, "Precondition Required"), (429, "Too Many Requests"),
   (431, "Request Header Fields Too Large"), (451, "Unavailable For Legal Reasons"),
   (500, "Internal Server Error"), (501, "Not Implemented"), (502, "Bad Gateway"),
   (503, "Service Unavailable"), (504, "Gateway Timeout"), (505, "HTTP Version Not Supported"),
   (506, "Variant Also Negotiates"), (507, "Insufficient Storage"), (508, "Loop Detected"),
   (510, "Not Extended"), (511, "Network Authentication Required")]

/-- `HttpStatusToString` -/
def statusToString (status : Int) : Bytes :=
  match httpStatusMap.find? fun e => e.1 = status with
  | some e => ascii e.2
  | none   => ascii "<unknown>"

/-- `HTTP/x.y` -/
def versionText (version : UInt8) : Bytes :=
  ascii "HTTP/" ++ decimal (version >>> 4).toNat ++ ascii "." ++ decimal (version &&& 0x0F).toNat

/-! ## Section 2: Headers -/

def headerLine (name value : Bytes) : Bytes := name ++ ascii ": " ++ value ++ crlf

/-- The loop over `m_headers`. -/
def headerLines (m_websocket : Bool) (headers : Headers) : Bytes :=
  (headers.map fun e =>
    if !m_websocket && strcaseeq e.1 (ascii "connection") then [] else headerLine e.1 e.2).flatten

def connectionLine (m_close : Bool) : Bytes :=
  headerLine (ascii "connection") (if m_close then ascii "close" else ascii "keep-alive")

/-- `content-length` and the empty line, without the body. -/
def lastLines (body : Bytes) : Bytes :=
  if body ≠ [] then headerLine (ascii "content-length") (decimal body.length) ++ crlf else crlf

/-! ## Section 3: Messages -/

/-- The part of `dump` in front of the body. -/
def HttpRequest.header (r : HttpRequest) (m_websocket : Bool) : Bytes :=
  methodToString r.method ++ ascii " " ++ r.path ++
    (if r.query = [] then [] else ascii "?") ++ r.query ++
    (if r.fragment = [] then [] else ascii "#") ++ r.fragment ++
    ascii " " ++ versionText r.version ++ crlf ++
    (if m_websocket then [] else connectionLine r.close) ++
    headerLines m_websocket r.headers ++ lastLines r.body

def HttpRequest.dump (r : HttpRequest) (m_websocket : Bool) : Bytes := r.header m_websocket ++ r.body

def HttpResponse.reasonText (r : HttpResponse) : Bytes :=
  if r.reason = [] then statusToString r.status else r.reason

/-- The part of `dump` in front of the body. -/
def HttpResponse.header (r : HttpResponse) (m_close m_websocket : Bool) (m_cookies : List Bytes) :
    Bytes :=
  versionText r.version ++ ascii " " ++ decimal (r.status % 2 ^ 32).toNat ++ ascii " " ++
    r.reasonText ++ crlf ++ headerLines m_websocket r.headers ++
    (m_cookies.map fun i => headerLine (ascii "Set-Cookie") i).flatten ++
    (if m_websocket then [] else connectionLine m_close) ++ lastLines r.body

def HttpResponse.dump (r : HttpResponse) (m_close m_websocket : Bool) (m_cookies : List Bytes) :
    Bytes :=
  r.header m_close m_websocket m_cookies ++ r.body

/-! ## Section 4: What may stand in a header -/

/-- A byte of an RFC 7230 token. -/
def istchar (c : UInt8) : Bool :=
  (48 ≤ c && c ≤ 57) || (65 ≤ c && c ≤ 90) || (97 ≤ c && c ≤ 122) ||
    (ascii "!#$%&'*+-.^_|~").contains c || c = 96

def Token (s : Bytes) : Prop := s ≠ [] ∧ ∀ c ∈ s, istchar c = true

instance (s : Bytes) : Decidable (Token s) := inferInstanceAs (Decidable (_ ∧ _))

/-- The names that a dump adds, and the one that says how the body is encoded. -/
def reservedNames : List Bytes :=
  [ascii "connection", ascii "content-length", ascii "transfer-encoding"]

theorem connection_reserved : ascii "connection" ∈ reservedNames := by decide

/-- Keys of a `std::map` with `CaseInsensitiveLess`. -/
def Headers.Distinct (m : Headers) : Prop := m.Pairwise fun a b => strcaseeq a.1 b.1 = false

instance (m : Headers) : Decidable m.Distinct := inferInstanceAs (Decidable (List.Pairwise _ _))

/-- What the connection line says. -/
def connectionValue (m_close : Bool) : Bytes :=
  if m_close then ascii "close" else ascii "keep-alive"

/-- `decimal` writes digits. -/
theorem decimal_digits (n : Nat) : ∀ c ∈ decimal n, Strtol.isdigit 10 c = true := by
  intro c hc
  obtain ⟨d, hd, rfl⟩ := List.mem_map.mp hc
  have hdigit := Nat.isDigit_of_mem_toDigits (by decide) (le_refl 10) hd
  simp only [Char.isDigit, Bool.and_eq_true, decide_eq_true_eq] at hdigit
  have hlo : 48 ≤ d.toNat := hdigit.1
  have hhi : d.toNat ≤ 57 := hdigit.2
  generalize d.toNat = k at hlo hhi
  interval_cases k <;> decide

theorem decimal_ne_nil (n : Nat) : decimal n ≠ [] := by
  simp [decimal, Nat.toDigits_ne_nil]

theorem strcaseeq_comm (a b : Bytes) : strcaseeq a b = strcaseeq b a := BEq.comm

/-- A new header goes to the end. -/
theorem Headers.set_new {m : Headers} {key : Bytes} (value : Bytes)
    (h : ∀ e ∈ m, strcaseeq e.1 key = false) : m.set key value = m ++ [(key, value)] := by
  unfold Headers.set
  rw [if_neg]
  simpa using h

/-- Keys that are not there yet are appended one after the other. -/
theorem Headers.foldl_set (headers : Headers) : ∀ {m : Headers}, Headers.Distinct (m ++ headers) →
    headers.foldl (fun m e => m.set e.1 e.2) m = m ++ headers := by
  induction headers with
  | nil => exact fun _ => (List.append_nil _).symm
  | cons e es ih =>
    intro m h
    have hnew : m.set e.1 e.2 = m ++ [e] := Headers.set_new e.2 fun x hx =>
      (List.pairwise_append.mp h).2.2 x hx e List.mem_cons_self
    rw [List.foldl_cons, hnew, ih (by rwa [List.append_assoc]), List.append_assoc]
    rfl

/-- A header that is not in the front is looked up behind it. -/
theorem Headers.lookup_append {m m' : Headers} {key : Bytes}
    (h : ∀ e ∈ m, strcaseeq e.1 key = false) :
    Headers.lookup (m ++ m') key = Headers.lookup m' key := by
  rw [Headers.lookup, List.find?_append, List.find?_eq_none.mpr fun e he => by simp [h e he]]
  rfl

end Http

end MNSER
