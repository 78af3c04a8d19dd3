import Mnser.Http.Host
import Mnser.Uri.Escapes

/-! # From a URL to the server

    `DoGet`, `DoPost` and `DoRequest` make a request of a URL, at once or
    through a pool.  The target of a pool's request is one text, which the
    server takes apart again. -/

namespace MNSER

namespace Http

open HttpParser (Escaped pathChar queryChar PathAbsolute PlainValue)

/-! ## Section 1: The headers -/

/-- A header that can stand in a line of its own and is not added by a dump. -/
def PlainHeader (e : Bytes × Bytes) : Prop :=
  Token e.1 ∧ (∀ n ∈ reservedNames, strcaseeq e.1 n = false) ∧ PlainValue e.2

/-- What a caller may pass: the loop passes over the connection header. -/
def Allowed (e : Bytes × Bytes) : Prop := isConnection e = true ∨ PlainHeader e

instance (e : Bytes × Bytes) : Decidable (PlainHeader e) := inferInstanceAs (Decidable (_ ∧ _))

instance (e : Bytes × Bytes) : Decidable (Allowed e) := inferInstanceAs (Decidable (_ ∨ _))

/-- A header of the map is the new one or an old one. -/
theorem MapType.mem_set {m : MapType} {key val : Bytes} {e : Bytes × Bytes}
    (he : e ∈ (m.set key val).entries) :
    e = (key, val) ∨ ∃ e' ∈ m.entries, e = MapType.put key val e' := by
  cases hany : m.entries.any fun e => strcaseeq e.1 key with
  | true =>
    rw [MapType.set_found hany] at he
    obtain ⟨e', he', rfl⟩ := List.mem_map.mp he
    exact Or.inr ⟨e', he', rfl⟩
  | false =>
    rw [MapType.set_absent hany] at he
    rcases (OrderedSet.mem_insert (MapType.absent hany val)).mp he with rfl | he
    · exact Or.inl rfl
    · refine Or.inr ⟨e, he, ?_⟩
      have hne : strcaseeq e.1 key = false := Bool.eq_false_iff.mpr (List.any_eq_false.mp hany e he)
      rw [MapType.put, if_neg (by rw [hne]; exact Bool.false_ne_true)]

/-- Plain headers stay plain. -/
theorem MapType.set_plain {m : MapType} {key val : Bytes} (hm : ∀ e ∈ m.entries, PlainHeader e)
    (hnew : PlainHeader (key, val)) : ∀ e ∈ (m.set key val).entries, PlainHeader e := by
  intro e he
  rcases MapType.mem_set he with rfl | ⟨e', he', rfl⟩
  · exact hnew
  · obtain ⟨hname, hreserved, hvalue⟩ := hm e' he'
    unfold MapType.put
    split
    · exact ⟨hname, hreserved, hnew.2.2⟩
    · exact ⟨hname, hreserved, hvalue⟩

/-- The headers that the user may give are plain. -/
theorem fill_plain (close : Bool) {headers : List (Bytes × Bytes)} (h : ∀ e ∈ headers, Allowed e) :
    ∀ e ∈ (fill close headers).headers.entries, PlainHeader e := by
  induction headers using List.reverseRecOn with
  | nil =>
    intro e he
    cases he
  | append_singleton headers i ih =>
    have hrest := ih fun e he => h e (List.mem_append_left _ he)
    have hlast := h i (List.mem_append_right _ List.mem_cons_self)
    rw [fill_snoc]
    unfold addHeader
    cases hconn : isConnection i with
    | true =>
      rw [if_pos rfl]
      split <;> exact hrest
    | false =>
      rw [if_neg Bool.false_ne_true]
      have hplain := hlast.resolve_left (by rw [hconn]; exact Bool.false_ne_true)
      exact MapType.set_plain hrest hplain

/-- So is the host. -/
theorem named_plain (close : Bool) {headers : List (Bytes × Bytes)} (h : ∀ e ∈ headers, Allowed e)
    {host : Bytes} (hhost : PlainValue host) :
    ∀ e ∈ ((fill close headers).named host).entries, PlainHeader e := by
  unfold Filling.named
  split
  · exact fill_plain close h
  · have htoken : Token (ascii "Host") := by decide
    have hreserved : ∀ n ∈ reservedNames, strcaseeq (ascii "Host") n = false := by decide
    exact MapType.set_plain (fill_plain close h) ⟨htoken, hreserved, hhost⟩

/-- Without a host of the caller's the host line has the other one. -/
theorem lookup_named (close : Bool) {headers : List (Bytes × Bytes)} (h : hostValues headers = [])
    (host : Bytes) :
    Headers.lookup ((fill close headers).named host).entries (ascii "host") = some host := by
  have hhosts := named_hosts close headers host
  rw [h, if_neg (by simp)] at hhosts
  unfold Headers.lookup
  rw [← List.head?_filter, ← List.head?_map]
  exact congrArg List.head? hhosts

/-! ## Section 2: The request -/

/-- The request for a URL, made at once or by a pool. -/
def requestVia (pool : Option PoolHost) (method : HttpMethod) (uri : Uri) (headers : Tcp.StringMap)
    (body : Bytes) : HttpRequest :=
  match pool with
  | none      => DoRequest method uri headers body
  | some pool => doRequest pool method uri headers body

/-- The host it falls back on. -/
def hostVia (pool : Option PoolHost) (uri : Uri) : Bytes :=
  match pool with
  | none      => uri.host
  | some pool => pool.host

/-- The same bytes as a request with the parts of the target. -/
def targetApart (r : HttpRequest) (uri : Uri) : HttpRequest :=
  { r with path := uri.getPath, query := uri.query, fragment := uri.fragment }

/-- What is sent, with the target written apart. -/
theorem header_targetApart (pool : Option PoolHost) (method : HttpMethod) (uri : Uri)
    (headers : Tcp.StringMap) (body : Bytes) :
    (requestVia pool method uri headers body).header false =
      (targetApart (requestVia pool method uri headers body) uri).header false := by
  cases pool with
  | none => rfl
  | some pool =>
    simp only [requestVia, doRequest, doRequestUrl, targetApart, HttpRequest.header,
      HttpRequest.new, if_true, List.append_nil, List.append_assoc]

/-- A path that can be sent begins with one slash. -/
theorem getPath_absolute {uri : Uri} (h : UriParser.Sendable uri)
    (hslash : ¬ [47, 47] <+: uri.path) :
    PathAbsolute uri.getPath := by
  unfold Uri.getPath
  rcases h.path with hnil | ⟨cs, hcs, hescaped⟩
  · rw [if_pos hnil]
    exact ⟨[], rfl, .nil, by simp⟩
  · rw [if_neg (by rw [hcs]; exact List.cons_ne_nil _ _)]
    refine ⟨cs, hcs, hescaped, ?_⟩
    intro hhead
    obtain ⟨rest, hrest⟩ := List.head?_eq_some_iff.mp hhead
    exact hslash ⟨rest, by rw [hcs, hrest]; rfl⟩

/-- The request that is sent is plain. -/
theorem plain_targetApart (pool : Option PoolHost) {method : HttpMethod} {uri : Uri}
    {headers : Tcp.StringMap} (body : Bytes) (huri : UriParser.Sendable uri)
    (hslash : ¬ [47, 47] <+: uri.path) (hmethod : ∀ c ∈ methodToString method, 65 ≤ c ∧ c ≤ 90)
    (hheaders : ∀ e ∈ headers.entries, Allowed e) (hhost : PlainValue (hostVia pool uri)) :
    (targetApart (requestVia pool method uri headers body) uri).Plain := by
  have hpath := getPath_absolute huri hslash
  cases pool with
  | none =>
    exact ⟨hmethod, hpath, huri.query, huri.fragment, Or.inr rfl, named_plain _ hheaders hhost,
      MapType.distinct _⟩
  | some pool =>
    exact ⟨hmethod, hpath, huri.query, huri.fragment, Or.inr rfl, named_plain _ hheaders hhost,
      MapType.distinct _⟩

/-- The server finds the host line that the loop made. -/
theorem sent_host (pool : Option PoolHost) (method : HttpMethod) (uri : Uri)
    {headers : Tcp.StringMap} (body : Bytes) (h : hostValues headers.entries = []) :
    (requestVia pool method uri headers body).sentHeaders.lookup (ascii "host") =
      some (hostVia pool uri) := by
  have hlookup : Headers.lookup (requestVia pool method uri headers body).headers (ascii "host") =
      some (hostVia pool uri) := by
    cases pool with
    | none => exact lookup_named _ h _
    | some pool => exact lookup_named _ h _
  have hconn : strcaseeq (ascii "connection") (ascii "host") = false := by decide
  unfold HttpRequest.sentHeaders Headers.lookup
  rw [List.append_assoc, List.cons_append, List.nil_append,
    List.find?_cons_of_neg (by simp [hconn]),
    List.find?_append]
  unfold Headers.lookup at hlookup
  cases hfind : (requestVia pool method uri headers body).headers.find? fun e =>
      strcaseeq e.1 (ascii "host") with
  | none =>
    rw [hfind] at hlookup
    cases hlookup
  | some e =>
    rw [hfind] at hlookup
    exact hlookup

/-! ## Section 3: What the server receives -/

/-- The path that a URL stands for; a reference has none to send. -/
def urlPath (c : Components) : Bytes :=
  if c.scheme.isSome && c.authority.isSome && c.path ≠ [] then c.path else ascii "/"

/-- The server has the components `c` of the URL, and what was sent besides. -/
structure Reached (c : Components) (pool : Option PoolHost) (given : Tcp.StringMap)
    (sent r : HttpRequest) : Prop where
  path     : r.path = urlPath c
  query    : r.query = c.query.getD []
  fragment : r.fragment = c.fragment.getD []
  host     : hostValues given.entries = [] → r.headers.lookup (ascii "host") =
               some (pool.elim ((c.authority.map Authority.host).getD []) PoolHost.host)
  headers  : r.headers = sent.sentHeaders
  rest     : r.method = sent.method ∧ r.version = sent.version ∧ r.close = sent.close ∧
               r.body = sent.body

/-- The path that the URL means. -/
theorem getPath_objectOf (c : Components) : (UriParser.objectOf c).getPath = urlPath c := by
  unfold Uri.getPath urlPath UriParser.objectOf
  dsimp only
  cases c.scheme.isSome && c.authority.isSome with
  | false => rfl
  | true =>
    by_cases hpath : c.path = []
    · simp [hpath]
    · simp [hpath]

end Http

namespace Http

def searchUrl : Bytes := ascii "http://u@h:81/a%2fb?k=v#top"

def searchUri : Uri :=
  ⟨ascii "http", ascii "u", ascii "h", ascii "/a%2fb", ascii "k=v", ascii "top", 81⟩

def searchHeaders : Tcp.StringMap :=
  (Tcp.StringMap.empty.insert (ascii "Accept", ascii "*")).insert (ascii "Connection", ascii "keep-alive")

def searchPool : Option PoolHost := some ⟨ascii "h", ascii "v"⟩

def searchEnv : Env := ⟨false, 7, fun val => if val = ascii "2" then some 2 else none⟩

end Http

open Http in
/-- Behind two slashes the server looks for an authority, and `a:b` is none. -/
example :
    let u : Uri := ⟨ascii "http", [], ascii "h", ascii "//a:b", [], [], 0⟩
    Uri.Create (ascii "http://h//a:b") = .uri u ∧
      (outcome (recvRequest searchEnv 4096
        [(requestVia none .GET u Tcp.StringMap.empty []).header false])).isOk = false := by
  decide +kernel

end MNSER
