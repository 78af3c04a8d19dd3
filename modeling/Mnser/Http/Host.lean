import Mathlib.Data.List.Induction
import Mnser.Http.Dump
import Mnser.Tcp.Conf
import Mnser.Uri.Model

/-! # The Host line of a request

    `HttpConnection::DoRequest` and `HttpConnectionPool::doRequest` fill the
    case-insensitive map of a request from a case-sensitive one.  The flag
    `has_host` stays set once a host value was not empty, but a later key in
    another spelling writes over the value it stands for. -/

namespace MNSER

namespace Http

/-! ## Section 1: Maps without case -/

/-- What `strcasecmp` compares. -/
def folded (s : Bytes) : Bytes := (cstr s).map tolower

def CaseInsensitiveLess (lhs rhs : Bytes) : Bool := decide (folded lhs < folded rhs)

/-- The order of the entries. -/
def keyLess (a b : Bytes × Bytes) : Bool := CaseInsensitiveLess a.1 b.1

/-- Two names are the same if they are the same in lower case. -/
theorem strcaseeq_iff (a b : Bytes) : strcaseeq a b = true ↔ folded a = folded b := beq_iff_eq

theorem strcaseeq_trans {a b c : Bytes} (hab : strcaseeq a b = true) (hbc : strcaseeq b c = true) :
    strcaseeq a c = true :=
  (strcaseeq_iff a c).mpr (((strcaseeq_iff a b).mp hab).trans ((strcaseeq_iff b c).mp hbc))

theorem keyLess_trans {a b c : Bytes × Bytes} (hab : keyLess a b = true) (hbc : keyLess b c = true) :
    keyLess a c = true :=
  decide_eq_true (List.lt_trans (of_decide_eq_true hab) (of_decide_eq_true hbc))

/-- The order tells names apart. -/
theorem keyLess_ne {a b : Bytes × Bytes} (hab : keyLess a b = true) : strcaseeq a.1 b.1 = false := by
  refine Bool.eq_false_iff.mpr ?_
  intro heq
  have hlt : folded a.1 < folded b.1 := of_decide_eq_true hab
  rw [(strcaseeq_iff a.1 b.1).mp heq] at hlt
  exact List.lt_irrefl _ hlt

/-- The comparator separates what `strcasecmp` does. -/
theorem equiv_keyLess {a b : Bytes × Bytes} (h : strcaseeq b.1 a.1 = false) :
    OrderedSet.equiv keyLess a b = false := by
  have hne : folded a.1 ≠ folded b.1 := by
    intro heq
    rw [(strcaseeq_iff b.1 a.1).mpr heq.symm] at h
    cases h
  by_cases hlt : folded a.1 < folded b.1
  · simp [OrderedSet.equiv, keyLess, CaseInsensitiveLess, hlt]
  · by_cases hgt : folded b.1 < folded a.1
    · simp [OrderedSet.equiv, keyLess, CaseInsensitiveLess, hgt]
    · exact absurd (List.le_antisymm (List.not_lt.mp hgt) (List.not_lt.mp hlt)) hne

/-- `std::map<std::string, std::string, CaseInsensitiveLess>` -/
structure MapType where
  entries : Headers
  sorted  : OrderedSet.Sorted keyLess entries
  deriving DecidableEq

namespace MapType

def empty : MapType := ⟨[], List.Pairwise.nil⟩

/-- A map has a name once. -/
theorem distinct (m : MapType) : m.entries.Distinct := m.sorted.imp keyLess_ne

/-- No other entry has a key that is equal without case. -/
theorem filter_eq_singleton (m : MapType) {e : Bytes × Bytes} {key : Bytes} (he : e ∈ m.entries)
    (hkey : strcaseeq e.1 key = true) : m.entries.filter (fun e => strcaseeq e.1 key) = [e] := by
  have hpair := m.distinct.filter fun e => strcaseeq e.1 key
  have hmem : e ∈ m.entries.filter fun e => strcaseeq e.1 key := List.mem_filter.mpr ⟨he, hkey⟩
  cases hfilter : m.entries.filter fun e => strcaseeq e.1 key with
  | nil =>
    rw [hfilter] at hmem
    cases hmem
  | cons a rest =>
    cases rest with
    | nil =>
      rw [hfilter] at hmem
      rw [List.mem_singleton.mp hmem]
    | cons b rest =>
      -- both would be equal to the key
      have ha : a ∈ m.entries.filter fun e => strcaseeq e.1 key := by simp [hfilter]
      have hb : b ∈ m.entries.filter fun e => strcaseeq e.1 key := by simp [hfilter]
      rw [hfilter] at hpair
      have hne := (List.pairwise_cons.mp hpair).1 b List.mem_cons_self
      have hbkey := (strcaseeq_comm key b.1).trans (List.mem_filter.mp hb).2
      rw [strcaseeq_trans (List.mem_filter.mp ha).2 hbkey] at hne
      cases hne

/-- An entry whose key is found gets the value and keeps its spelling. -/
def put (key val : Bytes) (e : Bytes × Bytes) : Bytes × Bytes :=
  if strcaseeq e.1 key then (e.1, val) else e

theorem put_fst (key val : Bytes) (e : Bytes × Bytes) : (put key val e).1 = e.1 := by
  unfold put
  split <;> rfl

/-- `m[key] = val` -/
def set (m : MapType) (key val : Bytes) : MapType where
  entries :=
    if m.entries.any fun e => strcaseeq e.1 key then m.entries.map (put key val)
    else OrderedSet.insert keyLess (key, val) m.entries
  sorted  := by
    split
    · refine List.pairwise_map.mpr (m.sorted.imp ?_)
      intro a b hab
      simpa [keyLess, put_fst] using hab
    · exact OrderedSet.sorted_insert (fun _ _ h h' => keyLess_trans h h') m.sorted

/-- A new key is the same as none of the map. -/
theorem absent {m : MapType} {key : Bytes}
    (h : m.entries.any (fun e => strcaseeq e.1 key) = false) (val : Bytes) :
    ∀ e ∈ m.entries, OrderedSet.equiv keyLess (key, val) e = false := by
  intro e he
  exact equiv_keyLess (Bool.eq_false_iff.mpr (List.any_eq_false.mp h e he))

/-- A key that is there gets the new value. -/
theorem set_found {m : MapType} {key : Bytes}
    (h : m.entries.any (fun e => strcaseeq e.1 key) = true) (val : Bytes) :
    (m.set key val).entries = m.entries.map (put key val) := if_pos h

/-- A key that is not there is inserted. -/
theorem set_absent {m : MapType} {key : Bytes}
    (h : m.entries.any (fun e => strcaseeq e.1 key) = false) (val : Bytes) :
    (m.set key val).entries = OrderedSet.insert keyLess (key, val) m.entries :=
  if_neg (ne_true_of_eq_false h)

/-- Entries under other keys stay as they are. -/
theorem filter_set {p : Bytes × Bytes → Bool} (m : MapType) {key : Bytes} (val : Bytes)
    (hp : ∀ e, strcaseeq e.1 key = true → p e = false) :
    (m.set key val).entries.filter p = m.entries.filter p := by
  cases hany : m.entries.any fun e => strcaseeq e.1 key with
  | true =>
    rw [set_found hany]
    clear hany
    induction m.entries with
    | nil => rfl
    | cons e es ih =>
      rw [List.map_cons, List.filter_cons, List.filter_cons, ih]
      cases he : strcaseeq e.1 key with
      | true =>
        have hput : p (put key val e) = false := hp _ (by rw [put_fst]; exact he)
        simp [hput, hp e he]
      | false => simp [put, he]
  | false =>
    rw [set_absent hany]
    exact OrderedSet.filter_insert (hp (key, val) ((strcaseeq_iff key key).mpr rfl)) _

/-- Under the key itself there is one entry, with the new value. -/
theorem filter_set_self (m : MapType) {key key' : Bytes} (val : Bytes)
    (hkey : strcaseeq key key' = true) :
    ∃ name, (m.set key val).entries.filter (fun e => strcaseeq e.1 key') = [(name, val)] := by
  have hmem : ∃ name, strcaseeq name key = true ∧ (name, val) ∈ (m.set key val).entries := by
    cases hany : m.entries.any fun e => strcaseeq e.1 key with
    | true =>
      rw [set_found hany]
      obtain ⟨e, he, heq⟩ := List.any_eq_true.mp hany
      refine ⟨e.1, heq, List.mem_map.mpr ⟨e, he, ?_⟩⟩
      exact if_pos heq
    | false =>
      rw [set_absent hany]
      refine ⟨key, (strcaseeq_iff key key).mpr rfl, ?_⟩
      exact (OrderedSet.mem_insert (absent hany val)).mpr (Or.inl rfl)
  obtain ⟨name, hname, hmem⟩ := hmem
  exact ⟨name, filter_eq_singleton (m.set key val) hmem (strcaseeq_trans hname hkey)⟩

end MapType

/-! ## Section 2: Filling a request -/

/-- What the loop over the caller's headers works on. -/
structure Filling where
  close    : Bool
  has_host : Bool
  headers  : MapType
  deriving DecidableEq

def isHost (e : Bytes × Bytes) : Bool := strcaseeq e.1 (ascii "host")

def isConnection (e : Bytes × Bytes) : Bool := strcaseeq e.1 (ascii "connection")

/-- The body of the loop. -/
def addHeader (req : Filling) (i : Bytes × Bytes) : Filling :=
  if isConnection i then
    if strcaseeq i.2 (ascii "keep-alive") then { req with close := false } else req
  else
    { req with
      has_host := if !req.has_host && isHost i then !i.2.isEmpty else req.has_host
      headers := req.headers.set i.1 i.2 }

def fill (close : Bool) (headers : List (Bytes × Bytes)) : Filling :=
  headers.foldl addHeader ⟨close, false, MapType.empty⟩

/-- `if(!has_host)` after the loop -/
def Filling.named (req : Filling) (host : Bytes) : MapType :=
  if req.has_host then req.headers else req.headers.set (ascii "Host") host

/-- `HttpConnection::DoRequest`: the request it sends. -/
def DoRequest (method : HttpMethod) (uri : Uri) (headers : Tcp.StringMap) (body : Bytes) :
    HttpRequest :=
  let req := fill HttpRequest.new.close headers.entries
  { HttpRequest.new with
    method, path := uri.getPath, query := uri.query, fragment := uri.fragment, close := req.close,
    headers := (req.named uri.host).entries, body }

/-- The hosts a pool was created with. -/
structure PoolHost where
  m_host  : Bytes
  m_vhost : Bytes
  deriving DecidableEq

/-- The host of a request for which the caller has none. -/
def PoolHost.host (pool : PoolHost) : Bytes :=
  if pool.m_vhost = [] then pool.m_host else pool.m_vhost

/-- `HttpConnectionPool::doRequest` with a url -/
def doRequestUrl (pool : PoolHost) (method : HttpMethod) (url : Bytes) (headers : Tcp.StringMap)
    (body : Bytes) : HttpRequest :=
  let req := fill false headers.entries
  { HttpRequest.new with
    method, path := url, close := req.close, headers := (req.named pool.host).entries, body }

/-- `HttpConnectionPool::doRequest` with a `Uri` -/
def doRequest (pool : PoolHost) (method : HttpMethod) (uri : Uri) (headers : Tcp.StringMap)
    (body : Bytes) : HttpRequest :=
  doRequestUrl pool method
    (uri.getPath ++ (if uri.query = [] then [] else ascii "?") ++ uri.query ++
      (if uri.fragment = [] then [] else ascii "#") ++ uri.fragment) headers body

/-! ## Section 3: The bytes line by line -/

namespace HttpRequest

def requestLine (r : HttpRequest) : Bytes :=
  methodToString r.method ++ ascii " " ++ r.path ++
    (if r.query = [] then [] else ascii "?") ++ r.query ++
    (if r.fragment = [] then [] else ascii "#") ++ r.fragment ++
    ascii " " ++ versionText r.version ++ crlf

/-- The header lines in the order in which `dump` writes them. -/
def lines (r : HttpRequest) : List (Bytes × Bytes) :=
  (ascii "connection", if r.close then ascii "close" else ascii "keep-alive") ::
    r.headers.filter (fun e => !isConnection e) ++
      if r.body = [] then [] else [(ascii "content-length", decimal r.body.length)]

/-- A message with these header lines. -/
def written (r : HttpRequest) (lines : List (Bytes × Bytes)) : Bytes :=
  r.requestLine ++ lines.flatMap (fun e => headerLine e.1 e.2) ++ crlf ++ r.body

/-- The lines that `dump` writes for the headers of the user. -/
theorem headerLines_eq (headers : Headers) :
    headerLines false headers =
      (headers.filter fun e => !isConnection e).flatMap fun e => headerLine e.1 e.2 := by
  induction headers with
  | nil => rfl
  | cons e es ih =>
    have hcons : headerLines false (e :: es) =
        (if isConnection e then [] else headerLine e.1 e.2) ++ headerLines false es := rfl
    rw [hcons, ih]
    cases h : isConnection e <;> simp [h]

/-- `dump`, with its header lines as a parameter. -/
theorem dump_eq_written (r : HttpRequest) : r.dump false = r.written r.lines := by
  have hlast : lastLines r.body =
      (if r.body = [] then [] else [(ascii "content-length", decimal r.body.length)]).flatMap
        (fun e : Bytes × Bytes => headerLine e.1 e.2) ++ crlf := by
    unfold lastLines
    by_cases h : r.body = [] <;> simp [h]
  simp only [dump, header, written, lines, requestLine, headerLines_eq, hlast, connectionLine,
    List.flatMap_append, List.flatMap_cons, List.append_assoc, Bool.false_eq_true, if_false,
    List.cons_append]

/-- The bytes without the host and connection lines. -/
def apart (r : HttpRequest) : Bytes :=
  r.written (r.lines.filter fun e => !isHost e && !isConnection e)

end HttpRequest

/-! ## Section 4: The map after the loop -/

/-- The host values that the caller gives, in the order of the map. -/
def hostValues (headers : List (Bytes × Bytes)) : List Bytes :=
  (headers.filter isHost).map Prod.snd

/-- A host header is no connection header. -/
theorem not_connection_of_host {e : Bytes × Bytes} (h : isHost e = true) : isConnection e = false := by
  have hhost := (strcaseeq_iff e.1 (ascii "host")).mp h
  refine Bool.eq_false_iff.mpr ?_
  intro hconn
  have hne : folded (ascii "host") ≠ folded (ascii "connection") := by decide
  exact hne (hhost.symm.trans ((strcaseeq_iff e.1 (ascii "connection")).mp hconn))

/-- The host headers of a list, from its end. -/
theorem hostValues_snoc (headers : List (Bytes × Bytes)) (i : Bytes × Bytes) :
    hostValues (headers ++ [i]) = hostValues headers ++ if isHost i then [i.2] else [] := by
  unfold hostValues
  rw [List.filter_append, List.map_append]
  cases h : isHost i <;> simp [h]

/-- The loop over the headers, from its end. -/
theorem fill_snoc (close : Bool) (headers : List (Bytes × Bytes)) (i : Bytes × Bytes) :
    fill close (headers ++ [i]) = addHeader (fill close headers) i := by
  unfold fill
  rw [List.foldl_append]
  rfl

/-- The flag and the host entry after the loop: the entry has the last value,
    the flag knows of every value. -/
structure HostState (req : Filling) (values : List Bytes) : Prop where
  has_host : req.has_host = values.any fun v => !v.isEmpty
  entry    : (req.headers.entries.filter isHost).map Prod.snd = values.getLast?.toList

/-- The map has one host header at most. -/
theorem filter_isHost_set (m : MapType) (i : Bytes × Bytes) :
    ((m.set i.1 i.2).entries.filter isHost).map Prod.snd =
      if isHost i then [i.2] else (m.entries.filter isHost).map Prod.snd := by
  cases hi : isHost i with
  | true =>
    obtain ⟨name, hname⟩ := m.filter_set_self i.2 hi
    have hfilter : (m.set i.1 i.2).entries.filter isHost = [(name, i.2)] := hname
    rw [hfilter]
    rfl
  | false =>
    rw [m.filter_set (p := isHost) i.2 ?_]
    · rfl
    · intro e he
      refine Bool.eq_false_iff.mpr ?_
      intro hhost
      have hhost' : isHost i = true := strcaseeq_trans ((strcaseeq_comm i.1 e.1).trans he) hhost
      rw [hi] at hhost'
      cases hhost'

/-- What the loop knows about the host headers it has seen. -/
theorem fill_hostState (close : Bool) (headers : List (Bytes × Bytes)) :
    HostState (fill close headers) (hostValues headers) := by
  induction headers using List.reverseRecOn with
  | nil => exact ⟨rfl, rfl⟩
  | append_singleton headers i ih =>
    rw [fill_snoc, hostValues_snoc]
    unfold addHeader
    cases hi : isHost i with
    | true =>
      rw [not_connection_of_host hi, if_neg Bool.false_ne_true]
      refine ⟨?_, ?_⟩
      · simp only [ih.has_host, List.any_append]
        cases h : (hostValues headers).any fun v => !v.isEmpty <;> simp
      · rw [filter_isHost_set, hi]
        simp
    | false =>
      cases hconn : isConnection i with
      | true =>
        rw [if_pos rfl]
        have hboth : HostState (fill close headers) (hostValues headers ++ []) := by
          rw [List.append_nil]
          exact ih
        cases strcaseeq i.2 (ascii "keep-alive") with
        | true => exact ⟨hboth.has_host, hboth.entry⟩
        | false => exact hboth
      | false =>
        refine ⟨?_, ?_⟩
        · simp [ih.has_host]
        · simp only [Bool.false_eq_true, if_false, List.append_nil]
          rw [filter_isHost_set, hi]
          exact ih.entry

/-- The loops differ in nothing but `m_close`. -/
theorem fill_headers (close close' : Bool) (headers : List (Bytes × Bytes)) :
    (fill close headers).headers = (fill close' headers).headers ∧
      (fill close headers).has_host = (fill close' headers).has_host := by
  induction headers using List.reverseRecOn with
  | nil => exact ⟨rfl, rfl⟩
  | append_singleton headers i ih =>
    rw [fill_snoc, fill_snoc]
    unfold addHeader
    cases isConnection i with
    | true => cases strcaseeq i.2 (ascii "keep-alive") <;> exact ih
    | false => simp [ih]

/-! ## Section 5: One Host line -/

/-- The value the line should have. -/
def wanted (headers : List (Bytes × Bytes)) (host : Bytes) : Bytes :=
  ((hostValues headers).filter fun v => !v.isEmpty).getLast?.getD host

/-- The request has one host line, with the value wanted, which is not empty. -/
def OneHost (r : HttpRequest) (headers : List (Bytes × Bytes)) (host : Bytes) : Prop :=
  ((r.lines.filter isHost).map Prod.snd = [wanted headers host]) ∧ wanted headers host ≠ []

instance (r : HttpRequest) (headers : List (Bytes × Bytes)) (host : Bytes) :
    Decidable (OneHost r headers host) := by
  unfold OneHost
  infer_instance

/-- The last host value is not empty; or all are, and there is a host to fall
    back on. -/
def LastCounts (headers : List (Bytes × Bytes)) (host : Bytes) : Prop :=
  (∃ v, (hostValues headers).getLast? = some v ∧ v ≠ []) ∨
    (∀ v ∈ hostValues headers, v = []) ∧ host ≠ []

/-- The added lines are no host lines. -/
theorem lines_hosts (r : HttpRequest) : r.lines.filter isHost = r.headers.filter isHost := by
  have hconn : isHost (ascii "connection", if r.close then ascii "close" else ascii "keep-alive")
      = false := by
    cases r.close <;> decide
  have hlength : (if r.body = [] then [] else
      [(ascii "content-length", decimal r.body.length)]).filter isHost = [] := by
    by_cases hbody : r.body = []
    · simp [hbody]
    · have hkey : strcaseeq (ascii "content-length") (ascii "host") = false := by decide
      have hname : isHost (ascii "content-length", decimal r.body.length) = false := hkey
      simp [hbody, hname]
  rw [HttpRequest.lines, List.filter_append, List.filter_cons, hconn, hlength, List.append_nil,
    if_neg Bool.false_ne_true, List.filter_filter]
  refine List.filter_congr ?_
  intro e _
  cases he : isHost e with
  | false => rfl
  | true => simp [not_connection_of_host he]

/-- The host header of the request that is sent. -/
theorem named_hosts (close : Bool) (headers : List (Bytes × Bytes)) (host : Bytes) :
    (((fill close headers).named host).entries.filter isHost).map Prod.snd =
      if (hostValues headers).any fun v => !v.isEmpty then (hostValues headers).getLast?.toList
      else [host] := by
  have hstate := fill_hostState close headers
  unfold Filling.named
  rw [hstate.has_host]
  split
  · exact hstate.entry
  · have hset := filter_isHost_set (fill close headers).headers (ascii "Host", host)
    have hkey : strcaseeq (ascii "Host") (ascii "host") = true := by decide
    have hname : isHost (ascii "Host", host) = true := hkey
    rw [hname] at hset
    exact hset

theorem any_nonempty_iff (values : List Bytes) :
    (values.any fun v => !v.isEmpty) = true ↔ ∃ v ∈ values, v ≠ [] := by
  simp [List.any_eq_true]

/-- Empty host headers are as good as none. -/
theorem wanted_of_empty {headers : List (Bytes × Bytes)} (host : Bytes)
    (h : ∀ v ∈ hostValues headers, v = []) : wanted headers host = host := by
  have hnil : ((hostValues headers).filter fun v => !v.isEmpty) = [] := by
    refine List.filter_eq_nil_iff.mpr ?_
    intro v hv
    simp [h v hv]
  simp [wanted, hnil]

/-- The last host header counts if it is not empty. -/
theorem wanted_of_last {headers : List (Bytes × Bytes)} (host : Bytes) {v : Bytes}
    (hlast : (hostValues headers).getLast? = some v) (hv : v ≠ []) : wanted headers host = v := by
  obtain ⟨front, hfront⟩ := List.getLast?_eq_some_iff.mp hlast
  rw [wanted, hfront, List.filter_append]
  simp [hv]

/-- A request filled by the loop has its host line right under this condition. -/
theorem oneHost_iff {r : HttpRequest} {close : Bool} {headers : List (Bytes × Bytes)} {host : Bytes}
    (hr : r.headers = ((fill close headers).named host).entries) :
    OneHost r headers host ↔ LastCounts headers host := by
  unfold OneHost
  rw [lines_hosts, hr, named_hosts]
  by_cases hany : ∃ v ∈ hostValues headers, v ≠ []
  · rw [if_pos ((any_nonempty_iff _).mpr hany)]
    obtain ⟨w, hw, hwne⟩ := hany
    have hnotall : ¬ ∀ v ∈ hostValues headers, v = [] := fun h => hwne (h w hw)
    cases hlast : (hostValues headers).getLast? with
    | none =>
      rw [List.getLast?_eq_none_iff.mp hlast] at hw
      cases hw
    | some v =>
      constructor
      · rintro ⟨hvalue, hne⟩
        have hv : v = wanted headers host := by simpa using hvalue
        exact Or.inl ⟨v, hlast, hv ▸ hne⟩
      · rintro (⟨v', hv', hne⟩ | ⟨hall, -⟩)
        · obtain rfl := Option.some.inj (hlast.symm.trans hv')
          have hwanted := wanted_of_last host hlast hne
          exact ⟨by simp [hwanted], hwanted ▸ hne⟩
        · exact absurd hall hnotall
  · have hall : ∀ v ∈ hostValues headers, v = [] := by
      intro v hv
      by_contra hne
      exact hany ⟨v, hv, hne⟩
    rw [if_neg (fun h => hany ((any_nonempty_iff _).mp h)), wanted_of_empty host hall]
    constructor
    · rintro ⟨-, hne⟩
      exact Or.inr ⟨hall, hne⟩
    · rintro (⟨v, hv, hne⟩ | ⟨-, hne⟩)
      · exact absurd (hall v (List.mem_of_getLast? hv)) hne
      · exact ⟨rfl, hne⟩

/-! ## Section 6: The same bytes -/

/-- Who has no host entry in view sees the same map after the loop. -/
theorem named_filter {p : Bytes × Bytes → Bool} (hp : ∀ e, isHost e = true → p e = false)
    (req : Filling) (host : Bytes) :
    (req.named host).entries.filter p = req.headers.entries.filter p := by
  unfold Filling.named
  split
  · rfl
  · refine MapType.filter_set _ _ ?_
    intro e he
    refine hp e (strcaseeq_trans he ?_)
    decide

/-- Two requests are the same apart from their host header. -/
theorem apart_eq {r r' : HttpRequest} (hline : r.requestLine = r'.requestLine)
    (hbody : r.body = r'.body)
    (hheaders : r.headers.filter (fun e => !isHost e && !isConnection e) =
      r'.headers.filter (fun e => !isHost e && !isConnection e)) : r.apart = r'.apart := by
  have hconn : ∀ v, (!isHost (ascii "connection", v) && !isConnection (ascii "connection", v))
      = false := by
    intro v
    have hkey : strcaseeq (ascii "connection") (ascii "connection") = true := by decide
    have hname : isConnection (ascii "connection", v) = true := hkey
    simp [hname]
  have hlines : ∀ s : HttpRequest, s.lines.filter (fun e => !isHost e && !isConnection e) =
      s.headers.filter (fun e => !isHost e && !isConnection e) ++
        (if s.body = [] then [] else [(ascii "content-length", decimal s.body.length)]).filter
          (fun e => !isHost e && !isConnection e) := by
    intro s
    rw [HttpRequest.lines, List.filter_append, List.filter_cons, hconn,
      if_neg Bool.false_ne_true, List.filter_filter]
    congr 1
    refine List.filter_congr ?_
    intro e _
    cases isHost e <;> cases isConnection e <;> rfl
  unfold HttpRequest.apart HttpRequest.written
  rw [hlines r, hlines r', hheaders, hbody, hline]

/-- The two paths make the same of everything else. -/
theorem apart_same (pool : PoolHost) (method : HttpMethod) (uri : Uri) (headers : Tcp.StringMap)
    (body : Bytes) :
    (DoRequest method uri headers body).apart = (doRequest pool method uri headers body).apart := by
  refine apart_eq ?_ rfl ?_
  · by_cases hquery : uri.query = [] <;> by_cases hfragment : uri.fragment = [] <;>
      simp [HttpRequest.requestLine, DoRequest, doRequest, doRequestUrl, HttpRequest.new, hquery,
        hfragment]
  · have hp : ∀ e, isHost e = true → (!isHost e && !isConnection e) = false := by
      intro e he
      simp [he]
    simp only [DoRequest, doRequest, doRequestUrl]
    rw [named_filter hp, named_filter hp, (fill_headers HttpRequest.new.close false _).1]

end Http

namespace Http

/-- `{"HOST": "a", "host": ""}` -/
def twoHosts : Tcp.StringMap :=
  (Tcp.StringMap.empty.insert (ascii "HOST", ascii "a")).insert (ascii "host", [])

def hostUri : Uri := { Uri.new with scheme := ascii "http", host := ascii "b" }

end Http

end MNSER
