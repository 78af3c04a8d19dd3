import Mnser.Framework.System
import Mnser.Http.Cuts
import Mnser.Http.RequestRoundTrip
import Mnser.Http.Server
import Mnser.Http.Servlet
import Mnser.Uri.RoundTrip

/-! # A client and a server on one connection

    `HttpConnection::sendRequest` and `recvResponse` at one end,
    `HttpServer::handleClient` at the other.  What one end writes the other
    end reads in pieces that the network chooses.  The client sends a request
    and waits for its response before it sends the next one. -/

namespace MNSER

namespace Http

open Scanner

/-! ## Section 1: A whole message in pieces -/

/-- All of the stream belongs to the body. -/
theorem recvBody_all {buffer : Bytes} {s : Stream} {length : Nat} (hs : Flowing s)
    (hlength : (buffer ++ s.flatten).length = length) (hsmall : length < 2 ^ 31) :
    recvBody length buffer s = .ok (buffer ++ s.flatten, []) := by
  -- a stream without empty reads and without bytes is at its end
  have hempty : ∀ s' : Stream, Flowing s' → s'.flatten = [] → s' = [] := by
    intro s' hs' hflat
    cases s' with
    | nil => rfl
    | cons c cs => exact absurd (List.append_eq_nil_iff.mp hflat).1 (hs' c List.mem_cons_self)
  rw [List.length_append] at hlength
  by_cases hle : length ≤ buffer.length
  · -- nothing is left to be read
    have hnil : s.flatten = [] := by
      apply List.eq_nil_of_length_eq_zero
      omega
    rw [recvBody_buffered s (by omega), hempty s hs hnil, Int.toNat_natCast,
      List.take_of_length_le (by omega)]
    simp
  · have hread := readFixSize_spec hs (length - buffer.length)
    rw [if_pos (by omega)] at hread
    obtain ⟨s', hread, hflat, hs'⟩ := hread
    have hnil : s' = [] := by
      apply hempty s' hs'
      rw [hflat, List.drop_of_length_le (by omega)]
    have hleft : ((length : Int) - buffer.length).toNat = length - buffer.length := by omega
    have hpositive : ¬ toInt (length - buffer.length) ≤ 0 := by
      rw [toInt_of_lt (by omega)]
      omega
    unfold recvBody
    dsimp only
    rw [if_pos (show (buffer.length : Int) ≤ length by omega),
      if_pos (show 0 < (length : Int) - buffer.length by omega), hleft, hread]
    dsimp only
    rw [if_neg hpositive, hnil, List.take_of_length_le (by omega)]

/-- The request as the server has it. -/
def HttpRequest.arrived (r : HttpRequest) : HttpRequest := { r with headers := r.sentHeaders }

/-- A request that comes in pieces none of which ends inside a token. -/
theorem recvRequest_pieces {env : Env} (henv : env.uri_relaxed = false) {n : Nat} (hn : n < 2 ^ 31)
    {r : HttpRequest} (hr : r.Plain) (hbody : r.body.length < 2 ^ 31)
    (hcast : env.lexical_cast (decimal r.body.length) = some r.body.length.toUInt64)
    {reads : Stream} (hreads : ∀ c ∈ reads, c ≠ [] ∧ c.length ≤ n)
    (hdump : reads.flatten = r.dump false) (huncut : NoTokenCut env reads) :
    recvRequest env n reads = .ok (r.arrived, []) := by
  obtain ⟨regs, hscan⟩ := scan_request henv hr r.body
  obtain ⟨result, hresult⟩ := parse_total env reads.flatten
  have houtcome := headerOutcome_pieces hn hreads huncut hresult
  -- in pieces the header is scanned as in one piece
  rw [parse, hdump, HttpRequest.dump, hscan] at hresult
  have hfinal : HttpParser.http_parser_first_final ≤ 348 := by decide
  rw [← Option.some.inj hresult, HeaderOutcome, if_pos ⟨rfl, hfinal⟩] at houtcome
  obtain ⟨parser, buffer, rest, hheader, hdata, hflat, hrest⟩ := houtcome
  rw [hdump, HttpRequest.dump, List.drop_left] at hflat
  have hlookup := sent_length hr
  have hinit := init_received r
  unfold recvRequest
  rw [hheader]
  simp only [finishRequest, HttpRequestParser.getContentLength, hdata]
  rw [show r.received.headers = r.sentHeaders from rfl, hlookup]
  by_cases hnil : r.body = []
  · have hzero : ¬ 0 < toInt64 (0 : UInt64).toNat := by decide
    simp only [if_pos hnil, if_neg hzero]
    rw [hnil] at hflat
    have hend := recvBody_all hrest (congrArg List.length hflat) (by decide)
    have hsame := hinit []
    rw [show { r.received with body := [] } = r.received from rfl] at hsame
    rw [hsame, HttpRequest.arrived, ← hnil]
    rw [recvBody_buffered rest (by simp)] at hend
    rw [(Prod.mk.inj (Except.ok.inj hend)).2]
  · have hpos : (0 : Int) < r.body.length := Int.natCast_pos.mpr (List.length_pos_iff.mpr hnil)
    have hread := recvBody_all hrest (congrArg List.length hflat) hbody
    simp only [if_neg hnil, hcast, Option.getD_some, toInt64_length hbody, if_pos hpos, hread,
      hflat]
    exact congrArg Except.ok (congrArg (·, []) (hinit r.body))

/-- The response as the client has it. -/
def HttpResponse.arrived (r : HttpResponse) (m_close : Bool) : HttpResponse :=
  { r with reason := r.reasonText, headers := sentHeaders r.headers m_close r.body }

/-- A response that comes in pieces none of which ends inside a token. -/
theorem recvResponse_pieces {lexical_cast : Bytes → Option UInt64} {n : Nat} (hn : n < 2 ^ 31)
    {r : HttpResponse} (hr : r.Plain) (m_close : Bool) (hbody : r.body.length < 2 ^ 31)
    (hcast : lexical_cast (decimal r.body.length) = some r.body.length.toUInt64)
    (hfits : (r.header m_close false []).length ≤ n) {reads : Stream} (hreads : Flowing reads)
    (hdump : reads.flatten = r.dump m_close false [])
    (huncut : unbroken HttpClientParser.step HttpClientParser.origin HttpClientParser.uses
      HttpClientParser.httpclient_parser_start reads = true) :
    recvResponse lexical_cast n reads = .ok (r.arrived m_close, []) := by
  obtain ⟨regs, d, hscan, hresponse, herror, hchunked⟩ := scan_response hr m_close r.body
  have hlong : (r.header m_close false []).length ≤ reads.flatten.length := by
    rw [hdump, HttpResponse.dump, List.length_append]
    exact Nat.le_add_right _ _
  rw [← HttpResponse.dump, ← hdump] at hscan
  obtain ⟨parser, hheader, rfl⟩ :=
    @recvHeader_cut n hn reads.flatten _ herror _ reads 0 _ _ HttpResponseParser.new _ hreads
      List.drop_zero huncut going_start hfits (Nat.lt_succ_self _)
      (by rw [Nat.zero_add]; exact hscan)
  obtain ⟨hflat, hflowing, -, -⟩ := readPast_flowing hreads hfits hlong
  rw [hdump, HttpResponse.dump, List.drop_left] at hflat
  have hreserved : ascii "content-length" ∈ reservedNames := by decide
  have hlookup := lookup_sent (hr.lines hreserved) m_close r.body
  have hheader' : recvHeader responseParser n (fuelFor reads) HttpResponseParser.new [] reads =
      .ok (parser, readPast n (r.header m_close false []).length reads) := hheader
  generalize readPast n (r.header m_close false []).length reads = past at hheader' hflat hflowing
  obtain ⟨buffer, rest⟩ := past
  dsimp only at hflat hflowing
  simp only [recvResponse, hheader', finishResponse, hchunked, Bool.false_eq_true, if_false,
    HttpResponseParser.getContentLength, hresponse, HttpResponse.received, hlookup]
  -- without a body no content-length is sent, and none is waited for
  by_cases hnil : r.body = []
  · have hzero : ¬ 0 < toInt64 (0 : UInt64).toNat := by decide
    simp only [if_pos hnil, if_neg hzero]
    rw [hnil] at hflat
    have hend := recvBody_all hflowing (congrArg List.length hflat) (by decide)
    rw [recvBody_buffered rest (by simp)] at hend
    rw [(Prod.mk.inj (Except.ok.inj hend)).2, HttpResponse.arrived, hnil]
  · have hpos : (0 : Int) < r.body.length := Int.natCast_pos.mpr (List.length_pos_iff.mpr hnil)
    have hread := recvBody_all hflowing (congrArg List.length hflat) hbody
    simp only [if_neg hnil, hcast, Option.getD_some, toInt64_length hbody, if_pos hpos, hread,
      hflat]
    rfl

/-! ## Section 2: The two ends -/

variable {Servlet Other : Type}

/-- `slt rsp` is what the servlet makes of the response. -/
def ServletDispatch.handle {R : Type} (make : Other → Option Servlet)
    (fnmatch : Bytes → Bytes → Bool) (s : ServletDispatch Servlet Other) (slt : Servlet → R → R)
    (path : Bytes) (rsp : R) : R :=
  match s.getMatchedServlet make fnmatch path with
  | some servlet => slt servlet rsp
  | none         => rsp

/-- What does not change while the connection lasts.  Servlets may have a state
    of their own: `run k` is what they do in round `k` of `handleClient`. -/
structure Peers (Servlet Other : Type) where
  server      : HttpServer
  dispatch    : ServletDispatch Servlet Other
  make        : Other → Option Servlet
  fnmatch     : Bytes → Bytes → Bool
  run         : Nat → Servlet → Dispatch → Dispatch
  env         : Nat → Env
  server_buff : Nat
  client_buff : Nat
  client_cast : Bytes → Option UInt64

/-- The bytes on their way as the other end will read them, and what the two
    programs have got so far; `none` is a response that did not come. -/
structure Exchange where
  toServer   : Stream
  toClient   : Stream
  sent       : List HttpRequest
  handled    : List Dispatch
  received   : List (Option HttpResponse)
  waiting    : Bool
  serverOpen : Bool
  clientOpen : Bool

inductive ExchangeLabel where
  /-- `HttpConnection::sendRequest` -/
  | sendRequest (req : HttpRequest) (reads : Stream)
  /-- a round of the loop in `handleClient` -/
  | handleClient (reads : Stream)
  /-- `HttpConnection::recvResponse` -/
  | recvResponse

/-- What a round of the server sends. -/
def ExchangeLabel.answer? : ExchangeLabel → Option Stream
  | .handleClient reads => some reads
  | _ => none

namespace Peers

/-- What the servlets leave of the response of round `k`. -/
def answer (x : Peers Servlet Other) (k : Nat) (req : HttpRequest) : Dispatch :=
  x.dispatch.handle x.make x.fnmatch (x.run k) req.path (x.server.respond req)

/-- The round ends the loop. -/
def closes (x : Peers Servlet Other) (req : HttpRequest) : Bool := !x.server.keepalive || req.close

def recv (x : Peers Servlet Other) (s : Exchange) : Except Failure (HttpRequest × Stream) :=
  Http.recvRequest (x.env s.handled.length) x.server_buff s.toServer

def next (x : Peers Servlet Other) (s : Exchange) : ExchangeLabel → Option Exchange
  | .sendRequest req reads =>
    if s.clientOpen && !s.waiting && reads.flatten == req.dump false then
      some { s with
        toServer := s.toServer ++ reads
        sent     := s.sent ++ [req]
        waiting  := true }
    else none
  | .handleClient reads =>
    -- while there is nothing to read the server waits
    if s.serverOpen && !s.toServer.isEmpty then
      match x.recv s with
      | .error _ => some { s with toServer := [], serverOpen := false }
      | .ok (req, rest) =>
        let rsp := x.answer s.handled.length req
        if reads.flatten == rsp.rsp.dump rsp.close false [] then
          some { s with
            toServer   := rest
            toClient   := s.toClient ++ reads
            handled    := s.handled ++ [x.server.respond req]
            serverOpen := !x.closes req }
        else none
    else none
  | .recvResponse =>
    if s.waiting && (!s.toClient.isEmpty || !s.serverOpen) then
      match Http.recvResponse x.client_cast x.client_buff s.toClient with
      | .error _ => some { s with
          toClient   := []
          received   := s.received ++ [none]
          waiting    := false
          clientOpen := false }
      | .ok (rsp, rest) => some { s with
          toClient := rest
          received := s.received ++ [some rsp]
          waiting  := false }
    else none

def system (x : Peers Servlet Other) : LTS.System Exchange ExchangeLabel where
  init s := s = ⟨[], [], [], [], [], false, true, true⟩
  next   := x.next

/-! ## Section 3: What should be received -/

/-- The response to request number `k`. -/
def response (x : Peers Servlet Other) (k : Nat) (req : HttpRequest) : HttpResponse :=
  (x.answer k req.arrived).rsp.arrived (x.answer k req.arrived).close

/-- Every request has the response of its own round, up to one that closes. -/
def responses (x : Peers Servlet Other) : Nat → List HttpRequest → List (Option HttpResponse)
  | _, [] => []
  | k, req :: reqs =>
    some (x.response k req) ::
      if x.closes req then reqs.map fun _ => none else x.responses (k + 1) reqs

/-- What the servlets are given for a request. -/
def dispatched (x : Peers Servlet Other) (req : HttpRequest) : Dispatch :=
  x.server.respond req.arrived

/-- What the model leaves open: both ends read announced lengths right, and the
    parsers find `uri_relaxed` unset. -/
structure Sound (x : Peers Servlet Other) : Prop where
  server_buff : x.server_buff < 2 ^ 31
  client_buff : x.client_buff < 2 ^ 31
  relaxed     : ∀ i, (x.env i).uri_relaxed = false
  server_cast : ∀ i k, k < 2 ^ 31 → (x.env i).lexical_cast (decimal k) = some k.toUInt64
  client_cast : ∀ k, k < 2 ^ 31 → x.client_cast (decimal k) = some k.toUInt64

/-- A request that can be sent, in pieces that do not end inside a token. -/
structure Sendable (x : Peers Servlet Other) (req : HttpRequest) (reads : Stream) : Prop where
  plain  : req.Plain
  body   : req.body.length < 2 ^ 31
  pieces : ∀ c ∈ reads, c ≠ [] ∧ c.length ≤ x.server_buff
  uncut  : ∀ env : Env, env.uri_relaxed = false → NoTokenCut env reads

/-- A response that can be sent, in pieces that do not end inside a token. -/
structure Answerable (x : Peers Servlet Other) (rsp : Dispatch) (reads : Stream) : Prop where
  plain  : rsp.rsp.Plain
  body   : rsp.rsp.body.length < 2 ^ 31
  fits   : (rsp.rsp.header rsp.close false []).length ≤ x.client_buff
  pieces : Flowing reads
  uncut  : unbroken HttpClientParser.step HttpClientParser.origin HttpClientParser.uses
             HttpClientParser.httpclient_parser_start reads = true

instance (r : HttpResponse) : Decidable r.Plain :=
  decidable_of_iff (_ ∧ _ ∧ _ ∧ _ ∧ _)
    ⟨fun h => ⟨h.1, h.2.1, h.2.2.1, h.2.2.2.1, h.2.2.2.2⟩,
      fun h => ⟨h.version, h.status, h.reason, h.headers, h.distinct⟩⟩

instance (x : Peers Servlet Other) (rsp : Dispatch) (reads : Stream) :
    Decidable (x.Answerable rsp reads) :=
  decidable_of_iff (_ ∧ _ ∧ _ ∧ _ ∧ _)
    ⟨fun h => ⟨h.1, h.2.1, h.2.2.1, h.2.2.2.1, h.2.2.2.2⟩,
      fun h => ⟨h.plain, h.body, h.fits, h.pieces, h.uncut⟩⟩

/-- What is sent can be read back. -/
def Orderly (x : Peers Servlet Other) (s : Exchange) : ExchangeLabel → Prop
  | .sendRequest req reads => x.Sendable req reads
  | .handleClient reads =>
    ∀ req rest, x.recv s = .ok (req, rest) → x.Answerable (x.answer s.handled.length req) reads
  | .recvResponse => True

instance (x : Peers Servlet Other) (s : Exchange) (reads : Stream) :
    Decidable (x.Orderly s (.handleClient reads)) :=
  match h : x.recv s with
  | .error _ => isTrue fun _ _ hok => by rw [h] at hok; cases hok
  | .ok (req, _) =>
    decidable_of_iff (x.Answerable (x.answer s.handled.length req) reads)
      ⟨fun hreads _ _ hok => by rw [h] at hok; cases hok; exact hreads, fun hall => hall _ _ h⟩

/-- As long as nobody closes, the responses come one after the other. -/
theorem responses_append (x : Peers Servlet Other) (reqs : List HttpRequest)
    {done : List HttpRequest} (hdone : ∀ r ∈ done, x.closes r = false) (k : Nat) :
    x.responses k (done ++ reqs) = x.responses k done ++ x.responses (k + done.length) reqs := by
  induction done generalizing k with
  | nil => rfl
  | cons r rs ih =>
    have hr : x.closes r = false := hdone r List.mem_cons_self
    have hrs := ih (fun r' hr' => hdone r' (List.mem_cons_of_mem _ hr')) (k + 1)
    simp only [List.cons_append, responses, hr, Bool.false_eq_true, if_false, hrs, List.length_cons]
    rw [Nat.add_assoc, Nat.add_comm 1]

/-- The response of one more request. -/
theorem responses_snoc (x : Peers Servlet Other) (r : HttpRequest) {done : List HttpRequest}
    (hdone : ∀ r ∈ done, x.closes r = false) :
    x.responses 0 (done ++ [r]) =
      x.responses 0 done ++ [some (x.response done.length r)] := by
  rw [x.responses_append [r] hdone, Nat.zero_add]
  simp [responses]

/-- Behind a request that closes comes nothing. -/
theorem responses_closed (x : Peers Servlet Other) {r : HttpRequest} (r' : HttpRequest)
    (hr : x.closes r = true) {done : List HttpRequest} (hdone : ∀ r ∈ done, x.closes r = false) :
    x.responses 0 (done ++ [r, r']) = x.responses 0 (done ++ [r]) ++ [none] := by
  rw [x.responses_append [r, r'] hdone, x.responses_append [r] hdone, List.append_assoc]
  simp [responses, hr]

/-! ## Section 4: The phases of an exchange -/

inductive Phase (x : Peers Servlet Other) : Exchange → Prop where
  | idle (done : List HttpRequest) : (∀ r ∈ done, x.closes r = false) →
      Phase x ⟨[], [], done, done.map x.dispatched, x.responses 0 done, false, true, true⟩
  | requested (done : List HttpRequest) (r : HttpRequest) (reads : Stream) :
      (∀ r ∈ done, x.closes r = false) → x.Sendable r reads → reads.flatten = r.dump false →
      Phase x ⟨reads, [], done ++ [r], done.map x.dispatched, x.responses 0 done, true, true, true⟩
  | answered (done : List HttpRequest) (r : HttpRequest) (reads : Stream) :
      (∀ r ∈ done, x.closes r = false) → x.Answerable (x.answer done.length r.arrived) reads →
      reads.flatten = (x.answer done.length r.arrived).rsp.dump
        (x.answer done.length r.arrived).close false [] →
      Phase x ⟨[], reads, done ++ [r], (done ++ [r]).map x.dispatched, x.responses 0 done, true,
        !x.closes r, true⟩
  | closing (done : List HttpRequest) (r : HttpRequest) :
      (∀ r ∈ done, x.closes r = false) → x.closes r = true →
      Phase x ⟨[], [], done ++ [r], (done ++ [r]).map x.dispatched, x.responses 0 (done ++ [r]),
        false, false, true⟩
  -- a request that the server does not read any more
  | unheard (done : List HttpRequest) (r r' : HttpRequest) (reads : Stream) :
      (∀ r ∈ done, x.closes r = false) → x.closes r = true →
      Phase x ⟨reads, [], done ++ [r, r'], (done ++ [r]).map x.dispatched,
        x.responses 0 (done ++ [r]), true, false, true⟩
  | closed (done : List HttpRequest) (r r' : HttpRequest) (reads : Stream) :
      (∀ r ∈ done, x.closes r = false) → x.closes r = true →
      Phase x ⟨reads, [], done ++ [r, r'], (done ++ [r]).map x.dispatched,
        x.responses 0 (done ++ [r, r']), false, false, false⟩

/-- A request is at least one byte. -/
theorem request_ne_nil (r : HttpRequest) : r.dump false ≠ [] := by
  rw [HttpRequest.dump, r.header_eq]
  simp [HttpRequest.front, ascii]

/-- So is a response. -/
theorem response_ne_nil (r : HttpResponse) (m_close : Bool) : r.dump m_close false [] ≠ [] := by
  rw [HttpResponse.dump, r.header_eq]
  simp [HttpResponse.front, versionText, ascii]

theorem isEmpty_flatten {reads : Stream} {bytes : Bytes} (hflat : reads.flatten = bytes)
    (hbytes : bytes ≠ []) : reads.isEmpty = false := by
  cases reads with
  | nil => exact absurd hflat.symm hbytes
  | cons c cs => rfl

/-- A request is sent. -/
theorem phase_send {x : Peers Servlet Other} {s t : Exchange} (h : x.Phase s)
    {req : HttpRequest} {reads : Stream}
    (hreads : x.Sendable req reads) (hnext : x.next s (.sendRequest req reads) = some t) :
    x.Phase t := by
  simp only [next] at hnext
  split at hnext
  · rename_i henabled
    simp only [Bool.and_eq_true, Bool.not_eq_true', beq_iff_eq] at henabled
    obtain ⟨⟨hopen, hquiet⟩, hflat⟩ := henabled
    obtain rfl := Option.some.inj hnext
    cases h with
    | idle done hdone => exact .requested done req reads hdone hreads hflat
    | closing done r hdone hr =>
      have hsent : done ++ [r] ++ [req] = done ++ [r, req] := by simp
      dsimp only
      rw [hsent]
      exact .unheard done r req reads hdone hr
    | requested done r reads' hdone hsend hflat' => cases hquiet
    | answered done r reads' hdone hsend hflat' => cases hquiet
    | unheard done r r' reads' hdone hr => cases hquiet
    | closed done r r' reads' hdone hr => cases hopen
  · cases hnext

section steps

variable {x : Peers Servlet Other} (hx : x.Sound)
include hx

/-- The server gets the request that was sent. -/
theorem recv_requested {r : HttpRequest} {s : Exchange} (hsend : x.Sendable r s.toServer)
    (hflat : s.toServer.flatten = r.dump false) : x.recv s = .ok (r.arrived, []) := by
  have hrelaxed := hx.relaxed s.handled.length
  exact recvRequest_pieces hrelaxed hx.server_buff hsend.plain hsend.body
    (hx.server_cast _ _ hsend.body) hsend.pieces hflat (hsend.uncut _ hrelaxed)

/-- The client gets the response that was sent. -/
theorem recv_answered {rsp : Dispatch} {reads : Stream} (hsend : x.Answerable rsp reads)
    (hflat : reads.flatten = rsp.rsp.dump rsp.close false []) :
    Http.recvResponse x.client_cast x.client_buff reads =
      .ok (rsp.rsp.arrived rsp.close, []) :=
  recvResponse_pieces hx.client_buff hsend.plain rsp.close hsend.body
    (hx.client_cast _ hsend.body) hsend.fits hsend.pieces hflat hsend.uncut

/-- The server reads it and answers. -/
theorem phase_handle {s t : Exchange} (h : x.Phase s) {reads : Stream}
    (hreads : x.Orderly s (.handleClient reads))
    (hnext : x.next s (.handleClient reads) = some t) : x.Phase t := by
  simp only [next] at hnext
  split at hnext
  · rename_i henabled
    simp only [Bool.and_eq_true, Bool.not_eq_true'] at henabled
    obtain ⟨hopen, hsome⟩ := henabled
    cases h with
    | requested done r reads' hdone hsend hflat =>
      have hrecv := recv_requested hx (s := ⟨reads', [], done ++ [r], done.map x.dispatched,
        x.responses 0 done, true, true, true⟩) hsend hflat
      rw [hrecv] at hnext
      dsimp only at hnext
      split at hnext
      · rename_i hdump
        obtain rfl := Option.some.inj hnext
        have hanswerable := hreads _ _ hrecv
        simp only [List.length_map, beq_iff_eq] at hanswerable hdump
        have hphase := Phase.answered done r reads hdone hanswerable hdump
        rw [List.map_append] at hphase
        exact hphase
      · cases hnext
    | idle done hdone => cases hsome
    | answered done r reads' hdone hsend hflat => cases hsome
    | closing done r hdone hr => cases hsome
    | unheard done r r' reads' hdone hr => cases hopen
    | closed done r r' reads' hdone hr => cases hopen
  · cases hnext

/-- The client reads the answer. -/
theorem phase_recv {s t : Exchange} (h : x.Phase s)
    (hnext : x.next s .recvResponse = some t) : x.Phase t := by
  simp only [next] at hnext
  split at hnext
  · rename_i henabled
    simp only [Bool.and_eq_true] at henabled
    obtain ⟨hwaiting, hsome⟩ := henabled
    cases h with
    | answered done r reads hdone hsend hflat =>
      rw [recv_answered hx hsend hflat] at hnext
      obtain rfl := Option.some.inj hnext
      have hresponses := x.responses_snoc r hdone
      unfold response at hresponses
      dsimp only
      rw [← hresponses]
      cases hr : x.closes r with
      | true => exact .closing done r hdone hr
      | false =>
        refine .idle (done ++ [r]) fun r' hr' => ?_
        rcases List.mem_append.mp hr' with hr' | hr'
        · exact hdone r' hr'
        · rw [List.mem_singleton.mp hr', hr]
    | unheard done r r' reads hdone hr =>
      -- the stream has ended
      have hend : Http.recvResponse x.client_cast x.client_buff [] = .error .nullptr := rfl
      simp only [hend] at hnext
      obtain rfl := Option.some.inj hnext
      rw [← x.responses_closed r' hr hdone]
      exact .closed done r r' reads hdone hr
    | requested done r reads hdone hsend hflat => cases hsome
    | idle done hdone => cases hwaiting
    | closing done r hdone hr => cases hwaiting
    | closed done r r' reads hdone hr => cases hwaiting
  · cases hnext

/-- The phases of a run. -/
theorem phase_run {s₀ s : Exchange} {tr : List (Exchange × ExchangeLabel)}
    (hinit : x.system.init s₀) (hrun : LTS.Run x.system s₀ tr s)
    (horderly : ∀ p ∈ tr, x.Orderly p.1 p.2) : x.Phase s := by
  obtain rfl := hinit
  refine hrun.guarded_invariant ?_ horderly (.idle [] (by simp))
  intro u l t hu hl hnext
  cases l with
  | sendRequest req reads => exact phase_send hu hl hnext
  | handleClient reads => exact phase_handle hx hu hl hnext
  | recvResponse => exact phase_recv hx hu hnext

/-- Whoever waits for a response will get on: the other end can move, or the
    response is there, or the end of the stream. -/
theorem phase_moves {s : Exchange} (h : x.Phase s) (hwaiting : s.waiting = true) :
    ∃ l, (x.next s l).isSome = true := by
  cases h with
  | requested done r reads hdone hsend hflat =>
    have hrecv := recv_requested hx (s := ⟨reads, [], done ++ [r], done.map x.dispatched,
      x.responses 0 done, true, true, true⟩) hsend hflat
    have hsome := isEmpty_flatten hflat (request_ne_nil r)
    refine ⟨.handleClient [(x.answer done.length r.arrived).rsp.dump
      (x.answer done.length r.arrived).close false []], ?_⟩
    simp [next, hsome, hrecv]
  | answered done r reads hdone hsend hflat =>
    have hsome := isEmpty_flatten hflat (response_ne_nil _ _)
    refine ⟨.recvResponse, ?_⟩
    simp [next, hsome, recv_answered hx hsend hflat]
  | unheard done r r' reads hdone hr =>
    have hend : Http.recvResponse x.client_cast x.client_buff [] = .error .nullptr := rfl
    refine ⟨.recvResponse, ?_⟩
    simp [next, hend]
  | idle done hdone => cases hwaiting
  | closing done r hdone hr => cases hwaiting
  | closed done r r' reads hdone hr => cases hwaiting

end steps

/-- What a phase says of the responses. -/
theorem Phase.matched {x : Peers Servlet Other} {s : Exchange} (h : x.Phase s) :
    s.received <+: x.responses 0 s.sent ∧ s.handled <+: s.sent.map x.dispatched ∧
      s.sent.length ≤ s.received.length + 1 ∧
      (s.waiting = false → s.received = x.responses 0 s.sent) := by
  have hlength : ∀ (reqs : List HttpRequest) (k : Nat),
      (x.responses k reqs).length = reqs.length := by
    intro reqs
    induction reqs with
    | nil => exact fun _ => rfl
    | cons r rs ih =>
      intro k
      rw [responses, List.length_cons, List.length_cons]
      split
      · rw [List.length_map]
      · rw [ih]
  cases h with
  | idle done hdone => simp [hlength]
  | requested done r reads hdone hsend hflat =>
    have hmore := x.responses_snoc r hdone
    simp [hmore, hlength]
  | answered done r reads hdone hsend hflat =>
    have hmore := x.responses_snoc r hdone
    simp [hmore, hlength]
  | closing done r hdone hr => simp [hlength]
  | unheard done r r' reads hdone hr =>
    have hmore := x.responses_closed r' hr hdone
    simp [hmore, hlength]
  | closed done r r' reads hdone hr => simp [hlength]

end Peers

end Http

open Http

/-- The responses on a connection are those to its requests, each in the place
    of its own, and nothing but the end of the stream behind a request that
    closes; whoever waits gets on. -/
theorem each_request_answered {Servlet Other : Type} {x : Peers Servlet Other} (hx : x.Sound)
    {s₀ s : Exchange} {tr : List (Exchange × ExchangeLabel)} (hinit : x.system.init s₀)
    (hrun : LTS.Run x.system s₀ tr s) (horderly : ∀ p ∈ tr, x.Orderly p.1 p.2) :
    s.received <+: x.responses 0 s.sent ∧ s.handled <+: s.sent.map x.dispatched ∧
      s.sent.length ≤ s.received.length + 1 ∧
      (s.waiting = false → s.received = x.responses 0 s.sent) ∧
      (s.waiting = true → ∃ l, (x.system.next s l).isSome = true) := by
  have hphase := Peers.phase_run hx hinit hrun horderly
  obtain ⟨hreceived, hhandled, hcount, hquiet⟩ := hphase.matched
  exact ⟨hreceived, hhandled, hcount, hquiet, Peers.phase_moves hx hphase⟩

/-- Two requests with kept connection and a third one that nobody reads: the
    bytes come in pieces, and the second request has a body. -/
theorem each_request_answered_closed :
    let number : Bytes → Option UInt64 := fun val => some (Strtol.magnitude 10 0 val).toUInt64
    let x : Peers Bytes Empty := {
      server      := ⟨true, ascii "ms"⟩
      dispatch    := (ServletDispatch.new []).addServlet (ascii "/a") (some (ascii "hello"))
      make        := fun _ => none
      fnmatch     := fun _ _ => false
      run         := fun _ slt d => { d with rsp := { d.rsp with body := slt } }
      env         := fun i => ⟨false, i, number⟩
      server_buff := 4096
      client_buff := 4096
      client_cast := number }
    ∃ s tr, LTS.Run x.system ⟨[], [], [], [], [], false, true, true⟩ tr s ∧
      s.received = [some ⟨200, 0x11, ascii "OK", ascii "hello", [(ascii "Server", ascii "ms"),
          (ascii "connection", ascii "keep-alive"), (ascii "content-length", ascii "5")]⟩,
        some ⟨200, 0x11, ascii "OK", [],
          [(ascii "Server", ascii "ms"), (ascii "connection", ascii "close")]⟩,
        none] := by
  intro number x
  let get : HttpRequest := { HttpRequest.new with close := false, path := ascii "/a" }
  let post : HttpRequest := { HttpRequest.new with method := .POST, body := ascii "hi" }
  let ok : Bytes → Bytes := fun connection =>
    ascii "HTTP/1.1 200 OK\r\nServer: ms\r\nconnection: " ++ connection ++ ascii "\r\n"
  let labels : List ExchangeLabel := [
    .sendRequest get [ascii "GET ", ascii "/a HTTP/1.1\r\n",
      ascii "connection: keep-alive\r\n\r\n"],
    .handleClient [ok (ascii "keep-alive"), ascii "content-length: 5\r\n\r\nhe", ascii "llo"],
    .recvResponse,
    .sendRequest post [ascii "POST / HTTP/1.1\r\nconnection: close\r\n",
      ascii "content-length: 2\r\n\r\nh", ascii "i"],
    .handleClient [ok (ascii "close"), ascii "\r\n"],
    .recvResponse,
    .sendRequest get [get.dump false],
    .recvResponse]
  have hnumber : ∀ k, number (decimal k) = some k.toUInt64 := fun k => by
    simp only [number, UriParser.magnitude_decimal]
  have hsound : x.Sound := ⟨by decide, by decide, fun _ => rfl, fun _ k _ => hnumber k,
    fun k _ => hnumber k⟩
  have hget : ∀ reads : Stream, (∀ c ∈ reads, c ≠ [] ∧ c.length ≤ 4096) →
      Scanner.unbroken (HttpParser.step false) HttpParser.origin uses HttpParser.http_parser_start reads =
        true → x.Sendable get reads := by
    intro reads hpieces huncut
    refine ⟨⟨by decide, ⟨_, rfl, .plain rfl .nil, by decide⟩, .nil, .nil, by decide, by decide,
      by decide⟩, by decide, hpieces, fun env henv => noTokenCut_of_unbroken ?_⟩
    rw [henv]
    exact huncut
  have hpost : ∀ reads : Stream, (∀ c ∈ reads, c ≠ [] ∧ c.length ≤ 4096) →
      Scanner.unbroken (HttpParser.step false) HttpParser.origin uses HttpParser.http_parser_start reads =
        true → x.Sendable post reads := by
    intro reads hpieces huncut
    refine ⟨⟨by decide, ⟨_, rfl, .nil, by decide⟩, .nil, .nil, by decide, by decide,
      by decide⟩, by decide, hpieces, fun env henv => noTokenCut_of_unbroken ?_⟩
    rw [henv]
    exact huncut
  have hend : (x.system.exec ⟨[], [], [], [], [], false, true, true⟩ labels).map
      (fun s => (s.waiting, s.sent)) = some (false, [get, post, get]) := by
    decide +kernel
  obtain ⟨s, hexec, hs⟩ := Option.map_eq_some_iff.mp hend
  obtain ⟨hwaiting, hsent⟩ := Prod.mk.inj hs
  have hrun := x.system.exec_run labels hexec
  have hanswers : ∀ p ∈ x.system.trace ⟨[], [], [], [], [], false, true, true⟩ labels,
      ∀ reads ∈ p.2.answer?, x.Orderly p.1 (.handleClient reads) := by
    decide +kernel
  have horderly : ∀ p ∈ x.system.trace ⟨[], [], [], [], [], false, true, true⟩ labels,
      x.Orderly p.1 p.2 := by
    rintro ⟨s, l⟩ hp
    cases l with
    | sendRequest req reads =>
      have hmem := x.system.mem_of_mem_trace hp
      simp only [labels, List.mem_cons, List.not_mem_nil, ExchangeLabel.sendRequest.injEq,
        reduceCtorEq, false_or, or_false] at hmem
      rcases hmem with ⟨rfl, rfl⟩ | ⟨rfl, rfl⟩ | ⟨rfl, rfl⟩
      · exact hget _ (by decide) (by decide +kernel)
      · exact hpost _ (by decide) (by decide +kernel)
      · exact hget _ (by decide) (by decide +kernel)
    | handleClient reads => exact hanswers _ hp reads rfl
    | recvResponse => trivial
  obtain ⟨_, _, _, hquiet, _⟩ := each_request_answered hsound rfl hrun horderly
  refine ⟨s, _, hrun, ?_⟩
  rw [hquiet hwaiting, hsent]
  decide +kernel

end MNSER
