import Mnser.Http.Session

/-! # Requests on one connection

    `HttpServer::handleClient`.  Every call of `recvRequest` has a parser and a
    buffer of its own.  What it read behind the end of its request goes with the
    buffer, so a request is only seen when it begins a read. -/

namespace MNSER

namespace Http

open Scanner HttpParser

/-! ## Section 1: The server -/

structure HttpServer where
  keepalive : Bool
  name      : Bytes
  deriving DecidableEq

/-- What `m_dispatch->handle` is given; `close` is a member of the response. -/
structure Dispatch where
  req   : HttpRequest
  rsp   : HttpResponse
  close : Bool
  deriving DecidableEq

namespace HttpServer

def respond (server : HttpServer) (req : HttpRequest) : Dispatch where
  req   := req
  rsp   := { HttpResponse.new with
             version := req.version
             headers := Headers.set [] (ascii "Server") server.name }
  close := req.close || !server.keepalive

/-- The requests that are dispatched, in order.  `env i` is what the parser of
    round `i` finds in the members that are not initialised. -/
def handleRounds (server : HttpServer) (env : Nat → Env) (buff_size : Nat) :
    Nat → Nat → Stream → List Dispatch
  | 0, _, _ => []
  | fuel + 1, i, s =>
    match recvRequest (env i) buff_size s with
    | .error _ => []
    | .ok (req, s) =>
      server.respond req ::
        if !server.keepalive || req.close then []
        else handleRounds server env buff_size fuel (i + 1) s

def handleClient (server : HttpServer) (env : Nat → Env) (buff_size : Nat) (s : Stream) :
    List Dispatch :=
  handleRounds server env buff_size (fuelFor s) 0 s

end HttpServer

/-! ## Section 2: A request at the start of a read -/

/-- The request that `bytes` are, from the first byte to the last: a header
    without errors, and as many bytes behind it as it announces. -/
def wholeRequest (env : Env) (bytes : Bytes) : Option HttpRequest :=
  match HttpRequestParser.execute env (HttpRequestParser.new env) bytes with
  | none => none
  | some (parser, header) =>
    if ¬ parser.hasError ∧ parser.isFinished = 1 ∧
        header + (parser.getContentLength env).toNat = bytes.length then
      some { parser.data.1 with body := bytes.drop header }.init
    else none

/-- `init` does not look at the body. -/
theorem HttpRequest.init_body (r : HttpRequest) : r.init.body = r.body := by
  unfold HttpRequest.init
  split
  · rfl
  · split <;> rfl

/-- The parser does not touch the body. -/
theorem scan_body {uri_relaxed : Bool} {buffer xs : Bytes} {pos cs : Nat} {regs : Reg → Nat}
    {d : Parsed} {r : Scan Nat ((Reg → Nat) × Parsed)}
    (h : scan (step uri_relaxed) (perform origin callback buffer) pos cs (regs, d) xs = some r)
    (hd : d.1.body = []) : r.data.2.1.body = [] :=
  scan_parsed (K := fun d => d.1.body = [])
    (fun _ _ _ _ _ _ hcall hd => (callback_keeps hcall).2.trans hd) h hd

/-- The header loop has parsed the header of `request`, which begins `bytes`. -/
structure Parsed.Header (env : Env) (bytes : Bytes) (request : HttpRequest)
    (parser : HttpRequestParser) (header : Nat) : Prop where
  noError  : ¬ parser.hasError
  finished : parser.isFinished = 1
  pos      : 0 < header
  length   : header + (parser.getContentLength env).toNat = bytes.length
  request  : request = { parser.data.1 with body := bytes.drop header }.init
  noBody   : parser.data.1.body = []

/-- What follows a request in the buffer does not matter to the parser. -/
theorem execute_append {env : Env} {bytes : Bytes} {request : HttpRequest}
    (h : wholeRequest env bytes = some request) (rest : Bytes) :
    ∃ parser header, Parsed.Header env bytes request parser header ∧
      HttpRequestParser.execute env (HttpRequestParser.new env) (bytes ++ rest) =
        some (parser, header) := by
  have hbytes : bytes ≠ [] := by
    rintro rfl
    cases h
  have hstart : ∀ r, cover http_parser_start r = false := by
    intro r
    cases r <;> rfl
  obtain ⟨r, regs, hscan, hrest, _⟩ :=
    scan_resume (request_sound env.uri_relaxed) (List.drop_zero (l := bytes ++ rest))
      (HttpRequestParser.forget (HttpRequestParser.new env).regs) trivial
      ((request_covers env.uri_relaxed).unbroken hstart bytes)
      (HttpRequestParser.forget (HttpRequestParser.new env).regs) (HttpRequestParser.new env).data
  have hexecute : HttpRequestParser.execute env (HttpRequestParser.new env) bytes =
      some (⟨r.state, r.data.1, r.data.2⟩, r.pos) := execute_eq hbytes hscan
  unfold wholeRequest at h
  rw [hexecute] at h
  dsimp only at h
  split at h
  · rename_i hdone
    obtain ⟨hnoerror, hfinished, hlength⟩ := hdone
    have hne : r.state ≠ http_parser_error := fun heq => hnoerror (Or.inr heq)
    have hfinal : http_parser_first_final ≤ r.state := by
      unfold HttpRequestParser.isFinished at hfinished
      rw [if_neg hne] at hfinished
      split at hfinished
      · assumption
      · cases hfinished
    -- a scan that used up its buffer would still be parsing
    have hend := scan_parsing parsing_start hscan
    have hstop : r.stopped = true := by
      cases hstopped : r.stopped with
      | true => rfl
      | false =>
        rw [hstopped, if_neg (by decide)] at hend
        exact absurd hend.2 (Nat.not_lt.mpr hfinal)
    rw [hstop, if_pos rfl, Nat.zero_add] at hrest
    have hpos := scan_progress hbytes hscan hne
    refine ⟨⟨r.state, regs, r.data.2⟩, r.pos, ?_, ?_⟩
    · exact ⟨hnoerror, hfinished, hpos, hlength, (Option.some.inj h).symm, scan_body hscan rfl⟩
    · have happend : bytes ++ rest ≠ [] := fun hnil => hbytes (List.append_eq_nil_iff.mp hnil).1
      exact @execute_eq env (HttpRequestParser.new env) _ happend _ hrest
  · cases h

/-- A read that begins with a whole request: that request is returned, unless
    what is left of the read looks like a full buffer; what is left is lost. -/
theorem recvRequest_read {env : Env} {n : Nat} {bytes rest : Bytes} {request : HttpRequest}
    (h : wholeRequest env bytes = some request) (hn : (bytes ++ rest).length ≤ n)
    (hsmall : (bytes ++ rest).length < 0x80000000) (s : Stream) :
    recvRequest env n ((bytes ++ rest) :: s) =
      if ((request.body ++ rest).length : Int) = toInt n then .error .nullptr
      else .ok (request, s) := by
  obtain ⟨parser, header, hheader, hexecute⟩ := execute_append h rest
  have hlength := hheader.length
  have hpos := hheader.pos
  have hread : read n ((bytes ++ rest) :: s) = some (bytes ++ rest, s) := by
    refine read_cons s ?_ hn
    rintro hnil
    rw [(List.append_eq_nil_iff.mp hnil).1, List.length_nil] at hlength
    omega
  have hbody : request.body = bytes.drop header := by
    rw [hheader.request, HttpRequest.init_body]
  have hleft : (bytes ++ rest).drop header = request.body ++ rest := by
    rw [hbody, List.drop_append_of_le_length (by omega)]
  have hnoerror : (requestParser env).hasError parser = false := decide_eq_false hheader.noError
  have hfinished : (requestParser env).isFinished parser ≠ 0 := by
    rw [show (requestParser env).isFinished parser = 1 from hheader.finished]
    decide
  have hexecute' : (requestParser env).execute (HttpRequestParser.new env) (bytes ++ rest) =
      some (parser, header) := hexecute
  have hheaderloop : recvHeader (requestParser env) n (fuelFor ((bytes ++ rest) :: s))
      (HttpRequestParser.new env) [] ((bytes ++ rest) :: s) =
      if ((request.body ++ rest).length : Int) = toInt n then .error .nullptr
      else .ok (parser, request.body ++ rest, s) := by
    simp only [fuelFor, recvHeader, List.length_nil, Nat.sub_zero, hread, List.nil_append,
      hexecute', hnoerror, hleft, Bool.false_eq_true, if_false, if_pos hfinished]
  unfold recvRequest
  rw [hheaderloop]
  by_cases hfull : ((request.body ++ rest).length : Int) = toInt n
  · rw [if_pos hfull, if_pos hfull]
  · rw [if_neg hfull, if_neg hfull]
    -- the announced length is the length of the body, which is in the buffer
    dsimp only
    rw [List.length_append] at hsmall
    have hcontent : (parser.getContentLength env).toNat = request.body.length := by
      rw [hbody, List.length_drop]
      omega
    have hint : toInt64 request.body.length = request.body.length := by
      unfold toInt64
      rw [Int.bmod_def]
      omega
    unfold finishRequest
    rw [hcontent, hint]
    split
    · rw [recvBody_buffered s (by rw [List.length_append]; omega), Int.toNat_natCast,
        List.take_left]
      dsimp only
      rw [hbody, ← hheader.request]
    · have hempty : request.body = [] := by
        rw [← List.length_eq_zero_iff]
        omega
      have hdata : parser.data.1 = { parser.data.1 with body := bytes.drop header } := by
        rw [← hbody, hempty, ← hheader.noBody]
      rw [hdata, ← hheader.request]

/-! ## Section 3: Reads of whole requests -/

/-- A request as it is sent and as it is meant. -/
abbrev Sent : Type := Bytes × HttpRequest

/-- What one `read` returns. -/
def bytesOf (group : List Sent) : Bytes := (group.map Prod.fst).flatten

/-- Whole whatever the uninitialised members hold. -/
structure KeepAlive (env : Nat → Env) (r : Sent) : Prop where
  whole : ∀ i, wholeRequest (env i) r.1 = some r.2
  keep  : r.2.close = false

/-- A group of requests that one `read` into an empty buffer of `n` bytes can
    return; its result is an `int`. -/
structure Group (env : Nat → Env) (n : Nat) (group : List Sent) : Prop where
  some     : group ≠ []
  requests : ∀ r ∈ group, KeepAlive env r
  fits     : (bytesOf group).length ≤ n
  int      : (bytesOf group).length < 0x80000000

/-- A part is at least one byte. -/
theorem length_le_flatten {α : Type} {ls : List (List α)} (h : ∀ l ∈ ls, l ≠ []) :
    ls.length ≤ ls.flatten.length := by
  induction ls with
  | nil => exact Nat.le_refl 0
  | cons l ls ih =>
    have hl := List.length_pos_iff.mpr (h l List.mem_cons_self)
    have hls := ih fun x hx => h x (List.mem_cons_of_mem _ hx)
    rw [List.length_cons, List.flatten_cons, List.length_append]
    omega

/-- A read is not empty. -/
theorem Group.bytes_ne_nil {env : Nat → Env} {n : Nat} {group : List Sent}
    (h : Group env n group) : bytesOf group ≠ [] := by
  obtain ⟨r, rest, rfl⟩ := List.exists_cons_of_ne_nil h.some
  have hr := (h.requests r List.mem_cons_self).whole 0
  intro hnil
  rw [show r.1 = [] from (List.append_eq_nil_iff.mp hnil).1] at hr
  cases hr

section

variable {server : HttpServer} {env : Nat → Env} {n : Nat}

/-- One turn of `handleClient`, on a read of some whole requests. -/
theorem handleRounds_read (hserver : server.keepalive = true) (fuel i : Nat) {r : Sent}
    {rest : List Sent} (hgroup : Group env n (r :: rest)) (s : Stream) :
    server.handleRounds env n (fuel + 1) i (bytesOf (r :: rest) :: s) =
      if ((r.2.body ++ bytesOf rest).length : Int) = toInt n then []
      else server.respond r.2 :: server.handleRounds env n fuel (i + 1) s := by
  have hr := hgroup.requests r List.mem_cons_self
  have hbytes : bytesOf (r :: rest) = r.1 ++ bytesOf rest := rfl
  have hfits := hgroup.fits
  have hint := hgroup.int
  rw [hbytes] at hfits hint ⊢
  simp only [HttpServer.handleRounds, recvRequest_read (hr.whole i) hfits hint s]
  by_cases hfull : ((r.2.body ++ bytesOf rest).length : Int) = toInt n
  · rw [if_pos hfull, if_pos hfull]
  · rw [if_neg hfull, if_neg hfull]
    simp only [hserver, hr.keep, Bool.not_true, Bool.or_self, Bool.false_eq_true, if_false]

/-- Every read gives at most one request. -/
theorem handleRounds_length (hserver : server.keepalive = true) (groups : List (List Sent)) :
    ∀ fuel i, (∀ g ∈ groups, Group env n g) →
      (server.handleRounds env n fuel i (groups.map bytesOf)).length ≤ groups.length := by
  induction groups with
  | nil =>
    intro fuel i _
    cases fuel <;> exact Nat.le_refl 0
  | cons g gs ih =>
    intro fuel i hgroups
    cases fuel with
    | zero => exact Nat.zero_le _
    | succ fuel =>
      have hg := hgroups g List.mem_cons_self
      obtain ⟨r, rest, rfl⟩ := List.exists_cons_of_ne_nil hg.some
      rw [List.map_cons, handleRounds_read hserver fuel i hg]
      split
      · exact Nat.zero_le _
      · have hle := ih fuel (i + 1) fun x hx => hgroups x (List.mem_cons_of_mem _ hx)
        exact Nat.succ_le_succ hle

/-- The rounds over some groups dispatch all requests exactly when no group has
    a second one. -/
theorem handleRounds_iff (hserver : server.keepalive = true) (groups : List (List Sent)) :
    ∀ fuel i, groups.length < fuel → (∀ g ∈ groups, Group env n g) →
      ((server.handleRounds env n fuel i (groups.map bytesOf)).map Dispatch.req =
          groups.flatten.map Prod.snd ↔
        ∀ g ∈ groups, ∃ r : Sent, g = [r] ∧ (r.2.body.length : Int) ≠ toInt n) := by
  induction groups with
  | nil =>
    intro fuel i hfuel _
    obtain ⟨fuel, rfl⟩ : ∃ k, fuel = k + 1 := ⟨fuel - 1, by omega⟩
    exact ⟨fun _ _ hg => absurd hg List.not_mem_nil, fun _ => rfl⟩
  | cons g gs ih =>
    intro fuel i hfuel hgroups
    obtain ⟨fuel, rfl⟩ : ∃ k, fuel = k + 1 := ⟨fuel - 1, by omega⟩
    have hg := hgroups g List.mem_cons_self
    have hgs : ∀ x ∈ gs, Group env n x := fun x hx => hgroups x (List.mem_cons_of_mem _ hx)
    obtain ⟨r, rest, rfl⟩ := List.exists_cons_of_ne_nil hg.some
    rw [List.map_cons, handleRounds_read hserver fuel i hg, List.forall_mem_cons]
    by_cases hfull : ((r.2.body ++ bytesOf rest).length : Int) = toInt n
    · -- the read looks like a full buffer: nothing is dispatched any more
      rw [if_pos hfull]
      constructor
      · intro h
        cases h
      · rintro ⟨⟨r', heq, hne⟩, _⟩
        obtain ⟨rfl, rfl⟩ := List.cons.inj heq
        exact absurd (by rw [← hfull]; simp [bytesOf]) hne
    · rw [if_neg hfull, List.flatten_cons, List.cons_append, List.map_cons, List.map_cons]
      cases rest with
      | nil =>
        rw [List.nil_append, ← ih fuel (i + 1) (by rw [List.length_cons] at hfuel; omega) hgs]
        constructor
        · intro h
          refine ⟨⟨r, rfl, fun heq => hfull ?_⟩, (List.cons.inj h).2⟩
          rw [← heq]
          simp [bytesOf]
        · rintro ⟨_, h⟩
          rw [h]
          rfl
      | cons r₂ rest =>
        -- one request for each group that is left is not enough
        constructor
        · intro h
          exfalso
          have hcount := congrArg List.length (List.cons.inj h).2
          have hle := handleRounds_length hserver gs fuel (i + 1) hgs
          have hmany := length_le_flatten fun x hx => (hgs x hx).some
          simp only [List.length_map, List.length_append, List.length_cons] at hcount
          omega
        · rintro ⟨⟨r', heq, _⟩, _⟩
          cases heq

end

end Http

open Http

/-- All requests are dispatched exactly when every read returns one of them
    (and, which only a buffer of 2 GiB and more allows, its body is not as long
    as the `int` the buffer's size becomes). -/
theorem requests_dispatched_iff {server : HttpServer} {env : Nat → Env} {buff_size : Nat}
    {groups : List (List Sent)} (hserver : server.keepalive = true)
    (hgroups : ∀ g ∈ groups, Group env buff_size g) :
    (server.handleClient env buff_size (groups.map bytesOf)).map Dispatch.req =
        groups.flatten.map Prod.snd ↔
      ∀ g ∈ groups, ∃ r : Sent, g = [r] ∧ (r.2.body.length : Int) ≠ toInt buff_size := by
  refine handleRounds_iff hserver groups _ 0 ?_ hgroups
  have hbytes : ∀ c ∈ groups.map bytesOf, c ≠ [] := by
    intro c hc
    obtain ⟨g, hg, rfl⟩ := List.mem_map.mp hc
    exact (hgroups g hg).bytes_ne_nil
  have hle := length_le_flatten hbytes
  rw [List.length_map] at hle
  exact Nat.lt_succ_of_le hle

/-- Two requests, the first one with a body, in two reads. -/
theorem requests_dispatched_iff_two :
    let env : Nat → Env := fun _ => ⟨false, 0, fun val => if val = ascii "2" then some 2 else none⟩
    let server : HttpServer := ⟨true, ascii "ms v1.0"⟩
    let post : Sent := (ascii "POST /a HTTP/1.1\r\nConnection: keep-alive\r\nContent-Length: 2\r\n\r\nhi",
      { HttpRequest.new with
        method  := .POST
        close   := false
        path    := ascii "/a"
        headers := [(ascii "Connection", ascii "keep-alive"), (ascii "Content-Length", ascii "2")]
        body    := ascii "hi" })
    let get : Sent := (ascii "GET /b HTTP/1.1\r\nConnection: keep-alive\r\n\r\n",
      { HttpRequest.new with
        close   := false
        path    := ascii "/b"
        headers := [(ascii "Connection", ascii "keep-alive")] })
    (server.handleClient env 4096 ([[post], [get]].map bytesOf)).map Dispatch.req =
      [post.2, get.2] := by
  intro env server post get
  have hpost : KeepAlive env post := ⟨fun _ => by decide, rfl⟩
  have hget : KeepAlive env get := ⟨fun _ => by decide, rfl⟩
  have hgroups : ∀ g ∈ [[post], [get]], Group env 4096 g := by
    simp only [List.forall_mem_cons]
    refine ⟨⟨by simp, ?_, by decide, by decide⟩,
      ⟨by simp, ?_, by decide, by decide⟩, by simp⟩
    · simpa using hpost
    · simpa using hget
  refine (requests_dispatched_iff rfl hgroups).mpr ?_
  simp only [List.forall_mem_cons]
  exact ⟨⟨post, rfl, by decide⟩, ⟨get, rfl, by decide⟩, by simp⟩

/-- Two requests in one read: the second one is never seen. -/
theorem requests_lost :
    let env : Nat → Env := fun _ => ⟨false, 0, fun _ => none⟩
    let server : HttpServer := ⟨true, ascii "ms v1.0"⟩
    let get : String → Sent := fun path =>
      (ascii "GET " ++ ascii path ++ ascii " HTTP/1.1\r\nConnection: keep-alive\r\n\r\n",
        { HttpRequest.new with
          close   := false
          path    := ascii path
          headers := [(ascii "Connection", ascii "keep-alive")] })
    Group env 4096 [get "/a", get "/b"] ∧
      (server.handleClient env 4096 [bytesOf [get "/a", get "/b"]]).map Dispatch.req =
        [(get "/a").2] ∧
      (get "/b").2 ∉ [(get "/a").2] := by
  intro env server get
  have ha : KeepAlive env (get "/a") := ⟨fun _ => by decide, rfl⟩
  have hb : KeepAlive env (get "/b") := ⟨fun _ => by decide, rfl⟩
  refine ⟨⟨by simp, ?_, by decide, by decide⟩, by decide,
    by decide⟩
  simp only [List.forall_mem_cons]
  exact ⟨ha, hb, by simp⟩

end MNSER
