import Mathlib.Data.List.TakeWhile
import Mnser.Http.Server
import Mnser.Word

/-! # How long a body may be

    `recvRequest` takes the length from `Content-Length` as a `uint64_t`,
    holds it in an `int64_t` and compares what `readFixSize` returns, an
    `int`, with 0.  It does not ask `GetHttpRequestMaxBodySize`. -/

namespace MNSER

namespace Http

open Scanner HttpParser

/-! ## Section 1: The body of any length -/

/-- What a stream delivers until a `read` returns 0 or less. -/
def delivered (s : Stream) : Bytes := (s.takeWhile (· ≠ [])).flatten

/-- `readFixSize` does not get beyond such a `read`. -/
theorem readFixSize_takeWhile (s : Stream) :
    ∀ n, (readFixSize n s).map Prod.fst =
      (readFixSize n (s.takeWhile (· ≠ []))).map Prod.fst := by
  induction s with
  | nil => exact fun _ => rfl
  | cons c cs ih =>
    intro n
    by_cases hc : c = []
    · rw [List.takeWhile_cons_of_neg (by simp [hc]), hc]
      cases n <;> rfl
    · rw [List.takeWhile_cons_of_pos (by simp [hc])]
      cases n with
      | zero => rfl
      | succ n =>
        simp only [readFixSize, if_neg hc]
        by_cases hle : c.length ≤ n + 1
        · have hrest := congrArg (Option.map (c ++ ·)) (ih (n + 1 - c.length))
          rw [Option.map_map, Option.map_map] at hrest
          rw [if_pos hle, if_pos hle, Option.map_map, Option.map_map]
          exact hrest
        · rw [if_neg hle, if_neg hle]
          rfl

/-- `readFixSize` takes as much as it is asked for of what comes before the end of
    the stream. -/
theorem readFixSize_delivered (s : Stream) (n : Nat) :
    (readFixSize n s).map Prod.fst =
      if n ≤ (delivered s).length then some ((delivered s).take n) else none := by
  have hne : ∀ c ∈ s.takeWhile (· ≠ []), c ≠ [] := fun c hc => by
    simpa using List.mem_takeWhile_imp hc
  have hspec := readFixSize_spec hne n
  rw [readFixSize_takeWhile, delivered]
  split
  · rename_i hle
    rw [if_pos hle] at hspec
    obtain ⟨s', hread, _⟩ := hspec
    rw [hread]
    rfl
  · rename_i hle
    rw [if_neg hle] at hspec
    rw [hspec]
    rfl

/-- The body is the bytes behind the header, unless there are too few of them or
    the number of those that `readFixSize` is to read is not positive as an `int`. -/
theorem recvBody_delivered (n : Nat) (buffer : Bytes) (s : Stream) :
    (recvBody n buffer s).map Prod.fst =
      if n ≤ (buffer ++ delivered s).length ∧ (n ≤ buffer.length ∨ 0 < toInt (n - buffer.length)) then
        .ok ((buffer ++ delivered s).take n)
      else .error .nullptr := by
  by_cases hle : n ≤ buffer.length
  · rw [recvBody_buffered s (Int.ofNat_le.mpr hle),
      if_pos ⟨by rw [List.length_append]; omega, Or.inl hle⟩,
      List.take_append_of_le_length hle]
    rfl
  · have hleft : ((n : Int) - buffer.length).toNat = n - buffer.length := by omega
    have hread := readFixSize_delivered s (n - buffer.length)
    unfold recvBody
    dsimp only
    rw [if_pos (show (buffer.length : Int) ≤ n by omega),
      if_pos (show 0 < (n : Int) - buffer.length by omega), hleft]
    by_cases henough : n ≤ (buffer ++ delivered s).length
    · rw [if_pos (by rw [List.length_append] at henough; omega)] at hread
      obtain ⟨⟨rest, s'⟩, hsome, hrest⟩ := Option.map_eq_some_iff.mp hread
      rw [hsome]
      dsimp only
      by_cases hint : toInt (n - buffer.length) ≤ 0
      · rw [if_pos hint, if_neg (by omega)]
        rfl
      · rw [if_neg hint, if_pos ⟨henough, Or.inr (by omega)⟩, List.take_append,
          List.take_of_length_le (show buffer.length ≤ n by omega), ← hrest]
        rfl
    · rw [if_neg (by rw [List.length_append] at henough; omega), Option.map_eq_none_iff] at hread
      rw [hread, if_neg fun h => henough h.1]
      rfl

/-! ## Section 2: The request -/

/-- The part of `recvRequest` behind the header loop, where `resize` tells which
    lengths `body.resize` has memory for; it throws for the others. -/
def finishRequestIn (resize : Nat → Bool) (data : HttpRequest) (length : Int) (buffer : Bytes)
    (s : Stream) : Except Failure (HttpRequest × Stream) :=
  if 0 < length ∧ resize length.toNat = false then .error .threw
  else finishRequest data length buffer s

/-- `recvRequest` where memory may run out. -/
def recvRequestIn (resize : Nat → Bool) (env : Env) (buff_size : Nat) (s : Stream) :
    Except Failure (HttpRequest × Stream) :=
  match recvHeader (requestParser env) buff_size (fuelFor s) (HttpRequestParser.new env) [] s with
  | .error e => .error e
  | .ok (parser, buffer, s) =>
    finishRequestIn resize parser.data.1 (toInt64 (parser.getContentLength env).toNat) buffer s

/-- Where every `resize` succeeds this is `recvRequest`. -/
theorem recvRequestIn_enough (env : Env) (buff_size : Nat) (s : Stream) :
    recvRequestIn (fun _ => true) env buff_size s = recvRequest env buff_size s := by
  rw [recvRequestIn, recvRequest]
  cases recvHeader (requestParser env) buff_size (fuelFor s) (HttpRequestParser.new env) [] s with
  | error e => rfl
  | ok r => exact if_neg (by simp)

/-- What `recvRequest` is to return behind the header loop: the request with
    exactly the announced bytes as its body when they come and are not more
    than `max_body_size`, otherwise `nullptr`; every `return nullptr` stands
    behind `close()`. -/
def BodyExact (max_body_size n : Nat) (data : HttpRequest) (bytes : Bytes)
    (result : Except Failure HttpRequest) : Prop :=
  result = if n ≤ bytes.length ∧ n ≤ max_body_size then
      .ok { data with body := bytes.take n }.init
    else .error .nullptr

/-- The condition on the announced length: there is none; or it is positive as
    an `int64_t`, there is memory for it, and the bytes do not come, or they come
    and what has to be read of them is positive as an `int` exactly if the
    length is allowed. -/
def BodyLimited (resize : Nat → Bool) (max_body_size n buffered available : Nat) : Prop :=
  n = 0 ∨ n < 2 ^ 63 ∧ resize n = true ∧
    (n ≤ available → ((n ≤ buffered ∨ 0 < toInt (n - buffered)) ↔ n ≤ max_body_size))

instance (resize : Nat → Bool) (max_body_size n buffered available : Nat) :
    Decidable (BodyLimited resize max_body_size n buffered available) :=
  inferInstanceAs (Decidable (_ ∨ _ ∧ _ ∧ (_ → (_ ↔ _))))

/-- The body of an announced length, with its conversions to `int64_t` and `int`. -/
theorem finishRequestIn_iff {resize : Nat → Bool} {data : HttpRequest} (hbody : data.body = [])
    (max_body_size : Nat) {n : Nat} (hn : n < 2 ^ 64) (buffer : Bytes) (s : Stream) :
    BodyExact max_body_size n data (buffer ++ delivered s)
        (outcome (finishRequestIn resize data (toInt64 n) buffer s)) ↔
      BodyLimited resize max_body_size n buffer.length (buffer ++ delivered s).length := by
  have hinit : ∀ {a b : Bytes}, { data with body := a }.init = { data with body := b }.init →
      a = b := by
    intro a b heq
    have hsame := congrArg HttpRequest.body heq
    rwa [HttpRequest.init_body, HttpRequest.init_body] at hsame
  have hsigned : toInt64 n = if n < 2 ^ 63 then (n : Int) else (n : Int) - 2 ^ 64 := by
    unfold toInt64
    rw [Int.bmod_def]
    split <;> split <;> omega
  have hdata : data.init = { data with body := [] }.init := by
    rw [← hbody]
  rw [BodyLimited, BodyExact]
  by_cases hzero : n = 0
  · -- no body
    subst hzero
    refine iff_of_true ?_ (Or.inl rfl)
    rw [if_pos ⟨Nat.zero_le _, Nat.zero_le _⟩, List.take_zero, ← hdata]
    rfl
  · rw [or_iff_right hzero]
    by_cases hhuge : n < 2 ^ 63
    · rw [if_pos hhuge] at hsigned
      have hpos : (0 : Int) < n := by omega
      rw [and_iff_right hhuge, hsigned, finishRequestIn, Int.toNat_natCast]
      cases hresize : resize n with
      | false =>
        -- `resize` throws
        rw [if_pos ⟨hpos, rfl⟩]
        refine iff_of_false ?_ fun h => Bool.false_ne_true h.1
        split <;> exact fun h => by cases h
      | true =>
        rw [if_neg fun h => Bool.false_ne_true h.2.symm, and_iff_right rfl]
        have hrecv := recvBody_delivered n buffer s
        have houtcome : outcome (finishRequest data n buffer s) =
            ((recvBody n buffer s).map Prod.fst).map fun body => { data with body := body }.init := by
          unfold finishRequest
          rw [if_pos hpos]
          cases recvBody n buffer s <;> rfl
        by_cases henough : n ≤ (buffer ++ delivered s).length
        · by_cases hread : n ≤ buffer.length ∨ 0 < toInt (n - buffer.length)
          · rw [if_pos ⟨henough, hread⟩] at hrecv
            rw [houtcome, hrecv]
            by_cases hallowed : n ≤ max_body_size
            · rw [if_pos ⟨henough, hallowed⟩]
              exact iff_of_true rfl fun _ => iff_of_true hread hallowed
            · rw [if_neg fun h => hallowed h.2]
              exact iff_of_false (fun h => by cases h) fun h => hallowed ((h henough).mp hread)
          · rw [if_neg fun h => hread h.2] at hrecv
            rw [houtcome, hrecv]
            by_cases hallowed : n ≤ max_body_size
            · rw [if_pos ⟨henough, hallowed⟩]
              exact iff_of_false (fun h => by cases h) fun h => hread ((h henough).mpr hallowed)
            · rw [if_neg fun h => hallowed h.2]
              exact iff_of_true rfl fun _ => iff_of_false hread hallowed
        · rw [if_neg fun h => henough h.1] at hrecv
          rw [houtcome, hrecv, if_neg fun h => henough h.1]
          exact iff_of_true rfl fun h => absurd h henough
    · -- negative as an `int64_t`: the request is returned without a body
      rw [if_neg hhuge] at hsigned
      have hneg : ¬ (0 : Int) < toInt64 n := by omega
      have hresult : outcome (finishRequestIn resize data (toInt64 n) buffer s) = .ok data.init := by
        rw [finishRequestIn, if_neg fun h => hneg h.1, finishRequest, if_neg hneg]
        rfl
      rw [hresult]
      refine iff_of_false ?_ fun h => hhuge h.1
      split
      · rename_i hspec
        intro h
        rw [hdata] at h
        have hnil := congrArg List.length (hinit (Except.ok.inj h))
        rw [List.length_take, List.length_nil] at hnil
        omega
      · exact fun h => by cases h

/-! ## Section 3: Limited bodies -/

/-- The parser leaves the body alone. -/
theorem recvHeader_noBody {env : Env} {n fuel : Nat} {parser : HttpRequestParser}
    {buffer : Bytes} {s rest : Stream}
    (h : recvHeader (requestParser env) n fuel (HttpRequestParser.new env) [] s =
      .ok (parser, buffer, rest)) : parser.data.1.body = [] := by
  refine recvHeader_keeps (K := fun p : HttpRequestParser => p.data.1.body = []) ?_ fuel
    (show (HttpRequestParser.new env).data.1.body = [] from rfl) h
  intro p data p' nparse hexecute hp
  change HttpRequestParser.execute env p data = some (p', nparse) at hexecute
  unfold HttpRequestParser.execute at hexecute
  split at hexecute
  · obtain ⟨rfl, _⟩ := Prod.mk.inj (Option.some.inj hexecute)
    exact hp
  · obtain ⟨r, hscan, heq⟩ := Option.map_eq_some_iff.mp hexecute
    obtain ⟨rfl, _⟩ := Prod.mk.inj heq
    exact scan_body hscan hp

/-- Behind every header, whatever length it announces and whatever the stream
    delivers, the request has exactly the announced bytes as its body, or is
    refused, exactly under `BodyLimited`. -/
theorem body_limited_iff {resize : Nat → Bool} {env : Env} {max_body_size buff_size : Nat}
    {s rest : Stream} {parser : HttpRequestParser} {buffer : Bytes}
    (hheader : recvHeader (requestParser env) buff_size (fuelFor s) (HttpRequestParser.new env) [] s =
      .ok (parser, buffer, rest)) :
    BodyExact max_body_size (parser.getContentLength env).toNat parser.data.1
        (buffer ++ delivered rest) (outcome (recvRequestIn resize env buff_size s)) ↔
      BodyLimited resize max_body_size (parser.getContentLength env).toNat buffer.length
        (buffer ++ delivered rest).length := by
  have hrecv : recvRequestIn resize env buff_size s =
      finishRequestIn resize parser.data.1 (toInt64 (parser.getContentLength env).toNat)
        buffer rest := by
    rw [recvRequestIn, hheader]
  rw [hrecv]
  exact finishRequestIn_iff (recvHeader_noBody hheader) max_body_size (UInt64.toNat_lt _)
    buffer rest

/-- A header that announces `length` bytes. -/
def announcing (length : Bytes) : Bytes :=
  ascii "POST / HTTP/1.1\r\nContent-Length: " ++ length ++ ascii "\r\n\r\n"

/-- A parser environment for the lengths 3 and 2 ^ 63. -/
def lengthEnv : Env :=
  ⟨false, 0, fun val => if val = ascii "3" then some 3
    else if val = ascii "9223372036854775808" then some 9223372036854775808 else none⟩

/-- What is known behind a header that the loop accepts. -/
def announced (buff_size : Nat) (s : Stream) : Option (Nat × HttpRequest × Bytes × Stream) :=
  match recvHeader (requestParser lengthEnv) buff_size (fuelFor s) (HttpRequestParser.new lengthEnv)
      [] s with
  | .error _ => none
  | .ok (parser, buffer, rest) =>
    some ((parser.getContentLength lengthEnv).toNat, parser.data.1, buffer, rest)

/-- The header is read before the length is looked at. -/
theorem announced_header {buff_size n : Nat} {s rest : Stream} {data : HttpRequest} {buffer : Bytes}
    (h : announced buff_size s = some (n, data, buffer, rest)) :
    ∃ parser, recvHeader (requestParser lengthEnv) buff_size (fuelFor s)
        (HttpRequestParser.new lengthEnv) [] s = .ok (parser, buffer, rest) ∧
      (parser.getContentLength lengthEnv).toNat = n ∧ parser.data.1 = data := by
  unfold announced at h
  split at h
  · cases h
  · rename_i parser buffer' rest' hheader
    obtain ⟨rfl, rfl, rfl, rfl⟩ : _ ∧ _ ∧ _ ∧ _ := by
      simpa only [Option.some.injEq, Prod.mk.injEq] using h
    exact ⟨parser, hheader, rfl, rfl⟩

/-- A body of three bytes in two pieces. -/
theorem body_limited_abc :
    outcome (recvRequestIn (fun _ => true) lengthEnv 4096
        [announcing (ascii "3") ++ ascii "ab", ascii "cd"]) =
      .ok ⟨.POST, 0x11, true, ascii "/", [], [], ascii "abc",
        [(ascii "Content-Length", ascii "3")]⟩ := by
  have hread : announced 4096 [announcing (ascii "3") ++ ascii "ab", ascii "cd"] =
      some (3, ⟨.POST, 0x11, true, ascii "/", [], [], [], [(ascii "Content-Length", ascii "3")]⟩,
        ascii "ab", [ascii "cd"]) := by
    decide +kernel
  obtain ⟨parser, hheader, hn, hdata⟩ := announced_header hread
  have hlimited : BodyLimited (fun _ => true) 64 (parser.getContentLength lengthEnv).toNat
      (ascii "ab").length (ascii "ab" ++ delivered [ascii "cd"]).length := by
    rw [hn]
    decide
  have hexact := (body_limited_iff hheader).mpr hlimited
  rw [BodyExact, hn, hdata, if_pos (by decide)] at hexact
  exact hexact

/-- A request that announces 2 ^ 63 bytes, none of which come, is accepted. -/
theorem body_length_negative :
    ∃ parser buffer rest,
      recvHeader (requestParser lengthEnv) 4096
          (fuelFor [announcing (ascii "9223372036854775808")]) (HttpRequestParser.new lengthEnv) []
          [announcing (ascii "9223372036854775808")] = .ok (parser, buffer, rest) ∧
        (parser.getContentLength lengthEnv).toNat = 2 ^ 63 ∧ buffer ++ delivered rest = [] ∧
        outcome (recvRequestIn (fun _ => true) lengthEnv 4096
          [announcing (ascii "9223372036854775808")]) = .ok parser.data.1.init ∧
        ¬ BodyExact (64 * 1024 * 1024) (2 ^ 63) parser.data.1 []
          (outcome (recvRequestIn (fun _ => true) lengthEnv 4096
            [announcing (ascii "9223372036854775808")])) := by
  have hread : announced 4096 [announcing (ascii "9223372036854775808")] =
      some (2 ^ 63, ⟨.POST, 0x11, true, ascii "/", [], [], [],
        [(ascii "Content-Length", ascii "9223372036854775808")]⟩, [], []) := by
    decide +kernel
  obtain ⟨parser, hheader, hn, hdata⟩ := announced_header hread
  have hresult : outcome (recvRequestIn (fun _ => true) lengthEnv 4096
      [announcing (ascii "9223372036854775808")]) = .ok parser.data.1.init := by
    rw [recvRequestIn, hheader]
    dsimp only
    rw [hn]
    exact congrArg outcome (if_neg (by decide))
  refine ⟨parser, [], [], hheader, hn, rfl, hresult, fun h => ?_⟩
  rw [BodyExact, if_neg (by decide), hresult] at h
  cases h

end Http

end MNSER
