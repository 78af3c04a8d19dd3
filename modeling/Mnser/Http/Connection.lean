import Mnser.Http.Receive
import Mnser.Http.ResponseParser

/-! # Receiving a response

    `HttpConnection::recvResponse`.  Behind the header comes a body of a known
    length, or one in chunks.  The loop over the chunks keeps what was read
    and not used in the buffer; for each chunk it parses the line with the
    size, and takes the data and the line end behind them from the buffer and
    from further reads.

    `len`, `left` and `content_len` are `int`s.  The buffer is filled up to its
    size, and one byte behind that is the closing NUL. -/

namespace MNSER

namespace Http

open Scanner HttpClientParser

/-! ## Section 1: The chunks -/

/-- Why no response is returned. -/
inductive Halt where
  | nullptr
  /-- a `std::string` was to become longer than one can be -/
  | threw
  /-- bytes were asked for that are not there: a length beyond the buffer -/
  | overrun
  /-- an `int` overflows, and the behaviour is undefined -/
  | undefined
  deriving DecidableEq, Repr

def Failure.halt : Failure → Halt
  | .nullptr => .nullptr
  | .threw   => .threw

/-- `if(!begin || len == 0)`: the buffer after that. -/
def refill (buff_size : Nat) (begin_ : Bool) (data : Bytes) (s : Stream) :
    Option (Bytes × Stream) :=
  if !begin_ || data = [] then
    (read (buff_size - data.length) s).map fun r => (data ++ r.1, r.2)
  else some (data, s)

/-- The loop `while(!parser->isFinished())` for the line in front of a chunk;
    `data` is what the buffer holds.  Every call of `execute` starts anew. -/
def recvChunkLine (buff_size : Nat) :
    (fuel : Nat) → (begin_ : Bool) → HttpResponseParser → (data : Bytes) → Stream →
      Except Halt (HttpResponseParser × Bytes × Stream)
  | 0, _, _, _, _ => .error .nullptr
  | fuel + 1, begin_, parser, data, s =>
    match refill buff_size begin_ data s with
    | none => .error .nullptr
    | some (data, s) =>
      match parser.execute data true with
      | none => .error .threw
      | some (parser, nparse) =>
        let data' := data.drop nparse
        if parser.hasError then .error .nullptr
        -- the buffer is full and the line has not ended
        else if (data'.length : Int) = toInt buff_size then .error .nullptr
        else if parser.isFinished ≠ 0 then .ok (parser, data', s)
        else recvChunkLine buff_size fuel false parser data' s

/-- `while(left > 0)`: what the reads return, one after the other. -/
def readLeft (buff_size : Nat) : (fuel : Nat) → (left : Int) → Stream → Except Halt (Bytes × Stream)
  | 0, _, _ => .error .nullptr
  | fuel + 1, left, s =>
    if left ≤ 0 then .ok ([], s)
    else
      let size := if toInt buff_size < left then toInt buff_size else left
      -- as a `size_t`
      if size < 0 then .error .overrun
      else
        match read size.toNat s with
        | none => .error .nullptr
        | some (got, s) =>
          (readLeft buff_size fuel (left - got.length) s).map fun r => (got ++ r.1, r.2)

/-- The data of a chunk and the line end behind them. -/
def recvChunkData (buff_size : Nat) (content_len : Int) (body data : Bytes) (s : Stream) :
    Except Halt (Bytes × Bytes × Stream) :=
  if 2 ^ 31 ≤ content_len + 2 then .error .undefined
  else if content_len + 2 ≤ data.length then
    -- the length of `append` is a `size_t`
    if content_len < 0 then .error .threw
    else .ok (body ++ data.take content_len.toNat, data.drop (content_len.toNat + 2), s)
  else
    let left := content_len - data.length + 2
    match readLeft buff_size (s.flatten.length + 1) left s with
    | .error e => .error e
    | .ok (got, s) =>
      let body := body ++ data ++ got
      if body.length < 2 then .error .threw
      else .ok (body.take (body.length - 2), [], s)

/-- One round of the loop over the chunks. -/
def recvChunk (buff_size : Nat) (parser : HttpResponseParser) (body data : Bytes) (s : Stream) :
    Except Halt (HttpResponseParser × Bytes × Bytes × Stream) :=
  match recvChunkLine buff_size (s.flatten.length + 2) true parser data s with
  | .error e => .error e
  | .ok (parser, data, s) =>
    match recvChunkData buff_size parser.data.content_len body data s with
    | .error e => .error e
    | .ok (body, data, s) => .ok (parser, body, data, s)

/-- `while(!client_parser.chunks_done)` -/
def recvChunks (buff_size : Nat) :
    (fuel : Nat) → HttpResponseParser → (body data : Bytes) → Stream →
      Except Halt (HttpResponseParser × Bytes × Stream)
  | 0, _, _, _, _ => .error .nullptr
  | fuel + 1, parser, body, data, s =>
    match recvChunk buff_size parser body data s with
    | .error e => .error e
    | .ok (parser, body, data, s) =>
      if parser.data.chunks_done then .ok (parser, body, s)
      else recvChunks buff_size fuel parser body data s

/-! ## Section 2: The response -/

def responseParser : Parser HttpResponseParser where
  execute    := fun parser data => parser.execute data false
  hasError   := fun parser => decide parser.hasError
  isFinished := HttpResponseParser.isFinished

/-- The part of `recvResponse` behind the header loop.  An empty body is not
    set, and the response has none. -/
def finishResponse (lexical_cast : Bytes → Option UInt64) (buff_size : Nat)
    (parser : HttpResponseParser) (data : Bytes) (s : Stream) :
    Except Halt (HttpResponse × Stream) :=
  if parser.data.chunked then
    match recvChunks buff_size (data.length + s.flatten.length + 1) parser [] data s with
    | .error e => .error e
    | .ok (parser, body, s) => .ok ({ parser.data.response with body := body }, s)
  else
    let length := toInt64 (parser.getContentLength lexical_cast).toNat
    if 0 < length then
      match recvBody length data s with
      | .error e => .error e.halt
      | .ok (body, s) => .ok ({ parser.data.response with body := body }, s)
    else .ok (parser.data.response, s)

/-- The response and what is left of the stream. -/
def recvResponse (lexical_cast : Bytes → Option UInt64) (buff_size : Nat) (s : Stream) :
    Except Halt (HttpResponse × Stream) :=
  match recvHeader responseParser buff_size (fuelFor s) HttpResponseParser.new [] s with
  | .error e => .error e.halt
  | .ok (parser, data, s) => finishResponse lexical_cast buff_size parser data s

end Http

end MNSER
