import Mathlib.Data.List.Basic
import Mathlib.Data.List.Find
import Mathlib.Data.Int.Basic

/-! # HTTP messages and streams

    Requests and responses with the fields the parsers fill in, the C string
    functions they use, and the stream a connection is read from.  A stream
    is the list of what `read` finds available each time. -/

namespace MNSER

namespace Http

abbrev Bytes : Type := List UInt8

def ascii (s : String) : Bytes := s.toList.map fun c => c.toNat.toUInt8

/-! ## Section 1: C strings -/

/-- Conversion of a size to `int`. -/
def toInt (n : Nat) : Int := (n : Int).bmod 0x100000000

def toInt64 (n : Nat) : Int := (n : Int).bmod 0x10000000000000000

/-- A length below 2^31 is an `int`. -/
theorem toInt_of_lt {n : Nat} (h : n < 0x80000000) : toInt n = n := by
  unfold toInt
  rw [Int.bmod_def]
  omega

def tolower (c : UInt8) : UInt8 := if 65 ≤ c ∧ c ≤ 90 then c + 32 else c

def cstr (s : Bytes) : Bytes := s.takeWhile (· ≠ 0)

/-- `strcasecmp(a, b) == 0` -/
def strcaseeq (a b : Bytes) : Bool := (cstr a).map tolower == (cstr b).map tolower

/-- `strncmp(a, b, n) == 0` -/
def strneq : Bytes → Bytes → Nat → Bool
  | _, _, 0 => true
  | [], [], _ => true
  | a :: as, b :: bs, n + 1 => a == b && (a == 0 || strneq as bs n)
  | a :: _, [], _ => a == 0
  | [], b :: _, _ => b == 0

/-- `std::string(buffer + start, length)` -/
def text (buffer : Bytes) (start length : Nat) : Bytes := (buffer.drop start).take length

/-! ## Section 2: Headers -/

/-- `std::map` with `CaseInsensitiveLess`; a key keeps its first spelling. -/
abbrev Headers : Type := List (Bytes × Bytes)

def Headers.lookup (m : Headers) (key : Bytes) : Option Bytes :=
  (m.find? fun e => strcaseeq e.1 key).map Prod.snd

/-- `m[key] = val` -/
def Headers.set (m : Headers) (key val : Bytes) : Headers :=
  if m.any fun e => strcaseeq e.1 key then
    m.map fun e => if strcaseeq e.1 key then (e.1, val) else e
  else m ++ [(key, val)]

/-! ## Section 3: Requests and responses -/

inductive HttpMethod where
  | DELETE | GET | HEAD | POST | PUT | CONNECT | OPTIONS | TRACE | COPY | LOCK | MKCOL | MOVE
  | PROPFIND | PROPPATCH | SEARCH | UNLOCK | BIND | REBIND | UNBIND | ACL | REPORT | MKACTIVITY
  | CHECKOUT | MERGE | MSEARCH | NOTIFY | SUBSCRIBE | UNSUBSCRIBE | PATCH | PURGE | MKCALENDAR
  | LINK | UNLINK | SOURCE
  deriving DecidableEq, Repr

/-- `HTTP_METHOD_MAP` -/
def httpMethodMap : List (HttpMethod × String) :=
  [(.DELETE, "DELETE"), (.GET, "GET"), (.HEAD, "HEAD"), (.POST, "POST"), (.PUT, "PUT"),
   (.CONNECT, "CONNECT"), (.OPTIONS, "OPTIONS"), (.TRACE, "TRACE"), (.COPY, "COPY"),
   (.LOCK, "LOCK"), (.MKCOL, "MKCOL"), (.MOVE, "MOVE"), (.PROPFIND, "PROPFIND"),
   (.PROPPATCH, "PROPPATCH"), (.SEARCH, "SEARCH"), (.UNLOCK, "UNLOCK"), (.BIND, "BIND"),
   (.REBIND, "REBIND"), (.UNBIND, "UNBIND"), (.ACL, "ACL"), (.REPORT, "REPORT"),
   (.MKACTIVITY, "MKACTIVITY"), (.CHECKOUT, "CHECKOUT"), (.MERGE, "MERGE"),
   (.MSEARCH, "M-SEARCH"), (.NOTIFY, "NOTIFY"), (.SUBSCRIBE, "SUBSCRIBE"),
   (.UNSUBSCRIBE, "UNSUBSCRIBE"), (.PATCH, "PATCH"), (.PURGE, "PURGE"),
   (.MKCALENDAR, "MKCALENDAR"), (.LINK, "LINK"), (.UNLINK, "UNLINK"), (.SOURCE, "SOURCE")]

/-- Compares only as many bytes as the name has; `none` for `INVALID_METHOD`. -/
def charsToHttpMethod (m : Bytes) : Option HttpMethod :=
  (httpMethodMap.find? fun e => (ascii e.2).isPrefixOf m).map Prod.fst

structure HttpRequest where
  method   : HttpMethod
  version  : UInt8
  close    : Bool
  path     : Bytes
  query    : Bytes
  fragment : Bytes
  body     : Bytes
  headers  : Headers
  deriving DecidableEq, Repr

def HttpRequest.new : HttpRequest where
  method   := .GET
  version  := 0x11
  close    := true
  path     := ascii "/"
  query    := []
  fragment := []
  body     := []
  headers  := []

def HttpRequest.init (r : HttpRequest) : HttpRequest :=
  match r.headers.lookup (ascii "connection") with
  | none => r
  | some conn =>
    if conn = [] then r else { r with close := !strcaseeq conn (ascii "keep-alive") }

structure HttpResponse where
  status  : Int
  version : UInt8
  reason  : Bytes
  body    : Bytes
  headers : Headers
  deriving DecidableEq, Repr

/-- Status 200. -/
def HttpResponse.new : HttpResponse where
  status  := 200
  version := 0x11
  reason  := []
  body    := []
  headers := []

/-! ## Section 4: Streams -/

abbrev Stream : Type := List Bytes

/-- `read(data, n)`; `none` when it returns 0 or less. -/
def read (n : Nat) : Stream → Option (Bytes × Stream)
  | [] => none
  | c :: cs =>
    if c = [] ∨ n = 0 then none
    else if c.length ≤ n then some (c, cs)
    else some (c.take n, c.drop n :: cs)

/-- `Stream::readFixSize`, one `read` of what is left after the other. -/
def readFixSize : Nat → Stream → Option (Bytes × Stream)
  | 0, s => some ([], s)
  | _ + 1, [] => none
  | n + 1, c :: cs =>
    if c = [] then none
    else if c.length ≤ n + 1 then
      (readFixSize (n + 1 - c.length) cs).map fun r => (c ++ r.1, r.2)
    else some (c.take (n + 1), c.drop (n + 1) :: cs)

/-- Why no message is returned. -/
inductive Failure where
  | nullptr
  | threw
  deriving DecidableEq, Repr

/-- The body after a header with `Content-Length`; `buffer` holds what was
    read behind the header. -/
def recvBody (length : Int) (buffer : Bytes) (s : Stream) : Except Failure (Bytes × Stream) :=
  let body := if (buffer.length : Int) ≤ length then buffer else buffer.take length.toNat
  let left := length - buffer.length
  if 0 < left then
    match readFixSize left.toNat s with
    | none => .error .nullptr
    | some (rest, s) =>
      -- the length comes back as an `int`
      if toInt left.toNat ≤ 0 then .error .nullptr else .ok (body ++ rest, s)
  else .ok (body, s)

end Http

end MNSER
