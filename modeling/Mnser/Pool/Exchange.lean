import Mnser.Pool.Model

/-! # Requests through the pool

    `HttpConnectionPool::doRequest` in any number of fibers: take a connection,
    write the request, read the response, and let the connection go.  Beside
    the pool, the state has what each request is doing and what has happened
    on each connection. -/

namespace MNSER

namespace Http

open LTS

variable {n : Nat}

/-! ## Section 1: State -/

/-- `HttpResult::Error` -/
inductive Error where
  | OK
  | INVALID_URL
  | INVALID_HOST
  | CONNECT_FAIL
  | SEND_CLOSE_BY_PEER
  | SEND_SOCKET_ERROR
  | TIMEOUT
  | CREATE_SOCKET_ERROR
  | POOL_GET_CONNECTION
  | POOL_INVALID_CONNECTION
  deriving DecidableEq, Repr

/-- How far a fiber is in `doRequest`. -/
inductive Request where
  | idle
  /-- In `getConnection`, with a request of `length` bytes. -/
  | getting (length : Nat)
  /-- In `writeFixSize`, with `left` bytes to go. -/
  | sending (conn : Ptr) (left : Int) (length : Nat)
  /-- In `recvResponse`. -/
  | receiving (conn : Ptr)
  /-- The result is made, or an exception is on its way out (`none`), and `conn`
      goes out of scope. -/
  | leaving (conn : Ptr) (result : Option Error)
  /-- In `ReleasePtr`. -/
  | releasing
  deriving DecidableEq, Repr

/-- What has happened on a connection. -/
structure Wire where
  /-- requests of which something was written -/
  begun     : Nat  := 0
  /-- requests written to the end -/
  whole     : Nat  := 0
  /-- responses read to the end -/
  answered  : Nat  := 0
  /-- an exchange has ended in an error -/
  failed    : Bool := false
  /-- `doRequest` has given an exchange up without `close()`: `sendRequest` has
      returned `<= 0`, or an exception has left `recvResponse` -/
  abandoned : Bool := false
  /-- `recvResponse` has returned a response of which bytes are still to come -/
  cut       : Bool := false
  deriving DecidableEq, Repr

/-- No request is written in part, no response is outstanding, and no exchange
    has ended in an error. -/
def Wire.Clean (wire : Wire) : Prop :=
  wire.begun = wire.whole ∧ wire.begun = wire.answered ∧ wire.failed = false

instance (wire : Wire) : Decidable wire.Clean := inferInstanceAs (Decidable (_ ∧ _ ∧ _))

/-- `rt` bytes more of a request are written; `left` of its `length` bytes were
    to go. -/
def Wire.write (wire : Wire) (left : Int) (length : Nat) (rt : Int) : Wire :=
  { wire with
    begun := if left = length then wire.begun + 1 else wire.begun
    whole := if left - rt ≤ 0 then wire.whole + 1 else wire.whole }

/-- What `recvResponse` makes of the bytes of one `read`. -/
inductive Verdict where
  /-- it has to read on -/
  | more
  /-- the parser has an error, or the buffer is full: `close(); return nullptr;` -/
  | invalid
  /-- `body.append` or `body.resize` throws, and nobody catches it up to the
      caller of `doRequest` -/
  | exception
  /-- it returns a response; of what the peer sends for the request, `left` bytes
      are still to come -/
  | response (left : Nat)
  deriving DecidableEq, Repr

structure Client (n : Nat) where
  pool    : HttpConnectionPool n
  request : Fin n → Request
  wire    : Ptr → Wire

inductive ClientLabel (n : Nat) where
  | clock (now : Nat)
  | close (p : Ptr)
  | doRequest (w : Fin n) (length : Nat)
  /-- A step of `getConnection` or `ReleasePtr`. -/
  | step (w : Fin n)
  | connect (w : Fin n) (ptr : Option Ptr)
  /-- `write` returns `rt`. -/
  | write (w : Fin n) (rt : Int)
  /-- `writeFixSize` has written everything. -/
  | written (w : Fin n)
  /-- `read` returns `rt`. -/
  | read (w : Fin n) (rt : Int) (verdict : Verdict)
  | release (w : Fin n)
  deriving DecidableEq, Repr

/-! ## Section 2: Steps -/

namespace Client

def setPool (s : Client n) (pool : HttpConnectionPool n) : Client n := { s with pool := pool }

def setRequest (s : Client n) (w : Fin n) (r : Request) : Client n :=
  { s with request := fun v => if v = w then r else s.request v }

def setWire (s : Client n) (p : Ptr) (wire : Wire) : Client n :=
  { s with wire := fun q => if q = p then wire else s.wire q }

/-- The exchange on `p` ends with `result`. -/
def leave (s : Client n) (w : Fin n) (p : Ptr) (result : Option Error) (wire : Wire) : Client n :=
  (s.setWire p { wire with failed := wire.failed || decide (result ≠ some .OK) }).setRequest w
    (.leaving p result)

/-- The exchange on `p` ends without a response, and the connection stays open. -/
def abandon (s : Client n) (w : Fin n) (p : Ptr) (result : Option Error) : Client n :=
  s.leave w p result { s.wire p with abandoned := true }

/-- What `doRequest` does with the result of `sendRequest`. -/
def sent (s : Client n) (w : Fin n) (p : Ptr) (rt : Int) : Client n :=
  if rt = 0 then s.abandon w p (some .SEND_CLOSE_BY_PEER)
  else if rt < 0 then s.abandon w p (some .SEND_SOCKET_ERROR)
  else s.setRequest w (.receiving p)

/-- One round of the loop in `writeFixSize`. -/
def write (s : Client n) (w : Fin n) (p : Ptr) (left : Int) (length : Nat) (rt : Int) : Client n :=
  if rt ≤ 0 then s.sent w p rt
  else (s.setWire p ((s.wire p).write left length rt)).setRequest w
    (.sending p (left - rt) length)

/-- What the socket may answer when asked to write or read: a closed one is
    not asked at all. -/
def Answers (s : Client n) (p : Ptr) (rt : Int) : Prop :=
  (s.pool.obj p).isConnected = false → rt = -1

instance (s : Client n) (p : Ptr) (rt : Int) : Decidable (s.Answers p rt) :=
  inferInstanceAs (Decidable (_ → _))

/-- `recvResponse` gives up: `close(); return nullptr;` -/
def giveUp (cfg : Limits) (s : Client n) (w : Fin n) (p : Ptr) : Option (Client n) :=
  (s.pool.next cfg (.close p)).map fun pool =>
    (s.setPool pool).leave w p (some .TIMEOUT) (s.wire p)

/-- `recvResponse` returns a response. -/
def receive (s : Client n) (w : Fin n) (p : Ptr) (left : Nat) : Client n :=
  s.leave w p (some .OK) (if left = 0 then { s.wire p with answered := (s.wire p).answered + 1 }
    else { s.wire p with cut := true })

def next (cfg : Limits) (s : Client n) : ClientLabel n → Option (Client n)
  | .clock now => (s.pool.next cfg (.clock now)).map s.setPool
  | .close p => (s.pool.next cfg (.close p)).map s.setPool
  | .doRequest w length =>
    match s.request w with
    | .idle => (s.pool.next cfg (.getConnection w)).map fun pool =>
        (s.setPool pool).setRequest w (.getting length)
    | _ => none
  | .step w =>
    match s.request w with
    | .getting length => (s.pool.next cfg (.step w)).map fun pool =>
        match s.pool.call w with
        -- `getSocket()` of a connection is never null
        | .returning p _ => (s.setPool pool).setRequest w (.sending p length length)
        | _ => s.setPool pool
    | .releasing => (s.pool.next cfg (.step w)).map fun pool =>
        if pool.call w = .idle then (s.setPool pool).setRequest w .idle else s.setPool pool
    | _ => none
  | .connect w ptr =>
    match s.request w with
    | .getting _ => (s.pool.next cfg (.connect w ptr)).map fun pool =>
        match ptr with
        -- `POOL_GET_CONNECTION`
        | none => (s.setPool pool).setRequest w .idle
        | some p => (s.setPool pool).setWire p {}
    | _ => none
  | .write w rt =>
    match s.request w with
    | .sending p left length =>
      if 0 < left ∧ rt ≤ left ∧ s.Answers p rt then some (s.write w p left length rt) else none
    | _ => none
  | .written w =>
    match s.request w with
    | .sending p left length => if left ≤ 0 then some (s.sent w p (wrap32 length)) else none
    | _ => none
  | .read w rt verdict =>
    match s.request w with
    | .receiving p =>
      if s.Answers p rt then
        if rt ≤ 0 then s.giveUp cfg w p
        else match verdict with
          | .more          => some s
          | .invalid       => s.giveUp cfg w p
          | .exception     => some (s.abandon w p none)
          | .response left => some (s.receive w p left)
      else none
    | _ => none
  | .release w =>
    match s.request w with
    | .leaving p _ => (s.pool.next cfg (.release w p)).map fun pool =>
        (s.setPool pool).setRequest w .releasing
    | _ => none

def start (n : Nat) (clock : Nat) : Client n where
  pool    := HttpConnectionPool.start n clock
  request := fun _ => .idle
  wire    := fun _ => {}

end Client

def clients (cfg : Limits) (n : Nat) : System (Client n) (ClientLabel n) where
  init s := ∃ clock, s = Client.start n clock
  next   := Client.next cfg

end Http

end MNSER
