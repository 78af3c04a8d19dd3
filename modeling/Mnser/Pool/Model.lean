import Mathlib.Data.Finset.Insert
import Mathlib.Data.Finset.Erase
import Mnser.Framework.System
import Mnser.Word

/-! # Connection pool

    `HttpConnectionPool::getConnection` and `ReleasePtr`, run by `n` callers at
    once.  A call is cut into its steps: what it reads or changes under
    `m_mutex`, in a connection or in `m_total` is a step of its own, so any
    other caller can come in between.

    Connections are raw pointers.  The model keeps the set of objects that are
    allocated, and takes note when a pointer is used whose object is gone. -/

namespace MNSER

namespace Http

open LTS

/-! ## Section 1: State -/

/-- Where an `HttpConnection` is allocated. -/
abbrev Ptr : Type := Nat

/-- What the pool reads of a connection. -/
structure HttpConnection where
  /-- `m_socket->isConnected()` -/
  isConnected : Bool
  createTime  : Nat := 0
  request     : Nat := 0
  deriving DecidableEq, Repr

/-- The limits a pool is made with. -/
structure Limits where
  maxSize      : UInt32
  maxAliveTime : UInt32
  maxRequest   : UInt32

/-- How far a caller is in `getConnection` or in `ReleasePtr`. -/
inductive Call where
  | idle
  /-- `now_ms` is read; before `Lock lock(m_mutex)` -/
  | getting (now_ms : Nat)
  /-- In the loop over `m_conns`, with the lock. -/
  | scanning (now_ms : Nat) (invalid_conns : List Ptr)
  | unlocking (invalid_conns : List Ptr) (ptr : Option Ptr)
  /-- In the loop of `delete i`; `size` is `invalid_conns.size()`. -/
  | deleting (invalid_conns : List Ptr) (size : Nat) (ptr : Option Ptr)
  /-- `if(!ptr)`: before the lookup and `connect` -/
  | connecting
  /-- Before `++m_total`. -/
  | created (ptr : Ptr)
  /-- Before `return`; `reused` when the pointer comes from `m_conns`. -/
  | returning (ptr : Ptr) (reused : Bool)
  /-- `ReleasePtr` is called; before `++ptr->m_request` -/
  | releasing (ptr : Ptr)
  /-- Before `ptr->isConnected()`. -/
  | checking (ptr : Ptr)
  /-- Before `GetCurrentMS` and the test of `m_request`. -/
  | limiting (ptr : Ptr)
  /-- Before `delete ptr`. -/
  | dropping (ptr : Ptr)
  /-- Before `--m_total`. -/
  | uncounting
  /-- Before `push_back`. -/
  | pushing (ptr : Ptr)
  deriving DecidableEq, Repr

structure HttpConnectionPool (n : Nat) where
  conns  : List Ptr
  /-- `int32_t`; no test of the pool reads it -/
  total  : Int
  mutex  : Option (Fin n)
  /-- the allocated connections -/
  live   : Finset Ptr
  obj    : Ptr → HttpConnection
  /-- the connections in the hands of users -/
  handed : List Ptr
  call   : Fin n → Call
  /-- what `GetCurrentMS` returns -/
  clock  : Nat
  /-- a pointer was used or deleted after its object was deleted -/
  dangling : Bool

inductive PoolLabel (n : Nat) where
  | clock (now : Nat)
  /-- `close` on the socket of a connection, by whoever has the `Socket::ptr`;
      that the peer has closed changes nothing here. -/
  | close (p : Ptr)
  | getConnection (w : Fin n)
  /-- The last `HttpConnection::ptr` to a connection goes away. -/
  | release (w : Fin n) (p : Ptr)
  | step (w : Fin n)
  /-- `LookupAnyIPAddress`, `CreateTCP` and `connect`; then the address of
      `new HttpConnection(sock)`, or nothing if one of them failed. -/
  | connect (w : Fin n) (ptr : Option Ptr)
  deriving DecidableEq, Repr

/-! ## Section 2: Steps -/

namespace HttpConnectionPool

variable {n : Nat}

def setCall (s : HttpConnectionPool n) (w : Fin n) (c : Call) : HttpConnectionPool n :=
  { s with call := fun v => if v = w then c else s.call v }

def setObj (s : HttpConnectionPool n) (p : Ptr) (conn : HttpConnection) : HttpConnectionPool n :=
  { s with obj := fun q => if q = p then conn else s.obj q }

/-- `p` is used. -/
def touch (s : HttpConnectionPool n) (p : Ptr) : HttpConnectionPool n :=
  if p ∈ s.live then s else { s with dangling := true }

/-- `delete p` -/
def delete (s : HttpConnectionPool n) (p : Ptr) : HttpConnectionPool n :=
  { s.touch p with live := s.live.erase p }

/-- One round of the loop in `getConnection`. -/
def scan (cfg : Limits) (s : HttpConnectionPool n) (w : Fin n) (now_ms : Nat)
    (invalid_conns : List Ptr) : HttpConnectionPool n :=
  match s.conns with
  | [] => s.setCall w (.unlocking invalid_conns none)
  | conn :: rest =>
    let s := { s.touch conn with conns := rest }
    if !(s.obj conn).isConnected then
      s.setCall w (.scanning now_ms (invalid_conns ++ [conn]))
    else if add64 (s.obj conn).createTime cfg.maxAliveTime.toNat > now_ms then
      s.setCall w (.scanning now_ms (invalid_conns ++ [conn]))
    else s.setCall w (.unlocking invalid_conns (some conn))

/-- The next step of a caller, as far as it does not depend on anybody else. -/
def advance (cfg : Limits) (s : HttpConnectionPool n) (w : Fin n) :
    Call → Option (HttpConnectionPool n)
  | .idle => none
  | .getting now_ms =>
    if s.mutex = none then some ({ s with mutex := some w }.setCall w (.scanning now_ms []))
    else none
  | .scanning now_ms invalid_conns => some (s.scan cfg w now_ms invalid_conns)
  | .unlocking invalid_conns ptr =>
    some ({ s with mutex := none }.setCall w (.deleting invalid_conns invalid_conns.length ptr))
  | .deleting (p :: rest) size ptr => some ((s.delete p).setCall w (.deleting rest size ptr))
  | .deleting [] size ptr =>
    let s := { s with total := wrap32 (s.total - size) }
    match ptr with
    | some p => some (s.setCall w (.returning p true))
    | none   => some (s.setCall w .connecting)
  | .connecting => none
  | .created p => some ({ s with total := wrap32 (s.total + 1) }.setCall w (.returning p false))
  | .returning p _ => some ({ s.touch p with handed := p :: s.handed }.setCall w .idle)
  | .releasing p =>
    let conn := { s.obj p with request := add64 (s.obj p).request 1 }
    some (((s.touch p).setObj p conn).setCall w (.checking p))
  | .checking p =>
    if !(s.obj p).isConnected then some ((s.touch p).setCall w (.dropping p))
    else some ((s.touch p).setCall w (.limiting p))
  | .limiting p =>
    -- the clock is compared this way round in the source
    if add64 (s.obj p).createTime cfg.maxAliveTime.toNat ≥ s.clock ∨
        (s.obj p).request ≥ cfg.maxRequest.toNat then
      some ((s.touch p).setCall w (.dropping p))
    else some ((s.touch p).setCall w (.pushing p))
  | .dropping p => some ((s.delete p).setCall w .uncounting)
  | .uncounting => some ({ s with total := wrap32 (s.total - 1) }.setCall w .idle)
  | .pushing p =>
    if s.mutex = none then some ({ s with conns := s.conns ++ [p] }.setCall w .idle) else none

def next (cfg : Limits) (s : HttpConnectionPool n) : PoolLabel n → Option (HttpConnectionPool n)
  | .clock now => some { s with clock := now }
  | .close p =>
    if p ∈ s.live then some (s.setObj p { s.obj p with isConnected := false }) else none
  | .getConnection w => if s.call w = .idle then some (s.setCall w (.getting s.clock)) else none
  | .release w p =>
    if s.call w = .idle ∧ p ∈ s.handed then
      some ({ s with handed := s.handed.erase p }.setCall w (.releasing p))
    else none
  | .step w => s.advance cfg w (s.call w)
  | .connect w ptr =>
    if s.call w = .connecting then
      match ptr with
      | none   => some (s.setCall w .idle)
      | some p =>
        if p ∈ s.live then none
        else some (({ s with live := insert p s.live }.setObj p { isConnected := true }).setCall w
          (.created p))
    else none

def start (n : Nat) (clock : Nat) : HttpConnectionPool n where
  conns    := []
  total    := 0
  mutex    := none
  live     := ∅
  obj      := fun _ => { isConnected := false }
  handed   := []
  call     := fun _ => .idle
  clock    := clock
  dangling := false

end HttpConnectionPool

def pools (cfg : Limits) (n : Nat) : System (HttpConnectionPool n) (PoolLabel n) where
  init s := ∃ clock, s = HttpConnectionPool.start n clock
  next   := HttpConnectionPool.next cfg

end Http

end MNSER
