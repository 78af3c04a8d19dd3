import Mathlib.Algebra.BigOperators.Group.Multiset.Basic
import Mnser.Framework.Custody
import Mnser.Framework.System

/-! # A server at work

    `start`, `startAccept`, `handleClient` and `stop` of a `TcpServer`.  The
    tasks of the accept workers and of the io workers take their steps in any
    order, and other threads open and close descriptors meanwhile.

    `accept` reads `m_sock` once and works on the number; `stop` closes the
    number, and sets `m_sock` later.  In between the number may be in use
    again. -/

namespace MNSER

open LTS

namespace Tcp

/-! ## Section 1: Data -/

abbrev Fd : Type := Nat

/-- A listening `Socket`; `closed` between `close_f` and `m_sock = -1`. -/
structure Listener where
  m_sock : Option Fd
  closed : Bool
  deriving DecidableEq, Repr

/-- Where a task is in `startAccept`.  Connections are numbered in the order
    in which the kernel hands them out. -/
inductive AcceptPc where
  | queued
  /-- before `while(!m_isStop)` -/
  | check
  /-- past the test, before `Socket::accept` reads `m_sock` -/
  | calling
  /-- in `::accept` on the number read from `m_sock` -/
  | accepting (fd : Option Fd)
  /-- `newsock`, before `init` -/
  | accepted (newsock : Fd) (conn : Nat)
  /-- `client`, before `handleClient` is scheduled -/
  | created (fd : Fd) (conn : Nat)
  | done
  deriving DecidableEq, Repr

structure Acceptor where
  sock : Nat
  pc   : AcceptPc
  deriving DecidableEq, Repr

/-- Where the task of `handleClient` is. -/
inductive HandlePc where
  | queued
  | running
  | done
  deriving DecidableEq, Repr

structure Client where
  conn    : Nat
  m_sock  : Option Fd
  timeout : Nat
  pc      : HandlePc
  deriving DecidableEq, Repr

/-- Where the function of `stop`, or the destructor, is in its loop. -/
inductive ClosePc where
  | queued
  | next (todo : List Nat)
  /-- before `close_f` on the number read from `m_sock` -/
  | close_f (sock : Nat) (fd : Fd) (todo : List Nat)
  /-- before `m_sock = -1` -/
  | reset (sock : Nat) (todo : List Nat)
  | done
  deriving DecidableEq, Repr

/-- The loop over `m_socks` is running. -/
def ClosePc.running : ClosePc → Bool
  | .queued => false
  | .done   => false
  | _       => true

structure Serving where
  /-- the descriptors that are in use -/
  live          : Finset Fd
  /-- those of everybody else -/
  others        : List Fd
  /-- those that `init` has refused, with their connections -/
  leaked        : List (Fd × Nat)
  listeners     : List Listener
  m_socks       : List Nat
  m_isStop      : Bool
  m_recvTimeout : Nat
  acceptors     : List Acceptor
  clients       : List Client
  closers       : List ClosePc
  /-- number of connections so far -/
  conns         : Nat
  /-- the user has a pointer to the server -/
  held          : Bool
  destroyed     : Bool

inductive ServingLabel where
  /-- a descriptor of somebody else -/
  | open (fd : Fd)
  | close (fd : Fd)
  /-- one address of `bind` -/
  | bind (fd : Fd)
  | setRecvTimeout (v : Nat)
  | start
  | stop
  /-- the user drops the pointer -/
  | release
  /-- `~TcpServer` -/
  | destroy
  /-- steps of `startAccept` -/
  | begin (i : Nat)
  | check (i : Nat)
  | enter (i : Nat)
  | refuse (i : Nat)
  | accept (i : Nat) (newsock : Fd)
  /-- `ok`: there is an open `FdCtx` of a socket -/
  | init (i : Nat) (ok : Bool)
  | schedule (i : Nat)
  /-- steps of `handleClient` and of who has the client from it -/
  | handle (k : Nat)
  | closeClient (k : Nat)
  | drop (k : Nat)
  /-- steps of the loop over `m_socks` -/
  | closerBegin (j : Nat)
  | closeNext (j : Nat)
  | close_f (j : Nat)
  | reset (j : Nat)
  | clear (j : Nat)
  deriving DecidableEq, Repr

namespace Serving

/-! ## Section 2: Steps -/

def setAcceptor (s : Serving) (i : Nat) (a : Acceptor) : Serving :=
  { s with acceptors := s.acceptors.set i a }

def setClient (s : Serving) (k : Nat) (c : Client) : Serving :=
  { s with clients := s.clients.set k c }

def setCloser (s : Serving) (j : Nat) (pc : ClosePc) : Serving :=
  { s with closers := s.closers.set j pc }

def setListener (s : Serving) (l : Nat) (x : Listener) : Serving :=
  { s with listeners := s.listeners.set l x }

/-- `Socket::m_sock` of a listening socket. -/
def sockOf (s : Serving) (l : Nat) : Option Fd := (s.listeners[l]?).bind Listener.m_sock

/-- Nothing keeps a pointer to the server. -/
def Unreferenced (s : Serving) : Bool :=
  !s.held && s.acceptors.all (fun a => a.pc = .done) && s.clients.all (fun c => c.pc = .done) &&
    s.closers.all fun pc => pc = .done

def next (s : Serving) : ServingLabel → Option Serving
  | .open fd =>
    if fd ∉ s.live then some { s with live := insert fd s.live, others := fd :: s.others } else none
  | .close fd =>
    if fd ∈ s.others then some { s with live := s.live.erase fd, others := s.others.erase fd }
    else none
  | .bind fd =>
    if s.held ∧ fd ∉ s.live then
      some { s with
        live      := insert fd s.live
        listeners := s.listeners ++ [⟨some fd, false⟩]
        m_socks   := s.m_socks ++ [s.listeners.length] }
    else none
  | .setRecvTimeout v => if s.held then some { s with m_recvTimeout := v } else none
  | .start =>
    if s.held then
      if s.m_isStop then
        some { s with
          m_isStop  := false
          acceptors := s.acceptors ++ s.m_socks.map fun sock => ⟨sock, .queued⟩ }
      else some s
    else none
  | .stop =>
    if s.held then some { s with m_isStop := true, closers := s.closers ++ [.queued] } else none
  | .release => if s.held then some { s with held := false } else none
  | .destroy =>
    if s.Unreferenced ∧ s.destroyed = false then
      some { s with destroyed := true, closers := s.closers ++ [.next s.m_socks] }
    else none
  | .begin i =>
    (s.acceptors[i]?).bind fun a =>
      if a.pc = .queued then some (s.setAcceptor i { a with pc := .check }) else none
  | .check i =>
    (s.acceptors[i]?).bind fun a =>
      if a.pc = .check then
        some (s.setAcceptor i { a with pc := if s.m_isStop then .done else .calling })
      else none
  | .enter i =>
    (s.acceptors[i]?).bind fun a =>
      if a.pc = .calling then
        some (s.setAcceptor i { a with pc := .accepting (s.sockOf a.sock) })
      else none
  | .refuse i =>
    (s.acceptors[i]?).bind fun a =>
      match a.pc with
      | .accepting _ => some (s.setAcceptor i { a with pc := .check })
      | _ => none
  | .accept i newsock =>
    (s.acceptors[i]?).bind fun a =>
      match a.pc with
      | .accepting (some fd) =>
        if fd ∈ s.live ∧ newsock ∉ s.live then
          some { s.setAcceptor i { a with pc := .accepted newsock s.conns } with
            live  := insert newsock s.live
            conns := s.conns + 1 }
        else none
      | _ => none
  | .init i ok =>
    (s.acceptors[i]?).bind fun a =>
      match a.pc with
      | .accepted newsock conn =>
        if ok then some (s.setAcceptor i { a with pc := .created newsock conn })
        else
          some { s.setAcceptor i { a with pc := .check } with
            leaked := s.leaked ++ [(newsock, conn)] }
      | _ => none
  | .schedule i =>
    (s.acceptors[i]?).bind fun a =>
      match a.pc with
      | .created fd conn =>
        some { s.setAcceptor i { a with pc := .check } with
          clients := s.clients ++ [⟨conn, some fd, s.m_recvTimeout, .queued⟩] }
      | _ => none
  | .handle k =>
    (s.clients[k]?).bind fun c =>
      if c.pc = .queued then some (s.setClient k { c with pc := .running }) else none
  | .closeClient k =>
    (s.clients[k]?).bind fun c =>
      if c.pc = .running then
        some { s.setClient k { c with m_sock := none } with
          live := c.m_sock.elim s.live s.live.erase }
      else none
  | .drop k =>
    (s.clients[k]?).bind fun c =>
      if c.pc = .running then
        -- `~Socket`
        some { s.setClient k { c with m_sock := none, pc := .done } with
          live := c.m_sock.elim s.live s.live.erase }
      else none
  | .closerBegin j =>
    (s.closers[j]?).bind fun pc =>
      if pc = .queued then some (s.setCloser j (.next s.m_socks)) else none
  | .closeNext j =>
    (s.closers[j]?).bind fun pc =>
      match pc with
      | .next (sock :: todo) =>
        match s.sockOf sock with
        | some fd => some (s.setCloser j (.close_f sock fd todo))
        | none    => some (s.setCloser j (.next todo))
      | _ => none
  | .close_f j =>
    (s.closers[j]?).bind fun pc =>
      match pc with
      | .close_f sock fd todo =>
        some { (s.setCloser j (.reset sock todo)).setListener sock ⟨s.sockOf sock, true⟩ with
          live := s.live.erase fd }
      | _ => none
  | .reset j =>
    (s.closers[j]?).bind fun pc =>
      match pc with
      | .reset sock todo => some ((s.setCloser j (.next todo)).setListener sock ⟨none, false⟩)
      | _ => none
  | .clear j =>
    (s.closers[j]?).bind fun pc =>
      match pc with
      | .next [] => some { s.setCloser j .done with m_socks := [] }
      | _ => none

/-- A server without sockets; others have some descriptors. -/
def new (others : List Fd) (m_recvTimeout : Nat) : Serving where
  live          := others.toFinset
  others        := others
  leaked        := []
  listeners     := []
  m_socks       := []
  m_isStop      := true
  m_recvTimeout := m_recvTimeout
  acceptors     := []
  clients       := []
  closers       := []
  conns         := 0
  held          := true
  destroyed     := false

end Serving

def servings : System Serving ServingLabel where
  init := fun s => ∃ others m_recvTimeout, others.Nodup ∧ s = Serving.new others m_recvTimeout
  next := Serving.next

/-! ## Section 3: Who has a descriptor -/

/-- The number a task of `startAccept` has, which nobody else knows. -/
def AcceptPc.holds : AcceptPc → Multiset Fd
  | .accepted newsock _ => {newsock}
  | .created fd _       => {fd}
  | _                   => 0

/-- The connection a task of `startAccept` has to see to. -/
def AcceptPc.conn : AcceptPc → Multiset Nat
  | .accepted _ conn => {conn}
  | .created _ conn  => {conn}
  | _                => 0

def Listener.holds (x : Listener) : Multiset Fd := if x.closed then 0 else x.m_sock.toList

def Client.holds (c : Client) : Multiset Fd := c.m_sock.toList

namespace Serving

variable {T : Type} (A : AcceptPc → Multiset T) (C : Client → Multiset T)
  (L : Fd × Nat → Multiset T)

/-- What the tasks of `startAccept`, the clients and the leaked descriptors have. -/
def inService (s : Serving) : Multiset T :=
  (s.leaked.map L).sum + (s.acceptors.map fun a => A a.pc).sum + (s.clients.map C).sum

/-- The descriptors, once for everybody who has one. -/
def holders (s : Serving) : Multiset Fd :=
  s.others + (s.listeners.map Listener.holds).sum +
    s.inService AcceptPc.holds Client.holds fun x => {x.1}

/-- The connections: on the way to `handleClient`, passed to it, or refused by `init`. -/
def tracked (s : Serving) : Multiset Nat :=
  s.inService AcceptPc.conn (fun c => {c.conn}) fun x => {x.2}

variable {A C L} {s t : Serving} {i k : Nat}

/-- A task of `startAccept` goes on: what it has changes, and nothing else. -/
theorem inService_setAcceptor {a : Acceptor} (hi : s.acceptors[i]? = some a) (b : Acceptor) :
    ∃ rest, s.inService A C L = A a.pc + rest ∧
      (s.setAcceptor i b).inService A C L = A b.pc + rest := by
  obtain ⟨rest, hsum, hset⟩ := Custody.sum_set (fun a : Acceptor => A a.pc) hi b
  refine ⟨(s.leaked.map L).sum + (s.clients.map C).sum + rest, ?_, ?_⟩
  · rw [inService, hsum]
    ac_rfl
  · rw [inService]
    show _ + ((s.acceptors.set i b).map fun a => A a.pc).sum + _ = _
    rw [hset]
    ac_rfl

/-- One client is counted apart from the rest. -/
theorem inService_setClient {c : Client} (hk : s.clients[k]? = some c) (d : Client) :
    ∃ rest, s.inService A C L = C c + rest ∧ (s.setClient k d).inService A C L = C d + rest := by
  obtain ⟨rest, hsum, hset⟩ := Custody.sum_set C hk d
  refine ⟨(s.leaked.map L).sum + (s.acceptors.map fun a => A a.pc).sum + rest, ?_, ?_⟩
  · rw [inService, hsum]
    ac_rfl
  · rw [inService]
    show _ + _ + ((s.clients.set k d).map C).sum = _
    rw [hset]
    ac_rfl

/-- A client's task, or who has the client from it, goes on. -/
theorem holders_setClient {c : Client} (hk : s.clients[k]? = some c) (d : Client) :
    ∃ rest, s.holders = Client.holds c + rest ∧
      (s.setClient k d).holders = Client.holds d + rest := by
  obtain ⟨rest, hbefore, hafter⟩ := inService_setClient (A := AcceptPc.holds) (C := Client.holds)
    (L := fun x => {x.1}) hk d
  refine ⟨s.others + (s.listeners.map Listener.holds).sum + rest, ?_, ?_⟩
  · rw [holders, hbefore]
    ac_rfl
  · rw [holders, hafter]
    show s.others + (s.listeners.map Listener.holds).sum + _ = _
    ac_rfl

/-- A client keeps its connection. -/
theorem tracked_setClient {c : Client} (hk : s.clients[k]? = some c) {d : Client}
    (hconn : d.conn = c.conn) : (s.setClient k d).tracked = s.tracked := by
  obtain ⟨rest, hbefore, hafter⟩ := inService_setClient (A := AcceptPc.conn)
    (C := fun c => {c.conn}) (L := fun x => {x.2}) hk d
  rw [tracked, tracked, hafter, hbefore, hconn]

/-- One listener is counted apart from the rest. -/
theorem holders_setListener {l : Nat} {x : Listener} (hl : s.listeners[l]? = some x)
    (y : Listener) :
    ∃ rest, s.holders = Listener.holds x + rest ∧
      (s.setListener l y).holders = Listener.holds y + rest := by
  obtain ⟨rest, hsum, hset⟩ := Custody.sum_set Listener.holds hl y
  refine ⟨s.others + s.inService AcceptPc.holds Client.holds (fun x => {x.1}) + rest, ?_, ?_⟩
  · rw [holders, hsum]
    ac_rfl
  · rw [holders]
    show _ + ((s.listeners.set l y).map Listener.holds).sum + _ = _
    rw [hset]
    ac_rfl

/-- What a task has of an accepted connection is what the client or the leak has. -/
structure PassedOn (A : AcceptPc → Multiset T) (C : Client → Multiset T)
    (L : Fd × Nat → Multiset T) : Prop where
  queued    : A .queued = 0
  check     : A .check = 0
  calling   : A .calling = 0
  accepting : ∀ fd, A (.accepting fd) = 0
  done      : A .done = 0
  init      : ∀ fd conn, A (.created fd conn) = A (.accepted fd conn)
  leak      : ∀ fd conn, L (fd, conn) = A (.accepted fd conn)
  client    : ∀ fd conn timeout, C ⟨conn, some fd, timeout, .queued⟩ = A (.accepted fd conn)

/-- Descriptors are passed on from place to place. -/
theorem holds_passedOn : PassedOn AcceptPc.holds Client.holds fun x => {x.1} where
  queued    := rfl
  check     := rfl
  calling   := rfl
  accepting := fun _ => rfl
  done      := rfl
  init      := fun _ _ => rfl
  leak      := fun _ _ => rfl
  client    := fun _ _ _ => rfl

/-- So are connections. -/
theorem conn_passedOn : PassedOn AcceptPc.conn (fun c => {c.conn}) fun x => {x.2} where
  queued    := rfl
  check     := rfl
  calling   := rfl
  accepting := fun _ => rfl
  done      := rfl
  init      := fun _ _ => rfl
  leak      := fun _ _ => rfl
  client    := fun _ _ _ => rfl

/-- What a step of `start` or `startAccept` does: a new connection comes into
    service, or what there is is passed on. -/
inductive Served (A : AcceptPc → Multiset T) (C : Client → Multiset T)
    (L : Fd × Nat → Multiset T) (s t : Serving) : Prop where
  | pass (others : t.others = s.others) (listeners : t.listeners = s.listeners)
      (live : t.live = s.live) (conns : t.conns = s.conns)
      (same : t.inService A C L = s.inService A C L)
  | accept (others : t.others = s.others) (listeners : t.listeners = s.listeners)
      (newsock : Fd) (fresh : newsock ∉ s.live) (live : t.live = insert newsock s.live)
      (conns : t.conns = s.conns + 1)
      (more : t.inService A C L = A (.accepted newsock s.conns) + s.inService A C L)

/-- A task of `startAccept` is the only one to know the descriptor of `newsock`. -/
theorem Served.held (h : Served AcceptPc.holds Client.holds (fun x => {x.1}) s t) :
    Custody.Step s.live s.holders t.live t.holders := by
  cases h with
  | pass others listeners live conns same =>
    refine .pass ?_ live
    rw [holders, others, listeners, same]
    rfl
  | accept others listeners newsock fresh live conns more =>
    refine .mint newsock fresh ?_ live
    rw [holders, others, listeners, more, ← Multiset.singleton_add]
    show _ + ({newsock} + _) = {newsock} + (_ + _)
    ac_rfl

/-- What a step does to the connections that somebody has. -/
theorem Served.tracked (h : Served AcceptPc.conn (fun c => {c.conn}) (fun x => {x.2}) s t) :
    Custody.Step (Finset.range s.conns) s.tracked (Finset.range t.conns) t.tracked := by
  cases h with
  | pass others listeners live conns same => exact .pass same (by rw [conns])
  | accept others listeners newsock fresh live conns more =>
    refine .mint s.conns Finset.notMem_range_self ?_ (by rw [conns, Finset.range_add_one])
    rw [← Multiset.singleton_add]
    exact more

/-- A task of `startAccept` passes on what it has, or has nothing. -/
theorem Served.of_setAcceptor {a : Acceptor} (hi : s.acceptors[i]? = some a) {b : Acceptor}
    (hsame : A b.pc = A a.pc) : Served A C L s (s.setAcceptor i b) := by
  obtain ⟨rest, hbefore, hafter⟩ := inService_setAcceptor (A := A) (C := C) (L := L) hi b
  exact .pass rfl rfl rfl rfl (by rw [hafter, hbefore, hsame])

/-- A task of `startAccept` passes a connection on and goes back to its loop. -/
theorem Served.of_passed {a : Acceptor} (hi : s.acceptors[i]? = some a) (h : PassedOn A C L)
    (hothers : t.others = s.others) (hlisteners : t.listeners = s.listeners)
    (hlive : t.live = s.live) (hconns : t.conns = s.conns)
    (hmore : t.inService A C L =
      (s.setAcceptor i { a with pc := .check }).inService A C L + A a.pc) :
    Served A C L s t := by
  obtain ⟨rest, hbefore, hafter⟩ :=
    inService_setAcceptor (A := A) (C := C) (L := L) hi { a with pc := .check }
  refine .pass hothers hlisteners hlive hconns ?_
  rw [hmore, hafter, hbefore, h.check, zero_add, add_comm]

/-- `start` schedules one task for each listener. -/
theorem served_start (h : PassedOn A C L) (hnext : s.next .start = some t) : Served A C L s t := by
  simp only [next] at hnext
  split at hnext
  · split at hnext
    · obtain rfl := Option.some.inj hnext
      refine .pass rfl rfl rfl rfl ?_
      unfold inService
      have hqueued : ((s.m_socks.map fun sock => (⟨sock, .queued⟩ : Acceptor)).map fun a =>
          A a.pc).sum = 0 := by
        rw [List.map_map]
        exact List.sum_eq_zero fun x hx => by
          obtain ⟨_, _, rfl⟩ := List.mem_map.mp hx
          exact h.queued
      rw [List.map_append, List.sum_append, hqueued, add_zero]
    · obtain rfl := Option.some.inj hnext
      exact .pass rfl rfl rfl rfl rfl
  · cases hnext

/-- A task is taken up. -/
theorem served_begin (h : PassedOn A C L) (hnext : s.next (.begin i) = some t) :
    Served A C L s t := by
  obtain ⟨a, hi, hnext⟩ := Option.bind_eq_some_iff.mp hnext
  split at hnext
  · rename_i hpc
    obtain rfl := Option.some.inj hnext
    exact .of_setAcceptor hi (by rw [hpc, h.queued, h.check])
  · cases hnext

/-- The task looks at `m_isStop`. -/
theorem served_check (h : PassedOn A C L) (hnext : s.next (.check i) = some t) :
    Served A C L s t := by
  obtain ⟨a, hi, hnext⟩ := Option.bind_eq_some_iff.mp hnext
  split at hnext
  · rename_i hpc
    obtain rfl := Option.some.inj hnext
    refine .of_setAcceptor hi ?_
    rw [hpc, h.check]
    dsimp only
    split
    · exact h.done
    · exact h.calling
  · cases hnext

/-- It goes into `::accept`. -/
theorem served_enter (h : PassedOn A C L) (hnext : s.next (.enter i) = some t) :
    Served A C L s t := by
  obtain ⟨a, hi, hnext⟩ := Option.bind_eq_some_iff.mp hnext
  split at hnext
  · rename_i hpc
    obtain rfl := Option.some.inj hnext
    exact .of_setAcceptor hi (by rw [hpc, h.calling, h.accepting])
  · cases hnext

/-- `::accept` fails. -/
theorem served_refuse (h : PassedOn A C L) (hnext : s.next (.refuse i) = some t) :
    Served A C L s t := by
  obtain ⟨a, hi, hnext⟩ := Option.bind_eq_some_iff.mp hnext
  split at hnext
  · rename_i fd hpc
    obtain rfl := Option.some.inj hnext
    exact .of_setAcceptor hi (by rw [hpc, h.accepting, h.check])
  · cases hnext

/-- `::accept` gives a descriptor. -/
theorem served_accept (h : PassedOn A C L) {newsock : Fd}
    (hnext : s.next (.accept i newsock) = some t) : Served A C L s t := by
  obtain ⟨a, hi, hnext⟩ := Option.bind_eq_some_iff.mp hnext
  split at hnext
  · rename_i fd hpc
    split at hnext
    · rename_i hfresh
      obtain rfl := Option.some.inj hnext
      obtain ⟨rest, hbefore, hafter⟩ := inService_setAcceptor (A := A) (C := C) (L := L) hi
        { a with pc := .accepted newsock s.conns }
      refine .accept rfl rfl newsock hfresh.2 rfl rfl (hafter.trans ?_)
      rw [hbefore, hpc, h.accepting, zero_add]
    · cases hnext
  · cases hnext

/-- The new socket is initialised or not. -/
theorem served_init (h : PassedOn A C L) {ok : Bool} (hnext : s.next (.init i ok) = some t) :
    Served A C L s t := by
  obtain ⟨a, hi, hnext⟩ := Option.bind_eq_some_iff.mp hnext
  split at hnext
  · rename_i newsock conn hpc
    split at hnext
    · obtain rfl := Option.some.inj hnext
      exact .of_setAcceptor hi (by rw [hpc, h.init])
    · obtain rfl := Option.some.inj hnext
      refine .of_passed hi h rfl rfl rfl rfl ?_
      unfold inService
      show ((s.leaked ++ [(newsock, conn)]).map L).sum + _ + _ = _
      rw [Custody.sum_snoc, hpc, h.leak]
      show _ = (s.leaked.map L).sum + _ + _ + _
      ac_rfl
  · cases hnext

/-- The connection goes to a client's task. -/
theorem served_schedule (h : PassedOn A C L) (hnext : s.next (.schedule i) = some t) :
    Served A C L s t := by
  obtain ⟨a, hi, hnext⟩ := Option.bind_eq_some_iff.mp hnext
  split at hnext
  · rename_i fd conn hpc
    obtain rfl := Option.some.inj hnext
    refine .of_passed hi h rfl rfl rfl rfl ?_
    unfold inService
    rw [hpc, h.init, ← h.client fd conn s.m_recvTimeout]
    refine Eq.trans (congrArg _ (Custody.sum_snoc C s.clients _)) ?_
    rw [← add_assoc]
    rfl
  · cases hnext

/-! ## Section 4: The loops over `m_socks` -/

/-- The sockets are open, and no two are the same. -/
def Ready (s : Serving) (todo : List Nat) : Prop :=
  todo.Nodup ∧ ∀ l ∈ todo, ∃ fd, s.listeners[l]? = some ⟨some fd, false⟩

/-- What a loop still has to close is open, and the socket at hand is in the
    state the loop has left it in. -/
def PcOk (s : Serving) : ClosePc → Prop
  | .next todo            => s.Ready todo
  | .close_f sock fd todo =>
    s.Ready todo ∧ sock ∉ todo ∧ s.listeners[sock]? = some ⟨some fd, false⟩
  | .reset sock todo      =>
    s.Ready todo ∧ sock ∉ todo ∧ ∃ fd, s.listeners[sock]? = some ⟨some fd, true⟩
  | _                     => True

/-- At most one loop is running; if none is, all sockets are open. -/
structure Tended (s : Serving) : Prop where
  single : s.closers.countP ClosePc.running ≤ 1
  each   : ∀ pc ∈ s.closers, s.PcOk pc
  idle   : s.closers.countP ClosePc.running = 0 → s.Ready s.m_socks

/-- No loop starts while another one is running, and no socket comes into
    `m_socks` behind its back. -/
def Alone (s : Serving) : ServingLabel → Prop
  | .bind _        => s.closers.countP ClosePc.running = 0
  | .closerBegin _ => s.closers.countP ClosePc.running = 0
  | _              => True

instance (s : Serving) : (l : ServingLabel) → Decidable (s.Alone l)
  | .bind _        => inferInstanceAs (Decidable (_ = 0))
  | .closerBegin _ => inferInstanceAs (Decidable (_ = 0))
  | .open _ | .close _ | .setRecvTimeout _ | .start | .stop | .release | .destroy | .begin _
  | .check _ | .enter _ | .refuse _ | .accept _ _ | .init _ _ | .schedule _ | .handle _ | .closeClient _
  | .drop _ | .closeNext _ | .close_f _ | .reset _ | .clear _ => inferInstanceAs (Decidable True)

/-- A task that does not run needs nothing. -/
theorem pcOk_of_idle {pc : ClosePc} (h : pc.running = false) : s.PcOk pc := by
  cases pc with
  | queued => trivial
  | done => trivial
  | next todo => cases h
  | close_f sock fd todo => cases h
  | reset sock todo => cases h

theorem Ready.of_listeners {todo : List Nat} (h : s.Ready todo) (hl : t.listeners = s.listeners) :
    t.Ready todo := by
  refine ⟨h.1, ?_⟩
  rw [hl]
  exact h.2

theorem PcOk.of_listeners {pc : ClosePc} (h : s.PcOk pc) (hl : t.listeners = s.listeners) :
    t.PcOk pc := by
  cases pc with
  | queued => trivial
  | done => trivial
  | next todo => exact Ready.of_listeners h hl
  | close_f sock fd todo =>
    obtain ⟨hready, hnot, hopen⟩ := h
    exact ⟨hready.of_listeners hl, hnot, hl ▸ hopen⟩
  | reset sock todo =>
    obtain ⟨hready, hnot, hclosed⟩ := h
    exact ⟨hready.of_listeners hl, hnot, hl ▸ hclosed⟩

/-- A socket that is not at hand stays open. -/
theorem Ready.setListener {todo : List Nat} (h : s.Ready todo) {l : Nat} (hnot : l ∉ todo)
    (x : Listener) : (s.setListener l x).Ready todo := by
  refine ⟨h.1, ?_⟩
  intro m hm
  obtain ⟨fd, hfd⟩ := h.2 m hm
  refine ⟨fd, ?_⟩
  show (s.listeners.set l x)[m]? = _
  rw [List.getElem?_set_ne (by rintro rfl; exact hnot hm)]
  exact hfd

/-- The loops and the sockets are as they were. -/
theorem Tended.same (h : s.Tended) (hclosers : t.closers = s.closers)
    (hlisteners : t.listeners = s.listeners) (hsocks : t.m_socks = s.m_socks) : t.Tended where
  single := hclosers ▸ h.single
  each   := by
    intro pc hpc
    exact (h.each pc (hclosers ▸ hpc)).of_listeners hlisteners
  idle   := by
    intro hidle
    rw [hsocks]
    exact (h.idle (hclosers ▸ hidle)).of_listeners hlisteners

/-- The one loop that is running goes on. -/
theorem Tended.turn (h : s.Tended) {j : Nat} {pc pc' : ClosePc} (hj : s.closers[j]? = some pc)
    (hrunning : pc.running = true) (hclosers : t.closers = s.closers.set j pc') (hok : t.PcOk pc')
    (hdone : pc'.running = false → t.Ready t.m_socks) : t.Tended := by
  obtain ⟨hlt, hget⟩ := List.getElem?_eq_some_iff.mp hj
  -- at most one task closes, and it is j
  have hcount : ∀ x : ClosePc, (s.closers.set j x).countP ClosePc.running =
      if x.running = true then 1 else 0 := by
    intro x
    have hpos : 0 < s.closers.countP ClosePc.running :=
      List.countP_pos_iff.mpr ⟨pc, List.mem_of_getElem? hj, hrunning⟩
    have hsingle := h.single
    rw [List.countP_set hlt, hget, if_pos hrunning]
    omega
  refine ⟨?_, ?_, ?_⟩
  · rw [hclosers, hcount]
    split <;> omega
  · intro x hx
    rw [hclosers] at hx
    obtain ⟨m, hm⟩ := List.mem_iff_getElem?.mp hx
    by_cases heq : j = m
    · subst heq
      rw [List.getElem?_set_self hlt] at hm
      obtain rfl := Option.some.inj hm
      exact hok
    · -- all others are idle
      refine pcOk_of_idle (Bool.eq_false_iff.mpr ?_)
      have hidle := List.countP_eq_zero.mp (hcount .done)
      refine hidle x (List.mem_iff_getElem?.mpr ⟨m, ?_⟩)
      rw [List.getElem?_set_ne heq] at hm ⊢
      exact hm
  · rw [hclosers, hcount]
    intro hzero
    refine hdone (Bool.eq_false_iff.mpr ?_)
    intro htrue
    rw [if_pos htrue] at hzero
    cases hzero

/-- A loop is added, and no other one is running. -/
theorem Tended.begin (h : s.Tended) (hidle : s.closers.countP ClosePc.running = 0)
    {closers : List ClosePc} (hclosers : t.closers = closers)
    (hone : ∀ pc ∈ closers, pc.running = true → pc = .next s.m_socks)
    (hsingle : closers.countP ClosePc.running = 1) (hlisteners : t.listeners = s.listeners) :
    t.Tended where
  single := by
    rw [hclosers, hsingle]
  each   := by
    intro pc hpc
    cases hrunning : pc.running with
    | false => exact pcOk_of_idle hrunning
    | true =>
      rw [hone pc (hclosers ▸ hpc) hrunning]
      exact (h.idle hidle).of_listeners hlisteners
  idle   := by
    rw [hclosers, hsingle]
    intro hzero
    cases hzero

/-- Every step keeps a listener with the task that serves it. -/
theorem tended_next {l : ServingLabel} (h : s.Tended) (halone : s.Alone l)
    (hnext : s.next l = some t) : t.Tended := by
  cases l with
  | «open» fd =>
    simp only [next] at hnext
    split at hnext
    · obtain rfl := Option.some.inj hnext
      exact h.same rfl rfl rfl
    · cases hnext
  | close fd =>
    simp only [next] at hnext
    split at hnext
    · obtain rfl := Option.some.inj hnext
      exact h.same rfl rfl rfl
    · cases hnext
  | bind fd =>
    simp only [next] at hnext
    split at hnext
    · obtain rfl := Option.some.inj hnext
      have hready := h.idle halone
      refine ⟨h.single, fun pc hpc => pcOk_of_idle ?_, fun _ => ⟨?_, ?_⟩⟩
      · exact Bool.eq_false_iff.mpr (List.countP_eq_zero.mp halone pc hpc)
      · refine List.nodup_append.mpr ⟨hready.1, List.nodup_singleton _, ?_⟩
        rintro a ha b hb rfl
        obtain ⟨fd, hfd⟩ := hready.2 a ha
        have hlt := (List.getElem?_eq_some_iff.mp hfd).1
        rw [List.mem_singleton.mp hb] at hlt
        exact Nat.lt_irrefl _ hlt
      · intro l hl
        rcases List.mem_append.mp hl with hl | hl
        · obtain ⟨fd', hfd'⟩ := hready.2 l hl
          refine ⟨fd', ?_⟩
          show (s.listeners ++ [_])[l]? = _
          rw [List.getElem?_append_left (List.getElem?_eq_some_iff.mp hfd').1]
          exact hfd'
        · obtain rfl := List.mem_singleton.mp hl
          exact ⟨fd, List.getElem?_concat_length⟩
    · cases hnext
  | setRecvTimeout v =>
    simp only [next] at hnext
    split at hnext
    · obtain rfl := Option.some.inj hnext
      exact h.same rfl rfl rfl
    · cases hnext
  | start =>
    simp only [next] at hnext
    split at hnext
    · split at hnext
      · obtain rfl := Option.some.inj hnext
        exact h.same rfl rfl rfl
      · obtain rfl := Option.some.inj hnext
        exact h
    · cases hnext
  | stop =>
    simp only [next] at hnext
    split at hnext
    · obtain rfl := Option.some.inj hnext
      have hcount : (s.closers ++ [ClosePc.queued]).countP ClosePc.running =
          s.closers.countP ClosePc.running := by
        rw [List.countP_append]
        rfl
      refine ⟨?_, ?_, ?_⟩
      · show (s.closers ++ [ClosePc.queued]).countP ClosePc.running ≤ 1
        rw [hcount]
        exact h.single
      · intro pc hpc
        rcases List.mem_append.mp hpc with hpc | hpc
        · exact (h.each pc hpc).of_listeners rfl
        · rw [List.mem_singleton.mp hpc]
          trivial
      · intro hidle
        have hidle' : (s.closers ++ [ClosePc.queued]).countP ClosePc.running = 0 := hidle
        rw [hcount] at hidle'
        exact (h.idle hidle').of_listeners rfl
    · cases hnext
  | release =>
    simp only [next] at hnext
    split at hnext
    · obtain rfl := Option.some.inj hnext
      exact h.same rfl rfl rfl
    · cases hnext
  | destroy =>
    simp only [next] at hnext
    split at hnext
    · rename_i hfree
      obtain rfl := Option.some.inj hnext
      have hall := hfree.1
      rw [Unreferenced, Bool.and_eq_true, List.all_eq_true] at hall
      have hdone : ∀ pc ∈ s.closers, pc.running = false := by
        intro pc hpc
        rw [of_decide_eq_true (hall.2 pc hpc)]
        rfl
      have hidle : s.closers.countP ClosePc.running = 0 :=
        List.countP_eq_zero.mpr fun pc hpc => Bool.eq_false_iff.mp (hdone pc hpc)
      refine h.begin hidle rfl ?_ ?_ rfl
      · intro pc hpc hrunning
        rcases List.mem_append.mp hpc with hpc | hpc
        · rw [hdone pc hpc] at hrunning
          cases hrunning
        · exact List.mem_singleton.mp hpc
      · rw [List.countP_append, hidle]
        rfl
    · cases hnext
  | closerBegin j =>
    obtain ⟨pc, hj, hnext⟩ := Option.bind_eq_some_iff.mp hnext
    split at hnext
    · rename_i hpc
      obtain rfl := Option.some.inj hnext
      subst hpc
      obtain ⟨hlt, hget⟩ := List.getElem?_eq_some_iff.mp hj
      refine h.begin halone rfl ?_ ?_ rfl
      · intro pc hpc hrunning
        rcases List.mem_or_eq_of_mem_set hpc with hpc | rfl
        · exact absurd hrunning (List.countP_eq_zero.mp halone pc hpc)
        · rfl
      · show (s.closers.set j (.next s.m_socks)).countP ClosePc.running = 1
        rw [List.countP_set hlt, hget, show s.closers.countP ClosePc.running = 0 from halone]
        rfl
    · cases hnext
  | closeNext j =>
    obtain ⟨pc, hj, hnext⟩ := Option.bind_eq_some_iff.mp hnext
    have hok := h.each pc (List.mem_of_getElem? hj)
    split at hnext
    · rename_i sock todo
      obtain ⟨hnodup, hopen⟩ := hok
      obtain ⟨hnot, hnodup⟩ := List.nodup_cons.mp hnodup
      have hready : s.Ready todo := ⟨hnodup, fun l hl => hopen l (List.mem_cons_of_mem _ hl)⟩
      split at hnext
      · rename_i fd hfd
        obtain rfl := Option.some.inj hnext
        refine h.turn hj rfl rfl ⟨hready.of_listeners rfl, hnot, ?_⟩ (by intro hfalse; cases hfalse)
        obtain ⟨fd', hfd'⟩ := hopen sock List.mem_cons_self
        rw [sockOf, hfd'] at hfd
        obtain rfl := Option.some.inj hfd
        exact hfd'
      · obtain rfl := Option.some.inj hnext
        exact h.turn hj rfl rfl (hready.of_listeners rfl) (by intro hfalse; cases hfalse)
    · cases hnext
  | close_f j =>
    obtain ⟨pc, hj, hnext⟩ := Option.bind_eq_some_iff.mp hnext
    have hok := h.each pc (List.mem_of_getElem? hj)
    split at hnext
    · rename_i sock fd todo
      obtain rfl := Option.some.inj hnext
      obtain ⟨hready, hnot, hopen⟩ := hok
      have hsock : s.sockOf sock = some fd := by
        rw [sockOf, hopen]
        rfl
      refine h.turn hj rfl rfl ⟨?_, hnot, fd, ?_⟩ (by intro hfalse; cases hfalse)
      · exact (hready.setListener hnot ⟨s.sockOf sock, true⟩).of_listeners rfl
      · rw [← hsock]
        exact List.getElem?_set_self (List.getElem?_eq_some_iff.mp hopen).1
    · cases hnext
  | reset j =>
    obtain ⟨pc, hj, hnext⟩ := Option.bind_eq_some_iff.mp hnext
    have hok := h.each pc (List.mem_of_getElem? hj)
    split at hnext
    · rename_i sock todo
      obtain rfl := Option.some.inj hnext
      obtain ⟨hready, hnot, _⟩ := hok
      refine h.turn hj rfl rfl ?_ (by intro hfalse; cases hfalse)
      exact (hready.setListener hnot ⟨none, false⟩).of_listeners rfl
    · cases hnext
  | clear j =>
    obtain ⟨pc, hj, hnext⟩ := Option.bind_eq_some_iff.mp hnext
    split at hnext
    · obtain rfl := Option.some.inj hnext
      refine h.turn hj rfl rfl trivial fun _ => ⟨List.nodup_nil, ?_⟩
      intro l hl
      cases hl
    · cases hnext
  | _ =>
    -- the steps of `startAccept` and `handleClient`
    obtain ⟨x, _, hnext⟩ := Option.bind_eq_some_iff.mp hnext
    repeat' split at hnext
    all_goals cases hnext
    all_goals exact h.same rfl rfl rfl

/-! ## Section 5: Custody -/

/-- A client's socket is closed: it had a number or none. -/
theorem closed_client {c d : Client} {rest places' : Multiset Fd} (hd : Client.holds d = 0)
    (hbefore : s.holders = Client.holds c + rest) (hafter : places' = Client.holds d + rest) :
    Custody.Step s.live s.holders (c.m_sock.elim s.live s.live.erase) places' := by
  rw [hd, zero_add] at hafter
  cases hsock : c.m_sock with
  | none =>
    rw [Client.holds, hsock] at hbefore
    exact .pass (by rw [hafter, hbefore]; exact (zero_add rest).symm) rfl
  | some fd =>
    rw [Client.holds, hsock] at hbefore
    exact .burn fd (by rw [hafter, hbefore, ← Multiset.singleton_add]; rfl) rfl

/-- What a step does to the descriptors: the kernel hands out a number, its one
    holder closes it, or it is passed on. -/
theorem held_next {l : ServingLabel} (h : s.Tended) (hnext : s.next l = some t) :
    Custody.Step s.live s.holders t.live t.holders := by
  -- only open, bind and accept make a descriptor, only a close ends one
  cases l with
  | «open» fd =>
    simp only [next] at hnext
    split at hnext
    · rename_i hfresh
      obtain rfl := Option.some.inj hnext
      refine .mint fd hfresh ?_ rfl
      unfold holders
      rw [← Multiset.cons_coe]
      simp only [Multiset.cons_add]
      rfl
    · cases hnext
  | close fd =>
    simp only [next] at hnext
    split at hnext
    · rename_i hmem
      obtain rfl := Option.some.inj hnext
      refine .burn fd ?_ rfl
      unfold holders
      rw [Multiset.coe_eq_coe.mpr (List.perm_cons_erase hmem), ← Multiset.cons_coe]
      simp only [Multiset.cons_add]
      rfl
    · cases hnext
  | bind fd =>
    simp only [next] at hnext
    split at hnext
    · rename_i hfresh
      obtain rfl := Option.some.inj hnext
      refine .mint fd hfresh.2 ?_ rfl
      unfold holders
      rw [Custody.sum_snoc, show Listener.holds ⟨some fd, false⟩ = {fd} from rfl,
        ← Multiset.singleton_add]
      ac_rfl
    · cases hnext
  | setRecvTimeout v =>
    simp only [next] at hnext
    split at hnext
    · obtain rfl := Option.some.inj hnext
      exact .pass rfl rfl
    · cases hnext
  | start => exact (served_start holds_passedOn hnext).held
  | stop =>
    simp only [next] at hnext
    split at hnext
    · obtain rfl := Option.some.inj hnext
      exact .pass rfl rfl
    · cases hnext
  | release =>
    simp only [next] at hnext
    split at hnext
    · obtain rfl := Option.some.inj hnext
      exact .pass rfl rfl
    · cases hnext
  | destroy =>
    simp only [next] at hnext
    split at hnext
    · obtain rfl := Option.some.inj hnext
      exact .pass rfl rfl
    · cases hnext
  | begin i => exact (served_begin holds_passedOn hnext).held
  | check i => exact (served_check holds_passedOn hnext).held
  | enter i => exact (served_enter holds_passedOn hnext).held
  | refuse i => exact (served_refuse holds_passedOn hnext).held
  | accept i newsock => exact (served_accept holds_passedOn hnext).held
  | init i ok => exact (served_init holds_passedOn hnext).held
  | schedule i => exact (served_schedule holds_passedOn hnext).held
  | handle k =>
    obtain ⟨c, hk, hnext⟩ := Option.bind_eq_some_iff.mp hnext
    split at hnext
    · obtain rfl := Option.some.inj hnext
      obtain ⟨rest, hbefore, hafter⟩ := holders_setClient hk { c with pc := .running }
      exact .pass (by rw [hafter, hbefore]; rfl) rfl
    · cases hnext
  | closeClient k =>
    obtain ⟨c, hk, hnext⟩ := Option.bind_eq_some_iff.mp hnext
    split at hnext
    · obtain rfl := Option.some.inj hnext
      obtain ⟨rest, hbefore, hafter⟩ := holders_setClient hk { c with m_sock := none }
      exact closed_client rfl hbefore hafter
    · cases hnext
  | drop k =>
    obtain ⟨c, hk, hnext⟩ := Option.bind_eq_some_iff.mp hnext
    split at hnext
    · obtain rfl := Option.some.inj hnext
      obtain ⟨rest, hbefore, hafter⟩ := holders_setClient hk { c with m_sock := none, pc := .done }
      exact closed_client rfl hbefore hafter
    · cases hnext
  | closerBegin j =>
    obtain ⟨pc, hj, hnext⟩ := Option.bind_eq_some_iff.mp hnext
    split at hnext
    · obtain rfl := Option.some.inj hnext
      exact .pass rfl rfl
    · cases hnext
  | closeNext j =>
    obtain ⟨pc, hj, hnext⟩ := Option.bind_eq_some_iff.mp hnext
    split at hnext
    · split at hnext
      · obtain rfl := Option.some.inj hnext
        exact .pass rfl rfl
      · obtain rfl := Option.some.inj hnext
        exact .pass rfl rfl
    · cases hnext
  | close_f j =>
    obtain ⟨pc, hj, hnext⟩ := Option.bind_eq_some_iff.mp hnext
    have hok := h.each pc (List.mem_of_getElem? hj)
    split at hnext
    · rename_i sock fd todo
      obtain rfl := Option.some.inj hnext
      obtain ⟨_, _, hopen⟩ := hok
      obtain ⟨rest, hbefore, hafter⟩ := holders_setListener
        (s := s.setCloser j (.reset sock todo)) hopen ⟨s.sockOf sock, true⟩
      -- close_f: the listener keeps its number, but holds it no longer
      refine .burn fd ?_ rfl
      refine Eq.trans hbefore ?_
      rw [← Multiset.singleton_add]
      exact congrArg _ ((zero_add rest).symm.trans hafter.symm)
    · cases hnext
  | reset j =>
    obtain ⟨pc, hj, hnext⟩ := Option.bind_eq_some_iff.mp hnext
    have hok := h.each pc (List.mem_of_getElem? hj)
    split at hnext
    · rename_i sock todo
      obtain rfl := Option.some.inj hnext
      obtain ⟨_, _, fd, hclosed⟩ := hok
      obtain ⟨rest, hbefore, hafter⟩ := holders_setListener
        (s := s.setCloser j (.next todo)) hclosed ⟨none, false⟩
      exact .pass (hafter.trans hbefore.symm) rfl
    · cases hnext
  | clear j =>
    obtain ⟨pc, hj, hnext⟩ := Option.bind_eq_some_iff.mp hnext
    split at hnext
    · obtain rfl := Option.some.inj hnext
      exact .pass rfl rfl
    · cases hnext

/-- What a step does to the connections: the kernel hands one out, or it is
    passed on; none is forgotten. -/
theorem tracked_next {l : ServingLabel} (hnext : s.next l = some t) :
    Custody.Step (Finset.range s.conns) s.tracked (Finset.range t.conns) t.tracked := by
  -- a connection begins in accept; all other steps pass it on
  cases l with
  | start => exact (served_start conn_passedOn hnext).tracked
  | begin i => exact (served_begin conn_passedOn hnext).tracked
  | check i => exact (served_check conn_passedOn hnext).tracked
  | enter i => exact (served_enter conn_passedOn hnext).tracked
  | refuse i => exact (served_refuse conn_passedOn hnext).tracked
  | accept i newsock => exact (served_accept conn_passedOn hnext).tracked
  | init i ok => exact (served_init conn_passedOn hnext).tracked
  | schedule i => exact (served_schedule conn_passedOn hnext).tracked
  | handle k =>
    obtain ⟨c, hk, hnext⟩ := Option.bind_eq_some_iff.mp hnext
    split at hnext
    · obtain rfl := Option.some.inj hnext
      exact .pass (tracked_setClient hk rfl) rfl
    · cases hnext
  | closeClient k =>
    obtain ⟨c, hk, hnext⟩ := Option.bind_eq_some_iff.mp hnext
    split at hnext
    · obtain rfl := Option.some.inj hnext
      exact .pass (tracked_setClient (d := { c with m_sock := none }) hk rfl) rfl
    · cases hnext
  | drop k =>
    obtain ⟨c, hk, hnext⟩ := Option.bind_eq_some_iff.mp hnext
    split at hnext
    · obtain rfl := Option.some.inj hnext
      exact .pass (tracked_setClient (d := { c with m_sock := none, pc := .done }) hk rfl) rfl
    · cases hnext
  | closerBegin j | closeNext j | close_f j | reset j | clear j =>
    obtain ⟨pc, _, hnext⟩ := Option.bind_eq_some_iff.mp hnext
    repeat' split at hnext
    all_goals cases hnext
    all_goals exact .pass rfl rfl
  | _ =>
    simp only [next] at hnext
    split at hnext
    · obtain rfl := Option.some.inj hnext
      exact .pass rfl rfl
    · cases hnext

/-- The custody of descriptors and connections, with the loops. -/
structure Kept (s : Serving) : Prop where
  tended : s.Tended
  held   : Custody.Once s.live s.holders
  conns  : Custody.Once (Finset.range s.conns) s.tracked

/-- A new server. -/
theorem kept_new {others : List Fd} (h : others.Nodup) (m_recvTimeout : Nat) :
    (new others m_recvTimeout).Kept where
  tended := by
    refine ⟨Nat.zero_le _, ?_, fun _ => ⟨List.nodup_nil, ?_⟩⟩
    · intro pc hpc
      cases hpc
    · intro l hl
      cases hl
  held   := by
    show (others : Multiset Fd) + 0 + (0 + 0 + 0) = others.toFinset.val
    rw [List.toFinset_val, h.dedup]
    simp
  conns  := rfl

/-- Every step keeps the descriptors in custody. -/
theorem kept_next {l : ServingLabel} (h : s.Kept) (halone : s.Alone l)
    (hnext : s.next l = some t) : t.Kept :=
  ⟨tended_next h.tended halone hnext, h.held.step (held_next h.tended hnext),
    h.conns.step (tracked_next hnext)⟩

end Serving

/-- As long as the loops of `stop` do not overlap, every open descriptor has
    exactly one holder and every holder an open descriptor, so nobody closes
    what is not theirs; and every connection is on its way to `handleClient`,
    was passed to it once, or was refused by `init`. -/
theorem descriptors_in_custody {s₀ s : Serving} {tr : List (Serving × ServingLabel)}
    (hinit : servings.init s₀) (hrun : Run servings s₀ tr s)
    (halone : ∀ p ∈ tr, p.1.Alone p.2) :
    (∀ fd ∈ s.live, s.holders.count fd = 1) ∧ (∀ fd ∈ s.holders, fd ∈ s.live) ∧
      (∀ conn < s.conns, s.tracked.count conn = 1) ∧
      ∀ p ∈ tr, ∀ j sock todo, p.2 = .closeNext j → p.1.closers[j]? = some (.next (sock :: todo)) →
        p.1.sockOf sock ≠ none := by
  obtain ⟨others, m_recvTimeout, hnodup, rfl⟩ := hinit
  have hstep : ∀ s l t, s.Kept → s.Alone l → servings.next s l = some t → t.Kept :=
    fun s l t => Serving.kept_next
  have hstart := Serving.kept_new hnodup m_recvTimeout
  have h := hrun.guarded_invariant hstep halone hstart
  refine ⟨fun fd => h.held.count_eq_one, fun fd => h.held.mem_live, ?_, ?_⟩
  · intro conn hconn
    exact h.conns.count_eq_one (Finset.mem_range.mpr hconn)
  · intro p hp j sock todo _ hj
    obtain ⟨hkept, _⟩ := hrun.steps_invariant hstep halone hstart p hp
    obtain ⟨_, hopen⟩ := hkept.tended.each _ (List.mem_of_getElem? hj)
    obtain ⟨fd, hfd⟩ := hopen sock List.mem_cons_self
    rw [Serving.sockOf, hfd]
    exact Option.some_ne_none fd

/-- One connection, and `stop`. -/
def oneClient : List ServingLabel :=
  [.bind 3, .start, .begin 0, .check 0, .enter 0, .accept 0 4, .init 0 true, .schedule 0, .handle 0, .stop,
   .closerBegin 0, .closeNext 0, .close_f 0, .open 3, .reset 0, .clear 0, .drop 0]

/-- The number of the listening socket is in use again before `m_sock` is set. -/
theorem descriptors_in_custody_reused :
    ∃ s₀ s tr, Run servings s₀ tr s ∧ s.conns = 1 ∧ s.listeners = [⟨none, false⟩] ∧
      s.others = [3, 0, 1] ∧ (∀ fd ∈ s.live, s.holders.count fd = 1) := by
  have hrun := servings.run_of_exec (s := Serving.new [0, 1] 120000) oneClient (by decide +kernel)
  have halone : ∀ p ∈ servings.trace (Serving.new [0, 1] 120000) oneClient, p.1.Alone p.2 := by
    decide +kernel
  obtain ⟨honce, _⟩ := descriptors_in_custody ⟨[0, 1], 120000, by decide, rfl⟩ hrun halone
  exact ⟨_, _, _, hrun, by decide +kernel, by decide +kernel, by decide +kernel, honce⟩

/-- After two calls of `stop` the loops read the number at the same time, and the
    second one closes a descriptor of somebody else. -/
example : (servings.exec (Serving.new [0, 1] 120000)
    [.bind 3, .stop, .stop, .closerBegin 0, .closerBegin 1, .closeNext 0, .closeNext 1, .close_f 0,
     .open 3, .close_f 1]).any fun s => 3 ∈ s.others ∧ 3 ∉ s.live := by
  decide +kernel

/-! ## Section 6: After `stop` -/

/-- Past the test of `m_isStop`, or in `::accept`. -/
def AcceptPc.calls : AcceptPc → Bool
  | .calling     => true
  | .accepting _ => true
  | _            => false

/-- Before `::accept`, or in it with the number of a closed socket. -/
def AcceptPc.idles (pc : AcceptPc) : Prop :=
  pc = .queued ∨ pc = .check ∨ pc = .calling ∨ pc = .accepting none

namespace Serving

variable {s t : Serving} {i : Nat}

/-- The task `i` gets a connection. -/
def accepts (i : Nat) : ServingLabel → Bool
  | .accept j _ => j = i
  | _           => false

/-- What a step does to a task of `startAccept`. -/
inductive Goes (s : Serving) (i : Nat) (a : Acceptor) (l : ServingLabel) : AcceptPc → Prop where
  | same     : accepts i l = false → Goes s i a l a.pc
  | begin    : a.pc = .queued → accepts i l = false → Goes s i a l .check
  | leave    : a.pc = .check → s.m_isStop = true → accepts i l = false → Goes s i a l .done
  | call     : a.pc = .check → s.m_isStop = false → accepts i l = false → Goes s i a l .calling
  | enter    : a.pc = .calling → accepts i l = false →
      Goes s i a l (.accepting (s.sockOf a.sock))
  | refuse   : ∀ {fd}, a.pc = .accepting fd → accepts i l = false → Goes s i a l .check
  | accept   : ∀ {fd newsock}, a.pc = .accepting (some fd) → accepts i l = true →
      Goes s i a l (.accepted newsock s.conns)
  | init     : ∀ {newsock conn}, a.pc = .accepted newsock conn → accepts i l = false →
      Goes s i a l (.created newsock conn)
  | leak     : ∀ {newsock conn}, a.pc = .accepted newsock conn → accepts i l = false →
      Goes s i a l .check
  | schedule : ∀ {fd conn}, a.pc = .created fd conn → accepts i l = false → Goes s i a l .check

/-- A task of `startAccept` keeps its socket and goes the way of the loop. -/
theorem goes_next {l : ServingLabel} (hnext : s.next l = some t) {a : Acceptor}
    (hi : s.acceptors[i]? = some a) :
    ∃ pc, t.acceptors[i]? = some { a with pc := pc } ∧ Goes s i a l pc := by
  have hsame : accepts i l = false → t.acceptors = s.acceptors →
      ∃ pc, t.acceptors[i]? = some { a with pc := pc } ∧ Goes s i a l pc := by
    intro hl hacceptors
    exact ⟨a.pc, by rw [hacceptors]; exact hi, .same hl⟩
  -- the step of task `j` is one of this task or of another one
  have hset : ∀ {j b pc}, s.acceptors[j]? = some b →
      t.acceptors = s.acceptors.set j { b with pc := pc } → (j = i → Goes s i b l pc) →
      (j ≠ i → accepts i l = false) →
      ∃ pc, t.acceptors[i]? = some { a with pc := pc } ∧ Goes s i a l pc := by
    intro j b pc hj hacceptors hown hother
    by_cases heq : j = i
    · subst heq
      obtain rfl := Option.some.inj (hi.symm.trans hj)
      refine ⟨pc, ?_, hown rfl⟩
      rw [hacceptors]
      exact List.getElem?_set_self (List.getElem?_eq_some_iff.mp hi).1
    · refine ⟨a.pc, ?_, .same (hother heq)⟩
      rw [hacceptors, List.getElem?_set_ne heq]
      exact hi
  cases l with
  | start =>
    simp only [next] at hnext
    split at hnext
    · split at hnext
      · obtain rfl := Option.some.inj hnext
        refine ⟨a.pc, ?_, .same rfl⟩
        show (s.acceptors ++ _)[i]? = _
        rw [List.getElem?_append_left (List.getElem?_eq_some_iff.mp hi).1]
        exact hi
      · obtain rfl := Option.some.inj hnext
        exact hsame rfl rfl
    · cases hnext
  | begin j =>
    obtain ⟨b, hj, hnext⟩ := Option.bind_eq_some_iff.mp hnext
    split at hnext
    · rename_i hpc
      obtain rfl := Option.some.inj hnext
      exact hset hj rfl (fun _ => .begin hpc rfl) fun _ => rfl
    · cases hnext
  | check j =>
    obtain ⟨b, hj, hnext⟩ := Option.bind_eq_some_iff.mp hnext
    split at hnext
    · rename_i hpc
      obtain rfl := Option.some.inj hnext
      refine hset hj rfl (fun _ => ?_) fun _ => rfl
      cases hstop : s.m_isStop with
      | true => exact .leave hpc hstop rfl
      | false => exact .call hpc hstop rfl
    · cases hnext
  | enter j =>
    obtain ⟨b, hj, hnext⟩ := Option.bind_eq_some_iff.mp hnext
    split at hnext
    · rename_i hpc
      obtain rfl := Option.some.inj hnext
      exact hset hj rfl (fun _ => .enter hpc rfl) fun _ => rfl
    · cases hnext
  | refuse j =>
    obtain ⟨b, hj, hnext⟩ := Option.bind_eq_some_iff.mp hnext
    split at hnext
    · rename_i hpc
      obtain rfl := Option.some.inj hnext
      exact hset hj rfl (fun _ => .refuse hpc rfl) fun _ => rfl
    · cases hnext
  | accept j newsock =>
    obtain ⟨b, hj, hnext⟩ := Option.bind_eq_some_iff.mp hnext
    split at hnext
    · rename_i hpc
      split at hnext
      · obtain rfl := Option.some.inj hnext
        exact hset hj rfl (fun heq => .accept hpc (decide_eq_true heq)) fun hne =>
          decide_eq_false hne
      · cases hnext
    · cases hnext
  | init j ok =>
    obtain ⟨b, hj, hnext⟩ := Option.bind_eq_some_iff.mp hnext
    split at hnext
    · rename_i hpc
      split at hnext
      · obtain rfl := Option.some.inj hnext
        exact hset hj rfl (fun _ => .init hpc rfl) fun _ => rfl
      · obtain rfl := Option.some.inj hnext
        exact hset hj rfl (fun _ => .leak hpc rfl) fun _ => rfl
    · cases hnext
  | schedule j =>
    obtain ⟨b, hj, hnext⟩ := Option.bind_eq_some_iff.mp hnext
    split at hnext
    · rename_i hpc
      obtain rfl := Option.some.inj hnext
      exact hset hj rfl (fun _ => .schedule hpc rfl) fun _ => rfl
    · cases hnext
  | handle k | closeClient k | drop k | closerBegin k | closeNext k | close_f k | reset k
  | clear k =>
    obtain ⟨x, _, hnext⟩ := Option.bind_eq_some_iff.mp hnext
    repeat' split at hnext
    all_goals cases hnext
    all_goals exact hsame rfl rfl
  | _ =>
    simp only [next] at hnext
    split at hnext
    · obtain rfl := Option.some.inj hnext
      exact hsame rfl rfl
    · cases hnext

/-- Once the server is stopped no task passes the test, and one that gets a
    connection is not in `::accept` any more. -/
theorem calls_next {l : ServingLabel} (hstop : s.m_isStop = true) (hnext : s.next l = some t)
    {a : Acceptor} (hi : s.acceptors[i]? = some a) :
    ∃ pc, t.acceptors[i]? = some { a with pc := pc } ∧
      (accepts i l).toNat + pc.calls.toNat ≤ a.pc.calls.toNat := by
  obtain ⟨pc, hpc, hgoes⟩ := goes_next hnext hi
  refine ⟨pc, hpc, ?_⟩
  cases hgoes with
  | same hl =>
    rw [hl]
    simp
  | call _ hgo _ =>
    rw [hstop] at hgo
    cases hgo
  | enter hwas hl =>
    rw [hl, hwas]
    exact Nat.le_refl _
  | accept hwas hl =>
    rw [hl, hwas]
    exact Nat.le_refl _
  | begin _ hl | leave _ _ hl | refuse _ hl | init _ hl | leak _ hl | schedule _ hl =>
    rw [hl]
    exact Nat.zero_le _

/-- No loop gives a socket a number again. -/
theorem sock_none_next {l : ServingLabel} (hnext : s.next l = some t) {sock : Nat}
    (hclosed : (s.listeners[sock]?).map Listener.m_sock = some none) :
    (t.listeners[sock]?).map Listener.m_sock = some none := by
  have hnone : s.sockOf sock = none := by
    obtain ⟨x, hx, hsock⟩ := Option.map_eq_some_iff.mp hclosed
    rw [sockOf, hx]
    exact hsock
  -- what is put in its place has no number either
  have hset : ∀ {m : Nat} {x : Listener}, (m = sock → x.m_sock = none) →
      ((s.listeners.set m x)[sock]?).map Listener.m_sock = some none := by
    intro m x hx
    by_cases heq : m = sock
    · subst heq
      obtain ⟨y, hy, _⟩ := Option.map_eq_some_iff.mp hclosed
      rw [List.getElem?_set_self (List.getElem?_eq_some_iff.mp hy).1]
      exact congrArg some (hx rfl)
    · rw [List.getElem?_set_ne heq]
      exact hclosed
  cases l with
  | bind fd =>
    simp only [next] at hnext
    split at hnext
    · obtain rfl := Option.some.inj hnext
      obtain ⟨y, hy, _⟩ := Option.map_eq_some_iff.mp hclosed
      show ((s.listeners ++ _)[sock]?).map _ = _
      rw [List.getElem?_append_left (List.getElem?_eq_some_iff.mp hy).1]
      exact hclosed
    · cases hnext
  | close_f j =>
    obtain ⟨pc, _, hnext⟩ := Option.bind_eq_some_iff.mp hnext
    split at hnext
    · obtain rfl := Option.some.inj hnext
      exact hset fun heq => heq ▸ hnone
    · cases hnext
  | reset j =>
    obtain ⟨pc, _, hnext⟩ := Option.bind_eq_some_iff.mp hnext
    split at hnext
    · obtain rfl := Option.some.inj hnext
      exact hset fun _ => rfl
    · cases hnext
  | start =>
    simp only [next] at hnext
    repeat' split at hnext
    all_goals cases hnext
    all_goals exact hclosed
  | begin k | check k | enter k | refuse k | accept k _ | init k _ | schedule k | handle k
  | closeClient k | drop k | closerBegin k | closeNext k | clear k =>
    obtain ⟨x, _, hnext⟩ := Option.bind_eq_some_iff.mp hnext
    repeat' split at hnext
    all_goals cases hnext
    all_goals exact hclosed
  | _ =>
    simp only [next] at hnext
    split at hnext
    · obtain rfl := Option.some.inj hnext
      exact hclosed
    · cases hnext

/-- With a closed socket a task goes round in the loop. -/
theorem idles_next {l : ServingLabel} (hgo : s.m_isStop = false) (hnext : s.next l = some t)
    {a : Acceptor} (hi : s.acceptors[i]? = some a)
    (hclosed : (s.listeners[a.sock]?).map Listener.m_sock = some none) (hidles : a.pc.idles) :
    ∃ pc, t.acceptors[i]? = some { a with pc := pc } ∧ pc.idles ∧ accepts i l = false := by
  obtain ⟨pc, hpc, hgoes⟩ := goes_next hnext hi
  refine ⟨pc, hpc, ?_⟩
  cases hgoes with
  | same hl => exact ⟨hidles, hl⟩
  | begin _ hl => exact ⟨Or.inr (Or.inl rfl), hl⟩
  | refuse _ hl => exact ⟨Or.inr (Or.inl rfl), hl⟩
  | call _ _ hl => exact ⟨Or.inr (Or.inr (Or.inl rfl)), hl⟩
  | enter _ hl =>
    obtain ⟨x, hx, hsock⟩ := Option.map_eq_some_iff.mp hclosed
    have hnone : s.sockOf a.sock = none := by
      rw [sockOf, hx]
      exact hsock
    rw [hnone]
    exact ⟨Or.inr (Or.inr (Or.inr rfl)), hl⟩
  | leave _ hstop _ =>
    rw [hgo] at hstop
    cases hstop
  | accept hwas _ | init hwas _ | leak hwas _ | schedule hwas _ =>
    rcases hidles with hwas' | hwas' | hwas' | hwas'
    all_goals
      rw [hwas'] at hwas
      cases hwas

end Serving

/-- After `stop` a task of `startAccept` gets at most one more connection, and
    none if it was not past the test of `m_isStop`. -/
theorem accepts_after_stop {s t : Serving} {tr : List (Serving × ServingLabel)}
    (hrun : Run servings s tr t) (hstop : ∀ p ∈ tr, p.1.m_isStop = true) {i : Nat} {a : Acceptor}
    (hi : s.acceptors[i]? = some a) :
    ∃ pc, t.acceptors[i]? = some { a with pc := pc } ∧
      (tr.countP fun p => Serving.accepts i p.2) + pc.calls.toNat ≤ a.pc.calls.toNat := by
  induction hrun with
  | nil => exact ⟨a.pc, hi, by simp⟩
  | @snoc u v tr l _ hnext ih =>
    obtain ⟨pc, hpc, hcount⟩ := ih fun p hp => hstop p (List.mem_append_left _ hp)
    have hstopped := hstop (u, l) (List.mem_append_right _ List.mem_cons_self)
    obtain ⟨pc', hpc', hstep⟩ := Serving.calls_next hstopped hnext hpc
    refine ⟨pc', hpc', ?_⟩
    have hlast :
        [(u, l)].countP (fun p => Serving.accepts i p.2) = (Serving.accepts i l).toNat := by
      rw [List.countP_singleton]
      cases Serving.accepts i l <;> rfl
    rw [List.countP_append, hlast]
    dsimp only at hstep
    omega

/-- A task is past the test when `stop` is called. -/
def stopped : Serving :=
  (servings.exec (Serving.new [0, 1] 120000) [.bind 3, .start, .begin 0, .check 0, .stop]).getD
    (Serving.new [] 0)

/-- The call that was about to be made, and the way out of the loop. -/
def lastCall : List ServingLabel := [.enter 0, .accept 0 4, .init 0 true, .schedule 0, .check 0]

/-- The connection is passed to `handleClient`, and the task has returned. -/
theorem accepts_after_stop_once :
    ∃ t tr, Run servings stopped tr t ∧ t.acceptors = [⟨0, .done⟩] ∧ t.conns = 1 ∧
      (tr.countP fun p => Serving.accepts 0 p.2) ≤ 1 := by
  have hrun := servings.run_of_exec (s := stopped) lastCall (by decide +kernel)
  have hstop : ∀ p ∈ servings.trace stopped lastCall, p.1.m_isStop = true := by decide +kernel
  have hi : stopped.acceptors[0]? = some ⟨0, .calling⟩ := by decide +kernel
  obtain ⟨pc, _, hcount⟩ := accepts_after_stop hrun hstop hi
  exact ⟨_, _, hrun, by decide +kernel, by decide +kernel,
    Nat.le_trans (Nat.le_add_right _ _) hcount⟩

/-- A task whose socket has been closed, as when a server is started again before
    the loop of `stop` has run, gets no connection and goes round in
    `startAccept` until the next `stop`: each is about to call `accept`, or in a
    call that fails at once. -/
theorem restart_spins {s t : Serving} {tr : List (Serving × ServingLabel)}
    (hrun : Run servings s tr t) (hgo : ∀ p ∈ tr, p.1.m_isStop = false) {i : Nat} {a : Acceptor}
    (hi : s.acceptors[i]? = some a)
    (hclosed : (s.listeners[a.sock]?).map Listener.m_sock = some none) (hidles : a.pc.idles) :
    (∃ pc, t.acceptors[i]? = some { a with pc := pc } ∧ pc.idles) ∧
      ∀ p ∈ tr, Serving.accepts i p.2 = false := by
  suffices h : (t.listeners[a.sock]?).map Listener.m_sock = some none ∧
      (∃ pc, t.acceptors[i]? = some { a with pc := pc } ∧ pc.idles) ∧
      ∀ p ∈ tr, Serving.accepts i p.2 = false from h.2
  induction hrun with
  | nil => exact ⟨hclosed, ⟨a.pc, hi, hidles⟩, fun p hp => by cases hp⟩
  | @snoc u v tr l _ hnext ih =>
    obtain ⟨hclosed, ⟨pc, hpc, hidles⟩, hnone⟩ :=
      ih fun p hp => hgo p (List.mem_append_left _ hp)
    have hgoing := hgo (u, l) (List.mem_append_right _ List.mem_cons_self)
    obtain ⟨pc', hpc', hidles', hl⟩ := Serving.idles_next hgoing hnext hpc hclosed hidles
    refine ⟨Serving.sock_none_next hnext hclosed, ⟨pc', hpc', hidles'⟩, ?_⟩
    intro p hp
    rcases List.mem_append.mp hp with hp | hp
    · exact hnone p hp
    · obtain rfl := List.mem_singleton.mp hp
      exact hl

/-- The server is started again while the function of `stop` waits in the queue. -/
def restart : List ServingLabel :=
  [.bind 3, .start, .stop, .start, .closerBegin 0, .closeNext 0, .close_f 0, .reset 0]

def restarted : Serving :=
  (servings.exec (Serving.new [0, 1] 120000) restart).getD (Serving.new [] 0)

/-- Two rounds of the second task; there is no socket left to close. -/
def rounds : List ServingLabel :=
  [.begin 1, .check 1, .enter 1, .refuse 1, .clear 0, .check 1, .enter 1, .refuse 1, .check 1]

theorem restart_spins_twice :
    ∃ t tr, Run servings restarted tr t ∧ t.m_isStop = false ∧ t.m_socks = [] ∧
      (∃ pc, t.acceptors[1]? = some ⟨0, pc⟩ ∧ pc.idles) ∧
      ∀ p ∈ tr, Serving.accepts 1 p.2 = false := by
  have hrun := servings.run_of_exec (s := restarted) rounds (by decide +kernel)
  have hgo : ∀ p ∈ servings.trace restarted rounds, p.1.m_isStop = false := by decide +kernel
  have hi : restarted.acceptors[1]? = some ⟨0, .queued⟩ := by decide +kernel
  have hclosed : (restarted.listeners[0]?).map Listener.m_sock = some none := by decide +kernel
  have hspins := restart_spins hrun hgo hi hclosed (Or.inl rfl)
  exact ⟨_, _, hrun, by decide +kernel, by decide +kernel, hspins⟩

end Tcp

end MNSER
