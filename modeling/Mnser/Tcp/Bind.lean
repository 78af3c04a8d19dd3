import Mathlib.Data.List.Induction
import Mathlib.Data.List.Perm.Subperm
import Mathlib.Data.List.Range

/-! # Binding the sockets of a server

    `TcpServer::bind` over the sockets that the kernel has open.  Every system
    call is answered by the environment; a socket object that nobody keeps is
    closed by its destructor.

    The loop neither stops at a failure nor takes back what it has done, and
    `fails` is never cleared.  So `bind` is all or nothing only when the calls
    for the addresses agree and the vector is empty on success, and the loop
    `while(!bind(addrs, fails))` ends in its first round or never. -/

namespace MNSER

namespace Tcp

/-! ## Section 1: Sockets -/

structure Address where
  family : Nat
  -- `dynamic_pointer_cast<UnixAddress>` is not null
  isUnix : Bool
  addr   : List UInt8
  deriving DecidableEq

/-- What a descriptor is in the kernel. -/
structure Endpoint where
  address   : Option Address
  listening : Bool
  deriving DecidableEq

/-- The sockets that are open. -/
abbrev Kernel := List (Nat × Endpoint)

namespace Kernel

/-- The lowest descriptor that is not in use. -/
def lowest (k : Kernel) : Nat :=
  ((List.range (k.length + 1)).find? fun fd => !(k.map Prod.fst).contains fd).getD 0

def update (k : Kernel) (fd : Nat) (f : Endpoint → Endpoint) : Kernel :=
  k.map fun e => if e.1 = fd then (e.1, f e.2) else e

/-- `::close` -/
def close (k : Kernel) (fd : Nat) : Kernel := k.filter fun e => e.1 ≠ fd

theorem lowest_notMem (k : Kernel) : k.lowest ∉ k.map Prod.fst := by
  unfold lowest
  cases hfind : (List.range (k.length + 1)).find? fun fd => !(k.map Prod.fst).contains fd with
  | some fd => simpa using List.find?_some hfind
  | none =>
    -- one more number than there are descriptors
    have hsub : List.range (k.length + 1) ⊆ k.map Prod.fst := by
      intro fd hfd
      simpa using List.find?_eq_none.mp hfind fd hfd
    have hle := (List.nodup_range.subperm hsub).length_le
    rw [List.length_range, List.length_map] at hle
    omega

theorem ne_lowest {k : Kernel} {e : Nat × Endpoint} (he : e ∈ k) : e.1 ≠ k.lowest := by
  intro heq
  exact k.lowest_notMem (heq ▸ List.mem_map_of_mem he)

/-- What is done to a new descriptor leaves the others alone. -/
theorem update_lowest (k : Kernel) (e : Endpoint) (f : Endpoint → Endpoint) :
    update (k ++ [(k.lowest, e)]) k.lowest f = k ++ [(k.lowest, f e)] := by
  unfold update
  rw [List.map_append]
  congr 1
  · refine (List.map_congr_left ?_).trans (List.map_id k)
    intro e' he'
    exact if_neg (ne_lowest he')
  · simp

theorem close_lowest (k : Kernel) (e : Endpoint) :
    close (k ++ [(k.lowest, e)]) k.lowest = k := by
  unfold close
  rw [List.filter_append]
  have hkeep : (k.filter fun e' => e'.1 ≠ k.lowest) = k := by
    refine List.filter_eq_self.mpr ?_
    intro e' he'
    exact decide_eq_true (ne_lowest he')
  rw [hkeep]
  simp

end Kernel

/-- What the system calls made for one address answer. -/
structure Answers where
  socket  : Bool
  -- a server already answers at the path of the `UnixAddress`
  connect : Bool
  bind    : Bool
  listen  : Bool
  deriving DecidableEq

structure Socket where
  m_sock   : Option Nat
  m_family : Nat
  deriving DecidableEq

namespace Socket

def CreateTCP (address : Address) : Socket := ⟨none, address.family⟩

def isValid (sock : Socket) : Bool := sock.m_sock.isSome

def newSock (sock : Socket) (ans : Answers) (k : Kernel) : Socket × Kernel :=
  if ans.socket then ({ sock with m_sock := some k.lowest }, k ++ [(k.lowest, ⟨none, false⟩)])
  else (sock, k)

/-- `::bind` and `::listen` on the descriptor -/
def change (sock : Socket) (f : Endpoint → Endpoint) (k : Kernel) : Kernel :=
  match sock.m_sock with
  | some fd => k.update fd f
  | none    => k

def bind (sock : Socket) (addr : Address) (ans : Answers) (k : Kernel) : Bool × Socket × Kernel :=
  let made := if sock.isValid then (sock, k) else sock.newSock ans k
  if made.1.isValid = false then (false, made)
  else if addr.family ≠ made.1.m_family then (false, made)
  -- the socket that probes the path is closed again in either case
  else if addr.isUnix && ans.connect then (false, made)
  else if ans.bind = false then (false, made)
  else (true, made.1, made.1.change (fun e => { e with address := some addr }) made.2)

def listen (sock : Socket) (ans : Answers) (k : Kernel) : Bool × Kernel :=
  if sock.isValid = false then (false, k)
  else if ans.listen = false then (false, k)
  else (true, sock.change (fun e => { e with listening := true }) k)

/-- `Socket::close`, which the destructor calls -/
def close (sock : Socket) (k : Kernel) : Kernel :=
  match sock.m_sock with
  | some fd => k.close fd
  | none    => k

end Socket

/-! ## Section 2: TcpServer::bind -/

structure TcpServer where
  m_socks : List Socket
  m_ssl   : Bool
  deriving DecidableEq

/-- The server, the vector that the caller passes, and the kernel. -/
structure Scene where
  server : TcpServer
  fails  : List Address
  kernel : Kernel
  deriving DecidableEq

/-- The body of the loop over `addrs`. -/
def bindOne (s : Scene) (attempt : Address × Answers) : Scene :=
  let (addr, ans) := attempt
  let (bound, sock, k) := (Socket.CreateTCP addr).bind addr ans s.kernel
  if bound = false then { s with fails := s.fails ++ [addr], kernel := sock.close k }
  else
    let (listening, k) := sock.listen ans k
    if listening = false then { s with fails := s.fails ++ [addr], kernel := sock.close k }
    else { s with server.m_socks := s.server.m_socks ++ [sock], kernel := k }

/-- The addresses of a call with the answers they meet. -/
def attempts (addrs : List Address) (answers : Nat → Answers) : List (Address × Answers) :=
  addrs.mapIdx fun i addr => (addr, answers i)

/-- `TcpServer::bind`; the calls for the `i`-th address are answered by `answers i`. -/
def bind (s : Scene) (addrs : List Address) (ssl : Bool) (answers : Nat → Answers) : Bool × Scene :=
  let s := (attempts addrs answers).foldl bindOne { s with server.m_ssl := ssl }
  (s.fails.isEmpty, s)

/-- `TcpServer::bind` of a single address, which has a vector of its own. -/
def bindAddr (server : TcpServer) (k : Kernel) (addr : Address) (ssl : Bool) (ans : Answers) :
    Bool × Scene :=
  bind ⟨server, [], k⟩ [addr] ssl fun _ => ans

/-- `while(!bind(addrs, fails)) sleep`: the round in which the loop ends. -/
def retry (s : Scene) (addrs : List Address) (ssl : Bool) : List (Nat → Answers) → Option Nat
  | []                => none
  | answers :: rounds =>
    match bind s addrs ssl answers with
    | (true, _)  => some 0
    | (false, s) => (retry s addrs ssl rounds).map (· + 1)

/-! ## Section 3: One address -/

/-- The kernel gives the address a socket that is bound and listens. -/
def Listens (attempt : Address × Answers) : Prop :=
  attempt.2.socket = true ∧ (attempt.1.isUnix = true → attempt.2.connect = false) ∧
    attempt.2.bind = true ∧ attempt.2.listen = true

instance (attempt : Address × Answers) : Decidable (Listens attempt) := by
  unfold Listens
  infer_instance

/-- The socket that an address gets. -/
def endpoint (addr : Address) : Endpoint := ⟨some addr, true⟩

theorem bindOne_listens (s : Scene) {attempt : Address × Answers} (h : Listens attempt) :
    bindOne s attempt =
      { s with
        server.m_socks := s.server.m_socks ++ [⟨some s.kernel.lowest, attempt.1.family⟩]
        kernel := s.kernel ++ [(s.kernel.lowest, endpoint attempt.1)] } := by
  obtain ⟨addr, ans⟩ := attempt
  obtain ⟨hsocket, hconnect, hbind, hlisten⟩ := h
  have hprobe : (addr.isUnix && ans.connect) = false := by
    cases hunix : addr.isUnix with
    | false => rfl
    | true => simpa using hconnect hunix
  simp only at hsocket hbind hlisten
  simp [bindOne, Socket.bind, Socket.listen, Socket.CreateTCP, Socket.isValid, Socket.newSock,
    Socket.change, endpoint, hsocket, hprobe, hbind, hlisten, Kernel.update_lowest]

/-- An address that fails leaves no socket. -/
theorem bindOne_fails (s : Scene) {attempt : Address × Answers} (h : ¬ Listens attempt) :
    bindOne s attempt = { s with fails := s.fails ++ [attempt.1] } := by
  obtain ⟨addr, ans⟩ := attempt
  -- in the order of the calls: the first that fails
  cases hsocket : ans.socket with
  | false => simp [bindOne, Socket.bind, Socket.CreateTCP, Socket.isValid, Socket.newSock,
      Socket.close, hsocket]
  | true =>
    cases hprobe : (addr.isUnix && ans.connect) with
    | true => simp [bindOne, Socket.bind, Socket.CreateTCP, Socket.isValid, Socket.newSock,
        Socket.close, hsocket, hprobe, Kernel.close_lowest]
    | false =>
      cases hbind : ans.bind with
      | false => simp [bindOne, Socket.bind, Socket.CreateTCP, Socket.isValid, Socket.newSock,
          Socket.close, hsocket, hprobe, hbind, Kernel.close_lowest]
      | true =>
        have hlisten : ans.listen = false := by
          refine Bool.eq_false_iff.mpr ?_
          intro hlisten
          refine h ⟨hsocket, ?_, hbind, hlisten⟩
          intro hunix
          simpa [show addr.isUnix = true from hunix] using hprobe
        simp [bindOne, Socket.bind, Socket.listen, Socket.CreateTCP, Socket.isValid,
          Socket.newSock, Socket.change, Socket.close, hsocket, hprobe, hbind, hlisten,
          Kernel.update_lowest, Kernel.close_lowest]

/-! ## Section 4: A whole call -/

/-- What the calls for `attempts` add, in their order: failed addresses, and
    sockets that are bound and listen. -/
structure Adds (s t : Scene) (attempts : List (Address × Answers)) : Prop where
  fails : t.fails = s.fails ++ (attempts.filter fun a => ¬ Listens a).map Prod.fst
  socks : ∃ new, t.server.m_socks = s.server.m_socks ++ new ∧
    new.map Socket.m_family = (attempts.filter fun a => Listens a).map fun a => a.1.family
  kernel : ∃ new, t.kernel = s.kernel ++ new ∧
    new.map Prod.snd = (attempts.filter fun a => Listens a).map fun a => endpoint a.1

theorem adds_nil (s : Scene) : Adds s s [] where
  fails  := (List.append_nil _).symm
  socks  := ⟨[], (List.append_nil _).symm, rfl⟩
  kernel := ⟨[], (List.append_nil _).symm, rfl⟩

theorem Adds.bindOne {s t : Scene} {attempts : List (Address × Answers)} (h : Adds s t attempts)
    (a : Address × Answers) : Adds s (Tcp.bindOne t a) (attempts ++ [a]) := by
  obtain ⟨socks, hsocks, hfamilies⟩ := h.socks
  obtain ⟨opened, hkernel, hendpoints⟩ := h.kernel
  by_cases ha : Listens a
  · rw [bindOne_listens t ha]
    refine ⟨?_, ⟨socks ++ [⟨some t.kernel.lowest, a.1.family⟩], ?_, ?_⟩,
      ⟨opened ++ [(t.kernel.lowest, endpoint a.1)], ?_, ?_⟩⟩
    · simpa [List.filter_append, ha] using h.fails
    · simp [hsocks]
    · simp [List.filter_append, ha, hfamilies]
    · simp [hkernel]
    · simp [List.filter_append, ha, hendpoints]
  · rw [bindOne_fails t ha]
    refine ⟨?_, ⟨socks, hsocks, ?_⟩, ⟨opened, hkernel, ?_⟩⟩
    · simp [List.filter_append, ha, h.fails]
    · simpa [List.filter_append, ha] using hfamilies
    · simpa [List.filter_append, ha] using hendpoints

theorem adds_foldl (s : Scene) (attempts : List (Address × Answers)) :
    Adds s (attempts.foldl bindOne s) attempts := by
  induction attempts using List.reverseRecOn with
  | nil => exact adds_nil s
  | append_singleton attempts a ih =>
    rw [List.foldl_append]
    exact ih.bindOne a

/-- All addresses are available. -/
def Available (addrs : List Address) (answers : Nat → Answers) : Prop :=
  ∀ a ∈ attempts addrs answers, Listens a

instance (addrs : List Address) (answers : Nat → Answers) : Decidable (Available addrs answers) := by
  unfold Available
  infer_instance

theorem bind_adds (s : Scene) (addrs : List Address) (ssl : Bool) (answers : Nat → Answers) :
    Adds { s with server.m_ssl := ssl } (bind s addrs ssl answers).2 (attempts addrs answers) :=
  adds_foldl _ _

theorem bind_fst (s : Scene) (addrs : List Address) (ssl : Bool) (answers : Nat → Answers) :
    (bind s addrs ssl answers).1 = (bind s addrs ssl answers).2.fails.isEmpty := rfl

/-- `bind` answers with the vector, not with what this call has met. -/
theorem bind_eq_true_iff (s : Scene) (addrs : List Address) (ssl : Bool) (answers : Nat → Answers) :
    (bind s addrs ssl answers).1 = true ↔ s.fails = [] ∧ Available addrs answers := by
  rw [bind_fst, (bind_adds s addrs ssl answers).fails, List.isEmpty_iff, List.append_eq_nil_iff,
    List.map_eq_nil_iff, List.filter_eq_nil_iff]
  simp [Available]

/-- `m_socks` and the open sockets are as they were. -/
def Restored (s t : Scene) : Prop := t.server.m_socks = s.server.m_socks ∧ t.kernel = s.kernel

instance (s t : Scene) : Decidable (Restored s t) := by
  unfold Restored
  infer_instance

theorem restored_iff (s : Scene) (addrs : List Address) (ssl : Bool) (answers : Nat → Answers) :
    Restored s (bind s addrs ssl answers).2 ↔ ∀ a ∈ attempts addrs answers, ¬ Listens a := by
  obtain ⟨socks, hsocks, hfamilies⟩ := (bind_adds s addrs ssl answers).socks
  obtain ⟨opened, hkernel, hendpoints⟩ := (bind_adds s addrs ssl answers).kernel
  have hnone : (∀ a ∈ attempts addrs answers, ¬ Listens a) ↔
      (attempts addrs answers).filter (fun a => Listens a) = [] := by
    simp [List.filter_eq_nil_iff]
  rw [hnone, Restored, hsocks, hkernel, List.append_right_eq_self, List.append_right_eq_self]
  constructor
  · rintro ⟨rfl, -⟩
    exact List.map_eq_nil_iff.mp hfamilies.symm
  · intro hnil
    rw [hnil] at hfamilies hendpoints
    exact ⟨List.map_eq_nil_iff.mp hfamilies, List.map_eq_nil_iff.mp hendpoints⟩

/-- A call is all or nothing: it says whether every address has got its socket,
    and when it says no, no address has. -/
structure AllOrNothing (s : Scene) (addrs : List Address) (answers : Nat → Answers)
    (r : Bool × Scene) : Prop where
  eq_true  : r.1 = true ↔ Available addrs answers
  restored : r.1 = false → Restored s r.2

/-- The call has all its addresses and an empty vector, or none of at least one. -/
def Agree (s : Scene) (addrs : List Address) (answers : Nat → Answers) : Prop :=
  s.fails = [] ∧ Available addrs answers ∨
    ¬ Available addrs answers ∧ ∀ a ∈ attempts addrs answers, ¬ Listens a

theorem allOrNothing_iff (s : Scene) (addrs : List Address) (ssl : Bool) (answers : Nat → Answers) :
    AllOrNothing s addrs answers (bind s addrs ssl answers) ↔ Agree s addrs answers := by
  have htrue := bind_eq_true_iff s addrs ssl answers
  constructor
  · rintro ⟨hiff, hrestored⟩
    by_cases havailable : Available addrs answers
    · exact Or.inl ⟨(htrue.mp (hiff.mpr havailable)).1, havailable⟩
    · have hfalse := Bool.eq_false_iff.mpr (fun h => havailable (hiff.mp h))
      exact Or.inr ⟨havailable, (restored_iff s addrs ssl answers).mp (hrestored hfalse)⟩
  · rintro (⟨hfails, havailable⟩ | ⟨hsome, hnone⟩)
    · have hret := htrue.mpr ⟨hfails, havailable⟩
      refine ⟨⟨fun _ => havailable, fun _ => hret⟩, ?_⟩
      intro hfalse
      rw [hret] at hfalse
      cases hfalse
    · refine ⟨⟨fun h => (htrue.mp h).2, fun h => absurd h hsome⟩, ?_⟩
      intro _
      exact (restored_iff s addrs ssl answers).mpr hnone

/-- One address in a vector of its own is all there is. -/
theorem bindAddr_allOrNothing (server : TcpServer) (k : Kernel) (addr : Address) (ssl : Bool)
    (ans : Answers) :
    AllOrNothing ⟨server, [], k⟩ [addr] (fun _ => ans) (bindAddr server k addr ssl ans) := by
  refine (allOrNothing_iff _ _ _ _).mpr ?_
  have hattempts : attempts [addr] (fun _ => ans) = [(addr, ans)] := rfl
  by_cases h : Listens (addr, ans)
  · exact Or.inl ⟨rfl, by simpa [Available, hattempts] using h⟩
  · exact Or.inr ⟨by simpa [Available, hattempts] using h, by simpa [hattempts] using h⟩

/-! ## Section 5: The loop of calls -/

/-- The vector never gets shorter. -/
theorem fails_prefix (s : Scene) (addrs : List Address) (ssl : Bool) (answers : Nat → Answers) :
    s.fails <+: (bind s addrs ssl answers).2.fails :=
  ⟨_, (bind_adds s addrs ssl answers).fails.symm⟩

theorem retry_of_fails (addrs : List Address) (ssl : Bool) (rounds : List (Nat → Answers)) :
    ∀ s : Scene, s.fails ≠ [] → retry s addrs ssl rounds = none := by
  induction rounds with
  | nil => exact fun _ _ => rfl
  | cons answers rounds ih =>
    intro s hs
    have hfalse : (bind s addrs ssl answers).1 = false := by
      refine Bool.eq_false_iff.mpr ?_
      intro htrue
      exact hs ((bind_eq_true_iff s addrs ssl answers).mp htrue).1
    have hnext : (bind s addrs ssl answers).2.fails ≠ [] := by
      intro hnil
      exact hs (List.prefix_nil.mp (hnil ▸ fails_prefix s addrs ssl answers))
    have hround : bind s addrs ssl answers = (false, (bind s addrs ssl answers).2) :=
      Prod.ext hfalse rfl
    rw [retry, hround]
    simp only
    rw [ih _ hnext, Option.map_none]

/-- The first round in which all addresses are available. -/
def firstAvailable (addrs : List Address) (rounds : List (Nat → Answers)) : Option Nat :=
  rounds.findIdx? fun answers => Available addrs answers

/-- The loop ends in its first round or never. -/
theorem retry_eq (s : Scene) (addrs : List Address) (ssl : Bool) (rounds : List (Nat → Answers)) :
    retry s addrs ssl rounds =
      if s.fails = [] ∧ firstAvailable addrs rounds = some 0 then some 0 else none := by
  cases rounds with
  | nil => simp [retry, firstAvailable]
  | cons answers rounds =>
    have hfirst : firstAvailable addrs (answers :: rounds) = some 0 ↔ Available addrs answers := by
      unfold firstAvailable
      rw [List.findIdx?_cons]
      by_cases h : Available addrs answers <;> simp [h]
    simp only [hfirst, ← bind_eq_true_iff s addrs ssl answers]
    rw [retry]
    cases hround : bind s addrs ssl answers with
    | mk returned t =>
      cases returned with
      | true => simp
      | false =>
        have hfails : t.fails ≠ [] := by
          intro hnil
          have h := bind_fst s addrs ssl answers
          rw [hround] at h
          simp [hnil] at h
        simp [retry_of_fails addrs ssl rounds t hfails]

end Tcp

/-- Exactly when one call is all or nothing, and when the loop of calls ends as
    soon as all addresses are available. -/
theorem bind_all_or_nothing_iff (s : Tcp.Scene) (addrs : List Tcp.Address) (ssl : Bool) :
    (∀ answers, Tcp.AllOrNothing s addrs answers (Tcp.bind s addrs ssl answers) ↔
      Tcp.Agree s addrs answers) ∧
    ∀ rounds, Tcp.retry s addrs ssl rounds = Tcp.firstAvailable addrs rounds ↔
      Tcp.firstAvailable addrs rounds = none ∨
        s.fails = [] ∧ Tcp.firstAvailable addrs rounds = some 0 := by
  refine ⟨fun answers => Tcp.allOrNothing_iff s addrs ssl answers, ?_⟩
  intro rounds
  rw [Tcp.retry_eq]
  cases hfirst : Tcp.firstAvailable addrs rounds with
  | none => simp
  | some n =>
    by_cases hfails : s.fails = []
    · by_cases hn : n = 0
      · simp [hfails, hn]
      · simp [hn]
    · simp [hfails]

namespace Tcp

/-! ## Section 6: One of two addresses -/

def anyAddr : Address := ⟨2, false, [0x1f, 0x61, 0, 0, 0, 0]⟩

def otherAddr : Address := ⟨2, false, [0x1f, 0x62, 0, 0, 0, 0]⟩

/-- The second address is in use. -/
def oneInUse (i : Nat) : Answers := ⟨true, false, i == 0, true⟩

def allFree (_ : Nat) : Answers := ⟨true, false, true, true⟩

def fresh : Scene := ⟨⟨[], false⟩, [], []⟩

end Tcp

/-- A failing call keeps the socket of the first address, and a loop that meets
    both addresses free in its second round goes on. -/
theorem partial_bind_stays :
    (¬ ∀ s addrs ssl answers,
        Tcp.AllOrNothing s addrs answers (Tcp.bind s addrs ssl answers)) ∧
      ¬ ∀ s addrs ssl rounds, Tcp.retry s addrs ssl rounds = Tcp.firstAvailable addrs rounds := by
  constructor
  · intro hcall
    have h := (hcall Tcp.fresh [Tcp.anyAddr, Tcp.otherAddr] false Tcp.oneInUse).restored rfl
    exact absurd h (by decide)
  · intro hloop
    have h := hloop Tcp.fresh [Tcp.anyAddr, Tcp.otherAddr] false [Tcp.oneInUse, Tcp.allFree]
    exact absurd h (by decide)

end MNSER
