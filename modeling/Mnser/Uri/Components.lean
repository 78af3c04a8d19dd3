import Mathlib.Data.List.TakeWhile
import Mnser.Uri.Model

/-! # The components of a URI

    How RFC 3986 takes a URI reference apart: each component reaches up to the
    next delimiter.  This says what the members of `Uri` stand for, and does
    not look at the scanner. -/

namespace MNSER

open Http (Bytes ascii)

/-! ## Section 1: Delimiters -/

def notIn (stops : Bytes) (c : UInt8) : Bool := !stops.contains c

/-- A text up to a delimiter, and what is behind it. -/
theorem takeWhile_stop {stops w r : Bytes} (hw : ∀ c ∈ w, c ∉ stops)
    (hr : ∀ c ∈ r.head?, c ∈ stops) : (w ++ r).takeWhile (notIn stops) = w := by
  induction w with
  | nil =>
    cases r with
    | nil => rfl
    | cons c cs =>
      have hc : notIn stops c = false := by simpa [notIn] using hr c rfl
      rw [List.nil_append, List.takeWhile_cons_of_neg (by simp [hc])]
  | cons c cs ih =>
    have hc : notIn stops c = true := by simpa [notIn] using hw c List.mem_cons_self
    rw [List.cons_append, List.takeWhile_cons_of_pos hc,
      ih fun x hx => hw x (List.mem_cons_of_mem _ hx)]

theorem dropWhile_stop {stops w r : Bytes} (hw : ∀ c ∈ w, c ∉ stops)
    (hr : ∀ c ∈ r.head?, c ∈ stops) : (w ++ r).dropWhile (notIn stops) = r := by
  have hsplit := List.takeWhile_append_dropWhile (p := notIn stops) (l := w ++ r)
  rw [takeWhile_stop hw hr] at hsplit
  exact List.append_cancel_left hsplit

/-! ## Section 2: Components -/

structure Authority where
  userinfo : Option Bytes
  host     : Bytes
  port     : Option Bytes
  deriving DecidableEq, Repr

structure Components where
  scheme    : Option Bytes
  authority : Option Authority
  path      : Bytes
  query     : Option Bytes
  fragment  : Option Bytes
  deriving DecidableEq, Repr

/-- What is in front of the first colon, unless a `/`, `?` or `#` comes first. -/
def splitScheme (s : Bytes) : Option Bytes × Bytes :=
  let name := s.takeWhile (notIn [58, 47, 63, 35])
  match s.dropWhile (notIn [58, 47, 63, 35]) with
  | 58 :: rest => if name = [] then (none, s) else (some name, rest)
  | _ => (none, s)

/-- What is between `//` and the next `/`, `?` or `#`. -/
def splitAuthority : Bytes → Option Bytes × Bytes
  | 47 :: 47 :: rest =>
    (some (rest.takeWhile (notIn [47, 63, 35])), rest.dropWhile (notIn [47, 63, 35]))
  | s => (none, s)

/-- The host, and the port behind the colon; an IP literal ends with `]`. -/
def splitHost (s : Bytes) : Bytes × Option Bytes :=
  let (host, rest) :=
    if s.head? = some 91 then
      (s.takeWhile (notIn [93]) ++ [93], (s.dropWhile (notIn [93])).tail)
    else (s.takeWhile (notIn [58]), s.dropWhile (notIn [58]))
  (host, if rest = [] then none else some rest.tail)

def parseAuthority (s : Bytes) : Authority :=
  let (userinfo, rest) :=
    if 64 ∈ s then (some (s.takeWhile (notIn [64])), (s.dropWhile (notIn [64])).tail) else (none, s)
  ⟨userinfo, (splitHost rest).1, (splitHost rest).2⟩

def pathOf (s : Bytes) : Bytes := s.takeWhile (notIn [63, 35])

def behindPath (s : Bytes) : Bytes := s.dropWhile (notIn [63, 35])

def queryOf (s : Bytes) : Option Bytes :=
  if s.head? = some 63 then some (s.tail.takeWhile (notIn [35])) else none

def fragmentOf (s : Bytes) : Option Bytes :=
  if s.dropWhile (notIn [35]) = [] then none else some (s.dropWhile (notIn [35])).tail

def components (s : Bytes) : Components :=
  let (scheme, s) := splitScheme s
  let (authority, s) := splitAuthority s
  ⟨scheme, authority.map parseAuthority, pathOf s, queryOf (behindPath s), fragmentOf (behindPath s)⟩

/-- The number that a port denotes; 0 if there is none. -/
def portNumber (port : Option Bytes) : Nat := Strtol.magnitude 10 0 (port.getD [])

/-- The members of the object are the components, empty or 0 where there is none. -/
structure Uri.Holds (u : Uri) (c : Components) : Prop where
  scheme   : u.scheme = c.scheme.getD []
  userinfo : u.userinfo = (c.authority.bind Authority.userinfo).getD []
  host     : u.host = (c.authority.map Authority.host).getD []
  port     : u.port = portNumber (c.authority.bind Authority.port)
  path     : u.path = c.path
  query    : u.query = c.query.getD []
  fragment : u.fragment = c.fragment.getD []

end MNSER
