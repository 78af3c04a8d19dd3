import Mnser.Http.Dump
import Mnser.Strtol
import Mnser.Uri.Table

/-! # URIs

    `Uri::Create` with the actions of the scanner, and what is written out
    again.  `mark` is one pointer for all parts of a URI. -/

namespace MNSER

open Http (Bytes ascii text decimal)
open Scanner UriParser

/-! ## Section 1: The object -/

structure Uri where
  scheme   : Bytes
  userinfo : Bytes
  host     : Bytes
  path     : Bytes
  query    : Bytes
  fragment : Bytes
  port     : Int
  deriving DecidableEq, Repr

def Uri.new : Uri := ⟨[], [], [], [], [], [], 0⟩

namespace UriParser

/-! ## Section 2: Actions -/

/-- The null-able pointer `mark`, and the object. -/
abbrev Data : Type := Option Nat × Uri

/-- An action at `p`; `none` when it throws, as `std::string(NULL, n)` does. -/
def perform (s : Bytes) (p : Nat) : Action → Data → Option Data
  | .marku, (_, u) => some (some p, u)
  | .markh, (_, u) => some (some p, u)
  | .save_scheme, (some m, u) => some (none, { u with scheme := text s m (p - m) })
  | .save_scheme, (none, _) => none
  | .save_port, (some m, u) =>
    some (none, if p ≠ m then { u with port := strtoi 10 (s.drop m) } else u)
  -- `atoi(NULL)`
  | .save_port, (none, _) => none
  | .save_userinfo, (some m, u) => some (none, { u with userinfo := text s m (p - m) })
  | .save_userinfo, (none, u) => some (none, u)
  | .save_host, (some m, u) => some (some m, { u with host := text s m (p - m) })
  | .save_host, (none, u) => some (none, u)
  | .save_path, (some m, u) => some (none, { u with path := text s m (p - m) })
  | .save_path, (none, _) => none
  | .save_query, (some m, u) => some (none, { u with query := text s m (p - m) })
  | .save_query, (none, _) => none
  | .save_fragment, (some m, u) => some (none, { u with fragment := text s m (p - m) })
  | .save_fragment, (none, _) => none

def performs (s : Bytes) (p : Nat) : List Action → Data → Option Data
  | [], d => some d
  | a :: acts, d => (perform s p a d).bind (performs s p acts)

end UriParser

/-! ## Section 3: Uri -/

inductive Created where
  | uri (u : Uri)
  | nullptr
  | threw
  deriving DecidableEq, Repr

namespace Uri

def Create (uristr : Bytes) : Created :=
  match scan step (performs uristr) 0 uri_parser_start (none, Uri.new) uristr with
  | none => .threw
  | some r =>
    if r.stopped then .nullptr
    else
      match performs uristr uristr.length (eofActions r.state) r.data with
      | none => .threw
      | some d =>
        if r.state = uri_parser_error then .nullptr
        else if uri_parser_first_final ≤ r.state then .uri d.2
        else .nullptr

def isDefaultPort (u : Uri) : Bool :=
  if u.port = 0 then true
  else if u.scheme = ascii "http" ∨ u.scheme = ascii "ws" then u.port = 80
  else if u.scheme = ascii "https" ∨ u.scheme = ascii "wss" then u.port = 443
  else false

def getPath (u : Uri) : Bytes := if u.path = [] then ascii "/" else u.path

def getPort (u : Uri) : Int :=
  if u.port ≠ 0 then u.port
  else if u.scheme = ascii "http" ∨ u.scheme = ascii "ws" then 80
  else if u.scheme = ascii "https" ∨ u.scheme = ascii "wss" then 443
  else u.port

/-- `std::to_string` -/
def to_string (n : Int) : Bytes :=
  if n < 0 then ascii "-" ++ decimal n.natAbs else decimal n.natAbs

/-- What `dump` writes. -/
def toString (u : Uri) : Bytes :=
  u.scheme ++ ascii "://" ++ u.userinfo ++ (if u.userinfo = [] then [] else ascii "@") ++ u.host ++
    (if u.isDefaultPort then [] else ascii ":" ++ to_string u.port) ++ u.getPath ++
    (if u.query = [] then [] else ascii "?") ++ u.query ++
    (if u.fragment = [] then [] else ascii "#") ++ u.fragment

end Uri

end MNSER
