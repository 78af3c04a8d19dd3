import Mathlib.Data.List.TakeWhile
import Mnser.Framework.Ranges
import Mnser.Http.Dump
import Mnser.Word

/-! # Classes of bytes

    The classes of bytes that the grammars of both parsers name: digits and
    the bytes of a token. -/

namespace MNSER

namespace Http

open Ranges

/-! ## Section 1: The classes of a header -/

def digits : ByteClass := [(48, 57)]

def hexDigits : ByteClass := [(48, 57), (65, 70), (97, 102)]

def tchars : ByteClass :=
  [(33, 33), (35, 39), (42, 43), (45, 46), (48, 57), (65, 90), (94, 122), (124, 124), (126, 126)]

/-- The bytes of a token. -/
theorem has_tchars {c : UInt8} (h : istchar c = true) : tchars.has c = true := by
  revert h c
  unfold istchar
  rw [show ascii "!#$%&'*+-.^_|~" = [33, 35, 36, 37, 38, 39, 42, 43, 45, 46, 94, 95, 124, 126]
    by decide]
  apply forall_byte
  decide +kernel

/-- The decimal digits. -/
theorem has_digits {c : UInt8} (h : Strtol.isdigit 10 c = true) : digits.has c = true := by
  revert h c
  apply forall_byte
  decide +kernel

/-- A token has no null byte. -/
theorem Token.cstr_eq {name : Bytes} (h : Token name) : cstr name = name := by
  refine List.takeWhile_eq_self_iff.mpr fun c hc => ?_
  have htchar := h.2 c hc
  revert htchar
  by_cases hzero : c = 0
  · rw [hzero]
    decide
  · exact fun _ => decide_eq_true hzero

end Http

end MNSER
