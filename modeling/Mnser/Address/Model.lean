import Mathlib.Tactic.IntervalCases

/-! # Socket addresses

    The addresses lie in memory in network order.  The machine is
    little-endian, so `byteswapOnLittleEndian` swaps a word that is read from
    them. -/

namespace MNSER

namespace Address

/-! ## Section 1: Byte order -/

/-- `bswap_16` -/
def bswap_16 (x : BitVec 16) : BitVec 16 := x.extractLsb' 0 8 ++ x.extractLsb' 8 8

/-- `bswap_32` -/
def bswap_32 (x : BitVec 32) : BitVec 32 :=
  x.extractLsb' 0 8 ++ x.extractLsb' 8 8 ++ x.extractLsb' 16 8 ++ x.extractLsb' 24 8

theorem getLsbD_bswap_32 (x : BitVec 32) {i : Nat} (hi : i < 32) :
    (bswap_32 x).getLsbD i = x.getLsbD (8 * (3 - i / 8) + i % 8) := by
  simp only [bswap_32, BitVec.getLsbD_append, BitVec.getLsbD_extractLsb']
  interval_cases i <;> rfl

theorem bswap_32_bswap_32 (x : BitVec 32) : bswap_32 (bswap_32 x) = x := by
  refine BitVec.eq_of_getLsbD_eq ?_
  intro i hi
  rw [getLsbD_bswap_32 _ hi, getLsbD_bswap_32 _ (by omega)]
  congr 1
  omega

theorem bswap_32_not (x : BitVec 32) : bswap_32 (~~~x) = ~~~(bswap_32 x) := by
  refine BitVec.eq_of_getLsbD_eq ?_
  intro i hi
  have hj : 8 * (3 - i / 8) + i % 8 < 32 := by omega
  simp only [BitVec.getLsbD_not, getLsbD_bswap_32 _ hi, hi, hj, decide_true, Bool.true_and]

theorem getLsbD_bswap_16 (x : BitVec 16) {i : Nat} (hi : i < 16) :
    (bswap_16 x).getLsbD i = x.getLsbD (8 * (1 - i / 8) + i % 8) := by
  simp only [bswap_16, BitVec.getLsbD_append, BitVec.getLsbD_extractLsb']
  interval_cases i <;> rfl

/-- A word of two bytes comes out in the order of the bytes. -/
theorem bswap_16_append (hi lo : BitVec 8) : bswap_16 (lo ++ hi) = hi ++ lo := by
  refine BitVec.eq_of_getLsbD_eq ?_
  intro i hi
  rw [getLsbD_bswap_16 _ hi, BitVec.getLsbD_append, BitVec.getLsbD_append]
  by_cases h : i < 8
  · rw [if_pos h, if_neg (by omega)]
    congr 1
    omega
  · rw [if_neg h, if_pos (by omega)]
    congr 1
    omega

/-! ## Section 2: sockaddr -/

/-- `sockaddr_in`, with the words as they are loaded. -/
structure SockaddrIn where
  sin_family : BitVec 16
  sin_port   : BitVec 16
  s_addr     : BitVec 32
  deriving DecidableEq

/-- `sockaddr_in6` -/
structure SockaddrIn6 where
  sin6_family   : BitVec 16
  sin6_port     : BitVec 16
  sin6_flowinfo : BitVec 32
  s6_addr       : Vector (BitVec 8) 16
  sin6_scope_id : BitVec 32
  deriving DecidableEq

end Address

end MNSER
