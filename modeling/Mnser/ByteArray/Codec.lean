import Mathlib.Algebra.Group.Nat.Defs
import Mnser.ByteArray.Operations

/-! # Typed values in a ByteArray

    The writers and readers of `bytearray.cpp`.  A fixed-width integer goes in
    as its bytes in memory, swapped first if the array has the other byte
    order; a variable-width one in groups of seven bits; a string behind its
    length. -/

namespace MNSER

/-! ## Section 1: Integers in memory -/

/-- The byte order of the machine. -/
def MS_BYTE_ORDER : Endian := .little

/-- The `n` bytes of an integer, the lowest one first. -/
def littleBytes : Nat → Nat → Buffer
  | 0, _     => []
  | n + 1, v => (v % 256).toUInt8 :: littleBytes n (v / 256)

def ofLittleBytes : Buffer → Nat
  | []      => 0
  | b :: bs => b.toNat + 256 * ofLittleBytes bs

/-- `byteswap` of an integer of `n` bytes. -/
def byteswap (n v : Nat) : Nat := ofLittleBytes (littleBytes n v).reverse

theorem littleBytes_length (n : Nat) : ∀ v, (littleBytes n v).length = n := by
  induction n with
  | zero => intro v; rfl
  | succ n ih =>
    intro v
    rw [littleBytes, List.length_cons, ih]

theorem ofLittleBytes_littleBytes (n : Nat) :
    ∀ {v}, v < 256 ^ n → ofLittleBytes (littleBytes n v) = v := by
  induction n with
  | zero =>
    intro v h
    rw [Nat.pow_zero, Nat.lt_one_iff] at h
    exact h.symm
  | succ n ih =>
    intro v h
    have hdiv : v / 256 < 256 ^ n := by
      rw [Nat.div_lt_iff_lt_mul (by decide), ← Nat.pow_succ]
      exact h
    have hbyte : (v % 256).toUInt8.toNat = v % 256 := by
      simp
    rw [littleBytes, ofLittleBytes, ih hdiv, hbyte, Nat.mod_add_div]

theorem littleBytes_ofLittleBytes (bs : Buffer) : littleBytes bs.length (ofLittleBytes bs) = bs := by
  induction bs with
  | nil => rfl
  | cons b bs ih =>
    have hb := b.toNat_lt
    rw [ofLittleBytes, List.length_cons, littleBytes, Nat.add_mul_mod_self_left,
      Nat.add_mul_div_left _ _ (by decide), Nat.div_eq_of_lt hb, Nat.zero_add, ih,
      Nat.mod_eq_of_lt hb]
    congr 1
    exact UInt8.toNat_inj.mp (by simp)

/-- The bytes of a swapped integer. -/
theorem littleBytes_byteswap (n v : Nat) : littleBytes n (byteswap n v) = (littleBytes n v).reverse := by
  have h := littleBytes_ofLittleBytes (littleBytes n v).reverse
  rw [List.length_reverse, littleBytes_length] at h
  exact h

theorem byteswap_byteswap {n v : Nat} (h : v < 256 ^ n) : byteswap n (byteswap n v) = v := by
  unfold byteswap
  rw [show ofLittleBytes (littleBytes n v).reverse = byteswap n v from rfl, littleBytes_byteswap,
    List.reverse_reverse, ofLittleBytes_littleBytes n h]

/-! ## Section 2: Zigzag -/

def EncodeZigzag32 (v : Int32) : UInt32 := ((v <<< 1) ^^^ (v >>> 31)).toUInt32

def EncodeZigzag64 (v : Int64) : UInt64 := ((v <<< 1) ^^^ (v >>> 63)).toUInt64

def DecodeZigzag32 (v : UInt32) : Int32 := ((v >>> 1) ^^^ -(v &&& 1)).toInt32

def DecodeZigzag64 (v : UInt64) : Int64 := ((v >>> 1) ^^^ -(v &&& 1)).toInt64

/-- Zigzag on bits: the sign, spread over all bits, against the shifted value. -/
theorem zigzag_bits {w : Nat} (hw : 0 < w) (v : BitVec w) :
    let u := (v <<< 1) ^^^ v.sshiftRight (w - 1)
    (u >>> 1) ^^^ -(u &&& 1#w) = v := by
  intro u
  have hsign : v.sshiftRight (w - 1) = if v.msb then BitVec.allOnes w else 0#w := by
    ext i hi
    rw [BitVec.getElem_sshiftRight]
    split
    · rename_i hlt
      have hi' : i = 0 := by omega
      subst hi'
      rw [← BitVec.getLsbD_eq_getElem, Nat.add_zero, BitVec.msb_eq_getLsbD_last]
      cases hmsb : v.getLsbD (w - 1) <;> simp
    · cases v.msb <;> simp
  have hneg : -(1#w) = BitVec.allOnes w := BitVec.neg_one_eq_allOnes
  cases hmsb : v.msb with
  | false =>
    -- twice a value that is not negative
    rw [hmsb, if_neg Bool.false_ne_true] at hsign
    have hbit : u &&& 1#w = 0#w := by
      ext i hi
      by_cases hzero : i = 0 <;> simp [u, hsign, hzero]
    rw [hbit]
    ext i hi
    simp only [u, hsign]
    by_cases hlast : i = w - 1
    · rw [BitVec.msb_eq_getLsbD_last, ← hlast, BitVec.getLsbD_eq_getElem hi] at hmsb
      simp [hmsb, show ¬ 1 + i < w by omega]
    · simp [show 1 + i < w by omega]
  | true =>
    rw [hmsb, if_pos rfl] at hsign
    have hbit : u &&& 1#w = 1#w := by
      ext i hi
      by_cases hzero : i = 0 <;> simp [u, hsign, hzero]
    rw [hbit, hneg]
    ext i hi
    simp only [u, hsign]
    by_cases hlast : i = w - 1
    · rw [BitVec.msb_eq_getLsbD_last, ← hlast, BitVec.getLsbD_eq_getElem hi] at hmsb
      simp [hmsb, show ¬ 1 + i < w by omega]
    · simp [show 1 + i < w by omega]

theorem DecodeZigzag32_EncodeZigzag32 (v : Int32) : DecodeZigzag32 (EncodeZigzag32 v) = v := by
  refine Int32.toBitVec_inj.mp ?_
  exact zigzag_bits (by decide) v.toBitVec

theorem DecodeZigzag64_EncodeZigzag64 (v : Int64) : DecodeZigzag64 (EncodeZigzag64 v) = v := by
  refine Int64.toBitVec_inj.mp ?_
  exact zigzag_bits (by decide) v.toBitVec

/-! ## Section 3: Writers -/

/-- The groups of seven bits of `writeUint32` and `writeUint64`, of which there
    are at most `n + 1`. -/
def varint : Nat → Nat → Buffer
  | 0, value => [value.toUInt8]
  | n + 1, value =>
    if 0x80 ≤ value then ((value &&& 0x7F) ||| 0x80).toUInt8 :: varint n (value >>> 7)
    else [value.toUInt8]

namespace ByteArray

/-- `setIsLittleEndian` -/
def setIsLittleEndian (ba : ByteArray) (val : Bool) : ByteArray :=
  { ba with endian := if val then .little else .big }

/-- An integer of `n` bytes in the byte order of the array. -/
def fixed (endian : Endian) (n v : Nat) : Buffer :=
  littleBytes n (if endian ≠ MS_BYTE_ORDER then byteswap n v else v)

section

variable (memory : Nat → Nat → UInt8) (ba : ByteArray)

/-- What the writers of fixed-width integers have in common. -/
def writeFixed (n v : Nat) : Except MemoryFault ByteArray := ba.write memory (fixed ba.endian n v)

def writeFint8 (value : Int8) : Except MemoryFault ByteArray := ba.write memory [value.toUInt8]

def writeFuint8 (value : UInt8) : Except MemoryFault ByteArray := ba.write memory [value]

def writeFint16 (value : Int16) : Except MemoryFault ByteArray :=
  ba.writeFixed memory 2 value.toUInt16.toNat

def writeFuint16 (value : UInt16) : Except MemoryFault ByteArray :=
  ba.writeFixed memory 2 value.toNat

def writeFint32 (value : Int32) : Except MemoryFault ByteArray :=
  ba.writeFixed memory 4 value.toUInt32.toNat

def writeFuint32 (value : UInt32) : Except MemoryFault ByteArray :=
  ba.writeFixed memory 4 value.toNat

def writeFint64 (value : Int64) : Except MemoryFault ByteArray :=
  ba.writeFixed memory 8 value.toUInt64.toNat

def writeFuint64 (value : UInt64) : Except MemoryFault ByteArray :=
  ba.writeFixed memory 8 value.toNat

def writeUint32 (value : UInt32) : Except MemoryFault ByteArray :=
  ba.write memory (varint 4 value.toNat)

def writeInt32 (value : Int32) : Except MemoryFault ByteArray :=
  ba.writeUint32 memory (EncodeZigzag32 value)

def writeUint64 (value : UInt64) : Except MemoryFault ByteArray :=
  ba.write memory (varint 9 value.toNat)

def writeInt64 (value : Int64) : Except MemoryFault ByteArray :=
  ba.writeUint64 memory (EncodeZigzag64 value)

/-- A `float` is its bits. -/
def writeFloat (value : UInt32) : Except MemoryFault ByteArray := ba.writeFuint32 memory value

def writeDouble (value : UInt64) : Except MemoryFault ByteArray := ba.writeFuint64 memory value

def writeStringF16 (value : Buffer) : Except MemoryFault ByteArray :=
  (ba.writeFuint16 memory value.length.toUInt16).bind fun ba => ba.write memory value

def writeStringF32 (value : Buffer) : Except MemoryFault ByteArray :=
  (ba.writeFuint32 memory value.length.toUInt32).bind fun ba => ba.write memory value

def writeStringF64 (value : Buffer) : Except MemoryFault ByteArray :=
  (ba.writeFuint64 memory value.length.toUInt64).bind fun ba => ba.write memory value

def writeStringVint (value : Buffer) : Except MemoryFault ByteArray :=
  (ba.writeUint64 memory value.length.toUInt64).bind fun ba => ba.write memory value

end

/-! ## Section 4: Readers -/

section

variable (ba : ByteArray)

/-- What the readers of fixed-width integers have in common. -/
def readFixed (n : Nat) : Except MemoryFault (ByteArray × Nat) :=
  (ba.read n).map fun r =>
    (r.1, if r.1.endian = MS_BYTE_ORDER then ofLittleBytes r.2
      else byteswap n (ofLittleBytes r.2))

def readFuint8 : Except MemoryFault (ByteArray × UInt8) :=
  (ba.read 1).map fun r => (r.1, (ofLittleBytes r.2).toUInt8)

def readFint8 : Except MemoryFault (ByteArray × Int8) :=
  (ba.read 1).map fun r => (r.1, (ofLittleBytes r.2).toUInt8.toInt8)

def readFint16 : Except MemoryFault (ByteArray × Int16) :=
  (ba.readFixed 2).map fun r => (r.1, r.2.toUInt16.toInt16)

def readFuint16 : Except MemoryFault (ByteArray × UInt16) :=
  (ba.readFixed 2).map fun r => (r.1, r.2.toUInt16)

def readFint32 : Except MemoryFault (ByteArray × Int32) :=
  (ba.readFixed 4).map fun r => (r.1, r.2.toUInt32.toInt32)

def readFuint32 : Except MemoryFault (ByteArray × UInt32) :=
  (ba.readFixed 4).map fun r => (r.1, r.2.toUInt32)

def readFint64 : Except MemoryFault (ByteArray × Int64) :=
  (ba.readFixed 8).map fun r => (r.1, r.2.toUInt64.toInt64)

def readFuint64 : Except MemoryFault (ByteArray × UInt64) :=
  (ba.readFixed 8).map fun r => (r.1, r.2.toUInt64)

theorem readFint8_eq : ba.readFint8 = ba.readFuint8.map fun r => (r.1, r.2.toInt8) := by
  unfold readFint8 readFuint8
  cases ba.read 1 <;> rfl

theorem readFint16_eq : ba.readFint16 = ba.readFuint16.map fun r => (r.1, r.2.toInt16) := by
  unfold readFint16 readFuint16
  cases ba.readFixed 2 <;> rfl

theorem readFint32_eq : ba.readFint32 = ba.readFuint32.map fun r => (r.1, r.2.toInt32) := by
  unfold readFint32 readFuint32
  cases ba.readFixed 4 <;> rfl

theorem readFint64_eq : ba.readFint64 = ba.readFuint64.map fun r => (r.1, r.2.toInt64) := by
  unfold readFint64 readFuint64
  cases ba.readFixed 8 <;> rfl

/-- The loop of `readUint32` and `readUint64`: at most `n` more rounds, the
    next one at bit `i` of an integer of `w` bits. -/
def readVarint (w : Nat) : Nat → Nat → Nat → ByteArray → Except MemoryFault (ByteArray × Nat)
  | 0, _, result, ba => .ok (ba, result)
  | n + 1, i, result, ba =>
    ba.readFuint8.bind fun (ba, b) =>
      if b < 0x80 then .ok (ba, result ||| (b.toNat <<< i) % 2 ^ w)
      else readVarint w n (i + 7) (result ||| ((b &&& 0x7f).toNat <<< i) % 2 ^ w) ba

def readUint32 : Except MemoryFault (ByteArray × UInt32) :=
  (readVarint 32 5 0 0 ba).map fun r => (r.1, r.2.toUInt32)

def readInt32 : Except MemoryFault (ByteArray × Int32) :=
  ba.readUint32.map fun r => (r.1, DecodeZigzag32 r.2)

def readUint64 : Except MemoryFault (ByteArray × UInt64) :=
  (readVarint 64 10 0 0 ba).map fun r => (r.1, r.2.toUInt64)

def readInt64 : Except MemoryFault (ByteArray × Int64) :=
  ba.readUint64.map fun r => (r.1, DecodeZigzag64 r.2)

def readFloat : Except MemoryFault (ByteArray × UInt32) := ba.readFuint32

def readDouble : Except MemoryFault (ByteArray × UInt64) := ba.readFuint64

def readStringF16 : Except MemoryFault (ByteArray × Buffer) :=
  ba.readFuint16.bind fun (ba, len) => ba.read len.toNat

def readStringF32 : Except MemoryFault (ByteArray × Buffer) :=
  ba.readFuint32.bind fun (ba, len) => ba.read len.toNat

def readStringF64 : Except MemoryFault (ByteArray × Buffer) :=
  ba.readFuint64.bind fun (ba, len) => ba.read len.toNat

def readStringVint : Except MemoryFault (ByteArray × Buffer) :=
  ba.readUint64.bind fun (ba, len) => ba.read len.toNat

end

end ByteArray

end MNSER
