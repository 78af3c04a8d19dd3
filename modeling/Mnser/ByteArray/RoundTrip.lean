import Mathlib.Tactic.Ring
import Mnser.ByteArray.Codec

/-! # Values come back as they went in

    A list of typed values is written to a fresh array and read back from its
    start.  What is left to read is followed through the readers; an empty
    string is the one value whose reader looks at the current node without
    anything to read there, which the end of the last node does not have. -/

namespace MNSER

open Blocks

/-! ## Section 1: Values -/

/-- The writers, each with the reader of the same name. -/
inductive Kind where
  | fint8 | fuint8 | fint16 | fuint16 | fint32 | fuint32 | fint64 | fuint64
  | int32 | uint32 | int64 | uint64 | float | double
  | stringF16 | stringF32 | stringF64 | stringVint
  deriving DecidableEq, Repr

abbrev Kind.Carrier : Kind → Type
  | .fint8      => Int8
  | .fuint8     => UInt8
  | .fint16     => Int16
  | .fuint16    => UInt16
  | .fint32     => Int32
  | .fuint32    => UInt32
  | .fint64     => Int64
  | .fuint64    => UInt64
  | .int32      => Int32
  | .uint32     => UInt32
  | .int64      => Int64
  | .uint64     => UInt64
  | .float      => UInt32
  | .double     => UInt64
  | .stringF16  => Buffer
  | .stringF32  => Buffer
  | .stringF64  => Buffer
  | .stringVint => Buffer

abbrev Value : Type := Σ k : Kind, k.Carrier

namespace Value

def write (memory : Nat → Nat → UInt8) (ba : ByteArray) : Value → Except MemoryFault ByteArray
  | ⟨.fint8, v⟩      => ba.writeFint8 memory v
  | ⟨.fuint8, v⟩     => ba.writeFuint8 memory v
  | ⟨.fint16, v⟩     => ba.writeFint16 memory v
  | ⟨.fuint16, v⟩    => ba.writeFuint16 memory v
  | ⟨.fint32, v⟩     => ba.writeFint32 memory v
  | ⟨.fuint32, v⟩    => ba.writeFuint32 memory v
  | ⟨.fint64, v⟩     => ba.writeFint64 memory v
  | ⟨.fuint64, v⟩    => ba.writeFuint64 memory v
  | ⟨.int32, v⟩      => ba.writeInt32 memory v
  | ⟨.uint32, v⟩     => ba.writeUint32 memory v
  | ⟨.int64, v⟩      => ba.writeInt64 memory v
  | ⟨.uint64, v⟩     => ba.writeUint64 memory v
  | ⟨.float, v⟩      => ba.writeFloat memory v
  | ⟨.double, v⟩     => ba.writeDouble memory v
  | ⟨.stringF16, v⟩  => ba.writeStringF16 memory v
  | ⟨.stringF32, v⟩  => ba.writeStringF32 memory v
  | ⟨.stringF64, v⟩  => ba.writeStringF64 memory v
  | ⟨.stringVint, v⟩ => ba.writeStringVint memory v

/-- The reader of the same name. -/
def read (ba : ByteArray) : (k : Kind) → Except MemoryFault (ByteArray × k.Carrier)
  | .fint8      => ba.readFint8
  | .fuint8     => ba.readFuint8
  | .fint16     => ba.readFint16
  | .fuint16    => ba.readFuint16
  | .fint32     => ba.readFint32
  | .fuint32    => ba.readFuint32
  | .fint64     => ba.readFint64
  | .fuint64    => ba.readFuint64
  | .int32      => ba.readInt32
  | .uint32     => ba.readUint32
  | .int64      => ba.readInt64
  | .uint64     => ba.readUint64
  | .float      => ba.readFloat
  | .double     => ba.readDouble
  | .stringF16  => ba.readStringF16
  | .stringF32  => ba.readStringF32
  | .stringF64  => ba.readStringF64
  | .stringVint => ba.readStringVint

def writeAll (memory : Nat → Nat → UInt8) : List Value → ByteArray → Except MemoryFault ByteArray
  | [], ba => .ok ba
  | v :: vs, ba => (v.write memory ba).bind (writeAll memory vs)

def readAll : List Kind → ByteArray → Except MemoryFault (ByteArray × List Value)
  | [], ba => .ok (ba, [])
  | k :: ks, ba =>
    (read ba k).bind fun r => (readAll ks r.1).map fun rs => (rs.1, ⟨k, r.2⟩ :: rs.2)

/-- Write, go back to the start, read. -/
def roundTrip (memory : Nat → Nat → UInt8) (base_size : Nat) (little : Bool) (vs : List Value) :
    Except MemoryFault (ByteArray × List Value) :=
  (writeAll memory vs ((ByteArray.new memory base_size).setIsLittleEndian little)).bind fun ba =>
    (ba.setPosition 0).bind fun ba => readAll (vs.map Sigma.fst) ba

/-- The sizes a `std::string` can have, and those `writeStringF16` is for. -/
def Valid : Value → Prop
  | ⟨.stringF16, s⟩  => s.length < 2 ^ 16
  | ⟨.stringF32, s⟩  => s.length < 2 ^ 64
  | ⟨.stringF64, s⟩  => s.length < 2 ^ 64
  | ⟨.stringVint, s⟩ => s.length < 2 ^ 64
  | _                => True

/-- The length does not fit into the 32 bits in front of the string. -/
def TooLong : Value → Prop
  | ⟨.stringF32, s⟩ => 2 ^ 32 ≤ s.length
  | _               => False

def EmptyString : Value → Prop
  | ⟨.stringF16, s⟩  => s = []
  | ⟨.stringF32, s⟩  => s = []
  | ⟨.stringF64, s⟩  => s = []
  | ⟨.stringVint, s⟩ => s = []
  | _                => False

/-! ## Section 2: Encodings -/

/-- What is written first: all of a number, the length of a string. -/
def header (endian : Endian) : Value → Buffer
  | ⟨.fint8, v⟩      => [v.toUInt8]
  | ⟨.fuint8, v⟩     => [v]
  | ⟨.fint16, v⟩     => ByteArray.fixed endian 2 v.toUInt16.toNat
  | ⟨.fuint16, v⟩    => ByteArray.fixed endian 2 v.toNat
  | ⟨.fint32, v⟩     => ByteArray.fixed endian 4 v.toUInt32.toNat
  | ⟨.fuint32, v⟩    => ByteArray.fixed endian 4 v.toNat
  | ⟨.fint64, v⟩     => ByteArray.fixed endian 8 v.toUInt64.toNat
  | ⟨.fuint64, v⟩    => ByteArray.fixed endian 8 v.toNat
  | ⟨.int32, v⟩      => varint 4 (EncodeZigzag32 v).toNat
  | ⟨.uint32, v⟩     => varint 4 v.toNat
  | ⟨.int64, v⟩      => varint 9 (EncodeZigzag64 v).toNat
  | ⟨.uint64, v⟩     => varint 9 v.toNat
  | ⟨.float, v⟩      => ByteArray.fixed endian 4 v.toNat
  | ⟨.double, v⟩     => ByteArray.fixed endian 8 v.toNat
  | ⟨.stringF16, s⟩  => ByteArray.fixed endian 2 s.length.toUInt16.toNat
  | ⟨.stringF32, s⟩  => ByteArray.fixed endian 4 s.length.toUInt32.toNat
  | ⟨.stringF64, s⟩  => ByteArray.fixed endian 8 s.length.toUInt64.toNat
  | ⟨.stringVint, s⟩ => varint 9 s.length.toUInt64.toNat

/-- The bytes of a string. -/
def payload : Value → Buffer
  | ⟨.stringF16, s⟩  => s
  | ⟨.stringF32, s⟩  => s
  | ⟨.stringF64, s⟩  => s
  | ⟨.stringVint, s⟩ => s
  | _                => []

def bytes (endian : Endian) (v : Value) : Buffer := v.header endian ++ v.payload

def bytesAll (endian : Endian) (vs : List Value) : Buffer := (vs.map (bytes endian)).flatten

theorem fixed_length (endian : Endian) (n v : Nat) : (ByteArray.fixed endian n v).length = n :=
  littleBytes_length _ _

theorem fixed_ne_nil (endian : Endian) {n : Nat} (hn : 0 < n) (v : Nat) :
    ByteArray.fixed endian n v ≠ [] := by
  intro h
  have := fixed_length endian n v
  rw [h, List.length_nil] at this
  omega

theorem varint_ne_nil (n value : Nat) : varint n value ≠ [] := by
  cases n with
  | zero => exact List.cons_ne_nil _ _
  | succ n =>
    simp only [varint]
    split
    · exact List.cons_ne_nil _ _
    · exact List.cons_ne_nil _ _

theorem header_ne_nil (endian : Endian) (v : Value) : v.header endian ≠ [] := by
  obtain ⟨k, v⟩ := v
  cases k with
  | fint8 => exact List.cons_ne_nil _ _
  | fuint8 => exact List.cons_ne_nil _ _
  | int32 => exact varint_ne_nil _ _
  | uint32 => exact varint_ne_nil _ _
  | int64 => exact varint_ne_nil _ _
  | uint64 => exact varint_ne_nil _ _
  | stringVint => exact varint_ne_nil _ _
  | _ => exact fixed_ne_nil _ (by decide) _

theorem bytes_ne_nil (endian : Endian) (v : Value) : v.bytes endian ≠ [] := by
  intro h
  exact v.header_ne_nil endian (List.append_eq_nil_iff.mp h).1

@[simp] theorem bytesAll_nil (endian : Endian) : bytesAll endian [] = [] := rfl

@[simp] theorem bytesAll_cons (endian : Endian) (v : Value) (vs : List Value) :
    bytesAll endian (v :: vs) = v.bytes endian ++ bytesAll endian vs := rfl

theorem bytesAll_append (endian : Endian) (vs vs' : List Value) :
    bytesAll endian (vs ++ vs') = bytesAll endian vs ++ bytesAll endian vs' := by
  unfold bytesAll
  rw [List.map_append, List.flatten_append]

theorem bytesAll_ne_nil (endian : Endian) {v : Value} {vs : List Value} (hv : v ∈ vs) :
    bytesAll endian vs ≠ [] := by
  intro h
  exact v.bytes_ne_nil endian
    (List.flatten_eq_nil_iff.mp h _ (List.mem_map_of_mem hv))

/-! ## Section 3: Writing -/

theorem write_nil (memory : Nat → Nat → UInt8) (r : Except MemoryFault ByteArray) :
    (r.bind fun ba => ba.write memory []) = r := by
  cases r <;> rfl

/-- Every writer writes the header and then the payload. -/
theorem write_eq (memory : Nat → Nat → UInt8) (ba : ByteArray) (v : Value) :
    v.write memory ba = (ba.write memory (v.header ba.endian)).bind fun ba =>
      ba.write memory v.payload := by
  obtain ⟨k, v⟩ := v
  cases k with
  | stringF16 => rfl
  | stringF32 => rfl
  | stringF64 => rfl
  | stringVint => rfl
  | _ => exact (write_nil memory _).symm

/-- An array that was only written to. -/
structure Holds (base_size : Nat) (endian : Endian) (ba : ByteArray) (written : Buffer) : Prop where
  wellFormed : ba.WellFormed
  baseSize   : ba.baseSize = base_size
  endian     : ba.endian = endian
  content    : ba.content = written
  position   : ba.position = written.length
  tight      : ba.capacity = base_size ∨ ba.capacity < written.length + base_size

theorem Holds.new (memory : Nat → Nat → UInt8) {base_size : Nat} (hbase : 1 ≤ base_size)
    (little : Bool) :
    Holds base_size (if little then .little else .big)
      ((ByteArray.new memory base_size).setIsLittleEndian little) [] := by
  have h := ByteArray.new_wellFormed memory hbase
  exact ⟨⟨h.base, h.blocks, h.first, h.capacity, h.position, h.size, h.cur⟩,
    rfl, rfl, List.take_zero, rfl, Or.inl rfl⟩

section

variable (memory : Nat → Nat → UInt8) {base_size : Nat} {endian : Endian}

theorem Holds.write {ba : ByteArray} {written : Buffer} (h : Holds base_size endian ba written)
    (buf : Buffer) :
    ∃ ba', ba.write memory buf = .ok ba' ∧ Holds base_size endian ba' (written ++ buf) := by
  obtain ⟨ba', hwrite, h', hbase, hendian, hposition, hcontent, hcap⟩ :=
    ByteArray.write_spec memory h.wellFormed buf
  refine ⟨ba', hwrite, h', hbase.trans h.baseSize, hendian.trans h.endian, ?_, ?_, ?_⟩
  · rw [hcontent, h.content, h.position]
    unfold overwrite
    rw [List.take_length, List.drop_of_length_le (Nat.le_add_right _ _), List.append_nil]
  · rw [hposition, h.position, List.length_append]
  · rw [h.position, h.baseSize] at hcap
    rw [List.length_append]
    have := h.tight
    omega

theorem writeAll_spec (vs : List Value) :
    ∀ {ba : ByteArray} {written : Buffer}, Holds base_size endian ba written →
      ∃ ba', writeAll memory vs ba = .ok ba' ∧
        Holds base_size endian ba' (written ++ bytesAll endian vs) := by
  induction vs with
  | nil =>
    intro ba bytes h
    exact ⟨ba, rfl, by rw [bytesAll_nil, List.append_nil]; exact h⟩
  | cons v vs ih =>
    intro ba bytes h
    obtain ⟨ba₁, hheader, h₁⟩ := h.write memory (v.header endian)
    obtain ⟨ba₂, hpayload, h₂⟩ := h₁.write memory v.payload
    obtain ⟨ba₃, hrest, h₃⟩ := ih h₂
    refine ⟨ba₃, ?_, ?_⟩
    · rw [writeAll, write_eq, h.endian, hheader]
      dsimp only [Except.bind]
      rw [hpayload]
      exact hrest
    · rw [bytesAll_cons, Value.bytes, ← List.append_assoc, ← List.append_assoc]
      exact h₃

end

/-! ## Section 4: Reading -/

/-- What is left to read; the rest stays as it is. -/
structure Reads (endian : Endian) (size capacity : Nat) (ba : ByteArray) (rest : Buffer) :
    Prop where
  wellFormed : ba.WellFormed
  endian     : ba.endian = endian
  size       : ba.size = size
  capacity   : ba.capacity = capacity
  rest       : ba.content.drop ba.position = rest

variable {endian : Endian} {size capacity : Nat} {ba : ByteArray}

theorem Reads.getReadSize {rest : Buffer} (h : Reads endian size capacity ba rest) :
    ba.getReadSize = rest.length := by
  rw [← h.rest, List.length_drop, h.wellFormed.content_length]
  rfl

theorem Reads.read {buf rest : Buffer} (h : Reads endian size capacity ba (buf ++ rest))
    (hbuf : buf ≠ []) :
    ∃ ba', ba.read buf.length = .ok (ba', buf) ∧ Reads endian size capacity ba' rest := by
  have hlen := h.getReadSize
  rw [List.length_append] at hlen
  obtain ⟨ba', hread, h', _, hendian, hposition, hsize, hcap, hcontent⟩ :=
    ByteArray.read_spec h.wellFormed (List.length_pos_iff.mpr hbuf) (by omega)
  rw [h.rest, List.take_left] at hread
  refine ⟨ba', hread, h', hendian.trans h.endian, hsize.trans h.size, hcap.trans h.capacity, ?_⟩
  rw [hcontent, hposition, ← List.drop_drop, h.rest, List.drop_left]

/-- Nothing is read, and only at the end of the last node that is a fault. -/
theorem Reads.read_zero {rest : Buffer} (h : Reads endian size capacity ba rest) :
    ba.read 0 = if rest = [] ∧ size = capacity then .error .null_deref else .ok (ba, []) := by
  have hwf := h.wellFormed
  have hnil : rest = [] ↔ ba.position = ba.size := by
    have hlen := h.getReadSize
    have hpos := hwf.position
    unfold ByteArray.getReadSize at hlen
    rw [← List.length_eq_zero_iff]
    omega
  have hle := hwf.size
  have hpos := hwf.position
  rw [ByteArray.read_zero hwf]
  have hend : ba.position = ba.capacity ↔ rest = [] ∧ size = capacity := by
    rw [hnil, ← h.size, ← h.capacity]
    omega
  simp only [hend]

theorem Reads.readFixed {n v : Nat} {rest : Buffer}
    (h : Reads endian size capacity ba (ByteArray.fixed endian n v ++ rest)) (hn : 0 < n)
    (hv : v < 256 ^ n) :
    ∃ ba', ba.readFixed n = .ok (ba', v) ∧ Reads endian size capacity ba' rest := by
  obtain ⟨ba', hread, h'⟩ := h.read (fixed_ne_nil endian hn v)
  rw [fixed_length] at hread
  refine ⟨ba', ?_, h'⟩
  unfold ByteArray.readFixed
  rw [hread]
  show Except.ok (ba', _) = _
  congr 2
  dsimp only
  rw [h'.endian]
  unfold ByteArray.fixed
  by_cases hsame : endian = MS_BYTE_ORDER
  · rw [if_pos hsame, if_neg (not_not.mpr hsame), ofLittleBytes_littleBytes n hv]
  · rw [if_neg hsame, if_pos hsame, littleBytes_byteswap]
    show byteswap n (byteswap n v) = v
    exact byteswap_byteswap hv

theorem Reads.readFuint8 {b : UInt8} {rest : Buffer}
    (h : Reads endian size capacity ba (b :: rest)) :
    ∃ ba', ba.readFuint8 = .ok (ba', b) ∧ Reads endian size capacity ba' rest := by
  obtain ⟨ba', hread, h'⟩ := (show Reads _ _ _ ba ([b] ++ rest) from h).read (List.cons_ne_nil _ _)
  refine ⟨ba', ?_, h'⟩
  unfold ByteArray.readFuint8
  rw [List.length_singleton] at hread
  rw [hread]
  show Except.ok (ba', _) = _
  simp [ofLittleBytes]

/-! ### Varints -/

theorem varint_byte {value : Nat} : ((value &&& 0x7F) ||| 0x80 : Nat) = value % 128 + 128 := by
  have hlow : value &&& 0x7F = value % 128 := Nat.and_two_pow_sub_one_eq_mod value 7
  have hor : 128 + value % 128 = 128 ||| value % 128 :=
    Nat.two_pow_add_eq_or_of_lt (i := 7) (Nat.mod_lt value (by decide)) 1
  rw [hlow, Nat.or_comm]
  omega

theorem payload_byte {value : Nat} :
    ((value % 128 + 128).toUInt8 &&& 0x7f).toNat = value % 128 := by
  rw [UInt8.toNat_and]
  show (value % 128 + 128) % 256 &&& 127 = value % 128
  rw [Nat.and_two_pow_sub_one_eq_mod _ 7]
  omega

/-- The bits of a group are above those that are already there. -/
theorem or_shift {w i a result : Nat} (hresult : result < 2 ^ i) (hfit : a * 2 ^ i < 2 ^ w) :
    result ||| (a <<< i) % 2 ^ w = result + a * 2 ^ i := by
  rw [Nat.shiftLeft_eq, Nat.mod_eq_of_lt hfit, Nat.or_comm, Nat.mul_comm,
    ← Nat.two_pow_add_eq_or_of_lt hresult]
  omega

theorem Reads.readVarint {w : Nat} (n : Nat) :
    ∀ {i result value : Nat} {ba : ByteArray} {rest : Buffer}, value < 128 ^ (n + 1) →
      result < 2 ^ i → result + value * 2 ^ i < 2 ^ w →
      Reads endian size capacity ba (varint n value ++ rest) →
      ∃ ba', ByteArray.readVarint w (n + 1) i result ba = .ok (ba', result + value * 2 ^ i) ∧
        Reads endian size capacity ba' rest := by
  induction n with
  | zero =>
    intro i result value ba rest hvalue hresult hfit h
    rw [Nat.zero_add, Nat.pow_one] at hvalue
    obtain ⟨ba', hread, h'⟩ := Reads.readFuint8 (b := value.toUInt8) h
    have hbyte : value.toUInt8.toNat = value := by
      rw [UInt8.toNat_ofNat']
      omega
    refine ⟨ba', ?_, h'⟩
    simp only [ByteArray.readVarint, hread]
    show (if value.toUInt8 < 0x80 then _ else _) = _
    rw [if_pos (UInt8.lt_iff_toNat_lt.mpr (hbyte.symm ▸ hvalue)), hbyte, or_shift hresult (by omega)]
  | succ n ih =>
    intro i result value ba rest hvalue hresult hfit h
    simp only [varint] at h
    by_cases hmore : 0x80 ≤ value
    · have hshift : value >>> 7 = value / 128 := Nat.shiftRight_eq_div_pow value 7
      rw [if_pos hmore, varint_byte, hshift] at h
      obtain ⟨ba₁, hread, h₁⟩ := Reads.readFuint8 (b := (value % 128 + 128).toUInt8) h
      have hbyte : (value % 128 + 128).toUInt8.toNat = value % 128 + 128 := by
        rw [UInt8.toNat_ofNat']
        omega
      -- the group goes in above `result`, the rest of the value above the group
      have hvalue' : value / 128 < 128 ^ (n + 1) := by
        rw [Nat.div_lt_iff_lt_mul (by decide)]
        rw [Nat.pow_succ] at hvalue
        exact hvalue
      have hdiv := Nat.div_add_mod value 128
      have hpow : 2 ^ (i + 7) = 2 ^ i * 128 := by rw [Nat.pow_add]
      have hsum : result + value % 128 * 2 ^ i + value / 128 * 2 ^ (i + 7) =
          result + value * 2 ^ i := by
        conv_rhs => rw [← hdiv]
        rw [hpow]
        ring
      have hresult' : result + value % 128 * 2 ^ i < 2 ^ (i + 7) := by
        have hle : (value % 128 + 1) * 2 ^ i ≤ 128 * 2 ^ i :=
          Nat.mul_le_mul_right _ (Nat.mod_lt value (by decide))
        rw [Nat.add_mul, Nat.one_mul] at hle
        rw [hpow]
        omega
      obtain ⟨ba', hrest, h'⟩ := ih (i := i + 7) hvalue' hresult' (by rw [hsum]; exact hfit) h₁
      refine ⟨ba', ?_, h'⟩
      rw [ByteArray.readVarint, hread]
      show (if (value % 128 + 128).toUInt8 < 0x80 then _ else _) = _
      rw [if_neg (by rw [UInt8.lt_iff_toNat_lt, hbyte]; show ¬ value % 128 + 128 < 128; omega),
        payload_byte, or_shift hresult (by omega), hrest, hsum]
    · rw [if_neg hmore] at h
      obtain ⟨ba', hread, h'⟩ := Reads.readFuint8 (b := value.toUInt8) h
      have hbyte : value.toUInt8.toNat = value := by
        rw [UInt8.toNat_ofNat']
        omega
      refine ⟨ba', ?_, h'⟩
      rw [ByteArray.readVarint, hread]
      show (if value.toUInt8 < 0x80 then _ else _) = _
      rw [if_pos (UInt8.lt_iff_toNat_lt.mpr (by rw [hbyte]; show value < 128; omega)), hbyte,
        or_shift hresult (by omega)]

theorem Reads.readUint32 {v : UInt32} {rest : Buffer}
    (h : Reads endian size capacity ba (varint 4 v.toNat ++ rest)) :
    ∃ ba', ba.readUint32 = .ok (ba', v) ∧ Reads endian size capacity ba' rest := by
  have hv := v.toNat_lt
  obtain ⟨ba', hread, h'⟩ := h.readVarint (w := 32) (i := 0) 4 (by omega) Nat.one_pos (by omega)
  refine ⟨ba', ?_, h'⟩
  rw [Nat.zero_add, Nat.pow_zero, Nat.mul_one] at hread
  unfold ByteArray.readUint32
  rw [hread]
  simp [Except.map]

theorem Reads.readUint64 {v : UInt64} {rest : Buffer}
    (h : Reads endian size capacity ba (varint 9 v.toNat ++ rest)) :
    ∃ ba', ba.readUint64 = .ok (ba', v) ∧ Reads endian size capacity ba' rest := by
  have hv := v.toNat_lt
  obtain ⟨ba', hread, h'⟩ := h.readVarint (w := 64) (i := 0) 9 (by omega) Nat.one_pos (by omega)
  refine ⟨ba', ?_, h'⟩
  rw [Nat.zero_add, Nat.pow_zero, Nat.mul_one] at hread
  unfold ByteArray.readUint64
  rw [hread]
  simp [Except.map]

theorem Reads.readFuint16 {v : UInt16} {rest : Buffer}
    (h : Reads endian size capacity ba (ByteArray.fixed endian 2 v.toNat ++ rest)) :
    ∃ ba', ba.readFuint16 = .ok (ba', v) ∧ Reads endian size capacity ba' rest := by
  obtain ⟨ba', hread, h'⟩ := h.readFixed (by decide) v.toNat_lt
  refine ⟨ba', ?_, h'⟩
  unfold ByteArray.readFuint16
  rw [hread]
  simp [Except.map]

theorem Reads.readFuint32 {v : UInt32} {rest : Buffer}
    (h : Reads endian size capacity ba (ByteArray.fixed endian 4 v.toNat ++ rest)) :
    ∃ ba', ba.readFuint32 = .ok (ba', v) ∧ Reads endian size capacity ba' rest := by
  obtain ⟨ba', hread, h'⟩ := h.readFixed (by decide) v.toNat_lt
  refine ⟨ba', ?_, h'⟩
  unfold ByteArray.readFuint32
  rw [hread]
  simp [Except.map]

theorem Reads.readFuint64 {v : UInt64} {rest : Buffer}
    (h : Reads endian size capacity ba (ByteArray.fixed endian 8 v.toNat ++ rest)) :
    ∃ ba', ba.readFuint64 = .ok (ba', v) ∧ Reads endian size capacity ba' rest := by
  obtain ⟨ba', hread, h'⟩ := h.readFixed (by decide) v.toNat_lt
  refine ⟨ba', ?_, h'⟩
  unfold ByteArray.readFuint64
  rw [hread]
  simp [Except.map]

/-- The bytes of a string, once its length is known. -/
theorem Reads.string {s rest : Buffer} (h : Reads endian size capacity ba (s ++ rest)) :
    (s = [] ∧ rest = [] ∧ size = capacity → ba.read s.length = .error .null_deref) ∧
    (¬ (s = [] ∧ rest = [] ∧ size = capacity) →
      ∃ ba', ba.read s.length = .ok (ba', s) ∧ Reads endian size capacity ba' rest) := by
  by_cases hs : s = []
  · subst hs
    rw [List.length_nil, h.read_zero, List.nil_append]
    refine ⟨fun hend => if_pos hend.2, fun hroom => ⟨ba, if_neg fun hend => hroom ⟨rfl, hend⟩, h⟩⟩
  · exact ⟨fun hend => absurd hend.1 hs, fun _ => h.read hs⟩

/-- A reader returns the value and leaves what was behind it, unless it is an
    empty string at the end of the last node. -/
theorem Reads.value {v : Value} {rest : Buffer} (hvalid : v.Valid) (hshort : ¬ v.TooLong)
    (h : Reads endian size capacity ba (v.bytes endian ++ rest)) :
    (v.EmptyString ∧ rest = [] ∧ size = capacity → Value.read ba v.1 = .error .null_deref) ∧
    (¬ (v.EmptyString ∧ rest = [] ∧ size = capacity) →
      ∃ ba', Value.read ba v.1 = .ok (ba', v.2) ∧ Reads endian size capacity ba' rest) := by
  obtain ⟨k, v⟩ := v
  rw [bytes, List.append_assoc] at h
  -- each reader takes the bytes of its writer; only a string may end in a read of nothing
  cases k with
  | fint8 =>
    obtain ⟨ba', hread, h'⟩ := Reads.readFuint8 (b := v.toUInt8) h
    refine ⟨fun hend => hend.1.elim, fun _ => ⟨ba', ?_, h'⟩⟩
    show ba.readFint8 = _
    rw [ByteArray.readFint8_eq, hread]
    rfl
  | fuint8 =>
    obtain ⟨ba', hread, h'⟩ := Reads.readFuint8 h
    refine ⟨fun hend => hend.1.elim, fun _ => ⟨ba', ?_, h'⟩⟩
    show ba.readFuint8 = _
    exact hread
  | fint16 =>
    obtain ⟨ba', hread, h'⟩ := Reads.readFuint16 (v := v.toUInt16) h
    refine ⟨fun hend => hend.1.elim, fun _ => ⟨ba', ?_, h'⟩⟩
    show ba.readFint16 = _
    rw [ByteArray.readFint16_eq, hread]
    rfl
  | fuint16 =>
    obtain ⟨ba', hread, h'⟩ := Reads.readFuint16 h
    refine ⟨fun hend => hend.1.elim, fun _ => ⟨ba', ?_, h'⟩⟩
    show ba.readFuint16 = _
    exact hread
  | fint32 =>
    obtain ⟨ba', hread, h'⟩ := Reads.readFuint32 (v := v.toUInt32) h
    refine ⟨fun hend => hend.1.elim, fun _ => ⟨ba', ?_, h'⟩⟩
    show ba.readFint32 = _
    rw [ByteArray.readFint32_eq, hread]
    rfl
  | fuint32 =>
    obtain ⟨ba', hread, h'⟩ := Reads.readFuint32 h
    refine ⟨fun hend => hend.1.elim, fun _ => ⟨ba', ?_, h'⟩⟩
    show ba.readFuint32 = _
    exact hread
  | fint64 =>
    obtain ⟨ba', hread, h'⟩ := Reads.readFuint64 (v := v.toUInt64) h
    refine ⟨fun hend => hend.1.elim, fun _ => ⟨ba', ?_, h'⟩⟩
    show ba.readFint64 = _
    rw [ByteArray.readFint64_eq, hread]
    rfl
  | fuint64 =>
    obtain ⟨ba', hread, h'⟩ := Reads.readFuint64 h
    refine ⟨fun hend => hend.1.elim, fun _ => ⟨ba', ?_, h'⟩⟩
    show ba.readFuint64 = _
    exact hread
  | int32 =>
    obtain ⟨ba', hread, h'⟩ := Reads.readUint32 h
    refine ⟨fun hend => hend.1.elim, fun _ => ⟨ba', ?_, h'⟩⟩
    show ba.readInt32 = _
    unfold ByteArray.readInt32
    rw [hread]
    show Except.ok (ba', DecodeZigzag32 (EncodeZigzag32 v)) = _
    rw [DecodeZigzag32_EncodeZigzag32]
  | uint32 =>
    obtain ⟨ba', hread, h'⟩ := Reads.readUint32 h
    refine ⟨fun hend => hend.1.elim, fun _ => ⟨ba', ?_, h'⟩⟩
    show ba.readUint32 = _
    exact hread
  | int64 =>
    obtain ⟨ba', hread, h'⟩ := Reads.readUint64 h
    refine ⟨fun hend => hend.1.elim, fun _ => ⟨ba', ?_, h'⟩⟩
    show ba.readInt64 = _
    unfold ByteArray.readInt64
    rw [hread]
    show Except.ok (ba', DecodeZigzag64 (EncodeZigzag64 v)) = _
    rw [DecodeZigzag64_EncodeZigzag64]
  | uint64 =>
    obtain ⟨ba', hread, h'⟩ := Reads.readUint64 h
    refine ⟨fun hend => hend.1.elim, fun _ => ⟨ba', ?_, h'⟩⟩
    show ba.readUint64 = _
    exact hread
  | float =>
    obtain ⟨ba', hread, h'⟩ := Reads.readFuint32 h
    refine ⟨fun hend => hend.1.elim, fun _ => ⟨ba', ?_, h'⟩⟩
    show ba.readFloat = _
    exact hread
  | double =>
    obtain ⟨ba', hread, h'⟩ := Reads.readFuint64 h
    refine ⟨fun hend => hend.1.elim, fun _ => ⟨ba', ?_, h'⟩⟩
    show ba.readDouble = _
    exact hread
  | stringF16 =>
    obtain ⟨ba₁, hread, h₁⟩ := Reads.readFuint16 h
    have hlen : v.length.toUInt16.toNat = v.length := by
      rw [UInt16.toNat_ofNat']
      exact Nat.mod_eq_of_lt hvalid
    have hrest : Value.read ba .stringF16 = ba₁.read v.length := by
      show ba.readStringF16 = _
      unfold ByteArray.readStringF16
      rw [hread]
      show ba₁.read _ = _
      rw [hlen]
    rw [hrest]
    exact h₁.string
  | stringF32 =>
    obtain ⟨ba₁, hread, h₁⟩ := Reads.readFuint32 h
    have hlen : v.length.toUInt32.toNat = v.length := by
      rw [UInt32.toNat_ofNat']
      exact Nat.mod_eq_of_lt (Nat.not_le.mp hshort)
    have hrest : Value.read ba .stringF32 = ba₁.read v.length := by
      show ba.readStringF32 = _
      unfold ByteArray.readStringF32
      rw [hread]
      show ba₁.read _ = _
      rw [hlen]
    rw [hrest]
    exact h₁.string
  | stringF64 =>
    obtain ⟨ba₁, hread, h₁⟩ := Reads.readFuint64 h
    have hlen : v.length.toUInt64.toNat = v.length := by
      rw [UInt64.toNat_ofNat']
      exact Nat.mod_eq_of_lt hvalid
    have hrest : Value.read ba .stringF64 = ba₁.read v.length := by
      show ba.readStringF64 = _
      unfold ByteArray.readStringF64
      rw [hread]
      show ba₁.read _ = _
      rw [hlen]
    rw [hrest]
    exact h₁.string
  | stringVint =>
    obtain ⟨ba₁, hread, h₁⟩ := Reads.readUint64 h
    have hlen : v.length.toUInt64.toNat = v.length := by
      rw [UInt64.toNat_ofNat']
      exact Nat.mod_eq_of_lt hvalid
    have hrest : Value.read ba .stringVint = ba₁.read v.length := by
      show ba.readStringVint = _
      unfold ByteArray.readStringVint
      rw [hread]
      show ba₁.read _ = _
      rw [hlen]
    rw [hrest]
    exact h₁.string

/-! ## Section 5: Lists of values -/

theorem readAll_spec (vs : List Value) :
    ∀ {ba : ByteArray} {tail : Buffer}, (∀ v ∈ vs, v.Valid ∧ ¬ v.TooLong) →
      Reads endian size capacity ba (bytesAll endian vs ++ tail) →
      (tail = [] → size = capacity → ∀ v, vs.getLast? = some v → ¬ v.EmptyString) →
      ∃ ba', readAll (vs.map Sigma.fst) ba = .ok (ba', vs) ∧
        Reads endian size capacity ba' tail := by
  induction vs with
  | nil =>
    intro ba tail _ h _
    exact ⟨ba, rfl, h⟩
  | cons v vs ih =>
    intro ba tail hvalid h hlast
    rw [bytesAll_cons, List.append_assoc] at h
    obtain ⟨hv, hshort⟩ := hvalid v List.mem_cons_self
    -- only the last value can have nothing behind it
    have hroom : ¬ (v.EmptyString ∧ bytesAll endian vs ++ tail = [] ∧ size = capacity) := by
      rintro ⟨hempty, hnil, hfull⟩
      obtain ⟨hvs, htail⟩ := List.append_eq_nil_iff.mp hnil
      cases vs with
      | nil => exact hlast htail hfull v rfl hempty
      | cons w ws =>
        rw [bytesAll_cons] at hvs
        exact w.bytes_ne_nil endian (List.append_eq_nil_iff.mp hvs).1
    obtain ⟨ba₁, hread, h₁⟩ := (h.value hv hshort).2 hroom
    obtain ⟨ba', hrest, h'⟩ := ih (fun w hw => hvalid w (List.mem_cons_of_mem _ hw)) h₁ (by
      intro htail hfull w hw
      refine hlast htail hfull w ?_
      rw [List.getLast?_cons, hw]
      rfl)
    refine ⟨ba', ?_, h'⟩
    rw [List.map_cons, readAll, hread]
    show (readAll (vs.map Sigma.fst) ba₁).map _ = _
    rw [hrest]
    rfl

theorem readAll_append (ks' : List Kind) (ks : List Kind) :
    ∀ ba, readAll (ks ++ ks') ba = (readAll ks ba).bind fun r =>
      (readAll ks' r.1).map fun rs => (rs.1, r.2 ++ rs.2) := by
  induction ks with
  | nil =>
    intro ba
    show readAll ks' ba = (readAll ks' ba).map _
    cases readAll ks' ba <;> rfl
  | cons k ks ih =>
    intro ba
    rw [List.cons_append, readAll, readAll]
    cases read ba k with
    | error e => rfl
    | ok r =>
      show (readAll (ks ++ ks') r.1).map _ = ((readAll ks r.1).map _).bind _
      rw [ih]
      cases readAll ks r.1 with
      | error e => rfl
      | ok rs =>
        show ((readAll ks' rs.1).map _).map _ = (readAll ks' rs.1).map _
        cases readAll ks' rs.1 <;> rfl

/-- An empty string at the end of the last node. -/
theorem readAll_fault {vs : List Value} {v : Value} (hvalid : ∀ w ∈ vs ++ [v], w.Valid ∧ ¬ w.TooLong)
    (h : Reads endian size capacity ba (bytesAll endian (vs ++ [v]))) (hempty : v.EmptyString)
    (hfull : size = capacity) :
    readAll ((vs ++ [v]).map Sigma.fst) ba = .error .null_deref := by
  have hv := hvalid v (List.mem_append_right _ List.mem_cons_self)
  rw [bytesAll_append] at h
  have hlast : bytesAll endian [v] = v.bytes endian ++ [] := rfl
  rw [hlast, List.append_nil] at h
  obtain ⟨ba₁, hread, h₁⟩ := readAll_spec vs (fun w hw => hvalid w (List.mem_append_left _ hw)) h
    fun hnil => absurd hnil (v.bytes_ne_nil endian)
  have h₂ : Reads endian size capacity ba₁ (v.bytes endian ++ []) := by
    rw [List.append_nil]
    exact h₁
  have hfault := (h₂.value hv.1 hv.2).1 ⟨hempty, rfl, hfull⟩
  rw [List.map_append, readAll_append, hread]
  show (readAll [v.1] ba₁).map _ = _
  rw [readAll, hfault]
  rfl

/-- `read` returns at most what it was asked for. -/
theorem readNodes_length_le (nodes : List Buffer) :
    ∀ {npos n : Nat} {bytes : Buffer} {k : Nat},
      ByteArray.readNodes nodes npos n = .ok (bytes, k) → bytes.length ≤ n := by
  induction nodes with
  | nil =>
    intro npos n bytes k h
    cases h
  | cons node rest ih =>
    intro npos n bytes k h
    simp only [ByteArray.readNodes] at h
    split at h
    · obtain ⟨rfl, _⟩ := Prod.mk.inj (Except.ok.inj h)
      exact Nat.zero_le _
    · split at h
      · obtain ⟨rfl, _⟩ := Prod.mk.inj (Except.ok.inj h)
        exact List.length_take_le _ _
      · rename_i hmore
        split at h
        · cases h
        · rename_i rest' k' hrest
          obtain ⟨rfl, _⟩ := Prod.mk.inj (Except.ok.inj h)
          have := ih hrest
          rw [List.length_append, List.length_drop]
          omega

theorem read_length_le {ba ba' : ByteArray} {n : Nat} {bytes : Buffer}
    (h : ba.read n = .ok (ba', bytes)) : bytes.length ≤ n := by
  unfold ByteArray.read at h
  split at h
  · cases h
  · split at h
    · cases h
    · split at h
      · cases h
      · rename_i hread
        obtain ⟨_, rfl⟩ := Prod.mk.inj (Except.ok.inj h)
        exact readNodes_length_le _ hread

/-- No reader returns a string that its own length prefix has no room for. -/
theorem read_not_tooLong {ba ba' : ByteArray} {k : Kind} {v : k.Carrier}
    (h : read ba k = .ok (ba', v)) : ¬ TooLong ⟨k, v⟩ := by
  cases k with
  | stringF32 =>
    change ba.readStringF32 = .ok (ba', v) at h
    unfold ByteArray.readStringF32 at h
    cases hlen : ba.readFuint32 with
    | error e =>
      rw [hlen] at h
      cases h
    | ok r =>
      rw [hlen] at h
      have hle := read_length_le (show r.1.read r.2.toNat = .ok (ba', v) from h)
      have hlt := r.2.toNat_lt
      exact Nat.not_le.mpr (Nat.lt_of_le_of_lt hle hlt)
  | _ => exact not_false

theorem readAll_not_tooLong (ks : List Kind) :
    ∀ {ba ba' : ByteArray} {vs : List Value}, readAll ks ba = .ok (ba', vs) →
      ∀ v ∈ vs, ¬ v.TooLong := by
  induction ks with
  | nil =>
    intro ba ba' vs h v hv
    obtain ⟨_, rfl⟩ := Prod.mk.inj (Except.ok.inj h)
    cases hv
  | cons k ks ih =>
    intro ba ba' vs h
    rw [readAll] at h
    cases hread : read ba k with
    | error e =>
      rw [hread] at h
      cases h
    | ok r =>
      rw [hread] at h
      change (readAll ks r.1).map _ = _ at h
      cases hrest : readAll ks r.1 with
      | error e =>
        rw [hrest] at h
        cases h
      | ok rs =>
        rw [hrest] at h
        obtain ⟨_, rfl⟩ := Prod.mk.inj (Except.ok.inj h)
        intro v hv
        rcases List.mem_cons.mp hv with rfl | hv
        · exact read_not_tooLong hread
        · exact ih hrest v hv

/-! ## Section 6: The round trip -/

/-- The nodes are full exactly when the bytes are a multiple of their size. -/
theorem Holds.full_iff {base_size : Nat} {bytes : Buffer} (h : Holds base_size endian ba bytes)
    (hne : bytes ≠ []) : bytes.length = ba.capacity ↔ base_size ∣ bytes.length := by
  have hwf := h.wellFormed
  have hbase := hwf.base
  have hcap := hwf.capacity
  have hlen := hwf.content_length
  have hsize := hwf.size
  have htight := h.tight
  have hpos := List.length_pos_iff.mpr hne
  rw [h.baseSize] at hbase hcap
  rw [h.content] at hlen
  constructor
  · intro heq
    rw [heq, hcap]
    exact Nat.dvd_mul_left _ _
  · rintro ⟨m, hm⟩
    rw [Nat.mul_comm] at hm
    have hmle : m ≤ ba.root.length := by
      refine Nat.le_of_mul_le_mul_right ?_ hbase
      omega
    have hmge : ba.root.length < m + 1 := by
      refine Nat.lt_of_mul_lt_mul_right (a := base_size) ?_
      rw [Nat.add_mul, Nat.one_mul]
      omega
    rw [hm, hcap, show m = ba.root.length by omega]

/-- Going back to the start. -/
theorem Holds.setPosition_zero {base_size : Nat} {bytes : Buffer}
    (h : Holds base_size endian ba bytes) :
    ∃ ba', ba.setPosition 0 = .ok ba' ∧ Reads endian bytes.length ba.capacity ba' bytes := by
  obtain ⟨ba', hset, h', _, hendian, hposition, hsize, hcap, hroot⟩ :=
    ByteArray.setPosition_spec h.wellFormed (Nat.zero_le _)
  have hlen := h.wellFormed.content_length
  rw [h.content] at hlen
  rw [Nat.max_eq_left (Nat.zero_le _)] at hsize
  refine ⟨ba', hset, h', hendian.trans h.endian, hsize.trans hlen.symm, hcap, ?_⟩
  rw [hposition, List.drop_zero, ← h.content]
  unfold ByteArray.content
  rw [hroot, hsize]

end Value

open Value

/-- Written and read back, a list of values is the same exactly when no string
    is too long for its length prefix and no empty string ends the list where
    the last node ends. -/
theorem roundTrip_iff (memory : Nat → Nat → UInt8) {base_size : Nat} (hbase : 1 ≤ base_size)
    (little : Bool) {vs : List Value} (hvalid : ∀ v ∈ vs, v.Valid) :
    (∃ ba, roundTrip memory base_size little vs = .ok (ba, vs) ∧ ba.getReadSize = 0) ↔
      (∀ v ∈ vs, ¬ v.TooLong) ∧
        ∀ v, vs.getLast? = some v → v.EmptyString →
          ¬ base_size ∣ (bytesAll (if little then .little else .big) vs).length := by
  obtain ⟨ba, hwrite, hholds⟩ := writeAll_spec memory vs (Holds.new memory hbase little)
  obtain ⟨ba₀, hset, hreads⟩ := hholds.setPosition_zero
  rw [List.nil_append] at hholds hreads
  have htrip : roundTrip memory base_size little vs = readAll (vs.map Sigma.fst) ba₀ := by
    unfold roundTrip
    rw [hwrite]
    show (ba.setPosition 0).bind _ = _
    rw [hset]
    rfl
  rw [htrip]
  constructor
  · rintro ⟨ba', hread, _⟩
    have hshort := readAll_not_tooLong _ hread
    refine ⟨hshort, fun v hv hempty hdvd => ?_⟩
    have hne := bytesAll_ne_nil (if little then .little else .big) (List.mem_of_getLast? hv)
    obtain ⟨init, rfl⟩ := List.getLast?_eq_some_iff.mp hv
    have hfault := readAll_fault (fun w hw => ⟨hvalid w hw, hshort w hw⟩) hreads hempty
      ((hholds.full_iff hne).mpr hdvd)
    rw [hfault] at hread
    cases hread
  · rintro ⟨hshort, hlast⟩
    obtain ⟨ba', hread, h'⟩ := readAll_spec vs (fun w hw => ⟨hvalid w hw, hshort w hw⟩)
      (by rw [List.append_nil]; exact hreads) (by
        intro _ hfull v hv hempty
        have hne := bytesAll_ne_nil (if little then .little else .big) (List.mem_of_getLast? hv)
        exact hlast v hv hempty ((hholds.full_iff hne).mp hfull))
    exact ⟨ba', hread, h'.getReadSize⟩

/-- Blocks of three bytes; the empty string is not the last value. -/
theorem roundTrip_iff_mixed :
    let vs : List Value := [⟨.int32, -1⟩, ⟨.stringVint, []⟩, ⟨.fuint16, 300⟩, ⟨.stringF16, [104, 105]⟩]
    ∃ ba, roundTrip (fun _ _ => 0) 3 false vs = .ok (ba, vs) ∧ ba.getReadSize = 0 := by
  intro vs
  have hvalid : ∀ v ∈ vs, v.Valid := by
    simp [vs, Valid]
  refine (roundTrip_iff (fun _ _ => 0) (show 1 ≤ 3 by decide) false hvalid).mpr ⟨?_, ?_⟩
  · simp [vs, TooLong]
  · simp [vs, EmptyString]

/-- The two bytes of the length fill the only node. -/
theorem roundTrip_empty_at_end :
    roundTrip (fun _ _ => 0) 2 false [⟨.stringF16, []⟩] = .error .null_deref := by
  rfl

end MNSER
