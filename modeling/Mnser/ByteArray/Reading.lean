import Mnser.ByteArray.RoundTrip

/-! # Typed reads of arbitrary bytes

    What a reader makes of the bytes from the cursor on, whatever they are.  A
    decoder for the flat bytes says what is encoded there, if anything is; the
    readers return that, and do not survive when nothing is. -/

namespace MNSER

/-! ## Section 1: Decoders -/

namespace Kind

/-- An integer of `n` bytes, and how many bytes were used. -/
def decodeFixed (endian : Endian) (n : Nat) (bytes : Buffer) : Option (Nat × Nat) :=
  if n ≤ bytes.length then
    some (if endian = MS_BYTE_ORDER then ofLittleBytes (bytes.take n)
      else byteswap n (ofLittleBytes (bytes.take n)), n)
  else none

/-- The groups of seven bits, at most `n` more of them. -/
def decodeVarint (w : Nat) : Nat → Nat → Nat → Buffer → Option (Nat × Nat)
  | 0, _, result, _ => some (result, 0)
  | _ + 1, _, _, [] => none
  | n + 1, i, result, b :: bytes =>
    if b < 0x80 then some (result ||| (b.toNat <<< i) % 2 ^ w, 1)
    else
      (decodeVarint w n (i + 7) (result ||| ((b &&& 0x7f).toNat <<< i) % 2 ^ w) bytes).map
        fun r => (r.1, r.2 + 1)

/-- A string behind its length. -/
def decodeString (bytes : Buffer) (length : Option (Nat × Nat)) : Option (Buffer × Nat) :=
  length.bind fun r =>
    if r.2 + r.1 ≤ bytes.length then some ((bytes.drop r.2).take r.1, r.2 + r.1) else none

def decode (endian : Endian) (bytes : Buffer) : (k : Kind) → Option (k.Carrier × Nat)
  | .fint8      => (decodeFixed MS_BYTE_ORDER 1 bytes).map fun r => (r.1.toUInt8.toInt8, r.2)
  | .fuint8     => (decodeFixed MS_BYTE_ORDER 1 bytes).map fun r => (r.1.toUInt8, r.2)
  | .fint16     => (decodeFixed endian 2 bytes).map fun r => (r.1.toUInt16.toInt16, r.2)
  | .fuint16    => (decodeFixed endian 2 bytes).map fun r => (r.1.toUInt16, r.2)
  | .fint32     => (decodeFixed endian 4 bytes).map fun r => (r.1.toUInt32.toInt32, r.2)
  | .fuint32    => (decodeFixed endian 4 bytes).map fun r => (r.1.toUInt32, r.2)
  | .fint64     => (decodeFixed endian 8 bytes).map fun r => (r.1.toUInt64.toInt64, r.2)
  | .fuint64    => (decodeFixed endian 8 bytes).map fun r => (r.1.toUInt64, r.2)
  | .int32      =>
    ((decodeVarint 32 5 0 0 bytes).map fun r => (r.1.toUInt32, r.2)).map
      fun r => (DecodeZigzag32 r.1, r.2)
  | .uint32     => (decodeVarint 32 5 0 0 bytes).map fun r => (r.1.toUInt32, r.2)
  | .int64      =>
    ((decodeVarint 64 10 0 0 bytes).map fun r => (r.1.toUInt64, r.2)).map
      fun r => (DecodeZigzag64 r.1, r.2)
  | .uint64     => (decodeVarint 64 10 0 0 bytes).map fun r => (r.1.toUInt64, r.2)
  | .float      => (decodeFixed endian 4 bytes).map fun r => (r.1.toUInt32, r.2)
  | .double     => (decodeFixed endian 8 bytes).map fun r => (r.1.toUInt64, r.2)
  | .stringF16  =>
    decodeString bytes (((decodeFixed endian 2 bytes).map fun r => (r.1.toUInt16, r.2)).map
      fun r => (r.1.toNat, r.2))
  | .stringF32  =>
    decodeString bytes (((decodeFixed endian 4 bytes).map fun r => (r.1.toUInt32, r.2)).map
      fun r => (r.1.toNat, r.2))
  | .stringF64  =>
    decodeString bytes (((decodeFixed endian 8 bytes).map fun r => (r.1.toUInt64, r.2)).map
      fun r => (r.1.toNat, r.2))
  | .stringVint =>
    decodeString bytes (((decodeVarint 64 10 0 0 bytes).map fun r => (r.1.toUInt64, r.2)).map
      fun r => (r.1.toNat, r.2))

/-- The string, for the kinds that are read into one. -/
def string? : (k : Kind) → k.Carrier → Option Buffer
  | .stringF16, s  => some s
  | .stringF32, s  => some s
  | .stringF64, s  => some s
  | .stringVint, s => some s
  | _, _           => none

end Kind

/-! ## Section 2: How a read ends -/

inductive ReadException where
  | out_of_range
  | bad_alloc
  deriving DecidableEq, Repr

inductive ReadResult (α : Type) where
  | returned (v : α) (ba : ByteArray)
  | threw (what : ReadException) (ba : ByteArray)
  | aborted (fault : MemoryFault)
  deriving DecidableEq

/-- A failed assertion and a null pointer end the process. -/
def ReadResult.of {α : Type} : Except MemoryFault (ByteArray × α) → ReadResult α
  | .ok (ba, v) => .returned v ba
  | .error e    => .aborted e

namespace ByteArray

/-- The string readers.  `resize len` says whether the string can be made that
    long; the length has been read by then. -/
def readString (resize : Nat → Bool) (length : Except MemoryFault (ByteArray × Nat)) :
    ReadResult Buffer :=
  match length with
  | .error e => .aborted e
  | .ok (ba, len) => if resize len then .of (ba.read len) else .threw .bad_alloc ba

/-- The reader of a kind. -/
def typedRead (resize : Nat → Bool) (ba : ByteArray) : (k : Kind) → ReadResult k.Carrier
  | .stringF16  => readString resize (ba.readFuint16.map fun r => (r.1, r.2.toNat))
  | .stringF32  => readString resize (ba.readFuint32.map fun r => (r.1, r.2.toNat))
  | .stringF64  => readString resize (ba.readFuint64.map fun r => (r.1, r.2.toNat))
  | .stringVint => readString resize (ba.readUint64.map fun r => (r.1, r.2.toNat))
  | k           => .of (Value.read ba k)

/-- The cursor is `n` bytes further, and nothing else has changed. -/
structure Advanced (ba ba' : ByteArray) (n : Nat) : Prop where
  array      : ba' = { ba with position := ba.position + n, cur := ba'.cur }
  wellFormed : ba'.WellFormed

/-- The bytes from the cursor on. -/
def rest (ba : ByteArray) : Buffer := ba.content.drop ba.position

/-- A value that is encoded there, with the cursor behind it, or
    `std::out_of_range` and nothing changed. -/
def ReadSound (ba : ByteArray) (k : Kind) : ReadResult k.Carrier → Prop
  | .returned v ba'           => ∃ n, k.decode ba.endian ba.rest = some (v, n) ∧ ba.Advanced ba' n
  | .threw .out_of_range ba'  => ba' = ba
  | .threw .bad_alloc _       => False
  | .aborted _                => False

/-- A whole value is encoded there; a string can be allocated, and is not an
    empty one whose length ends where the last node does. -/
def Readable (resize : Nat → Bool) (ba : ByteArray) (k : Kind) : Prop :=
  ∃ v n, k.decode ba.endian ba.rest = some (v, n) ∧
    ∀ s, k.string? v = some s →
      resize s.length = true ∧ ¬ (s = [] ∧ ba.position + n = ba.capacity)

/-! ## Section 3: Readers and decoders -/

variable {ba : ByteArray} {α β : Type}

theorem Advanced.refl (h : ba.WellFormed) : ba.Advanced ba 0 := ⟨rfl, h⟩

theorem Advanced.trans {ba₁ ba₂ : ByteArray} {m n : Nat} (h₁ : ba.Advanced ba₁ m)
    (h₂ : ba₁.Advanced ba₂ n) : ba.Advanced ba₂ (m + n) := by
  refine ⟨?_, h₂.wellFormed⟩
  rw [h₂.array, h₁.array]
  simp only [Nat.add_assoc]

theorem Advanced.rest {ba' : ByteArray} {n : Nat} (h : ba.Advanced ba' n) :
    ba'.rest = ba.rest.drop n := by
  unfold ByteArray.rest ByteArray.content
  rw [h.array, List.drop_drop]

theorem rest_length (h : ba.WellFormed) : ba.rest.length = ba.getReadSize := by
  unfold rest getReadSize
  rw [List.length_drop, h.content_length]

/-- A reader returns what is encoded, or fails the assertion. -/
def Follows (ba : ByteArray) (outcome : Except MemoryFault (ByteArray × α))
    (decoded : Option (α × Nat)) : Prop :=
  match decoded with
  | some (v, n) => ∃ ba', outcome = .ok (ba', v) ∧ ba.Advanced ba' n
  | none => outcome = .error .assert

theorem Follows.map {outcome : Except MemoryFault (ByteArray × α)} {decoded : Option (α × Nat)}
    (h : ba.Follows outcome decoded) (f : α → β) :
    ba.Follows (outcome.map fun r => (r.1, f r.2)) (decoded.map fun r => (f r.1, r.2)) := by
  cases decoded with
  | none =>
    have herror : outcome = .error .assert := h
    rw [herror]
    exact rfl
  | some r =>
    obtain ⟨ba', hok, hadvanced⟩ := h
    rw [hok]
    exact ⟨ba', rfl, hadvanced⟩

theorem read_array {ba' : ByteArray} {n : Nat} {bytes : Buffer}
    (h : ba.read n = .ok (ba', bytes)) :
    ba' = { ba with position := ba.position + n, cur := ba'.cur } := by
  unfold read at h
  split at h
  · cases h
  · split at h
    · cases h
    · split at h
      · cases h
      · obtain ⟨rfl, _⟩ := Prod.mk.inj (Except.ok.inj h)
        rfl

theorem read_follows (h : ba.WellFormed) {n : Nat} (hn : 1 ≤ n) :
    ba.Follows (ba.read n) (if n ≤ ba.rest.length then some (ba.rest.take n, n) else none) := by
  rw [rest_length h]
  by_cases hle : n ≤ ba.getReadSize
  · rw [if_pos hle]
    obtain ⟨ba', hread, h', _⟩ := read_spec h hn hle
    exact ⟨ba', hread, read_array hread, h'⟩
  · rw [if_neg hle]
    exact if_pos (Nat.lt_of_not_le hle)

theorem readFixed_follows (h : ba.WellFormed) {n : Nat} (hn : 1 ≤ n) :
    ba.Follows (ba.readFixed n) (Kind.decodeFixed ba.endian n ba.rest) := by
  have hread := read_follows h hn
  unfold readFixed Kind.decodeFixed
  split at hread
  · rename_i hle
    obtain ⟨ba', hok, hadvanced⟩ := hread
    have hendian : ba'.endian = ba.endian := by
      rw [hadvanced.array]
    rw [hok, if_pos hle]
    refine ⟨ba', ?_, hadvanced⟩
    simp only [Except.map, hendian]
  · rename_i hshort
    have herror : ba.read n = .error .assert := hread
    rw [herror, if_neg hshort]
    exact rfl

theorem readByte_follows (h : ba.WellFormed) (f : Nat → α) :
    ba.Follows ((ba.read 1).map fun r => (r.1, f (ofLittleBytes r.2)))
      ((Kind.decodeFixed MS_BYTE_ORDER 1 ba.rest).map fun r => (f r.1, r.2)) := by
  have hread := (read_follows h (Nat.le_refl 1)).map fun bytes => f (ofLittleBytes bytes)
  unfold Kind.decodeFixed
  rw [if_pos rfl]
  split at hread
  · rename_i hle
    rw [if_pos hle]
    exact hread
  · rename_i hshort
    rw [if_neg hshort]
    exact hread

/-- The loop: one byte, and the same with the bytes behind it. -/
theorem readVarint_follows (w n : Nat) :
    ∀ {ba : ByteArray} (i result : Nat), ba.WellFormed →
      ba.Follows (readVarint w n i result ba) (Kind.decodeVarint w n i result ba.rest) := by
  induction n with
  | zero =>
    intro ba i result h
    exact ⟨ba, rfl, Advanced.refl h⟩
  | succ n ih =>
    intro ba i result h
    have hbyte := readByte_follows h fun v => v.toUInt8
    unfold Kind.decodeFixed at hbyte
    rw [if_pos rfl] at hbyte
    simp only [readVarint]
    cases hrest : ba.rest with
    | nil =>
      rw [hrest] at hbyte
      have herror : ba.readFuint8 = .error .assert := hbyte
      rw [herror]
      exact rfl
    | cons b bytes =>
      rw [hrest, if_pos (by simp)] at hbyte
      obtain ⟨ba₁, hok, h₁⟩ := hbyte
      have hread : ba.readFuint8 = .ok (ba₁, b) := by
        unfold readFuint8
        rw [hok]
        simp [ofLittleBytes]
      have hrest₁ : ba₁.rest = bytes := by
        rw [h₁.rest, hrest]
        rfl
      rw [hread]
      simp only [Except.bind, Kind.decodeVarint]
      -- the top bit says whether another byte follows
      by_cases hlast : b < 0x80
      · rw [if_pos hlast, if_pos hlast]
        exact ⟨ba₁, rfl, h₁⟩
      · rw [if_neg hlast, if_neg hlast]
        have hmore := ih (i + 7) (result ||| ((b &&& 0x7f).toNat <<< i) % 2 ^ w) h₁.wellFormed
        rw [hrest₁] at hmore
        cases hdecoded : Kind.decodeVarint w n (i + 7)
            (result ||| ((b &&& 0x7f).toNat <<< i) % 2 ^ w) bytes with
        | none =>
          rw [hdecoded] at hmore
          exact hmore
        | some r =>
          rw [hdecoded] at hmore
          obtain ⟨ba₂, hok₂, h₂⟩ := hmore
          refine ⟨ba₂, hok₂, ?_⟩
          rw [Nat.add_comm]
          exact h₁.trans h₂

theorem readUint64_follows (h : ba.WellFormed) :
    ba.Follows ba.readUint64 (Kind.decode ba.endian ba.rest .uint64) :=
  (readVarint_follows 64 10 0 0 h).map fun v => v.toUInt64

/-- The readers that do not read into a string. -/
theorem value_follows (h : ba.WellFormed) {k : Kind} (hk : ∀ v, k.string? v = none) :
    ba.Follows (Value.read ba k) (k.decode ba.endian ba.rest) := by
  cases k with
  | fint8 => exact readByte_follows h fun v => v.toUInt8.toInt8
  | fuint8 => exact readByte_follows h fun v => v.toUInt8
  | fint16 => exact (readFixed_follows h (by decide)).map fun v => v.toUInt16.toInt16
  | fuint16 => exact (readFixed_follows h (by decide)).map fun v => v.toUInt16
  | fint32 => exact (readFixed_follows h (by decide)).map fun v => v.toUInt32.toInt32
  | fuint32 => exact (readFixed_follows h (by decide)).map fun v => v.toUInt32
  | fint64 => exact (readFixed_follows h (by decide)).map fun v => v.toUInt64.toInt64
  | fuint64 => exact (readFixed_follows h (by decide)).map fun v => v.toUInt64
  | int32 =>
    exact ((readVarint_follows 32 5 0 0 h).map fun v => v.toUInt32).map DecodeZigzag32
  | uint32 => exact (readVarint_follows 32 5 0 0 h).map fun v => v.toUInt32
  | int64 => exact (readUint64_follows h).map DecodeZigzag64
  | uint64 => exact readUint64_follows h
  | float => exact (readFixed_follows h (by decide)).map fun v => v.toUInt32
  | double => exact (readFixed_follows h (by decide)).map fun v => v.toUInt64
  | stringF16 => exact absurd (hk []) (Option.some_ne_none _)
  | stringF32 => exact absurd (hk []) (Option.some_ne_none _)
  | stringF64 => exact absurd (hk []) (Option.some_ne_none _)
  | stringVint => exact absurd (hk []) (Option.some_ne_none _)

/-! ## Section 4: The results -/

/-- Returned with what is encoded, or anything else. -/
def Returns (ba : ByteArray) (result : ReadResult α) (decoded : Option (α × Nat)) : Prop :=
  (∃ v n ba', result = .returned v ba' ∧ decoded = some (v, n) ∧ ba.Advanced ba' n) ∨
    (∃ e, result = .aborted e) ∨ ∃ ba', result = .threw .bad_alloc ba'

theorem Follows.returns {outcome : Except MemoryFault (ByteArray × α)}
    {decoded : Option (α × Nat)} (h : ba.Follows outcome decoded) :
    ba.Returns (.of outcome) decoded ∧
      ((∃ v n, decoded = some (v, n)) ↔ ∃ v ba', ReadResult.of outcome = .returned v ba') := by
  cases decoded with
  | none =>
    have herror : outcome = .error .assert := h
    rw [herror]
    refine ⟨Or.inr (Or.inl ⟨_, rfl⟩), ?_⟩
    constructor
    · rintro ⟨v, n, hsome⟩
      cases hsome
    · rintro ⟨v, ba', hreturned⟩
      cases hreturned
  | some r =>
    obtain ⟨ba', hok, hadvanced⟩ := h
    rw [hok]
    exact ⟨Or.inl ⟨r.1, r.2, ba', rfl, rfl, hadvanced⟩,
      fun _ => ⟨_, _, rfl⟩, fun _ => ⟨r.1, r.2, rfl⟩⟩

/-- A string behind its length: what is read there, and when it is. -/
theorem readString_returns (h : ba.WellFormed) (resize : Nat → Bool)
    {length : Except MemoryFault (ByteArray × Nat)} {decoded : Option (Nat × Nat)}
    (hlength : ba.Follows length decoded) :
    ba.Returns (readString resize length) (Kind.decodeString ba.rest decoded) ∧
      ((∃ s n, Kind.decodeString ba.rest decoded = some (s, n) ∧ resize s.length = true ∧
          ¬ (s = [] ∧ ba.position + n = ba.capacity)) ↔
        ∃ s ba', readString resize length = .returned s ba') := by
  cases decoded with
  | none =>
    have herror : length = .error .assert := hlength
    rw [herror]
    refine ⟨Or.inr (Or.inl ⟨_, rfl⟩), ?_⟩
    constructor
    · rintro ⟨s, n, hsome, _⟩
      cases hsome
    · rintro ⟨s, ba', hreturned⟩
      cases hreturned
  | some r =>
    obtain ⟨len, n⟩ := r
    obtain ⟨ba₁, hok, h₁⟩ := hlength
    have hrest : ba₁.rest = ba.rest.drop n := h₁.rest
    have hposition : ba₁.position = ba.position + n := by
      rw [h₁.array]
    have hcapacity : ba₁.capacity = ba.capacity := by
      rw [h₁.array]
    have hdecoded : Kind.decodeString ba.rest (some (len, n)) =
        if n + len ≤ ba.rest.length then some ((ba.rest.drop n).take len, n + len) else none := rfl
    -- the length was read out of what is there
    have hused : n ≤ ba.rest.length := by
      have hle := h₁.wellFormed.position
      rw [hposition, show ba₁.size = ba.size by rw [h₁.array]] at hle
      rw [rest_length h]
      unfold getReadSize
      omega
    have hresult : readString resize length =
        if resize len then .of (ba₁.read len) else .threw .bad_alloc ba₁ := by
      rw [hok]
      rfl
    rw [hresult, hdecoded]
    by_cases hresize : resize len = true
    · rw [if_pos hresize]
      by_cases hzero : len = 0
      · -- nothing to read, but the current node is looked at
        subst hzero
        rw [if_pos (by omega), read_zero h₁.wellFormed, hposition, hcapacity, List.take_zero,
          Nat.add_zero]
        by_cases hend : ba.position + n = ba.capacity
        · rw [if_pos hend]
          refine ⟨Or.inr (Or.inl ⟨_, rfl⟩), ?_⟩
          constructor
          · rintro ⟨s, m, hsome, _, hnot⟩
            obtain ⟨rfl, rfl⟩ := Prod.mk.inj (Option.some.inj hsome)
            exact absurd ⟨rfl, hend⟩ hnot
          · rintro ⟨s, ba', hreturned⟩
            cases hreturned
        · rw [if_neg hend]
          refine ⟨Or.inl ⟨[], n, ba₁, rfl, rfl, h₁⟩, fun _ => ⟨_, _, rfl⟩, fun _ => ?_⟩
          exact ⟨[], n, rfl, hresize, fun hempty => hend hempty.2⟩
      · have hread := read_follows h₁.wellFormed (n := len) (by omega)
        rw [hrest, List.length_drop] at hread
        -- read asserts when the length promises more than is left
        by_cases hwhole : n + len ≤ ba.rest.length
        · rw [if_pos (by omega)] at hread
          obtain ⟨ba₂, hok₂, h₂⟩ := hread
          have hlen : ((ba.rest.drop n).take len).length = len := by
            rw [List.length_take, List.length_drop]
            omega
          rw [if_pos hwhole, hok₂]
          refine ⟨Or.inl ⟨_, n + len, ba₂, rfl, rfl, h₁.trans h₂⟩, fun _ => ⟨_, _, rfl⟩,
            fun _ => ⟨_, _, rfl, by rw [hlen]; exact hresize, fun hempty => ?_⟩⟩
          rw [hempty.1, List.length_nil] at hlen
          exact hzero hlen.symm
        · rw [if_neg (by omega)] at hread
          have herror : ba₁.read len = .error .assert := hread
          rw [if_neg hwhole, herror]
          refine ⟨Or.inr (Or.inl ⟨_, rfl⟩), ?_⟩
          constructor
          · rintro ⟨s, m, hsome, _⟩
            cases hsome
          · rintro ⟨s, ba', hreturned⟩
            cases hreturned
    · rw [if_neg hresize]
      -- resize throws before anything else is read
      refine ⟨Or.inr (Or.inr ⟨_, rfl⟩), ?_⟩
      constructor
      · rintro ⟨s, m, hsome, hallocated, _⟩
        split at hsome
        · obtain ⟨rfl, _⟩ := Prod.mk.inj (Option.some.inj hsome)
          rw [List.length_take, List.length_drop, Nat.min_eq_left (by omega)] at hallocated
          exact absurd hallocated hresize
        · cases hsome
      · rintro ⟨s, ba', hreturned⟩
        cases hreturned

theorem typedRead_returns (h : ba.WellFormed) (resize : Nat → Bool) (k : Kind) :
    ba.Returns (ba.typedRead resize k) (k.decode ba.endian ba.rest) ∧
      (ba.Readable resize k ↔ ∃ v ba', ba.typedRead resize k = .returned v ba') := by
  have hnumber : ∀ k : Kind, (∀ v, k.string? v = none) →
      ba.typedRead resize k = .of (Value.read ba k) →
      ba.Returns (ba.typedRead resize k) (k.decode ba.endian ba.rest) ∧
        (ba.Readable resize k ↔ ∃ v ba', ba.typedRead resize k = .returned v ba') := by
    intro k hk hread
    obtain ⟨hreturns, hiff⟩ := (value_follows h hk).returns
    rw [hread]
    refine ⟨hreturns, Iff.trans ?_ hiff⟩
    constructor
    · rintro ⟨v, n, hdecoded, _⟩
      exact ⟨v, n, hdecoded⟩
    · rintro ⟨v, n, hdecoded⟩
      refine ⟨v, n, hdecoded, fun s hs => ?_⟩
      rw [hk v] at hs
      cases hs
  -- the four string readers differ in how they read the length only
  have hstring : ∀ {length : Except MemoryFault (ByteArray × Nat)} {decoded : Option (Nat × Nat)},
      ba.Follows length decoded →
      ba.Returns (readString resize length) (Kind.decodeString ba.rest decoded) ∧
        ((∃ s n, Kind.decodeString ba.rest decoded = some (s, n) ∧
            ∀ s', some s = some s' →
              resize s'.length = true ∧ ¬ (s' = [] ∧ ba.position + n = ba.capacity)) ↔
          ∃ s ba', readString resize length = .returned s ba') := by
    intro length decoded hlength
    obtain ⟨hreturns, hiff⟩ := readString_returns h resize hlength
    refine ⟨hreturns, Iff.trans ?_ hiff⟩
    constructor
    · rintro ⟨s, n, hdecoded, hs⟩
      exact ⟨s, n, hdecoded, hs s rfl⟩
    · rintro ⟨s, n, hdecoded, hs⟩
      exact ⟨s, n, hdecoded, fun s' heq => Option.some.inj heq ▸ hs⟩
  cases k with
  | stringF16 =>
    exact hstring (((readFixed_follows h (show 1 ≤ 2 by decide)).map fun v => v.toUInt16).map
      fun v => v.toNat)
  | stringF32 =>
    exact hstring (((readFixed_follows h (show 1 ≤ 4 by decide)).map fun v => v.toUInt32).map
      fun v => v.toNat)
  | stringF64 =>
    exact hstring (((readFixed_follows h (show 1 ≤ 8 by decide)).map fun v => v.toUInt64).map
      fun v => v.toNat)
  | stringVint => exact hstring ((readUint64_follows h).map fun v => v.toNat)
  | _ => exact hnumber _ (fun _ => rfl) rfl

end ByteArray

/-- A typed read does what is promised exactly when a whole value is encoded
    from the cursor on: it never reports a short one. -/
theorem typedRead_sound_iff {ba : ByteArray} (h : ba.WellFormed) (resize : Nat → Bool) (k : Kind) :
    ba.ReadSound k (ba.typedRead resize k) ↔ ba.Readable resize k := by
  obtain ⟨hreturns, hiff⟩ := ba.typedRead_returns h resize k
  rw [hiff]
  rcases hreturns with ⟨v, n, ba', hresult, hdecoded, hadvanced⟩ | ⟨e, hresult⟩ | ⟨ba', hresult⟩
  · rw [hresult]
    exact ⟨fun _ => ⟨v, ba', rfl⟩, fun _ => ⟨n, hdecoded, hadvanced⟩⟩
  · rw [hresult]
    exact ⟨fun hsound => absurd hsound not_false, fun ⟨_, _, h'⟩ => by cases h'⟩
  · rw [hresult]
    exact ⟨fun hsound => absurd hsound not_false, fun ⟨_, _, h'⟩ => by cases h'⟩

/-- A string behind a length of one byte, with two bytes left. -/
theorem typedRead_sound_iff_string :
    let ba : ByteArray :=
      { baseSize := 4, position := 1, capacity := 8, endian := .big, size := 6
        root := [[9, 2, 104, 105], [7, 7, 0, 0]], cur := some 0, created := 2 }
    ba.ReadSound .stringVint (ba.typedRead (fun _ => true) .stringVint) := by
  intro ba
  have h : ba.WellFormed :=
    { base     := by decide
      blocks   := by unfold Blocks.Uniform; decide
      first    := by decide
      capacity := by decide
      position := by decide
      size     := by decide
      cur      := by decide }
  refine (typedRead_sound_iff h (fun _ => true) .stringVint).mpr ⟨[104, 105], 3, by decide, ?_⟩
  intro s _
  exact ⟨rfl, fun hend => absurd hend.2 (by decide)⟩

/-- A length of five and one byte of the string: the process ends. -/
theorem typedRead_aborts :
    let ba : ByteArray :=
      { baseSize := 4, position := 0, capacity := 4, endian := .big, size := 3
        root := [[0, 5, 104, 0]], cur := some 0, created := 1 }
    ba.typedRead (fun _ => true) .stringF16 = .aborted .assert ∧
      ¬ ba.ReadSound .stringF16 (ba.typedRead (fun _ => true) .stringF16) := by
  intro ba
  have habort : ba.typedRead (fun _ => true) .stringF16 = .aborted .assert := by decide
  refine ⟨habort, ?_⟩
  rw [habort]
  exact not_false

end MNSER
