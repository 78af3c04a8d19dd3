import Mnser.ByteArray.Operations

/-! # ByteArray is a flat sequence of bytes

    `FlatBytes` is what a `ByteArray` is for: bytes with a cursor, and nothing
    about nodes.  A run of the array is a run of the flat sequence, and none of
    its operations fails. -/

namespace MNSER

open LTS Blocks

/-! ## Section 1: The flat sequence -/

/-- The operations, with what a stream filled the segments with. -/
inductive ByteArrayOp where
  | write (buf : Buffer)
  | read (n : Nat)
  | setPosition (v : Nat)
  | clear
  | receive (len : Nat) (bytes : Buffer)
  deriving DecidableEq

/-- The bytes, the cursor, and what the last operation returned. -/
structure FlatBytes where
  bytes  : Buffer
  cursor : Nat
  out    : Buffer
  deriving DecidableEq

def FlatBytes.empty : FlatBytes := ⟨[], 0, []⟩

/-- One operation.  What appears when the cursor is set behind the end is not
    defined. -/
inductive FlatBytes.Step : FlatBytes → ByteArrayOp → FlatBytes → Prop where
  | write : ∀ {f : FlatBytes} {buf : Buffer},
      Step f (.write buf) ⟨overwrite f.bytes f.cursor buf, f.cursor + buf.length, []⟩
  | read : ∀ {f : FlatBytes} {n : Nat}, f.cursor + n ≤ f.bytes.length →
      Step f (.read n) ⟨f.bytes, f.cursor + n, (f.bytes.drop f.cursor).take n⟩
  | setPosition : ∀ {f : FlatBytes} {v : Nat} {bytes : Buffer}, f.bytes <+: bytes →
      bytes.length = max f.bytes.length v → Step f (.setPosition v) ⟨bytes, v, []⟩
  | clear : ∀ {f : FlatBytes}, Step f .clear ⟨[], 0, []⟩
  | receive : ∀ {f : FlatBytes} {len : Nat} {bytes : Buffer}, bytes.length ≤ len →
      Step f (.receive len bytes)
        ⟨overwrite f.bytes f.cursor bytes, f.cursor + bytes.length, []⟩

/-! ## Section 2: Runs of the array -/

/-- An array and what its last operation returned. -/
structure ByteArrayState where
  array : ByteArray
  out   : Buffer
  deriving DecidableEq

namespace ByteArrayState

def new (memory : Nat → Nat → UInt8) (base_size : Nat) : ByteArrayState :=
  ⟨.new memory base_size, []⟩

def flat (s : ByteArrayState) : FlatBytes := ⟨s.array.content, s.array.position, s.out⟩

def apply (memory : Nat → Nat → UInt8) (s : ByteArrayState) :
    ByteArrayOp → Except MemoryFault ByteArrayState
  | .write buf         => (s.array.write memory buf).map fun ba => ⟨ba, []⟩
  | .read n            => (s.array.read n).map fun r => ⟨r.1, r.2⟩
  | .setPosition v     => (s.array.setPosition v).map fun ba => ⟨ba, []⟩
  | .clear             => .ok ⟨s.array.clear, []⟩
  | .receive len bytes => (s.array.receive memory len bytes).map fun ba => ⟨ba, []⟩

/-- What the callers keep to. -/
def Allowed (s : ByteArrayState) : ByteArrayOp → Prop
  | .write _           => True
  | .read n            => 1 ≤ n ∧ n ≤ s.array.getReadSize
  | .setPosition v     => v ≤ s.array.capacity
  | .clear             => True
  | .receive len bytes => bytes.length ≤ len

instance (s : ByteArrayState) (op : ByteArrayOp) : Decidable (s.Allowed op) := by
  cases op <;> unfold Allowed <;> infer_instance

def system (memory : Nat → Nat → UInt8) (base_size : Nat) :
    System ByteArrayState ByteArrayOp where
  init s := s = new memory base_size
  next s op := if s.Allowed op then (s.apply memory op).toOption else none

/-- An operation that is allowed does not fail, and does what the flat
    sequence does. -/
theorem apply_spec (memory : Nat → Nat → UInt8) {s : ByteArrayState} (h : s.array.WellFormed)
    {op : ByteArrayOp} (hop : s.Allowed op) :
    ∃ t, s.apply memory op = .ok t ∧ t.array.WellFormed ∧ FlatBytes.Step s.flat op t.flat := by
  have hlen := h.content_length
  cases op with
  | write buf =>
    obtain ⟨ba, hwrite, h', _, _, hposition, hcontent, _⟩ := ByteArray.write_spec memory h buf
    refine ⟨⟨ba, []⟩, by simp only [apply, hwrite]; rfl, h', ?_⟩
    unfold flat
    rw [hposition, hcontent]
    exact .write
  | read n =>
    obtain ⟨hn, hle⟩ := hop
    obtain ⟨ba, hread, h', _, _, hposition, _, _, hcontent⟩ := ByteArray.read_spec h hn hle
    refine ⟨⟨ba, _⟩, by simp only [apply, hread]; rfl, h', ?_⟩
    unfold flat
    rw [hposition, hcontent]
    refine .read ?_
    have := h.position
    unfold ByteArray.getReadSize at hle
    show s.array.position + n ≤ s.array.content.length
    omega
  | setPosition v =>
    obtain ⟨ba, hset, h', _, _, hposition, hsize, _, hroot⟩ := ByteArray.setPosition_spec h hop
    refine ⟨⟨ba, []⟩, by simp only [apply, hset]; rfl, h', ?_⟩
    unfold flat
    rw [hposition]
    refine .setPosition ?_ ?_
    · show s.array.root.flatten.take s.array.size <+: ba.root.flatten.take ba.size
      rw [hroot, hsize]
      exact List.take_prefix_take_left (Nat.le_max_left _ _)
    · show ba.content.length = max s.array.content.length v
      rw [h'.content_length, hsize, hlen]
  | clear =>
    obtain ⟨h', hcontent, hposition⟩ := ByteArray.clear_spec h
    refine ⟨⟨s.array.clear, []⟩, rfl, h', ?_⟩
    unfold flat
    rw [hcontent, hposition]
    exact .clear
  | receive len bytes =>
    obtain ⟨ba, hreceive, h', hposition, hcontent⟩ := ByteArray.receive_spec memory h hop
    refine ⟨⟨ba, []⟩, by simp only [apply, hreceive]; rfl, h', ?_⟩
    unfold flat
    rw [hposition, hcontent]
    exact .receive hop

theorem next_spec (memory : Nat → Nat → UInt8) (base_size : Nat) {s : ByteArrayState}
    (op : ByteArrayOp) (t : ByteArrayState) (h : s.array.WellFormed)
    (hnext : (system memory base_size).next s op = some t) :
    t.array.WellFormed ∧ FlatBytes.Step s.flat op t.flat := by
  simp only [system] at hnext
  split at hnext
  · rename_i hop
    obtain ⟨t', happly, h', hstep⟩ := apply_spec memory h hop
    rw [happly] at hnext
    obtain rfl := Option.some.inj hnext
    exact ⟨h', hstep⟩
  · cases hnext

end ByteArrayState

open ByteArrayState

/-- A run of the array keeps the links between its members, is a run of the
    flat sequence, and can go on with every operation that is allowed. -/
theorem byteArray_refines_flat (memory : Nat → Nat → UInt8) {base_size : Nat}
    (hbase : 1 ≤ base_size) {tr : List (ByteArrayState × ByteArrayOp)} {s : ByteArrayState}
    (hrun : Run (system memory base_size) (.new memory base_size) tr s) :
    Path FlatBytes.Step FlatBytes.empty (tr.map Prod.snd) s.flat ∧
      s.array.WellFormed ∧ s.array.content.length = s.array.size ∧
      (s.array.cur = none ↔ s.array.position = s.array.capacity) ∧
      ∀ op, s.Allowed op → ∃ t, s.apply memory op = .ok t := by
  obtain ⟨hwf, hpath⟩ := hrun.path (I := fun s => s.array.WellFormed) (R := FlatBytes.Step)
    flat (fun s op t => next_spec memory base_size op t)
    (ByteArray.new_wellFormed memory hbase)
  refine ⟨?_, hwf, hwf.content_length, hwf.cur_eq_none, fun op hop => ?_⟩
  · have hempty : (ByteArrayState.new memory base_size).flat = FlatBytes.empty := by
      simp only [flat, ByteArrayState.new, ByteArray.content, ByteArray.new, List.take_zero,
        FlatBytes.empty]
    exact hempty ▸ hpath
  · obtain ⟨t, happly, _⟩ := apply_spec memory hwf hop
    exact ⟨t, happly⟩

/-- Blocks of two bytes; a write that fills the second one, then a read across
    both, more room, and the bytes that came in. -/
theorem byteArray_refines_flat_blocks :
    let ops : List ByteArrayOp :=
      [.write [1, 2, 3, 4], .setPosition 1, .read 2, .receive 9 [5, 6, 7], .setPosition 0, .read 6]
    let s : ByteArrayState :=
      { array := { baseSize := 2, position := 6, capacity := 12, endian := .big, size := 6
                   root := [[1, 2], [3, 5], [6, 7], [0, 0], [0, 0], [0, 0]]
                   cur := some 3, created := 6 }
        out := [1, 2, 3, 5, 6, 7] }
    Path FlatBytes.Step FlatBytes.empty ops s.flat ∧
      s.flat = ⟨[1, 2, 3, 5, 6, 7], 6, [1, 2, 3, 5, 6, 7]⟩ := by
  intro ops s
  have hexec : (system (fun _ _ => 0) 2).exec (.new (fun _ _ => 0) 2) ops = some s := by
    decide +kernel
  have hrefines := byteArray_refines_flat (fun _ _ => 0) (show 1 ≤ 2 by decide)
    ((system _ 2).exec_run ops hexec)
  rw [(system _ 2).trace_labels ops hexec] at hrefines
  exact ⟨hrefines.1, rfl⟩

end MNSER
