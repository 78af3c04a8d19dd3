import Mnser.Framework.Blocks
import Mnser.Framework.System

/-! # ByteArray

    `ByteArray` of `bytearray.cpp`: a chain of nodes of `m_baseSize` bytes, a
    position, and a pointer to the node the position falls into.  The chain is
    the list of the nodes' bytes from `m_root` on, a pointer to a node is its
    index in the chain.

    What a new node holds is not defined; `memory k` stands for what the
    `k`th node constructed is found to hold. -/

namespace MNSER

/-! ## Section 1: Data -/

abbrev Buffer : Type := List UInt8

/-- `MS_LITTLE_ENDIAN` and `MS_BIG_ENDIAN` -/
inductive Endian where
  | little
  | big
  deriving DecidableEq, Repr

/-- What ends the program or leaves the operation. -/
inductive MemoryFault where
  | null_deref
  | assert
  | out_of_range
  deriving DecidableEq, Repr

structure ByteArray where
  baseSize : Nat
  position : Nat
  capacity : Nat
  endian   : Endian
  size     : Nat
  /-- The nodes from `m_root` on. -/
  root     : List Buffer
  /-- `m_cur`; `none` is the null pointer. -/
  cur      : Option Nat
  /-- Number of nodes constructed so far. -/
  created  : Nat
  deriving DecidableEq, Repr

/-- A segment of a node, as in `struct iovec`. -/
structure IoVec where
  node   : Nat
  offset : Nat
  len    : Nat
  deriving DecidableEq, Repr

/-- `new Node(size)` -/
def newNode (memory : Nat → Nat → UInt8) (k size : Nat) : Buffer :=
  (List.range size).map (memory k)

theorem newNode_length (memory : Nat → Nat → UInt8) (k size : Nat) :
    (newNode memory k size).length = size := by
  simp [newNode]

namespace ByteArray

/-- `ByteArray::ByteArray` -/
def new (memory : Nat → Nat → UInt8) (base_size : Nat) : ByteArray where
  baseSize := base_size
  position := 0
  capacity := base_size
  endian   := .big
  size     := 0
  root     := [newNode memory 0 base_size]
  cur      := some 0
  created  := 1

def getCapacity (ba : ByteArray) : Nat := ba.capacity - ba.position

def getReadSize (ba : ByteArray) : Nat := ba.size - ba.position

/-- The pointer to the `i`th node, null behind the last one. -/
def pointer (root : List Buffer) (i : Nat) : Option Nat :=
  if i < root.length then some i else none

/-! ## Section 2: Operations -/

variable (memory : Nat → Nat → UInt8)

/-- `ByteArray::addCapacity`.  The number of nodes is the `ceil` of a quotient
    of doubles, which is exact for sizes below `2 ^ 53`. -/
def addCapacity (ba : ByteArray) (size : Nat) : ByteArray :=
  if size = 0 then ba
  else
    let old_cap := ba.getCapacity
    if size ≤ old_cap then ba
    else
      let count := (size - old_cap + (ba.baseSize - 1)) / ba.baseSize
      let nodes := (List.range count).map fun i => newNode memory (ba.created + i) ba.baseSize
      { ba with
        root     := ba.root ++ nodes
        capacity := ba.capacity + count * ba.baseSize
        cur      := if old_cap = 0 then pointer (ba.root ++ nodes) ba.root.length else ba.cur
        created  := ba.created + count }

/-- The loop of `write`, at `npos` of the first of the given nodes: the nodes
    as they are now, and how many of them `m_cur` has gone past. -/
def writeNodes : List Buffer → Nat → Buffer → Except MemoryFault (List Buffer × Nat)
  | [], _, _ => .error .null_deref
  | node :: rest, npos, buf =>
    let ncap := node.length - npos
    if buf.length ≤ ncap then
      .ok (Blocks.overwrite node npos buf :: rest,
        if node.length = npos + buf.length then 1 else 0)
    else
      match writeNodes rest 0 (buf.drop ncap) with
      | .error e => .error e
      | .ok (rest', k) => .ok (Blocks.overwrite node npos (buf.take ncap) :: rest', k + 1)

/-- `ByteArray::write` -/
def write (ba : ByteArray) (buf : Buffer) : Except MemoryFault ByteArray :=
  if buf = [] then .ok ba
  else
    let ba := ba.addCapacity memory buf.length
    match ba.cur with
    | none     => .error .null_deref
    | some cur =>
      match writeNodes (ba.root.drop cur) (ba.position % ba.baseSize) buf with
      | .error e => .error e
      | .ok (nodes, k) =>
        let position := ba.position + buf.length
        .ok { ba with
              root     := ba.root.take cur ++ nodes
              position := position
              cur      := pointer ba.root (cur + k)
              size     := if ba.size < position then position else ba.size }

/-- The loop of `read`: the bytes, and how many nodes `m_cur` has gone past. -/
def readNodes : List Buffer → Nat → Nat → Except MemoryFault (Buffer × Nat)
  | [], _, _ => .error .null_deref
  | node :: rest, npos, size =>
    let ncap := node.length - npos
    if size = 0 then .ok ([], 0)
    else if size ≤ ncap then
      .ok ((node.drop npos).take size, if node.length = npos + size then 1 else 0)
    else
      match readNodes rest 0 (size - ncap) with
      | .error e => .error e
      | .ok (bytes, k) => .ok (node.drop npos ++ bytes, k + 1)

/-- `ByteArray::read`.  The current node is looked at even when there is
    nothing to read. -/
def read (ba : ByteArray) (size : Nat) : Except MemoryFault (ByteArray × Buffer) :=
  if ba.getReadSize < size then .error .assert
  else
    match ba.cur with
    | none     => .error .null_deref
    | some cur =>
      match readNodes (ba.root.drop cur) (ba.position % ba.baseSize) size with
      | .error e => .error e
      | .ok (bytes, k) =>
        .ok ({ ba with
               position := ba.position + size
               cur      := pointer ba.root (cur + k) }, bytes)

/-- The loop of `setPosition`: how many nodes `m_cur` has gone past. -/
def seekNodes : List Buffer → Nat → Except MemoryFault Nat
  | [], _ => .error .null_deref
  | node :: rest, v =>
    if node.length < v then
      match seekNodes rest (v - node.length) with
      | .error e => .error e
      | .ok k => .ok (k + 1)
    else .ok (if v = node.length then 1 else 0)

/-- `ByteArray::setPosition` -/
def setPosition (ba : ByteArray) (v : Nat) : Except MemoryFault ByteArray :=
  if ba.capacity < v then .error .out_of_range
  else
    match seekNodes ba.root v with
    | .error e => .error e
    | .ok k =>
      .ok { ba with
            position := v
            size     := if ba.size < v then v else ba.size
            cur      := pointer ba.root k }

/-- `ByteArray::clear` -/
def clear (ba : ByteArray) : ByteArray :=
  { ba with
    position := 0
    size     := 0
    capacity := ba.baseSize
    root     := ba.root.take 1
    cur      := pointer ba.root 0 }

/-- The loop of `getWriteBuffers`, at `npos` of the node with index `cur`. -/
def segments : List Buffer → Nat → Nat → Nat → Except MemoryFault (List IoVec)
  | [], _, _, _ => .error .null_deref
  | node :: rest, cur, npos, len =>
    let ncap := node.length - npos
    if len ≤ ncap then .ok [⟨cur, npos, len⟩]
    else
      match segments rest (cur + 1) 0 (len - ncap) with
      | .error e => .error e
      | .ok iovs => .ok (⟨cur, npos, ncap⟩ :: iovs)

/-- `ByteArray::getWriteBuffers` -/
def getWriteBuffers (ba : ByteArray) (len : Nat) : Except MemoryFault (ByteArray × List IoVec) :=
  if len = 0 then .ok (ba, [])
  else
    let ba := ba.addCapacity memory len
    match ba.cur with
    | none     => .error .null_deref
    | some cur =>
      match segments (ba.root.drop cur) cur (ba.position % ba.baseSize) len with
      | .error e => .error e
      | .ok iovs => .ok (ba, iovs)

/-- `readv` into the segments: `bytes` fills them one after the other. -/
def fillNodes : List IoVec → Buffer → List Buffer → List Buffer
  | [], _, root => root
  | iov :: iovs, bytes, root =>
    let node := Blocks.overwrite (root.getD iov.node []) iov.offset (bytes.take iov.len)
    fillNodes iovs (bytes.drop iov.len) (root.set iov.node node)

def fill (ba : ByteArray) (iovs : List IoVec) (bytes : Buffer) : ByteArray :=
  { ba with root := fillNodes iovs bytes ba.root }

/-- How a stream reads into the array: the segments for `len` bytes are filled
    with what came in, and the position is moved behind it. -/
def receive (ba : ByteArray) (len : Nat) (bytes : Buffer) : Except MemoryFault ByteArray :=
  match ba.getWriteBuffers memory len with
  | .error e => .error e
  | .ok (ba, iovs) => (ba.fill iovs bytes).setPosition (ba.position + bytes.length)

end ByteArray

end MNSER
