import Mnser.ByteArray.Positional
import Mnser.Framework.Transfer
import Mnser.Word

/-! # readFixSize and writeFixSize

    The four overloads of `Stream`, over the `read` and `write` of
    `SocketStream`.  What the socket does is any sequence of results.  Memory
    does not run out; an array of `2 ^ 53` bytes, where the doubles of
    `addCapacity` are no longer exact, is more than there is.

    `left` is an `int64_t` and the value returned an `int`: neither holds
    every length. -/

namespace MNSER

open Blocks Transfer

/-! ## Section 1: The socket -/

/-- What a pointer points at, and behind it. -/
abbrev Memory : Type := Nat → UInt8

def slice (m : Memory) (start len : Nat) : Buffer := (List.range len).map fun i => m (start + i)

/-- The memory after bytes were put into it. -/
def store (m : Memory) (start : Nat) (bytes : Buffer) : Memory := fun i =>
  if i < start then m i else bytes.getD (i - start) (m i)

/-- The result of a call that was asked for some bytes. -/
structure Result (asked : Nat) where
  rt  : Int
  le  : rt ≤ asked
  lo  : -2 ^ 31 ≤ rt
  hi  : rt < 2 ^ 31

/-- What the system does: whether the socket is connected at each of the
    calls, what it returns, and the bytes that come in. -/
structure Network where
  isConnected : Nat → Bool
  result      : (call asked : Nat) → Result asked
  input       : Memory

/-- The results of the calls so far, how many bytes were read and which were
    written. -/
structure Traffic where
  results : List Int
  taken   : Nat
  sent    : Buffer

namespace Network

/-- Where `isConnected` is false, in `SocketStream` and once more in `Socket`. -/
def refuse (w : Traffic) : Int × Traffic := (-1, { w with results := w.results ++ [-1] })

/-- `Socket::recv`, with the bytes it gives. -/
def recv (sock : Network) (length : Nat) (w : Traffic) : Int × Buffer × Traffic :=
  let rt := (sock.result w.results.length length).rt
  (rt, slice sock.input w.taken rt.toNat,
    { w with results := w.results ++ [rt], taken := w.taken + rt.toNat })

/-- `Socket::send` -/
def send (sock : Network) (data : Buffer) (w : Traffic) : Int × Traffic :=
  let rt := (sock.result w.results.length data.length).rt
  (rt, { w with results := w.results ++ [rt], sent := w.sent ++ data.take rt.toNat })

end Network

/-- What some segments have room for, together. -/
def IoVec.total : List IoVec → Nat
  | [] => 0
  | iov :: iovs => iov.len + total iovs

/-- `getReadBuffers(buffers, len)`: the segments, from `m_cur` on. -/
def ByteArray.getReadBuffers (ba : ByteArray) (len : Nat) : Except MemoryFault (List IoVec) :=
  let len := if ba.getReadSize < len then ba.getReadSize else len
  if len = 0 then .ok []
  else
    match ba.cur with
    | none     => .error .null_deref
    | some cur => segments (ba.root.drop cur) cur (ba.position % ba.baseSize) len

/-! ## Section 2: SocketStream -/

/-- The caller's buffer, the loop's `offset`, and the wire. -/
structure Buffered where
  wire   : Traffic
  buffer : Memory
  offset : Nat

/-- The caller's array and the wire. -/
structure Arrayed where
  wire : Traffic
  ba   : ByteArray

namespace SocketStream

/-- `SocketStream::read` into `buffer + offset` -/
def read (sock : Network) (length : Nat) (s : Buffered) : Int × Buffered :=
  if sock.isConnected s.wire.results.length = false then
    let (rt, wire) := Network.refuse s.wire
    (rt, { s with wire := wire })
  else
    let (rt, bytes, wire) := sock.recv length s.wire
    (rt, { s with wire := wire, buffer := store s.buffer s.offset bytes })

/-- `SocketStream::write` from `buffer + offset` -/
def write (sock : Network) (length : Nat) (s : Buffered) : Int × Buffered :=
  if sock.isConnected s.wire.results.length = false then
    let (rt, wire) := Network.refuse s.wire
    (rt, { s with wire := wire })
  else
    let (rt, wire) := sock.send (slice s.buffer s.offset length) s.wire
    (rt, { s with wire := wire })

/-- The position is moved only when some bytes were. -/
def advance (ba : ByteArray) (rt : Int) : Except MemoryFault ByteArray :=
  if 0 < rt then ba.setPosition (ba.position + rt.toNat) else .ok ba

/-- `SocketStream::read` into a `ByteArray` -/
def readArray (memory : Nat → Nat → UInt8) (sock : Network) (length : Nat) (s : Arrayed) :
    Except MemoryFault (Int × Arrayed) :=
  if sock.isConnected s.wire.results.length = false then
    let (rt, wire) := Network.refuse s.wire
    .ok (rt, { s with wire := wire })
  else
    match s.ba.getWriteBuffers memory length with
    | .error e => .error e
    | .ok (ba, iovs) =>
      let (rt, bytes, wire) := sock.recv (IoVec.total iovs) s.wire
      match advance (ba.fill iovs bytes) rt with
      | .error e => .error e
      | .ok ba => .ok (rt, ⟨wire, ba⟩)

/-- `SocketStream::write` from a `ByteArray`; where nothing is left to read
    there are no segments, and nothing is asked for. -/
def writeArray (sock : Network) (length : Nat) (s : Arrayed) :
    Except MemoryFault (Int × Arrayed) :=
  if sock.isConnected s.wire.results.length = false then
    let (rt, wire) := Network.refuse s.wire
    .ok (rt, { s with wire := wire })
  else
    match s.ba.getReadBuffers length with
    | .error e => .error e
    | .ok iovs =>
      let (rt, wire) := sock.send (ByteArray.gather s.ba.root iovs) s.wire
      match advance s.ba rt with
      | .error e => .error e
      | .ok ba => .ok (rt, ⟨wire, ba⟩)

end SocketStream

/-! ## Section 3: Stream -/

/-- A `size_t` as an `int64_t`. -/
def int64 (length : Nat) : Int := (length : Int).bmod (2 ^ 64)

namespace Stream

/-- `return len` in the loop, or `return length` behind it, as an `int`. -/
def value (length : Nat) : Option Int → Int
  | some len => wrap32 len
  | none     => wrap32 length

/-- The overloads differ in what they call. -/
def fixSize {σ : Type} (call : Call σ MemoryFault) (length : Nat) (s : σ) :
    Except MemoryFault (Int × σ) := do
  let (r, s) ← loop call (int64 length) s
  return (value length r, s)

/-- `offset += len` -/
def offsetCall (call : Nat → Buffered → Int × Buffered) : Call Buffered MemoryFault := fun left s =>
  let (len, s) := call left s
  .ok (len, if 0 < len then { s with offset := s.offset + len.toNat } else s)

/-- `readFixSize(buffer, length)` -/
def readFixSize (sock : Network) (length : Nat) (w : Traffic) (buffer : Memory) :
    Except MemoryFault (Int × Buffered) :=
  fixSize (offsetCall (SocketStream.read sock)) length ⟨w, buffer, 0⟩

/-- `writeFixSize(buffer, length)` -/
def writeFixSize (sock : Network) (length : Nat) (w : Traffic) (buffer : Memory) :
    Except MemoryFault (Int × Buffered) :=
  fixSize (offsetCall (SocketStream.write sock)) length ⟨w, buffer, 0⟩

/-- `readFixSize(ba, length)` -/
def readFixSizeArray (memory : Nat → Nat → UInt8) (sock : Network) (length : Nat) (w : Traffic)
    (ba : ByteArray) : Except MemoryFault (Int × Arrayed) :=
  fixSize (SocketStream.readArray memory sock) length ⟨w, ba⟩

/-- `writeFixSize(ba, length)` -/
def writeFixSizeArray (sock : Network) (length : Nat) (w : Traffic) (ba : ByteArray) :
    Except MemoryFault (Int × Arrayed) :=
  fixSize (SocketStream.writeArray sock) length ⟨w, ba⟩

end Stream

/-! ## Section 4: Memory and segments -/

@[simp] theorem slice_length (m : Memory) (start len : Nat) : (slice m start len).length = len := by
  simp [slice]

theorem slice_append (m : Memory) (start a b : Nat) :
    slice m start (a + b) = slice m start a ++ slice m (start + a) b := by
  simp [slice, List.range_add, Nat.add_assoc]

theorem slice_take (m : Memory) (start : Nat) {k len : Nat} (h : k ≤ len) :
    (slice m start len).take k = slice m start k := by
  obtain ⟨rest, rfl⟩ := Nat.exists_eq_add_of_le h
  rw [slice_append, List.take_append_of_le_length (by simp), List.take_of_length_le (by simp)]

@[simp] theorem store_nil (m : Memory) (start : Nat) : store m start [] = m := by
  funext i
  simp [store]

theorem store_store (m : Memory) (start : Nat) (xs ys : Buffer) :
    store (store m start xs) (start + xs.length) ys = store m start (xs ++ ys) := by
  funext i
  unfold store
  by_cases hfront : i < start
  · rw [if_pos (by omega), if_pos hfront, if_pos hfront]
  · by_cases hxs : i < start + xs.length
    · rw [if_pos hxs, if_neg hfront, if_neg hfront]
      simp only [List.getD_eq_getElem?_getD]
      rw [List.getElem?_append_left (by omega)]
    · rw [if_neg hxs, if_neg hfront, if_neg hfront]
      simp only [List.getD_eq_getElem?_getD]
      rw [List.getElem?_append_right (by omega),
        List.getElem?_eq_none (show xs.length ≤ i - start by omega), Nat.sub_add_eq]
      rfl

namespace ByteArray

/-- The segments for some bytes have room for just these. -/
theorem segments_total (nodes : List Buffer) : ∀ {cur npos len : Nat} {iovs : List IoVec},
    segments nodes cur npos len = .ok iovs → IoVec.total iovs = len := by
  induction nodes with
  | nil =>
    intro cur npos len iovs h
    cases h
  | cons node rest ih =>
    intro cur npos len iovs h
    rw [segments] at h
    by_cases hfits : len ≤ node.length - npos
    · rw [if_pos hfits] at h
      cases h
      exact Nat.add_zero _
    · rw [if_neg hfits] at h
      cases hrest : segments rest (cur + 1) 0 (len - (node.length - npos)) with
      | error e =>
        rw [hrest] at h
        cases h
      | ok iovs' =>
        rw [hrest] at h
        cases h
        rw [IoVec.total, ih hrest]
        show node.length - npos + (len - (node.length - npos)) = len
        omega

theorem getWriteBuffers_total (memory : Nat → Nat → UInt8) {ba ba₁ : ByteArray} {len : Nat}
    {iovs : List IoVec} (h : ba.getWriteBuffers memory len = .ok (ba₁, iovs)) :
    IoVec.total iovs = len := by
  unfold getWriteBuffers at h
  by_cases hlen : len = 0
  · rw [if_pos hlen] at h
    cases h
    exact hlen.symm
  · rw [if_neg hlen] at h
    dsimp only at h
    generalize ba.addCapacity memory len = ba' at h
    cases hcur : ba'.cur with
    | none =>
      rw [hcur] at h
      cases h
    | some cur =>
      rw [hcur] at h
      dsimp only at h
      cases hsegments : segments (ba'.root.drop cur) cur (ba'.position % ba'.baseSize) len with
      | error e =>
        rw [hsegments] at h
        cases h
      | ok iovs' =>
        rw [hsegments] at h
        cases h
        exact segments_total _ hsegments

/-- At the cursor the two overloads of `getReadBuffers` agree. -/
theorem getReadBuffers_spec {ba : ByteArray} (h : ba.WellFormed) (len : Nat) :
    ∃ iovs, ba.getReadBuffers len = .ok iovs ∧
      gather ba.root iovs = (ba.content.drop ba.position).take len := by
  have hposition := h.position
  have hcapacity := h.size
  have hlength : (ba.content.drop ba.position).length = ba.getReadSize := by
    rw [List.length_drop, h.content_length]
    rfl
  have hread : ba.position + min len ba.getReadSize ≤ ba.size := by
    unfold getReadSize
    omega
  obtain ⟨iovs, hat, hgather⟩ := getReadBuffersAt_eq h (Nat.le_trans hread hcapacity)
  refine ⟨iovs, ?_, ?_⟩
  · unfold getReadBuffersAt at hat
    unfold getReadBuffers
    -- with something to read the cursor is inside, and both walks start in its node
    by_cases hempty : (if ba.getReadSize < len then ba.getReadSize else len) = 0
    · rw [if_pos hempty] at hat ⊢
      rw [(Prod.mk.inj (Except.ok.inj hat)).2]
    · have hlt : ba.position < ba.capacity := by
        unfold getReadSize at hempty
        split at hempty <;> omega
      simp only [if_neg hempty, h.cur_eq_some hlt] at hat ⊢
      cases hsegments : segments (ba.root.drop (ba.position / ba.baseSize))
          (ba.position / ba.baseSize) (ba.position % ba.baseSize)
          (if ba.getReadSize < len then ba.getReadSize else len) with
      | error e =>
        rw [hsegments] at hat
        cases hat
      | ok iovs' =>
        rw [hsegments] at hat
        rw [(Prod.mk.inj (Except.ok.inj hat)).2]
  · rw [hgather, ← content_drop_take hread, List.take_eq_take_iff, hlength]
    omega

end ByteArray

/-! ## Section 5: What one call does -/

def IsInt32 (r : Int) : Prop := -2 ^ 31 ≤ r ∧ r < 2 ^ 31

theorem Result.isInt32 {asked : Nat} (r : Result asked) : IsInt32 r.rt := ⟨r.lo, r.hi⟩

theorem isInt32_append {rs : List Int} {r : Int} (h : ∀ x ∈ rs, IsInt32 x) (hr : IsInt32 r) :
    ∀ x ∈ rs ++ [r], IsInt32 x := by
  intro x hx
  rcases List.mem_append.mp hx with hx | hx
  · exact h x hx
  · obtain rfl := List.mem_singleton.mp hx
    exact hr

theorem isInt32_refused : IsInt32 (-1) := by
  unfold IsInt32
  omega

namespace SocketStream

variable (memory : Nat → Nat → UInt8) (sock : Network) (w : Traffic)

/-- The buffer after `k` bytes were read into it. -/
def ReadBuffer (buffer : Memory) (rs : List Int) (k : Nat) (s : Buffered) : Prop :=
  (∀ r ∈ rs, IsInt32 r) ∧
    s = ⟨⟨w.results ++ rs, w.taken + k, w.sent⟩, store buffer 0 (slice sock.input w.taken k), k⟩

/-- The wire after `k` bytes of the buffer were written. -/
def WrittenBuffer (buffer : Memory) (rs : List Int) (k : Nat) (s : Buffered) : Prop :=
  (∀ r ∈ rs, IsInt32 r) ∧
    s = ⟨⟨w.results ++ rs, w.taken, w.sent ++ slice buffer 0 k⟩, buffer, k⟩

/-- The array after `k` bytes were read into it. -/
def ReadArray (ba : ByteArray) (rs : List Int) (k : Nat) (s : Arrayed) : Prop :=
  (∀ r ∈ rs, IsInt32 r) ∧ s.wire = ⟨w.results ++ rs, w.taken + k, w.sent⟩ ∧ s.ba.WellFormed ∧
    s.ba.position = ba.position + k ∧
    s.ba.content = overwrite ba.content ba.position (slice sock.input w.taken k)

/-- The array and the wire after `k` bytes were written. -/
def WrittenArray (ba : ByteArray) (rs : List Int) (k : Nat) (s : Arrayed) : Prop :=
  (∀ r ∈ rs, IsInt32 r) ∧
    s.wire = ⟨w.results ++ rs, w.taken, w.sent ++ (ba.content.drop ba.position).take k⟩ ∧
    s.ba.WellFormed ∧ s.ba.position = ba.position + k ∧ s.ba.content = ba.content

theorem offsetCall_eq {call : Nat → Buffered → Int × Buffered} {n : Nat} {s t : Buffered}
    {len : Int} (h : call n s = (len, t)) :
    Stream.offsetCall call n s = .ok (len, { t with offset := t.offset + len.toNat }) := by
  unfold Stream.offsetCall
  rw [h]
  by_cases hlen : 0 < len
  · simp only [if_pos hlen]
  · have hzero : len.toNat = 0 := by omega
    simp only [if_neg hlen, hzero, Nat.add_zero]

theorem read_progress (buffer : Memory) :
    Progress (Stream.offsetCall (read sock)) (ReadBuffer sock w buffer) := by
  rintro rs k s n hn ⟨hrs, hs⟩
  by_cases hconnected : sock.isConnected s.wire.results.length = false
  · have hread : read sock n s = (-1, { s with wire := (Network.refuse s.wire).2 }) := by
      rw [read, if_pos hconnected]
      rfl
    refine ⟨-1, _, offsetCall_eq hread, by omega, isInt32_append hrs isInt32_refused, ?_⟩
    simp [hs, Network.refuse]
  · let r := sock.result s.wire.results.length n
    let bytes := slice sock.input s.wire.taken r.rt.toNat
    have hread : read sock n s = (r.rt, { s with
        wire := (sock.recv n s.wire).2.2, buffer := store s.buffer s.offset bytes }) := by
      rw [read, if_neg hconnected]
      rfl
    have hstore : store s.buffer s.offset bytes =
        store buffer 0 (slice sock.input w.taken (k + r.rt.toNat)) := by
      have hgoes := store_store buffer 0 (slice sock.input w.taken k) bytes
      rw [slice_length, Nat.zero_add] at hgoes
      rw [slice_append, ← show bytes = slice sock.input (w.taken + k) r.rt.toNat by simp [bytes, hs],
        ← hgoes, hs]
    refine ⟨r.rt, _, offsetCall_eq hread, r.le, isInt32_append hrs r.isInt32, ?_⟩
    rw [hstore]
    simp [hs, Network.recv, r, Nat.add_assoc]

theorem write_progress (buffer : Memory) :
    Progress (Stream.offsetCall (write sock)) (WrittenBuffer w buffer) := by
  rintro rs k s n hn ⟨hrs, hs⟩
  by_cases hconnected : sock.isConnected s.wire.results.length = false
  · have hwrite : write sock n s = (-1, { s with wire := (Network.refuse s.wire).2 }) := by
      rw [write, if_pos hconnected]
      rfl
    refine ⟨-1, _, offsetCall_eq hwrite, by omega, isInt32_append hrs isInt32_refused, ?_⟩
    simp [hs, Network.refuse]
  · let data := slice s.buffer s.offset n
    have hlength : data.length = n := slice_length _ _ _
    let r := sock.result s.wire.results.length data.length
    have hle : r.rt ≤ n := by
      rw [← hlength]
      exact r.le
    have hwrite : write sock n s = (r.rt, { s with wire := { s.wire with
        results := s.wire.results ++ [r.rt], sent := s.wire.sent ++ data.take r.rt.toNat } }) := by
      rw [write, if_neg hconnected]
      rfl
    -- what the socket took are the next bytes of the buffer
    have hsent : data.take r.rt.toNat = slice buffer k r.rt.toNat := by
      rw [slice_take _ _ (by omega), hs]
    refine ⟨r.rt, _, offsetCall_eq hwrite, hle, isInt32_append hrs r.isInt32, ?_⟩
    rw [hsent]
    generalize r.rt = rt
    simp [hs, slice_append]

/-- The position goes on behind what was filled in. -/
theorem advance_fill {ba ba₁ : ByteArray} (h : ba.WellFormed) {n : Nat} {iovs : List IoVec}
    (hbuffers : ba.getWriteBuffers memory n = .ok (ba₁, iovs)) {rt : Int} (hrt : rt ≤ n)
    {bytes : Buffer} (hbytes : bytes.length = rt.toNat) :
    ∃ ba', advance (ba₁.fill iovs bytes) rt = .ok ba' ∧ ba'.WellFormed ∧
      ba'.position = ba.position + rt.toNat ∧
      ba'.content = overwrite ba.content ba.position bytes := by
  by_cases hpos : 0 < rt
  · obtain ⟨ba', hreceive, h', hposition, hcontent⟩ :=
      ByteArray.receive_spec memory h (show bytes.length ≤ n by omega)
    unfold ByteArray.receive at hreceive
    rw [hbuffers, hbytes] at hreceive
    rw [hbytes] at hposition
    refine ⟨ba', ?_, h', hposition, hcontent⟩
    rw [advance, if_pos hpos]
    exact hreceive
  · -- nothing came in, and the array is at most larger
    have hzero : rt.toNat = 0 := by omega
    obtain rfl : bytes = [] := List.length_eq_zero_iff.mp (hbytes.trans hzero)
    obtain ⟨ba₂, iovs₂, hbuffers₂, hgrown, -, hfilled, hflat⟩ :=
      ByteArray.getWriteBuffers_spec memory h (show ([] : Buffer).length ≤ n from Nat.zero_le n)
    rw [hbuffers] at hbuffers₂
    cases hbuffers₂
    have hcontent : (ba₁.fill iovs []).content = ba.content := by
      rw [overwrite_nil] at hflat
      rw [← hgrown.content h]
      unfold ByteArray.content
      rw [hflat]
      rfl
    refine ⟨ba₁.fill iovs [], if_neg hpos, hfilled, ?_, ?_⟩
    · rw [hzero]
      exact hgrown.position
    · rw [overwrite_nil, hcontent]

theorem readArray_progress {ba : ByteArray} (h : ba.WellFormed) :
    Progress (readArray memory sock) (ReadArray sock w ba) := by
  rintro rs k s n hn ⟨hrs, hwire, h', hposition, hcontent⟩
  by_cases hconnected : sock.isConnected s.wire.results.length = false
  · have hread : readArray memory sock n s =
        .ok (-1, { s with wire := (Network.refuse s.wire).2 }) := by
      rw [readArray, if_pos hconnected]
      rfl
    refine ⟨-1, _, hread, by omega, isInt32_append hrs isInt32_refused, ?_, h', hposition, hcontent⟩
    simp [hwire, Network.refuse]
  · obtain ⟨ba₁, iovs, hbuffers, -⟩ :=
      ByteArray.getWriteBuffers_spec memory h' (show ([] : Buffer).length ≤ n from Nat.zero_le n)
    have hsum := ByteArray.getWriteBuffers_total memory hbuffers
    -- the segments hold n bytes together, so no more comes in
    let r := sock.result s.wire.results.length (IoVec.total iovs)
    let bytes := slice sock.input s.wire.taken r.rt.toNat
    have hle : r.rt ≤ n := by
      rw [← hsum]
      exact r.le
    obtain ⟨ba₂, hadvance, h₂, hposition₂, hcontent₂⟩ :=
      advance_fill memory h' hbuffers hle (slice_length sock.input s.wire.taken r.rt.toNat)
    have hread : readArray memory sock n s =
        .ok (r.rt, ⟨{ s.wire with
          results := s.wire.results ++ [r.rt], taken := s.wire.taken + r.rt.toNat }, ba₂⟩) := by
      rw [readArray, if_neg hconnected, hbuffers]
      show (match advance (ba₁.fill iovs bytes) r.rt with | .error e => _ | .ok ba => _) = _
      rw [hadvance]
    refine ⟨r.rt, _, hread, hle, isInt32_append hrs r.isInt32, ?_, h₂, ?_, ?_⟩
    · generalize r.rt = rt
      simp [hwire, Nat.add_assoc]
    · rw [hposition₂, hposition, Nat.add_assoc]
    · have hcursor : ba.position ≤ ba.content.length := by
        rw [h.content_length]
        exact h.position
      have hgoes := overwrite_overwrite (slice sock.input w.taken k)
        (slice sock.input (w.taken + k) r.rt.toNat) hcursor
      rw [slice_length, ← slice_append] at hgoes
      rw [hcontent₂, hcontent, hposition, hwire]
      exact hgoes

/-- The position goes on over what there is to read. -/
theorem advance_read {ba : ByteArray} (h : ba.WellFormed) {rt : Int} (hrt : rt ≤ ba.getReadSize) :
    ∃ ba', advance ba rt = .ok ba' ∧ ba'.WellFormed ∧ ba'.position = ba.position + rt.toNat ∧
      ba'.content = ba.content := by
  by_cases hpos : 0 < rt
  · have hsize : ba.position + rt.toNat ≤ ba.size := by
      unfold ByteArray.getReadSize at hrt
      omega
    obtain ⟨ba', hset, h', -, -, hposition, hsize', -, hroot⟩ :=
      ByteArray.setPosition_spec h (Nat.le_trans hsize h.size)
    refine ⟨ba', ?_, h', hposition, ?_⟩
    · rw [advance, if_pos hpos]
      exact hset
    · unfold ByteArray.content
      rw [hroot, hsize', Nat.max_eq_left hsize]
  · have hzero : rt.toNat = 0 := by omega
    refine ⟨ba, if_neg hpos, h, ?_, rfl⟩
    rw [hzero, Nat.add_zero]

theorem writeArray_progress {ba : ByteArray} :
    Progress (writeArray sock) (WrittenArray w ba) := by
  rintro rs k s n hn ⟨hrs, hwire, h', hposition, hcontent⟩
  by_cases hconnected : sock.isConnected s.wire.results.length = false
  · have hwrite : writeArray sock n s = .ok (-1, { s with wire := (Network.refuse s.wire).2 }) := by
      rw [writeArray, if_pos hconnected]
      rfl
    refine ⟨-1, _, hwrite, by omega, isInt32_append hrs isInt32_refused, ?_, h', hposition, hcontent⟩
    simp [hwire, Network.refuse]
  · obtain ⟨iovs, hbuffers, hgather⟩ := ByteArray.getReadBuffers_spec h' n
    -- no more goes out than is left to be read
    let data := ByteArray.gather s.ba.root iovs
    let r := sock.result s.wire.results.length data.length
    have hlength : data.length = min n s.ba.getReadSize := by
      show (ByteArray.gather s.ba.root iovs).length = _
      rw [hgather, List.length_take, List.length_drop, h'.content_length]
      rfl
    have hle : r.rt ≤ min n s.ba.getReadSize := by
      rw [← hlength]
      exact r.le
    obtain ⟨ba₂, hadvance, h₂, hposition₂, hcontent₂⟩ :=
      advance_read h' (show r.rt ≤ s.ba.getReadSize by omega)
    have hwrite : writeArray sock n s =
        .ok (r.rt, ⟨{ s.wire with
          results := s.wire.results ++ [r.rt]
          sent    := s.wire.sent ++ data.take r.rt.toNat }, ba₂⟩) := by
      rw [writeArray, if_neg hconnected, hbuffers]
      show (match advance s.ba r.rt with | .error e => _ | .ok ba => _) = _
      rw [hadvance]
    have hsent : ∀ j, j ≤ n → data.take j = (ba.content.drop (ba.position + k)).take j := by
      intro j hj
      rw [show data = _ from hgather, List.take_take, Nat.min_eq_left hj, hcontent, hposition]
    refine ⟨r.rt, _, hwrite, by omega, isInt32_append hrs r.isInt32, ?_, h₂, ?_, ?_⟩
    · rw [hsent _ (by omega)]
      generalize r.rt = rt
      simp [hwire, List.take_add, List.drop_drop]
    · rw [hposition₂, hposition, Nat.add_assoc]
    · rw [hcontent₂, hcontent]

end SocketStream

/-! ## Section 6: What the value says -/

namespace Stream

variable {σ : Type} {call : Call σ MemoryFault} {I : List Int → Nat → σ → Prop}

/-- What the value promises of `n` bytes and the results of the calls. -/
structure Kept (length : Nat) (ret : Int) (rs : List Int) (n : Nat) : Prop where
  positive : 0 < ret ↔ n = length
  failing  : n ≠ length → ret ≤ 0 ∧ rs.getLast? = some ret

/-- The length is an `int64_t`, and a positive `int` unless a call fails. -/
def Fits (call : Call σ MemoryFault) (length : Nat) (s : σ) : Prop :=
  length < 2 ^ 63 ∧ (Completes call length s → 0 < wrap32 length)

theorem int64_of_lt {length : Nat} (h : length < 2 ^ 63) : int64 length = length :=
  Int.bmod_eq_of_le (by omega) (by omega)

theorem int64_neg {length : Nat} (h : 2 ^ 63 ≤ length) (h64 : length < 2 ^ 64) :
    int64 length < 0 := by
  unfold int64
  rw [Int.bmod_def]
  omega

theorem wrap32_isInt32 {r : Int} (h : IsInt32 r) : wrap32 r = r :=
  Int.bmod_eq_of_le (by have := h.1; omega) (by have := h.2; omega)

theorem fixSize_eq {length : Nat} {s s' : σ} {r : Option Int}
    (h : loop call (int64 length) s = .ok (r, s')) :
    fixSize call length s = .ok (value length r, s') := by
  rw [fixSize, h]
  rfl

theorem fixSize_completes (hprogress : Progress call I) {s : σ} (hI : I [] 0 s) {length : Nat}
    (hlt : length < 2 ^ 63) (hall : Completes call length s) :
    ∃ s' rs, fixSize call length s = .ok (wrap32 length, s') ∧ I rs length s' := by
  obtain ⟨r, s', rs, n, hloop, hI', hending⟩ := loop_spec hprogress length hI
  rw [List.nil_append, Nat.zero_add] at hI'
  cases hending with
  | fail hnot _ _ => exact absurd hall hnot
  | all _ =>
    rw [← int64_of_lt hlt] at hloop
    refine ⟨s', rs, ?_, hI'⟩
    rw [fixSize_eq hloop, value]

theorem fixSize_fails (hprogress : Progress call I)
    (hint : ∀ {rs k s}, I rs k s → ∀ r ∈ rs, IsInt32 r) {s : σ} (hI : I [] 0 s) {length : Nat}
    (hlt : length < 2 ^ 63) (hnot : ¬ Completes call length s) :
    ∃ ret s' rs n, fixSize call length s = .ok (ret, s') ∧ I rs n s' ∧ n < length ∧ ret ≤ 0 ∧
      rs.getLast? = some ret := by
  obtain ⟨r, s', rs, n, hloop, hI', hending⟩ := loop_spec hprogress length hI
  rw [List.nil_append, Nat.zero_add] at hI'
  cases hending with
  | all hall => exact absurd hall hnot
  | @fail len rs _ _ hlen hn =>
    refine ⟨len, s', rs ++ [len], n, ?_, hI', hn, hlen, List.getLast?_concat⟩
    rw [← int64_of_lt hlt] at hloop
    rw [fixSize_eq hloop, value, wrap32_isInt32 (hint hI' len (by simp))]

/-- The loop is not entered. -/
theorem fixSize_negative {length : Nat} (h : 2 ^ 63 ≤ length) (h64 : length < 2 ^ 64) (s : σ) :
    fixSize call length s = .ok (wrap32 length, s) := by
  have hneg : int64 length ≤ 0 := Int.le_of_lt (int64_neg h h64)
  rw [fixSize_eq (loop_of_nonpos hneg s), value]

theorem fixSize_spec (hprogress : Progress call I)
    (hint : ∀ {rs k s}, I rs k s → ∀ r ∈ rs, IsInt32 r) {s : σ} (hI : I [] 0 s) {length : Nat}
    (h1 : 1 ≤ length) (h64 : length < 2 ^ 64) :
    ∃ ret s' rs n, fixSize call length s = .ok (ret, s') ∧ I rs n s' ∧
      (Kept length ret rs n ↔ Fits call length s) := by
  by_cases hlt : length < 2 ^ 63
  · by_cases hall : Completes call length s
    · obtain ⟨s', rs, hfix, hI'⟩ := fixSize_completes hprogress hI hlt hall
      refine ⟨wrap32 length, s', rs, length, hfix, hI', ?_⟩
      constructor
      · intro hkept
        exact ⟨hlt, fun _ => hkept.positive.mpr rfl⟩
      · rintro ⟨-, hpositive⟩
        exact ⟨⟨fun _ => rfl, fun _ => hpositive hall⟩, fun hne => absurd rfl hne⟩
    · obtain ⟨ret, s', rs, n, hfix, hI', hn, hret, hlast⟩ :=
        fixSize_fails hprogress hint hI hlt hall
      refine ⟨ret, s', rs, n, hfix, hI', ?_⟩
      constructor
      · intro _
        exact ⟨hlt, fun h => absurd h hall⟩
      · intro _
        refine ⟨?_, fun _ => ⟨hret, hlast⟩⟩
        constructor <;> intro <;> omega
  · refine ⟨wrap32 length, s, [], 0, fixSize_negative (by omega) h64 s, hI, ?_⟩
    constructor
    · intro hkept
      -- no call was made, so none has failed
      have := (hkept.failing (by omega)).2
      cases this
    · intro hfits
      exact absurd hfits.1 hlt

end Stream

open SocketStream

/-- In every overload the bytes that were moved lie one behind the other, from
    the start of the buffer or from the cursor of the array on, which is behind
    them afterwards; and the value says what it should exactly where the length
    fits. -/
theorem fixSize_iff (memory : Nat → Nat → UInt8) (sock : Network) (w : Traffic) (buffer : Memory)
    {ba : ByteArray} (h : ba.WellFormed) {length : Nat} (h1 : 1 ≤ length) (h64 : length < 2 ^ 64) :
    (∃ ret s rs n, Stream.readFixSize sock length w buffer = .ok (ret, s) ∧
      ReadBuffer sock w buffer rs n s ∧
      (Stream.Kept length ret rs n ↔
        Stream.Fits (Stream.offsetCall (SocketStream.read sock)) length ⟨w, buffer, 0⟩)) ∧
    (∃ ret s rs n, Stream.writeFixSize sock length w buffer = .ok (ret, s) ∧
      WrittenBuffer w buffer rs n s ∧
      (Stream.Kept length ret rs n ↔
        Stream.Fits (Stream.offsetCall (SocketStream.write sock)) length ⟨w, buffer, 0⟩)) ∧
    (∃ ret s rs n, Stream.readFixSizeArray memory sock length w ba = .ok (ret, s) ∧
      ReadArray sock w ba rs n s ∧
      (Stream.Kept length ret rs n ↔ Stream.Fits (readArray memory sock) length ⟨w, ba⟩)) ∧
    (∃ ret s rs n, Stream.writeFixSizeArray sock length w ba = .ok (ret, s) ∧
      WrittenArray w ba rs n s ∧
      (Stream.Kept length ret rs n ↔ Stream.Fits (writeArray sock) length ⟨w, ba⟩)) := by
  refine ⟨?_, ?_, ?_, ?_⟩
  · refine Stream.fixSize_spec (read_progress sock w buffer) (fun hI => hI.1) ⟨by simp, ?_⟩ h1 h64
    simp [slice]
  · refine Stream.fixSize_spec (write_progress sock w buffer) (fun hI => hI.1) ⟨by simp, ?_⟩ h1 h64
    simp [slice]
  · refine Stream.fixSize_spec (readArray_progress memory sock w h) (fun hI => hI.1) ?_ h1 h64
    refine ⟨by simp, by simp, h, rfl, ?_⟩
    simp [slice]
  · refine Stream.fixSize_spec (writeArray_progress sock w) (fun hI => hI.1) ?_ h1 h64
    exact ⟨by simp, by simp, h, rfl, rfl⟩

/-- A connected socket, with the most that the system moves in one call. -/
def Network.steady : Network where
  isConnected _ := true
  result _ asked :=
    { rt := ((min asked 0x7ffff000 : Nat) : Int)
      le := by omega
      lo := by omega
      hi := by omega }
  input _ := 0

theorem Network.steady_completes (n : Nat) :
    ∀ s, Completes (Stream.offsetCall (SocketStream.read steady)) n s := by
  induction n using Nat.strongRecOn with
  | ind n ih =>
    intro s
    by_cases hn : n = 0
    · subst hn
      exact .done
    · have hread : SocketStream.read steady n s = (((min n 0x7ffff000 : Nat) : Int),
          (SocketStream.read steady n s).2) := rfl
      exact .step (by omega) (offsetCall_eq hread) (by omega) (ih _ (by omega) _)

theorem fixSize_iff_five :
    let w : Traffic := ⟨[], 0, []⟩
    let ba := ByteArray.new (fun _ _ => 0) 2
    (∃ ret s rs n, Stream.readFixSize .steady 5 w (fun _ => 1) = .ok (ret, s) ∧
      ReadBuffer .steady w (fun _ => 1) rs n s ∧ Stream.Kept 5 ret rs n) ∧
    (∃ ret s rs n, Stream.writeFixSizeArray .steady 5 w ba = .ok (ret, s) ∧
      WrittenArray w ba rs n s ∧ Stream.Kept 5 ret rs n) := by
  intro w ba
  have hwrap : 0 < wrap32 (5 : Nat) := by
    rw [wrap32_of_lt (by omega) (by omega)]
    omega
  obtain ⟨hread, -, -, hwrite⟩ := fixSize_iff (fun _ _ => 0) .steady w (fun _ => 1)
    (ByteArray.new_wellFormed (fun _ _ => 0) (show 1 ≤ 2 by omega)) (show 1 ≤ 5 by omega)
    (by omega)
  obtain ⟨ret, s, rs, n, hfix, hI, hkept⟩ := hread
  obtain ⟨ret', s', rs', n', hfix', hI', hkept'⟩ := hwrite
  exact ⟨⟨ret, s, rs, n, hfix, hI, hkept.mpr ⟨by omega, fun _ => hwrap⟩⟩,
    ⟨ret', s', rs', n', hfix', hI', hkept'.mpr ⟨by omega, fun _ => hwrap⟩⟩⟩

/-- Two calls read 2 GiB, and the value is negative. -/
theorem readFixSize_overflow :
    ∃ s, Stream.readFixSize .steady (2 ^ 31) ⟨[], 0, []⟩ (fun _ => 1) = .ok (-2 ^ 31, s) ∧
      s.wire.taken = 2 ^ 31 ∧ ¬ Stream.Kept (2 ^ 31) (-2 ^ 31) s.wire.results s.wire.taken := by
  have hI : ReadBuffer .steady ⟨[], 0, []⟩ (fun _ => 1) [] 0 ⟨⟨[], 0, []⟩, fun _ => 1, 0⟩ := by
    refine ⟨by simp, ?_⟩
    simp [slice]
  obtain ⟨s, rs, hfix, -, hs⟩ :=
    Stream.fixSize_completes (read_progress .steady ⟨[], 0, []⟩ fun _ => 1) hI
      (show 2 ^ 31 < 2 ^ 63 by omega) (Network.steady_completes _ _)
  have hwrap : wrap32 ((2 ^ 31 : Nat) : Int) = -2 ^ 31 := by
    unfold wrap32
    rw [Int.bmod_def]
    omega
  have htaken : s.wire.taken = 2 ^ 31 := by
    rw [hs]
    exact Nat.zero_add _
  refine ⟨s, ?_, htaken, ?_⟩
  · rw [hwrap] at hfix
    exact hfix
  · rw [htaken]
    intro hkept
    have hpositive := hkept.positive.mpr rfl
    omega

end MNSER
