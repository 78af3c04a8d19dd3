import Mnser.ByteArray.Operations

/-! # Reading at a position

    The overload of `read` and the overload of `getReadBuffers` that are given
    a position.  The first one looks for the position's block in the current
    node, wherever that is.  The second one finds the block, but takes the
    number of readable bytes from the cursor. -/

namespace MNSER

namespace ByteArray

open Blocks

/-! ## Section 1: The two overloads -/

/-- `read(buf, size, position)`.  Behind `m_size` the difference wraps around
    to more than any size. -/
def readAt (ba : ByteArray) (size position : Nat) : Except MemoryFault Buffer :=
  if position ≤ ba.size ∧ ba.size - position < size then .error .out_of_range
  else
    match ba.cur with
    | none     => .error .null_deref
    | some cur =>
      (readNodes (ba.root.drop cur) (position % ba.baseSize) size).map Prod.fst

/-- `getReadBuffers(buffers, len, position)`: the number returned and the
    segments. -/
def getReadBuffersAt (ba : ByteArray) (len position : Nat) :
    Except MemoryFault (Nat × List IoVec) :=
  let len := if ba.getReadSize < len then ba.getReadSize else len
  if len = 0 then .ok (0, [])
  else
    let cur := position / ba.baseSize
    match segments (ba.root.drop cur) cur (position % ba.baseSize) len with
    | .error e => .error e
    | .ok iovs => .ok (len, iovs)

/-- The bytes of some segments, one after the other. -/
def gather (root : List Buffer) (iovs : List IoVec) : Buffer :=
  (iovs.map fun iov => ((root.getD iov.node []).drop iov.offset).take iov.len).flatten

/-- `toString` -/
def toString (ba : ByteArray) : Except MemoryFault Buffer :=
  if ba.getReadSize = 0 then .ok [] else ba.readAt ba.getReadSize ba.position

/-! ## Section 2: The loops -/

/-- Beyond the last node there is nothing to read. -/
theorem readNodes_fault {b : Nat} (nodes : List Buffer) :
    ∀ {npos n : Nat}, Uniform b nodes → npos < b → 0 < n → nodes.flatten.length < npos + n →
      readNodes nodes npos n = .error .null_deref := by
  induction nodes with
  | nil =>
    intro npos n _ _ _ _
    rfl
  | cons node rest ih =>
    intro npos n huniform hnpos hn hshort
    have hnode : node.length = b := huniform node List.mem_cons_self
    have hrest : Uniform b rest := fun x hx => huniform x (List.mem_cons_of_mem _ hx)
    rw [List.flatten_cons, List.length_append] at hshort
    simp only [readNodes, hnode]
    rw [if_neg (Nat.ne_of_gt hn), if_neg (show ¬ n ≤ b - npos by omega),
      ih hrest (by omega) (by omega) (by omega)]

/-- The segments of the nodes behind `front` hold what the nodes hold. -/
theorem segments_gather {b : Nat} (nodes : List Buffer) :
    ∀ (front : List Buffer) (npos len : Nat), Uniform b nodes → npos < b →
      0 < len → npos + len ≤ nodes.flatten.length →
      ∃ iovs, segments nodes front.length npos len = .ok iovs ∧
        gather (front ++ nodes) iovs = (nodes.flatten.drop npos).take len := by
  induction nodes with
  | nil =>
    intro front npos len _ _ hlen hle
    rw [List.flatten_nil, List.length_nil] at hle
    omega
  | cons node rest ih =>
    intro front npos len huniform hnpos hlen hle
    have hnode : node.length = b := huniform node List.mem_cons_self
    have hrest : Uniform b rest := fun x hx => huniform x (List.mem_cons_of_mem _ hx)
    have hget : (front ++ node :: rest).getD front.length [] = node := by
      simp [List.getD]
    have hdrop : (node.drop npos).length = b - npos := by
      rw [List.length_drop, hnode]
    rw [List.flatten_cons, List.length_append] at hle
    rw [List.flatten_cons, List.drop_append_of_le_length (by omega)]
    simp only [segments, hnode]
    by_cases hfits : len ≤ b - npos
    · refine ⟨[⟨front.length, npos, len⟩], if_pos hfits, ?_⟩
      rw [List.take_append_of_le_length (by omega)]
      simp only [gather, List.map_cons, List.map_nil, List.flatten_cons, List.flatten_nil,
        List.append_nil, hget]
    · -- the first segment is what is left of this node
      obtain ⟨iovs, hsegments, hgather⟩ :=
        ih (front ++ [node]) 0 (len - (b - npos)) hrest (by omega) (by omega) (by omega)
      rw [List.length_append, List.length_singleton] at hsegments
      rw [List.append_assoc, List.singleton_append] at hgather
      refine ⟨⟨front.length, npos, b - npos⟩ :: iovs, ?_, ?_⟩
      · rw [if_neg hfits, hsegments]
      · rw [List.take_append, List.take_of_length_le (by omega), hdrop]
        unfold gather at hgather ⊢
        rw [List.map_cons, List.flatten_cons, hgather, hget, List.drop_zero,
          List.take_of_length_le (Nat.le_of_eq hdrop)]

/-! ## Section 3: Where the overloads read -/

/-- The place `read` takes for `position`: the same offset in the cursor's block. -/
def readsFrom (ba : ByteArray) (position : Nat) : Nat :=
  ba.position / ba.baseSize * ba.baseSize + position % ba.baseSize

theorem readsFrom_sameBlock {ba : ByteArray} {position : Nat}
    (hblock : ba.position / ba.baseSize = position / ba.baseSize) :
    ba.readsFrom position = position := by
  unfold readsFrom
  rw [hblock, Nat.div_add_mod']

theorem WellFormed.drop_block {ba : ByteArray} (h : ba.WellFormed) {i : Nat}
    (hi : i ≤ ba.root.length) (npos : Nat) :
    (ba.root.drop i).flatten.drop npos = ba.root.flatten.drop (i * ba.baseSize + npos) := by
  rw [h.blocks.flatten_drop hi, List.drop_drop]

theorem readAt_eq {ba : ByteArray} (h : ba.WellFormed) {size position : Nat} (hsize : 1 ≤ size)
    (hrange : position + size ≤ ba.size) :
    ba.readAt size position =
      if ba.readsFrom position + size ≤ ba.capacity then
        .ok ((ba.root.flatten.drop (ba.readsFrom position)).take size)
      else .error .null_deref := by
  have hbase := h.base
  have hmod := Nat.mod_lt position hbase
  have hcap := h.size
  unfold readAt
  rw [if_neg (by omega)]
  by_cases hend : ba.position = ba.capacity
  · -- there is no current node, and nothing behind it
    have hblocks : ba.position / ba.baseSize * ba.baseSize = ba.capacity := by
      rw [hend, h.capacity, Nat.mul_div_cancel _ hbase]
    rw [h.cur_eq_none.mpr hend, if_neg]
    unfold readsFrom
    omega
  · have hle := Nat.le_trans h.position h.size
    have hlt : ba.position < ba.capacity := by omega
    have hindex := h.index_lt.mpr hlt
    have hrest := h.rest_length hlt
    have hblock := Nat.div_add_mod' ba.position ba.baseSize
    rw [h.cur_eq_some hlt]
    dsimp only
    by_cases hroom : ba.readsFrom position + size ≤ ba.capacity
    · have hread := readNodes_spec hbase (ba.root.drop (ba.position / ba.baseSize))
        (position % ba.baseSize) size (h.blocks.drop _) hmod hsize
        (by unfold readsFrom at hroom; omega)
      rw [if_pos hroom, hread, h.drop_block (Nat.le_of_lt hindex)]
      rfl
    · rw [if_neg hroom, readNodes_fault _ (h.blocks.drop _) hmod hsize
        (by unfold readsFrom at hroom; omega)]
      rfl

theorem content_drop_take {ba : ByteArray} {size position : Nat}
    (hrange : position + size ≤ ba.size) :
    (ba.content.drop position).take size = (ba.root.flatten.drop position).take size := by
  unfold content
  rw [List.drop_take, List.take_take, Nat.min_eq_left (by omega)]

/-- `setPosition` and `read` as two calls. -/
theorem seek_read {ba : ByteArray} (h : ba.WellFormed) {size position : Nat} (hsize : 1 ≤ size)
    (hrange : position + size ≤ ba.size) :
    ∃ ba₁ ba₂, ba.setPosition position = .ok ba₁ ∧
      ba₁.read size = .ok (ba₂, (ba.content.drop position).take size) := by
  have hcap := h.size
  obtain ⟨ba₁, hset, h₁, _, _, hposition, hbytes, _, hroot⟩ :=
    setPosition_spec h (show position ≤ ba.capacity by omega)
  rw [Nat.max_eq_left (by omega)] at hbytes
  have hcontent : ba₁.content = ba.content := by
    unfold content
    rw [hroot, hbytes]
  obtain ⟨ba₂, hread, _⟩ := read_spec h₁ hsize (by unfold getReadSize; omega)
  rw [hcontent, hposition] at hread
  exact ⟨ba₁, ba₂, hset, hread⟩

theorem getReadBuffersAt_eq {ba : ByteArray} (h : ba.WellFormed) {len position : Nat}
    (hrange : position + min len ba.getReadSize ≤ ba.capacity) :
    ∃ iovs, ba.getReadBuffersAt len position = .ok (min len ba.getReadSize, iovs) ∧
      gather ba.root iovs = (ba.root.flatten.drop position).take (min len ba.getReadSize) := by
  have hclamp : (if ba.getReadSize < len then ba.getReadSize else len) =
      min len ba.getReadSize := by
    split <;> omega
  unfold getReadBuffersAt
  rw [hclamp]
  generalize min len ba.getReadSize = n at hrange
  by_cases hn : n = 0
  · subst hn
    exact ⟨[], rfl, List.take_zero.symm⟩
  · have hindex := h.index_lt.mpr (show position < ba.capacity by omega)
    have hblock := Nat.div_add_mod' position ba.baseSize
    have hfront : (ba.root.take (position / ba.baseSize)).length = position / ba.baseSize := by
      rw [List.length_take]
      omega
    have hlength : (ba.root.drop (position / ba.baseSize)).flatten.length =
        ba.capacity - position / ba.baseSize * ba.baseSize := by
      rw [h.blocks.flatten_drop (Nat.le_of_lt hindex), List.length_drop, h.flatten_length]
    obtain ⟨iovs, hsegments, hgather⟩ :=
      segments_gather (ba.root.drop (position / ba.baseSize))
        (ba.root.take (position / ba.baseSize)) (position % ba.baseSize) n (h.blocks.drop _)
        (Nat.mod_lt position h.base) (by omega) (by omega)
    rw [hfront] at hsegments
    rw [List.take_append_drop, h.drop_block (Nat.le_of_lt hindex), hblock] at hgather
    refine ⟨iovs, ?_, hgather⟩
    dsimp only
    rw [if_neg hn, hsegments]

theorem toString_eq {ba : ByteArray} (h : ba.WellFormed) :
    ba.toString = .ok (ba.content.drop ba.position) := by
  have hlength := h.content_length
  have hposition := h.position
  unfold toString
  by_cases hempty : ba.getReadSize = 0
  · rw [if_pos hempty, List.drop_of_length_le (by unfold getReadSize at hempty; omega)]
  · unfold getReadSize at hempty ⊢
    have hcap := h.size
    rw [if_neg hempty, readAt_eq h (by omega) (by omega), readsFrom_sameBlock rfl,
      if_pos (by omega), ← content_drop_take (by omega), List.take_of_length_le]
    exact Nat.le_of_eq (List.length_drop.trans (by rw [hlength]))

/-- The number `getReadBuffers` returns does not depend on the position. -/
theorem getReadBuffersAt_number {ba : ByteArray} {len position n : Nat} {iovs : List IoVec}
    (h : ba.getReadBuffersAt len position = .ok (n, iovs)) : n = min len ba.getReadSize := by
  have hclamp : (if ba.getReadSize < len then ba.getReadSize else len) =
      min len ba.getReadSize := by
    split <;> omega
  unfold getReadBuffersAt at h
  rw [hclamp] at h
  dsimp only at h
  split at h
  · rename_i hzero
    obtain ⟨rfl, _⟩ := Prod.mk.inj (Except.ok.inj h)
    exact hzero.symm
  · split at h
    · cases h
    · exact (Prod.mk.inj (Except.ok.inj h)).1.symm

/-! ## Section 4: When they agree -/

/-- `read(buf, size, position)` copies what `setPosition` and `read` return. -/
def ReadsAt (ba : ByteArray) (size position : Nat) : Prop :=
  ∃ ba₁ ba₂ bytes, ba.setPosition position = .ok ba₁ ∧ ba₁.read size = .ok (ba₂, bytes) ∧
    ba.readAt size position = .ok bytes

/-- `getReadBuffers(buffers, len, position)` yields the first bytes from
    `position` on, as many as there are up to `len`. -/
def BuffersAt (ba : ByteArray) (len position : Nat) : Prop :=
  ∃ iovs, ba.getReadBuffersAt len position = .ok (min len (ba.size - position), iovs) ∧
    gather ba.root iovs = (ba.content.drop position).take (min len (ba.size - position))

theorem readsAt_iff {ba : ByteArray} (h : ba.WellFormed) {size position : Nat} (hsize : 1 ≤ size)
    (hrange : position + size ≤ ba.size) :
    ba.ReadsAt size position ↔
      ba.readsFrom position + size ≤ ba.capacity ∧
        (ba.root.flatten.drop (ba.readsFrom position)).take size =
          (ba.root.flatten.drop position).take size := by
  obtain ⟨ba₁, ba₂, hset, hread⟩ := seek_read h hsize hrange
  have hat := readAt_eq h hsize hrange
  rw [content_drop_take hrange] at hread
  constructor
  · rintro ⟨ba₁', ba₂', bytes, hset', hread', hat'⟩
    obtain rfl := Except.ok.inj (hset.symm.trans hset')
    obtain ⟨_, rfl⟩ := Prod.mk.inj (Except.ok.inj (hread.symm.trans hread'))
    rw [hat'] at hat
    split at hat
    · rename_i hroom
      exact ⟨hroom, (Except.ok.inj hat).symm⟩
    · cases hat
  · rintro ⟨hroom, hbytes⟩
    rw [if_pos hroom, hbytes] at hat
    exact ⟨ba₁, ba₂, _, hset, hread, hat⟩

theorem buffersAt_iff {ba : ByteArray} (h : ba.WellFormed) {len position : Nat}
    (hposition : position ≤ ba.size) :
    ba.BuffersAt len position ↔
      min len (ba.size - ba.position) = min len (ba.size - position) := by
  constructor
  · rintro ⟨iovs, hbuffers, _⟩
    exact (getReadBuffersAt_number hbuffers).symm
  · intro hnumber
    have hcap := h.size
    have hnumber' : min len ba.getReadSize = min len (ba.size - position) := hnumber
    obtain ⟨iovs, hbuffers, hgather⟩ :=
      getReadBuffersAt_eq h (show position + min len ba.getReadSize ≤ ba.capacity by omega)
    rw [hnumber'] at hbuffers hgather
    exact ⟨iovs, hbuffers, by rw [content_drop_take (by omega), hgather]⟩

end ByteArray

/-- The overloads read what is at the position exactly when the cursor's block
    holds the same bytes at the same offset (it does when it is the position's
    block), and the cursor leaves as many bytes as the position does. -/
theorem positional_reads_iff {ba : ByteArray} (h : ba.WellFormed) {size position len start : Nat}
    (hsize : 1 ≤ size) (hrange : position + size ≤ ba.size) (hstart : start ≤ ba.size) :
    ba.ReadsAt size position ∧ ba.BuffersAt len start ↔
      (ba.readsFrom position + size ≤ ba.capacity ∧
        (ba.root.flatten.drop (ba.readsFrom position)).take size =
          (ba.root.flatten.drop position).take size) ∧
      min len (ba.size - ba.position) = min len (ba.size - start) := by
  rw [ByteArray.readsAt_iff h hsize hrange, ByteArray.buffersAt_iff h hstart]

/-- Blocks of two bytes.  The cursor is in the block of the position, and
    leaves the two bytes asked for. -/
theorem positional_reads_iff_block :
    let ba : ByteArray :=
      { baseSize := 2, position := 2, capacity := 6, endian := .big, size := 5
        root := [[1, 2], [3, 4], [5, 0]], cur := some 1, created := 3 }
    ba.ReadsAt 2 3 ∧ ba.BuffersAt 2 1 := by
  intro ba
  have h : ba.WellFormed :=
    { base     := by decide
      blocks   := by unfold Blocks.Uniform; decide
      first    := by decide
      capacity := by decide
      position := by decide
      size     := by decide
      cur      := by decide }
  exact (positional_reads_iff h (by decide) (by decide) (by decide)).mpr
    ⟨⟨by decide, by decide⟩, by decide⟩

/-- The cursor at the start: the byte at position 2 is looked for in the first
    block.  The cursor at the end: there is nothing to get from position 0. -/
theorem positional_reads_cursor :
    let ba : ByteArray :=
      { baseSize := 2, position := 0, capacity := 4, endian := .big, size := 4
        root := [[1, 2], [3, 4]], cur := some 0, created := 2 }
    ba.readAt 1 2 = .ok [1] ∧ ¬ ba.ReadsAt 1 2 ∧
      ¬ ({ ba with position := 4, cur := none } : ByteArray).BuffersAt 1 0 := by
  intro ba
  have h : ba.WellFormed :=
    { base     := by decide
      blocks   := by unfold Blocks.Uniform; decide
      first    := by decide
      capacity := by decide
      position := by decide
      size     := by decide
      cur      := by decide }
  refine ⟨by decide, fun hreads => ?_, ?_⟩
  · exact absurd ((ByteArray.readsAt_iff h (by decide) (by decide)).mp hreads).2 (by decide)
  · rintro ⟨iovs, hbuffers, _⟩
    exact absurd (ByteArray.getReadBuffersAt_number hbuffers) (by decide)

end MNSER
