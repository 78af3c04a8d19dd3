import Mnser.ByteArray.Model

/-! # What the operations of ByteArray do

    One lemma for each loop, by induction on the nodes it goes through, and
    from it one for each operation: it does not fail, it keeps `WellFormed`,
    and it does to `content` what it would do to a flat sequence of bytes. -/

namespace MNSER

namespace ByteArray

open Blocks

variable (memory : Nat → Nat → UInt8)

/-! ## Section 1: The invariant -/

structure WellFormed (ba : ByteArray) : Prop where
  base     : 0 < ba.baseSize
  blocks   : Uniform ba.baseSize ba.root
  first    : 0 < ba.root.length
  capacity : ba.capacity = ba.root.length * ba.baseSize
  position : ba.position ≤ ba.size
  size     : ba.size ≤ ba.capacity
  cur      : ba.cur = pointer ba.root (ba.position / ba.baseSize)

/-- The bytes in front of `m_size`. -/
def content (ba : ByteArray) : Buffer := ba.root.flatten.take ba.size

theorem WellFormed.flatten_length {ba : ByteArray} (h : ba.WellFormed) :
    ba.root.flatten.length = ba.capacity := by
  rw [h.blocks.length_flatten, h.capacity]

theorem WellFormed.content_length {ba : ByteArray} (h : ba.WellFormed) :
    ba.content.length = ba.size := by
  unfold content
  rw [List.length_take, h.flatten_length, Nat.min_eq_left h.size]

/-- Below the capacity a position falls into one of the nodes. -/
theorem WellFormed.index_lt {ba : ByteArray} (h : ba.WellFormed) {p : Nat} :
    p / ba.baseSize < ba.root.length ↔ p < ba.capacity := by
  rw [h.capacity, Nat.div_lt_iff_lt_mul h.base]

theorem WellFormed.cur_eq_none {ba : ByteArray} (h : ba.WellFormed) :
    ba.cur = none ↔ ba.position = ba.capacity := by
  have hle := Nat.le_trans h.position h.size
  rw [h.cur, pointer]
  split
  · rename_i hlt
    have := h.index_lt.mp hlt
    constructor
    · intro hnone
      cases hnone
    · intro heq
      omega
  · rename_i hge
    rw [h.index_lt] at hge
    exact ⟨fun _ => by omega, fun _ => rfl⟩

theorem WellFormed.cur_eq_some {ba : ByteArray} (h : ba.WellFormed)
    (hlt : ba.position < ba.capacity) : ba.cur = some (ba.position / ba.baseSize) := by
  rw [h.cur, pointer, if_pos (h.index_lt.mpr hlt)]

/-- The nodes from `m_cur` on start where the position's block starts. -/
theorem WellFormed.rest_length {ba : ByteArray} (h : ba.WellFormed)
    (hlt : ba.position < ba.capacity) :
    (ba.root.drop (ba.position / ba.baseSize)).flatten.length =
      ba.position % ba.baseSize + (ba.capacity - ba.position) := by
  have hblock := Nat.div_add_mod ba.position ba.baseSize
  rw [h.blocks.flatten_drop (Nat.le_of_lt (h.index_lt.mpr hlt)), List.length_drop, h.flatten_length,
    Nat.mul_comm]
  omega

theorem new_wellFormed {base_size : Nat} (hbase : 1 ≤ base_size) :
    (new memory base_size).WellFormed where
  base     := hbase
  blocks   := Uniform.cons (newNode_length _ _ _) fun _ hx => nomatch hx
  first    := Nat.one_pos
  capacity := (Nat.one_mul _).symm
  position := Nat.le_refl _
  size     := Nat.zero_le _
  cur      := by simp [new, pointer]

/-! ## Section 2: addCapacity -/

/-- The nodes that are added, and nothing else. -/
structure Grown (ba ba' : ByteArray) : Prop where
  wellFormed : ba'.WellFormed
  baseSize   : ba'.baseSize = ba.baseSize
  position   : ba'.position = ba.position
  size       : ba'.size = ba.size
  endian     : ba'.endian = ba.endian
  root       : ∃ nodes, ba'.root = ba.root ++ nodes

theorem Grown.content {ba ba' : ByteArray} (h : ba.WellFormed) (hgrown : Grown ba ba') :
    ba'.content = ba.content := by
  obtain ⟨nodes, hroot⟩ := hgrown.root
  unfold ByteArray.content
  rw [hroot, hgrown.size, List.flatten_append, List.take_append_of_le_length]
  rw [h.flatten_length]
  exact h.size

/-- Enough nodes for what is missing, and not one more. -/
theorem count_spec {base : Nat} (hbase : 0 < base) (missing : Nat) :
    missing ≤ (missing + (base - 1)) / base * base ∧
      (missing + (base - 1)) / base * base < missing + base := by
  have hdiv := Nat.div_add_mod (missing + (base - 1)) base
  have hmod := Nat.mod_lt (missing + (base - 1)) hbase
  rw [Nat.mul_comm] at hdiv
  omega

theorem addCapacity_of_le {ba : ByteArray} {n : Nat} (h : n ≤ ba.getCapacity) :
    ba.addCapacity memory n = ba := by
  unfold addCapacity
  rw [if_pos h]
  exact ite_self _

/-- Growing goes on to the first multiple of the block size that is enough. -/
theorem addCapacity_spec {ba : ByteArray} (h : ba.WellFormed) (n : Nat) :
    Grown ba (ba.addCapacity memory n) ∧
      ba.position + n ≤ (ba.addCapacity memory n).capacity ∧
      ((ba.addCapacity memory n).capacity = ba.capacity ∨
        (ba.addCapacity memory n).capacity < ba.position + n + ba.baseSize) := by
  have hpos := Nat.le_trans h.position h.size
  by_cases hle : n ≤ ba.getCapacity
  · rw [addCapacity_of_le memory hle]
    unfold getCapacity at hle
    exact ⟨⟨h, rfl, rfl, rfl, rfl, [], (List.append_nil _).symm⟩, by omega, Or.inl rfl⟩
  · have hn : n ≠ 0 := fun hzero => hle (hzero ▸ Nat.zero_le _)
    have hcount := count_spec h.base (n - ba.getCapacity)
    have hcap := h.capacity
    unfold addCapacity
    rw [if_neg hn]
    dsimp only
    rw [if_neg hle]
    generalize hc : (n - ba.getCapacity + (ba.baseSize - 1)) / ba.baseSize = count at hcount
    generalize hnodes : ((List.range count).map fun i =>
      newNode memory (ba.created + i) ba.baseSize) = nodes
    have hlen : nodes.length = count := by
      rw [← hnodes, List.length_map, List.length_range]
    have huniform : Uniform ba.baseSize nodes := by
      intro x hx
      rw [← hnodes] at hx
      obtain ⟨i, _, rfl⟩ := List.mem_map.mp hx
      exact newNode_length _ _ _
    unfold getCapacity at hcount hle
    -- m_cur moves to the first new node only when it was behind the last one
    have hcur : (if ba.getCapacity = 0 then pointer (ba.root ++ nodes) ba.root.length else ba.cur) =
        pointer (ba.root ++ nodes) (ba.position / ba.baseSize) := by
      by_cases hfull : ba.getCapacity = 0
      · -- the position is at the end of the last node
        unfold getCapacity at hfull
        rw [if_pos (by unfold getCapacity; exact hfull), show ba.position = ba.capacity by omega, hcap,
          Nat.mul_div_cancel _ h.base]
      · have hlt : ba.position < ba.capacity := by
          unfold getCapacity at hfull
          omega
        have hindex := h.index_lt.mpr hlt
        rw [if_neg hfull, h.cur_eq_some hlt, pointer, List.length_append, if_pos (by omega)]
    refine ⟨⟨⟨h.base, h.blocks.append huniform, ?_, ?_, h.position, ?_, hcur⟩,
      rfl, rfl, rfl, rfl, nodes, rfl⟩, ?_, Or.inr ?_⟩
    · show 0 < (ba.root ++ nodes).length
      rw [List.length_append]
      have := h.first
      omega
    · show ba.capacity + count * ba.baseSize = (ba.root ++ nodes).length * ba.baseSize
      rw [List.length_append, Nat.add_mul, hlen, hcap]
    · show ba.size ≤ ba.capacity + count * ba.baseSize
      exact Nat.le_trans h.size (Nat.le_add_right _ _)
    · show ba.position + n ≤ ba.capacity + count * ba.baseSize
      omega
    · show ba.capacity + count * ba.baseSize < ba.position + n + ba.baseSize
      omega

/-! ## Section 3: write -/

theorem writeNodes_spec {b : Nat} (hb : 0 < b) (nodes : List Buffer) :
    ∀ (npos : Nat) (buf : Buffer), Uniform b nodes → npos < b → buf ≠ [] →
      npos + buf.length ≤ nodes.flatten.length →
      ∃ nodes', writeNodes nodes npos buf = .ok (nodes', (npos + buf.length) / b) ∧
        nodes'.flatten = overwrite nodes.flatten npos buf ∧ Uniform b nodes' ∧
        nodes'.length = nodes.length := by
  -- induction on the nodes; from the second on the walk starts at offset 0
  induction nodes with
  | nil =>
    intro npos buf _ _ hbuf hle
    have := List.length_pos_iff.mpr hbuf
    rw [List.flatten_nil, List.length_nil] at hle
    omega
  | cons node rest ih =>
    intro npos buf huniform hnpos hbuf hle
    have hnode : node.length = b := huniform node List.mem_cons_self
    have hrest : Uniform b rest := fun x hx => huniform x (List.mem_cons_of_mem _ hx)
    rw [List.flatten_cons, List.length_append] at hle
    simp only [writeNodes, hnode]
    by_cases hfits : buf.length ≤ b - npos
    · have hover : npos + buf.length ≤ node.length := by omega
      refine ⟨overwrite node npos buf :: rest, ?_, ?_, ?_, rfl⟩
      · rw [if_pos hfits]
        by_cases hend : b = npos + buf.length
        · rw [if_pos hend, ← hend, Nat.div_self hb]
        · rw [if_neg hend, Nat.div_eq_of_lt (by omega)]
      · rw [List.flatten_cons, List.flatten_cons, overwrite_append_left _ hover]
      · exact Uniform.cons ((overwrite_length hover).trans hnode) hrest
    · -- the first node takes what fits, the others start at their first byte
      have htake : (buf.take (b - npos)).length = b - npos := by
        rw [List.length_take]
        omega
      have hdrop : (buf.drop (b - npos)).length = buf.length - (b - npos) := List.length_drop
      have hne : buf.drop (b - npos) ≠ [] := by
        intro hnil
        rw [hnil, List.length_nil] at hdrop
        omega
      obtain ⟨rest', hwrite, hflat, huniform', hlen⟩ := ih 0 (buf.drop (b - npos)) hrest hb hne (by omega)
      have hover : npos + (buf.take (b - npos)).length ≤ node.length := by omega
      refine ⟨overwrite node npos (buf.take (b - npos)) :: rest', ?_, ?_, ?_, ?_⟩
      · rw [if_neg hfits, hwrite]
        dsimp only
        rw [hdrop, Nat.zero_add, show npos + buf.length = (buf.length - (b - npos)) + b by omega,
          Nat.add_div_right _ hb]
      · rw [List.flatten_cons, List.flatten_cons, hflat, overwrite_append _ _ (by omega), hnode]
      · exact Uniform.cons ((overwrite_length hover).trans hnode) huniform'
      · rw [List.length_cons, List.length_cons, hlen]

/-- A position and the bytes behind it, in blocks. -/
theorem block_add (p n b : Nat) : p / b + (p % b + n) / b = (p + n) / b := by
  rcases Nat.eq_zero_or_pos b with rfl | hb
  · simp
  · have hp := Nat.div_add_mod p b
    conv_rhs => rw [← hp, Nat.add_assoc, Nat.mul_add_div hb]

/-- Overwriting what `m_cur` points to overwrites at the position. -/
theorem WellFormed.overwrite_cur {ba : ByteArray} (h : ba.WellFormed)
    (hlt : ba.position < ba.capacity) {nodes : List Buffer} {buf : Buffer}
    (hnodes : nodes.flatten = overwrite (ba.root.drop (ba.position / ba.baseSize)).flatten
      (ba.position % ba.baseSize) buf) :
    (ba.root.take (ba.position / ba.baseSize) ++ nodes).flatten =
      overwrite ba.root.flatten ba.position buf := by
  rw [List.flatten_append, hnodes, h.blocks.overwrite_drop (Nat.le_of_lt (h.index_lt.mpr hlt)),
    Nat.mul_comm, Nat.div_add_mod]

theorem size_update (size position : Nat) :
    (if size < position then position else size) = max size position := by
  split <;> omega

theorem write_spec {ba : ByteArray} (h : ba.WellFormed) (buf : Buffer) :
    ∃ ba', ba.write memory buf = .ok ba' ∧ ba'.WellFormed ∧
      ba'.baseSize = ba.baseSize ∧ ba'.endian = ba.endian ∧
      ba'.position = ba.position + buf.length ∧
      ba'.content = overwrite ba.content ba.position buf ∧
      (ba'.capacity = ba.capacity ∨ ba'.capacity < ba.position + buf.length + ba.baseSize) := by
  by_cases hbuf : buf = []
  · subst hbuf
    exact ⟨ba, rfl, h, rfl, rfl, rfl, (overwrite_nil _ _).symm, Or.inl rfl⟩
  · obtain ⟨hgrown, hroom, hcap⟩ := addCapacity_spec memory h buf.length
    have hcontent := hgrown.content h
    unfold write
    rw [if_neg hbuf]
    dsimp only
    generalize ba.addCapacity memory buf.length = ba₁ at hgrown hroom hcap hcontent ⊢
    have h₁ := hgrown.wellFormed
    have hpos := List.length_pos_iff.mpr hbuf
    have hlt : ba₁.position < ba₁.capacity := by
      rw [hgrown.position]
      omega
    have hindex := h₁.index_lt.mpr hlt
    have hlen := h₁.rest_length hlt
    have hposition := hgrown.position
    obtain ⟨nodes, hwrite, hflat, huniform, hnodes⟩ :=
      writeNodes_spec h₁.base (ba₁.root.drop (ba₁.position / ba₁.baseSize))
        (ba₁.position % ba₁.baseSize) buf (h₁.blocks.drop _) (Nat.mod_lt _ h₁.base) hbuf (by omega)
    have hroot : (ba₁.root.take (ba₁.position / ba₁.baseSize) ++ nodes).length =
        ba₁.root.length := by
      rw [List.length_append, hnodes, List.length_take, List.length_drop]
      omega
    -- the nodes before the cursor are kept, those behind it are overwritten
    have hover := h₁.overwrite_cur hlt hflat
    rw [h₁.cur_eq_some hlt]
    dsimp only
    rw [hwrite]
    refine ⟨_, rfl, ⟨h₁.base, (h₁.blocks.take _).append huniform, ?_, ?_, ?_, ?_, ?_⟩,
      hgrown.baseSize, hgrown.endian, ?_, ?_, hcap⟩
    · rw [hroot]
      exact h₁.first
    · rw [hroot]
      exact h₁.capacity
    · dsimp only
      rw [size_update]
      exact Nat.le_max_right _ _
    · dsimp only
      rw [size_update, hgrown.position]
      exact Nat.max_le.mpr ⟨h₁.size, hroom⟩
    · dsimp only
      rw [block_add]
      unfold pointer
      rw [hroot]
    · dsimp only
      rw [hgrown.position]
    · show ((ba₁.root.take _ ++ nodes).flatten).take _ = _
      rw [hover, size_update, take_overwrite h₁.position (h₁.flatten_length ▸ h₁.size),
        ← hcontent, hgrown.position]
      rfl

/-! ## Section 4: read -/

theorem readNodes_spec {b : Nat} (hb : 0 < b) (nodes : List Buffer) :
    ∀ (npos n : Nat), Uniform b nodes → npos < b → 0 < n → npos + n ≤ nodes.flatten.length →
      readNodes nodes npos n = .ok ((nodes.flatten.drop npos).take n, (npos + n) / b) := by
  induction nodes with
  | nil =>
    intro npos n _ _ hn hle
    rw [List.flatten_nil, List.length_nil] at hle
    omega
  | cons node rest ih =>
    intro npos n huniform hnpos hn hle
    have hnode : node.length = b := huniform node List.mem_cons_self
    have hrest : Uniform b rest := fun x hx => huniform x (List.mem_cons_of_mem _ hx)
    rw [List.flatten_cons, List.length_append] at hle
    simp only [readNodes, hnode]
    rw [if_neg (Nat.ne_of_gt hn), List.flatten_cons,
      List.drop_append_of_le_length (show npos ≤ node.length by omega)]
    by_cases hfits : n ≤ b - npos
    · rw [if_pos hfits, List.take_append_of_le_length (by rw [List.length_drop]; omega)]
      by_cases hend : b = npos + n
      · rw [if_pos hend, ← hend, Nat.div_self hb]
      · rw [if_neg hend, Nat.div_eq_of_lt (by omega)]
    · have hdrop : (node.drop npos).length = b - npos := by
        rw [List.length_drop, hnode]
      rw [if_neg hfits, ih 0 (n - (b - npos)) hrest hb (by omega) (by omega)]
      dsimp only
      rw [List.drop_zero, Nat.zero_add, List.take_append,
        List.take_of_length_le (show (node.drop npos).length ≤ n by omega), hdrop,
        show npos + n = (n - (b - npos)) + b by omega, Nat.add_div_right _ hb]

theorem read_spec {ba : ByteArray} (h : ba.WellFormed) {n : Nat} (hn : 1 ≤ n)
    (hle : n ≤ ba.getReadSize) :
    ∃ ba', ba.read n = .ok (ba', (ba.content.drop ba.position).take n) ∧ ba'.WellFormed ∧
      ba'.baseSize = ba.baseSize ∧ ba'.endian = ba.endian ∧
      ba'.position = ba.position + n ∧ ba'.size = ba.size ∧ ba'.capacity = ba.capacity ∧
      ba'.content = ba.content := by
  unfold getReadSize at hle
  have hcap := h.size
  have hlt : ba.position < ba.capacity := by omega
  have hblock := Nat.div_add_mod ba.position ba.baseSize
  rw [Nat.mul_comm] at hblock
  have hlen := h.rest_length hlt
  have hread := readNodes_spec h.base (ba.root.drop (ba.position / ba.baseSize))
    (ba.position % ba.baseSize) n (h.blocks.drop _) (Nat.mod_lt ba.position h.base) hn (by omega)
  have hbytes : ((ba.root.drop (ba.position / ba.baseSize)).flatten.drop
      (ba.position % ba.baseSize)).take n = (ba.content.drop ba.position).take n := by
    unfold content
    rw [h.blocks.flatten_drop (Nat.le_of_lt (h.index_lt.mpr hlt)), List.drop_drop, hblock, List.drop_take,
      List.take_take, Nat.min_eq_left hle]
  unfold read getReadSize
  rw [if_neg (show ¬ ba.size - ba.position < n by omega), h.cur_eq_some hlt]
  dsimp only
  rw [hread, hbytes]
  refine ⟨_, rfl, ⟨h.base, h.blocks, h.first, h.capacity, ?_, h.size, ?_⟩,
    rfl, rfl, rfl, rfl, rfl, rfl⟩
  · dsimp only
    omega
  · dsimp only
    rw [block_add]

/-- Nothing is read, and only at the end of the last node that is a fault. -/
theorem read_zero {ba : ByteArray} (h : ba.WellFormed) :
    ba.read 0 = if ba.position = ba.capacity then .error .null_deref else .ok (ba, []) := by
  unfold read
  rw [if_neg (Nat.not_lt_zero _)]
  by_cases hend : ba.position = ba.capacity
  · rw [h.cur_eq_none.mpr hend, if_pos hend]
  · have hle := Nat.le_trans h.position h.size
    have hlt : ba.position < ba.capacity := by omega
    have hnodes : readNodes (ba.root.drop (ba.position / ba.baseSize))
        (ba.position % ba.baseSize) 0 = .ok ([], 0) := by
      rw [List.drop_eq_getElem_cons (h.index_lt.mpr hlt)]
      rfl
    rw [if_neg hend, h.cur_eq_some hlt]
    dsimp only
    rw [hnodes]
    dsimp only
    rw [Nat.add_zero, Nat.add_zero, ← h.cur]

/-! ## Section 5: setPosition and clear -/

theorem seekNodes_spec {b : Nat} (hb : 0 < b) (nodes : List Buffer) :
    ∀ {v : Nat}, Uniform b nodes → nodes ≠ [] → v ≤ nodes.flatten.length →
      seekNodes nodes v = .ok (v / b) := by
  induction nodes with
  | nil =>
    intro v _ hne
    exact absurd rfl hne
  | cons node rest ih =>
    intro v huniform _ hle
    have hnode : node.length = b := huniform node List.mem_cons_self
    have hrest : Uniform b rest := fun x hx => huniform x (List.mem_cons_of_mem _ hx)
    rw [List.flatten_cons, List.length_append] at hle
    simp only [seekNodes, hnode]
    by_cases hlt : b < v
    · have hne : rest ≠ [] := by
        rintro rfl
        rw [List.flatten_nil, List.length_nil] at hle
        omega
      rw [if_pos hlt, ih hrest hne (by omega)]
      dsimp only
      conv_rhs => rw [show v = (v - b) + b by omega, Nat.add_div_right _ hb]
    · rw [if_neg hlt]
      by_cases heq : v = b
      · rw [if_pos heq, heq, Nat.div_self hb]
      · rw [if_neg heq, Nat.div_eq_of_lt (by omega)]

theorem setPosition_spec {ba : ByteArray} (h : ba.WellFormed) {v : Nat} (hv : v ≤ ba.capacity) :
    ∃ ba', ba.setPosition v = .ok ba' ∧ ba'.WellFormed ∧
      ba'.baseSize = ba.baseSize ∧ ba'.endian = ba.endian ∧
      ba'.position = v ∧ ba'.size = max ba.size v ∧ ba'.capacity = ba.capacity ∧
      ba'.root = ba.root := by
  have hne : ba.root ≠ [] := List.length_pos_iff.mp h.first
  have hseek := seekNodes_spec h.base ba.root h.blocks hne (h.flatten_length.symm ▸ hv)
  unfold setPosition
  rw [if_neg (Nat.not_lt.mpr hv), hseek]
  refine ⟨_, rfl, ⟨h.base, h.blocks, h.first, h.capacity, ?_, ?_, rfl⟩,
    rfl, rfl, rfl, size_update _ _, rfl, rfl⟩
  · dsimp only
    rw [size_update]
    exact Nat.le_max_right _ _
  · dsimp only
    rw [size_update]
    exact Nat.max_le.mpr ⟨h.size, hv⟩

theorem clear_spec {ba : ByteArray} (h : ba.WellFormed) :
    ba.clear.WellFormed ∧ ba.clear.content = [] ∧ ba.clear.position = 0 := by
  have hlen : (ba.root.take 1).length = 1 := by
    rw [List.length_take]
    have := h.first
    omega
  refine ⟨⟨h.base, h.blocks.take 1, ?_, ?_, Nat.le_refl _, Nat.zero_le _, ?_⟩,
    List.take_zero, rfl⟩
  · show 0 < (ba.root.take 1).length
    rw [hlen]
    exact Nat.one_pos
  · show ba.baseSize = (ba.root.take 1).length * ba.baseSize
    rw [hlen, Nat.one_mul]
  · show pointer ba.root 0 = pointer (ba.root.take 1) (0 / ba.baseSize)
    unfold pointer
    rw [Nat.zero_div, hlen, if_pos h.first, if_pos Nat.one_pos]

/-! ## Section 6: getWriteBuffers -/

/-- The segments of the nodes behind `front`, filled. -/
theorem segments_spec {b : Nat} (hb : 0 < b) (nodes : List Buffer) :
    ∀ (front : List Buffer) (npos len : Nat) (bytes : Buffer), Uniform b nodes → npos < b →
      0 < len → npos + len ≤ nodes.flatten.length → bytes.length ≤ len →
      ∃ iovs nodes', segments nodes front.length npos len = .ok iovs ∧
        fillNodes iovs bytes (front ++ nodes) = front ++ nodes' ∧
        nodes'.flatten = overwrite nodes.flatten npos bytes ∧ Uniform b nodes' ∧
        nodes'.length = nodes.length := by
  -- induction on the nodes, with those already passed in front
  induction nodes with
  | nil =>
    intro front npos len bytes _ _ hlen hle
    rw [List.flatten_nil, List.length_nil] at hle
    omega
  | cons node rest ih =>
    intro front npos len bytes huniform hnpos hlen hle hbytes
    have hnode : node.length = b := huniform node List.mem_cons_self
    have hrest : Uniform b rest := fun x hx => huniform x (List.mem_cons_of_mem _ hx)
    rw [List.flatten_cons, List.length_append] at hle
    have hget : (front ++ node :: rest).getD front.length [] = node := by
      simp [List.getD]
    have hset : ∀ x, (front ++ node :: rest).set front.length x = front ++ x :: rest := by
      intro x
      simp
    simp only [segments, hnode]
    by_cases hfits : len ≤ b - npos
    · have hover : npos + bytes.length ≤ node.length := by omega
      refine ⟨[⟨front.length, npos, len⟩], overwrite node npos bytes :: rest,
        if_pos hfits, ?_, ?_, ?_, rfl⟩
      · simp only [fillNodes]
        rw [hget, hset, List.take_of_length_le hbytes]
      · rw [List.flatten_cons, List.flatten_cons, overwrite_append_left _ hover]
      · exact Uniform.cons ((overwrite_length hover).trans hnode) hrest
    · -- what does not fit into this node goes to the segments behind it
      obtain ⟨iovs, rest', hsegments, hfill, hflat, huniform', hlength⟩ :=
        ih (front ++ [overwrite node npos (bytes.take (b - npos))]) 0 (len - (b - npos))
          (bytes.drop (b - npos)) hrest hb (by omega) (by omega) (by rw [List.length_drop]; omega)
      rw [List.length_append, List.length_singleton] at hsegments
      have hover : npos + (bytes.take (b - npos)).length ≤ node.length := by
        rw [List.length_take]
        omega
      refine ⟨⟨front.length, npos, b - npos⟩ :: iovs,
        overwrite node npos (bytes.take (b - npos)) :: rest', ?_, ?_, ?_, ?_, ?_⟩
      · rw [if_neg hfits, hsegments]
      · simp only [fillNodes]
        rw [hget, hset]
        simpa only [List.append_assoc, List.singleton_append] using hfill
      · rw [List.flatten_cons, List.flatten_cons, hflat, overwrite_append _ _ (by omega), hnode]
      · exact Uniform.cons ((overwrite_length hover).trans hnode) huniform'
      · rw [List.length_cons, List.length_cons, hlength]

/-- Filling the segments overwrites at the position, which does not move. -/
theorem getWriteBuffers_spec {ba : ByteArray} (h : ba.WellFormed) {len : Nat} {bytes : Buffer}
    (hbytes : bytes.length ≤ len) :
    ∃ ba₁ iovs, ba.getWriteBuffers memory len = .ok (ba₁, iovs) ∧ Grown ba ba₁ ∧
      ba.position + bytes.length ≤ ba₁.capacity ∧ (ba₁.fill iovs bytes).WellFormed ∧
      (ba₁.fill iovs bytes).root.flatten = overwrite ba₁.root.flatten ba.position bytes := by
  by_cases hlen : len = 0
  · have hnil : bytes = [] := List.length_eq_zero_iff.mp (by omega)
    subst hnil
    refine ⟨ba, [], if_pos hlen, ⟨h, rfl, rfl, rfl, rfl, [], (List.append_nil _).symm⟩, ?_, h, ?_⟩
    · exact Nat.le_trans h.position h.size
    · rw [overwrite_nil]
      rfl
  · obtain ⟨hgrown, hroom, _⟩ := addCapacity_spec memory h len
    unfold getWriteBuffers
    rw [if_neg hlen]
    dsimp only
    generalize ba.addCapacity memory len = ba₁ at hgrown hroom ⊢
    have h₁ := hgrown.wellFormed
    have hposition := hgrown.position
    have hlt : ba₁.position < ba₁.capacity := by omega
    have hindex := h₁.index_lt.mpr hlt
    have hrest := h₁.rest_length hlt
    have hfront : (ba₁.root.take (ba₁.position / ba₁.baseSize)).length =
        ba₁.position / ba₁.baseSize := by
      rw [List.length_take]
      omega
    obtain ⟨iovs, nodes, hsegments, hfill, hflat, huniform, hnodes⟩ :=
      segments_spec h₁.base (ba₁.root.drop (ba₁.position / ba₁.baseSize))
        (ba₁.root.take (ba₁.position / ba₁.baseSize)) (ba₁.position % ba₁.baseSize) len bytes
        (h₁.blocks.drop _) (Nat.mod_lt ba₁.position h₁.base) (by omega) (by omega) hbytes
    rw [hfront] at hsegments
    rw [List.take_append_drop] at hfill
    -- filling the segments overwrites from the cursor on
    have hover := h₁.overwrite_cur hlt hflat
    rw [h₁.cur_eq_some hlt]
    dsimp only
    rw [hsegments]
    have hroot : (ba₁.fill iovs bytes).root.length = ba₁.root.length := by
      show (fillNodes iovs bytes ba₁.root).length = _
      rw [hfill, List.length_append, hnodes, hfront, List.length_drop]
      omega
    refine ⟨ba₁, iovs, rfl, hgrown, by omega, ⟨h₁.base, ?_, ?_, ?_, h₁.position, h₁.size, ?_⟩, ?_⟩
    · show Uniform ba₁.baseSize (fillNodes iovs bytes ba₁.root)
      rw [hfill]
      exact (h₁.blocks.take _).append huniform
    · rw [hroot]
      exact h₁.first
    · rw [hroot]
      exact h₁.capacity
    · unfold pointer
      rw [hroot]
      exact h₁.cur
    · show (fillNodes iovs bytes ba₁.root).flatten = _
      rw [hfill, hover, hposition]

theorem receive_spec {ba : ByteArray} (h : ba.WellFormed) {len : Nat} {bytes : Buffer}
    (hbytes : bytes.length ≤ len) :
    ∃ ba', ba.receive memory len bytes = .ok ba' ∧ ba'.WellFormed ∧
      ba'.position = ba.position + bytes.length ∧
      ba'.content = overwrite ba.content ba.position bytes := by
  obtain ⟨ba₁, iovs, hbuffers, hgrown, hroom, hfilled, hflat⟩ :=
    getWriteBuffers_spec memory h hbytes
  have hcontent := hgrown.content h
  have h₁ := hgrown.wellFormed
  obtain ⟨ba', hset, h', _, _, hposition, hsize, _, hroot⟩ :=
    setPosition_spec hfilled (v := ba₁.position + bytes.length) (hgrown.position ▸ hroom)
  refine ⟨ba', ?_, h', ?_, ?_⟩
  · unfold receive
    rw [hbuffers]
    exact hset
  · rw [hposition, hgrown.position]
  · show ba'.root.flatten.take ba'.size = _
    rw [hroot, hsize, hflat, show (ba₁.fill iovs bytes).size = ba₁.size from rfl, hgrown.position,
      take_overwrite (hgrown.position ▸ h₁.position) (h₁.flatten_length ▸ h₁.size), ← hcontent]
    rfl

end ByteArray

end MNSER
