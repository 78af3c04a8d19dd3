import Mnser.ByteArray.Positional
import Mnser.Word

/-! # Writing to a file

    `writeToFile` goes from node to node and subtracts the offset in the node
    from what it writes there.  That is right for a node that is written to its
    end, and wrong for the only node of a short rest: the bytes it keeps back
    are looked for in the nodes behind, and the loop runs off the last one.

    The file is the bytes written to it; writing does not fail by itself. -/

namespace MNSER

namespace ByteArray

open Blocks

/-! ## Section 1: The operations -/

inductive FileFault where
  | null_deref
  | outside_node
  deriving DecidableEq, Repr

/-- The loop of `writeToFile`, from `cur` on; `good` is the state of the
    stream, which a negative count ends. -/
def fileNodes (baseSize : Nat) : List Buffer → Int → Int → Bool → Except FileFault Buffer
  | [], _, read_size, _ => if read_size ≤ 0 then .ok [] else .error .null_deref
  | node :: rest, pos, read_size, good =>
    if read_size ≤ 0 then .ok []
    else
      let diff := wrap32 (pos % baseSize)
      let len := (if (baseSize : Int) < read_size then (baseSize : Int) else read_size) - diff
      if good ∧ 0 < len ∧ (diff < 0 ∨ (node.length : Int) < diff + len) then
        .error .outside_node
      else
        let written := if good then (node.drop diff.toNat).take len.toNat else []
        (fileNodes baseSize rest (pos + len) (read_size - len) (good && 0 ≤ len)).map
          fun bytes => written ++ bytes

/-- `writeToFile` -/
def writeToFile (ba : ByteArray) : Except FileFault Buffer :=
  let nodes := match ba.cur with
    | none     => []
    | some cur => ba.root.drop cur
  fileNodes ba.baseSize nodes ba.position ba.getReadSize true

variable (memory : Nat → Nat → UInt8)

/-- The rounds of `readFromFile`; the last one gets less than it asks for, and
    sees the end of the file. -/
def readRounds : Nat → ByteArray → Buffer → Except MemoryFault ByteArray
  | 0, ba, rest => ba.write memory rest
  | k + 1, ba, rest =>
    match ba.write memory (rest.take ba.baseSize) with
    | .error e => .error e
    | .ok ba' => readRounds k ba' (rest.drop ba.baseSize)

/-- `readFromFile` -/
def readFromFile (ba : ByteArray) (file : Buffer) : Except MemoryFault ByteArray :=
  readRounds memory (file.length / ba.baseSize) ba file

/-! ## Section 2: Reading a file -/

theorem readRounds_spec (k : Nat) :
    ∀ {ba : ByteArray} (rest : Buffer), ba.WellFormed → ba.position = ba.size →
      ∃ ba', readRounds memory k ba rest = .ok ba' ∧ ba'.WellFormed ∧
        ba'.content = ba.content ++ rest := by
  have hend : ∀ {ba : ByteArray} (buf : Buffer), ba.WellFormed → ba.position = ba.size →
      ∃ ba', ba.write memory buf = .ok ba' ∧ ba'.WellFormed ∧ ba'.position = ba'.size ∧
        ba'.content = ba.content ++ buf := by
    intro ba buf h hpos
    obtain ⟨ba', hwrite, h', _, _, hposition, hcontent, _⟩ := write_spec memory h buf
    have hlength := h.content_length
    have happend : ba'.content = ba.content ++ buf := by
      rw [hcontent, hpos, ← hlength]
      unfold overwrite
      rw [List.take_length, List.drop_of_length_le (Nat.le_add_right _ _), List.append_nil]
    refine ⟨ba', hwrite, h', ?_, happend⟩
    rw [← h'.content_length, happend, List.length_append, hlength, hposition, hpos]
  induction k with
  | zero =>
    intro ba rest h hpos
    obtain ⟨ba', hwrite, h', _, happend⟩ := hend rest h hpos
    exact ⟨ba', hwrite, h', happend⟩
  | succ k ih =>
    intro ba rest h hpos
    obtain ⟨ba₁, hwrite, h₁, hpos₁, happend₁⟩ := hend (rest.take ba.baseSize) h hpos
    obtain ⟨ba', hrest, h', happend⟩ := ih (rest.drop ba.baseSize) h₁ hpos₁
    refine ⟨ba', ?_, h', ?_⟩
    · simp only [readRounds, hwrite, hrest]
    · rw [happend, happend₁, List.append_assoc, List.take_append_drop]

/-- A file read into a fresh array is its content. -/
theorem readFromFile_spec {base_size : Nat} (hbase : 1 ≤ base_size) (file : Buffer) :
    ∃ ba₁ ba₂, (new memory base_size).readFromFile memory file = .ok ba₁ ∧
      ba₁.setPosition 0 = .ok ba₂ ∧ ba₂.toString = .ok file := by
  obtain ⟨ba₁, hread, h₁, hcontent₁⟩ :=
    readRounds_spec memory (file.length / base_size) file (new_wellFormed memory hbase) rfl
  obtain ⟨ba₂, hset, h₂, _, _, hposition, hsize, _, hroot⟩ :=
    setPosition_spec h₁ (Nat.zero_le _)
  refine ⟨ba₁, ba₂, hread, hset, ?_⟩
  have hcontent₂ : ba₂.content = ba₁.content := by
    unfold content
    rw [hroot, hsize, Nat.max_zero]
  rw [toString_eq h₂, hposition, List.drop_zero, hcontent₂, hcontent₁]
  have hempty : (new memory base_size).content = [] := List.take_zero
  rw [hempty, List.nil_append]

/-! ## Section 3: The loop of `writeToFile` -/

theorem fileNodes_done (b : Nat) (nodes : List Buffer) (pos : Int) (good : Bool) :
    fileNodes b nodes pos 0 good = .ok [] := by
  cases nodes <;> rfl

/-- One node, of which `m` bytes from `d` on are written. -/
theorem fileNodes_step {b : Nat} {node : Buffer} (hnode : node.length = b) (rest : List Buffer)
    {pos d n m : Nat} (hd : wrap32 ((pos : Int) % (b : Int)) = d) (hm : 0 < m)
    (hlen : m + d = min b n) :
    fileNodes b (node :: rest) pos n true =
      (fileNodes b rest ↑(pos + m) ↑(n - m) true).map
        fun bytes => (node.drop d).take m ++ bytes := by
  have hmore : ¬ ((n : Int) ≤ 0) := by omega
  have hcount : (if (b : Int) < (n : Int) then (b : Int) else (n : Int)) - d = m := by
    split <;> omega
  have hinside : ¬ (True ∧ 0 < (m : Int) ∧ ((d : Int) < 0 ∨ (node.length : Int) < d + m)) := by
    omega
  simp only [fileNodes]
  rw [if_neg hmore, hd, hcount, if_neg (by simpa using hinside), Int.natCast_add,
    Int.natCast_sub (by omega)]
  simp

/-- From the start of a node on every node is written. -/
theorem fileNodes_aligned {b : Nat} (nodes : List Buffer) :
    ∀ (pos n : Nat), Uniform b nodes → pos % b = 0 → n ≤ nodes.flatten.length →
      fileNodes b nodes pos n true = .ok (nodes.flatten.take n) := by
  induction nodes with
  | nil =>
    intro pos n _ _ hle
    obtain rfl : n = 0 := Nat.le_zero.mp hle
    exact fileNodes_done b [] pos true
  | cons node rest ih =>
    intro pos n huniform hpos hle
    have hnode : node.length = b := huniform node List.mem_cons_self
    have hrest : Uniform b rest := fun x hx => huniform x (List.mem_cons_of_mem _ hx)
    rw [List.flatten_cons, List.length_append] at hle
    by_cases hn : n = 0
    · subst hn
      exact fileNodes_done b _ pos true
    · have hdiff : wrap32 ((pos : Int) % (b : Int)) = (0 : Nat) := by
        rw [← Int.natCast_emod, hpos]
        rfl
      have hb : 0 < b := by
        apply Nat.pos_of_ne_zero
        rintro rfl
        -- nodes without bytes hold no bytes
        have hzero : rest.flatten.length = 0 := by
          rw [hrest.length_flatten, Nat.mul_zero]
        omega
      rw [fileNodes_step hnode rest hdiff (show 0 < min b n by omega) (Nat.add_zero _)]
      by_cases hlast : n ≤ b
      · -- what is left ends in this node
        rw [Nat.min_eq_right hlast, Nat.sub_self, show ((0 : Nat) : Int) = 0 from rfl,
          fileNodes_done, List.flatten_cons, List.take_append_of_le_length (by omega)]
        simp [Except.map]
      · rw [Nat.min_eq_left (by omega),
          ih (pos + b) (n - b) hrest (by rw [Nat.add_mod_right, hpos]) (by omega),
          List.drop_zero, List.take_of_length_le (show node.length ≤ b by omega),
          List.flatten_cons, List.take_append,
          List.take_of_length_le (show node.length ≤ n by omega), hnode]
        rfl

/-- A rest that is shorter than a node, not at the start of one: the loop goes
    back and forth between two offsets and never has nothing left to write. -/
theorem fileNodes_lost {b : Nat} (hb : b ≤ 2 ^ 31) (nodes : List Buffer) :
    ∀ (pos : Int) (d n : Nat) (good : Bool), Uniform b nodes → pos % b = d → d < b → 0 < d →
      0 < n → n < b → ∃ e, fileNodes b nodes pos n good = .error e := by
  induction nodes with
  | nil =>
    intro pos d n good _ _ _ _ hn _
    exact ⟨.null_deref, if_neg (by omega)⟩
  | cons node rest ih =>
    intro pos d n good huniform hpos hdb hd hn hnb
    have hrest : Uniform b rest := fun x hx => huniform x (List.mem_cons_of_mem _ hx)
    have hdiff : wrap32 (pos % (b : Int)) = d := by
      rw [hpos]
      exact wrap32_of_lt (by omega) (by omega)
    have hcount : (if (b : Int) < (n : Int) then (b : Int) else (n : Int)) - d = n - d := by
      rw [if_neg (by omega)]
    have hmore : ¬ ((n : Int) ≤ 0) := by omega
    -- offset and rest change places
    have hpos' : (pos + ((n : Int) - d)) % b = n := by
      have hdiv := Int.mul_ediv_add_emod pos b
      rw [show pos + ((n : Int) - d) = (n : Int) + b * (pos / b) by omega,
        Int.add_mul_emod_self_left]
      exact Int.emod_eq_of_lt (by omega) (by omega)
    simp only [fileNodes]
    rw [if_neg hmore, hdiff, hcount, show (n : Int) - ((n : Int) - d) = (d : Nat) by omega]
    split
    · exact ⟨_, rfl⟩
    · obtain ⟨e, he⟩ :=
        ih _ n d (good && decide (0 ≤ (n : Int) - d)) hrest hpos' hnb hn hd hdb
      exact ⟨e, by rw [he]; rfl⟩

/-! ## Section 4: The file -/

/-- `writeToFile` writes the readable bytes, and an array they are read back
    into has the same ones. -/
def FileRoundTrip (ba : ByteArray) : Prop :=
  ∃ file, ba.writeToFile = .ok file ∧ ba.toString = .ok file ∧
    ∀ base_size, 1 ≤ base_size → ∃ ba₁ ba₂,
      (new memory base_size).readFromFile memory file = .ok ba₁ ∧
        ba₁.setPosition 0 = .ok ba₂ ∧ ba₂.toString = .ok file

/-- The nodes that `writeToFile` starts with. -/
theorem writeToFile_eq {ba : ByteArray} (h : ba.WellFormed) :
    ba.writeToFile = fileNodes ba.baseSize (ba.root.drop (ba.position / ba.baseSize))
      ba.position ↑(ba.size - ba.position) true := by
  unfold writeToFile getReadSize
  by_cases hend : ba.position = ba.capacity
  · have hblocks : ba.position / ba.baseSize = ba.root.length := by
      rw [hend, h.capacity, Nat.mul_div_cancel _ h.base]
    rw [h.cur_eq_none.mpr hend, hblocks, List.drop_length]
  · have hle := Nat.le_trans h.position h.size
    rw [h.cur_eq_some (by omega)]

theorem content_rest {ba : ByteArray} (h : ba.WellFormed) :
    ((ba.root.drop (ba.position / ba.baseSize)).flatten.drop (ba.position % ba.baseSize)).take
      (ba.size - ba.position) = ba.content.drop ba.position := by
  have hle : ba.position / ba.baseSize ≤ ba.root.length := by
    have hpos := Nat.le_trans h.position h.size
    rw [h.capacity] at hpos
    exact Nat.div_le_of_le_mul (by rw [Nat.mul_comm]; exact hpos)
  unfold content
  rw [h.drop_block hle, Nat.div_add_mod', List.drop_take]

/-- The cursor is at the start of a node, or the rest fills a node: then every
    node is written to its end. -/
theorem writeToFile_spec {ba : ByteArray} (h : ba.WellFormed)
    (hcond : ba.getReadSize = 0 ∨ ba.position % ba.baseSize < 2 ^ 31 ∧
      (ba.position % ba.baseSize = 0 ∨ ba.baseSize ≤ ba.getReadSize)) :
    ba.writeToFile = .ok (ba.content.drop ba.position) := by
  have hbase := h.base
  have hcap := h.size
  have hposition := h.position
  have hrest := content_rest h
  unfold getReadSize at hcond
  rw [writeToFile_eq h]
  by_cases hempty : ba.size - ba.position = 0
  · rw [hempty, show ((0 : Nat) : Int) = 0 from rfl, fileNodes_done,
      List.drop_of_length_le (by rw [h.content_length]; omega)]
  · have hlt : ba.position < ba.capacity := by omega
    have hindex := h.index_lt.mpr hlt
    have hlength := h.rest_length hlt
    have hmod := Nat.mod_lt ba.position hbase
    obtain ⟨hsmall, hoffset⟩ := hcond.resolve_left hempty
    have hdiff : wrap32 ((ba.position : Int) % (ba.baseSize : Int)) =
        (ba.position % ba.baseSize : Nat) := by
      rw [← Int.natCast_emod]
      exact wrap32_of_lt (by omega) (by omega)
    by_cases hzero : ba.position % ba.baseSize = 0
    · rw [hzero, List.drop_zero] at hrest
      rw [fileNodes_aligned _ _ _ (h.blocks.drop _) hzero (by omega), hrest]
    · have hfills := hoffset.resolve_left hzero
      have hnode : ba.root[ba.position / ba.baseSize].length = ba.baseSize :=
        h.blocks _ (List.getElem_mem hindex)
      rw [List.drop_eq_getElem_cons hindex, List.flatten_cons, List.length_append, hnode] at hlength
      rw [List.drop_eq_getElem_cons hindex, List.flatten_cons] at hrest
      have hblock := Nat.div_add_mod' ba.position ba.baseSize
      -- the first node from the cursor on, then whole nodes
      have haligned : (ba.position + (ba.baseSize - ba.position % ba.baseSize)) % ba.baseSize = 0 := by
        rw [show ba.position + (ba.baseSize - ba.position % ba.baseSize) =
          ba.baseSize + ba.position / ba.baseSize * ba.baseSize by omega, Nat.add_mul_mod_self_right,
          Nat.mod_self]
      have hfirst : (ba.root[ba.position / ba.baseSize].drop (ba.position % ba.baseSize)).length =
          ba.baseSize - ba.position % ba.baseSize := by
        rw [List.length_drop, hnode]
      rw [List.drop_append_of_le_length (by omega)] at hrest
      rw [List.drop_eq_getElem_cons hindex,
        fileNodes_step hnode _ hdiff (m := ba.baseSize - ba.position % ba.baseSize) (by omega)
          (by omega),
        fileNodes_aligned _ _ _ (h.blocks.drop _) haligned (by omega),
        List.take_of_length_le (Nat.le_of_eq hfirst), ← hrest, List.take_append, hfirst,
        List.take_of_length_le (l := List.drop _ _) (by omega)]
      rfl

end ByteArray

/-- The file has the readable bytes when nothing is to be written, when the
    cursor is at the start of a node, or when the bytes are at least a node's;
    with nodes of up to 2 GiB only then. -/
theorem file_roundTrip_iff (memory : Nat → Nat → UInt8) {ba : ByteArray} (h : ba.WellFormed) :
    ((ba.getReadSize = 0 ∨ ba.position % ba.baseSize < 2 ^ 31 ∧
        (ba.position % ba.baseSize = 0 ∨ ba.baseSize ≤ ba.getReadSize)) →
      ba.FileRoundTrip memory) ∧
    (ba.baseSize ≤ 2 ^ 31 → ba.FileRoundTrip memory →
      ba.getReadSize = 0 ∨ ba.position % ba.baseSize < 2 ^ 31 ∧
        (ba.position % ba.baseSize = 0 ∨ ba.baseSize ≤ ba.getReadSize)) := by
  constructor
  · intro hcond
    exact ⟨_, ba.writeToFile_spec h hcond, ba.toString_eq h,
      fun base_size hbase => ByteArray.readFromFile_spec memory hbase _⟩
  · rintro hsmall ⟨file, hfile, _⟩
    have hmod := Nat.mod_lt ba.position h.base
    by_contra hcond
    -- a short rest inside a node
    have hempty : ba.getReadSize ≠ 0 := fun hzero => hcond (Or.inl hzero)
    have hoffset : ba.position % ba.baseSize ≠ 0 :=
      fun hzero => hcond (Or.inr ⟨by omega, Or.inl hzero⟩)
    have hshort : ba.getReadSize < ba.baseSize := by
      refine Nat.lt_of_not_le fun hfills => hcond (Or.inr ⟨by omega, Or.inr hfills⟩)
    obtain ⟨e, he⟩ := ByteArray.fileNodes_lost hsmall (ba.root.drop (ba.position / ba.baseSize))
      ba.position _ _ true (h.blocks.drop _) (Int.natCast_emod _ _).symm hmod
      (Nat.pos_of_ne_zero hoffset) (Nat.pos_of_ne_zero hempty) hshort
    rw [ByteArray.writeToFile_eq h] at hfile
    unfold ByteArray.getReadSize at he
    rw [he] at hfile
    cases hfile

/-- Four bytes from the middle of the first of three nodes. -/
theorem file_roundTrip_iff_middle :
    let ba : ByteArray :=
      { baseSize := 2, position := 1, capacity := 6, endian := .big, size := 5
        root := [[1, 2], [3, 4], [5, 0]], cur := some 0, created := 3 }
    ba.FileRoundTrip (fun _ _ => 0) ∧ ba.writeToFile = .ok [2, 3, 4, 5] := by
  intro ba
  have h : ba.WellFormed :=
    { base     := by decide
      blocks   := by unfold Blocks.Uniform; decide
      first    := by decide
      capacity := by decide
      position := by decide
      size     := by decide
      cur      := by decide }
  exact ⟨(file_roundTrip_iff (fun _ _ => 0) h).1 (by decide), by decide⟩

/-- Two bytes from the second byte of the only node: one of them is written,
    then the loop goes on behind the last node. -/
theorem file_runs_off :
    let ba : ByteArray :=
      { baseSize := 4, position := 1, capacity := 4, endian := .big, size := 3
        root := [[1, 2, 3, 0]], cur := some 0, created := 1 }
    ba.toString = .ok [2, 3] ∧ ba.writeToFile = .error .null_deref ∧
      ¬ ba.FileRoundTrip (fun _ _ => 0) := by
  intro ba
  refine ⟨by decide, by decide, ?_⟩
  rintro ⟨file, hfile, _⟩
  have herror : ba.writeToFile = .error .null_deref := by decide
  rw [herror] at hfile
  cases hfile

end MNSER
