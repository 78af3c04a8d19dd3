import Mathlib.Data.List.Induction
import Mnser.Yaml.Node

/-! # LoadFromYaml

    `ListAllMember` walks a YAML tree and collects the nodes under their names;
    `LoadFromYaml` then looks the names up, in lower case.  A name is checked
    before it is put into lower case, so an upper-case letter is an invalid
    character.

    Nodes carry the position they stand at, so that equal nodes are told apart. -/

namespace MNSER

namespace Config

open YAML

/-! ## Section 1: The walk -/

/-- `abcdefghijklmnopqrstuvwxyz._1234567890` -/
def nameChar (c : UInt8) : Bool := (97 ≤ c && c ≤ 122) || c = 46 || c = 95 || (48 ≤ c && c ≤ 57)

/-- `find_first_not_of(..) == npos` -/
def validName (s : Text) : Bool := s.all nameChar

def tolower (c : UInt8) : UInt8 := if 65 ≤ c && c ≤ 90 then c + 32 else c

/-- A member of `all_nodes`, and where the node stands. -/
structure Member where
  name : Text
  pos  : List Nat
  node : Node

/-- `prefix.empty() ? key : prefix + "." + key` -/
def child (name key : Text) : Text := if name = [] then key else name ++ 46 :: key

mutual

def ListAllMember (name : Text) (pos : List Nat) (node : Node) : List Member :=
  if validName name then
    ⟨name, pos, node⟩ ::
      match node with
      | .map l => members name pos 0 l
      | _ => []
  else []

/-- The loop over the entries of a map, from the entry `i` on. -/
def members (name : Text) (pos : List Nat) (i : Nat) : List (Node × Node) → List Member
  | [] => []
  | (key, value) :: rest =>
    ListAllMember (child name key.Scalar) (pos ++ [i]) value ++ members name pos (i + 1) rest

end

/-- A call of `fromString`: the variable, the node and the text. -/
structure FromString where
  var : Text
  pos : List Nat
  val : Text
  deriving DecidableEq

/-- `Scalar()`, or what is emitted. -/
def content (emit : Node → Text) (node : Node) : Text :=
  if node.IsScalar then node.Scalar else emit node

/-- `LoadFromYaml`: the calls of `fromString`, in order. -/
def LoadFromYaml (emit : Node → Text) (LookupBase : Text → Bool) (root : Node) : List FromString :=
  (ListAllMember [] [] root).filterMap fun it =>
    if it.name = [] then none
    else if LookupBase (it.name.map tolower) then
      some ⟨it.name.map tolower, it.pos, content emit it.node⟩
    else none

/-! ## Section 2: The nodes of a tree -/

/-- A node and the keys that lead to it. -/
structure Entry where
  chain : List Text
  pos   : List Nat
  node  : Node

mutual

/-- All nodes below keys, in document order. -/
def nodes (chain : List Text) (pos : List Nat) (node : Node) : List Entry :=
  ⟨chain, pos, node⟩ ::
    match node with
    | .map l => entries chain pos 0 l
    | _ => []

def entries (chain : List Text) (pos : List Nat) (i : Nat) : List (Node × Node) → List Entry
  | [] => []
  | (key, value) :: rest =>
    nodes (chain ++ [key.Scalar]) (pos ++ [i]) value ++ entries chain pos (i + 1) rest

end

/-- Letters, digits, `_` and `.` -/
def keyChar (c : UInt8) : Bool := nameChar c || (65 ≤ c && c ≤ 90)

/-- The keys joined with `.` -/
def joined (chain : List Text) : Text := [46].intercalate chain

/-- What a node is to set, by its keys. -/
def Entry.call (emit : Node → Text) (registered : Text → Bool) (e : Entry) : Option FromString :=
  if (∀ key ∈ e.chain, key.all keyChar = true) ∧
      registered ((joined e.chain).map tolower) = true then
    some ⟨(joined e.chain).map tolower, e.pos, content emit e.node⟩
  else none

/-- The calls of `fromString` that a document stands for. -/
def expected (emit : Node → Text) (registered : Text → Bool) (root : Node) : List FromString :=
  (nodes [] [] root).filterMap (Entry.call emit registered)

/-! ## Section 3: The walk sees the nodes below valid names -/

theorem nodes_eq (chain : List Text) (pos : List Nat) (node : Node)
    (h : ∀ l, node ≠ .map l) : nodes chain pos node = [⟨chain, pos, node⟩] := by
  cases node with
  | map l => exact absurd rfl (h l)
  | null => rfl
  | scalar s => rfl
  | sequence l => rfl

mutual

/-- The nodes in a tree stand below its root. -/
theorem nodes_below (chain : List Text) (pos : List Nat) :
    ∀ node : Node, ∀ e ∈ nodes chain pos node, chain <+: e.chain ∧ pos <+: e.pos
  | .map l, e, he => by
    rw [nodes] at he
    rcases List.mem_cons.mp he with rfl | he
    · exact ⟨List.prefix_rfl, List.prefix_rfl⟩
    · obtain ⟨hchain, j, _, hpos⟩ := entries_below chain pos 0 l e he
      exact ⟨hchain, (List.prefix_append pos [j]).trans hpos⟩
  | .null, e, he => by
    obtain rfl := List.mem_singleton.mp he
    exact ⟨List.prefix_rfl, List.prefix_rfl⟩
  | .scalar s, e, he => by
    obtain rfl := List.mem_singleton.mp he
    exact ⟨List.prefix_rfl, List.prefix_rfl⟩
  | .sequence l, e, he => by
    obtain rfl := List.mem_singleton.mp he
    exact ⟨List.prefix_rfl, List.prefix_rfl⟩

theorem entries_below (chain : List Text) (pos : List Nat) (i : Nat) :
    ∀ l : List (Node × Node), ∀ e ∈ entries chain pos i l,
      chain <+: e.chain ∧ ∃ j, i ≤ j ∧ pos ++ [j] <+: e.pos
  | [], e, he => by cases he
  | (key, value) :: rest, e, he => by
    rw [entries] at he
    rcases List.mem_append.mp he with he | he
    · obtain ⟨hchain, hpos⟩ := nodes_below (chain ++ [key.Scalar]) (pos ++ [i]) value e he
      exact ⟨(List.prefix_append chain _).trans hchain, i, Nat.le_refl i, hpos⟩
    · obtain ⟨hchain, j, hj, hpos⟩ := entries_below chain pos (i + 1) rest e he
      exact ⟨hchain, j, Nat.le_of_succ_le hj, hpos⟩

end

/-- Two positions below different entries of a map differ. -/
theorem pos_ne {pos p q : List Nat} {i j : Nat} (hij : i ≠ j) (hp : pos ++ [i] <+: p)
    (hq : pos ++ [j] <+: q) : p ≠ q := by
  rintro rfl
  obtain ⟨s, rfl⟩ := hp
  obtain ⟨t, heq⟩ := hq
  rw [List.append_assoc, List.append_assoc] at heq
  exact hij (List.cons.inj (List.append_cancel_left heq)).1.symm

mutual

/-- No two nodes stand at one position. -/
theorem nodes_distinct (chain : List Text) (pos : List Nat) :
    ∀ node : Node, (nodes chain pos node).Pairwise fun a b => a.pos ≠ b.pos
  | .map l => by
    rw [nodes]
    refine List.pairwise_cons.mpr ⟨fun e he => ?_, entries_distinct chain pos 0 l⟩
    obtain ⟨_, j, _, t, ht⟩ := entries_below chain pos 0 l e he
    intro heq
    have hlen := congrArg List.length (heq.trans ht.symm)
    simp only [List.length_append, List.length_cons, List.length_nil] at hlen
    omega
  | .null => List.pairwise_singleton _ _
  | .scalar s => List.pairwise_singleton _ _
  | .sequence l => List.pairwise_singleton _ _

theorem entries_distinct (chain : List Text) (pos : List Nat) (i : Nat) :
    ∀ l : List (Node × Node), (entries chain pos i l).Pairwise fun a b => a.pos ≠ b.pos
  | [] => List.Pairwise.nil
  | (key, value) :: rest => by
    rw [entries]
    refine List.pairwise_append.mpr ⟨nodes_distinct _ _ value, entries_distinct _ _ _ rest, ?_⟩
    intro a ha b hb
    obtain ⟨_, hpos⟩ := nodes_below _ _ value a ha
    obtain ⟨_, j, hj, hpos'⟩ := entries_below _ _ _ rest b hb
    exact pos_ne (by omega) hpos hpos'

end

/-- The name `ListAllMember` has for a node: an empty name gets no dot. -/
def nameOf (chain : List Text) : Text := chain.foldl child []

@[simp] theorem nameOf_append (chain : List Text) (key : Text) :
    nameOf (chain ++ [key]) = child (nameOf chain) key := by
  rw [nameOf, List.foldl_append]
  rfl

theorem validName_child (name key : Text) :
    validName (child name key) = (validName name && validName key) := by
  unfold child validName
  split
  · rename_i hnil
    rw [hnil]
    rfl
  · rw [List.all_append, List.all_cons]
    rfl

theorem validName_nameOf (chain : List Text) :
    validName (nameOf chain) = true ↔ ∀ key ∈ chain, validName key = true := by
  induction chain using List.reverseRecOn with
  | nil => exact iff_of_true rfl (by simp)
  | append_singleton chain key ih =>
    rw [nameOf_append, validName_child, Bool.and_eq_true, ih]
    simp only [List.mem_append, List.mem_singleton, or_imp, forall_and, forall_eq]

/-- A node is a member if all its keys are valid. -/
def Entry.member (e : Entry) : Option Member :=
  if validName (nameOf e.chain) then some ⟨nameOf e.chain, e.pos, e.node⟩ else none

/-- Below an invalid name there is no member. -/
theorem filterMap_member_nil {chain : List Text} (h : ¬ validName (nameOf chain) = true)
    {l : List Entry} (hl : ∀ e ∈ l, chain <+: e.chain) : l.filterMap Entry.member = [] := by
  refine List.filterMap_eq_nil_iff.mpr fun e he => if_neg fun hvalid => h ?_
  rw [validName_nameOf] at hvalid ⊢
  exact fun key hkey => hvalid key ((hl e he).subset hkey)

theorem leaf_eq (chain : List Text) (pos : List Nat) {node : Node} (h : ∀ l, node ≠ .map l) :
    ListAllMember (nameOf chain) pos node = (nodes chain pos node).filterMap Entry.member := by
  have hlist : ListAllMember (nameOf chain) pos node =
      if validName (nameOf chain) then [⟨nameOf chain, pos, node⟩] else [] := by
    cases node with
    | map l => exact absurd rfl (h l)
    | null => rfl
    | scalar s => rfl
    | sequence l => rfl
  rw [hlist, nodes_eq chain pos node h, List.filterMap_cons, List.filterMap_nil, Entry.member]
  split <;> rfl

mutual

theorem listAllMember_eq (chain : List Text) (pos : List Nat) :
    ∀ node : Node, ListAllMember (nameOf chain) pos node =
      (nodes chain pos node).filterMap Entry.member
  | .map l => by
    rw [ListAllMember, nodes]
    by_cases hvalid : validName (nameOf chain) = true
    · have hmember : Entry.member ⟨chain, pos, .map l⟩ = some ⟨nameOf chain, pos, .map l⟩ :=
        if_pos hvalid
      rw [if_pos hvalid, List.filterMap_cons_some hmember, members_eq chain pos 0 l]
    · have hmember : Entry.member ⟨chain, pos, .map l⟩ = none := if_neg hvalid
      rw [if_neg hvalid, List.filterMap_cons_none hmember]
      exact (filterMap_member_nil hvalid fun e he => (entries_below chain pos 0 l e he).1).symm
  | .null => leaf_eq chain pos fun _ h => by cases h
  | .scalar s => leaf_eq chain pos fun _ h => by cases h
  | .sequence l => leaf_eq chain pos fun _ h => by cases h

theorem members_eq (chain : List Text) (pos : List Nat) (i : Nat) :
    ∀ l : List (Node × Node), members (nameOf chain) pos i l =
      (entries chain pos i l).filterMap Entry.member
  | [] => rfl
  | (key, value) :: rest => by
    rw [members, entries, List.filterMap_append, members_eq chain pos (i + 1) rest,
      ← nameOf_append, listAllMember_eq (chain ++ [key.Scalar]) (pos ++ [i]) value]

end

/-! ## Section 4: Names -/

theorem joined_cons {key : Text} {chain : List Text} (h : chain ≠ []) :
    joined (key :: chain) = key ++ 46 :: joined chain := by
  obtain ⟨k, ks, rfl⟩ := List.exists_cons_of_ne_nil h
  rfl

theorem foldl_child {name : Text} (h : name ≠ []) (chain : List Text) :
    chain.foldl child name = joined (name :: chain) := by
  induction chain generalizing name with
  | nil => exact (List.append_nil name).symm
  | cons key chain ih =>
    have hchild : child name key = name ++ 46 :: key := if_neg h
    rw [List.foldl_cons, hchild, ih (by simp), joined_cons (List.cons_ne_nil _ _)]
    cases chain with
    | nil => simp [joined, List.intercalate]
    | cons k ks =>
      rw [joined_cons (List.cons_ne_nil _ _), joined_cons (List.cons_ne_nil _ _), List.append_assoc]
      rfl

/-- The name is the joined keys unless the first key is empty. -/
theorem nameOf_eq_joined {chain : List Text} (h : chain.head? ≠ some []) :
    nameOf chain = joined chain := by
  cases chain with
  | nil => rfl
  | cons key chain =>
    have hkey : key ≠ [] := fun hnil => h (congrArg some hnil)
    exact foldl_child hkey chain

theorem nameOf_empty (chain : List Text) : nameOf ([] :: chain) = nameOf chain := rfl

theorem length_nameOf (chain : List Text) : (nameOf chain).length ≤ (joined chain).length := by
  induction chain with
  | nil => exact Nat.le_refl _
  | cons key chain ih =>
    by_cases hkey : key = []
    · subst hkey
      rw [nameOf_empty]
      cases chain with
      | nil => exact Nat.zero_le _
      | cons k ks =>
        rw [joined_cons (List.cons_ne_nil _ _), List.nil_append, List.length_cons]
        exact Nat.le_succ_of_le ih
    · exact Nat.le_of_eq (congrArg List.length (nameOf_eq_joined fun h => hkey (Option.some.inj h)))

theorem tolower_nameChar {c : UInt8} (h : nameChar c = true) : tolower c = c := by
  refine if_neg fun hupper => ?_
  simp only [nameChar, Bool.or_eq_true, Bool.and_eq_true, decide_eq_true_eq,
    UInt8.le_iff_toNat_le, ← UInt8.toNat_inj] at h hupper
  simp at h hupper
  omega

theorem lower_validName {name : Text} (h : validName name = true) : name.map tolower = name := by
  refine (List.map_congr_left fun c hc => ?_).trans (List.map_id name)
  exact tolower_nameChar (List.all_eq_true.mp h c hc)

/-! ## Section 5: The calls -/

/-- The call that the code makes for a node. -/
def Entry.made (emit : Node → Text) (LookupBase : Text → Bool) (e : Entry) : Option FromString :=
  e.member.bind fun it =>
    if it.name = [] then none
    else if LookupBase (it.name.map tolower) then
      some ⟨it.name.map tolower, it.pos, content emit it.node⟩
    else none

theorem loadFromYaml_eq (emit : Node → Text) (LookupBase : Text → Bool) (root : Node) :
    LoadFromYaml emit LookupBase root =
      (nodes [] [] root).filterMap (Entry.made emit LookupBase) := by
  rw [LoadFromYaml, show ListAllMember [] [] root = _ from listAllMember_eq [] [] root,
    List.filterMap_filterMap]
  rfl

/-- Where results tell what they come from, equal lists of results are equal
    results. -/
theorem filterMap_eq_iff {α β τ : Type} {from_ : α → τ} {tag : β → τ} {f g : α → Option β}
    (hf : ∀ a b, f a = some b → tag b = from_ a) (hg : ∀ a b, g a = some b → tag b = from_ a)
    {l : List α} (hl : l.Pairwise fun a b => from_ a ≠ from_ b) :
    l.filterMap f = l.filterMap g ↔ ∀ a ∈ l, f a = g a := by
  constructor
  · induction l with
    | nil => exact fun _ _ ha => by cases ha
    | cons a l ih =>
      obtain ⟨hne, hl⟩ := List.pairwise_cons.mp hl
      intro heq
      have hnot : ∀ {h : α → Option β}, (∀ a b, h a = some b → tag b = from_ a) → ∀ {b : β},
          tag b = from_ a → b ∉ l.filterMap h := by
        intro h htag b hb hmem
        obtain ⟨a', ha', hfa'⟩ := List.mem_filterMap.mp hmem
        exact hne a' ha' (hb.symm.trans (htag a' b hfa'))
      cases hfa : f a with
      | none =>
        cases hga : g a with
        | none =>
          rw [List.filterMap_cons_none hfa, List.filterMap_cons_none hga] at heq
          exact List.forall_mem_cons.mpr ⟨hfa.trans hga.symm, ih hl heq⟩
        | some c =>
          rw [List.filterMap_cons_none hfa, List.filterMap_cons_some hga] at heq
          exact absurd (heq ▸ List.mem_cons_self) (hnot hf (hg a c hga))
      | some b =>
        cases hga : g a with
        | none =>
          rw [List.filterMap_cons_some hfa, List.filterMap_cons_none hga] at heq
          exact absurd (heq ▸ List.mem_cons_self) (hnot hg (hf a b hfa))
        | some c =>
          rw [List.filterMap_cons_some hfa, List.filterMap_cons_some hga] at heq
          obtain ⟨hbc, hrest⟩ := List.cons.inj heq
          exact List.forall_mem_cons.mpr ⟨hfa.trans (hbc ▸ hga.symm), ih hl hrest⟩
  · exact fun h => List.filterMap_congr h

/-- The node is below a key, its first key is not empty and no key has an
    upper-case letter; or neither its keys nor the name the walk has for it, if
    it has one, name a variable. -/
def Entry.Understood (registered : Text → Bool) (e : Entry) : Prop :=
  (e.chain ≠ [] ∧ e.chain.head? ≠ some [] ∧ ∀ key ∈ e.chain, validName key = true) ∨
  registered ((joined e.chain).map tolower) = false ∧
    ((∀ key ∈ e.chain, validName key = true) →
      nameOf e.chain = [] ∨ registered (nameOf e.chain) = false)

theorem made_eq_call_iff (emit : Node → Text) (registered : Text → Bool) (e : Entry) :
    e.made emit registered = e.call emit registered ↔
      ((∀ key ∈ e.chain, key.all keyChar = true) → e.Understood registered) := by
  have hkeys : (∀ key ∈ e.chain, validName key = true) → ∀ key ∈ e.chain, key.all keyChar = true :=
    fun h key hkey => List.all_eq_true.mpr fun c hc => by
      rw [keyChar, List.all_eq_true.mp (h key hkey) c hc, Bool.true_or]
  by_cases hvalid : ∀ key ∈ e.chain, validName key = true
  · have hname := (validName_nameOf e.chain).mpr hvalid
    have hlower := lower_validName hname
    -- the code looks up the name it has built, which is lower case already
    have hmade : e.made emit registered = if nameOf e.chain = [] then none
        else if registered (nameOf e.chain) then
          some ⟨nameOf e.chain, e.pos, content emit e.node⟩ else none := by
      rw [Entry.made, Entry.member, if_pos hname, Option.bind_some]
      simp only [hlower]
    have hcall : e.call emit registered = if registered ((joined e.chain).map tolower) = true then
        some ⟨(joined e.chain).map tolower, e.pos, content emit e.node⟩ else none := by
      rw [Entry.call]
      exact if_congr (and_iff_right (hkeys hvalid)) rfl rfl
    rw [hmade, hcall]
    by_cases hfirst : e.chain ≠ [] ∧ e.chain.head? ≠ some []
    · -- the name is what the keys say
      have heq := nameOf_eq_joined hfirst.2
      have hne : nameOf e.chain ≠ [] := by
        obtain ⟨key, chain, hchain⟩ := List.exists_cons_of_ne_nil hfirst.1
        have hkey : key ≠ [] := fun hnil => hfirst.2 (by rw [hchain, hnil]; rfl)
        rw [heq, hchain]
        cases chain with
        | nil => simpa [joined, List.intercalate] using hkey
        | cons k ks => simp [joined_cons (List.cons_ne_nil k ks)]
      rw [if_neg hne, ← heq, hlower]
      exact iff_of_true rfl fun _ => Or.inl ⟨hfirst.1, hfirst.2, hvalid⟩
    · -- the joined keys are longer than the name, or both are empty
      have hunderstood : e.Understood registered ↔
          registered ((joined e.chain).map tolower) = false ∧
            (nameOf e.chain = [] ∨ registered (nameOf e.chain) = false) := by
        rw [Entry.Understood, or_iff_right fun h => hfirst ⟨h.1, h.2.1⟩, imp_iff_right hvalid]
      rw [hunderstood, imp_iff_right (hkeys hvalid)]
      -- an empty first key leaves its dot in the joined name and not in the other
      have hdiffer : nameOf e.chain ≠ [] → (joined e.chain).map tolower ≠ nameOf e.chain := by
        intro hne heq
        have hlen := congrArg List.length heq
        rw [List.length_map] at hlen
        cases hchain : e.chain with
        | nil => exact hne (by rw [hchain]; rfl)
        | cons key chain =>
          rw [hchain] at hlen hne hfirst
          have hkey : key = [] := by
            by_contra hkey
            exact hfirst ⟨List.cons_ne_nil _ _, fun h => hkey (Option.some.inj h)⟩
          subst hkey
          cases chain with
          | nil => exact hne rfl
          | cons k ks =>
            have hle := length_nameOf (k :: ks)
            rw [joined_cons (List.cons_ne_nil _ _), nameOf_empty, List.nil_append,
              List.length_cons] at hlen
            omega
      by_cases hregistered : registered ((joined e.chain).map tolower) = true
      · rw [if_pos hregistered, hregistered]
        refine iff_of_false (fun heq => ?_) fun h => Bool.false_ne_true h.1.symm
        split at heq
        · cases heq
        · rename_i hne
          split at heq
          · exact hdiffer hne (FromString.mk.inj (Option.some.inj heq)).1.symm
          · cases heq
      · rw [if_neg hregistered, Bool.not_eq_true] at *
        rw [hregistered]
        by_cases hnil : nameOf e.chain = []
        · rw [if_pos hnil]
          exact iff_of_true rfl ⟨rfl, Or.inl hnil⟩
        · rw [if_neg hnil]
          cases registered (nameOf e.chain) <;> simp [hnil]
  · -- a key that is not valid: the code makes no call
    have hmade : e.made emit registered = none := by
      rw [Entry.made, Entry.member, if_neg fun h => hvalid ((validName_nameOf e.chain).mp h)]
      rfl
    have hunderstood : e.Understood registered ↔
        registered ((joined e.chain).map tolower) = false := by
      rw [Entry.Understood, or_iff_right fun h => hvalid h.2.2, and_iff_left fun h => absurd h hvalid]
    rw [hmade, hunderstood, Entry.call]
    by_cases hall : ∀ key ∈ e.chain, key.all keyChar = true
    · rw [imp_iff_right hall]
      cases hregistered : registered ((joined e.chain).map tolower) with
      | false => exact iff_of_true (if_neg fun h => Bool.false_ne_true h.2).symm rfl
      | true =>
        rw [if_pos ⟨hall, rfl⟩]
        exact iff_of_false (fun h => by cases h) fun h => Bool.false_ne_true h.symm
    · rw [if_neg fun h => hall h.1]
      exact iff_of_true rfl fun h => absurd h hall

/-- The variables that a document names are set, each from its nodes in document
    order, exactly if every node whose keys are valid is understood. -/
theorem load_from_yaml_iff (emit : Node → Text) (registered : Text → Bool) (root : Node) :
    LoadFromYaml emit registered root = expected emit registered root ↔
      ∀ e ∈ nodes [] [] root, (∀ key ∈ e.chain, key.all keyChar = true) →
        e.Understood registered := by
  have hmade : ∀ (e : Entry) (c : FromString), e.made emit registered = some c → c.pos = e.pos := by
    intro e c h
    rw [Entry.made, Entry.member] at h
    split at h
    · rw [Option.bind_some] at h
      split at h
      · cases h
      · split at h
        · obtain rfl := Option.some.inj h
          rfl
        · cases h
    · cases h
  have hcall : ∀ (e : Entry) (c : FromString), e.call emit registered = some c → c.pos = e.pos := by
    intro e c h
    rw [Entry.call] at h
    split at h
    · obtain rfl := Option.some.inj h
      rfl
    · cases h
  rw [loadFromYaml_eq, expected, filterMap_eq_iff hmade hcall (nodes_distinct [] [] root)]
  exact forall₂_congr fun e _ => made_eq_call_iff emit registered e

/-- `System.port: 8080` does not reach the variable `system.port`. -/
theorem load_from_yaml_upper_case :
    let root : Node := .map [(.scalar (text "System"), .map [(.scalar (text "port"),
      .scalar (text "8080"))])]
    let registered : Text → Bool := fun name => name = text "system.port"
    expected (fun _ => []) registered root = [⟨text "system.port", [0, 0], text "8080"⟩] ∧
      LoadFromYaml (fun _ => []) registered root = [] := by
  decide

end Config

end MNSER
