import Mnser.Address.Model
import Mnser.Http.Dump
import Mnser.Strtol

/-! # IPv6 addresses as text

    The text forms of RFC 4291, section 2.2, without the one that ends in
    an IPv4 address: eight groups of hexadecimal digits, or fewer with one `::`
    that stands for the missing groups of zeros.  `IPv6Address::insert`
    writes such a text, with `::` for the first run of zeros, and reading it
    gives the bytes back. -/

namespace MNSER

namespace Address

open Http (Bytes ascii decimal)
open Strtol (isdigit digitVal magnitude)

/-! ## Section 1: Hexadecimal digits -/

/-- `os << std::hex << n` -/
def hexadecimal (n : Nat) : Bytes := (Nat.toDigits 16 n).map fun c => c.toNat.toUInt8

theorem digitVal_digitChar {d : Nat} (hd : d < 16) : digitVal d.digitChar.toNat.toUInt8 = d := by
  interval_cases d <;> rfl

/-- The last digit comes off the end. -/
theorem hexadecimal_eq (n : Nat) :
    hexadecimal n =
      (if n < 16 then [] else hexadecimal (n / 16)) ++ [(n % 16).digitChar.toNat.toUInt8] := by
  unfold hexadecimal
  rw [Nat.toDigits_eq_if (by decide)]
  split
  · rename_i h
    rw [Nat.mod_eq_of_lt h]
    rfl
  · rw [List.map_append]
    rfl

theorem hexadecimal_digits (n : Nat) : ∀ c ∈ hexadecimal n, isdigit 16 c = true := by
  induction n using Nat.strongRecOn with
  | ind n ih =>
    intro c hc
    rw [hexadecimal_eq] at hc
    rcases List.mem_append.mp hc with hc | hc
    · split at hc
      · cases hc
      · exact ih (n / 16) (by omega) c hc
    · rw [List.mem_singleton.mp hc, isdigit, digitVal_digitChar (Nat.mod_lt n (by decide))]
      exact decide_eq_true (Nat.mod_lt n (by decide))

theorem magnitude_hexadecimal (n : Nat) : magnitude 16 0 (hexadecimal n) = n := by
  induction n using Nat.strongRecOn with
  | ind n ih =>
    have hlast : ∀ acc, magnitude 16 acc [(n % 16).digitChar.toNat.toUInt8] = acc * 16 + n % 16 := by
      intro acc
      have hlt := Nat.mod_lt n (show 16 > 0 by decide)
      simp [magnitude, isdigit, digitVal_digitChar hlt, hlt]
    rw [hexadecimal_eq]
    split
    · rw [List.nil_append, hlast]
      omega
    · rw [Strtol.magnitude_append (hexadecimal_digits _), ih (n / 16) (by omega), hlast]
      omega

/-! ## Section 2: The text forms -/

/-- A group is one to four hexadecimal digits. -/
def Group (t : Bytes) : Prop := 1 ≤ t.length ∧ t.length ≤ 4 ∧ ∀ c ∈ t, isdigit 16 c = true

instance (t : Bytes) : Decidable (Group t) := inferInstanceAs (Decidable (_ ∧ _ ∧ _))

/-- Texts with colons between them. -/
def join (parts : List Bytes) : Bytes := [58].intercalate parts

/-- The text stands for `8` groups; at most one `::` stands for at least one
    group of zeros. -/
inductive Form : Bytes → Prop where
  | full (parts : List Bytes) (hgroups : ∀ t ∈ parts, Group t) (hlength : parts.length = 8) :
      Form (join parts)
  | compressed (left right : List Bytes) (hleft : ∀ t ∈ left, Group t)
      (hright : ∀ t ∈ right, Group t) (hlength : left.length + right.length ≤ 7) :
      Form (join left ++ ascii "::" ++ join right)

/-- What stands before and behind the first `::`. -/
def splitDouble : Bytes → Option (Bytes × Bytes)
  | [] => none
  | c :: cs =>
    if c = 58 ∧ cs.head? = some 58 then some ([], cs.tail)
    else (splitDouble cs).map fun r => (c :: r.1, r.2)

def decodeGroup (t : Bytes) : Option Nat := if Group t then some (magnitude 16 0 t) else none

/-- Groups with colons between them; there may be none at all. -/
def decodeGroups (t : Bytes) : Option (List Nat) :=
  if t = [] then some [] else (t.splitOn 58).mapM decodeGroup

/-- The values of the eight groups. -/
def decode (t : Bytes) : Option (List Nat) :=
  match splitDouble t with
  | none => do
    let groups ← decodeGroups t
    if groups.length = 8 then some groups else none
  | some (left, right) => do
    let left ← decodeGroups left
    let right ← decodeGroups right
    if left.length + right.length ≤ 7 then
      some (left ++ List.replicate (8 - (left.length + right.length)) 0 ++ right)
    else none

/-- The sixteen bytes of an address, in network order. -/
def decodeBytes (t : Bytes) : Option (List (BitVec 8)) :=
  (decode t).map fun groups => groups.flatMap fun g => [BitVec.ofNat 8 (g / 256), BitVec.ofNat 8 g]

theorem Group.colon_notMem {t : Bytes} (h : Group t) : 58 ∉ t := by
  intro hmem
  have hdigit := h.2.2 58 hmem
  revert hdigit
  decide

theorem join_cons (t : Bytes) (parts : List Bytes) :
    join (t :: parts) = if parts = [] then t else t ++ 58 :: join parts := by
  cases parts with
  | nil => simp [join]
  | cons u parts => simp [join, List.intercalate]

theorem Group.head {t : Bytes} (h : Group t) (rest : Bytes) : (t ++ rest).head? ≠ some 58 := by
  obtain ⟨c, cs, rfl⟩ := List.exists_cons_of_ne_nil (List.length_pos_iff.mp h.1)
  intro hhead
  exact h.colon_notMem (by simp_all)

/-- What has no colon, and is not followed by two, is passed over. -/
theorem splitDouble_append {w : Bytes} (hw : 58 ∉ w) {rest : Bytes} (hrest : rest.head? ≠ some 58) :
    splitDouble (w ++ 58 :: rest) = (splitDouble rest).map fun r => (w ++ 58 :: r.1, r.2) := by
  induction w with
  | nil =>
    rw [List.nil_append, splitDouble, if_neg (fun h => hrest h.2)]
    rfl
  | cons c cs ih =>
    have hc : c ≠ 58 := by
      rintro rfl
      exact hw List.mem_cons_self
    rw [List.cons_append, splitDouble, if_neg (fun h => hc h.1),
      ih fun hmem => hw (List.mem_cons_of_mem _ hmem), Option.map_map]
    rfl

theorem splitDouble_found {w : Bytes} (hw : 58 ∉ w) (rest : Bytes) :
    splitDouble (w ++ 58 :: 58 :: rest) = some (w, rest) := by
  induction w with
  | nil => rfl
  | cons c cs ih =>
    have hc : c ≠ 58 := by
      rintro rfl
      exact hw List.mem_cons_self
    rw [List.cons_append, splitDouble, if_neg (fun h => hc h.1),
      ih fun hmem => hw (List.mem_cons_of_mem _ hmem)]
    rfl

theorem splitDouble_none {w : Bytes} (hw : 58 ∉ w) : splitDouble w = none := by
  induction w with
  | nil => rfl
  | cons c cs ih =>
    have hc : c ≠ 58 := by
      rintro rfl
      exact hw List.mem_cons_self
    rw [splitDouble, if_neg (fun h => hc h.1), ih fun hmem => hw (List.mem_cons_of_mem _ hmem)]
    rfl

theorem join_head {parts : List Bytes} (hgroups : ∀ t ∈ parts, Group t) (hne : parts ≠ [])
    (rest : Bytes) : (join parts ++ rest).head? ≠ some 58 := by
  obtain ⟨t, ts, rfl⟩ := List.exists_cons_of_ne_nil hne
  have ht := hgroups t List.mem_cons_self
  rw [join_cons]
  split
  · exact ht.head rest
  · rw [List.append_assoc]
    exact ht.head _

theorem splitDouble_join {parts : List Bytes} (hgroups : ∀ t ∈ parts, Group t) :
    splitDouble (join parts) = none := by
  induction parts with
  | nil => rfl
  | cons t ts ih =>
    obtain ⟨ht, hts⟩ := List.forall_mem_cons.mp hgroups
    rw [join_cons]
    split
    · exact splitDouble_none ht.colon_notMem
    · rename_i hne
      have hhead := join_head hts hne []
      rw [List.append_nil] at hhead
      rw [splitDouble_append ht.colon_notMem hhead, ih hts]
      rfl

theorem splitDouble_join_append {parts : List Bytes} (hgroups : ∀ t ∈ parts, Group t) (rest : Bytes) :
    splitDouble (join parts ++ 58 :: 58 :: rest) = some (join parts, rest) := by
  induction parts with
  | nil => rfl
  | cons t ts ih =>
    obtain ⟨ht, hts⟩ := List.forall_mem_cons.mp hgroups
    rw [join_cons]
    split
    · exact splitDouble_found ht.colon_notMem rest
    · rename_i hne
      have hhead := join_head hts hne (58 :: 58 :: rest)
      rw [List.append_assoc, List.cons_append, splitDouble_append ht.colon_notMem hhead, ih hts]
      rfl

theorem mapM_decodeGroup {parts : List Bytes} (hgroups : ∀ t ∈ parts, Group t) :
    parts.mapM decodeGroup = some (parts.map (magnitude 16 0)) := by
  induction parts with
  | nil => rfl
  | cons t ts ih =>
    obtain ⟨ht, hts⟩ := List.forall_mem_cons.mp hgroups
    have hgroup : decodeGroup t = some (magnitude 16 0 t) := if_pos ht
    rw [List.mapM_cons, hgroup, ih hts]
    rfl

theorem decodeGroups_join {parts : List Bytes} (hgroups : ∀ t ∈ parts, Group t) :
    decodeGroups (join parts) = some (parts.map (magnitude 16 0)) := by
  unfold decodeGroups
  by_cases hne : parts = []
  · subst hne
    rfl
  · have hjoin : join parts ≠ [] := by
      obtain ⟨t, ts, rfl⟩ := List.exists_cons_of_ne_nil hne
      have ht := List.length_pos_iff.mp (hgroups t List.mem_cons_self).1
      rw [join_cons]
      split
      · exact ht
      · exact List.append_ne_nil_of_left_ne_nil ht _
    have hsplit : (join parts).splitOn 58 = parts :=
      List.splitOn_intercalate 58 (fun t ht => (hgroups t ht).colon_notMem) hne
    rw [if_neg hjoin, hsplit, mapM_decodeGroup hgroups]

/-- Eight groups are read one by one. -/
theorem decode_full {parts : List Bytes} (hgroups : ∀ t ∈ parts, Group t)
    (hlength : parts.length = 8) : decode (join parts) = some (parts.map (magnitude 16 0)) := by
  simp [decode, splitDouble_join hgroups, decodeGroups_join hgroups, hlength]

/-- `::` is read as the groups that are missing. -/
theorem decode_compressed {left right : List Bytes} (hleft : ∀ t ∈ left, Group t)
    (hright : ∀ t ∈ right, Group t) (hlength : left.length + right.length ≤ 7) :
    decode (join left ++ ascii "::" ++ join right) =
      some (left.map (magnitude 16 0) ++ List.replicate (8 - (left.length + right.length)) 0 ++
        right.map (magnitude 16 0)) := by
  have hsplit : splitDouble (join left ++ ascii "::" ++ join right) = some (join left, join right) := by
    rw [List.append_assoc]
    exact splitDouble_join_append hleft (join right)
  rw [decode, hsplit]
  simp [decodeGroups_join hleft, decodeGroups_join hright, hlength]

/-! ## Section 3: IPv6Address::insert -/

/-- A group, as it is written. -/
def groupText (a : BitVec 16) : Bytes := hexadecimal (bswap_16 a).toNat

/-- The loop over `addr` from some `i` on; `prev` is `addr[i - 1]`.  Gives what
    is written and `used_zeros`. -/
def insertGroups (prev : Option (BitVec 16)) (used_zeros : Bool) : List (BitVec 16) → Bytes × Bool
  | [] => ([], used_zeros)
  | a :: addr =>
    if a = 0#16 ∧ used_zeros = false then insertGroups (some a) used_zeros addr
    else
      let zeros := decide (prev = some 0#16) && !used_zeros
      let rest := insertGroups (some a) (used_zeros || zeros) addr
      ((if zeros then ascii ":" else []) ++ (if prev.isSome then ascii ":" else []) ++
        groupText a ++ rest.1, rest.2)

/-- `(uint16_t*)m_addr.sin6_addr.s6_addr` -/
def words (s6_addr : Vector (BitVec 8) 16) : List (BitVec 16) :=
  List.ofFn fun i : Fin 8 => s6_addr[2 * i.val + 1] ++ s6_addr[2 * i.val]

/-- What stands between the brackets. -/
def insertText (addr : List (BitVec 16)) : Bytes :=
  let groups := insertGroups none false addr
  groups.1 ++ if groups.2 = false ∧ addr[7]? = some 0#16 then ascii "::" else []

/-- `IPv6Address::insert` -/
def insert (m_addr : SockaddrIn6) : Bytes :=
  ascii "[" ++ insertText (words m_addr.s6_addr) ++ ascii "]:" ++
    decimal (bswap_16 m_addr.sin6_port).toNat

/-! ## Section 4: The run of zeros -/

/-- The first run of zeros of a list, if it has one. -/
theorem exists_run (addr : List (BitVec 16)) :
    ∃ (front : List (BitVec 16)) (k : Nat) (back : List (BitVec 16)),
      addr = front ++ List.replicate k 0#16 ++ back ∧ (∀ a ∈ front, a ≠ 0#16) ∧
        back.head? ≠ some 0#16 ∧ (k = 0 → back = []) := by
  induction addr with
  | nil => exact ⟨[], 0, [], rfl, by simp, by simp, fun _ => rfl⟩
  | cons a addr ih =>
    obtain ⟨front, k, back, rfl, hfront, hback, hk⟩ := ih
    by_cases ha : a = 0#16
    · subst ha
      cases front with
      | nil =>
        refine ⟨[], k + 1, back, ?_, by simp, hback, by simp⟩
        simp [List.replicate_succ]
      | cons b front =>
        refine ⟨[], 1, b :: front ++ List.replicate k 0#16 ++ back, by simp, by simp, ?_, by simp⟩
        have hb := hfront b List.mem_cons_self
        simpa using hb
    · refine ⟨a :: front, k, back, by simp, ?_, hback, hk⟩
      exact List.forall_mem_cons.mpr ⟨ha, hfront⟩

/-- Groups that follow others. -/
def following (addr : List (BitVec 16)) : Bytes := addr.flatMap fun a => 58 :: groupText a

theorem join_following (a : BitVec 16) (addr : List (BitVec 16)) :
    join ((a :: addr).map groupText) = groupText a ++ following addr := by
  induction addr generalizing a with
  | nil => simp [join, following]
  | cons b addr ih =>
    rw [List.map_cons, join_cons, if_neg (by simp), ih b]
    rfl

/-- After `::` all groups are written. -/
theorem insertGroups_used (p : BitVec 16) (addr : List (BitVec 16)) :
    insertGroups (some p) true addr = (following addr, true) := by
  induction addr generalizing p with
  | nil => rfl
  | cons a addr ih =>
    rw [insertGroups, if_neg (by simp)]
    simp [ih a, following, ascii]

/-- Zeros are passed over. -/
theorem insertGroups_zeros (prev : Option (BitVec 16)) (k : Nat) (addr : List (BitVec 16)) :
    insertGroups prev false (List.replicate (k + 1) 0#16 ++ addr) = insertGroups (some 0#16) false addr := by
  induction k generalizing prev with
  | zero => rfl
  | succ k ih =>
    rw [List.replicate_succ, List.cons_append, insertGroups, if_pos ⟨rfl, rfl⟩]
    exact ih (some 0#16)

/-- The first group behind them gets the `::`. -/
theorem insertGroups_double {a : BitVec 16} (ha : a ≠ 0#16) (addr : List (BitVec 16)) :
    insertGroups (some 0#16) false (a :: addr) =
      (ascii "::" ++ join ((a :: addr).map groupText), true) := by
  rw [insertGroups, if_neg (fun h => ha h.1), join_following]
  simp [insertGroups_used, ascii]

/-- Groups in front of the first zero. -/
theorem insertGroups_following {p : BitVec 16} (hp : p ≠ 0#16) {front : List (BitVec 16)}
    (hfront : ∀ a ∈ front, a ≠ 0#16) (addr : List (BitVec 16)) :
    ∃ q, q ≠ 0#16 ∧ insertGroups (some p) false (front ++ addr) =
      (following front ++ (insertGroups (some q) false addr).1,
        (insertGroups (some q) false addr).2) := by
  induction front generalizing p with
  | nil => exact ⟨p, hp, rfl⟩
  | cons a front ih =>
    obtain ⟨ha, hfront⟩ := List.forall_mem_cons.mp hfront
    obtain ⟨q, hq, heq⟩ := ih ha hfront
    refine ⟨q, hq, ?_⟩
    rw [List.cons_append, insertGroups, if_neg (fun h => ha h.1)]
    simp [heq, hp, following, ascii]

theorem insertGroups_front {front : List (BitVec 16)} (hfront : ∀ a ∈ front, a ≠ 0#16)
    (addr : List (BitVec 16)) :
    ∃ prev, prev ≠ some 0#16 ∧ insertGroups none false (front ++ addr) =
      (join (front.map groupText) ++ (insertGroups prev false addr).1,
        (insertGroups prev false addr).2) := by
  cases front with
  | nil => exact ⟨none, by simp, rfl⟩
  | cons a front =>
    obtain ⟨ha, hfront⟩ := List.forall_mem_cons.mp hfront
    obtain ⟨q, hq, heq⟩ := insertGroups_following ha hfront addr
    refine ⟨some q, by simpa using hq, ?_⟩
    rw [List.cons_append, insertGroups, if_neg (fun h => ha h.1), join_following]
    simp [heq]

/-- The text in terms of the run: all groups, or `::` in its place. -/
theorem insertText_eq {front back : List (BitVec 16)} {k : Nat} (hfront : ∀ a ∈ front, a ≠ 0#16)
    (hback : back.head? ≠ some 0#16) (hlength : front.length + k + back.length = 8)
    (hk : k = 0 → back = []) :
    insertText (front ++ List.replicate k 0#16 ++ back) =
      if k = 0 then join (front.map groupText)
      else join (front.map groupText) ++ ascii "::" ++ join (back.map groupText) := by
  obtain ⟨prev, hprev, hgroups⟩ := insertGroups_front hfront (List.replicate k 0#16 ++ back)
  unfold insertText
  simp only [List.append_assoc]
  rw [hgroups]
  cases k with
  | zero =>
    obtain rfl := hk rfl
    -- the last group is not zero
    have hlast : front[7]? ≠ some 0#16 := by
      intro h
      exact hfront 0#16 (List.mem_of_getElem? h) rfl
    simp [insertGroups, hlast]
  | succ k =>
    rw [insertGroups_zeros, if_neg (Nat.succ_ne_zero k)]
    cases back with
    | nil =>
      have hlast : (front ++ List.replicate (k + 1) 0#16)[7]? = some 0#16 := by
        rw [List.getElem?_append_right (by simp at hlength; omega), List.getElem?_replicate,
          if_pos (by simp at hlength; omega)]
      simp [insertGroups, hlast, join]
    | cons b back =>
      have hb : b ≠ 0#16 := by
        rintro rfl
        exact hback rfl
      simp [insertGroups_double hb]

/-! ## Section 5: Reading the text -/

theorem groupText_group (a : BitVec 16) : Group (groupText a) := by
  refine ⟨?_, ?_, hexadecimal_digits _⟩
  · rw [groupText, hexadecimal, List.length_map]
    exact Nat.length_toDigits_pos
  · rw [groupText, hexadecimal, List.length_map]
    exact (Nat.length_toDigits_le_iff (by decide) (by decide)).mpr (bswap_16 a).isLt

theorem map_groupText_group (addr : List (BitVec 16)) : ∀ t ∈ addr.map groupText, Group t := by
  intro t ht
  obtain ⟨a, -, rfl⟩ := List.mem_map.mp ht
  exact groupText_group a

/-- The value of a group. -/
def groupValue (a : BitVec 16) : Nat := (bswap_16 a).toNat

theorem map_magnitude (addr : List (BitVec 16)) :
    (addr.map groupText).map (magnitude 16 0) = addr.map groupValue := by
  rw [List.map_map]
  refine List.map_congr_left ?_
  intro a _
  exact magnitude_hexadecimal _

theorem insertText_form {addr : List (BitVec 16)} (hlength : addr.length = 8) :
    Form (insertText addr) := by
  obtain ⟨front, k, back, rfl, hfront, hback, hk⟩ := exists_run addr
  have hsum : front.length + k + back.length = 8 := by
    simp at hlength
    omega
  rw [insertText_eq hfront hback hsum hk]
  split
  · rename_i hzero
    obtain rfl := hk hzero
    refine Form.full _ (map_groupText_group front) ?_
    simp at hsum ⊢
    omega
  · refine Form.compressed _ _ (map_groupText_group front) (map_groupText_group back) ?_
    simp
    omega

theorem decode_insertText {addr : List (BitVec 16)} (hlength : addr.length = 8) :
    decode (insertText addr) = some (addr.map groupValue) := by
  obtain ⟨front, k, back, rfl, hfront, hback, hk⟩ := exists_run addr
  have hsum : front.length + k + back.length = 8 := by
    simp at hlength
    omega
  rw [insertText_eq hfront hback hsum hk]
  split
  · rename_i hzero
    obtain rfl := hk hzero
    subst hzero
    have hfull : (front.map groupText).length = 8 := by simpa using hsum
    rw [decode_full (map_groupText_group front) hfull, map_magnitude]
    simp
  · rename_i hne
    have hseven : (front.map groupText).length + (back.map groupText).length ≤ 7 := by
      simp
      omega
    -- the run is what is missing from eight groups
    have hmissing : 8 - ((front.map groupText).length + (back.map groupText).length) = k := by
      simp
      omega
    have hzero : groupValue 0#16 = 0 := by decide
    rw [decode_compressed (map_groupText_group front) (map_groupText_group back) hseven, hmissing,
      map_magnitude, map_magnitude]
    simp [hzero]

/-- The two bytes of a group. -/
theorem bytes_of_append (hi lo : BitVec 8) :
    [BitVec.ofNat 8 ((hi ++ lo).toNat / 256), BitVec.ofNat 8 (hi ++ lo).toNat] = [hi, lo] := by
  have hlo : lo.toNat < 2 ^ 8 := lo.isLt
  have hval : (hi ++ lo).toNat = hi.toNat * 256 + lo.toNat := by
    rw [BitVec.toNat_append, ← Nat.shiftLeft_add_eq_or_of_lt hlo, Nat.shiftLeft_eq]
  have hfirst : BitVec.ofNat 8 ((hi ++ lo).toNat / 256) = hi := by
    refine BitVec.eq_of_toNat_eq ?_
    rw [BitVec.toNat_ofNat, hval]
    omega
  have hsecond : BitVec.ofNat 8 (hi ++ lo).toNat = lo := by
    refine BitVec.eq_of_toNat_eq ?_
    rw [BitVec.toNat_ofNat, hval]
    omega
  rw [hfirst, hsecond]

/-- The groups hold the bytes in network order. -/
theorem words_bytes (s6_addr : Vector (BitVec 8) 16) :
    ((words s6_addr).map groupValue).flatMap
        (fun g => [BitVec.ofNat 8 (g / 256), BitVec.ofNat 8 g]) = s6_addr.toList := by
  have hpair : ∀ hi lo : BitVec 8, [BitVec.ofNat 8 (groupValue (lo ++ hi) / 256),
      BitVec.ofNat 8 (groupValue (lo ++ hi))] = [hi, lo] := by
    intro hi lo
    rw [groupValue, bswap_16_append, bytes_of_append]
  have hlist : s6_addr.toList = [s6_addr[0], s6_addr[1], s6_addr[2], s6_addr[3], s6_addr[4],
      s6_addr[5], s6_addr[6], s6_addr[7], s6_addr[8], s6_addr[9], s6_addr[10], s6_addr[11],
      s6_addr[12], s6_addr[13], s6_addr[14], s6_addr[15]] := by
    refine List.ext_getElem (by simp) ?_
    intro i hi _
    have hi' : i < 16 := by simpa using hi
    interval_cases i <;> simp
  rw [hlist]
  simp only [words, List.ofFn_succ, List.ofFn_zero, List.map_cons, List.map_nil, List.flatMap_cons,
    List.flatMap_nil, hpair]
  rfl

theorem decodeBytes_insertText (s6_addr : Vector (BitVec 8) 16) :
    decodeBytes (insertText (words s6_addr)) = some s6_addr.toList := by
  rw [decodeBytes, decode_insertText (by simp [words]), Option.map_some, words_bytes]

end Address

open Address in
/-- What is written for an address is a text form of it, and addresses that
    differ have texts that differ. -/
theorem insert_reads_back (m_addr : SockaddrIn6) :
    insert m_addr = Http.ascii "[" ++ insertText (words m_addr.s6_addr) ++ Http.ascii "]:" ++
        Http.decimal (bswap_16 m_addr.sin6_port).toNat ∧
      Form (insertText (words m_addr.s6_addr)) ∧
      decodeBytes (insertText (words m_addr.s6_addr)) = some m_addr.s6_addr.toList ∧
      ∀ m_addr' : SockaddrIn6, m_addr'.s6_addr ≠ m_addr.s6_addr →
        insertText (words m_addr'.s6_addr) ≠ insertText (words m_addr.s6_addr) := by
  have hbytes := decodeBytes_insertText m_addr.s6_addr
  refine ⟨rfl, insertText_form (by simp [words]), hbytes, ?_⟩
  intro m_addr' hne htext
  have hbytes' := decodeBytes_insertText m_addr'.s6_addr
  rw [htext, hbytes] at hbytes'
  exact hne (Vector.toList_inj.mp (Option.some.inj hbytes')).symm

end MNSER
