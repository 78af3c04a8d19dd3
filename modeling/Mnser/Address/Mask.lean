import Mathlib.Data.Nat.Bitwise
import Mnser.Address.Model
import Mnser.Word

/-! # Masks of IP addresses

    `CreateMask` and the operations of `IPv4Address` and `IPv6Address` that
    apply it.  `CreateMask` gives the bits of the host, not those of the
    network.  It shifts by the whole width for an IPv4 prefix of 0, and
    `networdAddress` keeps what it should clear. -/

namespace MNSER

namespace Address

/-! ## Section 1: Bits -/

/-- Only zero has the same bits inside of a mask as outside. -/
theorem and_eq_and_not_iff {w : Nat} (x m : BitVec w) : x &&& m = x &&& ~~~m ↔ x = 0 := by
  constructor
  · intro h
    refine BitVec.eq_of_getLsbD_eq ?_
    intro i hi
    have hbit := congrArg (fun y : BitVec w => y.getLsbD i) h
    simp only [BitVec.getLsbD_and, BitVec.getLsbD_not, hi, decide_true, Bool.true_and] at hbit
    have hzero : (0 : BitVec w).getLsbD i = false := by simp
    rw [hzero]
    cases hx : x.getLsbD i with
    | false => rfl
    | true =>
      rw [hx] at hbit
      cases hm : m.getLsbD i <;> simp [hm] at hbit
  · rintro rfl
    simp

/-- The lowest `n` bits. -/
theorem getLsbD_shift_sub_one {n : Nat} (hn : n < 32) (i : Nat) :
    ((1#32 <<< n) - 1#32).getLsbD i = decide (i < n) := by
  have hlt : 2 ^ n < 2 ^ 32 := Nat.pow_lt_pow_right (by decide) hn
  have hpos : 0 < 2 ^ n := Nat.two_pow_pos n
  have hval : ((1#32 <<< n) - 1#32).toNat = 2 ^ n - 1 := by
    rw [BitVec.toNat_sub, BitVec.toNat_shiftLeft, BitVec.toNat_ofNat, Nat.one_mod, Nat.shiftLeft_eq,
      Nat.one_mul, Nat.mod_eq_of_lt hlt]
    omega
  rw [BitVec.getLsbD, hval, Nat.testBit_two_pow_sub_one]

/-! ## Section 2: The operations -/

/-- What the language does not define. -/
inductive Fault where
  -- a shift by the width of the type or more
  | shift
  -- an access behind the 16 bytes of the address
  | bounds
  deriving DecidableEq

/-- `CreateMask`; the subtraction is done in the 32 bits of an `int`. -/
def CreateMask (w : Nat) (bits : Nat) : Except Fault (BitVec w) :=
  let amount := sub64 w bits
  if 32 ≤ amount then .error .shift else .ok (((1#32 <<< amount) - 1#32).setWidth w)

/-- `s6_addr[i]`, changed by `f` -/
def put (a : Vector (BitVec 8) 16) (i : Nat) (f : BitVec 8 → BitVec 8) :
    Except Fault (Vector (BitVec 8) 16) :=
  if h : i < 16 then .ok (a.set i (f a[i])) else .error .bounds

/-- `s6_addr[i] = x` for all `i` of a list -/
def putAll (x : BitVec 8) : List Nat → Vector (BitVec 8) 16 → Except Fault (Vector (BitVec 8) 16)
  | [], a      => .ok a
  | i :: is, a => (put a i fun _ => x).bind (putAll x is)

-- `none` is `nullptr`

namespace IPv4Address

/-- The address, changed by the mask. -/
def masked (op : BitVec 32 → BitVec 32 → BitVec 32) (m_addr : SockaddrIn) (prefix_len : UInt32) :
    Except Fault (Option SockaddrIn) :=
  if 32 < prefix_len.toNat then .ok none
  else do
    let mask ← CreateMask 32 prefix_len.toNat
    return some { m_addr with s_addr := op m_addr.s_addr (bswap_32 mask) }

def broadcastAddress : SockaddrIn → UInt32 → Except Fault (Option SockaddrIn) :=
  masked fun addr mask => addr ||| mask

def networdAddress : SockaddrIn → UInt32 → Except Fault (Option SockaddrIn) :=
  masked fun addr mask => addr &&& mask

/-- Does not look at the length of the prefix. -/
def subnetMask (prefix_len : UInt32) : Except Fault (Option SockaddrIn) := do
  let mask ← CreateMask 32 prefix_len.toNat
  return some { sin_family := 2, sin_port := 0, s_addr := ~~~(bswap_32 mask) }

end IPv4Address

namespace IPv6Address

/-- The byte in which the prefix ends is changed by the mask, those behind it
    are set. -/
def masked (op : BitVec 8 → BitVec 8 → BitVec 8) (rest : BitVec 8) (m_addr : SockaddrIn6)
    (prefix_len : UInt32) : Except Fault (Option SockaddrIn6) := do
  let mask ← CreateMask 8 (prefix_len.toNat % 8)
  let baddr ← put m_addr.s6_addr (prefix_len.toNat / 8) fun b => op b mask
  let first := prefix_len.toNat / 8 + 1
  let baddr ← putAll rest (List.range' first (16 - first)) baddr
  return some { m_addr with s6_addr := baddr }

def broadcastAddress : SockaddrIn6 → UInt32 → Except Fault (Option SockaddrIn6) :=
  masked (fun b mask => b ||| mask) 0xff

def networdAddress : SockaddrIn6 → UInt32 → Except Fault (Option SockaddrIn6) :=
  masked (fun b mask => b &&& mask) 0x00

def subnetMask (prefix_len : UInt32) : Except Fault (Option SockaddrIn6) := do
  let mask ← CreateMask 8 (prefix_len.toNat % 8)
  let subnet ← put (Vector.replicate 16 0) (prefix_len.toNat / 8) fun _ => ~~~mask
  let subnet ← putAll 0xff (List.range (prefix_len.toNat / 8)) subnet
  return some
    { sin6_family := 10, sin6_port := 0, sin6_flowinfo := 0, s6_addr := subnet, sin6_scope_id := 0 }

end IPv6Address

/-! ## Section 3: What the operations should return -/

/-- Bit `i` of an IPv6 address, from the front. -/
def bit (a : Vector (BitVec 8) 16) (i : Fin 128) : Bool := a[i.val / 8].getMsbD (i.val % 8)

/-- The mask has `p` leading ones, and the operations apply it; longer prefixes
    are rejected. -/
structure Masks4 (a : SockaddrIn) (p : UInt32) : Prop where
  within : p.toNat ≤ 32 → ∃ m, IPv4Address.subnetMask p = .ok (some m) ∧
    (∀ i < 32, (bswap_32 m.s_addr).getMsbD i = decide (i < p.toNat)) ∧
    IPv4Address.networdAddress a p = .ok (some { a with s_addr := a.s_addr &&& m.s_addr }) ∧
    IPv4Address.broadcastAddress a p = .ok (some { a with s_addr := a.s_addr ||| ~~~m.s_addr })
  beyond : 32 < p.toNat → IPv4Address.subnetMask p = .ok none ∧
    IPv4Address.networdAddress a p = .ok none ∧ IPv4Address.broadcastAddress a p = .ok none

structure Masks6 (a : SockaddrIn6) (p : UInt32) : Prop where
  within : p.toNat ≤ 128 → ∃ m, IPv6Address.subnetMask p = .ok (some m) ∧
    (∀ i : Fin 128, bit m.s6_addr i = decide (i.val < p.toNat)) ∧
    IPv6Address.networdAddress a p =
      .ok (some { a with s6_addr := Vector.zipWith (fun x y => x &&& y) a.s6_addr m.s6_addr }) ∧
    IPv6Address.broadcastAddress a p =
      .ok (some { a with s6_addr := Vector.zipWith (fun x y => x ||| ~~~y) a.s6_addr m.s6_addr })
  beyond : 128 < p.toNat → IPv6Address.subnetMask p = .ok none ∧
    IPv6Address.networdAddress a p = .ok none ∧ IPv6Address.broadcastAddress a p = .ok none

/-! ## Section 4: IPv4 -/

theorem createMask_ok {w bits : Nat} (hle : bits ≤ w) (hw : w ≤ 32) (hpos : w - bits < 32) :
    CreateMask w bits = .ok (((1#32 <<< (w - bits)) - 1#32).setWidth w) := by
  have hamount : sub64 w bits = w - bits := sub64_of_le hle (by omega)
  unfold CreateMask
  simp only [hamount]
  exact if_neg (by omega)

theorem createMask_shift {bits : Nat} (h : bits = 0 ∨ 32 < bits) (hlt : bits < 2 ^ 32) :
    CreateMask 32 bits = .error .shift := by
  have hamount : 32 ≤ sub64 32 bits := by
    unfold sub64
    omega
  unfold CreateMask
  simp only
  exact if_pos hamount

/-- The network bits, for a prefix that is not 0. -/
def networkMask (p : Nat) : BitVec 32 := ~~~((1#32 <<< (32 - p)) - 1#32)

theorem getMsbD_networkMask {p : Nat} (h₀ : 0 < p) (h : p ≤ 32) {i : Nat} (hi : i < 32) :
    (networkMask p).getMsbD i = decide (i < p) := by
  have hj : 32 - 1 - i < 32 := by omega
  rw [BitVec.getMsbD_eq_getLsbD, networkMask, BitVec.getLsbD_not,
    getLsbD_shift_sub_one (by omega)]
  simp only [hi, hj, decide_true, Bool.true_and]
  rw [← decide_not]
  refine decide_eq_decide.mpr ?_
  omega

theorem subnetMask4_eq {p : UInt32} (h₀ : 0 < p.toNat) (h : p.toNat ≤ 32) :
    IPv4Address.subnetMask p = .ok (some ⟨2, 0, bswap_32 (networkMask p.toNat)⟩) := by
  unfold IPv4Address.subnetMask
  rw [createMask_ok h (le_refl 32) (by omega), networkMask, bswap_32_not]
  simp [bind, Except.bind, pure, Except.pure]

theorem masked4_eq (op : BitVec 32 → BitVec 32 → BitVec 32) (a : SockaddrIn) {p : UInt32}
    (h₀ : 0 < p.toNat) (h : p.toNat ≤ 32) :
    IPv4Address.masked op a p =
      .ok (some { a with s_addr := op a.s_addr (~~~(bswap_32 (networkMask p.toNat))) }) := by
  unfold IPv4Address.masked
  rw [if_neg (by omega), createMask_ok h (le_refl 32) (by omega), networkMask, bswap_32_not,
    BitVec.not_not]
  simp [bind, Except.bind, pure, Except.pure]

theorem subnetMask4_shift {p : UInt32} (h : p.toNat = 0 ∨ 32 < p.toNat) :
    IPv4Address.subnetMask p = .error .shift := by
  unfold IPv4Address.subnetMask
  rw [createMask_shift h p.toNat_lt]
  rfl

theorem masks4_iff (a : SockaddrIn) (p : UInt32) :
    Masks4 a p ↔ 0 < p.toNat ∧ p.toNat ≤ 32 ∧ a.s_addr = 0 := by
  by_cases hp : 0 < p.toNat ∧ p.toNat ≤ 32
  · obtain ⟨h₀, h⟩ := hp
    constructor
    · intro hmasks
      obtain ⟨m, hm, -, hnet, -⟩ := hmasks.within h
      rw [subnetMask4_eq h₀ h] at hm
      obtain rfl := Option.some.inj (Except.ok.inj hm)
      rw [IPv4Address.networdAddress, masked4_eq _ a h₀ h] at hnet
      have haddr := congrArg SockaddrIn.s_addr (Option.some.inj (Except.ok.inj hnet))
      exact ⟨h₀, h, (and_eq_and_not_iff _ _).mp haddr.symm⟩
    · rintro ⟨-, -, hzero⟩
      refine ⟨fun _ => ⟨_, subnetMask4_eq h₀ h, ?_, ?_, ?_⟩, fun hlt => by omega⟩
      · intro i hi
        rw [bswap_32_bswap_32]
        exact getMsbD_networkMask h₀ h hi
      · rw [IPv4Address.networdAddress, masked4_eq _ a h₀ h, hzero]
        simp
      · exact masked4_eq _ a h₀ h
  · have hshift := @subnetMask4_shift p (by omega)
    constructor
    · intro hmasks
      by_cases hle : p.toNat ≤ 32
      · obtain ⟨m, hm, -⟩ := hmasks.within hle
        rw [hshift] at hm
        cases hm
      · have hm := (hmasks.beyond (by omega)).1
        rw [hshift] at hm
        cases hm
    · rintro ⟨h₀, h, -⟩
      exact absurd ⟨h₀, h⟩ hp

/-! ## Section 5: IPv6 -/

theorem put_ok (a : Vector (BitVec 8) 16) {i : Nat} (hi : i < 16) (f : BitVec 8 → BitVec 8) :
    put a i f = .ok (a.set i (f a[i])) := dif_pos hi

theorem put_bounds (a : Vector (BitVec 8) 16) {i : Nat} (hi : 16 ≤ i) (f : BitVec 8 → BitVec 8) :
    put a i f = .error .bounds := dif_neg (by omega)

/-- The loop writes the bytes of the list and no others. -/
theorem putAll_ok (x : BitVec 8) : ∀ (is : List Nat) (a : Vector (BitVec 8) 16), (∀ i ∈ is, i < 16) →
    ∃ b, putAll x is a = .ok b ∧ ∀ (i : Nat) (hi : i < 16), b[i] = if i ∈ is then x else a[i] := by
  intro is
  induction is with
  | nil =>
    intro a _
    refine ⟨a, rfl, ?_⟩
    intro i hi
    simp
  | cons j js ih =>
    intro a hlt
    have hj := hlt j List.mem_cons_self
    obtain ⟨b, hb, hbytes⟩ := ih (a.set j x) fun i hi => hlt i (List.mem_cons_of_mem _ hi)
    refine ⟨b, ?_, ?_⟩
    · rw [putAll, put_ok a hj]
      exact hb
    · intro i hi
      rw [hbytes i hi, Vector.getElem_set]
      by_cases hmem : i ∈ js
      · simp [hmem]
      · by_cases hji : j = i
        · simp [hji]
        · simp [hmem, hji, Ne.symm hji]

/-- The host bits of the byte in which a prefix ends. -/
def hostByte (p : Nat) : BitVec 8 := ((1#32 <<< (8 - p % 8)) - 1#32).setWidth 8

theorem createMask_byte (p : Nat) : CreateMask 8 (p % 8) = .ok (hostByte p) :=
  createMask_ok (by omega) (by decide) (by omega)

theorem getMsbD_hostByte (p : Nat) {i : Nat} (hi : i < 8) :
    (hostByte p).getMsbD i = decide (p % 8 ≤ i) := by
  have hj : 8 - 1 - i < 8 := by omega
  rw [BitVec.getMsbD_eq_getLsbD, hostByte, BitVec.getLsbD_setWidth,
    getLsbD_shift_sub_one (by omega)]
  simp only [hi, hj, decide_true, Bool.true_and]
  refine decide_eq_decide.mpr ?_
  omega

/-- Byte `i` of the host bits of a prefix. -/
def hostBits (p i : Nat) : BitVec 8 :=
  if i < p / 8 then 0 else if i = p / 8 then hostByte p else 0xff

theorem bit_hostBits (p : Nat) {m : Vector (BitVec 8) 16}
    (hm : ∀ (i : Nat) (hi : i < 16), m[i] = ~~~(hostBits p i)) (i : Fin 128) :
    bit m i = decide (i.val < p) := by
  have hbit : i.val % 8 < 8 := Nat.mod_lt _ (by decide)
  have hbyte := hm (i.val / 8) (by omega)
  unfold bit
  rw [hbyte, hostBits]
  split
  · have hlt : i.val < p := by omega
    rw [BitVec.getMsbD_not]
    simp [hlt, hbit]
  · split
    · rw [BitVec.getMsbD_not, getMsbD_hostByte p hbit, ← decide_not]
      simp only [hbit, decide_true, Bool.true_and]
      refine decide_eq_decide.mpr ?_
      omega
    · have hle : ¬ i.val < p := by omega
      have hones : (~~~(0xff : BitVec 8)) = 0 := by decide
      rw [hones]
      simp [hle]

/-- The three operations, for a prefix that ends inside of the address. -/
theorem subnetMask6_eq {p : UInt32} (h : p.toNat < 128) :
    ∃ m : Vector (BitVec 8) 16, IPv6Address.subnetMask p = .ok (some ⟨10, 0, 0, m, 0⟩) ∧
      ∀ (i : Nat) (hi : i < 16), m[i] = ~~~(hostBits p.toNat i) := by
  have hbyte : p.toNat / 8 < 16 := by omega
  obtain ⟨m, hm, hbytes⟩ := putAll_ok 0xff (List.range (p.toNat / 8))
    ((Vector.replicate 16 0).set (p.toNat / 8) (~~~(hostByte p.toNat))) (by
      intro i hi
      have hlt := List.mem_range.mp hi
      omega)
  refine ⟨m, ?_, ?_⟩
  · unfold IPv6Address.subnetMask
    simp only [createMask_byte, put_ok _ hbyte, hm, bind, Except.bind, pure, Except.pure]
  · intro i hi
    rw [hbytes i hi, Vector.getElem_set, Vector.getElem_replicate, hostBits]
    simp only [List.mem_range]
    rcases Nat.lt_trichotomy i (p.toNat / 8) with hlt | rfl | hgt
    · rw [if_pos hlt, if_pos hlt]
      rfl
    · simp
    · rw [if_neg (by omega), if_neg (by omega), if_neg (by omega), if_neg (by omega)]
      rfl

theorem masked6_eq (op : BitVec 8 → BitVec 8 → BitVec 8) (rest : BitVec 8) (a : SockaddrIn6)
    {p : UInt32} (h : p.toNat < 128) :
    ∃ b : Vector (BitVec 8) 16,
      IPv6Address.masked op rest a p = .ok (some { a with s6_addr := b }) ∧
      ∀ (i : Nat) (hi : i < 16), b[i] = if i < p.toNat / 8 then a.s6_addr[i]
        else if i = p.toNat / 8 then op a.s6_addr[i] (hostByte p.toNat) else rest := by
  have hbyte : p.toNat / 8 < 16 := by omega
  have hlt : ∀ i ∈ List.range' (p.toNat / 8 + 1) (16 - (p.toNat / 8 + 1)), i < 16 := by
    intro i hi
    have hi := (List.mem_range'_1.mp hi).2
    omega
  obtain ⟨b, hb, hbytes⟩ := putAll_ok rest _
    (a.s6_addr.set (p.toNat / 8) (op a.s6_addr[p.toNat / 8] (hostByte p.toNat))) hlt
  refine ⟨b, ?_, ?_⟩
  · unfold IPv6Address.masked
    simp only [createMask_byte, put_ok _ hbyte, hb, bind, Except.bind, pure, Except.pure]
  · intro i hi
    rw [hbytes i hi, Vector.getElem_set]
    simp only [List.mem_range'_1]
    rcases Nat.lt_trichotomy i (p.toNat / 8) with hlt | rfl | hgt
    · rw [if_neg (by omega), if_neg (by omega), if_pos hlt]
    · simp
    · rw [if_pos (by omega), if_neg (by omega), if_neg (by omega)]

/-- A prefix of 128 bits or more ends behind the address. -/
theorem subnetMask6_bounds {p : UInt32} (h : 128 ≤ p.toNat) :
    IPv6Address.subnetMask p = .error .bounds := by
  unfold IPv6Address.subnetMask
  simp only [createMask_byte, put_bounds _ (show 16 ≤ p.toNat / 8 by omega), bind, Except.bind]

theorem masks6_iff (a : SockaddrIn6) (p : UInt32) :
    Masks6 a p ↔ ∃ h : p.toNat < 128, a.s6_addr[p.toNat / 8] = 0 := by
  by_cases hp : p.toNat < 128
  · obtain ⟨m, hm, hbits⟩ := subnetMask6_eq hp
    have hbyte : p.toNat / 8 < 16 := by omega
    have hend : m[p.toNat / 8] = ~~~(hostByte p.toNat) := by
      rw [hbits _ hbyte, hostBits, if_neg (by omega), if_pos rfl]
    constructor
    · intro hmasks
      obtain ⟨m', hm', -, hnet, -⟩ := hmasks.within (by omega)
      rw [hm] at hm'
      obtain rfl := Option.some.inj (Except.ok.inj hm')
      obtain ⟨b, hb, hbytes⟩ := masked6_eq (fun b mask => b &&& mask) 0 a hp
      rw [IPv6Address.networdAddress, hb] at hnet
      have haddr : b = Vector.zipWith (fun x y => x &&& y) a.s6_addr m :=
        congrArg SockaddrIn6.s6_addr (Option.some.inj (Except.ok.inj hnet))
      -- the byte in which the prefix ends
      have hlast := hbytes _ hbyte
      rw [haddr, Vector.getElem_zipWith, hend, if_neg (by omega), if_pos rfl] at hlast
      exact ⟨hp, (and_eq_and_not_iff _ _).mp hlast.symm⟩
    · rintro ⟨_, hzero⟩
      refine ⟨fun _ => ⟨_, hm, bit_hostBits p.toNat hbits, ?_, ?_⟩, fun hlt => by omega⟩
      · obtain ⟨b, hb, hbytes⟩ := masked6_eq (fun b mask => b &&& mask) 0 a hp
        have haddr : b = Vector.zipWith (fun x y => x &&& y) a.s6_addr m := by
          refine Vector.ext ?_
          intro i hi
          rw [hbytes i hi, Vector.getElem_zipWith, hbits i hi, hostBits]
          rcases Nat.lt_trichotomy i (p.toNat / 8) with hlt | rfl | hgt
          · rw [if_pos hlt, if_pos hlt]
            exact (BitVec.and_allOnes).symm
          · simp [hzero]
          · rw [if_neg (by omega), if_neg (by omega), if_neg (by omega), if_neg (by omega)]
            exact (BitVec.and_zero).symm
        rw [IPv6Address.networdAddress, hb, haddr]
      · obtain ⟨b, hb, hbytes⟩ := masked6_eq (fun b mask => b ||| mask) 0xff a hp
        have haddr : b = Vector.zipWith (fun x y => x ||| ~~~y) a.s6_addr m := by
          refine Vector.ext ?_
          intro i hi
          rw [hbytes i hi, Vector.getElem_zipWith, hbits i hi, hostBits, BitVec.not_not]
          rcases Nat.lt_trichotomy i (p.toNat / 8) with hlt | rfl | hgt
          · simp [hlt]
          · simp
          · rw [if_neg (by omega), if_neg (by omega), if_neg (by omega), if_neg (by omega)]
            exact (BitVec.or_allOnes).symm
        rw [IPv6Address.broadcastAddress, hb, haddr]
  · have hbounds := @subnetMask6_bounds p (by omega)
    constructor
    · intro hmasks
      by_cases hle : p.toNat ≤ 128
      · obtain ⟨m, hm, -⟩ := hmasks.within hle
        rw [hbounds] at hm
        cases hm
      · have hm := (hmasks.beyond (by omega)).1
        rw [hbounds] at hm
        cases hm
    · rintro ⟨h, -⟩
      exact absurd h hp

end Address

/-- Exactly when the masks of a prefix are right and the operations apply them. -/
theorem masks_iff (p : UInt32) :
    (∀ a : Address.SockaddrIn, Address.Masks4 a p ↔
      0 < p.toNat ∧ p.toNat ≤ 32 ∧ a.s_addr = 0) ∧
    ∀ a : Address.SockaddrIn6, Address.Masks6 a p ↔
      ∃ h : p.toNat < 128, a.s6_addr[p.toNat / 8] = 0 :=
  ⟨fun a => Address.masks4_iff a p, fun a => Address.masks6_iff a p⟩

/-- The network of 192.168.1.2/24 comes out as 0.0.0.2, and a prefix of 0
    shifts by 32. -/
theorem network_keeps_host :
    Address.IPv4Address.networdAddress ⟨2, 0, 0x0201a8c0⟩ 24 = .ok (some ⟨2, 0, 0x02000000⟩) ∧
      Address.IPv4Address.subnetMask 0 = .error .shift ∧
      ¬ ∀ (a : Address.SockaddrIn) (p : UInt32), Address.Masks4 a p := by
  refine ⟨by decide, by decide, ?_⟩
  intro h
  obtain ⟨-, -, hzero⟩ := (Address.masks4_iff ⟨2, 0, 0x0201a8c0⟩ 24).mp (h _ _)
  exact absurd hzero (by decide)

end MNSER
