import Mnser.ByteArray.RoundTrip
import Mnser.Stream.FixSize

/-! # Values over a socket

    Typed values are put into one `ByteArray` and sent with `writeFixSize`;
    at the other end `readFixSize` fills another one, with blocks of another
    size, and the values are read from it.  Neither end chooses how many
    bytes a call moves. -/

namespace MNSER

open Blocks Transfer SocketStream Value

/-! ## Section 1: The two ends -/

namespace Value

/-- Write the values, go back to the start and send them all. -/
def sendAll (memory : Nat → Nat → UInt8) (base_size : Nat) (little : Bool) (sock : Network)
    (vs : List Value) (w : Traffic) : Except MemoryFault (Int × Arrayed) :=
  (writeAll memory vs ((ByteArray.new memory base_size).setIsLittleEndian little)).bind fun ba =>
    (ba.setPosition 0).bind fun ba => Stream.writeFixSizeArray sock ba.getReadSize w ba

/-- Receive `length` bytes, go back to the start and read values of these
    kinds; none where the transfer failed. -/
def receiveAll (memory : Nat → Nat → UInt8) (base_size : Nat) (little : Bool) (sock : Network)
    (length : Nat) (ks : List Kind) (w : Traffic) :
    Except MemoryFault (Int × Traffic × Option (ByteArray × List Value)) :=
  (Stream.readFixSizeArray memory sock length w
      ((ByteArray.new memory base_size).setIsLittleEndian little)).bind fun r =>
    if r.1 ≤ 0 then .ok (r.1, r.2.wire, none)
    else
      (r.2.ba.setPosition 0).bind fun ba =>
        (readAll ks ba).map fun out => (r.1, r.2.wire, some out)

end Value

/-! ## Section 2: A transfer that succeeds is complete -/

namespace Stream

variable {σ : Type} {call : Call σ MemoryFault} {I : List Int → Nat → σ → Prop}

/-- With a positive value, every byte was moved. -/
theorem fixSize_pos (hprogress : Progress call I)
    (hint : ∀ {rs k s}, I rs k s → ∀ r ∈ rs, IsInt32 r)
    {s : σ} (hI : I [] 0 s) {length : Nat} (hlt : length < 2 ^ 63) :
    ∃ ret s' rs n, fixSize call length s = .ok (ret, s') ∧ I rs n s' ∧ n ≤ length ∧
      (0 < ret → n = length) := by
  by_cases hall : Completes call length s
  · obtain ⟨s', rs, hfix, hI'⟩ := fixSize_completes hprogress hI hlt hall
    exact ⟨_, s', rs, length, hfix, hI', Nat.le_refl _, fun _ => rfl⟩
  · obtain ⟨ret, s', rs, n, hfix, hI', hn, hret, _⟩ :=
      fixSize_fails hprogress hint hI hlt hall
    exact ⟨ret, s', rs, n, hfix, hI', Nat.le_of_lt hn, fun hpos => by omega⟩

end Stream

namespace Value

/-- What is sent: a prefix of the values' bytes, and all of them when the value
    returned is positive. -/
theorem sendAll_spec (memory : Nat → Nat → UInt8) {base_size : Nat} (hbase : 1 ≤ base_size)
    (little : Bool) (sock : Network) (vs : List Value) (w : Traffic)
    (hlt : (bytesAll (if little then .little else .big) vs).length < 2 ^ 63) :
    ∃ ret s n, sendAll memory base_size little sock vs w = .ok (ret, s) ∧
      s.wire.sent = w.sent ++ (bytesAll (if little then .little else .big) vs).take n ∧
      s.wire.taken = w.taken ∧ s.ba.position = n ∧
      (0 < ret → n = (bytesAll (if little then .little else .big) vs).length) := by
  obtain ⟨ba, hwrite, hholds⟩ := writeAll_spec memory vs (Holds.new memory hbase little)
  rw [List.nil_append] at hholds
  obtain ⟨ba₀, hset, h₀, _, _, hposition, hsize, _, hroot⟩ :=
    ByteArray.setPosition_spec hholds.wellFormed (Nat.zero_le ba.capacity)
  have hcontent : ba₀.content = bytesAll (if little then .little else .big) vs := by
    rw [← hholds.content]
    unfold ByteArray.content
    rw [hroot, hsize, Nat.max_eq_left (Nat.zero_le _)]
  -- after setPosition(0) all of it is there to be read
  have hread : ba₀.getReadSize = (bytesAll (if little then .little else .big) vs).length := by
    rw [← hcontent, h₀.content_length]
    unfold ByteArray.getReadSize
    rw [hposition, Nat.sub_zero]
  have hlt' : ba₀.getReadSize < 2 ^ 63 := by omega
  have hI : WrittenArray w ba₀ [] 0 ⟨w, ba₀⟩ := ⟨by simp, by simp, h₀, rfl, rfl⟩
  obtain ⟨ret, s, rs, n, hfix, ⟨_, hwire, _, hposition', _⟩, _, hall⟩ :=
    Stream.fixSize_pos (writeArray_progress sock w) (fun hI => hI.1) hI hlt'
  refine ⟨ret, s, n, ?_, ?_, by rw [hwire], ?_, fun hpos => (hall hpos).trans hread⟩
  · have hsend : Stream.writeFixSizeArray sock ba₀.getReadSize w ba₀ = .ok (ret, s) := hfix
    simp only [sendAll, hwrite, hset, hsend, Except.bind]
  · rw [hwire, hposition, List.drop_zero, hcontent]
  · rw [hposition', hposition, Nat.zero_add]

end Value

/-! ## Section 3: The byte order stays -/

namespace ByteArray

theorem addCapacity_endian (memory : Nat → Nat → UInt8) (ba : ByteArray) (size : Nat) :
    (ba.addCapacity memory size).endian = ba.endian := by
  unfold addCapacity
  split
  · rfl
  · dsimp only
    split <;> rfl

theorem getWriteBuffers_endian {memory : Nat → Nat → UInt8} {ba ba' : ByteArray} {len : Nat}
    {iovs : List IoVec} (h : ba.getWriteBuffers memory len = .ok (ba', iovs)) :
    ba'.endian = ba.endian := by
  unfold getWriteBuffers at h
  split at h
  · cases h
    rfl
  · dsimp only at h
    split at h
    · cases h
    · split at h
      · cases h
      · cases h
        exact addCapacity_endian memory ba len

theorem setPosition_endian {ba ba' : ByteArray} {v : Nat} (h : ba.setPosition v = .ok ba') :
    ba'.endian = ba.endian := by
  unfold setPosition at h
  split at h
  · cases h
  · split at h
    · cases h
    · cases h
      rfl

end ByteArray

theorem SocketStream.readArray_endian {memory : Nat → Nat → UInt8} {sock : Network} {n : Nat}
    {s s' : Arrayed} {len : Int} (h : readArray memory sock n s = .ok (len, s')) :
    s'.ba.endian = s.ba.endian := by
  unfold readArray at h
  split at h
  · cases h
    rfl
  · split at h
    · cases h
    · rename_i ba₁ iovs hbuffers
      have hgrown := ByteArray.getWriteBuffers_endian hbuffers
      dsimp only at h
      split at h
      · cases h
      · rename_i ba₂ hadvance
        cases h
        unfold advance at hadvance
        split at hadvance
        · exact (ByteArray.setPosition_endian hadvance).trans hgrown
        · cases hadvance
          exact hgrown

/-! ## Section 4: The values arrive -/

namespace Value

/-- What is received, where the transfer succeeds: an array that holds just the
    bytes that came in. -/
theorem readFixSizeArray_spec (memory : Nat → Nat → UInt8) {base_size : Nat} (hbase : 1 ≤ base_size)
    (little : Bool) (sock : Network) (w : Traffic) {length : Nat} (hlt : length < 2 ^ 63) :
    ∃ ret s, Stream.readFixSizeArray memory sock length w
        ((ByteArray.new memory base_size).setIsLittleEndian little) = .ok (ret, s) ∧
      (0 < ret → s.wire.taken = w.taken + length ∧ s.ba.WellFormed ∧
        s.ba.endian = (if little then .little else .big) ∧
        s.ba.content = slice sock.input w.taken length) := by
  let fresh := (ByteArray.new memory base_size).setIsLittleEndian little
  have hnew := Holds.new memory hbase little
  have hprogress := (readArray_progress memory sock w hnew.wellFormed).frame
    (J := fun s => s.ba.endian = (if little then .little else .big))
    (fun hcall hJ => (readArray_endian hcall).trans hJ)
  have hI : ReadArray sock w fresh [] 0 ⟨w, fresh⟩ :=
    ⟨by simp, by simp, hnew.wellFormed, rfl, by simp [slice]⟩
  obtain ⟨ret, s, rs, n, hfix, ⟨⟨_, hwire, h', _, hcontent⟩, hendian⟩, _, hall⟩ :=
    Stream.fixSize_pos hprogress (fun hI => hI.1.1) (s := ⟨w, fresh⟩) ⟨hI, hnew.endian⟩ hlt
  refine ⟨ret, s, hfix, fun hpos => ?_⟩
  obtain rfl := hall hpos
  refine ⟨by rw [hwire], h', hendian, ?_⟩
  rw [hcontent, hnew.content]
  simp [overwrite, hnew.position]

/-- The last value is not an empty string; to read one there has to be a node
    behind the last byte. -/
def EndsInBytes (vs : List Value) : Prop := ∀ v, vs.getLast? = some v → ¬ v.EmptyString

theorem receiveAll_of_pos {memory : Nat → Nat → UInt8} {base_size length : Nat} {little : Bool}
    {sock : Network} {ks : List Kind} {w : Traffic} {ret : Int} {s : Arrayed} {ba : ByteArray}
    {out : ByteArray × List Value}
    (hread : Stream.readFixSizeArray memory sock length w
      ((ByteArray.new memory base_size).setIsLittleEndian little) = .ok (ret, s)) (hpos : 0 < ret)
    (hset : s.ba.setPosition 0 = .ok ba) (hvalues : readAll ks ba = .ok out) :
    receiveAll memory base_size little sock length ks w = .ok (ret, s.wire, some out) := by
  unfold receiveAll
  rw [hread]
  show (if ret ≤ 0 then _ else _) = _
  rw [if_neg (by omega), hset]
  show (readAll ks ba).map _ = _
  rw [hvalues]
  rfl

theorem receiveAll_of_nonpos {memory : Nat → Nat → UInt8} {base_size length : Nat} {little : Bool}
    {sock : Network} (ks : List Kind) {w : Traffic} {ret : Int} {s : Arrayed}
    (hread : Stream.readFixSizeArray memory sock length w
      ((ByteArray.new memory base_size).setIsLittleEndian little) = .ok (ret, s)) (hret : ret ≤ 0) :
    receiveAll memory base_size little sock length ks w = .ok (ret, s.wire, none) := by
  unfold receiveAll
  rw [hread]
  show (if ret ≤ 0 then _ else _) = _
  rw [if_pos hret]

theorem receiveAll_spec (memory : Nat → Nat → UInt8) {base_size : Nat} (hbase : 1 ≤ base_size)
    (little : Bool) (sock : Network) {vs : List Value} (hvalid : ∀ v ∈ vs, v.Valid ∧ ¬ v.TooLong)
    (hlast : EndsInBytes vs) (w : Traffic)
    (hlt : (bytesAll (if little then .little else .big) vs).length < 2 ^ 63)
    (hinput : slice sock.input w.taken (bytesAll (if little then .little else .big) vs).length =
      bytesAll (if little then .little else .big) vs) :
    ∃ ret w' out, receiveAll memory base_size little sock
        (bytesAll (if little then .little else .big) vs).length (vs.map Sigma.fst) w =
          .ok (ret, w', out) ∧
      (0 < ret → w'.taken = w.taken + (bytesAll (if little then .little else .big) vs).length ∧
        ∃ ba, out = some (ba, vs) ∧ ba.getReadSize = 0) := by
  obtain ⟨ret, s, hread, hall⟩ := readFixSizeArray_spec memory hbase little sock w hlt
  by_cases hpos : 0 < ret
  · obtain ⟨htaken, h', hendian, hcontent⟩ := hall hpos
    obtain ⟨ba₀, hset, h₀, _, hendian₀, hposition, hsize, _, hroot⟩ :=
      ByteArray.setPosition_spec h' (Nat.zero_le s.ba.capacity)
    have hrest : ba₀.content.drop ba₀.position =
        bytesAll (if little then .little else .big) vs ++ [] := by
      rw [hposition, List.drop_zero, List.append_nil, ← hinput, ← hcontent]
      unfold ByteArray.content
      rw [hroot, hsize, Nat.max_eq_left (Nat.zero_le _)]
    obtain ⟨ba, hvalues, hdone⟩ := readAll_spec vs hvalid
      ⟨h₀, hendian₀.trans hendian, rfl, rfl, hrest⟩ (fun _ _ => hlast)
    exact ⟨ret, s.wire, some (ba, vs), receiveAll_of_pos hread hpos hset hvalues,
      fun _ => ⟨htaken, ba, rfl, hdone.getReadSize⟩⟩
  · exact ⟨ret, s.wire, none, receiveAll_of_nonpos _ hread (by omega), fun h => absurd h hpos⟩

end Value

open Value

/-- A list of values written to one array and sent, and received in another,
    arrives as it was, however the calls at the two ends move the bytes; an
    end at which the transfer fails says so and has no values. -/
theorem values_cross_socket (memory memory' : Nat → Nat → UInt8) {base_size base_size' : Nat}
    (hbase : 1 ≤ base_size) (hbase' : 1 ≤ base_size') (little : Bool) (sender receiver : Network)
    {vs : List Value} (hvalid : ∀ v ∈ vs, v.Valid ∧ ¬ v.TooLong) (hlast : EndsInBytes vs)
    (w w' : Traffic) (hlt : (bytesAll (if little then .little else .big) vs).length < 2 ^ 63) :
    ∃ ret s, sendAll memory base_size little sender vs w = .ok (ret, s) ∧
      (0 < ret →
        s.wire.sent = w.sent ++ bytesAll (if little then .little else .big) vs ∧
        (slice receiver.input w'.taken s.ba.position = s.wire.sent.drop w.sent.length →
          ∃ ret' w'' out, receiveAll memory' base_size' little receiver s.ba.position
              (vs.map Sigma.fst) w' = .ok (ret', w'', out) ∧
            (0 < ret' → w''.taken = w'.taken + s.ba.position ∧
              ∃ ba, out = some (ba, vs) ∧ ba.getReadSize = 0))) := by
  obtain ⟨ret, s, n, hsend, hsent, _, hposition, hall⟩ :=
    sendAll_spec memory hbase little sender vs w hlt
  refine ⟨ret, s, hsend, fun hpos => ?_⟩
  have hn := hall hpos
  rw [hn, List.take_length] at hsent
  refine ⟨hsent, fun hinput => ?_⟩
  rw [hposition, hn] at hinput ⊢
  rw [hsent, List.drop_left] at hinput
  exact receiveAll_spec memory' hbase' little receiver hvalid hlast w' hlt hinput

/-- A connected socket that moves one byte a call. -/
def Network.bytewise (input : Memory) : Network where
  isConnected _ := true
  result _ asked :=
    { rt := ((min asked 1 : Nat) : Int)
      le := by omega
      lo := by omega
      hi := by omega }
  input := input

/-- Six bytes from blocks of three to blocks of five. -/
theorem values_cross_socket_six :
    let vs : List Value := [⟨.int32, -1⟩, ⟨.stringVint, [104, 105]⟩, ⟨.fuint16, 300⟩]
    let receiver := Network.bytewise fun i => [1, 2, 104, 105, 1, 44].getD i 0
    ∃ s w ba, sendAll (fun _ _ => 0) 3 false (.bytewise fun _ => 0) vs ⟨[], 0, []⟩ = .ok (6, s) ∧
      receiveAll (fun _ _ => 0) 5 false receiver 6 (vs.map Sigma.fst) ⟨[], 0, []⟩ =
        .ok (6, w, some (ba, vs)) ∧ ba.getReadSize = 0 := by
  intro vs receiver
  have hvalid : ∀ v ∈ vs, v.Valid ∧ ¬ v.TooLong := by simp [vs, Valid, TooLong]
  obtain ⟨ret, s, hsend, hall⟩ := values_cross_socket (fun _ _ => 0) (fun _ _ => 0)
    (show 1 ≤ 3 by decide) (show 1 ≤ 5 by decide) false (.bytewise fun _ => 0) receiver
    hvalid (by simp [EndsInBytes, vs, EmptyString]) ⟨[], 0, []⟩ ⟨[], 0, []⟩ (by decide)
  have hsix : (sendAll (fun _ _ => 0) 3 false (.bytewise fun _ => 0) vs ⟨[], 0, []⟩).toOption.map
      (fun r => (r.1, r.2.wire.sent, r.2.ba.position)) =
        some (6, [1, 2, 104, 105, 1, 44], 6) := by decide +kernel
  rw [hsend] at hsix
  obtain ⟨rfl, hsent, hposition⟩ : ret = 6 ∧ s.wire.sent = _ ∧ s.ba.position = 6 := by
    simpa [Except.toOption] using hsix
  obtain ⟨ret', w, out, hreceive, hvalues⟩ := (hall (by decide)).2 (by
    rw [hsent, hposition]
    decide)
  rw [hposition] at hreceive
  have hret : (receiveAll (fun _ _ => 0) 5 false receiver 6 (vs.map Sigma.fst)
      ⟨[], 0, []⟩).toOption.map Prod.fst = some 6 := by decide +kernel
  rw [hreceive] at hret
  obtain rfl : ret' = 6 := by simpa [Except.toOption] using hret
  obtain ⟨_, ba, rfl, hdone⟩ := hvalues (by decide)
  exact ⟨s, w, ba, hsend, hreceive, hdone⟩

end MNSER
