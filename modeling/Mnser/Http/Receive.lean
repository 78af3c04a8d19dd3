import Mnser.Http.Message

/-! # Receiving

    The header loop and the body that `HttpSession::recvRequest` and
    `HttpConnection::recvResponse` have in common, for any parser. -/

namespace MNSER

namespace Http

/-! ## Section 1: The header loop -/

/-- A parser as the header loop sees it. -/
structure Parser (P : Type) where
  execute    : P → Bytes → Option (P × Nat)
  hasError   : P → Bool
  isFinished : P → Int

/-- Read and parse until the header is complete.  `buffer` is what was read and
    not parsed; every round reads at least one byte of the stream, so a bound on
    its bytes is enough `fuel`. -/
def recvHeader {P : Type} (parser : Parser P) (buff_size : Nat) :
    Nat → P → Bytes → Stream → Except Failure (P × Bytes × Stream)
  | 0, _, _, _ => .error .nullptr
  | fuel + 1, p, buffer, s =>
    match read (buff_size - buffer.length) s with
    | none => .error .nullptr
    | some (got, s) =>
      match parser.execute p (buffer ++ got) with
      | none => .error .threw
      | some (p, nparse) =>
        let buffer' := (buffer ++ got).drop nparse
        if parser.hasError p then .error .nullptr
        else if (buffer'.length : Int) = toInt buff_size then .error .nullptr
        else if parser.isFinished p ≠ 0 then .ok (p, buffer', s)
        else recvHeader parser buff_size fuel p buffer' s

def fuelFor (s : Stream) : Nat := s.flatten.length + 1

/-- One `read` takes some bytes off the front of the stream. -/
theorem read_spec {n : Nat} {s s' : Stream} {got : Bytes} (h : read n s = some (got, s')) :
    got ≠ [] ∧ got.length ≤ n ∧ s.flatten = got ++ s'.flatten := by
  cases s with
  | nil => cases h
  | cons c cs =>
    simp only [read] at h
    split at h
    · cases h
    · rename_i hempty
      rw [not_or] at hempty
      split at h
      · rename_i hle
        obtain ⟨rfl, rfl⟩ := Prod.mk.inj (Option.some.inj h)
        exact ⟨hempty.1, hle, rfl⟩
      · rename_i hlt
        obtain ⟨rfl, rfl⟩ := Prod.mk.inj (Option.some.inj h)
        refine ⟨?_, List.length_take_le _ _, ?_⟩
        · intro hnil
          have hlen := congrArg List.length hnil
          rw [List.length_take] at hlen
          have := List.length_pos_iff.mpr hempty.1
          simp only [List.length_nil] at hlen
          omega
        · simp only [List.flatten_cons, ← List.append_assoc, List.take_append_drop]

/-- A read that gives all of what came in. -/
theorem read_cons {n : Nat} {c : Bytes} (cs : Stream) (hc : c ≠ []) (hle : c.length ≤ n) :
    read n (c :: cs) = some (c, cs) := by
  have hn : n ≠ 0 := by
    have := List.length_pos_iff.mpr hc
    omega
  simp only [read, hc, hn, or_self, if_false, if_pos hle]

/-- A first read that has room for the whole header. -/
theorem read_first {n : Nat} {header first : Bytes} {s : Stream} (hne : header ≠ [])
    (hn : header.length ≤ n) (hfirst : header <+: first) :
    ∃ got s', read n (first :: s) = some (header ++ got, s') ∧
      got ++ s'.flatten = (first :: s).flatten.drop header.length ∧
      ((∀ c ∈ s, c ≠ []) → ∀ c ∈ s', c ≠ []) := by
  obtain ⟨more, rfl⟩ := hfirst
  have hlen := List.length_pos_iff.mpr hne
  have hnil : header ++ more ≠ [] := by simp [hne]
  by_cases hle : (header ++ more).length ≤ n
  · refine ⟨more, s, read_cons s hnil hle, ?_, id⟩
    rw [List.flatten_cons, List.append_assoc, List.drop_left]
  · rw [List.length_append] at hle
    refine ⟨more.take (n - header.length), more.drop (n - header.length) :: s, ?_, ?_, ?_⟩
    · have hzero : ¬ (header ++ more = [] ∨ n = 0) := by
        rw [not_or]
        exact ⟨hnil, by omega⟩
      rw [read, if_neg hzero, if_neg (by rwa [List.length_append]), List.take_append,
        List.take_of_length_le hn, List.drop_append, List.drop_of_length_le hn, List.nil_append]
    · rw [List.flatten_cons, List.flatten_cons, ← List.append_assoc, List.take_append_drop,
        List.append_assoc, List.drop_left]
    · intro hs c hc
      rcases List.mem_cons.mp hc with rfl | hc
      · intro hdrop
        have := congrArg List.length hdrop
        rw [List.length_drop, List.length_nil] at this
        omega
      · exact hs c hc

/-- One round of the loop with an empty buffer. -/
theorem recvHeader_read {P : Type} {parser : Parser P} {n : Nat} (fuel : Nat) {p p' : P}
    {got : Bytes} {s s' : Stream} {nparse : Nat} (hn : n < 0x80000000) (hread : read n s = some (got, s'))
    (hexecute : parser.execute p got = some (p', nparse)) (hnparse : 0 < nparse) :
    recvHeader parser n (fuel + 1) p [] s =
      if parser.hasError p' then .error .nullptr
      else if parser.isFinished p' ≠ 0 then .ok (p', got.drop nparse, s')
      else recvHeader parser n fuel p' (got.drop nparse) s' := by
  obtain ⟨hgot, hle, _⟩ := read_spec hread
  have hfull : ¬ ((got.drop nparse).length : Int) = toInt n := by
    have := List.length_pos_iff.mpr hgot
    rw [toInt_of_lt hn, List.length_drop]
    omega
  simp only [recvHeader, List.length_nil, Nat.sub_zero, hread, List.nil_append, hexecute,
    if_neg hfull]

/-- The error is seen before the room left in the buffer. -/
theorem recvHeader_error {P : Type} {parser : Parser P} {n fuel : Nat} {p p' : P}
    {got : Bytes} {s s' : Stream} {nparse : Nat} (hread : read n s = some (got, s'))
    (hexecute : parser.execute p got = some (p', nparse)) (herror : parser.hasError p' = true) :
    recvHeader parser n (fuel + 1) p [] s = .error .nullptr := by
  simp only [recvHeader, List.length_nil, Nat.sub_zero, hread, List.nil_append, hexecute,
    herror, if_true]

/-- What `execute` keeps, the header loop keeps. -/
theorem recvHeader_keeps {P : Type} {parser : Parser P} {K : P → Prop}
    (hkeep : ∀ p data p' nparse, parser.execute p data = some (p', nparse) → K p → K p')
    {n : Nat} (fuel : Nat) :
    ∀ {p p' : P} {buffer buffer' : Bytes} {s s' : Stream}, K p →
      recvHeader parser n fuel p buffer s = .ok (p', buffer', s') → K p' := by
  induction fuel with
  | zero =>
    intro p p' buffer buffer' s s' _ h
    cases h
  | succ fuel ih =>
    intro p p' buffer buffer' s s' hp h
    simp only [recvHeader] at h
    split at h
    · cases h
    · rename_i got s₁ hread
      split at h
      · cases h
      · rename_i p₁ nparse hexecute
        have hp₁ := hkeep p _ p₁ nparse hexecute hp
        split at h
        · cases h
        · split at h
          · cases h
          · split at h
            · obtain ⟨rfl, _⟩ := Prod.mk.inj (Except.ok.inj h)
              exact hp₁
            · exact ih hp₁ h

/-! ## Section 2: The body -/

/-- `readFixSize` gives as many bytes as it is asked for, or fails where there are
    fewer. -/
theorem readFixSize_spec {s : Stream} (hs : ∀ c ∈ s, c ≠ []) :
    ∀ n, if n ≤ s.flatten.length then
      ∃ s', readFixSize n s = some (s.flatten.take n, s') ∧ s'.flatten = s.flatten.drop n ∧
        ∀ c ∈ s', c ≠ []
      else readFixSize n s = none := by
  induction s with
  | nil =>
    intro n
    cases n with
    | zero => exact ⟨[], rfl, rfl, by simp⟩
    | succ n => rfl
  | cons c cs ih =>
    have hc : c ≠ [] := hs c List.mem_cons_self
    have hcs := ih fun x hx => hs x (List.mem_cons_of_mem _ hx)
    intro n
    cases n with
    | zero =>
      rw [if_pos (Nat.zero_le _)]
      exact ⟨c :: cs, rfl, rfl, hs⟩
    | succ n =>
      simp only [readFixSize, if_neg hc, List.flatten_cons, List.length_append]
      -- a read takes all that has come, up to what is asked for
      by_cases hle : c.length ≤ n + 1
      · rw [if_pos hle]
        have hrest := hcs (n + 1 - c.length)
        by_cases henough : n + 1 ≤ c.length + cs.flatten.length
        · rw [if_pos (show n + 1 - c.length ≤ cs.flatten.length by omega)] at hrest
          obtain ⟨s', hread, hflat, hne⟩ := hrest
          rw [if_pos henough]
          refine ⟨s', ?_, ?_, hne⟩
          · rw [hread, List.take_append, List.take_of_length_le hle]
            rfl
          · rw [hflat, List.drop_append, List.drop_of_length_le hle, List.nil_append]
        · rw [if_neg (show ¬ n + 1 - c.length ≤ cs.flatten.length by omega)] at hrest
          rw [if_neg henough, hrest]
          rfl
      · -- what is available is more than is asked for
        rw [if_neg hle, if_pos (by omega)]
        refine ⟨c.drop (n + 1) :: cs, ?_, ?_, ?_⟩
        · rw [List.take_append_of_le_length (by omega)]
        · rw [List.flatten_cons, List.drop_append_of_le_length (by omega)]
        · intro x hx
          rcases List.mem_cons.mp hx with rfl | hx
          · intro hnil
            have := congrArg List.length hnil
            rw [List.length_drop, List.length_nil] at this
            omega
          · exact hs x (List.mem_cons_of_mem _ hx)

/-- A length below 2^31 is announced as it is. -/
theorem toInt64_length {n : Nat} (h : n < 0x80000000) : toInt64 n.toUInt64.toNat = n := by
  have hmod : n.toUInt64.toNat = n := UInt64.toNat_ofNat_of_lt' (Nat.lt_trans h (by decide))
  unfold toInt64
  rw [hmod, Int.bmod_def]
  omega

/-- All of the body was read with the header. -/
theorem recvBody_buffered {length : Int} {buffer : Bytes} (s : Stream)
    (hle : length ≤ buffer.length) :
    recvBody length buffer s = .ok (buffer.take length.toNat, s) := by
  unfold recvBody
  dsimp only
  rw [if_neg (show ¬ 0 < length - buffer.length by omega)]
  by_cases heq : (buffer.length : Int) ≤ length
  · rw [if_pos heq, List.take_of_length_le (by omega)]
  · rw [if_neg heq]

/-- The body only depends on the bytes behind the header. -/
theorem recvBody_spec {length : Int} (buffer : Bytes) {s : Stream} (hlength : 0 < length)
    (hs : ∀ c ∈ s, c ≠ []) (hsmall : min (length - buffer.length) s.flatten.length < 0x80000000) :
    if length.toNat ≤ (buffer ++ s.flatten).length then
      ∃ s', recvBody length buffer s = .ok ((buffer ++ s.flatten).take length.toNat, s')
    else recvBody length buffer s = .error .nullptr := by
  by_cases hle : length ≤ buffer.length
  · rw [if_pos (by rw [List.length_append]; omega)]
    refine ⟨s, ?_⟩
    rw [recvBody_buffered s hle, List.take_append_of_le_length (by omega)]
  · have hread := readFixSize_spec hs (length - buffer.length).toNat
    unfold recvBody
    dsimp only
    rw [if_pos (show (buffer.length : Int) ≤ length by omega),
      if_pos (show 0 < length - buffer.length by omega)]
    by_cases henough : length.toNat ≤ (buffer ++ s.flatten).length
    · rw [if_pos henough]
      rw [List.length_append] at henough
      rw [if_pos (by omega)] at hread
      obtain ⟨s', hread, _, _⟩ := hread
      have hpositive : ¬ toInt (length - buffer.length).toNat ≤ 0 := by
        rw [toInt_of_lt (by omega)]
        omega
      refine ⟨s', ?_⟩
      rw [hread]
      dsimp only
      rw [if_neg hpositive, List.take_append,
        List.take_of_length_le (show buffer.length ≤ length.toNat by omega),
        show (length - buffer.length).toNat = length.toNat - buffer.length by omega]
    · rw [if_neg henough]
      rw [List.length_append] at henough
      rw [if_neg (by omega)] at hread
      rw [hread]

end Http

end MNSER
