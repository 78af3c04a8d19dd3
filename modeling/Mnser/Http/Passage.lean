import Mnser.Framework.Scanner
import Mnser.Http.Dump

/-! # Passing over a text

    What a scanner with call backs does on a piece of its buffer, whatever
    stands in front of it and behind it: it goes from one state to another,
    and its data change in a known way.  Both parsers share the shape of a
    header line, so the rule for it is stated once for any scanner. -/

namespace MNSER

namespace Http

open Scanner

variable {σ ρ κ S : Type} [DecidableEq ρ] {origin : ρ → Option ρ}
  {call : κ → Bytes → Nat → (ρ → Nat) → S → Option S} {δ : σ → UInt8 → Step σ (Act ρ κ)}

/-- The text behind a mark. -/
theorem text_of_drop {buffer xs rest : Bytes} {p : Nat} (h : buffer.drop p = xs ++ rest) :
    text buffer p xs.length = xs := by
  rw [text, h, List.take_left]

/-- The text from its mark on. -/
theorem text_marked {buffer xs rest : Bytes} {m : Nat} (h : buffer.drop m = xs ++ rest) :
    text buffer m (m + xs.length - m) = xs := by
  rw [Nat.add_sub_cancel_left, text_of_drop h]

theorem drop_add {buffer xs ys : Bytes} {p : Nat} (h : buffer.drop p = xs ++ ys) :
    buffer.drop (p + xs.length) = ys := by
  rw [← List.drop_drop, h, List.drop_left]

/-! ## Section 1: Passages -/

/-- In `buffer` the text `xs` leads from `s` to `t`, and changes the data as `K` says. -/
def Passes (origin : ρ → Option ρ) (call : κ → Bytes → Nat → (ρ → Nat) → S → Option S)
    (δ : σ → UInt8 → Step σ (Act ρ κ)) (buffer : Bytes) (s : σ) (xs : Bytes) (t : σ)
    (K : S → S → Prop) : Prop :=
  ∀ p regs d rest, buffer.drop p = xs ++ rest →
    ∃ regs' d', scan δ (perform origin call buffer) p s (regs, d) (xs ++ rest) =
        scan δ (perform origin call buffer) (p + xs.length) t (regs', d') rest ∧ K d d'

theorem Passes.nil {buffer : Bytes} {s : σ} {K : S → S → Prop} (hK : ∀ d, K d d) :
    Passes origin call δ buffer s [] s K :=
  fun _ regs d _ _ => ⟨regs, d, rfl, hK d⟩

/-- Two passages make one. -/
theorem Passes.trans {buffer xs ys : Bytes} {s t u : σ} {K₁ K₂ K : S → S → Prop}
    (h₁ : Passes origin call δ buffer s xs t K₁) (h₂ : Passes origin call δ buffer t ys u K₂)
    (hK : ∀ a b c, K₁ a b → K₂ b c → K a c) :
    Passes origin call δ buffer s (xs ++ ys) u K := by
  intro p regs d rest hp
  rw [List.append_assoc] at hp ⊢
  obtain ⟨regs₁, d₁, hscan₁, hK₁⟩ := h₁ p regs d (ys ++ rest) hp
  obtain ⟨regs₂, d₂, hscan₂, hK₂⟩ := h₂ (p + xs.length) regs₁ d₁ rest (drop_add hp)
  refine ⟨regs₂, d₂, ?_, hK d d₁ d₂ hK₁ hK₂⟩
  rw [hscan₁, hscan₂, List.length_append, Nat.add_assoc]

/-- One byte. -/
theorem Passes.byte {buffer : Bytes} {s t : σ} {c : UInt8} {acts : List (Act ρ κ)}
    {K : S → S → Prop} (hstep : δ s c = .next t acts)
    (hacts : ∀ p regs d, ∃ regs' d', perform origin call buffer p acts (regs, d) =
      some (regs', d') ∧ K d d') :
    Passes origin call δ buffer s [c] t K := by
  intro p regs d rest _
  obtain ⟨regs', d', heff, hK⟩ := hacts p regs d
  exact ⟨regs', d', scan_next hstep heff rest, hK⟩

/-- A text whose first byte is noted, and what is done with it at the byte behind it. -/
theorem Passes.marked {buffer cs : Bytes} {s t u v : σ} {c e : UInt8} {r : ρ}
    {acts : List (Act ρ κ)} {K : S → S → Prop} (hfirst : δ s c = .next t [.mark r])
    (hrest : silent δ t cs = some u) (hend : δ u e = .next v acts)
    (hacts : ∀ regs d rest, buffer.drop (regs r) = c :: cs ++ e :: rest →
      ∃ regs' d', perform origin call buffer (regs r + (c :: cs).length) acts (regs, d) =
        some (regs', d') ∧ K d d') :
    Passes origin call δ buffer s (c :: cs ++ [e]) v K := by
  intro p regs d rest hp
  have hmark : Function.update regs r p r = p := Function.update_self r p regs
  rw [List.append_assoc, List.singleton_append] at hp ⊢
  obtain ⟨regs', d', heff, hK⟩ := hacts (Function.update regs r p) d rest (by rw [hmark]; exact hp)
  rw [hmark] at heff
  have hlen : p + 1 + cs.length = p + (c :: cs).length := by
    rw [List.length_cons]
    omega
  refine ⟨regs', d', ?_, hK⟩
  rw [List.cons_append, scan_next hfirst (e := (Function.update regs r p, d)) rfl,
    scan_silent (fun _ _ => rfl) hrest, hlen, scan_next hend heff, List.length_append,
    List.length_singleton, Nat.add_assoc]

/-! ## Section 2: Header lines -/

/-- How a value is read: from the blank in front of it to the end of its line. -/
def ReadsValue (δ : σ → UInt8 → Step σ (Act ρ κ)) (v : σ) (m : ρ) (value : Bytes) (w : σ)
    (acts : List (Act ρ κ)) : Prop :=
  (value = [] ∧ δ v 13 = .next w (.mark m :: acts)) ∨
    ∃ b bs x y, value = b :: bs ∧ δ v b = .next x [.mark m] ∧ silent δ x bs = some y ∧
      δ y 13 = .next w acts

/-- A header line: the name from `a` on with its length in `l`, the value from `m` on. -/
theorem Passes.line (K₀ K₁ : S → S → Prop) {a l m : ρ} (hl : origin l = some a) (ha : origin a = none)
    (hm : origin m = none) (ham : a ≠ m) {buffer cs value : Bytes} {s t u v w z : σ} {c : UInt8}
    {front acts : List (Act ρ κ)} {K : S → S → Prop}
    (hfirst : δ s c = .next t (front ++ [.mark a]))
    (hfront : ∀ p regs d, ∃ d', perform origin call buffer p (front ++ [.mark a]) (regs, d) =
      some (Function.update regs a p, d') ∧ K₀ d d')
    (hname : silent δ t cs = some u) (hcolon : δ u 58 = .next v [.measure l])
    (hblank : δ v 32 = .next v [.mark m]) (hvalue : ReadsValue δ v m value w acts)
    (hacts : ∀ regs d rest, text buffer (regs a) (regs l) = c :: cs →
      buffer.drop (regs m) = value ++ 13 :: rest →
      ∃ regs' d', perform origin call buffer (regs m + value.length) acts (regs, d) =
        some (regs', d') ∧ K₁ d d')
    (hend : δ w 10 = .next z []) (hK : ∀ d₁ d₂ d₃, K₀ d₁ d₂ → K₁ d₂ d₃ → K d₁ d₃) :
    Passes origin call δ buffer s (headerLine (c :: cs) value) z K := by
  have hal : a ≠ l := by
    rintro rfl
    rw [ha] at hl
    cases hl
  have hml : m ≠ l := by
    rintro rfl
    rw [hm] at hl
    cases hl
  intro p regs d rest hp
  have hlen : (headerLine (c :: cs) value).length = cs.length + value.length + 5 := by
    simp [headerLine, ascii, crlf]
    omega
  have hsplit : headerLine (c :: cs) value ++ rest =
      c :: (cs ++ 58 :: 32 :: (value ++ 13 :: 10 :: rest)) := by
    simp [headerLine, ascii, crlf]
  rw [hlen]
  rw [hsplit] at hp ⊢
  -- the name, its colon and the blank
  obtain ⟨d₁, heff₁, hK₀⟩ := hfront p regs d
  obtain ⟨regs₁, hregs₁⟩ : ∃ regs₁, regs₁ = Function.update (Function.update regs a p) l
    (p + 1 + cs.length - p) := ⟨_, rfl⟩
  have hmeasure : perform origin call buffer (p + 1 + cs.length) [.measure l]
      (Function.update regs a p, d₁) = some (regs₁, d₁) := by
    rw [hregs₁]
    simp only [perform, move, hl, Function.update_self]
  rw [scan_next hfirst heff₁, scan_silent (fun _ _ => rfl) hname, scan_next hcolon hmeasure,
    scan_next hblank (e := (Function.update regs₁ m (p + 1 + cs.length + 1), d₁)) rfl]
  have hdrop : buffer.drop (p + 1 + cs.length + 2) = value ++ 13 :: 10 :: rest := by
    have hname : buffer.drop p = (c :: (cs ++ [58, 32])) ++ (value ++ 13 :: 10 :: rest) := by
      rw [hp]
      simp
    have := drop_add hname
    rwa [show p + (c :: (cs ++ [58, 32])).length = p + 1 + cs.length + 2 by simp; omega] at this
  -- what the registers say when the value begins
  obtain ⟨q, hq⟩ : ∃ q, q = p + 1 + cs.length + 2 := ⟨_, rfl⟩
  have hfield : ∀ regs₂ : ρ → Nat, regs₂ = Function.update
      (Function.update regs₁ m (p + 1 + cs.length + 1)) m q →
      text buffer (regs₂ a) (regs₂ l) = c :: cs ∧ regs₂ m = q := by
    rintro regs₂ rfl
    rw [Function.update_of_ne ham, Function.update_of_ne ham, Function.update_of_ne hml.symm,
      Function.update_of_ne hml.symm, Function.update_self, hregs₁, Function.update_self,
      Function.update_of_ne hal, Function.update_self,
      show p + 1 + cs.length - p = (c :: cs).length by rw [List.length_cons]; omega]
    have hname : buffer.drop p = (c :: cs) ++ 58 :: 32 :: (value ++ 13 :: 10 :: rest) := by
      rw [hp, List.cons_append]
    exact ⟨text_of_drop hname, rfl⟩
  rw [← hq] at hdrop
  obtain ⟨htext, hmark⟩ := hfield _ rfl
  obtain ⟨regs', d', heff, hK₁⟩ := hacts (Function.update
    (Function.update regs₁ m (p + 1 + cs.length + 1)) m q) d₁ (10 :: rest) htext (by
      rw [hmark]
      exact hdrop)
  rw [hmark] at heff
  refine ⟨regs', d', ?_, hK d d₁ d' hK₀ hK₁⟩
  rw [show p + 1 + cs.length + 1 + 1 = q by omega]
  rcases hvalue with ⟨rfl, hcr⟩ | ⟨b, bs, x, y, rfl, hb, hbs, hcr⟩
  · rw [List.nil_append, scan_next hcr (e := (regs', d')) heff,
      scan_next hend (e := (regs', d')) rfl]
    rw [show q + 1 + 1 = p + (cs.length + ([] : Bytes).length + 5) by
      rw [List.length_nil]
      omega]
  · rw [List.cons_append, scan_next hb (e := (Function.update
        (Function.update regs₁ m (p + 1 + cs.length + 1)) m q, d₁)) rfl,
      scan_silent (fun _ _ => rfl) hbs,
      show q + 1 + bs.length = q + (b :: bs).length by rw [List.length_cons]; omega,
      scan_next hcr heff, scan_next hend (e := (regs', d')) rfl]
    rw [show q + (b :: bs).length + 1 + 1 = p + (cs.length + (b :: bs).length + 5) by omega]

end Http

end MNSER
