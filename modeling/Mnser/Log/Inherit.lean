import Mathlib.Data.Fintype.Basic
import Mnser.Framework.System

/-! # Formatters of appenders

    `Logger::setFormatter`, `Logger::addAppender`, `Logger::delAppender` and
    `LogAppender::setFormatter`, in any order and for any loggers and
    appenders.  An appender without a formatter of its own is to use that of its
    logger, which is copied when it is attached and when the logger's changes. -/

namespace MNSER

namespace Log

open LTS

/-! ## Section 1: Loggers and appenders -/

/-- A formatter is its pointer, an element of `F`. -/
structure AppenderFormat (F : Type) where
  hasFormatter : Bool := false
  formatter    : Option F := none
  deriving DecidableEq

structure Formatters (L A F : Type) where
  formatter : L → Option F
  appenders : L → List A
  appender  : A → AppenderFormat F
  /-- what was last given to the appender itself -/
  given     : A → Option F

inductive FormatLabel (L A F : Type) where
  | setFormatter (l : L) (formatter : Option F)
  | addAppender (l : L) (a : A)
  | delAppender (l : L) (a : A)
  /-- `LogAppender::setFormatter` -/
  | setOwn (a : A) (val : Option F)
  deriving DecidableEq

namespace Formatters

variable {L A F : Type} [DecidableEq L] [DecidableEq A]

/-- Every logger is made with a formatter. -/
def start (new : L → F) : Formatters L A F where
  formatter l := some (new l)
  appenders _ := []
  appender _  := {}
  given _     := none

def setFormatter (s : Formatters L A F) (l : L) (formatter : Option F) : Formatters L A F :=
  { s with
    formatter := fun k => if k = l then formatter else s.formatter k
    appender  := fun a =>
      if a ∈ s.appenders l ∧ (s.appender a).hasFormatter = true then
        { s.appender a with formatter := formatter }
      else s.appender a }

def addAppender (s : Formatters L A F) (l : L) (a : A) : Formatters L A F :=
  { s with
    appender  := fun b =>
      if b = a ∧ (s.appender a).formatter = none then
        { s.appender a with formatter := s.formatter l }
      else s.appender b
    appenders := fun k => if k = l then s.appenders l ++ [a] else s.appenders k }

def delAppender (s : Formatters L A F) (l : L) (a : A) : Formatters L A F :=
  { s with appenders := fun k => if k = l then (s.appenders l).erase a else s.appenders k }

def setOwn (s : Formatters L A F) (a : A) (val : Option F) : Formatters L A F :=
  { s with
    appender := fun b => if b = a then ⟨val.isSome, val⟩ else s.appender b
    given    := fun b => if b = a then val else s.given b }

def next (s : Formatters L A F) : FormatLabel L A F → Option (Formatters L A F)
  | .setFormatter l formatter => some (s.setFormatter l formatter)
  | .addAppender l a => some (s.addAppender l a)
  | .delAppender l a => some (s.delAppender l a)
  | .setOwn a val => some (s.setOwn a val)

/-! ## Section 2: What is to hold -/

/-- `l` is the only logger of the appender. -/
def Only (s : Formatters L A F) (a : A) (l : L) : Prop :=
  a ∈ s.appenders l ∧ ∀ k, a ∈ s.appenders k → k = l

/-- The formatter of the appender itself, or that of the logger. -/
def effective (s : Formatters L A F) (a : A) (l : L) : Option F :=
  (s.given a).or (s.formatter l)

/-- An attached appender has a formatter, and with one logger it is the right one. -/
def Inherited (s : Formatters L A F) : Prop :=
  ∀ a, (∀ l, a ∈ s.appenders l → (s.appender a).formatter ≠ none) ∧
    ∀ l, s.Only a l → (s.appender a).formatter = s.effective a l

/-- The flag says whether there was a formatter for the appender itself. -/
def Flagged (s : Formatters L A F) : Prop :=
  ∀ a, (s.appender a).hasFormatter = (s.given a).isSome

/-- The condition on a step. -/
def Keeps (s : Formatters L A F) : FormatLabel L A F → Prop
  -- appenders with a formatter of their own get the new one, the others do not
  | .setFormatter l formatter => ∀ a ∈ s.appenders l,
      ((s.given a).isSome = true → formatter ≠ none) ∧ (s.Only a l → formatter = s.effective a l)
  -- an appender keeps what it has from an earlier logger
  | .addAppender l a => (∀ k, a ∉ s.appenders k) →
      ((s.appender a).formatter).or (s.formatter l) ≠ none ∧
        ((s.appender a).formatter).or (s.formatter l) = s.effective a l
  -- of two loggers the other one stays
  | .delAppender l a => ∀ k, k ≠ l → (s.appenders l).count a ≤ 1 → a ∈ s.appenders k →
      (∀ j, a ∈ s.appenders j → j = l ∨ j = k) → (s.appender a).formatter = s.effective a k
  | .setOwn a val => (∃ l, a ∈ s.appenders l) → val ≠ none

/-! ## Section 3: Steps -/

theorem flagged_next {s t : Formatters L A F} {l : FormatLabel L A F} (h : s.Flagged)
    (hnext : s.next l = some t) : t.Flagged := by
  intro a
  cases l with
  | setFormatter l formatter =>
    obtain rfl := Option.some.inj hnext
    simp only [setFormatter]
    split <;> exact h a
  | addAppender l b =>
    obtain rfl := Option.some.inj hnext
    simp only [addAppender]
    split
    · rename_i hab
      rw [hab.1]
      exact h b
    · exact h a
  | delAppender l b =>
    obtain rfl := Option.some.inj hnext
    exact h a
  | setOwn b val =>
    obtain rfl := Option.some.inj hnext
    simp only [setOwn]
    split
    · rfl
    · exact h a

/-- Changing a logger's formatter. -/
theorem inherited_setFormatter {s : Formatters L A F} (hflag : s.Flagged) (h : s.Inherited) (l : L)
    (formatter : Option F) :
    (s.setFormatter l formatter).Inherited ↔ s.Keeps (.setFormatter l formatter) := by
  -- the source's test: an appender that was given a formatter is overwritten, the others keep
  -- what they have
  have hown : ∀ a ∈ s.appenders l, ((s.setFormatter l formatter).appender a).formatter =
      if (s.given a).isSome = true then formatter else (s.appender a).formatter := by
    intro a ha
    simp only [setFormatter, ha, true_and, hflag a]
    split <;> rfl
  have hother : ∀ a, a ∉ s.appenders l →
      (s.setFormatter l formatter).appender a = s.appender a := by
    intro a ha
    simp only [setFormatter, ha, false_and, if_false]
  have heffective : ∀ a, (s.setFormatter l formatter).effective a l = (s.given a).or formatter := by
    intro a
    simp only [setFormatter, effective, if_true]
  constructor
  · intro ht a ha
    obtain ⟨hset, honly⟩ := ht a
    have hset := hset l ha
    rw [hown a ha] at hset honly
    refine ⟨fun hgiven => ?_, fun hl => ?_⟩
    · rwa [if_pos hgiven] at hset
    · have heq := honly l hl
      have hbefore := (h a).2 l hl
      rw [heffective] at heq
      unfold effective at hbefore ⊢
      cases hgiven : s.given a with
      | some g =>
        rw [hgiven] at heq
        exact heq
      | none =>
        rw [hgiven] at heq hbefore
        exact heq.symm.trans hbefore
  · intro hkeeps a
    by_cases ha : a ∈ s.appenders l
    · obtain ⟨hgiven, honly⟩ := hkeeps a ha
      rw [hown a ha]
      refine ⟨fun k hk => ?_, fun k hk => ?_⟩
      · split
        · rename_i hsome
          exact hgiven hsome
        · exact (h a).1 k hk
      · obtain rfl : l = k := hk.2 l ha
        have hformatter := honly hk
        have hbefore := (h a).2 l hk
        rw [heffective]
        unfold effective at hformatter hbefore
        cases hg : s.given a with
        | some g =>
          rw [hg] at hformatter
          exact hformatter
        | none =>
          rw [hg] at hformatter hbefore
          exact hbefore.trans hformatter.symm
    · rw [hother a ha]
      refine ⟨(h a).1, fun k hk => ?_⟩
      -- an appender of another logger sees nothing of this
      have hkl : k ≠ l := by
        rintro rfl
        exact ha hk.1
      have heq := (h a).2 k hk
      simpa only [effective, setFormatter, if_neg hkl] using heq

omit [DecidableEq L] in
theorem inherited_setOwn {s : Formatters L A F} (h : s.Inherited) (a : A) (val : Option F) :
    (s.setOwn a val).Inherited ↔ s.Keeps (.setOwn a val) := by
  have hself : ((s.setOwn a val).appender a).formatter = val := by
    simp only [setOwn, if_true]
  constructor
  · rintro ht ⟨l, hl⟩
    have hset := (ht a).1 l hl
    rwa [hself] at hset
  · intro hkeeps b
    by_cases hb : b = a
    · subst hb
      rw [hself]
      refine ⟨fun l hl => hkeeps ⟨l, hl⟩, fun l hl => ?_⟩
      simp only [effective, setOwn, if_true]
      obtain ⟨g, hg⟩ := Option.ne_none_iff_exists'.mp (hkeeps ⟨l, hl.1⟩)
      rw [hg]
      rfl
    · have hsame : (s.setOwn a val).appender b = s.appender b := if_neg hb
      rw [hsame]
      refine ⟨(h b).1, fun l hl => ?_⟩
      have heq := (h b).2 l hl
      simpa only [effective, setOwn, if_neg hb] using heq

theorem mem_addAppender {s : Formatters L A F} {l k : L} {a b : A} :
    b ∈ (s.addAppender l a).appenders k ↔ b ∈ s.appenders k ∨ k = l ∧ b = a := by
  simp only [addAppender]
  split
  · rename_i hk
    subst hk
    simp
  · rename_i hk
    simp [hk]

theorem inherited_addAppender {s : Formatters L A F} (h : s.Inherited) (l : L) (a : A) :
    (s.addAppender l a).Inherited ↔ s.Keeps (.addAppender l a) := by
  -- addAppender hands the logger's formatter over only where there is none
  have hself : ((s.addAppender l a).appender a).formatter =
      ((s.appender a).formatter).or (s.formatter l) := by
    simp only [addAppender, true_and]
    split
    · rename_i hnone
      rw [hnone]
      rfl
    · rename_i hsome
      obtain ⟨g, hg⟩ := Option.ne_none_iff_exists'.mp hsome
      rw [hg]
      rfl
  constructor
  · intro ht hfree
    obtain ⟨hset, honly⟩ := ht a
    have hmem : a ∈ (s.addAppender l a).appenders l := mem_addAppender.mpr (Or.inr ⟨rfl, rfl⟩)
    rw [hself] at hset honly
    refine ⟨hset l hmem, honly l ⟨hmem, fun k hk => ?_⟩⟩
    exact (mem_addAppender.mp hk).elim (fun hk => absurd hk (hfree k)) And.left
  · intro hkeeps b
    by_cases hb : b = a
    · subst hb
      rw [hself]
      by_cases hfree : ∀ k, b ∉ s.appenders k
      · obtain ⟨hne, heq⟩ := hkeeps hfree
        refine ⟨fun _ _ => hne, fun k hk => ?_⟩
        obtain rfl : k = l :=
          (mem_addAppender.mp hk.1).elim (fun hk => absurd hk (hfree k)) And.left
        exact heq
      · -- it was attached, and so it has a formatter
        push Not at hfree
        obtain ⟨k₀, hk₀⟩ := hfree
        have hne := (h b).1 k₀ hk₀
        obtain ⟨g, hg⟩ := Option.ne_none_iff_exists'.mp hne
        rw [hg, Option.some_or]
        refine ⟨fun _ _ => Option.some_ne_none g, fun k hk => ?_⟩
        have hk₀k : k₀ = k := hk.2 k₀ (mem_addAppender.mpr (Or.inl hk₀))
        subst hk₀k
        have heq := (h b).2 k₀ ⟨hk₀, fun j hj => hk.2 j (mem_addAppender.mpr (Or.inl hj))⟩
        rw [hg] at heq
        exact heq
    · have hsame : (s.addAppender l a).appender b = s.appender b := by
        simp only [addAppender, hb, false_and, if_false]
      have hmem : ∀ k, b ∈ (s.addAppender l a).appenders k ↔ b ∈ s.appenders k := fun k =>
        mem_addAppender.trans (or_iff_left fun hk => hb hk.2)
      rw [hsame]
      refine ⟨fun k hk => (h b).1 k ((hmem k).mp hk), fun k hk => ?_⟩
      exact (h b).2 k ⟨(hmem k).mp hk.1, fun j hj => hk.2 j ((hmem j).mpr hj)⟩

theorem inherited_delAppender {s : Formatters L A F} (h : s.Inherited) (l : L) (a : A) :
    (s.delAppender l a).Inherited ↔ s.Keeps (.delAppender l a) := by
  -- one entry of a is taken from l's list
  have hmem : ∀ b k, b ∈ (s.delAppender l a).appenders k ↔
      if k = l then b ∈ (s.appenders l).erase a else b ∈ s.appenders k := by
    intro b k
    simp only [delAppender]
    split <;> rfl
  have hsub : ∀ b k, b ∈ (s.delAppender l a).appenders k → b ∈ s.appenders k := by
    intro b k hb
    rw [hmem] at hb
    split at hb
    · rename_i hk
      rw [hk]
      exact List.mem_of_mem_erase hb
    · exact hb
  have hleft : a ∈ (s.delAppender l a).appenders l ↔ 1 < (s.appenders l).count a := by
    rw [hmem, if_pos rfl, ← List.count_pos_iff, List.count_erase_self]
    omega
  constructor
  · intro ht k hk hcount hak hothers
    refine (ht a).2 k ⟨by rw [hmem, if_neg hk]; exact hak, fun j hj => ?_⟩
    rcases hothers j (hsub a j hj) with rfl | rfl
    · exact absurd (hleft.mp hj) (by omega)
    · rfl
  · intro hkeeps b
    refine ⟨fun k hk => (h b).1 k (hsub b k hk), fun k hk => ?_⟩
    by_cases hbefore : s.Only b k
    · exact (h b).2 k hbefore
    · -- the appender was attached to `l` as well
      have hkl : k ≠ l := by
        rintro rfl
        refine hbefore ⟨hsub b k hk.1, fun j hj => ?_⟩
        by_contra hjk
        exact hjk (hk.2 j (by rw [hmem, if_neg hjk]; exact hj))
      have hothers : ∀ j, b ∈ s.appenders j → j = l ∨ j = k := by
        intro j hj
        by_cases hjl : j = l
        · exact Or.inl hjl
        · exact Or.inr (hk.2 j (by rw [hmem, if_neg hjl]; exact hj))
      have hbl : b ∈ s.appenders l := by
        by_contra hbl
        refine hbefore ⟨hsub b k hk.1, fun j hj => (hothers j hj).resolve_left ?_⟩
        rintro rfl
        exact hbl hj
      have hgone : b ∉ (s.appenders l).erase a := fun hin =>
        hkl (hk.2 l (by rw [hmem, if_pos rfl]; exact hin)).symm
      have hba : b = a := by
        by_contra hba
        exact hgone ((List.mem_erase_of_ne hba).mpr hbl)
      subst hba
      have hcount : (s.appenders l).count b ≤ 1 := by
        by_contra hcount
        rw [hmem, if_pos rfl] at hleft
        exact hgone (hleft.mpr (by omega))
      exact hkeeps k hkl hcount (hsub b k hk.1) hothers

theorem inherited_next {s t : Formatters L A F} {l : FormatLabel L A F} (hflag : s.Flagged)
    (h : s.Inherited) (hnext : s.next l = some t) : t.Inherited ↔ s.Keeps l := by
  cases l with
  | setFormatter l formatter =>
    obtain rfl := Option.some.inj hnext
    exact inherited_setFormatter hflag h l formatter
  | addAppender l a =>
    obtain rfl := Option.some.inj hnext
    exact inherited_addAppender h l a
  | delAppender l a =>
    obtain rfl := Option.some.inj hnext
    exact inherited_delAppender h l a
  | setOwn a val =>
    obtain rfl := Option.some.inj hnext
    exact inherited_setOwn h a val

instance [Fintype L] [DecidableEq F] (s : Formatters L A F) (a : A) (l : L) :
    Decidable (s.Only a l) :=
  inferInstanceAs (Decidable (_ ∧ ∀ _, _ → _))

instance [Fintype L] [DecidableEq F] (s : Formatters L A F) (l : FormatLabel L A F) :
    Decidable (s.Keeps l) :=
  match l with
  | .setFormatter l formatter => inferInstanceAs (Decidable (∀ a ∈ s.appenders l,
      ((s.given a).isSome = true → formatter ≠ none) ∧ (s.Only a l → formatter = s.effective a l)))
  | .addAppender _ _ => inferInstanceAs (Decidable ((∀ _, _) → _ ∧ _))
  | .delAppender _ _ => inferInstanceAs (Decidable (∀ _, _ → _ → _ → (∀ _, _ → _ ∨ _) → _))
  | .setOwn _ _ => inferInstanceAs (Decidable ((∃ _, _) → _))

end Formatters

/-! ## Section 4: Runs -/

/-- The calls, each under the lock of its logger or appender. -/
def formatterCalls {L A F : Type} [DecidableEq L] [DecidableEq A] (new : L → F) :
    System (Formatters L A F) (FormatLabel L A F) where
  init s := s = .start new
  next   := Formatters.next

open Formatters

/-- Appenders format as they are to in all states of a run exactly if every call
    meets its condition. -/
theorem formatter_inherited_iff {L A F : Type} [DecidableEq L] [DecidableEq A] {new : L → F}
    {s₀ s : Formatters L A F} {tr : List (Formatters L A F × FormatLabel L A F)}
    (hinit : (formatterCalls new).init s₀) (hrun : Run (formatterCalls new) s₀ tr s) :
    (∀ u ∈ states tr s, u.Inherited) ↔ ∀ p ∈ tr, p.1.Keeps p.2 := by
  obtain rfl : s₀ = .start new := hinit
  refine hrun.states_iff (I := Flagged) (P := Inherited) (G := Keeps)
    (fun _ _ _ h _ hnext => flagged_next h hnext)
    (fun _ _ _ hflag h hnext => inherited_next hflag h hnext) (fun _ => rfl) ?_
  exact fun a => ⟨fun l hl => absurd hl List.not_mem_nil, fun l hl => absurd hl.1 List.not_mem_nil⟩

/-- An appender with a formatter of its own, one that inherits, and one that moves
    to another logger after its own formatter was taken away. -/
theorem formatter_inherited_iff_moved :
    ∃ tr s, Run (formatterCalls (L := Bool) (A := Fin 3) (F := Nat) fun l => if l then 1 else 2)
        (.start fun l => if l then 1 else 2) tr s ∧
      (∀ u ∈ states tr s, u.Inherited) ∧ (s.appender 0).formatter = some 7 ∧
      (s.appender 1).formatter = some 1 ∧ (s.appender 2).formatter = some 2 := by
  let labels : List (FormatLabel Bool (Fin 3) Nat) :=
    [.setOwn 0 (some 7), .addAppender true 0, .addAppender true 1, .setOwn 2 (some 8),
     .addAppender true 2, .delAppender true 2, .setOwn 2 none, .addAppender false 2]
  have hrun := (formatterCalls (L := Bool) (A := Fin 3) (F := Nat) fun l => if l then 1 else 2).run_of_exec
    (s := .start fun l => if l then 1 else 2) labels (by decide)
  exact ⟨_, _, hrun, (formatter_inherited_iff rfl hrun).mpr (by decide), by decide, by decide,
    by decide⟩

/-- The logger's new formatter replaces the appender's own, and an appender that
    inherits keeps the old one. -/
theorem formatter_overwritten :
    ∃ tr s, Run (formatterCalls (L := Unit) (A := Bool) (F := Nat) fun _ => 1) (.start fun _ => 1) tr s ∧
      ¬ s.Inherited ∧ s.formatter () = some 2 ∧ s.given true = some 7 ∧
      (s.appender true).formatter = some 2 ∧ s.given false = none ∧
      (s.appender false).formatter = some 1 := by
  let labels : List (FormatLabel Unit Bool Nat) :=
    [.setOwn true (some 7), .addAppender () true, .addAppender () false, .setFormatter () (some 2)]
  have hrun := (formatterCalls (L := Unit) (A := Bool) (F := Nat) fun _ => 1).run_of_exec
    (s := .start fun _ => 1) labels (by decide)
  refine ⟨_, _, hrun, fun h => ?_, by decide, by decide, by decide, by decide, by decide⟩
  have hown := (h true).2 () (by decide)
  revert hown
  decide

end Log

end MNSER
