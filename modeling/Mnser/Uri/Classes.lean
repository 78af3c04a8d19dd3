import Mathlib.Data.List.GetD
import Mnser.Http.Message
import Mnser.Uri.Table

/-! # Classes of states of the URI scanner

    A class is a list of ranges of states.  A check goes through the rows of a
    class, and says what holds of all its transitions. -/

namespace MNSER

namespace UriParser

open Http (Bytes)
open Ranges Scanner

variable {s t : Nat} {c : UInt8} {acts : List Action}

/-! ## Section 1: Classes of states -/

/-- Classes of states are given by their ranges. -/
abbrev StateClass : Type := List (Nat × Nat)

def among (l : StateClass) (s : Nat) : Bool := l.any fun i => Nat.ble i.1 s && Nat.ble s i.2

/-- What holds of the transitions of a class of states. -/
def checkRows (S : StateClass) (P : Nat → Nat → Nat → List Action → Bool) : Bool :=
  S.all fun i => ((rows.drop i.1).take (i.2 + 1 - i.1)).all fun row => row.all fun e =>
    match follow e.2.2 with
    | .next t acts => P e.1 e.2.1 t acts
    | _ => true

/-- The row of a state is one of those of its range. -/
theorem row_among {S : StateClass} (hs : among S s = true) (hlt : s < rows.length) :
    ∃ i ∈ S, rows[s] ∈ (rows.drop i.1).take (i.2 + 1 - i.1) := by
  obtain ⟨i, hi, hrange⟩ := List.any_eq_true.mp hs
  rw [Bool.and_eq_true, Nat.ble_eq, Nat.ble_eq] at hrange
  refine ⟨i, hi, List.mem_iff_getElem?.mpr ⟨s - i.1, ?_⟩⟩
  rw [List.getElem?_take_of_lt (by omega), List.getElem?_drop, show i.1 + (s - i.1) = s by omega,
    List.getElem?_eq_getElem hlt]

theorem checkRows_step {S : StateClass} {P : Nat → Nat → Nat → List Action → Bool}
    (h : checkRows S P = true) (hs : among S s = true) (hstep : step s c = .next t acts) :
    ∃ lo hi, lo ≤ c.toNat ∧ c.toNat ≤ hi ∧ P lo hi t acts = true := by
  unfold step at hstep
  cases hentry : entryAt (rows.getD s []) c.toNat with
  | none =>
    rw [hentry] at hstep
    cases hstep
  | some g =>
    rw [hentry] at hstep
    obtain ⟨lo, hi, hlo, hhi, hmem⟩ := entryAt_mem hentry
    have hlt : s < rows.length := by
      by_contra hlt
      rw [List.getD_eq_default _ _ (Nat.not_lt.mp hlt)] at hmem
      cases hmem
    rw [List.getD_eq_getElem _ _ hlt] at hmem
    obtain ⟨i, hi, hrow⟩ := row_among hs hlt
    have hall := List.all_eq_true.mp (List.all_eq_true.mp (List.all_eq_true.mp h i hi) _ hrow) _ hmem
    dsimp only at hall hstep
    rw [hstep] at hall
    exact ⟨lo, _, hlo, hhi, hall⟩

/-- Bytes other than some lead to a class of states. -/
def leadsBut (S : StateClass) (stops : Bytes) (T : Nat → Bool) : Bool :=
  checkRows S fun lo hi t _ =>
    T t || (List.range' lo (hi + 1 - lo)).all fun n => stops.any fun x => x.toNat == n

/-- Some bytes lead to a class of states. -/
def leadsOn (S : StateClass) (bytes : Bytes) (T : Nat → Bool) : Bool :=
  checkRows S fun lo hi t _ => (bytes.all fun x => Nat.blt x.toNat lo || Nat.blt hi x.toNat) || T t

theorem leadsBut_step {S : StateClass} {T : Nat → Bool} {stops : Bytes} (h : leadsBut S stops T = true)
    (hs : among S s = true) (hc : c ∉ stops) (hstep : step s c = .next t acts) : T t = true := by
  obtain ⟨lo, hi, hlo, hhi, hP⟩ := checkRows_step h hs hstep
  rw [Bool.or_eq_true] at hP
  refine hP.resolve_right fun hrange => hc ?_
  obtain ⟨x, hx, heq⟩ := List.any_eq_true.mp
    (List.all_eq_true.mp hrange c.toNat (List.mem_range'_1.mpr (by omega)))
  rwa [UInt8.toNat_inj.mp (beq_iff_eq.mp heq)] at hx

theorem leadsOn_step {S : StateClass} {T : Nat → Bool} {bytes : Bytes} (h : leadsOn S bytes T = true)
    (hs : among S s = true) (hc : c ∈ bytes) (hstep : step s c = .next t acts) : T t = true := by
  obtain ⟨lo, hi, hlo, hhi, hP⟩ := checkRows_step h hs hstep
  rw [Bool.or_eq_true] at hP
  refine hP.resolve_left fun hout => ?_
  have hout' := List.all_eq_true.mp hout c hc
  rw [Bool.or_eq_true, Nat.blt_eq, Nat.blt_eq] at hout'
  omega

/-- Some bytes lead from all states of a class to one state. -/
def goesAll (S : StateClass) (bytes : Bytes) (t : Nat) : Bool :=
  S.all fun i => ((rows.drop i.1).take (i.2 + 1 - i.1)).all fun row => bytes.all fun x =>
    match entryAt row x.toNat with
    | some g =>
      match follow g with
      | .next t' _ => t' == t
      | _ => false
    | none => false

theorem goesAll_step {S : StateClass} {bytes : Bytes} (h : goesAll S bytes t = true)
    (hs : among S s = true) (hlt : s < rows.length) (hc : c ∈ bytes) :
    ∃ acts, step s c = .next t acts := by
  obtain ⟨i, hi, hrow⟩ := row_among hs hlt
  have hbyte := List.all_eq_true.mp (List.all_eq_true.mp (List.all_eq_true.mp h i hi) _ hrow) c hc
  unfold step
  rw [List.getD_eq_getElem _ _ hlt]
  split at hbyte
  · rename_i g hentry
    split at hbyte
    · rename_i t' acts hfollow
      obtain rfl := beq_iff_eq.mp hbyte
      exact ⟨acts, by rw [hentry]; exact hfollow⟩
    · cases hbyte
  · cases hbyte

end UriParser

end MNSER
