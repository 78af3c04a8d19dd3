import Mnser.Uri.Parse

/-! # What a URI object holds

    The object has a member for each component, but only the path behind the
    authority of a URI is saved, and user information loses what is in front
    of a digit behind its first colon. -/

namespace MNSER

namespace UriParser

open Http (Bytes ascii)

variable {s : Bytes} {u : Uri}

/-! ## Section 1: The stored object -/

/-- What `Create` makes of the components. -/
def objectOf (c : Components) : Uri where
  scheme := c.scheme.getD []
  userinfo := storedUserinfo ((c.authority.bind Authority.userinfo).getD [])
  host := (c.authority.map Authority.host).getD []
  path := if c.scheme.isSome && c.authority.isSome then c.path else []
  query := c.query.getD []
  fragment := c.fragment.getD []
  port := strtoi 10 ((c.authority.bind Authority.port).getD [])

theorem stored_eq (s : Bytes) :
    stored s =
      if PortOk (components s).scheme.isSome ((components s).authority.bind Authority.port) then
        some (objectOf (components s))
      else none := by
  unfold stored hierarchy components
  cases hscheme : splitScheme s with
  | mk scheme rest =>
    cases hauthority : splitAuthority rest with
    | mk authority rest' =>
      cases authority with
      | none =>
        simp only [hauthority, Option.map_none, Option.bind_none]
        rw [if_pos ⟨by simp, by simp⟩]
        simp [behind, objectOf, Uri.new, storedUserinfo, show strtoi 10 [] = 0 from rfl]
      | some a =>
        simp only [hauthority, authored, hosted, Option.map_some, Option.bind_some]
        split
        · simp [afterAuthority, behind, objectOf, Uri.new]
        · rfl

theorem stored_of_created (h : Uri.Create s = .uri u) : stored s = some u := by
  rw [Create_stored (accepts_of_created h)] at h
  cases hstored : stored s with
  | none =>
    rw [hstored] at h
    cases h
  | some u' =>
    rw [hstored] at h
    obtain rfl := Created.uri.inj h
    rfl

theorem objectOf_of_created (h : Uri.Create s = .uri u) :
    u = objectOf (components s) ∧
      PortOk (components s).scheme.isSome ((components s).authority.bind Authority.port) := by
  have hstored := stored_of_created h
  rw [stored_eq] at hstored
  split at hstored
  · rename_i hport
    exact ⟨(Option.some.inj hstored).symm, hport⟩
  · cases hstored

/-! ## Section 2: What is lost -/

/-- The first colon is in front of a digit. -/
def digitBehindColon (userinfo : Bytes) : Bool :=
  match userinfo.dropWhile (notIn [58]) with
  | 58 :: c :: _ => Strtol.isdigit 10 c
  | _ => false

theorem storedUserinfo_iff (w : Bytes) : storedUserinfo w = w ↔ digitBehindColon w = false := by
  have hlen := congrArg List.length (List.takeWhile_append_dropWhile (p := notIn [58]) (l := w))
  unfold storedUserinfo digitBehindColon
  generalize w.dropWhile (notIn [58]) = l at hlen ⊢
  split
  · rename_i c rest
    by_cases hdigit : Strtol.isdigit 10 c = true
    · -- the stored text is the shorter one
      rw [List.length_append, List.length_cons] at hlen
      have hne : c :: rest ≠ w := by
        intro heq
        rw [← heq] at hlen
        omega
      rw [if_pos hdigit]
      exact iff_of_false hne (by simp [hdigit])
    · rw [if_neg hdigit]
      exact iff_of_true rfl (Bool.eq_false_iff.mpr hdigit)
  · simp

theorem wrap32_lt (x : Int) : wrap32 x < 2 ^ 31 := by
  have := Int.bmod_lt (x := x) (m := 2 ^ 32) (by decide)
  unfold wrap32
  omega

/-- `atoi` gives the number of a port when an `int` holds it. -/
theorem strtoi_iff {ds : Bytes} (hds : ∀ c ∈ ds, Strtol.isdigit 10 c = true) :
    strtoi 10 ds = Strtol.magnitude 10 0 ds ↔ Strtol.magnitude 10 0 ds < 2 ^ 31 := by
  by_cases hne : ds = []
  · subst hne
    exact ⟨fun _ => by decide, fun _ => rfl⟩
  have hnil : Strtol.Stops 10 [] := fun c hc => by cases hc
  have hvalue := Strtol.strtol_digits (by decide) hds hne hnil
  rw [List.append_nil] at hvalue
  have hlt := wrap32_lt (strtol 10 ds)
  constructor
  · intro h
    unfold strtoi at h
    omega
  · intro h
    unfold strtoi
    rw [hvalue, Nat.min_eq_left (by omega)]
    exact wrap32_of_lt (by omega) (by omega)

/-! ## Section 3: Components and members -/

/-- The components that an object can hold. -/
structure Kept (c : Components) : Prop where
  userinfo : digitBehindColon ((c.authority.bind Authority.userinfo).getD []) = false
  port     : portNumber (c.authority.bind Authority.port) < 2 ^ 31
  path     : c.path = [] ∨ (c.scheme.isSome = true ∧ c.authority.isSome = true)

end UriParser

open Http (ascii)
open UriParser

/-- The object holds the components exactly when nothing of them is lost. -/
theorem Create_holds_iff {s : Http.Bytes} {u : Uri} (h : Uri.Create s = .uri u) :
    u.Holds (components s) ↔ Kept (components s) := by
  obtain ⟨rfl, hport⟩ := objectOf_of_created h
  constructor
  · intro hholds
    refine ⟨(storedUserinfo_iff _).mp hholds.userinfo, (strtoi_iff hport.digits).mp hholds.port, ?_⟩
    have hpath := hholds.path
    simp only [objectOf] at hpath
    split at hpath
    · rename_i hboth
      exact .inr (by simpa using hboth)
    · exact .inl hpath.symm
  · intro hkept
    refine ⟨rfl, (storedUserinfo_iff _).mpr hkept.userinfo, rfl, (strtoi_iff hport.digits).mpr hkept.port,
      ?_, rfl, rfl⟩
    simp only [objectOf]
    split
    · rfl
    · rename_i hboth
      rcases hkept.path with hpath | hpath
      · exact hpath.symm
      · exact absurd (by simpa using hpath) hboth

/-- A text with all components. -/
theorem Create_holds_all :
    let s := ascii "ws://u:p@h:81/a?b#c"
    let u : Uri := ⟨ascii "ws", ascii "u:p", ascii "h", ascii "/a", ascii "b", ascii "c", 81⟩
    Uri.Create s = .uri u ∧ (u.Holds (components s) ↔ Kept (components s)) := by
  intro s u
  have h : Uri.Create s = .uri u := by decide +kernel
  exact ⟨h, Create_holds_iff h⟩

/-- The user information is `user:80`, and `80` is stored; of a relative
    reference the path is not stored. -/
theorem Create_holds_not :
    (let s := ascii "http://user:80@h"
     let u : Uri := ⟨ascii "http", ascii "80", ascii "h", [], [], [], 0⟩
     Uri.Create s = .uri u ∧ ¬ u.Holds (components s)) ∧
    (let s := ascii "/p?q"
     let u : Uri := ⟨[], [], [], [], ascii "q", [], 0⟩
     Uri.Create s = .uri u ∧ ¬ u.Holds (components s)) := by
  refine ⟨⟨by decide +kernel, fun h => ?_⟩, ⟨by decide +kernel, fun h => ?_⟩⟩
  · exact absurd h.userinfo (by decide)
  · exact absurd h.path (by decide)

end MNSER
