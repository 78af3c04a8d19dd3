import Mathlib.Data.List.Induction
import Mathlib.Data.List.Pairwise
import Mnser.Log.Model

/-! # What the `logs` listener does

    The loop over the new items rebuilds the logger of every item that is new
    or has changed, with appenders of its own.  The loop over the old items
    is meant for the items that are gone, but it takes those that are still
    there: it silences every logger named in both sets and leaves the loggers
    of the removed items alone. -/

namespace MNSER

namespace Log

/-! ## Section 1: Sets of items -/

/-- Two items of one name are the same for the set. -/
theorem equiv_lt_iff {a b : LogItem} : OrderedSet.equiv LogItem.lt a b = true ↔ a.name = b.name := by
  simp only [OrderedSet.equiv, LogItem.lt, Bool.and_eq_true, Bool.not_eq_true', decide_eq_false_iff_not]
  constructor
  · rintro ⟨hab, hba⟩
    exact List.le_antisymm hba hab
  · intro h
    rw [h]
    exact ⟨List.lt_irrefl _, List.lt_irrefl _⟩

namespace LogItems

/-- A name is in a set of items once. -/
theorem name_inj {s : LogItems} {a b : LogItem} (ha : a ∈ s.items) (hb : b ∈ s.items)
    (h : a.name = b.name) : a = b := by
  have hsep : s.items.Pairwise fun a b => a.name ≠ b.name :=
    s.sorted.imp fun hlt h => by simp [LogItem.lt, h, List.lt_irrefl] at hlt
  have : Std.Symm fun a b : LogItem => a.name ≠ b.name := ⟨fun _ _ h h' => h h'.symm⟩
  by_contra hne
  exact hsep.forall ha hb hne h

theorem find_some {s : LogItems} {it f : LogItem} (h : s.find it = some f) :
    f ∈ s.items ∧ f.name = it.name :=
  ⟨List.mem_of_find?_eq_some h, (equiv_lt_iff.mp (List.find?_some h)).symm⟩

theorem find_none {s : LogItems} {it : LogItem} :
    s.find it = none ↔ ∀ x ∈ s.items, x.name ≠ it.name := by
  unfold find OrderedSet.find
  rw [List.find?_eq_none]
  refine forall₂_congr fun x _ => ?_
  rw [equiv_lt_iff, eq_comm]

theorem find_of_mem {s : LogItems} {it x : LogItem} (hx : x ∈ s.items) (h : x.name = it.name) :
    s.find it = some x := by
  cases hf : s.find it with
  | none => exact absurd h (find_none.mp hf x hx)
  | some f =>
    obtain ⟨hmem, hname⟩ := find_some hf
    rw [name_inj hmem hx (hname.trans h.symm)]

end LogItems

/-! ## Section 2: The operations on a logger -/

namespace LoggerManager

section operations

variable {m : LoggerManager} {name : Str} {f : Logger → Logger}
  {hf : ∀ l, ∀ p ∈ (f l).appenders, p ∈ l.appenders ∨ p < m.appenders.length}

/-- Only the logger of the name is updated. -/
@[simp] theorem update_self : (m.update name f hf).loggers name = (m.loggers name).map f := if_pos rfl

theorem update_ne {n : Str} (h : n ≠ name) : (m.update name f hf).loggers n = m.loggers n := if_neg h

@[simp] theorem update_appenders : (m.update name f hf).appenders = m.appenders := rfl

@[simp] theorem getLogger_self : (m.getLogger name).loggers name = some ((m.loggers name).getD {}) :=
  if_pos rfl

theorem getLogger_ne {n : Str} (h : n ≠ name) : (m.getLogger name).loggers n = m.loggers n := if_neg h

@[simp] theorem getLogger_appenders : (m.getLogger name).appenders = m.appenders := rfl

/-- The appenders of a logger. -/
theorem mem_pointers {p : Nat} : p ∈ m.pointers name ↔ ∃ l, m.loggers name = some l ∧ p ∈ l.appenders := by
  unfold pointers
  cases m.loggers name <;> simp

/-- A logger only points to appenders that exist. -/
theorem pointers_valid {p : Nat} (h : p ∈ m.pointers name) : p < m.appenders.length := by
  obtain ⟨l, hl, hp⟩ := mem_pointers.mp h
  exact m.valid name l hl p hp

end operations

/-- `setFormatter` as it acts on the appenders of `name`. -/
def retouch (m : LoggerManager) (name val : Str) (p : Nat) (a : LogAppender) : LogAppender :=
  if p ∈ m.pointers name ∧ a.hasFormatter = true then { a with formatter := some ⟨val⟩ } else a

/-- A good pattern becomes the formatter of the logger. -/
theorem setFormatter_self {m : LoggerManager} {name val : Str}
    (hval : LogFormatter.isError ⟨val⟩ = false) :
    (m.setFormatter name val).loggers name =
      (m.loggers name).map fun l => { l with formatter := some ⟨val⟩ } := by
  simp only [setFormatter, hval, Bool.false_eq_true, if_false, rewrite, update_self]

/-- The other loggers keep theirs. -/
theorem setFormatter_ne {m : LoggerManager} {name val n : Str} (h : n ≠ name) :
    (m.setFormatter name val).loggers n = m.loggers n := by
  unfold setFormatter
  dsimp only
  split
  · rfl
  · exact if_neg h

/-- Appenders without a formatter of their own follow. -/
theorem setFormatter_appenders {m : LoggerManager} {name val : Str}
    (hval : LogFormatter.isError ⟨val⟩ = false) :
    (m.setFormatter name val).appenders = m.appenders.mapIdx (m.retouch name val) := by
  simp only [setFormatter, hval, Bool.false_eq_true, if_false, rewrite, update_appenders]
  rfl

/-- A new appender goes to the end of the list. -/
theorem addAppender_self (m : LoggerManager) (name : Str) (a : LogAppender) :
    (m.addAppender name a).loggers name = (m.loggers name).map fun l =>
      { l with appenders := l.appenders ++ [m.appenders.length] } := if_pos rfl

theorem addAppender_ne {n name : Str} (h : n ≠ name) (m : LoggerManager) (a : LogAppender) :
    (m.addAppender name a).loggers n = m.loggers n := if_neg h

end LoggerManager

/-! ## Section 3: The appenders of an item -/

/-- The patterns of the item and of its appenders are valid. -/
def LogItem.PatternsValid (it : LogItem) : Prop :=
  (it.formatter ≠ [] → LogFormatter.isError ⟨it.formatter⟩ = false) ∧
    ∀ a ∈ it.appenders, a.formatter ≠ [] → LogFormatter.isError ⟨a.formatter⟩ = false

/-- The appender is the one that the item describes. -/
def LogAppender.Matches (ap : LogAppender) (a : LogAppenderItem) : Prop :=
  ((a.type = LogAppenderItemType_FILE ∧ ap.kind = .FileLogAppender a.file) ∨
      (a.type = LogAppenderItemType_STDOUT ∧ ap.kind = .StdoutLogAppender)) ∧
    ap.level = a.level ∧ (a.formatter ≠ [] → ap.formatter = some ⟨a.formatter⟩)

def LogAppenderItem.Known (a : LogAppenderItem) : Prop :=
  a.type = LogAppenderItemType_FILE ∨ a.type = LogAppenderItemType_STDOUT

instance (a : LogAppenderItem) : Decidable a.Known := by unfold LogAppenderItem.Known; infer_instance

theorem LogAppenderItem.make_none {a : LogAppenderItem} : a.make = none ↔ ¬ a.Known := by
  unfold make Known
  dsimp only
  rw [Option.map_eq_none_iff]
  split
  · simp_all
  · split <;> simp_all

/-- The pattern that `addAppender` fills in stands for a pattern that was not given. -/
theorem LogAppenderItem.make_matches {a : LogAppenderItem} {ap : LogAppender}
    (hvalid : a.formatter ≠ [] → LogFormatter.isError ⟨a.formatter⟩ = false)
    (h : a.make = some ap) (d : Option LogFormatter) :
    LogAppender.Matches
      { ap with formatter := if ap.formatter = none then d else ap.formatter } a := by
  unfold make at h
  dsimp only at h
  obtain ⟨base, hbase, rfl⟩ := Option.map_eq_some_iff.mp h
  by_cases hf : a.formatter = []
  · simp only [hf, ne_eq, not_true_eq_false, if_false]
    refine ⟨?_, rfl, fun h => absurd hf h⟩
    split at hbase
    · obtain rfl := Option.some.inj hbase
      exact .inl ⟨‹_›, rfl⟩
    · split at hbase
      · obtain rfl := Option.some.inj hbase
        exact .inr ⟨‹_›, rfl⟩
      · cases hbase
  · simp only [ne_eq, hf, not_false_eq_true, if_true, hvalid hf, Bool.false_eq_true, if_false,
      LogAppender.setFormatter]
    refine ⟨?_, rfl, fun _ => rfl⟩
    split at hbase
    · obtain rfl := Option.some.inj hbase
      exact .inl ⟨‹_›, rfl⟩
    · split at hbase
      · obtain rfl := Option.some.inj hbase
        exact .inr ⟨‹_›, rfl⟩
      · cases hbase

namespace LoggerManager

/-- From the position `base` on, the pointers lead to appenders as the items say. -/
def Fits (m : LoggerManager) (base : Nat) (ps : List Nat) (as : List LogAppenderItem) : Prop :=
  List.Forall₂ (fun p a => base ≤ p ∧ ∃ ap, m.appenders[p]? = some ap ∧ ap.Matches a) ps as

/-- More appenders do no harm. -/
theorem Fits.mono {m m' : LoggerManager} {base : Nat} {ps : List Nat} {as : List LogAppenderItem}
    (h : m.Fits base ps as)
    (hkeep : ∀ p ∈ ps, ∀ ap, base ≤ p → m.appenders[p]? = some ap → m'.appenders[p]? = some ap) :
    m'.Fits base ps as := by
  unfold Fits at h ⊢
  induction h with
  | nil => exact .nil
  | @cons p a ps as hpa _ ih =>
    obtain ⟨hp, ap, hap, hmatch⟩ := hpa
    refine .cons ⟨hp, ap, hkeep p List.mem_cons_self ap hp hap, hmatch⟩ (ih fun q hq => ?_)
    exact hkeep q (List.mem_cons_of_mem _ hq)

/-- The appenders may have been made later. -/
theorem Fits.weaken {m : LoggerManager} {b c : Nat} {ps : List Nat} {as : List LogAppenderItem}
    (h : m.Fits c ps as) (hbc : b ≤ c) : m.Fits b ps as :=
  List.Forall₂.imp (fun _ _ h => ⟨hbc.trans h.1, h.2⟩) h

/-- The loop over `it.appenders` adds one new appender for each item of a known
    type, in order, and touches nothing else. -/
theorem addItems_spec (name : Str) (as : List LogAppenderItem)
    (hvalid : ∀ a ∈ as, a.formatter ≠ [] → LogFormatter.isError ⟨a.formatter⟩ = false) :
    ∀ {m : LoggerManager} {l : Logger}, m.loggers name = some l →
      ∃ ps, (as.foldl (addItem name) m).loggers name =
          some { l with appenders := l.appenders ++ ps } ∧
        (∀ n, n ≠ name → (as.foldl (addItem name) m).loggers n = m.loggers n) ∧
        m.appenders <+: (as.foldl (addItem name) m).appenders ∧
        (as.foldl (addItem name) m).Fits m.appenders.length ps (as.filter (·.Known)) := by
  induction as with
  | nil =>
    intro m l hl
    exact ⟨[], by simpa using hl, fun _ _ => rfl, List.prefix_refl _, .nil⟩
  | cons a as ih =>
    intro m l hl
    rw [List.foldl_cons]
    have ih' := @ih fun b hb => hvalid b (List.mem_cons_of_mem _ hb)
    -- an appender of an unknown type is skipped, any other is appended
    cases hmake : a.make with
    | none =>
      have hstep : addItem name m a = m := by simp only [addItem, hmake]
      rw [hstep, List.filter_cons_of_neg (by simpa using LogAppenderItem.make_none.mp hmake)]
      exact ih' hl
    | some ap =>
      have hknown : a.Known := by
        by_contra h
        rw [LogAppenderItem.make_none.mpr h] at hmake
        cases hmake
      have hstep : addItem name m a = m.addAppender name ap := by simp only [addItem, hmake]
      rw [hstep, List.filter_cons_of_pos (by simpa using hknown)]
      obtain ⟨ps, hself, hother, hprefix, hfits⟩ := @ih' (m.addAppender name ap)
        { l with appenders := l.appenders ++ [m.appenders.length] } (by
          rw [addAppender_self, hl, Option.map_some])
      have hnew : (m.addAppender name ap).appenders = m.appenders ++ [{ ap with
          formatter := if ap.formatter = none then (m.loggers name).bind Logger.formatter
            else ap.formatter }] := rfl
      refine ⟨m.appenders.length :: ps, ?_, fun n hn => ?_, ?_, ?_⟩
      · rw [hself, List.append_assoc, List.singleton_append]
      · rw [hother n hn, addAppender_ne hn]
      · exact (hnew ▸ List.prefix_append _ _).trans hprefix
      · refine .cons ⟨le_refl _, _, ?_, LogAppenderItem.make_matches
          (hvalid a List.mem_cons_self) hmake ((m.loggers name).bind Logger.formatter)⟩
          (hfits.weaken (by rw [hnew, List.length_append]; exact Nat.le_add_right _ _))
        obtain ⟨rest, hrest⟩ := hprefix
        rw [← hrest, hnew, List.append_assoc, List.getElem?_append_right (le_refl _), Nat.sub_self]
        rfl

/-! ## Section 4: One item -/

/-- What the item does to an appender that is there already. -/
def touch (m : LoggerManager) (it : LogItem) (p : Nat) (a : LogAppender) : LogAppender :=
  if it.formatter ≠ [] then m.retouch it.name it.formatter p a else a

/-- An item only touches the appenders of its logger. -/
theorem touch_of_not_mem {m : LoggerManager} {it : LogItem} {p : Nat}
    (h : p ∉ m.pointers it.name) (a : LogAppender) : m.touch it p a = a := by
  unfold touch retouch
  split
  · exact if_neg fun h' => h h'.1
  · rfl

/-- The logger is as the item says, but for appenders of an unknown type; its
    appenders were made after the first `base` ones. -/
structure Built (m : LoggerManager) (base : Nat) (it : LogItem) (l : Logger) : Prop where
  here      : m.loggers it.name = some l
  level     : l.level = it.level
  formatter : it.formatter ≠ [] → l.formatter = some ⟨it.formatter⟩
  appenders : m.Fits base l.appenders (it.appenders.filter (·.Known))

/-- `t` is `m` after the changes for `it`. -/
structure Applied (m : LoggerManager) (it : LogItem) (t : LoggerManager) : Prop where
  built : ∃ l, t.Built m.appenders.length it l
  other : ∀ n, n ≠ it.name → t.loggers n = m.loggers n
  grows : m.appenders.length ≤ t.appenders.length
  old   : ∀ p, p < m.appenders.length → t.appenders[p]? = m.appenders[p]?.map (m.touch it p)

theorem getElem?_extend {α : Type} {xs ys : List α} (h : xs <+: ys) {p : Nat}
    (hp : p < xs.length) : ys[p]? = xs[p]? := by
  obtain ⟨rest, rfl⟩ := h
  exact List.getElem?_append_left hp

/-- What is done for one item that is new or changed. -/
theorem apply_applied {m : LoggerManager} {it : LogItem} (hvalid : it.PatternsValid) :
    Applied m it (m.apply it) := by
  -- the logger with its level and formatter set, before its appenders are cleared
  obtain ⟨m₂, hm₂⟩ : ∃ m₂, m₂ = (if it.formatter ≠ [] then
      ((m.getLogger it.name).setLevel it.name it.level).setFormatter it.name it.formatter
    else (m.getLogger it.name).setLevel it.name it.level) := ⟨_, rfl⟩
  have hpointers : ((m.getLogger it.name).setLevel it.name it.level).pointers it.name =
      m.pointers it.name := by
    simp only [pointers, setLevel, update_self, getLogger_self, Option.map_some, Option.elim_some]
    cases m.loggers it.name <;> rfl
  have hset : ∃ l, m₂.loggers it.name = some l ∧ l.level = it.level ∧
      (it.formatter ≠ [] → l.formatter = some ⟨it.formatter⟩) := by
    rw [hm₂]
    split
    · rename_i hf
      rw [setFormatter_self (hvalid.1 hf)]
      simp only [setLevel, update_self, getLogger_self, Option.map_some]
      exact ⟨_, rfl, rfl, fun _ => rfl⟩
    · rename_i hf
      simp only [setLevel, update_self, getLogger_self, Option.map_some]
      exact ⟨_, rfl, rfl, fun h => absurd h hf⟩
  have hother : ∀ n, n ≠ it.name → m₂.loggers n = m.loggers n := by
    intro n hn
    have hlevel : ((m.getLogger it.name).setLevel it.name it.level).loggers n = m.loggers n :=
      (update_ne hn).trans (getLogger_ne hn)
    rw [hm₂]
    split
    · rw [setFormatter_ne hn, hlevel]
    · exact hlevel
  have happs : m₂.appenders = m.appenders.mapIdx (m.touch it) := by
    rw [hm₂]
    split
    · rename_i hf
      rw [setFormatter_appenders (hvalid.1 hf)]
      refine congrArg₂ List.mapIdx (funext fun p => funext fun a => ?_) rfl
      rw [touch, if_pos hf, retouch, retouch, hpointers]
    · rename_i hf
      rw [show m.touch it = fun _ a => a from funext fun p => funext fun a => if_neg hf]
      exact (List.mapIdx_eq_iff.mpr (by simp [setLevel])).symm
  have hlength : m₂.appenders.length = m.appenders.length := by rw [happs, List.length_mapIdx]
  obtain ⟨l, hl, hlevel, hformatter⟩ := hset
  obtain ⟨ps, hself, hrest, hprefix, hfits⟩ := addItems_spec it.name it.appenders hvalid.2
    (m := m₂.clearAppender it.name) (l := { l with appenders := [] }) (by
      rw [clearAppender, update_self, hl, Option.map_some])
  have happly : m.apply it = it.appenders.foldl (addItem it.name) (m₂.clearAppender it.name) := by
    rw [hm₂]
    rfl
  rw [← happly] at hself hrest hprefix hfits
  have hcleared : (m₂.clearAppender it.name).appenders = m₂.appenders := rfl
  rw [hcleared] at hprefix hfits
  refine ⟨⟨_, hself, hlevel, hformatter, ?_⟩, fun n hn => ?_, ?_, fun p hp => ?_⟩
  · rw [← hlength]
    exact hfits
  · rw [hrest n hn]
    exact (update_ne hn).trans (hother n hn)
  · rw [← hlength]
    exact hprefix.length_le
  · rw [getElem?_extend hprefix (hlength ▸ hp), happs, List.getElem?_mapIdx]

/-! ## Section 5: The loop over the new items -/

/-- The listener does not pass over the item. -/
def Changed (old_logs : LogItems) (it : LogItem) : Prop := old_logs.find it ≠ some it

instance (old_logs : LogItems) (it : LogItem) : Decidable (Changed old_logs it) := by
  unfold Changed
  infer_instance

/-- Nothing is done for an item that is as it was. -/
theorem refresh_eq (old_logs : LogItems) (m : LoggerManager) (it : LogItem) :
    refresh old_logs m it = if Changed old_logs it then m.apply it else m := by
  by_cases hc : Changed old_logs it
  · rw [if_pos hc]
    unfold refresh
    split
    · rfl
    · rename_i f hfind
      exact if_neg fun h => hc (by rw [hfind, h])
  · rw [if_neg hc]
    have hfind : old_logs.find it = some it := not_not.mp hc
    simp [refresh, hfind]

/-- What the items do to an appender that was there before all of them. -/
def touched (m : LoggerManager) (old_logs : LogItems) (items : List LogItem) (p : Nat)
    (a : LogAppender) : LogAppender :=
  items.foldl (fun a it => if Changed old_logs it then m.touch it p a else a) a

/-- How far `m` has come from `m₀` when the items `done` are behind it. -/
structure Refreshed (m₀ : LoggerManager) (old_logs : LogItems) (done : List LogItem)
    (m : LoggerManager) : Prop where
  built : ∀ it ∈ done, Changed old_logs it → ∃ l, m.Built m₀.appenders.length it l
  same  : ∀ n, (∀ it ∈ done, Changed old_logs it → it.name ≠ n) → m.loggers n = m₀.loggers n
  grows : m₀.appenders.length ≤ m.appenders.length
  old   : ∀ p, p < m₀.appenders.length →
            m.appenders[p]? = m₀.appenders[p]?.map (m₀.touched old_logs done p)

/-- One turn of the loop over the new items. -/
theorem Refreshed.step {m₀ m : LoggerManager} {old_logs : LogItems} {done : List LogItem}
    {it : LogItem} (h : Refreshed m₀ old_logs done m) (hvalid : it.PatternsValid)
    (hnew : ∀ x ∈ done, x.name ≠ it.name) :
    Refreshed m₀ old_logs (done ++ [it]) (refresh old_logs m it) := by
  rw [refresh_eq]
  by_cases hchanged : Changed old_logs it
  · rw [if_pos hchanged]
    have happlied := apply_applied (m := m) hvalid
    have hself : m.loggers it.name = m₀.loggers it.name := h.same _ fun x hx _ => hnew x hx
    have hpointers : m.pointers it.name = m₀.pointers it.name := by
      rw [pointers, pointers, hself]
    refine ⟨fun x hx hc => ?_, fun n hn => ?_, h.grows.trans happlied.grows, fun p hp => ?_⟩
    · rcases List.mem_append.mp hx with hx | hx
      · obtain ⟨l, hl⟩ := h.built x hx hc
        refine ⟨l, (happlied.other _ (hnew x hx)).trans hl.here, hl.level, hl.formatter, ?_⟩
        -- the appenders of `x` are new, and those of the logger at hand are not
        refine hl.appenders.mono fun p _ ap hbase hap => ?_
        have hp : p < m.appenders.length := (List.getElem?_eq_some_iff.mp hap).1
        rw [happlied.old p hp, hap, Option.map_some, touch_of_not_mem]
        rw [hpointers]
        exact fun hmem => Nat.not_lt.mpr hbase (pointers_valid hmem)
      · obtain rfl := List.mem_singleton.mp hx
        obtain ⟨l, hl⟩ := happlied.built
        exact ⟨l, hl.here, hl.level, hl.formatter, hl.appenders.weaken h.grows⟩
    · have hn' : it.name ≠ n := hn it (by simp) hchanged
      rw [happlied.other n hn'.symm]
      exact h.same n fun x hx => hn x (List.mem_append_left _ hx)
    · rw [happlied.old p (Nat.lt_of_lt_of_le hp h.grows), h.old p hp, Option.map_map]
      refine congrArg (fun f => Option.map f m₀.appenders[p]?) (funext fun a => ?_)
      simp only [touched, List.foldl_append, List.foldl_cons, List.foldl_nil, if_pos hchanged,
        Function.comp_apply, touch, retouch, hpointers]
  · rw [if_neg hchanged]
    refine ⟨fun x hx hc => ?_, fun n hn => ?_, h.grows, fun p hp => ?_⟩
    · rcases List.mem_append.mp hx with hx | hx
      · exact h.built x hx hc
      · exact absurd (List.mem_singleton.mp hx ▸ hc) hchanged
    · exact h.same n fun x hx => hn x (List.mem_append_left _ hx)
    · rw [h.old p hp]
      refine congrArg (fun f => Option.map f m₀.appenders[p]?) (funext fun a => ?_)
      simp only [touched, List.foldl_append, List.foldl_cons, List.foldl_nil, if_neg hchanged]

/-- The whole loop, from any point of it on. -/
theorem refreshed_foldl {m₀ : LoggerManager} {old_logs : LogItems} (rest : List LogItem) :
    ∀ {m : LoggerManager} (done : List LogItem), Refreshed m₀ old_logs done m →
      (∀ it ∈ rest, it.PatternsValid) → OrderedSet.Sorted LogItem.lt (done ++ rest) →
      Refreshed m₀ old_logs (done ++ rest) (rest.foldl (refresh old_logs) m) := by
  induction rest with
  | nil =>
    intro m done h _ _
    rwa [List.append_nil]
  | cons it rest ih =>
    intro m done h hvalid hsorted
    have hnew : ∀ x ∈ done, x.name ≠ it.name := by
      intro x hx heq
      have hlt := (List.pairwise_append.mp hsorted).2.2 x hx it List.mem_cons_self
      simp [LogItem.lt, heq, List.lt_irrefl] at hlt
    have hstep := h.step (hvalid it List.mem_cons_self) hnew
    rw [List.append_cons] at hsorted ⊢
    exact ih _ hstep (fun x hx => hvalid x (List.mem_cons_of_mem _ hx)) hsorted

theorem refreshed_all {m : LoggerManager} (old_logs new_logs : LogItems)
    (hvalid : ∀ it ∈ new_logs.items, it.PatternsValid) :
    Refreshed m old_logs new_logs.items (new_logs.items.foldl (refresh old_logs) m) := by
  refine refreshed_foldl new_logs.items [] ?_ hvalid new_logs.sorted
  refine ⟨fun it hit => ?_, fun _ _ => rfl, le_refl _, fun p _ => ?_⟩
  · cases hit
  · exact Option.map_id_apply.symm

/-! ## Section 6: The loop over the old items -/

/-- The listener silences the logger of an item it takes for a removed one. -/
def silenced (l : Logger) : Logger := { l with level := .INVALID, appenders := [] }

theorem cleanup_appenders (new_logs : LogItems) (m : LoggerManager) (it : LogItem) :
    (cleanup new_logs m it).appenders = m.appenders := by
  unfold cleanup
  split <;> rfl

/-- The second loop silences the loggers that are still configured. -/
theorem cleanup_self {new_logs : LogItems} {it : LogItem} (h : new_logs.find it ≠ none)
    (m : LoggerManager) :
    (cleanup new_logs m it).loggers it.name = some (silenced ((m.loggers it.name).getD {})) := by
  rw [cleanup, if_pos h]
  simp [clearAppender, setLevel, silenced]

/-- It leaves the others alone. -/
theorem cleanup_ne {new_logs : LogItems} {it : LogItem} {n : Str}
    (h : new_logs.find it ≠ none → n ≠ it.name) (m : LoggerManager) :
    (cleanup new_logs m it).loggers n = m.loggers n := by
  unfold cleanup
  split
  · rename_i hfind
    exact (update_ne (h hfind)).trans ((update_ne (h hfind)).trans (getLogger_ne (h hfind)))
  · rfl

/-- The loop over the old items. -/
theorem cleanup_foldl (new_logs : LogItems) (items : List LogItem) :
    ∀ (m : LoggerManager),
      (items.foldl (cleanup new_logs) m).appenders = m.appenders ∧
      ∀ n, (∀ it ∈ items, new_logs.find it ≠ none → n ≠ it.name) →
        (items.foldl (cleanup new_logs) m).loggers n = m.loggers n := by
  induction items with
  | nil =>
    intro m
    exact ⟨rfl, fun _ _ => rfl⟩
  | cons it items ih =>
    intro m
    rw [List.foldl_cons]
    obtain ⟨happs, hother⟩ := ih (cleanup new_logs m it)
    refine ⟨happs.trans (cleanup_appenders new_logs m it), fun n hn => ?_⟩
    rw [hother n fun x hx => hn x (List.mem_cons_of_mem _ hx)]
    exact cleanup_ne (hn it List.mem_cons_self) m

/-- Every logger named in both sets ends without level and appenders. -/
theorem cleanup_kept {old_logs new_logs : LogItems} {it : LogItem} (hit : it ∈ old_logs.items)
    (hkept : new_logs.find it ≠ none) (m : LoggerManager) :
    (old_logs.items.foldl (cleanup new_logs) m).loggers it.name =
      some (silenced ((m.loggers it.name).getD {})) := by
  obtain ⟨before, after, hsplit⟩ := List.append_of_mem hit
  have hsorted := old_logs.sorted
  rw [hsplit] at hsorted ⊢
  obtain ⟨_, hafter, hbefore⟩ := List.pairwise_append.mp hsorted
  have hne : ∀ x, x ∈ before ∨ x ∈ after → it.name ≠ x.name := by
    rintro x (hx | hx) heq
    · have hlt := hbefore x hx it List.mem_cons_self
      simp [LogItem.lt, heq, List.lt_irrefl] at hlt
    · have hlt := (List.pairwise_cons.mp hafter).1 x hx
      simp [LogItem.lt, heq, List.lt_irrefl] at hlt
  rw [List.foldl_append, List.foldl_cons,
    (cleanup_foldl new_logs after _).2 it.name fun x hx _ => hne x (.inr hx),
    cleanup_self hkept, (cleanup_foldl new_logs before m).2 it.name fun x hx _ => hne x (.inl hx)]

/-! ## Section 7: Old and new -/

/-- The logger of the item is as the item says. -/
def AsPrescribed (m : LoggerManager) (it : LogItem) : Prop :=
  ∃ l, m.loggers it.name = some l ∧ l.level = it.level ∧
    (it.formatter ≠ [] → l.formatter = some ⟨it.formatter⟩) ∧ m.Fits 0 l.appenders it.appenders

/-- What the listener is for: `t` is `m` brought from the old set to the new one. -/
structure InLine (m t : LoggerManager) (old_logs new_logs : LogItems) : Prop where
  named   : ∀ it ∈ new_logs.items, t.AsPrescribed it
  removed : ∀ it ∈ old_logs.items, new_logs.find it = none →
              ∃ l, t.loggers it.name = some l ∧ l.level = .INVALID ∧ l.appenders = []
  others  : ∀ n, (∀ it ∈ old_logs.items, it.name ≠ n) → (∀ it ∈ new_logs.items, it.name ≠ n) →
              t.loggers n = m.loggers n ∧ ∀ p ∈ m.pointers n, t.appenders[p]? = m.appenders[p]?

end LoggerManager

/-- The item asks for no more than what a removed logger is left with. -/
def LogItem.Silent (it : LogItem) : Prop := it.level = .INVALID ∧ it.appenders = []

namespace LoggerManager

/-- The new items that set a formatter on the logger that has the appender `p`. -/
def rewriters (m : LoggerManager) (old_logs new_logs : LogItems) (p : Nat) : List LogItem :=
  new_logs.items.filter fun it => Changed old_logs it ∧ it.formatter ≠ [] ∧ p ∈ m.pointers it.name

/-- The inputs on which the listener does what it is for. -/
structure Spared (m : LoggerManager) (old_logs new_logs : LogItems) : Prop where
  gone  : ∀ it ∈ old_logs.items, new_logs.find it = none → it.Silent
  kept  : ∀ it ∈ new_logs.items, old_logs.find it ≠ none → it.Silent
  known : ∀ it ∈ new_logs.items, old_logs.find it = none → ∀ a ∈ it.appenders, a.Known
  /-- An appender that is shared with a logger outside both sets keeps its formatter. -/
  apart : ∀ n, (∀ it ∈ old_logs.items, it.name ≠ n) → (∀ it ∈ new_logs.items, it.name ≠ n) →
            ∀ p ∈ m.pointers n, ∀ a, m.appenders[p]? = some a → a.hasFormatter = true →
              ∀ it, (m.rewriters old_logs new_logs p).getLast? = some it →
                a.formatter = some ⟨it.formatter⟩

theorem Fits.known {m : LoggerManager} {base : Nat} {ps : List Nat} {as : List LogAppenderItem}
    (h : m.Fits base ps as) : ∀ a ∈ as, a.Known := by
  unfold Fits at h
  induction h with
  | nil =>
    intro a ha
    cases ha
  | cons hpa _ ih =>
    intro b hb
    rcases List.mem_cons.mp hb with rfl | hb
    · obtain ⟨_, ap, _, hmatch⟩ := hpa
      exact hmatch.1.imp And.left And.left
    · exact ih b hb

/-- Of the items that touch an appender the last one says what becomes of it. -/
theorem touched_eq (m : LoggerManager) (old_logs : LogItems) (p : Nat) (a : LogAppender)
    (items : List LogItem) :
    m.touched old_logs items p a =
      if a.hasFormatter = true then
        ((items.filter fun it => Changed old_logs it ∧ it.formatter ≠ [] ∧
          p ∈ m.pointers it.name).getLast?).elim a fun it => { a with formatter := some ⟨it.formatter⟩ }
      else a := by
  induction items using List.reverseRecOn with
  | nil => simp [touched]
  | append_singleton items it ih =>
    have hstep : m.touched old_logs (items ++ [it]) p a =
        if Changed old_logs it then m.touch it p (m.touched old_logs items p a)
        else m.touched old_logs items p a := by
      simp only [touched, List.foldl_append, List.foldl_cons, List.foldl_nil]
    rw [hstep, ih, List.filter_append]
    by_cases hmoves : Changed old_logs it ∧ it.formatter ≠ [] ∧ p ∈ m.pointers it.name
    · -- `it` is the last one now
      rw [List.filter_cons_of_pos (by simpa using hmoves), List.filter_nil, List.getLast?_concat,
        if_pos hmoves.1]
      by_cases ha : a.hasFormatter = true
      · rw [if_pos ha, if_pos ha, touch, if_pos hmoves.2.1, retouch]
        cases (items.filter fun it => decide (Changed old_logs it ∧ it.formatter ≠ [] ∧
          p ∈ m.pointers it.name)).getLast? <;> simp [hmoves.2.2, ha]
      · rw [if_neg ha, if_neg ha, touch, if_pos hmoves.2.1, retouch, if_neg fun h => ha h.2]
    · rw [List.filter_cons_of_neg (by simpa using hmoves), List.filter_nil, List.append_nil]
      split
      · rename_i hchanged
        unfold touch retouch
        split
        · rename_i hf
          exact if_neg fun h => hmoves ⟨hchanged, hf, h.1⟩
        · rfl
      · rfl

/-- An appender is left as it is if the last item that writes to it writes the
    pattern it has. -/
theorem touched_eq_self_iff {m : LoggerManager} {old_logs new_logs : LogItems} {p : Nat}
    {a : LogAppender} :
    m.touched old_logs new_logs.items p a = a ↔
      (a.hasFormatter = true → ∀ it, (m.rewriters old_logs new_logs p).getLast? = some it →
        a.formatter = some ⟨it.formatter⟩) := by
  rw [touched_eq]
  change (if a.hasFormatter = true then ((m.rewriters old_logs new_logs p).getLast?).elim a _
    else a) = a ↔ _
  split
  · rename_i ha
    cases hlast : (m.rewriters old_logs new_logs p).getLast? with
    | none => simp
    | some it =>
      constructor
      · intro h _ x hx
        obtain rfl := Option.some.inj hx
        exact (congrArg LogAppender.formatter h).symm
      · intro h
        have hsame := h ha it rfl
        cases a
        simp_all
  · rename_i ha
    exact iff_of_true rfl fun h => absurd h ha

section listener

variable {m : LoggerManager} {old_logs new_logs : LogItems}

theorem onLogsChange_appenders :
    (m.onLogsChange old_logs new_logs).appenders =
      (new_logs.items.foldl (refresh old_logs) m).appenders :=
  (cleanup_foldl new_logs old_logs.items _).1

/-- Only the loggers named in both sets are changed by the second loop. -/
theorem onLogsChange_loggers {n : Str}
    (h : ∀ it ∈ old_logs.items, new_logs.find it ≠ none → n ≠ it.name) :
    (m.onLogsChange old_logs new_logs).loggers n =
      (new_logs.items.foldl (refresh old_logs) m).loggers n :=
  (cleanup_foldl new_logs old_logs.items _).2 n h

variable (hvalid : ∀ it ∈ new_logs.items, it.PatternsValid)
include hvalid

/-- A logger named in the new set only is as its item says, when the types of
    its appenders are known. -/
theorem added_iff {it : LogItem} (hit : it ∈ new_logs.items) (hnew : old_logs.find it = none) :
    (m.onLogsChange old_logs new_logs).AsPrescribed it ↔ ∀ a ∈ it.appenders, a.Known := by
  constructor
  · rintro ⟨l, -, -, -, hfits⟩
    exact hfits.known
  · intro hknown
    have hchanged : Changed old_logs it := by
      unfold Changed
      simp [hnew]
    obtain ⟨l, hl⟩ := (refreshed_all (m := m) old_logs new_logs hvalid).built it hit hchanged
    refine ⟨l, ?_, hl.level, hl.formatter, ?_⟩
    · rw [onLogsChange_loggers fun x hx _ h => LogItems.find_none.mp hnew x hx h.symm]
      exact hl.here
    · have hfits := hl.appenders
      rw [List.filter_eq_self.mpr (by simpa using hknown)] at hfits
      refine (hfits.weaken (Nat.zero_le _)).mono fun p _ ap _ hap => ?_
      rwa [onLogsChange_appenders]

/-- A logger named in both sets is silenced, whatever its item says. -/
theorem kept_iff (hold : ∀ it ∈ old_logs.items, m.AsPrescribed it) {it : LogItem}
    (hit : it ∈ new_logs.items) (hkept : old_logs.find it ≠ none) :
    (m.onLogsChange old_logs new_logs).AsPrescribed it ↔ it.Silent := by
  obtain ⟨f, hf⟩ := Option.ne_none_iff_exists'.mp hkept
  obtain ⟨hfold, hname⟩ := LogItems.find_some hf
  have hfind : new_logs.find f ≠ none := by
    rw [LogItems.find_of_mem hit hname.symm]
    simp
  have hrefreshed := refreshed_all (m := m) old_logs new_logs hvalid
  have hend := cleanup_kept hfold hfind (new_logs.items.foldl (refresh old_logs) m)
  rw [hname] at hend
  -- before it is silenced, the logger has the formatter of the item
  have hformatter : ∃ l, (new_logs.items.foldl (refresh old_logs) m).loggers it.name = some l ∧
      (it.formatter ≠ [] → l.formatter = some ⟨it.formatter⟩) := by
    by_cases hchanged : Changed old_logs it
    · obtain ⟨l, hl⟩ := hrefreshed.built it hit hchanged
      exact ⟨l, hl.here, hl.formatter⟩
    · have hsame : (new_logs.items.foldl (refresh old_logs) m).loggers it.name = m.loggers it.name := by
        refine hrefreshed.same _ fun x hx hc h => hchanged ?_
        rwa [← LogItems.name_inj hx hit h]
      obtain rfl : f = it := Option.some.inj (hf.symm.trans (not_not.mp hchanged))
      obtain ⟨l, hl, -, hfmt, -⟩ := hold f hfold
      exact ⟨l, hsame.trans hl, hfmt⟩
  obtain ⟨l, hl, hfmt⟩ := hformatter
  rw [hl, Option.getD_some] at hend
  constructor
  · rintro ⟨l', hl', hlevel, -, hfits⟩
    obtain rfl := Option.some.inj (hend.symm.trans hl')
    exact ⟨hlevel.symm, List.forall₂_nil_left_iff.mp hfits⟩
  · rintro ⟨hlevel, happs⟩
    refine ⟨_, hend, hlevel.symm, hfmt, ?_⟩
    rw [happs]
    exact .nil

/-- A logger named in the old set only keeps what it had. -/
theorem removed_iff {it : LogItem} (hold : m.AsPrescribed it) (hgone : new_logs.find it = none) :
    (∃ l, (m.onLogsChange old_logs new_logs).loggers it.name = some l ∧ l.level = .INVALID ∧
      l.appenders = []) ↔ it.Silent := by
  have hrefreshed := refreshed_all (m := m) old_logs new_logs hvalid
  have hnot := LogItems.find_none.mp hgone
  have hsame : (m.onLogsChange old_logs new_logs).loggers it.name = m.loggers it.name := by
    rw [onLogsChange_loggers, hrefreshed.same _ fun x hx _ => hnot x hx]
    intro x hx hfind h
    obtain ⟨y, hy⟩ := Option.ne_none_iff_exists'.mp hfind
    obtain ⟨hmem, hname⟩ := LogItems.find_some hy
    exact hnot y hmem (hname.trans h.symm)
  obtain ⟨l, hl, hlevel, -, hfits⟩ := hold
  rw [hsame, hl]
  constructor
  · rintro ⟨l', hl', hinvalid, happs⟩
    obtain rfl := Option.some.inj hl'
    rw [happs] at hfits
    exact ⟨hlevel.symm.trans hinvalid, List.forall₂_nil_left_iff.mp hfits⟩
  · rintro ⟨hinvalid, happs⟩
    rw [happs] at hfits
    exact ⟨l, rfl, hlevel.trans hinvalid, List.forall₂_nil_right_iff.mp hfits⟩

/-- A logger outside both sets can only be reached through an appender it shares. -/
theorem others_iff {n : Str} (hold : ∀ it ∈ old_logs.items, it.name ≠ n)
    (hnew : ∀ it ∈ new_logs.items, it.name ≠ n) :
    ((m.onLogsChange old_logs new_logs).loggers n = m.loggers n ∧ ∀ p ∈ m.pointers n,
        (m.onLogsChange old_logs new_logs).appenders[p]? = m.appenders[p]?) ↔
      ∀ p ∈ m.pointers n, ∀ a, m.appenders[p]? = some a → a.hasFormatter = true →
        ∀ it, (m.rewriters old_logs new_logs p).getLast? = some it →
          a.formatter = some ⟨it.formatter⟩ := by
  have hrefreshed := refreshed_all (m := m) old_logs new_logs hvalid
  have hsame : (m.onLogsChange old_logs new_logs).loggers n = m.loggers n := by
    rw [onLogsChange_loggers fun x hx _ h => hold x hx h.symm]
    exact hrefreshed.same n fun x hx _ => hnew x hx
  refine (and_iff_right hsame).trans (forall₂_congr fun p hp => ?_)
  have hlt := pointers_valid hp
  rw [onLogsChange_appenders, hrefreshed.old p hlt, List.getElem?_eq_getElem hlt, Option.map_some,
    Option.some.injEq, touched_eq_self_iff]
  exact ⟨fun h a ha => Option.some.inj ha ▸ h, fun h => h _ rfl⟩

end listener

end LoggerManager

open LoggerManager

/-- The listener does what it is for exactly when nothing is removed or kept
    but what asks for silence anyway, the new appenders have a known type, and
    no shared appender gets another formatter. -/
theorem logs_change_iff (m : LoggerManager) (old_logs new_logs : LogItems)
    (hvalid : ∀ it ∈ new_logs.items, it.PatternsValid)
    (hold : ∀ it ∈ old_logs.items, m.AsPrescribed it) :
    m.InLine (m.onLogsChange old_logs new_logs) old_logs new_logs ↔ m.Spared old_logs new_logs := by
  constructor
  · intro h
    refine ⟨fun it hit hgone => ?_, fun it hit hkept => ?_, fun it hit hnew => ?_,
      fun n hn hn' => ?_⟩
    · exact (removed_iff hvalid (hold it hit) hgone).mp (h.removed it hit hgone)
    · exact (kept_iff hvalid hold hit hkept).mp (h.named it hit)
    · exact (added_iff hvalid hit hnew).mp (h.named it hit)
    · exact (others_iff hvalid hn hn').mp (h.others n hn hn')
  · intro h
    refine ⟨fun it hit => ?_, fun it hit hgone => ?_, fun n hn hn' => ?_⟩
    · by_cases hnew : old_logs.find it = none
      · exact (added_iff hvalid hit hnew).mpr (h.known it hit hnew)
      · exact (kept_iff hvalid hold hit hnew).mpr (h.kept it hit hnew)
    · exact (removed_iff hvalid (hold it hit) hgone).mpr (h.gone it hit hgone)
    · exact (others_iff hvalid hn hn').mpr (h.apart n hn hn')

/-- The first load of a configuration. -/
theorem logs_change_iff_load :
    let new_logs : LogItems := ⟨[{ name := str "system", level := .INFO, appenders :=
      [{ type := LogAppenderItemType_STDOUT, formatter := str "%d%T%m%n" }] }],
      List.pairwise_singleton _ _⟩
    LoggerManager.initial.InLine (LoggerManager.initial.onLogsChange .empty new_logs) .empty new_logs ↔
      LoggerManager.initial.Spared .empty new_logs := by
  intro new_logs
  refine logs_change_iff LoggerManager.initial .empty new_logs (fun it hit => ?_) fun it hit => ?_
  · obtain rfl := List.mem_singleton.mp hit
    refine ⟨fun h => absurd rfl h, fun a ha _ => ?_⟩
    obtain rfl := List.mem_singleton.mp ha
    decide +kernel
  · cases hit

/-- The logger `orders` is removed and `system` gets another level: the first is
    left as it was and the second is silenced. -/
theorem logs_change_crossed :
    ∃ (m : LoggerManager) (old_logs new_logs : LogItems),
      (∀ it ∈ new_logs.items, it.PatternsValid) ∧ (∀ it ∈ old_logs.items, m.AsPrescribed it) ∧
        ¬ m.InLine (m.onLogsChange old_logs new_logs) old_logs new_logs := by
  let appenders : List LogAppenderItem := [{ type := LogAppenderItemType_STDOUT }]
  let orders : LogItem := { name := str "orders", level := .INFO, appenders := appenders }
  let system : LogItem := { name := str "system", level := .DEBUG, appenders := appenders }
  let old_logs : LogItems := ⟨[orders, system], by unfold OrderedSet.Sorted; decide⟩
  let new_logs : LogItems := ⟨[{ system with level := .WARN }], List.pairwise_singleton _ _⟩
  have hplain : ∀ it : LogItem, it.formatter = [] → it.appenders = appenders → it.PatternsValid := by
    intro it hf ha
    refine ⟨fun h => absurd hf h, fun a h => ?_⟩
    rw [ha] at h
    obtain rfl := List.mem_singleton.mp h
    exact fun h => absurd rfl h
  have hold : ∀ it ∈ old_logs.items, it.PatternsValid := by
    intro it hit
    rcases List.mem_cons.mp hit with rfl | hit
    · exact hplain _ rfl rfl
    · obtain rfl := List.mem_singleton.mp hit
      exact hplain _ rfl rfl
  refine ⟨LoggerManager.initial.onLogsChange .empty old_logs, old_logs, new_logs, ?_, ?_, ?_⟩
  · intro it hit
    obtain rfl := List.mem_singleton.mp hit
    exact hplain _ rfl rfl
  · -- the old items were loaded first
    intro it hit
    refine (added_iff hold hit rfl).mpr fun a ha => ?_
    have happs : it.appenders = appenders := by
      rcases List.mem_cons.mp hit with rfl | hit
      · rfl
      · obtain rfl := List.mem_singleton.mp hit
        rfl
    rw [happs] at ha
    obtain rfl := List.mem_singleton.mp ha
    exact .inr rfl
  · intro h
    obtain ⟨l, hl, hlevel, -⟩ := h.named _ (List.mem_singleton_self _)
    -- the loop over old_logs clears system, which new_logs still has
    have hsilent : ((LoggerManager.initial.onLogsChange .empty old_logs).onLogsChange old_logs
        new_logs).loggers (str "system") = some { level := .INVALID } := by decide
    obtain rfl := Option.some.inj (hsilent.symm.trans hl)
    cases hlevel

end Log

end MNSER
