import Mnser.Framework.NamedTree

/-! # FSUtil::Rm

    The recursion of `Rm` over the file system, and `Mv` and `Symlink`, which
    first remove what is in their way.  The caller may look into every
    directory and remove every entry, and the tree holds still meanwhile.  A
    path names the directories it leads through: the links on the way to it
    are resolved before.

    The caller's rights do not make every call succeed.  The path of an entry
    far below is longer than the kernel takes, and every level of the
    recursion keeps a descriptor.  `Rm` takes any error of `lstat` for "there
    is nothing".

    The test for a directory is `st_mode & S_IFDIR`.  The mode is a number
    and not a set of bits: that of a socket and that of a block device
    contain the bit too, and neither can be opened as a directory. -/

namespace MNSER

namespace FSUtil

open NamedTree

/-! ## Section 1: The file system -/

abbrev Name : Type := List UInt8

abbrev Path : Type := List Name

/-- Whatever is not a directory. -/
inductive File where
  | regular
  | symlink (target : Path)
  | socket
  | fifo
  | charDevice
  | blockDevice
  deriving DecidableEq

abbrev Inode : Type := Rose Name File

/-- `/`, or what is left of it. -/
abbrev Fs : Type := Option Inode

/-- No directory lists a name twice. -/
def Distinct (t : Fs) : Prop := ∀ path es, find path t = some (.node es) → (es.map Prod.fst).Nodup

structure FileSystem where
  root     : Fs
  distinct : Distinct root

def S_IFDIR : Nat := 0o040000

def File.st_mode : File → Nat
  | .regular     => 0o100000
  | .symlink _   => 0o120000
  | .socket      => 0o140000
  | .fifo        => 0o010000
  | .charDevice  => 0o020000
  | .blockDevice => 0o060000

/-- `lstat`: the file type of a link is that of the link. -/
def st_mode : Inode → Nat
  | .leaf file => file.st_mode
  | .node _    => S_IFDIR

/-- `opendir`, and what `readdir` gives apart from `.` and `..` -/
def opendir : Inode → Option (Entries Name File)
  | .leaf _  => none
  | .node es => some es

/-- Which calls on a path get an answer: not those on a path that is too long,
    or without a descriptor or memory.  Each directory is opened once. -/
structure Calls where
  lstat   : Path → Bool
  opendir : Path → Bool

/-- All of them. -/
def Calls.all : Calls := ⟨fun _ => true, fun _ => true⟩

/-- `::unlink`; not for directories. -/
def unlink (fs : Fs) (path : Path) : Bool × Fs :=
  match find path fs with
  | some (.leaf _) => (true, put none path fs)
  | _              => (false, fs)

/-- `::rmdir`; only for empty directories. -/
def rmdir (fs : Fs) (path : Path) : Bool × Fs :=
  match find path fs with
  | some (.node []) => (true, put none path fs)
  | _               => (false, fs)

/-! ## Section 2: The functions -/

/-- `lstat`, and `__lstat`; `none` for any error. -/
def lstat (os : Calls) (fs : Fs) (path : Path) : Option Inode :=
  if os.lstat path then find path fs else none

def Unlink (os : Calls) (fs : Fs) (filename : Path) (exist : Bool) : Bool × Fs :=
  if exist = false ∧ lstat os fs filename = none then (true, fs) else unlink fs filename

/-- `FSUtil::Rm`; `none` when the calls go deeper than `n`. -/
def Rm (os : Calls) : (n : Nat) → Fs → Path → Option (Bool × Fs)
  | 0, _, _ => none
  | n + 1, fs, path =>
    match lstat os fs path with
    | none => some (true, fs)
    | some st =>
      if st_mode st &&& S_IFDIR = 0 then some (Unlink os fs path false)
      else
        match if os.opendir path then opendir st else none with
        | none => some (false, fs)
        | some dir => do
          -- `ret` is that of the last entry
          let (ret, fs) ← dir.foldlM (fun s dp => Rm os n s.2 (path ++ [dp.1])) (true, fs)
          let (removed, fs) := rmdir fs path
          return (if removed then ret else false, fs)

/-- `::rename` or `::symlink`, whatever it does. -/
abbrev Call : Type := Fs → Path → Path → Bool × Fs

/-- `Mv` with `rename`, `Symlink` with `symlink`. -/
def replaceBy (os : Calls) (call : Call) (n : Nat) (fs : Fs) (from_ to_ : Path) :
    Option (Bool × Fs) := do
  let (removed, fs) ← Rm os n fs to_
  return if removed = false then (false, fs) else call fs from_ to_

def Mv (os : Calls) (rename : Call) : Nat → Fs → Path → Path → Option (Bool × Fs) :=
  replaceBy os rename

def Symlink (os : Calls) (symlink : Call) : Nat → Fs → Path → Path → Option (Bool × Fs) :=
  replaceBy os symlink

/-! ## Section 3: What is in the way -/

/-- A file that is not taken for a directory. -/
def Plain (file : File) : Prop := file ≠ .socket ∧ file ≠ .blockDevice

instance (file : File) : Decidable (Plain file) := inferInstanceAs (Decidable (_ ∧ _))

/-- `S_IFDIR` is one bit of the mode, and other kinds of files have it too. -/
theorem plain_iff (file : File) : file.st_mode &&& S_IFDIR = 0 ↔ Plain file := by
  cases file <;> simp [File.st_mode, S_IFDIR, Plain]

variable {os : Calls}

/-- `Rm` finds the entry and takes it for what it is. -/
def Calls.Sees (os : Calls) (path : Path) : Inode → Prop
  | .leaf file => os.lstat path = true ∧ Plain file
  | .node _    => os.lstat path = true ∧ os.opendir path = true

/-- So for all entries of a tree that is at `path`, at any depth. -/
def Clearable (os : Calls) (path : Path) (t : Fs) : Prop :=
  ∀ q x, find q t = some x → os.Sees (path ++ q) x

/-- What can be removed can be looked at. -/
theorem Clearable.lstat {path : Path} {t : Inode} (h : Clearable os path (some t)) :
    os.lstat path = true := by
  have hsees := h [] t rfl
  rw [List.append_nil] at hsees
  cases t with
  | leaf file => exact hsees.1
  | node es => exact hsees.1

/-- A file can be removed if it is plain. -/
theorem clearable_leaf_iff (path : Path) (file : File) :
    Clearable os path (some (.leaf file)) ↔ os.lstat path = true ∧ Plain file := by
  constructor
  · intro h
    have hsees := h [] (.leaf file) rfl
    rwa [List.append_nil] at hsees
  · intro h q x hq
    cases q with
    | nil =>
      obtain rfl : Rose.leaf file = x := by simpa [find] using hq
      rw [List.append_nil]
      exact h
    | cons name q => cases hq

/-- A directory can be removed if it can be read and its entries can be removed. -/
theorem clearable_node_iff {path : Path} {es : Entries Name File}
    (hnodup : (es.map Prod.fst).Nodup) :
    Clearable os path (some (.node es)) ↔
      (os.lstat path = true ∧ os.opendir path = true) ∧
        ∀ e ∈ es, Clearable os (path ++ [e.1]) (some e.2) := by
  constructor
  · intro h
    have hsees := h [] (.node es) rfl
    rw [List.append_nil] at hsees
    refine ⟨hsees, ?_⟩
    rintro ⟨name, t⟩ he q x hq
    rw [List.append_assoc]
    refine h (name :: q) x ?_
    rw [find, lookup_of_mem hnodup he]
    exact hq
  · rintro ⟨hsees, h⟩ q x hq
    -- below a directory is the directory itself or what is below an entry
    cases q with
    | nil =>
      obtain rfl : Rose.node es = x := by simpa [find] using hq
      rw [List.append_nil]
      exact hsees
    | cons name q =>
      rw [find] at hq
      cases hlookup : lookup name es with
      | none =>
        rw [hlookup, find_none] at hq
        cases hq
      | some t =>
        rw [hlookup] at hq
        have hbelow := h (name, t) (mem_of_lookup hlookup) q x hq
        rw [List.append_assoc] at hbelow
        exact hbelow

theorem Distinct.entry {es : Entries Name File} (h : Distinct (some (.node es))) :
    (es.map Prod.fst).Nodup := h [] es rfl

/-- The names are distinct further down as well. -/
theorem Distinct.child {es : Entries Name File} (h : Distinct (some (.node es))) {e : Name × Inode}
    (he : e ∈ es) : Distinct (some e.2) := by
  intro path es' hfind
  refine h (e.1 :: path) es' ?_
  rw [find, lookup_of_mem h.entry he]
  exact hfind

theorem distinct_leaf (file : File) : Distinct (some (.leaf file)) := by
  intro path es hfind
  cases path <;> cases hfind

/-- The names of a directory, and those further down. -/
theorem distinct_node {es : Entries Name File} (hnodup : (es.map Prod.fst).Nodup)
    (hes : ∀ e ∈ es, Distinct (some e.2)) : Distinct (some (.node es)) := by
  intro path es' hfind
  cases path with
  | nil =>
    obtain rfl : es = es' := by simpa [find] using hfind
    exact hnodup
  | cons name path =>
    rw [find] at hfind
    cases hlookup : lookup name es with
    | none =>
      rw [hlookup, find_none] at hfind
      cases hfind
    | some t =>
      rw [hlookup] at hfind
      exact hes (name, t) (mem_of_lookup hlookup) path es' hfind

/-- The names are distinct below a path. -/
theorem Distinct.below {t : Fs} (h : Distinct t) (path : Path) : Distinct (find path t) := by
  intro q es hfind
  refine h (path ++ q) es ?_
  rw [find_append]
  exact hfind

/-! ## Section 4: What one call leaves -/

/-- With enough calls the entry is removed, or some of it stays; the result
    says which where `lstat` has found the entry, and nothing else changes. -/
def Removes (os : Calls) (t : Inode) (fs : Fs) (path : Path) : Prop :=
  ∃ left : Fs,
    (∀ n, sizeOf t ≤ n →
      Rm os n fs path = some (left.isNone || !os.lstat path, put left path fs)) ∧
    (left = none ↔ Clearable os path (some t))

/-- An error of `lstat`: all of the entry stays, and the result is true. -/
theorem removes_unseen {t : Inode} {fs : Fs} {path : Path} (hfind : find path fs = some t)
    (hlstat : os.lstat path = false) : Removes os t fs path := by
  refine ⟨some t, ?_, ?_⟩
  · rintro (_ | n) hn
    · cases t <;> simp at hn
    · rw [put_find hfind]
      simp [Rm, lstat, hlstat]
  · constructor
    · intro h
      cases h
    · intro h
      rw [h.lstat] at hlstat
      cases hlstat

/-- A plain file goes. -/
theorem removes_leaf {file : File} {fs : Fs} {path : Path}
    (hfind : find path fs = some (.leaf file)) (hlstat : os.lstat path = true) :
    Removes os (.leaf file) fs path := by
  by_cases hplain : Plain file
  · have hmode : st_mode (Rose.leaf file) &&& S_IFDIR = 0 := (plain_iff file).mpr hplain
    refine ⟨none, ?_, ?_⟩
    · rintro (_ | n) hn
      · simp at hn
      · simp [Rm, lstat, hlstat, hfind, hmode, Unlink, unlink]
    · simpa [clearable_leaf_iff] using ⟨hlstat, hplain⟩
  · -- it is taken for a directory, and `opendir` fails
    have hmode : ¬ st_mode (Rose.leaf file) &&& S_IFDIR = 0 := fun h => hplain ((plain_iff file).mp h)
    refine ⟨some (.leaf file), ?_, ?_⟩
    · rintro (_ | n) hn
      · simp at hn
      · rw [put_find hfind]
        simp [Rm, lstat, hlstat, hfind, hmode, opendir]
    · simp [clearable_leaf_iff, hplain]

/-- A directory that cannot be opened stays as it is. -/
theorem removes_closed {es : Entries Name File} {fs : Fs} {path : Path}
    (hfind : find path fs = some (.node es)) (hlstat : os.lstat path = true)
    (hopendir : os.opendir path = false) : Removes os (.node es) fs path := by
  have hmode : ¬ st_mode (Rose.node es) &&& S_IFDIR = 0 := by simp [st_mode, S_IFDIR]
  refine ⟨some (.node es), ?_, ?_⟩
  · rintro (_ | n) hn
    · simp at hn
    · rw [put_find hfind]
      simp [Rm, lstat, hlstat, hfind, hmode, hopendir]
  · constructor
    · intro h
      cases h
    · intro h
      have hsees := h [] (.node es) rfl
      rw [List.append_nil] at hsees
      rw [hsees.2] at hopendir
      cases hopendir

/-- What the loop over the entries of a directory leaves of them. -/
theorem loop_leaves {path : Path} (rest : Entries Name File)
    (hrest : ∀ e ∈ rest, ∀ fs, find (path ++ [e.1]) fs = some e.2 →
      Removes os e.2 fs (path ++ [e.1])) :
    ∀ (front : Entries Name File) (fs : Fs) (ret : Bool),
      find path fs = some (.node (front ++ rest)) → ((front ++ rest).map Prod.fst).Nodup →
      ∃ (left : Entries Name File) (ret' : Bool),
        (∀ n, (∀ e ∈ rest, sizeOf e.2 ≤ n) →
          rest.foldlM (fun s dp => Rm os n s.2 (path ++ [dp.1])) (ret, fs) =
            some (ret', put (some (.node (front ++ left))) path fs)) ∧
        (left = [] ↔ ∀ e ∈ rest, Clearable os (path ++ [e.1]) (some e.2)) ∧
        (left = [] → ret = true → ret' = true) := by
  induction rest with
  | nil =>
    intro front fs ret hfind _
    refine ⟨[], ret, ?_, by simp, fun _ h => h⟩
    intro n _
    rw [put_find hfind]
    rfl
  | cons e rest ih =>
    intro front fs ret hfind hnodup
    have hentry : find (path ++ [e.1]) fs = some e.2 := by
      have hmem : (e.1, e.2) ∈ front ++ e :: rest := by simp
      rw [find_append, hfind, find, lookup_of_mem hnodup hmem]
      rfl
    obtain ⟨left, hrm, hleft⟩ := hrest e List.mem_cons_self fs hentry
    -- what is left of the entry joins what is left of those before it
    let kept : Entries Name File := left.toList.map fun t => (e.1, t)
    have hput : put left (path ++ [e.1]) fs = put (some (.node (front ++ kept ++ rest))) path fs := by
      rw [put_child hfind, setEntry_append left hnodup]
    have hkept : (kept.map Prod.fst).Sublist [e.1] := by
      cases left with
      | none => exact List.nil_sublist _
      | some t => exact List.Sublist.refl _
    have hnodup' : ((front ++ kept ++ rest).map Prod.fst).Nodup := by
      refine hnodup.sublist ?_
      simp only [List.map_append, List.map_cons, List.append_assoc]
      exact (List.Sublist.refl _).append (hkept.append (List.Sublist.refl _))
    have hsome : find path fs ≠ none := by
      rw [hfind]
      simp
    obtain ⟨left', ret', hfold, hleft', hret'⟩ :=
      ih (fun e' he' => hrest e' (List.mem_cons_of_mem _ he')) (front ++ kept)
        (put (some (.node (front ++ kept ++ rest))) path fs)
        (left.isNone || !os.lstat (path ++ [e.1])) (find_put hsome _) hnodup'
    have hempty : kept ++ left' = [] ↔ left = none ∧ left' = [] := by
      cases left <;> simp [kept]
    refine ⟨kept ++ left', ret', ?_, ?_, ?_⟩
    · intro n hsize
      have hfold := hfold n (fun e' he' => hsize e' (List.mem_cons_of_mem _ he'))
      rw [put_put hsome] at hfold
      rw [List.foldlM_cons, hrm n (hsize e List.mem_cons_self), hput, ← List.append_assoc]
      exact hfold
    · rw [hempty, hleft, hleft', List.forall_mem_cons]
    · intro hnil _
      obtain ⟨hnone, hnil'⟩ := hempty.mp hnil
      exact hret' hnil' (by rw [hnone]; rfl)

theorem sizeOf_entry {es : Entries Name File} {e : Name × Inode} (he : e ∈ es) :
    sizeOf e.2 < sizeOf (Rose.node es) := by
  have hmem : sizeOf e < sizeOf es := List.sizeOf_lt_of_mem he
  have hpair : sizeOf e.2 < sizeOf e := by
    obtain ⟨name, t⟩ := e
    show sizeOf t < sizeOf (name, t)
    rw [Prod.mk.sizeOf_spec]
    omega
  rw [Rose.node.sizeOf_spec]
  omega

/-- A directory goes after its entries, by induction on them. -/
theorem removes_node {es : Entries Name File} {fs : Fs} {path : Path}
    (hes : ∀ e ∈ es, ∀ fs, find (path ++ [e.1]) fs = some e.2 →
      Removes os e.2 fs (path ++ [e.1]))
    (hfind : find path fs = some (.node es)) (hdistinct : Distinct (some (.node es)))
    (hlstat : os.lstat path = true) (hopendir : os.opendir path = true) :
    Removes os (.node es) fs path := by
  obtain ⟨left, ret, hfold, hleft, hret⟩ := loop_leaves es hes [] fs true hfind hdistinct.entry
  have hsome : find path fs ≠ none := by
    rw [hfind]
    simp
  have hmode : ¬ st_mode (Rose.node es) &&& S_IFDIR = 0 := by simp [st_mode, S_IFDIR]
  have hthere : find path (put (some (.node left)) path fs) = some (.node left) := find_put hsome _
  -- what the loop has left, `rmdir` removes if it is nothing
  have hrm : ∀ n, sizeOf (Rose.node es) ≤ n → Rm os n fs path =
      some (if (rmdir (put (some (.node left)) path fs) path).1 then ret else false,
        (rmdir (put (some (.node left)) path fs) path).2) := by
    rintro (_ | n) hn
    · simp at hn
    · have hfold := hfold n (fun e he => Nat.le_of_lt_succ (Nat.lt_of_lt_of_le (sizeOf_entry he) hn))
      rw [List.nil_append] at hfold
      simp only [Rm, lstat, hlstat, hopendir, hfind, if_true, if_neg hmode, opendir, hfold]
      rfl
  have hclear : Clearable os path (some (.node es)) ↔ left = [] := by
    rw [clearable_node_iff hdistinct.entry, hleft]
    exact and_iff_right ⟨hlstat, hopendir⟩
  cases left with
  | nil =>
    refine ⟨none, ?_, ?_⟩
    · intro n hn
      simp [hrm n hn, rmdir, hthere, hret, put_put hsome]
    · simp [hclear]
  | cons e left =>
    refine ⟨some (.node (e :: left)), ?_, ?_⟩
    · intro n hn
      simp [hrm n hn, rmdir, hthere, hlstat]
    · simp [hclear]

/-- By induction on a bound of the size of the tree. -/
theorem removes (t : Inode) (fs : Fs) (path : Path) (hfind : find path fs = some t)
    (hdistinct : Distinct (some t)) : Removes os t fs path := by
  suffices h : ∀ (k : Nat) (t : Inode) (fs : Fs) (path : Path), sizeOf t ≤ k →
      find path fs = some t → Distinct (some t) → Removes os t fs path from
    h (sizeOf t) t fs path (Nat.le_refl _) hfind hdistinct
  intro k
  induction k with
  | zero =>
    intro t fs path hsize
    cases t <;> simp at hsize
  | succ k ih =>
    intro t fs path hsize hfind hdistinct
    -- the branches of Rm, in its order
    cases hlstat : os.lstat path with
    | false => exact removes_unseen hfind hlstat
    | true =>
      cases t with
      | leaf file => exact removes_leaf hfind hlstat
      | node es =>
        cases hopendir : os.opendir path with
        | false => exact removes_closed hfind hlstat hopendir
        | true =>
          refine removes_node ?_ hfind hdistinct hlstat hopendir
          intro e he fs' hfind'
          have hlt : sizeOf e.2 < sizeOf (Rose.node es) := sizeOf_entry he
          exact ih e.2 fs' (path ++ [e.1]) (by omega) hfind' (hdistinct.child he)

/-! ## Section 5: Rm, Mv and Symlink -/

/-- The call ends with this result. -/
def Ends (run : Nat → Option (Bool × Fs)) (r : Bool × Fs) : Prop :=
  ∃ fuel, ∀ n, fuel ≤ n → run n = some r

/-- A call comes to one end. -/
theorem Ends.unique {run : Nat → Option (Bool × Fs)} {r r' : Bool × Fs} (h : Ends run r)
    (h' : Ends run r') : r = r' := by
  obtain ⟨k, hk⟩ := h
  obtain ⟨k', hk'⟩ := h'
  have heq := (hk (k + k') (by omega)).symm.trans (hk' (k + k') (by omega))
  exact Option.some.inj heq

theorem Ends.replaceBy {fs : Fs} {to_ : Path} {r : Bool × Fs}
    (h : Ends (fun n => Rm os n fs to_) r) (call : Call) (from_ : Path) :
    Ends (fun n => replaceBy os call n fs from_ to_)
      (if r.1 = false then (false, r.2) else call r.2 from_ to_) := by
  obtain ⟨fuel, hfuel⟩ := h
  refine ⟨fuel, ?_⟩
  intro n hn
  simp only [FSUtil.replaceBy, hfuel n hn]
  rfl

/-- The result says whether something is left at the path, if `lstat` has
    looked there, and nothing else changes. -/
theorem rm_ends (os : Calls) (fs : FileSystem) (path : Path) :
    ∃ left : Fs,
      Ends (fun n => Rm os n fs.root path)
        (left.isNone || !os.lstat path, put left path fs.root) ∧
      (left = none ↔ Clearable os path (find path fs.root)) ∧
      find path (put left path fs.root) = left ∧
      (find path fs.root = none → left = none) := by
  cases hfind : find path fs.root with
  | none =>
    refine ⟨none, ⟨1, ?_⟩, ?_, ?_, fun _ => rfl⟩
    · rintro (_ | n) hn
      · simp at hn
      · simp [Rm, lstat, hfind, put_none_of_find]
    · simp [Clearable, find_none]
    · rw [put_none_of_find hfind, hfind]
  | some t =>
    have hdistinct : Distinct (some t) := hfind ▸ fs.distinct.below path
    have hsome : find path fs.root ≠ none := by
      rw [hfind]
      simp
    obtain ⟨left, hrm, hleft⟩ := @removes os t fs.root path hfind hdistinct
    refine ⟨left, ⟨sizeOf t, hrm⟩, hleft, find_put hsome left, ?_⟩
    intro h
    cases h

/-- All of the tree goes and nothing but the tree, and `Mv` and `Symlink` come
    to their calls. -/
structure Clears (os : Calls) (fs : Fs) (path : Path) : Prop where
  rm      : Ends (fun n => Rm os n fs path) (true, put none path fs)
  mv      : ∀ rename from_, Ends (fun n => Mv os rename n fs from_ path)
              (rename (put none path fs) from_ path)
  symlink : ∀ symlink from_, Ends (fun n => Symlink os symlink n fs from_ path)
              (symlink (put none path fs) from_ path)

/-- A path that has been removed is gone. -/
theorem clears_of_rm {fs : Fs} {path : Path}
    (h : Ends (fun n => Rm os n fs path) (true, put none path fs)) : Clears os fs path := by
  refine ⟨h, ?_, ?_⟩
  · intro rename from_
    simpa [Mv] using h.replaceBy rename from_
  · intro symlink from_
    simpa [Symlink] using h.replaceBy symlink from_

end FSUtil

open FSUtil NamedTree

/-- `Rm` ends, and what is elsewhere stays.  Nothing is at the path when it
    returns true exactly where `lstat` has looked there or nothing was there
    before; and it clears the path exactly where the calls on all entries
    succeed and there are neither sockets nor block devices. -/
theorem rm_clears_iff (os : Calls) (fs : FileSystem) (path : Path) :
    (∃ r, Ends (fun n => Rm os n fs.root path) r ∧
      ((r.1 = true → find path r.2 = none) ↔
        os.lstat path = true ∨ find path fs.root = none) ∧
      ∀ q, Apart path q → find q r.2 = find q fs.root) ∧
    (Clears os fs.root path ↔ Clearable os path (find path fs.root)) := by
  obtain ⟨left, hends, hleft, hfind, hnothing⟩ := rm_ends os fs path
  refine ⟨⟨_, hends, ?_, ?_⟩, ?_⟩
  · rw [hfind]
    constructor
    · intro htrue
      cases hlstat : os.lstat path with
      | true => exact Or.inl rfl
      | false =>
        -- the result is true whatever is there; nothing is left, so nothing was there
        rw [hlstat] at htrue
        have hnone := htrue (Bool.or_true _)
        have hclear := hleft.mp hnone
        cases hthere : find path fs.root with
        | none => exact Or.inr rfl
        | some t =>
          rw [hthere] at hclear
          rw [hclear.lstat] at hlstat
          cases hlstat
    · rintro (hlstat | hthere) htrue
      · rw [hlstat] at htrue
        exact Option.isNone_iff_eq_none.mp (by simpa using htrue)
      · exact hnothing hthere
  · intro q hapart
    exact find_put_apart hapart left fs.root
  · rw [← hleft]
    constructor
    · intro hclears
      have heq : (left.isNone || !os.lstat path, put left path fs.root) =
          (true, put none path fs.root) := hends.unique hclears.rm
      -- the tree is the one without the path, so nothing is left there
      have hput : put left path fs.root = put none path fs.root := congrArg Prod.snd heq
      cases hthere : find path fs.root with
      | none => exact hnothing hthere
      | some t =>
        have hsome : find path fs.root ≠ none := by
          rw [hthere]
          exact Option.some_ne_none t
        rw [← hfind, hput]
        exact find_put hsome none
    · rintro rfl
      exact clears_of_rm hends

/-- `/a` with a socket in it. -/
def FSUtil.withSocket : FileSystem where
  root := some (.node [([97], .node [([115], .leaf .socket)])])
  distinct := by
    refine distinct_node (by simp) ?_
    intro e he
    obtain rfl := List.mem_singleton.mp he
    refine distinct_node (by simp) ?_
    intro e he
    obtain rfl := List.mem_singleton.mp he
    exact distinct_leaf .socket

/-- The socket stays, and so does the directory. -/
theorem rm_leaves_socket :
    Ends (fun n => Rm Calls.all n withSocket.root [[97]]) (false, withSocket.root) ∧
      ¬ Clears Calls.all withSocket.root [[97]] := by
  have hends : Ends (fun n => Rm Calls.all n withSocket.root [[97]]) (false, withSocket.root) := by
    refine ⟨3, ?_⟩
    intro n hn
    obtain ⟨n, rfl⟩ := Nat.exists_eq_add_of_le' hn
    rfl
  refine ⟨hends, ?_⟩
  intro hclears
  have heq := hends.unique hclears.rm
  cases congrArg Prod.fst heq

end MNSER
