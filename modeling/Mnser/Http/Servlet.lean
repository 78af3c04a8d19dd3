import Mnser.Framework.LastWord
import Mnser.Http.Message

/-! # Servlets

    `ServletDispatch` of `http_servlet.cpp`: a map of exact paths and a vector
    of glob patterns, which a registration leaves and is put at the end of
    again.  What is routed where is what the history of registrations says. -/

namespace MNSER

namespace Http

/-! ## Section 1: The dispatcher -/

-- servlets, and creators other than `HoldServletCreator`
variable {Servlet Other : Type}

/-- `IServletCreator`; `m_servlet` may be null. -/
inductive IServletCreator (Servlet Other : Type) where
  | HoldServletCreator (m_servlet : Option Servlet)
  | other (creator : Other)
  deriving DecidableEq, Repr

/-- `get()`; `make` is what it does for the other creators. -/
def IServletCreator.get (make : Other → Option Servlet) :
    IServletCreator Servlet Other → Option Servlet
  | .HoldServletCreator m_servlet => m_servlet
  | .other creator                => make creator

structure ServletDispatch (Servlet Other : Type) where
  m_datas   : Bytes → Option (IServletCreator Servlet Other)
  m_globs   : List (Bytes × IServletCreator Servlet Other)
  m_default : Option Servlet

namespace ServletDispatch

/-- `notFound` is the `NotFoundServlet`. -/
def new (notFound : Servlet) : ServletDispatch Servlet Other where
  m_datas   := fun _ => none
  m_globs   := []
  m_default := some notFound

/-- `m_datas[uri] = creator` -/
def addServletCreator (s : ServletDispatch Servlet Other) (uri : Bytes)
    (creator : IServletCreator Servlet Other) : ServletDispatch Servlet Other :=
  { s with m_datas := Function.update s.m_datas uri (some creator) }

def addServlet (s : ServletDispatch Servlet Other) (uri : Bytes) (slt : Option Servlet) :
    ServletDispatch Servlet Other :=
  s.addServletCreator uri (.HoldServletCreator slt)

def delServlet (s : ServletDispatch Servlet Other) (uri : Bytes) :
    ServletDispatch Servlet Other :=
  { s with m_datas := Function.update s.m_datas uri none }

/-- The loop that erases the first entry of `uri`. -/
def eraseGlob (globs : List (Bytes × IServletCreator Servlet Other)) (uri : Bytes) :
    List (Bytes × IServletCreator Servlet Other) :=
  globs.eraseP fun it => decide (it.1 = uri)

def delGlobServlet (s : ServletDispatch Servlet Other) (uri : Bytes) :
    ServletDispatch Servlet Other :=
  { s with m_globs := eraseGlob s.m_globs uri }

def addGlobServletCreator (s : ServletDispatch Servlet Other) (uri : Bytes)
    (creator : IServletCreator Servlet Other) : ServletDispatch Servlet Other :=
  { s with m_globs := eraseGlob s.m_globs uri ++ [(uri, creator)] }

def addGlobServlet (s : ServletDispatch Servlet Other) (uri : Bytes) (slt : Option Servlet) :
    ServletDispatch Servlet Other :=
  s.addGlobServletCreator uri (.HoldServletCreator slt)

def setDefault (s : ServletDispatch Servlet Other) (v : Option Servlet) :
    ServletDispatch Servlet Other :=
  { s with m_default := v }

def getServlet (make : Other → Option Servlet) (s : ServletDispatch Servlet Other) (uri : Bytes) :
    Option Servlet :=
  match s.m_datas uri with
  | none    => none
  | some it => it.get make

def getGlobServlet (make : Other → Option Servlet) (s : ServletDispatch Servlet Other)
    (uri : Bytes) : Option Servlet :=
  match s.m_globs.find? fun it => decide (it.1 = uri) with
  | none    => none
  | some it => it.2.get make

/-- `fnmatch pattern uri` tells whether `fnmatch` returns 0. -/
def getMatchedServlet (make : Other → Option Servlet) (fnmatch : Bytes → Bytes → Bool)
    (s : ServletDispatch Servlet Other) (uri : Bytes) : Option Servlet :=
  match s.m_datas uri with
  | some mit => mit.get make
  | none =>
    match s.m_globs.find? fun it => fnmatch it.1 uri with
    | some it => it.2.get make
    | none    => s.m_default

end ServletDispatch

/-- A call; the overloads that take a callback add a `FunctionServlet`. -/
inductive DispatchCall (Servlet Other : Type) where
  | addServlet (uri : Bytes) (slt : Option Servlet)
  | addServletCreator (uri : Bytes) (creator : IServletCreator Servlet Other)
  | delServlet (uri : Bytes)
  | addGlobServlet (uri : Bytes) (slt : Option Servlet)
  | addGlobServletCreator (uri : Bytes) (creator : IServletCreator Servlet Other)
  | delGlobServlet (uri : Bytes)
  | setDefault (v : Option Servlet)
  deriving DecidableEq, Repr

namespace ServletDispatch

def call (s : ServletDispatch Servlet Other) :
    DispatchCall Servlet Other → ServletDispatch Servlet Other
  | .addServlet uri slt                => s.addServlet uri slt
  | .addServletCreator uri creator     => s.addServletCreator uri creator
  | .delServlet uri                    => s.delServlet uri
  | .addGlobServlet uri slt            => s.addGlobServlet uri slt
  | .addGlobServletCreator uri creator => s.addGlobServletCreator uri creator
  | .delGlobServlet uri                => s.delGlobServlet uri
  | .setDefault v                      => s.setDefault v

/-- The dispatcher after some calls. -/
def after (notFound : Servlet) (calls : List (DispatchCall Servlet Other)) :
    ServletDispatch Servlet Other :=
  calls.foldl call (new notFound)

end ServletDispatch

/-! ## Section 2: What the calls say -/

namespace DispatchCall

open IServletCreator

/-- What a call says of an exact path. -/
def exact (uri : Bytes) :
    DispatchCall Servlet Other → Option (Option (IServletCreator Servlet Other))
  | .addServlet u slt            => if u = uri then some (some (HoldServletCreator slt)) else none
  | .addServletCreator u creator => if u = uri then some (some creator) else none
  | .delServlet u                => if u = uri then some none else none
  | _                            => none

/-- What a call says of a glob pattern. -/
def glob (uri : Bytes) :
    DispatchCall Servlet Other → Option (Option (IServletCreator Servlet Other))
  | .addGlobServlet u slt            =>
    if u = uri then some (some (HoldServletCreator slt)) else none
  | .addGlobServletCreator u creator => if u = uri then some (some creator) else none
  | .delGlobServlet u                => if u = uri then some none else none
  | _                                => none

/-- What a call says of the default. -/
def default? : DispatchCall Servlet Other → Option (Option Servlet)
  | .setDefault v => some v
  | _             => none

end DispatchCall

open DispatchCall LastWord

/-- Where a path is routed: its exact entry if it has one, else the pattern that
    matches and was registered first, else the default.  Pattern `k` was last
    registered by call `i`, with the creator `v`, if `Stands glob calls k i v`. -/
def Routed (make : Other → Option Servlet) (fnmatch : Bytes → Bytes → Bool) (notFound : Servlet)
    (calls : List (DispatchCall Servlet Other)) (path : Bytes) (result : Option Servlet) : Prop :=
  match last exact calls path with
  | some creator => result = creator.get make
  | none =>
    (∃ k i v, Stands glob calls k i v ∧ fnmatch k path = true ∧ result = v.get make ∧
      ∀ k' j w, Stands glob calls k' j w → fnmatch k' path = true → i ≤ j) ∨
    (∀ k i v, Stands glob calls k i v → fnmatch k path = false) ∧
      result = (calls.reverse.findSome? default?).getD (some notFound)

/-! ## Section 3: The dispatcher follows the history -/

namespace ServletDispatch

/-- The dispatcher has what the calls say. -/
structure Follows (notFound : Servlet) (calls : List (DispatchCall Servlet Other))
    (s : ServletDispatch Servlet Other) : Prop where
  datas   : ∀ uri, s.m_datas uri = last exact calls uri
  globs   : Lists glob calls s.m_globs
  default : s.m_default = (calls.reverse.findSome? default?).getD (some notFound)

/-- Nothing is registered at first. -/
theorem follows_new (notFound : Servlet) :
    Follows notFound [] (new notFound : ServletDispatch Servlet Other) where
  datas _ := rfl
  globs   := lists_nil glob
  default := rfl

/-- Erasing the first entry of a pattern erases the pattern. -/
theorem eraseGlob_eq {globs : List (Bytes × IServletCreator Servlet Other)}
    (h : (globs.map Prod.fst).Nodup) (uri : Bytes) :
    eraseGlob globs uri = globs.filter fun e => decide (e.1 ≠ uri) := by
  unfold eraseGlob
  induction globs with
  | nil => rfl
  | cons e es ih =>
    rw [List.map_cons, List.nodup_cons] at h
    by_cases he : e.1 = uri
    · rw [List.eraseP_cons_of_pos (by simpa using he), List.filter_cons_of_neg (by simpa using he)]
      refine (List.filter_eq_self.mpr fun x hx => ?_).symm
      refine decide_eq_true fun hx' => h.1 ?_
      rw [he, ← hx']
      exact List.mem_map_of_mem hx
    · rw [List.eraseP_cons_of_neg (by simpa using he), List.filter_cons_of_pos (by simpa using he),
        ih h.2]

/-- A call that leaves the exact entries alone. -/
theorem datas_quiet {calls : List (DispatchCall Servlet Other)}
    {datas : Bytes → Option (IServletCreator Servlet Other)}
    (h : ∀ uri, datas uri = last exact calls uri) {c : DispatchCall Servlet Other}
    (hquiet : ∀ uri, exact uri c = none) (uri : Bytes) :
    datas uri = last exact (calls ++ [c]) uri := by
  rw [last_snoc, hquiet, h]

/-- A call that speaks of one exact path. -/
theorem datas_update {calls : List (DispatchCall Servlet Other)}
    {datas : Bytes → Option (IServletCreator Servlet Other)}
    (h : ∀ uri, datas uri = last exact calls uri) {c : DispatchCall Servlet Other} {u : Bytes}
    {value : Option (IServletCreator Servlet Other)}
    (hword : ∀ uri, exact uri c = if u = uri then some value else none) (uri : Bytes) :
    Function.update datas u value uri = last exact (calls ++ [c]) uri := by
  rw [last_snoc, hword]
  by_cases huri : u = uri
  · subst huri
    rw [Function.update_self, if_pos rfl]
  · rw [Function.update_of_ne (Ne.symm huri), if_neg huri, h]

/-- A call about something else leaves the list of globs. -/
theorem globs_quiet {calls : List (DispatchCall Servlet Other)}
    {globs : List (Bytes × IServletCreator Servlet Other)} (h : Lists glob calls globs)
    {c : DispatchCall Servlet Other} (hquiet : ∀ uri, glob uri c = none) :
    Lists glob (calls ++ [c]) globs := by
  refine h.snoc none ?_ ?_
  · simp [hquiet]
  · simp [hquiet]

/-- A call that speaks of one pattern: it is erased, and put at the end. -/
theorem globs_update {calls : List (DispatchCall Servlet Other)}
    {globs : List (Bytes × IServletCreator Servlet Other)} (h : Lists glob calls globs)
    {c : DispatchCall Servlet Other} {u : Bytes} (value : Option (IServletCreator Servlet Other))
    (hword : ∀ uri, glob uri c = if u = uri then some value else none) :
    Lists glob (calls ++ [c]) (eraseGlob globs u ++ (value.map fun v => (u, v)).toList) := by
  refine h.snoc (value.map fun v => (u, v)) ?_ ?_
  · rw [eraseGlob_eq h.nodup]
    congr 1
    refine List.filter_congr fun e _ => ?_
    rw [hword]
    by_cases he : u = e.1
    · simp [he]
    · simp [he, Ne.symm he]
  · intro k v
    rw [hword]
    cases value with
    | none => by_cases hk : u = k <;> simp [hk]
    | some w => by_cases hk : u = k <;> simp [hk]

/-- And the default. -/
theorem default_quiet {notFound : Servlet} {calls : List (DispatchCall Servlet Other)}
    {d : Option Servlet} (h : d = (calls.reverse.findSome? default?).getD (some notFound))
    {c : DispatchCall Servlet Other} (hquiet : default? c = none) :
    d = ((calls ++ [c]).reverse.findSome? default?).getD (some notFound) := by
  rw [List.reverse_append, List.reverse_singleton, List.singleton_append, List.findSome?_cons,
    hquiet, h]

/-- What one call keeps. -/
theorem Follows.call {notFound : Servlet} {calls : List (DispatchCall Servlet Other)}
    {s : ServletDispatch Servlet Other} (h : Follows notFound calls s)
    (c : DispatchCall Servlet Other) : Follows notFound (calls ++ [c]) (s.call c) := by
  cases c with
  | addServlet uri slt =>
    exact ⟨datas_update h.datas fun _ => rfl, globs_quiet h.globs fun _ => rfl,
      default_quiet h.default rfl⟩
  | addServletCreator uri creator =>
    exact ⟨datas_update h.datas fun _ => rfl, globs_quiet h.globs fun _ => rfl,
      default_quiet h.default rfl⟩
  | delServlet uri =>
    exact ⟨datas_update h.datas fun _ => rfl, globs_quiet h.globs fun _ => rfl,
      default_quiet h.default rfl⟩
  | addGlobServlet uri slt =>
    exact ⟨datas_quiet h.datas fun _ => rfl,
      globs_update h.globs (some (.HoldServletCreator slt)) fun _ => rfl,
      default_quiet h.default rfl⟩
  | addGlobServletCreator uri creator =>
    exact ⟨datas_quiet h.datas fun _ => rfl,
      globs_update h.globs (some creator) fun _ => rfl, default_quiet h.default rfl⟩
  | delGlobServlet uri =>
    have hglobs := globs_update (c := .delGlobServlet uri) h.globs none fun _ => rfl
    rw [Option.map_none, Option.toList_none, List.append_nil] at hglobs
    exact ⟨datas_quiet h.datas fun _ => rfl, hglobs, default_quiet h.default rfl⟩
  | setDefault v =>
    refine ⟨datas_quiet h.datas fun _ => rfl, globs_quiet h.globs fun _ => rfl, ?_⟩
    rw [List.reverse_append, List.reverse_singleton, List.singleton_append, List.findSome?_cons]
    rfl

/-- The dispatcher follows the calls made on it. -/
theorem follows_after (notFound : Servlet) (calls : List (DispatchCall Servlet Other)) :
    Follows notFound calls (after notFound calls) := by
  induction calls using List.reverseRecOn with
  | nil => exact follows_new notFound
  | append_singleton calls c ih =>
    rw [after, List.foldl_append]
    exact ih.call c

/-- What a path is routed to. -/
theorem Follows.routed {notFound : Servlet} {calls : List (DispatchCall Servlet Other)}
    {s : ServletDispatch Servlet Other} (h : Follows notFound calls s)
    (make : Other → Option Servlet) (fnmatch : Bytes → Bytes → Bool) (path : Bytes) :
    Routed make fnmatch notFound calls path (s.getMatchedServlet make fnmatch path) := by
  unfold Routed getMatchedServlet
  rw [h.datas path]
  cases last exact calls path with
  | some creator => rfl
  | none =>
    cases hfind : s.m_globs.find? fun it => fnmatch it.1 path with
    | some it =>
      obtain ⟨hmatch, i, hi, hfirst⟩ :=
        h.globs.find (p := fun k => fnmatch k path) (k := it.1) (v := it.2) hfind
      exact Or.inl ⟨it.1, i, it.2, hi, hmatch, rfl, hfirst⟩
    | none =>
      refine Or.inr ⟨fun k i v hi => ?_, h.default⟩
      exact h.globs.find_none (p := fun k => fnmatch k path) hfind hi

end ServletDispatch

/-- After every sequence of calls no pattern is listed twice, the last add of a
    key gives its creator, and paths are routed as the history says. -/
theorem dispatch_follows_calls (make : Other → Option Servlet) (fnmatch : Bytes → Bytes → Bool)
    (notFound : Servlet) (calls : List (DispatchCall Servlet Other)) :
    let s := ServletDispatch.after notFound calls
    (s.m_globs.map Prod.fst).Nodup ∧
      (∀ uri, s.getServlet make uri = (last exact calls uri).bind fun c => c.get make) ∧
      (∀ uri, s.getGlobServlet make uri = (last glob calls uri).bind fun c => c.get make) ∧
      ∀ path, Routed make fnmatch notFound calls path (s.getMatchedServlet make fnmatch path) := by
  intro s
  have h := ServletDispatch.follows_after notFound calls
  refine ⟨h.globs.nodup, ?_, ?_, h.routed make fnmatch⟩
  · intro uri
    rw [ServletDispatch.getServlet, h.datas uri]
    cases last exact calls uri <;> rfl
  · intro uri
    rw [ServletDispatch.getGlobServlet, ← h.globs.find_key uri]
    cases (ServletDispatch.after notFound calls).m_globs.find? fun it => decide (it.1 = uri) <;> rfl

end Http

end MNSER
