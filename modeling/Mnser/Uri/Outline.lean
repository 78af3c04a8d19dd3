import Mnser.Uri.Classes
import Mnser.Uri.Model

/-! # What the URI scanner keeps track of

    The hundreds of states of the scanner only differ in what they accept.
    The actions are told by the part of the text that a state is in: this is
    the state's phase, and the outline moves from phase to phase. -/

namespace MNSER

namespace UriParser

open Http (Bytes)
open Ranges Scanner UriParser.Action

/-! ## Section 1: Phases -/

/-- `uri` tells a URI from a relative reference, in front of an authority. -/
inductive Phase where
  | start
  /-- a scheme, or the first segment of a path -/
  | scheme
  | segment
  /-- a path that is not saved -/
  | path
  | savedPath
  /-- one slash at the start of the text -/
  | slash
  | afterScheme
  | schemeSlash
  | query0
  | query
  | fragment0
  | fragment
  | authority (uri : Bool)
  /-- user information or a host -/
  | name (uri : Bool)
  /-- behind the first colon, and a port or user information -/
  | colon (uri : Bool)
  | digits (uri : Bool)
  | userinfo (uri : Bool)
  /-- behind `@` -/
  | host0 (uri : Bool)
  | host (uri : Bool)
  | literal (uri : Bool)
  | bracket (uri : Bool)
  | port0 (uri : Bool)
  | port (uri : Bool)
  deriving DecidableEq

/-- The end of an authority: what is open is saved, and `fresh` if it is empty. -/
def leaves (uri fresh : Bool) (save : Action) (slash : Bool) : List Action :=
  if fresh then markh :: save :: (if uri && !slash then [save_path] else [])
  else save :: (if uri then (if slash then [markh] else [markh, save_path]) else [])

abbrev Move : Type := Option (Phase × List Action)

def goes (t : Phase) (acts : List Action) : Move := some (t, acts)

/-- Where the bytes of a phase lead to; `none` where no state of it goes on. -/
def outline : Phase → Row Move
  | .start => rowFrom (goes .segment []) 0
      [(35, 35, goes .fragment0 []), (47, 47, goes .slash []), (58, 58, none),
       (63, 63, goes .query0 []), (65, 90, goes .scheme [marku]),
       (97, 122, goes .scheme [marku])]
  | .scheme => rowFrom (goes .segment []) 0
      [(35, 35, goes .fragment0 []), (43, 43, goes .scheme []), (45, 46, goes .scheme []),
       (47, 47, goes .path []), (48, 57, goes .scheme []),
       (58, 58, goes .afterScheme [save_scheme]), (63, 63, goes .query0 []),
       (65, 90, goes .scheme []), (97, 122, goes .scheme [])]
  | .segment => rowFrom (goes .segment []) 0
      [(35, 35, goes .fragment0 []), (47, 47, goes .path []), (58, 58, none),
       (63, 63, goes .query0 [])]
  | .path => rowFrom (goes .path []) 0 [(35, 35, goes .fragment0 []), (63, 63, goes .query0 [])]
  | .savedPath => rowFrom (goes .savedPath []) 0
      [(35, 35, goes .fragment0 [save_path]), (63, 63, goes .query0 [save_path])]
  | .slash => rowFrom (goes .path []) 0
      [(35, 35, goes .fragment0 []), (47, 47, goes (.authority false) []),
       (63, 63, goes .query0 [])]
  | .afterScheme => rowFrom (goes .path []) 0
      [(35, 35, goes .fragment0 []), (47, 47, goes .schemeSlash []), (63, 63, goes .query0 [])]
  -- a second slash begins the authority of a URI
  | .schemeSlash => rowFrom (goes .path []) 0
      [(35, 35, goes .fragment0 []), (47, 47, goes (.authority true) []), (63, 63, goes .query0 [])]
  | .query0 => rowFrom (goes .query [marku]) 0 [(35, 35, goes .fragment0 [marku, save_query])]
  | .query => rowFrom (goes .query []) 0 [(35, 35, goes .fragment0 [save_query])]
  | .fragment0 => rowFrom (goes .fragment [marku]) 0 []
  | .fragment => rowFrom (goes .fragment []) 0 []
  | .authority uri => rowFrom (goes (.name uri) [markh]) 0
      [(2, 2, goes (.host uri) [markh]),
       (35, 35, goes .fragment0 (leaves uri true save_host false)),
       (47, 47, goes (if uri then .savedPath else .path) (leaves uri true save_host true)),
       (58, 58, goes (.colon uri) [markh, save_host]),
       (63, 63, goes .query0 (leaves uri true save_host false)),
       (64, 64, goes (.host0 uri) [markh, save_userinfo]), (91, 91, goes (.literal uri) [markh]),
       (93, 93, none)]
  | .name uri => rowFrom (goes (.name uri) []) 0
      [(2, 2, goes (.host uri) []),
       (35, 35, goes .fragment0 (leaves uri false save_host false)),
       (47, 47, goes (if uri then .savedPath else .path) (leaves uri false save_host true)),
       (58, 58, goes (.colon uri) [save_host]),
       (63, 63, goes .query0 (leaves uri false save_host false)),
       (64, 64, goes (.host0 uri) [save_userinfo]), (91, 91, none), (93, 93, none)]
  | .colon uri => rowFrom (goes (.userinfo uri) []) 0
      [(35, 35, goes .fragment0 (leaves uri true save_port false)),
       (47, 47, goes (if uri then .savedPath else .path) (leaves uri true save_port true)),
       (48, 57, goes (.digits uri) [markh]),
       (63, 63, goes .query0 (leaves uri true save_port false)),
       (64, 64, goes (.host0 uri) [save_userinfo])]
  | .digits uri => rowFrom (goes (.userinfo uri) []) 0
      [(35, 35, goes .fragment0 (leaves uri false save_port false)),
       (47, 47, goes (if uri then .savedPath else .path) (leaves uri false save_port true)),
       (48, 57, goes (.digits uri) []),
       (63, 63, goes .query0 (leaves uri false save_port false)),
       (64, 64, goes (.host0 uri) [save_userinfo])]
  | .userinfo uri => rowFrom (goes (.userinfo uri) []) 0
      [(35, 35, none), (47, 47, none), (63, 63, none), (64, 64, goes (.host0 uri) [save_userinfo])]
  | .host0 uri => rowFrom (goes (.host uri) [markh]) 0
      [(35, 35, goes .fragment0 (leaves uri true save_host false)),
       (47, 47, goes (if uri then .savedPath else .path) (leaves uri true save_host true)),
       (58, 58, goes (.port0 uri) [markh, save_host]),
       (63, 63, goes .query0 (leaves uri true save_host false)), (64, 64, none),
       (91, 91, goes (.literal uri) [markh]), (93, 93, none)]
  | .host uri => rowFrom (goes (.host uri) []) 0
      [(35, 35, goes .fragment0 (leaves uri false save_host false)),
       (47, 47, goes (if uri then .savedPath else .path) (leaves uri false save_host true)),
       (58, 58, goes (.port0 uri) [save_host]),
       (63, 63, goes .query0 (leaves uri false save_host false)), (64, 64, none), (91, 91, none),
       (93, 93, none)]
  | .literal uri => rowFrom (goes (.literal uri) []) 0
      [(35, 35, none), (47, 47, none), (63, 64, none), (91, 91, none),
       (93, 93, goes (.bracket uri) [])]
  | .bracket uri => rowFrom none 0
      [(35, 35, goes .fragment0 (leaves uri false save_host false)),
       (47, 47, goes (if uri then .savedPath else .path) (leaves uri false save_host true)),
       (58, 58, goes (.port0 uri) [save_host]),
       (63, 63, goes .query0 (leaves uri false save_host false))]
  | .port0 uri => rowFrom none 0
      [(35, 35, goes .fragment0 (leaves uri true save_port false)),
       (47, 47, goes (if uri then .savedPath else .path) (leaves uri true save_port true)),
       (48, 57, goes (.port uri) [markh]),
       (63, 63, goes .query0 (leaves uri true save_port false))]
  | .port uri => rowFrom none 0
      [(35, 35, goes .fragment0 (leaves uri false save_port false)),
       (47, 47, goes (if uri then .savedPath else .path) (leaves uri false save_port true)),
       (48, 57, goes (.port uri) []),
       (63, 63, goes .query0 (leaves uri false save_port false))]

def move (ph : Phase) (c : UInt8) : Move := (entryAt (outline ph) c.toNat).join

/-- The actions of a phase where the text ends. -/
def ending : Phase → List Action
  | .savedPath => [save_path]
  | .query0 => [marku, save_query]
  | .query => [save_query]
  | .fragment0 => [marku, save_fragment]
  | .fragment => [save_fragment]
  | .authority uri => leaves uri true save_host false
  | .name uri => leaves uri false save_host false
  | .host0 uri => leaves uri true save_host false
  | .host uri => leaves uri false save_host false
  | .bracket uri => leaves uri false save_host false
  | .colon uri => leaves uri true save_port false
  | .digits uri => leaves uri false save_port false
  | .port0 uri => leaves uri true save_port false
  | .port uri => leaves uri false save_port false
  | _ => []

/-! ## Section 2: The states of the phases -/

/-- One state is the end of a host in two ways. -/
def states : Phase → StateClass
  | .start => [(451, 451)]
  | .scheme => [(508, 508)]
  | .segment => [(3, 4), (452, 452)]
  | .path => [(5, 6), (455, 455)]
  | .savedPath => [(243, 244), (513, 513)]
  | .slash => [(458, 458)]
  | .afterScheme => [(509, 509)]
  | .schemeSlash => [(510, 510)]
  | .query0 => [(456, 456)]
  | .query => [(7, 8), (457, 457)]
  | .fragment0 => [(453, 453)]
  | .fragment => [(1, 2), (454, 454)]
  | .authority false => [(459, 459)]
  | .name false => [(31, 32), (467, 467), (490, 507)]
  | .colon false => [(468, 468)]
  | .digits false => [(489, 489)]
  | .userinfo false => [(33, 35)]
  | .host0 false => [(469, 469)]
  | .host false => [(9, 30), (36, 37), (460, 460), (463, 466), (470, 488)]
  | .literal false => [(38, 228)]
  | .bracket false => [(460, 460)]
  | .port0 false => [(461, 461)]
  | .port false => [(462, 462)]
  | .authority true => [(511, 511)]
  | .name true => [(253, 254), (520, 520), (543, 560)]
  | .colon true => [(521, 521)]
  | .digits true => [(542, 542)]
  | .userinfo true => [(255, 257)]
  | .host0 true => [(522, 522)]
  | .host true => [(229, 242), (245, 252), (258, 259), (512, 512), (516, 519), (523, 541)]
  | .literal true => [(260, 450)]
  | .bracket true => [(512, 512)]
  | .port0 true => [(514, 514)]
  | .port true => [(515, 515)]

/-- The transitions of a phase do what the outline says. -/
def outlined (ph : Phase) : Bool :=
  checkRows (states ph) fun lo hi t acts => onClass (outline ph) [(lo, hi)] fun _ _ m =>
    match m with
    | none => false
    | some (ph', acts') => acts' == acts && among (states ph') t

/-- Found by going through the rows of the table. -/
theorem phase_outlined (ph : Phase) : outlined ph = true := by
  cases ph <;> first
    | decide +kernel
    | (rename_i uri; cases uri <;> decide +kernel)

/-- No text ends in the middle of user information or of an IP literal. -/
def Phase.final : Phase → Bool
  | .userinfo _ => false
  | .literal _ => false
  | _ => true

/-- Where a text ends, the actions are those of the phase. -/
def ends (ph : Phase) : Bool :=
  (states ph).all fun i => (List.range' i.1 (i.2 + 1 - i.1)).all fun s =>
    Nat.blt s 451 || (Nat.blt s 561 && ph.final && eofActions s == ending ph)

theorem phase_ends (ph : Phase) : ends ph = true := by
  cases ph <;> first
    | decide +kernel
    | (rename_i uri; cases uri <;> decide +kernel)

/-- The final states and their actions at the end of a text. -/
theorem ends_of_final {s : Nat} {ph : Phase} (hph : among (states ph) s = true)
    (hfinal : uri_parser_first_final ≤ s) :
    s < 561 ∧ ph.final = true ∧ eofActions s = ending ph := by
  obtain ⟨i, hi, hrange⟩ := List.any_eq_true.mp hph
  rw [Bool.and_eq_true, Nat.ble_eq, Nat.ble_eq] at hrange
  have hs := List.all_eq_true.mp (List.all_eq_true.mp (phase_ends ph) i hi) s
    (List.mem_range'_1.mpr (by omega))
  rw [Bool.or_eq_true, Nat.blt_eq, Bool.and_eq_true, Bool.and_eq_true, Nat.blt_eq, beq_iff_eq] at hs
  unfold uri_parser_first_final at hfinal
  obtain ⟨⟨hlt, hphase⟩, hacts⟩ := hs.resolve_left (by omega)
  exact ⟨hlt, hphase, hacts⟩

/-- The outline makes every step of the scanner, with the same actions. -/
theorem step_outline {s t : Nat} {ph : Phase} {c : UInt8} {acts : List Action}
    (hph : among (states ph) s = true) (hstep : step s c = .next t acts) :
    ∃ ph', move ph c = some (ph', acts) ∧ among (states ph') t = true := by
  obtain ⟨lo, hi, hlo, hhi, hgoes⟩ := checkRows_step (phase_outlined ph) hph hstep
  have hc : ByteClass.has [(lo, hi)] c = true := by simp [ByteClass.has, hlo, hhi]
  obtain ⟨_, _, m, _, _, hm, hgoes⟩ := onClass_entry hgoes hc
  -- the check of the table has excluded that the phase has no such move
  cases m with
  | none => cases hgoes
  | some m =>
    obtain ⟨ph', acts'⟩ := m
    simp only [Bool.and_eq_true, beq_iff_eq] at hgoes
    obtain ⟨rfl, hph'⟩ := hgoes
    exact ⟨ph', by rw [move, hm]; rfl, hph'⟩

/-! ## Section 3: A text from phase to phase -/

/-- The outline goes through a text. -/
def Follows : Phase → Bytes → Prop
  | ph, [] => ph.final = true
  | ph, c :: cs => ∃ t acts, move ph c = some (t, acts) ∧ Follows t cs

/-- The actions on the way through a text and at its end. -/
def runFrom (s : Bytes) : Phase → Nat → Data → Bytes → Option Data
  | ph, p, d, [] => performs s p (ending ph) d
  | ph, p, d, c :: cs =>
    match move ph c with
    | none => none
    | some (t, acts) => (performs s p acts d).bind fun d => runFrom s t (p + 1) d cs

/-- The scanner goes through a text and ends in a final state. -/
def Accepts (s : Nat) (xs : Bytes) : Prop :=
  ∃ t, walk step s xs = some t ∧ uri_parser_first_final ≤ t

/-- The first byte of an accepted text. -/
theorem Accepts.cons {s : Nat} {c : UInt8} {cs : Bytes} (h : Accepts s (c :: cs)) :
    ∃ t acts, step s c = .next t acts ∧ Accepts t cs := by
  obtain ⟨u, hwalk, hfinal⟩ := h
  simp only [walk] at hwalk
  split at hwalk
  · rename_i t acts hstep
    exact ⟨t, acts, hstep, u, hwalk, hfinal⟩
  · cases hwalk

/-- The outline goes through every text that the scanner accepts. -/
theorem Accepts.follows {cs : Bytes} : ∀ {s : Nat} {ph : Phase}, Accepts s cs →
    among (states ph) s = true → Follows ph cs := by
  induction cs with
  | nil =>
    intro s ph h hph
    obtain ⟨t, hwalk, hfinal⟩ := h
    obtain rfl := Option.some.inj hwalk
    exact (ends_of_final hph hfinal).2.1
  | cons c cs ih =>
    intro s ph h hph
    obtain ⟨t, acts, hstep, hrest⟩ := h.cons
    obtain ⟨ph', hmove, hph'⟩ := step_outline hph hstep
    exact ⟨ph', acts, hmove, ih hrest hph'⟩

/-- What `Create` makes of a scan. -/
def created (s : Bytes) : Option (Scan Nat Data) → Created
  | none => .threw
  | some r =>
    if r.stopped then .nullptr
    else
      match performs s s.length (eofActions r.state) r.data with
      | none => .threw
      | some d =>
        if r.state = uri_parser_error then .nullptr
        else if uri_parser_first_final ≤ r.state then .uri d.2
        else .nullptr

/-- From any place of an accepted text on, with what has been stored so far. -/
theorem created_eq {s : Bytes} {cs : Bytes} : ∀ {p t : Nat} {ph : Phase} (d : Data),
    p + cs.length = s.length → Accepts t cs → among (states ph) t = true →
    created s (scan step (performs s) p t d cs) =
      match runFrom s ph p d cs with
      | none => .threw
      | some d => .uri d.2 := by
  induction cs with
  | nil =>
    intro p t ph d hp h hph
    obtain ⟨u, hwalk, hfinal⟩ := h
    obtain rfl := Option.some.inj hwalk
    -- the text ends in a final state, whose actions are the phase's
    obtain ⟨-, -, hend⟩ := ends_of_final hph hfinal
    have hne : t ≠ uri_parser_error := by
      unfold uri_parser_first_final at hfinal
      unfold uri_parser_error
      omega
    rw [List.length_nil, Nat.add_zero] at hp
    simp only [scan, created, runFrom, Bool.false_eq_true, if_false, hend, hp, if_neg hne,
      if_pos hfinal]
  | cons c cs ih =>
    intro p t ph d hp h hph
    obtain ⟨t', acts, hstep, hrest⟩ := h.cons
    obtain ⟨ph', hmove, hph'⟩ := step_outline hph hstep
    rw [List.length_cons] at hp
    simp only [scan, runFrom, hstep, hmove]
    cases hacts : performs s p acts d with
    | none => rfl
    | some d' => exact ih d' (by omega) hrest hph'

/-- On an accepted text `Create` does what the outline does. -/
theorem Create_eq {s : Bytes} (h : Accepts uri_parser_start s) :
    Uri.Create s =
      match runFrom s .start 0 (none, Uri.new) s with
      | none => .threw
      | some d => .uri d.2 :=
  created_eq (none, Uri.new) (Nat.zero_add _) h rfl

/-- `Create` only returns an object for an accepted text. -/
theorem accepts_of_created {s : Bytes} {u : Uri} (h : Uri.Create s = .uri u) :
    Accepts uri_parser_start s := by
  unfold Uri.Create at h
  split at h
  · cases h
  · rename_i r hscan
    split at h
    · cases h
    · rename_i hstop
      split at h
      · cases h
      · split at h
        · cases h
        · split at h
          · rename_i hfinal
            exact ⟨r.state, scan_walk s hscan (by simpa using hstop), hfinal⟩
          · cases h

end UriParser

end MNSER
