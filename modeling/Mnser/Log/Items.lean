import Mnser.Log.Model
import Mnser.Yaml.Node

/-! # Log items as YAML

    `LexicalCast` between `LogItem` and `std::string`.  The encoder writes the
    level and the formatter of the logger into every appender, and the decoder
    does not read the level of an appender. -/

namespace MNSER

namespace Log

open YAML

/-! ## Section 1: Encoder and decoder -/

namespace Level

/-- `LogLevel::ToString` -/
def ToString : Level → Str
  | DEBUG => str "DEBUG"
  | INFO  => str "INFO"
  | WARN  => str "WARN"
  | ERROR => str "ERROR"
  | FATAL => str "FATAL"
  | _     => str "UNKNOWN"

/-- `LogLevel::FromString` -/
def FromString (s : Str) : Level :=
  if s = str "debug" then DEBUG
  else if s = str "info" then INFO
  else if s = str "warn" then WARN
  else if s = str "error" then ERROR
  else if s = str "fatal" then FATAL
  else if s = str "DEBUG" then DEBUG
  else if s = str "INFO" then INFO
  else if s = str "WARN" then WARN
  else if s = str "ERROR" then ERROR
  else if s = str "FATAL" then FATAL
  else UNKNOWN

theorem fromString_toString {level : Level} (h : level ≠ INVALID) :
    FromString level.ToString = level := by
  cases level <;> first | rfl | exact absurd rfl h

end Level

/-- `node["level"]`, when there is something to tell. -/
def setLevel (level : Level) (entries : List (Node × Node)) : List (Node × Node) :=
  if level ≠ .UNKNOWN ∧ level ≠ .INVALID then set entries (str "level") (.scalar level.ToString)
  else entries

def setFormatter (formatter : Str) (entries : List (Node × Node)) : List (Node × Node) :=
  if formatter ≠ [] then set entries (str "formatter") (.scalar formatter) else entries

namespace LogItem

/-- The node of an appender; both settings are `from`'s. -/
def appenderNode (from_ : LogItem) (it : LogAppenderItem) : Option Node :=
  let n : Option (List (Node × Node)) :=
    if it.type = LogAppenderItemType_FILE then
      some (set (set [] (str "type") (.scalar (str "FileLogAppender"))) (str "file") (.scalar it.file))
    else if it.type = LogAppenderItemType_STDOUT then
      some (set [] (str "type") (.scalar (str "StdoutLogAppender")))
    else none
  n.map fun n => Node.ofEntries (setFormatter from_.formatter (setLevel from_.level n))

def toNode (from_ : LogItem) : Node :=
  let node := set [] (str "name") (.scalar from_.name)
  let node := setFormatter from_.formatter (setLevel from_.level node)
  Node.ofEntries (from_.appenders.foldl (fun node it =>
    match from_.appenderNode it with
    | some n => push node (str "appenders") n
    | none => node) node)

/-- `LexicalCast<LogItem, std::string>` -/
def toString (yaml : Yaml) (from_ : LogItem) : Str := yaml.emit from_.toNode

end LogItem

/-- `node[key].IsDefined() ? node[key].as<std::string>() : ""` -/
def stringIfDefined (yaml : Yaml) (node : Option Node) (key : Str) : Option Str :=
  (subscript node key).bind fun
    | none => some []
    | some n => asString yaml (some n)

/-- The part of a round of the decoder's loop that sets type and file; `some none`
    is `continue`. -/
def decodeType (yaml : Yaml) (ap : Option Node) : Option (Option LogAppenderItem) :=
  (subscript ap (str "type")).bind fun
    | none => some none
    | some n => (asString yaml (some n)).bind fun type =>
      if type = str "FileLogAppender" then
        (subscript ap (str "file")).bind fun
          | none => some none
          | some n => (asString yaml (some n)).map fun file =>
            some { type := LogAppenderItemType_FILE, file := file }
      else if type = str "StdoutLogAppender" then
        some (some { type := LogAppenderItemType_STDOUT })
      else some none

/-- A round of the decoder's loop. -/
def decodeAppender (yaml : Yaml) (ap : Option Node) : Option (Option LogAppenderItem) :=
  (decodeType yaml ap).bind fun
    | none => some none
    | some lai => (stringIfDefined yaml ap (str "formatter")).map fun formatter =>
      some { lai with formatter := formatter }

namespace LogItem

def ofNode (yaml : Yaml) (node : Node) : Option LogItem :=
  (subscript (some node) (str "name")).bind fun
    | none => none
    | some n => do
      let name ← asString yaml (some n)
      let level ← stringIfDefined yaml (some node) (str "level")
      let formatter ← stringIfDefined yaml (some node) (str "formatter")
      let aps ← subscript (some node) (str "appenders")
      let appenders ← (elements yaml aps).mapM (decodeAppender yaml)
      return { name := name, level := .FromString level, formatter := formatter,
               appenders := appenders.filterMap id }

/-- `LexicalCast<std::string, LogItem>`; `none` when it throws. -/
def fromString (yaml : Yaml) (from_ : Str) : Option LogItem :=
  (yaml.Load from_).bind (ofNode yaml)

end LogItem

/-! ## Section 2: What is read back -/

theorem find_setLevel_ne {key : Str} (hne : key ≠ str "level") (level : Level)
    (entries : List (Node × Node)) : find key (setLevel level entries) = find key entries := by
  unfold setLevel
  split
  · exact find_set_ne hne entries _
  · rfl

theorem find_setFormatter_ne {key : Str} (hne : key ≠ str "formatter") (formatter : Str)
    (entries : List (Node × Node)) :
    find key (setFormatter formatter entries) = find key entries := by
  unfold setFormatter
  split
  · exact find_set_ne hne entries _
  · rfl

/-- A formatter is read back, also one that is left out. -/
theorem stringIfDefined_formatter (yaml : Yaml) {entries : List (Node × Node)} {formatter : Str}
    (h : find (str "formatter") entries =
      find (str "formatter") (setFormatter formatter []) ) :
    stringIfDefined yaml (some (Node.ofEntries entries)) (str "formatter") = some formatter := by
  rw [stringIfDefined, subscript_ofEntries, h, Option.bind_some, setFormatter]
  by_cases hempty : formatter = []
  · rw [if_neg (not_not.mpr hempty), hempty]
    rfl
  · rw [if_pos hempty, find_set_self]
    rfl

theorem stringIfDefined_level (yaml : Yaml) {entries : List (Node × Node)} {level : Level}
    (hlevel : level ≠ .INVALID)
    (h : find (str "level") entries = find (str "level") (setLevel level [])) :
    (stringIfDefined yaml (some (Node.ofEntries entries)) (str "level")).map Level.FromString =
      some level := by
  rw [stringIfDefined, subscript_ofEntries, h, Option.bind_some, setLevel]
  by_cases hknown : level ≠ .UNKNOWN ∧ level ≠ .INVALID
  · rw [if_pos hknown, find_set_self]
    exact congrArg some (Level.fromString_toString hlevel)
  · rw [if_neg hknown, not_not.mp fun hne => hknown ⟨hne, hlevel⟩]
    rfl

/-- A file with a name, or the standard output. -/
def LogAppenderItem.Listed (a : LogAppenderItem) : Prop :=
  a.type = LogAppenderItemType_FILE ∧ a.file ≠ [] ∨
    a.type = LogAppenderItemType_STDOUT ∧ a.file = []

instance (a : LogAppenderItem) : Decidable a.Listed := inferInstanceAs (Decidable (_ ∨ _))

/-- An appender comes back without its level and with the formatter of the logger. -/
theorem decode_appenderNode (yaml : Yaml) (x : LogItem) {a : LogAppenderItem} (ha : a.Listed) :
    ∃ n, x.appenderNode a = some n ∧ decodeAppender yaml (some n) =
      some (some { a with level := .UNKNOWN, formatter := x.formatter }) := by
  have hsettings : ∀ entries : List (Node × Node), find (str "formatter") entries = none →
      find (str "formatter") (setFormatter x.formatter (setLevel x.level entries)) =
        find (str "formatter") (setFormatter x.formatter []) := by
    intro entries hentries
    unfold setFormatter
    split
    · rw [find_set_self, find_set_self]
    · rw [find_setLevel_ne (by decide), hentries]
      rfl
  have hother : ∀ {key : Str} (entries : List (Node × Node)), key ≠ str "formatter" →
      key ≠ str "level" →
      subscript (some (Node.ofEntries (setFormatter x.formatter (setLevel x.level entries)))) key =
        some (find key entries) := by
    intro key entries hformatter hlevel
    rw [subscript_ofEntries, find_setFormatter_ne hformatter, find_setLevel_ne hlevel]
  obtain ⟨type, level, formatter, file⟩ := a
  rcases ha with ⟨htype, _⟩ | ⟨htype, hfile⟩
  · obtain rfl : type = LogAppenderItemType_FILE := htype
    refine ⟨_, rfl, ?_⟩
    have hformatter := stringIfDefined_formatter yaml (hsettings (set (set [] (str "type")
      (.scalar (str "FileLogAppender"))) (str "file") (.scalar file)) rfl)
    unfold decodeAppender decodeType
    rw [hother _ (by decide) (by decide), hother _ (by decide) (by decide), hformatter]
    rfl
  · obtain rfl : type = LogAppenderItemType_STDOUT := htype
    obtain rfl : file = [] := hfile
    refine ⟨_, rfl, ?_⟩
    have hformatter := stringIfDefined_formatter yaml (hsettings (set [] (str "type")
      (.scalar (str "StdoutLogAppender"))) rfl)
    unfold decodeAppender decodeType
    rw [hother _ (by decide) (by decide), hother _ (by decide) (by decide), hformatter]
    rfl

theorem decode_appenders (yaml : Yaml) (x : LogItem) :
    ∀ {as : List LogAppenderItem}, (∀ a ∈ as, a.Listed) →
      ((as.filterMap x.appenderNode).map some).mapM (decodeAppender yaml) =
          some (as.map fun a => some { a with level := .UNKNOWN, formatter := x.formatter }) ∧
        (as.filterMap x.appenderNode = [] ↔ as = []) := by
  intro as
  induction as with
  | nil => exact fun _ => ⟨rfl, iff_of_true rfl rfl⟩
  | cons a as ih =>
    intro h
    obtain ⟨n, hnode, hdecode⟩ := decode_appenderNode yaml x (h a List.mem_cons_self)
    obtain ⟨hrest, _⟩ := ih fun b hb => h b (List.mem_cons_of_mem _ hb)
    rw [List.filterMap_cons_some hnode]
    refine ⟨?_, iff_of_false (List.cons_ne_nil _ _) (List.cons_ne_nil _ _)⟩
    rw [List.map_cons, List.mapM_cons, hdecode, hrest]
    rfl

/-- What the decoder makes of the node that the encoder builds. -/
theorem ofNode_toNode (yaml : Yaml) {x : LogItem} (hlevel : x.level ≠ .INVALID)
    (hlisted : ∀ a ∈ x.appenders, a.Listed) :
    LogItem.ofNode yaml x.toNode = some { x with
      appenders := x.appenders.map fun a =>
        { a with level := .UNKNOWN, formatter := x.formatter } } := by
  obtain ⟨hdecode, hnil⟩ := decode_appenders yaml x hlisted
  have hnode : x.toNode = Node.ofEntries ((x.appenders.filterMap x.appenderNode).foldl
      (fun node v => push node (str "appenders") v)
      (setFormatter x.formatter (setLevel x.level (set [] (str "name") (.scalar x.name))))) := by
    rw [List.foldl_filterMap, LogItem.toNode]
    congr 2
    funext node it
    cases x.appenderNode it <;> rfl
  have hother : ∀ {key : Str}, key ≠ str "appenders" →
      find key ((x.appenders.filterMap x.appenderNode).foldl
        (fun node v => push node (str "appenders") v)
        (setFormatter x.formatter (setLevel x.level (set [] (str "name") (.scalar x.name))))) =
      find key (setFormatter x.formatter (setLevel x.level (set [] (str "name") (.scalar x.name)))) :=
    fun hne => find_foldl_push_ne hne _ _
  have happenders := find_foldl_push (str "appenders")
    (setFormatter x.formatter (setLevel x.level (set [] (str "name") (.scalar x.name))))
    (x.appenders.filterMap x.appenderNode)
    (by
      rw [find_setFormatter_ne (by decide), find_setLevel_ne (by decide), find_set_ne (by decide)]
      rfl)
  rw [hnode]
  generalize hentries : List.foldl (fun node v => push node (str "appenders") v)
    (setFormatter x.formatter (setLevel x.level (set [] (str "name") (.scalar x.name))))
    (x.appenders.filterMap x.appenderNode) = entries at hother happenders
  have hname : find (str "name") entries = some (.scalar x.name) := by
    rw [hother (by decide), find_setFormatter_ne (by decide), find_setLevel_ne (by decide),
      find_set_self]
  have hformatter : stringIfDefined yaml (some (Node.ofEntries entries)) (str "formatter") =
      some x.formatter := by
    refine stringIfDefined_formatter yaml ?_
    rw [hother (by decide)]
    unfold setFormatter
    split
    · rw [find_set_self, find_set_self]
    · rw [find_setLevel_ne (by decide), find_set_ne (by decide)]
  have hread : (stringIfDefined yaml (some (Node.ofEntries entries)) (str "level")).map
      Level.FromString = some x.level := by
    refine stringIfDefined_level yaml hlevel ?_
    rw [hother (by decide), find_setFormatter_ne (by decide)]
    unfold setLevel
    split
    · rw [find_set_self, find_set_self]
    · rw [find_set_ne (by decide)]
  obtain ⟨level, hstring, hfrom⟩ := Option.map_eq_some_iff.mp hread
  have hlist : (elements yaml (find (str "appenders") entries)).mapM (decodeAppender yaml) =
      some (x.appenders.map fun a =>
        some { a with level := .UNKNOWN, formatter := x.formatter }) := by
    rw [happenders]
    by_cases hempty : x.appenders.filterMap x.appenderNode = []
    · rw [if_pos hempty, hnil.mp hempty]
      rfl
    · rw [if_neg hempty, elements_sequence, hdecode]
  rw [LogItem.ofNode, subscript_ofEntries, hname, Option.bind_some, subscript_ofEntries, hformatter,
    hstring]
  simp only [asString_scalar, Option.bind_eq_bind, Option.bind_some, hlist, Option.pure_def, hfrom,
    List.filterMap_map, Function.comp_def, id_eq, List.filterMap_eq_map']

/-! ## Section 3: The round trip -/

theorem fromString_toString (yaml : Yaml) {x : LogItem} (hlevel : x.level ≠ .INVALID)
    (hlisted : ∀ a ∈ x.appenders, a.Listed)
    (hinverse : yaml.Load (yaml.emit x.toNode) = some x.toNode) :
    LogItem.fromString yaml (x.toString yaml) = some { x with
      appenders := x.appenders.map fun a =>
        { a with level := .UNKNOWN, formatter := x.formatter } } := by
  rw [LogItem.fromString, LogItem.toString, hinverse]
  exact ofNode_toNode yaml hlevel hlisted

/-- An item comes back exactly if no appender has a level of its own and each has
    the formatter of the logger. -/
theorem log_item_round_trip_iff (yaml : Yaml) {x : LogItem} (hlevel : x.level ≠ .INVALID)
    (hlisted : ∀ a ∈ x.appenders, a.Listed)
    (hinverse : yaml.Load (yaml.emit x.toNode) = some x.toNode) :
    LogItem.fromString yaml (x.toString yaml) = some x ↔
      ∀ a ∈ x.appenders, a.level = .UNKNOWN ∧ a.formatter = x.formatter := by
  rw [fromString_toString yaml hlevel hlisted hinverse]
  constructor
  · intro heq a ha
    have happenders := congrArg LogItem.appenders (Option.some.inj heq)
    have hsame := List.map_inj_left.mp (happenders.trans (List.map_id x.appenders).symm) a ha
    exact ⟨(congrArg LogAppenderItem.level hsame).symm,
      (congrArg LogAppenderItem.formatter hsame).symm⟩
  · intro h
    have hsame : (x.appenders.map fun a =>
        { a with level := .UNKNOWN, formatter := x.formatter }) = x.appenders.map id :=
      List.map_congr_left fun a ha => by rw [← (h a ha).1, ← (h a ha).2, id_eq]
    rw [hsame, List.map_id]

/-- yaml-cpp on one document. -/
def oneDocument (document : Str) (node : Node) : Yaml where
  emit _      := document
  Load t      := if t = document then some node else none
  encodeInt _ := []
  decodeInt _ := none
  nullText    := none

theorem oneDocument_inverse (document : Str) (node : Node) :
    (oneDocument document node).Load ((oneDocument document node).emit node) = some node :=
  if_pos rfl

/-- A logger with a formatter, and a file that says the same. -/
theorem log_item_round_trip_file :
    let x : LogItem := ⟨str "system", .INFO, [⟨LogAppenderItemType_FILE, .UNKNOWN, str "%m%n",
      str "a.log"⟩, ⟨LogAppenderItemType_STDOUT, .UNKNOWN, str "%m%n", []⟩], str "%m%n"⟩
    let yaml := oneDocument (str ("name: system\nlevel: INFO\nformatter: \"%m%n\"\nappenders:\n" ++
      "  - type: FileLogAppender\n    file: a.log\n    level: INFO\n    formatter: \"%m%n\"\n" ++
      "  - type: StdoutLogAppender\n    level: INFO\n    formatter: \"%m%n\"")) x.toNode
    LogItem.fromString yaml (x.toString yaml) = some x :=
  (log_item_round_trip_iff _ (by decide) (by decide) (oneDocument_inverse _ _)).mpr (by decide)

/-- The level and the formatter of an appender are lost. -/
theorem log_item_settings_lost :
    let x : LogItem := ⟨str "system", .INFO, [⟨LogAppenderItemType_FILE, .ERROR, str "%m%n",
      str "a.log"⟩], []⟩
    let yaml := oneDocument (str ("name: system\nlevel: INFO\nappenders:\n" ++
      "  - type: FileLogAppender\n    file: a.log\n    level: INFO")) x.toNode
    yaml.Load (yaml.emit x.toNode) = some x.toNode ∧
    LogItem.fromString yaml (x.toString yaml) = some ⟨str "system", .INFO,
      [⟨LogAppenderItemType_FILE, .UNKNOWN, [], str "a.log"⟩], []⟩ ∧
    LogItem.fromString yaml (x.toString yaml) ≠ some x := by
  intro x yaml
  have hlevel : x.level ≠ .INVALID := by decide
  have hlisted : ∀ a ∈ x.appenders, a.Listed := by decide
  have hinverse := oneDocument_inverse (str ("name: system\nlevel: INFO\nappenders:\n" ++
    "  - type: FileLogAppender\n    file: a.log\n    level: INFO")) x.toNode
  have hback := fromString_toString yaml hlevel hlisted hinverse
  refine ⟨hinverse, hback, fun heq => ?_⟩
  have hlevels := congrArg (fun i => i.map fun i => i.appenders.map LogAppenderItem.level)
    (hback.symm.trans heq)
  exact absurd hlevels (by decide)

end Log

end MNSER
