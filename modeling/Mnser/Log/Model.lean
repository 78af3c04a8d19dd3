import Mathlib.Data.List.Basic
import Mathlib.Data.List.Forall2
import Mnser.Framework.OrderedSet

/-! # Loggers and the `logs` listener

    The listener that `LogInit` adds to the variable `logs`: from the old and
    the new set of `LogItem`s it brings the loggers of the `LoggerManager` in
    line with the new set.

    Appenders are shared pointers, and one appender can belong to several
    loggers.  The manager keeps all of them in one list; a pointer is a
    position in it, and every pointer a logger has is valid. -/

namespace MNSER

namespace Log

/-- `std::string` -/
abbrev Str : Type := List UInt8

def str (s : String) : Str := s.toList.map fun c => c.toNat.toUInt8

/-! ## Section 1: Patterns -/

/-- What `LogFormatter::init` finds in a pattern. -/
inductive Token where
  /-- text that is copied -/
  | text (s : Str)
  /-- `%name` or `%name{fmt}` -/
  | item (name fmt : Str)
  /-- `{` without `}` -/
  | error
  deriving DecidableEq, Repr

def isalpha (c : UInt8) : Bool := (65 ≤ c && c ≤ 90) || (97 ≤ c && c ≤ 122)

/-- `m_pattern.substr(start, j - start)` -/
def substr (m_pattern : Str) (start j : Nat) : Str := (m_pattern.drop start).take (j - start)

/-- The `while (j < n)` of `init`, for the `%` at `i`: the position it stops at
    and what it has found.  The list is the pattern from `j` on; `fmt_begin` is
    the position of the open brace when `fmt_status` is 1. -/
def directive (m_pattern : Str) (i : Nat) :
    Str → (j : Nat) → (fmt_begin : Option Nat) → (tstr : Str) → Nat × Token
  | [], j, none, tstr => (j, .item tstr [])
  | [], j, some _, _ => (j, .error)
  | c :: rest, j, none, tstr =>
    -- any other byte ends the directive
    if !isalpha c && c != 123 && c != 125 then (j, .item (substr m_pattern (i + 1) j) [])
    else if c = 123 then
      directive m_pattern i rest (j + 1) (some j) (substr m_pattern (i + 1) j)
    else
      directive m_pattern i rest (j + 1) none
        (if rest = [] ∧ tstr = [] then m_pattern.drop (i + 1) else tstr)
  | c :: rest, j, some b, tstr =>
    -- inside the braces only the closing one counts
    if c = 125 then (j + 1, .item tstr (substr m_pattern (b + 1) j))
    else
      directive m_pattern i rest (j + 1) (some b)
        (if rest = [] ∧ tstr = [] then m_pattern.drop (i + 1) else tstr)

/-- The `for` of `init` from position `i` on, without the joining of adjacent
    text; characters before `resume` are passed over. -/
def tokens (m_pattern : Str) : Str → (i resume : Nat) → List Token
  | [], _, _ => []
  | c :: rest, i, resume =>
    if i < resume then tokens m_pattern rest (i + 1) resume
    else if c ≠ 37 then .text [c] :: tokens m_pattern rest (i + 1) resume
    -- the second `%` is not passed over
    else if rest.head? = some 37 then .text [37] :: tokens m_pattern rest (i + 1) resume
    else
      match directive m_pattern i rest (i + 1) none [] with
      | (j, .item name fmt) => .item name fmt :: tokens m_pattern rest (i + 1) j
      | (_, token) => token :: tokens m_pattern rest (i + 1) resume

/-- The keys of `map_s_items`. -/
def map_s_items : List Str :=
  ["m", "p", "r", "c", "t", "n", "d", "f", "l", "T", "F", "N"].map str

structure LogFormatter where
  pattern : Str
  deriving DecidableEq, Repr

/-- `m_error` after `init` -/
def LogFormatter.isError (f : LogFormatter) : Bool :=
  (tokens f.pattern f.pattern 0 0).any fun
    | .text _ => false
    | .item name _ => !map_s_items.contains name
    | .error => true

def defaultPattern : Str :=
  str "%d\x7b%Y-%m-%d %H:%M:%S\x7d%T%t%T%N%T%F%T[%p]%T[%c]%T%f:%l%T%m%n"

example : LogFormatter.isError ⟨defaultPattern⟩ = false := by decide

/-! ## Section 2: Loggers -/

inductive Level where
  | UNKNOWN | DEBUG | INFO | WARN | ERROR | FATAL | INVALID
  deriving DecidableEq, Repr

inductive AppenderClass where
  | FileLogAppender (filename : Str)
  | StdoutLogAppender
  deriving DecidableEq, Repr

structure LogAppender where
  kind         : AppenderClass
  level        : Level := .DEBUG
  hasFormatter : Bool := false
  formatter    : Option LogFormatter := none
  deriving DecidableEq, Repr

def LogAppender.setFormatter (a : LogAppender) (val : LogFormatter) : LogAppender :=
  { a with formatter := some val, hasFormatter := true }

structure Logger where
  level     : Level := .DEBUG
  appenders : List Nat := []
  formatter : Option LogFormatter := some ⟨defaultPattern⟩
  deriving DecidableEq, Repr

structure LoggerManager where
  loggers   : Str → Option Logger
  /-- every appender made so far -/
  appenders : List LogAppender
  valid     : ∀ name l, loggers name = some l → ∀ p ∈ l.appenders, p < appenders.length

namespace LoggerManager

/-- `m_loggers[name]` is changed by `f`, which brings in valid pointers only. -/
def update (m : LoggerManager) (name : Str) (f : Logger → Logger)
    (hf : ∀ l, ∀ p ∈ (f l).appenders, p ∈ l.appenders ∨ p < m.appenders.length) :
    LoggerManager where
  loggers n := if n = name then (m.loggers n).map f else m.loggers n
  appenders := m.appenders
  valid n l hl p hp := by
    split at hl
    · obtain ⟨l', hl', rfl⟩ := Option.map_eq_some_iff.mp hl
      exact (hf l' p hp).elim (m.valid n l' hl' p) id
    · exact m.valid n l hl p hp

/-- The pointers of `m_appenders`, none when there is no such logger. -/
def pointers (m : LoggerManager) (name : Str) : List Nat :=
  (m.loggers name).elim [] Logger.appenders

/-- A change of the appenders themselves. -/
def rewrite (m : LoggerManager) (f : Nat → LogAppender → LogAppender) : LoggerManager where
  loggers := m.loggers
  appenders := m.appenders.mapIdx f
  valid n l hl p hp := by
    rw [List.length_mapIdx]
    exact m.valid n l hl p hp

/-- `new`; the pointer is the old length. -/
def alloc (m : LoggerManager) (a : LogAppender) : LoggerManager where
  loggers := m.loggers
  appenders := m.appenders ++ [a]
  valid n l hl p hp := by
    rw [List.length_append]
    exact Nat.lt_add_right _ (m.valid n l hl p hp)

/-- `getLogger`, with `_addLogger` -/
def getLogger (m : LoggerManager) (name : Str) : LoggerManager where
  loggers n := if n = name then some ((m.loggers n).getD {}) else m.loggers n
  appenders := m.appenders
  valid n l hl p hp := by
    split at hl
    · cases hm : m.loggers n with
      | none =>
        rw [hm] at hl
        obtain rfl := Option.some.inj hl
        cases hp
      | some l' =>
        rw [hm] at hl
        obtain rfl := Option.some.inj hl
        exact m.valid n l' hm p hp
    · exact m.valid n l hl p hp

def setLevel (m : LoggerManager) (name : Str) (level : Level) : LoggerManager :=
  m.update name (fun l => { l with level := level }) fun _ _ hp => .inl hp

def clearAppender (m : LoggerManager) (name : Str) : LoggerManager :=
  m.update name (fun l => { l with appenders := [] }) fun _ _ hp => by cases hp

/-- `Logger::setFormatter` changes the logger and each appender of it that
    has a formatter of its own. -/
def setFormatter (m : LoggerManager) (name : Str) (val : Str) : LoggerManager :=
  let new_formatter : LogFormatter := ⟨val⟩
  if new_formatter.isError then m
  else
    (m.update name (fun l => { l with formatter := some new_formatter })
      fun _ _ hp => .inl hp).rewrite fun p a =>
        if p ∈ m.pointers name ∧ a.hasFormatter = true then
          { a with formatter := some new_formatter } else a

/-- `Logger::addAppender`, for an appender that was just made. -/
def addAppender (m : LoggerManager) (name : Str) (a : LogAppender) : LoggerManager :=
  let formatter := if a.formatter = none then (m.loggers name).bind Logger.formatter else a.formatter
  (m.alloc { a with formatter := formatter }).update name
    (fun l => { l with appenders := l.appenders ++ [m.appenders.length] })
    fun l p hp => by
      rcases List.mem_append.mp hp with hp | hp
      · exact .inl hp
      · obtain rfl := List.mem_singleton.mp hp
        exact .inr (by simp [alloc])

/-- `LoggerManager::LoggerManager` -/
def initial : LoggerManager where
  loggers n := if n = str "root" then some { appenders := [0] } else none
  appenders := [{ kind := .StdoutLogAppender, formatter := some ⟨defaultPattern⟩ }]
  valid n l hl p hp := by
    split at hl
    · obtain rfl := Option.some.inj hl
      obtain rfl := List.mem_singleton.mp hp
      exact Nat.zero_lt_one
    · cases hl

end LoggerManager

/-! ## Section 3: The listener -/

def LogAppenderItemType_FILE : Int := 0
def LogAppenderItemType_STDOUT : Int := 1

structure LogAppenderItem where
  type      : Int := LogAppenderItemType_FILE
  level     : Level := .UNKNOWN
  formatter : Str := []
  file      : Str := []
  deriving DecidableEq, Repr

structure LogItem where
  name      : Str
  level     : Level := .UNKNOWN
  appenders : List LogAppenderItem := []
  formatter : Str := []
  deriving DecidableEq, Repr

/-- `operator<` -/
def LogItem.lt (a b : LogItem) : Bool := decide (a.name < b.name)

/-- `std::set<LogItem>` -/
structure LogItems where
  items  : List LogItem
  sorted : OrderedSet.Sorted LogItem.lt items

def LogItems.empty : LogItems := ⟨[], List.Pairwise.nil⟩

def LogItems.find (s : LogItems) (it : LogItem) : Option LogItem :=
  OrderedSet.find LogItem.lt it s.items

/-- The appender made for an item, before `addAppender`. -/
def LogAppenderItem.make (a : LogAppenderItem) : Option LogAppender :=
  let aPtr : Option LogAppender :=
    if a.type = LogAppenderItemType_FILE then some { kind := .FileLogAppender a.file }
    else if a.type = LogAppenderItemType_STDOUT then some { kind := .StdoutLogAppender }
    else none
  aPtr.map fun ap =>
    let ap := { ap with level := a.level }
    if a.formatter ≠ [] then
      let fmt : LogFormatter := ⟨a.formatter⟩
      if fmt.isError then ap else ap.setFormatter fmt
    else ap

namespace LoggerManager

/-- One round of the loop over `it.appenders`. -/
def addItem (name : Str) (m : LoggerManager) (a : LogAppenderItem) : LoggerManager :=
  match a.make with
  | none => m
  | some aPtr => m.addAppender name aPtr

/-- The changes made for an item that is new or has changed. -/
def apply (m : LoggerManager) (it : LogItem) : LoggerManager :=
  let m := (m.getLogger it.name).setLevel it.name it.level
  let m := if it.formatter ≠ [] then m.setFormatter it.name it.formatter else m
  it.appenders.foldl (addItem it.name) (m.clearAppender it.name)

/-- One round of the loop over `new_logs`. -/
def refresh (old_logs : LogItems) (m : LoggerManager) (it : LogItem) : LoggerManager :=
  match old_logs.find it with
  | none => m.apply it
  | some f => if f = it then m else m.apply it

/-- One round of the loop over `old_logs`. -/
def cleanup (new_logs : LogItems) (m : LoggerManager) (it : LogItem) : LoggerManager :=
  if new_logs.find it ≠ none then
    ((m.getLogger it.name).setLevel it.name .INVALID).clearAppender it.name
  else m

/-- The listener of `LogInit`. -/
def onLogsChange (m : LoggerManager) (old_logs new_logs : LogItems) : LoggerManager :=
  old_logs.items.foldl (cleanup new_logs) (new_logs.items.foldl (refresh old_logs) m)

end LoggerManager

end Log

end MNSER
