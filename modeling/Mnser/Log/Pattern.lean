import Mnser.Http.Dump
import Mnser.Log.Items

/-! # Formatter patterns

    `LogFormatter::init` and `format`, on the patterns that the class
    describes: plain characters, `%%`, and items with or without a text in
    braces.  For `%%` the scanner copies a percent sign and goes on at the second
    one, so that it is read again. -/

namespace MNSER

namespace Log

/-! ## Section 1: Items and output -/

/-- What the items of an event print. -/
structure LogEvent where
  name       : Str
  level      : Level
  file       : Str
  line       : Int
  elapse     : Nat
  threadId   : Int
  fiberId    : Int
  time       : Nat
  content    : Str
  threadName : Str

inductive ItemClass where
  | Message | Level | Elapse | Name | ThreadId | NewLine | DateTime | File | Line | Tab | FiberId
  | ThreadName
  deriving DecidableEq, Repr

/-- `map_s_items` with the classes. -/
def itemClasses : List (Str × ItemClass) :=
  [(str "m", .Message), (str "p", .Level), (str "r", .Elapse), (str "c", .Name),
   (str "t", .ThreadId), (str "n", .NewLine), (str "d", .DateTime), (str "f", .File),
   (str "l", .Line), (str "T", .Tab), (str "F", .FiberId), (str "N", .ThreadName)]

inductive FormatItem where
  | StringFormatItem (m_str : Str)
  | item (c : ItemClass) (fmt : Str)
  deriving DecidableEq, Repr

/-- `os << n` -/
def printInt (n : Int) : Str :=
  if n < 0 then 45 :: Http.decimal n.natAbs else Http.decimal n.natAbs

/-- What `strftime` writes for a format and a time, in the zone and language of
    the process. -/
abbrev Strftime : Type := Str → Nat → Str

namespace ItemClass

def format (strftime : Strftime) (event : LogEvent) (fmt : Str) : ItemClass → Str
  | Message    => event.content
  | Level      => event.level.ToString
  | Elapse     => Http.decimal event.elapse
  | Name       => event.name
  | ThreadId   => printInt event.threadId
  | NewLine    => [10]
  | DateTime   => strftime (if fmt = [] then str "%Y-%m-%d %H:%M:%S" else fmt) event.time
  | File       => event.file
  | Line       => printInt event.line
  | Tab        => [9]
  | FiberId    => printInt event.fiberId
  | ThreadName => event.threadName

end ItemClass

def FormatItem.format (strftime : Strftime) (event : LogEvent) : FormatItem → Str
  | StringFormatItem m_str => m_str
  | item c fmt => c.format strftime event fmt

/-- `vec`: text is flushed in front of an item and at the end, but not in front
    of an error. -/
def joinText : List Token → (s : Str) → List Token
  | [], s => if s = [] then [] else [.text s]
  | .text t :: ts, s => joinText ts (s ++ t)
  | .item name fmt :: ts, s => (if s = [] then [] else [.text s]) ++ .item name fmt :: joinText ts []
  | .error :: ts, s => .error :: joinText ts s

/-- The loop over `vec`. -/
def Token.formatItem : Token → FormatItem
  | .text s => .StringFormatItem s
  | .item name fmt =>
    match itemClasses.lookup name with
    | some c => .item c fmt
    | none => .StringFormatItem (str "<<error-format" ++ name ++ str ">>")
  | .error => .StringFormatItem (str "<<pattern-error>>")

namespace LogFormatter

def m_items (f : LogFormatter) : List FormatItem :=
  (joinText (tokens f.pattern f.pattern 0 0) []).map Token.formatItem

def format (strftime : Strftime) (event : LogEvent) (f : LogFormatter) : Str :=
  f.m_items.flatMap (FormatItem.format strftime event)

end LogFormatter

/-! ## Section 2: Patterns as they are described -/

inductive Element where
  | literal (c : UInt8)
  /-- `%%` -/
  | percent
  /-- `%x` or `%x{fmt}` -/
  | item (x : UInt8) (fmt : Option Str)
  deriving DecidableEq, Repr

namespace Element

def text : Element → Str
  | literal c => [c]
  | percent => [37, 37]
  | item x none => [37, x]
  | item x (some fmt) => 37 :: x :: 123 :: (fmt ++ [125])

def output (strftime : Strftime) (event : LogEvent) : Element → Str
  | literal c => [c]
  | percent => [37]
  | item x fmt => ((itemClasses.lookup [x]).map (ItemClass.format strftime event (fmt.getD []))).getD []

end Element

def pattern (es : List Element) : Str := es.flatMap Element.text

/-- A character that ends the letters of an item without braces. -/
def Ends (c : UInt8) : Prop := isalpha c = false ∧ c ≠ 123 ∧ c ≠ 125

instance (c : UInt8) : Decidable (Ends c) := inferInstanceAs (Decidable (_ ∧ _))

/-- The patterns that are described. -/
def Described : List Element → Prop
  | [] => True
  | .literal c :: es => c ≠ 37 ∧ Described es
  | .percent :: es => Described es
  | .item x none :: es =>
    map_s_items.contains [x] = true ∧ (∀ c ∈ (pattern es).head?, Ends c) ∧ Described es
  | .item x (some fmt) :: es => map_s_items.contains [x] = true ∧ 125 ∉ fmt ∧ Described es

/-- There is no error, and any event is written as the pattern says. -/
def Formats (es : List Element) : Prop :=
  LogFormatter.isError ⟨pattern es⟩ = false ∧
    ∀ strftime event, LogFormatter.format strftime event ⟨pattern es⟩ =
      es.flatMap (Element.output strftime event)

/-! ## Section 3: Scanning -/

/-- Nothing is seen of the characters in front of `resume`. -/
theorem tokens_skip (m_pattern skipped rest : Str) :
    ∀ i : Nat, tokens m_pattern (skipped ++ rest) i (i + skipped.length) =
      tokens m_pattern rest (i + skipped.length) (i + skipped.length) := by
  induction skipped with
  | nil => exact fun i => rfl
  | cons c skipped ih =>
    intro i
    rw [List.cons_append, tokens, if_pos (by rw [List.length_cons]; omega), List.length_cons,
      show i + (skipped.length + 1) = i + 1 + skipped.length by omega, ih]

/-- How far a directive reaches does not matter once it is passed. -/
theorem tokens_resume (m_pattern : Str) (rest : Str) :
    ∀ {i resume : Nat}, resume ≤ i → tokens m_pattern rest i resume = tokens m_pattern rest i i := by
  induction rest with
  | nil => exact fun _ => rfl
  | cons c rest ih =>
    intro i resume h
    have hrest : tokens m_pattern rest (i + 1) resume = tokens m_pattern rest (i + 1) i := by
      rw [ih (show resume ≤ i + 1 by omega), ih (show i ≤ i + 1 by omega)]
    simp only [tokens, if_neg (show ¬ i < resume by omega), Nat.lt_irrefl, if_false, hrest]

theorem substr_middle (pre mid post : Str) {i j : Nat} (hi : i = pre.length)
    (hj : j = i + mid.length) : substr (pre ++ mid ++ post) i j = mid := by
  subst hi hj
  rw [substr, List.append_assoc, List.drop_left, Nat.add_sub_cancel_left, List.take_left]

/-- Inside braces. -/
theorem directive_braces (m_pattern : Str) (i b : Nat) {tstr : Str} (htstr : tstr ≠ []) {fmt : Str}
    (hfmt : 125 ∉ fmt) (rest : Str) :
    ∀ j, directive m_pattern i (fmt ++ 125 :: rest) j (some b) tstr =
      (j + fmt.length + 1, .item tstr (substr m_pattern (b + 1) (j + fmt.length))) := by
  induction fmt with
  | nil => exact fun j => rfl
  | cons c fmt ih =>
    intro j
    have hc : c ≠ 125 := fun h => hfmt (h ▸ List.mem_cons_self)
    rw [List.cons_append, directive, if_neg hc, if_neg fun h => htstr h.2,
      ih (fun h => hfmt (List.mem_cons_of_mem _ h)), List.length_cons]
    congr 2
    · omega
    · congr 1
      omega

/-- A directive is an error, or an item whose name begins what is behind the
    percent sign. -/
theorem directive_found {m_pattern : Str} {i : Nat} {cs : Str} :
    ∀ {j : Nat} {b : Option Nat} {tstr : Str}, tstr <+: m_pattern.drop (i + 1) →
      (∃ k, directive m_pattern i cs j b tstr = (k, .error)) ∨
        ∃ k name fmt, directive m_pattern i cs j b tstr = (k, .item name fmt) ∧
          name <+: m_pattern.drop (i + 1) := by
  induction cs with
  | nil =>
    intro j b tstr htstr
    cases b with
    | none => exact Or.inr ⟨j, tstr, [], rfl, htstr⟩
    | some b => exact Or.inl ⟨j, rfl⟩
  | cons c rest ih =>
    intro j b tstr htstr
    have hnext : (if rest = [] ∧ tstr = [] then m_pattern.drop (i + 1) else tstr) <+:
        m_pattern.drop (i + 1) := by
      split
      · exact List.prefix_rfl
      · exact htstr
    cases b with
    | none =>
      rw [directive]
      split
      · exact Or.inr ⟨j, _, [], rfl, List.take_prefix _ _⟩
      · split
        · exact ih (List.take_prefix _ _)
        · exact ih hnext
    | some b =>
      rw [directive]
      split
      · exact Or.inr ⟨j + 1, tstr, _, rfl, htstr⟩
      · exact ih hnext

theorem tokens_literal (m_pattern : Str) {c : UInt8} (hc : c ≠ 37) (rest : Str) (i : Nat) :
    tokens m_pattern (c :: rest) i i = .text [c] :: tokens m_pattern rest (i + 1) (i + 1) := by
  rw [tokens, if_neg (Nat.lt_irrefl i), if_pos hc, tokens_resume m_pattern rest (Nat.le_succ i)]

/-- The second percent sign is looked at again. -/
theorem tokens_percent (m_pattern : Str) (rest : Str) (i : Nat) :
    tokens m_pattern (37 :: 37 :: rest) i i =
      .text [37] :: tokens m_pattern (37 :: rest) (i + 1) (i + 1) := by
  rw [tokens, if_neg (Nat.lt_irrefl i), if_neg (not_not.mpr rfl),
    if_pos (show (37 :: rest).head? = some 37 from rfl),
    tokens_resume m_pattern (37 :: rest) (Nat.le_succ i)]

/-- A percent sign in front of something else. -/
theorem tokens_found {m_pattern : Str} {rest : Str} (hrest : rest.head? ≠ some 37) {i j : Nat}
    {name fmt : Str} (h : directive m_pattern i rest (i + 1) none [] = (j, .item name fmt)) :
    tokens m_pattern (37 :: rest) i i = .item name fmt :: tokens m_pattern rest (i + 1) j := by
  rw [tokens, if_neg (Nat.lt_irrefl i), if_neg (not_not.mpr rfl), if_neg hrest, h]

theorem tokens_error {m_pattern : Str} {rest : Str} (hrest : rest.head? ≠ some 37) {i j : Nat}
    (h : directive m_pattern i rest (i + 1) none [] = (j, .error)) :
    tokens m_pattern (37 :: rest) i i = .error :: tokens m_pattern rest (i + 1) i := by
  rw [tokens, if_neg (Nat.lt_irrefl i), if_neg (not_not.mpr rfl), if_neg hrest, h]

theorem letter_of_item {x : UInt8} (h : map_s_items.contains [x] = true) :
    isalpha x = true ∧ x ≠ 37 ∧ x ≠ 123 := by
  have hall : ∀ name ∈ map_s_items, ∀ x ∈ name, isalpha x = true ∧ x ≠ 37 ∧ x ≠ 123 := by decide
  exact hall [x] (List.contains_iff_mem.mp h) x List.mem_cons_self

/-- An item is found as it is written. -/
theorem tokens_item {x : UInt8} (hx : map_s_items.contains [x] = true) (fmt : Option Str)
    {pre rest : Str} (hfmt : ∀ f ∈ fmt, 125 ∉ f) (hends : fmt = none → ∀ c ∈ rest.head?, Ends c)
    {m_pattern : Str} (hm : m_pattern = pre ++ ((Element.item x fmt).text ++ rest)) :
    tokens m_pattern ((Element.item x fmt).text ++ rest) pre.length pre.length =
      .item [x] (fmt.getD []) :: tokens m_pattern rest
        (pre.length + (Element.item x fmt).text.length)
        (pre.length + (Element.item x fmt).text.length) := by
  obtain ⟨halpha, hpercent, hbrace⟩ := letter_of_item hx
  have hhead : ∀ rest : Str, (x :: rest).head? ≠ some 37 := fun _ h => hpercent (Option.some.inj h)
  -- what stands between the percent sign and the end of the directive is its letter
  have hname : substr m_pattern (pre.length + 1) (pre.length + 2) = [x] := by
    have hsplit : ∃ post, m_pattern = (pre ++ [37]) ++ [x] ++ post := by
      -- without braces the directive ends before the next byte, with them behind the closing one
      cases fmt with
      | none => exact ⟨rest, by simp [hm, Element.text]⟩
      | some f => exact ⟨123 :: f ++ 125 :: rest, by simp [hm, Element.text]⟩
    obtain ⟨post, hpost⟩ := hsplit
    rw [hpost]
    exact substr_middle _ _ _ (by simp) (by simp)
  cases fmt with
  | none =>
    have hdirective : directive m_pattern pre.length (x :: rest) (pre.length + 1) none [] =
        (pre.length + 2, .item [x] []) := by
      rw [directive, if_neg (by simp [halpha]), if_neg hbrace]
      cases rest with
      | nil =>
        have hdrop : m_pattern.drop (pre.length + 1) = [x] := by
          rw [hm, ← List.drop_drop, List.drop_left]
          rfl
        rw [if_pos ⟨rfl, rfl⟩, hdrop]
        rfl
      | cons c rest =>
        obtain ⟨hc, hopen, hclose⟩ := hends rfl c rfl
        rw [if_neg (fun h => List.cons_ne_nil c rest h.1), directive,
          if_pos (by simp [hc, hopen, hclose]), hname]
    have hskip := tokens_skip m_pattern [x] rest (pre.length + 1)
    show tokens m_pattern (37 :: x :: rest) pre.length pre.length = _
    rw [tokens_found (hhead rest) hdirective]
    exact congrArg (Token.item [x] [] :: ·) hskip
  | some f =>
    have hf := hfmt f rfl
    have hdirective : directive m_pattern pre.length (x :: 123 :: (f ++ 125 :: rest))
        (pre.length + 1) none [] = (pre.length + 3 + f.length + 1, .item [x] f) := by
      have htext : substr m_pattern (pre.length + 3) (pre.length + 3 + f.length) = f := by
        have hpost : m_pattern = (pre ++ [37, x, 123]) ++ f ++ (125 :: rest) := by
          simp [hm, Element.text]
        rw [hpost]
        exact substr_middle _ _ _ (by simp) rfl
      rw [directive, if_neg (by simp [halpha]), if_neg hbrace,
        if_neg fun h => List.cons_ne_nil _ _ h.1, directive, if_neg (by decide), if_pos rfl, hname,
        directive_braces m_pattern pre.length (pre.length + 2) (List.cons_ne_nil _ _) hf rest, htext]
    have hskip := tokens_skip m_pattern (x :: 123 :: (f ++ [125])) rest (pre.length + 1)
    have htext : (Element.item x (some f)).text ++ rest = 37 :: x :: 123 :: (f ++ 125 :: rest) := by
      simp [Element.text]
    rw [htext, tokens_found (hhead _) hdirective]
    simp only [List.cons_append, List.append_assoc, List.nil_append, List.length_cons,
      List.length_append, List.length_nil] at hskip
    simp only [Element.text, List.length_cons, List.length_append, List.length_nil, Option.getD_some]
    rw [show pre.length + 3 + f.length + 1 = pre.length + 1 + (f.length + (0 + 1) + 1 + 1) by omega,
      hskip]
    rw [show pre.length + 1 + (f.length + (0 + 1) + 1 + 1) =
      pre.length + (f.length + (0 + 1) + 1 + 1 + 1) by omega]

/-! ## Section 4: What is written -/

/-- The tokens that `isError` minds. -/
def Token.bad : Token → Bool
  | .text _ => false
  | .item name _ => !map_s_items.contains name
  | .error => true

theorem isError_eq (f : LogFormatter) :
    f.isError = (tokens f.pattern f.pattern 0 0).any Token.bad := by
  unfold LogFormatter.isError
  congr 1

def Token.output (strftime : Strftime) (event : LogEvent) (t : Token) : Str :=
  t.formatItem.format strftime event

theorem joinText_output (strftime : Strftime) (event : LogEvent) {ts : List Token} :
    ∀ {s : Str}, ts.any Token.bad = false →
      (joinText ts s).flatMap (Token.output strftime event) =
        s ++ ts.flatMap (Token.output strftime event) := by
  have hflush : ∀ s : Str, (if s = [] then ([] : List Token) else [.text s]).flatMap
      (Token.output strftime event) = s := by
    intro s
    split
    · rename_i hnil
      exact hnil.symm
    · exact List.append_nil s
  induction ts with
  | nil => exact fun {s} _ => (hflush s).trans (List.append_nil s).symm
  | cons t ts ih =>
    intro s hgood
    rw [List.any_cons, Bool.or_eq_false_iff] at hgood
    cases t with
    | text t =>
      rw [joinText, ih hgood.2, List.flatMap_cons, List.append_assoc]
      rfl
    | item name fmt =>
      rw [joinText, List.flatMap_append, hflush, List.flatMap_cons, ih hgood.2, List.flatMap_cons]
      rfl
    | error => exact absurd hgood.1 (by decide)

theorem format_eq {f : LogFormatter} (h : f.isError = false) (strftime : Strftime)
    (event : LogEvent) : f.format strftime event =
      (tokens f.pattern f.pattern 0 0).flatMap (Token.output strftime event) := by
  rw [isError_eq] at h
  rw [LogFormatter.format, LogFormatter.m_items, List.flatMap_map]
  exact joinText_output strftime event h

def Element.token : Element → Token
  | literal c => .text [c]
  | percent => .text [37]
  | item x fmt => .item [x] (fmt.getD [])

theorem lookup_letter {name : Str} (h : map_s_items.contains name = true) :
    ∃ e ∈ itemClasses, e.1 = name ∧ itemClasses.lookup name = some e.2 := by
  have hall : ∀ name ∈ map_s_items, ∃ e ∈ itemClasses, e.1 = name ∧
      itemClasses.lookup name = some e.2 := by decide
  exact hall name (List.contains_iff_mem.mp h)

/-- An element is written as its token. -/
theorem output_token (strftime : Strftime) (event : LogEvent) {e : Element}
    (h : ∀ x fmt, e = .item x fmt → map_s_items.contains [x] = true) :
    e.token.output strftime event = e.output strftime event := by
  cases e with
  | literal c => rfl
  | percent => rfl
  | item x fmt =>
    obtain ⟨e, _, _, hlookup⟩ := lookup_letter (h x fmt rfl)
    rw [Element.token, Token.output, Token.formatItem, hlookup, Element.output, hlookup]
    rfl

/-- The first element of a described pattern, unless it is `%%`, is the first token. -/
theorem tokens_head {e : Element} {es : List Element} (h : Described (e :: es))
    (he : e ≠ .percent) {pre m_pattern : Str} (hm : m_pattern = pre ++ pattern (e :: es)) :
    tokens m_pattern (pattern (e :: es)) pre.length pre.length =
        e.token :: tokens m_pattern (pattern es) (pre ++ e.text).length (pre ++ e.text).length ∧
      e.token.bad = false ∧
      (∀ x fmt, e = .item x fmt → map_s_items.contains [x] = true) ∧ Described es := by
  rw [List.length_append]
  cases e with
  | literal c =>
    exact ⟨tokens_literal m_pattern h.1 (pattern es) pre.length, rfl, nofun, h.2⟩
  | percent => exact absurd rfl he
  | item x fmt =>
    have hitem : map_s_items.contains [x] = true := by
      cases fmt <;> exact h.1
    have hfound : ∀ x' fmt', Element.item x fmt = .item x' fmt' →
        map_s_items.contains [x'] = true := by
      intro x' fmt' heq
      obtain ⟨rfl, _⟩ := Element.item.inj heq
      exact hitem
    have hgood : (Element.item x fmt).token.bad = false := by
      rw [Element.token, Token.bad, hitem]
      rfl
    cases fmt with
    | none => exact ⟨tokens_item hitem none nofun (fun _ => h.2.1) hm, hgood, hfound, h.2.2⟩
    | some f =>
      refine ⟨tokens_item hitem (some f) ?_ nofun hm, hgood, hfound, h.2.2⟩
      intro f' hf'
      obtain rfl := Option.some.inj hf'
      exact h.2.1

/-- Without `%%` each element is one token. -/
theorem tokens_pattern {es : List Element} :
    ∀ {pre m_pattern : Str}, Described es → (∀ e ∈ es, e ≠ .percent) →
      m_pattern = pre ++ pattern es →
      (tokens m_pattern (pattern es) pre.length pre.length).any Token.bad = false ∧
        ∀ strftime event, (tokens m_pattern (pattern es) pre.length pre.length).flatMap
          (Token.output strftime event) = es.flatMap (Element.output strftime event) := by
  induction es with
  | nil => exact fun _ _ _ => ⟨rfl, fun _ _ => rfl⟩
  | cons e es ih =>
    intro pre m_pattern h hplain hm
    obtain ⟨htokens, hgood, hitem, hrest⟩ := tokens_head h (hplain e List.mem_cons_self) hm
    have hm' : m_pattern = (pre ++ e.text) ++ pattern es := by
      rw [hm, List.append_assoc]
      rfl
    obtain ⟨hgoods, houtput⟩ := ih hrest (fun e he => hplain e (List.mem_cons_of_mem _ he)) hm'
    rw [htokens]
    refine ⟨by rw [List.any_cons, hgood, hgoods]; rfl, fun strftime event => ?_⟩
    rw [List.flatMap_cons, List.flatMap_cons, houtput, output_token strftime event hitem]

/-! ## Section 5: Percent signs -/

/-- An event whose items print neither a percent sign nor their own letter. -/
def sampleEvent : LogEvent := ⟨[35], .DEBUG, [35], 0, 0, 0, 0, 0, [35], [35]⟩

def sampleTime : Strftime := fun _ _ => [35]

theorem sample_output {name : Str} (hname : map_s_items.contains name = true) (fmt : Str) :
    ∃ o rest, (Token.item name fmt).output sampleTime sampleEvent = o :: rest ∧ o ≠ 37 ∧
      [o] ≠ name := by
  obtain ⟨e, he, rfl, hlookup⟩ := lookup_letter hname
  rw [Token.output, Token.formatItem, hlookup]
  -- no class looks at more of the format than `strftime`, which is constant here
  have hfmt : (FormatItem.item e.2 fmt).format sampleTime sampleEvent =
      (FormatItem.item e.2 []).format sampleTime sampleEvent := by
    cases e.2 <;> rfl
  have hall : ∀ e ∈ itemClasses,
      ∃ o ∈ ((FormatItem.item e.2 []).format sampleTime sampleEvent).head?, o ≠ 37 ∧ [o] ≠ e.1 := by
    decide
  obtain ⟨o, ho, hpercent, hown⟩ := hall e he
  obtain ⟨rest, hrest⟩ := List.head?_eq_some_iff.mp ho
  exact ⟨o, rest, hfmt.trans hrest, hpercent, hown⟩

/-- There is an error, or the sample event is not written as `out`. -/
def Differs (ts : List Token) (out : Str) : Prop :=
  ts.any Token.bad = true ∨ ts.flatMap (Token.output sampleTime sampleEvent) ≠ out

theorem Differs.cons {t : Token} {ts : List Token} {out : Str} (h : Differs ts out) :
    Differs (t :: ts) (t.output sampleTime sampleEvent ++ out) := by
  rcases h with h | h
  · exact Or.inl (by rw [List.any_cons, h, Bool.or_true])
  · refine Or.inr fun heq => h ?_
    rw [List.flatMap_cons] at heq
    exact List.append_cancel_left heq

theorem differs_head {t : Token} {ts : List Token} {o o' : UInt8} {rest out : Str}
    (ht : t.output sampleTime sampleEvent = o :: rest) (hne : o ≠ o') :
    Differs (t :: ts) (o' :: out) := by
  refine Or.inr fun heq => hne ?_
  rw [List.flatMap_cons, ht] at heq
  exact (List.cons.inj heq).1

theorem replicate_append_cons {α : Type} (n : Nat) (a : α) (l : List α) :
    List.replicate n a ++ a :: l = a :: (List.replicate n a ++ l) := by
  rw [← List.cons_append, ← List.replicate_succ, List.replicate_succ', List.append_assoc]
  rfl

/-- When the second sign of `%%` is read as the begin of an item, the rest of the
    pattern is not written as it says; `n` signs have been written too many. -/
theorem pending_differs {es : List Element} :
    ∀ {pre m_pattern : Str} (n : Nat), Described es → m_pattern = pre ++ 37 :: pattern es →
      Differs (List.replicate n (.text [37]) ++
          tokens m_pattern (37 :: pattern es) pre.length pre.length)
        (es.flatMap (Element.output sampleTime sampleEvent)) := by
  -- with a sign too many, what is expected has to begin with a percent sign
  have hsign : ∀ {n : Nat} {ts : List Token} {o : UInt8} {out : Str}, 0 < n → o ≠ 37 →
      Differs (List.replicate n (.text [37]) ++ ts) (o :: out) := by
    intro n ts o out hn ho
    obtain ⟨n, rfl⟩ := Nat.exists_eq_succ_of_ne_zero hn.ne'
    rw [List.replicate_succ, List.cons_append]
    exact differs_head rfl (Ne.symm ho)
  have herror : ∀ {n : Nat} {t : Token} {ts : List Token} {out : Str}, t.bad = true →
      Differs (List.replicate n (.text [37]) ++ t :: ts) out := by
    intro n t ts out ht
    exact Or.inl (by rw [List.any_append, List.any_cons, ht, Bool.true_or, Bool.or_true])
  induction es with
  | nil =>
    intro pre m_pattern n _ _
    rw [show pattern [] = [] from rfl, tokens_found (fun h => by cases h) (show directive m_pattern pre.length []
      (pre.length + 1) none [] = (pre.length + 1, .item [] []) from rfl)]
    exact herror (by decide)
  | cons e es ih =>
    intro pre m_pattern n h hm
    cases e with
    | percent =>
      have hrest := @ih (pre ++ [37, 37]) m_pattern (n + 1) h (by rw [hm]; simp [pattern, Element.text])
      rw [List.length_append] at hrest
      rw [show pattern (.percent :: es) = 37 :: 37 :: pattern es from rfl,
        tokens_percent, tokens_percent]
      rw [List.replicate_succ, List.cons_append, ← replicate_append_cons] at hrest
      rw [replicate_append_cons]
      exact hrest.cons
    | literal c =>
      obtain ⟨hc, hes⟩ := h
      have hhead : (pattern (.literal c :: es)).head? ≠ some 37 := fun heq => hc (Option.some.inj heq)
      have hdrop : m_pattern.drop (pre.length + 1) = c :: pattern es := by
        rw [hm, ← List.drop_drop, List.drop_left]
        rfl
      rcases @directive_found m_pattern pre.length (pattern (.literal c :: es)) (pre.length + 1) none
        [] List.nil_prefix with ⟨k, hfound⟩ | ⟨k, name, fmt, hfound, hprefix⟩
      · rw [tokens_error hhead hfound]
        exact herror rfl
      · rw [tokens_found hhead hfound]
        cases hname : map_s_items.contains name with
        | false => exact herror (by rw [Token.bad, hname]; rfl)
        | true =>
          obtain ⟨o, rest, hout, hpercent, hown⟩ := sample_output hname fmt
          obtain ⟨x, rfl⟩ : ∃ x, name = [x] := by
            have hlen : ∀ name ∈ map_s_items, name.length = 1 := by decide
            exact List.length_eq_one_iff.mp (hlen name (List.contains_iff_mem.mp hname))
          have hx : x = c := by
            rw [hdrop] at hprefix
            exact (List.cons_prefix_cons.mp hprefix).1
          subst hx
          cases n with
          | zero => exact differs_head hout fun heq => hown (by rw [heq])
          | succ n => exact hsign (Nat.succ_pos n) hc
    | item x fmt =>
      have hitem : map_s_items.contains [x] = true := by
        cases fmt <;> exact h.1
      obtain ⟨o, rest, hout, hpercent, _⟩ := sample_output hitem (fmt.getD [])
      have hcons : ∃ r, pattern (.item x fmt :: es) = 37 :: r := by
        cases fmt <;> exact ⟨_, rfl⟩
      obtain ⟨r, hr⟩ := hcons
      have hexpected : (Element.item x fmt).output sampleTime sampleEvent = o :: rest := by
        rw [← output_token sampleTime sampleEvent fun x' fmt' heq => ?_]
        · exact hout
        · obtain ⟨rfl, _⟩ := Element.item.inj heq
          exact hitem
      rw [hr, tokens_percent, List.flatMap_cons, hexpected, List.cons_append]
      cases n with
      | zero => exact differs_head rfl (Ne.symm hpercent)
      | succ n => exact hsign (Nat.succ_pos n) hpercent

theorem percent_differs {es : List Element} :
    ∀ {pre m_pattern : Str}, Described es → .percent ∈ es → m_pattern = pre ++ pattern es →
      Differs (tokens m_pattern (pattern es) pre.length pre.length)
        (es.flatMap (Element.output sampleTime sampleEvent)) := by
  induction es with
  | nil => exact fun _ hmem _ => by cases hmem
  | cons e es ih =>
    intro pre m_pattern h hmem hm
    by_cases he : e = .percent
    · subst he
      have hpending := @pending_differs es (pre ++ [37]) m_pattern 0 h
        (by rw [hm]; simp [pattern, Element.text])
      rw [List.length_append] at hpending
      rw [show pattern (.percent :: es) = 37 :: 37 :: pattern es from rfl, tokens_percent]
      exact hpending.cons
    · obtain ⟨htokens, _, hitem, hrest⟩ := tokens_head h he hm
      have hes : Element.percent ∈ es := (List.mem_cons.mp hmem).resolve_left (Ne.symm he)
      have hm' : m_pattern = (pre ++ e.text) ++ pattern es := by
        rw [hm, List.append_assoc]
        rfl
      rw [htokens, List.flatMap_cons, ← output_token sampleTime sampleEvent hitem]
      exact (ih hrest hes hm').cons

end Log

end MNSER
