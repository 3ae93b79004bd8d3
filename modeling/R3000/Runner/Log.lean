import R3000.Pattern.Reader
import R3000.Runner.Style
import R3000.Text.Terminal

/-!
Log lines and the filter that decides which are shown. A filter is written as directives between
commas, each a level, a target or a target with a level, and after a slash a pattern that has to
occur in shown messages. The directive with the longest target that starts the line's target wins.
-/

namespace R3000.Log

/-- The importance of a log line, the most important first. -/
inductive Level where
  | error
  | warn
  | info
  | debug
  | trace
  deriving Repr, DecidableEq

/-- How unimportant a level is. -/
def Level.rank : Level → Nat
  | error => 1
  | warn => 2
  | info => 3
  | debug => 4
  | trace => 5

/-- The name of a level in log lines. -/
def Level.name : Level → String
  | error => "ERROR"
  | warn => "WARN"
  | info => "INFO"
  | debug => "DEBUG"
  | trace => "TRACE"

/-- The target of a directive and the highest rank that it shows. -/
structure Directive where
  target : Option String
  rank : Nat
  deriving Repr, DecidableEq

/-- Directives, each target once, and the pattern that has to occur in messages. -/
structure Filter where
  directives : List Directive
  pattern : Option Pattern := none
  deriving Repr, DecidableEq

/-- The rank that a word stands for, in letters of either case. -/
def rank? (word : String) : Option Nat :=
  [("off", 0), ("error", 1), ("warn", 2), ("info", 3), ("debug", 4), ("trace", 5)].lookup
    (word.map Char.toLower)

/-- The rank of all lines. -/
def allRanks : Nat := 5

/-- The text without blanks at its ends. -/
def trimmed (s : String) : String := String.ofList (Text.trim s.toList)

/-- Reads a directive; a malformed one is ignored. -/
def directive? (item : String) : Option Directive :=
  match item.splitOn "=" with
  | [word] =>
    match rank? word with
    | some r => some ⟨none, r⟩
    | none => some ⟨some word, allRanks⟩
  | [target, word] =>
    if trimmed word = "" then some ⟨some target, allRanks⟩
    else (rank? (trimmed word)).map fun r => ⟨some target, r⟩
  | _ => none

/-- Adds a directive in place of the one for the same target. -/
def insert (ds : List Directive) (d : Directive) : List Directive :=
  if ds.any (·.target == d.target) then ds.map fun e => if e.target = d.target then d else e
  else ds ++ [d]

/-- The directives of a text. -/
def directivesOf (text : String) : List Directive :=
  let items := ((text.splitOn ",").map trimmed).filter (· ≠ "")
  (items.filterMap directive?).foldl insert []

/-- The filter that a text denotes. More than one slash makes the text void, and what is no pattern
    leaves messages unchecked. -/
def Filter.ofText (text : String) : Filter :=
  match text.splitOn "/" with
  | [levels] => ⟨directivesOf levels, none⟩
  | [levels, pattern] => ⟨directivesOf levels, Pattern.ofText? pattern⟩
  | _ => ⟨[], none⟩

/-- The length that a directive's target counts with. -/
def Directive.weight (d : Directive) : Nat := (d.target.getD "").utf8ByteSize

/-- Whether a directive applies to a target. -/
def Directive.applies (d : Directive) (target : String) : Bool :=
  (d.target.getD "").toList.isPrefixOf target.toList

/-- The highest rank that a filter shows of a target: only errors where there is no directive. -/
def Filter.rankOf (f : Filter) (target : String) : Nat :=
  if f.directives = [] then 1
  else
    let best := (f.directives.filter (·.applies target)).foldl (fun best d =>
      match best with
      | some (e : Directive) => if e.weight ≤ d.weight then some d else some e
      | none => some d) none
    (best.map Directive.rank).getD 0

/-- Whether a filter shows a line. -/
def Filter.shows (f : Filter) (target : String) (level : Level) (message : String) : Bool :=
  level.rank ≤ f.rankOf target && f.pattern.all (·.occursIn message)

/-- What is shown of a log, and how it is written. -/
structure View where
  filter : Filter
  style : Style
  deriving Repr, DecidableEq

/-- A message as it is written: further lines are indented, and where text is plain control
    sequences are left out. -/
def written (style : Style) (message : String) : String :=
  let text := "\n    ".intercalate (message.splitOn "\n")
  match style with
  | .plain => Text.Terminal.kept text
  | .coloured => text

/-- The attribute of a level's name. -/
def Level.colour : Level → Nat
  | error => 31
  | warn => 33
  | info => 32
  | debug => 34
  | trace => 36

/-- A line of the log with a message as it is written. -/
def line (style : Style) (level : Level) (target message : String) : String :=
  style.marked [90] "[" ++ style.marked [level.colour] level.name ++ " " ++ target ++
    style.marked [90] "]" ++ " " ++ message

end R3000.Log
