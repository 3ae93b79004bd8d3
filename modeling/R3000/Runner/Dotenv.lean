import R3000.Text.Blank
import R3000.Text.Letter

/-!
Variables from a file: lines that assign a value to a name. A quoted value may span lines, `#`
after a blank starts a comment, and `$NAME` or a name in braces stands for the value of another
variable. Such a name may have letters and numbers of all scripts, one that is assigned only ASCII.
Lines and values are each read by a machine that takes one character at a time.
-/

namespace R3000.Dotenv

/-- Where a line stands after some of its characters. -/
inductive Position where
  | complete
  | blank
  | escape
  | single
  | singleEscape
  | double
  | doubleEscape
  deriving Repr, DecidableEq

/-- The position after a character outside quotes. -/
def Position.outside (c : Char) : Position :=
  match c with
  | '\\' => .escape
  | '"' => .double
  | '\'' => .single
  | _ => .complete

/-- The position after one more character. -/
def Position.next (p : Position) (c : Char) : Position :=
  match p with
  | .blank => .outside c
  | .escape => .complete
  | .complete => if Text.isBlank c && c != '\n' && c != '\r' then .blank else .outside c
  | .double => if c = '\\' then .doubleEscape else if c = '"' then .complete else .double
  | .doubleEscape => .double
  | .single => if c = '\\' then .singleEscape else if c = '\'' then .complete else .single
  | .singleEscape => .single

/-- How the characters of a line end. -/
inductive Scan where
  | ended (position : Position)
  | comment (before : List Char)
  deriving Repr, DecidableEq

/-- Scans a line; `seen` holds what lies behind in reverse. -/
def scan (p : Position) (seen : List Char) : List Char → Scan
  | [] => .ended p
  | c :: s =>
    if p = .blank ∧ c = '#' then .comment seen.reverse else scan (p.next c) (c :: seen) s

/-- Cuts a text behind each line feed. -/
def physicalLines : List Char → List (List Char)
  | [] => []
  | '\n' :: s => ['\n'] :: physicalLines s
  | c :: s =>
    match physicalLines s with
    | [] => [[c]]
    | l :: ls => (c :: l) :: ls

/-- Drops a line end from the back. -/
def dropLineEnd (s : List Char) : List Char :=
  match s.reverse with
  | '\n' :: '\r' :: t => t.reverse
  | '\n' :: t => t.reverse
  | _ => s

/-- Joins lines that a quoted text spans, and drops comments. An open end of the file is `none`. -/
def logicalLines (p : Position) (before : List Char) :
    List (List Char) → List (Option (List Char))
  | [] => if p = .complete then [] else [none]
  | l :: ls =>
    let joined := before ++ l
    if (Text.trimStart joined).head? = some '#' then some [] :: logicalLines .complete [] ls
    else
      match scan p [] l with
      | .comment kept => some (before ++ kept) :: logicalLines .complete [] ls
      | .ended .complete => some (dropLineEnd joined) :: logicalLines .complete [] ls
      | .ended q => logicalLines q joined ls

/-- A part of a value: characters, or the name of a variable whose value stands there. -/
inductive Part where
  | literal (c : Char)
  | reference (name : List Char)
  deriving Repr, DecidableEq

/-- The quotes that a value is in. -/
inductive Quote where
  | no
  | single
  | double
  deriving Repr, DecidableEq

/-- Where a value stands. -/
inductive Stage where
  | open
  | escaped
  /-- in the name behind a dollar sign -/
  | name (name : List Char)
  /-- in the name between braces -/
  | braced (name : List Char)
  /-- behind the value, where only blanks and a comment may follow -/
  | behind
  | comment
  deriving Repr, DecidableEq

/-- A value that is being read: its parts so far are kept in reverse. -/
structure Reader where
  quote : Quote := .no
  stage : Stage := .open
  parts : List Part := []

namespace Reader

/-- Adds a part. -/
def add (r : Reader) (p : Part) : Reader := { r with stage := .open, parts := p :: r.parts }

/-- Takes a character where no escape and no name is open. -/
def openStep (r : Reader) (c : Char) : Reader :=
  match r.quote with
  | .single => if c = '\'' then { r with quote := .no } else r.add (.literal c)
  | .double =>
    if c = '$' then { r with stage := .name [] }
    else if c = '"' then { r with quote := .no }
    else if c = '\\' then { r with stage := .escaped }
    else r.add (.literal c)
  | .no =>
    if c = '$' then { r with stage := .name [] }
    else if c = '\'' then { r with quote := .single }
    else if c = '"' then { r with quote := .double }
    else if c = '\\' then { r with stage := .escaped }
    else if c = ' ' ∨ c = '\t' then { r with stage := .behind }
    else r.add (.literal c)

/-- Takes a character. -/
def step (r : Reader) (c : Char) : Option Reader :=
  match r.stage with
  | .comment => some r
  | .behind =>
    if c = ' ' ∨ c = '\t' then some r
    else if c = '#' then some { r with stage := .comment }
    else none
  | .escaped =>
    if c = 'n' then some (r.add (.literal '\n'))
    else if ['\\', '\'', '"', '$', ' '].contains c then some (r.add (.literal c))
    else none
  | .name n =>
    if Text.isLetterOrNumber c then some { r with stage := .name (c :: n) }
    else if c = '\x7b' ∧ n = [] then some { r with stage := .braced [] }
    else
      let named := r.add (.reference n.reverse)
      if c = '$' then some { named with stage := .name [] } else some (named.add (.literal c))
  | .braced n =>
    if c = '\x7d' then some (r.add (.reference n.reverse))
    else some { r with stage := .braced (c :: n) }
  | .open => some (r.openStep c)

/-- The parts of a value that has ended. -/
def finish (r : Reader) : Option (List Part) :=
  if r.quote ≠ .no then none
  else
    match r.stage with
    | .braced _ => none
    | .name n => some (r.add (.reference n.reverse)).parts.reverse
    | _ => some r.parts.reverse

end Reader

/-- The parts of a value. -/
def value? (s : List Char) : Option (List Part) :=
  (s.foldlM Reader.step ({} : Reader)).bind Reader.finish

/-- A name and the parts of its value. -/
structure Assignment where
  name : List Char
  value : List Part
  deriving Repr, DecidableEq

/-- The characters of a name. -/
def isNameChar (c : Char) : Bool := c.isAlphanum || c == '_' || c == '.'

/-- A name at the front of a text, and what follows it and blanks. -/
def name? (s : List Char) : Option (List Char × List Char) :=
  match s with
  | c :: _ =>
    if c.isAlpha || c == '_' then
      some (s.takeWhile isNameChar, Text.trimStart (s.dropWhile isNameChar))
    else none
  | [] => none

/-- A name and what follows its equals sign. The word `export` may stand before the name, and is
    one if the equals sign follows it. -/
def target? (s : List Char) : Option (List Char × List Char) :=
  (name? s).bind fun
    | (n, '=' :: t) => some (n, t)
    | (n, t) =>
      if n = "export".toList then
        (name? t).bind fun
          | (n, '=' :: t) => some (n, t)
          | _ => none
      else none

/-- The assignment of a line, if the line has one. -/
def assignment? (line : List Char) : Option (Option Assignment) :=
  let s := Text.trim line
  if s = [] ∨ s.head? = some '#' then some none
  else
    (target? s).bind fun (n, t) =>
      let v := Text.trimStart t
      if v = [] ∨ v.head? = some '#' then some (some ⟨n, []⟩)
      else (value? v).map fun parts => some ⟨n, parts⟩

/-- The assignments before the first malformed line, and whether there is none. -/
def upToFault : List (Option (List Char)) → List Assignment × Bool
  | [] => ([], true)
  | none :: _ => ([], false)
  | some l :: ls =>
    match assignment? l with
    | none => ([], false)
    | some none => upToFault ls
    | some (some a) => (a :: (upToFault ls).1, (upToFault ls).2)

/-- The assignments of a file up to its first malformed line, and whether there is none. -/
def assignments (s : List Char) : List Assignment × Bool :=
  upToFault (logicalLines .complete [] (physicalLines (Text.dropByteOrderMark s)))

end R3000.Dotenv
