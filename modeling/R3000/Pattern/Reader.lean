import R3000.Pattern.Bracket
import R3000.Pattern.Size
import R3000.Text.Letter

/-!
Patterns from their text. The text is read by a machine that keeps the groups that are still open,
each with its finished branches and the items of the branch that is being read. A text that is no
pattern, that nests too deeply or that is too large when its repetitions are written out is refused.
-/

namespace R3000.Pattern

/-- The greatest depth of a pattern. -/
def maxDepth : Nat := 250

/-- A piece of a branch: what it matches, how deeply it nests, and whether it can be repeated.
    Switches of options are pieces that cannot. -/
structure Item where
  pattern : Pattern
  depth : Nat := 0
  isRepeatable : Bool := true
  deriving Repr, DecidableEq

namespace Item

/-- Items under an operation, the last one first. Two or more nest one deeper. -/
def join (f : List Pattern → Pattern) : List Item → Item
  | [] => ⟨.empty, 0, true⟩
  | [a] => ⟨a.pattern, a.depth, true⟩
  | as => ⟨f (as.reverse.map pattern), (as.map depth).foldl max 0 + 1, true⟩

/-- An item in a group, which may have a number. -/
def grouped (a : Item) (number : Option Nat) : Item :=
  ⟨match number with
    | some n => .group n a.pattern
    | none => a.pattern, a.depth + 1, true⟩

/-- An item repeated, if that does not nest too deeply. -/
def times? (a : Item) (least : Nat) (most : Option Nat) (greedy : Bool) : Option Item :=
  if a.isRepeatable ∧ a.depth < maxDepth then
    some ⟨a.pattern.times least most greedy, a.depth + 1, true⟩
  else none

end Item

/-- A group that is still open, or the whole text. -/
structure Group where
  /-- the options behind the group -/
  outer : Options := {}
  number : Option Nat := none
  /-- the finished branches, the last one first -/
  branches : List Item := []
  /-- the items of the branch that is being read, the last one first -/
  items : List Item := []
  deriving Repr, DecidableEq

namespace Group

/-- Adds an item. -/
def add (g : Group) (a : Item) : Group := { g with items := a :: g.items }

/-- Ends a branch and starts another. -/
def branch (g : Group) : Group :=
  { g with branches := Item.join chain g.items :: g.branches, items := [] }

/-- What the group matches. -/
def value (g : Group) : Item := Item.join oneOf (Item.join chain g.items :: g.branches)

/-- Repeats the last item. -/
def times? (g : Group) (least : Nat) (most : Option Nat) (greedy : Bool) : Option Group :=
  match g.items with
  | [] => none
  | a :: as => (a.times? least most greedy).map fun a => { g with items := a :: as }

end Group

/-- The state of reading: the options in force, the innermost open group, the groups around it from
    the inside out, how many groups have a number, and the names of groups so far. -/
structure Reader where
  options : Options := {}
  group : Group := {}
  outer : List Group := []
  numbered : Nat := 0
  names : List (List Char) := []
  deriving Repr, DecidableEq

namespace Reader

/-- Adds an item to the innermost group. -/
def add (r : Reader) (a : Item) : Reader := { r with group := r.group.add a }

/-- Opens a group with options of its own. -/
def opened (r : Reader) (inner : Options) (number : Option Nat) : Reader :=
  { r with
    options := inner
    group := { outer := r.options, number := number }
    outer := r.group :: r.outer }

/-- Opens a group with the next number. -/
def numberedGroup (r : Reader) : Reader :=
  { r.opened r.options (some (r.numbered + 1)) with numbered := r.numbered + 1 }

/-- Closes the innermost group. A group that nests too deeply ends the reading. -/
def closed? (r : Reader) : Option Reader :=
  match r.outer with
  | [] => none
  | g :: outer =>
    let a := r.group.value.grouped r.group.number
    if a.depth ≤ maxDepth then
      some { r with options := r.group.outer, group := g.add a, outer := outer }
    else none

/-- Repeats the last item. A question mark behind the sign asks for the shortest match instead of
    the longest. -/
def times? (r : Reader) (least : Nat) (most : Option Nat) (s : List Char) :
    Option (Reader × List Char) :=
  let (short, s) := match s with
    | '?' :: t => (true, t)
    | s => (false, s)
  (r.group.times? least most (short = r.options.swapGreed)).map fun g => ({ r with group := g }, s)

/-- The greatest count of repetitions. -/
def maxCount : Nat := UInt32.size - 1

/-- Reads a count with blanks around it. -/
def count? (o : Options) (s : List Char) : Option (Nat × List Char) :=
  let (digits, t) := o.run Char.isDigit (s.dropWhile Text.isBlank)
  ((Text.natural? 10 digits).filter (· ≤ maxCount)).map (·, t.dropWhile Text.isBlank)

/-- Reads the bounds of a repetition behind its opening brace. -/
def bounds? (o : Options) (s : List Char) : Option (Nat × Option Nat × List Char) :=
  (count? o (o.gap s)).bind fun
    | (n, '\x7d' :: t) => some (n, some n, t)
    | (n, ',' :: t) =>
      match o.gap t with
      | '\x7d' :: t => some (n, none, t)
      | t =>
        (count? o t).bind fun
          | (m, '\x7d' :: t) => if n ≤ m then some (n, some m, t) else none
          | _ => none
    | _ => none

/-- Whether a group can have a name: a letter or a low line, and then also numbers, full stops and
    square brackets. -/
def isName : List Char → Bool
  | [] => false
  | c :: s =>
    (c == '_' || Text.isLetter c) &&
      s.all fun c => Text.isLetterOrNumber c || ['_', '.', '[', ']'].contains c

/-- Opens a group with a name, before which the reader stands. Names are given once. -/
def named? (r : Reader) (s : List Char) : Option (Reader × List Char) :=
  let name := s.takeWhile (· != '>')
  match s.dropWhile (· != '>') with
  | _ :: t =>
    if isName name ∧ name ∉ r.names then
      some ({ r.numberedGroup with names := name :: r.names }, t)
    else none
  | [] => none

/-- Reads switches of options: up to a colon they hold in a group, and up to a parenthesis from
    there on. -/
def switches? (r : Reader) (s : List Char) : Option (Reader × List Char) :=
  let letters := s.takeWhile fun c => c != ':' && c != ')'
  (r.options.read? letters).bind fun o =>
    match s.dropWhile fun c => c != ':' && c != ')' with
    | ':' :: t => some (r.opened o none, t)
    | ')' :: t =>
      if letters = [] then none
      else some ({ r with options := o }.add ⟨.empty, 0, false⟩, t)
    | _ => none

/-- Opens a group behind its parenthesis. Conditions on what lies around a match by patterns of
    their own are not supported. -/
def group? (r : Reader) (s : List Char) : Option (Reader × List Char) :=
  match s with
  | '?' :: '=' :: _ | '?' :: '!' :: _ | '?' :: '<' :: '=' :: _ | '?' :: '<' :: '!' :: _ => none
  | '?' :: 'P' :: '<' :: t | '?' :: '<' :: t => r.named? t
  | '?' :: t => r.switches? t
  | s => some (r.numberedGroup, s)

/-- Reads one sign, class, group opening, repetition or atom. -/
def step? (r : Reader) : List Char → Option (Reader × List Char)
  | '(' :: s => r.group? (r.options.gap s)
  | ')' :: s => r.closed?.map (·, s)
  | '|' :: s => some ({ r with group := r.group.branch }, s)
  | '[' :: s =>
    (Bracket.class? r.options s).map fun (a, s) => (r.add ⟨r.options.one a.set, a.depth, true⟩, s)
  | '?' :: s => r.times? 0 (some 1) s
  | '*' :: s => r.times? 0 none s
  | '+' :: s => r.times? 1 none s
  | '\x7b' :: s =>
    (bounds? r.options s).bind fun (n, m, s) => r.times? n m (r.options.gap s)
  | s =>
    (Atom.read? r.options s).bind fun (a, s) =>
      (a.pattern? r.options).map fun p => (r.add ⟨p, 0, true⟩, s)

/-- Reads the rest of a text. -/
def readAll? : Nat → Reader → List Char → Option Reader
  | 0, _, _ => none
  | n + 1, r, s =>
    match r.options.gap s with
    | [] => some r
    | s => (r.step? s).bind fun (r, s) => readAll? n r s

/-- The whole, if no group is open. -/
def finish? (r : Reader) : Option Item := if r.outer = [] then some r.group.value else none

end Reader

/-- The pattern that a text denotes. Each step of reading takes a character at least. -/
def ofText? (text : String) : Option Pattern :=
  ((Reader.readAll? (text.toList.length + 1) {} text.toList).bind Reader.finish?).bind fun a =>
    if a.depth ≤ maxDepth ∧ a.pattern.isSupported ∧ a.pattern.fits then some a.pattern
    else none

end R3000.Pattern
