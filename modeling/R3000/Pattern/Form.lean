import R3000.Pattern.Basic

/-!
Patterns in their plainest form. A set of one character is a text; sequences hold no empty parts and
no two texts in a row; a choice between single characters or between sets is a set, and what all
branches of a choice begin with stands before it.
-/

namespace R3000.Pattern

/-! ## Sets -/

/-- One character of a set. -/
def ofSet (s : CharSet) (ascii : Bool) : Pattern :=
  match s.single? with
  | some c => text [c]
  | none => one s (ascii || s = .empty)

/-! ## Repetitions -/

/-- Whether a pattern matches no characters, by its form. -/
def isEmptyOnly : Pattern → Bool
  | empty | look _ => true
  | text _ | one _ _ => false
  | group _ p | repeated p _ _ _ => p.isEmptyOnly
  | seq p q | alt p q => p.isEmptyOnly && q.isEmptyOnly

/-- A repetition. One match of no characters is as good as many, and a repetition of exactly none or
    one is the empty pattern or the pattern itself. -/
def times (p : Pattern) (least : Nat) (most : Option Nat) (greedy : Bool) : Pattern :=
  let (least, most) :=
    if p.isEmptyOnly then (min least 1, some ((most.map (min · 1)).getD 1)) else (least, most)
  match least, most with
  | 0, some 0 => empty
  | 1, some 1 => p
  | _, _ => repeated p least most greedy

/-! ## Sequences -/

/-- One pattern behind another. -/
def andThen : Pattern → Pattern → Pattern
  | empty, q => q
  | p, empty => p
  | seq p p', q => p.andThen (p'.andThen q)
  | text s, text t => text (s ++ t)
  | text s, seq (text t) q => seq (text (s ++ t)) q
  | p, q => seq p q

/-- Patterns in a row. -/
def chain (ps : List Pattern) : Pattern := ps.foldr andThen empty

/-- The parts of a sequence. A pattern that is no sequence has no parts. -/
def parts : Pattern → List Pattern
  | seq p (seq q r) => p :: (seq q r).parts
  | seq p q => [p, q]
  | _ => []

/-! ## Choices -/

/-- The branches of a choice. A pattern that is no choice is its own branch. -/
def branches : Pattern → List Pattern
  | alt p q => p.branches ++ q.branches
  | p => [p]

/-- The set of a text of one character. -/
def charOf? : Pattern → Option CharSet
  | text [c] => some (.single c)
  | _ => none

/-- The set of one character of a set. -/
def setOf? : Pattern → Option CharSet
  | one s _ => some s
  | _ => none

/-- The union of the sets of patterns, if all of them have one. -/
def unionOf? (f : Pattern → Option CharSet) (ps : List Pattern) : Option CharSet :=
  if ps.all fun p => (f p).isSome then some (.unions (ps.filterMap f)) else none

/-- Branches side by side. -/
def alts : List Pattern → Pattern
  | [] => one .empty true
  | [p] => p
  | p :: ps => alt p (alts ps)

/-- A choice between branches that do not all begin alike. -/
def choice (ps : List Pattern) : Pattern :=
  match ps with
  | [p] => p
  | ps =>
    match (unionOf? charOf? ps).or (unionOf? setOf? ps) with
    | some s => ofSet s false
    | none => alts ps

/-- The longest list with which two lists begin. -/
def common : List Pattern → List Pattern → List Pattern
  | p :: ps, q :: qs => if p = q then p :: common ps qs else []
  | _, _ => []

/-- The parts with which all of some sequences begin. -/
def commonParts : List Pattern → List Pattern
  | [] => []
  | [p] => p.parts
  | p :: ps => common p.parts (commonParts ps)

/-- A choice between patterns. -/
def oneOf (ps : List Pattern) : Pattern :=
  let bs := ps.flatMap branches
  let start := commonParts bs
  if start = [] then choice bs
  else
    chain (start ++ [choice ((bs.map fun b => chain (b.parts.drop start.length)).flatMap branches)])

end R3000.Pattern
