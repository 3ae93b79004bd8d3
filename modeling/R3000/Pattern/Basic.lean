import R3000.Pattern.CharSet

/-!
Patterns: what they match in a text. A match runs from one position of the text to another, and
positions lie before, between and behind its characters. Matching carries a set of positions through
the pattern; sets of positions are ascending lists.
-/

namespace R3000

/-- A condition on the ASCII word characters around a position. -/
inductive WordLook where
  | boundary
  | inside
  | start
  | stop
  | startHalf
  | stopHalf
  deriving Repr, DecidableEq

/-- The condition on whether a word character stands before and whether one stands after. -/
def WordLook.holds (before after : Bool) : WordLook → Bool
  | boundary => before != after
  | inside => before == after
  | start => !before && after
  | stop => before && !after
  | startHalf => !before
  | stopHalf => !after

/-- A condition on a position, which matches no characters. -/
inductive Look where
  | textStart
  | textEnd
  /-- the start of a line; lines end with a line feed, or with a carriage return as well -/
  | lineStart (returns : Bool)
  | lineEnd (returns : Bool)
  /-- a condition on words, of ASCII characters or of those of all scripts -/
  | word (look : WordLook) (scripts : Bool)
  deriving Repr, DecidableEq

/-- A condition on the characters before and after a position. -/
def Look.holds (before after : Option Char) : Look → Bool
  | textStart => before.isNone
  | textEnd => after.isNone
  | lineStart returns =>
    before.isNone || before == some '\n' || returns && before == some '\r' && after != some '\n'
  | lineEnd false => after.isNone || after == some '\n'
  | lineEnd true =>
    after.isNone || after == some '\r' || after == some '\n' && before != some '\r'
  | word look _ => look.holds (before.any CharSet.word.contains) (after.any CharSet.word.contains)

/-- A pattern. -/
inductive Pattern where
  /-- no characters -/
  | empty
  /-- the given characters in a row -/
  | text (cs : List Char)
  /-- one character of a set, which may be written for ASCII alone -/
  | one (set : CharSet) (ascii : Bool)
  | look (look : Look)
  /-- a pattern in a numbered group -/
  | group (number : Nat) (p : Pattern)
  | seq (p q : Pattern)
  | alt (p q : Pattern)
  /-- as many matches in a row as a least and, if there is one, a greatest number allow, and whether
      more of them are better -/
  | repeated (p : Pattern) (least : Nat) (most : Option Nat) (greedy : Bool)
  deriving Repr, DecidableEq

/-- Positions in a text, in ascending order. -/
abbrev Positions := List Nat

namespace Positions

/-- The positions in one set or another. -/
def union : Positions → Positions → Positions
  | [], b => b
  | a, [] => a
  | i :: a, j :: b =>
    if i < j then i :: union a (j :: b)
    else if j < i then j :: union (i :: a) b
    else i :: union a b
termination_by a b => a.length + b.length

/-- The positions `n` steps on. Steps end when a step changes nothing. -/
def exactly (step : Positions → Positions) : Nat → Positions → Positions
  | 0, a => a
  | n + 1, a =>
    let b := step a
    if b = a then a else exactly step n b

/-- The positions at most `n` steps on. -/
def upTo (step : Positions → Positions) : Nat → Positions → Positions
  | 0, a => a
  | n + 1, a =>
    let b := a.union (step a)
    if b = a then a else upTo step n b

/-- The positions at least one step and at most `n` steps more on. -/
def onward (step : Positions → Positions) : Nat → Positions → Positions
  | 0, a => step a
  | n + 1, a =>
    let b := step a
    let c := a.union b
    if c = a then b else onward step n c

end Positions

namespace Pattern

/-- The character before a position. -/
def before? (text : Array Char) : Nat → Option Char
  | 0 => none
  | i + 1 => text[i]?

/-- The positions behind one character with a property. -/
def behind (text : Array Char) (holds : Char → Bool) (starts : Positions) : Positions :=
  starts.filterMap fun i => if (text[i]?).any holds then some (i + 1) else none

/-- The positions where matches end that start at one of the given positions. A repetition without
    a greatest number gets as many rounds as the text has characters, for a match of no characters
    adds no position. -/
def ends (text : Array Char) : Pattern → Positions → Positions
  | empty, starts => starts
  | .text cs, starts => cs.foldl (fun starts c => behind text (· == c) starts) starts
  | one set _, starts => behind text set.contains starts
  | look l, starts => starts.filter fun i => l.holds (before? text i) text[i]?
  | group _ p, starts => p.ends text starts
  | seq p q, starts => q.ends text (p.ends text starts)
  | alt p q, starts => (p.ends text starts).union (q.ends text starts)
  | repeated p least most _, starts =>
    let rounds := match most with
      | some m => m - least
      | none => text.size
    match least with
    | 0 => Positions.upTo (p.ends text) rounds starts
    | n + 1 => Positions.onward (p.ends text) rounds (Positions.exactly (p.ends text) n starts)

/-- Whether a match lies anywhere in a text. -/
def occursIn (p : Pattern) (text : String) : Bool :=
  let cs := text.toList.toArray
  p.ends cs (List.range (cs.size + 1)) ≠ []

/-- Whether a pattern keeps to ASCII words: words of all scripts are not supported. -/
def isSupported : Pattern → Bool
  | look (.word _ scripts) => !scripts
  | empty | text _ | one _ _ | look _ => true
  | group _ p | repeated p _ _ _ => p.isSupported
  | seq p q | alt p q => p.isSupported && q.isSupported

end Pattern

end R3000
