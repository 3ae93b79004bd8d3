import R3000.Pattern.Branching
import R3000.Pattern.Form

/-!
The size of a pattern: the room of the automata on bytes that look for it forward and backward, with
repetitions written out. Patterns that are too large are refused.
-/

namespace R3000.Pattern

/-- The texts of the branches, if all of them are texts. -/
def texts? : Pattern → Option (List (List Char))
  | text cs => some [cs]
  | alt p q => p.texts?.bind fun s => q.texts?.map (s ++ ·)
  | _ => none

/-- The least length of a match. A set of no characters has none. -/
def leastLength? : Pattern → Option Nat
  | empty | look _ => some 0
  | text cs => some cs.length
  | one s _ => if s = .empty then none else some 1
  | group _ p => p.leastLength?
  | seq p q => p.leastLength?.bind fun m => q.leastLength?.map (m + ·)
  | alt p q => p.leastLength?.bind fun m => q.leastLength?.map (min m ·)
  | repeated p least _ _ => p.leastLength?.map (least * ·)

/-- The room of a repetition of a pattern of a size. Where a greatest number is missing the last
    match goes in circles; a pattern that may match no characters needs a way around the circle. -/
def repeatedSize (size : Nat) (isLong : Bool) (least : Nat) (most : Option Nat) : Nat :=
  match least, most with
  | 0, some 1 => 2 * state + 2 * alternative + size
  | 0, none =>
    if isLong then state + 2 * alternative + size else 3 * state + 4 * alternative + size
  | n, none => n * size + state + 2 * alternative
  | n, some m =>
    if n = m then n * size
    else
      (if n = 0 then state else n * size) + state + (m - n) * (state + 2 * alternative + size)

/-- The room of a pattern, or of one that is a further branch of a choice. Groups are kept in the
    forward automaton only. -/
def size (d : Direction) (isBranch : Bool) : Pattern → Nat
  | empty | look _ => state
  | text cs => state * (bytes d cs).length
  | one s _ => setSize d s
  | group _ p => p.size d false + if d = .forward then 2 * state else 0
  | seq p q => p.size d false + q.size d false
  | alt p q =>
    if isBranch then alternative + p.size d false + q.size d true
    else
      match (alt p q).texts? with
      | some ts => textsSize d ts
      | none => 2 * state + 2 * alternative + p.size d false + q.size d true
  | repeated p least most _ =>
    repeatedSize (p.size d false) (p.leastLength?.any (0 < ·)) least most

/-- Whether each match has to fulfil a condition where reading it starts, and whether the pattern
    matches no characters by its form. -/
def demands (d : Direction) (l : Look) : Pattern → Bool × Bool
  | empty => (false, true)
  | look k => (k = l, true)
  | text _ | one _ _ => (false, false)
  | group _ p => p.demands d l
  | seq p q =>
    let (a, e) := p.demands d l
    let (b, f) := q.demands d l
    match d with
    | .forward => (a || e && b, e && f)
    | .backward => (b || f && a, e && f)
  | alt p q =>
    let (a, e) := p.demands d l
    let (b, f) := q.demands d l
    (a && b, e && f)
  | repeated p least _ _ =>
    let (a, e) := p.demands d l
    (0 < least && a, e)

/-- The room of what comes before a match: any bytes, if a match can start anywhere. -/
def beforeSize (isAnchored : Bool) : Nat :=
  if isAnchored then state else repeatedSize (2 * state + transition) true 0 none

/-- The room of the automaton that looks for a pattern. The forward one keeps the whole match as a
    group. -/
def totalSize (d : Direction) (p : Pattern) : Nat :=
  match d with
  | .forward => beforeSize (p.demands d .textStart).1 + 2 * state + p.size d false + state
  | .backward => beforeSize (p.demands d .textEnd).1 + p.size d false + state

/-- The greatest room. -/
def maxSize : Nat := 10 * 1024 * 1024

/-- Whether both automata of a pattern have room. -/
def fits (p : Pattern) : Bool :=
  p.totalSize .forward ≤ maxSize && p.totalSize .backward ≤ maxSize

end R3000.Pattern
