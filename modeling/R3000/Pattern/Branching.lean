import R3000.Pattern.Utf8

/-!
The states that an automaton on bytes needs to branch: to read a character of a set, and to read one
of several texts. A state takes room, and so does each transition of a state with several and each
alternative of a state that reads nothing.
-/

namespace R3000.Pattern

/-- The ways in which an automaton reads a text. -/
inductive Direction where
  | forward
  | backward
  deriving Repr, DecidableEq

/-- The room of a state. -/
def state : Nat := 32

/-- The room of a transition. -/
def transition : Nat := 8

/-- The room of an alternative. -/
def alternative : Nat := 4

/-! ## Sets -/

/-- Rows by their first span, for rows with equal first spans in a row. -/
def byFirst {α : Type} [DecidableEq α] : List (List α) → List (α × List (List α))
  | [] => []
  | [] :: rows => byFirst rows
  | (s :: row) :: rows =>
    match byFirst rows with
    | (t, us) :: groups =>
      if s = t then (t, row :: us) :: groups else (s, [row]) :: (t, us) :: groups
    | [] => [(s, [row])]

/-- The number of different beginnings of rows of at most `n` spans. -/
def beginnings {α : Type} [DecidableEq α] : Nat → List (List α) → Nat
  | 0, _ => 0
  | n + 1, rows => ((byFirst rows).map fun group => 1 + beginnings n group.2).sum

/-- The different ends of rows of at most `n` spans: what can follow a beginning. -/
def endings {α : Type} [DecidableEq α] : Nat → List (List α) → List (List (List α))
  | 0, _ => []
  | n + 1, rows =>
    if byFirst rows = [] then []
    else (rows :: (byFirst rows).flatMap fun group => endings n group.2).eraseDups

/-- The room to read a character of a set. An ASCII set is one state. Of any other set the forward
    automaton shares the ends of its rows, and the backward one the beginnings. -/
def setSize (d : Direction) (s : CharSet) : Nat :=
  if s.isAscii then 2 * state + transition * s.runs.length
  else
    match d with
    | .forward =>
      (endings 4 s.rows).foldl
        (fun n rows => n + (state + transition * (byFirst rows).length)) state
    | .backward => 2 * state + alternative * s.rows.length + state * beginnings 4 s.rows

/-! ## Texts -/

/-- The bytes of a text in the order of reading. -/
def bytes (d : Direction) (cs : List Char) : List UInt8 :=
  match d with
  | .forward => cs.flatMap String.utf8EncodeChar
  | .backward => (cs.flatMap String.utf8EncodeChar).reverse

/-- Drops all but one of the words at the front that have ended. -/
def dropEnded {α : Type} : List (List α) → List (List α)
  | [] :: words => [] :: words.dropWhile List.isEmpty
  | words => words

/-- The words between those that have ended. -/
def betweenEnded {α : Type} : List (List α) → List (List (List α))
  | [] => [[]]
  | [] :: words => [] :: betweenEnded words
  | word :: words =>
    match betweenEnded words with
    | [] => [[word]]
    | run :: runs => (word :: run) :: runs

/-- What follows a letter in the words that start with it. -/
def behindFirst {α : Type} [DecidableEq α] (a : α) (words : List (List α)) : List (List α) :=
  words.filterMap fun
    | [] => none
    | b :: word => if a = b then some word else none

/-- The room of the tree of words of less than `n` letters. Its root chooses between runs of words,
    and ends between them; each run branches by the first letter. -/
def treeSize {α : Type} [DecidableEq α] : Nat → List (List α) → Nat
  | 0, _ => 0
  | n + 1, words =>
    if words.all List.isEmpty then 0
    else
      let runs := betweenEnded (dropEnded words)
      let full := runs.filter (· ≠ [])
      state + alternative * (full.length + (runs.length - 1)) +
        (full.map fun run =>
          let firsts := (run.filterMap List.head?).eraseDups
          (if firsts.length = 1 then state else state + transition * firsts.length) +
            (firsts.map fun a => treeSize n (behindFirst a run)).sum).sum

/-- The room to read one of several texts. -/
def textsSize (d : Direction) (texts : List (List Char)) : Nat :=
  let words := texts.map (bytes d)
  state + treeSize ((words.map List.length).foldl max 0 + 1) words

end R3000.Pattern
