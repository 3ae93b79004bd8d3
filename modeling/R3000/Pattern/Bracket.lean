import R3000.Pattern.Atom

/-!
Bracketed classes: characters, ranges, named sets and nested brackets between brackets, and the
operations on sets between such runs. Operations associate to the left. A class is read by a machine
that keeps the brackets that are still open.
-/

namespace R3000.Pattern

/-- A set in a class and how deeply it nests. -/
structure Operand where
  set : CharSet
  depth : Nat := 0
  deriving Repr, DecidableEq

namespace Operand

/-- The union of operands, the last one first. Two or more nest one deeper. -/
def union : List Operand → Operand
  | [] => ⟨.empty, 0⟩
  | [a] => a
  | as => ⟨.unions (as.map set), (as.map depth).foldl max 0 + 1⟩

/-- Two operands under an operation, in whose sets case may be ignored. -/
def operate (o : Options) (f : CharSet → CharSet → CharSet) (a b : Operand) : Operand :=
  ⟨f (o.cased a.set) (o.cased b.set), max a.depth b.depth + 1⟩

end Operand

/-- An open bracket: whether it is negated, the operation that waits for its right side, and the
    operands since then, the last one first. -/
structure Bracket where
  negated : Bool := false
  waiting : Option ((CharSet → CharSet → CharSet) × Operand) := none
  items : List Operand := []
  /-- no more than minus signs have been read -/
  leading : Bool := true

namespace Bracket

/-- Opens a bracket behind its sign. -/
def opened (o : Options) (s : List Char) : Bracket × List Char :=
  match o.gap s with
  | '^' :: t => ({ negated := true }, t)
  | t => ({}, t)

/-- Adds an operand. -/
def add (b : Bracket) (a : Operand) : Bracket :=
  { b with items := a :: b.items, leading := false }

/-- The value of what has been read. -/
def value (b : Bracket) (o : Options) : Operand :=
  match b.waiting with
  | none => .union b.items
  | some (f, a) => .operate o f a (.union b.items)

/-- Lets an operation wait for its right side. -/
def operate (b : Bracket) (o : Options) (f : CharSet → CharSet → CharSet) : Bracket :=
  { b with waiting := some (f, b.value o), items := [], leading := false }

/-- The class behind its closing bracket. Negated ASCII classes would hold half characters. -/
def closed? (b : Bracket) (o : Options) : Option Operand :=
  let a := b.value o
  if !b.negated then some ⟨o.cased a.set, a.depth + 1⟩
  else if o.scripts then some ⟨.compl (o.cased a.set), a.depth + 1⟩
  else none

/-- A named set between colons, behind its opening bracket. -/
def named? (s : List Char) : Option (Bool × CharSet × List Char) :=
  match s with
  | ':' :: t =>
    let (negated, t) := match t with
      | '^' :: u => (true, u)
      | _ => (false, t)
    match t.dropWhile (· != ':') with
    | ':' :: ']' :: u =>
      (CharSet.named? (.ofList (t.takeWhile (· != ':')))).map fun set => (negated, set, u)
    | _ => none
  | _ => none

/-- A character or an escape in a class. -/
def atom? (o : Options) : List Char → Option (Atom × List Char)
  | [] => none
  | '\\' :: s => Atom.escape? o s
  | c :: s => some (.literal c false, s)

/-- A character, a range or the set of an escape. A minus sign before the closing bracket or before
    another one is no sign of a range. -/
def item? (o : Options) (s : List Char) : Option (Operand × List Char) :=
  (atom? o s).bind fun (a, s) =>
    match o.gap s with
    | [] => none
    | c :: t =>
      if c ≠ '-' ∨ o.next? t = some ']' ∨ o.next? t = some '-' then
        match a with
        | .set set => some (⟨set, 0⟩, c :: t)
        | a => (a.classChar? o).map fun x => (⟨.single x, 0⟩, c :: t)
      else
        (atom? o (o.gap t)).bind fun (b, t) =>
          match a.classChar? o, b.classChar? o with
          | some x, some y => if x ≤ y then some (⟨.range x y, 0⟩, t) else none
          | _, _ => none

/-- Reads a class behind its opening bracket, with `b` the innermost of the open brackets and
    `outer` those around it. -/
def read? (o : Options) : Nat → Bracket → List Bracket → List Char → Option (Operand × List Char)
  | 0, _, _, _ => none
  | n + 1, b, outer, s =>
    match o.gap s with
    | [] => none
    | ']' :: t =>
      if b.leading ∧ b.items = [] then
        ((Atom.literal ']' false).classChar? o).bind fun x =>
          read? o n (b.add ⟨.single x, 0⟩) outer t
      else
        (b.closed? o).bind fun a =>
          match outer with
          | [] => some (a, t)
          | c :: outer => read? o n (c.add a) outer t
    | '[' :: t =>
      match named? t with
      | some (negated, set, u) =>
        if o.needsCases ∨ (negated ∧ !o.scripts) then none
        else
          let set := o.cased set
          read? o n (b.add ⟨if negated then .compl set else set, 0⟩) outer u
      | none => read? o n (opened o t).1 (b :: outer) (opened o t).2
    | '&' :: '&' :: t => read? o n (b.operate o .inter) outer t
    | '~' :: '~' :: t => read? o n (b.operate o .symmDiff) outer t
    | '-' :: t =>
      if b.leading then
        ((Atom.literal '-' false).classChar? o).bind fun x =>
          read? o n { b with items := ⟨.single x, 0⟩ :: b.items } outer t
      else
        match t with
        | '-' :: u => read? o n (b.operate o .diff) outer u
        | t => (item? o ('-' :: t)).bind fun (a, u) => read? o n (b.add a) outer u
    | t => (item? o t).bind fun (a, u) => read? o n (b.add a) outer u

/-- Reads a class behind its opening bracket. Each step reads a character at least. -/
def class? (o : Options) (s : List Char) : Option (Operand × List Char) :=
  read? o (s.length + 1) (opened o s).1 [] (opened o s).2

end Bracket

end R3000.Pattern
