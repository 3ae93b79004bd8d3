import R3000.Pattern.CharSet

/-!
The UTF-8 forms of sets of characters: rows of spans of bytes, the bytes of a character each in the
span of its place. A run of code points is cut where the higher digits change, so that the spans of
a row combine freely.
-/

namespace R3000.CharSet

/-- The bytes from one to another, both included. -/
abbrev Span := Nat × Nat

/-- The span of the bytes behind the first one of a character. -/
def laterBytes : Span := (0x80, 0xBF)

/-- The number of values of some later bytes, of six bits each. -/
def values : (later : Nat) → Nat
  | 0 => 1
  | n + 1 => 64 * values n

/-- The rows for the numbers from one to another, written as a digit on top of `lead` and `n` later
    bytes of six bits each. Numbers under the least or the greatest digit have rows of their own
    unless all of them are meant. -/
def rowsFrom (lead : Nat) : Nat → Nat → Nat → List (List Span)
  | 0, first, last => [[(lead + first, lead + last)]]
  | n + 1, first, last =>
    let unit := values (n + 1)
    let low := first / unit
    let high := last / unit
    let under := fun digit first last =>
      (rowsFrom 0x80 n first last).map ((lead + digit, lead + digit) :: ·)
    if low = high then under low (first % unit) (last % unit)
    else
      let start := if first % unit = 0 then [] else under low (first % unit) (unit - 1)
      let stop := if last % unit = unit - 1 then [] else under high 0 (last % unit)
      let low := if first % unit = 0 then low else low + 1
      let high := if last % unit = unit - 1 then high + 1 else high
      let full :=
        if low < high then [(lead + low, lead + high - 1) :: List.replicate (n + 1) laterBytes]
        else []
      start ++ full ++ stop

/-- A length of forms: the code points that have it, and how their forms are made. -/
structure Width where
  least : Nat
  most : Nat
  lead : Nat
  /-- the number of bytes behind the first one -/
  later : Nat
  deriving Repr, DecidableEq

/-- The lengths from one byte to four. -/
def widths : List Width :=
  [⟨0, 0x7F, 0, 0⟩, ⟨0x80, 0x7FF, 0xC0, 1⟩, ⟨0x800, 0xFFFF, 0xE0, 2⟩, ⟨0x10000, 0x10FFFF, 0xF0, 3⟩]

/-- The rows of a length for the code points from one to another. -/
def Width.rows (w : Width) (first last : Nat) : List (List Span) :=
  if max first w.least ≤ min last w.most then
    rowsFrom w.lead w.later (max first w.least) (min last w.most)
  else []

/-- The rows of a set, in order. -/
def rows (s : CharSet) : List (List Span) :=
  s.runs.flatMap fun (first, last) => widths.flatMap (·.rows first last)

end R3000.CharSet
