import R3000.Text.Bounds

/-!
Sets of characters, each kept as the bounds of its runs of code points, so that the number of runs
is the least. Operations keep the bounds in order, which the sets carry.
-/

namespace R3000

/-- A set of characters. -/
structure CharSet where
  /-- the code points where membership changes -/
  bounds : List Nat
  ascending : bounds.Pairwise (· < ·)
  deriving Repr, DecidableEq

/-- An ASCII letter in its other case; any other character as it is. -/
def otherCase (c : Char) : Char := if c.isUpper then c.toLower else c.toUpper

namespace CharSet

/-- Membership of a character. -/
def contains (s : CharSet) (c : Char) : Bool := Text.inBounds c.toNat s.bounds

/-- The set of no characters. -/
def empty : CharSet := ⟨[], .nil⟩

/-- The set of all characters. Surrogates are code points without a character. -/
def all : CharSet := ⟨[0, 0xD800, 0xE000, 0x110000], by decide⟩

/-- The set that holds one character. -/
def single (c : Char) : CharSet := ⟨[c.toNat, c.toNat + 1], by simp⟩

/-- The set whose members `f` decides from membership in two sets. -/
def combine (f : Bool → Bool → Bool) (s t : CharSet) : CharSet :=
  ⟨Text.combine f false false s.bounds t.bounds,
    Text.pairwise_combine f false false s.ascending t.ascending⟩

/-- The characters in one of two sets. -/
def union : CharSet → CharSet → CharSet := combine (· || ·)

/-- The characters in both of two sets. -/
def inter : CharSet → CharSet → CharSet := combine (· && ·)

/-- The characters in a set and not in another. -/
def diff : CharSet → CharSet → CharSet := combine (· && !·)

/-- The characters in just one of two sets. -/
def symmDiff : CharSet → CharSet → CharSet := combine (· ^^ ·)

/-- The characters not in a set. -/
def compl (s : CharSet) : CharSet := all.diff s

/-- The characters from one to another, both included. -/
def range (first last : Char) : CharSet :=
  if h : first ≤ last then
    all.inter ⟨[first.toNat, last.toNat + 1], by simpa using Nat.lt_succ_of_le h⟩
  else empty

/-- The union of sets. -/
def unions (ss : List CharSet) : CharSet := ss.foldl union empty

/-- The ASCII letters. -/
def letters : List Char := ((List.range 128).map Char.ofNat).filter Char.isAlpha

/-- A set and the ASCII letters whose other case is in it. -/
def eitherCase (s : CharSet) : CharSet :=
  s.union (unions ((letters.filter fun c => s.contains (otherCase c)).map single))

/-- Whether a set holds ASCII characters only. -/
def isAscii (s : CharSet) : Bool := s.bounds.all (· ≤ 128)

/-- The runs with the given bounds, each by its first and its last member. -/
def runsOf : List Nat → List (Nat × Nat)
  | a :: b :: bs => (a, b - 1) :: runsOf bs
  | _ => []

/-- The runs of code points in a set. -/
def runs (s : CharSet) : List (Nat × Nat) := runsOf s.bounds

/-- The character of a set that holds just one. -/
def single? (s : CharSet) : Option Char := (s.bounds.head?.map Char.ofNat).filter (s = single ·)

/-! ## Named sets -/

/-- The union of ranges. -/
def ofRanges (rs : List (Char × Char)) : CharSet := unions (rs.map fun r => range r.1 r.2)

/-- Decimal digits. -/
def digit : CharSet := ofRanges [('0', '9')]

/-- ASCII blanks. -/
def space : CharSet := ofRanges [('\t', '\r'), (' ', ' ')]

/-- Letters, digits and the low line. -/
def word : CharSet := ofRanges [('0', '9'), ('A', 'Z'), ('_', '_'), ('a', 'z')]

/-- The ASCII set of a name. -/
def named? : String → Option CharSet
  | "alnum" => some (ofRanges [('0', '9'), ('A', 'Z'), ('a', 'z')])
  | "alpha" => some (ofRanges [('A', 'Z'), ('a', 'z')])
  | "ascii" => some (ofRanges [('\x00', '\x7F')])
  | "blank" => some (ofRanges [('\t', '\t'), (' ', ' ')])
  | "cntrl" => some (ofRanges [('\x00', '\x1F'), ('\x7F', '\x7F')])
  | "digit" => some digit
  | "graph" => some (ofRanges [('!', '~')])
  | "lower" => some (ofRanges [('a', 'z')])
  | "print" => some (ofRanges [(' ', '~')])
  | "punct" => some (ofRanges [('!', '/'), (':', '@'), ('[', '\x60'), ('\x7B', '~')])
  | "space" => some space
  | "upper" => some (ofRanges [('A', 'Z')])
  | "word" => some word
  | "xdigit" => some (ofRanges [('0', '9'), ('A', 'F'), ('a', 'f')])
  | _ => none

end CharSet

end R3000
