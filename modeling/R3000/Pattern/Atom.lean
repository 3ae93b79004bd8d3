import R3000.Pattern.Options
import R3000.Text.Numeral

/-!
The atoms of a pattern's text: what one character stands for, or a backslash and what follows it.
-/

namespace R3000.Pattern

/-- What a character or an escape stands for. -/
inductive Atom where
  /-- a character; some escapes name it as a byte -/
  | literal (c : Char) (byte : Bool)
  | set (s : CharSet)
  | look (l : Look)
  deriving Repr, DecidableEq

namespace Atom

/-- The character of a code point. -/
def scalar? (n : Nat) : Option Char := if n.isValidChar then some (Char.ofNat n) else none

/-- Reads a number of hexadecimal digits after those that gave `acc`. -/
def fixedHex? (o : Options) : Nat → Nat → List Char → Option (Nat × List Char)
  | 0, acc, s => some (acc, s)
  | n + 1, acc, s =>
    match s with
    | [] => none
    | c :: s => (Text.digit? 16 c).bind fun d => fixedHex? o n (16 * acc + d) (o.gap s)

/-- Reads hexadecimal digits before a closing brace. -/
def bracedHex? (o : Options) (s : List Char) : Option (Nat × List Char) :=
  match o.run (fun c => (Text.digit? 16 c).isSome) s with
  | (digits, '\x7d' :: t) => (Text.natural? 16 digits).map (·, t)
  | _ => none

/-- A character by its code point, of as many digits as the escape has, or between braces. -/
def hex? (o : Options) (width : Nat) (s : List Char) : Option (Atom × List Char) :=
  match o.gap s with
  | '\x7b' :: t => (bracedHex? o (o.gap t)).bind fun (n, t) => (scalar? n).map (.literal · false, t)
  | s =>
    (fixedHex? o width 0 s).bind fun (n, t) => (scalar? n).map (.literal · (width = 2), t)

/-- A set of ASCII characters. Those of all scripts are not supported. -/
def ascii? (o : Options) (set : CharSet) (s : List Char) : Option (Atom × List Char) :=
  if o.scripts then none else some (.set set, s)

/-- A condition on words. -/
def word (o : Options) (l : WordLook) : Atom := .look (.word l o.scripts)

/-- The condition on words of a name. -/
def wordLook? : String → Option WordLook
  | "start" => some .start
  | "end" => some .stop
  | "start-half" => some .startHalf
  | "end-half" => some .stopHalf
  | _ => none

/-- A boundary of a word: any, or the one named between braces. Braces around a number repeat. -/
def boundary? (o : Options) (s : List Char) : Option (Atom × List Char) :=
  match s with
  | '\x7b' :: t =>
    match o.gap t, o.run (fun c => c.isAlpha || c == '-') (o.gap t) with
    | [], _ => none
    | _, ([], _) => some (word o .boundary, s)
    | _, (name, '\x7d' :: t) => (wordLook? (.ofList name)).map (word o ·, t)
    | _, _ => none
  | s => some (word o .boundary, s)

/-- Whether a backslash before the character only takes its meaning as a sign away. -/
def isEscapable (c : Char) : Bool := c.toNat < 128 && !c.isAlphanum

/-- Reads what follows a backslash. -/
def escape? (o : Options) : List Char → Option (Atom × List Char)
  | [] => none
  | 'x' :: s => hex? o 2 s
  | 'u' :: s => hex? o 4 s
  | 'U' :: s => hex? o 8 s
  | 'd' :: s => ascii? o .digit s
  | 's' :: s => ascii? o .space s
  | 'w' :: s => ascii? o .word s
  | 'a' :: s => some (.literal '\x07' false, s)
  | 'f' :: s => some (.literal '\x0C' false, s)
  | 't' :: s => some (.literal '\t' false, s)
  | 'n' :: s => some (.literal '\n' false, s)
  | 'r' :: s => some (.literal '\r' false, s)
  | 'v' :: s => some (.literal '\x0B' false, s)
  | 'A' :: s => some (.look .textStart, s)
  | 'z' :: s => some (.look .textEnd, s)
  | 'b' :: s => boundary? o s
  | 'B' :: s => some (word o .inside, s)
  | '<' :: s => some (word o .start, s)
  | '>' :: s => some (word o .stop, s)
  | c :: s => if isEscapable c then some (.literal c false, s) else none

/-- Reads an atom outside brackets. -/
def read? (o : Options) : List Char → Option (Atom × List Char)
  | [] => none
  | '\\' :: s => escape? o s
  | '.' :: s => o.dot?.map (.set ·, s)
  | '^' :: s => some (.look o.start, s)
  | '$' :: s => some (.look o.stop, s)
  | c :: s => some (.literal c false, s)

/-- The pattern of an atom. The cases of a letter are known in ASCII only, where a byte above 127 is
    no character. -/
def pattern? (o : Options) : Atom → Option Pattern
  | .literal c byte =>
    if o.needsCases ∨ (byte ∧ !o.scripts ∧ 128 ≤ c.toNat) then none
    else some (o.one (if otherCase c = c then .single c else o.cased (.single c)))
  | .set s => some (o.one s)
  | .look l => some (.look l)

/-- The character of an atom in a class: in ASCII it has to be ASCII. -/
def classChar? (o : Options) : Atom → Option Char
  | .literal c _ => if o.needsCases ∨ (!o.scripts ∧ 128 ≤ c.toNat) then none else some c
  | _ => none

end Atom

end R3000.Pattern
