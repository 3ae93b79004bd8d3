import R3000.Toml.Token

/-!
Documents: the settings that TOML text assigns. A document is a sequence of lines that give a key a
text, a natural number or an array of natural numbers. Everything else that TOML allows is refused,
since no setting is of another type, and so is a key that is given twice.
-/

namespace R3000.Toml

/-- A value. -/
inductive Value where
  | text (content : List Char)
  | natural (n : Nat)
  | naturals (ns : List Nat)
  deriving Repr, DecidableEq

/-- Keys and their values, in order. -/
abbrev Document := List (List Char × Value)

/-- Reads digits after those that gave `acc`, single underscores between them. -/
def groupedFrom (base acc : Nat) : List Char → Option Nat
  | [] => some acc
  | '_' :: c :: s => (Text.digit? base c).bind fun d => groupedFrom base (base * acc + d) s
  | c :: s => (Text.digit? base c).bind fun d => groupedFrom base (base * acc + d) s

/-- Reads digits with single underscores between them. -/
def grouped? (base : Nat) : List Char → Option Nat
  | [] => none
  | c :: s => (Text.digit? base c).bind fun d => groupedFrom base d s

/-- Reads a decimal numeral, which starts with a zero only if it is one. -/
def decimal? : List Char → Option Nat
  | ['0'] => some 0
  | '0' :: _ => none
  | s => grouped? 10 s

/-- Reads an integer that is not negative: minus zero counts as one. -/
def natural? : List Char → Option Nat
  | '0' :: 'x' :: s => grouped? 16 s
  | '0' :: 'o' :: s => grouped? 8 s
  | '0' :: 'b' :: s => grouped? 2 s
  | ['-', '0'] => some 0
  | '+' :: s => decimal? s
  | s => decimal? s

/-- The key that a token names. -/
def key? : Token → Option (List Char)
  | .plain run => if run.contains '+' then none else some run
  | .text false content => some content
  | _ => none

/-- The elements of an array behind its opening bracket. -/
def elements? : List Token → Option (List Nat)
  | [.closing] => some []
  | [.plain run, .closing] => (natural? run).map ([·])
  | .plain run :: .comma :: ts => (natural? run).bind fun n => (elements? ts).map (n :: ·)
  | _ => none

/-- The value that tokens denote. -/
def value? : List Token → Option Value
  | [.text _ content] => some (.text content)
  | [.plain run] => (natural? run).map .natural
  | .opening :: ts => (elements? ts).map .naturals
  | _ => none

/-- The assignment of a line, if the line has tokens. -/
def assignment? : List Token → Option (Option (List Char × Value))
  | [] => some none
  | k :: .equals :: ts => (key? k).bind fun key => (value? ts).map fun v => some (key, v)
  | _ => none

/-- Tokens cut into lines. -/
def lines : List Token → List (List Token)
  | [] => [[]]
  | .lineEnd :: ts => [] :: lines ts
  | t :: ts =>
    match lines ts with
    | [] => [[t]]
    | l :: ls => (t :: l) :: ls

/-- The document of a text, unless the text is malformed. -/
def document? (s : List Char) : Option Document :=
  (tokens? s).bind fun ts =>
    ((lines ts).mapM assignment?).bind fun entries =>
      let d := entries.filterMap id
      if (d.map Prod.fst).Nodup then some d else none

end R3000.Toml
