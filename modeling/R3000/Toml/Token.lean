import R3000.Text.Numeral

/-!
Tokens of TOML text. The lexer is a machine that takes one character at a time: it stands between
tokens, in a comment, in a run of plain characters, or somewhere in a quoted text. Line ends count
as tokens outside brackets only. Dots and colons make no token, because no value that has them is
a setting.
-/

namespace R3000.Toml

/-- A token. A text remembers whether it could span lines. -/
inductive Token where
  | plain (run : List Char)
  | text (spansLines : Bool) (content : List Char)
  | equals
  | comma
  | opening
  | closing
  | lineEnd
  deriving Repr, DecidableEq

/-- Where the lexer stands in an escape sequence. -/
inductive Escape where
  | no
  | backslash
  | digits (left value : Nat)
  /-- blanks after a backslash, before the line end that it continues over -/
  | beforeLineEnd
  /-- blanks and line ends after that line end -/
  | afterLineEnd
  deriving Repr, DecidableEq

/-- Where the lexer stands. Content is kept in reverse, and `quotes` counts the delimiters that
    may be the end of a text. -/
inductive Position where
  | between
  | comment
  /-- behind a carriage return, which a line feed has to follow -/
  | carriageReturn
  | plain (run : List Char)
  | opened (delimiter : Char)
  | openedTwice (delimiter : Char)
  | line (delimiter : Char) (escape : Escape) (content : List Char)
  | lines (delimiter : Char) (escape : Escape) (quotes : Nat) (content : List Char)
  /-- at the start of a text that spans lines, where a line end is dropped -/
  | linesStart (delimiter : Char)
  | linesStartReturn (delimiter : Char)
  /-- behind a carriage return in a text -/
  | linesReturn (delimiter : Char) (escape : Escape) (content : List Char)
  deriving Repr, DecidableEq

/-- The lexer: where it stands, whether inside brackets, and the tokens so far in reverse. -/
structure Lexer where
  position : Position := .between
  bracketed : Bool := false
  tokens : List Token := []

/-- The characters of keys and integers. -/
def isPlain (c : Char) : Bool := c.isAlphanum || c == '_' || c == '-' || c == '+'

/-- The characters that may stand in comments and texts as they are. -/
def isVisible (c : Char) : Bool := c == '\t' || (0x20 ≤ c.toNat && c.toNat != 0x7F)

/-- The blanks within a line. -/
def isSpace (c : Char) : Bool := c == ' ' || c == '\t'

/-- The character of a code point, if it has one. -/
def scalar? (n : Nat) : Option Char := if n.isValidChar then some (Char.ofNat n) else none

/-- What the character behind a backslash starts: a character, or a number of digits. -/
def escape? : Char → Option (Char ⊕ Nat)
  | 'b' => some (.inl '\x08')
  | 't' => some (.inl '\t')
  | 'n' => some (.inl '\n')
  | 'f' => some (.inl '\x0c')
  | 'r' => some (.inl '\r')
  | 'e' => some (.inl '\x1b')
  | '"' => some (.inl '"')
  | '\\' => some (.inl '\\')
  | 'x' => some (.inr 2)
  | 'u' => some (.inr 4)
  | 'U' => some (.inr 8)
  | _ => none

/-- The next place in an escape sequence that has not ended, or the character that it denotes. -/
def Escape.next? (e : Escape) (c : Char) : Option (Char ⊕ Escape) :=
  match e with
  | .backslash => (escape? c).map fun
    | .inl d => .inl d
    | .inr n => .inr (.digits n 0)
  | .digits left value =>
    (Text.digit? 16 c).bind fun d =>
      if left ≤ 1 then (scalar? (16 * value + d)).map .inl
      else some (.inr (.digits (left - 1) (16 * value + d)))
  | _ => none

namespace Lexer

/-- Moves to a position. -/
def moved (l : Lexer) (p : Position) : Lexer := { l with position := p }

/-- Ends a token. -/
def emit (l : Lexer) (t : Token) : Lexer :=
  { l with position := .between, tokens := t :: l.tokens }

/-- Ends a line, which means nothing inside brackets. -/
def endLine (l : Lexer) : Lexer := if l.bracketed then l.moved .between else l.emit .lineEnd

/-- Takes a character between tokens. -/
def between (l : Lexer) (c : Char) : Option Lexer :=
  if isSpace c then some (l.moved .between)
  else if c == '\n' then some l.endLine
  else if c == '\r' then some (l.moved .carriageReturn)
  else if c == '#' then some (l.moved .comment)
  else if c == '=' then some (l.emit .equals)
  else if c == ',' then some (l.emit .comma)
  else if c == '[' then some { l.emit .opening with bracketed := true }
  else if c == ']' then some { l.emit .closing with bracketed := false }
  else if c == '"' || c == '\'' then some (l.moved (.opened c))
  else if isPlain c then some (l.moved (.plain [c]))
  else none

/-- Takes a character in a text on one line. -/
def inLine (l : Lexer) (d : Char) (e : Escape) (content : List Char) (c : Char) : Option Lexer :=
  if e = .no then
    if c == d then some (l.emit (.text false content.reverse))
    else if c == '\\' && d == '"' then some (l.moved (.line d .backslash content))
    else if isVisible c then some (l.moved (.line d .no (c :: content)))
    else none
  else
    (e.next? c).map fun
      | .inl r => l.moved (.line d .no (r :: content))
      | .inr f => l.moved (.line d f content)

/-- Takes a character other than the delimiter in a text over lines. -/
def inLinesPlain (l : Lexer) (d : Char) (content : List Char) (c : Char) : Option Lexer :=
  if c == '\\' && d == '"' then some (l.moved (.lines d .backslash 0 content))
  else if c == '\r' then some (l.moved (.linesReturn d .no content))
  else if c == '\n' || isVisible c then some (l.moved (.lines d .no 0 (c :: content)))
  else none

/-- Takes a character in a text over lines. Three delimiters end it, and up to two more before them
    belong to it. -/
def inLines (l : Lexer) (d : Char) (e : Escape) (quotes : Nat) (content : List Char) (c : Char) :
    Option Lexer :=
  let unescaped : Option Lexer :=
    if c == d then
      if quotes = 5 then none else some (l.moved (.lines d .no (quotes + 1) content))
    else if 3 ≤ quotes then
      (l.emit (.text true (content.reverse ++ List.replicate (quotes - 3) d))).between c
    else l.inLinesPlain d (List.replicate quotes d ++ content) c
  match e with
  | .no => unescaped
  | .beforeLineEnd =>
    if isSpace c then some (l.moved (.lines d .beforeLineEnd 0 content))
    else if c == '\n' then some (l.moved (.lines d .afterLineEnd 0 content))
    else if c == '\r' then some (l.moved (.linesReturn d .afterLineEnd content))
    else none
  | .afterLineEnd =>
    if isSpace c || c == '\n' then some (l.moved (.lines d .afterLineEnd 0 content))
    else if c == '\r' then some (l.moved (.linesReturn d .afterLineEnd content))
    else unescaped
  | .backslash =>
    if isSpace c then some (l.moved (.lines d .beforeLineEnd 0 content))
    else if c == '\n' then some (l.moved (.lines d .afterLineEnd 0 content))
    else if c == '\r' then some (l.moved (.linesReturn d .afterLineEnd content))
    else (e.next? c).map fun
      | .inl r => l.moved (.lines d .no 0 (r :: content))
      | .inr f => l.moved (.lines d f 0 content)
  | .digits _ _ => (e.next? c).map fun
    | .inl r => l.moved (.lines d .no 0 (r :: content))
    | .inr f => l.moved (.lines d f 0 content)

/-- Takes a character. -/
def step (l : Lexer) (c : Char) : Option Lexer :=
  match l.position with
  | .between => l.between c
  | .comment =>
    if c == '\n' then some l.endLine
    else if c == '\r' then some (l.moved .carriageReturn)
    else if isVisible c then some l
    else none
  | .carriageReturn => if c == '\n' then some l.endLine else none
  | .plain run =>
    if isPlain c then some (l.moved (.plain (c :: run)))
    else (l.emit (.plain run.reverse)).between c
  | .opened d => if c == d then some (l.moved (.openedTwice d)) else l.inLine d .no [] c
  | .openedTwice d =>
    if c == d then some (l.moved (.linesStart d)) else (l.emit (.text false [])).between c
  | .line d e content => l.inLine d e content c
  | .linesStart d =>
    if c == '\n' then some (l.moved (.lines d .no 0 []))
    else if c == '\r' then some (l.moved (.linesStartReturn d))
    else l.inLines d .no 0 [] c
  | .linesStartReturn d => if c == '\n' then some (l.moved (.lines d .no 0 [])) else none
  | .lines d e quotes content => l.inLines d e quotes content c
  | .linesReturn d e content =>
    if c == '\n' then
      some (l.moved (.lines d e 0 (if e = .no then '\n' :: '\r' :: content else content)))
    else none

/-- Ends the text. -/
def finish (l : Lexer) : Option (List Token) :=
  match l.position with
  | .between | .comment => some l.tokens.reverse
  | .plain run => some (l.emit (.plain run.reverse)).tokens.reverse
  | .openedTwice _ => some (l.emit (.text false [])).tokens.reverse
  | .lines d .no quotes content =>
    if 3 ≤ quotes then
      some (l.emit (.text true (content.reverse ++ List.replicate (quotes - 3) d))).tokens.reverse
    else none
  | _ => none

end Lexer

/-- The tokens of a text, unless it has none. -/
def tokens? (s : List Char) : Option (List Token) :=
  ((Text.dropByteOrderMark s).foldlM Lexer.step ({} : Lexer)).bind Lexer.finish

end R3000.Toml
