/-!
Text without terminal control sequences. A machine follows the sequences as terminals read them, and
text outside them is kept: all but the control characters, of which tabs, line feeds, form feeds and
carriage returns are kept too. Behind one of those inside a sequence, text is kept up to the next
other control character, where the sequence goes on.
-/

namespace R3000.Text.Terminal

/-- Where a text stands in a control sequence. -/
inductive Place where
  | outside
  | escape
  | escapeInner
  | sequence
  | sequenceNumbers
  | sequenceInner
  | sequenceIgnored
  | device
  | deviceNumbers
  | deviceInner
  | deviceIgnored
  | deviceBody
  | systemCommand
  | string
  deriving Repr, DecidableEq

namespace Place

/-- The place that some controls lead to from everywhere. -/
def anywhere? (n : Nat) : Option Place :=
  if n = 0x18 ∨ n = 0x1A then some outside else if n = 0x1B then some escape else none

/-- The place after an ASCII character other than those controls. -/
def follow (p : Place) (n : Nat) : Place :=
  let isInner := 0x20 ≤ n && n ≤ 0x2F
  let isNumber := 0x30 ≤ n && n ≤ 0x3B
  let isMark := 0x3C ≤ n && n ≤ 0x3F
  let isFinal := 0x40 ≤ n && n ≤ 0x7E
  match p with
  | outside => outside
  | escape =>
    if isInner then escapeInner
    else if n = 0x50 then device
    else if n = 0x5B then sequence
    else if n = 0x5D then systemCommand
    else if n = 0x58 ∨ n = 0x5E ∨ n = 0x5F then string
    else if isNumber ∨ isMark ∨ isFinal then outside
    else escape
  | escapeInner => if isNumber ∨ isMark ∨ isFinal then outside else escapeInner
  | sequence =>
    if isInner then sequenceInner
    else if isNumber ∨ isMark then sequenceNumbers
    else if isFinal then outside
    else sequence
  | sequenceNumbers =>
    if isInner then sequenceInner
    else if isMark then sequenceIgnored
    else if isFinal then outside
    else sequenceNumbers
  | sequenceInner =>
    if isNumber ∨ isMark then sequenceIgnored else if isFinal then outside else sequenceInner
  | sequenceIgnored => if isFinal then outside else sequenceIgnored
  | device =>
    if isInner then deviceInner
    else if isNumber ∨ isMark then deviceNumbers
    else if isFinal then deviceBody
    else device
  | deviceNumbers =>
    if isInner then deviceInner
    else if isMark then deviceIgnored
    else if isFinal then deviceBody
    else deviceNumbers
  | deviceInner =>
    if isNumber ∨ isMark then deviceIgnored else if isFinal then deviceBody else deviceInner
  | deviceIgnored => deviceIgnored
  | deviceBody => deviceBody
  | systemCommand => if n = 0x07 then outside else systemCommand
  | string => string

/-- The place after an ASCII character. -/
def next (p : Place) (n : Nat) : Place := (anywhere? n).getD (p.follow n)

/-- The place after a character that is not ASCII. Its bytes are read one by one, and the byte of
    the string terminator ends the sequences that it can end. -/
def nextWide (p : Place) (c : Char) : Place :=
  match p with
  | deviceIgnored | deviceBody | string =>
    if (String.utf8EncodeChar c).contains 0x9C then outside else p
  | _ => p

/-- Whether controls take effect there. -/
def obeysControls : Place → Bool
  | outside | escape | escapeInner => true
  | sequence | sequenceNumbers | sequenceInner | sequenceIgnored => true
  | _ => false

end Place

/-- The controls that are kept. -/
def isLayout (c : Char) : Bool := ['\t', '\n', '\x0C', '\r'].contains c

/-- Printable ASCII characters. -/
def isGraphic (c : Char) : Bool := 0x20 ≤ c.toNat && c.toNat ≤ 0x7E

/-- What the machine remembers: whether it keeps text, and the place in a sequence. -/
structure State where
  keeps : Bool := false
  place : Place := .outside
  deriving Repr, DecidableEq

namespace State

/-- Takes a character where text is not kept. The character is kept if the machine then keeps
    text. -/
def skip (p : Place) (c : Char) : State :=
  if 128 ≤ c.toNat then
    if p = .outside then ⟨true, .outside⟩ else ⟨false, p.nextWide c⟩
  else
    ⟨p = .outside && isGraphic c || p.obeysControls && isLayout c, p.next c.toNat⟩

/-- Takes a character. -/
def step (s : State) (c : Char) : State :=
  if !s.keeps then skip s.place c
  else if 128 ≤ c.toNat then ⟨true, .outside⟩
  else if isGraphic c || isLayout c then s
  else skip ((Place.anywhere? c.toNat).getD s.place) c

end State

/-- The characters that are kept from a state on. -/
def keptFrom (s : State) : List Char → List Char
  | [] => []
  | c :: cs =>
    let s := s.step c
    if s.keeps then c :: keptFrom s cs else keptFrom s cs

/-- A text without control sequences. -/
def kept (s : String) : String := .ofList (keptFrom {} s.toList)

end R3000.Text.Terminal
