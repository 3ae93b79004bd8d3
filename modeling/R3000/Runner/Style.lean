/-!
Styles of text for terminals: plain, or with control sequences that switch attributes on and off
again.
-/

namespace R3000

/-- How text is written. -/
inductive Style where
  | plain
  | coloured
  deriving Repr, DecidableEq

namespace Style

/-- The style that the values of two variables ask for: one forbids colours, the other demands them
    where there is no terminal. -/
def automatic (forbidden demanded : Option String) : Style :=
  if forbidden.any (· ≠ "") then .plain
  else if demanded.any (· ≠ "0") then .coloured
  else .plain

/-- The style that a variable names, or else that two more ask for. -/
def named (name forbidden demanded : Option String) : Style :=
  match name with
  | some "always" => .coloured
  | some "never" => .plain
  | _ => automatic forbidden demanded

/-- Text with attributes, each a number. -/
def marked (s : Style) (attributes : List Nat) (text : String) : String :=
  match s with
  | plain => text
  | coloured =>
    String.join (attributes.map fun a => "\x1B[" ++ toString a ++ "m") ++ text ++ "\x1B[0m"

/-- A heading, bold and underlined. -/
def heading (s : Style) (text : String) : String := s.marked [1, 4] text

/-- A word that is written as it stands, in bold. -/
def literal (s : Style) (text : String) : String := s.marked [1] text

end Style

end R3000
