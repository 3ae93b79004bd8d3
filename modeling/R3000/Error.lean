import R3000.Fault
import R3000.Memory.Region
import R3000.Settings.Problem

/-!
Errors: all that can go wrong around the machine, from its faults to images and settings that a
host cannot use, and the text that reports each.
-/

namespace R3000

/-- Why an operation failed. -/
inductive Error where
  | fault (fault : Fault)
  | biosNotFound (path : String)
  | biosTooLarge (size : Nat)
  | inaccessible
  | settings (problem : SettingsProblem)
  deriving Repr, DecidableEq

namespace Error

/-- The class of an error. -/
def kind : Error → FaultKind
  | fault f => f.kind
  | _ => .host

/-- The report of an error. -/
def message : Error → String
  | fault f => f.message
  | biosNotFound path => "BIOS file not found: " ++ path
  | biosTooLarge size =>
    "Invalid BIOS size: " ++ Text.number size ++ " bytes (expected at most " ++
      Text.number Region.bios.size ++ ")"
  | inaccessible => "I/O error"
  | settings p => "Config error: " ++ p.message

end Error

end R3000
