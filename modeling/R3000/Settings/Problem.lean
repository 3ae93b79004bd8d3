import R3000.Text.Quoted

/-!
Problems with settings: the reasons for which the settings of a run cannot be used, the text that
reports each, and the names of the variables that settings come from.
-/

namespace R3000

namespace Settings

/-- The variable that holds the path of a BIOS image. -/
def biosVariable : String := "PSXCORE_BIOS"

/-- The variable that holds the path of a trace. -/
def traceVariable : String := "PSXCORE_TRACE"

/-- The variable that holds a bound on the number of instructions. -/
def instructionsVariable : String := "PSXCORE_INSTRUCTIONS"

end Settings

/-- What is wrong with the settings of a run. Texts are kept as they were given. -/
inductive SettingsProblem where
  | malformed
  | badAddress (text : String)
  | badInstructionCount (text : String)
  | missingBios
  deriving Repr, DecidableEq

/-- The report of a problem with the settings. -/
def SettingsProblem.message : SettingsProblem → String
  | malformed => "TOML parse error"
  | badAddress t => "invalid address: " ++ Text.quoted t
  | badInstructionCount t =>
    Settings.instructionsVariable ++ " must be a number, got " ++ Text.quoted t
  | missingBios => "missing BIOS path"

end R3000
