import R3000.Error
import R3000.File
import R3000.Settings.Address
import R3000.Toml.Document

/-!
Settings of a run: what to load, how far to run, where to write a trace, where to stop, and how much
to log. They come in layers: a file or the defaults, environment variables on top, and the command
line above both.
-/

namespace R3000

/-- The settings of a run. -/
structure Settings where
  bios : Option String := none
  instructions : Option Nat := none
  trace : Option String := none
  breakpoints : List Word := []
  logLevel : Option String := none
  deriving Repr, DecidableEq

namespace Settings

/-- Gives one setting a value of its type and range. -/
def assign? (s : Settings) (key : List Char) (value : Toml.Value) : Option Settings :=
  match String.ofList key, value with
  | "bios", .text t => some { s with bios := some (.ofList t) }
  | "trace", .text t => some { s with trace := some (.ofList t) }
  | "log_level", .text t => some { s with logLevel := some (.ofList t) }
  | "instructions", .natural n =>
    if n < UInt64.size then some { s with instructions := some n } else none
  | "breakpoints", .naturals ns =>
    if ∀ n ∈ ns, n < UInt32.size then some { s with breakpoints := ns.map UInt32.ofNat } else none
  | _, _ => none

/-- The settings that a TOML text gives. -/
def ofToml (text : String) : Except SettingsProblem Settings :=
  match (Toml.document? text.toList).bind fun d => d.foldlM (fun s e => s.assign? e.1 e.2) {} with
  | some s => .ok s
  | none => .error .malformed

/-- The settings in a file, whose contents have to be UTF-8. -/
def ofFile : FileContent → Except Error Settings
  | .bytes contents =>
    match String.fromUTF8? contents with
    | some text => (ofToml text).mapError .settings
    | none => .error .inaccessible
  | _ => .error .inaccessible

/-- The value of a variable that is present and not empty. -/
def present? (lookup : String → Option String) (name : String) : Option String :=
  (lookup name).filter (· ≠ "")

/-- An instruction count in text, blanks around it. -/
def parseCount (text : String) : Option Nat :=
  Text.unsigned? 10 UInt64.size (Text.trim text.toList)

/-- The paths of the environment on top of settings. -/
def withPaths (s : Settings) (lookup : String → Option String) : Settings :=
  { s with
    bios := (present? lookup biosVariable).or s.bios
    trace := (present? lookup traceVariable).or s.trace }

/-- The environment on top of settings. A malformed count is a problem, and leaves the paths of the
    environment in place. -/
def withVariables (s : Settings) (lookup : String → Option String) :
    Except SettingsProblem Unit × Settings :=
  match present? lookup instructionsVariable with
  | none => (.ok (), s.withPaths lookup)
  | some text =>
    match parseCount text with
    | some n => (.ok (), { s.withPaths lookup with instructions := some n })
    | none => (.error (.badInstructionCount text), s.withPaths lookup)

end Settings

end R3000
