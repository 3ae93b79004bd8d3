import R3000.Runner.Style
import R3000.Settings.Basic

/-!
The command line: options with values, two options without, and one path. Arguments are read from
left to right; the first that cannot be used, or that asks for help, ends the reading.
-/

namespace R3000

/-- What a command line asks for. -/
structure CommandLine where
  bios : Option String := none
  instructions : Option Nat := none
  trace : Option String := none
  breakpoints : List Word := []
  disassemble : Option Nat := none
  config : Option String := none
  json : Bool := false
  deriving Repr, DecidableEq

namespace CommandLine

/-- Why a command line is not run. -/
inductive Refusal where
  | help
  | misuse
  deriving Repr, DecidableEq

/-- The options that take a value. -/
inductive ValueOption where
  | instructions
  | trace
  | breakpoint
  | disassemble
  | config
  deriving Repr, DecidableEq

/-- What an argument is. -/
inductive Argument where
  | path (p : String)
  | value (option : ValueOption) (attached : Option String)
  | json
  | help
  /-- two dashes, behind which everything is a path -/
  | pathsOnly
  | unknown
  deriving Repr, DecidableEq

/-- The option of a long name. -/
def long? : String → Option ValueOption
  | "instructions" => some .instructions
  | "trace" => some .trace
  | "breakpoint" => some .breakpoint
  | "disassemble" => some .disassemble
  | "config" => some .config
  | _ => none

/-- The option of a letter. -/
def short? : Char → Option ValueOption
  | 'n' => some .instructions
  | 't' => some .trace
  | 'b' => some .breakpoint
  | 'd' => some .disassemble
  | 'c' => some .config
  | _ => none

/-- The argument with two dashes in front of a text. -/
def ofLong (s : List Char) : Argument :=
  let name := String.ofList (s.takeWhile (· != '='))
  match name, s.dropWhile (· != '=') with
  | "json", [] => .json
  | "help", [] => .help
  | _, [] =>
    match long? name with
    | some o => .value o none
    | none => .unknown
  | _, _ :: v =>
    match long? name with
    | some o => .value o (some (.ofList v))
    | none => .unknown

/-- The value that follows a letter in its argument. -/
def attached? : List Char → Option String
  | [] => none
  | '=' :: s => some (.ofList s)
  | s => some (.ofList s)

/-- The argument with a dash in front of a letter. -/
def ofShort (c : Char) (s : List Char) : Argument :=
  if c = 'h' then .help
  else
    match short? c with
    | some o => .value o (attached? s)
    | none => .unknown

/-- What an argument is. -/
def classify (a : String) : Argument :=
  match a.toList with
  | ['-', '-'] => .pathsOnly
  | '-' :: '-' :: s => ofLong s
  | '-' :: c :: s => ofShort c s
  | _ => .path a

/-- Whether an argument can be the value of the option before it. -/
def isValue (a : String) : Bool :=
  match a.toList with
  | '-' :: _ :: _ => false
  | _ => true

/-- Gives a setting its value once. -/
def once {α : Type} (before : Option α) (value : Option α) : Except Refusal (Option α) :=
  match before, value with
  | none, some v => .ok (some v)
  | _, _ => .error .misuse

/-- A path, which is not empty. -/
def path? (p : String) : Option String := if p = "" then none else some p

/-- Gives an option a value. -/
def assign (c : CommandLine) (o : ValueOption) (v : String) : Except Refusal CommandLine :=
  match o with
  | .instructions =>
    (once c.instructions (Text.unsigned? 10 UInt64.size v.toList)).map
      ({ c with instructions := · })
  | .disassemble =>
    (once c.disassemble (Text.unsigned? 10 UInt64.size v.toList)).map ({ c with disassemble := · })
  | .trace => (once c.trace (path? v)).map ({ c with trace := · })
  | .config => (once c.config (path? v)).map ({ c with config := · })
  | .breakpoint =>
    match parseAddress v with
    | .ok a => .ok { c with breakpoints := c.breakpoints ++ [a] }
    | .error _ => .error .misuse

/-- Takes a path. -/
def addPath (c : CommandLine) (p : String) : Except Refusal CommandLine :=
  (once c.bios (path? p)).map ({ c with bios := · })

/-- Reads arguments on top of those before them. -/
def readFrom (c : CommandLine) : List String → Except Refusal CommandLine
  | [] => .ok c
  | a :: rest =>
    match classify a with
    | .path p => (c.addPath p).bind fun c => readFrom c rest
    | .value o (some v) => (c.assign o v).bind fun c => readFrom c rest
    | .value o none =>
      match rest with
      | [] => .error .misuse
      | v :: rest =>
        if isValue v then (c.assign o v).bind fun c => readFrom c rest else .error .misuse
    | .json => if c.json then .error .misuse else readFrom { c with json := true } rest
    | .help => .error .help
    | .pathsOnly => rest.foldlM addPath c
    | .unknown => .error .misuse

/-- Reads a command line. -/
def read (arguments : List String) : Except Refusal CommandLine := readFrom {} arguments

/-- The column in which help explains options. -/
def helpColumn : Nat := 37

/-- The line of help about an option, with its letter, its name and the name of its value. -/
def helpLine (s : Style) (letter : Option Char) (name value explanation : String) : String :=
  let before := match letter with
    | some c => s.literal ("-" ++ c.toString) ++ ", "
    | none => "    "
  let gap := helpColumn - (8 + name.length + value.length)
  "  " ++ before ++ s.literal ("--" ++ name) ++ value ++ .ofList (List.replicate gap ' ') ++
    explanation

/-- The text that help prints. -/
def helpText (s : Style) : String :=
  "\n".intercalate [
    "Run a PlayStation BIOS image on the R3000 core",
    "",
    s.heading "Usage:" ++ " " ++ s.literal "psxcore" ++ " [OPTIONS] [BIOS_FILE]",
    "",
    s.heading "Arguments:",
    "  [BIOS_FILE]  Path to PlayStation BIOS file (e.g., SCPH1001.BIN)",
    "",
    s.heading "Options:",
    helpLine s (some 'n') "instructions" " <INSTRUCTIONS>"
      "Number of instructions to execute (default: until a fault)",
    helpLine s (some 't') "trace" " <FILE>" "Write an execution trace to FILE",
    helpLine s (some 'b') "breakpoint" " <ADDR>" "Stop when PC reaches ADDR (hex, repeatable)",
    helpLine s (some 'd') "disassemble" " <COUNT>"
      "Print COUNT instructions from the reset vector and exit",
    helpLine s (some 'c') "config" " <FILE>" "TOML configuration file",
    helpLine s none "json" "" "Print the final register snapshot as JSON",
    helpLine s (some 'h') "help" "" "Print help",
    ""]

end CommandLine

namespace Settings

/-- The command line on top of settings. -/
def withCommandLine (s : Settings) (c : CommandLine) : Settings :=
  { s with
    bios := c.bios.or s.bios
    instructions := c.instructions.or s.instructions
    trace := c.trace.or s.trace
    breakpoints := s.breakpoints ++ c.breakpoints }

/-- The settings of a run: a file, if it could be loaded, then variables, then the command line. -/
def layered (file : Except Error Settings) (lookup : String → Option String) (c : CommandLine) :
    Except Error Settings :=
  match file with
  | .error e => .error e
  | .ok s =>
    match s.withVariables lookup with
    | (.error p, _) => .error (.settings p)
    | (.ok (), t) => .ok (t.withCommandLine c)

end Settings

end R3000
