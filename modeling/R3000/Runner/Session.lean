import R3000.Cpu.Snapshot
import R3000.Runner.Arguments
import R3000.Runner.Dotenv
import R3000.Runner.Log
import R3000.Runner.Variables
import R3000.Monitor.Basic

/-!
A session of the runner: it takes variables from a file, reads the command line, layers the
settings, loads an image, and lists or runs it. All contact with the outside goes through a host,
so a session is a function of what its host answers.
-/

namespace R3000

/-- The outside of a session. -/
structure Host (m : Type → Type) where
  /-- reads a file -/
  read : String → m FileContent
  /-- makes an empty file, and says whether that was possible -/
  create : String → m Bool
  /-- writes the text of a file that was made -/
  write : String → String → m Unit
  /-- the value of an environment variable -/
  environment : String → m (Option String)
  /-- writes to standard output -/
  print : String → m Unit
  /-- writes a line of the log with a message -/
  log : Style → Log.Level → String → m Unit
  /-- writes a message outside the log -/
  complain : String → m Unit

namespace Session

/-- The name under which the runner logs. -/
def target : String := "psxcore"

/-- The variable that holds the log filter. -/
def logVariable : String := "RUST_LOG"

/-- The variable that names the style of the log. -/
def logStyleVariable : String := "RUST_LOG_STYLE"

/-- The variable that forbids colours. -/
def noColourVariable : String := "NO_COLOR"

/-- The variable that demands colours. -/
def colourVariable : String := "CLICOLOR_FORCE"

/-- The filter where none is given. -/
def defaultFilter : String := "info"

/-- The file that variables come from. -/
def variablesFile : String := ".env"

/-- The first line of the log. -/
def banner : String := "psxcore v0.1.0"

/-- The exit status of a session. -/
abbrev Status := UInt32

/-- The log lines about a fault. -/
def faultLines (f : Fault) (s : Monitor) : List String :=
  ["Fault: " ++ f.message,
    "At PC=" ++ s.machine.cpu.currentPc.hex ++ ": " ++
      (match s.instructionAtCurrentPc with
      | some i => i.mnemonic
      | none => "instruction fetch failed"),
    "Instruction count: " ++ Text.number s.cycles]

/-- The log line about the end of a run, if it ended by itself. -/
def outcomeLines : Outcome → List String
  | .breakpoint a => ["Stopped at breakpoint " ++ a.hex]
  | .limitReached => ["Instruction limit reached"]
  | .unfinished => []

section Monadic

variable {m : Type → Type} [Monad m] (host : Host m)

/-- The value of a variable: of the environment, or else of those taken from a file. -/
def lookup (added : Variables) (name : String) : m (Option String) := do
  match ← host.environment name with
  | some v => return some v
  | none => return added.find? name

/-- The text of a value. -/
def expand (added : Variables) (parts : List Dotenv.Part) : m String := do
  let texts ← parts.mapM fun
    | .literal c => pure [c]
    | .reference name => return ((← lookup host added (.ofList name)).getD "").toList
  return .ofList texts.flatten

/-- Adds a variable unless it is set. There is no answer if its value cannot be stored. -/
def addVariable (added : Option Variables) (a : Dotenv.Assignment) : m (Option Variables) := do
  match added with
  | none => return none
  | some added =>
    let name := String.ofList a.name
    let value ← expand host added a.value
    match ← lookup host added name with
    | some _ => return some added
    | none => return if Variables.isStorable value then some ((name, value) :: added) else none

/-- The variables that the file of variables adds, if they can all be stored. -/
def fileVariables : m (Option Variables) := do
  match ← host.read variablesFile with
  | .missing => return some []
  | .unreadable =>
    host.complain ("Warning: Failed to load " ++ variablesFile ++ " file")
    return some []
  | .bytes b =>
    match String.fromUTF8? b with
    | none =>
      host.complain ("Warning: Failed to load " ++ variablesFile ++ " file")
      return some []
    | some text =>
      let (assignments, complete) := Dotenv.assignments text.toList
      let added ← assignments.foldlM (addVariable host) (some [])
      if added.isNone then
        host.complain ("a value in " ++ variablesFile ++ " cannot be stored")
      else if !complete then
        host.complain ("Warning: Failed to load " ++ variablesFile ++ " file")
      return added

/-- Writes a log line if it is shown. -/
def report (view : Log.View) (level : Log.Level) (message : String) : m Unit :=
  if view.filter.shows target level message then
    host.log view.style level (Log.written view.style message)
  else pure ()

/-- Prints a listing from the first instruction on. -/
def list (s : Monitor) (count : Nat) : m Status := do
  match s.listing s.pc count with
  | .error _ => return 1
  | .ok lines =>
    host.print (String.join (lines.map fun l => l.text ++ "\n"))
    return 0

/-- Runs a monitor that is ready, and reports how the run ended. -/
def execute (view : Log.View) (settings : Settings) (json : Bool) (fuel : Nat) (s : Monitor) :
    m Status := do
  report host view .info "Starting emulation..."
  let (outcome, s) := s.run fuel settings.instructions
  match settings.trace, s.tracing with
  | some path, some t => host.write path t.tracer.text
  | _, _ => pure ()
  match outcome with
  | .error f =>
    (faultLines f s).forM (report host view .error)
    host.print (s.machine.cpu.snapshot.text ++ "\n")
    return 1
  | .ok o =>
    (outcomeLines o).forM (report host view .info)
    report host view .info ("Total instructions: " ++ Text.number s.cycles)
    report host view .info ("Final PC: " ++ s.pc.hex)
    if json then host.print (s.machine.cpu.snapshot.json ++ "\n")
    return 0

/-- Loads the image that settings name, and lists or runs it. -/
def load (view : Log.View) (settings : Settings) (c : CommandLine) (fuel : Nat) :
    m Status := do
  match settings.bios with
  | none =>
    report host view .error
      ("No BIOS given (pass a path, set bios in the config or " ++ Settings.biosVariable ++ ")")
    return 1
  | some path =>
    report host view .info ("Loading BIOS from: " ++ path)
    match Monitor.ofFile path (← host.read path) with
    | .error e =>
      report host view .error ("Failed to load BIOS: " ++ e.message)
      return 1
    | .ok s =>
      match c.disassemble with
      | some count => list host s count
      | none =>
        let (started, s) ← match settings.trace with
          | some path => pure (s.enableTracing (← host.create path) 0)
          | none => pure (.ok (), s)
        match started with
        | .error _ => return 1
        | .ok () =>
          let s := settings.breakpoints.foldl Monitor.addBreakpoint s
          execute host view settings c.json fuel s

/-- A session that has its variables. -/
def runWith (added : Variables) (fuel : Nat) (arguments : List String) : m Status := do
  let noColour ← lookup host added noColourVariable
  let colour ← lookup host added colourVariable
  match CommandLine.read arguments with
  | .error .help =>
    host.print (CommandLine.helpText (.automatic noColour colour))
    return 0
  | .error .misuse =>
    host.complain "error: the arguments cannot be used; try --help"
    return 2
  | .ok c =>
    let names := [Settings.biosVariable, Settings.traceVariable,
      Settings.instructionsVariable]
    let values ← names.mapM (lookup host added)
    let file ← match c.config with
      | none => pure (.ok {})
      | some path => pure (Settings.ofFile (← host.read path))
    let settings := Settings.layered file (fun n => ((names.zip values).lookup n).join) c
    let level := (settings.toOption.bind Settings.logLevel).getD defaultFilter
    let filter := Log.Filter.ofText ((← lookup host added logVariable).getD level)
    let view := ⟨filter, .named (← lookup host added logStyleVariable) noColour colour⟩
    report host view .info banner
    match settings with
    | .error e =>
      report host view .error ("Failed to load configuration: " ++ e.message)
      return 1
    | .ok settings => load host view settings c fuel

/-- The exit status where a variable cannot be stored. -/
def brokenStatus : Status := 101

/-- A session with a command line. A run without a limit ends when its fuel does. -/
def run (fuel : Nat) (arguments : List String) : m Status := do
  match ← fileVariables host with
  | none => return brokenStatus
  | some added => runWith host added fuel arguments

end Monadic

end Session

end R3000
