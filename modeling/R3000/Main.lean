import R3000.Runner.Session

/-!
The command `psxcore`: a session whose host is the operating system.
-/

namespace R3000

/-- The file at a path. -/
def readPath (path : String) : IO FileContent := do
  try
    return .bytes (← IO.FS.readBinFile path)
  catch e =>
    match e with
    | .noFileOrDirectory .. => return .missing
    | _ => return .unreadable

/-- Writes a file, and says whether that was possible. -/
def writePath (path text : String) : IO Bool := do
  try
    IO.FS.writeFile path text
    return true
  catch _ => return false

/-- The operating system. -/
def systemHost : Host IO where
  read := readPath
  create := fun path => writePath path ""
  write := fun path text => discard (writePath path text)
  environment := fun name => IO.getEnv name
  print := IO.print
  log := fun style level message =>
    IO.eprintln (Log.line style level Session.target message)
  complain := IO.eprintln

end R3000

/-- Runs a session. A run without a limit gets more fuel than a machine can use. -/
def main (arguments : List String) : IO UInt32 :=
  R3000.Session.run R3000.systemHost UInt64.size arguments
