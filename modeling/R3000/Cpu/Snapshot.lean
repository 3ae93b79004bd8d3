import R3000.Cpu.Basic

/-!
Snapshots: the part of the processor's state that is shown to a person or a program, as a table of
registers and as a JSON record.
-/

namespace R3000

/-- What is shown of a processor. -/
structure Snapshot where
  pc : Word
  nextPc : Word
  currentPc : Word
  instruction : Word
  hi : Word
  lo : Word
  registers : Vector Word 32
  status : Word
  cause : Word
  exceptionPc : Word
  pending : Option PendingLoad
  deriving DecidableEq

/-- What is shown of this processor. -/
def Cpu.snapshot (c : Cpu) : Snapshot where
  pc := c.pc
  nextPc := c.nextPc
  currentPc := c.currentPc
  instruction := c.instruction.word
  hi := c.hi
  lo := c.lo
  registers := c.registers.visible
  status := c.status
  cause := c.controlRegister ControlRegisters.cause
  exceptionPc := c.controlRegister ControlRegisters.exceptionPc
  pending := c.pending

namespace Snapshot

/-- A register with its number in two columns and its value. -/
def registerText (s : Snapshot) (r : Fin 32) : String :=
  "r" ++ String.ofList ((Text.decimal r).leftpad 2 ' ') ++ ": " ++ (s.registers.get r).hex ++ "  "

/-- Four registers from a number on. -/
def registerRow (s : Snapshot) (row : Nat) : String :=
  String.join ([0, 1, 2, 3].map fun column => s.registerText (Fin.ofNat 32 (4 * row + column)))

/-- The lines of the table. -/
def lines (s : Snapshot) : List String :=
  ["CPU Registers:",
    "PC: " ++ s.pc.hex ++ "  Next PC: " ++ s.nextPc.hex ++ "  Current: " ++ s.currentPc.hex ++
      " [" ++ s.instruction.hex ++ "]",
    "HI: " ++ s.hi.hex ++ "  LO: " ++ s.lo.hex,
    ""] ++
  (List.range 8).map s.registerRow ++
  ["",
    "COP0 Registers:",
    "SR:    " ++ s.status.hex,
    "CAUSE: " ++ s.cause.hex,
    "EPC:   " ++ s.exceptionPc.hex] ++
  match s.pending with
  | none => []
  | some l => ["Pending load: r" ++ Text.number l.target ++ " <- " ++ l.value.hex]

/-- The table of registers. -/
def text (s : Snapshot) : String := "\n".intercalate s.lines

/-- A member of a JSON record, its value already written. -/
def member (name value : String) : String := "\"" ++ name ++ "\": " ++ value

/-- A member that is a word. -/
def wordMember (name : String) (w : Word) : String := member name (Text.number w.toNat)

/-- Items on lines of their own between brackets, the closing one `depth` blanks from the margin. -/
def block (opening closing : String) (depth : Nat) (items : List String) : String :=
  let margin := String.ofList (List.replicate depth ' ')
  opening ++ "\n" ++ ",\n".intercalate (items.map fun item => margin ++ "  " ++ item) ++ "\n" ++
    margin ++ closing

/-- A record, its members already written. -/
def record (depth : Nat) (members : List String) : String := block "\x7b" "\x7d" depth members

/-- The JSON record, indented by two blanks a level. -/
def json (s : Snapshot) : String :=
  record 0 [
    wordMember "pc" s.pc,
    wordMember "next_pc" s.nextPc,
    wordMember "current_pc" s.currentPc,
    wordMember "current_instruction" s.instruction,
    wordMember "hi" s.hi,
    wordMember "lo" s.lo,
    member "regs" (block "[" "]" 2 (s.registers.toList.map fun w => Text.number w.toNat)),
    wordMember "sr" s.status,
    wordMember "cause" s.cause,
    wordMember "epc" s.exceptionPc,
    member "pending_load" (match s.pending with
      | none => "null"
      | some l => record 2 [member "reg" (Text.number l.target), wordMember "value" l.value])]

end Snapshot

end R3000
