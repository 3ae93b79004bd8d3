import R3000.Instruction.Mnemonic
import R3000.Machine

/-!
Traces: a line for the instruction about to be executed, with registers of one's choice, collected
by a tracer that can be switched off. A tracing adds a limit to a tracer and counts attempts; the
attempt that finds the limit reached switches the tracer off and is the last to be counted.
-/

namespace R3000

/-- A line of a trace: an address, the word there, and numbered register values. -/
structure TraceLine where
  pc : Word
  word : Word
  registers : List (Nat × Word)
  deriving Repr, DecidableEq

namespace TraceLine

/-- A register and its value. -/
def registerText (r : Nat × Word) : List Char :=
  ' ' :: 'r' :: Text.decimal r.1 ++ '=' :: Text.hex 8 r.2.toNat

/-- The text of a line, without a line end. -/
def text (l : TraceLine) : List Char :=
  "PC=0x".toList ++ Text.hex 8 l.pc.toNat ++ " [0x".toList ++ Text.hex 8 l.word.toNat ++
    "] ".toList ++ (Instruction.mk l.word).text.rightpad 30 ' ' ++ " |".toList ++
    l.registers.flatMap registerText

end TraceLine

/-- The line for the instruction that the machine is about to execute, if it can be fetched. At
    most eight registers are shown; a number is shown as given and names a register by its low
    five bits. -/
def Machine.traceLine (s : Machine) (registers : List Nat) : Except Fault TraceLine :=
  match s.memory.loadWord s.cpu.pc with
  | .error e => .error e
  | .ok w =>
    .ok ⟨s.cpu.pc, w, (registers.take 8).map fun r => (r, s.cpu.register (RegisterFile.index r))⟩

/-- Collected lines, and whether more are collected. -/
structure Tracer where
  enabled : Bool := true
  lines : Array TraceLine := #[]

namespace Tracer

/-- The registers that are shown where none are asked for. -/
def defaultRegisters : List Nat := [1, 2, 3]

/-- Adds the line of a machine. A tracer that is off accepts everything and adds nothing. -/
def trace (t : Tracer) (s : Machine) (registers : List Nat) : Except Fault Unit × Tracer :=
  match t with
  | ⟨enabled, lines⟩ =>
    if enabled then
      match s.traceLine registers with
      | .error e => (.error e, ⟨enabled, lines⟩)
      | .ok l => (.ok (), ⟨enabled, lines.push l⟩)
    else (.ok (), ⟨enabled, lines⟩)

/-- The text of all lines, each with a line end. -/
def text (t : Tracer) : String :=
  String.join (t.lines.toList.map fun l => String.ofList (l.text ++ ['\n']))

end Tracer

/-- A tracer with a limit on its lines, zero for none, and the number of attempts so far. -/
structure Tracing where
  tracer : Tracer
  limit : Nat
  count : Nat

namespace Tracing

/-- A tracing that has seen nothing. -/
def start (limit : Nat) : Tracing := ⟨{}, limit, 0⟩

/-- Follows an attempt to execute an instruction. -/
def attempt (t : Tracing) (s : Machine) : Tracing :=
  match t with
  | ⟨tracer, limit, count⟩ =>
    if limit ≠ 0 ∧ limit ≤ count then
      if count = limit then ⟨{ tracer with enabled := false }, limit, count + 1⟩
      else ⟨tracer, limit, count⟩
    else ⟨(tracer.trace s Tracer.defaultRegisters).2, limit, count + 1⟩

end Tracing

end R3000
