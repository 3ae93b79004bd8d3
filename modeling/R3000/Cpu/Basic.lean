import R3000.Cpu.Control
import R3000.Cpu.Registers
import R3000.Instruction.Operation

/-!
The state of the processor. Two program counters make the branch delay slot: `pc` is the next
address to fetch and `nextPc` the one after it. A loaded value waits in `pending` for one cycle, and
`committed` is the load that arrived at the start of the current cycle.
-/

namespace R3000

/-- A loaded value on its way to a register. -/
structure PendingLoad where
  target : Fin 32
  value : Word
  deriving Repr, DecidableEq

/-- The state of the processor. -/
@[ext]
structure Cpu where
  registers : RegisterFile
  pc : Word
  nextPc : Word
  currentPc : Word
  hi : Word
  lo : Word
  control : ControlRegisters
  pending : Option PendingLoad
  committed : Option PendingLoad
  inDelaySlot : Bool
  instruction : Instruction
  deriving DecidableEq

/-- The address of the first instruction. -/
def resetVector : Word := 0xBFC00000

namespace Cpu

/-- The processor at power-on. -/
def powerOn : Cpu where
  registers := .zeros
  pc := resetVector
  nextPc := resetVector + 4
  currentPc := resetVector
  hi := 0
  lo := 0
  control := .powerOn
  pending := none
  committed := none
  inDelaySlot := false
  instruction := ⟨0⟩

/-- The visible value of a general register. -/
def register (c : Cpu) (r : Fin 32) : Word := c.registers.read r

/-- Writes a general register from outside. -/
def setRegister (c : Cpu) (r : Fin 32) (v : Word) : Cpu :=
  { c with registers := c.registers.inject r v }

/-- The value of a control register. -/
def controlRegister (c : Cpu) (r : Fin 32) : Word := c.control.get r

/-- Writes a control register from outside. -/
def setControlRegister (c : Cpu) (r : Fin 32) (v : Word) : Cpu :=
  { c with control := c.control.set r v }

/-- The status register. -/
def status (c : Cpu) : Word := c.controlRegister ControlRegisters.status

/-- The value that an unaligned load merges with: the load to the same register that has just
    arrived, or else the visible value. -/
def mergeBase (c : Cpu) (r : Fin 32) : Word :=
  match c.committed with
  | some l => if l.target = r then l.value else c.register r
  | none => c.register r

/-- Ends a cycle: what was written to registers becomes visible. -/
def commit (c : Cpu) : Cpu := { c with registers := c.registers.commit }

end Cpu

end R3000
