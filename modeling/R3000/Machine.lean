import R3000.Machine.Handler

/-!
The cycle of the machine. A cycle fetches the word at the program counter, moves the counters on,
executes, and makes register writes visible, also those in front of a fault.
-/

namespace R3000

namespace Handler

variable (i : Instruction)

/-- Decodes and executes an instruction, and notes whether a delay slot follows it. -/
def dispatch : Handler Unit := do
  onCpu fun c => { c with inDelaySlot := false }
  let op ← ofExcept i.decode
  onCpu fun c => { c with inDelaySlot := op.isBranch }
  op.handle i

/-- The load that has arrived reaches its register for the end of the cycle. -/
def receive : Handler Unit := do
  if let some l ← ofCpu Cpu.committed then write l.target l.value

/-- Begins the cycle of a fetched instruction: the counters move on, and the pending load
    arrives. -/
def advance : Handler Unit := do
  onCpu fun c => { c with instruction := i }
  onCpu fun c => { c with pc := c.nextPc }
  onCpu fun c => { c with nextPc := c.nextPc + 4 }
  onCpu fun c => { c with committed := c.pending, pending := none }
  receive

/-- What a cycle does with the instruction that it has fetched. Its end comes also behind a
    fault. -/
def carryOut : Handler Unit := do
  advance i
  let result ← observing (dispatch i)
  onCpu Cpu.commit
  ofExcept result

/-- One cycle. -/
def cycle : Handler Unit := do
  let pc ← ofCpu Cpu.pc
  onCpu fun c => { c with currentPc := pc }
  let w ← ofMemory (·.loadWord pc)
  carryOut ⟨w⟩

end Handler

namespace Machine

/-- Decodes and executes an instruction outside of a cycle. -/
def dispatch (s : Machine) (i : Instruction) : Except Fault Unit × Machine :=
  (Handler.dispatch i).run s

/-- One cycle, and the fault that it met. -/
def cycle (s : Machine) : Except Fault Unit × Machine := Handler.cycle.run s

end Machine

end R3000
