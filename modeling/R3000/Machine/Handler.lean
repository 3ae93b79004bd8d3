import R3000.Cpu.Arithmetic
import R3000.Machine.Basic

/-!
What each operation does to a machine, step by step. Handlers of one kind are one handler with
parameters. A link is written before the jump or the branch that goes with it, and the low word of a
product before the high one; loads and stores find out whether they fault on their way.
-/

namespace R3000

namespace Handler

/-! ### Steps -/

/-- The visible value of a general register. -/
def register (r : Fin 32) : Handler Word := ofCpu fun c => c.register r

/-- Writes a general register for the end of the cycle. -/
def write (r : Fin 32) (v : Word) : Handler Unit :=
  onCpu fun c => { c with registers := c.registers.write r v }

/-- Puts a value on its way to a general register. -/
def delay (r : Fin 32) (v : Word) : Handler Unit := onCpu fun c => { c with pending := some ⟨r, v⟩ }

/-- Writes the high word of products and quotients. -/
def writeHi (v : Word) : Handler Unit := onCpu fun c => { c with hi := v }

/-- Writes the low word of products and quotients. -/
def writeLo (v : Word) : Handler Unit := onCpu fun c => { c with lo := v }

/-- Moves the address behind the delay slot. -/
def goTo (a : Word) : Handler Unit := onCpu fun c => { c with nextPc := a }

/-- Writes the address to which a linking jump returns. -/
def link (r : Fin 32) : Handler Unit := do
  let next ← ofCpu Cpu.nextPc
  write r (next + 4)

/-- Whether the status register keeps stores from memory. -/
def isolated : Handler Bool := ofCpu fun c => StatusFlag.isolateCache.isSet c.status

variable (i : Instruction)

/-- The address that a load or a store names. -/
def address : Handler Word := do
  let base ← register i.rs
  return base + i.signedImmediate

/-! ### Calculations -/

/-- Shifts a register by a constant. -/
def shift (f : Word → Fin 32 → Word) : Handler Unit := do
  let t ← register i.rt
  write i.rd (f t i.shiftAmount)

/-- Makes one register of two. -/
def combine (f : Word → Word → Word) : Handler Unit := do
  let s ← register i.rs
  let t ← register i.rt
  write i.rd (f s t)

/-- Makes one register of another. -/
def transform (f : Word → Word) : Handler Unit := do
  let s ← register i.rs
  write i.rt (f s)

/-- Makes a high and a low word of two registers. -/
def combinePair (f : Word → Word → HiLo) : Handler Unit := do
  let s ← register i.rs
  let t ← register i.rt
  let p := f s t
  writeLo p.lo
  writeHi p.hi

/-! ### Jumps and branches -/

/-- Jumps within the current quarter of a gigabyte. -/
def jump : Handler Unit := do
  let next ← ofCpu Cpu.nextPc
  goTo ((next &&& (0xF0000000 : Word)) ||| (i.target <<< 2))

/-- Branches if a condition holds. -/
def branchIf (condition : Bool) : Handler Unit := do
  if condition then
    let next ← ofCpu Cpu.nextPc
    goTo (next + (i.signedImmediate <<< 2))

/-- Branches on a comparison of two registers. -/
def branchOnPair (p : Word → Word → Bool) : Handler Unit := do
  let s ← register i.rs
  let t ← register i.rt
  branchIf i (p s t)

/-- Branches on the sign of a register. -/
def branchOnSign (p : Int32 → Bool) : Handler Unit := do
  let s ← register i.rs
  branchIf i (p s.toInt32)

/-! ### Loads and stores -/

/-- Loads a register. -/
def load {α : Type} (f : Memory → Word → Except Fault α) (extend : α → Word) : Handler Unit := do
  let a ← address i
  let v ← ofMemory (f · a)
  delay i.rt (extend v)

/-- Loads a part of a register, and merges it with the rest. -/
def loadPart (merge : Word → Word → Nat → Word) : Handler Unit := do
  let a ← address i
  let w ← ofMemory (·.loadWord a.aligned)
  let current ← ofCpu (·.mergeBase i.rt)
  delay i.rt (merge current w a.alignment)

/-- Stores a register, unless the cache is isolated. -/
def store (f : Memory → Word → Word → Except Fault Unit × Memory) : Handler Unit := do
  let a ← address i
  if ← isolated then return
  let t ← register i.rt
  onMemory (f · a t)

/-- Stores a part of a register, unless the cache is isolated: reads the aligned word, merges the
    part into it and writes it back. -/
def storePart (merge : Word → Word → Nat → Word) : Handler Unit := do
  let a ← address i
  if ← isolated then return
  let w ← ofMemory (·.loadWord a.aligned)
  let t ← register i.rt
  onMemory (·.storeWord a.aligned (merge w t a.alignment))

end Handler

open Handler in
/-- What an operation does to a machine. -/
def Operation.handle (op : Operation) (i : Instruction) : Handler Unit :=
  match op with
  -- shifts
  | .sll => shift i Word.shiftLeft
  | .srl => shift i Word.shiftRight
  | .sra => shift i Word.shiftRightSigned
  | .sllv => combine i fun s t => t.shiftLeft s.places
  | .srlv => combine i fun s t => t.shiftRight s.places
  | .srav => combine i fun s t => t.shiftRightSigned s.places
  -- arithmetic and comparison
  | .add | .addu => combine i (· + ·)
  | .sub | .subu => combine i (· - ·)
  | .addi | .addiu => transform i (· + i.signedImmediate)
  | .slt => combine i fun s t => .ofBool (s.toInt32 < t.toInt32)
  | .sltu => combine i fun s t => .ofBool (s < t)
  | .slti => transform i fun s => .ofBool (s.toInt32 < i.signedImmediate.toInt32)
  | .sltiu => transform i fun s => .ofBool (s < i.signedImmediate)
  -- logic
  | .and => combine i (· &&& ·)
  | .or => combine i (· ||| ·)
  | .xor => combine i (· ^^^ ·)
  | .nor => combine i fun s t => ~~~(s ||| t)
  | .andi => transform i (· &&& i.immediate)
  | .ori => transform i (· ||| i.immediate)
  | .xori => transform i (· ^^^ i.immediate)
  | .lui => write i.rt (i.immediate <<< 16)
  -- products and quotients
  | .mult => combinePair i .multiplySigned
  | .multu => combinePair i .multiply
  | .div => combinePair i .divideSigned
  | .divu => combinePair i .divide
  | .mfhi => do write i.rd (← ofCpu Cpu.hi)
  | .mflo => do write i.rd (← ofCpu Cpu.lo)
  | .mthi => do writeHi (← register i.rs)
  | .mtlo => do writeLo (← register i.rs)
  -- jumps and branches
  | .j => jump i
  | .jal => do
    link 31
    jump i
  | .jr => do goTo (← register i.rs)
  | .jalr => do
    let target ← register i.rs
    link i.rd
    goTo target
  | .beq => branchOnPair i (· == ·)
  | .bne => branchOnPair i (· != ·)
  | .blez => branchOnSign i (· ≤ 0)
  | .bgtz => branchOnSign i (0 < ·)
  | .bltz => branchOnSign i (· < 0)
  | .bgez => branchOnSign i (0 ≤ ·)
  | .bltzal => do
    link 31
    branchOnSign i (· < 0)
  | .bgezal => do
    link 31
    branchOnSign i (0 ≤ ·)
  -- loads
  | .lb => load i Memory.loadByte .ofSignedByte
  | .lbu => load i Memory.loadByte UInt8.toUInt32
  | .lh => load i Memory.loadHalf .ofSignedHalf
  | .lhu => load i Memory.loadHalf UInt16.toUInt32
  | .lw => load i Memory.loadWord id
  | .lwl => loadPart i .loadLeft
  | .lwr => loadPart i .loadRight
  -- stores
  | .sb => store i fun m a t => m.storeByte a t.toUInt8
  | .sh => store i fun m a t => m.storeHalf a t.toUInt16
  | .sw => store i Memory.storeWord
  | .swl => storePart i .storeLeft
  | .swr => storePart i .storeRight
  -- coprocessors and traps
  | .mfc0 => do delay i.rt (← ofCpu (·.controlRegister i.rd))
  | .mtc0 => do
    let t ← register i.rt
    onCpu (·.setControlRegister i.rd t)
  | .cfc0 | .ctc0 => throw (.noControlRegisters i.word)
  | .cop2 => throw (.notImplemented .geometry i.word)
  | .syscall => throw (.notImplemented .syscall i.word)
  | .breakpoint => throw (.notImplemented .breakpoint i.word)

end R3000
