import R3000.Cpu.Arithmetic
import R3000.Cpu.Basic
import R3000.Memory.Basic

/-!
Effects: what each operation reads, and what it does when it succeeds, as a value that is computed
without changing anything. The handlers do change a machine on their way, and share none of the
definitions here but those of words and of memory.
-/

namespace R3000

/-- What an operation may read of a processor: registers, and the address of the instruction after
    the delay slot. -/
structure Operands where
  register : Fin 32 → Word
  mergeBase : Fin 32 → Word
  hi : Word
  lo : Word
  control : Fin 32 → Word
  nextPc : Word

/-- What an operation changes. -/
structure Effect where
  write : Option (Fin 32 × Word) := none
  load : Option PendingLoad := none
  hi : Option Word := none
  lo : Option Word := none
  control : Option (Fin 32 × Word) := none
  nextPc : Option Word := none
  store : Option Store := none

namespace Effect

/-- No change. -/
def nothing : Effect := {}

/-- A write to a general register. -/
def writing (r : Fin 32) (v : Word) : Effect := { write := some (r, v) }

/-- A value on its way to a general register. -/
def loading (r : Fin 32) (v : Word) : Effect := { load := some ⟨r, v⟩ }

/-- A new pair of high and low words. -/
def hiLo (p : HiLo) : Effect := { hi := some p.hi, lo := some p.lo }

/-- A store. -/
def storing (s : Store) : Effect := { store := some s }

end Effect

namespace Operands

/-- Whether the status register keeps stores from memory. -/
def isolated (x : Operands) : Bool :=
  StatusFlag.isolateCache.isSet (x.control ControlRegisters.status)

/-- The address that a load or a store names. -/
def address (x : Operands) (i : Instruction) : Word := x.register i.rs + i.signedImmediate

/-- The address behind the delay slot, to which a linking jump returns. -/
def link (x : Operands) : Word := x.nextPc + 4

/-- A branch that is taken if its condition holds. -/
def branch (x : Operands) (i : Instruction) (condition : Bool) : Effect :=
  if condition then { nextPc := some (x.nextPc + (i.signedImmediate <<< 2)) } else .nothing

/-- Where a jump within the current quarter of a gigabyte goes. -/
def jumpTarget (x : Operands) (i : Instruction) : Word :=
  (x.nextPc &&& (0xF0000000 : Word)) ||| (i.target <<< 2)

/-- A store, or nothing while the cache is isolated. -/
def store (x : Operands) (s : Except Fault Store) : Except Fault Effect :=
  if x.isolated then .ok .nothing else s.map .storing

end Operands

/-- The store that writes the high bytes of a register up to an address. -/
def Store.left (m : Memory) (a v : Word) : Except Fault Store :=
  (m.loadWord a.aligned).bind fun w =>
    Store.ofWord a.aligned (Word.storeLeft w v a.alignment)

/-- The store that writes the low bytes of a register from an address on. -/
def Store.right (m : Memory) (a v : Word) : Except Fault Store :=
  (m.loadWord a.aligned).bind fun w =>
    Store.ofWord a.aligned (Word.storeRight w v a.alignment)

/-- What an operation does, or why it faults. -/
def Operation.effect (op : Operation) (i : Instruction) (x : Operands) (m : Memory) :
    Except Fault Effect :=
  let s := x.register i.rs
  let t := x.register i.rt
  let a := x.address i
  match op with
  -- shifts
  | .sll => .ok (.writing i.rd (t.shiftLeft i.shiftAmount))
  | .srl => .ok (.writing i.rd (t.shiftRight i.shiftAmount))
  | .sra => .ok (.writing i.rd (t.shiftRightSigned i.shiftAmount))
  | .sllv => .ok (.writing i.rd (t.shiftLeft s.places))
  | .srlv => .ok (.writing i.rd (t.shiftRight s.places))
  | .srav => .ok (.writing i.rd (t.shiftRightSigned s.places))
  -- arithmetic and comparison
  | .add | .addu => .ok (.writing i.rd (s + t))
  | .sub | .subu => .ok (.writing i.rd (s - t))
  | .addi | .addiu => .ok (.writing i.rt (s + i.signedImmediate))
  | .slt => .ok (.writing i.rd (.ofBool (s.toInt32 < t.toInt32)))
  | .sltu => .ok (.writing i.rd (.ofBool (s < t)))
  | .slti => .ok (.writing i.rt (.ofBool (s.toInt32 < i.signedImmediate.toInt32)))
  | .sltiu => .ok (.writing i.rt (.ofBool (s < i.signedImmediate)))
  -- logic
  | .and => .ok (.writing i.rd (s &&& t))
  | .or => .ok (.writing i.rd (s ||| t))
  | .xor => .ok (.writing i.rd (s ^^^ t))
  | .nor => .ok (.writing i.rd (~~~(s ||| t)))
  | .andi => .ok (.writing i.rt (s &&& i.immediate))
  | .ori => .ok (.writing i.rt (s ||| i.immediate))
  | .xori => .ok (.writing i.rt (s ^^^ i.immediate))
  | .lui => .ok (.writing i.rt (i.immediate <<< 16))
  -- products and quotients
  | .mult => .ok (.hiLo (.multiplySigned s t))
  | .multu => .ok (.hiLo (.multiply s t))
  | .div => .ok (.hiLo (.divideSigned s t))
  | .divu => .ok (.hiLo (.divide s t))
  | .mfhi => .ok (.writing i.rd x.hi)
  | .mflo => .ok (.writing i.rd x.lo)
  | .mthi => .ok { hi := some s }
  | .mtlo => .ok { lo := some s }
  -- jumps and branches
  | .j => .ok { nextPc := some (x.jumpTarget i) }
  | .jal => .ok { nextPc := some (x.jumpTarget i), write := some (31, x.link) }
  | .jr => .ok { nextPc := some s }
  | .jalr => .ok { nextPc := some s, write := some (i.rd, x.link) }
  | .beq => .ok (x.branch i (s == t))
  | .bne => .ok (x.branch i (s != t))
  | .blez => .ok (x.branch i (s.toInt32 ≤ 0))
  | .bgtz => .ok (x.branch i (0 < s.toInt32))
  | .bltz => .ok (x.branch i (s.toInt32 < 0))
  | .bgez => .ok (x.branch i (0 ≤ s.toInt32))
  | .bltzal => .ok { x.branch i (s.toInt32 < 0) with write := some (31, x.link) }
  | .bgezal => .ok { x.branch i (0 ≤ s.toInt32) with write := some (31, x.link) }
  -- loads
  | .lb => (m.loadByte a).map fun v => .loading i.rt (.ofSignedByte v)
  | .lbu => (m.loadByte a).map fun v => .loading i.rt v.toUInt32
  | .lh => (m.loadHalf a).map fun v => .loading i.rt (.ofSignedHalf v)
  | .lhu => (m.loadHalf a).map fun v => .loading i.rt v.toUInt32
  | .lw => (m.loadWord a).map fun v => .loading i.rt v
  | .lwl => (m.loadWord a.aligned).map fun v =>
    .loading i.rt (.loadLeft (x.mergeBase i.rt) v a.alignment)
  | .lwr => (m.loadWord a.aligned).map fun v =>
    .loading i.rt (.loadRight (x.mergeBase i.rt) v a.alignment)
  -- stores
  | .sb => x.store (Store.ofByte a t.toUInt8)
  | .sh => x.store (Store.ofHalf a t.toUInt16)
  | .sw => x.store (Store.ofWord a t)
  | .swl => x.store (Store.left m a t)
  | .swr => x.store (Store.right m a t)
  -- coprocessors and traps
  | .mfc0 => .ok (.loading i.rt (x.control i.rd))
  | .mtc0 => .ok { control := some (i.rd, t) }
  | .cfc0 | .ctc0 => .error (.noControlRegisters i.word)
  | .cop2 => .error (.notImplemented .geometry i.word)
  | .syscall => .error (.notImplemented .syscall i.word)
  | .breakpoint => .error (.notImplemented .breakpoint i.word)

/-- What an instruction does, or why it faults. -/
def Instruction.effect (i : Instruction) (x : Operands) (m : Memory) : Except Fault Effect :=
  match i.decode with
  | .ok op => op.effect i x m
  | .error e => .error e

namespace Cpu

/-- What the instruction of the current cycle may read. -/
def operands (c : Cpu) : Operands where
  register := c.register
  mergeBase := c.mergeBase
  hi := c.hi
  lo := c.lo
  control := c.controlRegister
  nextPc := c.nextPc

/-- Changes the processor as an effect says. -/
def apply (c : Cpu) (e : Effect) : Cpu :=
  { c with
    registers := match e.write with
      | some (r, v) => c.registers.write r v
      | none => c.registers
    pending := e.load.or c.pending
    hi := e.hi.getD c.hi
    lo := e.lo.getD c.lo
    control := match e.control with
      | some (r, v) => c.control.set r v
      | none => c.control
    nextPc := e.nextPc.getD c.nextPc }

end Cpu

/-- Changes the memory as an effect says. -/
def Memory.apply (m : Memory) (e : Effect) : Memory :=
  match e.store with
  | some s => m.write s
  | none => m

end R3000
