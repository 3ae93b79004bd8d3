import R3000.Fault
import R3000.Instruction.Basic

/-!
Operations: what an instruction asks for, told from its opcode and, for three opcodes, from a
further field. A word that asks for nothing is a fault that carries the field at which decoding
ended.
-/

namespace R3000

/-- The operations of the processor. The commands and transfers of coprocessor 2 are one. -/
inductive Operation where
  | sll | srl | sra | sllv | srlv | srav
  | jr | jalr | syscall | breakpoint
  | mfhi | mthi | mflo | mtlo
  | mult | multu | div | divu
  | add | addu | sub | subu | and | or | xor | nor | slt | sltu
  | bltz | bgez | bltzal | bgezal
  | j | jal | beq | bne | blez | bgtz
  | addi | addiu | slti | sltiu | andi | ori | xori | lui
  | mfc0 | cfc0 | mtc0 | ctc0
  | cop2
  | lb | lh | lwl | lw | lbu | lhu | lwr
  | sb | sh | swl | sw | swr
  deriving Repr, DecidableEq

namespace Operation

/-- The name of an operation in upper case. -/
def name : Operation → String
  | sll => "SLL" | srl => "SRL" | sra => "SRA"
  | sllv => "SLLV" | srlv => "SRLV" | srav => "SRAV"
  | jr => "JR" | jalr => "JALR" | syscall => "SYSCALL" | breakpoint => "BREAK"
  | mfhi => "MFHI" | mthi => "MTHI" | mflo => "MFLO" | mtlo => "MTLO"
  | mult => "MULT" | multu => "MULTU" | div => "DIV" | divu => "DIVU"
  | add => "ADD" | addu => "ADDU" | sub => "SUB" | subu => "SUBU"
  | and => "AND" | or => "OR" | xor => "XOR" | nor => "NOR" | slt => "SLT" | sltu => "SLTU"
  | bltz => "BLTZ" | bgez => "BGEZ" | bltzal => "BLTZAL" | bgezal => "BGEZAL"
  | j => "J" | jal => "JAL" | beq => "BEQ" | bne => "BNE" | blez => "BLEZ" | bgtz => "BGTZ"
  | addi => "ADDI" | addiu => "ADDIU" | slti => "SLTI" | sltiu => "SLTIU"
  | andi => "ANDI" | ori => "ORI" | xori => "XORI" | lui => "LUI"
  | mfc0 => "MFC0" | cfc0 => "CFC0" | mtc0 => "MTC0" | ctc0 => "CTC0"
  | cop2 => "COP2"
  | lb => "LB" | lh => "LH" | lwl => "LWL" | lw => "LW"
  | lbu => "LBU" | lhu => "LHU" | lwr => "LWR"
  | sb => "SB" | sh => "SH" | swl => "SWL" | sw => "SW" | swr => "SWR"

/-- Whether an operation may change the program counter, so that a delay slot follows it. -/
def isBranch : Operation → Bool
  | j | jal | jr | jalr | beq | bne | blez | bgtz | bltz | bgez | bltzal | bgezal => true
  | _ => false

/-- The operations of opcode 0, by the function field. -/
def ofSpecial? : Nat → Option Operation
  | 0x00 => some sll
  | 0x02 => some srl
  | 0x03 => some sra
  | 0x04 => some sllv
  | 0x06 => some srlv
  | 0x07 => some srav
  | 0x08 => some jr
  | 0x09 => some jalr
  | 0x0C => some syscall
  | 0x0D => some breakpoint
  | 0x10 => some mfhi
  | 0x11 => some mthi
  | 0x12 => some mflo
  | 0x13 => some mtlo
  | 0x18 => some mult
  | 0x19 => some multu
  | 0x1A => some div
  | 0x1B => some divu
  | 0x20 => some add
  | 0x21 => some addu
  | 0x22 => some sub
  | 0x23 => some subu
  | 0x24 => some and
  | 0x25 => some or
  | 0x26 => some xor
  | 0x27 => some nor
  | 0x2A => some slt
  | 0x2B => some sltu
  | _ => none

/-- The operations of opcode 1, by the second source field. -/
def ofRegimm? : Nat → Option Operation
  | 0x00 => some bltz
  | 0x01 => some bgez
  | 0x10 => some bltzal
  | 0x11 => some bgezal
  | _ => none

/-- The operations of coprocessor 0, by the first source field. -/
def ofControl? : Nat → Option Operation
  | 0x00 => some mfc0
  | 0x02 => some cfc0
  | 0x04 => some mtc0
  | 0x06 => some ctc0
  | _ => none

/-- The operations that the opcode alone selects. -/
def ofOpcode? : Nat → Option Operation
  | 0x02 => some j
  | 0x03 => some jal
  | 0x04 => some beq
  | 0x05 => some bne
  | 0x06 => some blez
  | 0x07 => some bgtz
  | 0x08 => some addi
  | 0x09 => some addiu
  | 0x0A => some slti
  | 0x0B => some sltiu
  | 0x0C => some andi
  | 0x0D => some ori
  | 0x0E => some xori
  | 0x0F => some lui
  | 0x12 | 0x32 | 0x3A => some cop2
  | 0x20 => some lb
  | 0x21 => some lh
  | 0x22 => some lwl
  | 0x23 => some lw
  | 0x24 => some lbu
  | 0x25 => some lhu
  | 0x26 => some lwr
  | 0x28 => some sb
  | 0x29 => some sh
  | 0x2A => some swl
  | 0x2B => some sw
  | 0x2E => some swr
  | _ => none

/-- A table's answer, or the fault for a field that the table does not hold. -/
def orFault (answer : Option Operation) (fault : Fault) : Except Fault Operation :=
  match answer with
  | some op => .ok op
  | none => .error fault

end Operation

/-- The operation that an instruction asks for. -/
def Instruction.decode (i : Instruction) : Except Fault Operation :=
  match i.opcode.val with
  | 0x00 =>
    Operation.orFault (Operation.ofSpecial? i.function) (.invalidSpecialFunction i.function i.word)
  | 0x01 => Operation.orFault (Operation.ofRegimm? i.rt) (.invalidRegimm i.rt i.word)
  | 0x10 => Operation.orFault (Operation.ofControl? i.rs) (.invalidControlOperation i.rs i.word)
  | o => Operation.orFault (Operation.ofOpcode? o) (.invalidOpcode o i.word)

end R3000
