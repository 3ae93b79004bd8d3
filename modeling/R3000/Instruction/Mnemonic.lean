import R3000.Instruction.Basic
import R3000.Text.Numeral

/-!
Mnemonics: the assembly text of every word. A table gives each encoding a name and a form, the form
says which fields are written and how, and a word that no table holds has a marker for its text.
The tables stand beside those of the decoder and do not use them.
-/

namespace R3000

/-- An operand as it is written. -/
inductive Operand where
  /-- a register, by its number -/
  | register (n : Fin 32)
  /-- a shift amount, in decimal -/
  | amount (n : Fin 32)
  /-- an immediate, in hexadecimal -/
  | immediate (w : Word)
  /-- the address that a jump goes to, in eight hexadecimal digits -/
  | address (w : Word)
  /-- a memory operand: an offset and a base register -/
  | indexed (offset : Word) (base : Fin 32)
  deriving Repr, DecidableEq

namespace Operand

/-- A register behind a dollar sign. -/
def registerText (n : Fin 32) : List Char := '$' :: Text.decimal n

/-- A hexadecimal number with an `h` behind it. -/
def hexText (width : Nat) (w : Word) : List Char := Text.hex width w.toNat ++ ['h']

/-- The text of an operand. -/
def text : Operand → List Char
  | register n => registerText n
  | amount n => Text.decimal n
  | immediate w => hexText 1 w
  | address w => hexText 8 w
  | indexed offset base => hexText 1 offset ++ '(' :: registerText base ++ [')']

end Operand

/-- Which fields of an instruction are written, in order. -/
inductive Form where
  | bare
  | rs | rd
  | rdRs | rsRt | rtRd
  | rdRtRs | rdRsRt | rdRtAmount
  | rtImmediate | rsImmediate
  | rtRsImmediate | rtRsSigned | rsRtImmediate
  | target
  | rtIndexed
  deriving Repr, DecidableEq

/-- The operands that a form writes. -/
def Form.operands (i : Instruction) : Form → List Operand
  | bare => []
  | rs => [.register i.rs]
  | rd => [.register i.rd]
  | rdRs => [.register i.rd, .register i.rs]
  | rsRt => [.register i.rs, .register i.rt]
  | rtRd => [.register i.rt, .register i.rd]
  | rdRtRs => [.register i.rd, .register i.rt, .register i.rs]
  | rdRsRt => [.register i.rd, .register i.rs, .register i.rt]
  | rdRtAmount => [.register i.rd, .register i.rt, .amount i.shiftAmount]
  | rtImmediate => [.register i.rt, .immediate i.immediate]
  | rsImmediate => [.register i.rs, .immediate i.immediate]
  | rtRsImmediate => [.register i.rt, .register i.rs, .immediate i.immediate]
  | rtRsSigned => [.register i.rt, .register i.rs, .immediate i.signedImmediate]
  | rsRtImmediate => [.register i.rs, .register i.rt, .immediate i.immediate]
  | target => [.address (i.target <<< 2)]
  | rtIndexed => [.register i.rt, .indexed i.signedImmediate i.rs]

/-- The text of a word, in parts. -/
inductive Mnemonic where
  | known (name : String) (operands : List Operand)
  | unknownFunction (function : Nat)
  | unknownSelector (selector : Nat)
  | unknownOpcode (opcode : Nat)
  deriving Repr, DecidableEq

namespace Mnemonic

/-- The encodings of opcode 0, by the function field. -/
def special? : Nat → Option (String × Form)
  | 0x00 => some ("SLL", .rdRtAmount)
  | 0x02 => some ("SRL", .rdRtAmount)
  | 0x03 => some ("SRA", .rdRtAmount)
  | 0x04 => some ("SLLV", .rdRtRs)
  | 0x06 => some ("SRLV", .rdRtRs)
  | 0x07 => some ("SRAV", .rdRtRs)
  | 0x08 => some ("JR", .rs)
  | 0x09 => some ("JALR", .rdRs)
  | 0x0C => some ("SYSCALL", .bare)
  | 0x0D => some ("BREAK", .bare)
  | 0x10 => some ("MFHI", .rd)
  | 0x11 => some ("MTHI", .rs)
  | 0x12 => some ("MFLO", .rd)
  | 0x13 => some ("MTLO", .rs)
  | 0x18 => some ("MULT", .rsRt)
  | 0x19 => some ("MULTU", .rsRt)
  | 0x1A => some ("DIV", .rsRt)
  | 0x1B => some ("DIVU", .rsRt)
  | 0x20 => some ("ADD", .rdRsRt)
  | 0x21 => some ("ADDU", .rdRsRt)
  | 0x22 => some ("SUB", .rdRsRt)
  | 0x23 => some ("SUBU", .rdRsRt)
  | 0x24 => some ("AND", .rdRsRt)
  | 0x25 => some ("OR", .rdRsRt)
  | 0x26 => some ("XOR", .rdRsRt)
  | 0x27 => some ("NOR", .rdRsRt)
  | 0x2A => some ("SLT", .rdRsRt)
  | 0x2B => some ("SLTU", .rdRsRt)
  | _ => none

/-- The encodings of opcode 1, by the second source field. -/
def regimm? : Nat → Option (String × Form)
  | 0x00 => some ("BLTZ", .rsImmediate)
  | 0x01 => some ("BGEZ", .rsImmediate)
  | 0x10 => some ("BLTZAL", .rsImmediate)
  | 0x11 => some ("BGEZAL", .rsImmediate)
  | _ => none

/-- The encodings of coprocessor 0, by the first source field. -/
def coprocessor0 : Nat → String × Form
  | 0x00 => ("MFC0", .rtRd)
  | 0x02 => ("CFC0", .rtRd)
  | 0x04 => ("MTC0", .rtRd)
  | 0x06 => ("CTC0", .rtRd)
  | _ => ("COP0", .bare)

/-- The encodings of coprocessor 2, by the first source field. -/
def coprocessor2 : Nat → String × Form
  | 0x00 => ("MFC2", .rtRd)
  | 0x02 => ("CFC2", .rtRd)
  | 0x04 => ("MTC2", .rtRd)
  | 0x06 => ("CTC2", .rtRd)
  | _ => ("COP2", .bare)

/-- The encodings that the opcode alone selects. -/
def opcode? : Nat → Option (String × Form)
  | 0x02 => some ("J", .target)
  | 0x03 => some ("JAL", .target)
  | 0x04 => some ("BEQ", .rsRtImmediate)
  | 0x05 => some ("BNE", .rsRtImmediate)
  | 0x06 => some ("BLEZ", .rsImmediate)
  | 0x07 => some ("BGTZ", .rsImmediate)
  | 0x08 => some ("ADDI", .rtRsSigned)
  | 0x09 => some ("ADDIU", .rtRsSigned)
  | 0x0A => some ("SLTI", .rtRsSigned)
  | 0x0B => some ("SLTIU", .rtRsSigned)
  | 0x0C => some ("ANDI", .rtRsImmediate)
  | 0x0D => some ("ORI", .rtRsImmediate)
  | 0x0E => some ("XORI", .rtRsImmediate)
  | 0x0F => some ("LUI", .rtImmediate)
  | 0x20 => some ("LB", .rtIndexed)
  | 0x21 => some ("LH", .rtIndexed)
  | 0x22 => some ("LWL", .rtIndexed)
  | 0x23 => some ("LW", .rtIndexed)
  | 0x24 => some ("LBU", .rtIndexed)
  | 0x25 => some ("LHU", .rtIndexed)
  | 0x26 => some ("LWR", .rtIndexed)
  | 0x28 => some ("SB", .rtIndexed)
  | 0x29 => some ("SH", .rtIndexed)
  | 0x2A => some ("SWL", .rtIndexed)
  | 0x2B => some ("SW", .rtIndexed)
  | 0x2E => some ("SWR", .rtIndexed)
  | 0x30 => some ("LWC0", .bare)
  | 0x31 => some ("LWC1", .bare)
  | 0x32 => some ("LWC2", .bare)
  | 0x33 => some ("LWC3", .bare)
  | 0x38 => some ("SWC0", .bare)
  | 0x39 => some ("SWC1", .bare)
  | 0x3A => some ("SWC2", .bare)
  | 0x3B => some ("SWC3", .bare)
  | _ => none

/-- A table's answer filled in from an instruction, or a marker. -/
def orMarker (i : Instruction) (marker : Mnemonic) : Option (String × Form) → Mnemonic
  | some (name, form) => known name (form.operands i)
  | none => marker

/-- The mnemonic of an instruction. -/
def ofInstruction (i : Instruction) : Mnemonic :=
  match i.opcode.val with
  | 0x00 => orMarker i (unknownFunction i.function) (special? i.function)
  | 0x01 => orMarker i (unknownSelector i.rt) (regimm? i.rt)
  | 0x10 => orMarker i (unknownOpcode 0x10) (some (coprocessor0 i.rs))
  | 0x12 => orMarker i (unknownOpcode 0x12) (some (coprocessor2 i.rs))
  | o => orMarker i (unknownOpcode o) (opcode? o)

/-- A marker: its wording and the field in two hexadecimal digits. -/
def markerText (wording : String) (n : Nat) : List Char :=
  wording.toList ++ ": ".toList ++ Text.hex 2 n ++ ['h']

/-- The text of a mnemonic: a name alone, or a name in eight columns and operands behind it. -/
def text : Mnemonic → List Char
  | known name [] => name.toList
  | known name (o :: os) =>
    name.toList.rightpad 8 ' ' ++ o.text ++ os.flatMap fun p => ", ".toList ++ p.text
  | unknownFunction n => markerText "Invalid SPECIAL function" n
  | unknownSelector n => markerText "Invalid BCOND selector" n
  | unknownOpcode n => markerText "unknown opcode" n

end Mnemonic

/-- The assembly text of an instruction. -/
def Instruction.text (i : Instruction) : List Char := (Mnemonic.ofInstruction i).text

/-- The assembly text of an instruction, as a string. -/
def Instruction.mnemonic (i : Instruction) : String := String.ofList i.text

end R3000
