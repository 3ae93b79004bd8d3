import R3000.Word

/-!
Faults: the reasons for which the machine refuses an instruction, what each one carries, the text
that reports it, and the kind that a host may act on.
-/

namespace R3000

/-- A feature of the processor that the machine decodes and does not execute. -/
inductive Feature where
  | syscall
  | breakpoint
  | geometry
  deriving Repr, DecidableEq

/-- The name of a feature in reports. -/
def Feature.name : Feature → String
  | .syscall => "SYSCALL"
  | .breakpoint => "BREAK"
  | .geometry => "COP2 (GTE)"

/-- The reason why an access or an instruction failed. Decoding faults carry the field that has no
    meaning and the whole instruction. -/
inductive Fault where
  | unmappedAddress (address : Word)
  | invalidOpcode (opcode : Nat) (instruction : Word)
  | invalidSpecialFunction (function : Nat) (instruction : Word)
  | invalidRegimm (selector : Nat) (instruction : Word)
  | invalidControlOperation (selector : Nat) (instruction : Word)
  | noControlRegisters (instruction : Word)
  | notImplemented (feature : Feature) (instruction : Word)
  deriving Repr, DecidableEq

/-- The classes of failure that a host tells apart. -/
inductive FaultKind where
  | unmappedAddress
  | invalidInstruction
  | notImplemented
  | host
  deriving Repr, DecidableEq

namespace Fault

/-- The class of a fault. -/
def kind : Fault → FaultKind
  | unmappedAddress _ => .unmappedAddress
  | notImplemented _ _ => .notImplemented
  | _ => .invalidInstruction

/-- The instruction that a fault carries, if it carries one. -/
def instruction? : Fault → Option Word
  | unmappedAddress _ => none
  | invalidOpcode _ w | invalidSpecialFunction _ w | invalidRegimm _ w
  | invalidControlOperation _ w | noControlRegisters w | notImplemented _ w => some w

end Fault

/-- Two hexadecimal digits behind `0x`. -/
def Fault.fieldText (n : Nat) : String := "0x" ++ String.ofList (Text.hex 2 n)

/-- The report of a fault. -/
def Fault.message : Fault → String
  | unmappedAddress a => "Unmapped memory access at " ++ a.hex
  | invalidOpcode n w => "Invalid opcode " ++ fieldText n ++ " in instruction " ++ w.hex
  | invalidSpecialFunction n w =>
    "Invalid SPECIAL function " ++ fieldText n ++ " in instruction " ++ w.hex
  | invalidRegimm n w => "Invalid REGIMM selector " ++ fieldText n ++ " in instruction " ++ w.hex
  | invalidControlOperation n w =>
    "Invalid COP0 operation " ++ fieldText n ++ " in instruction " ++ w.hex
  | noControlRegisters w => "COP0 has no control registers (instruction " ++ w.hex ++ ")"
  | notImplemented f w => "Not implemented: " ++ f.name ++ " (instruction " ++ w.hex ++ ")"

end R3000
