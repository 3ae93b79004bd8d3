import R3000.Word

/-!
The control registers of coprocessor 0: 32 words with power-on values, the numbers of those with a
meaning, and the named flags of the status register.
-/

namespace R3000

/-- The registers of coprocessor 0. -/
abbrev ControlRegisters := Vector Word 32

namespace ControlRegisters

/-- The number of the status register. -/
def status : Fin 32 := 12

/-- The number of the register that holds the cause of an exception. -/
def cause : Fin 32 := 13

/-- The number of the register that holds the address to return to. -/
def exceptionPc : Fin 32 := 14

/-- The number of the register that identifies the processor. -/
def processorId : Fin 32 := 15

/-- A register number is an index of the registers. -/
theorem index_lt (r : Fin 32) : r.val < 32 := r.isLt

/-- Replaces the value of a register. -/
def set (c : ControlRegisters) (r : Fin 32) (v : Word) : ControlRegisters :=
  Vector.set c r v (index_lt r)

theorem get_set_self (c : ControlRegisters) (r : Fin 32) (v : Word) : (c.set r v).get r = v :=
  Vector.getElem_set_self (index_lt r)

/-- The values at power-on: a status word, a processor number, zeros. -/
def powerOn : ControlRegisters :=
  (ControlRegisters.set (.replicate 32 0) status 0x10900000).set processorId 2

end ControlRegisters

/-- The named bits of the status register, from the lowest up. -/
inductive StatusFlag where
  | interruptEnable
  | userMode
  | previousInterruptEnable
  | previousUserMode
  | oldInterruptEnable
  | oldUserMode
  | isolateCache
  | swapCaches
  | bootVectors
  | coprocessor0Usable
  | coprocessor2Usable
  deriving Repr, DecidableEq

namespace StatusFlag

/-- All named bits, from the lowest up. -/
def all : List StatusFlag :=
  [.interruptEnable, .userMode, .previousInterruptEnable, .previousUserMode, .oldInterruptEnable,
    .oldUserMode, .isolateCache, .swapCaches, .bootVectors, .coprocessor0Usable,
    .coprocessor2Usable]

/-- The position of a flag. -/
def bit : StatusFlag → Word
  | interruptEnable => 0
  | userMode => 1
  | previousInterruptEnable => 2
  | previousUserMode => 3
  | oldInterruptEnable => 4
  | oldUserMode => 5
  | isolateCache => 16
  | swapCaches => 17
  | bootVectors => 22
  | coprocessor0Usable => 28
  | coprocessor2Usable => 30

/-- The short name of a flag. -/
def name : StatusFlag → String
  | interruptEnable => "IEC"
  | userMode => "KUC"
  | previousInterruptEnable => "IEP"
  | previousUserMode => "KUP"
  | oldInterruptEnable => "IEO"
  | oldUserMode => "KUO"
  | isolateCache => "ISOLATE_CACHE"
  | swapCaches => "SWAP_CACHES"
  | bootVectors => "BEV"
  | coprocessor0Usable => "CU0"
  | coprocessor2Usable => "CU2"

/-- Whether a flag is set in a status word. -/
def isSet (f : StatusFlag) (status : Word) : Bool := (status >>> f.bit) &&& 1 == 1

/-- The named flags of a status word. -/
def ofStatus (status : Word) : List StatusFlag := all.filter (·.isSet status)

end StatusFlag

end R3000
