import R3000.Word

/-!
Instructions: a word and the fields that the encodings of the processor cut out of it. Register
numbers and shift amounts are numbers below 32 by type, opcodes and functions numbers below 64.
-/

namespace R3000

/-- An encoded instruction. -/
structure Instruction where
  word : Word
  deriving Repr, DecidableEq

namespace Instruction

/-- The five bits of a word from a position on. -/
def fiveBits (w : Word) (position : Word) : Fin 32 :=
  ⟨(w >>> position).toNat % 32, Nat.mod_lt _ (by decide)⟩

/-- The primary opcode, bits 26 to 31. -/
def opcode (i : Instruction) : Fin 64 := ⟨(i.word >>> 26).toNat % 64, Nat.mod_lt _ (by decide)⟩

/-- The first source register, bits 21 to 25. -/
def rs (i : Instruction) : Fin 32 := fiveBits i.word 21

/-- The second source register, bits 16 to 20. -/
def rt (i : Instruction) : Fin 32 := fiveBits i.word 16

/-- The destination register, bits 11 to 15. -/
def rd (i : Instruction) : Fin 32 := fiveBits i.word 11

/-- The shift amount, bits 6 to 10. -/
def shiftAmount (i : Instruction) : Fin 32 := fiveBits i.word 6

/-- The secondary opcode of the SPECIAL encodings, bits 0 to 5. -/
def function (i : Instruction) : Fin 64 := ⟨i.word.toNat % 64, Nat.mod_lt _ (by decide)⟩

/-- The immediate operand, bits 0 to 15. -/
def immediate (i : Instruction) : Word := i.word &&& 0xFFFF

/-- The immediate operand, widened with its sign. -/
def signedImmediate (i : Instruction) : Word := Word.ofSignedHalf i.word.toUInt16

/-- The word index that a jump goes to, bits 0 to 25. -/
def target (i : Instruction) : Word := i.word &&& 0x03FFFFFF

theorem function_val (i : Instruction) : i.function.val = i.word.toNat % 64 := rfl

theorem toNat_immediate (i : Instruction) : i.immediate.toNat = i.word.toNat % 0x10000 := by
  simpa [immediate] using Nat.and_two_pow_sub_one_eq_mod i.word.toNat 16

end Instruction

end R3000
