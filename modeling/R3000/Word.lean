import R3000.Text.Numeral

/-!
Words of the machine: 32-bit values, their bytes, their two's-complement reading, and the few
operations on them that core does not name. Main statements: bytes and their combinations as
numbers, and that a word is recombined from its four bytes.
-/

namespace R3000

/-- There are 32 registers, so there is a register 0. -/
@[instance]
theorem neZero_registers : @NeZero Nat Zero.ofOfNat0 32 := ⟨by decide⟩

/-- A 32-bit word: a register, an address or an encoded instruction. -/
abbrev Word := UInt32

namespace Word

/-- The two's-complement reading of a word. -/
def signed (w : Word) : Int := w.toInt32.toInt

/-- A byte widened with its sign. -/
def ofSignedByte (b : UInt8) : Word := b.toInt8.toInt32.toUInt32

/-- A halfword widened with its sign. -/
def ofSignedHalf (h : UInt16) : Word := h.toInt16.toInt32.toUInt32

/-- Byte `k` of a word, counted from the least significant one. -/
def byte (w : Word) (k : Nat) : UInt8 := (w >>> UInt32.ofNat (8 * k)).toUInt8

/-- The word whose bytes are given, the least significant first. -/
def ofBytes (b₀ b₁ b₂ b₃ : UInt8) : Word :=
  b₀.toUInt32 + 0x100 * b₁.toUInt32 + 0x10000 * b₂.toUInt32 + 0x1000000 * b₃.toUInt32

/-- The halfword whose bytes are given, the least significant first. -/
def halfOfBytes (b₀ b₁ : UInt8) : UInt16 := b₀.toUInt16 + 0x100 * b₁.toUInt16

/-- The bytes of a word, the least significant first. -/
def bytes (w : Word) : List UInt8 := [w.byte 0, w.byte 1, w.byte 2, w.byte 3]

/-- The bytes of a halfword, the least significant first. -/
def bytesOfHalf (h : UInt16) : List UInt8 := [h.toUInt8, (h >>> 8).toUInt8]

/-- The word one for a true comparison and zero for a false one. -/
def ofBool (b : Bool) : Word := if b then 1 else 0

/-- The number of places that a word shifts by, its low five bits. -/
def places (w : Word) : Fin 32 := ⟨w.toNat % 32, Nat.mod_lt _ (by decide)⟩

/-- Shifts left. -/
def shiftLeft (w : Word) (n : Fin 32) : Word := w <<< UInt32.ofNat n

/-- Shifts right, filling with zeros. -/
def shiftRight (w : Word) (n : Fin 32) : Word := w >>> UInt32.ofNat n

/-- Shifts right, filling with copies of the sign bit. -/
def shiftRightSigned (w : Word) (n : Fin 32) : Word :=
  UInt32.ofBitVec (w.toBitVec.sshiftRight n)

/-- The word whose two's-complement reading is the given integer modulo `2 ^ 32`. -/
def ofInt (n : Int) : Word := UInt32.ofBitVec (BitVec.ofInt 32 n)

/-- Eight hexadecimal digits behind `0x`. -/
def hex (w : Word) : String := "0x" ++ String.ofList (Text.hex 8 w.toNat)

theorem toBitVec_ofSignedHalf (h : UInt16) :
    (ofSignedHalf h).toBitVec = h.toBitVec.signExtend 32 := rfl

theorem toNat_byte (w : Word) (k : Nat) (hk : k < 4) :
    (w.byte k).toNat = w.toNat >>> (8 * k) % 256 := by
  have : 8 * k % 4294967296 % 32 = 8 * k := by omega
  simp [byte, this]

theorem toNat_ofBytes (b₀ b₁ b₂ b₃ : UInt8) : (ofBytes b₀ b₁ b₂ b₃).toNat =
    b₀.toNat + 256 * b₁.toNat + 65536 * b₂.toNat + 16777216 * b₃.toNat := by
  have h₀ := b₀.toNat_lt
  have h₁ := b₁.toNat_lt
  have h₂ := b₂.toNat_lt
  have h₃ := b₃.toNat_lt
  simp [ofBytes, UInt32.toNat_add, UInt32.toNat_mul]
  omega

theorem toNat_halfOfBytes (b₀ b₁ : UInt8) :
    (halfOfBytes b₀ b₁).toNat = b₀.toNat + 256 * b₁.toNat := by
  have h₀ := b₀.toNat_lt
  have h₁ := b₁.toNat_lt
  simp [halfOfBytes, UInt16.toNat_add, UInt16.toNat_mul]
  omega

/-- A word is recombined from its four bytes. -/
theorem ofBytes_byte (w : Word) : ofBytes (w.byte 0) (w.byte 1) (w.byte 2) (w.byte 3) = w := by
  have hw := w.toNat_lt
  apply UInt32.toNat_inj.1
  simp only [toNat_ofBytes, toNat_byte, Nat.reduceLT, Nat.reduceMul, Nat.shiftRight_eq_div_pow,
    Nat.reducePow]
  omega

end Word

end R3000
