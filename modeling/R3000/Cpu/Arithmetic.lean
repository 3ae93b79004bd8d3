import R3000.Word

/-!
Arithmetic in two words: products and divisions that leave a high and a low word, and the merges
of a register with an aligned word that make up unaligned loads and stores.
-/

namespace R3000

/-- Two words: the halves of a product, or a remainder over a quotient. -/
structure HiLo where
  hi : Word
  lo : Word
  deriving Repr, DecidableEq

namespace HiLo

/-- The unsigned product. -/
def multiply (x y : Word) : HiLo :=
  let p := x.toUInt64 * y.toUInt64
  ⟨(p >>> 32).toUInt32, p.toUInt32⟩

/-- The signed product. -/
def multiplySigned (x y : Word) : HiLo :=
  let p := (x.toInt32.toInt64 * y.toInt32.toInt64).toUInt64
  ⟨(p >>> 32).toUInt32, p.toUInt32⟩

/-- The unsigned remainder and quotient. Division by zero leaves the dividend as the remainder and
    the largest word as the quotient. -/
def divide (x y : Word) : HiLo := if y = 0 then ⟨x, 0xFFFFFFFF⟩ else ⟨x % y, x / y⟩

/-- The signed remainder and quotient, rounded toward zero. Division by zero leaves the dividend as
    the remainder and one or minus one, against its sign, as the quotient. The one quotient that
    does not fit wraps around. -/
def divideSigned (x y : Word) : HiLo :=
  if y = 0 then ⟨x, if 0 ≤ x.toInt32 then 0xFFFFFFFF else 1⟩
  else if x = 0x80000000 ∧ y = 0xFFFFFFFF then ⟨0, 0x80000000⟩
  else ⟨(x.toInt32 % y.toInt32).toUInt32, (x.toInt32 / y.toInt32).toUInt32⟩

end HiLo

namespace Word

/-- The address of the aligned word that holds an address. -/
def aligned (a : Word) : Word := a - a % 4

/-- The position of an address in its aligned word. -/
def alignment (a : Word) : Nat := a.toNat % 4

/-- Replaces the high bytes of a word by the low bytes of memory, up to position `k`. -/
def loadLeft (current memory : Word) : (k : Nat) → Word
  | 0 => (current &&& (0x00FFFFFF : Word)) ||| (memory <<< 24)
  | 1 => (current &&& (0x0000FFFF : Word)) ||| (memory <<< 16)
  | 2 => (current &&& (0x000000FF : Word)) ||| (memory <<< 8)
  | _ => memory

/-- Replaces the low bytes of a word by the high bytes of memory, from position `k` on. -/
def loadRight (current memory : Word) : (k : Nat) → Word
  | 0 => memory
  | 1 => (current &&& (0xFF000000 : Word)) ||| (memory >>> 8)
  | 2 => (current &&& (0xFFFF0000 : Word)) ||| (memory >>> 16)
  | _ => (current &&& (0xFFFFFF00 : Word)) ||| (memory >>> 24)

/-- Replaces the low bytes of memory, up to position `k`, by the high bytes of a word. -/
def storeLeft (memory value : Word) : (k : Nat) → Word
  | 0 => (memory &&& (0xFFFFFF00 : Word)) ||| (value >>> 24)
  | 1 => (memory &&& (0xFFFF0000 : Word)) ||| (value >>> 16)
  | 2 => (memory &&& (0xFF000000 : Word)) ||| (value >>> 8)
  | _ => value

/-- Replaces the high bytes of memory, from position `k` on, by the low bytes of a word. -/
def storeRight (memory value : Word) : (k : Nat) → Word
  | 0 => value
  | 1 => (memory &&& (0x000000FF : Word)) ||| (value <<< 8)
  | 2 => (memory &&& (0x0000FFFF : Word)) ||| (value <<< 16)
  | _ => (memory &&& (0x00FFFFFF : Word)) ||| (value <<< 24)

theorem toNat_aligned (a : Word) : a.aligned.toNat = a.toNat - a.toNat % 4 := by
  have h : a % 4 ≤ a := UInt32.le_iff_toNat_le.2 (by simpa using Nat.mod_le _ _)
  simp [aligned, UInt32.toNat_sub_of_le _ _ h]

theorem alignment_lt (a : Word) : a.alignment < 4 := Nat.mod_lt _ (by decide)

/-- An address is its aligned address and its position behind that. -/
theorem toNat_aligned_add_alignment (a : Word) : a.aligned.toNat + a.alignment = a.toNat := by
  have := Nat.mod_le a.toNat 4
  rw [toNat_aligned, alignment]
  omega

end Word

end R3000
