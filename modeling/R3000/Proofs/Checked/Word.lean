import R3000.Instruction.Basic
import R3000.Proofs.Cpu.Merge
import R3000.Proofs.Word

/-!
Operations with a domain. A shift, a product or a quotient of words is a word for all operands; here
each fails where its amount, its factors or its divisor are out of range, and tells why. What is
made of words with these operations is defined if none of them fails. Main statements: the fields of
an instruction, the bytes of a word, the merges and the pairs of high and low words are defined for
all words, and are those that the operations without a domain make.
-/

namespace R3000

/-- Why an operation has no result. -/
inductive Undefined where
  | index
  | offset
  | difference
  | sum
  | shift
  | product
  | quotient
  deriving Repr, DecidableEq

/-- A result, or why there is none. -/
abbrev Checked (α : Type) := Except Undefined α

namespace Checked

variable {α : Type} {p : Prop} [Decidable p] {cause : Undefined} {v : α}

/-- A value that there is if a condition holds. -/
def require (p : Prop) [Decidable p] (cause : Undefined) (v : α) : Checked α :=
  if p then .ok v else .error cause

theorem require_of (h : p) : require p cause v = pure v := if_pos h

/-- A shift of a value of some width, by a smaller amount. -/
def shift (width : Nat) (f : Nat → α) (n : Nat) : Checked α := require (n < width) .shift (f n)

end Checked

/-! ### Shifts, bytes and fields -/

namespace Word

/-- Shifts left by less than 32 places. -/
def shiftLeft? (w : Word) : (n : Nat) → Checked Word :=
  Checked.shift 32 fun n => w <<< UInt32.ofNat n

/-- Shifts right by less than 32 places, filling with zeros. -/
def shiftRight? (w : Word) : (n : Nat) → Checked Word :=
  Checked.shift 32 fun n => w >>> UInt32.ofNat n

/-- Shifts right by less than 32 places, filling with copies of the sign bit. -/
def shiftRightSigned? (w : Word) : (n : Nat) → Checked Word :=
  Checked.shift 32 fun n => UInt32.ofBitVec (w.toBitVec.sshiftRight n)

example (w : Word) : w.shiftLeft? 32 = .error .shift := rfl

/-- The word whose bytes are given, each shifted into its place. -/
def ofBytes? (b₀ b₁ b₂ b₃ : UInt8) : Checked Word := do
  let v₃ ← shiftLeft? b₃.toUInt32 24
  let v₂ ← shiftLeft? b₂.toUInt32 16
  let v₁ ← shiftLeft? b₁.toUInt32 8
  pure (v₃ ||| v₂ ||| v₁ ||| b₀.toUInt32)

/-- The halfword whose bytes are given, each shifted into its place. -/
def halfOfBytes? (b₀ b₁ : UInt8) : Checked UInt16 := do
  let v₁ ← Checked.shift 16 (fun n => b₁.toUInt16 <<< UInt16.ofNat n) 8
  pure (v₁ ||| b₀.toUInt16)

/-- The bytes of a word, each shifted to the low end. -/
def bytes? (w : Word) : Checked (List UInt8) := do
  let v₁ ← w.shiftRight? 8
  let v₂ ← w.shiftRight? 16
  let v₃ ← w.shiftRight? 24
  pure [w.toUInt8, v₁.toUInt8, v₂.toUInt8, v₃.toUInt8]

/-- The bytes of a halfword, each shifted to the low end. -/
def bytesOfHalf? (h : UInt16) : Checked (List UInt8) := do
  let v₁ ← Checked.shift 16 (fun n => h >>> UInt16.ofNat n) 8
  pure [h.toUInt8, v₁.toUInt8]

variable (w : Word) (n : Fin 32)

theorem shiftLeft?_val : w.shiftLeft? n = pure (w.shiftLeft n) := Checked.require_of n.isLt

theorem shiftRight?_val : w.shiftRight? n = pure (w.shiftRight n) := Checked.require_of n.isLt

theorem shiftRightSigned?_val : w.shiftRightSigned? n = pure (w.shiftRightSigned n) :=
  Checked.require_of n.isLt

/-- The low five bits of a word count places to shift by. -/
theorem toNat_and_eq_places : (w &&& 0x1F).toNat = w.places := by
  rw [UInt32.toNat_and]
  exact Nat.and_two_pow_sub_one_eq_mod w.toNat 5

theorem ofBytes?_eq (b₀ b₁ b₂ b₃ : UInt8) :
    ofBytes? b₀ b₁ b₂ b₃ = pure (ofBytes b₀ b₁ b₂ b₃) := by
  have hor : ofBytes b₀ b₁ b₂ b₃ = b₀.toUInt32 ||| (b₁.toUInt32 <<< 8) ||| (b₂.toUInt32 <<< 16) |||
      (b₃.toUInt32 <<< 24) := ofBytes_eq_or ([b₀, b₁, b₂, b₃].getD · 0)
  have hreverse (x y z v : Word) : x ||| y ||| z ||| v = v ||| z ||| y ||| x := by ac_rfl
  rw [hor, hreverse]
  rfl

theorem halfOfBytes?_eq (b₀ b₁ : UInt8) : halfOfBytes? b₀ b₁ = pure (halfOfBytes b₀ b₁) := by
  have hlt : b₁.toNat <<< 8 < 2 ^ 16 := by
    have h₁ := b₁.toNat_lt
    rw [Nat.shiftLeft_eq]
    omega
  have hshift : (b₁.toUInt16 <<< 8).toNat = b₁.toNat <<< 8 := by
    rw [UInt16.toNat_shiftLeft, UInt8.toNat_toUInt16]
    exact Nat.mod_eq_of_lt hlt
  have hor : halfOfBytes b₀ b₁ = (b₁.toUInt16 <<< 8) ||| b₀.toUInt16 := by
    apply UInt16.toNat_inj.1
    rw [toNat_halfOfBytes, UInt16.toNat_or, hshift, UInt8.toNat_toUInt16,
      ← Nat.shiftLeft_add_eq_or_of_lt b₀.toNat_lt, Nat.shiftLeft_eq]
    omega
  rw [hor]
  rfl

theorem bytes?_eq : w.bytes? = pure w.bytes := by
  have hfirst : w.byte 0 = w.toUInt8 := by simp [byte]
  rw [bytes, hfirst]
  rfl

theorem bytesOfHalf?_eq (h : UInt16) : bytesOfHalf? h = pure (bytesOfHalf h) := rfl

end Word

/-! ### Fields -/

/-- The number of a register, or of places to shift by, as instructions carry it. -/
def RegisterFile.number (r : Fin 32) : UInt8 := UInt8.ofNat r

theorem RegisterFile.toNat_number (r : Fin 32) : (number r).toNat = r := by
  have hr := r.isLt
  rw [number, UInt8.toNat_ofNat']
  omega

/-- The fields of an instruction that select registers or count places. -/
structure Fields where
  rs : UInt8
  rt : UInt8
  rd : UInt8
  shiftAmount : UInt8

namespace Instruction

/-- A number of bits of an instruction, from a position on. -/
def field? (i : Instruction) (position bits : Nat) : Checked UInt8 := do
  let v ← i.word.shiftRight? position
  pure (v &&& UInt32.ofNat (2 ^ bits - 1)).toUInt8

/-- The fields of an instruction that select registers or count places. -/
def fields? (i : Instruction) : Checked Fields := do
  let rs ← i.field? 21 5
  let rt ← i.field? 16 5
  let rd ← i.field? 11 5
  let shiftAmount ← i.field? 6 5
  pure ⟨rs, rt, rd, shiftAmount⟩

/-- These fields, with numbers that are below 32 by their type. -/
def fields (i : Instruction) : Fields where
  rs := RegisterFile.number i.rs
  rt := RegisterFile.number i.rt
  rd := RegisterFile.number i.rd
  shiftAmount := RegisterFile.number i.shiftAmount

variable (i : Instruction)

theorem field?_eq {n bits : Nat} (hn : n < 32) (hbits : bits ≤ 8) :
    i.field? n bits = pure (UInt8.ofNat ((i.word >>> UInt32.ofNat n).toNat % 2 ^ bits)) := by
  have hshift : i.word.shiftRight? n = pure (i.word >>> UInt32.ofNat n) := Checked.require_of hn
  have hmask : (UInt32.ofNat (2 ^ bits - 1)).toNat = 2 ^ bits - 1 := by
    have hle : 2 ^ bits ≤ 2 ^ 8 := Nat.pow_le_pow_right (by decide) hbits
    rw [UInt32.toNat_ofNat']
    omega
  rw [field?, hshift, pure_bind]
  apply congrArg pure
  apply UInt8.toNat_inj.1
  rw [UInt32.toNat_toUInt8, UInt32.toNat_and, hmask, Nat.and_two_pow_sub_one_eq_mod,
    UInt8.toNat_ofNat']

theorem fields?_eq : i.fields? = pure i.fields := by
  simp (disch := decide) only [fields?, field?_eq, pure_bind]
  rfl

end Instruction

/-! ### Merges -/

namespace Word

/-- A word under a mask, and another in the place of what is masked out. -/
def overlay? (kept mask : Word) (moved : Checked Word) : Checked Word := do
  let v ← moved
  pure ((kept &&& mask) ||| v)

/-- Replaces the high bytes of a word by the low bytes of memory, up to position `k`. -/
def loadLeft? (current memory : Word) : (k : Nat) → Checked Word
  | 0 => overlay? current 0x00FFFFFF (memory.shiftLeft? 24)
  | 1 => overlay? current 0x0000FFFF (memory.shiftLeft? 16)
  | 2 => overlay? current 0x000000FF (memory.shiftLeft? 8)
  | _ => pure memory

/-- Replaces the low bytes of a word by the high bytes of memory, from position `k` on. -/
def loadRight? (current memory : Word) : (k : Nat) → Checked Word
  | 0 => pure memory
  | 1 => overlay? current 0xFF000000 (memory.shiftRight? 8)
  | 2 => overlay? current 0xFFFF0000 (memory.shiftRight? 16)
  | _ => overlay? current 0xFFFFFF00 (memory.shiftRight? 24)

/-- Replaces the low bytes of memory, up to position `k`, by the high bytes of a word. -/
def storeLeft? (memory value : Word) : (k : Nat) → Checked Word
  | 0 => overlay? memory 0xFFFFFF00 (value.shiftRight? 24)
  | 1 => overlay? memory 0xFFFF0000 (value.shiftRight? 16)
  | 2 => overlay? memory 0xFF000000 (value.shiftRight? 8)
  | _ => pure value

/-- Replaces the high bytes of memory, from position `k` on, by the low bytes of a word. -/
def storeRight? (memory value : Word) : (k : Nat) → Checked Word
  | 0 => pure value
  | 1 => overlay? memory 0x000000FF (value.shiftLeft? 8)
  | 2 => overlay? memory 0x0000FFFF (value.shiftLeft? 16)
  | _ => overlay? memory 0x00FFFFFF (value.shiftLeft? 24)

variable (x y : Word)

theorem loadLeft?_eq : ∀ k, loadLeft? x y k = pure (loadLeft x y k)
  | 0 | 1 | 2 | _ + 3 => rfl

theorem loadRight?_eq : ∀ k, loadRight? x y k = pure (loadRight x y k)
  | 0 | 1 | 2 | _ + 3 => rfl

theorem storeLeft?_eq : ∀ k, storeLeft? x y k = pure (storeLeft x y k)
  | 0 | 1 | 2 | _ + 3 => rfl

theorem storeRight?_eq : ∀ k, storeRight? x y k = pure (storeRight x y k)
  | 0 | 1 | 2 | _ + 3 => rfl

end Word

/-! ### Products and quotients -/

namespace HiLo

/-- A product of unsigned double words that is one. -/
def product? (x y : UInt64) : Checked UInt64 :=
  Checked.require (x.toNat * y.toNat < 2 ^ 64) .product (x * y)

/-- A product of signed double words that is one. -/
def productSigned? (x y : Int64) : Checked Int64 :=
  Checked.require (-2 ^ 63 ≤ x.toInt * y.toInt ∧ x.toInt * y.toInt < 2 ^ 63) .product (x * y)

/-- A quotient or a remainder of unsigned words, by a word other than zero. -/
def quotient? (f : Word → Word → Word) (x y : Word) : Checked Word :=
  Checked.require (y ≠ 0) .quotient (f x y)

/-- A quotient or a remainder of signed words, by a word other than zero, if the quotient fits. -/
def quotientSigned? (f : Int32 → Int32 → Int32) (x y : Int32) : Checked Int32 :=
  Checked.require (y ≠ 0 ∧ ¬ (x = Int32.minValue ∧ y = -1)) .quotient (f x y)

example : quotientSigned? (· / ·) Int32.minValue (-1) = .error .quotient := by decide

/-- The halves of a double word. -/
def halves? (d : UInt64) : Checked HiLo := do
  let hi ← Checked.shift 64 (fun n => d >>> UInt64.ofNat n) 32
  pure ⟨hi.toUInt32, d.toUInt32⟩

/-- The unsigned product. -/
def multiply? (x y : Word) : Checked HiLo := do
  let p ← product? x.toUInt64 y.toUInt64
  halves? p

/-- The signed product. -/
def multiplySigned? (x y : Word) : Checked HiLo := do
  let p ← productSigned? x.toInt32.toInt64 y.toInt32.toInt64
  halves? p.toUInt64

/-- The unsigned remainder and quotient, with a rule of its own for a divisor of zero. -/
def divide? (x y : Word) : Checked HiLo :=
  if y = 0 then pure ⟨x, 0xFFFFFFFF⟩
  else do
    let lo ← quotient? (· / ·) x y
    let hi ← quotient? (· % ·) x y
    pure ⟨hi, lo⟩

/-- The signed remainder and quotient, with rules of its own for a divisor of zero and for the
    quotient that does not fit. -/
def divideSigned? (x y : Word) : Checked HiLo :=
  if y.toInt32 = 0 then pure ⟨x, if 0 ≤ x.toInt32 then 0xFFFFFFFF else 1⟩
  else if x.toInt32 = Int32.minValue ∧ y.toInt32 = -1 then pure ⟨0, 0x80000000⟩
  else do
    let lo ← quotientSigned? (· / ·) x.toInt32 y.toInt32
    let hi ← quotientSigned? (· % ·) x.toInt32 y.toInt32
    pure ⟨hi.toUInt32, lo.toUInt32⟩

variable (x y : Word)

theorem halves?_eq (d : UInt64) : halves? d = pure ⟨(d >>> 32).toUInt32, d.toUInt32⟩ := rfl

/-- No product of two words is too large for a double word. -/
theorem multiply?_eq : multiply? x y = pure (multiply x y) := by
  have hlt : x.toNat * y.toNat < 2 ^ 32 * 2 ^ 32 := Nat.mul_lt_mul'' x.toNat_lt y.toNat_lt
  have hproduct : product? x.toUInt64 y.toUInt64 = pure (x.toUInt64 * y.toUInt64) :=
    Checked.require_of hlt
  rw [multiply?, hproduct, pure_bind, halves?_eq]
  rfl

/-- Nor is one of two readings. -/
theorem multiplySigned?_eq : multiplySigned? x y = pure (multiplySigned x y) := by
  have hle : (x.signed * y.signed).natAbs ≤ 2 ^ 31 * 2 ^ 31 := by
    rw [Int.natAbs_mul]
    exact Nat.mul_le_mul x.natAbs_signed_le y.natAbs_signed_le
  have hfits : -2 ^ 63 ≤ x.signed * y.signed ∧ x.signed * y.signed < 2 ^ 63 := by omega
  have hproduct : productSigned? x.toInt32.toInt64 y.toInt32.toInt64 =
      pure (x.toInt32.toInt64 * y.toInt32.toInt64) := by
    apply Checked.require_of
    rw [Int32.toInt_toInt64, Int32.toInt_toInt64]
    exact hfits
  rw [multiplySigned?, hproduct, pure_bind, halves?_eq]
  rfl

theorem divide?_eq : divide? x y = pure (divide x y) := by
  unfold divide? divide
  split
  next => rfl
  next hy =>
    have hquotient (f : Word → Word → Word) : quotient? f x y = pure (f x y) :=
      Checked.require_of hy
    rw [hquotient, hquotient]
    rfl

theorem divideSigned?_eq : divideSigned? x y = pure (divideSigned x y) := by
  have hzero : y.toInt32 = 0 ↔ y = 0 :=
    ⟨congrArg Int32.toUInt32, congrArg UInt32.toInt32⟩
  have hleast : x.toInt32 = Int32.minValue ↔ x = 0x80000000 :=
    ⟨congrArg Int32.toUInt32, congrArg UInt32.toInt32⟩
  have hminus : y.toInt32 = -1 ↔ y = 0xFFFFFFFF :=
    ⟨congrArg Int32.toUInt32, congrArg UInt32.toInt32⟩
  unfold divideSigned? divideSigned
  simp only [← hzero, ← hleast, ← hminus]
  split
  next => rfl
  next hy =>
    split
    next => rfl
    next hfits =>
      have hquotient (f : Int32 → Int32 → Int32) :
          quotientSigned? f x.toInt32 y.toInt32 = pure (f x.toInt32 y.toInt32) :=
        Checked.require_of ⟨hy, hfits⟩
      rw [hquotient, hquotient]
      rfl

end HiLo

end R3000
