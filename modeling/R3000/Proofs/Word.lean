import Mathlib.Data.Int.ModEq
import Mathlib.Data.Nat.Bitwise
import R3000.Word

/-!
Words as integers. A word is a natural number below `2 ^ 32`, and its two's-complement reading is
the integer of its residue class that is nearest to zero. Main statements: the two readings agree
modulo `2 ^ 32`; and sums, differences, shifts, comparisons and bitwise operations make the words of
the integers that they make of the readings.
-/

namespace R3000

namespace Word

/-- A word reads as itself, or as itself less `2 ^ 32` if its highest bit is set. -/
theorem signed_cases (w : Word) : (w.toNat < 2 ^ 31 ∧ w.signed = w.toNat) ∨
    (2 ^ 31 ≤ w.toNat ∧ w.signed = w.toNat - 2 ^ 32) := by
  have h : w.signed = if 2 * w.toNat < 2 ^ 32 then (w.toNat : Int) else w.toNat - 2 ^ 32 :=
    BitVec.toInt_eq_toNat_cond _
  split at h <;> omega

theorem natAbs_signed_le (w : Word) : w.signed.natAbs ≤ 2 ^ 31 := by
  have hlt := w.toNat_lt
  have h := w.signed_cases
  omega

theorem toNat_modEq_signed (w : Word) : (w.toNat : Int) ≡ w.signed [ZMOD 2 ^ 32] := by
  have h := w.signed_cases
  rw [Int.ModEq]
  omega

theorem signed_inj {x y : Word} : x.signed = y.signed ↔ x = y := by
  refine ⟨fun h => ?_, congrArg signed⟩
  exact congrArg Int32.toUInt32 (Int32.toInt_inj.1 h)

/-! ### Operations in integers -/

variable {w : Word} {n : Int}

theorem eq_ofInt_iff : w = ofInt n ↔ (w.toNat : Int) = n % 2 ^ 32 := by
  have hn : ((ofInt n).toNat : Int) = n % 2 ^ 32 := by
    rw [ofInt, UInt32.toNat_ofBitVec, BitVec.toNat_ofInt]
    exact Int.toNat_of_nonneg (Int.emod_nonneg _ (by decide))
  rw [← hn, Int.natCast_inj, UInt32.toNat_inj]

/-- The word of a number that is small enough. -/
theorem eq_ofInt (h : w.toNat = n) : w = ofInt n := by
  have hw := w.toNat_lt
  apply eq_ofInt_iff.2
  omega

theorem add_eq_ofInt (x y : Word) : x + y = ofInt (x.toNat + y.toNat) := by
  apply eq_ofInt_iff.2
  rw [UInt32.toNat_add]
  omega

theorem sub_eq_ofInt (x y : Word) : x - y = ofInt (x.toNat - y.toNat) := by
  have hy := y.toNat_lt
  apply eq_ofInt_iff.2
  rw [UInt32.toNat_sub]
  omega

theorem ofBool_eq_ofInt {b : Bool} {p : Prop} [Decidable p] (h : b = true ↔ p) :
    ofBool b = ofInt (if p then 1 else 0) := by
  apply eq_ofInt
  by_cases hp : p
  · rw [if_pos hp, h.2 hp]
    rfl
  · rw [if_neg hp, Bool.eq_false_iff.2 (mt h.1 hp)]
    rfl

variable (w) (k : Fin 32)

theorem toNat_ofNat_fin : (UInt32.ofNat k).toNat % 32 = k := by
  have hk := k.isLt
  rw [UInt32.toNat_ofNat']
  omega

theorem shiftLeft_eq_ofInt : w.shiftLeft k = ofInt (w.toNat * 2 ^ k.val) := by
  apply eq_ofInt_iff.2
  rw [shiftLeft, UInt32.toNat_shiftLeft, toNat_ofNat_fin, Nat.shiftLeft_eq]
  push_cast
  rfl

theorem shiftRight_eq_ofInt : w.shiftRight k = ofInt (w.toNat / 2 ^ k.val) := by
  apply eq_ofInt
  rw [shiftRight, UInt32.toNat_shiftRight, toNat_ofNat_fin, Nat.shiftRight_eq_div_pow]
  push_cast
  rfl

/-- A shift that keeps the sign rounds down. -/
theorem shiftRightSigned_eq_ofInt : w.shiftRightSigned k = ofInt (w.signed / 2 ^ k.val) := by
  have hsigned : (w.shiftRightSigned k).signed = w.signed / 2 ^ k.val := by
    have hshift : (w.shiftRightSigned k).signed = w.signed >>> k.val := BitVec.toInt_sshiftRight
    rw [hshift, Int.shiftRight_eq_div_pow]
    push_cast
    rfl
  apply eq_ofInt_iff.2
  rw [← hsigned]
  have hlt := (w.shiftRightSigned k).toNat_lt
  have h := (w.shiftRightSigned k).toNat_modEq_signed
  rw [Int.ModEq] at h
  omega

/-! ### Bits -/

/-- The number whose bits are made of those of two words. -/
def bitwise (f : Bool → Bool → Bool) (x y : Word) : Nat :=
  Nat.ofBits fun k : Fin 32 => f (x.toNat.testBit k) (y.toNat.testBit k)

variable {w} {x y : Word} {f : Bool → Bool → Bool}

theorem eq_ofInt_bitwise
    (h : ∀ k < 32, w.toNat.testBit k = f (x.toNat.testBit k) (y.toNat.testBit k)) :
    w = ofInt (bitwise f x y) := by
  apply eq_ofInt
  apply congrArg
  apply Nat.eq_of_testBit_eq
  intro k
  by_cases hk : k < 32
  · rw [bitwise, Nat.testBit_ofBits_lt _ _ hk, h k hk]
  · have hhigh : 2 ^ 32 ≤ 2 ^ k := Nat.pow_le_pow_right (by decide) (by omega)
    rw [bitwise, Nat.testBit_ofBits_ge _ _ (by omega)]
    exact Nat.testBit_lt_two_pow (Nat.lt_of_lt_of_le w.toNat_lt hhigh)

variable (x y)

theorem and_eq_ofInt : x &&& y = ofInt (bitwise (· && ·) x y) :=
  eq_ofInt_bitwise fun k _ => by rw [UInt32.toNat_and, Nat.testBit_and]

theorem or_eq_ofInt : x ||| y = ofInt (bitwise (· || ·) x y) :=
  eq_ofInt_bitwise fun k _ => by rw [UInt32.toNat_or, Nat.testBit_or]

theorem xor_eq_ofInt : x ^^^ y = ofInt (bitwise (· ^^ ·) x y) :=
  eq_ofInt_bitwise fun k _ => by rw [UInt32.toNat_xor, Nat.testBit_xor]

theorem nor_eq_ofInt : ~~~(x ||| y) = ofInt (bitwise (fun b c => !(b || c)) x y) := by
  apply eq_ofInt_bitwise
  intro k hk
  have hnot : (~~~(x ||| y)).toNat = 2 ^ 32 - ((x ||| y).toNat + 1) := by
    rw [UInt32.toNat_not, UInt32.size]
    omega
  rw [hnot, Nat.testBit_two_pow_sub_succ (x ||| y).toNat_lt, decide_eq_true hk, Bool.true_and,
    UInt32.toNat_or, Nat.testBit_or]

end Word

end R3000
