import Mathlib.Algebra.Order.Group.Int
import Mathlib.Tactic.Ring
import R3000.Proofs.Calls
import R3000.Proofs.Machine.Handler
import R3000.Proofs.Word

/-!
Products and quotients in integers. The high and the low word of a product make up a double word,
which is the product of the factors, or of their two's-complement readings. A quotient and a
remainder give the dividend back modulo `2 ^ 32`, also where there is no quotient or it does not
fit; elsewhere they are those of the division of natural numbers, or of the division of integers
toward zero. Main statement: `execute_hiLo`, for the four operations and every pair of words.
-/

namespace R3000

/-! ### Products -/

/-- The product of two readings is that of the words, less one factor in the high word for each
    negative sign. -/
theorem Word.signed_mul_modEq (x y : Word) : x.signed * y.signed ≡ x.toNat * y.toNat -
    2 ^ 32 * ((if x.signed < 0 then y else 0).toNat + (if y.signed < 0 then x else 0).toNat)
    [ZMOD 2 ^ 64] := by
  have hx := x.toNat_lt
  have hy := y.toNat_lt
  rw [Int.modEq_iff_dvd]
  obtain ⟨hx', hxs⟩ | ⟨hx', hxs⟩ := x.signed_cases <;>
    obtain ⟨hy', hys⟩ | ⟨hy', hys⟩ := y.signed_cases <;> rw [hxs, hys]
  · rw [if_neg (by omega), if_neg (by omega)]
    exact ⟨0, by push_cast; ring⟩
  · rw [if_neg (by omega), if_pos (by omega)]
    exact ⟨0, by push_cast; ring⟩
  · rw [if_pos (by omega), if_neg (by omega)]
    exact ⟨0, by push_cast; ring⟩
  · rw [if_pos (by omega), if_pos (by omega)]
    exact ⟨-1, by push_cast; ring⟩

namespace HiLo

/-- The double word of which two words are the halves. -/
def toNat (p : HiLo) : Nat := 2 ^ 32 * p.hi.toNat + p.lo.toNat

variable {p q : HiLo} {x y : Word}

theorem toNat_halves (d : UInt64) : toNat ⟨(d >>> 32).toUInt32, d.toUInt32⟩ = d.toNat := by
  have hd := d.toNat_lt
  simp [toNat, Nat.shiftRight_eq_div_pow]
  omega

/-- No product of two words is too large for a double word. -/
theorem toNat_multiply (x y : Word) : (multiply x y).toNat = x.toNat * y.toNat := by
  have hlt : x.toNat * y.toNat < 2 ^ 32 * 2 ^ 32 := Nat.mul_lt_mul'' x.toNat_lt y.toNat_lt
  have hmul : (x.toUInt64 * y.toUInt64).toNat = x.toNat * y.toNat % 2 ^ 64 :=
    UInt64.toNat_mul x.toUInt64 y.toUInt64
  rw [Nat.mod_eq_of_lt (by omega)] at hmul
  exact (toNat_halves _).trans hmul

theorem bmod_toNat_multiplySigned (x y : Word) :
    Int.bmod (multiplySigned x y).toNat (2 ^ 64) = x.signed * y.signed := by
  have hle : (x.signed * y.signed).natAbs ≤ 2 ^ 31 * 2 ^ 31 := by
    rw [Int.natAbs_mul]
    exact Nat.mul_le_mul x.natAbs_signed_le y.natAbs_signed_le
  have hmul := Int64.toInt_mul x.toInt32.toInt64 y.toInt32.toInt64
  rw [Int32.toInt_toInt64, Int32.toInt_toInt64] at hmul
  calc Int.bmod (multiplySigned x y).toNat (2 ^ 64)
    _ = (x.toInt32.toInt64 * y.toInt32.toInt64).toInt := by
      rw [multiplySigned, toNat_halves]
      exact (BitVec.toInt_eq_toNat_bmod _).symm
    _ = Int.bmod (x.signed * y.signed) (2 ^ 64) := hmul
    _ = x.signed * y.signed := Int.bmod_eq_of_le (by omega) (by omega)

/-- The signed and the unsigned product of two words agree in the low word, and differ in the high
    one by the other factor for each negative sign. -/
theorem lo_eq_and_hi_sub (hp : Int.bmod p.toNat (2 ^ 64) = x.signed * y.signed)
    (hq : q.toNat = x.toNat * y.toNat) : p.lo = q.lo ∧
      q.hi - p.hi = (if x.signed < 0 then y else 0) + (if y.signed < 0 then x else 0) := by
  have hmod : (p.toNat : Int) % 2 ^ 64 = (x.signed * y.signed) % 2 ^ 64 := by
    rw [← hp]
    exact Int.bmod_emod.symm
  rw [x.signed_mul_modEq y, ← Int.natCast_mul, ← hq, toNat, toNat] at hmod
  have hplo := p.lo.toNat_lt
  have hphi := p.hi.toNat_lt
  have hqlo := q.lo.toNat_lt
  have hqhi := q.hi.toNat_lt
  constructor
  · apply UInt32.toNat_inj.1
    omega
  · apply UInt32.toNat_inj.1
    rw [UInt32.toNat_sub, UInt32.toNat_add]
    omega

/-! ### Quotients -/

theorem toNat_divide (x y : Word) :
    ((divide x y).lo.toNat * y.toNat + (divide x y).hi.toNat) % 2 ^ 32 = x.toNat ∧
      (y ≠ 0 → (divide x y).hi.toNat < y.toNat) := by
  have hx := Nat.mod_eq_of_lt x.toNat_lt
  unfold divide
  split
  next hy =>
    rw [hy]
    exact ⟨by simp, fun h => absurd rfl h⟩
  next hy =>
    have hpos : 0 < y.toNat := Nat.pos_of_ne_zero fun h => hy (UInt32.toNat_inj.1 h)
    rw [UInt32.toNat_div, UInt32.toNat_mod, Nat.div_add_mod', hx]
    exact ⟨rfl, fun _ => Nat.mod_lt _ hpos⟩

/-- Where the quotient exists and fits, it is rounded toward zero. -/
theorem signed_divideSigned (hy : y ≠ 0) (h : ¬ (x = 0x80000000 ∧ y = 0xFFFFFFFF)) :
    (divideSigned x y).lo.signed = x.signed.tdiv y.signed ∧
      (divideSigned x y).hi.signed = x.signed.tmod y.signed := by
  rw [divideSigned, if_neg hy, if_neg h]
  refine ⟨?_, Int32.toInt_mod ..⟩
  by_cases hx : x = 0x80000000
  · have hy' : y.toInt32 ≠ -1 := fun he => h ⟨hx, congrArg Int32.toUInt32 he⟩
    exact Int32.toInt_div_of_ne_right _ _ hy'
  · have hx' : x.toInt32 ≠ Int32.minValue := fun he => hx (congrArg Int32.toUInt32 he)
    exact Int32.toInt_div_of_ne_left _ _ hx'

/-- Readings that divide with a remainder are those of words that do so modulo `2 ^ 32`. -/
theorem lo_mul_add_hi (h : x.signed = p.lo.signed * y.signed + p.hi.signed) :
    (p.lo.toNat * y.toNat + p.hi.toNat) % 2 ^ 32 = x.toNat := by
  have hx := x.toNat_lt
  have hmod : (p.lo.toNat * y.toNat + p.hi.toNat : Int) ≡ x.toNat [ZMOD 2 ^ 32] := calc
    (p.lo.toNat * y.toNat + p.hi.toNat : Int)
    _ ≡ p.lo.signed * y.signed + p.hi.signed [ZMOD 2 ^ 32] :=
      (p.lo.toNat_modEq_signed.mul y.toNat_modEq_signed).add p.hi.toNat_modEq_signed
    _ = x.signed := h.symm
    _ ≡ x.toNat [ZMOD 2 ^ 32] := x.toNat_modEq_signed.symm
  rw [Int.ModEq] at hmod
  omega

theorem abs_tmod_lt {m n : Int} (hn : n ≠ 0) : |m.tmod n| < |n| := by
  rw [Int.abs_eq_natAbs, Int.abs_eq_natAbs, Int.natAbs_tmod]
  exact_mod_cast Nat.mod_lt _ (Int.natAbs_pos.2 hn)

/-- A remainder toward zero has the sign of the dividend. -/
theorem tmod_eq_zero_or_sign (m n : Int) : m.tmod n = 0 ∨ (m.tmod n).sign = m.sign := by
  rw [Int.sign_tmod]
  split
  next hdvd => exact .inl (Int.tmod_eq_zero_of_dvd hdvd)
  next => exact .inr rfl

theorem toNat_divideSigned (x y : Word) :
    ((divideSigned x y).lo.toNat * y.toNat + (divideSigned x y).hi.toNat) % 2 ^ 32 = x.toNat := by
  by_cases hy : y = 0
  · have hhi : (divideSigned x y).hi = x := by rw [divideSigned, if_pos hy]
    rw [hhi, hy]
    simp
  by_cases h : x = 0x80000000 ∧ y = 0xFFFFFFFF
  · rw [divideSigned, if_neg hy, if_pos h, h.1, h.2]
    rfl
  · obtain ⟨hlo, hhi⟩ := signed_divideSigned hy h
    apply lo_mul_add_hi
    rw [hlo, hhi, Int.tdiv_mul_add_tmod]

end HiLo

/-! ### Execution -/

/-- What an operation on two words leaves in the high and the low word, in integers. -/
def Operation.Leaves (op : Operation) (x y : Word) (p : HiLo) : Prop :=
  match op with
  | mult => Int.bmod p.toNat (2 ^ 64) = x.signed * y.signed
  | multu => p.toNat = x.toNat * y.toNat
  | div => (p.lo.toNat * y.toNat + p.hi.toNat) % 2 ^ 32 = x.toNat ∧
    (y ≠ 0 → ¬ (x = 0x80000000 ∧ y = 0xFFFFFFFF) →
      x.signed = p.lo.signed * y.signed + p.hi.signed ∧ |p.hi.signed| < |y.signed| ∧
        (p.hi.signed = 0 ∨ p.hi.signed.sign = x.signed.sign))
  | divu => (p.lo.toNat * y.toNat + p.hi.toNat) % 2 ^ 32 = x.toNat ∧ (y ≠ 0 → p.hi.toNat < y.toNat)
  | _ => False

theorem Operation.leaves_divideSigned (x y : Word) : div.Leaves x y (.divideSigned x y) := by
  refine ⟨HiLo.toNat_divideSigned x y, fun hy h => ?_⟩
  obtain ⟨hlo, hhi⟩ := HiLo.signed_divideSigned hy h
  have hsigned : y.signed ≠ 0 := fun h => hy (Word.signed_inj.1 h)
  rw [hlo, hhi, Int.tdiv_mul_add_tmod]
  exact ⟨rfl, HiLo.abs_tmod_lt hsigned, HiLo.tmod_eq_zero_or_sign ..⟩

namespace Machine

variable {c : Cpu} {m : Memory} {i : Instruction}

theorem execute_of_hiLo {p : HiLo} (h : i.effect c.operands m = .ok (.hiLo p)) :
    execute ⟨c, m⟩ i = (.ok (), ⟨{ c with hi := p.hi, lo := p.lo }, m⟩) := by
  rw [execute_eq_perform, h]
  rfl

/-- Each of the four operations succeeds and leaves what it should in the high and the low word. -/
theorem exists_execute_hiLo {op : Operation} (hop : op ∈ [Operation.mult, .multu, .div, .divu])
    (hdecode : i.decode = .ok op) :
    ∃ p : HiLo, execute ⟨c, m⟩ i = (.ok (), ⟨{ c with hi := p.hi, lo := p.lo }, m⟩) ∧
      op.Leaves (c.register i.rs) (c.register i.rt) p := by
  have heffect : i.effect c.operands m = op.effect i c.operands m := by
    rw [Instruction.effect, hdecode]
  simp only [List.mem_cons, List.not_mem_nil, or_false] at hop
  rcases hop with rfl | rfl | rfl | rfl
  · exact ⟨_, execute_of_hiLo heffect, HiLo.bmod_toNat_multiplySigned ..⟩
  · exact ⟨_, execute_of_hiLo heffect, HiLo.toNat_multiply ..⟩
  · exact ⟨_, execute_of_hiLo heffect, Operation.leaves_divideSigned ..⟩
  · exact ⟨_, execute_of_hiLo heffect, HiLo.toNat_divide ..⟩

/-- The products and quotients of two words, in integers. Each of the four operations succeeds on
    every pair of words, division by zero included, and changes nothing but the high and the low
    word. The unsigned product is that of the words, and the signed one that of their readings; they
    agree in the low word, and their high words differ by the other factor for each negative sign.
    Quotient times divisor plus remainder is the dividend modulo `2 ^ 32`, always. If the divisor is
    not zero, the unsigned remainder is smaller; and if the signed quotient fits as well, the
    equation holds of the readings, where the remainder is smaller than the divisor and zero or of
    the sign of the dividend. -/
theorem execute_hiLo (x y : Word) :
    (∀ op ∈ [Operation.mult, .multu, .div, .divu], ∀ (c : Cpu) (m : Memory) (i : Instruction),
      i.decode = .ok op → c.register i.rs = x → c.register i.rt = y →
      ∃ p : HiLo, execute ⟨c, m⟩ i = (.ok (), ⟨{ c with hi := p.hi, lo := p.lo }, m⟩) ∧
        op.Leaves x y p) ∧
    ∀ (c d : Cpu) (m n : Memory) (i j : Instruction),
      i.decode = .ok .mult → c.register i.rs = x → c.register i.rt = y →
      j.decode = .ok .multu → d.register j.rs = x → d.register j.rt = y →
      (execute ⟨c, m⟩ i).2.cpu.lo = (execute ⟨d, n⟩ j).2.cpu.lo ∧
      (execute ⟨d, n⟩ j).2.cpu.hi - (execute ⟨c, m⟩ i).2.cpu.hi =
        (if x.signed < 0 then y else 0) + (if y.signed < 0 then x else 0) := by
  refine ⟨?_, fun c d m n i j hi hx hy hj hx' hy' => ?_⟩
  · rintro op hop c m i hdecode rfl rfl
    exact exists_execute_hiLo hop hdecode
  · obtain ⟨p, hp, hleaves⟩ := exists_execute_hiLo (c := c) (m := m) (by decide) hi
    obtain ⟨q, hq, hleaves'⟩ := exists_execute_hiLo (c := d) (m := n) (by decide) hj
    rw [hx, hy] at hleaves
    rw [hx', hy'] at hleaves'
    rw [hp, hq]
    exact HiLo.lo_eq_and_hi_sub hleaves hleaves'

/-- Minus seven divided by two, and the two products of these words. -/
theorem execute_hiLo_negative : ∃ c : Cpu, c.Reachable ∧
    c.register 1 = 0xFFFFFFF9 ∧ c.register 2 = 2 ∧
    Instruction.decode ⟨0x0022001A⟩ = .ok .div ∧ Instruction.decode ⟨0x00220018⟩ = .ok .mult ∧
    Instruction.decode ⟨0x00220019⟩ = .ok .multu ∧
    (∃ p : HiLo, execute ⟨c, .zeros⟩ ⟨0x0022001A⟩ =
        (.ok (), ⟨{ c with hi := p.hi, lo := p.lo }, .zeros⟩) ∧
      p.lo.signed = -3 ∧ p.hi.signed = -1) ∧
    (execute ⟨c, .zeros⟩ ⟨0x00220018⟩).2.cpu.lo = (execute ⟨c, .zeros⟩ ⟨0x00220019⟩).2.cpu.lo ∧
    (execute ⟨c, .zeros⟩ ⟨0x00220019⟩).2.cpu.hi -
      (execute ⟨c, .zeros⟩ ⟨0x00220018⟩).2.cpu.hi = 2 := by
  obtain ⟨c, hc⟩ : ∃ c : Cpu, c = (Cpu.powerOn.setRegister 1 0xFFFFFFF9).setRegister 2 2 := ⟨_, rfl⟩
  have hx : c.register 1 = 0xFFFFFFF9 := by rw [hc]; rfl
  have hy : c.register 2 = 2 := by rw [hc]; rfl
  obtain ⟨hexecute, hproducts⟩ := execute_hiLo 0xFFFFFFF9 2
  obtain ⟨p, hp, -, hdiv⟩ := hexecute .div (by decide) c .zeros ⟨0x0022001A⟩ rfl hx hy
  obtain ⟨hvalue, habs, hsign⟩ := hdiv (by decide) (by decide)
  obtain ⟨hlo, hhi⟩ := hproducts c c .zeros .zeros ⟨0x00220018⟩ ⟨0x00220019⟩ rfl hx hy rfl hx hy
  have hdividend : Word.signed 0xFFFFFFF9 = -7 := rfl
  have hdivisor : Word.signed 2 = 2 := rfl
  have hsize : |Word.signed 2| = 2 := rfl
  rw [hdividend, hdivisor] at hvalue
  rw [hsize, abs_lt] at habs
  rw [hdividend] at hsign
  have hneg : p.hi.signed < 0 := by
    rcases hsign with hzero | hsign
    · omega
    · exact Int.sign_eq_neg_one_iff_neg.1 hsign
  exact ⟨c, ⟨.zeros, [.setRegister 1 0xFFFFFFF9, .setRegister 2 2], by rw [hc]; rfl⟩, hx, hy, rfl,
    rfl, rfl, ⟨p, hp, by omega, by omega⟩, hlo, hhi.trans (by decide)⟩

end Machine

end R3000
