import R3000.Proofs.DelaySlot
import R3000.Proofs.Word

/-!
Arithmetic, comparisons, shifts and logic in integers. Each of these operations writes one register,
named by one field of its word, with the integer that it makes of two registers or of one and the
immediate operand. The table says which register and which integer; the word that is written is that
integer modulo `2 ^ 32`. Main statement: `cycle_calculation`, for every such operation and every
reachable processor.
-/

namespace R3000

namespace Instruction

variable (i : Instruction)

theorem signedImmediate_eq_ofInt : i.signedImmediate = .ofInt i.offset :=
  UInt32.toBitVec_inj.1 i.toBitVec_signedImmediate

theorem toNat_signedImmediate : (i.signedImmediate.toNat : Int) = i.offset % 2 ^ 32 :=
  Word.eq_ofInt_iff.1 i.signedImmediate_eq_ofInt

theorem signed_signedImmediate : i.signedImmediate.signed = i.offset := by
  have hle : -(65536 / 2) ≤ i.offset := Int.le_bmod (by decide)
  have hlt : i.offset < (65536 + 1) / 2 := Int.bmod_lt (by decide)
  have hnat := i.toNat_signedImmediate
  have hcases := i.signedImmediate.signed_cases
  omega

end Instruction

/-- The register that an operation on integers writes, and the integer that it makes of the values
    of its two source registers. The operations without an entry are no such operations. -/
def Operation.calculation? (op : Operation) (i : Instruction) (x y : Word) :
    Option (Fin 32 × Int) :=
  match op with
  | add | addu => some (i.rd, x.toNat + y.toNat)
  | sub | subu => some (i.rd, x.toNat - y.toNat)
  | slt => some (i.rd, if x.signed < y.signed then 1 else 0)
  | sltu => some (i.rd, if x.toNat < y.toNat then 1 else 0)
  | and => some (i.rd, Word.bitwise (· && ·) x y)
  | or => some (i.rd, Word.bitwise (· || ·) x y)
  | xor => some (i.rd, Word.bitwise (· ^^ ·) x y)
  | nor => some (i.rd, Word.bitwise (fun b c => !(b || c)) x y)
  | sll => some (i.rd, y.toNat * 2 ^ i.shiftAmount.val)
  | srl => some (i.rd, y.toNat / 2 ^ i.shiftAmount.val)
  | sra => some (i.rd, y.signed / 2 ^ i.shiftAmount.val)
  | sllv => some (i.rd, y.toNat * 2 ^ (x.toNat % 32))
  | srlv => some (i.rd, y.toNat / 2 ^ (x.toNat % 32))
  | srav => some (i.rd, y.signed / 2 ^ (x.toNat % 32))
  | addi | addiu => some (i.rt, x.toNat + i.offset)
  | slti => some (i.rt, if x.signed < i.offset then 1 else 0)
  | sltiu => some (i.rt, if (x.toNat : Int) < i.offset % 2 ^ 32 then 1 else 0)
  | andi => some (i.rt, Word.bitwise (· && ·) x i.immediate)
  | ori => some (i.rt, Word.bitwise (· || ·) x i.immediate)
  | xori => some (i.rt, Word.bitwise (· ^^ ·) x i.immediate)
  | lui => some (i.rt, i.immediate.toNat * 65536)
  | _ => none

/-- An operation on integers does nothing but write its register. -/
theorem Operation.effect_of_calculation? {op : Operation} {i : Instruction} {x : Operands}
    {r : Fin 32} {n : Int}
    (h : op.calculation? i (x.register i.rs) (x.register i.rt) = some (r, n)) (m : Memory) :
    op.effect i x m = .ok (.writing r (.ofInt n)) := by
  suffices hwrite : ∃ v, op.effect i x m = .ok (.writing r v) ∧ v = .ofInt n by
    obtain ⟨v, heffect, rfl⟩ := hwrite
    exact heffect
  cases op with
  | add | addu =>
    cases h
    exact ⟨_, rfl, Word.add_eq_ofInt ..⟩
  | sub | subu =>
    cases h
    exact ⟨_, rfl, Word.sub_eq_ofInt ..⟩
  | slt =>
    cases h
    exact ⟨_, rfl, Word.ofBool_eq_ofInt (decide_eq_true_iff.trans Int32.lt_iff_toInt_lt)⟩
  | sltu =>
    cases h
    exact ⟨_, rfl, Word.ofBool_eq_ofInt (decide_eq_true_iff.trans UInt32.lt_iff_toNat_lt)⟩
  | and =>
    cases h
    exact ⟨_, rfl, Word.and_eq_ofInt ..⟩
  | or =>
    cases h
    exact ⟨_, rfl, Word.or_eq_ofInt ..⟩
  | xor =>
    cases h
    exact ⟨_, rfl, Word.xor_eq_ofInt ..⟩
  | nor =>
    cases h
    exact ⟨_, rfl, Word.nor_eq_ofInt ..⟩
  | sll | sllv =>
    cases h
    exact ⟨_, rfl, Word.shiftLeft_eq_ofInt ..⟩
  | srl | srlv =>
    cases h
    exact ⟨_, rfl, Word.shiftRight_eq_ofInt ..⟩
  | sra | srav =>
    cases h
    exact ⟨_, rfl, Word.shiftRightSigned_eq_ofInt ..⟩
  | addi | addiu =>
    cases h
    refine ⟨_, rfl, Word.eq_ofInt_iff.2 ?_⟩
    have hsum := Word.eq_ofInt_iff.1 (Word.add_eq_ofInt (x.register i.rs) i.signedImmediate)
    rw [hsum, i.toNat_signedImmediate]
    omega
  | slti =>
    cases h
    rw [← i.signed_signedImmediate]
    exact ⟨_, rfl, Word.ofBool_eq_ofInt (decide_eq_true_iff.trans Int32.lt_iff_toInt_lt)⟩
  | sltiu =>
    cases h
    rw [← i.toNat_signedImmediate]
    refine ⟨_, rfl, Word.ofBool_eq_ofInt ?_⟩
    exact decide_eq_true_iff.trans (UInt32.lt_iff_toNat_lt.trans Int.ofNat_lt.symm)
  | andi =>
    cases h
    exact ⟨_, rfl, Word.and_eq_ofInt ..⟩
  | ori =>
    cases h
    exact ⟨_, rfl, Word.or_eq_ofInt ..⟩
  | xori =>
    cases h
    exact ⟨_, rfl, Word.xor_eq_ofInt ..⟩
  | lui =>
    cases h
    refine ⟨_, rfl, ?_⟩
    exact Word.shiftLeft_eq_ofInt i.immediate 16
  | _ => cases h

namespace Machine

/-- The meaning of the operations on integers. On every reachable processor the cycle of a word that
    decodes to one succeeds, with the register and the integer of the table for the values that the
    source registers have in front of the cycle. The integer modulo `2 ^ 32` is written on top of
    the load that arrives, and dropped for register 0; the other registers only take that load. The
    memory, the high and the low word and the control registers stay, and no load is left behind. -/
theorem cycle_calculation {c : Cpu} (hc : c.Reachable) {m : Memory} {w : Word}
    {op : Operation} {r : Fin 32} {n : Int} (hw : m.loadWord c.pc = .ok w)
    (hop : Instruction.decode ⟨w⟩ = .ok op)
    (h : op.calculation? ⟨w⟩ (c.register (Instruction.rs ⟨w⟩)) (c.register (Instruction.rt ⟨w⟩)) =
      some (r, n)) :
    ∃ (v : Word) (t : Cpu), (v.toNat : Int) = n % 2 ^ 32 ∧ cycle ⟨c, m⟩ = (.ok (), ⟨t, m⟩) ∧
      (∀ q, t.register q = if r ≠ 0 ∧ r = q then v else c.landed q) ∧
      t.hi = c.hi ∧ t.lo = c.lo ∧ t.control = c.control ∧ t.pending = none := by
  have heffect : effect ⟨c, m⟩ w = .ok (.writing r (.ofInt n)) := by
    rw [effect_of_decode hop]
    apply Operation.effect_of_calculation?
    rw [← c.register_advance ⟨w⟩] at h
    exact h
  have hcycle := cycle_of_effect (s := ⟨c, m⟩) hw heffect
  have hregister := Cpu.register_commit_apply hc.coherent ⟨w⟩ (.writing r (.ofInt n))
  exact ⟨_, _, Word.eq_ofInt_iff.1 rfl, hcycle, fun q => congrFun hregister q, rfl, rfl, rfl, rfl⟩

/-- A shift that keeps the sign, by a register whose low five bits alone count. -/
theorem cycle_calculation_srav : ∃ (c : Cpu) (m : Memory) (t : Cpu), c.Reachable ∧
    m.loadWord c.pc = .ok 0x00221807 ∧ Instruction.decode ⟨0x00221807⟩ = .ok .srav ∧
    Operation.calculation? .srav ⟨0x00221807⟩ (c.register 1) (c.register 2) = some (3, -2 ^ 30) ∧
    cycle ⟨c, m⟩ = (.ok (), ⟨t, m⟩) ∧ t.register 3 = 0xC0000000 := by
  obtain ⟨m, hm⟩ : ∃ m, Memory.ofImage ⟨#[0x07, 0x18, 0x22, 0x00]⟩ = .ok m :=
    ⟨_, dif_pos (by decide)⟩
  have hfetched : m.loadWord 0xBFC00000 = .ok 0x00221807 :=
    Memory.loadWord_of_ofImage hm (by decide) (by rfl)
  obtain ⟨c, hc⟩ : ∃ c : Cpu, c = (Cpu.powerOn.setRegister 1 33).setRegister 2 0x80000000 :=
    ⟨_, rfl⟩
  have hreach : c.Reachable :=
    ⟨m, [.setRegister 1 33, .setRegister 2 0x80000000], by rw [hc]; rfl⟩
  have hw : m.loadWord c.pc = .ok 0x00221807 := by rw [hc]; exact hfetched
  have htable : Operation.calculation? .srav ⟨0x00221807⟩ (c.register 1) (c.register 2) =
      some (3, -2 ^ 30) := by
    rw [hc]
    rfl
  obtain ⟨v, t, hv, hcycle, hregister, -⟩ := cycle_calculation hreach hw rfl htable
  refine ⟨c, m, t, hreach, hw, rfl, htable, hcycle, ?_⟩
  rw [hregister, if_pos (by decide)]
  apply UInt32.toNat_inj.1
  exact Int.natCast_inj.1 hv

end Machine

end R3000
