import R3000.Proofs.Fetch
import R3000.Proofs.Memory.Flat

/-!
The branch delay slot. The cycles of a run that fetch an instruction are numbered in order, whatever
a host does between them. When number `k` is executed, number `k + 1` is settled already, and number
`k` says where number `k + 2` is: a jump and a branch that is taken go to their target, and every
other instruction, also one that faults, lets control go on. Main statements: the address that each
kind of instruction leaves, and `fetches_delaySlot` on whole runs.
-/

namespace R3000

/-! ### Where an instruction sends control -/

/-- Whether a conditional branch is taken, by the values of its registers. -/
def Operation.taken (op : Operation) (s t : Word) : Bool :=
  match op with
  | beq => s = t
  | bne => s ≠ t
  | blez => s.signed ≤ 0
  | bgtz => 0 < s.signed
  | bltz | bltzal => s.signed < 0
  | bgez | bgezal => 0 ≤ s.signed
  | _ => false

/-- The branches and the jumps. -/
def Operation.branches : List Operation :=
  [.j, .jal, .jr, .jalr, .beq, .bne, .blez, .bgtz, .bltz, .bgez, .bltzal, .bgezal]

theorem Operation.isBranch_iff (op : Operation) : op.isBranch ↔ op ∈ branches := by
  cases op <;> decide

theorem Instruction.isBranch_iff (i : Instruction) :
    i.isBranch ↔ ∃ op, i.decode = .ok op ∧ op ∈ Operation.branches := by
  rw [isBranch]
  cases i.decode with
  | error e =>
    constructor
    · intro h
      cases h
    · rintro ⟨op, h, -⟩
      cases h
  | ok op =>
    rw [op.isBranch_iff]
    constructor
    · intro h
      exact ⟨op, rfl, h⟩
    · rintro ⟨op', h, hop⟩
      obtain rfl := Except.ok.inj h
      exact hop

namespace Instruction

/-- The offset of a branch in words, the low 16 bits as a signed number. -/
def offset (i : Instruction) : Int := Int.bmod (i.word.toNat % 65536) 65536

/-- The address behind the delay slot of an instruction, by the registers in front of it and the
    address `n` that follows the delay slot in memory. -/
def successor (i : Instruction) (register : Fin 32 → Word) (n : Word) : Word :=
  match i.decode with
  | .ok .j | .ok .jal => (n &&& (0xF0000000 : Word)) ||| (i.target <<< 2)
  | .ok .jr | .ok .jalr => register i.rs
  | .ok op =>
    if op.taken (register i.rs) (register i.rt) then .ofInt (n.toNat + 4 * i.offset) else n
  | .error _ => n

/-- The register that an instruction links in, if it is one that links. -/
def linkRegister (i : Instruction) : Option (Fin 32) :=
  match i.decode with
  | .ok .jal | .ok .bltzal | .ok .bgezal => some 31
  | .ok .jalr => some i.rd
  | _ => none

theorem toBitVec_signedImmediate (i : Instruction) :
    i.signedImmediate.toBitVec = BitVec.ofInt 32 i.offset := by
  rw [signedImmediate, Word.toBitVec_ofSignedHalf, BitVec.signExtend, BitVec.toInt_eq_toNat_bmod]
  rfl

/-- A branch counts its words from the address behind the delay slot. -/
theorem add_signedImmediate (i : Instruction) (n : Word) :
    n + (i.signedImmediate <<< 2) = .ofInt (n.toNat + 4 * i.offset) := by
  apply UInt32.toBitVec_inj.1
  have hn : BitVec.ofInt 32 n.toNat = n.toBitVec := by
    rw [BitVec.ofInt_natCast]
    exact (BitVec.ofNat_toNat ..).trans (BitVec.setWidth_eq _)
  have hshift : (i.signedImmediate <<< 2).toBitVec = BitVec.ofInt 32 i.offset <<< 2 := by
    rw [← toBitVec_signedImmediate]
    rfl
  rw [UInt32.toBitVec_add, hshift, BitVec.shiftLeft_eq_mul_twoPow, Word.ofInt, BitVec.ofInt_add,
    BitVec.ofInt_mul, hn, BitVec.mul_comm]
  rfl

/-- An instruction that is no branch lets control go on. -/
theorem successor_of_not_isBranch {i : Instruction} (h : i.isBranch = false)
    (register : Fin 32 → Word) (n : Word) : i.successor register n = n := by
  rw [isBranch] at h
  rw [successor]
  cases hop : i.decode with
  | error e => rfl
  | ok op =>
    rw [hop] at h
    cases op <;> first | rfl | cases h

theorem linkRegister_of_not_isBranch {i : Instruction} (h : i.isBranch = false) :
    i.linkRegister = none := by
  rw [isBranch] at h
  rw [linkRegister]
  cases hop : i.decode with
  | error e => rfl
  | ok op =>
    rw [hop] at h
    cases op <;> first | rfl | cases h

end Instruction

/-- A branch that is taken counts from the address behind its delay slot. -/
theorem Operands.nextPc_branch (x : Operands) (i : Instruction) {condition taken : Bool}
    (h : condition = taken) : (x.branch i condition).nextPc.getD x.nextPc =
      if taken then .ofInt (x.nextPc.toNat + 4 * i.offset) else x.nextPc := by
  rw [h, branch]
  cases taken with
  | false => rfl
  | true => exact i.add_signedImmediate x.nextPc

/-- What an operation makes of the address behind its delay slot. -/
theorem Operation.nextPc_effect {op : Operation} {i : Instruction} {x : Operands} {m : Memory}
    {e : Effect} (hop : i.decode = .ok op) (he : op.effect i x m = .ok e) :
    e.nextPc.getD x.nextPc = i.successor x.register x.nextPc := by
  have hbranch : i.isBranch = op.isBranch := by rw [Instruction.isBranch, hop]
  cases hb : op.isBranch with
  | false =>
    rw [(touches he).2.2 hb, Instruction.successor_of_not_isBranch (hbranch.trans hb)]
    rfl
  | true =>
    rw [Instruction.successor, hop]
    cases op with
    | j | jal | jr | jalr =>
      obtain rfl := Except.ok.inj he
      rfl
    | beq =>
      obtain rfl := Except.ok.inj he
      exact x.nextPc_branch i (Bool.eq_iff_iff.2 (beq_iff_eq.trans decide_eq_true_iff.symm))
    | bne =>
      obtain rfl := Except.ok.inj he
      exact x.nextPc_branch i (Bool.eq_iff_iff.2 (bne_iff_ne.trans decide_eq_true_iff.symm))
    | blez | bgez | bgezal =>
      obtain rfl := Except.ok.inj he
      exact x.nextPc_branch i (decide_eq_decide.2 Int32.le_iff_toInt_le)
    | bgtz | bltz | bltzal =>
      obtain rfl := Except.ok.inj he
      exact x.nextPc_branch i (decide_eq_decide.2 Int32.lt_iff_toInt_lt)
    | _ => cases hb

/-- An operation that links writes the address behind the instruction that follows its delay
    slot. -/
theorem Operation.write_of_linkRegister {op : Operation} {i : Instruction} {x : Operands}
    {m : Memory} {e : Effect} {r : Fin 32} (hop : i.decode = .ok op)
    (he : op.effect i x m = .ok e) (hr : i.linkRegister = some r) :
    e.write = some (r, x.nextPc + 4) := by
  rw [Instruction.linkRegister, hop] at hr
  cases op with
  | jal | jalr | bltzal | bgezal =>
    obtain rfl := Option.some.inj hr
    obtain rfl := Except.ok.inj he
    rfl
  | _ => cases hr

/-! ### What a fetch leaves -/

namespace Fetch

variable (f : Fetch)

theorem nextPc_after : f.after.cpu.nextPc =
    f.instruction.successor f.before.cpu.register (f.before.cpu.nextPc + 4) := by
  rw [after, ← f.before.cpu.register_advance f.instruction]
  obtain ⟨e, he, h⟩ | ⟨e, he, h⟩ := f.after_cases
  · rw [h]
    exact (Instruction.successor_of_not_isBranch (Machine.isBranch_of_fault he) _ _).symm
  · rw [h]
    obtain ⟨op, hop, he⟩ := Instruction.exists_of_effect he
    exact Operation.nextPc_effect hop he

theorem write_of_linkRegister {r : Fin 32} (hr : f.instruction.linkRegister = some r) :
    f.write = some (r, f.before.cpu.nextPc + 4 + 4) := by
  rw [write]
  cases he : f.before.effect f.word with
  | error e =>
    have hnone := Instruction.linkRegister_of_not_isBranch (Machine.isBranch_of_fault he)
    rw [instruction, hnone] at hr
    cases hr
  | ok e =>
    obtain ⟨op, hop, hop'⟩ := Instruction.exists_of_effect he
    exact Operation.write_of_linkRegister hop hop' hr

end Fetch

/-! ### Whole runs -/

namespace Machine

/-- Every instruction has exactly one delay slot. Of the fetches of a run without a reset, the first
    two are at the reset vector and behind it. After each one, the program counters hold the
    addresses of the two that follow; the second of them is where the instruction sends control, by
    the registers in front of it, and the next address in memory if it is no branch, is not taken or
    faults. A link is the address behind that one. -/
theorem fetches_delaySlot (m : Memory) (calls : List Call) (hcalls : Call.reset ∉ calls) :
    (∀ f, ((powerOn m).fetches calls)[0]? = some f → f.address = 0xBFC00000) ∧
    (∀ f, ((powerOn m).fetches calls)[1]? = some f → f.address = 0xBFC00004) ∧
    ∀ k f, ((powerOn m).fetches calls)[k]? = some f →
      (∀ g, ((powerOn m).fetches calls)[k + 1]? = some g → g.address = f.after.cpu.pc) ∧
      (∀ g, ((powerOn m).fetches calls)[k + 2]? = some g → g.address = f.after.cpu.nextPc) ∧
      f.after.cpu.nextPc =
        f.instruction.successor f.before.cpu.register (f.after.cpu.pc + 4) ∧
      (∀ r, f.instruction.linkRegister = some r → r ≠ 0 →
        f.after.cpu.register r = f.after.cpu.pc + 4 + 4) ∧
      (f.after.cpu.inDelaySlot ↔
        ∃ op, f.instruction.decode = .ok op ∧ op ∈ Operation.branches) := by
  refine ⟨fun f hf => ?_, fun f hf => ?_, fun k f hf => ?_⟩
  · rw [f.address_eq, (counters_of_fetches_zero hcalls hf).1]
    rfl
  · rw [f.address_eq, pc_of_fetches_one hcalls hf]
    rfl
  · obtain ⟨ys, zs, rfl, hbefore, hdrop⟩ := exists_of_fetches hf
    have hzs : .reset ∉ zs := fun hz => hcalls (List.mem_append_right _ (.tail _ hz))
    have hreach : f.before.cpu.Reachable := ⟨m, ys, by rw [hbefore]⟩
    refine ⟨fun g hg => ?_, fun g hg => ?_, ?_, fun r hr hr0 => ?_, ?_⟩
    · rw [← List.getElem?_drop (j := 0), hdrop] at hg
      rw [g.address_eq, (counters_of_fetches_zero hzs hg).1]
    · rw [← List.getElem?_drop (j := 1), hdrop] at hg
      rw [g.address_eq, pc_of_fetches_one hzs hg]
    · rw [f.nextPc_after, f.pc_after]
    · rw [f.register_after hreach.coherent, f.write_of_linkRegister hr, f.pc_after,
        RegisterArray.put_same hr0]
    · rw [f.inDelaySlot_after]
      exact f.instruction.isBranch_iff

/-- A jump that links, another jump in its delay slot, and an idle instruction in the delay slot of
    that one, which is at the target of the first jump. -/
theorem fetches_delaySlot_nestedJump :
    Call.reset ∉ [.cycle, .setRegister 5 7, .cycle, .cycle] ∧
    ∃ m f₀ f₁ f₂, (powerOn m).fetches [.cycle, .setRegister 5 7, .cycle, .cycle] = [f₀, f₁, f₂] ∧
      f₀.address = 0xBFC00000 ∧ f₁.address = 0xBFC00004 ∧ f₂.address = 0xBFC00010 ∧
      f₁.after.cpu.nextPc = 0xBFC00020 ∧ f₀.after.cpu.register 31 = 0xBFC0000C ∧
      f₁.after.cpu.inDelaySlot := by
  obtain ⟨m, hm⟩ : ∃ m, Memory.ofImage ⟨#[4, 0, 0xF0, 0x0F, 8, 0, 0xF0, 0x0B]⟩ = .ok m :=
    ⟨_, dif_pos (by decide)⟩
  have h₀ : m.loadWord 0xBFC00000 = .ok 0x0FF00004 :=
    Memory.loadWord_of_ofImage hm (by decide) (by rfl)
  have h₁ : m.loadWord 0xBFC00004 = .ok 0x0BF00008 :=
    Memory.loadWord_of_ofImage hm (by decide) (by rfl)
  have h₂ : m.loadWord 0xBFC00010 = .ok 0 :=
    Memory.loadWord_of_ofImage hm (by decide) (by rfl)
  have hjal : Instruction.decode ⟨0x0FF00004⟩ = .ok .jal := rfl
  have hj : Instruction.decode ⟨0x0BF00008⟩ = .ok .j := rfl
  have hlink : Instruction.linkRegister ⟨0x0FF00004⟩ = some 31 := rfl
  have htarget₀ : ∀ R, Instruction.successor ⟨0x0FF00004⟩ R 0xBFC00008 = 0xBFC00010 := fun _ => rfl
  have htarget₁ : ∀ R, Instruction.successor ⟨0x0BF00008⟩ R 0xBFC00014 = 0xBFC00020 := fun _ => rfl
  let f₀ : Fetch := ⟨powerOn m, 0x0FF00004, h₀⟩
  have hpc₀ : f₀.after.cpu.pc = 0xBFC00004 := f₀.pc_after
  have hnextPc₀ : f₀.after.cpu.nextPc = 0xBFC00010 := f₀.nextPc_after.trans (htarget₀ _)
  have hmemory₀ : f₀.after.memory = m := f₀.memory_after hjal rfl
  let f₁ : Fetch := ⟨(f₀.after.call (.setRegister 5 7)).2, 0x0BF00008, by
    show f₀.after.memory.loadWord f₀.after.cpu.pc = _
    rw [hmemory₀, hpc₀, h₁]⟩
  have hpc₁ : f₁.after.cpu.pc = 0xBFC00010 := f₁.pc_after.trans hnextPc₀
  have hmemory₁ : f₁.after.memory = m := (f₁.memory_after hj rfl).trans hmemory₀
  let f₂ : Fetch := ⟨f₁.after, 0, by rw [hmemory₁, hpc₁, h₂]⟩
  have hcalls : Call.reset ∉ [.cycle, .setRegister 5 7, .cycle, .cycle] := by decide
  have hfs : (powerOn m).fetches [.cycle, .setRegister 5 7, .cycle, .cycle] = [f₀, f₁, f₂] := by
    rw [fetches_of_some (fetch?_cycle f₀.fetched), fetches_of_none rfl,
      fetches_of_some (fetch?_cycle f₁.fetched), fetches_of_some (fetch?_cycle f₂.fetched)]
    rfl
  obtain ⟨hzero, hone, hrun⟩ := fetches_delaySlot m _ hcalls
  rw [hfs] at hzero hone hrun
  obtain ⟨-, htwo, -, hregister, -⟩ := hrun 0 f₀ rfl
  obtain ⟨-, -, hjump, -, hslot⟩ := hrun 1 f₁ rfl
  refine ⟨hcalls, m, f₀, f₁, f₂, hfs, hzero _ rfl, hone _ rfl, ?_, ?_, ?_, ?_⟩
  · rw [htwo f₂ rfl, hnextPc₀]
  · rw [hjump, hpc₁]
    exact htarget₁ _
  · rw [hregister 31 hlink (by decide), hpc₀]
    rfl
  · exact hslot.2 ⟨.j, hj, by decide⟩

end Machine

end R3000
