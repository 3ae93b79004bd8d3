import R3000.Proofs.Cpu.Fault
import R3000.Proofs.Instruction.Operands
import R3000.Proofs.Instruction.Spelling
import R3000.Proofs.Machine.Handler

/-!
What the assembly text tells. Its first word tells the operation, the rest tells the operands that
are written, and no operation depends on anything else of a word, but for the faults that carry the
whole of it. Main statements: `decode_of_text`, `effect_congr`, and `behaviour_of_mnemonic`, which
puts them together.
-/

namespace R3000

/-! ### From the text to the operands -/

/-- The kinds of the operands of a form are those of the form alone. -/
theorem Form.kinds_eq (f : Form) (i j : Instruction) :
    (f.operands i).map Operand.ctorIdx = (f.operands j).map Operand.ctorIdx := by
  cases f <;> simp only [Form.operands, List.map, Operand.ctorIdx]

variable {i j : Instruction} {op : Operation}

/-- A word with the text of one that decodes decodes to the same operation and has the same
    operands. -/
theorem Instruction.decode_of_text (h : i.text = j.text) (hop : i.decode = .ok op) :
    j.decode = .ok op ∧ Mnemonic.ofInstruction i = Mnemonic.ofInstruction j ∧
      (op ≠ .cop2 → op.form.operands i = op.form.operands j) := by
  have hi := Mnemonic.spells i
  have hj := Mnemonic.spells j
  have hname : (Mnemonic.ofInstruction i).name = (Mnemonic.ofInstruction j).name := by
    apply String.toList_inj.1
    rw [← Mnemonic.takeWhile_text hi.plain, ← Mnemonic.takeWhile_text hj.plain]
    exact congrArg (List.takeWhile (· != ' ')) h
  obtain ⟨form, hform, hwritten⟩ := hi.ok op hop
  rw [hname] at hform hwritten
  cases hop' : j.decode with
  | error f =>
    rw [hj.error f hop'] at hform
    cases hform
  | ok op' =>
    obtain ⟨form', hform', hwritten'⟩ := hj.ok op' hop'
    obtain ⟨rfl, rfl⟩ := Prod.mk.inj (Option.some.inj (hform.symm.trans hform'))
    have hoperands : form.operands i = form.operands j := by
      apply Operand.operands_inj (form.kinds_eq i j)
      rw [← hwritten, ← hwritten']
      exact h
    refine ⟨rfl, ?_, fun hop => ?_⟩
    · rw [hwritten, hwritten', hoperands]
      rfl
    · rwa [← Operation.form_of_ofName? hform hop]

/-! ### From the operands to the effect -/

/-- The immediate tells the signed one. -/
theorem Instruction.signedImmediate_eq (i : Instruction) :
    i.signedImmediate = Word.ofSignedHalf i.immediate.toUInt16 := by
  have hlow : i.immediate.toNat % 0x10000 = i.word.toNat % 0x10000 := by
    rw [toNat_immediate, Nat.mod_mod]
  have hhalf : i.immediate.toUInt16 = i.word.toUInt16 := UInt16.toNat_inj.1 hlow
  rw [signedImmediate, hhalf]

namespace Operation

/-- What an operation does depends on nothing but the operands that are written. -/
theorem effect_congr (hop : op.traps = false) (h : op.form.operands i = op.form.operands j)
    (x : Operands) (m : Memory) : op.effect i x m = op.effect j x m := by
  cases op with
  | cfc0 | ctc0 | cop2 | syscall | breakpoint => cases hop
  | beq | bne | blez | bgtz | bltz | bgez | bltzal | bgezal =>
    simp only [form, Form.operands, List.cons.injEq, Operand.register.injEq,
      Operand.immediate.injEq, and_true] at h
    simp only [effect, Operands.branch, Instruction.signedImmediate_eq, h]
  | j | jal =>
    simp only [form, Form.operands, List.cons.injEq, Operand.address.injEq, and_true] at h
    simp only [effect, Operands.jumpTarget, h]
  | lb | lh | lwl | lw | lbu | lhu | lwr | sb | sh | swl | sw | swr =>
    simp only [form, Form.operands, List.cons.injEq, Operand.register.injEq,
      Operand.indexed.injEq, and_true] at h
    simp only [effect, Operands.address, h]
  | _ =>
    simp only [form, Form.operands, List.cons.injEq, Operand.register.injEq, Operand.amount.injEq,
      Operand.immediate.injEq, and_true] at h
    simp only [effect, h]

end Operation

/-- The same fault with another word, if it is one of an operation that traps. -/
def Fault.withWord (w : Word) : Fault → Fault
  | noControlRegisters _ => noControlRegisters w
  | notImplemented feature _ => notImplemented feature w
  | f => f

/-- Apart from the word that a trap carries, an operation does the same for the same operands. -/
theorem Operation.effect_eq_mapError (h : op ≠ .cop2 → op.form.operands i = op.form.operands j)
    (x : Operands) (m : Memory) :
    op.effect j x m = (op.effect i x m).mapError (.withWord j.word) := by
  cases hop : op.traps with
  | true => cases op <;> first | rfl | cases hop
  | false =>
    have hoperands := h fun hcop2 => by rw [hcop2] at hop; cases hop
    rw [← effect_congr hop hoperands]
    cases he : op.effect i x m with
    | ok e => rfl
    | error f =>
      obtain ⟨a, rfl⟩ := exists_of_fault hop he
      rfl

/-! ### Execution -/

namespace Machine

/-- What the assembly text of a word tells. A word with the text of one that decodes decodes to the
    same operation, has the same name and the same operands in its text, and when it is executed, on
    any processor and any memory, leaves both alike and has the same result, but for the word that
    the fault of a trap carries. In particular no word that decodes is written like one that does
    not. -/
theorem behaviour_of_mnemonic {v w : Word} {op : Operation}
    (hop : Instruction.decode ⟨v⟩ = .ok op)
    (htext : Instruction.mnemonic ⟨v⟩ = Instruction.mnemonic ⟨w⟩) :
    Instruction.decode ⟨w⟩ = .ok op ∧ Mnemonic.ofInstruction ⟨v⟩ = Mnemonic.ofInstruction ⟨w⟩ ∧
    ∀ s : Machine, (s.dispatch ⟨w⟩).2 = (s.dispatch ⟨v⟩).2 ∧
      (s.dispatch ⟨w⟩).1 = (s.dispatch ⟨v⟩).1.mapError (.withWord w) := by
  obtain ⟨hop', hmnemonic, hoperands⟩ :=
    Instruction.decode_of_text (String.ofList_injective htext) hop
  refine ⟨hop', hmnemonic, fun s => ?_⟩
  have hbranch : Instruction.isBranch ⟨w⟩ = Instruction.isBranch ⟨v⟩ := by
    rw [Instruction.isBranch, Instruction.isBranch, hop, hop']
  have heffect (x : Operands) (m : Memory) : Instruction.effect ⟨w⟩ x m =
      (Instruction.effect ⟨v⟩ x m).mapError (.withWord w) := by
    rw [Instruction.effect, Instruction.effect, hop, hop']
    exact Operation.effect_eq_mapError hoperands x m
  rw [dispatch_eq_execute, dispatch_eq_execute, hbranch, execute_eq_perform, execute_eq_perform,
    heffect]
  cases Instruction.effect ⟨v⟩ _ s.memory with
  | ok e => exact ⟨rfl, rfl⟩
  | error f => exact ⟨rfl, rfl⟩

/-- The code of a system call is not written, and neither is the shift amount of a sum. Both
    words of the one pair trap, each with itself in the fault; those of the other leave the same
    machine. -/
theorem behaviour_of_mnemonic_syscall :
    Instruction.mnemonic ⟨0x0000004C⟩ = "SYSCALL" ∧
    Instruction.mnemonic ⟨0x00221861⟩ = "ADDU    $3, $1, $2" ∧
    (Instruction.decode ⟨0x0000004C⟩ = .ok .syscall ∧
      ((powerOn .zeros).dispatch ⟨0x0000000C⟩).1 = .error (.notImplemented .syscall 0x0000000C) ∧
      ((powerOn .zeros).dispatch ⟨0x0000004C⟩).1 = .error (.notImplemented .syscall 0x0000004C)) ∧
    Instruction.decode ⟨0x00221861⟩ = .ok .addu ∧
      ((powerOn .zeros).dispatch ⟨0x00221861⟩).2 = ((powerOn .zeros).dispatch ⟨0x00221821⟩).2 ∧
      ((powerOn .zeros).dispatch ⟨0x00221861⟩).1 = .ok () := by
  have hcall : Instruction.decode ⟨0x0000000C⟩ = .ok .syscall := rfl
  have hcalls : Instruction.mnemonic ⟨0x0000000C⟩ = Instruction.mnemonic ⟨0x0000004C⟩ := by decide
  have hsum : Instruction.decode ⟨0x00221821⟩ = .ok .addu := rfl
  have hsums : Instruction.mnemonic ⟨0x00221821⟩ = Instruction.mnemonic ⟨0x00221861⟩ := by decide
  have htrap : ((powerOn .zeros).dispatch ⟨0x0000000C⟩).1 =
      .error (.notImplemented .syscall 0x0000000C) := rfl
  have hdone : ((powerOn .zeros).dispatch ⟨0x00221821⟩).1 = .ok () := rfl
  obtain ⟨hop, -, hsame⟩ := behaviour_of_mnemonic hcall hcalls
  obtain ⟨hop', -, hsame'⟩ := behaviour_of_mnemonic hsum hsums
  refine ⟨by decide, by decide, ⟨hop, htrap, ?_⟩, hop', (hsame' _).1, ?_⟩
  · rw [(hsame _).2, htrap]
    rfl
  · rw [(hsame' _).2, hdone]
    rfl

end Machine

end R3000
