import R3000.Instruction.Mnemonic
import R3000.Instruction.Operation

/-!
Names of instructions. The tables of the decoder and those of the mnemonics go by the same fields
and agree: the first word of a text is a name that stands for the decoded operation, or one that
stands for none where decoding fails. Main statements: `takeWhile_text`, which reads the first word,
and `spells`, which says what it stands for.
-/

namespace R3000

namespace Operation

/-- The form in which the instructions of an operation are written. Coprocessor 2 has others too. -/
def form : Operation → Form
  | sll | srl | sra => .rdRtAmount
  | sllv | srlv | srav => .rdRtRs
  | jr | mthi | mtlo => .rs
  | jalr => .rdRs
  | syscall | breakpoint | cop2 => .bare
  | mfhi | mflo => .rd
  | mult | multu | div | divu => .rsRt
  | add | addu | sub | subu | and | or | xor | nor | slt | sltu => .rdRsRt
  | bltz | bgez | bltzal | bgezal | blez | bgtz => .rsImmediate
  | j | jal => .target
  | beq | bne => .rsRtImmediate
  | addi | addiu | slti | sltiu => .rtRsSigned
  | andi | ori | xori => .rtRsImmediate
  | lui => .rtImmediate
  | mfc0 | cfc0 | mtc0 | ctc0 => .rtRd
  | lb | lh | lwl | lw | lbu | lhu | lwr | sb | sh | swl | sw | swr => .rtIndexed

/-- All operations. -/
def all : List Operation :=
  [sll, srl, sra, sllv, srlv, srav, jr, jalr, syscall, breakpoint, mfhi, mthi, mflo, mtlo, mult,
    multu, div, divu, add, addu, sub, subu, and, or, xor, nor, slt, sltu, bltz, bgez, bltzal,
    bgezal, j, jal, beq, bne, blez, bgtz, addi, addiu, slti, sltiu, andi, ori, xori, lui, mfc0,
    cfc0, mtc0, ctc0, cop2, lb, lh, lwl, lw, lbu, lhu, lwr, sb, sh, swl, sw, swr]

/-- The names of instructions, and the operation and the form that each stands for. -/
def spellings : List (String × Operation × Form) :=
  all.map (fun op => (op.name, op, op.form)) ++
    [("MFC2", cop2, .rtRd), ("CFC2", cop2, .rtRd), ("MTC2", cop2, .rtRd), ("CTC2", cop2, .rtRd),
      ("LWC2", cop2, .bare), ("SWC2", cop2, .bare)]

/-- The operation and the form that a name stands for. -/
def ofName? (name : String) : Option (Operation × Form) := spellings.lookup name

/-- Only coprocessor 2 has several forms. -/
theorem form_of_ofName? {name : String} {op : Operation} {f : Form}
    (h : ofName? name = some (op, f)) (hop : op ≠ cop2) : f = op.form := by
  have hforms : ∀ row ∈ spellings, row.2.1 ≠ cop2 → row.2.2 = row.2.1.form := by decide
  obtain ⟨before, behind, hsplit, -⟩ := List.lookup_eq_some_iff.1 h
  refine hforms (name, op, f) ?_ hop
  rw [hsplit]
  exact List.mem_append_right _ List.mem_cons_self

end Operation

namespace Mnemonic

/-- The first word of a text. -/
def name : Mnemonic → String
  | known name _ => name
  | unknownFunction _ | unknownSelector _ => "Invalid"
  | unknownOpcode _ => "unknown"

/-- Whether a name has no blank and leaves one in its eight columns. -/
def isPlain (name : String) : Bool := !name.toList.contains ' ' && name.toList.length < 8

/-- A word ends where no further character belongs to it. -/
theorem takeWhile_append_of_eq_nil {x y : List Char} (hx : ' ' ∉ x)
    (hy : y.takeWhile (· != ' ') = []) : (x ++ y).takeWhile (· != ' ') = x := by
  rw [List.takeWhile_append_of_pos, hy, List.append_nil]
  exact fun c hc => bne_iff_ne.2 fun heq => hx (heq ▸ hc)

theorem rightpad_of_lt {x : List Char} (h : x.length < 8) :
    ∃ y, x.rightpad 8 ' ' = x ++ ' ' :: y := by
  obtain ⟨k, hk⟩ : ∃ k, 8 - x.length = k + 1 := ⟨7 - x.length, by omega⟩
  exact ⟨List.replicate k ' ', by rw [List.rightpad, hk, List.replicate_succ]⟩

theorem markerText_append (v w : String) (n : Nat) :
    markerText (v ++ w) n = v.toList ++ markerText w n := by
  simp [markerText]

/-- The first word of a text is read back. -/
theorem takeWhile_text {m : Mnemonic} (h : isPlain m.name) :
    m.text.takeWhile (· != ' ') = m.name.toList := by
  obtain ⟨hblank, hlength⟩ : ' ' ∉ m.name.toList ∧ m.name.toList.length < 8 := by
    simpa [isPlain] using h
  have hends : ∃ y, m.text = m.name.toList ++ y ∧ y.takeWhile (· != ' ') = [] := by
    cases m with
    | known name os =>
      cases os with
      | nil => exact ⟨[], (List.append_nil _).symm, rfl⟩
      | cons o os =>
        obtain ⟨y, hy⟩ := rightpad_of_lt hlength
        refine ⟨' ' :: (y ++ o.text ++ os.flatMap fun p => ", ".toList ++ p.text), ?_, rfl⟩
        rw [text, show name.toList.rightpad 8 ' ' = _ from hy]
        simp [Mnemonic.name]
    | unknownFunction n => exact ⟨_, markerText_append "Invalid" " SPECIAL function" n, rfl⟩
    | unknownSelector n => exact ⟨_, markerText_append "Invalid" " BCOND selector" n, rfl⟩
    | unknownOpcode n => exact ⟨_, markerText_append "unknown" " opcode" n, rfl⟩
  obtain ⟨y, htext, hy⟩ := hends
  rw [htext, takeWhile_append_of_eq_nil hblank hy]

/-! ### Tables -/

/-- Whether an entry of a table of mnemonics and one of a table of operations belong together: its
    name stands for the operation, or for none. -/
def agree : Option (String × Form) → Option Operation → Bool
  | some (name, form), op => isPlain name && Operation.ofName? name == op.map (·, form)
  | none, op => op.isNone

theorem agree_special : ∀ f : Fin 64, agree (special? f) (Operation.ofSpecial? f) := by decide

theorem agree_regimm : ∀ r : Fin 32, agree (regimm? r) (Operation.ofRegimm? r) := by decide

theorem agree_coprocessor0 : ∀ r : Fin 32,
    agree (some (coprocessor0 r)) (Operation.ofControl? r) := by decide

theorem agree_coprocessor2 : ∀ r : Fin 32,
    agree (some (coprocessor2 r)) (some Operation.cop2) := by decide

theorem agree_opcode : ∀ o : Fin 64, o ≠ 0x12 → agree (opcode? o) (Operation.ofOpcode? o) := by
  decide

/-- What the first word of an instruction stands for. -/
structure Spells (i : Instruction) (m : Mnemonic) (decoded : Except Fault Operation) : Prop where
  plain : isPlain m.name
  ok : ∀ op, decoded = .ok op → ∃ form, Operation.ofName? m.name = some (op, form) ∧
    m = known m.name (form.operands i)
  error : ∀ f, decoded = .error f → Operation.ofName? m.name = none

theorem spells_orMarker {i : Instruction} {entry : Option (String × Form)} {op : Option Operation}
    {marker : Mnemonic} (h : agree entry op) (hmarker : marker.name ∈ ["Invalid", "unknown"])
    (fault : Fault) : Spells i (orMarker i marker entry) (Operation.orFault op fault) := by
  cases entry with
  | none =>
    have hmarkers : ∀ name ∈ ["Invalid", "unknown"],
        isPlain name ∧ Operation.ofName? name = none := by decide
    obtain ⟨hplain, hnone⟩ := hmarkers _ hmarker
    obtain rfl : op = none := Option.isNone_iff_eq_none.1 h
    exact ⟨hplain, nofun, fun _ _ => hnone⟩
  | some p =>
    obtain ⟨name, form⟩ := p
    obtain ⟨hname, hop⟩ : isPlain name ∧ Operation.ofName? name = op.map (·, form) := by
      simpa [agree] using h
    cases op with
    | none => exact ⟨hname, nofun, fun _ _ => hop⟩
    | some op =>
      refine ⟨hname, fun op' hop' => ⟨form, ?_, rfl⟩, nofun⟩
      obtain rfl := Except.ok.inj hop'
      exact hop

/-- What holds of every pair of tables, each for its own field, holds of the way in which a word is
    written and decoded. -/
theorem of_tables {P : Mnemonic → Except Fault Operation → Prop} (i : Instruction)
    (hspecial : P (orMarker i (unknownFunction i.function) (special? i.function))
      (Operation.orFault (Operation.ofSpecial? i.function)
        (.invalidSpecialFunction i.function i.word)))
    (hregimm : P (orMarker i (unknownSelector i.rt) (regimm? i.rt))
      (Operation.orFault (Operation.ofRegimm? i.rt) (.invalidRegimm i.rt i.word)))
    (hcontrol : P (orMarker i (unknownOpcode 0x10) (some (coprocessor0 i.rs)))
      (Operation.orFault (Operation.ofControl? i.rs) (.invalidControlOperation i.rs i.word)))
    (hgeometry : P (orMarker i (unknownOpcode 0x12) (some (coprocessor2 i.rs)))
      (Operation.orFault (some Operation.cop2) (.invalidOpcode 0x12 i.word)))
    (hopcode : i.opcode ≠ 0x12 → P (orMarker i (unknownOpcode i.opcode) (opcode? i.opcode))
      (Operation.orFault (Operation.ofOpcode? i.opcode) (.invalidOpcode i.opcode i.word))) :
    P (ofInstruction i) i.decode := by
  by_cases h : i.opcode.val = 0
  · rw [ofInstruction, Instruction.decode, h]
    exact hspecial
  by_cases h : i.opcode.val = 1
  · rw [ofInstruction, Instruction.decode, h]
    exact hregimm
  by_cases h : i.opcode.val = 0x10
  · rw [ofInstruction, Instruction.decode, h]
    exact hcontrol
  by_cases h : i.opcode.val = 0x12
  · rw [ofInstruction, Instruction.decode, h]
    exact hgeometry
  -- all other encodings are told by the opcode alone
  have hwritten : ofInstruction i = orMarker i (unknownOpcode i.opcode) (opcode? i.opcode) := by
    unfold ofInstruction
    split <;> first | contradiction | rfl
  have hdecoded : i.decode =
      Operation.orFault (Operation.ofOpcode? i.opcode) (.invalidOpcode i.opcode i.word) := by
    unfold Instruction.decode
    split <;> first | contradiction | rfl
  rw [hwritten, hdecoded]
  exact hopcode fun heq => h (congrArg Fin.val heq)

/-- Every word is written as it is decoded. -/
theorem spells (i : Instruction) : Spells i (ofInstruction i) i.decode := by
  refine of_tables i ?_ ?_ ?_ ?_ fun hopcode => ?_
  · exact spells_orMarker (agree_special i.function) List.mem_cons_self _
  · exact spells_orMarker (agree_regimm i.rt) List.mem_cons_self _
  · exact spells_orMarker (agree_coprocessor0 i.rs) (by decide) _
  · exact spells_orMarker (agree_coprocessor2 i.rs) (by decide) _
  · have hmarker : (unknownOpcode i.opcode).name ∈ ["Invalid", "unknown"] :=
      List.mem_cons_of_mem _ List.mem_cons_self
    exact spells_orMarker (agree_opcode i.opcode hopcode) hmarker _

end Mnemonic

end R3000
