import R3000.Proofs.Instruction.Spelling

/-!
Decoding and writing go together. A word that decodes is written with the name of its operation, and
a word that does not is written with the field at which decoding ended. Main statement:
`text_of_decode`, for every word and in both directions.
-/

namespace R3000

/-- The text of an instruction up to the first blank. -/
def Instruction.firstWord (i : Instruction) : String :=
  String.ofList (i.text.takeWhile (· != ' '))

/-- A marker for a field without a meaning: its wording and the field in two hexadecimal digits. -/
def Instruction.marker (wording : String) (n : Nat) : String :=
  wording ++ ": " ++ String.ofList (Text.hex 2 n) ++ "h"

/-- The faults with which decoding may refuse an instruction. Each carries the field that has no
    meaning, and the whole word. -/
def Instruction.refusals (i : Instruction) : List Fault :=
  [.invalidSpecialFunction i.function i.word, .invalidRegimm i.rt i.word,
    .invalidControlOperation i.rs i.word, .invalidOpcode i.opcode i.word]

/-! ### Names of operations -/

namespace Operation

/-- The names under which coprocessor 2 is written. -/
def geometryNames : List String := ["MFC2", "CFC2", "MTC2", "CTC2", "COP2", "LWC2", "SWC2"]

/-- A name stands for the operation of that name, or is one of those of coprocessor 2. -/
theorem name_of_ofName? {name : String} {op : Operation} {form : Form}
    (h : ofName? name = some (op, form)) :
    if op = cop2 then name ∈ geometryNames else name = op.name := by
  have hnames : ∀ row ∈ spellings,
      if row.2.1 = cop2 then row.1 ∈ geometryNames else row.1 = row.2.1.name := by decide
  obtain ⟨before, behind, hsplit, -⟩ := List.lookup_eq_some_iff.1 h
  refine hnames (name, op, form) ?_
  rw [hsplit]
  exact List.mem_append_right _ List.mem_cons_self

end Operation

namespace Mnemonic

/-! ### Refused words -/

/-- How an opcode is written that decoding refuses. The transfers between memory and a coprocessor
    that the machine lacks have a name, with the number of the coprocessor. -/
def ofRefusedOpcode (o : Nat) : Mnemonic :=
  if o ∈ [0x30, 0x31, 0x33] then known ("LWC" ++ Text.number (o - 0x30)) []
  else if o ∈ [0x38, 0x39, 0x3B] then known ("SWC" ++ Text.number (o - 0x38)) []
  else unknownOpcode o

/-- How a word is written that decoding refuses with a fault. -/
def ofFault? : Fault → Option Mnemonic
  | .invalidSpecialFunction n _ => some (unknownFunction n)
  | .invalidRegimm n _ => some (unknownSelector n)
  | .invalidControlOperation _ _ => some (known "COP0" [])
  | .invalidOpcode n _ => some (ofRefusedOpcode n)
  | _ => none

/-- The names of refused words that have one. -/
def refusedNames : List String := ["COP0", "LWC0", "LWC1", "LWC3", "SWC0", "SWC1", "SWC3"]

/-- What is written for a refused word: a name that stands for no operation, or a marker. -/
inductive Refused : Mnemonic → Prop where
  | named (name : String) (h : name ∈ refusedNames) : Refused (known name [])
  | unknownFunction (n : Nat) : Refused (unknownFunction n)
  | unknownSelector (n : Nat) : Refused (unknownSelector n)
  | unknownOpcode (n : Nat) : Refused (unknownOpcode n)

theorem refused_ofRefusedOpcode (o : Nat) : (ofRefusedOpcode o).Refused := by
  have hload : ∀ o ∈ [0x30, 0x31, 0x33], "LWC" ++ Text.number (o - 0x30) ∈ refusedNames := by
    decide
  have hstore : ∀ o ∈ [0x38, 0x39, 0x3B], "SWC" ++ Text.number (o - 0x38) ∈ refusedNames := by
    decide
  unfold ofRefusedOpcode
  split
  next h => exact .named _ (hload o h)
  next =>
    split
    next h => exact .named _ (hstore o h)
    next => exact .unknownOpcode o

theorem refused_of_ofFault? {f : Fault} {m : Mnemonic} (h : ofFault? f = some m) : m.Refused := by
  cases f with
  | invalidSpecialFunction n w =>
    obtain rfl := Option.some.inj h
    exact .unknownFunction n
  | invalidRegimm n w =>
    obtain rfl := Option.some.inj h
    exact .unknownSelector n
  | invalidControlOperation n w =>
    obtain rfl := Option.some.inj h
    exact .named "COP0" (by decide)
  | invalidOpcode n w =>
    obtain rfl := Option.some.inj h
    exact refused_ofRefusedOpcode n
  | _ => cases h

variable {m m' : Mnemonic}

/-- The first word of a refused word is a plain name that stands for no operation. -/
theorem Refused.plain (h : m.Refused) : isPlain m.name ∧ Operation.ofName? m.name = none := by
  have hnames : ∀ name ∈ "Invalid" :: "unknown" :: refusedNames,
      isPlain name ∧ Operation.ofName? name = none := by decide
  cases h with
  | named name h => exact hnames name (List.mem_cons_of_mem _ (List.mem_cons_of_mem _ h))
  | unknownFunction n | unknownSelector n => exact hnames "Invalid" List.mem_cons_self
  | unknownOpcode n => exact hnames "unknown" (List.mem_cons_of_mem _ List.mem_cons_self)

theorem markerText_inj {wording : String} {n k : Nat}
    (h : markerText wording n = markerText wording k) : n = k :=
  Text.hex_inj (List.append_cancel_left (List.append_cancel_right h))

/-- What is written for a refused word tells which. -/
theorem eq_of_text (h : m.Refused) (h' : m'.Refused) (htext : m.text = m'.text) : m = m' := by
  have hname : m.name = m'.name := by
    have := congrArg (List.takeWhile (· != ' ')) htext
    rwa [takeWhile_text h.plain.1, takeWhile_text h'.plain.1, String.toList_inj] at this
  have hnames : ∀ name ∈ refusedNames, name ≠ "Invalid" ∧ name ≠ "unknown" := by decide
  have hwords : "Invalid" ≠ "unknown" := by decide
  cases h with
  | named name h =>
    cases h' with
    | named name' h' => exact congrArg (known · []) hname
    | unknownFunction k | unknownSelector k => exact absurd hname (hnames name h).1
    | unknownOpcode k => exact absurd hname (hnames name h).2
  | unknownFunction n =>
    cases h' with
    | named name' h' => exact absurd hname.symm (hnames name' h').1
    | unknownFunction k => rw [markerText_inj htext]
    | unknownSelector k => simp [text, markerText] at htext
    | unknownOpcode k => exact absurd hname hwords
  | unknownSelector n =>
    cases h' with
    | named name' h' => exact absurd hname.symm (hnames name' h').1
    | unknownFunction k => simp [text, markerText] at htext
    | unknownSelector k => rw [markerText_inj htext]
    | unknownOpcode k => exact absurd hname hwords
  | unknownOpcode n =>
    cases h' with
    | named name' h' => exact absurd hname.symm (hnames name' h').2
    | unknownFunction k | unknownSelector k => exact absurd hname.symm hwords
    | unknownOpcode k => rw [markerText_inj htext]

/-! ### Tables of refused words -/

/-- What is written for a word, if decoding refuses it, and with which faults it may. -/
structure Refuses (i : Instruction) (m : Mnemonic) (decoded : Except Fault Operation) : Prop where
  mem : ∀ f, decoded = .error f → f ∈ i.refusals
  written : ∀ f, decoded = .error f → ofFault? f = some m

/-- A fault of a table arises where the table of operations has no entry. -/
theorem refuses_orMarker {i : Instruction} {entry : Option (String × Form)} {op : Option Operation}
    {marker : Mnemonic} {fault : Fault} (hmem : fault ∈ i.refusals)
    (hentry : op = none → ofFault? fault = some (orMarker i marker entry)) :
    Refuses i (orMarker i marker entry) (Operation.orFault op fault) := by
  cases op with
  | none =>
    refine ⟨fun f hf => ?_, fun f hf => ?_⟩ <;> obtain rfl := Except.error.inj hf
    · exact hmem
    · exact hentry rfl
  | some op => exact ⟨nofun, nofun⟩

theorem special?_of_refused : ∀ n : Fin 64, Operation.ofSpecial? n = none → special? n = none := by
  decide

theorem regimm?_of_refused : ∀ n : Fin 32, Operation.ofRegimm? n = none → regimm? n = none := by
  decide

theorem coprocessor0_of_refused : ∀ n : Fin 32, Operation.ofControl? n = none →
    coprocessor0 n = ("COP0", .bare) := by
  decide

/-- The table has the names of refused opcodes, and no other entry for them. -/
theorem opcode?_of_refused : ∀ n : Fin 64, Operation.ofOpcode? n = none →
    ofRefusedOpcode n = ((opcode? n).elim (unknownOpcode n) fun row => known row.1 []) ∧
      ∀ row ∈ opcode? n, row.2 = .bare := by
  decide

theorem refuses (i : Instruction) : Refuses i (ofInstruction i) i.decode := by
  refine of_tables i ?_ ?_ ?_ ?_ fun _ => ?_
  · refine refuses_orMarker (by simp [Instruction.refusals]) fun h => ?_
    rw [special?_of_refused i.function h]
    rfl
  · refine refuses_orMarker (by simp [Instruction.refusals]) fun h => ?_
    rw [regimm?_of_refused i.rt h]
    rfl
  · refine refuses_orMarker (by simp [Instruction.refusals]) fun h => ?_
    rw [coprocessor0_of_refused i.rs h]
    rfl
  · exact ⟨nofun, nofun⟩
  · refine refuses_orMarker (by simp [Instruction.refusals]) fun h => ?_
    obtain ⟨hwritten, hbare⟩ := opcode?_of_refused i.opcode h
    rw [ofFault?, hwritten]
    cases hrow : opcode? i.opcode with
    | none => rfl
    | some row =>
      obtain ⟨name, form⟩ := row
      obtain rfl : form = .bare := hbare _ hrow
      rfl

/-! ### Texts of refused words -/

/-- The opcode of a transfer between memory and a coprocessor that the machine lacks. -/
def transferOpcode? (name : String) : Option Nat :=
  [("LWC0", 0x30), ("LWC1", 0x31), ("LWC3", 0x33), ("SWC0", 0x38), ("SWC1", 0x39),
    ("SWC3", 0x3B)].lookup name

/-- The fault that is read off what is written for a refused word. -/
def fault? (w : Word) : Mnemonic → Option Fault
  | known name _ => (transferOpcode? name).map (.invalidOpcode · w)
  | unknownFunction n => some (.invalidSpecialFunction n w)
  | unknownSelector n => some (.invalidRegimm n w)
  | unknownOpcode n => some (.invalidOpcode n w)

theorem fault?_ofRefusedOpcode (w : Word) (o : Nat) :
    (ofRefusedOpcode o).fault? w = some (.invalidOpcode o w) := by
  have hload : ∀ o ∈ [0x30, 0x31, 0x33],
      transferOpcode? ("LWC" ++ Text.number (o - 0x30)) = some o := by decide
  have hstore : ∀ o ∈ [0x38, 0x39, 0x3B],
      transferOpcode? ("SWC" ++ Text.number (o - 0x38)) = some o := by decide
  unfold ofRefusedOpcode
  split
  next h => rw [fault?, hload o h, Option.map_some]
  next =>
    split
    next h => rw [fault?, hstore o h, Option.map_some]
    next => rfl

theorem ofRefusedOpcode_ne (o : Nat) : ofRefusedOpcode o ≠ known "COP0" [] := by
  intro h
  have hread := fault?_ofRefusedOpcode 0 o
  rw [h] at hread
  cases hread

/-- The transfers have a name and all other refused opcodes a marker. -/
theorem ofRefusedOpcode_eq_unknownOpcode_iff {o : Nat} :
    ofRefusedOpcode o = unknownOpcode o ↔ o ∉ [0x30, 0x31, 0x33, 0x38, 0x39, 0x3B] := by
  unfold ofRefusedOpcode
  split
  next h => exact iff_of_false nofun fun hnot => hnot (List.mem_append_left [0x38, 0x39, 0x3B] h)
  next hload =>
    split
    next h =>
      exact iff_of_false nofun fun hnot => hnot (List.mem_append_right [0x30, 0x31, 0x33] h)
    next hstore =>
      have hnot : o ∉ [0x30, 0x31, 0x33] ++ [0x38, 0x39, 0x3B] := fun h =>
        (List.mem_append.1 h).elim hload hstore
      exact iff_of_true rfl hnot

/-- What is written for a refused word tells the fault, except for the field of coprocessor 0. -/
theorem fault?_of_ofFault? {f : Fault} {w : Word} (hw : f.instruction? = some w)
    (h : ofFault? f = some m) (hm : m ≠ known "COP0" []) : m.fault? w = some f := by
  cases f with
  | invalidSpecialFunction n w' | invalidRegimm n w' =>
    obtain rfl := Option.some.inj hw
    obtain rfl := Option.some.inj h
    rfl
  | invalidControlOperation n w' => exact absurd (Option.some.inj h).symm hm
  | invalidOpcode n w' =>
    obtain rfl := Option.some.inj hw
    obtain rfl := Option.some.inj h
    exact fault?_ofRefusedOpcode w' n
  | _ => cases h

end Mnemonic

namespace Instruction

variable {i : Instruction} {f : Fault} {m : Mnemonic}

theorem instruction?_of_mem_refusals (h : f ∈ i.refusals) : f.instruction? = some i.word := by
  have hall : ∀ f ∈ i.refusals, f.instruction? = some i.word := by
    simp [refusals, Fault.instruction?]
  exact hall f h

/-- A word is written like a refused one if it is refused and written so. -/
theorem text_eq_iff (hm : m.Refused) :
    i.text = m.text ↔ ∃ f ∈ i.refusals, i.decode = .error f ∧ Mnemonic.ofFault? f = some m := by
  obtain ⟨hplain, hok, -⟩ := Mnemonic.spells i
  obtain ⟨hmem, hwritten⟩ := Mnemonic.refuses i
  constructor
  · intro htext
    cases hdecode : i.decode with
    | ok op =>
      -- the first word would name the operation, and that of a refused word names none
      obtain ⟨form, hname, -⟩ := hok op hdecode
      have hwords := congrArg (List.takeWhile (· != ' ')) htext
      rw [text, Mnemonic.takeWhile_text hplain, Mnemonic.takeWhile_text hm.plain.1,
        String.toList_inj] at hwords
      rw [hwords, hm.plain.2] at hname
      cases hname
    | error f =>
      have hf := hwritten f hdecode
      have heq := Mnemonic.eq_of_text (Mnemonic.refused_of_ofFault? hf) hm htext
      exact ⟨f, hmem f hdecode, rfl, heq ▸ hf⟩
  · rintro ⟨f, -, hdecode, hf⟩
    rw [text, Option.some.inj ((hwritten f hdecode).symm.trans hf)]

/-- A word is written like one that is refused with a fault if it is refused with that fault. The
    text of coprocessor 0 tells the kind of the fault only. -/
theorem decode_eq_error_iff (hf : Mnemonic.ofFault? f = some m) (hw : f.instruction? = some i.word)
    (hm : m ≠ .known "COP0" []) : i.decode = .error f ↔ i.text = m.text := by
  rw [text_eq_iff (Mnemonic.refused_of_ofFault? hf)]
  constructor
  · exact fun hdecode => ⟨f, (Mnemonic.refuses i).mem f hdecode, hdecode, hf⟩
  · rintro ⟨f', hmem, hdecode, hf'⟩
    have hread := Mnemonic.fault?_of_ofFault? (instruction?_of_mem_refusals hmem) hf' hm
    rw [Mnemonic.fault?_of_ofFault? hw hf hm] at hread
    rw [hdecode, Option.some.inj hread]

theorem decode_eq_invalidControlOperation_iff :
    (∃ n, i.decode = .error (.invalidControlOperation n i.word)) ↔
      i.text = (Mnemonic.known "COP0" []).text := by
  rw [text_eq_iff (.named "COP0" (by decide))]
  constructor
  · rintro ⟨n, hdecode⟩
    exact ⟨_, (Mnemonic.refuses i).mem _ hdecode, hdecode, rfl⟩
  · rintro ⟨f, hmem, hdecode, hf⟩
    simp only [refusals, List.mem_cons, List.not_mem_nil, or_false] at hmem
    rcases hmem with rfl | rfl | rfl | rfl
    · cases hf
    · cases hf
    · exact ⟨i.rs, hdecode⟩
    · exact absurd (Option.some.inj hf) (Mnemonic.ofRefusedOpcode_ne _)

theorem decode_eq_invalidOpcode_iff {n : Nat} :
    i.decode = .error (.invalidOpcode n i.word) ∧ n ∉ [0x30, 0x31, 0x33, 0x38, 0x39, 0x3B] ↔
      i.text = (Mnemonic.unknownOpcode n).text := by
  rw [← Mnemonic.ofRefusedOpcode_eq_unknownOpcode_iff, text_eq_iff (.unknownOpcode n)]
  constructor
  · rintro ⟨hdecode, hn⟩
    exact ⟨_, (Mnemonic.refuses i).mem _ hdecode, hdecode, congrArg some hn⟩
  · rintro ⟨f, hmem, hdecode, hf⟩
    have hread := Mnemonic.fault?_of_ofFault? (instruction?_of_mem_refusals hmem) hf nofun
    obtain rfl := Option.some.inj hread
    exact ⟨hdecode, Option.some.inj hf⟩

theorem firstWord_eq (i : Instruction) : i.firstWord = (Mnemonic.ofInstruction i).name := by
  rw [firstWord, text, Mnemonic.takeWhile_text (Mnemonic.spells i).plain, String.ofList_toList]

theorem mnemonic_eq_iff {t : String} (h : m.text = t.toList) :
    i.mnemonic = t ↔ i.text = m.text := by
  rw [mnemonic, h, ← String.toList_inj, String.toList_ofList]

theorem toList_marker (wording : String) (n : Nat) :
    (marker wording n).toList = Mnemonic.markerText wording n := by
  simp [marker, Mnemonic.markerText]

/-- The decoder and the assembly text classify every word alike. A word that decodes is written with
    the name of its operation in front, or with one of the names of coprocessor 2. Decoding refuses
    a word with a field of that word, and each fault has a text of its own, which no other word has:
    a marker with the field in it, the bare name of coprocessor 0, or the name of a transfer between
    memory and a coprocessor that the machine lacks. -/
theorem text_of_decode (w : Word) :
    (∀ op, decode ⟨w⟩ = .ok op → op ≠ .cop2 → firstWord ⟨w⟩ = op.name) ∧
    (decode ⟨w⟩ = .ok .cop2 →
      firstWord ⟨w⟩ ∈ ["MFC2", "CFC2", "MTC2", "CTC2", "COP2", "LWC2", "SWC2"]) ∧
    (∀ f, decode ⟨w⟩ = .error f → f ∈ refusals ⟨w⟩) ∧
    (∀ n, decode ⟨w⟩ = .error (.invalidSpecialFunction n w) ↔
      mnemonic ⟨w⟩ = marker "Invalid SPECIAL function" n) ∧
    (∀ n, decode ⟨w⟩ = .error (.invalidRegimm n w) ↔
      mnemonic ⟨w⟩ = marker "Invalid BCOND selector" n) ∧
    ((∃ n, decode ⟨w⟩ = .error (.invalidControlOperation n w)) ↔ mnemonic ⟨w⟩ = "COP0") ∧
    (∀ n, decode ⟨w⟩ = .error (.invalidOpcode n w) ∧ n ∉ [0x30, 0x31, 0x33, 0x38, 0x39, 0x3B] ↔
      mnemonic ⟨w⟩ = marker "unknown opcode" n) ∧
    (∀ n ∈ [0x30, 0x31, 0x33], decode ⟨w⟩ = .error (.invalidOpcode n w) ↔
      mnemonic ⟨w⟩ = "LWC" ++ Text.number (n - 0x30)) ∧
    (∀ n ∈ [0x38, 0x39, 0x3B], decode ⟨w⟩ = .error (.invalidOpcode n w) ↔
      mnemonic ⟨w⟩ = "SWC" ++ Text.number (n - 0x38)) := by
  obtain ⟨-, hok, -⟩ := Mnemonic.spells ⟨w⟩
  have hname : ∀ op, decode ⟨w⟩ = .ok op → if op = .cop2 then
      firstWord ⟨w⟩ ∈ Operation.geometryNames else firstWord ⟨w⟩ = op.name := by
    intro op hop
    obtain ⟨form, hform, -⟩ := hok op hop
    rw [firstWord_eq]
    exact Operation.name_of_ofName? hform
  refine ⟨fun op hop hne => ?_, fun hop => hname _ hop, (Mnemonic.refuses ⟨w⟩).mem, fun n => ?_,
    fun n => ?_, ?_, fun n => ?_, fun n hn => ?_, fun n hn => ?_⟩
  · have hop := hname op hop
    rwa [if_neg hne] at hop
  · rw [mnemonic_eq_iff (m := .unknownFunction n) (toList_marker ..).symm]
    exact decode_eq_error_iff rfl rfl nofun
  · rw [mnemonic_eq_iff (m := .unknownSelector n) (toList_marker ..).symm]
    exact decode_eq_error_iff rfl rfl nofun
  · rw [mnemonic_eq_iff (m := .known "COP0" []) rfl]
    exact decode_eq_invalidControlOperation_iff
  · rw [mnemonic_eq_iff (m := .unknownOpcode n) (toList_marker ..).symm]
    exact decode_eq_invalidOpcode_iff
  · rw [mnemonic_eq_iff (m := .ofRefusedOpcode n)
      (by rw [Mnemonic.ofRefusedOpcode, if_pos hn]; rfl)]
    exact decode_eq_error_iff rfl rfl (Mnemonic.ofRefusedOpcode_ne n)
  · have hload : n ∉ [0x30, 0x31, 0x33] := by
      revert n
      decide
    rw [mnemonic_eq_iff (m := .ofRefusedOpcode n)
      (by rw [Mnemonic.ofRefusedOpcode, if_neg hload, if_pos hn]; rfl)]
    exact decode_eq_error_iff rfl rfl (Mnemonic.ofRefusedOpcode_ne n)

/-- Four neighbours: a transfer of coprocessor 2 decodes, that of coprocessor 1 is refused and has a
    name, coprocessor 3 has a marker, and a command of coprocessor 0 has a bare name. -/
theorem text_of_decode_coprocessors :
    firstWord ⟨0xC8000000⟩ ∈ ["MFC2", "CFC2", "MTC2", "CTC2", "COP2", "LWC2", "SWC2"] ∧
    mnemonic ⟨0xC4000000⟩ = "LWC1" ∧ mnemonic ⟨0x4C000000⟩ = marker "unknown opcode" 0x13 ∧
    (∃ n, decode ⟨0x42000010⟩ = .error (.invalidControlOperation n 0x42000010)) ∧
    decode ⟨0x0000003F⟩ = .error (.invalidSpecialFunction 0x3F 0x0000003F) := by
  have hgeometry : decode ⟨0xC8000000⟩ = .ok .cop2 := rfl
  have hload : decode ⟨0xC4000000⟩ = .error (.invalidOpcode 0x31 0xC4000000) := rfl
  have hthird : decode ⟨0x4C000000⟩ = .error (.invalidOpcode 0x13 0x4C000000) := rfl
  have hcommand : mnemonic ⟨0x42000010⟩ = "COP0" := by decide
  have hfunction : mnemonic ⟨0x0000003F⟩ = marker "Invalid SPECIAL function" 0x3F := by decide
  obtain ⟨-, hnamed, -⟩ := text_of_decode 0xC8000000
  obtain ⟨-, -, -, -, -, -, -, htransfer, -⟩ := text_of_decode 0xC4000000
  obtain ⟨-, -, -, -, -, -, hmarker, -⟩ := text_of_decode 0x4C000000
  obtain ⟨-, -, -, -, -, hbare, -⟩ := text_of_decode 0x42000010
  obtain ⟨-, -, -, hspecial, -⟩ := text_of_decode 0x0000003F
  exact ⟨hnamed hgeometry, (htransfer 0x31 (by decide)).1 hload,
    (hmarker 0x13).1 ⟨hthird, by decide⟩, hbare.2 hcommand, (hspecial 0x3F).2 hfunction⟩

end Instruction

end R3000
