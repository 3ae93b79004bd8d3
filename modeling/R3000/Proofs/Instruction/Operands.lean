import Mathlib.Data.List.Basic
import R3000.Instruction.Mnemonic

/-!
Operands read back. Numerals have digits only, so the marks around and between them tell where each
field ends: the commas of a list split it into its operands, and the text of an operand whose kind
is known gives the operand. Main statement: `operands_inj`.
-/

namespace R3000

namespace Operand

theorem registerText_inj {m n : Fin 32} (h : registerText m = registerText n) : m = n :=
  Fin.ext (Text.decimal_inj (List.cons.inj h).2)

theorem hexText_inj {width : Nat} {v w : Word} (h : hexText width v = hexText width w) : v = w :=
  UInt32.toNat_inj.1 (Text.hex_inj (List.append_cancel_right h))

theorem not_mem_registerText {c : Char} (hc : Text.digit? 10 c = none) (hmark : c ≠ '$')
    (n : Fin 32) : c ∉ registerText n := by
  rw [registerText, List.mem_cons, not_or]
  exact ⟨hmark, Text.not_mem_of_natural? (Text.natural?_decimal n) hc⟩

theorem not_mem_hexText {c : Char} (hc : Text.digit? 16 c = none) (hmark : c ≠ 'h') (width : Nat)
    (w : Word) : c ∉ hexText width w := by
  rw [hexText, List.mem_append, not_or]
  exact ⟨Text.not_mem_of_natural? (Text.natural?_hex width w.toNat) hc,
    fun h => hmark (List.mem_singleton.1 h)⟩

/-- The parenthesis behind an offset is the first one. -/
theorem indexed_inj {v w : Word} {m n : Fin 32} (h : (indexed v m).text = (indexed w n).text) :
    v = w ∧ m = n := by
  have hoffset : '(' ∉ hexText 1 v := not_mem_hexText (by decide) (by decide) 1 v
  have hbase : '(' ∉ registerText m ++ [')'] := by
    rw [List.mem_append, not_or]
    exact ⟨not_mem_registerText (by decide) (by decide) m, by decide⟩
  simp only [text, List.append_assoc, List.cons_append] at h
  obtain ⟨hv, -, hm⟩ := (List.append_cons_inj_of_notMem hoffset hbase).1 h
  exact ⟨hexText_inj hv, registerText_inj (List.append_cancel_right hm)⟩

/-- An operand of a known kind is read back from its text. -/
theorem text_inj {p q : Operand} (hkind : p.ctorIdx = q.ctorIdx) (h : p.text = q.text) : p = q := by
  cases p with
  | register m =>
    cases q with
    | register n => rw [registerText_inj h]
    | _ => cases hkind
  | amount m =>
    cases q with
    | amount n => rw [Fin.ext (Text.decimal_inj h)]
    | _ => cases hkind
  | immediate v =>
    cases q with
    | immediate w => rw [hexText_inj h]
    | _ => cases hkind
  | address v =>
    cases q with
    | address w => rw [hexText_inj h]
    | _ => cases hkind
  | indexed v m =>
    cases q with
    | indexed w n =>
      obtain ⟨rfl, rfl⟩ := indexed_inj h
      rfl
    | _ => cases hkind

theorem comma_not_mem_text (p : Operand) : ',' ∉ p.text := by
  cases p with
  | register n => exact not_mem_registerText (by decide) (by decide) n
  | amount n => exact Text.not_mem_of_natural? (Text.natural?_decimal n) (by decide)
  | immediate w | address w => exact not_mem_hexText (by decide) (by decide) _ w
  | indexed w n =>
    have hoffset := not_mem_hexText (by decide : Text.digit? 16 ',' = none) (by decide) 1 w
    have hbase := not_mem_registerText (by decide : Text.digit? 10 ',' = none) (by decide) n
    simp [text, hoffset, hbase]

/-- Commas stand between the operands of a list. -/
theorem append_flatMap_text (x : List Char) (ps : List Operand) :
    (x ++ ps.flatMap fun q => ", ".toList ++ q.text) =
      [','].intercalate (x :: ps.map fun q => ' ' :: q.text) := by
  induction ps generalizing x with
  | nil => simp
  | cons q ps ih =>
    rw [List.map_cons, List.intercalate_cons_cons, ← ih, List.flatMap_cons]
    simp

theorem splitOn_operands (p : Operand) (ps : List Operand) :
    (p.text ++ ps.flatMap fun q => ", ".toList ++ q.text).splitOn ',' =
      p.text :: ps.map fun q => ' ' :: q.text := by
  rw [append_flatMap_text, List.splitOn_intercalate ',' _ (List.cons_ne_nil _ _)]
  refine List.forall_mem_cons.2 ⟨p.comma_not_mem_text, fun x hx => ?_⟩
  obtain ⟨q, -, rfl⟩ := List.mem_map.1 hx
  simp [q.comma_not_mem_text]

theorem eq_of_map_text {ps qs : List Operand}
    (hkinds : ps.map Operand.ctorIdx = qs.map Operand.ctorIdx)
    (h : ps.map text = qs.map text) : ps = qs := by
  induction ps generalizing qs with
  | nil => exact (List.map_eq_nil_iff.1 h.symm).symm
  | cons p ps ih =>
    cases qs with
    | nil => cases h
    | cons q qs =>
      obtain ⟨hkind, hkinds⟩ := List.cons.inj hkinds
      obtain ⟨hp, hps⟩ := List.cons.inj h
      rw [text_inj hkind hp, ih hkinds hps]

/-- Operands of known kinds are read back from the text behind a name. -/
theorem operands_inj {name : String} {ps qs : List Operand}
    (hkinds : ps.map Operand.ctorIdx = qs.map Operand.ctorIdx)
    (h : (Mnemonic.known name ps).text = (Mnemonic.known name qs).text) : ps = qs := by
  cases ps with
  | nil => exact (List.map_eq_nil_iff.1 hkinds.symm).symm
  | cons p ps =>
    cases qs with
    | nil => cases hkinds
    | cons q qs =>
      rw [Mnemonic.text, Mnemonic.text, List.append_assoc, List.append_assoc] at h
      have hsplit := congrArg (List.splitOn ',') (List.append_cancel_left h)
      rw [splitOn_operands, splitOn_operands] at hsplit
      obtain ⟨hp, hps⟩ := List.cons.inj hsplit
      refine eq_of_map_text hkinds (congrArg₂ List.cons hp ?_)
      simpa [Function.comp_def] using congrArg (List.map List.tail) hps

end Operand

end R3000
