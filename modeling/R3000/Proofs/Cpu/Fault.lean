import R3000.Proofs.Cpu.Effect

/-!
Faults of operations. A few operations always fault, with a fault that carries the whole word; all
others fault only through an access to memory, with one that names an address. Main statement:
`exists_of_fault`.
-/

namespace R3000

theorem eq_error_of_map {ε α β : Type} {f : α → β} {x : Except ε α} {e : ε}
    (h : x.map f = .error e) : x = .error e := by
  cases x with
  | error e' => rw [Except.error.inj h]
  | ok a => cases h

/-! ### Accesses -/

variable {m : Memory} {a v : Word} {f : Fault}

theorem Memory.eq_unmappedAddress_of_loadByte (h : m.loadByte a = .error f) :
    f = .unmappedAddress a := by
  unfold loadByte at h
  split at h
  next e he =>
    obtain rfl := Except.error.inj h
    exact Place.eq_unmappedAddress_of_find he
  next => cases h

theorem Memory.eq_unmappedAddress_of_loadHalf (h : m.loadHalf a = .error f) :
    f = .unmappedAddress a := by
  unfold loadHalf at h
  split at h
  next e he =>
    obtain rfl := Except.error.inj h
    exact Place.eq_unmappedAddress_of_find he
  next => cases h

theorem Memory.eq_unmappedAddress_of_loadWord (h : m.loadWord a = .error f) :
    f = .unmappedAddress a := by
  unfold loadWord at h
  split at h
  next e he =>
    obtain rfl := Except.error.inj h
    exact Place.eq_unmappedAddress_of_find he
  next => cases h

theorem Store.eq_unmappedAddress_of_ofBytes {bytes : List UInt8}
    (h : Store.ofBytes a bytes = .error f) : f = .unmappedAddress a := by
  unfold ofBytes at h
  split at h
  next => cases h
  next e he =>
    obtain rfl := Except.error.inj h
    exact Place.eq_unmappedAddress_of_find he

/-- A store that merges with a word faults where that word does, or where it is stored again. -/
theorem Store.eq_unmappedAddress_of_merge {merge : Word → Word}
    (h : ((m.loadWord a).bind fun w => Store.ofWord a (merge w)) = .error f) :
    f = .unmappedAddress a := by
  cases hw : m.loadWord a with
  | error f' =>
    rw [hw] at h
    obtain rfl := Except.error.inj h
    exact Memory.eq_unmappedAddress_of_loadWord hw
  | ok w =>
    rw [hw] at h
    exact eq_unmappedAddress_of_ofBytes h

theorem Operands.eq_error_of_store {x : Operands} {s : Except Fault Store}
    (h : x.store s = .error f) : s = .error f := by
  unfold store at h
  split at h
  next => cases h
  next => exact eq_error_of_map h

/-! ### Operations -/

namespace Operation

/-- Whether an operation always faults, with a fault that carries the whole word. -/
def traps : Operation → Bool
  | cfc0 | ctc0 | cop2 | syscall | breakpoint => true
  | _ => false

/-- An operation that does not trap faults through its access to memory. -/
theorem exists_of_fault {op : Operation} {i : Instruction} {x : Operands} (hop : op.traps = false)
    (h : op.effect i x m = .error f) : ∃ a, f = .unmappedAddress a := by
  cases op with
  | cfc0 | ctc0 | cop2 | syscall | breakpoint => cases hop
  | lb | lbu => exact ⟨_, Memory.eq_unmappedAddress_of_loadByte (eq_error_of_map h)⟩
  | lh | lhu => exact ⟨_, Memory.eq_unmappedAddress_of_loadHalf (eq_error_of_map h)⟩
  | lw | lwl | lwr => exact ⟨_, Memory.eq_unmappedAddress_of_loadWord (eq_error_of_map h)⟩
  | sb | sh | sw =>
    exact ⟨_, Store.eq_unmappedAddress_of_ofBytes (Operands.eq_error_of_store h)⟩
  | swl | swr => exact ⟨_, Store.eq_unmappedAddress_of_merge (Operands.eq_error_of_store h)⟩
  | _ => cases h

end Operation

end R3000
