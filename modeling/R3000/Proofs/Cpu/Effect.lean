import R3000.Proofs.Machine.Effect

/-!
What an operation may touch, and what it reads. Main statements: only a load leaves a pending value,
only a store leaves a store, only a branch moves the next address; a branch never faults; an
operation does not depend on the registers that are no sources of it; and the value that an
unaligned load merges with counts only if it is not that of register 0.
-/

namespace R3000

/-- Whether the result of an operation waits for one cycle before it reaches its register. -/
def Operation.isLoad : Operation → Bool
  | lb | lh | lw | lbu | lhu | lwl | lwr | mfc0 => true
  | _ => false

/-- Whether an operation writes memory. -/
def Operation.isStore : Operation → Bool
  | sb | sh | sw | swl | swr => true
  | _ => false

/-- Whether an instruction decodes to an operation whose result waits for one cycle. -/
def Instruction.isLoad (i : Instruction) : Bool :=
  match i.decode with
  | .ok op => op.isLoad
  | .error _ => false

theorem exists_of_map_eq_ok {ε α β : Type} {f : α → β} {x : Except ε α} {b : β}
    (h : x.map f = .ok b) : ∃ a, x = .ok a ∧ b = f a := by
  cases x with
  | error e => cases h
  | ok a => exact ⟨a, rfl, (Except.ok.inj h).symm⟩

theorem Instruction.exists_of_effect {i : Instruction} {x : Operands} {m : Memory} {e : Effect}
    (h : i.effect x m = .ok e) : ∃ op, i.decode = .ok op ∧ op.effect i x m = .ok e := by
  unfold effect at h
  split at h
  next op hop => exact ⟨op, hop, h⟩
  next => cases h

/-- While the cache is isolated a store does nothing, wherever it goes. -/
theorem Operands.store_of_isolated {x : Operands} (h : x.isolated = true) (s : Except Fault Store) :
    x.store s = .ok .nothing := if_pos h

theorem Operands.store_of_not_isolated {x : Operands} (h : x.isolated = false)
    (s : Except Fault Store) : x.store s = s.map .storing := by
  rw [store, h]
  rfl

theorem Operands.store_eq_ok {x : Operands} {s : Except Fault Store} {e : Effect}
    (h : x.store s = .ok e) : e = .nothing ∨ ∃ t, s = .ok t ∧ e = .storing t := by
  unfold store at h
  split at h
  next => exact .inl (Except.ok.inj h).symm
  next => exact .inr (exists_of_map_eq_ok h)

/-- A branch neither loads nor stores. -/
theorem Operands.branch_fields (x : Operands) (i : Instruction) (condition : Bool) :
    (x.branch i condition).load = none ∧ (x.branch i condition).store = none := by
  unfold branch
  split <;> exact ⟨rfl, rfl⟩

namespace Operation

variable {op : Operation} {i : Instruction} {x : Operands} {m : Memory} {e : Effect}

/-- Which of the fields of an effect an operation may set. -/
theorem touches (h : op.effect i x m = .ok e) : e.load.isSome = op.isLoad ∧
    (op.isStore = false → e.store = none) ∧ (op.isBranch = false → e.nextPc = none) := by
  cases op with
  | lb | lbu | lh | lhu | lw | lwl | lwr =>
    obtain ⟨v, -, rfl⟩ := exists_of_map_eq_ok h
    exact ⟨rfl, fun _ => rfl, fun _ => rfl⟩
  | sb | sh | sw | swl | swr =>
    rcases Operands.store_eq_ok h with rfl | ⟨t, -, rfl⟩
    · exact ⟨rfl, fun _ => rfl, fun _ => rfl⟩
    · exact ⟨rfl, nofun, fun _ => rfl⟩
  | beq | bne | blez | bgtz | bltz | bgez | bltzal | bgezal =>
    obtain rfl := Except.ok.inj h
    obtain ⟨hload, hstore⟩ := x.branch_fields i _
    exact ⟨by rw [hload]; rfl, fun _ => hstore, nofun⟩
  | j | jal | jr | jalr =>
    obtain rfl := Except.ok.inj h
    exact ⟨rfl, fun _ => rfl, nofun⟩
  | cfc0 | ctc0 | cop2 | syscall | breakpoint => cases h
  | _ =>
    obtain rfl := Except.ok.inj h
    exact ⟨rfl, fun _ => rfl, fun _ => rfl⟩

/-- A load writes no register of its own. -/
theorem write_of_isLoad (h : op.effect i x m = .ok e) (hop : op.isLoad) : e.write = none := by
  cases op with
  | lb | lbu | lh | lhu | lw | lwl | lwr =>
    obtain ⟨v, -, rfl⟩ := exists_of_map_eq_ok h
    rfl
  | mfc0 =>
    obtain rfl := Except.ok.inj h
    rfl
  | _ => cases hop

/-- A load goes to the register that the second source field names. -/
theorem target_of_effect (h : op.effect i x m = .ok e) {l : PendingLoad} (hl : e.load = some l) :
    op.isLoad ∧ l.target = i.rt := by
  have hop : op.isLoad := by
    rw [← (touches h).1, hl]
    rfl
  refine ⟨hop, ?_⟩
  cases op with
  | lb | lbu | lh | lhu | lw | lwl | lwr =>
    obtain ⟨v, -, rfl⟩ := exists_of_map_eq_ok h
    obtain rfl := Option.some.inj hl
    rfl
  | mfc0 =>
    obtain rfl := Except.ok.inj h
    obtain rfl := Option.some.inj hl
    rfl
  | _ => cases hop

/-- A branch never faults. -/
theorem exists_effect_of_isBranch (h : op.isBranch) : ∃ e, op.effect i x m = .ok e := by
  cases op <;> first | exact ⟨_, rfl⟩ | cases h

end Operation

/-- Only a load leaves a pending value. -/
theorem Instruction.load_of_effect {i : Instruction} {x : Operands} {m : Memory} {e : Effect}
    (h : i.effect x m = .ok e) : (if i.isLoad then e.load else none) = e.load := by
  obtain ⟨op, hop, he⟩ := Instruction.exists_of_effect h
  have hload := (Operation.touches he).1
  rw [Instruction.isLoad, hop]
  cases hl : e.load with
  | none => exact ite_self none
  | some l =>
    rw [hl] at hload
    exact if_pos hload.symm

theorem Instruction.target_of_effect {i : Instruction} {x : Operands} {m : Memory} {e : Effect}
    (h : i.effect x m = .ok e) {l : PendingLoad} (hl : e.load = some l) :
    i.isLoad ∧ l.target = i.rt := by
  obtain ⟨op, hop, he⟩ := Instruction.exists_of_effect h
  rw [Instruction.isLoad, hop]
  exact Operation.target_of_effect he hl

/-! ### The registers that an operation reads -/

/-- The registers that an operation reads, as far as it gets. A store reads its value unless the
    cache is isolated, and an unaligned one reads memory first. The register that an unaligned load
    merges with is none of them. -/
def Operation.sources (op : Operation) (i : Instruction) (x : Operands) (m : Memory) :
    List (Fin 32) :=
  match op with
  | lui | mfhi | mflo | j | jal | mfc0 | cfc0 | ctc0 | cop2 | syscall | breakpoint => []
  | sll | srl | sra | mtc0 => [i.rt]
  | addi | addiu | slti | sltiu | andi | ori | xori | mthi | mtlo | jr | jalr | blez | bgtz | bltz
  | bgez | bltzal | bgezal | lb | lbu | lh | lhu | lw | lwl | lwr => [i.rs]
  | sb | sh | sw => if x.isolated then [i.rs] else [i.rs, i.rt]
  | swl | swr =>
    if x.isolated then [i.rs]
    else
      match m.loadWord (x.address i).aligned with
      | .ok _ => [i.rs, i.rt]
      | .error _ => [i.rs]
  | sllv | srlv | srav | add | addu | sub | subu | slt | sltu | and | or | xor | nor | mult | multu
  | div | divu | beq | bne => [i.rs, i.rt]

/-- The registers that an instruction reads. -/
def Instruction.sources (i : Instruction) (x : Operands) (m : Memory) : List (Fin 32) :=
  match i.decode with
  | .ok op => op.sources i x m
  | .error _ => []

/-- An operation does the same on other registers with the same sources. -/
theorem Operation.effect_register (op : Operation) (i : Instruction) (x : Operands) (m : Memory)
    {g : Fin 32 → Word} (hg : ∀ r ∈ op.sources i x m, g r = x.register r) :
    op.effect i { x with register := g } m = op.effect i x m := by
  cases op with
  | lui | mfhi | mflo | j | jal | mfc0 | cfc0 | ctc0 | cop2 | syscall | breakpoint => rfl
  | sll | srl | sra | mtc0 =>
    have ht : g i.rt = x.register i.rt := hg i.rt (List.mem_singleton_self _)
    simp only [effect, ht]
  | sb | sh | sw =>
    have hs : g i.rs = x.register i.rs := hg i.rs (by rw [sources]; split <;> simp)
    cases hx : x.isolated with
    | true =>
      have hx' : Operands.isolated { x with register := g } = true := hx
      rw [effect, effect, Operands.store_of_isolated hx, Operands.store_of_isolated hx']
    | false =>
      have hx' : Operands.isolated { x with register := g } = false := hx
      have ht : g i.rt = x.register i.rt := hg i.rt (by simp [sources, hx])
      simp only [effect, Operands.address, hs, ht, Operands.store_of_not_isolated hx,
        Operands.store_of_not_isolated hx']
  | swl | swr =>
    have hs : g i.rs = x.register i.rs := hg i.rs (by
      rw [sources]
      split
      · simp
      · split <;> simp)
    cases hx : x.isolated with
    | true =>
      have hx' : Operands.isolated { x with register := g } = true := hx
      rw [effect, effect, Operands.store_of_isolated hx, Operands.store_of_isolated hx']
    | false =>
      have hx' : Operands.isolated { x with register := g } = false := hx
      cases hw : m.loadWord (x.address i).aligned with
      | error f =>
        -- the store faults before it reads its value
        rw [Operands.address] at hw
        simp only [effect, Operands.address, hs, Operands.store_of_not_isolated hx,
          Operands.store_of_not_isolated hx', Store.left, Store.right, hw, Except.bind]
      | ok w =>
        have ht : g i.rt = x.register i.rt := hg i.rt (by simp [sources, hx, hw])
        simp only [effect, Operands.address, hs, ht, Operands.store_of_not_isolated hx,
          Operands.store_of_not_isolated hx']
  | sllv | srlv | srav | add | addu | sub | subu | slt | sltu | and | or | xor | nor | mult | multu
  | div | divu | beq | bne =>
    have hs : g i.rs = x.register i.rs := hg i.rs (by simp [sources])
    have ht : g i.rt = x.register i.rt := hg i.rt (by simp [sources])
    simp only [effect, Operands.branch, hs, ht]
  | _ =>
    have hs : g i.rs = x.register i.rs := hg i.rs (List.mem_singleton_self _)
    simp only [effect, Operands.address, Operands.branch, Operands.link, hs]

/-! ### The merge of unaligned loads -/

/-- A pending load, unless it is one to register 0, which drops it. -/
def PendingLoad.settled (l : Option PendingLoad) : Option PendingLoad := l.filter (·.target != 0)

theorem PendingLoad.settled_of_zero {l : PendingLoad} (h : l.target = 0) :
    settled (some l) = none := by
  rw [settled, Option.filter_some, h]
  rfl

theorem PendingLoad.settled_of_ne {l : PendingLoad} (h : l.target ≠ 0) :
    settled (some l) = some l := by
  rw [settled, Option.filter_some, bne_iff_ne.2 h]
  rfl

theorem PendingLoad.settled_settled (l : Option PendingLoad) : settled (settled l) = settled l := by
  simp [settled, Option.filter_filter]

/-- A load to another register is left alone. -/
theorem PendingLoad.settled_eq_some_iff {p : Option PendingLoad} {l : PendingLoad}
    (hl : l.target ≠ 0) : settled p = some l ↔ p = some l :=
  Option.filter_eq_some_iff.trans (and_iff_left (bne_iff_ne.2 hl))

/-- An effect without a load to register 0. -/
def Effect.settled (e : Effect) : Effect := { e with load := PendingLoad.settled e.load }

/-- Effects that are equal once settled differ in their loads only. -/
theorem Effect.exists_load_of_settled {e e' : Effect} (h : e'.settled = e.settled) :
    ∃ l, PendingLoad.settled l = PendingLoad.settled e.load ∧ e' = { e with load := l } := by
  refine ⟨e'.load, congrArg load h, ?_⟩
  calc e' = { e'.settled with load := e'.load } := rfl
    _ = { e.settled with load := e'.load } := by rw [h]
    _ = { e with load := e'.load } := rfl

/-- Outcomes that are equal once settled are the same fault. -/
theorem Effect.error_of_settled {x y : Except Fault Effect} {f : Fault}
    (h : y.map settled = x.map settled) (hx : x = .error f) : y = .error f := by
  subst hx
  cases y with
  | error f' => rw [Except.error.inj h]
  | ok e' => cases h

/-- Outcomes that are equal once settled are effects that differ in their loads only. -/
theorem Effect.ok_of_settled {x y : Except Fault Effect} {e : Effect}
    (h : y.map settled = x.map settled) (hx : x = .ok e) :
    ∃ l, PendingLoad.settled l = PendingLoad.settled e.load ∧ y = .ok { e with load := l } := by
  subst hx
  obtain ⟨e', hy, he'⟩ := exists_of_map_eq_ok h
  obtain ⟨l, hl, rfl⟩ := exists_load_of_settled he'.symm
  exact ⟨l, hl, hy⟩

/-- What an unaligned load finds in register 0 does not matter. -/
theorem Operation.effect_mergeBase (op : Operation) (i : Instruction) (x : Operands) (m : Memory)
    {g : Fin 32 → Word} (hg : ∀ r, r ≠ 0 → g r = x.mergeBase r) :
    (op.effect i { x with mergeBase := g } m).map Effect.settled =
      (op.effect i x m).map Effect.settled := by
  cases op with
  | lwl | lwr =>
    by_cases hr : i.rt = 0
    · dsimp only [effect, Operands.address]
      cases m.loadWord (x.register i.rs + i.signedImmediate).aligned with
      | error e => rfl
      | ok w => simp [Except.map, Effect.settled, PendingLoad.settled, Effect.loading, hr,
          Option.filter_some]
    · dsimp only [effect]
      rw [hg i.rt hr]
      rfl
  | _ => rfl

theorem Instruction.effect_mergeBase (i : Instruction) (x : Operands) (m : Memory)
    {g : Fin 32 → Word} (hg : ∀ r, r ≠ 0 → g r = x.mergeBase r) :
    (i.effect { x with mergeBase := g } m).map Effect.settled =
      (i.effect x m).map Effect.settled := by
  unfold effect
  cases i.decode with
  | error f => rfl
  | ok op => exact op.effect_mergeBase i x m hg

end R3000
