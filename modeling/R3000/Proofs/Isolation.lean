import R3000.Proofs.Cycle
import R3000.Proofs.Memory.Extent

/-!
Stores and the isolated cache. Memory changes in a cycle only through a store that succeeds while
the cache is not isolated, and only at the bytes of that store. While the cache is isolated every
store succeeds and does nothing, wherever it goes, and nothing else depends on the flag. Main
statements: the frame of one cycle, the constant memory of a run, and `memory_frame`, which puts
them together.
-/

namespace R3000

namespace Operation

variable {op : Operation} {i : Instruction} {x : Operands} {m : Memory} {a v : Word} {e : Effect}

theorem exists_store? (h : op.isStore) (m : Memory) (a v : Word) :
    ∃ t, op.store? m a v = some t := by
  cases op <;> first | exact ⟨_, rfl⟩ | cases h

theorem isStore_of_store? {t : Except Fault Store} (h : op.store? m a v = some t) : op.isStore := by
  cases op <;> first | rfl | cases h

/-- A store does what its operation asks for, unless the cache is isolated. -/
theorem effect_of_store? {t : Except Fault Store}
    (h : op.store? m (x.address i) (x.register i.rt) = some t) : op.effect i x m = x.store t := by
  cases op with
  | sb | sh | sw | swl | swr =>
    obtain rfl := Option.some.inj h
    rfl
  | _ => cases h

/-- Which operations read or write the control registers. Stores read them for the isolation. -/
def usesControl : Operation → Bool
  | mfc0 | mtc0 | sb | sh | sw | swl | swr => true
  | _ => false

theorem effect_control (h : op.usesControl = false) (g : Fin 32 → Word) :
    op.effect i { x with control := g } m = op.effect i x m := by
  cases op <;> first | rfl | cases h

theorem control_of_effect (h : op.usesControl = false) (he : op.effect i x m = .ok e) :
    e.control = none := by
  cases op with
  | mfc0 | mtc0 | sb | sh | sw | swl | swr => cases h
  | lb | lbu | lh | lhu | lw | lwl | lwr =>
    obtain ⟨v, -, rfl⟩ := exists_of_map_eq_ok he
    rfl
  | cfc0 | ctc0 | cop2 | syscall | breakpoint => cases he
  | beq | bne | blez | bgtz | bltz | bgez | bltzal | bgezal =>
    obtain rfl := Except.ok.inj he
    unfold Operands.branch
    split <;> rfl
  | _ =>
    obtain rfl := Except.ok.inj he
    rfl

end Operation

namespace Machine

variable {s : Machine} {w : Word} {op : Operation}

/-- Whether the status register keeps stores from memory. -/
def Isolated (s : Machine) : Prop := StatusFlag.isolateCache.isSet s.cpu.status = true

/-- The machine with other control registers. -/
def withControl (s : Machine) (k : ControlRegisters) : Machine := { s with cpu.control := k }

/-- A store is carried out, or dropped while the cache is isolated. -/
theorem effect_of_store? {t : Except Fault Store} (hop : Instruction.decode ⟨w⟩ = .ok op)
    (ht : op.store? s.memory (s.cpu.operands.address ⟨w⟩)
      (s.cpu.register (Instruction.rt ⟨w⟩)) = some t) :
    s.effect w = (s.cpu.advance ⟨w⟩).operands.store t := by
  rw [effect_of_decode hop]
  apply Operation.effect_of_store?
  have hvalue : (s.cpu.advance ⟨w⟩).operands.register (Instruction.rt ⟨w⟩) =
    s.cpu.register (Instruction.rt ⟨w⟩) := congrFun (s.cpu.register_advance ⟨w⟩) _
  rw [address_advance, hvalue]
  exact ht

/-- While the cache is isolated a store does nothing but pass its cycle, wherever it goes. -/
theorem cycle_of_isolated (hs : s.Isolated) (hw : s.memory.loadWord s.cpu.pc = .ok w)
    (hop : Instruction.decode ⟨w⟩ = .ok op) (hstore : op.isStore) :
    s.cycle = (.ok (), ⟨(s.cpu.advance ⟨w⟩).commit, s.memory⟩) := by
  obtain ⟨t, ht⟩ := Operation.exists_store? hstore s.memory (s.cpu.operands.address ⟨w⟩)
    (s.cpu.register (Instruction.rt ⟨w⟩))
  have hisolated : (s.cpu.advance ⟨w⟩).operands.isolated = true := hs
  have heffect := effect_of_store? hop ht
  rw [Operands.store_of_isolated hisolated] at heffect
  rw [cycle_of_effect hw heffect]
  rfl

/-- While the cache is not isolated a store has the result, and leaves the memory, of an access to
    memory from outside. -/
theorem cycle_of_not_isolated (hs : ¬ s.Isolated) (hw : s.memory.loadWord s.cpu.pc = .ok w)
    (hop : Instruction.decode ⟨w⟩ = .ok op) {t : Except Fault Store}
    (ht : op.store? s.memory (s.cpu.operands.address ⟨w⟩)
      (s.cpu.register (Instruction.rt ⟨w⟩)) = some t) :
    (s.cycle.1, s.cycle.2.memory) = s.memory.perform t := by
  have hisolated : (s.cpu.advance ⟨w⟩).operands.isolated = false := Bool.eq_false_iff.2 hs
  have heffect := effect_of_store? hop ht
  rw [Operands.store_of_not_isolated hisolated] at heffect
  cases t with
  | error f =>
    rw [cycle_of_fault hw heffect]
    rfl
  | ok t =>
    rw [cycle_of_effect hw heffect]
    rfl

/-- A byte that a cycle changes is one of a store that was carried out. -/
theorem exists_of_cycle_ne {r : Region} {o : Nat} {ho : o < r.size}
    (h : s.cycle.2.memory.get r o ho ≠ s.memory.get r o ho) :
    ∃ w op, s.memory.loadWord s.cpu.pc = .ok w ∧ Instruction.decode ⟨w⟩ = .ok op ∧ op.isStore ∧
      ¬ s.Isolated ∧ s.cycle.1 = .ok () ∧
      ∃ k < (op.extent (s.cpu.operands.address ⟨w⟩)).2,
        Region.resolve ((op.extent (s.cpu.operands.address ⟨w⟩)).1 + UInt32.ofNat k) =
          some (r, o) := by
  obtain ⟨f, -, hcycle⟩ | ⟨w, f, -, -, hcycle⟩ | ⟨w, e, hw, he, hcycle⟩ := s.cycle_cases
  · exact absurd (by rw [hcycle]; rfl) h
  · exact absurd (by rw [hcycle]) h
  obtain ⟨op, hop, he'⟩ := Instruction.exists_of_effect he
  by_cases hstore : op.isStore = true
  · obtain ⟨t, ht⟩ := Operation.exists_store? hstore s.memory (s.cpu.operands.address ⟨w⟩)
      (s.cpu.register (Instruction.rt ⟨w⟩))
    by_cases hs : s.Isolated
    · exact absurd (by rw [cycle_of_isolated hs hw hop hstore]) h
    · have hperform := cycle_of_not_isolated hs hw hop ht
      refine ⟨w, op, hw, hop, hstore, hs, by rw [hcycle], ?_⟩
      cases t with
      | error f =>
        have hmemory : s.cycle.2.memory = s.memory := congrArg Prod.snd hperform
        exact absurd (by rw [hmemory]) h
      | ok t =>
        have hmemory : s.cycle.2.memory = s.memory.write t := congrArg Prod.snd hperform
        rw [hmemory] at h
        exact Memory.exists_of_store? ht h
  · have hnone := (Operation.touches he').2.1 (Bool.eq_false_iff.2 hstore)
    refine absurd ?_ h
    rw [hcycle, Memory.apply, hnone]

theorem memory_cycle_of_isolated (hs : s.Isolated) : s.cycle.2.memory = s.memory := by
  refine Memory.ext_get fun r o ho => ?_
  by_contra h
  obtain ⟨-, -, -, -, -, hs', -⟩ := exists_of_cycle_ne h
  exact hs' hs

/-! ### What does not depend on the control registers -/

/-- An instruction that neither stores nor moves a control register does the same whatever these
    hold, and so does a failed fetch. -/
theorem cycle_withControl (k : ControlRegisters)
    (h : ∀ w op, s.memory.loadWord s.cpu.pc = .ok w → Instruction.decode ⟨w⟩ = .ok op →
      op.usesControl = false) :
    (s.withControl k).cycle = (s.cycle.1, s.cycle.2.withControl k) := by
  have heffect : ∀ w, s.memory.loadWord s.cpu.pc = .ok w →
      (s.withControl k).effect w = s.effect w := by
    intro w hw
    rw [effect, effect, Instruction.effect, Instruction.effect]
    cases hop : Instruction.decode ⟨w⟩ with
    | error f => rfl
    | ok op =>
      exact Operation.effect_control (x := (s.cpu.advance ⟨w⟩).operands) (h w op hw hop) fun r =>
        k.get r
  obtain ⟨f, hw, hcycle⟩ | ⟨w, f, hw, he, hcycle⟩ | ⟨w, e, hw, he, hcycle⟩ := s.cycle_cases
  · rw [hcycle, cycle_of_error (s := s.withControl k) hw]
    rfl
  · rw [hcycle, cycle_of_fault (s := s.withControl k) hw ((heffect w hw).trans he)]
    rfl
  · obtain ⟨op, hop, he'⟩ := Instruction.exists_of_effect he
    have hcontrol := Operation.control_of_effect (h w op hw hop) he'
    rw [hcycle, cycle_of_effect (s := s.withControl k) hw ((heffect w hw).trans he)]
    simp only [withControl, Cpu.apply, hcontrol]
    rfl

/-! ### Runs -/

/-- Whether a call leaves memory alone, unless it executes an instruction. -/
def Call.sparesMemory : Call → Bool
  | .access (.storeByte _ _) | .access (.storeHalf _ _) | .access (.storeWord _ _)
  | .access .reset => false
  | _ => true

theorem memory_call_of_sparesMemory {x : Call} (hx : x.sparesMemory)
    (hs : x = .cycle → s.Isolated) : (s.call x).2.memory = s.memory := by
  cases x with
  | cycle => exact memory_cycle_of_isolated (hs rfl)
  | access x => cases x <;> first | rfl | cases hx
  | _ => rfl

/-- Memory is constant over a run whose cycles all find the cache isolated. -/
theorem memory_after_of_isolated {xs : List Call} (hxs : ∀ x ∈ xs, x.sparesMemory)
    (h : ∀ ys zs, xs = ys ++ .cycle :: zs → (Run.after call s ys).Isolated) :
    (Run.after call s xs).memory = s.memory := by
  induction xs generalizing s with
  | nil => rfl
  | cons x xs ih =>
    obtain ⟨hx, hxs⟩ := List.forall_mem_cons.1 hxs
    have hfirst : (s.call x).2.memory = s.memory :=
      memory_call_of_sparesMemory hx fun hcycle => h [] xs (by rw [hcycle]; rfl)
    have hrest : (Run.after call (s.call x).2 xs).memory = (s.call x).2.memory :=
      ih hxs fun ys zs hsplit => h (x :: ys) zs (by rw [hsplit]; rfl)
    exact hrest.trans hfirst

/-! ### Writes to the status register -/

/-- A word that is moved to the status register is there after the cycle. -/
theorem cycle_of_mtc0 (hw : s.memory.loadWord s.cpu.pc = .ok w)
    (hop : Instruction.decode ⟨w⟩ = .ok .mtc0)
    (hrd : Instruction.rd ⟨w⟩ = ControlRegisters.status) :
    s.cycle.1 = .ok () ∧ s.cycle.2.memory = s.memory ∧
      s.cycle.2.cpu.status = s.cpu.register (Instruction.rt ⟨w⟩) := by
  have hvalue := congrFun (s.cpu.register_advance ⟨w⟩) (Instruction.rt ⟨w⟩)
  have heffect : s.effect w = .ok { control := some (ControlRegisters.status,
      s.cpu.register (Instruction.rt ⟨w⟩)) } := by
    rw [effect_of_decode hop, Operation.effect, hrd, ← hvalue]
    rfl
  rw [cycle_of_effect hw heffect]
  exact ⟨rfl, rfl, ControlRegisters.get_set_self ..⟩

/-- What may change memory. A byte differs after a cycle, be it one that succeeds or not, only if
    the cycle executed a store, succeeded and found the cache not isolated, and the byte is one of
    the extent of that store. While the cache is isolated every store succeeds and leaves memory as
    it is, wherever it goes; a fetch, a load or any other instruction that uses no control register
    does the same whether it is or not. So memory is constant over every run whose cycles find the
    cache isolated; and a word that is moved to the status register decides over the next
    instruction. -/
theorem memory_frame (s : Machine) :
    (∀ r o ho, s.cycle.2.memory.get r o ho ≠ s.memory.get r o ho →
      ∃ w op, s.memory.loadWord s.cpu.pc = .ok w ∧ Instruction.decode ⟨w⟩ = .ok op ∧ op.isStore ∧
        ¬ s.Isolated ∧ s.cycle.1 = .ok () ∧
        ∃ k < (op.extent (s.cpu.operands.address ⟨w⟩)).2,
          Region.resolve ((op.extent (s.cpu.operands.address ⟨w⟩)).1 + UInt32.ofNat k) =
            some (r, o)) ∧
    (∀ w op, s.Isolated → s.memory.loadWord s.cpu.pc = .ok w → Instruction.decode ⟨w⟩ = .ok op →
      op.isStore → s.cycle.1 = .ok () ∧ s.cycle.2.memory = s.memory) ∧
    (∀ k, (∀ w op, s.memory.loadWord s.cpu.pc = .ok w → Instruction.decode ⟨w⟩ = .ok op →
      op.usesControl = false) → (s.withControl k).cycle = (s.cycle.1, s.cycle.2.withControl k)) ∧
    (∀ xs : List Call, (∀ x ∈ xs, x.sparesMemory) →
      (∀ ys zs, xs = ys ++ .cycle :: zs → (Run.after call s ys).Isolated) →
      (Run.after call s xs).memory = s.memory) ∧
    ∀ w, s.memory.loadWord s.cpu.pc = .ok w → Instruction.decode ⟨w⟩ = .ok .mtc0 →
      Instruction.rd ⟨w⟩ = ControlRegisters.status →
      s.cycle.1 = .ok () ∧ s.cycle.2.memory = s.memory ∧
      s.cycle.2.cpu.status = s.cpu.register (Instruction.rt ⟨w⟩) ∧
      ∀ v op t, s.memory.loadWord s.cycle.2.cpu.pc = .ok v → Instruction.decode ⟨v⟩ = .ok op →
        op.store? s.memory (s.cycle.2.cpu.operands.address ⟨v⟩)
          (s.cycle.2.cpu.register (Instruction.rt ⟨v⟩)) = some t →
        (s.cycle.2.cycle.1, s.cycle.2.cycle.2.memory) =
          if StatusFlag.isolateCache.isSet (s.cpu.register (Instruction.rt ⟨w⟩)) then
            (.ok (), s.memory)
          else s.memory.perform t := by
  refine ⟨fun r o ho => exists_of_cycle_ne, fun w op hs hw hop hstore => ?_,
    fun k => cycle_withControl k, fun xs => memory_after_of_isolated, fun w hw hop hrd => ?_⟩
  · rw [cycle_of_isolated hs hw hop hstore]
    exact ⟨rfl, rfl⟩
  · obtain ⟨hok, hmemory, hstatus⟩ := cycle_of_mtc0 hw hop hrd
    refine ⟨hok, hmemory, hstatus, fun v op t hv hop' ht => ?_⟩
    rw [← hmemory] at hv ht ⊢
    split
    next hset =>
      have hs : s.cycle.2.Isolated := by rwa [Isolated, hstatus]
      rw [cycle_of_isolated hs hv hop' (Operation.isStore_of_store? ht)]
    next hclear =>
      have hs : ¬ s.cycle.2.Isolated := by rwa [Isolated, hstatus]
      exact cycle_of_not_isolated hs hv hop' ht

/-- Three bytes of RAM are stored from inside a word; then the cache is isolated, and the very next
    instruction stores to an address of no region. A load does not notice. -/
theorem memory_frame_isolated : ∃ (s t u : Machine) (k : ControlRegisters),
    s.cycle.2.memory.get .ram 3 (by decide) ≠ s.memory.get .ram 3 (by decide) ∧
    (∃ j < 3, Region.resolve (0x80000001 + UInt32.ofNat j) = some (.ram, 3)) ∧
    t.cycle.2.cpu.status = 0x00010000 ∧ t.cycle.2.Isolated ∧
    t.cycle.2.cpu.operands.address ⟨0xAC820000⟩ = 0x50000000 ∧
    t.memory.storeWord 0x50000000 7 = (.error (.unmappedAddress 0x50000000), t.memory) ∧
    (t.cycle.2.cycle.1, t.cycle.2.cycle.2.memory) = (.ok (), t.memory) ∧
    (t.cycle.2.cycle.1 = .ok () ∧ t.cycle.2.cycle.2.memory = t.cycle.2.memory) ∧
    (Run.after call t.cycle.2 [.setRegister 2 7, .cycle]).memory = t.memory ∧
    (u.withControl k).Isolated ∧ (u.withControl k).cycle.1 = .ok () ∧
    (u.withControl k).cycle.2.cpu.pending = some ⟨5, 0⟩ := by
  obtain ⟨m, hm⟩ : ∃ m, Memory.ofImage
      ⟨#[0, 0, 0x62, 0xB8, 0, 0x60, 0x81, 0x40, 0, 0, 0x82, 0xAC, 0, 0, 0x65, 0x8C]⟩ = .ok m :=
    ⟨_, dif_pos (by decide)⟩
  have hright : m.loadWord 0xBFC00000 = .ok 0xB8620000 :=
    Memory.loadWord_of_ofImage hm (by decide) (by rfl)
  have hmove : m.loadWord 0xBFC00004 = .ok 0x40816000 :=
    Memory.loadWord_of_ofImage hm (by decide) (by rfl)
  have hdropped : m.loadWord 0xBFC00008 = .ok 0xAC820000 :=
    Memory.loadWord_of_ofImage hm (by decide) (by rfl)
  have hload : m.loadWord 0xBFC0000C = .ok 0x8C650000 :=
    Memory.loadWord_of_ofImage hm (by decide) (by rfl)
  have hram : m.loadWord (Word.aligned 0x80000001) = .ok 0 :=
    Memory.loadWord_of_ofImage hm (by decide) (by rfl)
  have hram' : m.loadWord 0x80000001 = .ok 0 :=
    Memory.loadWord_of_ofImage hm (by decide) (by rfl)
  have hbyte : m.get .ram 3 (by decide) = 0 := Memory.shows_ofImage hm .ram 3 _ (by decide)
  obtain ⟨c, hc⟩ : ∃ c : Cpu, c = (((Cpu.powerOn.setRegister 1 0x00010000).setRegister 2
    0x12345678).setRegister 3 0x80000001).setRegister 4 0x50000000 := ⟨_, rfl⟩
  obtain ⟨s, hs⟩ : ∃ s : Machine, s = ⟨{ c with pc := 0xBFC00000 }, m⟩ := ⟨_, rfl⟩
  obtain ⟨t, ht⟩ : ∃ t : Machine, t = ⟨{ c with pc := 0xBFC00004, nextPc := 0xBFC00008 }, m⟩ :=
    ⟨_, rfl⟩
  obtain ⟨u, hu⟩ : ∃ u : Machine, u = ⟨{ c with pc := 0xBFC0000C }, m⟩ := ⟨_, rfl⟩
  have hsw : s.memory.loadWord s.cpu.pc = .ok 0xB8620000 := by rw [hs]; exact hright
  have htw : t.memory.loadWord t.cpu.pc = .ok 0x40816000 := by rw [ht]; exact hmove
  have huw : u.memory.loadWord u.cpu.pc = .ok 0x8C650000 := by rw [hu]; exact hload
  -- the unaligned store
  have haddress : s.cpu.operands.address ⟨0xB8620000⟩ = 0x80000001 := by rw [hs, hc]; rfl
  have hwrite : s.cycle.2.memory = m.write ⟨Word.bytes 0x34567800, .ram, 0, by decide⟩ := by
    have hdecode : Instruction.decode ⟨0xB8620000⟩ = .ok .swr := rfl
    have hvalue : s.cpu.register (Instruction.rt ⟨0xB8620000⟩) = 0x12345678 := by
      rw [hs, hc]
      rfl
    have hstore : Operation.swr.store? s.memory (s.cpu.operands.address ⟨0xB8620000⟩)
        (s.cpu.register (Instruction.rt ⟨0xB8620000⟩)) =
        some (.ok ⟨Word.bytes 0x34567800, .ram, 0, by decide⟩) := by
      rw [haddress, hvalue, hs, Operation.store?, Store.right, hram]
      rfl
    have hclear : ¬ s.Isolated := by
      have hpower : StatusFlag.isolateCache.isSet Cpu.powerOn.status = false := by decide
      rw [hs, hc]
      exact Bool.eq_false_iff.1 hpower
    have hperform := cycle_of_not_isolated hclear hsw hdecode hstore
    have hmemory : s.memory = m := by rw [hs]
    rw [hmemory] at hperform
    exact congrArg Prod.snd hperform
  have hne : s.cycle.2.memory.get .ram 3 (by decide) ≠ s.memory.get .ram 3 (by decide) := by
    rw [hwrite, hs, hbyte, Memory.get_write, if_pos ⟨rfl, Nat.zero_le 3⟩]
    exact (by decide : (0x34 : UInt8) ≠ 0)
  obtain ⟨w, op, hw, hop, -, -, -, hextent⟩ := (memory_frame s).1 .ram 3 (by decide) hne
  obtain rfl := Except.ok.inj (hw.symm.trans hsw)
  obtain rfl : op = .swr := Except.ok.inj hop.symm
  rw [haddress] at hextent
  -- the isolation, and the store behind it
  obtain ⟨-, hmemory, hmoved, hnext⟩ := (memory_frame t).2.2.2.2 _ htw rfl rfl
  have hrt : t.cpu.register (Instruction.rt ⟨0x40816000⟩) = 0x00010000 := by rw [ht, hc]; rfl
  rw [hrt] at hmoved hnext
  have hisolated : t.cycle.2.Isolated := by rw [Isolated, hmoved]; decide
  have hcycle := cycle_of_effect htw (e := { control := some (12, 0x00010000) }) (by
    rw [ht, hc]
    rfl)
  have hv : t.cycle.2.memory.loadWord t.cycle.2.cpu.pc = .ok 0xAC820000 := by
    rw [hcycle, ht]
    exact hdropped
  have haddress' : t.cycle.2.cpu.operands.address ⟨0xAC820000⟩ = 0x50000000 := by
    rw [hcycle, ht, hc]
    rfl
  have hdrop := hnext 0xAC820000 .sw _ (by rw [← hmemory]; exact hv) rfl rfl
  obtain ⟨hdone, hkept⟩ := (memory_frame t.cycle.2).2.1 _ _ hisolated hv rfl rfl
  have hconstant := (memory_frame t.cycle.2).2.2.2.1 [.setRegister 2 7, .cycle] (by decide) (by
    intro ys zs hsplit
    cases ys with
    | nil => simp at hsplit
    | cons y ys =>
      cases ys with
      | nil =>
        obtain rfl := (List.cons.inj hsplit).1
        exact hisolated
      | cons => simp at hsplit)
  -- the load
  have hsame := (memory_frame u).2.2.1 (c.control.set ControlRegisters.status 0x00010000) (by
    intro w op hw hop
    obtain rfl := Except.ok.inj (hw.symm.trans huw)
    obtain rfl : op = .lw := Except.ok.inj hop.symm
    rfl)
  have hloaded := cycle_of_effect huw (e := .loading 5 0) (by
    have haddress : u.cpu.operands.address ⟨0x8C650000⟩ = 0x80000001 := by rw [hu, hc]; rfl
    have hmemory : u.memory.loadWord 0x80000001 = .ok 0 := by rw [hu]; exact hram'
    have hop : Instruction.decode ⟨0x8C650000⟩ = .ok .lw := rfl
    rw [effect_of_decode hop, Operation.effect, address_advance, haddress, hmemory]
    rfl)
  refine ⟨s, t, u, c.control.set ControlRegisters.status 0x00010000, hne, hextent, hmoved,
    hisolated, haddress', rfl, hdrop.trans (if_pos (by decide)), ⟨hdone, hkept⟩,
    hconstant.trans hmemory, ?_, ?_, ?_⟩
  · exact (congrArg _ (ControlRegisters.get_set_self ..)).trans (by decide)
  · rw [hsame, hloaded]
  · rw [hsame, hloaded]
    rfl

end Machine

end R3000
