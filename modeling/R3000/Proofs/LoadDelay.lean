import R3000.Proofs.RegisterArray

/-!
Runs that cannot see the load delay. An instruction meets a hazard if it reads a register whose load
is still pending. A machine without load delay, whose loads reach their registers at once, is the
delayed machine with its pending load written in, and stays so in every cycle without a hazard. Main
statements: one such cycle, and `cycles_eq_prompt` on runs of any length.
-/

namespace R3000

/-! ### The machine without load delay -/

/-- A machine without load delay. Its registers are one array. -/
structure PromptMachine where
  array : RegisterArray
  pc : Word
  nextPc : Word
  hi : Word
  lo : Word
  control : ControlRegisters
  memory : Memory

namespace PromptMachine

/-- What an instruction reads. An unaligned load merges with the register as it is. -/
def operands (t : PromptMachine) : Operands where
  register := t.array
  mergeBase := t.array
  hi := t.hi
  lo := t.lo
  control := fun r => t.control.get r
  nextPc := t.nextPc + 4

/-- One cycle, and the fault that it met. What is loaded is written at once. -/
def cycle (t : PromptMachine) : Except Fault Unit × PromptMachine :=
  match t.memory.loadWord t.pc with
  | .error f => (.error f, t)
  | .ok w =>
    match Instruction.effect ⟨w⟩ t.operands t.memory with
    | .error f => (.error f, { t with pc := t.nextPc, nextPc := t.nextPc + 4 })
    | .ok e =>
      (.ok (), {
        array := (t.array.put e.write).put (e.load.map PendingLoad.write)
        pc := t.nextPc
        nextPc := e.nextPc.getD (t.nextPc + 4)
        hi := e.hi.getD t.hi
        lo := e.lo.getD t.lo
        control := match e.control with
          | some (r, v) => t.control.set r v
          | none => t.control
        memory := t.memory.apply e })

/-- The machine after a number of cycles. -/
def cycles (t : PromptMachine) (n : Nat) : PromptMachine := (fun t => t.cycle.2)^[n] t

/-- The machine that has the registers of a delayed one with its pending load written in. -/
def ofMachine (s : Machine) : PromptMachine where
  array := s.cpu.landed
  pc := s.cpu.pc
  nextPc := s.cpu.nextPc
  hi := s.cpu.hi
  lo := s.cpu.lo
  control := s.cpu.control
  memory := s.memory

variable {t : PromptMachine} {w : Word}

theorem cycles_succ (t : PromptMachine) (n : Nat) : t.cycles (n + 1) = (t.cycles n).cycle.2 :=
  Function.iterate_succ_apply' ..

theorem cycle_of_error {f : Fault} (h : t.memory.loadWord t.pc = .error f) :
    t.cycle = (.error f, t) := by
  simp only [cycle, h]

theorem cycle_of_fault {f : Fault} (hw : t.memory.loadWord t.pc = .ok w)
    (hf : Instruction.effect ⟨w⟩ t.operands t.memory = .error f) :
    t.cycle = (.error f, { t with pc := t.nextPc, nextPc := t.nextPc + 4 }) := by
  simp only [cycle, hw, hf]

theorem cycle_of_effect {e : Effect} (hw : t.memory.loadWord t.pc = .ok w)
    (he : Instruction.effect ⟨w⟩ t.operands t.memory = .ok e) : t.cycle =
      (.ok (), {
        array := (t.array.put e.write).put (e.load.map PendingLoad.write)
        pc := t.nextPc
        nextPc := e.nextPc.getD (t.nextPc + 4)
        hi := e.hi.getD t.hi
        lo := e.lo.getD t.lo
        control := match e.control with
          | some (r, v) => t.control.set r v
          | none => t.control
        memory := t.memory.apply e }) := by
  simp only [cycle, hw, he]

/-- With no load pending the two machines have the same registers. -/
theorem array_ofMachine {s : Machine} (h : s.cpu.pending = none) :
    (ofMachine s).array = s.cpu.register := by
  simp only [ofMachine, Cpu.landed, h]
  rfl

end PromptMachine

/-! ### Hazards -/

namespace Machine

variable {s : Machine} {w : Word}

/-- Whether the next instruction reads a register for which a load is pending. Register 0 drops its
    loads and counts for none. -/
def Hazard (s : Machine) : Prop :=
  ∃ w l, s.memory.loadWord s.cpu.pc = .ok w ∧ s.cpu.pending = some l ∧ l.target ≠ 0 ∧
    l.target ∈ Instruction.sources ⟨w⟩ s.cpu.operands s.memory

/-- The sources of an instruction are the same once its cycle has begun. -/
theorem sources_advance (c : Cpu) (i : Instruction) (op : Operation) (m : Memory) :
    op.sources i (c.advance i).operands m = op.sources i c.operands m := by
  have hregister : (c.advance i).operands.register = c.operands.register := c.register_advance i
  cases op with
  | swl | swr => simp only [Operation.sources, Operands.address, hregister]; rfl
  | _ => rfl

/-- Without a hazard the sources of an instruction have the values that the pending load leaves. -/
theorem landed_of_mem_sources (hs : ¬ s.Hazard) (hw : s.memory.loadWord s.cpu.pc = .ok w)
    {op : Operation} (hop : Instruction.decode ⟨w⟩ = .ok op) :
    ∀ r ∈ op.sources ⟨w⟩ s.cpu.operands s.memory, s.cpu.landed r = s.cpu.register r := by
  intro r hr
  apply Cpu.landed_of_ne
  rintro l hl htarget rfl
  apply hs
  refine ⟨w, l, hw, hl, htarget, ?_⟩
  rw [Instruction.sources, hop]
  exact hr

/-- Without a hazard an instruction does the same in both machines, except for what it loads to
    register 0. -/
theorem effect_ofMachine (hs : ¬ s.Hazard) (hw : s.memory.loadWord s.cpu.pc = .ok w) :
    (Instruction.effect ⟨w⟩ (PromptMachine.ofMachine s).operands s.memory).map Effect.settled =
      (s.effect w).map Effect.settled := by
  rw [Machine.effect, Instruction.effect, Instruction.effect]
  cases hop : Instruction.decode ⟨w⟩ with
  | error f => rfl
  | ok op =>
    have hsources := landed_of_mem_sources hs hw hop
    rw [← sources_advance] at hsources
    have hmerge : ∀ r, r ≠ 0 → s.cpu.landed r = (s.cpu.advance ⟨w⟩).operands.mergeBase r :=
      fun r hr => (s.cpu.mergeBase_advance ⟨w⟩ hr).symm
    have hlanded : op.effect ⟨w⟩ { (s.cpu.advance ⟨w⟩).operands with register := s.cpu.landed }
        s.memory = op.effect ⟨w⟩ (s.cpu.advance ⟨w⟩).operands s.memory := by
      apply op.effect_register
      intro r hr
      rw [hsources r hr]
      exact (congrFun (s.cpu.register_advance ⟨w⟩) r).symm
    dsimp only
    rw [← hlanded]
    exact op.effect_mergeBase _ { (s.cpu.advance ⟨w⟩).operands with register := s.cpu.landed } _
      hmerge

/-- A cycle without a hazard is a cycle of the machine without load delay, with the same result. -/
theorem cycle_ofMachine (hc : s.cpu.Coherent) (hs : ¬ s.Hazard) :
    (PromptMachine.ofMachine s).cycle = (s.cycle.1, .ofMachine s.cycle.2) := by
  obtain ⟨f, hw, hcycle⟩ | ⟨w, f, hw, he, hcycle⟩ | ⟨w, e, hw, he, hcycle⟩ := s.cycle_cases
  · -- the fetch fails
    rw [hcycle, PromptMachine.cycle_of_error hw]
    rfl
  · -- the instruction faults
    have ht := Effect.error_of_settled (effect_ofMachine hs hw) he
    have hlanded : (s.cpu.advance ⟨w⟩).commit.landed = s.cpu.landed :=
      Cpu.register_commit_advance hc ⟨w⟩
    rw [hcycle, PromptMachine.cycle_of_fault hw ht]
    simp only [PromptMachine.ofMachine, hlanded]
    rfl
  · -- the instruction has its effect
    obtain ⟨l, hl, ht⟩ := Effect.ok_of_settled (effect_ofMachine hs hw) he
    have hpending : ((s.cpu.advance ⟨w⟩).apply e).commit.pending = e.load := Option.or_none
    have hlanded : ((s.cpu.advance ⟨w⟩).apply e).commit.landed =
        (s.cpu.landed.put e.write).put (l.map PendingLoad.write) := by
      rw [Cpu.landed, Cpu.register_commit_apply hc, hpending, ← RegisterArray.put_settled _ l, hl,
        RegisterArray.put_settled]
    rw [hcycle, PromptMachine.cycle_of_effect hw ht]
    simp only [PromptMachine.ofMachine, hlanded]
    rfl

/-- Runs without hazards cannot see the load delay. As long as no instruction reads a register whose
    load is pending, the machine without load delay has the same result in every cycle and keeps the
    same memory, program counters, high and low words and control registers; its registers are the
    delayed ones with the pending load, if there is one, written in. It starts with the registers of
    the delayed machine, if that has no load pending. -/
theorem cycles_eq_prompt (s : Machine) (hs : s.cpu.Reachable) (n : Nat)
    (hn : ∀ k < n, ¬ (s.cycles k).Hazard) :
    (s.cpu.pending = none → (PromptMachine.ofMachine s).array = s.cpu.register) ∧
    (∀ k < n, ((PromptMachine.ofMachine s).cycles k).cycle.1 = (s.cycles k).cycle.1) ∧
    ∀ k ≤ n, (PromptMachine.ofMachine s).cycles k = .ofMachine (s.cycles k) := by
  have hstate : ∀ k ≤ n, (PromptMachine.ofMachine s).cycles k = .ofMachine (s.cycles k) := by
    intro k
    induction k with
    | zero => exact fun _ => rfl
    | succ k ih =>
      intro hk
      have hc := Cpu.coherent_cycles hs.coherent k
      rw [PromptMachine.cycles_succ, ih (by omega), cycle_ofMachine hc (hn k hk), cycles_succ]
  refine ⟨PromptMachine.array_ofMachine, fun k hk => ?_, hstate⟩
  have hc := Cpu.coherent_cycles hs.coherent k
  rw [hstate k (by omega), cycle_ofMachine hc (hn k hk)]

/-- The status register is loaded into register 2, and the next instruction merges a byte of RAM
    with it. That is no hazard: register 2 still holds zero, and the status arrives in time. -/
theorem cycles_eq_prompt_merge : ∃ m, (powerOn m).cpu.Reachable ∧
    (∀ k < 2, ¬ ((powerOn m).cycles k).Hazard) ∧
    ((powerOn m).cycles 1).cpu.register 2 = 0 ∧
    ((powerOn m).cycles 2).cpu.pending = some ⟨2, 0x00900000⟩ ∧
    (PromptMachine.ofMachine (powerOn m)).array = (powerOn m).cpu.register ∧
    ((PromptMachine.ofMachine (powerOn m)).cycles 2).array 2 = 0x00900000 := by
  obtain ⟨m, hm⟩ : ∃ m, Memory.ofImage ⟨#[0, 0x60, 2, 0x40, 0, 0, 2, 0x88]⟩ = .ok m :=
    ⟨_, dif_pos (by decide)⟩
  have hstatus : m.loadWord 0xBFC00000 = .ok 0x40026000 :=
    Memory.loadWord_of_ofImage hm (by decide) (by rfl)
  have hleft : m.loadWord 0xBFC00004 = .ok 0x88020000 :=
    Memory.loadWord_of_ofImage hm (by decide) (by rfl)
  have hram : m.loadWord 0 = .ok 0 := Memory.loadWord_of_ofImage hm (by decide) (by rfl)
  have hone : (powerOn m).cycles 1 =
      ⟨((Cpu.powerOn.advance ⟨0x40026000⟩).apply (.loading 2 0x10900000)).commit, m⟩ :=
    congrArg Prod.snd (cycle_of_effect (s := powerOn m) (e := .loading 2 0x10900000) hstatus rfl)
  obtain ⟨t, ht⟩ : ∃ t, (powerOn m).cycles 1 = t := ⟨_, rfl⟩
  rw [ht] at hone
  have hpc : t.memory.loadWord t.cpu.pc = .ok 0x88020000 := by
    rw [hone]
    exact hleft
  have heffect : t.effect 0x88020000 = .ok (.loading 2 0x00900000) := by
    have hop : Instruction.decode ⟨0x88020000⟩ = .ok .lwl := rfl
    have haddress : (t.cpu.advance ⟨0x88020000⟩).operands.address ⟨0x88020000⟩ = 0 := by
      rw [hone]
      rfl
    have hmerge : (t.cpu.advance ⟨0x88020000⟩).operands.mergeBase 2 = 0x10900000 := by
      rw [hone]
      rfl
    have hmemory : t.memory.loadWord (Word.aligned 0) = .ok 0 := by
      rw [hone]
      exact hram
    have hrt : Instruction.rt ⟨0x88020000⟩ = 2 := rfl
    rw [effect_of_decode hop, Operation.effect, haddress, hmemory, hrt, hmerge]
    rfl
  have htwo : (powerOn m).cycles 2 =
      ⟨((t.cpu.advance ⟨0x88020000⟩).apply (.loading 2 0x00900000)).commit, t.memory⟩ := by
    rw [cycles_succ, ht, cycle_of_effect hpc heffect]
    rfl
  have hreach : (powerOn m).cpu.Reachable := ⟨m, [], rfl⟩
  have hfree : ∀ k < 2, ¬ ((powerOn m).cycles k).Hazard := by
    rintro k hk ⟨w, l, hw, hl, -, hmem⟩
    obtain rfl | rfl : k = 0 ∨ k = 1 := by omega
    · cases hl
    · rw [ht] at hw hl hmem
      obtain rfl : w = 0x88020000 := Except.ok.inj (hw.symm.trans hpc)
      have hr : l.target = 0 := List.mem_singleton.1 hmem
      rw [hone] at hl
      obtain rfl := Option.some.inj hl
      exact absurd hr (by decide)
  obtain ⟨harray, -, hstate⟩ := cycles_eq_prompt (powerOn m) hreach 2 hfree
  refine ⟨m, hreach, hfree, ?_, ?_, harray rfl, ?_⟩
  · rw [ht, hone]
    rfl
  · rw [htwo]
    rfl
  · rw [hstate 2 (by decide), htwo]
    rfl

end Machine

end R3000
