import R3000.Monitor.Basic
import R3000.Proofs.Cycle
import R3000.Proofs.Memory.Flat

/-!
Faults leave nothing half done, though a handler changes the machine in place and a fault takes no
change back. A failed fetch moves the current address only, and an instruction that faults leaves
the machine as an idle instruction would, its own word apart, since its handler has found the fault
in front of its first change. Main statement: `cycle_atomic`, for every processor and every memory.
-/

namespace R3000

namespace Machine

variable {c : Cpu} {m : Memory} {w : Word} {f : Fault}

/-- The idle instruction writes register 0, so its cycle begins and ends and does nothing else. -/
theorem cycle_idle (h : m.loadWord c.pc = .ok 0) :
    cycle ⟨c, m⟩ = (.ok (), ⟨(c.advance ⟨0⟩).commit, m⟩) := by
  have he : effect ⟨c, m⟩ 0 =
      .ok (.writing 0 (((c.advance ⟨0⟩).operands.register 0).shiftLeft 0)) := rfl
  rw [cycle_of_effect h he]
  rfl

/-- Two instructions that are no branches begin their cycles alike. -/
theorem advance_of_not_isBranch (hw : Instruction.isBranch ⟨w⟩ = false) :
    c.advance ⟨w⟩ = { c.advance ⟨0⟩ with instruction := ⟨w⟩ } := by
  have h0 : Instruction.isBranch ⟨0⟩ = false := rfl
  unfold Cpu.advance
  rw [hw, h0]

/-- What a fault after the fetch leaves. -/
theorem cycle_of_fetched (hw : m.loadWord c.pc = .ok w) (hf : (cycle ⟨c, m⟩).1 = .error f) :
    Instruction.isBranch ⟨w⟩ = false ∧
      cycle ⟨c, m⟩ = (.error f, ⟨(c.advance ⟨w⟩).commit, m⟩) := by
  cases he : effect ⟨c, m⟩ w with
  | ok e =>
    rw [cycle_of_effect hw he] at hf
    cases hf
  | error f' =>
    have hcycle := cycle_of_fault hw he
    rw [hcycle] at hf
    obtain rfl := Except.error.inj hf
    exact ⟨isBranch_of_fault he, hcycle⟩

/-- A cycle that faults changes nothing but what it must. If the fetch fails, that is the current
    address. If the fetch succeeds, it is what the cycle of an idle instruction changes, and the
    instruction: the counters move on and the pending load arrives. Neither changes the memory, and
    a monitor does not count either. The handler of an operation that faults, whatever the
    operation, has not changed anything. -/
theorem cycle_atomic (c : Cpu) (m : Memory) :
    (∀ f, m.loadWord c.pc = .error f →
      cycle ⟨c, m⟩ = (.error (.unmappedAddress c.pc), ⟨{ c with currentPc := c.pc }, m⟩)) ∧
    (∀ w f, m.loadWord c.pc = .ok w → (cycle ⟨c, m⟩).1 = .error f →
      (cycle ⟨c, m⟩).2.memory = m ∧
      (∃ n : Memory, n.loadWord c.pc = .ok 0) ∧
      (∀ n : Memory, n.loadWord c.pc = .ok 0 →
        (cycle ⟨c, n⟩).1 = .ok () ∧ (cycle ⟨c, n⟩).2.memory = n ∧
        (cycle ⟨c, m⟩).2.cpu = { (cycle ⟨c, n⟩).2.cpu with instruction := ⟨w⟩ }) ∧
      ∃ rs : RegisterFile, (c.Reachable → rs.read = c.landed) ∧
        (cycle ⟨c, m⟩).2.cpu = { c with
          registers := rs
          pc := c.nextPc
          nextPc := c.nextPc + 4
          currentPc := c.pc
          pending := none
          committed := c.pending
          inDelaySlot := false
          instruction := ⟨w⟩ }) ∧
    (∀ (s : Monitor) (f : Fault), s.machine = ⟨c, m⟩ → (cycle ⟨c, m⟩).1 = .error f →
      s.step.1 = .error f ∧ s.step.2.machine = (cycle ⟨c, m⟩).2 ∧ s.step.2.cycles = s.cycles) ∧
    ∀ (op : Operation) (i : Instruction) (f : Fault),
      ((op.handle i).run ⟨c, m⟩).1 = .error f → ((op.handle i).run ⟨c, m⟩).2 = ⟨c, m⟩ := by
  refine ⟨fun f hfetch => ?_, fun w f hw hf => ?_, fun s f hs hf => ?_,
    fun op i f hf => op.run_handle_of_fault i _ hf⟩
  · have hcycle : cycle ⟨c, m⟩ = (.error f, refuseFetch ⟨c, m⟩) := cycle_of_error hfetch
    rw [hcycle, Memory.eq_unmappedAddress_of_loadWord hfetch]
    rfl
  · obtain ⟨hbranch, hcycle⟩ := cycle_of_fetched hw hf
    rw [hcycle]
    refine ⟨rfl, ⟨.zeros, Memory.loadWord_zeros (Memory.mapped_of_loadWord hw)⟩, fun n hn => ?_,
      (c.advance ⟨w⟩).commit.registers,
      fun hc => Cpu.register_commit_advance hc.coherent _, ?_⟩
    · rw [cycle_idle hn]
      refine ⟨rfl, rfl, ?_⟩
      rw [advance_of_not_isBranch hbranch]
      rfl
    · rw [← hbranch]
      rfl
  · have hstep : s.machine.cycle = (.error f, (cycle ⟨c, m⟩).2) := by rw [hs, ← hf]
    rw [Monitor.step_of_error hstep]
    exact ⟨rfl, rfl, rfl⟩

/-- A processor outside of every region, an unknown opcode in front of which a load of the status
    register waits, and a store that finds no word to merge with. -/
theorem cycle_atomic_unknownOpcode :
    cycle ⟨{ Cpu.powerOn with pc := 0x50000000 }, .zeros⟩ = (.error (.unmappedAddress 0x50000000),
      ⟨{ Cpu.powerOn with pc := 0x50000000, currentPc := 0x50000000 }, .zeros⟩) ∧
    (Operation.swl.handle ⟨0xA8008000⟩).run ⟨.powerOn, .zeros⟩ =
      (.error (.unmappedAddress 0xFFFF8000), ⟨.powerOn, .zeros⟩) ∧
    ∃ (c : Cpu) (m : Memory), c.Reachable ∧ c.pending = some ⟨2, 0x10900000⟩ ∧
      m.loadWord c.pc = .ok 0xFC000000 ∧
      (cycle ⟨c, m⟩).1 = .error (.invalidOpcode 63 0xFC000000) ∧
      (cycle ⟨c, m⟩).2.memory = m ∧ (cycle ⟨c, m⟩).2.cpu.register 2 = 0x10900000 ∧
      (cycle ⟨c, m⟩).2.cpu.nextPc = 0xBFC0000C ∧ (cycle ⟨c, m⟩).2.cpu.pending = none ∧
      (Monitor.step ⟨⟨c, m⟩, 1, .empty, none⟩).2.cycles = 1 := by
  obtain ⟨m, hm⟩ : ∃ m, Memory.ofImage ⟨#[0, 0x60, 2, 0x40, 0, 0, 0, 0xFC]⟩ = .ok m :=
    ⟨_, dif_pos (by decide)⟩
  have hload : m.loadWord 0xBFC00000 = .ok 0x40026000 :=
    Memory.loadWord_of_ofImage hm (by decide) (by rfl)
  have hunknown : m.loadWord 0xBFC00004 = .ok 0xFC000000 :=
    Memory.loadWord_of_ofImage hm (by decide) (by rfl)
  have hcycle := cycle_of_effect (s := powerOn m) (e := .loading 2 0x10900000) hload rfl
  obtain ⟨c, hc, hpc, hnextPc, hpending⟩ : ∃ c : Cpu, c.Reachable ∧ c.pc = 0xBFC00004 ∧
      c.nextPc = 0xBFC00008 ∧ c.pending = some ⟨2, 0x10900000⟩ :=
    ⟨(powerOn m).cycle.2.cpu, ⟨m, [.cycle], rfl⟩, by rw [hcycle]; exact ⟨rfl, rfl, rfl⟩⟩
  rw [← hpc] at hunknown
  have hf := congrArg Prod.fst (cycle_of_fault (s := ⟨c, m⟩) hunknown rfl)
  obtain ⟨hmemory, -, -, rs, hrs, hcpu⟩ := (cycle_atomic c m).2.1 _ _ hunknown hf
  have hstore : ((Operation.swl.handle ⟨0xA8008000⟩).run ⟨.powerOn, .zeros⟩).1 =
      .error (.unmappedAddress 0xFFFF8000) := rfl
  refine ⟨(cycle_atomic _ _).1 _ (Memory.loadWord_of_not_mapped (by decide)),
    Prod.ext hstore ((cycle_atomic _ _).2.2.2 _ _ _ hstore), c, m, hc, hpending, hunknown, hf,
    hmemory, ?_, ?_, ?_, ((cycle_atomic c m).2.2.1 ⟨_, 1, _, _⟩ _ rfl hf).2.2⟩
  · rw [hcpu]
    refine (congrFun (hrs hc) 2).trans ?_
    rw [Cpu.landed, hpending]
    rfl
  · rw [hcpu, hnextPc]
    rfl
  · rw [hcpu]

end Machine

end R3000
