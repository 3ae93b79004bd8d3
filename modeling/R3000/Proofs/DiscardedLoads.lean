import R3000.Proofs.Cycle
import R3000.Proofs.Memory.Flat

/-!
Loads to register 0. Register 0 drops what arrives there, but an unaligned load to register 0 still
merges with the load that has just arrived, so a value that is dropped is read. It can only go into
another load to register 0: what a cycle leaves without such loads depends only on what it finds
without them. Main statements: `cycle_settled` for one cycle, and `cycles_of_settled` for two runs
of any length.
-/

namespace R3000

/-! ### Processors without loads to register 0 -/

namespace Cpu

/-- A processor without its loads to register 0, neither those on their way nor those that have just
    arrived. -/
def settled (c : Cpu) : Cpu :=
  { c with
    pending := PendingLoad.settled c.pending
    committed := PendingLoad.settled c.committed }

/-- A load to register 0 is dropped when it arrives. -/
theorem advance_settled (c : Cpu) (i : Instruction) :
    c.settled.advance i = { c.advance i with committed := PendingLoad.settled c.pending } := by
  have hpending : c.settled.pending = PendingLoad.settled c.pending := rfl
  unfold advance
  rw [hpending]
  cases c.pending with
  | none => rfl
  | some l =>
    by_cases hl : l.target = 0
    · rw [PendingLoad.settled_of_zero hl]
      simp only [RegisterFile.write, hl, if_true]
      rfl
    · rw [PendingLoad.settled_of_ne hl]
      rfl

/-- A fault leaves the same apart from loads to register 0. -/
theorem commit_advance_settled (c : Cpu) (i : Instruction) :
    (c.settled.advance i).commit.settled = (c.advance i).commit.settled := by
  rw [advance_settled]
  simp only [settled, commit, PendingLoad.settled_settled]
  rfl

/-- Effects that differ in loads to register 0 leave the same apart from such loads. -/
theorem commit_apply_settled (c : Cpu) (i : Instruction) {e : Effect} {l : Option PendingLoad}
    (hl : PendingLoad.settled l = PendingLoad.settled e.load) :
    ((c.settled.advance i).apply { e with load := l }).commit.settled =
      ((c.advance i).apply e).commit.settled := by
  have hpending : (c.advance i).pending = none := rfl
  have hcommitted : (c.advance i).committed = c.pending := rfl
  rw [advance_settled]
  simp only [settled, commit, apply, hpending, hcommitted, Option.or_none,
    PendingLoad.settled_settled, hl]

/-- Only an unaligned load to register 0 finds a load that is dropped. -/
theorem mergeBase_settled (c : Cpu) {r : Fin 32} (hr : r ≠ 0) :
    mergeBase { c with committed := PendingLoad.settled c.committed } r = c.mergeBase r := by
  unfold mergeBase
  cases c.committed with
  | none => rfl
  | some l =>
    by_cases hl : l.target = 0
    · rw [PendingLoad.settled_of_zero hl]
      exact (if_neg fun h => hr (h.symm.trans hl)).symm
    · rw [PendingLoad.settled_of_ne hl]
      rfl

end Cpu

/-! ### Cycles -/

namespace Machine

/-- A machine without its loads to register 0. -/
def settled (s : Machine) : Machine := { s with cpu := s.cpu.settled }

/-- An instruction does the same without the loads to register 0, except for what it loads to
    register 0 itself. -/
theorem effect_settled (s : Machine) (w : Word) :
    (s.settled.effect w).map Effect.settled = (s.effect w).map Effect.settled := by
  have hoperands : (s.settled.cpu.advance ⟨w⟩).operands = { (s.cpu.advance ⟨w⟩).operands with
      mergeBase := (s.settled.cpu.advance ⟨w⟩).mergeBase } := by
    rw [settled, Cpu.advance_settled]
    rfl
  rw [effect, hoperands]
  refine Instruction.effect_mergeBase _ _ _ fun r hr => ?_
  rw [settled, Cpu.advance_settled]
  exact (s.cpu.advance ⟨w⟩).mergeBase_settled hr

/-- A cycle meets the same fault without the loads to register 0, and leaves the same apart from
    such loads. -/
theorem cycle_settled (s : Machine) :
    s.settled.cycle.1 = s.cycle.1 ∧ s.settled.cycle.2.settled = s.cycle.2.settled := by
  obtain ⟨f, hw, hs⟩ | ⟨w, f, hw, hf, hs⟩ | ⟨w, e, hw, he, hs⟩ := s.cycle_cases
  · -- the fetch fails and leaves the loads where they are
    have ht : s.settled.cycle = (.error f, s.settled.refuseFetch) := cycle_of_error hw
    rw [hs, ht]
    refine ⟨rfl, ?_⟩
    simp only [settled, Cpu.settled, refuseFetch, PendingLoad.settled_settled]
  · -- the instruction faults, and the pending load arrives
    have hf' : s.settled.effect w = .error f := Effect.error_of_settled (s.effect_settled w) hf
    rw [hs, cycle_of_fault (s := s.settled) hw hf']
    exact ⟨rfl, congrArg (Machine.mk · s.memory) (s.cpu.commit_advance_settled ⟨w⟩)⟩
  · -- what the instruction loads to register 0 may differ, and goes nowhere else
    obtain ⟨l, hl, he'⟩ := Effect.ok_of_settled (s.effect_settled w) he
    rw [hs, cycle_of_effect (s := s.settled) hw he']
    exact ⟨rfl, congrArg (Machine.mk · (s.memory.apply e)) (s.cpu.commit_apply_settled ⟨w⟩ hl)⟩

variable {s t : Machine}

/-- Machines that are equal without their loads to register 0 stay so in a cycle. -/
theorem cycle_of_settled (h : s.settled = t.settled) :
    s.cycle.1 = t.cycle.1 ∧ s.cycle.2.settled = t.cycle.2.settled := by
  obtain ⟨hs, hs'⟩ := s.cycle_settled
  obtain ⟨ht, ht'⟩ := t.cycle_settled
  exact ⟨by rw [← hs, h, ht], by rw [← hs', h, ht']⟩

theorem settled_cycles (h : s.settled = t.settled) (n : Nat) :
    (s.cycles n).settled = (t.cycles n).settled := by
  induction n with
  | zero => exact h
  | succ n ih =>
    rw [cycles_succ, cycles_succ]
    exact (cycle_of_settled ih).2

/-- Two processors that differ only in loads to register 0, on the same memory: after any number of
    cycles the next cycle meets the same fault or none in both, the memories are equal, and the
    processors differ only in loads to register 0. -/
theorem cycles_of_settled {c d : Cpu} (h : c.settled = d.settled) (m : Memory) (n : Nat) :
    let s := Machine.cycles ⟨c, m⟩ n
    let t := Machine.cycles ⟨d, m⟩ n
    s.cycle.1 = t.cycle.1 ∧ s.memory = t.memory ∧ s.cpu.settled = t.cpu.settled ∧
      (s.cpu.pc = t.cpu.pc ∧ s.cpu.nextPc = t.cpu.nextPc ∧ s.cpu.registers = t.cpu.registers ∧
        s.cpu.hi = t.cpu.hi ∧ s.cpu.lo = t.cpu.lo ∧ s.cpu.control = t.cpu.control) ∧
      ∀ l : PendingLoad, l.target ≠ 0 → (s.cpu.pending = some l ↔ t.cpu.pending = some l) := by
  intro s t
  have hcd : settled ⟨c, m⟩ = settled ⟨d, m⟩ := congrArg (Machine.mk · m) h
  have hst : s.settled = t.settled := settled_cycles hcd n
  have hcpu : s.settled.cpu = t.settled.cpu := congrArg cpu hst
  have hmemory : s.settled.memory = t.settled.memory := congrArg memory hst
  obtain ⟨hregisters, hpc, hnext, -, hhi, hlo, hcontrol, hpending, -⟩ := Cpu.ext_iff.1 hcpu
  refine ⟨(cycle_of_settled hst).1, hmemory, hcpu, ⟨hpc, hnext, hregisters, hhi, hlo, hcontrol⟩,
    fun l hl => ?_⟩
  have hpending : PendingLoad.settled s.cpu.pending = PendingLoad.settled t.cpu.pending := hpending
  rw [← PendingLoad.settled_eq_some_iff hl, hpending, PendingLoad.settled_eq_some_iff hl]

/-- One processor loads a word to register 0, and another meets a fault instead. An unaligned load
    to register 0 then merges with that word in the one and with zero in the other, and nothing else
    tells the two apart. -/
theorem cycles_of_settled_unaligned : ∃ (m : Memory) (c d : Cpu), c.Reachable ∧ d.Reachable ∧
    c.pending = some ⟨0, 0x8C200000⟩ ∧ d.pending = none ∧ c.settled = d.settled ∧
    (Machine.cycles ⟨c, m⟩ 1).cpu.pending = some ⟨0, 0x00200000⟩ ∧
    (Machine.cycles ⟨d, m⟩ 1).cpu.pending = some ⟨0, 0⟩ ∧
    (Machine.cycles ⟨c, m⟩ 1).cpu.settled = (Machine.cycles ⟨d, m⟩ 1).cpu.settled := by
  obtain ⟨m, hm⟩ : ∃ m, Memory.ofImage ⟨#[0, 0, 0x20, 0x8C, 0, 0, 0x20, 0x88]⟩ = .ok m :=
    ⟨_, dif_pos (by decide)⟩
  have hload : m.loadWord 0xBFC00000 = .ok 0x8C200000 :=
    Memory.loadWord_of_ofImage hm (by decide) (by rfl)
  have hleft : m.loadWord 0xBFC00004 = .ok 0x88200000 :=
    Memory.loadWord_of_ofImage hm (by decide) (by rfl)
  have hunmapped : m.loadWord 0x50000000 = .error (.unmappedAddress 0x50000000) := rfl
  -- one processor loads the word, and the other faults and is given the first one's register
  obtain ⟨a, ha⟩ : ∃ a : Cpu, a = Cpu.powerOn.setRegister 1 0xBFC00000 := ⟨_, rfl⟩
  obtain ⟨b, hb⟩ : ∃ b : Cpu, b = Cpu.powerOn.setRegister 1 0x50000000 := ⟨_, rfl⟩
  have hlw : ∀ p : Cpu,
      effect ⟨p, m⟩ 0x8C200000 = (m.loadWord (p.register 1)).map (.loading 0) := by
    intro p
    have hop : Instruction.decode ⟨0x8C200000⟩ = .ok .lw := rfl
    have haddress : (p.advance ⟨0x8C200000⟩).operands.address ⟨0x8C200000⟩ = p.register 1 := by
      show (p.advance ⟨0x8C200000⟩).register 1 + 0 = p.register 1
      rw [Cpu.register_advance, UInt32.add_zero]
    rw [effect_of_decode hop, Operation.effect, haddress]
    rfl
  have haone : a.register 1 = 0xBFC00000 := by
    rw [ha]
    rfl
  have hbone : b.register 1 = 0x50000000 := by
    rw [hb]
    rfl
  have hsucceeds := cycle_of_effect (s := ⟨a, m⟩) (e := .loading 0 0x8C200000)
    (by rw [ha]; exact hload) (by rw [hlw, haone, hload]; rfl)
  have hfaults := cycle_of_fault (s := ⟨b, m⟩) (f := .unmappedAddress 0x50000000)
    (by rw [hb]; exact hload) (by rw [hlw, hbone, hunmapped]; rfl)
  obtain ⟨c, hc⟩ : ∃ c : Cpu,
      c = ((a.advance ⟨0x8C200000⟩).apply (.loading 0 0x8C200000)).commit := ⟨_, rfl⟩
  obtain ⟨d, hd⟩ : ∃ d : Cpu, d = (b.advance ⟨0x8C200000⟩).commit.setRegister 1 0xBFC00000 :=
    ⟨_, rfl⟩
  have hreachc : c.Reachable := by
    refine ⟨m, [.setRegister 1 0xBFC00000, .cycle], ?_⟩
    have h : (Machine.cycle ⟨a, m⟩).2.cpu = c := by rw [hsucceeds, hc]
    rw [ha] at h
    exact h
  have hreachd : d.Reachable := by
    refine ⟨m, [.setRegister 1 0x50000000, .cycle, .setRegister 1 0xBFC00000], ?_⟩
    have h : (Machine.cycle ⟨b, m⟩).2.cpu.setRegister 1 0xBFC00000 = d := by rw [hfaults, hd]
    rw [hb] at h
    exact h
  have hsettled : c.settled = d.settled := by
    rw [hc, hd, ha, hb]
    decide
  -- the unaligned load merges with the word in one processor only
  have hlwl : ∀ p : Cpu, p.register 1 = 0xBFC00000 → effect ⟨p, m⟩ 0x88200000 =
      .ok (.loading 0 (((p.advance ⟨0x88200000⟩).mergeBase 0).loadLeft 0x8C200000 0)) := by
    intro p hp
    have hop : Instruction.decode ⟨0x88200000⟩ = .ok .lwl := rfl
    have haddress : (p.advance ⟨0x88200000⟩).operands.address ⟨0x88200000⟩ = 0xBFC00000 := by
      show (p.advance ⟨0x88200000⟩).register 1 + 0 = 0xBFC00000
      rw [Cpu.register_advance, hp, UInt32.add_zero]
    have haligned : Word.aligned 0xBFC00000 = 0xBFC00000 := rfl
    rw [effect_of_decode hop, Operation.effect, haddress, haligned, hload]
    rfl
  have hcloads := cycle_of_effect (s := ⟨c, m⟩) (by rw [hc, ha]; exact hleft)
    (hlwl c (by rw [hc, ha]; rfl))
  rw [show (c.advance ⟨0x88200000⟩).mergeBase 0 = 0x8C200000 by rw [hc]; rfl] at hcloads
  have hdloads := cycle_of_effect (s := ⟨d, m⟩) (by rw [hd, hb]; exact hleft)
    (hlwl d (by rw [hd, hb]; rfl))
  rw [show (d.advance ⟨0x88200000⟩).mergeBase 0 = 0 by rw [hd, hb]; rfl] at hdloads
  refine ⟨m, c, d, hreachc, hreachd, by rw [hc]; rfl, by rw [hd]; rfl, hsettled, ?_, ?_,
    (cycles_of_settled hsettled m 1).2.2.1⟩
  · exact (congrArg (·.2.cpu.pending) hcloads).trans rfl
  · exact (congrArg (·.2.cpu.pending) hdloads).trans rfl

end Machine

end R3000
