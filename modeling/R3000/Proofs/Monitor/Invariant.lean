import R3000.Proofs.Monitor.Calls

/-!
What holds between any two calls. Between cycles both halves of the register file are equal and
register 0 is zero, a load on its way is that of the last instruction, and every buffer is as long
as its region. What each call of a machine keeps, each call of a monitor keeps, since its steps are
cycles and its reset is a reset of the processor and one of the memory. Main statement:
`sound_after`.
-/

namespace R3000

/-! ### Machines -/

namespace Cpu

/-- A coherent processor whose pending load, if there is one, is that of its last instruction. -/
structure Sound (c : Cpu) : Prop extends c.Coherent where
  pending : ∀ l, c.pending = some l → c.instruction.isLoad ∧ l.target = c.instruction.rt

theorem sound_powerOn : powerOn.Sound := ⟨coherent_powerOn, nofun⟩

theorem sound_cycle {s : Machine} (hs : s.cpu.Sound) : s.cycle.2.cpu.Sound := by
  refine ⟨coherent_cycle s hs.toCoherent, fun l hl => ?_⟩
  obtain ⟨f, -, h⟩ | ⟨w, f, -, -, h⟩ | ⟨w, e, -, he, h⟩ := s.cycle_cases
  · -- neither the load nor the instruction is touched
    rw [h] at hl ⊢
    exact hs.pending l hl
  · rw [h] at hl
    cases hl
  · rw [h] at hl ⊢
    have hload : e.load = some l := Option.or_none.symm.trans hl
    exact Instruction.target_of_effect he hload

theorem sound_call (s : Machine) (x : Machine.Call) (hs : s.cpu.Sound) :
    (s.call x).2.cpu.Sound := by
  cases x with
  | cycle => exact sound_cycle hs
  | reset => exact sound_powerOn
  | setRegister | setControlRegister | access =>
    exact ⟨coherent_call s _ hs.toCoherent, hs.pending⟩

end Cpu

/-! ### Monitors -/

namespace Monitor

theorem machine_after (s : Monitor) (n : Nat) : (s.after n).machine = s.machine.cycles n := by
  induction n with
  | zero => rfl
  | succ n ih => rw [after_succ, machine_step, ih, Machine.cycles_succ]

/-- What each call of a machine keeps, each call of a monitor keeps. -/
theorem machine_call_invariant {P : Machine → Prop} (hP : ∀ t x, P t → P (Machine.call t x).2)
    (s : Monitor) (x : Call) (hs : P s.machine) : P (s.call x).2.machine := by
  cases x with
  | step | stepN | run =>
    rw [call_of_isStepping rfl, machine_after]
    exact Machine.cycles_invariant (hP · .cycle) hs _
  | machine x => exact hP _ x hs
  | reset => exact hP _ (.access .reset) (hP _ .reset hs)
  | enableTracing created limit => cases created <;> exact hs
  | addBreakpoint | removeBreakpoint | clearBreakpoints | disableTracing => exact hs

/-- What holds after any calls of a monitor, those that fail included. Both halves of the register
    file are equal and register 0 is zero in both, so every number whose low five bits are zero
    reads zero. A pending load goes to the register that the last instruction names, which is a
    load, and that and the load that has just arrived go to one of 32 registers. Every buffer has
    the length of its region. -/
theorem sound_after (m : Memory) (xs : List Call) :
    let s := Run.after call (ofMemory m) xs
    let c := s.machine.cpu
    c.registers.staged = c.registers.visible ∧
      c.registers.visible[0] = 0 ∧ c.registers.staged[0] = 0 ∧
      (∀ n : Nat, n % 32 = 0 → c.register (RegisterFile.index n) = 0) ∧
      (∀ l, c.pending = some l →
        l.target.val < 32 ∧ c.instruction.isLoad ∧ l.target = c.instruction.rt) ∧
      (∀ l, c.committed = some l → l.target.val < 32) ∧
      ∀ r, (s.machine.memory.buffer r).bytes.size = r.span.size.toNat := by
  intro s c
  have hcall : ∀ (s : Monitor) x, s.machine.cpu.Sound → (s.call x).2.machine.cpu.Sound :=
    machine_call_invariant Cpu.sound_call
  have hc : c.Sound := Run.after_invariant hcall Cpu.sound_powerOn xs
  refine ⟨hc.staged, hc.zero, ?_, fun n hn => ?_, fun l hl => ?_, fun l _ => l.target.isLt,
    fun r => (s.machine.memory.buffer r).size_bytes⟩
  · rw [hc.staged]
    exact hc.zero
  · have hindex : RegisterFile.index n = 0 := Fin.ext hn
    rw [hindex]
    exact hc.zero
  · exact ⟨l.target.isLt, hc.pending l hl⟩

end Monitor

end R3000
