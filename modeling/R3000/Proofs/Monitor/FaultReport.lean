import R3000.Proofs.Instruction.Classification
import R3000.Proofs.Monitor.Invariant
import R3000.Proofs.Refusal

/-!
What can be told of a fault after it. A fault changes neither the memory nor the current address of
its cycle, so the word that is read back there is the one that was executed, and it can be read back
exactly if it could be fetched. Where it could not, the machine is stuck: the address map never
changes, so only a reset gets it away from its address. Main statement: `fault_report`, for every
step that fails, alone or inside a longer call.
-/

namespace R3000

/-! ### The word that a fault carries -/

theorem Instruction.instruction?_of_decode {i : Instruction} {f : Fault} (h : i.decode = .error f) :
    f.instruction? = some i.word :=
  instruction?_of_mem_refusals ((Mnemonic.refuses i).mem f h)

theorem Operation.eq_of_refuses {op : Operation} {w a v : Word} {isolated : Bool} {f : Fault}
    (h : op.Refuses w a isolated f) (hv : f.instruction? = some v) : v = w := by
  cases h with
  | feature | transfer => exact (Option.some.inj hv).symm
  | load | unalignedLoad | store | unalignedStore => cases hv

namespace Machine

variable {s : Machine} {a w v : Word} {f : Fault}

/-- A fault that carries a word carries the one that was executed. -/
theorem eq_of_effect (h : s.effect w = .error f) (hv : f.instruction? = some v) : v = w := by
  rcases effect_eq_error_iff.1 h with hdecode | ⟨op, -, hrefuses⟩
  · rw [Instruction.instruction?_of_decode hdecode] at hv
    exact (Option.some.inj hv).symm
  · exact Operation.eq_of_refuses hrefuses hv

/-! ### Machines that are stuck -/

/-- A machine in front of an address that no word can be fetched from, where a fetch has failed. -/
structure Stuck (a : Word) (s : Machine) : Prop where
  pc : s.cpu.pc = a
  currentPc : s.cpu.currentPc = a
  unmapped : ¬ Fits 4 a

theorem stuck_refuseFetch (h : s.memory.loadWord s.cpu.pc = .error f) :
    s.refuseFetch.Stuck s.cpu.pc :=
  ⟨rfl, rfl, (Memory.loadWord_eq_error_iff.1 h).1⟩

namespace Stuck

theorem loadWord (hs : s.Stuck a) (m : Memory) :
    m.loadWord s.cpu.pc = .error (.unmappedAddress a) :=
  Memory.loadWord_eq_error_iff.2 ⟨hs.pc ▸ hs.unmapped, by rw [hs.pc]⟩

/-- A cycle of a stuck machine fails and changes nothing. -/
theorem cycle (hs : s.Stuck a) : s.cycle = (.error (.unmappedAddress a), s) := by
  have hsame : s.refuseFetch = s := by
    rw [refuseFetch, hs.pc, ← hs.currentPc]
  rw [cycle_of_error (hs.loadWord s.memory), hsame]

/-- Only a reset of the processor gets a stuck machine away. -/
theorem call {x : Call} (hs : s.Stuck a) (hx : x ≠ .reset) : (s.call x).2.Stuck a := by
  cases x with
  | cycle =>
    rw [Machine.call, hs.cycle]
    exact hs
  | setRegister | setControlRegister | access => exact ⟨hs.pc, hs.currentPc, hs.unmapped⟩
  | reset => exact absurd rfl hx

theorem cycles (hs : s.Stuck a) (n : Nat) : (s.cycles n).Stuck a :=
  cycles_invariant (fun t ht => by rwa [ht.cycle]) hs n

end Stuck

end Machine

/-! ### The step that fails -/

namespace Monitor

variable {s t : Monitor} {f : Fault} {a : Word} {k n : Nat}

theorem proceeds_of_step (hstep : s.step.1 = .ok ()) (h : s.step.2.Proceeds k) :
    s.Proceeds (k + 1) := by
  intro j hj
  cases j with
  | zero => exact hstep
  | succ j =>
    rw [← after_step]
    exact h j (Nat.lt_of_succ_lt_succ hj)

theorem exists_of_stepN_error (h : (s.stepN n).1 = .error f) :
    ∃ k, s.Proceeds k ∧ (s.after k).step = (.error f, (s.stepN n).2) := by
  induction n generalizing s with
  | zero => cases h
  | succ n ih =>
    rw [stepN] at h ⊢
    cases hstep : s.step.1 with
    | error f' =>
      rw [step_eq_of_error hstep] at h ⊢
      obtain rfl := Except.error.inj h
      exact ⟨0, fun j hj => absurd hj j.not_lt_zero, step_eq_of_error hstep⟩
    | ok u =>
      rw [step_eq_of_ok hstep] at h ⊢
      obtain ⟨k, hk, hfail⟩ := ih h
      rw [after_step] at hfail
      exact ⟨k + 1, proceeds_of_step hstep hk, hfail⟩

theorem exists_of_runAtMost_error (h : (s.runAtMost n).1 = .error f) :
    ∃ k, s.Proceeds k ∧ (s.after k).step = (.error f, (s.runAtMost n).2) := by
  rcases s.passes_or_stops n with hpass | ⟨k, hk, hstop | ⟨f', hfail⟩⟩
  · rw [runAtMost_of_forall hpass] at h
    cases h
  · rw [runAtMost_of_stopsAt hstop hk] at h
    cases h
  · rw [runAtMost_of_failsAt hfail hk] at h ⊢
    obtain rfl := Except.error.inj h
    exact ⟨k, (failsAt_iff.1 hfail).1, step_eq_of_error hfail.error⟩

/-- A run that fails is one of some number of steps. -/
theorem runAtMost_of_run_error {fuel : Nat} {limit : Option Nat}
    (h : (s.run fuel limit).1 = .error f) : s.run fuel limit = s.runAtMost (limit.getD fuel) := by
  cases limit with
  | some n => rfl
  | none =>
    rw [run] at h ⊢
    split
    next hreached =>
      rw [hreached] at h
      cases h
    next => rfl

/-- A call of the machine fails with a fault. -/
theorem Reply.exists_of_ofAnswer {α : Type} {r : Except Fault α} {g : α → Option Nat} {e : Error}
    (h : ofAnswer (r.map g) = .error e) : ∃ f, e = .fault f ∧ r = .error f := by
  cases r with
  | error f => exact ⟨f, (Except.error.inj h).symm, rfl⟩
  | ok a => cases h

/-- A call that steps and fails ends with a step that fails, behind steps that succeed. -/
theorem exists_of_call_error {x : Call} (hx : x.isStepping) {e : Error}
    (h : (s.call x).1 = .error e) :
    ∃ f k, e = .fault f ∧ s.Proceeds k ∧ (s.after k).step = (.error f, (s.call x).2) := by
  cases x with
  | step =>
    obtain ⟨f, rfl, hstep⟩ := Reply.exists_of_ofAnswer h
    exact ⟨f, 0, rfl, fun j hj => absurd hj j.not_lt_zero, step_eq_of_error hstep⟩
  | stepN n =>
    obtain ⟨f, rfl, hsteps⟩ := Reply.exists_of_ofAnswer h
    obtain ⟨k, hk⟩ := exists_of_stepN_error hsteps
    exact ⟨f, k, rfl, hk⟩
  | run fuel limit =>
    obtain ⟨f, rfl, hrun⟩ := Reply.exists_of_ofAnswer h
    have heq := runAtMost_of_run_error hrun
    rw [heq] at hrun
    rw [call, heq]
    obtain ⟨k, hk⟩ := exists_of_runAtMost_error hrun
    exact ⟨f, k, rfl, hk⟩
  | _ => cases hx

/-! ### What a stuck monitor does -/

theorem step_of_stuck (hs : s.machine.Stuck a) : s.step = (.error (.unmappedAddress a),
    { s with tracing := s.tracing.map (·.attempt s.machine) }) :=
  step_of_error hs.cycle

theorem stuck_call {x : Call} (hs : s.machine.Stuck a) (hx : x ≠ .reset)
    (hm : x ≠ .machine .reset) : (s.call x).2.machine.Stuck a := by
  cases x with
  | step | stepN | run =>
    rw [call_of_isStepping rfl, machine_after]
    exact hs.cycles _
  | machine x => exact hs.call fun h => hm (congrArg Call.machine h)
  | reset => exact absurd rfl hx
  | enableTracing created limit => cases created <;> exact hs
  | addBreakpoint | removeBreakpoint | clearBreakpoints | disableTracing => exact hs

/-- Calls that reset neither the processor nor all of the monitor leave it stuck. -/
theorem stuck_after {xs : List Call} (hs : s.machine.Stuck a) (hreset : .reset ∉ xs)
    (hm : .machine .reset ∉ xs) : (Run.after call s xs).machine.Stuck a := by
  induction xs generalizing s with
  | nil => exact hs
  | cons x xs ih =>
    rw [List.mem_cons, not_or] at hreset hm
    exact ih (stuck_call hs (Ne.symm hreset.1) (Ne.symm hm.1)) hreset.2 hm.2

/-! ### The report of a fault -/

/-- What can be told about a fault from the monitor `t` that a failed step leaves, where `s` is the
    monitor in front of the step. -/
structure FaultReport (s : Monitor) (f : Fault) (t : Monitor) : Prop where
  /-- the instruction that can be read is the word that was fetched -/
  fetched (i : Instruction) : t.instructionAtCurrentPc = some i ↔
    s.machine.memory.loadWord s.pc = .ok i.word
  /-- none can be read if the fetch failed, and only then -/
  refused : t.instructionAtCurrentPc = none ↔ ∃ e, s.machine.memory.loadWord s.pc = .error e
  /-- a word that was fetched is the one that was executed and failed, and the one that the fault
      carries if it carries any -/
  executed (i : Instruction) : t.instructionAtCurrentPc = some i →
    t.machine.cpu.instruction = i ∧ s.machine.effect i.word = .error f ∧
      ∀ w, f.instruction? = some w → w = i.word
  /-- a fetch that failed names its address, at which the processor still is -/
  address : t.instructionAtCurrentPc = none →
    f = .unmappedAddress t.machine.cpu.currentPc ∧ t.pc = t.machine.cpu.currentPc
  /-- whatever is asked for but a reset, the next step fails like this one and only the trace tells
      of it -/
  persists : t.instructionAtCurrentPc = none → ∀ xs, .reset ∉ xs → .machine .reset ∉ xs →
    (Run.after call t xs).step = (.error f, { Run.after call t xs with
      tracing := (Run.after call t xs).tracing.map (·.attempt (Run.after call t xs).machine) })

theorem faultReport_of_refused {e : Fault} (hw : s.machine.memory.loadWord s.pc = .error e)
    (hmachine : t.machine = s.machine.refuseFetch) : s.FaultReport e t := by
  have hstuck : t.machine.Stuck s.pc := hmachine ▸ Machine.stuck_refuseFetch hw
  have hnone : t.instructionAtCurrentPc = none := by
    rw [instructionAtCurrentPc, hstuck.currentPc, ← hstuck.pc, hstuck.loadWord]
  obtain rfl := (Memory.loadWord_eq_error_iff.1 hw).2
  refine ⟨fun i => ?_, iff_of_true hnone ⟨_, hw⟩, fun i hi => ?_, fun _ => ?_,
    fun _ xs hreset hm => step_of_stuck (stuck_after hstuck hreset hm)⟩
  · rw [hnone, hw]
    exact iff_of_false nofun nofun
  · rw [hnone] at hi
    cases hi
  · exact ⟨by rw [hstuck.currentPc], hstuck.pc.trans hstuck.currentPc.symm⟩

theorem faultReport_of_executed {w : Word} (hw : s.machine.memory.loadWord s.pc = .ok w)
    (he : s.machine.effect w = .error f)
    (hmachine : t.machine = ⟨(s.machine.cpu.advance ⟨w⟩).commit, s.machine.memory⟩) :
    s.FaultReport f t := by
  have hcurrent : t.machine.cpu.currentPc = s.pc := by rw [hmachine]; rfl
  have hsome : t.instructionAtCurrentPc = some ⟨w⟩ := by
    rw [instructionAtCurrentPc, hcurrent, hmachine, hw]
  have hpresent : ¬ t.instructionAtCurrentPc = none := by simp [hsome]
  refine ⟨fun i => ?_, iff_of_false hpresent fun ⟨e, h⟩ => ?_, fun i hi => ?_,
    fun h => absurd h hpresent, fun h => absurd h hpresent⟩
  · rw [hsome, hw]
    cases i
    simp
  · rw [hw] at h
    cases h
  · obtain rfl := Option.some.inj (hsome.symm.trans hi)
    exact ⟨by rw [hmachine]; rfl, he, fun v hv => Machine.eq_of_effect he hv⟩

theorem faultReport_of_step (h : s.step = (.error f, t)) : s.FaultReport f t := by
  have hmachine : t.machine = s.machine.cycle.2 := by rw [← machine_step, h]
  obtain ⟨e, hw, hcycle⟩ | ⟨w, e, hw, he, hcycle⟩ | ⟨w, e, -, -, hcycle⟩ := s.machine.cycle_cases
  · rw [hcycle] at hmachine
    rw [step_of_error hcycle] at h
    obtain rfl := Except.error.inj (Prod.mk.inj h).1
    exact faultReport_of_refused hw hmachine
  · rw [hcycle] at hmachine
    rw [step_of_error hcycle] at h
    obtain rfl := Except.error.inj (Prod.mk.inj h).1
    exact faultReport_of_executed hw he hmachine
  · rw [step_of_ok hcycle] at h
    cases (Prod.mk.inj h).1

/-- A call that steps and fails does so with the fault of a step that it ends with, and leaves what
    names the instruction of this step. If a word was fetched it can still be read, it is the last
    instruction of the processor, and the fault carries no other. If none could be fetched there is
    none to be read, the fault names the address, and nothing but a reset keeps the next step from
    failing alike. -/
theorem fault_report (s : Monitor) (x : Call) (hx : x.isStepping) (e : Error)
    (h : (s.call x).1 = .error e) : ∃ f k, e = .fault f ∧ s.Proceeds k ∧
      (s.after k).step = (.error f, (s.call x).2) ∧ (s.after k).FaultReport f (s.call x).2 := by
  obtain ⟨f, k, he, hk, hfail⟩ := exists_of_call_error hx h
  exact ⟨f, k, he, hk, hfail, faultReport_of_step hfail⟩

/-- An unknown opcode is reported as such. An address outside of every region is reported without an
    instruction, and again after a store, a register write and a run to a breakpoint. -/
theorem fault_report_unknownOpcode :
    (∃ s : Monitor, Call.step.isStepping ∧
      (s.call .step).1 = .error (.fault (.invalidOpcode 63 0xFC000000)) ∧
      (s.call .step).2.instructionAtCurrentPc = some ⟨0xFC000000⟩ ∧
      (s.call .step).2.machine.cpu.instruction = ⟨0xFC000000⟩) ∧
    ∃ s : Monitor, (Call.run 9 none).isStepping ∧
      (s.call (.run 9 none)).1 = .error (.fault (.unmappedAddress 0x50000000)) ∧
      (s.call (.run 9 none)).2.instructionAtCurrentPc = none ∧
      (Run.after call (s.call (.run 9 none)).2 [.machine (.access (.storeWord 0 1)),
        .machine (.setRegister 1 2), .addBreakpoint 0x50000000, .run 9 (some 3)]).step.1 =
          .error (.unmappedAddress 0x50000000) := by
  constructor
  · obtain ⟨m, hm⟩ : ∃ m, Memory.ofImage ⟨#[0, 0, 0, 0xFC]⟩ = .ok m := ⟨_, dif_pos (by decide)⟩
    have hword : m.loadWord 0xBFC00000 = .ok 0xFC000000 :=
      Memory.loadWord_of_ofImage hm (by decide) (by rfl)
    have hstep := congrArg Prod.fst (step_of_error (s := ofMemory m)
      (Machine.cycle_of_fault hword rfl))
    have hcall : ((ofMemory m).call .step).1 = .error (.fault (.invalidOpcode 63 0xFC000000)) :=
      congrArg (Reply.ofAnswer ∘ Answer.ofUnit) hstep
    obtain ⟨f, k, hf, -, -, hreport⟩ := fault_report (ofMemory m) .step rfl _ hcall
    obtain rfl := Error.fault.inj hf
    cases hread : ((ofMemory m).call .step).2.instructionAtCurrentPc with
    | none => cases (hreport.address hread).1
    | some i =>
      obtain ⟨hlast, -, hcarried⟩ := hreport.executed i hread
      obtain rfl : i = ⟨0xFC000000⟩ := congrArg Instruction.mk (hcarried _ rfl).symm
      exact ⟨ofMemory m, rfl, hcall, hread, hlast⟩
  · obtain ⟨s, hs⟩ : ∃ s : Monitor,
        s = ⟨⟨{ Cpu.powerOn with pc := 0x50000000 }, .zeros⟩, 0, .empty, none⟩ := ⟨_, rfl⟩
    have hfetch : s.machine.memory.loadWord s.pc = .error (.unmappedAddress 0x50000000) := by
      rw [hs]
      exact Memory.loadWord_of_not_mapped (by decide)
    have hstep : s.step.1 = .error (.unmappedAddress 0x50000000) :=
      congrArg Prod.fst (step_of_error (Machine.cycle_of_error hfetch))
    have hfails : s.FailsAt 0 (.unmappedAddress 0x50000000) :=
      ⟨hstep, fun h => absurd h (Nat.lt_irrefl 0), fun j hj => absurd hj j.not_lt_zero⟩
    have hrun : s.run 9 none = (.error (.unmappedAddress 0x50000000), s.step.2) := by
      rw [run, runAtMost_of_failsAt hfails (by decide)]
      rfl
    have hcall : (s.call (.run 9 none)).1 = .error (.fault (.unmappedAddress 0x50000000)) := by
      rw [call, hrun]
      rfl
    obtain ⟨f, k, hf, -, -, hreport⟩ := fault_report s (.run 9 none) rfl _ hcall
    obtain rfl := Error.fault.inj hf
    have hread : (s.call (.run 9 none)).2.instructionAtCurrentPc = none := by
      rw [call, hrun]
      exact (faultReport_of_step (step_eq_of_error hstep)).refused.2 ⟨_, hfetch⟩
    exact ⟨s, rfl, hcall, hread,
      congrArg Prod.fst (hreport.persists hread _ (by decide) (by decide))⟩

end Monitor

end R3000
