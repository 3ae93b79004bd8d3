import R3000.Proofs.Calls
import R3000.Proofs.Monitor.Outcome

/-!
Calls of a monitor: what a host can ask of it, the steps that each call attempts, and the machines
in front of these steps. A call that steps leaves the monitor that its steps lead to, whether it
ends at a count, a limit, a breakpoint or a fault; no other call steps. Main statements: what a call
that steps leaves, what steps do to each part of a monitor, and that nothing depends on what is
traced.
-/

namespace R3000

/-- The number that the end of a run tells. -/
def Outcome.number? : Outcome → Option Nat
  | breakpoint a => some a.toNat
  | limitReached | unfinished => none

namespace Monitor

/-- The answer to a call: an error, or success with the number that it tells, if it tells one. -/
abbrev Reply := Except Error (Option Nat)

/-- The answer of a call of the machine. -/
def Reply.ofAnswer (a : Answer) : Reply := a.mapError .fault

/-- A call of a monitor. A run without a limit uses fuel instead. -/
inductive Call where
  | step
  | stepN (n : Nat)
  | run (fuel : Nat) (limit : Option Nat)
  | machine (x : Machine.Call)
  | reset
  | addBreakpoint (a : Word)
  | removeBreakpoint (a : Word)
  | clearBreakpoints
  | enableTracing (created : Bool) (limit : Nat)
  | disableTracing
  deriving Repr, DecidableEq

/-- Carries out a call. -/
def call (s : Monitor) : Call → Reply × Monitor
  | .step => (.ofAnswer (.ofUnit s.step.1), s.step.2)
  | .stepN n => (.ofAnswer (.ofUnit (s.stepN n).1), (s.stepN n).2)
  | .run fuel limit => (.ofAnswer ((s.run fuel limit).1.map Outcome.number?), (s.run fuel limit).2)
  | .machine x => (.ofAnswer (s.machine.call x).1, { s with machine := (s.machine.call x).2 })
  | .reset => (.ok none, s.reset)
  | .addBreakpoint a => (.ok none, s.addBreakpoint a)
  | .removeBreakpoint a =>
    (.ok (some (s.removeBreakpoint a).1.toNat), (s.removeBreakpoint a).2)
  | .clearBreakpoints => (.ok none, s.clearBreakpoints)
  | .enableTracing created limit =>
    ((s.enableTracing created limit).1.map fun _ => none, (s.enableTracing created limit).2)
  | .disableTracing => (.ok none, s.disableTracing)

/-! ### The steps of a call -/

/-- The number of steps that are attempted out of `n`, up to the first fault, or to the first
    monitor at which to stop. -/
def stepsUntil (stop : Monitor → Bool) (s : Monitor) : Nat → Nat
  | 0 => 0
  | n + 1 =>
    match s.step with
    | (.error _, _) => 1
    | (.ok (), t) => if stop t then 1 else t.stepsUntil stop n + 1

/-- Whether the next instruction has a breakpoint. -/
def atBreakpoint (s : Monitor) : Bool := s.breakpoints.contains s.pc

/-- The number of steps that a call attempts. -/
def steps (s : Monitor) : Call → Nat
  | .step => 1
  | .stepN n => s.stepsUntil (fun _ => false) n
  | .run fuel limit => s.stepsUntil atBreakpoint (limit.getD fuel)
  | _ => 0

/-- The machines in front of the first steps. -/
def machines (s : Monitor) (n : Nat) : List Machine :=
  (List.range n).map fun k => (s.after k).machine

/-- The machines in front of the steps that a call attempts. -/
def attempts (s : Monitor) (x : Call) : List Machine := s.machines (s.steps x)

/-- The machines in front of the steps that a list of calls attempts. -/
def attemptsOver : Monitor → List Call → List Machine
  | _, [] => []
  | s, x :: xs => s.attempts x ++ (s.call x).2.attemptsOver xs

/-- Whether a call steps. -/
def Call.isStepping : Call → Bool
  | step | stepN _ | run _ _ => true
  | _ => false

variable {s : Monitor} {k n : Nat}

theorem after_step (s : Monitor) (k : Nat) : s.step.2.after k = s.after (k + 1) :=
  (Function.iterate_succ_apply ..).symm

theorem stepN_eq_after (s : Monitor) (n : Nat) :
    (s.stepN n).2 = s.after (s.stepsUntil (fun _ => false) n) := by
  induction n generalizing s with
  | zero => rfl
  | succ n ih =>
    cases h : s.step.1 with
    | error f =>
      rw [stepN, stepsUntil, step_eq_of_error h]
      rfl
    | ok u =>
      rw [stepN, stepsUntil, step_eq_of_ok h]
      exact (ih s.step.2).trans (after_step ..)

theorem runFrom_eq_after {started : Bool} (h : started = true → ¬ s.atBreakpoint = true) (n : Nat) :
    (s.runFrom started n).2 = s.after (s.stepsUntil atBreakpoint n) := by
  induction n generalizing s started with
  | zero => rfl
  | succ n ih =>
    cases hstep : s.step.1 with
    | error f =>
      rw [runFrom_of_error h hstep, stepsUntil, step_eq_of_error hstep]
      rfl
    | ok u =>
      rw [runFrom_of_ok h hstep, stepsUntil, step_eq_of_ok hstep]
      dsimp only
      split
      next hstop =>
        -- the limit and the breakpoint leave the same monitor
        cases n with
        | zero => rfl
        | succ n => exact congrArg Prod.snd (runFrom_of_marked hstop n)
      next hgo => exact (ih fun _ => hgo).trans (after_step ..)

theorem runAtMost_eq_after (s : Monitor) (n : Nat) :
    (s.runAtMost n).2 = s.after (s.stepsUntil atBreakpoint n) := by
  have hfirst : false = true → ¬ s.atBreakpoint = true := nofun
  exact runFrom_eq_after hfirst n

theorem run_eq_after (s : Monitor) (fuel : Nat) (limit : Option Nat) :
    (s.run fuel limit).2 = s.after (s.stepsUntil atBreakpoint (limit.getD fuel)) := by
  cases limit with
  | some n => exact runAtMost_eq_after s n
  | none =>
    have h := runAtMost_eq_after s fuel
    rw [run]
    split
    next t hreached => rwa [hreached] at h
    next => exact h

/-- A call that steps leaves what the steps that it attempts lead to. -/
theorem call_of_isStepping {x : Call} (hx : x.isStepping) : (s.call x).2 = s.after (s.steps x) := by
  cases x with
  | step => rfl
  | stepN n => exact stepN_eq_after s n
  | run fuel limit => exact run_eq_after s fuel limit
  | _ => cases hx

/-! ### What steps do to the parts of a monitor -/

theorem machines_succ (s : Monitor) (n : Nat) :
    s.machines (n + 1) = s.machines n ++ [(s.after n).machine] := by
  rw [machines, List.range_succ, List.map_append]
  rfl

theorem machine_step (s : Monitor) : s.step.2.machine = s.machine.cycle.2 := by
  match h : s.machine.cycle with
  | (.error f, t) => rw [step_of_error h]
  | (.ok (), t) => rw [step_of_ok h]

theorem tracing_step (s : Monitor) : s.step.2.tracing = s.tracing.map (·.attempt s.machine) := by
  match h : s.machine.cycle with
  | (.error f, t) => rw [step_of_error h]
  | (.ok (), t) => rw [step_of_ok h]

/-- A trace follows the steps, those that fail included. -/
theorem tracing_after (s : Monitor) (n : Nat) :
    (s.after n).tracing = s.tracing.map ((s.machines n).foldl Tracing.attempt) := by
  induction n with
  | zero => simp [after, machines]
  | succ n ih => simp [after_succ, tracing_step, ih, machines_succ, Function.comp_def]

/-! ### What a trace does not change -/

/-- Monitors that differ at most in their traces. -/
structure Alike (s t : Monitor) : Prop where
  machine : s.machine = t.machine
  cycles : s.cycles = t.cycles
  breakpoints : s.breakpoints = t.breakpoints

namespace Alike

variable {t : Monitor}

theorem step (h : s.Alike t) : s.step.1 = t.step.1 ∧ s.step.2.Alike t.step.2 := by
  obtain ⟨hmachine, hcycles, hbreakpoints⟩ := h
  match hcycle : t.machine.cycle with
  | (.error f, u) =>
    rw [step_of_error hcycle, step_of_error (hmachine ▸ hcycle)]
    exact ⟨rfl, rfl, hcycles, hbreakpoints⟩
  | (.ok (), u) =>
    rw [step_of_ok hcycle, step_of_ok (hmachine ▸ hcycle)]
    exact ⟨rfl, rfl, congrArg (· + 1) hcycles, hbreakpoints⟩

theorem stepN (h : s.Alike t) (n : Nat) :
    (s.stepN n).1 = (t.stepN n).1 ∧ (s.stepN n).2.Alike (t.stepN n).2 := by
  induction n generalizing s t with
  | zero => exact ⟨rfl, h⟩
  | succ n ih =>
    obtain ⟨hresult, hnext⟩ := h.step
    rw [Monitor.stepN, Monitor.stepN]
    cases hstep : t.step.1 with
    | error f =>
      rw [step_eq_of_error hstep, step_eq_of_error (hresult.trans hstep)]
      exact ⟨rfl, hnext⟩
    | ok u =>
      rw [step_eq_of_ok hstep, step_eq_of_ok (hresult.trans hstep)]
      exact ih hnext

theorem runFrom (h : s.Alike t) (started : Bool) (n : Nat) :
    (s.runFrom started n).1 = (t.runFrom started n).1 ∧
      (s.runFrom started n).2.Alike (t.runFrom started n).2 := by
  induction n generalizing s t started with
  | zero => exact ⟨rfl, h⟩
  | succ n ih =>
    obtain ⟨hresult, hnext⟩ := h.step
    have hpc : s.pc = t.pc := congrArg (·.cpu.pc) h.machine
    rw [Monitor.runFrom, Monitor.runFrom, h.breakpoints, hpc]
    split
    next => exact ⟨rfl, h⟩
    next =>
      cases hstep : t.step.1 with
      | error f =>
        rw [step_eq_of_error hstep, step_eq_of_error (hresult.trans hstep)]
        exact ⟨rfl, hnext⟩
      | ok u =>
        rw [step_eq_of_ok hstep, step_eq_of_ok (hresult.trans hstep)]
        exact ih hnext true

theorem run (h : s.Alike t) (fuel : Nat) (limit : Option Nat) :
    (s.run fuel limit).1 = (t.run fuel limit).1 ∧
      (s.run fuel limit).2.Alike (t.run fuel limit).2 := by
  cases limit with
  | some n => exact h.runFrom false n
  | none =>
    have hboth : (s.runAtMost fuel).1 = (t.runAtMost fuel).1 ∧
      (s.runAtMost fuel).2.Alike (t.runAtMost fuel).2 := h.runFrom false fuel
    rw [Monitor.run, Monitor.run]
    generalize s.runAtMost fuel = p at hboth
    generalize t.runAtMost fuel = q at hboth
    obtain ⟨result, s'⟩ := p
    obtain ⟨result', t'⟩ := q
    obtain ⟨rfl, hend⟩ := hboth
    cases result with
    | error f => exact ⟨rfl, hend⟩
    | ok outcome => cases outcome <;> exact ⟨rfl, hend⟩

/-- Every call answers alike, whatever has been traced. -/
theorem call (h : s.Alike t) (x : Call) :
    (s.call x).1 = (t.call x).1 ∧ (s.call x).2.Alike (t.call x).2 := by
  obtain ⟨hmachine, hcycles, hbreakpoints⟩ := id h
  cases x with
  | step => exact ⟨congrArg (Reply.ofAnswer ∘ Answer.ofUnit) h.step.1, h.step.2⟩
  | stepN n => exact ⟨congrArg (Reply.ofAnswer ∘ Answer.ofUnit) (h.stepN n).1, (h.stepN n).2⟩
  | run fuel limit =>
    obtain ⟨hresult, hend⟩ := h.run fuel limit
    rw [Monitor.call, Monitor.call, hresult]
    exact ⟨rfl, hend⟩
  | machine x =>
    rw [Monitor.call, Monitor.call, hmachine]
    exact ⟨rfl, rfl, hcycles, hbreakpoints⟩
  | reset => exact ⟨rfl, congrArg Machine.reset hmachine, rfl, hbreakpoints⟩
  | addBreakpoint a => exact ⟨rfl, hmachine, hcycles, congrArg (·.insert a) hbreakpoints⟩
  | removeBreakpoint a =>
    rw [Monitor.call, Monitor.call, removeBreakpoint, removeBreakpoint, hbreakpoints]
    exact ⟨rfl, hmachine, hcycles, rfl⟩
  | clearBreakpoints => exact ⟨rfl, hmachine, hcycles, rfl⟩
  | enableTracing created limit =>
    cases created <;> exact ⟨rfl, hmachine, hcycles, hbreakpoints⟩
  | disableTracing => exact ⟨rfl, hmachine, hcycles, hbreakpoints⟩

end Alike

end Monitor

end R3000
