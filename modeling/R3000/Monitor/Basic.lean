import R3000.Listing
import R3000.Monitor.Breakpoints
import R3000.Trace

/-!
The monitor: a machine under control, with its cycles counted, breakpoints, and a trace if one is
wanted. A bounded run ends at its limit, at a breakpoint that is not its first address, or at a
fault. Main statements: what one step does, and how a run of some cycles is put together from runs
of fewer.
-/

namespace R3000

/-- A machine under control. -/
structure Monitor where
  machine : Machine
  cycles : Nat
  breakpoints : Breakpoints
  tracing : Option Tracing

/-- Why a run ended without a fault. -/
inductive Outcome where
  | breakpoint (address : Word)
  | limitReached
  /-- the fuel of a run without a limit was used up -/
  | unfinished
  deriving Repr, DecidableEq

namespace Monitor

/-- A monitor at power-on in front of a memory. -/
def ofMemory (m : Memory) : Monitor := ⟨.powerOn m, 0, .empty, none⟩

/-- A monitor at power-on with a BIOS image. -/
def ofImage (image : ByteArray) : Except Error Monitor := (Memory.ofImage image).map ofMemory

/-- A monitor at power-on with the BIOS image in a file. -/
def ofFile (path : String) (content : FileContent) : Except Error Monitor :=
  (Memory.ofFile path content).map ofMemory

/-- Acts on the memory. -/
@[inline]
def onMemory {α : Type} (s : Monitor) (f : Memory → α × Memory) : α × Monitor :=
  match s with
  | ⟨⟨cpu, memory⟩, cycles, breakpoints, tracing⟩ =>
    match f memory with
    | (a, memory) => (a, ⟨⟨cpu, memory⟩, cycles, breakpoints, tracing⟩)

/-- Acts on the processor. -/
def onCpu (s : Monitor) (f : Cpu → Cpu) : Monitor := { s with machine.cpu := f s.machine.cpu }

/-- A cycle of the machine alone, neither counted nor traced. -/
def cycle (s : Monitor) : Except Fault Unit × Monitor :=
  match s with
  | ⟨machine, cycles, breakpoints, tracing⟩ =>
    match machine.cycle with
    | (result, machine) => (result, ⟨machine, cycles, breakpoints, tracing⟩)

/-- The address of the next instruction. -/
def pc (s : Monitor) : Word := s.machine.cpu.pc

/-- Starts again from power-on. Breakpoints and tracing stay, and the tracing counts from zero. -/
def reset (s : Monitor) : Monitor :=
  { s with
    machine := s.machine.reset
    cycles := 0
    tracing := s.tracing.map fun t => { t with count := 0 } }

/-- One cycle, traced and, if it succeeds, counted. -/
def step (s : Monitor) : Except Fault Unit × Monitor :=
  match s with
  | ⟨machine, cycles, breakpoints, tracing⟩ =>
    let tracing := tracing.map (·.attempt machine)
    match machine.cycle with
    | (.error e, machine) => (.error e, ⟨machine, cycles, breakpoints, tracing⟩)
    | (.ok (), machine) => (.ok (), ⟨machine, cycles + 1, breakpoints, tracing⟩)

/-- Steps a number of times, up to the first fault. -/
def stepN (s : Monitor) : Nat → Except Fault Unit × Monitor
  | 0 => (.ok (), s)
  | n + 1 =>
    match s.step with
    | (.error e, t) => (.error e, t)
    | (.ok (), t) => t.stepN n

/-- Runs for at most a number of steps. A breakpoint counts once the run has `started`. -/
def runFrom (started : Bool) (s : Monitor) : Nat → Except Fault Outcome × Monitor
  | 0 => (.ok .limitReached, s)
  | n + 1 =>
    if started && s.breakpoints.contains s.pc then (.ok (.breakpoint s.pc), s)
    else
      match s.step with
      | (.error e, t) => (.error e, t)
      | (.ok (), t) => t.runFrom true n

/-- Runs for at most a number of steps. -/
def runAtMost (s : Monitor) (n : Nat) : Except Fault Outcome × Monitor := s.runFrom false n

/-- Runs to a breakpoint, a fault or a limit. A run without a limit uses fuel instead. -/
def run (s : Monitor) (fuel : Nat) : (limit : Option Nat) → Except Fault Outcome × Monitor
  | some n => s.runAtMost n
  | none =>
    match s.runAtMost fuel with
    | (.ok .limitReached, t) => (.ok .unfinished, t)
    | other => other

theorem step_of_error {s : Monitor} {f : Fault} {t : Machine}
    (h : s.machine.cycle = (.error f, t)) : s.step =
      (.error f, { s with machine := t, tracing := s.tracing.map (·.attempt s.machine) }) := by
  simp only [step, h]

theorem step_of_ok {s : Monitor} {t : Machine} (h : s.machine.cycle = (.ok (), t)) : s.step =
    (.ok (), { s with
      machine := t
      cycles := s.cycles + 1
      tracing := s.tracing.map (·.attempt s.machine) }) := by
  simp only [step, h]

@[simp]
theorem breakpoints_step (s : Monitor) : s.step.2.breakpoints = s.breakpoints := by
  match h : s.machine.cycle with
  | (.error f, t) => rw [step_of_error h]
  | (.ok (), t) => rw [step_of_ok h]

/-- A run that reaches its limit is followed by a run of the steps that are left. -/
theorem runFrom_add (started : Bool) (s : Monitor) (k n : Nat) : s.runFrom started (k + n) =
    match s.runFrom started k with
    | (.ok .limitReached, t) => t.runFrom (started || k != 0) n
    | ended => ended := by
  induction k generalizing s started with
  | zero => simp [runFrom]
  | succ k ih =>
    rw [Nat.succ_add, runFrom, runFrom]
    split
    next => rfl
    next =>
      match s.step with
      | (.error e, t) => rfl
      | (.ok (), t) => simp [ih true t]

/-- Adds a breakpoint. -/
def addBreakpoint (s : Monitor) (a : Word) : Monitor :=
  { s with breakpoints := s.breakpoints.insert a }

/-- Takes a breakpoint away, and tells whether it was set. -/
def removeBreakpoint (s : Monitor) (a : Word) : Bool × Monitor :=
  (s.breakpoints.contains a, { s with breakpoints := s.breakpoints.erase a })

/-- Takes all breakpoints away. -/
def clearBreakpoints (s : Monitor) : Monitor := { s with breakpoints := .empty }

/-- Starts a new trace of at most `limit` lines, or of any number if that is zero, if its file was
    `created`. Otherwise a trace that there is goes on. -/
def enableTracing (s : Monitor) (created : Bool) (limit : Nat) : Except Error Unit × Monitor :=
  if created then (.ok (), { s with tracing := some (.start limit) }) else (.error .inaccessible, s)

/-- Ends the trace. -/
def disableTracing (s : Monitor) : Monitor := { s with tracing := none }

/-- The number of instructions that the trace has followed. -/
def traceCount (s : Monitor) : Nat := (s.tracing.map Tracing.count).getD 0

/-- The instruction at the address that was executed last, if it can be read. -/
def instructionAtCurrentPc (s : Monitor) : Option Instruction :=
  match s.machine.memory.loadWord s.machine.cpu.currentPc with
  | .ok w => some ⟨w⟩
  | .error _ => none

/-- The lines of `count` words from an address on. -/
def listing (s : Monitor) (start : Word) (count : Nat) : Except Fault (List ListingLine) :=
  s.machine.memory.listing start count

/-- The lines of words around the next instruction. -/
def listingAroundPc (s : Monitor) (context : Nat) : Except Fault (List ListingLine) :=
  s.machine.memory.listingAround s.pc context

end Monitor

end R3000
