import R3000.Machine

/-!
Calls: what a host can ask of a machine between two cycles or instead of one, and what a whole
list of such calls answers and leaves. A processor is reachable if some calls lead to it from
power-on. Main statements: an invariant that every call keeps holds after every list of calls, and
two machines that every call keeps in relation give the same answers.
-/

namespace R3000

/-- The answer to a request: a fault, or success with the number that was read, if one was. -/
abbrev Answer := Except Fault (Option Nat)

/-- The answer of a request that reads nothing. -/
def Answer.ofUnit (result : Except Fault Unit) : Answer := result.map fun _ => none

/-! ### Runs of any machine -/

namespace Run

variable {σ τ α β : Type} (step : σ → α → β × σ) (step' : τ → α → β × τ)

/-- The answers to a list of requests. -/
def answers : σ → List α → List β
  | _, [] => []
  | s, x :: xs => (step s x).1 :: answers (step s x).2 xs

/-- What a list of requests leaves. -/
def after (s : σ) (xs : List α) : σ := xs.foldl (fun s x => (step s x).2) s

variable {step step'}

/-- What every request keeps, every list of requests keeps. -/
theorem after_invariant {P : σ → Prop} (hstep : ∀ s x, P s → P (step s x).2) {s : σ} (hs : P s)
    (xs : List α) : P (after step s xs) := by
  induction xs generalizing s with
  | nil => exact hs
  | cons x xs ih => exact ih (hstep s x hs)

/-- Machines that every request keeps in relation, with the same answer, answer alike for ever. -/
theorem answers_eq_of_simulation {R : σ → τ → Prop}
    (hstep : ∀ s t x, R s t → (step s x).1 = (step' t x).1 ∧ R (step s x).2 (step' t x).2)
    {s : σ} {t : τ} (hst : R s t) (xs : List α) :
    answers step s xs = answers step' t xs ∧ R (after step s xs) (after step' t xs) := by
  induction xs generalizing s t with
  | nil => exact ⟨rfl, hst⟩
  | cons x xs ih =>
    obtain ⟨hx, hst'⟩ := hstep s t x hst
    obtain ⟨hxs, hend⟩ := ih hst'
    refine ⟨?_, hend⟩
    rw [answers, answers, hx, hxs]

end Run

/-! ### Accesses to memory -/

/-- An access to memory from outside. -/
inductive Memory.Access where
  | loadByte (a : Word)
  | loadHalf (a : Word)
  | loadWord (a : Word)
  | storeByte (a : Word) (v : UInt8)
  | storeHalf (a : Word) (v : UInt16)
  | storeWord (a v : Word)
  | reset
  deriving Repr, DecidableEq

/-- Carries out an access. -/
def Memory.access (m : Memory) : Access → Answer × Memory
  | .loadByte a => ((m.loadByte a).map fun v => some v.toNat, m)
  | .loadHalf a => ((m.loadHalf a).map fun v => some v.toNat, m)
  | .loadWord a => ((m.loadWord a).map fun v => some v.toNat, m)
  | .storeByte a v => (.ofUnit (m.storeByte a v).1, (m.storeByte a v).2)
  | .storeHalf a v => (.ofUnit (m.storeHalf a v).1, (m.storeHalf a v).2)
  | .storeWord a v => (.ofUnit (m.storeWord a v).1, (m.storeWord a v).2)
  | .reset => (.ok none, m.reset)

/-! ### Calls of a machine -/

/-- A call of a machine: a cycle, a register written from outside and named by its low five bits, a
    reset of the processor, or an access to the memory. -/
inductive Machine.Call where
  | cycle
  | setRegister (n : UInt8) (v : Word)
  | setControlRegister (n : UInt8) (v : Word)
  | reset
  | access (x : Memory.Access)
  deriving Repr, DecidableEq

/-- Carries out a call. -/
def Machine.call (s : Machine) : Call → Answer × Machine
  | .cycle => (.ofUnit s.cycle.1, s.cycle.2)
  | .setRegister n v =>
    (.ok none, { s with cpu := s.cpu.setRegister (RegisterFile.index n.toNat) v })
  | .setControlRegister n v =>
    (.ok none, { s with cpu := s.cpu.setControlRegister (RegisterFile.index n.toNat) v })
  | .reset => (.ok none, { s with cpu := .powerOn })
  | .access x => ((s.memory.access x).1, { s with memory := (s.memory.access x).2 })

/-- A processor that some calls lead to from power-on, in front of some memory. -/
def Cpu.Reachable (c : Cpu) : Prop :=
  ∃ m calls, (Run.after Machine.call (Machine.powerOn m) calls).cpu = c

end R3000
