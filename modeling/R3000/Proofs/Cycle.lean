import Mathlib.Logic.Function.Iterate
import R3000.Proofs.Calls
import R3000.Proofs.Cpu.Fault
import R3000.Proofs.Machine.Handler

/-!
Cycles: the three ways one can go, and the registers that each leaves. Between cycles the two halves
of the register file are equal and register 0 is zero, so the file is one array; a cycle writes the
pending load into it and the result of its own instruction on top. Main statements: the state after
each kind of cycle, and the array after a fetched one.
-/

namespace R3000

/-! ### The three ways of a cycle -/

namespace Machine

variable {s : Machine} {w : Word}

/-- What a word does once it is fetched, or why it faults. -/
def effect (s : Machine) (w : Word) : Except Fault Effect :=
  Instruction.effect ⟨w⟩ (s.cpu.advance ⟨w⟩).operands s.memory

theorem effect_of_decode {op : Operation} (h : Instruction.decode ⟨w⟩ = .ok op) :
    s.effect w = op.effect ⟨w⟩ (s.cpu.advance ⟨w⟩).operands s.memory := by
  rw [effect, Instruction.effect, h]

theorem cycle_of_fault {f : Fault} (hw : s.memory.loadWord s.cpu.pc = .ok w)
    (hf : s.effect w = .error f) :
    s.cycle = (.error f, ⟨(s.cpu.advance ⟨w⟩).commit, s.memory⟩) := by
  rw [effect] at hf
  rw [cycle_of_ok hw, execute_eq_perform, hf]
  rfl

theorem cycle_of_effect {e : Effect} (hw : s.memory.loadWord s.cpu.pc = .ok w)
    (he : s.effect w = .ok e) :
    s.cycle = (.ok (), ⟨((s.cpu.advance ⟨w⟩).apply e).commit, s.memory.apply e⟩) := by
  rw [effect] at he
  rw [cycle_of_ok hw, execute_eq_perform, he]
  rfl

/-- A fault after the fetch is one of an operation that is no branch, or of decoding. -/
theorem isBranch_of_fault {f : Fault} (hf : s.effect w = .error f) :
    Instruction.isBranch ⟨w⟩ = false := by
  rw [effect, Instruction.effect] at hf
  rw [Instruction.isBranch]
  cases hop : Instruction.decode ⟨w⟩ with
  | error e => rfl
  | ok op =>
    simp only [hop] at hf ⊢
    cases hb : op.isBranch with
    | false => rfl
    | true =>
      obtain ⟨e, he⟩ := op.exists_effect_of_isBranch hb
      rw [he] at hf
      cases hf

/-- A cycle fails to fetch, faults after the fetch, or succeeds. -/
theorem cycle_cases (s : Machine) :
    (∃ f, s.memory.loadWord s.cpu.pc = .error f ∧ s.cycle = (.error f, s.refuseFetch)) ∨
    (∃ w f, s.memory.loadWord s.cpu.pc = .ok w ∧ s.effect w = .error f ∧
      s.cycle = (.error f, ⟨(s.cpu.advance ⟨w⟩).commit, s.memory⟩)) ∨
    (∃ w e, s.memory.loadWord s.cpu.pc = .ok w ∧ s.effect w = .ok e ∧
      s.cycle = (.ok (), ⟨((s.cpu.advance ⟨w⟩).apply e).commit, s.memory.apply e⟩)) := by
  cases hw : s.memory.loadWord s.cpu.pc with
  | error f => exact .inl ⟨f, rfl, cycle_of_error hw⟩
  | ok w =>
    cases he : s.effect w with
    | error f => exact .inr (.inl ⟨w, f, rfl, he, cycle_of_fault hw he⟩)
    | ok e => exact .inr (.inr ⟨w, e, rfl, he, cycle_of_effect hw he⟩)

/-- The machine after a number of cycles. -/
def cycles (s : Machine) (n : Nat) : Machine := (fun s => s.cycle.2)^[n] s

theorem cycles_succ (s : Machine) (n : Nat) : s.cycles (n + 1) = (s.cycles n).cycle.2 :=
  Function.iterate_succ_apply' ..

/-- What a cycle keeps, every number of cycles keeps. -/
theorem cycles_invariant {P : Machine → Prop} (hP : ∀ s, P s → P s.cycle.2) (hs : P s) (n : Nat) :
    P (s.cycles n) := by
  induction n with
  | zero => exact hs
  | succ n ih =>
    rw [cycles_succ]
    exact hP _ ih

end Machine

/-! ### Registers as one array -/

/-- The general registers as one array. -/
abbrev RegisterArray := Fin 32 → Word

/-- The array with one more write, if there is one. A write to register 0 is dropped. -/
def RegisterArray.put (R : RegisterArray) : Option (Fin 32 × Word) → RegisterArray
  | none => R
  | some (q, v) => fun r => if q ≠ 0 ∧ q = r then v else R r

namespace RegisterArray

variable {R : RegisterArray} {r : Fin 32}

theorem put_same (hr : r ≠ 0) (v : Word) : R.put (some (r, v)) r = v := if_pos ⟨hr, rfl⟩

/-- A register that is not written stays. -/
theorem put_of_ne {w : Option (Fin 32 × Word)} (hw : ∀ v, w ≠ some (r, v)) : R.put w r = R r := by
  cases w with
  | none => rfl
  | some p => exact if_neg fun h => hw p.2 (by rw [← h.2])

theorem put_zero (h : R 0 = 0) (w : Option (Fin 32 × Word)) : R.put w 0 = 0 := by
  cases w with
  | none => exact h
  | some p => exact (if_neg fun hp => hp.1 hp.2).trans h

end RegisterArray

/-- The write that a pending load stands for. -/
def PendingLoad.write (l : PendingLoad) : Fin 32 × Word := (l.target, l.value)

namespace Cpu

/-- Both halves of the register file are equal, and register 0 is zero. -/
structure Coherent (c : Cpu) : Prop where
  staged : c.registers.staged = c.registers.visible
  zero : c.register 0 = 0

/-- The registers once the pending load has arrived. -/
def landed (c : Cpu) : RegisterArray :=
  RegisterArray.put c.register (c.pending.map PendingLoad.write)

/-- What an unaligned load finds in its register: the pending load if that goes there, though it be
    register 0, or else the visible value. -/
def mergeSource (c : Cpu) (r : Fin 32) : Word :=
  match c.pending with
  | some l => if l.target = r then l.value else c.register r
  | none => c.register r

variable {c : Cpu}

theorem mergeSource_of_pending {l : PendingLoad} {r : Fin 32} (hl : c.pending = some l)
    (hr : l.target = r) : c.mergeSource r = l.value := by
  rw [mergeSource, hl]
  exact if_pos hr

theorem mergeSource_of_ne {r : Fin 32} (h : ∀ l, c.pending = some l → l.target ≠ r) :
    c.mergeSource r = c.register r := by
  unfold mergeSource
  split
  next l hl => exact if_neg (h l hl)
  next => rfl

/-- A register that no pending load goes to stays as it is seen. -/
theorem landed_of_ne {r : Fin 32} (h : ∀ l, c.pending = some l → l.target ≠ 0 → l.target ≠ r) :
    c.landed r = c.register r := by
  unfold landed
  cases hl : c.pending with
  | none => rfl
  | some l => exact if_neg fun hr => h l hl hr.1 hr.2

/-- An instruction reads the registers as they are in front of its cycle. -/
theorem register_advance (c : Cpu) (i : Instruction) : (c.advance i).register = c.register := by
  funext r
  rw [register, advance]
  cases c.pending with
  | none => rfl
  | some l => exact RegisterFile.read_write ..

/-- Only an unaligned load also finds the pending load. -/
theorem mergeBase_advance_eq (c : Cpu) (i : Instruction) (r : Fin 32) :
    (c.advance i).mergeBase r = c.mergeSource r := by
  have hcommitted : (c.advance i).committed = c.pending := rfl
  rw [mergeBase, hcommitted, register_advance]
  rfl

/-- What it finds is the register once the load has arrived, except in register 0. -/
theorem mergeSource_eq_landed (c : Cpu) {r : Fin 32} (hr : r ≠ 0) :
    c.mergeSource r = c.landed r := by
  rw [mergeSource, landed]
  cases c.pending with
  | none => rfl
  | some l =>
    by_cases hl : l.target = r
    · have htarget : l.target ≠ 0 ∧ l.target = r := ⟨hl ▸ hr, hl⟩
      exact (if_pos hl).trans (if_pos htarget).symm
    · exact (if_neg hl).trans (if_neg fun h => hl h.2).symm

theorem mergeBase_advance (c : Cpu) (i : Instruction) {r : Fin 32} (hr : r ≠ 0) :
    (c.advance i).mergeBase r = c.landed r := by
  rw [mergeBase_advance_eq, mergeSource_eq_landed c hr]

/-- A cycle that faults after the fetch leaves the registers with the pending load in them. -/
theorem register_commit_advance (hc : c.Coherent) (i : Instruction) :
    (c.advance i).commit.register = c.landed := by
  funext r
  have hr : c.registers.staged[r] = c.register r := by rw [hc.staged]; rfl
  show (c.advance i).registers.staged[r] = c.landed r
  unfold advance landed
  cases c.pending with
  | none => exact hr
  | some l => exact (RegisterFile.staged_write ..).trans (by rw [hr]; rfl)

/-- A cycle that succeeds writes the result of its instruction on top of the pending load. -/
theorem register_commit_apply (hc : c.Coherent) (i : Instruction) (e : Effect) :
    ((c.advance i).apply e).commit.register = c.landed.put e.write := by
  funext r
  have hr : (c.advance i).registers.staged[r] = c.landed r :=
    congrFun (register_commit_advance hc i) r
  unfold apply
  rcases e.write with - | ⟨q, v⟩
  · exact (RegisterFile.read_commit ..).trans hr
  · exact (RegisterFile.staged_write ..).trans (by rw [hr]; rfl)

/-! ### Every reachable processor is coherent -/

theorem coherent_powerOn : powerOn.Coherent := ⟨rfl, RegisterFile.read_zeros 0⟩

theorem landed_zero (hc : c.Coherent) : c.landed 0 = 0 := RegisterArray.put_zero hc.zero _

theorem coherent_setRegister (hc : c.Coherent) (r : Fin 32) (v : Word) :
    (c.setRegister r v).Coherent := by
  constructor
  · unfold setRegister RegisterFile.inject
    split
    next => exact hc.staged
    next => simp only [hc.staged]
  · refine (RegisterFile.read_inject ..).trans ?_
    rw [if_neg fun h => h.1 h.2]
    exact hc.zero

theorem coherent_cycle (s : Machine) (hs : s.cpu.Coherent) : s.cycle.2.cpu.Coherent := by
  obtain ⟨f, -, h⟩ | ⟨w, f, -, -, h⟩ | ⟨w, e, -, -, h⟩ := s.cycle_cases
  · rw [h]
    exact ⟨hs.staged, hs.zero⟩
  · rw [h]
    exact ⟨rfl, (congrFun (register_commit_advance hs _) 0).trans (landed_zero hs)⟩
  · rw [h]
    refine ⟨rfl, (congrFun (register_commit_apply hs _ e) 0).trans ?_⟩
    exact RegisterArray.put_zero (landed_zero hs) _

theorem coherent_cycles {s : Machine} (hs : s.cpu.Coherent) (n : Nat) :
    (s.cycles n).cpu.Coherent := Machine.cycles_invariant coherent_cycle hs n

theorem coherent_call (s : Machine) (x : Machine.Call) (hs : s.cpu.Coherent) :
    (s.call x).2.cpu.Coherent := by
  cases x with
  | cycle => exact coherent_cycle s hs
  | setRegister n v => exact coherent_setRegister hs _ v
  | setControlRegister n v => exact ⟨hs.staged, hs.zero⟩
  | reset => exact coherent_powerOn
  | access x => exact hs

theorem Reachable.coherent (hc : c.Reachable) : c.Coherent := by
  obtain ⟨m, xs, rfl⟩ := hc
  exact Run.after_invariant coherent_call coherent_powerOn xs

end Cpu

/-- An instruction finds the address of its access in front of its cycle. -/
theorem Machine.address_advance (s : Machine) (w : Word) :
    (s.cpu.advance ⟨w⟩).operands.address ⟨w⟩ = s.cpu.operands.address ⟨w⟩ :=
  congrArg (· + Instruction.signedImmediate ⟨w⟩)
    (congrFun (s.cpu.register_advance ⟨w⟩) (Instruction.rs ⟨w⟩))

end R3000
