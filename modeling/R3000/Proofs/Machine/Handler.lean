import R3000.Machine
import R3000.Proofs.Machine.Effect

/-!
Handlers and effects. A handler reads what it needs, faults if it must, and only then changes the
machine. So what its steps leave is what the effect of its operation says: all of the change if it
succeeds, and none of it if it faults. Main statements: `run_handle`, which proves this for the
handler of each operation, and what a cycle leaves.
-/

namespace R3000

/-- Changes a machine as an effect says, or passes a fault on. -/
def Machine.perform (s : Machine) : Except Fault Effect → Except Fault Unit × Machine
  | .ok e => (.ok (), ⟨s.cpu.apply e, s.memory.apply e⟩)
  | .error f => (.error f, s)

namespace Handler

variable (s : Machine) (i : Instruction)

theorem run_ofMemory {α : Type} {f : Memory → Except Fault α} {e : Except Fault α}
    (h : f s.memory = e) : (ofMemory f).run s = (e, s) := congrArg (·, s) h

theorem run_address : (address i).run s = (.ok (s.cpu.operands.address i), s) := rfl

theorem run_isolated : isolated.run s = (.ok s.cpu.operands.isolated, s) := rfl

/-- What is observed ends well, whatever it met. -/
theorem run_observing {α : Type} (h : Handler α) (s : Machine) :
    run (observing h) s = (.ok (h.run s).1, (h.run s).2) := by
  simp only [run, observing, tryCatch, tryCatchThe, MonadExceptOf.tryCatch, ExceptT.tryCatch,
    ExceptT.mk, bind, ExceptT.bind, StateT.bind]
  match h s with
  | (.ok a, t) => rfl
  | (.error f, t) => rfl

/-! ### Branches -/

theorem run_branchIf (condition : Bool) : (branchIf i condition).run s =
    s.perform (.ok (s.cpu.operands.branch i condition)) := by
  cases condition <;> rfl

theorem run_branchOnPair (p : Word → Word → Bool) : (branchOnPair i p).run s =
    s.perform (.ok (s.cpu.operands.branch i (p (s.cpu.register i.rs) (s.cpu.register i.rt)))) :=
  run_branchIf ..

theorem run_branchOnSign (p : Int32 → Bool) : (branchOnSign i p).run s =
    s.perform (.ok (s.cpu.operands.branch i (p (s.cpu.register i.rs).toInt32))) :=
  run_branchIf ..

/-- The condition is read behind the link, and sees the register as it was in front of it. -/
theorem run_link_branchOnSign (r : Fin 32) (p : Int32 → Bool) :
    run (do link r; branchOnSign i p) s =
      s.perform (.ok { s.cpu.operands.branch i (p (s.cpu.register i.rs).toInt32) with
        write := some (r, s.cpu.operands.link) }) := by
  have hlink : (link r).run s = (.ok (), ⟨{ s.cpu with
      registers := s.cpu.registers.write r s.cpu.operands.link }, s.memory⟩) := rfl
  have hregister : Cpu.register { s.cpu with
      registers := s.cpu.registers.write r s.cpu.operands.link } i.rs = s.cpu.register i.rs :=
    RegisterFile.read_write ..
  rw [run_bind_of_ok hlink, run_branchOnSign, hregister]
  cases p (s.cpu.register i.rs).toInt32 <;> rfl

/-! ### Loads -/

/-- What needs a value of the memory changes the machine once it has it. -/
theorem run_ofMemory_bind {α : Type} (f : Memory → Except Fault α) {k : α → Handler Unit}
    {g : α → Effect} (hk : ∀ v, (k v).run s = s.perform (.ok (g v))) :
    run (ofMemory f >>= k) s = s.perform ((f s.memory).map g) := by
  cases h : f s.memory with
  | error e => exact run_bind_of_error (run_ofMemory s h) k
  | ok v => exact (run_bind_of_ok (run_ofMemory s h) k).trans (hk v)

theorem run_load {α : Type} (f : Memory → Word → Except Fault α) (extend : α → Word) :
    (load i f extend).run s = s.perform ((f s.memory (s.cpu.operands.address i)).map fun v =>
      .loading i.rt (extend v)) := by
  rw [load, run_bind_of_ok (run_address s i)]
  exact run_ofMemory_bind s _ fun _ => rfl

theorem run_loadPart (merge : Word → Word → Nat → Word) : (loadPart i merge).run s =
    s.perform ((s.memory.loadWord (s.cpu.operands.address i).aligned).map fun w => .loading i.rt
      (merge (s.cpu.operands.mergeBase i.rt) w (s.cpu.operands.address i).alignment)) := by
  rw [loadPart, run_bind_of_ok (run_address s i)]
  exact run_ofMemory_bind s _ fun _ => rfl

/-! ### Stores -/

/-- A store changes the memory once it has its place. -/
theorem run_onMemory_perform (e : Except Fault Store) :
    (onMemory fun m => m.perform e).run s = s.perform (e.map .storing) := by
  cases e <;> rfl

theorem run_store (g : Word → Word → Except Fault Store) :
    (store i fun m a t => m.perform (g a t)).run s = s.perform (s.cpu.operands.store
      (g (s.cpu.operands.address i) (s.cpu.register i.rt))) := by
  rw [store, run_bind_of_ok (run_address s i), run_bind_of_ok (run_isolated s), Operands.store]
  cases s.cpu.operands.isolated with
  | true => rfl
  | false => exact run_onMemory_perform ..

theorem run_storePart (merge : Word → Word → Nat → Word) : (storePart i merge).run s =
    s.perform (s.cpu.operands.store ((s.memory.loadWord (s.cpu.operands.address i).aligned).bind
      fun w => Store.ofWord (s.cpu.operands.address i).aligned
        (merge w (s.cpu.register i.rt) (s.cpu.operands.address i).alignment))) := by
  rw [storePart, run_bind_of_ok (run_address s i), run_bind_of_ok (run_isolated s), Operands.store]
  cases s.cpu.operands.isolated with
  | true => rfl
  | false =>
    cases h : s.memory.loadWord (s.cpu.operands.address i).aligned with
    | error e => exact run_bind_of_error (run_ofMemory s h) _
    | ok w => exact (run_bind_of_ok (run_ofMemory s h) _).trans (run_onMemory_perform ..)

end Handler

namespace Operation

variable (op : Operation) (i : Instruction) (s : Machine)

/-- What a handler leaves is what the effect of its operation says. -/
theorem run_handle : (op.handle i).run s = s.perform (op.effect i s.cpu.operands s.memory) := by
  cases op with
  | beq | bne => exact Handler.run_branchOnPair ..
  | blez => exact Handler.run_branchOnSign s i (· ≤ 0)
  | bgtz => exact Handler.run_branchOnSign s i (0 < ·)
  | bltz => exact Handler.run_branchOnSign s i (· < 0)
  | bgez => exact Handler.run_branchOnSign s i (0 ≤ ·)
  | bltzal => exact Handler.run_link_branchOnSign s i 31 (· < 0)
  | bgezal => exact Handler.run_link_branchOnSign s i 31 (0 ≤ ·)
  | lb | lbu | lh | lhu | lw => exact Handler.run_load ..
  | lwl => exact Handler.run_loadPart s i Word.loadLeft
  | lwr => exact Handler.run_loadPart s i Word.loadRight
  | sb => exact Handler.run_store s i fun a t => Store.ofByte a t.toUInt8
  | sh => exact Handler.run_store s i fun a t => Store.ofHalf a t.toUInt16
  | sw => exact Handler.run_store s i Store.ofWord
  | swl => exact Handler.run_storePart s i Word.storeLeft
  | swr => exact Handler.run_storePart s i Word.storeRight
  | _ => rfl

/-- A handler that faults leaves the machine as it has found it: it has changed nothing yet. -/
theorem run_handle_of_fault {f : Fault} (h : ((op.handle i).run s).1 = .error f) :
    ((op.handle i).run s).2 = s := by
  rw [run_handle] at h ⊢
  cases he : op.effect i s.cpu.operands s.memory with
  | ok e =>
    rw [he] at h
    cases h
  | error f' => rfl

end Operation

/-! ### What a cycle leaves -/

/-- Whether an instruction decodes to a branch or a jump. -/
def Instruction.isBranch (i : Instruction) : Bool :=
  match i.decode with
  | .ok op => op.isBranch
  | .error _ => false

/-- The processor once the cycle of a fetched instruction has begun: the counters have moved on, the
    pending load has reached its register for the end of the cycle, and the delay slot is noted. -/
def Cpu.advance (c : Cpu) (i : Instruction) : Cpu :=
  { c with
    registers := match c.pending with
      | some l => c.registers.write l.target l.value
      | none => c.registers
    pc := c.nextPc
    nextPc := c.nextPc + 4
    currentPc := c.pc
    pending := none
    committed := c.pending
    inDelaySlot := i.isBranch
    instruction := i }

namespace Machine

/-- The machine after a failed fetch. -/
def refuseFetch (s : Machine) : Machine := { s with cpu.currentPc := s.cpu.pc }

/-- Executes an instruction whose delay slot has been noted. -/
def execute (s : Machine) (i : Instruction) : Except Fault Unit × Machine :=
  Handler.run (do
    let op ← Handler.ofExcept i.decode
    op.handle i) s

/-- Makes the register writes of a cycle visible. -/
def commit (s : Machine) : Machine := { s with cpu := s.cpu.commit }

/-- What a cycle does with a word that it has fetched. -/
def carryOut (s : Machine) (w : Word) : Except Fault Unit × Machine :=
  (Handler.carryOut ⟨w⟩).run s.refuseFetch

variable {s : Machine} {w : Word}

theorem execute_eq_perform (s : Machine) (i : Instruction) :
    s.execute i = s.perform (i.effect s.cpu.operands s.memory) := by
  rw [execute, Instruction.effect]
  cases i.decode with
  | error f => rfl
  | ok op => exact op.run_handle i s

theorem dispatch_eq_execute (s : Machine) (i : Instruction) :
    s.dispatch i = execute { s with cpu.inDelaySlot := i.isBranch } i := by
  rw [dispatch, Handler.dispatch, execute, Instruction.isBranch]
  cases i.decode <;> rfl

theorem run_advance (s : Machine) (i : Instruction) : (Handler.advance i).run s.refuseFetch =
    (.ok (), ⟨{ s.cpu.advance i with inDelaySlot := s.cpu.inDelaySlot }, s.memory⟩) := by
  obtain ⟨⟨registers, pc, nextPc, currentPc, hi, lo, control, pending, committed, inDelaySlot,
    instruction⟩, memory⟩ := s
  cases pending <;> rfl

/-- The end of a cycle comes also behind a fault. -/
theorem carryOut_eq_execute (s : Machine) (w : Word) : s.carryOut w =
    ((execute ⟨s.cpu.advance ⟨w⟩, s.memory⟩ ⟨w⟩).1,
      (execute ⟨s.cpu.advance ⟨w⟩, s.memory⟩ ⟨w⟩).2.commit) := by
  have hdispatch : (Handler.dispatch ⟨w⟩).run
      ⟨{ s.cpu.advance ⟨w⟩ with inDelaySlot := s.cpu.inDelaySlot }, s.memory⟩ =
      execute ⟨s.cpu.advance ⟨w⟩, s.memory⟩ ⟨w⟩ := dispatch_eq_execute ..
  have hobserved := Handler.run_observing (Handler.dispatch ⟨w⟩)
    ⟨{ s.cpu.advance ⟨w⟩ with inDelaySlot := s.cpu.inDelaySlot }, s.memory⟩
  rw [hdispatch] at hobserved
  rw [carryOut, Handler.carryOut, Handler.run_bind_of_ok (run_advance s ⟨w⟩),
    Handler.run_bind_of_ok hobserved]
  rfl

/-- A fetch has moved the current address before it can fail. -/
theorem cycle_eq_fetch (s : Machine) : s.cycle = Handler.run (do
    let w ← Handler.ofMemory (·.loadWord s.cpu.pc)
    Handler.carryOut ⟨w⟩) s.refuseFetch := rfl

theorem cycle_of_error {f : Fault} (h : s.memory.loadWord s.cpu.pc = .error f) :
    s.cycle = (.error f, s.refuseFetch) := by
  rw [cycle_eq_fetch, Handler.run_bind_of_error (Handler.run_ofMemory s.refuseFetch h)]

theorem cycle_eq_carryOut (h : s.memory.loadWord s.cpu.pc = .ok w) : s.cycle = s.carryOut w := by
  rw [cycle_eq_fetch, Handler.run_bind_of_ok (Handler.run_ofMemory s.refuseFetch h)]
  rfl

theorem cycle_of_ok (h : s.memory.loadWord s.cpu.pc = .ok w) :
    s.cycle = ((execute ⟨s.cpu.advance ⟨w⟩, s.memory⟩ ⟨w⟩).1,
      (execute ⟨s.cpu.advance ⟨w⟩, s.memory⟩ ⟨w⟩).2.commit) :=
  (cycle_eq_carryOut h).trans (carryOut_eq_execute s w)

end Machine

end R3000
