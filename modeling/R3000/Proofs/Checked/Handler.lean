import R3000.Proofs.Checked.Memory
import R3000.Proofs.Machine.Handler

/-!
Handlers with a domain. A processor names the registers of loads by plain numbers, an instruction
gives its fields as such, and the registers are read and written at any number; a number of 32 or
more has no result. The handlers take the steps of the machine in their order, each of which may
fault, and may have no result. Main statements: on a processor whose numbers are those of registers,
every instruction decodes, and every handler has a result and does to the machine what its operation
does.
-/

namespace R3000

/-! ### Registers -/

namespace RegisterFile

/-- The value at an index of 32 registers. -/
def get? (v : Vector Word 32) (n : UInt8) : Checked Word :=
  if h : n.toNat < 32 then .ok v[n.toNat] else .error .index

/-- Replaces the value at an index of 32 registers. -/
def set? (v : Vector Word 32) (n : UInt8) (x : Word) : Checked (Vector Word 32) :=
  if h : n.toNat < 32 then .ok (v.set n.toNat x) else .error .index

/-- Writes a register for the end of the cycle. -/
def write? (f : RegisterFile) (n : UInt8) (x : Word) : Checked RegisterFile :=
  if n = 0 then pure f
  else do
    let staged ← set? f.staged n x
    pure { f with staged }

/-- Writes a register at once. -/
def inject? (f : RegisterFile) (n : UInt8) (x : Word) : Checked RegisterFile :=
  if n = 0 then pure f
  else do
    let visible ← set? f.visible n x
    let staged ← set? f.staged n x
    pure ⟨visible, staged⟩

variable (v : Vector Word 32) (f : RegisterFile) (r s : Fin 32) (x : Word)

theorem number_inj {r s : Fin 32} : number r = number s ↔ r = s := by
  refine ⟨fun h => Fin.ext ?_, congrArg number⟩
  rw [← toNat_number, h, toNat_number]

/-- The low five bits of a number are the number of the register that they select. -/
theorem number_index (n : UInt8) : number (index n.toNat) = n &&& 0x1F := by
  have hand : n.toNat &&& 31 = n.toNat % 32 := Nat.and_two_pow_sub_one_eq_mod n.toNat 5
  apply UInt8.toNat_inj.1
  rw [toNat_number, UInt8.toNat_and]
  exact hand.symm

theorem index_number : index (number r).toNat = r := by
  rw [toNat_number]
  exact Fin.ofNat_val_eq_self r

theorem get?_number : get? v (number r) = pure (v.get r) := by
  have hr := toNat_number r
  rw [get?, dif_pos (by omega)]
  simp only [hr]
  rfl

theorem set?_number : set? v (number r) x = pure (v.set r x r.isLt) := by
  have hr := toNat_number r
  rw [set?, dif_pos (by omega)]
  simp only [hr]
  rfl

theorem write?_number : f.write? (number r) x = pure (f.write r x) := by
  have hzero : number r = 0 ↔ r = 0 := number_inj (s := 0)
  simp only [write?, write, hzero, set?_number, pure_bind]
  split <;> rfl

theorem inject?_number : f.inject? (number r) x = pure (f.inject r x) := by
  have hzero : number r = 0 ↔ r = 0 := number_inj (s := 0)
  simp only [inject?, inject, hzero, set?_number, pure_bind]
  split <;> rfl

end RegisterFile

/-! ### Decoding -/

namespace Instruction

/-- The operation that an instruction asks for. -/
def decode? (i : Instruction) : Checked (Except Fault Operation) := do
  let opcode ← i.field? 26 6
  let f ← i.fields?
  let function := (i.word &&& 0x3F).toUInt8.toNat
  pure <| match opcode.toNat with
    | 0x00 =>
      Operation.orFault (Operation.ofSpecial? function) (.invalidSpecialFunction function i.word)
    | 0x01 =>
      Operation.orFault (Operation.ofRegimm? f.rt.toNat) (.invalidRegimm f.rt.toNat i.word)
    | 0x10 =>
      Operation.orFault (Operation.ofControl? f.rs.toNat)
        (.invalidControlOperation f.rs.toNat i.word)
    | o => Operation.orFault (Operation.ofOpcode? o) (.invalidOpcode o i.word)

theorem decode?_eq (i : Instruction) : i.decode? = pure i.decode := by
  have hopcode : i.field? 26 6 = pure (UInt8.ofNat i.opcode.val) :=
    i.field?_eq (by decide) (by decide)
  have hnumber : (UInt8.ofNat i.opcode.val).toNat = i.opcode.val := by
    have h := i.opcode.isLt
    rw [UInt8.toNat_ofNat']
    omega
  have hfunction : (i.word &&& 0x3F).toUInt8.toNat = i.function.val := by
    have hand : i.word.toNat &&& 63 = i.word.toNat % 64 :=
      Nat.and_two_pow_sub_one_eq_mod i.word.toNat 6
    rw [UInt32.toNat_toUInt8, UInt32.toNat_and, function_val]
    exact (congrArg (· % 2 ^ 8) hand).trans (by omega)
  simp only [decode?, hopcode, fields?_eq, fields, pure_bind, hnumber, hfunction,
    RegisterFile.toNat_number]
  rfl

end Instruction

/-! ### Operands -/

/-- A load whose register is a plain number. -/
def PendingLoad.raw (l : PendingLoad) : UInt8 × Word := (RegisterFile.number l.target, l.value)

/-- The state of the processor, with the registers of loads as plain numbers. -/
structure RawCpu where
  registers : RegisterFile
  pc : Word
  nextPc : Word
  currentPc : Word
  hi : Word
  lo : Word
  control : ControlRegisters
  pending : Option (UInt8 × Word)
  committed : Option (UInt8 × Word)
  inDelaySlot : Bool
  instruction : Instruction

/-- A processor in plain numbers. -/
def Cpu.raw (c : Cpu) : RawCpu where
  registers := c.registers
  pc := c.pc
  nextPc := c.nextPc
  currentPc := c.currentPc
  hi := c.hi
  lo := c.lo
  control := c.control
  pending := c.pending.map PendingLoad.raw
  committed := c.committed.map PendingLoad.raw
  inDelaySlot := c.inDelaySlot
  instruction := c.instruction

namespace RawCpu

/-- The visible value of the register that the low five bits of a number select. -/
def register? (c : RawCpu) (n : UInt8) : Checked Word :=
  RegisterFile.get? c.registers.visible (n &&& 0x1F)

/-- The value that an unaligned load merges with. -/
def mergeBase? (c : RawCpu) (n : UInt8) : Checked Word :=
  match c.committed with
  | some (r, v) => if r = n then pure v else c.register? n
  | none => c.register? n

/-- Whether the status register keeps stores from memory. -/
def isolated? (c : RawCpu) : Checked Bool := do
  let status ← RegisterFile.get? c.control 12
  pure (StatusFlag.isolateCache.isSet status)

variable (c : Cpu) (r : Fin 32)

theorem register?_number : c.raw.register? (RegisterFile.number r) = pure (c.register r) := by
  rw [register?, ← RegisterFile.number_index, RegisterFile.index_number]
  exact RegisterFile.get?_number ..

theorem mergeBase?_number : c.raw.mergeBase? (RegisterFile.number r) = pure (c.mergeBase r) := by
  have hcommitted : c.raw.committed = c.committed.map PendingLoad.raw := rfl
  rw [mergeBase?, Cpu.mergeBase, hcommitted]
  cases c.committed with
  | none => exact register?_number ..
  | some l =>
    simp only [Option.map_some, PendingLoad.raw, RegisterFile.number_inj, register?_number]
    split <;> rfl

theorem isolated?_raw :
    c.raw.isolated? = pure (StatusFlag.isolateCache.isSet c.status) := by
  have hstatus : RegisterFile.get? c.raw.control 12 = pure c.status :=
    RegisterFile.get?_number c.control ControlRegisters.status
  rw [isolated?, hstatus, pure_bind]

end RawCpu

/-! ### Handlers -/

/-- A processor and its memory, in plain numbers. -/
structure RawMachine where
  cpu : RawCpu
  memory : RawMemory

/-- A machine in plain numbers. -/
def Machine.raw (s : Machine) : RawMachine := ⟨s.cpu.raw, s.memory.raw⟩

/-- What acts on a machine in plain numbers, may fault on the way, and may have no result. -/
abbrev RawHandler (α : Type) := ExceptT Fault (StateT RawMachine Checked) α

namespace RawHandler

variable {α β : Type}

/-- How a handler ends, and the machine that it leaves. -/
def run? (h : RawHandler α) (s : RawMachine) : Checked (Except Fault α × RawMachine) := h s

/-- Goes on with a result that there may be. -/
def ofChecked (v : Checked α) : RawHandler α := fun s => do
  let a ← v
  pure (.ok a, s)

/-- Goes on with a result, or ends with a fault. -/
def ofExcept (e : Except Fault α) : RawHandler α := fun s => pure (e, s)

/-- Reads the processor. -/
def ofCpu (f : RawCpu → Checked α) : RawHandler α := fun s => do
  let a ← f s.cpu
  pure (.ok a, s)

/-- Changes the processor. -/
def onCpu (f : RawCpu → Checked RawCpu) : RawHandler Unit := fun s => do
  let cpu ← f s.cpu
  pure (.ok (), { s with cpu })

/-- Reads the memory. -/
def ofMemory (f : RawMemory → Attempt α) : RawHandler α := fun s => do
  let result ← (f s.memory).run
  pure (result, s)

/-- Acts on the memory. -/
def onMemory (f : RawMemory → Checked (Except Fault α × RawMemory)) : RawHandler α := fun s => do
  let (result, memory) ← f s.memory
  pure (result, { s with memory })

theorem run?_bind (h : RawHandler α) (k : α → RawHandler β) (s : RawMachine) :
    run? (h >>= k) s = h.run? s >>= fun p => ExceptT.bindCont k p.1 p.2 := rfl

/-- A handler in plain numbers that has a result on every machine, and does what a handler does. -/
def Simulates (h? : RawHandler α) (h : Handler α) : Prop :=
  ∀ s : Machine, h?.run? s.raw = pure ((h.run s).map id Machine.raw)

namespace Simulates

variable {h? : RawHandler α} {h : Handler α} {k? : α → RawHandler β} {k : α → Handler β}

theorem pure (a : α) : Simulates (pure a) (pure a) := fun _ => rfl

theorem throw (f : Fault) : Simulates (α := α) (throw f) (throw f) := fun _ => rfl

theorem bind (hh : Simulates h? h) (hk : ∀ a, Simulates (k? a) (k a)) :
    Simulates (h? >>= k?) (h >>= k) := by
  intro s
  rw [run?_bind, hh s, pure_bind]
  match hs : h.run s with
  | (.ok a, t) =>
    rw [Handler.run_bind_of_ok hs]
    exact hk a t
  | (.error f, t) =>
    rw [Handler.run_bind_of_error hs]
    rfl

/-- A result that there is can be taken for granted. -/
theorem ofChecked {v : Checked α} {a : α} {h : Handler β} (hv : v = Pure.pure a)
    (hk : Simulates (k? a) h) : Simulates (RawHandler.ofChecked v >>= k?) h := by
  rw [hv]
  exact hk

theorem ofExcept (e : Except Fault α) : Simulates (RawHandler.ofExcept e) (Handler.ofExcept e) :=
  fun _ => rfl

theorem ofCpu {f? : RawCpu → Checked α} {f : Cpu → α} (hf : ∀ c : Cpu, f? c.raw = Pure.pure (f c)) :
    Simulates (RawHandler.ofCpu f?) (Handler.ofCpu f) := by
  intro s
  have hs : f? s.raw.cpu = Pure.pure (f s.cpu) := hf s.cpu
  rw [run?, RawHandler.ofCpu, hs]
  rfl

theorem onCpu {f? : RawCpu → Checked RawCpu} {f : Cpu → Cpu}
    (hf : ∀ c : Cpu, f? c.raw = Pure.pure (f c).raw) :
    Simulates (RawHandler.onCpu f?) (Handler.onCpu f) := by
  intro s
  have hs : f? s.raw.cpu = Pure.pure (f s.cpu).raw := hf s.cpu
  rw [run?, RawHandler.onCpu, hs]
  rfl

theorem ofMemory {f? : RawMemory → Attempt α} {f : Memory → Except Fault α}
    (hf : ∀ m : Memory, f? m.raw = .of (f m)) :
    Simulates (RawHandler.ofMemory f?) (Handler.ofMemory f) := by
  intro s
  have hs : f? s.raw.memory = .of (f s.memory) := hf s.memory
  rw [run?, RawHandler.ofMemory, hs]
  rfl

theorem onMemory {f? : RawMemory → Checked (Except Fault α × RawMemory)}
    {f : Memory → Except Fault α × Memory}
    (hf : ∀ m : Memory, f? m.raw = Pure.pure ((f m).map id Memory.raw)) :
    Simulates (RawHandler.onMemory f?) (Handler.onMemory f) := by
  intro s
  have hs : f? s.raw.memory = Pure.pure ((f s.memory).map id Memory.raw) := hf s.memory
  rw [run?, RawHandler.onMemory, hs]
  rfl

/-- Both observe the same. -/
theorem observed (hh : Simulates h? h) : Simulates (observing h?) (observing h) := by
  intro s
  have hobserve : run? (observing h?) s.raw =
      h?.run? s.raw >>= fun p => Pure.pure (.ok p.1, p.2) := by
    simp only [run?, observing, tryCatch, tryCatchThe, MonadExceptOf.tryCatch, ExceptT.tryCatch,
      ExceptT.mk, Bind.bind, ExceptT.bind, StateT.bind]
    cases h? s.raw with
    | error cause => rfl
    | ok p =>
      obtain ⟨_ | _, t⟩ := p <;> rfl
  rw [hobserve, hh s, pure_bind, Handler.run_observing]
  rfl

end Simulates

/-! ### Steps -/

/-- The visible value of a general register. -/
def register (n : UInt8) : RawHandler Word := ofCpu fun c => c.register? n

/-- Writes a general register for the end of the cycle. -/
def write (n : UInt8) (v : Word) : RawHandler Unit := onCpu fun c => do
  let registers ← c.registers.write? n v
  pure { c with registers }

/-- Puts a value on its way to a general register. -/
def delay (n : UInt8) (v : Word) : RawHandler Unit :=
  onCpu fun c => pure { c with pending := some (n, v) }

/-- Writes the high word of products and quotients. -/
def writeHi (v : Word) : RawHandler Unit := onCpu fun c => pure { c with hi := v }

/-- Writes the low word of products and quotients. -/
def writeLo (v : Word) : RawHandler Unit := onCpu fun c => pure { c with lo := v }

/-- The address behind the delay slot. -/
def nextPc : RawHandler Word := ofCpu fun c => pure c.nextPc

/-- Moves the address behind the delay slot. -/
def goTo (a : Word) : RawHandler Unit := onCpu fun c => pure { c with nextPc := a }

/-- Writes the address to which a linking jump returns. -/
def link (n : UInt8) : RawHandler Unit := do
  let next ← nextPc
  write n (next + 4)

/-- Whether the status register keeps stores from memory. -/
def isolated : RawHandler Bool := ofCpu RawCpu.isolated?

variable (i : Instruction) (f : Fields)

/-- The address that a load or a store names. -/
def address : RawHandler Word := do
  let base ← register f.rs
  return base + i.signedImmediate

section

variable (r : Fin 32) (v : Word)

theorem simulates_register :
    Simulates (register (RegisterFile.number r)) (Handler.register r) :=
  .ofCpu fun c => RawCpu.register?_number c r

theorem simulates_write : Simulates (write (RegisterFile.number r) v) (Handler.write r v) := by
  refine .onCpu fun c => ?_
  have hwrite : c.raw.registers.write? (RegisterFile.number r) v = pure (c.registers.write r v) :=
    RegisterFile.write?_number ..
  rw [hwrite]
  rfl

/-- No other number has a register to write. -/
theorem run?_write_of_le {n : UInt8} (hn : 32 ≤ n.toNat) (v : Word) (s : RawMachine) :
    (write n v).run? s = .error .index := by
  have hset : RegisterFile.set? s.cpu.registers.staged n v = .error .index := dif_neg (by omega)
  have hzero : n ≠ 0 := by
    rintro rfl
    exact absurd hn (by decide)
  rw [run?, write, onCpu, RegisterFile.write?, if_neg hzero, hset]
  rfl

theorem simulates_delay : Simulates (delay (RegisterFile.number r) v) (Handler.delay r v) :=
  .onCpu fun _ => rfl

theorem simulates_writeHi : Simulates (writeHi v) (Handler.writeHi v) := .onCpu fun _ => rfl

theorem simulates_writeLo : Simulates (writeLo v) (Handler.writeLo v) := .onCpu fun _ => rfl

theorem simulates_nextPc : Simulates nextPc (Handler.ofCpu Cpu.nextPc) := .ofCpu fun _ => rfl

theorem simulates_goTo : Simulates (goTo v) (Handler.goTo v) := .onCpu fun _ => rfl

theorem simulates_link : Simulates (link (RegisterFile.number r)) (Handler.link r) :=
  simulates_nextPc.bind fun _ => simulates_write r _

theorem simulates_isolated : Simulates isolated Handler.isolated := .ofCpu RawCpu.isolated?_raw

theorem simulates_address : Simulates (address i i.fields) (Handler.address i) :=
  (simulates_register i.rs).bind fun _ => .pure _

end

/-! ### Calculations -/

/-- Shifts a register by a constant. -/
def shift (g : Word → Nat → Checked Word) : RawHandler Unit := do
  let t ← register f.rt
  let v ← ofChecked (g t f.shiftAmount.toNat)
  write f.rd v

/-- Makes one register of two. -/
def combine (g : Word → Word → Checked Word) : RawHandler Unit := do
  let s ← register f.rs
  let t ← register f.rt
  let v ← ofChecked (g s t)
  write f.rd v

/-- Makes one register of another. -/
def transform (g : Word → Word) : RawHandler Unit := do
  let s ← register f.rs
  write f.rt (g s)

/-- Makes a high and a low word of two registers. -/
def combinePair (g : Word → Word → Checked HiLo) : RawHandler Unit := do
  let s ← register f.rs
  let t ← register f.rt
  let p ← ofChecked (g s t)
  writeLo p.lo
  writeHi p.hi

theorem simulates_shift {g? : Word → Nat → Checked Word} {g : Word → Fin 32 → Word}
    (hg : ∀ t (n : Fin 32), g? t n = pure (g t n)) :
    Simulates (shift i.fields g?) (Handler.shift i g) := by
  refine (simulates_register i.rt).bind fun t => .ofChecked ?_ (simulates_write i.rd _)
  have hamount : i.fields.shiftAmount.toNat = i.shiftAmount := RegisterFile.toNat_number _
  rw [hamount, hg]

theorem simulates_combine {g? : Word → Word → Checked Word} {g : Word → Word → Word}
    (hg : ∀ s t, g? s t = pure (g s t)) :
    Simulates (combine i.fields g?) (Handler.combine i g) :=
  (simulates_register i.rs).bind fun s => (simulates_register i.rt).bind fun t =>
    .ofChecked (hg s t) (simulates_write i.rd _)

theorem simulates_transform (g : Word → Word) :
    Simulates (transform i.fields g) (Handler.transform i g) :=
  (simulates_register i.rs).bind fun _ => simulates_write i.rt _

theorem simulates_combinePair {g? : Word → Word → Checked HiLo} {g : Word → Word → HiLo}
    (hg : ∀ s t, g? s t = pure (g s t)) :
    Simulates (combinePair i.fields g?) (Handler.combinePair i g) :=
  (simulates_register i.rs).bind fun s => (simulates_register i.rt).bind fun t =>
    .ofChecked (hg s t) ((simulates_writeLo _).bind fun _ => simulates_writeHi _)

/-! ### Jumps and branches -/

/-- Jumps within the current quarter of a gigabyte. -/
def jump : RawHandler Unit := do
  let next ← nextPc
  let t ← ofChecked (i.target.shiftLeft? 2)
  goTo ((next &&& (0xF0000000 : Word)) ||| t)

/-- Branches if a condition holds. -/
def branchIf (condition : Bool) : RawHandler Unit := do
  if condition then
    let next ← nextPc
    let d ← ofChecked (i.signedImmediate.shiftLeft? 2)
    goTo (next + d)

/-- Branches on a comparison of two registers. -/
def branchOnPair (p : Word → Word → Bool) : RawHandler Unit := do
  let s ← register f.rs
  let t ← register f.rt
  branchIf i (p s t)

/-- Branches on the sign of a register. -/
def branchOnSign (p : Int32 → Bool) : RawHandler Unit := do
  let s ← register f.rs
  branchIf i (p s.toInt32)

theorem simulates_jump : Simulates (jump i) (Handler.jump i) :=
  simulates_nextPc.bind fun _ => .ofChecked rfl (simulates_goTo _)

theorem simulates_branchIf (condition : Bool) :
    Simulates (branchIf i condition) (Handler.branchIf i condition) := by
  cases condition with
  | false => exact .pure ()
  | true => exact simulates_nextPc.bind fun _ => .ofChecked rfl (simulates_goTo _)

theorem simulates_branchOnPair (p : Word → Word → Bool) :
    Simulates (branchOnPair i i.fields p) (Handler.branchOnPair i p) :=
  (simulates_register i.rs).bind fun _ => (simulates_register i.rt).bind fun _ =>
    simulates_branchIf i _

theorem simulates_branchOnSign (p : Int32 → Bool) :
    Simulates (branchOnSign i i.fields p) (Handler.branchOnSign i p) :=
  (simulates_register i.rs).bind fun _ => simulates_branchIf i _

/-! ### Loads and stores -/

/-- Loads a register. -/
def load (access : RawMemory → Word → Attempt α) (extend : α → Word) : RawHandler Unit := do
  let a ← address i f
  let v ← ofMemory (access · a)
  delay f.rt (extend v)

/-- Loads a part of a register, and merges it with the rest. -/
def loadPart (merge : Word → Word → Nat → Checked Word) : RawHandler Unit := do
  let a ← address i f
  let w ← ofMemory (·.loadWord? a.aligned)
  let current ← ofCpu (·.mergeBase? f.rt)
  let v ← ofChecked (merge current w a.alignment)
  delay f.rt v

/-- Stores a register, unless the cache is isolated. -/
def store (access : RawMemory → Word → Word → Attempt RawStore) : RawHandler Unit := do
  let a ← address i f
  if ← isolated then return
  let t ← register f.rt
  onMemory fun m => m.perform? (access m a t)

/-- Stores a part of a register, unless the cache is isolated: reads the aligned word, merges the
    part into it and writes it back. -/
def storePart (merge : Word → Word → Nat → Checked Word) : RawHandler Unit := do
  let a ← address i f
  if ← isolated then return
  let w ← ofMemory (·.loadWord? a.aligned)
  let t ← register f.rt
  let v ← ofChecked (merge w t a.alignment)
  onMemory fun m => m.perform? (m.storeWord? a.aligned v)

theorem simulates_load {access? : RawMemory → Word → Attempt α}
    {access : Memory → Word → Except Fault α} (extend : α → Word)
    (h : ∀ m a, access? (Memory.raw m) a = .of (access m a)) :
    Simulates (load i i.fields access? extend) (Handler.load i access extend) :=
  (simulates_address i).bind fun a => (Simulates.ofMemory (h · a)).bind fun _ =>
    simulates_delay i.rt _

theorem simulates_loadPart {merge? : Word → Word → Nat → Checked Word}
    {merge : Word → Word → Nat → Word} (h : ∀ x y k, merge? x y k = pure (merge x y k)) :
    Simulates (loadPart i i.fields merge?) (Handler.loadPart i merge) :=
  (simulates_address i).bind fun a =>
    (Simulates.ofMemory (RawMemory.loadWord?_raw · a.aligned)).bind fun _ =>
    (Simulates.ofCpu (RawCpu.mergeBase?_number · i.rt)).bind fun _ =>
      .ofChecked (h ..) (simulates_delay i.rt _)

/-- A store whose place is found is carried out. -/
theorem simulates_perform {s? : RawMemory → Attempt RawStore} {s : Except Fault Store}
    (h : ∀ m, s? (Memory.raw m) = .of (s.map Store.raw)) :
    Simulates (onMemory fun m => m.perform? (s? m)) (Handler.onMemory fun m => m.perform s) :=
  .onMemory fun m => RawMemory.perform?_raw m (h m)

theorem simulates_store {access? : RawMemory → Word → Word → Attempt RawStore}
    {access : Word → Word → Except Fault Store}
    (h : ∀ m a t, access? (Memory.raw m) a t = .of ((access a t).map Store.raw)) :
    Simulates (store i i.fields access?) (Handler.store i fun m a t => m.perform (access a t)) := by
  refine (simulates_address i).bind fun a => simulates_isolated.bind fun b => ?_
  cases b with
  | true => exact .pure ()
  | false => exact (simulates_register i.rt).bind fun t => simulates_perform (h · a t)

theorem simulates_storePart {merge? : Word → Word → Nat → Checked Word}
    {merge : Word → Word → Nat → Word} (h : ∀ x y k, merge? x y k = pure (merge x y k)) :
    Simulates (storePart i i.fields merge?) (Handler.storePart i merge) := by
  refine (simulates_address i).bind fun a => simulates_isolated.bind fun b => ?_
  cases b with
  | true => exact .pure ()
  | false =>
    refine (Simulates.ofMemory (RawMemory.loadWord?_raw · a.aligned)).bind fun w =>
      (simulates_register i.rt).bind fun t => .ofChecked (h ..) ?_
    exact simulates_perform (RawMemory.storeWord?_raw · a.aligned _)

end RawHandler

open RawHandler in
/-- What an operation does to a machine. -/
def Operation.handle? (op : Operation) (i : Instruction) : RawHandler Unit := do
  let f ← ofChecked i.fields?
  match op with
  -- shifts
  | .sll => shift f Word.shiftLeft?
  | .srl => shift f Word.shiftRight?
  | .sra => shift f Word.shiftRightSigned?
  | .sllv => combine f fun s t => t.shiftLeft? (s &&& 0x1F).toNat
  | .srlv => combine f fun s t => t.shiftRight? (s &&& 0x1F).toNat
  | .srav => combine f fun s t => t.shiftRightSigned? (s &&& 0x1F).toNat
  -- arithmetic and comparison
  | .add | .addu => combine f fun s t => pure (s + t)
  | .sub | .subu => combine f fun s t => pure (s - t)
  | .addi | .addiu => transform f (· + i.signedImmediate)
  | .slt => combine f fun s t => pure (.ofBool (s.toInt32 < t.toInt32))
  | .sltu => combine f fun s t => pure (.ofBool (s < t))
  | .slti => transform f fun s => .ofBool (s.toInt32 < i.signedImmediate.toInt32)
  | .sltiu => transform f fun s => .ofBool (s < i.signedImmediate)
  -- logic
  | .and => combine f fun s t => pure (s &&& t)
  | .or => combine f fun s t => pure (s ||| t)
  | .xor => combine f fun s t => pure (s ^^^ t)
  | .nor => combine f fun s t => pure (~~~(s ||| t))
  | .andi => transform f (· &&& i.immediate)
  | .ori => transform f (· ||| i.immediate)
  | .xori => transform f (· ^^^ i.immediate)
  | .lui => do write f.rt (← ofChecked (i.immediate.shiftLeft? 16))
  -- products and quotients
  | .mult => combinePair f HiLo.multiplySigned?
  | .multu => combinePair f HiLo.multiply?
  | .div => combinePair f HiLo.divideSigned?
  | .divu => combinePair f HiLo.divide?
  | .mfhi => do write f.rd (← ofCpu fun c => pure c.hi)
  | .mflo => do write f.rd (← ofCpu fun c => pure c.lo)
  | .mthi => do writeHi (← register f.rs)
  | .mtlo => do writeLo (← register f.rs)
  -- jumps and branches
  | .j => jump i
  | .jal => do
    link 31
    jump i
  | .jr => do goTo (← register f.rs)
  | .jalr => do
    let target ← register f.rs
    link f.rd
    goTo target
  | .beq => branchOnPair i f (· == ·)
  | .bne => branchOnPair i f (· != ·)
  | .blez => branchOnSign i f (· ≤ 0)
  | .bgtz => branchOnSign i f (0 < ·)
  | .bltz => branchOnSign i f (· < 0)
  | .bgez => branchOnSign i f (0 ≤ ·)
  | .bltzal => do
    link 31
    branchOnSign i f (· < 0)
  | .bgezal => do
    link 31
    branchOnSign i f (0 ≤ ·)
  -- loads
  | .lb => load i f RawMemory.loadByte? .ofSignedByte
  | .lbu => load i f RawMemory.loadByte? UInt8.toUInt32
  | .lh => load i f RawMemory.loadHalf? .ofSignedHalf
  | .lhu => load i f RawMemory.loadHalf? UInt16.toUInt32
  | .lw => load i f RawMemory.loadWord? id
  | .lwl => loadPart i f Word.loadLeft?
  | .lwr => loadPart i f Word.loadRight?
  -- stores
  | .sb => store i f fun m a t => m.storeByte? a t.toUInt8
  | .sh => store i f fun m a t => m.storeHalf? a t.toUInt16
  | .sw => store i f RawMemory.storeWord?
  | .swl => storePart i f Word.storeLeft?
  | .swr => storePart i f Word.storeRight?
  -- coprocessors and traps
  | .mfc0 => do delay f.rt (← ofCpu fun c => RegisterFile.get? c.control f.rd)
  | .mtc0 => do
    let t ← register f.rt
    onCpu fun c => do
      let control ← RegisterFile.set? c.control f.rd t
      pure { c with control }
  | .cfc0 | .ctc0 => throw (.noControlRegisters i.word)
  | .cop2 => throw (.notImplemented .geometry i.word)
  | .syscall => throw (.notImplemented .syscall i.word)
  | .breakpoint => throw (.notImplemented .breakpoint i.word)

open RawHandler in
/-- Every handler has a result, and does what its operation does. -/
theorem Operation.simulates_handle (op : Operation) (i : Instruction) :
    Simulates (op.handle? i) (op.handle i) := by
  refine .ofChecked i.fields?_eq ?_
  cases op with
  | sll => exact simulates_shift i Word.shiftLeft?_val
  | srl => exact simulates_shift i Word.shiftRight?_val
  | sra => exact simulates_shift i Word.shiftRightSigned?_val
  | sllv =>
    refine simulates_combine i fun s t => ?_
    rw [Word.toNat_and_eq_places, Word.shiftLeft?_val]
  | srlv =>
    refine simulates_combine i fun s t => ?_
    rw [Word.toNat_and_eq_places, Word.shiftRight?_val]
  | srav =>
    refine simulates_combine i fun s t => ?_
    rw [Word.toNat_and_eq_places, Word.shiftRightSigned?_val]
  | add | addu | sub | subu | slt | sltu | and | or | xor | nor =>
    exact simulates_combine i fun _ _ => rfl
  | addi | addiu | slti | sltiu | andi | ori | xori => exact simulates_transform i _
  | lui => exact .ofChecked rfl (simulates_write i.rt _)
  | mult => exact simulates_combinePair i HiLo.multiplySigned?_eq
  | multu => exact simulates_combinePair i HiLo.multiply?_eq
  | div => exact simulates_combinePair i HiLo.divideSigned?_eq
  | divu => exact simulates_combinePair i HiLo.divide?_eq
  | mfhi | mflo => exact (Simulates.ofCpu fun _ => rfl).bind fun _ => simulates_write i.rd _
  | mthi => exact (simulates_register i.rs).bind fun _ => simulates_writeHi _
  | mtlo => exact (simulates_register i.rs).bind fun _ => simulates_writeLo _
  | j => exact simulates_jump i
  | jal => exact (simulates_link 31).bind fun _ => simulates_jump i
  | jr => exact (simulates_register i.rs).bind fun _ => simulates_goTo _
  | jalr =>
    exact (simulates_register i.rs).bind fun _ =>
      (simulates_link i.rd).bind fun _ => simulates_goTo _
  | beq | bne => exact simulates_branchOnPair i _
  | blez | bgtz | bltz | bgez => exact simulates_branchOnSign i _
  | bltzal | bgezal => exact (simulates_link 31).bind fun _ => simulates_branchOnSign i _
  | lb | lbu => exact simulates_load i _ RawMemory.loadByte?_raw
  | lh | lhu => exact simulates_load i _ RawMemory.loadHalf?_raw
  | lw => exact simulates_load i _ RawMemory.loadWord?_raw
  | lwl => exact simulates_loadPart i Word.loadLeft?_eq
  | lwr => exact simulates_loadPart i Word.loadRight?_eq
  | sb => exact simulates_store i fun m a t => RawMemory.storeByte?_raw m a t.toUInt8
  | sh => exact simulates_store i fun m a t => RawMemory.storeHalf?_raw m a t.toUInt16
  | sw => exact simulates_store i RawMemory.storeWord?_raw
  | swl => exact simulates_storePart i Word.storeLeft?_eq
  | swr => exact simulates_storePart i Word.storeRight?_eq
  | mfc0 =>
    refine (Simulates.ofCpu fun c => ?_).bind fun _ => simulates_delay i.rt _
    exact RegisterFile.get?_number ..
  | mtc0 =>
    refine (simulates_register i.rt).bind fun t => .onCpu fun c => ?_
    have hset : RegisterFile.set? c.raw.control (RegisterFile.number i.rd) t =
        pure (c.control.set i.rd t) := RegisterFile.set?_number ..
    rw [Instruction.fields, hset]
    rfl
  | cfc0 | ctc0 | cop2 | syscall | breakpoint => exact .throw _

end R3000
