import R3000.Proofs.Checked.Handler
import R3000.Proofs.Cycle
import R3000.Proofs.Memory.Flat

/-!
The machine with a domain: its cycle and its calls are made of operations each of which may have no
result, on buffers of any length and on loads to any number. A machine is sound if its loads go to
registers and its buffers have the lengths of their regions; these machines are exactly the
processors in front of memories, in plain numbers. Main statements: on a sound machine every call
has a result, the answer and the state that the machine has itself; so have all machines that calls
lead to from power-on, whichever memory is put in front of whichever processor on the way.
-/

namespace R3000

/-! ### Memory -/

namespace RawMemory

/-- Clears everything but the BIOS. -/
def reset (m : RawMemory) : RawMemory := fun r =>
  if r = .bios then m r else repeatedByte (m r).size 0

/-- The memory at power-on: an image of at most the BIOS size, filled up with zeros. -/
def ofImage (image : ByteArray) : Except Error RawMemory :=
  if image.size ≤ Region.bios.size then
    .ok fun r => (if r = .bios then image ++ repeatedByte (r.size - image.size) 0
      else repeatedByte r.size 0)
  else .error (.biosTooLarge image.size)

/-- Carries out an access. -/
def access? (m : RawMemory) : Memory.Access → Checked (Answer × RawMemory)
  | .loadByte a => do
    let v ← (m.loadByte? a).run
    pure (v.map fun v => some v.toNat, m)
  | .loadHalf a => do
    let v ← (m.loadHalf? a).run
    pure (v.map fun v => some v.toNat, m)
  | .loadWord a => do
    let v ← (m.loadWord? a).run
    pure (v.map fun v => some v.toNat, m)
  | .storeByte a v => do
    let (result, m) ← m.perform? (m.storeByte? a v)
    pure (.ofUnit result, m)
  | .storeHalf a v => do
    let (result, m) ← m.perform? (m.storeHalf? a v)
    pure (.ofUnit result, m)
  | .storeWord a v => do
    let (result, m) ← m.perform? (m.storeWord? a v)
    pure (.ofUnit result, m)
  | .reset => pure (.ok none, m.reset)

theorem reset_raw (m : Memory) : m.raw.reset = m.reset.raw := by
  have hsize (r : Region) : (m.raw r).size = r.size := (m.buffer r).size_bytes
  funext r
  rw [reset, hsize]
  cases r <;> rfl

theorem ofImage_eq (image : ByteArray) : ofImage image = (Memory.ofImage image).map Memory.raw := by
  unfold ofImage Memory.ofImage
  by_cases h : image.size ≤ Region.bios.size
  · rw [if_pos h, dif_pos h]
    apply congrArg Except.ok
    funext r
    cases r <;> rfl
  · rw [if_neg h, dif_neg h]
    rfl

theorem exists_raw_of_ofImage {image : ByteArray} {m : RawMemory} (h : ofImage image = .ok m) :
    ∃ m' : Memory, m'.raw = m := by
  rw [ofImage_eq] at h
  cases hm : Memory.ofImage image with
  | error e =>
    rw [hm] at h
    cases h
  | ok m' =>
    rw [hm] at h
    exact ⟨m', Except.ok.inj h⟩

theorem access?_raw (m : Memory) (x : Memory.Access) :
    m.raw.access? x = pure ((m.access x).map id Memory.raw) := by
  cases x with
  | loadByte a => rw [access?, loadByte?_raw]; rfl
  | loadHalf a => rw [access?, loadHalf?_raw]; rfl
  | loadWord a => rw [access?, loadWord?_raw]; rfl
  | storeByte a v => rw [access?, perform?_raw m (storeByte?_raw m a v)]; rfl
  | storeHalf a v => rw [access?, perform?_raw m (storeHalf?_raw m a v)]; rfl
  | storeWord a v => rw [access?, perform?_raw m (storeWord?_raw m a v)]; rfl
  | reset => rw [access?, reset_raw]; rfl

end RawMemory

/-! ### Cycles -/

namespace RawHandler

variable (i : Instruction)

/-- Decodes and executes an instruction, and notes whether a delay slot follows it. -/
def dispatch : RawHandler Unit := do
  onCpu fun c => pure { c with inDelaySlot := false }
  let decoded ← ofChecked i.decode?
  let op ← ofExcept decoded
  onCpu fun c => pure { c with inDelaySlot := op.isBranch }
  op.handle? i

/-- The load that has arrived reaches its register for the end of the cycle. -/
def receive : RawHandler Unit := do
  if let some (n, v) ← ofCpu fun c => pure c.committed then write n v

/-- Begins the cycle of a fetched instruction: the counters move on, and the pending load
    arrives. -/
def advance : RawHandler Unit := do
  onCpu fun c => pure { c with instruction := i }
  onCpu fun c => pure { c with pc := c.nextPc }
  onCpu fun c => pure { c with nextPc := c.nextPc + 4 }
  onCpu fun c => pure { c with committed := c.pending, pending := none }
  receive

/-- What a cycle does with the instruction that it has fetched. Its end comes also behind a
    fault. -/
def carryOut : RawHandler Unit := do
  advance i
  let result ← observing (dispatch i)
  onCpu fun c => pure { c with registers := c.registers.commit }
  ofExcept result

/-- One cycle. -/
def cycle : RawHandler Unit := do
  let pc ← ofCpu fun c => pure c.pc
  onCpu fun c => pure { c with currentPc := pc }
  let w ← ofMemory (·.loadWord? pc)
  carryOut ⟨w⟩

theorem simulates_dispatch : Simulates (dispatch i) (Handler.dispatch i) :=
  .bind (.onCpu fun _ => rfl) fun _ => .ofChecked i.decode?_eq <|
    .bind (.ofExcept _) fun op => .bind (.onCpu fun _ => rfl) fun _ => op.simulates_handle i

/-- The load that arrives goes to a register. -/
theorem simulates_receive : Simulates receive Handler.receive := by
  intro s
  obtain ⟨⟨registers, pc, nextPc, currentPc, hi, lo, control, pending, committed, inDelaySlot,
    instruction⟩, memory⟩ := s
  cases committed with
  | none => rfl
  | some l => exact simulates_write l.target l.value _

theorem simulates_advance : Simulates (advance i) (Handler.advance i) :=
  .bind (.onCpu fun _ => rfl) fun _ => .bind (.onCpu fun _ => rfl) fun _ =>
    .bind (.onCpu fun _ => rfl) fun _ => .bind (.onCpu fun _ => rfl) fun _ => simulates_receive

theorem simulates_carryOut : Simulates (carryOut i) (Handler.carryOut i) :=
  .bind (simulates_advance i) fun _ => .bind (simulates_dispatch i).observed fun _ =>
    .bind (.onCpu fun _ => rfl) fun _ => .ofExcept _

theorem simulates_cycle : Simulates cycle Handler.cycle :=
  .bind (.ofCpu fun _ => rfl) fun pc => .bind (.onCpu fun _ => rfl) fun _ =>
    .bind (.ofMemory (RawMemory.loadWord?_raw · pc)) fun w => simulates_carryOut ⟨w⟩

end RawHandler

/-! ### Calls -/

namespace RawMachine

/-- What a cycle does with a word that it has fetched. -/
def carryOut? (s : RawMachine) (w : Word) : Checked (Except Fault Unit × RawMachine) :=
  (RawHandler.carryOut ⟨w⟩).run? { s with cpu.currentPc := s.cpu.pc }

/-- One cycle, and the fault that it met. -/
def cycle? (s : RawMachine) : Checked (Except Fault Unit × RawMachine) := RawHandler.cycle.run? s

/-- Carries out a call. -/
def call? (s : RawMachine) : Machine.Call → Checked (Answer × RawMachine)
  | .cycle => do
    let (result, t) ← s.cycle?
    pure (.ofUnit result, t)
  | .setRegister n v => do
    let registers ← s.cpu.registers.inject? (n &&& 0x1F) v
    pure (.ok none, { s with cpu.registers := registers })
  | .setControlRegister n v => do
    let control ← RegisterFile.set? s.cpu.control (n &&& 0x1F) v
    pure (.ok none, { s with cpu.control := control })
  | .reset => pure (.ok none, { s with cpu := Cpu.powerOn.raw })
  | .access x => do
    let (answer, memory) ← s.memory.access? x
    pure (answer, { s with memory })

section Simulation

variable (s : Machine)

theorem carryOut?_raw (w : Word) :
    s.raw.carryOut? w = pure ((s.carryOut w).map id Machine.raw) :=
  RawHandler.simulates_carryOut ⟨w⟩ s.refuseFetch

theorem cycle?_raw : s.raw.cycle? = pure (s.cycle.map id Machine.raw) :=
  RawHandler.simulates_cycle s

theorem call?_raw (x : Machine.Call) : s.raw.call? x = pure ((s.call x).map id Machine.raw) := by
  cases x with
  | cycle =>
    rw [call?, cycle?_raw]
    rfl
  | setRegister n v =>
    have hinject :
        s.raw.cpu.registers.inject? (RegisterFile.number (RegisterFile.index n.toNat)) v =
          pure (s.cpu.registers.inject (RegisterFile.index n.toNat) v) :=
      RegisterFile.inject?_number ..
    rw [call?, ← RegisterFile.number_index, hinject]
    rfl
  | setControlRegister n v =>
    have hset : RegisterFile.set? s.raw.cpu.control (RegisterFile.number
        (RegisterFile.index n.toNat)) v = pure (s.cpu.control.set (RegisterFile.index n.toNat) v) :=
      RegisterFile.set?_number ..
    rw [call?, ← RegisterFile.number_index, hset]
    rfl
  | reset => rfl
  | access x =>
    have haccess : s.raw.memory.access? x = pure ((s.memory.access x).map id Memory.raw) :=
      RawMemory.access?_raw ..
    rw [call?, haccess]
    rfl

end Simulation

/-! ### Sound machines -/

/-- A machine whose loads go to registers and whose buffers have the lengths of their regions. -/
structure Sound (s : RawMachine) : Prop where
  pending : ∀ l, s.cpu.pending = some l → l.1.toNat < 32
  committed : ∀ l, s.cpu.committed = some l → l.1.toNat < 32
  size_memory : ∀ r, (s.memory r).size = r.size

theorem exists_pending_iff {p : Option (UInt8 × Word)} :
    (∃ l : Option PendingLoad, l.map PendingLoad.raw = p) ↔ ∀ l, p = some l → l.1.toNat < 32 := by
  constructor
  · rintro ⟨l, rfl⟩ q hq
    obtain ⟨l, -, rfl⟩ := Option.map_eq_some_iff.1 hq
    exact (RegisterFile.toNat_number _).trans_lt l.target.isLt
  · intro h
    cases p with
    | none => exact ⟨none, rfl⟩
    | some q =>
      obtain ⟨n, v⟩ := q
      have hn : n.toNat < 32 := h _ rfl
      have hnumber : RegisterFile.number ⟨n.toNat, hn⟩ = n :=
        UInt8.toNat_inj.1 (RegisterFile.toNat_number _)
      exact ⟨some ⟨⟨n.toNat, hn⟩, v⟩, congrArg (fun n => some (n, v)) hnumber⟩

/-- The sound machines are the processors in front of memories. -/
theorem sound_iff {s : RawMachine} : s.Sound ↔ ∃ t : Machine, t.raw = s := by
  constructor
  · rintro ⟨hpending, hcommitted, hsize⟩
    obtain ⟨l, hl⟩ := exists_pending_iff.2 hpending
    obtain ⟨k, hk⟩ := exists_pending_iff.2 hcommitted
    obtain ⟨c, hc⟩ : ∃ c : Cpu, c.raw = s.cpu := by
      refine ⟨⟨s.cpu.registers, s.cpu.pc, s.cpu.nextPc, s.cpu.currentPc, s.cpu.hi, s.cpu.lo,
        s.cpu.control, l, k, s.cpu.inDelaySlot, s.cpu.instruction⟩, ?_⟩
      rw [Cpu.raw, hl, hk]
    exact ⟨⟨c, s.memory.toMemory hsize⟩, by rw [Machine.raw, hc, RawMemory.raw_toMemory]⟩
  · rintro ⟨t, rfl⟩
    exact ⟨exists_pending_iff.1 ⟨_, rfl⟩, exists_pending_iff.1 ⟨_, rfl⟩,
      fun r => (t.memory.buffer r).size_bytes⟩

variable {s t : RawMachine}

/-- A call of a sound machine has a result, and leaves a sound machine. -/
theorem Sound.call? (hs : s.Sound) (x : Machine.Call) :
    ∃ answer t, s.call? x = .ok (answer, t) ∧ t.Sound := by
  obtain ⟨s, rfl⟩ := sound_iff.1 hs
  exact ⟨_, _, call?_raw s x, sound_iff.2 ⟨_, rfl⟩⟩

/-- A machine with a load to what is no register is not sound, and can carry out no word. -/
theorem carryOut?_of_le {n : UInt8} {v : Word} (hs : s.cpu.pending = some (n, v))
    (hn : 32 ≤ n.toNat) (w : Word) : s.carryOut? w = .error .index := by
  obtain ⟨⟨registers, pc, nextPc, currentPc, hi, lo, control, pending, committed, inDelaySlot,
    instruction⟩, memory⟩ := s
  obtain rfl : pending = some (n, v) := hs
  have hadvance : (RawHandler.advance ⟨w⟩).run? ⟨⟨registers, pc, nextPc, pc, hi, lo, control,
      some (n, v), committed, inDelaySlot, instruction⟩, memory⟩ = .error .index :=
    RawHandler.run?_write_of_le hn v _
  rw [carryOut?, RawHandler.carryOut, RawHandler.run?_bind, hadvance]
  rfl

/-! ### Reachable machines -/

/-- A machine that calls lead to from power-on. A processor that can be reached may be put in front
    of any memory that can. -/
inductive Reachable : RawMachine → Prop
  | powerOn {image : ByteArray} {m : RawMemory} (h : RawMemory.ofImage image = .ok m) :
    Reachable ⟨Cpu.powerOn.raw, m⟩
  | call {s t : RawMachine} {x : Machine.Call} {answer : Answer} (hs : Reachable s)
    (h : s.call? x = .ok (answer, t)) : Reachable t
  | exchange {s t : RawMachine} (hs : Reachable s) (ht : Reachable t) : Reachable ⟨s.cpu, t.memory⟩

theorem Reachable.sound (hs : s.Reachable) : s.Sound := by
  induction hs with
  | powerOn h =>
    obtain ⟨m, rfl⟩ := RawMemory.exists_raw_of_ofImage h
    exact sound_iff.2 ⟨.powerOn m, rfl⟩
  | @call s t x answer _ h ih =>
    obtain ⟨_, _, hcall, ht⟩ := ih.call? x
    obtain ⟨-, rfl⟩ := Prod.ext_iff.1 (Except.ok.inj (h.symm.trans hcall))
    exact ht
  | exchange _ _ ihs iht => exact ⟨ihs.pending, ihs.committed, iht.size_memory⟩

/-- Nothing that a machine does is without a result, whichever calls led to it and whatever word it
    has fetched: its cycle and its calls have the results that they have on a processor in front of
    a memory. An access that its buffer is too short for is a fault that names the address. -/
theorem Reachable.isDefined (hs : s.Reachable) :
    s.Sound ∧
    (∃ t : Machine, t.raw = s ∧
      s.cycle? = .ok (t.cycle.1, t.cycle.2.raw) ∧
      (∀ w, s.carryOut? w = .ok ((t.carryOut w).1, (t.carryOut w).2.raw)) ∧
      ∀ x, s.call? x = .ok ((t.call x).1, (t.call x).2.raw)) ∧
    ∀ n ≤ 4, ∀ a, s.memory.find? n a = .of (match Region.resolve a with
      | some (r, o) => if o + n ≤ (s.memory r).size then .ok (r, o) else .error (.unmappedAddress a)
      | none => .error (.unmappedAddress a)) := by
  obtain ⟨t, rfl⟩ := sound_iff.1 hs.sound
  exact ⟨hs.sound, ⟨t, rfl, cycle?_raw t, carryOut?_raw t, call?_raw t⟩,
    fun n hn a => RawMemory.find?_eq _ hn a⟩

/-- The processor number is on its way to the last register, and the next instruction divides that
    register, which is still zero, by itself. -/
theorem isDefined_division : ∃ s : RawMachine, s.Reachable ∧ s.cpu.pending = some (31, 2) ∧
    (s.memory.loadWord? s.cpu.pc).run = .ok (.ok 0x03FF001A) ∧
    (∃ result t, s.cycle? = .ok (result, t)) ∧
    s.memory.find? 4 0x801FFFFE = .of (.error (.unmappedAddress 0x801FFFFE)) := by
  obtain ⟨m, hm⟩ : ∃ m, Memory.ofImage ⟨#[0, 0x78, 0x1F, 0x40, 0x1A, 0, 0xFF, 3]⟩ = .ok m :=
    ⟨_, dif_pos (by decide)⟩
  have hnumber : m.loadWord 0xBFC00000 = .ok 0x401F7800 :=
    Memory.loadWord_of_ofImage hm (by decide) (by rfl)
  have hdivide : m.loadWord 0xBFC00004 = .ok 0x03FF001A :=
    Memory.loadWord_of_ofImage hm (by decide) (by rfl)
  have hcycle : (Machine.powerOn m).cycle =
      (.ok (), ⟨((Cpu.powerOn.advance ⟨0x401F7800⟩).apply (.loading 31 2)).commit, m⟩) :=
    Machine.cycle_of_effect (s := .powerOn m) (e := .loading 31 2) hnumber rfl
  have hpowerOn : Reachable (Machine.powerOn m).raw :=
    .powerOn ((RawMemory.ofImage_eq _).trans (congrArg (Except.map Memory.raw) hm))
  have hs : Reachable (Machine.powerOn m).cycle.2.raw := .call hpowerOn (call?_raw _ .cycle)
  obtain ⟨hsound, ⟨t, -, ht, -, -⟩, hfind⟩ := hs.isDefined
  refine ⟨_, hs, ?_, ?_, ⟨_, _, ht⟩, ?_⟩
  · rw [hcycle]
    rfl
  · rw [hcycle]
    exact congrArg ExceptT.run ((RawMemory.loadWord?_raw ..).trans (congrArg Attempt.of hdivide))
  · have hsize := hsound.size_memory .ram
    have hresolve : Region.resolve 0x801FFFFE = some (.ram, 0x1FFFFE) := by decide
    rw [hfind 4 le_rfl, hresolve]
    exact congrArg Attempt.of (if_neg (hsize ▸ by decide))

end RawMachine

end R3000
