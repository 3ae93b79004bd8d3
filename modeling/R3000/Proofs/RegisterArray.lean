import R3000.Proofs.Fetch
import R3000.Proofs.Memory.Flat

/-!
The double-buffered register file is one array. A machine with a single array of registers reads
every operand from the array as it is, lets the pending load arrive, and writes the result of the
instruction on top. Main statements: a call keeps the two machines in step, so they answer alike and
show the same registers on every run; and the result of an instruction is seen by the next one, what
it loads by the one after that.
-/

namespace R3000

/-! ### The machine with one array -/

/-- A machine whose registers are one array. -/
structure ArrayMachine where
  array : RegisterArray
  pending : Option PendingLoad
  pc : Word
  nextPc : Word
  hi : Word
  lo : Word
  control : ControlRegisters
  memory : Memory

namespace ArrayMachine

/-- A machine at power-on in front of a memory. -/
def powerOn (m : Memory) : ArrayMachine where
  array := fun _ => 0
  pending := none
  pc := resetVector
  nextPc := resetVector + 4
  hi := 0
  lo := 0
  control := .powerOn
  memory := m

/-- The array once the pending load has arrived. -/
def landed (t : ArrayMachine) : RegisterArray := t.array.put (t.pending.map PendingLoad.write)

/-- What an instruction reads: the array as it is. Only an unaligned load merges with the array as
    the pending load leaves it. -/
def operands (t : ArrayMachine) : Operands where
  register := t.array
  mergeBase := t.landed
  hi := t.hi
  lo := t.lo
  control := fun r => t.control.get r
  nextPc := t.nextPc + 4

/-- One cycle, and the fault that it met. -/
def cycle (t : ArrayMachine) : Except Fault Unit × ArrayMachine :=
  match t.memory.loadWord t.pc with
  | .error f => (.error f, t)
  | .ok w =>
    match Instruction.effect ⟨w⟩ t.operands t.memory with
    | .error f =>
      (.error f, { t with
        array := t.landed
        pending := none
        pc := t.nextPc
        nextPc := t.nextPc + 4 })
    | .ok e =>
      (.ok (), {
        array := t.landed.put e.write
        pending := if Instruction.isLoad ⟨w⟩ then e.load else none
        pc := t.nextPc
        nextPc := e.nextPc.getD (t.nextPc + 4)
        hi := e.hi.getD t.hi
        lo := e.lo.getD t.lo
        control := match e.control with
          | some (r, v) => t.control.set r v
          | none => t.control
        memory := t.memory.apply e })

variable {t : ArrayMachine} {w : Word}

theorem cycle_of_error {f : Fault} (h : t.memory.loadWord t.pc = .error f) :
    t.cycle = (.error f, t) := by
  simp only [cycle, h]

theorem cycle_of_fault {f : Fault} (hw : t.memory.loadWord t.pc = .ok w)
    (hf : Instruction.effect ⟨w⟩ t.operands t.memory = .error f) : t.cycle =
      (.error f, { t with
        array := t.landed
        pending := none
        pc := t.nextPc
        nextPc := t.nextPc + 4 }) := by
  simp only [cycle, hw, hf]

theorem cycle_of_effect {e : Effect} (hw : t.memory.loadWord t.pc = .ok w)
    (he : Instruction.effect ⟨w⟩ t.operands t.memory = .ok e) : t.cycle =
      (.ok (), {
        array := t.landed.put e.write
        pending := e.load
        pc := t.nextPc
        nextPc := e.nextPc.getD (t.nextPc + 4)
        hi := e.hi.getD t.hi
        lo := e.lo.getD t.lo
        control := match e.control with
          | some (r, v) => t.control.set r v
          | none => t.control
        memory := t.memory.apply e }) := by
  simp only [cycle, hw, he, Instruction.load_of_effect he]

/-- Carries out a call. -/
def call (t : ArrayMachine) : Machine.Call → Answer × ArrayMachine
  | .cycle => (.ofUnit t.cycle.1, t.cycle.2)
  | .setRegister n v =>
    (.ok none, { t with array := t.array.put (some (RegisterFile.index n.toNat, v)) })
  | .setControlRegister n v =>
    (.ok none, { t with control := t.control.set (RegisterFile.index n.toNat) v })
  | .reset => (.ok none, powerOn t.memory)
  | .access x => ((t.memory.access x).1, { t with memory := (t.memory.access x).2 })

end ArrayMachine

/-! ### Machines in step -/

/-- A load to register 0 does not matter once it arrives. -/
theorem RegisterArray.put_settled (R : RegisterArray) (l : Option PendingLoad) :
    R.put ((PendingLoad.settled l).map PendingLoad.write) = R.put (l.map PendingLoad.write) := by
  cases l with
  | none => rfl
  | some l =>
    by_cases hl : l.target = 0
    · rw [PendingLoad.settled_of_zero hl]
      funext r
      exact (if_neg fun hr => hr.1 hl).symm
    · rw [PendingLoad.settled_of_ne hl]

/-- A machine and one with a single array that holds the registers of the former. -/
structure Machine.Mirrors (s : Machine) (t : ArrayMachine) : Prop where
  coherent : s.cpu.Coherent
  array : s.cpu.register = t.array
  pending : PendingLoad.settled s.cpu.pending = PendingLoad.settled t.pending
  pc : s.cpu.pc = t.pc
  nextPc : s.cpu.nextPc = t.nextPc
  hi : s.cpu.hi = t.hi
  lo : s.cpu.lo = t.lo
  control : s.cpu.control = t.control
  memory : s.memory = t.memory

namespace Machine

variable {s : Machine} {t : ArrayMachine} {w : Word}

theorem mirrors_powerOn (m : Memory) : (powerOn m).Mirrors (.powerOn m) where
  coherent := Cpu.coherent_powerOn
  array := funext RegisterFile.read_zeros
  pending := rfl
  pc := rfl
  nextPc := rfl
  hi := rfl
  lo := rfl
  control := rfl
  memory := rfl

theorem Mirrors.landed (h : s.Mirrors t) : s.cpu.landed = t.landed := by
  rw [Cpu.landed, ArrayMachine.landed, ← RegisterArray.put_settled, h.pending, h.array,
    RegisterArray.put_settled]

theorem Mirrors.operands (h : s.Mirrors t) (i : Instruction) :
    t.operands = { (s.cpu.advance i).operands with mergeBase := t.landed } := by
  rw [ArrayMachine.operands, ← h.array, ← h.nextPc, ← h.hi, ← h.lo, ← h.control,
    ← s.cpu.register_advance i]
  rfl

/-- An instruction does the same in both machines, except for what it loads to register 0. -/
theorem Mirrors.effect (h : s.Mirrors t) (w : Word) :
    (Instruction.effect ⟨w⟩ t.operands t.memory).map Effect.settled =
      (s.effect w).map Effect.settled := by
  rw [Machine.effect, h.operands ⟨w⟩, ← h.memory]
  refine Instruction.effect_mergeBase _ _ _ fun r hr => ?_
  rw [← h.landed]
  exact (s.cpu.mergeBase_advance ⟨w⟩ hr).symm

/-- A cycle keeps the machines in step, and meets the same fault in both. -/
theorem Mirrors.cycle (h : s.Mirrors t) :
    s.cycle.1 = t.cycle.1 ∧ s.cycle.2.Mirrors t.cycle.2 := by
  have hcoherent := Cpu.coherent_cycle s h.coherent
  obtain ⟨f, hw, hs⟩ | ⟨w, f, hw, he, hs⟩ | ⟨w, e, hw, he, hs⟩ := s.cycle_cases
  · -- the fetch fails
    rw [h.memory, h.pc] at hw
    rw [hs] at hcoherent
    rw [hs, ArrayMachine.cycle_of_error hw]
    exact ⟨rfl, { h with coherent := hcoherent }⟩
  · -- the instruction faults
    rw [h.memory, h.pc] at hw
    rw [hs] at hcoherent
    rw [hs, ArrayMachine.cycle_of_fault hw (Effect.error_of_settled (h.effect w) he)]
    exact ⟨rfl, {
      coherent := hcoherent
      array := (Cpu.register_commit_advance h.coherent ⟨w⟩).trans h.landed
      pending := rfl
      pc := h.nextPc
      nextPc := congrArg (· + 4) h.nextPc
      hi := h.hi
      lo := h.lo
      control := h.control
      memory := h.memory }⟩
  · -- the instruction has its effect
    obtain ⟨l, hl, ht⟩ := Effect.ok_of_settled (h.effect w) he
    rw [h.memory, h.pc] at hw
    rw [hs] at hcoherent
    rw [hs, ArrayMachine.cycle_of_effect hw ht, ← h.landed]
    exact ⟨rfl, {
      coherent := hcoherent
      array := Cpu.register_commit_apply h.coherent ⟨w⟩ e
      pending := hl ▸ congrArg PendingLoad.settled Option.or_none
      pc := h.nextPc
      nextPc := by rw [← h.nextPc]; rfl
      hi := by rw [← h.hi]; rfl
      lo := by rw [← h.lo]; rfl
      control := by rw [← h.control]; rfl
      memory := by rw [h.memory]; rfl }⟩

/-- Every call keeps the machines in step, and gets the same answer from both. -/
theorem Mirrors.call (h : s.Mirrors t) (x : Call) :
    (s.call x).1 = (t.call x).1 ∧ (s.call x).2.Mirrors (t.call x).2 := by
  have hcoherent := Cpu.coherent_call s x h.coherent
  cases x with
  | cycle =>
    obtain ⟨hresult, hmirrors⟩ := h.cycle
    exact ⟨congrArg Answer.ofUnit hresult, hmirrors⟩
  | setRegister n v =>
    refine ⟨rfl, { h with coherent := hcoherent, array := ?_ }⟩
    rw [ArrayMachine.call, ← h.array]
    exact funext fun r => RegisterFile.read_inject ..
  | setControlRegister n v =>
    refine ⟨rfl, { h with coherent := hcoherent, control := ?_ }⟩
    rw [ArrayMachine.call, ← h.control]
    rfl
  | reset =>
    refine ⟨rfl, ?_⟩
    rw [ArrayMachine.call, ← h.memory]
    exact mirrors_powerOn s.memory
  | access x =>
    rw [Machine.call, ArrayMachine.call, ← h.memory]
    exact ⟨rfl, { h with memory := rfl }⟩

theorem Mirrors.pending_iff (h : s.Mirrors t) {l : PendingLoad} (hl : l.target ≠ 0) :
    s.cpu.pending = some l ↔ t.pending = some l := by
  rw [← PendingLoad.settled_eq_some_iff hl, h.pending, PendingLoad.settled_eq_some_iff hl]

/-! ### When a register is seen -/

section Delay

variable {calls : List Call} {r : Fin 32} {f g k : Fetch}

/-- The second fetch finds what the first one wrote, and as pending what the first one loads. -/
theorem register_of_fetches_one (hs : s.cpu.Coherent) (hcalls : ∀ x ∈ calls, x.spares r)
    (hf : (s.fetches calls)[0]? = some f) (hg : (s.fetches calls)[1]? = some g) :
    g.before.cpu.register r = f.before.cpu.landed.put f.write r ∧
      g.before.cpu.pending = f.load := by
  obtain ⟨f', ys, zs, hf', hbefore, hzs, hnext⟩ := exists_of_fetches_one hg
  obtain rfl := Option.some.inj (hf.symm.trans hf')
  have hcoherent : f.before.cpu.Coherent := by
    rw [hbefore]
    exact Run.after_invariant Cpu.coherent_call hs ys
  rw [hnext 0] at hg
  obtain ⟨hregister, hpending⟩ := register_of_fetches_zero (fun x hx => hcalls x (hzs hx)) hg
  rw [hregister, hpending, f.register_after hcoherent, f.pending_after]
  exact ⟨rfl, rfl⟩

/-- The third fetch finds what the first one loads, unless the second one writes the register. -/
theorem register_of_fetches_two (hs : s.cpu.Coherent) (hcalls : ∀ x ∈ calls, x.spares r)
    (hf : (s.fetches calls)[0]? = some f) (hg : (s.fetches calls)[1]? = some g)
    (hk : (s.fetches calls)[2]? = some k) :
    k.before.cpu.register r =
      (RegisterArray.put g.before.cpu.register (f.load.map PendingLoad.write)).put g.write r := by
  have hpending := (register_of_fetches_one hs hcalls hf hg).2
  obtain ⟨f', ys, zs, hf', hbefore, hzs, hnext⟩ := exists_of_fetches_one hg
  have hcoherent : f'.after.cpu.Coherent := by
    rw [Fetch.after, hbefore]
    exact Cpu.coherent_cycle _ (Run.after_invariant Cpu.coherent_call hs ys)
  rw [hnext 0] at hg
  rw [hnext 1] at hk
  rw [(register_of_fetches_one hcoherent (fun x hx => hcalls x (hzs hx)) hg hk).1, Cpu.landed,
    hpending]

end Delay

/-- The double-buffered registers are one array. The machine with one array answers every list of
    calls alike and then shows the same registers, and the same pending load unless that is one to
    register 0. Only a load that succeeds leaves one. In a continuation that writes a register other
    than 0 by instructions only, what one instruction writes is seen by the next; what one loads is
    seen not by the next, but by the one after that, unless the next one writes the register. -/
theorem answers_eq_array (m : Memory) (calls : List Call) :
    Run.answers call (powerOn m) calls = Run.answers ArrayMachine.call (.powerOn m) calls ∧
    (∀ r, (Run.after call (powerOn m) calls).cpu.register r =
      (Run.after ArrayMachine.call (.powerOn m) calls).array r) ∧
    (Run.after ArrayMachine.call (.powerOn m) calls).array 0 = 0 ∧
    (∀ l : PendingLoad, l.target ≠ 0 →
      ((Run.after call (powerOn m) calls).cpu.pending = some l ↔
        (Run.after ArrayMachine.call (.powerOn m) calls).pending = some l)) ∧
    ∀ (next : List Call) (r : Fin 32), r ≠ 0 → (∀ x ∈ next, x.spares r) →
      ∀ f g, ((Run.after call (powerOn m) calls).fetches next)[0]? = some f →
        ((Run.after call (powerOn m) calls).fetches next)[1]? = some g →
        (f.after.cpu.pending.isSome ↔ f.result = .ok () ∧ f.instruction.isLoad) ∧
        (∀ v, f.write = some (r, v) → g.before.cpu.register r = v) ∧
        (f.instruction.isLoad → g.before.cpu.register r = f.before.cpu.landed r) ∧
        ∀ k v, ((Run.after call (powerOn m) calls).fetches next)[2]? = some k →
          f.after.cpu.pending = some ⟨r, v⟩ → (∀ u, g.write ≠ some (r, u)) →
          k.before.cpu.register r = v := by
  obtain ⟨hanswers, hmirrors⟩ := Run.answers_eq_of_simulation (R := Mirrors)
    (fun _ _ x h => h.call x) (mirrors_powerOn m) calls
  refine ⟨hanswers, congrFun hmirrors.array, ?_, fun l hl => hmirrors.pending_iff hl,
    fun next r hr0 hnext f g hf hg => ?_⟩
  · rw [← hmirrors.array]
    exact hmirrors.coherent.zero
  · have hone := (register_of_fetches_one hmirrors.coherent hnext hf hg).1
    rw [f.pending_after]
    refine ⟨f.isSome_load, fun v hv => ?_, fun hload => ?_, fun k v hk hv hu => ?_⟩
    · rw [hone, hv, RegisterArray.put_same hr0]
    · rw [hone, f.write_of_isLoad hload]
      rfl
    · rw [register_of_fetches_two hmirrors.coherent hnext hf hg hk, RegisterArray.put_of_ne hu, hv]
      exact RegisterArray.put_same hr0 v

/-- The status register is loaded into register 2. The next instruction copies register 2 too early,
    and the one after it finds the value. -/
theorem answers_eq_array_loadDelay :
    (2 : Fin 32) ≠ 0 ∧ (∀ x ∈ [Call.cycle, .setRegister 5 7, .cycle, .cycle], x.spares 2) ∧
    ∃ m f g k,
      (powerOn m).fetches [.cycle, .setRegister 5 7, .cycle, .cycle] = [f, g, k] ∧
      f.after.cpu.pending = some ⟨2, 0x10900000⟩ ∧ f.instruction.isLoad ∧
      g.before.cpu.register 2 = f.before.cpu.landed 2 ∧ k.before.cpu.register 2 = 0x10900000 := by
  obtain ⟨m, hm⟩ : ∃ m, Memory.ofImage ⟨#[0, 0x60, 2, 0x40, 0x21, 0x18, 0x40, 0]⟩ = .ok m :=
    ⟨_, dif_pos (by decide)⟩
  have h₀ : m.loadWord 0xBFC00000 = .ok 0x40026000 :=
    Memory.loadWord_of_ofImage hm (by decide) (by rfl)
  have h₁ : m.loadWord 0xBFC00004 = .ok 0x00401821 :=
    Memory.loadWord_of_ofImage hm (by decide) (by rfl)
  have h₂ : m.loadWord 0xBFC00008 = .ok 0 :=
    Memory.loadWord_of_ofImage hm (by decide) (by rfl)
  have hload : Instruction.isLoad ⟨0x40026000⟩ := rfl
  have hcopy : ∀ s : Machine, ∃ v, s.effect 0x00401821 = .ok (.writing 3 v) := fun s =>
    ⟨(s.cpu.advance ⟨0x00401821⟩).operands.register 2 +
      (s.cpu.advance ⟨0x00401821⟩).operands.register 0, rfl⟩
  let f : Fetch := ⟨powerOn m, 0x40026000, h₀⟩
  have hcycle := cycle_of_effect (s := powerOn m) (e := .loading 2 0x10900000) h₀ rfl
  have hf : f.after.cpu.pc = 0xBFC00004 ∧ f.after.cpu.nextPc = 0xBFC00008 ∧
      f.after.cpu.pending = some ⟨2, 0x10900000⟩ ∧ f.after.memory = m := by
    rw [Fetch.after, hcycle]
    exact ⟨rfl, rfl, rfl, rfl⟩
  let g : Fetch := ⟨(f.after.call (.setRegister 5 7)).2, 0x00401821, by
    show f.after.memory.loadWord f.after.cpu.pc = _
    rw [hf.1, hf.2.2.2, h₁]⟩
  obtain ⟨v, hv⟩ : ∃ v, g.before.effect g.word = .ok (.writing 3 v) := hcopy g.before
  have hwrite : g.write = some (3, v) := by rw [Fetch.write, hv]; rfl
  have hmemory : g.after.memory = m := by
    rw [Fetch.after, cycle_of_effect g.fetched hv]
    exact hf.2.2.2
  let k : Fetch := ⟨g.after, 0, by
    have hpc : g.after.cpu.pc = 0xBFC00008 := g.pc_after.trans hf.2.1
    rw [hmemory, hpc, h₂]⟩
  have hfetches : (powerOn m).fetches [.cycle, .setRegister 5 7, .cycle, .cycle] = [f, g, k] := by
    rw [fetches_of_some (fetch?_cycle f.fetched), fetches_of_none rfl,
      fetches_of_some (fetch?_cycle g.fetched), fetches_of_some (fetch?_cycle k.fetched)]
    rfl
  have hspares : ∀ x ∈ [Call.cycle, .setRegister 5 7, .cycle, .cycle], x.spares 2 := by decide
  obtain ⟨-, -, -, -, hdelay⟩ := answers_eq_array m []
  obtain ⟨-, -, hinvisible, hvisible⟩ := hdelay _ 2 (by decide) hspares f g
    (congrArg (·[0]?) hfetches) (congrArg (·[1]?) hfetches)
  refine ⟨by decide, hspares, m, f, g, k, hfetches, hf.2.2.1, hload, hinvisible hload, ?_⟩
  refine hvisible k _ (congrArg (·[2]?) hfetches) hf.2.2.1 fun u hu => ?_
  rw [hwrite] at hu
  have hr : (3 : Fin 32) = 2 := congrArg Prod.fst (Option.some.inj hu)
  exact absurd hr (by decide)

end Machine

end R3000
