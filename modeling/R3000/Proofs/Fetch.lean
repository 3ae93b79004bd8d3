import R3000.Proofs.Cycle

/-!
Fetches: the cycles of a run that get as far as an instruction, in order. What a host does between
them, and cycles that fail to fetch, are not counted. Main statements: number `k` of the fetches
splits the run in two, and what lies between two fetches leaves the program counters alone.
-/

namespace R3000

/-- A cycle that fetched an instruction: the machine in front of it, and the word. -/
structure Fetch where
  before : Machine
  word : Word
  fetched : before.memory.loadWord before.cpu.pc = .ok word

namespace Fetch

variable (f : Fetch)

/-- The instruction that was fetched. -/
def instruction : Instruction := ⟨f.word⟩

/-- Whether the instruction was executed, or why it faulted. -/
def result : Except Fault Unit := f.before.cycle.1

/-- The machine after the cycle. -/
def after : Machine := f.before.cycle.2

/-- The register that the instruction writes at the end of its cycle, and the value. -/
def write : Option (Fin 32 × Word) :=
  match f.before.effect f.word with
  | .ok e => e.write
  | .error _ => none

/-- The load that the instruction leaves pending. -/
def load : Option PendingLoad :=
  match f.before.effect f.word with
  | .ok e => e.load
  | .error _ => none

/-- The address that the processor names, after the cycle, as the one that was executed. -/
def address : Word := f.after.cpu.currentPc

/-- A fetched instruction faults or has its effect. -/
theorem after_cases :
    (∃ e, f.before.effect f.word = .error e ∧ f.before.cycle =
      (.error e, ⟨(f.before.cpu.advance f.instruction).commit, f.before.memory⟩)) ∨
    (∃ e, f.before.effect f.word = .ok e ∧ f.before.cycle =
      (.ok (), ⟨((f.before.cpu.advance f.instruction).apply e).commit,
        f.before.memory.apply e⟩)) := by
  cases he : f.before.effect f.word with
  | error e => exact .inl ⟨e, rfl, Machine.cycle_of_fault f.fetched he⟩
  | ok e => exact .inr ⟨e, rfl, Machine.cycle_of_effect f.fetched he⟩

theorem address_eq : f.address = f.before.cpu.pc := by
  rw [address, after]
  obtain ⟨e, -, h⟩ | ⟨e, -, h⟩ := f.after_cases <;> rw [h] <;> rfl

theorem pc_after : f.after.cpu.pc = f.before.cpu.nextPc := by
  rw [after]
  obtain ⟨e, -, h⟩ | ⟨e, -, h⟩ := f.after_cases <;> rw [h] <;> rfl

theorem inDelaySlot_after : f.after.cpu.inDelaySlot = f.instruction.isBranch := by
  rw [after]
  obtain ⟨e, -, h⟩ | ⟨e, -, h⟩ := f.after_cases <;> rw [h] <;> rfl

/-- The pending load arrives, and the instruction writes on top of it. -/
theorem register_after (hc : f.before.cpu.Coherent) :
    f.after.cpu.register = f.before.cpu.landed.put f.write := by
  rw [after, write]
  obtain ⟨e, he, h⟩ | ⟨e, he, h⟩ := f.after_cases
  · rw [h, he]
    exact Cpu.register_commit_advance hc _
  · rw [h, he]
    exact Cpu.register_commit_apply hc _ e

theorem pending_after : f.after.cpu.pending = f.load := by
  rw [after, load]
  obtain ⟨e, he, h⟩ | ⟨e, he, h⟩ := f.after_cases
  · rw [h, he]
    rfl
  · rw [h, he]
    exact Option.or_none

/-- A load that succeeds leaves a pending load, and nothing else does. -/
theorem isSome_load : f.load.isSome ↔ f.result = .ok () ∧ f.instruction.isLoad := by
  rw [load, result]
  obtain ⟨e, he, h⟩ | ⟨e, he, h⟩ := f.after_cases
  · rw [h, he]
    exact ⟨nofun, nofun⟩
  · obtain ⟨op, hop, hop'⟩ := Instruction.exists_of_effect he
    have hload : f.instruction.isLoad = op.isLoad := by
      rw [Instruction.isLoad, instruction, hop]
    rw [h, he, hload, ← (Operation.touches hop').1]
    exact ⟨fun hsome => ⟨rfl, hsome⟩, And.right⟩

/-- A load writes nothing at the end of its own cycle. -/
theorem write_of_isLoad (hload : f.instruction.isLoad) : f.write = none := by
  rw [write]
  cases he : f.before.effect f.word with
  | error e => rfl
  | ok e =>
    obtain ⟨op, hop, hop'⟩ := Instruction.exists_of_effect he
    rw [Instruction.isLoad, instruction, hop] at hload
    exact Operation.write_of_isLoad hop' hload

/-- Only a store changes the memory. -/
theorem memory_after {op : Operation} (hop : f.instruction.decode = .ok op)
    (h : op.isStore = false) : f.after.memory = f.before.memory := by
  rw [after]
  obtain ⟨e, -, hcycle⟩ | ⟨e, he, hcycle⟩ := f.after_cases
  · rw [hcycle]
  · obtain ⟨op', hop', he⟩ := Instruction.exists_of_effect he
    obtain rfl := Except.ok.inj (hop.symm.trans hop')
    rw [hcycle, Memory.apply, (Operation.touches he).2.1 h]

end Fetch

/-! ### The fetches of a run -/

namespace Machine

/-- The fetch that a call leads to, if it leads to one. -/
def fetch? (s : Machine) : Call → Option Fetch
  | .cycle =>
    match h : s.memory.loadWord s.cpu.pc with
    | .ok w => some ⟨s, w, h⟩
    | .error _ => none
  | _ => none

/-- The fetches that a list of calls leads to, in order. -/
def fetches (s : Machine) : List Call → List Fetch
  | [] => []
  | x :: xs => (s.fetch? x).toList ++ fetches (s.call x).2 xs

/-- Whether a call leaves a register alone, unless it executes an instruction. -/
def Call.spares (r : Fin 32) : Call → Bool
  | .setRegister n _ => RegisterFile.index n.toNat ≠ r
  | .reset => false
  | _ => true

variable {s : Machine} {x : Call} {xs : List Call} {f g : Fetch} {k : Nat}

theorem fetch?_cycle {w : Word} (h : s.memory.loadWord s.cpu.pc = .ok w) :
    s.fetch? .cycle = some ⟨s, w, h⟩ := by
  rw [fetch?]
  split
  next w' h' =>
    obtain rfl := Except.ok.inj (h.symm.trans h')
    rfl
  next e h' =>
    rw [h] at h'
    cases h'

theorem eq_cycle_of_fetch? (h : s.fetch? x = some f) : x = .cycle ∧ f.before = s := by
  unfold fetch? at h
  split at h
  · split at h
    next => exact ⟨rfl, by rw [← Option.some.inj h]⟩
    next => cases h
  · cases h

theorem fetches_of_none (h : s.fetch? x = none) :
    s.fetches (x :: xs) = (s.call x).2.fetches xs := by
  rw [fetches, h]
  rfl

theorem fetches_of_some (h : s.fetch? x = some f) :
    s.fetches (x :: xs) = f :: f.after.fetches xs := by
  rw [fetches, h]
  obtain ⟨rfl, rfl⟩ := eq_cycle_of_fetch? h
  rfl

/-- Number `k` of the fetches splits the run: some calls lead to it, and the fetches that follow it
    are those of the other calls. -/
theorem exists_of_fetches (h : (s.fetches xs)[k]? = some f) : ∃ ys zs, xs = ys ++ .cycle :: zs ∧
    f.before = Run.after call s ys ∧ (s.fetches xs).drop (k + 1) = f.after.fetches zs := by
  induction xs generalizing s k with
  | nil => cases h
  | cons x xs ih =>
    cases hx : s.fetch? x with
    | none =>
      rw [fetches_of_none hx] at h ⊢
      obtain ⟨ys, zs, rfl, hbefore, hdrop⟩ := ih h
      exact ⟨x :: ys, zs, rfl, hbefore, hdrop⟩
    | some g =>
      rw [fetches_of_some hx] at h ⊢
      obtain ⟨rfl, rfl⟩ := eq_cycle_of_fetch? hx
      cases k with
      | zero =>
        obtain rfl := Option.some.inj h
        exact ⟨[], xs, rfl, rfl, rfl⟩
      | succ k =>
        obtain ⟨ys, zs, rfl, hbefore, hdrop⟩ := ih h
        exact ⟨.cycle :: ys, zs, rfl, hbefore, hdrop⟩

/-- What every call keeps that fetches nothing still holds in front of the first fetch. -/
theorem before_of_fetches_zero {P : Machine → Prop}
    (hcall : ∀ x ∈ xs, ∀ s, s.fetch? x = none → P s → P (s.call x).2) (hs : P s)
    (h : (s.fetches xs)[0]? = some f) : P f.before := by
  induction xs generalizing s with
  | nil => cases h
  | cons x xs ih =>
    obtain ⟨hx, hxs⟩ := List.forall_mem_cons.1 hcall
    cases hf : s.fetch? x with
    | none =>
      rw [fetches_of_none hf] at h
      exact ih hxs (hx s hf hs) h
    | some g =>
      rw [fetches_of_some hf] at h
      obtain rfl := Option.some.inj h
      obtain ⟨-, rfl⟩ := eq_cycle_of_fetch? hf
      exact hs

/-- A call that fetches nothing and is no reset leaves the program counters and the pending load,
    and the registers that it spares. -/
theorem call_of_fetch?_none (hx : x ≠ .reset) (h : s.fetch? x = none) :
    (s.call x).2.cpu.pc = s.cpu.pc ∧ (s.call x).2.cpu.nextPc = s.cpu.nextPc ∧
      (s.call x).2.cpu.pending = s.cpu.pending ∧
      ∀ r, x.spares r → (s.call x).2.cpu.register r = s.cpu.register r := by
  cases x with
  | cycle =>
    cases hw : s.memory.loadWord s.cpu.pc with
    | ok w =>
      rw [fetch?_cycle hw] at h
      cases h
    | error e =>
      rw [call, cycle_of_error hw]
      exact ⟨rfl, rfl, rfl, fun _ _ => rfl⟩
  | reset => exact absurd rfl hx
  | setRegister n v =>
    refine ⟨rfl, rfl, rfl, fun r hr => ?_⟩
    have hne : RegisterFile.index n.toNat ≠ r := of_decide_eq_true hr
    exact (RegisterFile.read_inject ..).trans (if_neg fun h => hne h.2)
  | _ => exact ⟨rfl, rfl, rfl, fun _ _ => rfl⟩

theorem Call.ne_reset_of_spares {r : Fin 32} (h : x.spares r) : x ≠ .reset := by
  rintro rfl
  cases h

/-- The first fetch finds the program counters as they are. -/
theorem counters_of_fetches_zero (hxs : .reset ∉ xs) (h : (s.fetches xs)[0]? = some f) :
    f.before.cpu.pc = s.cpu.pc ∧ f.before.cpu.nextPc = s.cpu.nextPc := by
  refine before_of_fetches_zero
    (P := fun u => u.cpu.pc = s.cpu.pc ∧ u.cpu.nextPc = s.cpu.nextPc)
    (fun x hx u hu hs => ?_) ⟨rfl, rfl⟩ h
  obtain ⟨hpc, hnextPc, -⟩ := call_of_fetch?_none (fun hr => hxs (hr ▸ hx)) hu
  exact ⟨hpc.trans hs.1, hnextPc.trans hs.2⟩

/-- The first fetch finds a register that every call spares as it is, and the pending load. -/
theorem register_of_fetches_zero {r : Fin 32} (hxs : ∀ x ∈ xs, x.spares r)
    (h : (s.fetches xs)[0]? = some f) :
    f.before.cpu.register r = s.cpu.register r ∧ f.before.cpu.pending = s.cpu.pending := by
  refine before_of_fetches_zero
    (P := fun u => u.cpu.register r = s.cpu.register r ∧ u.cpu.pending = s.cpu.pending)
    (fun x hx u hu hs => ?_) ⟨rfl, rfl⟩ h
  obtain ⟨-, -, hpending, hregister⟩ :=
    call_of_fetch?_none (Call.ne_reset_of_spares (hxs x hx)) hu
  exact ⟨(hregister r (hxs x hx)).trans hs.1, hpending.trans hs.2⟩

/-- Where there is a second fetch, there is a first one, and the second is the first of what
    follows it. -/
theorem exists_of_fetches_one (h : (s.fetches xs)[1]? = some g) : ∃ f ys zs,
    (s.fetches xs)[0]? = some f ∧ f.before = Run.after call s ys ∧ zs ⊆ xs ∧
      ∀ j, (s.fetches xs)[j + 1]? = (f.after.fetches zs)[j]? := by
  obtain ⟨f, hf⟩ : ∃ f, (s.fetches xs)[0]? = some f := by
    cases hfs : s.fetches xs with
    | nil =>
      rw [hfs] at h
      cases h
    | cons f fs => exact ⟨f, rfl⟩
  obtain ⟨ys, zs, hxs, hbefore, hdrop⟩ := exists_of_fetches hf
  refine ⟨f, ys, zs, hf, hbefore, fun x hx => ?_, fun j => ?_⟩
  · rw [hxs]
    exact List.mem_append_right _ (.tail _ hx)
  · rw [← hdrop, List.getElem?_drop, Nat.add_comm]

/-- The second fetch is at the second program counter. -/
theorem pc_of_fetches_one (hxs : .reset ∉ xs) (h : (s.fetches xs)[1]? = some g) :
    g.before.cpu.pc = s.cpu.nextPc := by
  obtain ⟨f, ys, zs, hf, -, hzs, hnext⟩ := exists_of_fetches_one h
  rw [hnext 0] at h
  rw [(counters_of_fetches_zero (fun hz => hxs (hzs hz)) h).1, f.pc_after,
    (counters_of_fetches_zero hxs hf).2]

end Machine

end R3000
