import R3000.Proofs.Monitor.Calls

/-!
Resets. A reset leaves what power-on leaves with the present content of the BIOS, and keeps the
breakpoints and the trace. The BIOS changes only through a store that goes there; so, as long as no
store has, a reset cannot be told from a new machine with the same image and the same breakpoints.
Main statements: the store that each call carries out, and `reset_powerOn`.
-/

namespace R3000

/-! ### Breakpoints, one by one -/

namespace Breakpoints

theorem place_of_forall_lt {a : Word} {bs : List Word} (h : ∀ b ∈ bs, b < a) :
    place a bs = bs ++ [a] := by
  induction bs with
  | nil => rfl
  | cons b bs ih =>
    obtain ⟨hb, hbs⟩ := List.forall_mem_cons.1 h
    rw [place, if_neg (UInt32.lt_asymm hb), if_neg (UInt32.ne_of_lt hb).symm, ih hbs]
    rfl

/-- Addresses that lie behind those of a set are put behind them. -/
theorem addresses_foldl_insert (s : Breakpoints) {bs : List Word}
    (h : (s.addresses ++ bs).Pairwise (· < ·)) :
    (bs.foldl insert s).addresses = s.addresses ++ bs := by
  induction bs generalizing s with
  | nil => exact (List.append_nil _).symm
  | cons b bs ih =>
    have hinsert : (s.insert b).addresses = s.addresses ++ [b] :=
      place_of_forall_lt fun a ha => (List.pairwise_append.1 h).2.2 a ha b List.mem_cons_self
    have hassoc : (s.insert b).addresses ++ bs = s.addresses ++ b :: bs := by
      rw [hinsert, List.append_assoc]
      rfl
    rw [List.foldl_cons, ih (s.insert b) (by rw [hassoc]; exact h), hassoc]

theorem eq_of_addresses {s t : Breakpoints} (h : s.addresses = t.addresses) : s = t := by
  cases s
  cases t
  cases h
  rfl

/-- A set is rebuilt from its addresses. -/
theorem foldl_insert_toList (s : Breakpoints) : s.toList.foldl insert empty = s := by
  have h : (s.toList.foldl insert empty).addresses = s.addresses :=
    addresses_foldl_insert empty s.ascending
  exact eq_of_addresses h

end Breakpoints

/-! ### The stores of a call -/

/-- The store that an access carries out, if it does. -/
def Memory.Access.store? : Access → Option Store
  | .storeByte a v => (Store.ofByte a v).toOption
  | .storeHalf a v => (Store.ofHalf a v).toOption
  | .storeWord a v => (Store.ofWord a v).toOption
  | _ => none

namespace Machine

/-- The store that a cycle carries out, if it does. -/
def cycleStore? (s : Machine) : Option Store :=
  match s.memory.loadWord s.cpu.pc with
  | .error _ => none
  | .ok w =>
    match s.effect w with
    | .error _ => none
    | .ok e => e.store

/-- The store that a call carries out, if it does. -/
def store? (s : Machine) : Call → Option Store
  | .cycle => s.cycleStore?
  | .access x => x.store?
  | _ => none

end Machine

namespace Monitor

/-- The stores that a call carries out. -/
def stores (s : Monitor) : Call → List Store
  | .machine x => (s.machine.store? x).toList
  | x => (s.attempts x).filterMap Machine.cycleStore?

/-- The stores that a list of calls carries out. -/
def storesOver : Monitor → List Call → List Store
  | _, [] => []
  | s, x :: xs => s.stores x ++ (s.call x).2.storesOver xs

end Monitor

/-- Whether a store goes somewhere else than to the BIOS. -/
def Store.SparesBios (t : Store) : Prop := t.place.region ≠ .bios

theorem Memory.bios_write {m : Memory} {t : Store} (h : t.SparesBios) :
    (m.write t).bios = m.bios := m.buffer_modify_of_ne _ h.symm

theorem Memory.bios_perform {m : Memory} {t : Except Fault Store}
    (h : ∀ p ∈ t.toOption, p.SparesBios) : (m.perform t).2.bios = m.bios := by
  cases t with
  | error f => rfl
  | ok p => exact bios_write (h p rfl)

namespace Machine

variable {s : Machine}

theorem bios_cycle (h : ∀ p ∈ s.cycleStore?, p.SparesBios) :
    s.cycle.2.memory.bios = s.memory.bios := by
  obtain ⟨f, -, hcycle⟩ | ⟨w, f, -, -, hcycle⟩ | ⟨w, e, hw, he, hcycle⟩ := s.cycle_cases
  · rw [hcycle]
    rfl
  · rw [hcycle]
  · have hstore : s.cycleStore? = e.store := by
      rw [cycleStore?, hw]
      dsimp only
      rw [he]
    rw [hstore] at h
    rw [hcycle, Memory.apply]
    cases hp : e.store with
    | none => rfl
    | some p => exact Memory.bios_write (h p hp)

theorem bios_call {x : Call} (h : ∀ p ∈ s.store? x, p.SparesBios) :
    (s.call x).2.memory.bios = s.memory.bios := by
  cases x with
  | cycle => exact bios_cycle h
  | access x =>
    cases x with
    | storeByte a v | storeHalf a v | storeWord a v => exact Memory.bios_perform h
    | _ => rfl
  | _ => rfl

end Machine

namespace Monitor

variable {s t : Monitor}

theorem bios_after {n : Nat}
    (h : ∀ p ∈ (s.machines n).filterMap Machine.cycleStore?, p.SparesBios) :
    (s.after n).machine.memory.bios = s.machine.memory.bios := by
  induction n with
  | zero => rfl
  | succ n ih =>
    rw [machines_succ, List.filterMap_append, List.forall_mem_append] at h
    obtain ⟨hfirst, hlast⟩ := h
    rw [after_succ, machine_step, Machine.bios_cycle, ih hfirst]
    exact fun p hp => hlast p (List.mem_filterMap.2 ⟨_, List.mem_singleton_self _, hp⟩)

theorem bios_call {x : Call} (h : ∀ p ∈ s.stores x, p.SparesBios) :
    (s.call x).2.machine.memory.bios = s.machine.memory.bios := by
  cases x with
  | step | stepN n | run fuel limit =>
    rw [call_of_isStepping rfl]
    exact bios_after h
  | machine x => exact Machine.bios_call fun p hp => h p (Option.mem_toList.2 hp)
  | enableTracing created limit => cases created <;> rfl
  | _ => rfl

theorem bios_calls {xs : List Call} (h : ∀ p ∈ s.storesOver xs, p.SparesBios) :
    (Run.after call s xs).machine.memory.bios = s.machine.memory.bios := by
  induction xs generalizing s with
  | nil => rfl
  | cons x xs ih =>
    obtain ⟨hx, hxs⟩ := List.forall_mem_append.1 h
    exact (ih hxs).trans (bios_call hx)

/-! ### Resets and power-on -/

theorem foldl_addBreakpoint (s : Monitor) (bs : List Word) : bs.foldl addBreakpoint s =
    { s with breakpoints := bs.foldl Breakpoints.insert s.breakpoints } := by
  induction bs generalizing s with
  | nil => rfl
  | cons b bs ih => exact ih (s.addBreakpoint b)

end Monitor

/-- A memory is reset to what power-on makes of its BIOS. -/
theorem Memory.ofImage_bios (m : Memory) : ofImage m.bios.bytes = .ok m.reset := by
  have hsize : m.bios.bytes.size ≤ Region.bios.size := Nat.le_of_eq m.bios.size_bytes
  have hpadded : Buffer.padded m.bios.bytes hsize = m.bios := by
    refine Buffer.ext_get fun i hi => ?_
    rw [Buffer.get_padded, dif_pos (Nat.lt_of_lt_of_eq hi m.bios.size_bytes.symm)]
    rfl
  rw [ofImage, dif_pos hsize, hpadded]
  rfl

/-- Power-on makes a memory that a reset leaves as it is. -/
theorem Memory.reset_of_ofImage {image : ByteArray} {m : Memory} (h : ofImage image = .ok m) :
    m.reset = m := by
  unfold ofImage at h
  split at h
  next => cases h; rfl
  next => cases h

namespace Monitor

theorem ofImage_eq_ok {image : ByteArray} {t : Monitor} (h : ofImage image = .ok t) :
    ∃ m, Memory.ofImage image = .ok m ∧ t = ofMemory m := by
  obtain ⟨m, hm, rfl⟩ := exists_of_map_eq_ok h
  exact ⟨m, hm, rfl⟩

/-- What a reset does after any calls, from a new machine on. It leaves processor, memory and count
    of cycles as power-on with the present content of the BIOS would, keeps the breakpoints, and the
    trace with its limit, and counts the traced instructions from zero. As long as no store has gone
    to the BIOS, all that follows a reset gives the same answers, and leaves the same machine and
    the same count of cycles, as on a new machine with the same image and the same breakpoints. -/
theorem reset_powerOn {image : ByteArray} {s t : Monitor} {xs : List Call}
    (ht : ofImage image = .ok t) (hs : s = Run.after call t xs) :
    (∃ u, ofImage s.machine.memory.bios.bytes = .ok u ∧
      s.reset.machine = u.machine ∧ s.reset.cycles = u.cycles) ∧
    s.reset.breakpoints = s.breakpoints ∧
    s.reset.tracing = s.tracing.map (fun p => { p with count := 0 }) ∧ s.reset.traceCount = 0 ∧
    ((∀ p ∈ t.storesOver xs, p.SparesBios) → ∀ ys,
      Run.answers call s.reset ys =
        Run.answers call (s.breakpoints.toList.foldl addBreakpoint t) ys ∧
      (Run.after call s.reset ys).machine =
        (Run.after call (s.breakpoints.toList.foldl addBreakpoint t) ys).machine ∧
      (Run.after call s.reset ys).cycles =
        (Run.after call (s.breakpoints.toList.foldl addBreakpoint t) ys).cycles) := by
  refine ⟨⟨ofMemory s.machine.memory.reset, ?_, rfl, rfl⟩, rfl, rfl, ?_, fun hstores ys => ?_⟩
  · rw [ofImage, Memory.ofImage_bios]
    rfl
  · rw [traceCount, reset]
    cases s.tracing <;> rfl
  · obtain ⟨m, hm, rfl⟩ := ofImage_eq_ok ht
    have hbios : s.machine.memory.bios = m.bios := by
      rw [hs]
      exact bios_calls hstores
    have hmemory : s.machine.memory.reset = m := by
      rw [← Memory.reset_of_ofImage hm, Memory.reset, Memory.reset, hbios]
    have hlike : s.reset.Alike (s.breakpoints.toList.foldl addBreakpoint (ofMemory m)) := by
      rw [foldl_addBreakpoint]
      refine ⟨?_, rfl, s.breakpoints.foldl_insert_toList.symm⟩
      exact congrArg (Machine.mk Cpu.powerOn) hmemory
    obtain ⟨hanswers, hend⟩ := Run.answers_eq_of_simulation (fun s t x h => h.call x) hlike ys
    exact ⟨hanswers, hend.machine, hend.cycles⟩

/-- A word is stored to RAM in a traced step up to a breakpoint. The reset forgets it, and the
    machine does the same again. -/
theorem reset_powerOn_store : ∃ (image : ByteArray) (s t : Monitor),
    (t.storesOver [.machine (.setRegister 1 0x12345678), .addBreakpoint 0xBFC00004,
      .enableTracing true 1, .step]).map (·.place.region) = [.ram] ∧
    s = Run.after call t [.machine (.setRegister 1 0x12345678), .addBreakpoint 0xBFC00004,
      .enableTracing true 1, .step] ∧
    ofImage image = .ok t ∧ s.cycles = 1 ∧ s.traceCount = 1 ∧
    s.machine.memory.get .ram 0 (by decide) = 0x78 ∧
    s.reset.cycles = 0 ∧ s.reset.traceCount = 0 ∧
    s.reset.machine.memory.get .ram 0 (by decide) = 0 ∧
    Run.answers call s.reset [.run 9 none, .step] =
      Run.answers call (t.addBreakpoint 0xBFC00004) [.run 9 none, .step] := by
  obtain ⟨m, hm⟩ : ∃ m, Memory.ofImage ⟨#[0, 0, 0x01, 0xAC]⟩ = .ok m := ⟨_, dif_pos (by decide)⟩
  have hw : m.loadWord 0xBFC00000 = .ok 0xAC010000 :=
    Memory.loadWord_of_ofImage hm (by decide) (by rfl)
  let c : Cpu := Cpu.powerOn.setRegister 1 0x12345678
  let p : Store := ⟨Word.bytes 0x12345678, .ram, 0, by decide⟩
  let xs : List Call := [.machine (.setRegister 1 0x12345678), .addBreakpoint 0xBFC00004,
    .enableTracing true 1, .step]
  let t : Monitor := ofMemory m
  let u : Monitor := ⟨⟨c, m⟩, 0, Breakpoints.empty.insert 0xBFC00004, some (.start 1)⟩
  have hdecode : Instruction.decode ⟨0xAC010000⟩ = .ok .sw := rfl
  have heffect : Machine.effect ⟨c, m⟩ 0xAC010000 = .ok (.storing p) := by
    have hisolated : (c.advance ⟨0xAC010000⟩).operands.isolated = false := by decide
    have hstore : Store.ofWord 0 0x12345678 = .ok p := rfl
    rw [Machine.effect_of_decode hdecode, Operation.effect,
      Operands.store_of_not_isolated hisolated]
    exact congrArg (Except.map Effect.storing) hstore
  have hcycle := Machine.cycle_of_effect (s := ⟨c, m⟩) hw heffect
  have hstep := step_of_ok (s := u) hcycle
  have hs : Run.after call t xs = u.step.2 := rfl
  have hstores : t.storesOver xs = [p] := by
    have hstore : Machine.cycleStore? ⟨c, m⟩ = some p := by
      have hfetched : m.loadWord c.pc = .ok 0xAC010000 := hw
      rw [Machine.cycleStore?, hfetched]
      dsimp only
      rw [heffect]
      rfl
    have hlast : [Machine.mk c m].filterMap Machine.cycleStore? ++ [] = [p] := by
      simp [hstore]
    exact hlast
  have hmemory : u.step.2.machine.memory = m.write p := by
    rw [hstep]
    rfl
  have hstored : u.step.2.machine.memory.get .ram 0 (by decide) = 0x78 := by
    rw [hmemory, Memory.get_write, if_pos ⟨rfl, Nat.le_refl 0⟩]
    rfl
  have himage : ofImage ⟨#[0, 0, 0x01, 0xAC]⟩ = .ok t := by
    rw [ofImage, hm]
    rfl
  obtain ⟨-, -, -, hcount, hsame⟩ := reset_powerOn himage hs.symm
  have hspared : ∀ q ∈ t.storesOver xs, q.SparesBios := by
    rw [hstores]
    exact List.forall_mem_singleton.2 (by decide : Region.ram ≠ .bios)
  have hbreakpoints : u.step.2.breakpoints.toList = [0xBFC00004] := by
    rw [breakpoints_step]
    rfl
  rw [hbreakpoints] at hsame
  refine ⟨_, u.step.2, t, by rw [hstores]; rfl, hs.symm, himage, by rw [hstep], ?_, hstored, rfl,
    hcount, ?_, (hsame hspared _).1⟩
  · rw [hstep]
    rfl
  · exact (Memory.get_reset ..).trans (if_neg (by decide))

end Monitor

end R3000
