import R3000.Proofs.Cycle
import R3000.Proofs.Memory.Fit

/-!
When a cycle fails, and with which fault. The fetch fails if the word at the program counter does
not fit, and a word that is fetched fails if it does not decode, if the machine lacks what it asks
for, or if it has an access that does not fit, where an unaligned access is that of one byte and a
store counts only while the cache is not isolated. Main statement: `cycle_eq_error_iff`, for every
machine and every fault.
-/

namespace R3000

theorem map_eq_error_iff {ε α β : Type} {g : α → β} {x : Except ε α} {e : ε} :
    x.map g = .error e ↔ x = .error e := by
  cases x <;> simp [Except.map]

theorem StatusFlag.isSet_isolateCache (status : Word) :
    isolateCache.isSet status = status.toNat.testBit 16 := by
  rw [isSet, bit, Nat.testBit_eq_decide_div_mod_eq, Bool.eq_iff_iff, beq_iff_eq,
    decide_eq_true_iff, ← UInt32.toNat_inj]
  simp [Nat.shiftRight_eq_div_pow]

theorem Operands.store_eq_error_iff {x : Operands} {s : Except Fault Store} {f : Fault} :
    x.store s = .error f ↔ x.isolated = false ∧ s = .error f := by
  cases hx : x.isolated with
  | true => simp [store_of_isolated hx]
  | false => simp [store_of_not_isolated hx, map_eq_error_iff]

/-! ### Operations -/

namespace Operation

/-- The feature that an operation asks for and the machine lacks. -/
def feature? : Operation → Option Feature
  | syscall => some .syscall
  | breakpoint => some .breakpoint
  | cop2 => some .geometry
  | _ => none

/-- The number of bytes that a load reads from its address on. -/
def loadWidth? : Operation → Option Nat
  | lb | lbu => some 1
  | lh | lhu => some 2
  | lw => some 4
  | _ => none

/-- The number of bytes that a store writes from its address on. -/
def storeWidth? : Operation → Option Nat
  | sb => some 1
  | sh => some 2
  | sw => some 4
  | _ => none

/-- The faults of an operation, given the word that asks for it, the address of its access, and
    whether the cache is isolated. -/
inductive Refuses (op : Operation) (w a : Word) (isolated : Bool) : Fault → Prop where
  | feature {feature : Feature} (h : op.feature? = some feature) :
    Refuses op w a isolated (.notImplemented feature w)
  | transfer (h : op = cfc0 ∨ op = ctc0) : Refuses op w a isolated (.noControlRegisters w)
  | load {n : Nat} (h : op.loadWidth? = some n) (hfit : ¬ Fits n a) :
    Refuses op w a isolated (.unmappedAddress a)
  | unalignedLoad (h : op = lwl ∨ op = lwr) (hfit : ¬ Fits 1 a) :
    Refuses op w a isolated (.unmappedAddress (a &&& ~~~3))
  | store {n : Nat} (h : op.storeWidth? = some n) (hconnected : isolated = false)
    (hfit : ¬ Fits n a) : Refuses op w a isolated (.unmappedAddress a)
  | unalignedStore (h : op = swl ∨ op = swr) (hconnected : isolated = false)
    (hfit : ¬ Fits 1 a) : Refuses op w a isolated (.unmappedAddress (a &&& ~~~3))

variable {op : Operation} {i : Instruction} {x : Operands} {m : Memory} {f : Fault}

theorem effect_load_eq_error_iff {n : Nat} (h : op.loadWidth? = some n) :
    op.effect i x m = .error f ↔
      ¬ Fits n (x.address i) ∧ f = .unmappedAddress (x.address i) := by
  cases op with
  | lb | lbu =>
    obtain rfl := Option.some.inj h
    exact map_eq_error_iff.trans Memory.loadByte_eq_error_iff
  | lh | lhu =>
    obtain rfl := Option.some.inj h
    exact map_eq_error_iff.trans Memory.loadHalf_eq_error_iff
  | lw =>
    obtain rfl := Option.some.inj h
    exact map_eq_error_iff.trans Memory.loadWord_eq_error_iff
  | _ => cases h

/-- An unaligned load fails for the aligned word, which fits exactly if the byte does. -/
theorem effect_unalignedLoad_eq_error_iff (h : op = lwl ∨ op = lwr) :
    op.effect i x m = .error f ↔
      ¬ Fits 1 (x.address i) ∧ f = .unmappedAddress (x.address i &&& ~~~3) := by
  rw [← fits_aligned_iff, ← Word.aligned_eq_and]
  rcases h with rfl | rfl <;> exact map_eq_error_iff.trans Memory.loadWord_eq_error_iff

theorem effect_store_eq_error_iff {n : Nat} (h : op.storeWidth? = some n) :
    op.effect i x m = .error f ↔
      x.isolated = false ∧ ¬ Fits n (x.address i) ∧ f = .unmappedAddress (x.address i) := by
  cases op with
  | sb | sh | sw =>
    obtain rfl := Option.some.inj h
    exact Operands.store_eq_error_iff.trans (and_congr_right fun _ => Store.ofBytes_eq_error_iff)
  | _ => cases h

theorem effect_unalignedStore_eq_error_iff (h : op = swl ∨ op = swr) :
    op.effect i x m = .error f ↔
      x.isolated = false ∧ ¬ Fits 1 (x.address i) ∧
        f = .unmappedAddress (x.address i &&& ~~~3) := by
  rw [← fits_aligned_iff, ← Word.aligned_eq_and]
  rcases h with rfl | rfl <;>
    exact Operands.store_eq_error_iff.trans (and_congr_right fun _ => Store.merge_eq_error_iff)

/-- An operation that fails does so for one of the reasons. -/
theorem refuses_of_effect (h : op.effect i x m = .error f) :
    op.Refuses i.word (x.address i) x.isolated f := by
  cases op with
  | syscall | breakpoint | cop2 =>
    obtain rfl := Except.error.inj h
    exact .feature rfl
  | cfc0 | ctc0 =>
    obtain rfl := Except.error.inj h
    exact .transfer (by decide)
  | lb | lbu | lh | lhu | lw =>
    obtain ⟨hfit, rfl⟩ := (effect_load_eq_error_iff rfl).1 h
    exact .load rfl hfit
  | lwl | lwr =>
    obtain ⟨hfit, rfl⟩ := (effect_unalignedLoad_eq_error_iff (by decide)).1 h
    exact .unalignedLoad (by decide) hfit
  | sb | sh | sw =>
    obtain ⟨hconnected, hfit, rfl⟩ := (effect_store_eq_error_iff rfl).1 h
    exact .store rfl hconnected hfit
  | swl | swr =>
    obtain ⟨hconnected, hfit, rfl⟩ := (effect_unalignedStore_eq_error_iff (by decide)).1 h
    exact .unalignedStore (by decide) hconnected hfit
  | _ => cases h

/-- Each of the reasons makes an operation fail. -/
theorem effect_of_refuses (h : op.Refuses i.word (x.address i) x.isolated f) :
    op.effect i x m = .error f := by
  cases h with
  | feature h => cases op <;> cases h <;> rfl
  | transfer h => rcases h with rfl | rfl <;> rfl
  | load h hfit => exact (effect_load_eq_error_iff h).2 ⟨hfit, rfl⟩
  | unalignedLoad h hfit => exact (effect_unalignedLoad_eq_error_iff h).2 ⟨hfit, rfl⟩
  | store h hconnected hfit => exact (effect_store_eq_error_iff h).2 ⟨hconnected, hfit, rfl⟩
  | unalignedStore h hconnected hfit =>
    exact (effect_unalignedStore_eq_error_iff h).2 ⟨hconnected, hfit, rfl⟩

end Operation

/-! ### Cycles -/

namespace Machine

variable {s : Machine} {w : Word} {f : Fault}

/-- A word that is fetched fails if it does not decode, or for what its operation finds in front of
    the cycle. -/
theorem effect_eq_error_iff : s.effect w = .error f ↔ Instruction.decode ⟨w⟩ = .error f ∨
    ∃ op, Instruction.decode ⟨w⟩ = .ok op ∧
      op.Refuses w (s.cpu.operands.address ⟨w⟩) (s.cpu.status.toNat.testBit 16) f := by
  have haddress := s.address_advance w
  have hisolated : (s.cpu.advance ⟨w⟩).operands.isolated = s.cpu.status.toNat.testBit 16 :=
    StatusFlag.isSet_isolateCache _
  rw [effect, Instruction.effect, ← haddress, ← hisolated]
  cases hop : Instruction.decode ⟨w⟩ with
  | error f' => simp
  | ok op =>
    constructor
    · intro h
      exact .inr ⟨op, rfl, Operation.refuses_of_effect h⟩
    · rintro (h | ⟨op', h, hrefuses⟩)
      · cases h
      · obtain rfl := Except.ok.inj h
        exact Operation.effect_of_refuses hrefuses

theorem cycle_eq_error_of_fetched (hw : s.memory.loadWord s.cpu.pc = .ok w) :
    s.cycle.1 = .error f ↔ s.effect w = .error f := by
  cases he : s.effect w with
  | error f' => rw [cycle_of_fault hw he]; simp
  | ok e => rw [cycle_of_effect hw he]; simp

/-- When a cycle fails, and with which fault. Either the word at the program counter does not fit,
    or one is fetched and does not decode, or its operation refuses it: it asks for what the machine
    lacks, or the bytes at the address that the registers in front of the cycle give do not fit,
    where an unaligned load or store counts as one byte, and a store only while bit 16 of the status
    register is clear. The alignment of an address never counts: an access fits if its bytes follow
    one another in one region. And where a byte is mapped its aligned word fits, so an unaligned
    load or store never fails at the edge of a region. -/
theorem cycle_eq_error_iff (s : Machine) :
    (∀ f, s.cycle.1 = .error f ↔
      (¬ Fits 4 s.cpu.pc ∧ f = .unmappedAddress s.cpu.pc) ∨
      ∃ w, s.memory.loadWord s.cpu.pc = .ok w ∧
        (Instruction.decode ⟨w⟩ = .error f ∨
        ∃ op, Instruction.decode ⟨w⟩ = .ok op ∧
          op.Refuses w (s.cpu.register (Instruction.rs ⟨w⟩) + Instruction.signedImmediate ⟨w⟩)
            (s.cpu.status.toNat.testBit 16) f)) ∧
    (∀ n a, 0 < n → (Fits n a ↔
      ∃ r o, ∀ k < n, Region.resolve (a + UInt32.ofNat k) = some (r, o + k))) ∧
    ∀ a, Fits 1 a ↔ Fits 4 (a &&& ~~~3) := by
  refine ⟨fun f => ?_, fun n a hn => fits_iff_resolve hn, fun a => ?_⟩
  · rw [← Memory.loadWord_eq_error_iff (m := s.memory)]
    cases hw : s.memory.loadWord s.cpu.pc with
    | error f' =>
      rw [cycle_of_error hw]
      simp
    | ok w =>
      rw [cycle_eq_error_of_fetched hw, effect_eq_error_iff]
      constructor
      · intro h
        exact .inr ⟨w, rfl, h⟩
      · rintro (h | ⟨w', hw', h⟩)
        · cases h
        · obtain rfl := Except.ok.inj hw'
          exact h
  · rw [← Word.aligned_eq_and, fits_aligned_iff]

/-- At the last byte of the scratchpad two bytes do not fit, and the load of them fails. The
    unaligned load that follows needs only one, and succeeds. -/
theorem cycle_eq_error_iff_lastByte : ∃ s : Machine, s.cpu.Reachable ∧
    s.cpu.register 1 = 0x1F8003FF ∧ s.memory.loadWord s.cpu.pc = .ok 0x84220000 ∧
    s.cycle.1 = .error (.unmappedAddress 0x1F8003FF) ∧
    s.cycle.2.memory.loadWord s.cycle.2.cpu.pc = .ok 0x88220000 ∧ s.cycle.2.cycle.1 = .ok () ∧
    0 < 2 ∧ ¬ ∃ r o, ∀ k < 2, Region.resolve (0x1F8003FF + UInt32.ofNat k) = some (r, o + k) := by
  obtain ⟨m, hm⟩ : ∃ m, Memory.ofImage ⟨#[0, 0, 0x22, 0x84, 0, 0, 0x22, 0x88]⟩ = .ok m :=
    ⟨_, dif_pos (by decide)⟩
  have hhalf : m.loadWord 0xBFC00000 = .ok 0x84220000 :=
    Memory.loadWord_of_ofImage hm (by decide) (by rfl)
  have hleft : m.loadWord 0xBFC00004 = .ok 0x88220000 :=
    Memory.loadWord_of_ofImage hm (by decide) (by rfl)
  obtain ⟨c, hc⟩ : ∃ c : Cpu, c = Cpu.powerOn.setRegister 1 0x1F8003FF := ⟨_, rfl⟩
  have hreach : c.Reachable := ⟨m, [.setRegister 1 0x1F8003FF], by rw [hc]; rfl⟩
  have hbase : c.register 1 = 0x1F8003FF := by rw [hc]; rfl
  have hpc : m.loadWord c.pc = .ok 0x84220000 := by rw [hc]; exact hhalf
  obtain ⟨hcycle, hfits, -⟩ := cycle_eq_error_iff ⟨c, m⟩
  have haddress : c.register (Instruction.rs ⟨0x84220000⟩) +
      Instruction.signedImmediate ⟨0x84220000⟩ = 0x1F8003FF := by
    rw [hc]
    rfl
  have hnofit : ¬ Fits 2 0x1F8003FF := by decide
  have hfault : (cycle ⟨c, m⟩).1 = .error (.unmappedAddress 0x1F8003FF) := by
    refine (hcycle _).2 (.inr ⟨_, hpc, .inr ⟨.lh, rfl, ?_⟩⟩)
    rw [haddress]
    exact .load rfl hnofit
  have heffect := (cycle_eq_error_of_fetched hpc).1 hfault
  have hnext := cycle_of_fault hpc heffect
  have hapart : ¬ ∃ r o, ∀ k < 2, Region.resolve (0x1F8003FF + UInt32.ofNat k) = some (r, o + k) :=
    fun h => hnofit ((hfits 2 _ (by decide)).2 h)
  refine ⟨⟨c, m⟩, hreach, hbase, hpc, hfault, ?_, ?_, by decide, hapart⟩
  · rw [hnext, hc]
    exact hleft
  · obtain ⟨s, hs⟩ : ∃ s, s = (cycle ⟨c, m⟩).2 := ⟨_, rfl⟩
    have hspc : s.memory.loadWord s.cpu.pc = .ok 0x88220000 := by
      rw [hs, hnext, hc]
      exact hleft
    have hsbase : s.cpu.operands.address ⟨0x88220000⟩ = 0x1F8003FF := by
      rw [hs, hnext, hc]
      rfl
    have hop : Instruction.decode ⟨0x88220000⟩ = .ok .lwl := rfl
    rw [← hs]
    cases hresult : s.cycle.1 with
    | ok u => rfl
    | error f =>
      have herror := (cycle_eq_error_of_fetched hspc).1 hresult
      rw [effect_of_decode hop, Operation.effect_unalignedLoad_eq_error_iff (by decide),
        address_advance, hsbase] at herror
      exact absurd (by decide) herror.1

end Machine

end R3000
