import R3000.Proofs.Cycle
import R3000.Proofs.Memory.Patch

/-!
Unaligned words. Two instructions move a word at any address: one at its first byte and one at its
last, in either order, each on the aligned word that holds its byte. The second load merges with the
result of the first, which has not reached its register yet; the second store finds the memory that
the first has left. Main statements: the load pair leaves the word pending, and the store pair
stores the word and changes nothing else.
-/

namespace R3000

namespace Machine

/-! ### Loads -/

section Loads

variable {s : Machine} {op : Operation} {a : Word} {r : Fin 32}

/-- Whether the next cycle executes a load with an address and a register as its target. -/
def Loads (s : Machine) (op : Operation) (a : Word) (r : Fin 32) : Prop :=
  ∃ w, s.memory.loadWord s.cpu.pc = .ok w ∧ Instruction.decode ⟨w⟩ = .ok op ∧
    s.cpu.operands.address ⟨w⟩ = a ∧ Instruction.rt ⟨w⟩ = r

/-- Whether the next two cycles load the right and the left part of the word at an address into a
    register, in either order. -/
def LoadsPair (s : Machine) (a : Word) (r : Fin 32) : Prop :=
  (s.Loads .lwr a r ∧ s.cycle.2.Loads .lwl (a + 3) r) ∨
    (s.Loads .lwl (a + 3) r ∧ s.cycle.2.Loads .lwr a r)

/-- An unaligned load merges an aligned word with what it finds in its register. -/
theorem cycle_of_loads_mergeSource {merge : Word → Word → Nat → Word}
    (hop : ∀ i x m, op.effect i x m = (m.loadWord (x.address i).aligned).map fun w =>
      .loading i.rt (merge (x.mergeBase i.rt) w (x.address i).alignment))
    (h : s.Loads op a r) (ha : Mapped 1 a) :
    ∃ i, s.cycle = (.ok (), ⟨((s.cpu.advance i).apply (.loading r (merge (s.cpu.mergeSource r)
      (s.memory.wordAt a.aligned) a.alignment))).commit, s.memory⟩) := by
  obtain ⟨w, hw, hdecode, haddress, hr⟩ := h
  have hx : (s.cpu.advance ⟨w⟩).operands.address ⟨w⟩ = a := (address_advance s w).trans haddress
  have heffect : s.effect w = .ok (.loading r
      (merge ((s.cpu.advance ⟨w⟩).mergeBase r) (s.memory.wordAt a.aligned) a.alignment)) := by
    rw [effect_of_decode hdecode, hop, hx, Memory.loadWord_eq_wordAt (mapped_aligned ha), hr]
    rfl
  rw [Cpu.mergeBase_advance_eq] at heffect
  exact ⟨⟨w⟩, cycle_of_effect hw heffect⟩

/-- An unaligned load merges an aligned word with a value, which is the pending one if that goes to
    the same register. -/
theorem cycle_of_loads {merge : Word → Word → Nat → Word}
    (hop : ∀ i x m, op.effect i x m = (m.loadWord (x.address i).aligned).map fun w =>
      .loading i.rt (merge (x.mergeBase i.rt) w (x.address i).alignment))
    (h : s.Loads op a r) (ha : Mapped 1 a) :
    ∃ i c, (∀ v, s.cpu.pending = some ⟨r, v⟩ → c = v) ∧
      s.cycle = (.ok (), ⟨((s.cpu.advance i).apply (.loading r
        (merge c (s.memory.wordAt a.aligned) a.alignment))).commit, s.memory⟩) := by
  obtain ⟨i, hcycle⟩ := cycle_of_loads_mergeSource hop h ha
  exact ⟨i, _, fun v hv => Cpu.mergeSource_of_pending hv rfl, hcycle⟩

/-- The pair leaves the word at its address pending. -/
theorem pending_of_loadsPair (ha : Mapped 1 a) (hb : Mapped 1 (a + 3)) (h : s.LoadsPair a r) :
    s.cycle.1 = .ok () ∧ s.cycle.2.cycle.1 = .ok () ∧
      s.cycle.2.cycle.2.cpu.pending = some ⟨r, s.memory.wordAt a⟩ := by
  rcases h with ⟨h₁, h₂⟩ | ⟨h₁, h₂⟩
  · -- the right part first
    obtain ⟨_, c, -, hfirst⟩ := cycle_of_loads (fun _ _ _ => rfl) h₁ ha
    rw [hfirst] at h₂ ⊢
    obtain ⟨_, d, hd, hsecond⟩ := cycle_of_loads (fun _ _ _ => rfl) h₂ hb
    rw [hsecond, hd _ rfl, Memory.mergeLeft_mergeRight _ ha hb]
    exact ⟨rfl, rfl, rfl⟩
  · -- the left part first
    obtain ⟨_, c, -, hfirst⟩ := cycle_of_loads (fun _ _ _ => rfl) h₁ hb
    rw [hfirst] at h₂ ⊢
    obtain ⟨_, d, hd, hsecond⟩ := cycle_of_loads (fun _ _ _ => rfl) h₂ ha
    rw [hsecond, hd _ rfl, Memory.mergeRight_mergeLeft _ ha hb]
    exact ⟨rfl, rfl, rfl⟩

/-- Two unaligned loads, in either order, load the word at any address whose first and last bytes
    are mapped, be it to register 0, to the register that the address comes from, or to one with
    another load pending. A load of the word, where it succeeds, reads the same; the pair also works
    where the two bytes lie in different regions and it does not. -/
theorem loads_unaligned (s : Machine) (a : Word) (r : Fin 32) (ha : Mapped 1 a)
    (hb : Mapped 1 (a + 3)) (h : s.LoadsPair a r) :
    s.cycle.1 = .ok () ∧ s.cycle.2.cycle.1 = .ok () ∧
    (∃ b : Nat → UInt8, (∀ i < 4, s.memory.loadByte (a + UInt32.ofNat i) = .ok (b i)) ∧
      s.cycle.2.cycle.2.cpu.pending = some ⟨r, (b 0).toUInt32 ||| ((b 1).toUInt32 <<< 8) |||
        ((b 2).toUInt32 <<< 16) ||| ((b 3).toUInt32 <<< 24)⟩) ∧
    ∀ w, s.memory.loadWord a = .ok w → s.cycle.2.cycle.2.cpu.pending = some ⟨r, w⟩ := by
  obtain ⟨hok₁, hok₂, hpending⟩ := pending_of_loadsPair ha hb h
  refine ⟨hok₁, hok₂, ⟨(s.memory.wordAt a).byte, ?_, ?_⟩, ?_⟩
  · intro i hi
    exact Memory.loadByte_add ha hb hi
  · rw [hpending, ← Word.ofBytes_eq_or, Word.ofBytes_byte]
  · intro w hw
    rw [hpending, Memory.eq_wordAt_of_loadWord hw]

/-- The word over the end of expansion 3, which no load of a word reaches, into the register that
    its address comes from. -/
theorem loads_unaligned_regions : ∃ s : Machine, s.cpu.Reachable ∧
    Mapped 1 0x1FBFFFFF ∧ Mapped 1 (0x1FBFFFFF + 3) ∧ s.LoadsPair 0x1FBFFFFF 1 ∧
    s.cpu.register 1 = 0x1FC00000 ∧
    s.memory.loadWord 0x1FBFFFFF = .error (.unmappedAddress 0x1FBFFFFF) ∧
    s.cycle.1 = .ok () ∧ s.cycle.2.cycle.1 = .ok () ∧
    s.cycle.2.cycle.2.cpu.pending = some ⟨1, 0x21FFFF00⟩ := by
  obtain ⟨m, hm⟩ : ∃ m, Memory.ofImage ⟨#[0xFF, 0xFF, 0x21, 0x98, 2, 0, 0x21, 0x88]⟩ = .ok m :=
    ⟨_, dif_pos (by decide)⟩
  have hright : m.loadWord 0xBFC00000 = .ok 0x9821FFFF :=
    Memory.loadWord_of_ofImage hm (by decide) (by rfl)
  have hleft : m.loadWord 0xBFC00004 = .ok 0x88210002 :=
    Memory.loadWord_of_ofImage hm (by decide) (by rfl)
  have hfirst : Mapped 1 0x1FBFFFFF := by decide
  have hlast : Mapped 1 (0x1FBFFFFF + 3) := by decide
  obtain ⟨s, hs⟩ : ∃ s : Machine, s = ⟨Cpu.powerOn.setRegister 1 0x1FC00000, m⟩ := ⟨_, rfl⟩
  have hreach : s.cpu.Reachable := ⟨m, [.setRegister 1 0x1FC00000], by rw [hs]; rfl⟩
  have hpair : s.LoadsPair 0x1FBFFFFF 1 := by
    have haddress : (Cpu.powerOn.setRegister 1 0x1FC00000).operands.address ⟨0x9821FFFF⟩ =
      0x1FBFFFFF := by decide
    have h : s.Loads .lwr 0x1FBFFFFF 1 := by
      rw [hs]
      exact ⟨0x9821FFFF, hright, rfl, haddress, rfl⟩
    obtain ⟨i, c, -, hcycle⟩ := cycle_of_loads (fun _ _ _ => rfl) h hfirst
    refine .inl ⟨h, ?_⟩
    rw [hcycle, hs]
    exact ⟨0x88210002, hleft, rfl, rfl, rfl⟩
  obtain ⟨hok₁, hok₂, ⟨b, hb, hpending⟩, -⟩ := loads_unaligned s 0x1FBFFFFF 1 hfirst hlast hpair
  have hbyte (k : Nat) (hk : k < 4) : b k =
      FlatMemory.ofImage ⟨#[0xFF, 0xFF, 0x21, 0x98, 2, 0, 0x21, 0x88]⟩
        (location (0x1FBFFFFF + UInt32.ofNat k)) := by
    have h := hb k hk
    rw [hs, Memory.loadByte_of_mapped (Memory.shows_ofImage hm) (mapped_add hfirst hlast hk)] at h
    exact (Except.ok.inj h).symm
  refine ⟨s, hreach, hfirst, hlast, hpair, by rw [hs]; rfl, ?_, hok₁, hok₂, ?_⟩
  · exact Memory.loadWord_of_not_mapped (by decide)
  · rw [hpending, hbyte 0 (by decide), hbyte 1 (by decide), hbyte 2 (by decide),
      hbyte 3 (by decide)]
    rfl

end Loads

/-! ### Stores -/

section Stores

variable {c c₁ c₂ : Cpu} {i i₁ i₂ : Instruction} {op : Operation} {m : Memory} {a v : Word}

/-- Whether an instruction is a store of a register that holds a value to an address, while the
    cache is not isolated. -/
structure Stores (c : Cpu) (i : Instruction) (op : Operation) (a v : Word) : Prop where
  decode : i.decode = .ok op
  address : c.operands.address i = a
  value : c.register i.rt = v
  connected : StatusFlag.isolateCache.isSet c.status = false

/-- Whether two instructions store the right and the left part of a word at an address, in either
    order. -/
def StoresPair (c₁ c₂ : Cpu) (i₁ i₂ : Instruction) (a v : Word) : Prop :=
  (Stores c₁ i₁ .swr a v ∧ Stores c₂ i₂ .swl (a + 3) v) ∨
    (Stores c₁ i₁ .swl (a + 3) v ∧ Stores c₂ i₂ .swr a v)

/-- A store that finds its place writes memory and leaves the processor alone. -/
theorem execute_of_stores {store : Memory → Word → Word → Except Fault Store}
    (hop : ∀ i x m, op.effect i x m = x.store (store m (x.address i) (x.register i.rt)))
    (h : Stores c i op a v) {s : Store} (hs : store m a v = .ok s) :
    execute ⟨c, m⟩ i = (.ok (), ⟨c, m.write s⟩) := by
  have hregister : c.operands.register i.rt = v := h.value
  have hisolated : c.operands.isolated = false := h.connected
  have heffect : i.effect c.operands m = .ok (.storing s) := by
    simp only [Instruction.effect, h.decode]
    rw [hop, Operands.store_of_not_isolated hisolated, h.address, hregister, hs]
    rfl
  rw [execute_eq_perform, heffect]
  rfl

/-- The pair patches the four bytes of the word, and nothing else. -/
theorem patch_of_storesPair (m : Memory) (ha : Mapped 1 a) (hb : Mapped 1 (a + 3))
    (h : StoresPair c₁ c₂ i₁ i₂ a v) :
    ∃ m₁ m₂, execute ⟨c₁, m⟩ i₁ = (.ok (), ⟨c₁, m₁⟩) ∧
      execute ⟨c₂, m₁⟩ i₂ = (.ok (), ⟨c₂, m₂⟩) ∧
      Memory.Patch m m₂ (location a) v fun _ => True := by
  have hthree : location (a + 3) = location a + 3 := location_add ha hb (i := 3) (by decide)
  rcases h with ⟨h₁, h₂⟩ | ⟨h₁, h₂⟩
  · -- the right part first
    obtain ⟨s, hs, hright⟩ := m.patch_right ha v
    obtain ⟨t, ht, hleft⟩ := (m.write s).patch_left hb hthree v
    refine ⟨_, _, execute_of_stores (fun _ _ _ => rfl) h₁ hs,
      execute_of_stores (fun _ _ _ => rfl) h₂ ht, (hright.trans hleft).congr fun i _ => ?_⟩
    exact iff_true_intro (Memory.mem_right_or_left a i)
  · -- the left part first
    obtain ⟨s, hs, hleft⟩ := m.patch_left hb hthree v
    obtain ⟨t, ht, hright⟩ := (m.write s).patch_right ha v
    refine ⟨_, _, execute_of_stores (fun _ _ _ => rfl) h₁ hs,
      execute_of_stores (fun _ _ _ => rfl) h₂ ht, (hleft.trans hright).congr fun i _ => ?_⟩
    exact iff_true_intro (Memory.mem_right_or_left a i).symm

/-- Two unaligned stores, in either order, store a word at any address whose first and last bytes
    are mapped. Both succeed. Every byte of the word is at its address then, and every byte of every
    buffer that is none of the four, and so every byte at another address, is as it was. A store of
    the word, where it succeeds, leaves the same memory. The load pair reads the word back. -/
theorem stores_unaligned (m : Memory) (a v : Word) (ha : Mapped 1 a) (hb : Mapped 1 (a + 3))
    (c₁ c₂ : Cpu) (i₁ i₂ : Instruction) (h : StoresPair c₁ c₂ i₁ i₂ a v) :
    ∃ m₁ m₂, execute ⟨c₁, m⟩ i₁ = (.ok (), ⟨c₁, m₁⟩) ∧
      execute ⟨c₂, m₁⟩ i₂ = (.ok (), ⟨c₂, m₂⟩) ∧
      (∀ k < 4, m₂.loadByte (a + UInt32.ofNat k) = .ok (v.byte k)) ∧
      (∀ r o ho, (∀ k < 4, Region.resolve (a + UInt32.ofNat k) ≠ some (r, o)) →
        m₂.get r o ho = m.get r o ho) ∧
      (∀ b, (∀ k < 4, Region.resolve b ≠ Region.resolve (a + UInt32.ofNat k)) →
        m₂.loadByte b = m.loadByte b) ∧
      (∀ m', m.storeWord a v = (.ok (), m') → m₂ = m') ∧
      ∀ (s : Machine) (r : Fin 32), s.memory = m₂ → s.LoadsPair a r →
        s.cycle.1 = .ok () ∧ s.cycle.2.cycle.1 = .ok () ∧
          s.cycle.2.cycle.2.cpu.pending = some ⟨r, v⟩ := by
  obtain ⟨m₁, m₂, hfirst, hsecond, hpatch⟩ := patch_of_storesPair m ha hb h
  have hword := hpatch.wordAt_eq ha hb
  refine ⟨m₁, m₂, hfirst, hsecond, ?_, ?_, ?_, ?_, ?_⟩
  · intro k hk
    rw [Memory.loadByte_add ha hb hk, hword]
  · intro r o ho hr
    exact hpatch.get_eq ha hb ho hr
  · intro b hb'
    exact hpatch.loadByte_eq ha hb hb'
  · intro m' hm'
    rw [Memory.storeWord] at hm'
    cases hs : Store.ofWord a v with
    | error f =>
      rw [hs] at hm'
      cases hm'
    | ok s =>
      rw [hs] at hm'
      obtain rfl : m.write s = m' := congrArg Prod.snd hm'
      exact hpatch.unique (Memory.patch_write hs)
  · intro s r hs hpair
    obtain ⟨hok₁, hok₂, hpending⟩ := pending_of_loadsPair ha hb hpair
    rw [hs, hword] at hpending
    exact ⟨hok₁, hok₂, hpending⟩

/-- A word over the end of expansion 3 and the start of the BIOS, between bytes that stay zero. -/
theorem stores_unaligned_regions : ∃ (c : Cpu) (m₁ m₂ : Memory), c.Reachable ∧
    Mapped 1 0x1FBFFFFE ∧ Mapped 1 (0x1FBFFFFE + 3) ∧
    StoresPair c c ⟨0xB8220000⟩ ⟨0xA8220003⟩ 0x1FBFFFFE 0x12345678 ∧
    execute ⟨c, .zeros⟩ ⟨0xB8220000⟩ = (.ok (), ⟨c, m₁⟩) ∧
    execute ⟨c, m₁⟩ ⟨0xA8220003⟩ = (.ok (), ⟨c, m₂⟩) ∧
    m₂.loadByte 0x1FBFFFFD = .ok 0 ∧ m₂.loadByte 0x1FBFFFFE = .ok 0x78 ∧
    m₂.loadByte 0x1FC00001 = .ok 0x12 ∧ m₂.loadByte 0x1FC00002 = .ok 0 := by
  have hfirst : Mapped 1 0x1FBFFFFE := by decide
  have hlast : Mapped 1 (0x1FBFFFFE + 3) := by decide
  obtain ⟨c, hc⟩ : ∃ c : Cpu, c = (Cpu.powerOn.setRegister 1 0x1FBFFFFE).setRegister 2 0x12345678 :=
    ⟨_, rfl⟩
  have hreach : c.Reachable :=
    ⟨.zeros, [.setRegister 1 0x1FBFFFFE, .setRegister 2 0x12345678], by rw [hc]; rfl⟩
  have hpair : StoresPair c c ⟨0xB8220000⟩ ⟨0xA8220003⟩ 0x1FBFFFFE 0x12345678 := by
    rw [hc]
    exact .inl ⟨⟨rfl, by decide, by decide, by decide⟩, ⟨rfl, by decide, by decide, by decide⟩⟩
  obtain ⟨m₁, m₂, hexecute₁, hexecute₂, hinside, -, houtside, -⟩ :=
    stores_unaligned .zeros 0x1FBFFFFE 0x12345678 hfirst hlast c c _ _ hpair
  have hzero {b : Word} (hb : Mapped 1 b) : Memory.zeros.loadByte b = .ok 0 :=
    Memory.loadByte_of_mapped Memory.shows_zeros hb
  refine ⟨c, m₁, m₂, hreach, hfirst, hlast, hpair, hexecute₁, hexecute₂, ?_, hinside 0 (by decide),
    hinside 3 (by decide), ?_⟩
  · rw [houtside 0x1FBFFFFD (by decide), hzero (by decide)]
  · rw [houtside 0x1FC00002 (by decide), hzero (by decide)]

end Stores

end Machine

end R3000
