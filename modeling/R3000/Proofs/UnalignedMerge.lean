import R3000.Proofs.Memory.Fit
import R3000.Proofs.UnalignedWords

/-!
What an unaligned load leaves on its way to a register. It keeps some bits of the register and takes
the others from the aligned word around its address. What it finds in the register is what the
pending load will have left there, with one exception: a load to register 0 never arrives, but the
next unaligned load to register 0 finds its value all the same. Main statement:
`pending_unalignedLoad`, which tells what is left on the way, and when that differs from what the
register file holds.
-/

namespace R3000

/-! ### The two parts of a merge -/

namespace Operation

/-- The part of a register that an unaligned load keeps, at a position in its aligned word. -/
def kept (op : Operation) (k c : Nat) : Nat :=
  match op with
  | lwl => c % 2 ^ (24 - 8 * k)
  | lwr => c / 2 ^ (32 - 8 * k) * 2 ^ (32 - 8 * k)
  | _ => c

/-- The part of the aligned word that it takes, moved to its place. -/
def loaded (op : Operation) (k w : Nat) : Nat :=
  match op with
  | lwl => w * 2 ^ (24 - 8 * k) % 2 ^ 32
  | lwr => w / 2 ^ (8 * k)
  | _ => 0

theorem kept_zero (op : Operation) (k : Nat) : op.kept k 0 = 0 := by
  unfold kept
  split <;> simp

/-- An unaligned load is a merge of both parts. -/
theorem exists_merge {op : Operation} (hop : op = lwl ∨ op = lwr) :
    ∃ merge : Word → Word → Nat → Word,
      (∀ i x m, op.effect i x m = (m.loadWord (x.address i).aligned).map fun w =>
        .loading i.rt (merge (x.mergeBase i.rt) w (x.address i).alignment)) ∧
      ∀ c w k, k < 4 → (merge c w k).toNat = op.kept k c.toNat + op.loaded k w.toNat := by
  rcases hop with rfl | rfl
  · exact ⟨Word.loadLeft, fun _ _ _ => rfl, fun c w _ hk => Word.toNat_loadLeft c w hk⟩
  · exact ⟨Word.loadRight, fun _ _ _ => rfl, fun c w _ hk => Word.toNat_loadRight c w hk⟩

end Operation

/-! ### What is found in a register -/

/-- The kept part of what is found is that of the register once the pending load has arrived, unless
    a load to register 0 is found that has something in this part. -/
theorem Cpu.kept_mergeSource_eq_iff {c : Cpu} (hc : c.Coherent) (op : Operation) (k : Nat)
    (r : Fin 32) : op.kept k (c.mergeSource r).toNat = op.kept k (c.landed r).toNat ↔
      ∀ l, c.pending = some l → l.target = 0 → r = 0 → op.kept k l.value.toNat = 0 := by
  by_cases hr : r = 0
  · subst hr
    have hlanded : op.kept k (c.landed 0).toNat = 0 := by
      rw [landed_zero hc]
      exact op.kept_zero k
    rw [hlanded]
    constructor
    · intro h l hl hzero _
      rwa [mergeSource_of_pending hl hzero] at h
    · intro h
      by_cases hfound : ∃ l, c.pending = some l ∧ l.target = 0
      · obtain ⟨l, hl, hzero⟩ := hfound
        rw [mergeSource_of_pending hl hzero]
        exact h l hl hzero rfl
      · rw [mergeSource_of_ne fun l hl hzero => hfound ⟨l, hl, hzero⟩, hc.zero]
        exact op.kept_zero k
  · rw [mergeSource_eq_landed c hr]
    exact iff_of_true rfl fun _ _ _ hzero => absurd hzero hr

/-! ### The value on its way -/

namespace Machine

/-- What an unaligned load from a mapped address leaves on its way, be the register what it may. The
    cycle succeeds, and the value is put together of the part that is kept of what the load finds in
    its register and the part that is taken of the aligned word. What it finds is the register as it
    is once the pending load has arrived there, which is what the register file holds at the end of
    a cycle that writes nothing else, except where both loads go to register 0. So the value is not
    the merge with the register exactly if the pending load also goes to register 0 and has
    something other than zeros in the part that is kept. -/
theorem pending_unalignedLoad (s : Machine) (hs : s.cpu.Reachable) (op : Operation)
    (hop : op = .lwl ∨ op = .lwr) (a : Word) (r : Fin 32) (h : s.Loads op a r) (ha : Mapped 1 a) :
    (∀ i, (s.cpu.advance i).commit.register = s.cpu.landed) ∧
    ∃ w v, s.memory.loadWord (a &&& ~~~3) = .ok w ∧ s.cycle.1 = .ok () ∧
      s.cycle.2.cpu.pending = some ⟨r, v⟩ ∧
      v.toNat =
        op.kept (a.toNat % 4) (s.cpu.mergeSource r).toNat + op.loaded (a.toNat % 4) w.toNat ∧
      (r ≠ 0 → s.cpu.mergeSource r = s.cpu.landed r) ∧
      (v.toNat = op.kept (a.toNat % 4) (s.cpu.landed r).toNat + op.loaded (a.toNat % 4) w.toNat ↔
        ∀ l, s.cpu.pending = some l → l.target = 0 → r = 0 →
          op.kept (a.toNat % 4) l.value.toNat = 0) := by
  have hc := hs.coherent
  obtain ⟨merge, heffect, hmerge⟩ := op.exists_merge hop
  obtain ⟨i, hcycle⟩ := cycle_of_loads_mergeSource heffect h ha
  have hword : s.memory.loadWord (a &&& ~~~3) = .ok (s.memory.wordAt a.aligned) := by
    rw [← Word.aligned_eq_and]
    exact Memory.loadWord_eq_wordAt (mapped_aligned ha)
  have hvalue := hmerge (s.cpu.mergeSource r) (s.memory.wordAt a.aligned) _ a.alignment_lt
  refine ⟨Cpu.register_commit_advance hc, _, _, hword, by rw [hcycle], by rw [hcycle]; rfl, hvalue,
    s.cpu.mergeSource_eq_landed, ?_⟩
  rw [← Cpu.kept_mergeSource_eq_iff hc, hvalue]
  exact Nat.add_right_cancel_iff

/-- A load of the status register is on its way to register 2, which is still zero, when the right
    part of the first instruction's word is loaded there: it finds the status word. -/
theorem pending_unalignedLoad_status : ∃ s : Machine, s.cpu.Reachable ∧
    s.cpu.pending = some ⟨2, 0x10900000⟩ ∧ s.cpu.register 2 = 0 ∧ s.Loads .lwr 0xBFC00001 2 ∧
    Mapped 1 0xBFC00001 ∧ s.memory.loadWord 0xBFC00000 = .ok 0x40026000 ∧
    s.cycle.2.cpu.pending = some ⟨2, 0x10400260⟩ := by
  obtain ⟨m, hm⟩ : ∃ m, Memory.ofImage ⟨#[0, 0x60, 2, 0x40, 1, 0, 0x22, 0x98]⟩ = .ok m :=
    ⟨_, dif_pos (by decide)⟩
  have hstatus : m.loadWord 0xBFC00000 = .ok 0x40026000 :=
    Memory.loadWord_of_ofImage hm (by decide) (by rfl)
  have hright : m.loadWord 0xBFC00004 = .ok 0x98220001 :=
    Memory.loadWord_of_ofImage hm (by decide) (by rfl)
  have hcycle := cycle_of_effect (s := ⟨Cpu.powerOn.setRegister 1 0xBFC00000, m⟩)
    (e := .loading 2 0x10900000) hstatus rfl
  obtain ⟨s, hs⟩ : ∃ s, s = (cycle ⟨Cpu.powerOn.setRegister 1 0xBFC00000, m⟩).2 := ⟨_, rfl⟩
  have hreach : s.cpu.Reachable := ⟨m, [.setRegister 1 0xBFC00000, .cycle], by rw [hs]; rfl⟩
  have hpending : s.cpu.pending = some ⟨2, 0x10900000⟩ := by rw [hs, hcycle]; rfl
  have hloads : s.Loads .lwr 0xBFC00001 2 := by
    rw [hs, hcycle]
    exact ⟨0x98220001, hright, rfl, rfl, rfl⟩
  have hmapped : Mapped 1 0xBFC00001 := by decide
  have hword : s.memory.loadWord 0xBFC00000 = .ok 0x40026000 := by
    rw [hs, hcycle]
    exact hstatus
  obtain ⟨-, w, v, hw, -, hv, hvalue, -⟩ :=
    pending_unalignedLoad s hreach .lwr (.inr rfl) _ _ hloads hmapped
  obtain rfl : 0x40026000 = w := Except.ok.inj (hword.symm.trans hw)
  rw [Cpu.mergeSource_of_pending hpending rfl] at hvalue
  obtain rfl : v = 0x10400260 := UInt32.toNat_inj.1 hvalue
  exact ⟨s, hreach, hpending, by rw [hs, hcycle]; rfl, hloads, hmapped, hword, hv⟩

/-- A load of the status register to register 0 never arrives, and the left part of the word at
    zero, loaded to register 0 behind it, finds it: its low three bytes are kept, where the register
    has zeros. -/
theorem pending_unalignedLoad_registerZero : ∃ s : Machine, s.cpu.Reachable ∧
    s.cpu.pending = some ⟨0, 0x10900000⟩ ∧ s.Loads .lwl 0 0 ∧ Mapped 1 0 ∧
    s.memory.loadWord 0 = .ok 0 ∧ s.cycle.2.cpu.pending = some ⟨0, 0x00900000⟩ ∧
    Operation.lwl.kept 0 (s.cpu.landed 0).toNat + Operation.lwl.loaded 0 0 = 0 := by
  obtain ⟨m, hm⟩ : ∃ m, Memory.ofImage ⟨#[0, 0x60, 0, 0x40, 0, 0, 0, 0x88]⟩ = .ok m :=
    ⟨_, dif_pos (by decide)⟩
  have hstatus : m.loadWord 0xBFC00000 = .ok 0x40006000 :=
    Memory.loadWord_of_ofImage hm (by decide) (by rfl)
  have hleft : m.loadWord 0xBFC00004 = .ok 0x88000000 :=
    Memory.loadWord_of_ofImage hm (by decide) (by rfl)
  have hzero : m.loadWord 0 = .ok 0 := Memory.loadWord_of_ofImage hm (by decide) (by rfl)
  have hcycle := cycle_of_effect (s := powerOn m) (e := .loading 0 0x10900000) hstatus rfl
  obtain ⟨s, hs⟩ : ∃ s, s = (powerOn m).cycle.2 := ⟨_, rfl⟩
  have hreach : s.cpu.Reachable := ⟨m, [.cycle], by rw [hs]; rfl⟩
  have hpending : s.cpu.pending = some ⟨0, 0x10900000⟩ := by rw [hs, hcycle]; rfl
  have hloads : s.Loads .lwl 0 0 := by
    rw [hs, hcycle]
    exact ⟨0x88000000, hleft, rfl, rfl, rfl⟩
  have hword : s.memory.loadWord 0 = .ok 0 := by
    rw [hs, hcycle]
    exact hzero
  obtain ⟨i, hmerged⟩ := cycle_of_loads_mergeSource (fun _ _ _ => rfl) hloads (by decide)
  have hfound : s.memory.wordAt (0 : Word).aligned = 0 :=
    (Memory.eq_wordAt_of_loadWord (a := (0 : Word).aligned) hword).symm
  refine ⟨s, hreach, hpending, hloads, by decide, hword, ?_, ?_⟩
  · rw [hmerged, hfound, Cpu.mergeSource_of_pending hpending rfl]
    rfl
  · rw [Cpu.landed_zero hreach.coherent]
    rfl

end Machine

end R3000
