import R3000.Proofs.Machine.Effect
import R3000.Proofs.Cpu.Effect
import R3000.Proofs.Memory.Unaligned

/-!
Extents: the bytes that each store may write. A store of a byte, a halfword or a word writes from
its address on; the unaligned ones write the part of their aligned word that lies up to their
address or from it on, though they store all of it. Main statement: a byte that a store changes is
one of its extent.
-/

namespace R3000

/-! ### Bytes of an access -/

section Access

variable {a : Word} {n k : Nat}

/-- The locations of a mapped access follow one another. -/
theorem location_add_of_mapped (ha : Mapped n a) (hk : k < n) :
    location (a + UInt32.ofNat k) = location a + k := by
  obtain ⟨r, -, hfirst, hlast⟩ := ha
  have hlt := a.toNat_lt
  have hend : r.window.last < 0xFFFE0200 ∧
      (r.window.first < 0xFFFE0000 → r.window.last < 0x1FC80000) := by
    cases r <;> decide
  have hadd : (a + UInt32.ofNat k).toNat = (a.toNat + k) % 2 ^ 32 := by
    simp [UInt32.toNat_add]
  by_cases hin : 0xFFFE0000 ≤ a.toNat ∧ a.toNat ≤ 0xFFFE01FF
  · have hloc : location a = a.toNat := if_pos hin
    rw [location, if_pos] <;> omega
  · -- the low bits of an address outside of cache control never carry into the others
    have hloc : location a = a.toNat % 2 ^ 29 := if_neg hin
    rw [location, if_neg] <;> omega

/-- A byte of a mapped access resolves to the place of the access and its position in that. -/
theorem resolve_add {p : Place n} (h : Place.of? n a = some p) (hk : k < n) :
    Region.resolve (a + UInt32.ofNat k) = some (p.region, p.offset + k) := by
  obtain ⟨⟨hfirst, hlast⟩, hloc⟩ := Place.holds_of_of? h
  have ha : Mapped n a := ⟨p.region, Region.mem_all _, hfirst, hlast⟩
  rw [Region.resolve_eq_some_iff, location_add_of_mapped ha hk]
  exact ⟨⟨by omega, by omega⟩, by omega⟩

end Access

/-! ### Bytes of a store -/

/-- The bytes that a store may write: the address of the first one, and their number. -/
def Operation.extent (op : Operation) (a : Word) : Word × Nat :=
  match op with
  | sb => (a, 1)
  | sh => (a, 2)
  | sw => (a, 4)
  | swl => (a.aligned, a.alignment + 1)
  | swr => (a, 4 - a.alignment)
  | _ => (a, 0)

/-- The store that an operation asks for, of a value at an address. -/
def Operation.store? (op : Operation) (m : Memory) (a v : Word) : Option (Except Fault Store) :=
  match op with
  | sb => some (Store.ofByte a v.toUInt8)
  | sh => some (Store.ofHalf a v.toUInt16)
  | sw => some (Store.ofWord a v)
  | swl => some (Store.left m a v)
  | swr => some (Store.right m a v)
  | _ => none

namespace Memory

variable {m : Memory} {a v : Word} {r : Region} {o : Nat} {ho : o < r.size}

/-- A byte that a store changes is one of those that it lays out from its address on. -/
theorem exists_of_get_write_ne {bytes : List UInt8} {s : Store}
    (hs : Store.ofBytes a bytes = .ok s) (h : (m.write s).get r o ho ≠ m.get r o ho) :
    ∃ k < bytes.length, Region.resolve (a + UInt32.ofNat k) = some (r, o) ∧
      bytes[k]? ≠ some (m.get r o ho) := by
  unfold Store.ofBytes at hs
  split at hs
  next p hp =>
    obtain rfl := Except.ok.inj hs
    rw [get_write] at h
    split at h
    next hplace =>
      obtain ⟨rfl, hle⟩ := hplace
      obtain ⟨k, rfl⟩ := Nat.exists_eq_add_of_le hle
      rw [Nat.add_sub_cancel_left] at h
      by_cases hk : k < bytes.length
      · rw [List.getElem?_eq_getElem hk] at h
        refine ⟨k, hk, resolve_add (Place.find_eq_ok_iff.1 hp) hk, ?_⟩
        rw [List.getElem?_eq_getElem hk]
        exact fun heq => h (Option.some.inj heq)
      · rw [List.getElem?_eq_none (Nat.not_lt.1 hk)] at h
        exact absurd rfl h
    next => exact absurd rfl h
  next => cases hs

/-- A byte that the store of a merged word changes is one that the merge does not take from
    memory. -/
theorem exists_of_merged {w : Word} {s : Store} (hs : Store.ofWord a.aligned w = .ok s)
    (h : (m.write s).get r o ho ≠ m.get r o ho) :
    ∃ k < 4, Region.resolve (a.aligned + UInt32.ofNat k) = some (r, o) ∧
      w.byte k ≠ (m.wordAt a.aligned).byte k := by
  obtain ⟨k, hk, hr, hne⟩ := exists_of_get_write_ne hs h
  replace hk : k < 4 := hk
  have hat := Region.resolve_eq_some_iff.1 hr
  rw [location_aligned_add a hk] at hat
  rw [getElem?_bytes w hk, get_of_holds m.shows_flatten hat.1 hat.2 ho,
    ← byte_wordAt m a.aligned hk] at hne
  exact ⟨k, hk, hr, fun heq => hne (congrArg some heq)⟩

/-- The aligned word that an unaligned store merges with. -/
theorem exists_of_merge {merge : Word → Word} {s : Store}
    (hs : ((m.loadWord a.aligned).bind fun w => Store.ofWord a.aligned (merge w)) = .ok s) :
    Store.ofWord a.aligned (merge (m.wordAt a.aligned)) = .ok s := by
  cases hw : m.loadWord a.aligned with
  | error f =>
    rw [hw] at hs
    cases hs
  | ok w =>
    rw [hw, eq_wordAt_of_loadWord hw] at hs
    exact hs

/-- A byte that a store changes is one of its extent. -/
theorem exists_of_store? {op : Operation} {s : Store} (hs : op.store? m a v = some (.ok s))
    (h : (m.write s).get r o ho ≠ m.get r o ho) : ∃ k < (op.extent a).2,
      Region.resolve ((op.extent a).1 + UInt32.ofNat k) = some (r, o) := by
  have halignment := a.alignment_lt
  cases op with
  | sb | sh | sw =>
    obtain ⟨k, hk, hr, -⟩ := exists_of_get_write_ne (Option.some.inj hs) h
    exact ⟨k, hk, hr⟩
  | swl =>
    obtain ⟨k, hk, hr, hne⟩ := exists_of_merged (exists_of_merge (Option.some.inj hs)) h
    refine ⟨k, ?_, hr⟩
    by_contra hout
    have hout : ¬ k ≤ a.alignment := fun hle => hout (Nat.lt_succ_of_le hle)
    exact hne (by rw [Word.byte_storeLeft _ _ halignment hk, if_neg hout])
  | swr =>
    obtain ⟨k, hk, hr, hne⟩ := exists_of_merged (exists_of_merge (Option.some.inj hs)) h
    by_cases hin : a.alignment ≤ k
    · obtain ⟨j, rfl⟩ := Nat.exists_eq_add_of_le hin
      rw [UInt32.ofNat_add, ← UInt32.add_assoc, Word.aligned_add_alignment] at hr
      exact ⟨j, by rw [Operation.extent]; omega, hr⟩
    · exact absurd (by rw [Word.byte_storeRight _ _ halignment hk, if_neg hin]) hne
  | _ => cases hs

end Memory

end R3000
