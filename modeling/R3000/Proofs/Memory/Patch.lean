import R3000.Proofs.Machine.Effect
import R3000.Proofs.Memory.Unaligned

/-!
Patches: what a store of some bytes of a word changes, and what it leaves. A patch settles every
byte of every buffer, also of the part of expansion 2 that no address reaches. Main statements: a
word store is a patch of four bytes; the two unaligned stores are patches of the bytes that lie in
their aligned words; one patch behind another is a patch; and a patch determines the memory that it
leaves.
-/

namespace R3000

/-- Whether the byte of a buffer is the one at a location. -/
def Region.At (r : Region) (o p : Nat) : Prop := r.window.Holds p 1 ∧ p = r.origin + o

namespace Region

variable {r r' : Region} {o o' p q : Nat}

/-- A byte of a buffer has one location. -/
theorem At.unique (h : r.At o p) (h' : r.At o q) : p = q := h.2.trans h'.2.symm

/-- A location has one byte. -/
theorem At.eq (h : r.At o p) (h' : r'.At o' p) : r = r' ∧ o = o' := by
  obtain rfl := eq_of_holds h.1 h'.1
  have := h.2
  have := h'.2
  exact ⟨rfl, by omega⟩

end Region

/-- The bytes of a place are the ones at the locations from that of its address on. -/
theorem Place.at_iff {n : Nat} {a : Word} {p : Place n} (h : of? n a = some p) {i : Nat}
    (hi : i < n) {r : Region} {o : Nat} :
    r.At o (location a + i) ↔ r = p.region ∧ o = p.offset + i := by
  obtain ⟨⟨hfirst, hlast⟩, ho⟩ := holds_of_of? h
  have hat : p.region.At (p.offset + i) (location a + i) := ⟨⟨by omega, by omega⟩, by omega⟩
  constructor
  · intro hr
    exact hr.eq hat
  · rintro ⟨rfl, rfl⟩
    exact hat

namespace Memory

theorem get_of_at (m : Memory) {r : Region} {o p : Nat} (h : r.At o p) (ho : o < r.size) :
    m.get r o ho = m.flatten p :=
  get_of_holds m.shows_flatten h.1 h.2 ho

/-- A memory that differs from another one in some bytes of a word laid out from a location on. -/
structure Patch (m m' : Memory) (p : Nat) (v : Word) (I : Nat → Prop) : Prop where
  inside : ∀ i < 4, I i → ∀ r o ho, r.At o (p + i) → m'.get r o ho = v.byte i
  outside : ∀ r o ho, (∀ i < 4, I i → ¬ r.At o (p + i)) → m'.get r o ho = m.get r o ho

namespace Patch

variable {m m₁ m₂ : Memory} {p q : Nat} {v w : Word} {I J : Nat → Prop}

/-- One patch behind another, of the same word at the same location. -/
theorem trans (h : Patch m m₁ p v I) (h' : Patch m₁ m₂ p v J) :
    Patch m m₂ p v fun i => I i ∨ J i := by
  constructor
  · intro i hi hij r o ho hr
    by_cases hj : J i
    · exact h'.inside i hi hj r o ho hr
    · -- the byte is one of the first patch, and has another location than all of the second
      rw [h'.outside r o ho, h.inside i hi (hij.resolve_right hj) r o ho hr]
      intro j _ hjj hr'
      have hp : p + i = p + j := hr.unique hr'
      obtain rfl : i = j := by omega
      exact hj hjj
  · intro r o ho hr
    rw [h'.outside r o ho fun i hi hj => hr i hi (.inr hj),
      h.outside r o ho fun i hi hI => hr i hi (.inl hI)]

/-- Only the four bytes of the word count. -/
theorem congr (h : Patch m m₁ p v I) (hIJ : ∀ i < 4, I i ↔ J i) : Patch m m₁ p v J := by
  constructor
  · intro i hi hj
    exact h.inside i hi ((hIJ i hi).2 hj)
  · intro r o ho hr
    exact h.outside r o ho fun i hi hI => hr i hi ((hIJ i hi).1 hI)

/-- A patch leaves nothing open. -/
theorem unique (h : Patch m m₁ p v I) (h' : Patch m m₂ p v I) : m₁ = m₂ := by
  refine ext_get fun r o ho => ?_
  by_cases hr : ∃ i < 4, I i ∧ r.At o (p + i)
  · obtain ⟨i, hi, hI, hr⟩ := hr
    rw [h.inside i hi hI r o ho hr, h'.inside i hi hI r o ho hr]
  · have hout : ∀ i < 4, I i → ¬ r.At o (p + i) := fun i hi hI hc => hr ⟨i, hi, hI, hc⟩
    rw [h.outside r o ho hout, h'.outside r o ho hout]

/-- A word store whose other bytes are those of memory is a patch of the rest. -/
theorem of_word (h : Patch m m₁ q w fun _ => True)
    (hin : ∀ i < 4, I i → ∃ j < 4, q + j = p + i ∧ w.byte j = v.byte i)
    (hout : ∀ j < 4, (∃ i < 4, I i ∧ q + j = p + i) ∨ w.byte j = m.flatten (q + j)) :
    Patch m m₁ p v I := by
  constructor
  · intro i hi hI r o ho hr
    obtain ⟨j, hj, hp, hv⟩ := hin i hi hI
    rw [h.inside j hj trivial r o ho (by rwa [hp]), hv]
  · intro r o ho hr
    by_cases hq : ∃ j < 4, r.At o (q + j)
    · obtain ⟨j, hj, hat⟩ := hq
      rcases hout j hj with ⟨i, hi, hI, hp⟩ | hw
      · exact absurd (by rwa [← hp]) (hr i hi hI)
      · rw [h.inside j hj trivial r o ho hat, hw, get_of_at m hat]
    · exact h.outside r o ho fun j hj _ hat => hq ⟨j, hj, hat⟩

/-- The word that a whole patch lays out is the one at its address. -/
theorem wordAt_eq {a : Word} (h : Patch m m₁ (location a) v fun _ => True) (ha : Mapped 1 a)
    (hb : Mapped 1 (a + 3)) : m₁.wordAt a = v := by
  refine Word.ext_byte fun i hi => ?_
  obtain ⟨r, -, hw⟩ := mapped_add ha hb hi
  rw [location_add ha hb hi] at hw
  have horigin := r.origin_le_first_window
  have hlast := r.last_window
  have hfirst := hw.1
  have hat : r.At (location a + i - r.origin) (location a + i) := ⟨hw, by omega⟩
  have ho : location a + i - r.origin < r.size := by have := hw.2; omega
  rw [byte_wordAt _ _ hi, ← get_of_at m₁ hat ho, h.inside i hi trivial _ _ ho hat]

/-- Bytes at other addresses than those of the word are as before. -/
theorem get_eq {a : Word} (h : Patch m m₁ (location a) v fun _ => True) (ha : Mapped 1 a)
    (hb : Mapped 1 (a + 3)) {r : Region} {o : Nat} (ho : o < r.size)
    (hr : ∀ i < 4, Region.resolve (a + UInt32.ofNat i) ≠ some (r, o)) :
    m₁.get r o ho = m.get r o ho := by
  refine h.outside r o ho fun i hi _ hat => hr i hi ?_
  rw [Region.resolve_eq_some_iff, location_add ha hb hi]
  exact hat

theorem loadByte_eq {a b : Word} (h : Patch m m₁ (location a) v fun _ => True) (ha : Mapped 1 a)
    (ha' : Mapped 1 (a + 3))
    (hb : ∀ i < 4, Region.resolve b ≠ Region.resolve (a + UInt32.ofNat i)) :
    m₁.loadByte b = m.loadByte b := by
  unfold loadByte
  cases hfind : Place.find 1 b with
  | error f => rfl
  | ok p =>
    have hp := Place.resolve_of_of? (Place.find_eq_ok_iff.1 hfind)
    exact congrArg _ (h.get_eq ha ha' _ fun i hi hr => hb i hi (hp.trans hr.symm))

end Patch

/-! ### Stores of words -/

section Stores

variable {m : Memory} {a v : Word} {s : Store}

theorem exists_ofWord (ha : Mapped 4 a) (v : Word) : ∃ s, Store.ofWord a v = .ok s := by
  have hpos : 0 < v.bytes.length := Nat.succ_pos 3
  obtain ⟨r, o, hfits, hfind, -, -⟩ := Place.find_of_mapped hpos ha
  exact ⟨⟨v.bytes, r, o, hfits⟩, by rw [Store.ofWord, Store.ofBytes, hfind]⟩

/-- A word store changes the four bytes at its locations. -/
theorem patch_write (h : Store.ofWord a v = .ok s) :
    Patch m (m.write s) (location a) v fun _ => True := by
  unfold Store.ofWord Store.ofBytes at h
  split at h
  next p hfind =>
    obtain rfl := Except.ok.inj h
    have hp := Place.find_eq_ok_iff.1 hfind
    constructor
    · intro i hi _ r o ho hr
      obtain ⟨rfl, rfl⟩ := (Place.at_iff hp hi).1 hr
      rw [get_write, if_pos ⟨rfl, Nat.le_add_right ..⟩, Nat.add_sub_cancel_left,
        getElem?_bytes v hi]
      rfl
    · intro r o ho hr
      rw [get_write]
      split
      next hc =>
        obtain ⟨hregion, hle⟩ := hc
        have hge : 4 ≤ o - p.offset := by
          by_contra hlt
          have hlt : o - p.offset < 4 := by omega
          exact hr _ hlt trivial ((Place.at_iff hp hlt).2 ⟨hregion, (Nat.add_sub_cancel' hle).symm⟩)
        rw [List.getElem?_eq_none hge]
        rfl
      next => rfl
  next => cases h

/-- The store at the first byte changes the bytes that lie in its aligned word. -/
theorem patch_right (m : Memory) (ha : Mapped 1 a) (v : Word) : ∃ s, Store.right m a v = .ok s ∧
    Patch m (m.write s) (location a) v fun i => i + a.alignment < 4 := by
  obtain ⟨s, hs⟩ := exists_ofWord (mapped_aligned ha)
    (Word.storeRight (m.wordAt a.aligned) v a.alignment)
  have hk := a.alignment_lt
  have hloc := location_aligned a
  refine ⟨s, by rw [Store.right, loadWord_eq_wordAt (mapped_aligned ha)]; exact hs, ?_⟩
  refine (patch_write hs).of_word ?_ ?_
  · intro i hi hI
    refine ⟨i + a.alignment, hI, by omega, ?_⟩
    rw [Word.byte_storeRight _ _ hk hI, if_pos (Nat.le_add_left ..), Nat.add_sub_cancel]
  · intro j hj
    by_cases hkj : a.alignment ≤ j
    · exact .inl ⟨j - a.alignment, by omega, by omega, by omega⟩
    · exact .inr (by rw [Word.byte_storeRight _ _ hk hj, if_neg hkj, byte_wordAt _ _ hj])

/-- The store at the last byte changes the bytes that lie in its aligned word. -/
theorem patch_left (m : Memory) {p : Nat} (ha : Mapped 1 a) (hp : location a = p + 3) (v : Word) :
    ∃ s, Store.left m a v = .ok s ∧
      Patch m (m.write s) p v fun i => 3 ≤ i + a.alignment := by
  obtain ⟨s, hs⟩ := exists_ofWord (mapped_aligned ha)
    (Word.storeLeft (m.wordAt a.aligned) v a.alignment)
  have hk := a.alignment_lt
  have hloc := location_aligned a
  refine ⟨s, by rw [Store.left, loadWord_eq_wordAt (mapped_aligned ha)]; exact hs, ?_⟩
  refine (patch_write hs).of_word ?_ ?_
  · intro i hi hI
    have hj : i + a.alignment - 3 < 4 := by omega
    refine ⟨i + a.alignment - 3, hj, by omega, ?_⟩
    rw [Word.byte_storeLeft _ _ hk hj, if_pos (by omega)]
    congr 1
    omega
  · intro j hj
    by_cases hkj : j ≤ a.alignment
    · exact .inl ⟨j + 3 - a.alignment, by omega, by omega, by omega⟩
    · exact .inr (by rw [Word.byte_storeLeft _ _ hk hj, if_neg hkj, byte_wordAt _ _ hj])

end Stores

end Memory

end R3000
