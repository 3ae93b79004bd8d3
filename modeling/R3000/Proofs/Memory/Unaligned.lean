import R3000.Proofs.Cpu.Merge
import R3000.Proofs.Memory.Flat

/-!
Words at any address. The four bytes from an address on lie in one or two aligned words, in one
region or two, and their locations follow one another as soon as the first and the last are mapped.
Main statements: each of the four is mapped then, and the two merges of aligned words, in either
order, make up the word that they are.
-/

namespace R3000

/-! ### Addresses in their aligned words -/

namespace Word

theorem toNat_aligned_add (a : Word) {i : Nat} (hi : i < 4) :
    (a.aligned + UInt32.ofNat i).toNat = a.aligned.toNat + i := by
  have ha := a.toNat_lt
  simp only [UInt32.toNat_add, UInt32.toNat_ofNat', toNat_aligned]
  omega

theorem aligned_add_alignment (a : Word) : a.aligned + UInt32.ofNat a.alignment = a := by
  apply UInt32.toNat_inj.1
  rw [toNat_aligned_add a a.alignment_lt, toNat_aligned_add_alignment]

theorem alignment_add_three (a : Word) : (a + 3).alignment = (a.alignment + 3) % 4 := by
  simp only [alignment, UInt32.toNat_add, UInt32.reduceToNat]
  omega

end Word

section Locations

variable {a : Word}

/-- An aligned word lies in one piece. -/
theorem location_aligned_add (a : Word) {i : Nat} (hi : i < 4) :
    location (a.aligned + UInt32.ofNat i) = location a.aligned + i := by
  have ha := a.toNat_aligned
  have hadd := a.toNat_aligned_add hi
  unfold location
  split <;> split <;> omega

/-- A location is that of the aligned word and the position in it. -/
theorem location_aligned (a : Word) : location a = location a.aligned + a.alignment := by
  rw [← location_aligned_add a a.alignment_lt, Word.aligned_add_alignment]

/-- The region of a byte holds its whole aligned word. -/
theorem mapped_aligned (ha : Mapped 1 a) : Mapped 4 a.aligned := by
  obtain ⟨r, hr, hfirst, hlast⟩ := ha
  have hloc := location_aligned a
  have hk := a.alignment_lt
  have hfour : location a.aligned % 4 = 0 := by
    have := a.toNat_aligned
    unfold location
    split <;> omega
  have hwindow : r.window.first % 4 = 0 ∧ (r.window.last + 1) % 4 = 0 := by
    cases r <;> decide
  exact ⟨r, hr, by omega, by omega⟩

/-- The locations behind a mapped address follow one another up to the next mapped one. -/
theorem location_add (ha : Mapped 1 a) (hb : Mapped 1 (a + 3)) {i : Nat} (hi : i < 4) :
    location (a + UInt32.ofNat i) = location a + i := by
  have hlt := a.toNat_lt
  have hadd : (a + UInt32.ofNat i).toNat = (a.toNat + i) % 2 ^ 32 := by
    simp only [UInt32.toNat_add, UInt32.toNat_ofNat']
    omega
  have hthree : (a + 3).toNat = (a.toNat + 3) % 2 ^ 32 := by simp [UInt32.toNat_add]
  have hend {b : Word} (hb : Mapped 1 b) (hout : ¬ (0xFFFE0000 ≤ b.toNat ∧ b.toNat ≤ 0xFFFE01FF)) :
      b.toNat % 2 ^ 29 < 0x1FC80000 := by
    obtain ⟨r, -, hr⟩ := hb
    rw [location, if_neg hout] at hr
    cases r <;> simp only [Region.window, Window.Holds] at hr <;> omega
  by_cases hin : 0xFFFE0000 ≤ a.toNat ∧ a.toNat ≤ 0xFFFE01FF
  · -- the last byte cannot lie behind cache control
    have := hend hb
    rw [location, location, if_pos hin, if_pos] <;> omega
  · have := hend ha hin
    rw [location, location, if_neg hin, if_neg] <;> omega

/-- Each of the four bytes lies in the aligned word of the first or in that of the last. -/
theorem mapped_add (ha : Mapped 1 a) (hb : Mapped 1 (a + 3)) {i : Nat} (hi : i < 4) :
    Mapped 1 (a + UInt32.ofNat i) := by
  have hloc := location_add ha hb hi
  have hthree : location (a + 3) = location a + 3 := location_add ha hb (i := 3) (by decide)
  have hfirst := location_aligned a
  have hlast := location_aligned (a + 3)
  have hk := a.alignment_lt
  have hk' := a.alignment_add_three
  by_cases h : i + a.alignment < 4
  · obtain ⟨r, hr, hw⟩ := mapped_aligned ha
    exact ⟨r, hr, by have := hw.1; omega, by have := hw.2; omega⟩
  · obtain ⟨r, hr, hw⟩ := mapped_aligned hb
    exact ⟨r, hr, by have := hw.1; omega, by have := hw.2; omega⟩

end Locations

/-! ### The word at an address -/

namespace Memory

variable {m : Memory} {a : Word}

/-- The word whose bytes lie at the location of an address and the three locations behind it, which
    need not belong to one region. -/
def wordAt (m : Memory) (a : Word) : Word :=
  .ofBytes (m.flatten (location a)) (m.flatten (location a + 1)) (m.flatten (location a + 2))
    (m.flatten (location a + 3))

theorem byte_wordAt (m : Memory) (a : Word) {i : Nat} (hi : i < 4) :
    (m.wordAt a).byte i = m.flatten (location a + i) :=
  Word.byte_ofBytes (fun i => m.flatten (location a + i)) hi

theorem loadWord_eq_wordAt (ha : Mapped 4 a) : m.loadWord a = .ok (m.wordAt a) :=
  loadWord_of_mapped m.shows_flatten ha

/-- A load that succeeds reads the word at its address. -/
theorem eq_wordAt_of_loadWord {w : Word} (h : m.loadWord a = .ok w) : w = m.wordAt a :=
  Except.ok.inj (h.symm.trans (loadWord_eq_wordAt (mapped_of_loadWord h)))

theorem loadByte_add (ha : Mapped 1 a) (hb : Mapped 1 (a + 3)) {i : Nat} (hi : i < 4) :
    m.loadByte (a + UInt32.ofNat i) = .ok ((m.wordAt a).byte i) := by
  rw [loadByte_of_mapped m.shows_flatten (mapped_add ha hb hi), location_add ha hb hi,
    byte_wordAt m a hi]

/-! ### The merges of the two aligned words -/

/-- The merge at the first byte finds the bytes that lie in its aligned word. -/
theorem byte_mergeRight (m : Memory) (a c : Word) {i : Nat} (hi : i < 4) :
    (Word.loadRight c (m.wordAt a.aligned) a.alignment).byte i =
      if i + a.alignment < 4 then (m.wordAt a).byte i else c.byte i := by
  rw [Word.byte_loadRight _ _ a.alignment_lt hi]
  split
  next h =>
    have hp : location a.aligned + (i + a.alignment) = location a + i := by
      rw [location_aligned a]
      omega
    rw [byte_wordAt _ _ h, byte_wordAt _ _ hi, hp]
  next => rfl

/-- The merge at the last byte finds the bytes that lie in its aligned word. -/
theorem byte_mergeLeft (m : Memory) (ha : Mapped 1 a) (hb : Mapped 1 (a + 3)) (c : Word) {i : Nat}
    (hi : i < 4) : (Word.loadLeft c (m.wordAt (a + 3).aligned) (a + 3).alignment).byte i =
      if 3 ≤ i + (a + 3).alignment then (m.wordAt a).byte i else c.byte i := by
  have hk := (a + 3).alignment_lt
  rw [Word.byte_loadLeft _ _ hk hi]
  split
  next h =>
    have hthree : location (a + 3) = location a + 3 := location_add ha hb (i := 3) (by decide)
    have hp : location (a + 3).aligned + (i + (a + 3).alignment - 3) = location a + i := by
      have := location_aligned (a + 3)
      omega
    rw [byte_wordAt _ _ (by omega), byte_wordAt _ _ hi, hp]
  next => rfl

/-- No byte is missed by both merges. -/
theorem mem_right_or_left (a : Word) (i : Nat) :
    i + a.alignment < 4 ∨ 3 ≤ i + (a + 3).alignment := by
  have := a.alignment_lt
  rw [Word.alignment_add_three]
  omega

/-- The merge at the last byte completes the one at the first. -/
theorem mergeLeft_mergeRight (m : Memory) (ha : Mapped 1 a) (hb : Mapped 1 (a + 3)) (c : Word) :
    Word.loadLeft (Word.loadRight c (m.wordAt a.aligned) a.alignment) (m.wordAt (a + 3).aligned)
      (a + 3).alignment = m.wordAt a := by
  refine Word.ext_byte fun i hi => ?_
  rw [byte_mergeLeft m ha hb _ hi, byte_mergeRight m a c hi]
  have := mem_right_or_left a i
  grind

/-- The merge at the first byte completes the one at the last. -/
theorem mergeRight_mergeLeft (m : Memory) (ha : Mapped 1 a) (hb : Mapped 1 (a + 3)) (c : Word) :
    Word.loadRight (Word.loadLeft c (m.wordAt (a + 3).aligned) (a + 3).alignment)
      (m.wordAt a.aligned) a.alignment = m.wordAt a := by
  refine Word.ext_byte fun i hi => ?_
  rw [byte_mergeRight m a _ hi, byte_mergeLeft m ha hb c hi]
  have := mem_right_or_left a i
  grind

end Memory

end R3000
