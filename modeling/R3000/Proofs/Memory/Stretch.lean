import R3000.Proofs.Memory.Fit

/-!
Stretches: how many words can be read one after another from an address on. Aligned words run
through windows that touch; a word that straddles the end of a window belongs to none, so unaligned
words stop there. Behind the last of the windows that touch there is a gap. Main statements: the
words of a stretch can be read and the next one cannot; and the longest stretch is that of expansion
1 and the scratchpad.
-/

namespace R3000

/-- The address `i` words behind an address, modulo `2 ^ 32`. -/
def wordAddress (a : Word) (i : Nat) : Word := UInt32.ofNat (a.toNat + 4 * i)

section Addresses

variable (a : Word) (i j : Nat)

theorem toNat_wordAddress : (wordAddress a i).toNat = (a.toNat + 4 * i) % 2 ^ 32 :=
  UInt32.toNat_ofNat'

/-- Cutting the index to 32 bits before it is multiplied does not change the address. -/
theorem wordAddress_eq : wordAddress a i = a + 4 * UInt32.ofNat i := by
  apply UInt32.toNat_inj.1
  simp [toNat_wordAddress, UInt32.toNat_add, UInt32.toNat_mul, UInt32.toNat_ofNat']

@[simp]
theorem wordAddress_zero : wordAddress a 0 = a := UInt32.ofNat_toNat

theorem wordAddress_add : wordAddress (wordAddress a i) j = wordAddress a (i + j) := by
  apply UInt32.toNat_inj.1
  simp only [toNat_wordAddress]
  omega

theorem wordAddress_one : wordAddress a 1 = a + 4 := wordAddress_eq a 1

end Addresses

/-! ### Windows that touch -/

/-- The first location behind the windows that touch one another from that of a region on. -/
def Region.gap : Region → Nat
  | ram => ram.window.last + 1
  | expansion1 | scratchpad => scratchpad.window.last + 1
  | ioPorts | expansion2 => expansion2.window.last + 1
  | expansion3 | bios => bios.window.last + 1
  | cacheControl => cacheControl.window.last + 1

/-- The number of words that can be read one after another from an address on. -/
def stretch (a : Word) : Nat :=
  match Region.of? a with
  | none => 0
  | some r => ((if a.toNat % 4 = 0 then r.gap else r.window.last + 1) - location a) / 4

variable {a : Word} {i : Nat} {r : Region}

theorem Region.of?_eq_some_iff : of? a = some r ↔ r.window.Holds (location a) 1 := by
  constructor
  · intro h
    obtain ⟨⟨r', o⟩, hresolve, rfl⟩ := Option.map_eq_some_iff.1 h
    exact (holds_of_resolve hresolve).1
  · intro h
    have horigin := r.origin_le_first_window
    have hfirst := h.1
    have hresolve : resolve a = some (r, location a - r.origin) :=
      resolve_eq_some_iff.2 ⟨h, by omega⟩
    rw [of?, hresolve]
    rfl

/-- The words that windows hold. -/
theorem mapped_word_iff : Mapped 4 a ↔
    location a + 4 ≤ 0x200000 ∨
    0x1F000000 ≤ location a ∧ location a + 4 ≤ 0x1F800000 ∨
    0x1F800000 ≤ location a ∧ location a + 4 ≤ 0x1F800400 ∨
    0x1F801000 ≤ location a ∧ location a + 4 ≤ 0x1F803000 ∨
    0x1F803000 ≤ location a ∧ location a + 4 ≤ 0x1F804000 ∨
    0x1FA00000 ≤ location a ∧ location a + 4 ≤ 0x1FC00000 ∨
    0x1FC00000 ≤ location a ∧ location a + 4 ≤ 0x1FC80000 ∨
    0xFFFE0000 ≤ location a ∧ location a + 4 ≤ 0xFFFE0200 := by
  simp [Mapped, Region.all, Region.window, Window.Holds]
  omega

theorem location_cases (a : Word) :
    (0xFFFE0000 ≤ a.toNat ∧ a.toNat < 0xFFFE0200 ∧ location a = a.toNat) ∨
    ((a.toNat < 0xFFFE0000 ∨ 0xFFFE0200 ≤ a.toNat) ∧ location a = a.toNat % 2 ^ 29) := by
  unfold location
  split <;> omega

theorem location_mod_four (a : Word) : location a % 4 = a.toNat % 4 := by
  have ha := location_cases a
  omega

/-- Locations follow the addresses as long as they stay below the shadow of cache control, or inside
    of cache control. -/
theorem location_wordAddress (h : location a + 4 * i < 0x1FFE0000 ∨
    0xFFFE0000 ≤ location a ∧ location a + 4 * i < 0xFFFE0200) :
    location (wordAddress a i) = location a + 4 * i := by
  have hlt := a.toNat_lt
  have hadd := toNat_wordAddress a i
  have ha := location_cases a
  have hb := location_cases (wordAddress a i)
  omega

/-- Behind cache control the locations are those of the low bits again. -/
theorem location_behind_cacheControl (h : location a + 4 * i = 0xFFFE0200) :
    location (wordAddress a i) = 0x1FFE0200 := by
  have hlt := a.toNat_lt
  have hadd := toNat_wordAddress a i
  have ha := location_cases a
  have hb := location_cases (wordAddress a i)
  omega

theorem stretch_of_unmapped (hr : Region.of? a = none) : stretch a = 0 := by
  rw [stretch, hr]

/-- An aligned stretch ends at the gap, and any other one at the word that straddles the end of its
    window. -/
theorem location_add_stretch (hr : r.window.Holds (location a) 1) :
    location a % 4 = 0 ∧ location a + 4 * stretch a = r.gap ∨
    location a % 4 ≠ 0 ∧ location a + 4 * stretch a + 4 = r.window.last + 1 + location a % 4 := by
  have hends : r.window.last + 1 ≤ r.gap ∧ r.gap % 4 = 0 ∧ (r.window.last + 1) % 4 = 0 := by
    cases r <;> decide
  have hstretch : stretch a =
      ((if location a % 4 = 0 then r.gap else r.window.last + 1) - location a) / 4 := by
    simp only [stretch, Region.of?_eq_some_iff.2 hr, location_mod_four]
  have hlast := hr.2
  split at hstretch <;> omega

/-- The words of a stretch can be read. -/
theorem mapped_of_lt_stretch (hi : i < stretch a) : Mapped 4 (wordAddress a i) := by
  cases hr : Region.of? a with
  | none => simp [stretch_of_unmapped hr] at hi
  | some r =>
    have hw := Region.of?_eq_some_iff.1 hr
    have hend := location_add_stretch hw
    obtain ⟨hfirst, hlast⟩ := hw
    have hinside : location a + 4 * i < 0x1FFE0000 ∨
        0xFFFE0000 ≤ location a ∧ location a + 4 * i < 0xFFFE0200 := by
      cases r <;> simp only [Region.window, Region.gap] at hfirst hlast hend <;> omega
    rw [mapped_word_iff, location_wordAddress hinside]
    cases r <;> simp only [Region.window, Region.gap] at hfirst hlast hend <;> omega

/-- The word behind a stretch cannot be read. -/
theorem not_mapped_stretch (a : Word) : ¬ Mapped 4 (wordAddress a (stretch a)) := by
  cases hr : Region.of? a with
  | none =>
    rw [stretch_of_unmapped hr, wordAddress_zero]
    rintro ⟨r, -, hfirst, hlast⟩
    have hsome := Region.of?_eq_some_iff.2 (⟨hfirst, by omega⟩ : r.window.Holds (location a) 1)
    rw [hr] at hsome
    cases hsome
  | some r =>
    have hw := Region.of?_eq_some_iff.1 hr
    have hend := location_add_stretch hw
    obtain ⟨hfirst, hlast⟩ := hw
    rw [mapped_word_iff]
    by_cases hcache : location a + 4 * stretch a = 0xFFFE0200
    · rw [location_behind_cacheControl hcache]
      decide
    · have hinside : location a + 4 * stretch a < 0x1FFE0000 ∨
          0xFFFE0000 ≤ location a ∧ location a + 4 * stretch a < 0xFFFE0200 := by
        cases r <;> simp only [Region.window, Region.gap] at hfirst hlast hend <;> omega
      rw [location_wordAddress hinside]
      cases r <;> simp only [Region.window, Region.gap] at hfirst hlast hend <;> omega

/-! ### The longest stretch -/

theorem stretch_le (a : Word) : stretch a ≤ 2097408 := by
  cases hr : Region.of? a with
  | none => simp [stretch_of_unmapped hr]
  | some r =>
    have hw := Region.of?_eq_some_iff.1 hr
    have hend := location_add_stretch hw
    have hsize : r.window.last + 1 ≤ r.gap ∧ r.gap ≤ r.window.first + 4 * 2097408 := by
      cases r <;> decide
    have hfirst := hw.1
    omega

/-- Expansion 1 starts at one address of each segment. -/
theorem physical_eq_iff : Region.physical a = 0x1F000000 ↔ location a = 0x1F000000 := by
  have hbase : (0x1F000000 : Word).toNat = 0x1F000000 := rfl
  have ha := location_cases a
  rw [← UInt32.toNat_inj, Region.toNat_physical, hbase]
  omega

/-- The longest stretch starts where expansion 1 does, in any segment. -/
theorem stretch_eq_longest_iff : stretch a = 2097408 ↔ Region.physical a = 0x1F000000 := by
  rw [physical_eq_iff]
  constructor
  · intro h
    cases hr : Region.of? a with
    | none => simp [stretch_of_unmapped hr] at h
    | some r =>
      have hw := Region.of?_eq_some_iff.1 hr
      have hend := location_add_stretch hw
      obtain ⟨hfirst, hlast⟩ := hw
      cases r <;> simp only [Region.window, Region.gap] at hfirst hlast hend <;> omega
  · intro h
    have hw : Region.expansion1.window.Holds (location a) 1 := by
      rw [h]
      decide
    have hend := location_add_stretch hw
    simp only [Region.gap, Region.window] at hend
    omega

/-- The longest stretch is expansion 1 and then the scratchpad. -/
theorem of?_of_longest (h : stretch a = 2097408) (hi : i < 2097408) :
    Region.of? (wordAddress a i) = some (if i < 2097152 then .expansion1 else .scratchpad) := by
  have hloc := physical_eq_iff.1 (stretch_eq_longest_iff.1 h)
  rw [Region.of?_eq_some_iff, location_wordAddress (by omega), hloc]
  split <;> constructor <;> simp only [Region.window] <;> omega

/-- The BIOS can be read from the reset vector to its end. -/
theorem stretch_resetVector : stretch 0xBFC00000 = 131072 := by decide

end R3000
