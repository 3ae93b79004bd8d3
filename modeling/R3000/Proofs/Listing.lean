import R3000.Monitor.Basic
import R3000.Proofs.Memory.Stretch
import R3000.Proofs.Word

/-!
Listings and stretches. A listing reads its words in order and ends at the first one that cannot be
read, which is the word behind the stretch of its start. So a listing is complete exactly if it is
no longer than that stretch, whatever the memory holds. Main statements: `listing_exact`, for a
listing from any address, and `listingAroundPc_centred`, for one with the next instruction in its
middle.
-/

namespace R3000

namespace Memory

variable {m : Memory} {a : Word} {n i : Nat} {f : Fault}

/-! ### Words of a stretch -/

theorem exists_loadWord_iff : (∃ w, m.loadWord a = .ok w) ↔ Mapped 4 a := by
  rw [← fits_iff_mapped (Nat.succ_pos 3)]
  constructor
  · rintro ⟨w, hw⟩
    by_contra hfit
    have hfault : m.loadWord a = .error (.unmappedAddress a) :=
      loadWord_eq_error_iff.2 ⟨hfit, rfl⟩
    rw [hw] at hfault
    cases hfault
  · intro hfit
    cases hw : m.loadWord a with
    | ok w => exact ⟨w, rfl⟩
    | error f => exact absurd hfit (loadWord_eq_error_iff.1 hw).1

/-- All words up to an index can be read if the stretch is that long. -/
theorem forall_loadWord_iff :
    (∀ i < n, ∃ w, m.loadWord (wordAddress a i) = .ok w) ↔ n ≤ stretch a := by
  simp only [exists_loadWord_iff]
  constructor
  · intro h
    by_contra hlt
    exact not_mapped_stretch a (h _ (Nat.lt_of_not_le hlt))
  · intro h i hi
    exact mapped_of_lt_stretch (Nat.lt_of_lt_of_le hi h)

theorem loadWord_stretch (m : Memory) (a : Word) : m.loadWord (wordAddress a (stretch a)) =
    .error (.unmappedAddress (wordAddress a (stretch a))) := by
  rw [loadWord_eq_error_iff, fits_iff_mapped (Nat.succ_pos 3)]
  exact ⟨not_mapped_stretch a, rfl⟩

/-- The first word that cannot be read is the one behind the stretch. -/
theorem first_unreadable_iff : ((∀ j < i, ∃ w, m.loadWord (wordAddress a j) = .ok w) ∧
    ∃ f, m.loadWord (wordAddress a i) = .error f) ↔ i = stretch a := by
  rw [forall_loadWord_iff]
  constructor
  · rintro ⟨hle, f, hf⟩
    rcases Nat.lt_or_eq_of_le hle with hlt | heq
    · obtain ⟨w, hw⟩ := exists_loadWord_iff.2 (mapped_of_lt_stretch hlt)
      rw [hf] at hw
      cases hw
    · exact heq
  · rintro rfl
    exact ⟨Nat.le_refl _, _, m.loadWord_stretch a⟩

/-! ### Listings in two parts -/

/-- A listing is one of its first words and then one of the others. -/
theorem listing_add (m : Memory) (a : Word) (i n : Nat) : m.listing a (i + n) =
    (m.listing a i).bind fun ls => (m.listing (wordAddress a i) n).map (ls ++ ·) := by
  induction i generalizing a with
  | zero =>
    rw [Nat.zero_add, listing_zero, wordAddress_zero]
    cases m.listing a n <;> rfl
  | succ i ih =>
    have hnext : wordAddress (a + 4) i = wordAddress a (i + 1) := by
      rw [← wordAddress_one, wordAddress_add, Nat.add_comm]
    rw [Nat.succ_add, listing_succ, listing_succ, ih, hnext]
    cases m.loadWord a with
    | error f => rfl
    | ok w =>
      cases m.listing (a + 4) i with
      | error f => rfl
      | ok ls => cases m.listing (wordAddress a (i + 1)) n <;> rfl

theorem exists_listing (h : n ≤ stretch a) : ∃ ls, m.listing a n = .ok ls := by
  induction n with
  | zero => exact ⟨[], rfl⟩
  | succ n ih =>
    obtain ⟨ls, hls⟩ := ih (Nat.le_of_succ_le h)
    obtain ⟨w, hw⟩ := exists_loadWord_iff.2 (mapped_of_lt_stretch h)
    refine ⟨ls ++ [⟨wordAddress a n, w⟩], ?_⟩
    rw [listing_add, hls, listing_succ, hw]
    rfl

/-- A listing that goes on behind a stretch fails there. -/
theorem listing_of_stretch_lt (m : Memory) (h : stretch a < n) :
    m.listing a n = .error (.unmappedAddress (wordAddress a (stretch a))) := by
  obtain ⟨k, rfl⟩ := Nat.exists_eq_add_of_lt h
  obtain ⟨ls, hls⟩ := exists_listing (m := m) (Nat.le_refl (stretch a))
  rw [Nat.add_assoc, listing_add, hls, listing_succ, loadWord_stretch]
  rfl

theorem exists_listing_iff : (∃ ls, m.listing a n = .ok ls) ↔ n ≤ stretch a := by
  constructor
  · rintro ⟨ls, hls⟩
    by_contra hlt
    rw [listing_of_stretch_lt m (Nat.lt_of_not_le hlt)] at hls
    cases hls
  · exact exists_listing

theorem listing_eq_error_iff : m.listing a n = .error f ↔
    stretch a < n ∧ f = .unmappedAddress (wordAddress a (stretch a)) := by
  rcases Nat.lt_or_ge (stretch a) n with hlt | hle
  · rw [listing_of_stretch_lt m hlt, Except.error.injEq, eq_comm]
    exact (and_iff_right hlt).symm
  · obtain ⟨ls, hls⟩ := exists_listing (m := m) hle
    rw [hls]
    exact iff_of_false nofun fun h => Nat.not_lt.2 hle h.1

/-- A complete listing holds the words in order, each with its address, and nothing else. -/
theorem listing_eq_ok_iff {ls : List ListingLine} : m.listing a n = .ok ls ↔ ls.length = n ∧
    ∀ i (hi : i < ls.length), ∃ w, m.loadWord (wordAddress a i) = .ok w ∧
      ls[i] = ⟨wordAddress a i, w⟩ := by
  have hlines {ls : List ListingLine} (h : m.listing a n = .ok ls) (i : Nat) (hi : i < ls.length) :
      ∃ w, m.loadWord (wordAddress a i) = .ok w ∧ ls[i] = ⟨wordAddress a i, w⟩ := by
    obtain ⟨haddress, hword⟩ := getElem_of_listing h i hi
    rw [← wordAddress_eq] at haddress
    rw [haddress] at hword
    exact ⟨ls[i].word, hword, by rw [← haddress]⟩
  constructor
  · intro h
    exact ⟨length_of_listing h, hlines h⟩
  · rintro ⟨hlength, hwords⟩
    have hall : ∀ i < n, ∃ w, m.loadWord (wordAddress a i) = .ok w := by
      intro i hi
      obtain ⟨w, hw, -⟩ := hwords i (by omega)
      exact ⟨w, hw⟩
    obtain ⟨ks, hks⟩ := exists_listing (forall_loadWord_iff.1 hall)
    rw [hks, Except.ok.injEq]
    refine List.ext_getElem ((length_of_listing hks).trans hlength.symm) fun i hi hi' => ?_
    obtain ⟨v, hv, hk⟩ := hlines hks i hi
    obtain ⟨w, hw, hl⟩ := hwords i hi'
    rw [hv, Except.ok.injEq] at hw
    rw [hk, hl, hw]

/-! ### How far a listing gets -/

/-- Whether a listing gets as far as the word with an index: it asks for that word, and can read all
    those before it. -/
def Tries (m : Memory) (a : Word) (n i : Nat) : Prop :=
  i < n ∧ ∀ j < i, ∃ w, m.loadWord (wordAddress a j) = .ok w

/-- A listing that gets to a word has the lines of all those before it. -/
theorem exists_of_tries (h : m.Tries a n i) : ∃ ls : List ListingLine, ls.length = i ∧
    m.listing a n = m.listAfter ls.reverse (wordAddress a i) (n - i) := by
  obtain ⟨hlt, hwords⟩ := h
  obtain ⟨ls, hls⟩ := exists_listing (forall_loadWord_iff.1 hwords)
  refine ⟨ls, length_of_listing hls, ?_⟩
  rw [listAfter_eq, List.reverse_reverse, ← Nat.add_sub_cancel' (Nat.le_of_lt hlt), listing_add,
    hls, Nat.add_sub_cancel_left]
  rfl

theorem le_of_tries (h : m.Tries a n i) : i ≤ 2097408 :=
  Nat.le_trans (forall_loadWord_iff.1 h.2) (stretch_le a)

/-- A listing fails with the fault for the first word that cannot be read. -/
theorem listing_eq_error_iff_tries : m.listing a n = .error f ↔ ∃ i, m.Tries a n i ∧
    (∃ f', m.loadWord (wordAddress a i) = .error f') ∧ f = .unmappedAddress (wordAddress a i) := by
  rw [listing_eq_error_iff]
  constructor
  · rintro ⟨hlt, rfl⟩
    obtain ⟨hwords, hfault⟩ := first_unreadable_iff.2 (rfl : stretch a = stretch a)
    exact ⟨stretch a, ⟨hlt, hwords⟩, hfault, rfl⟩
  · rintro ⟨i, ⟨hlt, hwords⟩, hfault, rfl⟩
    obtain rfl := first_unreadable_iff.1 ⟨hwords, hfault⟩
    exact ⟨hlt, rfl⟩

/-- A listing is complete exactly if each of its words can be read, and then it has as many lines
    as were asked for, each with its address, its word and the mnemonic of that. Otherwise it is the
    fault for the first word that cannot be read. From any address on one of the first 2097409 words
    cannot be read, so the indices of the words that are tried stay far below `2 ^ 32` and a longer
    listing always fails; 2097408 words in a row are those of expansion 1 and the scratchpad. From
    the reset vector on exactly the listings of up to 131072 words are complete. -/
theorem listing_exact (m : Memory) (start : Word) (count : Nat) :
    ((∃ ls, m.listing start count = .ok ls) ↔
      ∀ i < count, ∃ w, m.loadWord (wordAddress start i) = .ok w) ∧
    (∀ ls, m.listing start count = .ok ls ↔ ls.length = count ∧ ∀ i (hi : i < ls.length),
      ∃ w, m.loadWord (wordAddress start i) = .ok w ∧ ls[i] = ⟨wordAddress start i, w⟩ ∧
        ls[i].mnemonic = (Instruction.mk w).mnemonic) ∧
    (∀ f, m.listing start count = .error f ↔ ∃ i, m.Tries start count i ∧
      (∃ f', m.loadWord (wordAddress start i) = .error f') ∧
      f = .unmappedAddress (wordAddress start i)) ∧
    (∃ i ≤ 2097408, ∃ f, m.loadWord (wordAddress start i) = .error f) ∧
    (2097408 < count → ∃ f, m.listing start count = .error f) ∧
    (∀ i, m.Tries start count i → i ≤ 2097408 ∧ i < UInt32.size ∧
      ∃ ls : List ListingLine, ls.length = i ∧ m.listing start count =
        m.listAfter ls.reverse (wordAddress start i) (count - i)) ∧
    ((∃ ls, m.listing start 2097408 = .ok ls) ↔ Region.physical start = 0x1F000000) ∧
    (Region.physical start = 0x1F000000 → ∀ i < 2097408, Region.of? (wordAddress start i) =
      some (if i < 2097152 then .expansion1 else .scratchpad)) ∧
    ((∃ ls, m.listing 0xBFC00000 count = .ok ls) ↔ count ≤ 131072) := by
  refine ⟨?_, fun ls => ?_, fun f => listing_eq_error_iff_tries,
    ⟨stretch start, stretch_le start, _, m.loadWord_stretch _⟩,
    fun hcount => ⟨_, m.listing_of_stretch_lt ?_⟩, fun i hi => ?_, ?_, fun hstart i hi => ?_, ?_⟩
  · rw [exists_listing_iff, forall_loadWord_iff]
  · rw [listing_eq_ok_iff]
    refine and_congr_right fun _ => forall₂_congr fun i hi => exists_congr fun w => ?_
    refine and_congr_right fun _ => ⟨fun hline => ⟨hline, ?_⟩, And.left⟩
    rw [hline]
    rfl
  · exact Nat.lt_of_le_of_lt (stretch_le start) hcount
  · have hle := le_of_tries hi
    exact ⟨hle, Nat.lt_of_le_of_lt hle (by decide), exists_of_tries hi⟩
  · rw [exists_listing_iff, ← stretch_eq_longest_iff]
    exact (stretch_le start).ge_iff_eq
  · exact of?_of_longest (stretch_eq_longest_iff.2 hstart) hi
  · rw [exists_listing_iff, stretch_resetVector]

/-- Behind the last word of the BIOS nothing can be read, so the whole BIOS can be listed and one
    word more cannot; and one word more than the longest stretch is too much from its start. -/
theorem listing_exact_endOfBios : 2097408 < 2097409 ∧
    Region.physical 0x3F000000 = 0x1F000000 ∧
    (∃ ls, zeros.listing 0xBFC00000 131072 = .ok ls) ∧
    (¬ ∃ ls, zeros.listing 0xBFC00000 131073 = .ok ls) ∧
    zeros.listing 0xBFC7FFFC 2 = .error (.unmappedAddress 0xBFC80000) ∧
    (∃ ls, zeros.listing 0x3F000000 2097408 = .ok ls) ∧
    ∃ f, zeros.listing 0x3F000000 2097409 = .error f := by
  have hstart : Region.physical 0x3F000000 = 0x1F000000 := by decide
  have hlast : zeros.loadWord 0xBFC7FFFC = .ok 0 := loadWord_zeros (by decide)
  have hbehind : zeros.loadWord 0xBFC80000 = .error (.unmappedAddress 0xBFC80000) :=
    loadWord_eq_error_iff.2 ⟨by decide, rfl⟩
  obtain ⟨-, -, hfault, -⟩ := listing_exact zeros 0xBFC7FFFC 2
  obtain ⟨-, -, -, -, -, -, -, -, hall⟩ := listing_exact zeros 0xBFC00000 131072
  obtain ⟨-, -, -, -, -, -, -, -, hmore⟩ := listing_exact zeros 0xBFC00000 131073
  obtain ⟨-, -, -, -, hlong, -, hlongest, -⟩ := listing_exact zeros 0x3F000000 2097409
  refine ⟨by decide, hstart, hall.2 (by decide), mt hmore.1 (by decide), ?_, hlongest.2 hstart,
    hlong (by decide)⟩
  refine (hfault _).2 ⟨1, ⟨by decide, ?_⟩, ⟨_, hbehind⟩, rfl⟩
  intro j hj
  obtain rfl : j = 0 := by omega
  exact ⟨0, hlast⟩

end Memory

/-! ### Listings around an address -/

/-- The words of a listing around an address, counted from its middle. -/
theorem wordAddress_sub (a : Word) (c j : Nat) :
    wordAddress (a - 4 * UInt32.ofNat c) j = Word.ofInt (a.toNat + 4 * ((j : Int) - c)) := by
  have ha := a.toNat_lt
  have hfour : (4 : Word).toNat = 4 := rfl
  apply Word.eq_ofInt_iff.2
  rw [toNat_wordAddress, UInt32.toNat_sub, UInt32.toNat_mul, UInt32.toNat_ofNat', hfour]
  omega

theorem Memory.exists_listingAround_iff {m : Memory} {a : Word} {c : Nat} :
    (∃ ls, m.listingAround a c = .ok ls) ↔ ∀ k : Int, -c ≤ k → k ≤ c →
      ∃ w, m.loadWord (Word.ofInt (a.toNat + 4 * k)) = .ok w := by
  rw [listingAround, exists_listing_iff, ← forall_loadWord_iff (m := m)]
  simp only [wordAddress_sub]
  constructor
  · intro h k hlow hhigh
    have hline := h (k + c).toNat (by omega)
    rwa [Int.toNat_of_nonneg (by omega), Int.add_sub_cancel] at hline
  · intro h j hj
    exact h ((j : Int) - c) (by omega) (by omega)

namespace Monitor

variable {c : Nat}

/-- A listing around the next instruction is complete exactly if all its words can be read, from `c`
    before that instruction to `c` behind it, and then it has one line for each of them in order,
    with the next instruction in the middle. A context that does not fit 32 bits never gives a
    complete listing, so none is off its centre because the context was cut. -/
theorem listingAroundPc_centred (s : Monitor) (hc : c < 2 ^ 63) :
    2 * c + 1 < UInt64.size ∧
    ((∃ ls, s.listingAroundPc c = .ok ls) ↔ ∀ k : Int, -c ≤ k → k ≤ c →
      ∃ w, s.machine.memory.loadWord (Word.ofInt (s.pc.toNat + 4 * k)) = .ok w) ∧
    ∀ ls, s.listingAroundPc c = .ok ls → ls.length = 2 * c + 1 ∧
      (∀ j (hj : j < ls.length), ∃ w,
        s.machine.memory.loadWord (Word.ofInt (s.pc.toNat + 4 * ((j : Int) - c))) = .ok w ∧
        ls[j] = ⟨Word.ofInt (s.pc.toNat + 4 * ((j : Int) - c)), w⟩) ∧
      ls[c]?.map ListingLine.address = some s.pc ∧
      (UInt32.ofNat c).toNat = c := by
  refine ⟨?_, Memory.exists_listingAround_iff, fun ls hls => ?_⟩
  · rw [UInt64.size]
    omega
  · obtain ⟨hlength, hlines⟩ := Memory.listing_eq_ok_iff.1 hls
    simp only [wordAddress_sub] at hlines
    have hbound : 2 * c + 1 ≤ 2097408 :=
      Nat.le_trans (Memory.exists_listing_iff.1 ⟨ls, hls⟩) (stretch_le _)
    refine ⟨hlength, hlines, ?_, ?_⟩
    · have hmiddle : c < ls.length := by omega
      obtain ⟨w, -, hline⟩ := hlines c hmiddle
      have hpc : s.pc = Word.ofInt (s.pc.toNat + 4 * ((c : Int) - c)) := Word.eq_ofInt (by omega)
      rw [List.getElem?_eq_getElem hmiddle, hline, ← hpc]
      rfl
    · rw [UInt32.toNat_ofNat']
      omega

/-- At power-on the word before the reset vector can be read, the last one of expansion 3, and so a
    context of one word is complete. One of `2 ^ 32 + 1` words would start there too if it were cut,
    and is not. -/
theorem listingAroundPc_centred_powerOn : 1 < 2 ^ 63 ∧ 2 ^ 32 + 1 < 2 ^ 63 ∧
    (∃ ls, (ofMemory .zeros).listingAroundPc 1 = .ok ls ∧ ls.length = 3 ∧
      ls[0]? = some ⟨0xBFBFFFFC, 0⟩ ∧ ls[1]?.map ListingLine.address = some 0xBFC00000) ∧
    ¬ ∃ ls, (ofMemory .zeros).listingAroundPc (2 ^ 32 + 1) = .ok ls := by
  have hbefore : Memory.zeros.loadWord 0xBFBFFFFC = .ok 0 := Memory.loadWord_zeros (by decide)
  have hmiddle : Memory.zeros.loadWord 0xBFC00000 = .ok 0 := Memory.loadWord_zeros (by decide)
  have hbehind : Memory.zeros.loadWord 0xBFC00004 = .ok 0 := Memory.loadWord_zeros (by decide)
  obtain ⟨-, hone, hlines⟩ := listingAroundPc_centred (ofMemory .zeros) (c := 1) (by decide)
  obtain ⟨-, -, hcut⟩ := listingAroundPc_centred (ofMemory .zeros) (c := 2 ^ 32 + 1) (by decide)
  have hwords : ∀ k : Int, -(1 : Nat) ≤ k → k ≤ (1 : Nat) → ∃ w, Memory.zeros.loadWord
      (Word.ofInt ((ofMemory .zeros).pc.toNat + 4 * k)) = .ok w := by
    intro k hlow hhigh
    obtain rfl | rfl | rfl : k = -1 ∨ k = 0 ∨ k = 1 := by omega
    · exact ⟨0, hbefore⟩
    · exact ⟨0, hmiddle⟩
    · exact ⟨0, hbehind⟩
  obtain ⟨ls, hls⟩ := hone.2 hwords
  obtain ⟨hlength, hfirst, hcentre, -⟩ := hlines ls hls
  refine ⟨by decide, by decide, ⟨ls, hls, hlength, ?_, hcentre⟩, ?_⟩
  · obtain ⟨w, hw, hline⟩ := hfirst 0 (by omega)
    have hword := hw.symm.trans hbefore
    rw [List.getElem?_eq_getElem (by omega), hline, Except.ok.inj hword]
    rfl
  · rintro ⟨ls, hls⟩
    obtain ⟨-, -, -, hnat⟩ := hcut ls hls
    exact absurd hnat (by decide)

end Monitor

end R3000
