import R3000.Cpu.Snapshot
import R3000.Listing
import R3000.Proofs.Text.Numeral
import R3000.Settings.Address
import R3000.Trace

/-!
Addresses in text. An address is a hexadecimal numeral between blanks, behind `0x`, `0X` or neither.
The reader takes all of these, whatever the case of the letters and the number of zeros, and the
addresses in listings, traces and snapshots are among them. But it takes more: repeated marks, and
a plus sign. Main statements: `parseAddress_roundTrip`, and `parseAddress_eq_ok_iff`, which tells
exactly what is read and which of it is an address.
-/

namespace R3000

/-! ### Pairs of characters -/

/-- A pair of characters, repeated. -/
def pairs (p q : Char) : Nat → List Char
  | 0 => []
  | n + 1 => p :: q :: pairs p q n

variable {p q c : Char} {s : List Char}

theorem dropPairs_pairs_append (p q : Char) (n : Nat) (s : List Char) :
    dropPairs p q (pairs p q n ++ s) = dropPairs p q s := by
  induction n with
  | zero => rfl
  | succ n ih => simpa [pairs, dropPairs] using ih

theorem dropPairs_of_not_mem (h : q ∉ s) : dropPairs p q s = s := by
  unfold dropPairs
  split
  next a b s =>
    have hne : ¬ (a = p ∧ b = q) := by
      rintro ⟨-, rfl⟩
      simp at h
    rw [if_neg hne]
  next => rfl

/-- What is dropped is the pair, some number of times. -/
theorem exists_pairs_dropPairs (p q : Char) (s : List Char) :
    ∃ n, s = pairs p q n ++ dropPairs p q s := by
  fun_induction dropPairs p q s with
  | case1 a b s h ih =>
    obtain ⟨rfl, rfl⟩ := h
    obtain ⟨n, hn⟩ := ih
    exact ⟨n + 1, congrArg (fun s => a :: b :: s) hn⟩
  | case2 => exact ⟨0, rfl⟩
  | case3 => exact ⟨0, rfl⟩

theorem mem_pairs {n : Nat} (h : c ∈ pairs p q n) : c = p ∨ c = q := by
  induction n with
  | zero => cases h
  | succ n ih =>
    simp only [pairs, List.mem_cons] at h
    rcases h with rfl | rfl | h
    · exact Or.inl rfl
    · exact Or.inr rfl
    · exact ih h

theorem count_pairs (p q c : Char) (n : Nat) : (pairs p q n).count c = n * [p, q].count c := by
  induction n with
  | zero => exact (Nat.zero_mul _).symm
  | succ n ih =>
    have hpairs : pairs p q (n + 1) = [p, q] ++ pairs p q n := rfl
    rw [hpairs, List.count_append, ih, Nat.succ_mul, Nat.add_comm]

/-! ### Texts of addresses -/

/-- What is dropped from the front of an address: `0x` and then `0X`, each any number of times. -/
def addressMarks (i j : Nat) : List Char := pairs '0' 'x' i ++ pairs '0' 'X' j

/-- Whether a text is a front and then a hexadecimal numeral of a number, between blanks. -/
def Spells (t : String) (front : List Char) (n : Nat) : Prop :=
  ∃ before digits after, t.toList = before ++ (front ++ digits) ++ after ∧
    (∀ c ∈ before, Text.isBlank c = true) ∧ (∀ c ∈ after, Text.isBlank c = true) ∧
    Text.IsNumeral 16 n digits

/-- Whether a text is an address in hexadecimal: a numeral behind `0x`, `0X` or neither, between
    blanks. -/
def IsAddress (t : String) (n : Nat) : Prop :=
  ∃ mark ∈ [[], ['0', 'x'], ['0', 'X']], Spells t mark n

variable {t : String} {front sign : List Char} {i j n : Nat}

theorem mem_front (hsign : sign ∈ Text.signs) (h : c ∈ addressMarks i j ++ sign) :
    c ∈ ['0', 'x', 'X', '+'] := by
  simp only [addressMarks, List.mem_append] at h
  rcases h with (h | h) | h
  · rcases mem_pairs h with rfl | rfl <;> decide
  · rcases mem_pairs h with rfl | rfl <;> decide
  · rcases Text.mem_signs_iff.1 hsign with rfl | rfl
    · cases h
    · obtain rfl := List.mem_singleton.1 h
      decide

/-- The marks, the sign and the digits are what is left of such a text when it is trimmed. -/
theorem Spells.trim_eq (hsign : sign ∈ Text.signs) (h : Spells t (addressMarks i j ++ sign) n) :
    ∃ digits, Text.trim t.toList = addressMarks i j ++ sign ++ digits ∧
      Text.IsNumeral 16 n digits := by
  obtain ⟨before, digits, after, ht, hbefore, hafter, hdigits⟩ := h
  refine ⟨digits, ?_, hdigits⟩
  rw [ht]
  refine Text.trim_eq hbefore hafter fun c hc => ?_
  rcases List.mem_append.1 hc with hfront | hdigit
  · have hmem := mem_front hsign hfront
    simp only [List.mem_cons, List.not_mem_nil, or_false] at hmem
    rcases hmem with rfl | rfl | rfl | rfl <;> rfl
  · exact Text.isBlank_of_mem_isNumeral (by decide) (by decide) hdigits hdigit

/-- The sign and the digits are what is left when the marks are dropped too. -/
theorem Spells.addressDigits_eq (hsign : sign ∈ Text.signs)
    (h : Spells t (addressMarks i j ++ sign) n) :
    ∃ digits, addressDigits t.toList = sign ++ digits ∧ Text.IsNumeral 16 n digits := by
  obtain ⟨digits, htrim, hdigits⟩ := h.trim_eq hsign
  refine ⟨digits, ?_, hdigits⟩
  have hsigns : 'x' ∉ sign ∧ 'X' ∉ sign := by
    rcases Text.mem_signs_iff.1 hsign with rfl | rfl <;> decide
  have hX : 'X' ∉ sign ++ digits := by
    rw [List.mem_append, not_or]
    exact ⟨hsigns.2, Text.not_mem_of_isNumeral (by decide) (by decide) hdigits rfl⟩
  have hx : 'x' ∉ pairs '0' 'X' j ++ (sign ++ digits) := by
    rw [List.mem_append, List.mem_append, not_or, not_or]
    refine ⟨fun hmem => ?_, hsigns.1, Text.not_mem_of_isNumeral (by decide) (by decide) hdigits rfl⟩
    rcases mem_pairs hmem with h | h <;> cases h
  rw [addressDigits, htrim, addressMarks, List.append_assoc, List.append_assoc,
    dropPairs_pairs_append, dropPairs_of_not_mem hx, dropPairs_pairs_append,
    dropPairs_of_not_mem hX]

/-- Marks and a sign do not matter to the reader, and the number only if it is too large. -/
theorem parseAddress_of_spells (hsign : sign ∈ Text.signs)
    (h : Spells t (addressMarks i j ++ sign) n) : parseAddress t =
      if n < UInt32.size then .ok (UInt32.ofNat n) else .error (.badAddress t) := by
  obtain ⟨digits, hdigits, hn⟩ := h.addressDigits_eq hsign
  rw [parseAddress, hdigits, Text.unsigned?_sign_append (by decide) (by decide) hsign hn]
  by_cases hlt : n < UInt32.size
  · simp only [if_pos hlt]
  · simp only [if_neg hlt]

theorem exists_of_parseAddress {v : Word} (h : parseAddress t = .ok v) :
    ∃ i j, ∃ sign ∈ Text.signs, Spells t (addressMarks i j ++ sign) v.toNat := by
  unfold parseAddress at h
  split at h
  next n hn =>
    obtain ⟨hlt, sign, hsign, digits, heq, hdigits⟩ :=
      Text.exists_of_unsigned? (by decide) (by decide) hn
    obtain ⟨before, after, htrim, hbefore, hafter⟩ := Text.trim_append t.toList
    obtain ⟨i, hi⟩ := exists_pairs_dropPairs '0' 'x' (Text.trim t.toList)
    obtain ⟨j, hj⟩ := exists_pairs_dropPairs '0' 'X' (dropPairs '0' 'x' (Text.trim t.toList))
    have hv : v.toNat = n := by
      rw [← Except.ok.inj h]
      exact UInt32.toNat_ofNat_of_lt hlt
    refine ⟨i, j, sign, hsign, before, digits, after, ?_, hbefore, hafter, hv ▸ hdigits⟩
    have hfront : Text.trim t.toList = addressMarks i j ++ sign ++ digits := by
      rw [addressDigits] at heq
      rw [addressMarks, List.append_assoc, List.append_assoc, ← heq, ← hj, ← hi]
    rwa [hfront] at htrim
  next => cases h

/-! ### Which texts are addresses -/

theorem count_of_spells (h : Spells t front n) (hdigit : Text.digit? 16 c = none)
    (hblank : Text.isBlank c = false) : t.toList.count c = front.count c := by
  obtain ⟨before, digits, after, ht, hbefore, hafter, hdigits⟩ := h
  have hout {s : List Char} (hs : ∀ c ∈ s, Text.isBlank c = true) : s.count c = 0 := by
    rw [List.count_eq_zero]
    intro hmem
    rw [hs c hmem] at hblank
    cases hblank
  have hin : digits.count c = 0 :=
    List.count_eq_zero.2 (Text.not_mem_of_isNumeral (by decide) (by decide) hdigits hdigit)
  simp only [ht, List.count_append, hout hbefore, hout hafter, hin]
  omega

/-- The marks and the sign of a text can be counted in it. -/
theorem count_marks (hsign : sign ∈ Text.signs) (h : Spells t (addressMarks i j ++ sign) n) :
    t.toList.count 'x' = i ∧ t.toList.count 'X' = j ∧ t.toList.count '+' = sign.length := by
  rw [count_of_spells h rfl rfl, count_of_spells h rfl rfl, count_of_spells h rfl rfl]
  rcases Text.mem_signs_iff.1 hsign with rfl | rfl <;> simp [addressMarks, count_pairs]

theorem isAddress_iff : IsAddress t n ↔ ∃ i j, i + j ≤ 1 ∧ Spells t (addressMarks i j) n := by
  constructor
  · rintro ⟨mark, hmark, h⟩
    simp only [List.mem_cons, List.not_mem_nil, or_false] at hmark
    rcases hmark with rfl | rfl | rfl
    · exact ⟨0, 0, by decide, h⟩
    · exact ⟨1, 0, by decide, h⟩
    · exact ⟨0, 1, by decide, h⟩
  · rintro ⟨i, j, hle, h⟩
    have hcases : i = 0 ∧ j = 0 ∨ i = 1 ∧ j = 0 ∨ i = 0 ∧ j = 1 := by omega
    rcases hcases with ⟨rfl, rfl⟩ | ⟨rfl, rfl⟩ | ⟨rfl, rfl⟩
    · exact ⟨[], by decide, h⟩
    · exact ⟨['0', 'x'], by decide, h⟩
    · exact ⟨['0', 'X'], by decide, h⟩

/-- A text with marks and a sign is an address if there is at most one mark, and no sign. -/
theorem isAddress_of_spells_iff (hsign : sign ∈ Text.signs)
    (h : Spells t (addressMarks i j ++ sign) n) :
    IsAddress t n ↔ t.toList.count 'x' + t.toList.count 'X' ≤ 1 ∧ '+' ∉ t.toList := by
  rw [isAddress_iff, ← List.count_eq_zero]
  constructor
  · rintro ⟨i', j', hle, h'⟩
    rw [← List.append_nil (addressMarks i' j')] at h'
    obtain ⟨hx, hX, hplus⟩ := count_marks (by decide) h'
    rw [hx, hX, hplus]
    exact ⟨hle, rfl⟩
  · obtain ⟨hx, hX, hplus⟩ := count_marks hsign h
    rw [hx, hX, hplus]
    rintro ⟨hle, hnil⟩
    obtain rfl := List.eq_nil_of_length_eq_zero hnil
    rw [List.append_nil] at h
    exact ⟨i, j, hle, h⟩

/-- What is read as an address: any number of `0x` and then of `0X`, a plus sign or none, and a
    hexadecimal numeral, between blanks, if the number fits a word. A text that is read is an
    address exactly if it has at most one mark and no plus sign; all others are read though they
    are none. -/
theorem parseAddress_eq_ok_iff (t : String) (v : Word) :
    (parseAddress t = .ok v ↔
      ∃ i j, ∃ sign ∈ Text.signs, Spells t (addressMarks i j ++ sign) v.toNat) ∧
    (parseAddress t = .ok v → (IsAddress t v.toNat ↔
      t.toList.count 'x' + t.toList.count 'X' ≤ 1 ∧ '+' ∉ t.toList)) := by
  constructor
  · constructor
    · exact exists_of_parseAddress
    · rintro ⟨i, j, sign, hsign, h⟩
      rw [parseAddress_of_spells hsign h, if_pos v.toNat_lt, UInt32.ofNat_toNat]
  · intro h
    obtain ⟨i, j, sign, hsign, hspells⟩ := exists_of_parseAddress h
    exact isAddress_of_spells_iff hsign hspells

/-- One mark makes an address. Two marks and a sign do not, and are read all the same. -/
theorem parseAddress_eq_ok_iff_signed :
    parseAddress "0XBFC00180" = .ok 0xBFC00180 ∧ IsAddress "0XBFC00180" 0xBFC00180 ∧
    parseAddress " 0x0X+1F\t" = .ok 0x1F ∧ ¬ IsAddress " 0x0X+1F\t" 0x1F ∧
    ∃ i j, ∃ sign ∈ Text.signs, Spells " 0x0X+1F\t" (addressMarks i j ++ sign) 0x1F := by
  have hplain : parseAddress "0XBFC00180" = .ok 0xBFC00180 := by rfl
  have hsigned : parseAddress " 0x0X+1F\t" = .ok 0x1F := by rfl
  obtain ⟨-, hplainly⟩ := parseAddress_eq_ok_iff "0XBFC00180" 0xBFC00180
  obtain ⟨hspells, hsignedly⟩ := parseAddress_eq_ok_iff " 0x0X+1F\t" 0x1F
  exact ⟨hplain, (hplainly hplain).2 (by decide), hsigned, mt (hsignedly hsigned).1 (by decide),
    hspells.1 hsigned⟩

/-- Two marks are read as one, and a plus sign as none. -/
theorem parseAddress_repeatedMark :
    (parseAddress "0x0x10" = .ok 0x10 ∧ ¬ IsAddress "0x0x10" (0x10 : Word).toNat) ∧
    parseAddress "+10" = .ok 0x10 ∧ ¬ IsAddress "+10" (0x10 : Word).toNat := by
  have hmarks : parseAddress "0x0x10" = .ok 0x10 := by rfl
  have hsign : parseAddress "+10" = .ok 0x10 := by rfl
  refine ⟨⟨hmarks, ?_⟩, hsign, ?_⟩
  · obtain ⟨i, j, sign, hsigns, h⟩ := exists_of_parseAddress hmarks
    exact mt (isAddress_of_spells_iff hsigns h).1 (by decide)
  · obtain ⟨i, j, sign, hsigns, h⟩ := exists_of_parseAddress hsign
    exact mt (isAddress_of_spells_iff hsigns h).1 (by decide)

/-! ### Addresses as they are printed -/

theorem length_hex (a : Word) : (Text.hex 8 a.toNat).length = 8 := by
  have hdigits : (Nat.toDigits 16 a.toNat).length ≤ 8 :=
    (Nat.length_toDigits_le_iff (by decide) (by decide)).2 a.toNat_lt
  rw [Text.hex, List.length_leftpad, List.length_map, Text.hexLower]
  omega

theorem toList_hex (a : Word) : a.hex.toList = '0' :: 'x' :: Text.hex 8 a.toNat := by
  simp [Word.hex]

theorem isNumeral_hex (a : Word) : Text.IsNumeral 16 a.toNat (Text.hex 8 a.toNat) :=
  (Text.natural?_eq_some_iff (by decide) (by decide)).1 (Text.natural?_hex 8 a.toNat)

theorem parseAddress_of_isAddress (h : IsAddress t n) : parseAddress t =
    if n < UInt32.size then .ok (UInt32.ofNat n) else .error (.badAddress t) := by
  obtain ⟨i, j, -, h⟩ := isAddress_iff.1 h
  rw [← List.append_nil (addressMarks i j)] at h
  exact parseAddress_of_spells (by decide) h

theorem parseAddress_eq_ok {a : Word} (h : IsAddress t a.toNat) : parseAddress t = .ok a := by
  rw [parseAddress_of_isAddress h, if_pos a.toNat_lt, UInt32.ofNat_toNat]

theorem parseAddress_ofList (mark : List Char) (hmark : mark ∈ [[], ['0', 'x'], ['0', 'X']])
    {digits : List Char} {a : Word} (h : Text.IsNumeral 16 a.toNat digits) :
    parseAddress (String.ofList (mark ++ digits)) = .ok a :=
  parseAddress_eq_ok ⟨mark, hmark, [], digits, [], by simp, nofun, nofun, h⟩

/-- What stands in a line from a column on. -/
def Text.excerpt (line : List Char) (column width : Nat) : String :=
  String.ofList ((line.drop column).take width)

/-- Eight digits in a line, behind a mark or none, copied from there with the mark. -/
theorem parseAddress_excerpt (mark : List Char) (hmark : mark ∈ [[], ['0', 'x'], ['0', 'X']])
    {line front back : List Char} {a : Word} {column width : Nat}
    (hline : line = front ++ (mark ++ Text.hex 8 a.toNat ++ back)) (hcolumn : front.length = column)
    (hwidth : mark.length + 8 = width) :
    parseAddress (Text.excerpt line column width) = .ok a := by
  have hlength : (mark ++ Text.hex 8 a.toNat).length = width := by
    rw [List.length_append, length_hex, hwidth]
  rw [Text.excerpt, hline, List.drop_left' hcolumn, List.take_left' hlength]
  exact parseAddress_ofList mark hmark (isNumeral_hex a)

/-- The address and the word in a line of a listing. -/
theorem ListingLine.parseAddress_text (l : ListingLine) :
    parseAddress (Text.excerpt l.text.toList 0 8) = .ok l.address ∧
    parseAddress (Text.excerpt l.text.toList 10 8) = .ok l.word := by
  have haddress : l.text.toList = [] ++ (Text.hex 8 l.address.toNat ++ (' ' :: ' ' ::
      Text.hex 8 l.word.toNat ++ ' ' :: ' ' :: (Instruction.mk l.word).text)) := by
    simp [text]
  have hword : l.text.toList = (Text.hex 8 l.address.toNat ++ [' ', ' ']) ++
      (Text.hex 8 l.word.toNat ++ ' ' :: ' ' :: (Instruction.mk l.word).text) := by
    simp [text]
  exact ⟨parseAddress_excerpt [] (by decide) haddress rfl rfl,
    parseAddress_excerpt [] (by decide) hword (by simp [length_hex]) rfl⟩

theorem TraceLine.text_eq (l : TraceLine) : l.text = ['P', 'C', '='] ++
    ('0' :: 'x' :: Text.hex 8 l.pc.toNat ++ ([' ', '['] ++
      ('0' :: 'x' :: Text.hex 8 l.word.toNat ++ ([']', ' '] ++
        (Instruction.mk l.word).text.rightpad 30 ' ' ++ [' ', '|'] ++
        l.registers.flatMap registerText)))) := by
  unfold text
  -- the numerals stand for themselves, or they would be unfolded
  generalize Text.hex 8 l.pc.toNat = pc
  generalize Text.hex 8 l.word.toNat = w
  simp

/-- The address and the word in a line of a trace. -/
theorem TraceLine.parseAddress_text (l : TraceLine) :
    parseAddress (Text.excerpt l.text 3 10) = .ok l.pc ∧
    parseAddress (Text.excerpt l.text 15 10) = .ok l.word := by
  have hword := l.text_eq
  rw [← List.append_assoc, ← List.append_assoc] at hword
  exact ⟨parseAddress_excerpt ['0', 'x'] (by decide) l.text_eq rfl rfl,
    parseAddress_excerpt ['0', 'x'] (by decide) hword (by simp [length_hex]) rfl⟩

theorem Snapshot.exists_line (s : Snapshot) : ∃ line back, s.lines[1]? = some line ∧
    line.toList = "PC: ".toList ++ ('0' :: 'x' :: Text.hex 8 s.pc.toNat ++
      ("  Next PC: ".toList ++ ('0' :: 'x' :: Text.hex 8 s.nextPc.toNat ++
        ("  Current: ".toList ++ ('0' :: 'x' :: Text.hex 8 s.currentPc.toNat ++ back))))) := by
  refine ⟨_, " [".toList ++ s.instruction.hex.toList ++ "]".toList, rfl, ?_⟩
  simp only [String.toList_append, toList_hex, List.append_assoc]

/-- The three addresses in the second line of a snapshot. -/
theorem Snapshot.parseAddress_lines (s : Snapshot) : ∃ line, s.lines[1]? = some line ∧
    parseAddress (Text.excerpt line.toList 4 10) = .ok s.pc ∧
    parseAddress (Text.excerpt line.toList 25 10) = .ok s.nextPc ∧
    parseAddress (Text.excerpt line.toList 46 10) = .ok s.currentPc := by
  obtain ⟨line, back, hline, hpc⟩ := s.exists_line
  have hnext := hpc
  rw [← List.append_assoc, ← List.append_assoc] at hnext
  have hcurrent := hnext
  rw [← List.append_assoc, ← List.append_assoc] at hcurrent
  refine ⟨line, hline, parseAddress_excerpt ['0', 'x'] (by decide) hpc rfl rfl,
    parseAddress_excerpt ['0', 'x'] (by decide) hnext ?_ rfl,
    parseAddress_excerpt ['0', 'x'] (by decide) hcurrent ?_ rfl⟩
  · simp [length_hex]
  · simp [length_hex]

/-- Every text of an address is read: the address that it denotes if that fits a word, and otherwise
    the whole text is reported. So whatever of a listing, a trace or a snapshot denotes an address
    can be copied from there and is read back. -/
theorem parseAddress_roundTrip :
    (∀ t (a : Word), IsAddress t a.toNat → parseAddress t = .ok a) ∧
    (∀ t n, IsAddress t n → UInt32.size ≤ n → parseAddress t = .error (.badAddress t)) ∧
    (∀ a : Word, parseAddress (String.ofList (Text.hex 8 a.toNat)) = .ok a ∧
      parseAddress a.hex = .ok a) ∧
    (∀ l : ListingLine, parseAddress (Text.excerpt l.text.toList 0 8) = .ok l.address ∧
      parseAddress (Text.excerpt l.text.toList 10 8) = .ok l.word) ∧
    (∀ l : TraceLine, parseAddress (Text.excerpt l.text 3 10) = .ok l.pc ∧
      parseAddress (Text.excerpt l.text 15 10) = .ok l.word) ∧
    ∀ s : Snapshot, ∃ line, s.lines[1]? = some line ∧
      parseAddress (Text.excerpt line.toList 4 10) = .ok s.pc ∧
      parseAddress (Text.excerpt line.toList 25 10) = .ok s.nextPc ∧
      parseAddress (Text.excerpt line.toList 46 10) = .ok s.currentPc := by
  refine ⟨fun t a h => parseAddress_eq_ok h, fun t n h hn => ?_, fun a => ⟨?_, ?_⟩,
    ListingLine.parseAddress_text, TraceLine.parseAddress_text, Snapshot.parseAddress_lines⟩
  · rw [parseAddress_of_isAddress h]
    exact if_neg (Nat.not_lt.2 hn)
  · exact parseAddress_ofList [] (by decide) (isNumeral_hex a)
  · have hhex : a.hex = String.ofList ('0' :: 'x' :: Text.hex 8 a.toNat) := by
      rw [← toList_hex, String.ofList_toList]
    rw [hhex]
    exact parseAddress_ofList ['0', 'x'] (by decide) (isNumeral_hex a)

/-- Letters in either case, zeros and blanks, the second of them an ideographic one; and the least
    number that does not fit. -/
theorem parseAddress_roundTrip_blanks :
    IsAddress " \u3000 0X00bFc00180\n" (0xBFC00180 : Word).toNat ∧
    parseAddress " \u3000 0X00bFc00180\n" = .ok 0xBFC00180 ∧
    IsAddress "0x100000000" UInt32.size ∧
    parseAddress "0x100000000" = .error (.badAddress "0x100000000") := by
  have hblanks : IsAddress " \u3000 0X00bFc00180\n" (0xBFC00180 : Word).toNat :=
    ⟨['0', 'X'], by decide, [' ', '\u3000', ' '], "00bFc00180".toList, ['\n'], by rfl,
      List.all_eq_true.1 rfl, List.all_eq_true.1 rfl, 2, by decide⟩
  have hlarge : IsAddress "0x100000000" UInt32.size :=
    ⟨['0', 'x'], by decide, [], "100000000".toList, [], by rfl, nofun, nofun, 0, by decide⟩
  obtain ⟨hread, hreported, -⟩ := parseAddress_roundTrip
  exact ⟨hblanks, hread _ _ hblanks, hlarge, hreported _ _ hlarge (Nat.le_refl _)⟩

end R3000
