import Mathlib.Data.List.TakeWhile
import R3000.Text.Numeral

/-!
Numerals as they are written. A numeral of a number is any number of zeros and then its digits, each
letter in either case. Main statements: a reader of numerals accepts these texts and no others, with
one plus sign in front where that is allowed; and what stands between blanks is what is left when a
text is trimmed.
-/

namespace R3000.Text

/-- Whether a text is a numeral of a number: zeros and then its digits, letters in either case. -/
def IsNumeral (base n : Nat) (s : List Char) : Prop :=
  ∃ zeros, s.map Char.toLower = List.replicate zeros '0' ++ Nat.toDigits base n

/-- The signs that may stand in front of a numeral without a sign: none, or a plus. -/
def signs : List (List Char) := [[], ['+']]

variable {base bound acc d n : Nat} {c : Char} {s sign : List Char}

theorem mem_signs_iff : sign ∈ signs ↔ sign = [] ∨ sign = ['+'] := by
  simp only [signs, List.mem_cons, List.not_mem_nil, or_false]

/-! ### Digits in either case -/

/-- A letter has the same value in either case. -/
theorem digitValue_toLower (c : Char) : digitValue c.toLower = digitValue c := by
  by_cases h : c.toNat < 128
  · have hall : ∀ n < 128, digitValue (Char.ofNat n).toLower = digitValue (Char.ofNat n) := by
      decide
    simpa using hall c.toNat h
  · have hupper : ¬ (c.val ≥ 'A'.val ∧ c.val ≤ 'Z'.val) := by
      rintro ⟨-, hle⟩
      have hle : c.toNat ≤ 90 := UInt32.le_iff_toNat_le.1 hle
      omega
    have hlower : c.toLower = c := dif_neg hupper
    rw [hlower]

theorem digit?_toLower (base : Nat) (c : Char) : digit? base c.toLower = digit? base c := by
  rw [digit?, digit?, digitValue_toLower]

/-- A digit in lower case is the one that is written for its value. -/
theorem toLower_of_digit? (hb : base ≤ 16) (h : digit? base c = some d) :
    c.toLower = Nat.digitChar d ∧ d < base := by
  have hall : ∀ n < 128, ∀ e ∈ digitValue (Char.ofNat n), e < 16 →
      (Char.ofNat n).toLower = Nat.digitChar e := by
    decide
  obtain ⟨hd, hlt⟩ := Option.filter_eq_some_iff.1 h
  have hlt : d < base := of_decide_eq_true hlt
  have hascii : c.toNat < 128 := by
    unfold digitValue at hd
    by_contra hge
    simp [show ¬ c.toNat ≤ 57 by omega, show ¬ c.toNat ≤ 90 by omega,
      show ¬ c.toNat ≤ 122 by omega] at hd
  have hchar := hall c.toNat hascii d
  rw [Char.ofNat_toNat] at hchar
  exact ⟨hchar hd (by omega), hlt⟩

theorem digitsFrom_map_toLower (base acc : Nat) (s : List Char) :
    digitsFrom base acc (s.map Char.toLower) = digitsFrom base acc s := by
  induction s generalizing acc with
  | nil => rfl
  | cons c s ih => simp only [List.map_cons, digitsFrom, digit?_toLower, ih]

/-! ### Reading numerals -/

theorem IsNumeral.ne_nil (h : IsNumeral base n s) : s ≠ [] := by
  rintro rfl
  obtain ⟨zeros, h⟩ := h
  have hpos := Nat.length_toDigits_pos (b := base) (n := n)
  have hlength := congrArg List.length h
  simp at hlength
  omega

/-- Digits behind those of a number are the last ones of what they make of it. -/
theorem toDigits_append_of_digitsFrom (hb : 1 < base) (hb' : base ≤ 16) (hacc : 0 < acc)
    (h : digitsFrom base acc s = some n) :
    Nat.toDigits base acc ++ s.map Char.toLower = Nat.toDigits base n := by
  induction s generalizing acc with
  | nil =>
    obtain rfl := Option.some.inj h
    exact List.append_nil _
  | cons c s ih =>
    obtain ⟨d, hd, hs⟩ := Option.bind_eq_some_iff.1 h
    obtain ⟨hlower, hlt⟩ := toLower_of_digit? hb' hd
    have hpos : 0 < base * acc + d := Nat.add_pos_left (Nat.mul_pos (by omega) hacc) d
    rw [← ih hpos hs, ← Nat.toDigits_append_toDigits hb hacc hlt, Nat.toDigits_of_lt_base hlt,
      List.map_cons, hlower, List.append_assoc]
    rfl

/-- Digits that are read are leading zeros and the digits of the number. -/
theorem isNumeral_of_digitsFrom (hb : 1 < base) (hb' : base ≤ 16) (hs : s ≠ [])
    (h : digitsFrom base 0 s = some n) : IsNumeral base n s := by
  induction s with
  | nil => exact absurd rfl hs
  | cons c s ih =>
    obtain ⟨d, hd, hrest⟩ := Option.bind_eq_some_iff.1 h
    obtain ⟨hlower, hlt⟩ := toLower_of_digit? hb' hd
    rw [Nat.mul_zero, Nat.zero_add] at hrest
    rcases Nat.eq_zero_or_pos d with rfl | hpos
    · -- a leading zero, unless it is the only digit
      by_cases hnil : s = []
      · subst hnil
        obtain rfl := Option.some.inj hrest
        exact ⟨0, by rw [List.map_singleton, hlower, Nat.toDigits_zero]; rfl⟩
      · obtain ⟨zeros, hzeros⟩ := ih hnil hrest
        exact ⟨zeros + 1, by rw [List.map_cons, hlower, hzeros]; rfl⟩
    · refine ⟨0, ?_⟩
      rw [← toDigits_append_of_digitsFrom hb hb' hpos hrest, Nat.toDigits_of_lt_base hlt,
        List.map_cons, hlower]
      rfl

/-- The numerals of a number are the texts that are read as it. -/
theorem natural?_eq_some_iff (hb : 1 < base) (hb' : base ≤ 16) :
    natural? base s = some n ↔ IsNumeral base n s := by
  constructor
  · intro h
    have hs : s ≠ [] := by
      rintro rfl
      cases h
    rw [natural?_of_ne_nil hs] at h
    exact isNumeral_of_digitsFrom hb hb' hs h
  · intro h
    obtain ⟨zeros, hzeros⟩ := id h
    rw [natural?_of_ne_nil h.ne_nil, ← digitsFrom_map_toLower, hzeros,
      digitsFrom_replicate_zero _ _ (by omega)]
    simpa using digitsFrom_map_toDigits hb id (fun d hd => digit?_digitChar hd hb') n

theorem not_mem_of_isNumeral (hb : 1 < base) (hb' : base ≤ 16) (h : IsNumeral base n s)
    (hc : digit? base c = none) : c ∉ s :=
  not_mem_of_natural? ((natural?_eq_some_iff hb hb').2 h) hc

theorem dropPlus_of_not_mem (h : '+' ∉ s) : dropPlus s = s := by
  unfold dropPlus
  split
  · exact absurd List.mem_cons_self h
  · rfl

theorem exists_sign_dropPlus (s : List Char) : ∃ sign ∈ signs, s = sign ++ dropPlus s := by
  unfold dropPlus
  split
  · exact ⟨['+'], by decide, rfl⟩
  · exact ⟨[], by decide, rfl⟩

theorem dropPlus_sign_append (hsign : sign ∈ signs) (h : '+' ∉ s) : dropPlus (sign ++ s) = s := by
  rcases mem_signs_iff.1 hsign with rfl | rfl
  · exact dropPlus_of_not_mem h
  · rfl

/-- The bounded reader reads a numeral behind a sign if its number is below the bound. -/
theorem unsigned?_sign_append (hb : 1 < base) (hb' : base ≤ 16) (hsign : sign ∈ signs)
    (h : IsNumeral base n s) :
    unsigned? base bound (sign ++ s) = if n < bound then some n else none := by
  have hplus : '+' ∉ s := not_mem_of_isNumeral hb hb' h rfl
  rw [unsigned?, dropPlus_sign_append hsign hplus, (natural?_eq_some_iff hb hb').2 h,
    Option.filter_some]
  simp only [decide_eq_true_iff]

/-- It reads nothing else. -/
theorem exists_of_unsigned? (hb : 1 < base) (hb' : base ≤ 16)
    (h : unsigned? base bound s = some n) :
    n < bound ∧ ∃ sign ∈ signs, ∃ digits, s = sign ++ digits ∧ IsNumeral base n digits := by
  obtain ⟨hn, hlt⟩ := Option.filter_eq_some_iff.1 h
  obtain ⟨sign, hsign, heq⟩ := exists_sign_dropPlus s
  exact ⟨of_decide_eq_true hlt, sign, hsign, dropPlus s, heq,
    (natural?_eq_some_iff hb hb').1 hn⟩

/-- The bounded reader reads the numerals of the numbers below the bound, behind a sign. -/
theorem unsigned?_eq_some_iff (hb : 1 < base) (hb' : base ≤ 16) :
    unsigned? base bound s = some n ↔
      n < bound ∧ ∃ sign ∈ signs, ∃ digits, s = sign ++ digits ∧ IsNumeral base n digits := by
  refine ⟨exists_of_unsigned? hb hb', ?_⟩
  rintro ⟨hlt, sign, hsign, digits, rfl, hdigits⟩
  rw [unsigned?_sign_append hb hb' hsign hdigits, if_pos hlt]

/-! ### Trimming -/

theorem dropWhile_of_forall_not {p : Char → Bool} (h : ∀ c ∈ s, p c = false) :
    s.dropWhile p = s := by
  rw [List.dropWhile_eq_self_iff]
  intro hpos hfirst
  rw [h _ (List.getElem_mem hpos)] at hfirst
  cases hfirst

theorem digitValue_of_isBlank (h : isBlank c = true) : digitValue c = none := by
  simp only [isBlank, Bool.or_eq_true, Bool.and_eq_true, decide_eq_true_eq, beq_iff_eq] at h
  simp only [digitValue]
  rw [if_neg (by omega), if_neg (by omega), if_neg (by omega)]

theorem isBlank_of_mem_isNumeral (hb : 1 < base) (hb' : base ≤ 16) (h : IsNumeral base n s)
    (hc : c ∈ s) : isBlank c = false := by
  by_contra hblank
  have hnone : digit? base c = none := by
    rw [digit?, digitValue_of_isBlank (Bool.of_not_eq_false hblank)]
    rfl
  exact not_mem_of_isNumeral hb hb' h hnone hc

/-- Trimming leaves what stands between blanks. -/
theorem trim_eq {a b : List Char} (ha : ∀ c ∈ a, isBlank c = true)
    (hb : ∀ c ∈ b, isBlank c = true) (hs : ∀ c ∈ s, isBlank c = false) :
    trim (a ++ s ++ b) = s := by
  have hstart : trimStart (a ++ s ++ b) = if s = [] then [] else s ++ b := by
    rw [trimStart, List.append_assoc, List.dropWhile_append_of_pos ha, List.dropWhile_append,
      dropWhile_of_forall_not hs, List.dropWhile_eq_nil_iff.2 hb]
    cases s <;> rfl
  rw [trim, hstart, trimEnd]
  split
  next hnil =>
    subst hnil
    rfl
  next =>
    have hb' : ∀ c ∈ b.reverse, isBlank c = true := by simpa using hb
    have hs' : ∀ c ∈ s.reverse, isBlank c = false := by simpa using hs
    rw [List.reverse_append, List.dropWhile_append_of_pos hb', dropWhile_of_forall_not hs',
      List.reverse_reverse]

end R3000.Text
