import R3000.Text.Blank

/-!
Numerals: numbers written in decimal and hexadecimal digits, and read back. Reading accepts digits
of either case, and the bounded reader an optional plus sign. Main statement: what is written is
read back, whatever the padding.
-/

namespace R3000.Text

/-- Decimal digits. -/
def decimal (n : Nat) : List Char := Nat.toDigits 10 n

/-- The decimal text of a number. -/
def number (n : Nat) : String := String.ofList (decimal n)

/-- Lower-case hexadecimal digits. -/
def hexLower (n : Nat) : List Char := Nat.toDigits 16 n

/-- Upper-case hexadecimal digits, padded with zeros to a least width. -/
def hex (width n : Nat) : List Char := ((hexLower n).map Char.toUpper).leftpad width '0'

/-- The value of a digit, letters of either case standing for ten and more. -/
def digitValue (c : Char) : Option Nat :=
  let n := c.toNat
  if 48 ≤ n ∧ n ≤ 57 then some (n - 48)
  else if 65 ≤ n ∧ n ≤ 90 then some (n - 55)
  else if 97 ≤ n ∧ n ≤ 122 then some (n - 87)
  else none

/-- The value of a digit of the given base. -/
def digit? (base : Nat) (c : Char) : Option Nat := (digitValue c).filter (· < base)

/-- Reads digits after those that gave `acc`. -/
def digitsFrom (base : Nat) : Nat → List Char → Option Nat
  | acc, [] => some acc
  | acc, c :: s => (digit? base c).bind fun d => digitsFrom base (base * acc + d) s

/-- Reads a numeral: one digit or more and nothing else. -/
def natural? (base : Nat) : List Char → Option Nat
  | [] => none
  | s => digitsFrom base 0 s

/-- Drops one leading plus sign. -/
def dropPlus : List Char → List Char
  | '+' :: s => s
  | s => s

/-- Reads a numeral below a bound, with or without a plus sign. -/
def unsigned? (base bound : Nat) (s : List Char) : Option Nat :=
  (natural? base (dropPlus s)).filter (· < bound)

theorem digitsFrom_append (base acc : Nat) (s t : List Char) :
    digitsFrom base acc (s ++ t) = (digitsFrom base acc s).bind (digitsFrom base · t) := by
  induction s generalizing acc with
  | nil => rfl
  | cons c s ih => cases h : digit? base c <;> simp [digitsFrom, h, ih]

/-- Leading zeros do not change the value. -/
theorem digitsFrom_replicate_zero (base k : Nat) (hb : 0 < base) (s : List Char) :
    digitsFrom base 0 (List.replicate k '0' ++ s) = digitsFrom base 0 s := by
  have h : digit? base '0' = some 0 := by simp [digit?, digitValue, hb]
  induction k with
  | zero => rfl
  | succ k ih => simpa [List.replicate_succ, digitsFrom, h] using ih

theorem digit?_digitChar {base d : Nat} (hd : d < base) (hb : base ≤ 16) :
    digit? base (Nat.digitChar d) = some d := by
  have h : ∀ e < 16, digitValue (Nat.digitChar e) = some e := by decide
  simp [digit?, h d (by omega), hd]

theorem digit?_toUpper_digitChar {base d : Nat} (hd : d < base) (hb : base ≤ 16) :
    digit? base (Nat.digitChar d).toUpper = some d := by
  have h : ∀ e < 16, digitValue (Nat.digitChar e).toUpper = some e := by decide
  simp [digit?, h d (by omega), hd]

/-- The digits of a number, each written by a function that keeps its value, are read back. -/
theorem digitsFrom_map_toDigits {base : Nat} (hb : 1 < base) (f : Char → Char)
    (hf : ∀ d < base, digit? base (f (Nat.digitChar d)) = some d) (n : Nat) :
    digitsFrom base 0 ((Nat.toDigits base n).map f) = some n := by
  induction n using Nat.strongRecOn with
  | ind n ih =>
    rcases Nat.lt_or_ge n base with h | h
    · simp [Nat.toDigits_of_lt_base h, digitsFrom, hf n h]
    · have hq : n / base < n := Nat.div_lt_self (by omega) hb
      have hr : n % base < base := Nat.mod_lt _ (by omega)
      simp [Nat.toDigits_of_base_le hb h, digitsFrom_append, ih _ hq, digitsFrom, hf _ hr,
        Nat.div_add_mod]

theorem natural?_of_ne_nil {base : Nat} {s : List Char} (h : s ≠ []) :
    natural? base s = digitsFrom base 0 s := by
  cases s with
  | nil => exact absurd rfl h
  | cons c s => rfl

/-- Decimal digits are read back. -/
theorem natural?_decimal (n : Nat) : natural? 10 (decimal n) = some n := by
  rw [decimal, natural?_of_ne_nil (List.ne_nil_of_length_pos Nat.length_toDigits_pos)]
  simpa using digitsFrom_map_toDigits (by decide) id
    (fun d hd => digit?_digitChar hd (by decide)) n

/-- Padded upper-case hexadecimal digits are read back. -/
theorem natural?_hex (width n : Nat) : natural? 16 (hex width n) = some n := by
  have h : hex width n ≠ [] := by
    intro h
    simp [hex, hexLower, List.leftpad] at h
  rw [natural?_of_ne_nil h, hex, List.leftpad, digitsFrom_replicate_zero _ _ (by decide), hexLower]
  exact digitsFrom_map_toDigits (by decide) _
    (fun d hd => digit?_toUpper_digitChar hd (Nat.le_refl _)) n

/-- Whatever is read as a numeral has digits only. -/
theorem isSome_digit?_of_digitsFrom {base acc n : Nat} {s : List Char}
    (h : digitsFrom base acc s = some n) : ∀ c ∈ s, (digit? base c).isSome := by
  induction s generalizing acc with
  | nil => exact nofun
  | cons d s ih =>
    obtain ⟨v, hv, hs⟩ := Option.bind_eq_some_iff.1 h
    intro c hc
    rcases List.mem_cons.1 hc with rfl | hc
    · rw [hv]
      rfl
    · exact ih hs c hc

theorem not_mem_of_natural? {base n : Nat} {s : List Char} (h : natural? base s = some n) {c : Char}
    (hc : digit? base c = none) : c ∉ s := by
  intro hmem
  rw [natural?_of_ne_nil (List.ne_nil_of_mem hmem)] at h
  have hsome := isSome_digit?_of_digitsFrom h c hmem
  rw [hc] at hsome
  cases hsome

theorem decimal_inj {m n : Nat} (h : decimal m = decimal n) : m = n := by
  have hm := natural?_decimal m
  rw [h, natural?_decimal] at hm
  exact (Option.some.inj hm).symm

theorem hex_inj {width m n : Nat} (h : hex width m = hex width n) : m = n := by
  have hm := natural?_hex width m
  rw [h, natural?_hex] at hm
  exact (Option.some.inj hm).symm

end R3000.Text
