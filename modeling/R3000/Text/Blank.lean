/-!
Blank characters: the code points with the White_Space property, and text with the blank ends or a
byte order mark cut off. Main statement: trimming cuts blanks only.
-/

namespace R3000.Text

/-- The White_Space property of a code point. -/
def isBlank (c : Char) : Bool :=
  let n := c.toNat
  (9 ≤ n && n ≤ 13) || n == 0x20 || n == 0x85 || n == 0xA0 || n == 0x1680 ||
    (0x2000 ≤ n && n ≤ 0x200A) || n == 0x2028 || n == 0x2029 || n == 0x202F || n == 0x205F ||
    n == 0x3000

/-- Cuts blanks off the front. -/
def trimStart (s : List Char) : List Char := s.dropWhile isBlank

/-- Cuts blanks off the back. -/
def trimEnd (s : List Char) : List Char := (s.reverse.dropWhile isBlank).reverse

/-- Cuts blanks off both ends. -/
def trim (s : List Char) : List Char := trimEnd (trimStart s)

/-- Drops a byte order mark from the front. -/
def dropByteOrderMark : List Char → List Char
  | '\uFEFF' :: s => s
  | s => s

/-- Trimming the front takes away a run of blanks. -/
theorem trimStart_append (s : List Char) :
    ∃ b, s = b ++ trimStart s ∧ ∀ c ∈ b, isBlank c = true :=
  ⟨s.takeWhile isBlank, (List.takeWhile_append_dropWhile).symm, fun _ h => List.all_takeWhile
    |> (List.all_eq_true.1 · _ h)⟩

/-- Trimming the back takes away a run of blanks. -/
theorem trimEnd_append (s : List Char) :
    ∃ b, s = trimEnd s ++ b ∧ ∀ c ∈ b, isBlank c = true := by
  obtain ⟨b, hb, hc⟩ := trimStart_append s.reverse
  refine ⟨b.reverse, ?_, by simpa using hc⟩
  rw [trimEnd, ← List.reverse_append, ← trimStart, ← hb, List.reverse_reverse]

/-- Trimming takes away a run of blanks at each end. -/
theorem trim_append (s : List Char) : ∃ a b, s = a ++ trim s ++ b ∧
    (∀ c ∈ a, isBlank c = true) ∧ ∀ c ∈ b, isBlank c = true := by
  obtain ⟨a, ha, hca⟩ := trimStart_append s
  obtain ⟨b, hb, hcb⟩ := trimEnd_append (trimStart s)
  exact ⟨a, b, by rw [List.append_assoc, trim, ← hb, ← ha], hca, hcb⟩

end R3000.Text
