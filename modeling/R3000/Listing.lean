import R3000.Instruction.Mnemonic
import R3000.Memory.Basic

/-!
Listings: consecutive words of memory with their addresses and mnemonics. A listing is complete or
a fault for the first address that cannot be read. Main statement: a complete listing has the
length asked for, and its lines hold the words at successive addresses.
-/

namespace R3000

/-- A line of a listing. -/
structure ListingLine where
  address : Word
  word : Word
  deriving Repr, DecidableEq

namespace ListingLine

/-- The mnemonic of a line. -/
def mnemonic (l : ListingLine) : String := (Instruction.mk l.word).mnemonic

/-- The text of a line. -/
def text (l : ListingLine) : String :=
  String.ofList (Text.hex 8 l.address.toNat ++ ' ' :: ' ' :: Text.hex 8 l.word.toNat ++
    ' ' :: ' ' :: (Instruction.mk l.word).text)

end ListingLine

namespace Memory

/-- Appends the lines of the words from an address on to the reversed lines before them. -/
def listAfter (m : Memory) (before : List ListingLine) (a : Word) :
    Nat → Except Fault (List ListingLine)
  | 0 => .ok before.reverse
  | n + 1 =>
    match m.loadWord a with
    | .error e => .error e
    | .ok w => m.listAfter (⟨a, w⟩ :: before) (a + 4) n

/-- The lines of `count` words from an address on. -/
def listing (m : Memory) (start : Word) (count : Nat) : Except Fault (List ListingLine) :=
  m.listAfter [] start count

/-- The lines of `context` words before an address, the word there, and as many words after it. -/
def listingAround (m : Memory) (centre : Word) (context : Nat) :
    Except Fault (List ListingLine) :=
  m.listing (centre - 4 * UInt32.ofNat context) (2 * context + 1)

/-- The lines collected before stand in front of the others. -/
theorem listAfter_eq (m : Memory) (before : List ListingLine) (a : Word) (n : Nat) :
    m.listAfter before a n = (m.listing a n).map (before.reverse ++ ·) := by
  induction n generalizing before a with
  | zero => simp [listing, listAfter, Except.map]
  | succ n ih =>
    simp only [listing, listAfter]
    cases m.loadWord a with
    | error e => rfl
    | ok w =>
      simp only [ih (⟨a, w⟩ :: before), ih [⟨a, w⟩]]
      cases m.listing (a + 4) n <;> simp [Except.map]

theorem listing_zero (m : Memory) (a : Word) : m.listing a 0 = .ok [] := rfl

theorem listing_succ (m : Memory) (a : Word) (n : Nat) : m.listing a (n + 1) =
    (m.loadWord a).bind fun w => (m.listing (a + 4) n).map (⟨a, w⟩ :: ·) := by
  simp only [listing, listAfter]
  cases m.loadWord a with
  | error e => rfl
  | ok w => exact m.listAfter_eq [⟨a, w⟩] (a + 4) n

theorem length_of_listing {m : Memory} {a : Word} {n : Nat} {ls : List ListingLine}
    (h : m.listing a n = .ok ls) : ls.length = n := by
  induction n generalizing a ls with
  | zero => cases h; rfl
  | succ n ih =>
    rw [listing_succ] at h
    cases hw : m.loadWord a with
    | error e => simp [hw, Except.bind] at h
    | ok w =>
      cases hr : m.listing (a + 4) n with
      | error e => simp [hw, hr, Except.bind, Except.map] at h
      | ok rest =>
        simp only [hw, hr, Except.bind, Except.map, Except.ok.injEq] at h
        simp [← h, ih hr]

/-- Line `i` of a listing holds the word `i` words behind its start. -/
theorem getElem_of_listing {m : Memory} {a : Word} {n : Nat} {ls : List ListingLine}
    (h : m.listing a n = .ok ls) (i : Nat) (hi : i < ls.length) :
    ls[i].address = a + 4 * UInt32.ofNat i ∧ m.loadWord ls[i].address = .ok ls[i].word := by
  induction n generalizing a ls i with
  | zero => cases h; cases hi
  | succ n ih =>
    rw [listing_succ] at h
    cases hw : m.loadWord a with
    | error e => simp [hw, Except.bind] at h
    | ok w =>
      cases hr : m.listing (a + 4) n with
      | error e => simp [hw, hr, Except.bind, Except.map] at h
      | ok rest =>
        simp only [hw, hr, Except.bind, Except.map, Except.ok.injEq] at h
        subst h
        cases i with
        | zero => simp [hw]
        | succ i =>
          obtain ⟨ha, hl⟩ := ih hr i (by simpa using hi)
          refine ⟨?_, hl⟩
          simp only [List.getElem_cons_succ, ha]
          apply UInt32.toNat_inj.1
          simp [UInt32.toNat_add, UInt32.toNat_mul, UInt32.toNat_ofNat']
          omega

end Memory

end R3000
