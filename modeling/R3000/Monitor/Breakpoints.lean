import R3000.Word

/-!
Breakpoints: a set of addresses, kept in ascending order. Main statements: what insertion and
removal do to membership.
-/

namespace R3000

/-- A set of addresses. -/
structure Breakpoints where
  addresses : List Word
  ascending : addresses.Pairwise (· < ·)

namespace Breakpoints

/-- No address. -/
def empty : Breakpoints := ⟨[], .nil⟩

/-- Puts an address into an ascending list that lacks or holds it. -/
def place (a : Word) : List Word → List Word
  | [] => [a]
  | b :: bs => if a < b then a :: b :: bs else if a = b then b :: bs else b :: place a bs

theorem mem_place (a c : Word) (bs : List Word) : c ∈ place a bs ↔ c = a ∨ c ∈ bs := by
  induction bs with
  | nil => simp [place]
  | cons b bs ih =>
    unfold place
    split
    next => simp
    next =>
      split
      next h => simp [h]
      next => simp [ih, or_left_comm]

theorem ascending_place (a : Word) {bs : List Word} (h : bs.Pairwise (· < ·)) :
    (place a bs).Pairwise (· < ·) := by
  induction bs with
  | nil => simp [place]
  | cons b bs ih =>
    obtain ⟨hb, hs⟩ := List.pairwise_cons.1 h
    unfold place
    split
    next hlt =>
      refine List.pairwise_cons.2 ⟨fun c hc => ?_, h⟩
      rcases List.mem_cons.1 hc with rfl | hc
      · exact hlt
      · exact UInt32.lt_trans hlt (hb c hc)
    next hlt =>
      split
      next => exact h
      next hne =>
        refine List.pairwise_cons.2 ⟨fun c hc => ?_, ih hs⟩
        rcases (mem_place a c bs).1 hc with rfl | hc
        · exact UInt32.lt_of_le_of_ne (UInt32.not_lt.1 hlt) (Ne.symm hne)
        · exact hb c hc

/-- Whether an address is in the set. -/
def contains (s : Breakpoints) (a : Word) : Bool := s.addresses.contains a

/-- Adds an address. -/
def insert (s : Breakpoints) (a : Word) : Breakpoints :=
  ⟨place a s.addresses, ascending_place a s.ascending⟩

/-- Takes an address away. -/
def erase (s : Breakpoints) (a : Word) : Breakpoints :=
  ⟨s.addresses.filter (· != a), s.ascending.filter _⟩

/-- The addresses, ascending. -/
def toList (s : Breakpoints) : List Word := s.addresses

theorem contains_insert (s : Breakpoints) (a b : Word) :
    (s.insert a).contains b = (b == a || s.contains b) := by
  rw [Bool.eq_iff_iff]
  simp [contains, insert, mem_place]

theorem contains_erase (s : Breakpoints) (a b : Word) :
    (s.erase a).contains b = (b != a && s.contains b) := by
  rw [Bool.eq_iff_iff]
  simp [contains, erase, and_comm]

end Breakpoints

end R3000
