/-!
Sets of numbers given by their bounds: the ascending points where membership changes, the first of
them being the least member. Main statement: the bounds of a combination of two sets ascend.
-/

namespace R3000.Text

/-- Whether `n` is in the set with the given bounds: an odd number of them lie at or below it. -/
def inBounds (n : Nat) : List Nat → Bool
  | [] => false
  | b :: bs => if b ≤ n then !inBounds n bs else false

/-! ## Combining two sets -/

/-- The bounds `bs` behind the point `b`, at which membership turns from `x` to `y`. -/
def turn (b : Nat) (x y : Bool) (bs : List Nat) : List Nat := if x = y then bs else b :: bs

/-- The bounds of the set whose members `f` decides from membership in two sets, behind points
    where the memberships have become `x` and `y`. -/
def combine (f : Bool → Bool → Bool) (x y : Bool) : List Nat → List Nat → List Nat
  | [], [] => []
  | a :: as, [] => turn a (f x y) (f (!x) y) (combine f (!x) y as [])
  | [], b :: bs => turn b (f x y) (f x (!y)) (combine f x (!y) [] bs)
  | a :: as, b :: bs =>
    if a < b then turn a (f x y) (f (!x) y) (combine f (!x) y as (b :: bs))
    else if b < a then turn b (f x y) (f x (!y)) (combine f x (!y) (a :: as) bs)
    else turn a (f x y) (f (!x) (!y)) (combine f (!x) (!y) as bs)
termination_by as bs => as.length + bs.length

theorem mem_turn {c b : Nat} {x y : Bool} {bs : List Nat} (h : c ∈ turn b x y bs) :
    c = b ∨ c ∈ bs := by
  grind [turn]

/-- No bound is new. -/
theorem mem_combine {c : Nat} {f : Bool → Bool → Bool} {x y : Bool} {as bs : List Nat}
    (h : c ∈ combine f x y as bs) : c ∈ as ∨ c ∈ bs := by
  fun_induction combine f x y as bs with grind [mem_turn]

theorem pairwise_turn {b : Nat} {x y : Bool} {bs : List Nat} (h : ∀ c ∈ bs, b < c)
    (hb : bs.Pairwise (· < ·)) : (turn b x y bs).Pairwise (· < ·) := by
  rw [turn]
  split
  · exact hb
  · exact List.pairwise_cons.2 ⟨h, hb⟩

theorem lt_of_mem_combine {m : Nat} {f : Bool → Bool → Bool} {x y : Bool} {as bs : List Nat}
    (ha : ∀ c ∈ as, m < c) (hb : ∀ c ∈ bs, m < c) : ∀ c ∈ combine f x y as bs, m < c :=
  fun c h => (mem_combine h).elim (ha c) (hb c)

theorem lt_of_mem_cons {m b : Nat} {bs : List Nat} (h : m < b)
    (hb : (b :: bs).Pairwise (· < ·)) : ∀ c ∈ b :: bs, m < c :=
  List.forall_mem_cons.2 ⟨h, fun c hc => Nat.lt_trans h ((List.pairwise_cons.1 hb).1 c hc)⟩

/-- Bounds in order give bounds in order. -/
theorem pairwise_combine (f : Bool → Bool → Bool) (x y : Bool) {as bs : List Nat}
    (ha : as.Pairwise (· < ·)) (hb : bs.Pairwise (· < ·)) :
    (combine f x y as bs).Pairwise (· < ·) := by
  fun_induction combine f x y as bs with
  | case1 => exact .nil
  | case2 x y a as ih =>
    exact pairwise_turn (lt_of_mem_combine (List.pairwise_cons.1 ha).1 (by simp)) (ih ha.of_cons hb)
  | case3 x y b bs ih =>
    exact pairwise_turn (lt_of_mem_combine (by simp) (List.pairwise_cons.1 hb).1) (ih ha hb.of_cons)
  | case4 x y a as b bs h ih =>
    exact pairwise_turn (lt_of_mem_combine (List.pairwise_cons.1 ha).1 (lt_of_mem_cons h hb))
      (ih ha.of_cons hb)
  | case5 x y a as b bs h h' ih =>
    exact pairwise_turn (lt_of_mem_combine (lt_of_mem_cons h' ha) (List.pairwise_cons.1 hb).1)
      (ih ha hb.of_cons)
  | case6 x y a as b bs h h' ih =>
    obtain rfl : a = b := by omega
    exact pairwise_turn
      (lt_of_mem_combine (List.pairwise_cons.1 ha).1 (List.pairwise_cons.1 hb).1)
      (ih ha.of_cons hb.of_cons)

end R3000.Text
