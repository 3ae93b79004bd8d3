import R3000.Word

/-!
The register file: what instructions see during a cycle, and what they have written so far in it. A
write becomes visible at the commit that ends the cycle; register 0 ignores every write.
-/

namespace R3000

/-- The 32 general registers, as they are seen and as they will be. -/
@[ext]
structure RegisterFile where
  visible : Vector Word 32
  staged : Vector Word 32
  deriving DecidableEq

namespace RegisterFile

/-- The register that the low five bits of a number select. -/
def index (n : Nat) : Fin 32 := Fin.ofNat 32 n

/-- All registers zero. -/
def zeros : RegisterFile := ⟨.replicate 32 0, .replicate 32 0⟩

/-- The visible value of a register. -/
def read (f : RegisterFile) (r : Fin 32) : Word := f.visible[r]

/-- Writes a register for the end of the cycle. -/
def write (f : RegisterFile) (r : Fin 32) (v : Word) : RegisterFile :=
  if r = 0 then f else { f with staged := f.staged.set r v }

/-- Writes a register at once. -/
def inject (f : RegisterFile) (r : Fin 32) (v : Word) : RegisterFile :=
  if r = 0 then f else ⟨f.visible.set r v, f.staged.set r v⟩

/-- Makes the writes of the cycle visible. -/
def commit (f : RegisterFile) : RegisterFile := { f with visible := f.staged }

@[simp]
theorem read_zeros (r : Fin 32) : zeros.read r = 0 := by simp [read, zeros]

@[simp]
theorem read_write (f : RegisterFile) (r s : Fin 32) (v : Word) :
    (f.write r v).read s = f.read s := by
  unfold write
  split <;> rfl

theorem staged_write (f : RegisterFile) (r s : Fin 32) (v : Word) :
    (f.write r v).staged[s] = if r ≠ 0 ∧ r = s then v else f.staged[s] := by
  unfold write
  split
  next h => simp [h]
  next h => simp [h, Vector.getElem_set, Fin.ext_iff]

theorem read_inject (f : RegisterFile) (r s : Fin 32) (v : Word) :
    (f.inject r v).read s = if r ≠ 0 ∧ r = s then v else f.read s := by
  unfold inject
  split
  next h => simp [h]
  next h => simp [h, read, Vector.getElem_set, Fin.ext_iff]

@[simp]
theorem read_commit (f : RegisterFile) (r : Fin 32) : f.commit.read r = f.staged[r] := rfl

end RegisterFile

end R3000
