/-!
Buffers: byte sequences whose length is part of their type. Each operation is described by the byte
it leaves at every index, and two buffers with the same bytes are equal.
-/

namespace R3000

/-- `n` copies of a byte, built by doubling. -/
def repeatedByte (n : Nat) (v : UInt8) : ByteArray :=
  if n = 0 then .empty
  else
    let half := repeatedByte (n / 2) v
    if n % 2 = 0 then half ++ half else (half ++ half).push v
termination_by n

theorem data_repeatedByte (n : Nat) (v : UInt8) :
    (repeatedByte n v).data = Array.replicate n v := by
  induction n using Nat.strongRecOn with
  | ind n ih =>
    have hpush (b : ByteArray) : (b.push v).data = b.data.push v := rfl
    rw [repeatedByte]
    split
    next h => simp [h]
    next h =>
      have hd := ih (n / 2) (by omega)
      apply Array.toList_inj.1
      split <;>
        simp only [hpush, ByteArray.data_append, hd, Array.toList_append, Array.toList_push,
          Array.toList_replicate, List.replicate_append_replicate, ← List.replicate_succ'] <;>
        congr 1 <;> omega

@[simp]
theorem size_repeatedByte (n : Nat) (v : UInt8) : (repeatedByte n v).size = n := by
  rw [← ByteArray.size_data, data_repeatedByte, Array.size_replicate]

/-- A sequence of `size` bytes. -/
@[ext]
structure Buffer (size : Nat) where
  bytes : ByteArray
  size_bytes : bytes.size = size

namespace Buffer

variable {size : Nat}

/-- The byte at an index. -/
def get (b : Buffer size) (i : Nat) (h : i < size) : UInt8 :=
  b.bytes.get i (Nat.lt_of_lt_of_eq h b.size_bytes.symm)

/-- Replaces the byte at an index. -/
def set (b : Buffer size) (i : Nat) (h : i < size) (v : UInt8) : Buffer size :=
  ⟨b.bytes.set i v (Nat.lt_of_lt_of_eq h b.size_bytes.symm), by
    rw [← ByteArray.size_data, ByteArray.data_set, Array.size_set]
    exact b.size_bytes⟩

/-- Replaces the bytes from an index on. -/
def write (b : Buffer size) (o : Nat) : (vs : List UInt8) → o + vs.length ≤ size → Buffer size
  | [], _ => b
  | v :: vs, h =>
    write (b.set o (by simp at h; omega) v) (o + 1) vs (by simp at h; omega)

/-- The buffer of zeros. -/
def zeros (size : Nat) : Buffer size := ⟨repeatedByte size 0, size_repeatedByte size 0⟩

/-- Bytes that fit, and zeros behind them. -/
def padded (bytes : ByteArray) (h : bytes.size ≤ size) : Buffer size :=
  ⟨bytes ++ repeatedByte (size - bytes.size) 0, by simp; omega⟩

theorem size_data (b : Buffer size) : b.bytes.data.size = size := b.size_bytes

theorem get_eq (b : Buffer size) (i : Nat) (h : i < size) :
    b.get i h = b.bytes.data[Fin.mk i (b.size_data ▸ h)] := rfl

/-- Buffers with equal bytes are equal. -/
theorem ext_get {a b : Buffer size} (h : ∀ i hi, a.get i hi = b.get i hi) : a = b := by
  apply Buffer.ext
  apply ByteArray.ext_getElem (a.size_bytes.trans b.size_bytes.symm)
  intro i hi _
  exact h i (a.size_bytes ▸ hi)

theorem get_set (b : Buffer size) (i j : Nat) (hi : i < size) (hj : j < size) (v : UInt8) :
    (b.set i hi v).get j hj = if i = j then v else b.get j hj := by
  simp only [get_eq, set, ByteArray.data_set, Fin.getElem_fin, Array.getElem_set]

theorem get_write (b : Buffer size) (o : Nat) (vs : List UInt8) (h : o + vs.length ≤ size)
    (i : Nat) (hi : i < size) :
    (b.write o vs h).get i hi =
      if o ≤ i then (vs[i - o]?).getD (b.get i hi) else b.get i hi := by
  induction vs generalizing b o with
  | nil => simp [write]
  | cons v vs ih =>
    rw [write, ih]
    simp only [get_set]
    grind

@[simp]
theorem get_zeros (i : Nat) (h : i < size) : (zeros size).get i h = 0 := by
  simp [get_eq, zeros, data_repeatedByte]

theorem get_padded (bytes : ByteArray) (h : bytes.size ≤ size) (i : Nat) (hi : i < size) :
    (padded bytes h).get i hi = if h' : i < bytes.size then bytes.get i h' else 0 := by
  conv =>
    lhs
    simp only [get_eq, padded, ByteArray.data_append, data_repeatedByte, Fin.getElem_fin,
      Array.getElem_append, ByteArray.size_data, Array.getElem_replicate]
  rfl

end Buffer

end R3000
