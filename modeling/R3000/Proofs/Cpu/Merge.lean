import Mathlib.Algebra.Group.Nat.Defs
import R3000.Cpu.Arithmetic

/-!
Merges, byte by byte. A mask keeps some bytes of one word and a shift moves those of another into
the place of the rest. Main statements: the byte at every position after each of the four merges of
unaligned loads and stores, and the number that a merge into a register makes up. A merge into
memory is one into a register with the roles of the two words exchanged, at the position counted
from the other end.
-/

namespace R3000.Word

/-! ### The bytes of a word -/

theorem getLsbD_byte (x : Word) {i j : Nat} (hi : i < 4) (hj : j < 8) :
    (x.byte i).toBitVec.getLsbD j = x.toBitVec.getLsbD (8 * i + j) := by
  have hplaces : 8 * i % 4294967296 % 32 = 8 * i := by omega
  simp [byte, hj, hplaces]

/-- Words with equal bytes are equal. -/
theorem ext_byte {x y : Word} (h : ∀ i < 4, x.byte i = y.byte i) : x = y := by
  rw [← ofBytes_byte x, ← ofBytes_byte y, h 0 (by decide), h 1 (by decide), h 2 (by decide),
    h 3 (by decide)]

theorem byte_or (x y : Word) (i : Nat) : (x ||| y).byte i = x.byte i ||| y.byte i := by
  simp [byte, UInt32.shiftRight_or]

theorem byte_and (x y : Word) (i : Nat) : (x &&& y).byte i = x.byte i &&& y.byte i := by
  simp [byte, UInt32.shiftRight_and]

/-- A shift to the left by whole bytes. -/
theorem byte_shiftLeft (x : Word) {n i : Nat} (hn : n < 4) (hi : i < 4) :
    (x <<< UInt32.ofNat (8 * n)).byte i = if n ≤ i then x.byte (i - n) else 0 := by
  have hplaces : 8 * n % 4294967296 % 32 = 8 * n := by omega
  refine UInt8.toBitVec_inj.1 (BitVec.eq_of_getLsbD_eq fun j hj => ?_)
  rw [getLsbD_byte _ hi hj]
  split
  next h =>
    have hbit : 8 * i + j - 8 * n = 8 * (i - n) + j := by omega
    have hle : ¬ 8 * i + j < 8 * n := by omega
    have hlt : 8 * i + j < 32 := by omega
    rw [getLsbD_byte _ (by omega) hj]
    simp [-BitVec.getLsbD_eq_getElem, hplaces, hbit, hle, hlt]
  next h =>
    have hlt : 8 * i + j < 8 * n := by omega
    simp [hplaces, hlt]

/-- A shift to the right by whole bytes. -/
theorem byte_shiftRight (x : Word) {n i : Nat} (hn : n < 4) (hi : i < 4) :
    (x >>> UInt32.ofNat (8 * n)).byte i = if i + n < 4 then x.byte (i + n) else 0 := by
  have hplaces : 8 * n % 4294967296 % 32 = 8 * n := by omega
  refine UInt8.toBitVec_inj.1 (BitVec.eq_of_getLsbD_eq fun j hj => ?_)
  rw [getLsbD_byte _ hi hj]
  split
  next h =>
    have hbit : 8 * n + (8 * i + j) = 8 * (i + n) + j := by omega
    rw [getLsbD_byte _ h hj]
    simp [-BitVec.getLsbD_eq_getElem, hplaces, hbit]
  next h =>
    have hge : 32 ≤ 8 * n + (8 * i + j) := by omega
    simp [hplaces, BitVec.getLsbD_of_ge _ _ hge]

theorem byte_ofBytes (f : Nat → UInt8) {i : Nat} (hi : i < 4) :
    (ofBytes (f 0) (f 1) (f 2) (f 3)).byte i = f i := by
  have h₀ := (f 0).toNat_lt
  have h₁ := (f 1).toNat_lt
  have h₂ := (f 2).toNat_lt
  have h₃ := (f 3).toNat_lt
  apply UInt8.toNat_inj.1
  rw [toNat_byte _ i hi, toNat_ofBytes, Nat.shiftRight_eq_div_pow]
  match i, hi with
  | 0, _ | 1, _ | 2, _ | 3, _ =>
    simp only [Nat.reduceMul, Nat.reducePow]
    omega

theorem byte_toUInt32 (b : UInt8) {i : Nat} (hi : i < 4) :
    byte b.toUInt32 i = if i = 0 then b else 0 := by
  refine UInt8.toBitVec_inj.1 (BitVec.eq_of_getLsbD_eq fun j hj => ?_)
  rw [getLsbD_byte _ hi hj]
  split
  next h =>
    have hlt : j < 32 := by omega
    simp [-BitVec.getLsbD_eq_getElem, h, hlt]
  next h =>
    have hge : 8 ≤ 8 * i + j := by omega
    simp [BitVec.getLsbD_of_ge _ _ hge]

/-- Bytes side by side are bytes shifted into their places. -/
theorem ofBytes_eq_or (f : Nat → UInt8) : ofBytes (f 0) (f 1) (f 2) (f 3) =
    (f 0).toUInt32 ||| ((f 1).toUInt32 <<< 8) ||| ((f 2).toUInt32 <<< 16) |||
      ((f 3).toUInt32 <<< 24) := by
  have hshift {n i : Nat} (hn : n < 4) (hi : i < 4) :
      byte ((f n).toUInt32 <<< UInt32.ofNat (8 * n)) i = if i = n then f n else 0 := by
    rw [byte_shiftLeft _ hn hi]
    split
    next h =>
      have hsub : i - n = 0 ↔ i = n := by omega
      rw [byte_toUInt32 _ (by omega)]
      simp only [hsub]
    next h => rw [if_neg (by omega)]
  refine ext_byte fun i hi => ?_
  have h₁ : byte ((f 1).toUInt32 <<< 8) i = if i = 1 then f 1 else 0 := hshift (by decide) hi
  have h₂ : byte ((f 2).toUInt32 <<< 16) i = if i = 2 then f 2 else 0 := hshift (by decide) hi
  have h₃ : byte ((f 3).toUInt32 <<< 24) i = if i = 3 then f 3 else 0 := hshift (by decide) hi
  rw [byte_ofBytes f hi, byte_or, byte_or, byte_or, byte_toUInt32 _ hi, h₁, h₂, h₃]
  obtain rfl | rfl | rfl | rfl : i = 0 ∨ i = 1 ∨ i = 2 ∨ i = 3 := by omega
  all_goals simp

/-! ### Masks and shifts -/

/-- A mask keeps the bytes that the other word has left clear. -/
theorem byte_masked {c mask v : Word} {i : Nat} {keep : Prop} [Decidable keep]
    (hmask : mask.byte i = if keep then 0xFF else 0) (hv : keep → v.byte i = 0) :
    ((c &&& mask) ||| v).byte i = if keep then c.byte i else v.byte i := by
  have hones : c.byte i &&& 0xFF = c.byte i := UInt8.and_neg_one
  rw [byte_or, byte_and, hmask]
  split
  next h => simp [hv h, hones]
  next h => simp

/-- The `n` low bytes of a word in front of the low bytes of another one. -/
theorem byte_overlay_left {c w mask : Word} {n i : Nat} (hn : n < 4) (hi : i < 4)
    (hmask : ∀ i < 4, mask.byte i = if i < n then 0xFF else 0) :
    ((c &&& mask) ||| (w <<< UInt32.ofNat (8 * n))).byte i =
      if i < n then c.byte i else w.byte (i - n) := by
  have hw := byte_shiftLeft w hn hi
  rw [byte_masked (hmask i hi) fun h => by rw [hw, if_neg (by omega)], hw]
  split
  next => rfl
  next h => rw [if_pos (by omega)]

/-- The high bytes of a word, from byte `n` on, in front of the `n` high bytes of another one. -/
theorem byte_overlay_right {c w mask : Word} {n i : Nat} (hn : n < 4) (hi : i < 4)
    (hmask : ∀ i < 4, mask.byte i = if 4 ≤ i + n then 0xFF else 0) :
    ((c &&& mask) ||| (w >>> UInt32.ofNat (8 * n))).byte i =
      if i + n < 4 then w.byte (i + n) else c.byte i := by
  have hw := byte_shiftRight w hn hi
  rw [byte_masked (hmask i hi) fun h => by rw [hw, if_neg (by omega)], hw]
  split
  next h => rw [if_neg (by omega)]
  next h => rw [if_pos (by omega), if_pos (by omega)]

/-! ### The four merges -/

theorem byte_loadLeft (c w : Word) {k i : Nat} (hk : k < 4) (hi : i < 4) :
    (loadLeft c w k).byte i = if 3 ≤ i + k then w.byte (i + k - 3) else c.byte i := by
  match k, hk with
  | 0, _ => exact (byte_overlay_left (n := 3) (by decide) hi (by decide)).trans (by grind)
  | 1, _ => exact (byte_overlay_left (n := 2) (by decide) hi (by decide)).trans (by grind)
  | 2, _ => exact (byte_overlay_left (n := 1) (by decide) hi (by decide)).trans (by grind)
  | 3, _ => exact (if_pos (Nat.le_add_left ..)).symm

theorem byte_loadRight (c w : Word) {k i : Nat} (hk : k < 4) (hi : i < 4) :
    (loadRight c w k).byte i = if i + k < 4 then w.byte (i + k) else c.byte i := by
  match k, hk with
  | 0, _ => exact (if_pos hi).symm
  | 1, _ => exact byte_overlay_right (n := 1) (by decide) hi (by decide)
  | 2, _ => exact byte_overlay_right (n := 2) (by decide) hi (by decide)
  | 3, _ => exact byte_overlay_right (n := 3) (by decide) hi (by decide)

theorem storeLeft_eq (memory value : Word) {k : Nat} (hk : k < 4) :
    storeLeft memory value k = loadRight memory value (3 - k) := by
  match k, hk with
  | 0, _ | 1, _ | 2, _ | 3, _ => rfl

theorem storeRight_eq (memory value : Word) {k : Nat} (hk : k < 4) :
    storeRight memory value k = loadLeft memory value (3 - k) := by
  match k, hk with
  | 0, _ | 1, _ | 2, _ | 3, _ => rfl

theorem byte_storeLeft (memory value : Word) {k i : Nat} (hk : k < 4) (hi : i < 4) :
    (storeLeft memory value k).byte i =
      if i ≤ k then value.byte (i + 3 - k) else memory.byte i := by
  rw [storeLeft_eq _ _ hk, byte_loadRight _ _ (by omega) hi]
  grind

theorem byte_storeRight (memory value : Word) {k i : Nat} (hk : k < 4) (hi : i < 4) :
    (storeRight memory value k).byte i = if k ≤ i then value.byte (i - k) else memory.byte i := by
  rw [storeRight_eq _ _ hk, byte_loadLeft _ _ (by omega) hi]
  grind

/-! ### Merges as numbers -/

/-- A word is the number that its bytes make up. -/
theorem toNat_eq_of_bytes {x : Word} {f : Nat → UInt8} (h : ∀ i < 4, x.byte i = f i) :
    x.toNat = (f 0).toNat + 256 * (f 1).toNat + 65536 * (f 2).toNat + 16777216 * (f 3).toNat := by
  rw [← toNat_ofBytes, ← h 0 (by decide), ← h 1 (by decide), ← h 2 (by decide), ← h 3 (by decide),
    ofBytes_byte]

/-- The low bits of a register, and memory moved up above them. -/
theorem toNat_loadLeft (c w : Word) {k : Nat} (hk : k < 4) : (loadLeft c w k).toNat =
    c.toNat % 2 ^ (24 - 8 * k) + w.toNat * 2 ^ (24 - 8 * k) % 2 ^ 32 := by
  have hc := c.toNat_lt
  have hw := w.toNat_lt
  rw [toNat_eq_of_bytes fun i hi => byte_loadLeft c w hk hi]
  match k, hk with
  | 0, _ | 1, _ | 2, _ | 3, _ =>
    simp only [Nat.reduceAdd, Nat.reduceSub, Nat.reduceMul, Nat.reducePow, Nat.reduceLeDiff,
      Nat.reduceLT, Nat.zero_lt_succ, ↓reduceIte, toNat_byte, Nat.shiftRight_eq_div_pow]
    omega

/-- The high bits of a register, and memory moved down below them. -/
theorem toNat_loadRight (c w : Word) {k : Nat} (hk : k < 4) : (loadRight c w k).toNat =
    c.toNat / 2 ^ (32 - 8 * k) * 2 ^ (32 - 8 * k) + w.toNat / 2 ^ (8 * k) := by
  have hc := c.toNat_lt
  have hw := w.toNat_lt
  rw [toNat_eq_of_bytes fun i hi => byte_loadRight c w hk hi]
  match k, hk with
  | 0, _ | 1, _ | 2, _ | 3, _ =>
    simp only [Nat.reduceAdd, Nat.reduceSub, Nat.reduceMul, Nat.reducePow, Nat.reduceLT,
      Nat.zero_lt_succ, ↓reduceIte, toNat_byte, Nat.shiftRight_eq_div_pow]
    omega

end R3000.Word
