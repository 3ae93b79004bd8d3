import Mathlib.Logic.Function.Basic
import R3000.Memory.Basic
import R3000.Proofs.Checked.Word

/-!
Memory with a domain. Buffers are byte sequences of any length, an offset is a difference, and the
end of an access is a sum of an offset and a length; each of these steps has a result only where the
address, the sum or the index is in range. An access that runs over the end of its region is a fault
and no failure. Main statements: on buffers of the lengths of their regions, the place of an access,
every load and every store have a result, and it is that of the memory.
-/

namespace R3000

/-! ### Attempts -/

/-- What may fault, and may have no result. -/
abbrev Attempt (α : Type) := ExceptT Fault Checked α

namespace Attempt

variable {α : Type}

/-- What may fault and has a result. -/
def of (e : Except Fault α) : Attempt α := ExceptT.mk (pure e)

theorem run_of (e : Except Fault α) : (of e).run = pure e := rfl

end Attempt

/-! ### Addresses -/

namespace Span

/-- Whether an address lies in the span, by its end in 64 bits. -/
def contains? (s : Span) (a : Word) : Checked Bool := do
  let last ← Checked.require (s.base.toNat + s.size.toNat < 2 ^ 64) .sum
    (s.base.toUInt64 + s.size.toUInt64)
  pure (s.base ≤ a && a.toUInt64 < last)

/-- How far an address of the span lies behind the base. -/
def offset? (s : Span) (a : Word) : Checked Nat := do
  let d ← Checked.require (s.base ≤ a) .difference (a - s.base)
  -- behind the end of the span there is a difference that means nothing
  Checked.require (s.contains a = true) .offset d.toNat

variable {s : Span} {a : Word}

theorem contains?_eq : s.contains? a = pure (s.contains a) := by
  have hbase := s.base.toNat_lt
  have hsize := s.size.toNat_lt
  have hsum : (s.base.toUInt64 + s.size.toUInt64).toNat = s.base.toNat + s.size.toNat := by
    rw [UInt64.toNat_add, UInt32.toNat_toUInt64, UInt32.toNat_toUInt64]
    omega
  have hlast : (a.toUInt64 < s.base.toUInt64 + s.size.toUInt64) ↔
      a.toNat < s.base.toNat + s.size.toNat := by
    rw [UInt64.lt_iff_toNat_lt, hsum, UInt32.toNat_toUInt64]
  rw [contains?, Checked.require_of (by omega), pure_bind]
  simp only [hlast]
  rfl

theorem offset?_of_contains (h : s.contains a = true) : s.offset? a = pure (s.offset a) := by
  have hbase : s.base ≤ a := UInt32.le_iff_toNat_le.2 ((s.contains_iff a).1 h).1
  rw [offset?, Checked.require_of hbase, pure_bind, Checked.require_of h]
  rfl

end Span

namespace Region

/-- The first of some regions that contains an address, and the offset in it. -/
def search? (a : Word) : List Region → Checked (Option (Region × Nat))
  | [] => pure none
  | r :: rs => do
    if ← r.span.contains? a then
      let o ← r.span.offset? a
      pure (some (r, o))
    else search? a rs

/-- The region of an address and the offset in it. -/
def resolve? (a : Word) : Checked (Option (Region × Nat)) := do
  if ← cacheControl.span.contains? a then
    let o ← cacheControl.span.offset? a
    pure (some (.cacheControl, o))
  else search? (physical a) masked

theorem search?_eq (a : Word) (rs : List Region) : search? a rs =
    pure ((rs.find? fun r => r.span.contains a).map fun r => (r, r.span.offset a)) := by
  induction rs with
  | nil => rfl
  | cons r rs ih =>
    rw [search?, Span.contains?_eq, pure_bind, List.find?_cons]
    cases h : r.span.contains a with
    | true =>
      rw [Span.offset?_of_contains h]
      rfl
    | false => exact ih

/-- An offset is only asked for where the region contains the address. -/
theorem resolve?_eq (a : Word) : resolve? a = pure (resolve a) := by
  rw [resolve?, resolve, Span.contains?_eq, pure_bind]
  cases h : cacheControl.span.contains a with
  | true =>
    rw [Span.offset?_of_contains h]
    rfl
  | false => exact search?_eq ..

theorem size_le (r : Region) : r.size ≤ 0x800000 := by
  cases r <;> decide

end Region

/-! ### Contents -/

/-- The contents of all regions, in byte sequences of any length. -/
abbrev RawMemory := Region → ByteArray

/-- The contents of all regions, in byte sequences of their lengths. -/
def Memory.raw (m : Memory) : RawMemory := fun r => (m.buffer r).bytes

/-- Byte sequences of the lengths of their regions, as a memory. -/
def RawMemory.toMemory (m : RawMemory) (h : ∀ r, (m r).size = r.size) : Memory where
  ram := ⟨m .ram, h _⟩
  scratchpad := ⟨m .scratchpad, h _⟩
  bios := ⟨m .bios, h _⟩
  ioPorts := ⟨m .ioPorts, h _⟩
  cacheControl := ⟨m .cacheControl, h _⟩
  expansion1 := ⟨m .expansion1, h _⟩
  expansion2 := ⟨m .expansion2, h _⟩
  expansion3 := ⟨m .expansion3, h _⟩

/-- Bytes on their way to an offset of a region. -/
structure RawStore where
  region : Region
  offset : Nat
  bytes : List UInt8

/-- Bytes on their way to a place that holds them. -/
def Store.raw (s : Store) : RawStore := ⟨s.place.region, s.place.offset, s.bytes⟩

namespace RawMemory

/-- The sum of two numbers that is an index, on hosts with indices of 32 or of 64 bits. -/
def sum? (o n : Nat) : Checked Nat := Checked.require (o + n < USize.size) .sum (o + n)

/-- The region and the offset of an access, if the region holds all its bytes. -/
def find? (m : RawMemory) (n : Nat) (a : Word) : Attempt (Region × Nat) := do
  match ← Region.resolve? a with
  | none => throw (.unmappedAddress a)
  | some (r, o) =>
    let last ← sum? o n
    if last ≤ (m r).size then pure (r, o) else throw (.unmappedAddress a)

/-- The byte at an index of a buffer. -/
def get? (b : ByteArray) (o : Nat) : Checked UInt8 :=
  if h : o < b.size then .ok (b.get o h) else .error .index

/-- Replaces the byte at an index of a buffer. -/
def set? (b : ByteArray) (o : Nat) (v : UInt8) : Checked ByteArray :=
  if h : o < b.size then .ok (b.set o v h) else .error .index

/-- Replaces the bytes from an index of a buffer on. -/
def setAll? (b : ByteArray) (o : Nat) : List UInt8 → Checked ByteArray
  | [] => pure b
  | v :: vs => do
    let b ← set? b o v
    setAll? b (o + 1) vs

/-- The byte at an address. -/
def loadByte? (m : RawMemory) (a : Word) : Attempt UInt8 := do
  let (r, o) ← m.find? 1 a
  get? (m r) o

/-- The two bytes from an address on, the least significant first. -/
def loadHalf? (m : RawMemory) (a : Word) : Attempt UInt16 := do
  let (r, o) ← m.find? 2 a
  let b₀ ← get? (m r) o
  let b₁ ← get? (m r) (o + 1)
  Word.halfOfBytes? b₀ b₁

/-- The four bytes from an address on, the least significant first. -/
def loadWord? (m : RawMemory) (a : Word) : Attempt Word := do
  let (r, o) ← m.find? 4 a
  let b₀ ← get? (m r) o
  let b₁ ← get? (m r) (o + 1)
  let b₂ ← get? (m r) (o + 2)
  let b₃ ← get? (m r) (o + 3)
  Word.ofBytes? b₀ b₁ b₂ b₃

/-- The store of some bytes from an address on. -/
def storeBytes? (m : RawMemory) (a : Word) (bytes : List UInt8) : Attempt RawStore := do
  let (r, o) ← m.find? bytes.length a
  pure ⟨r, o, bytes⟩

/-- The store of a byte. -/
def storeByte? (m : RawMemory) (a : Word) (v : UInt8) : Attempt RawStore := m.storeBytes? a [v]

/-- The store of a halfword. -/
def storeHalf? (m : RawMemory) (a : Word) (v : UInt16) : Attempt RawStore := do
  let bytes ← Word.bytesOfHalf? v
  m.storeBytes? a bytes

/-- The store of a word. -/
def storeWord? (m : RawMemory) (a v : Word) : Attempt RawStore := do
  let bytes ← v.bytes?
  m.storeBytes? a bytes

/-- Carries out a store. -/
def write? (m : RawMemory) (s : RawStore) : Checked RawMemory := do
  let b ← setAll? (m s.region) s.offset s.bytes
  pure (Function.update m s.region b)

/-- Carries out a store that found its place and passes a fault on. -/
def perform? (m : RawMemory) (s : Attempt RawStore) : Checked (Except Fault Unit × RawMemory) := do
  match ← s.run with
  | .error f => pure (.error f, m)
  | .ok s => do
    let m ← m.write? s
    pure (.ok (), m)

variable {m : Memory} {n : Nat} {r : Region} {o : Nat}

theorem raw_toMemory {m : RawMemory} (h : ∀ r, (m r).size = r.size) : (m.toMemory h).raw = m := by
  funext r
  cases r <;> rfl

/-- The end of an access is a sum that always has a result; where it lies behind the end of the
    buffer, however short that is, there is a fault. -/
theorem find?_eq (m : RawMemory) (hn : n ≤ 4) (a : Word) :
    m.find? n a = .of (match Region.resolve a with
      | some (r, o) => if o + n ≤ (m r).size then .ok (r, o) else .error (.unmappedAddress a)
      | none => .error (.unmappedAddress a)) := by
  rw [find?, Region.resolve?_eq, liftM_pure, pure_bind]
  cases hr : Region.resolve a with
  | none => rfl
  | some p =>
    obtain ⟨r, o⟩ := p
    have hsum : sum? o n = pure (o + n) := by
      -- no region is larger than 8 MiB, and no host has indices of less than 32 bits
      have ho := Region.offset_lt_of_resolve hr
      have hsize := r.size_le
      have hindex := USize.le_size
      exact Checked.require_of (by omega)
    simp only [hsum, liftM_pure, pure_bind]
    split <;> rfl

theorem find?_raw (m : Memory) (hn : n ≤ 4) (a : Word) :
    m.raw.find? n a = .of ((Place.find n a).map fun p => (p.region, p.offset)) := by
  rw [find?_eq m.raw hn, Place.find, Place.of?]
  cases Region.resolve a with
  | none => rfl
  | some p =>
    obtain ⟨r, o⟩ := p
    have hbytes : (m.raw r).size = r.size := (m.buffer r).size_bytes
    simp only [hbytes]
    split <;> rfl

/-- What goes on from the place of an access goes on from that of the memory, or ends with its
    fault. -/
theorem find?_bind_raw {α : Type} (m : Memory) (hn : n ≤ 4) (a : Word)
    (f : Region × Nat → Attempt α) : (m.raw.find? n a >>= f) =
      match Place.find n a with
      | .error e => .of (.error e)
      | .ok p => f (p.region, p.offset) := by
  rw [find?_raw m hn]
  cases Place.find n a <;> rfl

theorem get?_raw (h : o < r.size) : get? (m.raw r) o = pure (m.get r o h) :=
  dif_pos ((m.buffer r).size_bytes.symm ▸ h)

theorem setAll?_bytes {size : Nat} (b : Buffer size) (vs : List UInt8) (h : o + vs.length ≤ size) :
    setAll? b.bytes o vs = pure (b.write o vs h).bytes := by
  induction vs generalizing b o with
  | nil => rfl
  | cons v vs ih =>
    have ho : o < size := by
      rw [List.length_cons] at h
      omega
    have hset : set? b.bytes o v = pure (b.set o ho v).bytes :=
      dif_pos (b.size_bytes.symm ▸ ho)
    rw [setAll?, hset, pure_bind, ih]
    rfl

/-! ### Loads -/

variable (m) (a : Word)

theorem loadByte?_raw : m.raw.loadByte? a = .of (m.loadByte a) := by
  rw [loadByte?, find?_bind_raw m (by decide), Memory.loadByte]
  cases Place.find 1 a with
  | error f => rfl
  | ok p =>
    obtain ⟨r, o, h⟩ := p
    simp (disch := omega) only [get?_raw, liftM_pure]
    rfl

theorem loadHalf?_raw : m.raw.loadHalf? a = .of (m.loadHalf a) := by
  rw [loadHalf?, find?_bind_raw m (by decide), Memory.loadHalf]
  cases Place.find 2 a with
  | error f => rfl
  | ok p =>
    obtain ⟨r, o, h⟩ := p
    simp (disch := omega) only [get?_raw, Word.halfOfBytes?_eq, liftM_pure, pure_bind]
    rfl

theorem loadWord?_raw : m.raw.loadWord? a = .of (m.loadWord a) := by
  rw [loadWord?, find?_bind_raw m (by decide), Memory.loadWord]
  cases Place.find 4 a with
  | error f => rfl
  | ok p =>
    obtain ⟨r, o, h⟩ := p
    simp (disch := omega) only [get?_raw, Word.ofBytes?_eq, liftM_pure, pure_bind]
    rfl

/-! ### Stores -/

theorem storeBytes?_raw {bytes : List UInt8} (h : bytes.length ≤ 4) :
    m.raw.storeBytes? a bytes = .of ((Store.ofBytes a bytes).map Store.raw) := by
  rw [storeBytes?, find?_bind_raw m h, Store.ofBytes]
  cases Place.find bytes.length a <;> rfl

theorem storeByte?_raw (v : UInt8) :
    m.raw.storeByte? a v = .of ((Store.ofByte a v).map Store.raw) :=
  storeBytes?_raw m a (by simp)

theorem storeHalf?_raw (v : UInt16) :
    m.raw.storeHalf? a v = .of ((Store.ofHalf a v).map Store.raw) := by
  rw [storeHalf?, Word.bytesOfHalf?_eq, liftM_pure, pure_bind]
  exact storeBytes?_raw m a (by simp [Word.bytesOfHalf])

theorem storeWord?_raw (v : Word) :
    m.raw.storeWord? a v = .of ((Store.ofWord a v).map Store.raw) := by
  rw [storeWord?, Word.bytes?_eq, liftM_pure, pure_bind]
  exact storeBytes?_raw m a (by simp [Word.bytes])

/-- After a store the buffer of its region is the written one and all others are as before. -/
theorem write?_raw (s : Store) : m.raw.write? s.raw = pure (m.write s).raw := by
  have hbuffer : setAll? (m.raw s.raw.region) s.raw.offset s.raw.bytes =
      pure ((m.write s).raw s.raw.region) := by
    have hwrite : (m.write s).buffer s.place.region =
        (m.buffer s.place.region).write s.place.offset s.bytes s.place.fits :=
      m.buffer_modify_self ..
    rw [Memory.raw, Memory.raw, Store.raw, hwrite]
    exact setAll?_bytes _ _ _
  rw [write?, hbuffer, pure_bind]
  apply congrArg pure
  funext r
  by_cases hr : r = s.raw.region
  · rw [hr, Function.update_self]
  · rw [Function.update_of_ne hr]
    exact congrArg Buffer.bytes (m.buffer_modify_of_ne _ hr).symm

theorem perform?_raw (m : Memory) {s : Attempt RawStore} {t : Except Fault Store}
    (h : s = .of (t.map Store.raw)) :
    m.raw.perform? s = pure ((m.perform t).map id Memory.raw) := by
  rw [perform?, h, Attempt.run_of, pure_bind]
  cases t with
  | error f => rfl
  | ok t =>
    simp only [Except.map, write?_raw, pure_bind]
    rfl

end RawMemory

end R3000
