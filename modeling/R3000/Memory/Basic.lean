import R3000.Error
import R3000.File
import R3000.Memory.Buffer
import R3000.Memory.Region

/-!
Memory: one buffer for each region, read and written in bytes, halfwords and words of either
alignment. An access first finds its place; an access that no region holds entirely is a fault that
names its address. Main statements say which byte every position holds after a write.
-/

namespace R3000

/-- Where an access of `n` bytes lands: a region and an offset that leaves room for them. -/
structure Place (n : Nat) where
  region : Region
  offset : Nat
  fits : offset + n ≤ region.size

namespace Place

/-- The place of an access, if one region holds all its bytes. -/
def of? (n : Nat) (a : Word) : Option (Place n) :=
  match Region.resolve a with
  | none => none
  | some (r, o) => if h : o + n ≤ r.size then some ⟨r, o, h⟩ else none

/-- The place of an access, or the fault that names its address. -/
def find (n : Nat) (a : Word) : Except Fault (Place n) :=
  match of? n a with
  | some p => .ok p
  | none => .error (.unmappedAddress a)

/-- A place is where its address resolves to. -/
theorem resolve_of_of? {n : Nat} {a : Word} {p : Place n} (h : of? n a = some p) :
    Region.resolve a = some (p.region, p.offset) := by
  unfold of? at h
  split at h
  next => cases h
  next r o hr =>
    split at h
    next => cases h; exact hr
    next => cases h

theorem find_eq_ok_iff {n : Nat} {a : Word} {p : Place n} :
    find n a = .ok p ↔ of? n a = some p := by
  unfold find
  cases of? n a <;> simp

theorem eq_unmappedAddress_of_find {n : Nat} {a : Word} {e : Fault} (h : find n a = .error e) :
    e = .unmappedAddress a := by
  unfold find at h
  cases hp : of? n a <;> simp [hp] at h
  exact h.symm

end Place

/-- The contents of all regions. -/
structure Memory where
  ram : Buffer Region.ram.size
  scratchpad : Buffer Region.scratchpad.size
  bios : Buffer Region.bios.size
  ioPorts : Buffer Region.ioPorts.size
  cacheControl : Buffer Region.cacheControl.size
  expansion1 : Buffer Region.expansion1.size
  expansion2 : Buffer Region.expansion2.size
  expansion3 : Buffer Region.expansion3.size

/-- Bytes on their way to a place that holds them. -/
structure Store where
  bytes : List UInt8
  place : Place bytes.length

namespace Store

/-- The store of some bytes from an address on. -/
def ofBytes (a : Word) (bytes : List UInt8) : Except Fault Store :=
  match Place.find bytes.length a with
  | .ok p => .ok ⟨bytes, p⟩
  | .error e => .error e

/-- The store of a byte. -/
def ofByte (a : Word) (v : UInt8) : Except Fault Store := ofBytes a [v]

/-- The store of a halfword. -/
def ofHalf (a : Word) (v : UInt16) : Except Fault Store := ofBytes a (Word.bytesOfHalf v)

/-- The store of a word. -/
def ofWord (a : Word) (v : Word) : Except Fault Store := ofBytes a v.bytes

end Store

namespace Memory

/-- The memory of zeros. -/
def zeros : Memory :=
  ⟨.zeros _, .zeros _, .zeros _, .zeros _, .zeros _, .zeros _, .zeros _, .zeros _⟩

/-- A BIOS and zeros everywhere else. -/
def ofBios (bios : Buffer Region.bios.size) : Memory := { zeros with bios }

/-- The memory at power-on: an image of at most the BIOS size, filled up with zeros. -/
def ofImage (image : ByteArray) : Except Error Memory :=
  if h : image.size ≤ Region.bios.size then .ok (ofBios (.padded image h))
  else .error (.biosTooLarge image.size)

/-- The memory at power-on with the image in a file. -/
def ofFile (path : String) : FileContent → Except Error Memory
  | .missing => .error (.biosNotFound path)
  | .unreadable => .error .inaccessible
  | .bytes image => ofImage image

/-- Clears everything but the BIOS. -/
def reset (m : Memory) : Memory := ofBios m.bios

/-- The buffer of a region. -/
def buffer (m : Memory) : (r : Region) → Buffer r.size
  | .ram => m.ram
  | .scratchpad => m.scratchpad
  | .bios => m.bios
  | .ioPorts => m.ioPorts
  | .cacheControl => m.cacheControl
  | .expansion1 => m.expansion1
  | .expansion2 => m.expansion2
  | .expansion3 => m.expansion3

/-- Changes the buffer of one region. -/
@[inline]
def modify (m : Memory) (r : Region) (f : Buffer r.size → Buffer r.size) : Memory :=
  match r with
  | .ram => { m with ram := f m.ram }
  | .scratchpad => { m with scratchpad := f m.scratchpad }
  | .bios => { m with bios := f m.bios }
  | .ioPorts => { m with ioPorts := f m.ioPorts }
  | .cacheControl => { m with cacheControl := f m.cacheControl }
  | .expansion1 => { m with expansion1 := f m.expansion1 }
  | .expansion2 => { m with expansion2 := f m.expansion2 }
  | .expansion3 => { m with expansion3 := f m.expansion3 }

/-- The byte at an offset of a region. -/
def get (m : Memory) (r : Region) (o : Nat) (h : o < r.size) : UInt8 := (m.buffer r).get o h

/-- Carries out a store. -/
def write (m : Memory) (s : Store) : Memory :=
  m.modify s.place.region fun b => b.write s.place.offset s.bytes s.place.fits

/-- The byte at an address. -/
def loadByte (m : Memory) (a : Word) : Except Fault UInt8 :=
  match Place.find 1 a with
  | .error e => .error e
  | .ok ⟨r, o, h⟩ => .ok (m.get r o (by omega))

/-- The two bytes from an address on, the least significant first. -/
def loadHalf (m : Memory) (a : Word) : Except Fault UInt16 :=
  match Place.find 2 a with
  | .error e => .error e
  | .ok ⟨r, o, h⟩ =>
    .ok (Word.halfOfBytes (m.get r o (by omega)) (m.get r (o + 1) (by omega)))

/-- The four bytes from an address on, the least significant first. -/
def loadWord (m : Memory) (a : Word) : Except Fault Word :=
  match Place.find 4 a with
  | .error e => .error e
  | .ok ⟨r, o, h⟩ =>
    .ok (Word.ofBytes (m.get r o (by omega)) (m.get r (o + 1) (by omega))
      (m.get r (o + 2) (by omega)) (m.get r (o + 3) (by omega)))

/-- Carries out a store that found its place and passes a fault on. -/
def perform (m : Memory) : Except Fault Store → Except Fault Unit × Memory
  | .error e => (.error e, m)
  | .ok s => (.ok (), m.write s)

/-- Stores a byte. -/
def storeByte (m : Memory) (a : Word) (v : UInt8) : Except Fault Unit × Memory :=
  m.perform (Store.ofByte a v)

/-- Stores a halfword, the least significant byte first. -/
def storeHalf (m : Memory) (a : Word) (v : UInt16) : Except Fault Unit × Memory :=
  m.perform (Store.ofHalf a v)

/-- Stores a word, the least significant byte first. -/
def storeWord (m : Memory) (a v : Word) : Except Fault Unit × Memory := m.perform (Store.ofWord a v)

/-- Memories with equal buffers are equal. -/
theorem ext_buffer {m m' : Memory} (h : ∀ r, m.buffer r = m'.buffer r) : m = m' := by
  cases m
  cases m'
  have h₁ := h .ram
  have h₂ := h .scratchpad
  have h₃ := h .bios
  have h₄ := h .ioPorts
  have h₅ := h .cacheControl
  have h₆ := h .expansion1
  have h₇ := h .expansion2
  have h₈ := h .expansion3
  simp only [buffer] at h₁ h₂ h₃ h₄ h₅ h₆ h₇ h₈
  simp only [h₁, h₂, h₃, h₄, h₅, h₆, h₇, h₈]

/-- Memories with equal bytes are equal. -/
theorem ext_get {m m' : Memory} (h : ∀ r o ho, m.get r o ho = m'.get r o ho) : m = m' :=
  ext_buffer fun r => Buffer.ext_get (h r)

@[simp]
theorem buffer_modify_self (m : Memory) (r : Region) (f : Buffer r.size → Buffer r.size) :
    (m.modify r f).buffer r = f (m.buffer r) := by
  cases r <;> rfl

theorem buffer_modify_of_ne (m : Memory) {r r' : Region} (f : Buffer r.size → Buffer r.size)
    (h : r' ≠ r) : (m.modify r f).buffer r' = m.buffer r' := by
  cases r <;> cases r' <;> simp [modify, buffer] at h ⊢

/-- After a store the bytes of its place are the stored ones and all others are as before. -/
theorem get_write (m : Memory) (s : Store) (r : Region) (o : Nat) (h : o < r.size) :
    (m.write s).get r o h =
      if r = s.place.region ∧ s.place.offset ≤ o then
        (s.bytes[o - s.place.offset]?).getD (m.get r o h)
      else m.get r o h := by
  obtain ⟨bytes, region, offset, fits⟩ := s
  by_cases hr : r = region
  · subst hr
    simp only [write, get, buffer_modify_self, Buffer.get_write, true_and]
  · simp only [write, get, buffer_modify_of_ne m _ hr, hr, false_and, if_false]

/-- A reset keeps the BIOS and clears every other byte. -/
theorem get_reset (m : Memory) (r : Region) (o : Nat) (h : o < r.size) :
    m.reset.get r o h = if r = .bios then m.get r o h else 0 := by
  cases r <;> simp [reset, ofBios, get, buffer, zeros]

end Memory

end R3000
