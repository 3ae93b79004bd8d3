import Mathlib.Tactic.ByContra
import R3000.Proofs.Calls
import R3000.Proofs.Memory.Window

/-!
Flat memory: one map from locations to bytes, and the accesses that read and write it. An access is
carried out if one window holds all its locations and is a fault otherwise. Main statements: the
memory of buffers answers every list of accesses as the flat memory does, and two mapped addresses
are one place of memory exactly if they have one location.
-/

namespace R3000

/-- Memory as one map from locations to bytes. -/
abbrev FlatMemory := Nat → UInt8

namespace FlatMemory

/-- The map at power-on: an image from the first location of the BIOS on, and zeros elsewhere. -/
def ofImage (image : ByteArray) : FlatMemory := fun p =>
  if h : 0x1FC00000 ≤ p ∧ p - 0x1FC00000 < image.size then image.get (p - 0x1FC00000) h.2 else 0

/-- The number that `n` bytes from a location on make up, the least significant byte first. -/
def read (f : FlatMemory) (p : Nat) : (n : Nat) → Nat
  | 0 => 0
  | n + 1 => (f p).toNat + 256 * read f (p + 1) n

/-- Writes the `n` low bytes of a number from a location on, the least significant byte first. -/
def write (f : FlatMemory) (p n v : Nat) : FlatMemory := fun q =>
  if p ≤ q ∧ q < p + n then UInt8.ofNat (v / 256 ^ (q - p)) else f q

/-- Clears every location outside the BIOS. -/
def clear (f : FlatMemory) : FlatMemory := fun p =>
  if 0x1FC00000 ≤ p ∧ p ≤ 0x1FC7FFFF then f p else 0

/-- Loads `n` bytes. -/
def load (f : FlatMemory) (n : Nat) (a : Word) : Answer :=
  if Mapped n a then .ok (some (f.read (location a) n)) else .error (.unmappedAddress a)

/-- Stores `n` bytes. -/
def store (f : FlatMemory) (n : Nat) (a : Word) (v : Nat) : Answer × FlatMemory :=
  if Mapped n a then (.ok none, f.write (location a) n v) else (.error (.unmappedAddress a), f)

/-- Carries out an access. -/
def access (f : FlatMemory) : Memory.Access → Answer × FlatMemory
  | .loadByte a => (f.load 1 a, f)
  | .loadHalf a => (f.load 2 a, f)
  | .loadWord a => (f.load 4 a, f)
  | .storeByte a v => f.store 1 a v.toNat
  | .storeHalf a v => f.store 2 a v.toNat
  | .storeWord a v => f.store 4 a v.toNat
  | .reset => (.ok none, f.clear)

theorem read_one (f : FlatMemory) (p : Nat) : f.read p 1 = (f p).toNat := by simp [read]

theorem read_two (f : FlatMemory) (p : Nat) :
    f.read p 2 = (f p).toNat + 256 * (f (p + 1)).toNat := by simp [read]

theorem read_four (f : FlatMemory) (p : Nat) : f.read p 4 = (f p).toNat +
    256 * (f (p + 1)).toNat + 65536 * (f (p + 2)).toNat + 16777216 * (f (p + 3)).toNat := by
  simp only [read, Nat.add_assoc, Nat.reduceAdd]
  omega

end FlatMemory

/-! ### The buffers show the map -/

namespace Memory

/-- Every byte of a buffer that lies in a window is the byte at its location. -/
def Shows (m : Memory) (f : FlatMemory) : Prop :=
  ∀ r o (h : o < r.size), r.window.first ≤ r.origin + o → m.get r o h = f (r.origin + o)

theorem holds_of_lt_size {r : Region} {o : Nat} (ho : o < r.size)
    (hw : r.window.first ≤ r.origin + o) : r.window.Holds (r.origin + o) 1 :=
  ⟨hw, by have := r.last_window; omega⟩

theorem get_ofBios_of_ne {bios : Buffer Region.bios.size} {r : Region} (hr : r ≠ .bios) (o : Nat)
    (ho : o < r.size) : (ofBios bios).get r o ho = 0 := by
  cases r <;> first | exact absurd rfl hr | simp [ofBios, get, buffer, zeros]

/-- A location of another window is no location of the BIOS. -/
theorem not_bios_of_ne {r : Region} {p : Nat} (hr : r ≠ .bios) (hp : r.window.Holds p 1) :
    ¬ (0x1FC00000 ≤ p ∧ p ≤ 0x1FC7FFFF) := fun ⟨hfirst, hlast⟩ =>
  have hbios : Region.bios.window.Holds p 1 := ⟨hfirst, Nat.succ_le_succ hlast⟩
  hr (Region.eq_of_holds hp hbios)

theorem shows_ofImage {image : ByteArray} {m : Memory} (h : ofImage image = .ok m) :
    m.Shows (FlatMemory.ofImage image) := by
  unfold ofImage at h
  split at h
  next hsize =>
    obtain rfl := Except.ok.inj h
    have hbios : Region.bios.size = 0x80000 ∧ Region.bios.origin = 0x1FC00000 := ⟨rfl, rfl⟩
    intro r o ho hw
    by_cases hr : r = .bios
    · subst hr
      have hget : (ofBios (.padded image hsize)).get .bios o ho =
          (Buffer.padded image hsize).get o ho := rfl
      have hp : Region.bios.origin + o - 0x1FC00000 = o := by omega
      rw [hget, Buffer.get_padded, FlatMemory.ofImage]
      by_cases hi : o < image.size
      · have hbyte : ∀ q (hq : q = o) (h : q < image.size),
            image.get q h = image.get o hi := by
          rintro q rfl h
          rfl
        rw [dif_pos hi, dif_pos ⟨by omega, by omega⟩, hbyte _ hp]
      · rw [dif_neg hi, dif_neg (by omega)]
    · have hp := not_bios_of_ne hr (holds_of_lt_size ho hw)
      rw [get_ofBios_of_ne hr, FlatMemory.ofImage, dif_neg (by omega)]
  next => cases h

theorem shows_reset {m : Memory} {f : FlatMemory} (h : m.Shows f) : m.reset.Shows f.clear := by
  intro r o ho hw
  have hbios : Region.bios.size = 0x80000 ∧ Region.bios.origin = 0x1FC00000 := ⟨rfl, rfl⟩
  rw [get_reset, FlatMemory.clear]
  by_cases hr : r = .bios
  · subst hr
    rw [if_pos rfl, if_pos (by omega), h _ _ _ hw]
  · rw [if_neg hr, if_neg (not_bios_of_ne hr (holds_of_lt_size ho hw))]

/-- A store at a place is a write at its location. -/
theorem shows_write {m : Memory} {f : FlatMemory} (h : m.Shows f) (s : Store) {v : Nat}
    (hw : s.place.region.window.first ≤ s.place.region.origin + s.place.offset)
    (hbytes : ∀ i (hi : i < s.bytes.length), s.bytes[i] = UInt8.ofNat (v / 256 ^ i)) :
    (m.write s).Shows (f.write (s.place.region.origin + s.place.offset) s.bytes.length v) := by
  intro r o ho hr
  rw [get_write, FlatMemory.write]
  have hfits := s.place.fits
  by_cases he : r = s.place.region
  · subst he
    by_cases hi : s.place.offset ≤ o ∧ o < s.place.offset + s.bytes.length
    · rw [if_pos ⟨rfl, hi.1⟩, if_pos (by omega), List.getElem?_eq_getElem (by omega),
        Option.getD_some, hbytes]
      congr 3
      omega
    · have hout : ¬ (s.place.region.origin + s.place.offset ≤ s.place.region.origin + o ∧
          s.place.region.origin + o <
            s.place.region.origin + s.place.offset + s.bytes.length) := by omega
      rw [if_neg hout, ← h _ _ ho hr]
      split
      next hle => rw [List.getElem?_eq_none (by omega), Option.getD_none]
      next => rfl
  · rw [if_neg (fun hc => he hc.1), h _ _ _ hr, if_neg]
    -- the written locations lie in a window, and `r` has another one
    intro hin
    have hlast := s.place.region.last_window
    exact he (Region.eq_of_holds (holds_of_lt_size ho hr) ⟨by omega, by omega⟩)

theorem access_store {m : Memory} {f : FlatMemory} (h : m.Shows f) (a : Word) {bytes : List UInt8}
    {v : Nat} (hpos : 0 < bytes.length)
    (hbytes : ∀ i (hi : i < bytes.length), bytes[i] = UInt8.ofNat (v / 256 ^ i)) :
    Answer.ofUnit (m.perform (Store.ofBytes a bytes)).1 = (f.store bytes.length a v).1 ∧
      (m.perform (Store.ofBytes a bytes)).2.Shows (f.store bytes.length a v).2 := by
  by_cases ha : Mapped bytes.length a
  · obtain ⟨r, o, hfits, hfind, hw, hp⟩ := Place.find_of_mapped hpos ha
    rw [Store.ofBytes, hfind, FlatMemory.store, if_pos ha, hp]
    exact ⟨rfl, shows_write h ⟨bytes, r, o, hfits⟩ (hp ▸ hw.1) hbytes⟩
  · rw [Store.ofBytes, Place.find_of_not_mapped ha, FlatMemory.store, if_neg ha]
    exact ⟨rfl, h⟩

/-- The bytes of a word, one by one. -/
theorem getElem?_bytes (w : Word) {i : Nat} (hi : i < 4) : w.bytes[i]? = some (w.byte i) := by
  match i, hi with
  | 0, _ | 1, _ | 2, _ | 3, _ => rfl

theorem bytes_getElem (w : Word) (i : Nat) (hi : i < w.bytes.length) :
    w.bytes[i] = UInt8.ofNat (w.toNat / 256 ^ i) := by
  have h4 : i < 4 := hi
  have hbyte : w.bytes[i] = w.byte i := (List.getElem_eq_iff hi).2 (getElem?_bytes w h4)
  refine hbyte.trans (UInt8.toNat_inj.1 ?_)
  rw [Word.toNat_byte w i h4, Nat.shiftRight_eq_div_pow, Nat.pow_mul]
  simp

theorem bytesOfHalf_getElem (h : UInt16) (i : Nat) (hi : i < (Word.bytesOfHalf h).length) :
    (Word.bytesOfHalf h)[i] = UInt8.ofNat (h.toNat / 256 ^ i) := by
  have h2 : i < 2 := hi
  apply UInt8.toNat_inj.1
  match i, h2 with
  | 0, _ => simp [Word.bytesOfHalf]
  | 1, _ => simp [Word.bytesOfHalf, Nat.shiftRight_eq_div_pow]

/-! ### Loads -/

section Loads

variable {m : Memory} {f : FlatMemory} {a : Word}

/-- A byte of a place is the byte at its location. -/
theorem get_of_holds (h : m.Shows f) {r : Region} {o p n : Nat} (hw : r.window.Holds p n)
    (hp : p = r.origin + o) (ho : o < r.size) : m.get r o ho = f p := by
  rw [h r o ho (hp ▸ hw.1), hp]

/-- A later byte of a place is the byte at a later location. -/
theorem get_add_of_holds (h : m.Shows f) {r : Region} {o p n : Nat} (hw : r.window.Holds p n)
    (hp : p = r.origin + o) (i : Nat) (hi : o + i < r.size) : m.get r (o + i) hi = f (p + i) := by
  rw [h r (o + i) hi (by have := hw.1; omega), hp, Nat.add_assoc]

theorem loadByte_of_mapped (h : m.Shows f) (ha : Mapped 1 a) :
    m.loadByte a = .ok (f (location a)) := by
  obtain ⟨r, o, hfits, hfind, hw, hp⟩ := Place.find_of_mapped Nat.one_pos ha
  rw [loadByte, hfind, ← get_of_holds h hw hp (by omega)]

theorem loadByte_of_not_mapped (ha : ¬ Mapped 1 a) :
    m.loadByte a = .error (.unmappedAddress a) := by
  rw [loadByte, Place.find_of_not_mapped ha]

theorem loadHalf_of_mapped (h : m.Shows f) (ha : Mapped 2 a) :
    m.loadHalf a = .ok (Word.halfOfBytes (f (location a)) (f (location a + 1))) := by
  obtain ⟨r, o, hfits, hfind, hw, hp⟩ := Place.find_of_mapped Nat.two_pos ha
  rw [loadHalf, hfind, ← get_of_holds h hw hp (by omega),
    ← get_add_of_holds h hw hp 1 (by omega)]

theorem loadHalf_of_not_mapped (ha : ¬ Mapped 2 a) :
    m.loadHalf a = .error (.unmappedAddress a) := by
  rw [loadHalf, Place.find_of_not_mapped ha]

theorem loadWord_of_mapped (h : m.Shows f) (ha : Mapped 4 a) :
    m.loadWord a = .ok (Word.ofBytes (f (location a)) (f (location a + 1)) (f (location a + 2))
      (f (location a + 3))) := by
  obtain ⟨r, o, hfits, hfind, hw, hp⟩ := Place.find_of_mapped (Nat.succ_pos 3) ha
  rw [loadWord, hfind, ← get_of_holds h hw hp (by omega),
    ← get_add_of_holds h hw hp 1 (by omega), ← get_add_of_holds h hw hp 2 (by omega),
    ← get_add_of_holds h hw hp 3 (by omega)]

theorem loadWord_of_not_mapped (ha : ¬ Mapped 4 a) :
    m.loadWord a = .error (.unmappedAddress a) := by
  rw [loadWord, Place.find_of_not_mapped ha]

/-- Whether a word can be read does not depend on what the memory holds. -/
theorem mapped_of_loadWord {w : Word} (h : m.loadWord a = .ok w) : Mapped 4 a := by
  by_contra ha
  rw [loadWord_of_not_mapped ha] at h
  cases h

theorem shows_zeros : zeros.Shows fun _ => 0 := by
  intro r o ho _
  cases r <;> simp [zeros, get, buffer]

theorem loadWord_zeros (ha : Mapped 4 a) : zeros.loadWord a = .ok 0 :=
  loadWord_of_mapped shows_zeros ha

/-- A fresh memory reads the words of its image. -/
theorem loadWord_of_ofImage {image : ByteArray} {w : Word} (h : ofImage image = .ok m)
    (ha : Mapped 4 a) (hw : Word.ofBytes (FlatMemory.ofImage image (location a))
      (FlatMemory.ofImage image (location a + 1)) (FlatMemory.ofImage image (location a + 2))
      (FlatMemory.ofImage image (location a + 3)) = w) : m.loadWord a = .ok w :=
  (loadWord_of_mapped (shows_ofImage h) ha).trans (congrArg _ hw)

end Loads

/-! ### Runs -/

section Runs

variable {m : Memory} {f : FlatMemory}

theorem access_loadByte (h : m.Shows f) (a : Word) :
    (m.access (.loadByte a)).1 = f.load 1 a := by
  by_cases ha : Mapped 1 a
  · simp only [access, loadByte_of_mapped h ha, FlatMemory.load, if_pos ha, FlatMemory.read_one]
    rfl
  · simp only [access, loadByte_of_not_mapped ha, FlatMemory.load, if_neg ha]
    rfl

theorem access_loadHalf (h : m.Shows f) (a : Word) :
    (m.access (.loadHalf a)).1 = f.load 2 a := by
  by_cases ha : Mapped 2 a
  · simp only [access, loadHalf_of_mapped h ha, FlatMemory.load, if_pos ha, FlatMemory.read_two,
      ← Word.toNat_halfOfBytes]
    rfl
  · simp only [access, loadHalf_of_not_mapped ha, FlatMemory.load, if_neg ha]
    rfl

theorem access_loadWord (h : m.Shows f) (a : Word) :
    (m.access (.loadWord a)).1 = f.load 4 a := by
  by_cases ha : Mapped 4 a
  · simp only [access, loadWord_of_mapped h ha, FlatMemory.load, if_pos ha, FlatMemory.read_four,
      ← Word.toNat_ofBytes]
    rfl
  · simp only [access, loadWord_of_not_mapped ha, FlatMemory.load, if_neg ha]
    rfl

/-- An access to the buffers and one to the map have the same answer and keep what is shown. -/
theorem access_step (m : Memory) (f : FlatMemory) (x : Access) (h : m.Shows f) :
    (m.access x).1 = (f.access x).1 ∧ (m.access x).2.Shows (f.access x).2 := by
  cases x with
  | loadByte a => exact ⟨access_loadByte h a, h⟩
  | loadHalf a => exact ⟨access_loadHalf h a, h⟩
  | loadWord a => exact ⟨access_loadWord h a, h⟩
  | storeByte a v =>
    have hv : ∀ i (hi : i < [v].length), [v][i] = UInt8.ofNat (v.toNat / 256 ^ i) := by simp
    exact access_store h a (Nat.succ_pos _) hv
  | storeHalf a v => exact access_store h a (Nat.succ_pos _) (bytesOfHalf_getElem v)
  | storeWord a v => exact access_store h a (Nat.succ_pos _) (bytes_getElem v)
  | reset => exact ⟨rfl, shows_reset h⟩

/-- A store that finds no place changes nothing. -/
theorem perform_of_error (m : Memory) (s : Except Fault Store) {e : Fault}
    (h : Answer.ofUnit (m.perform s).1 = .error e) : (m.perform s).2 = m := by
  cases s with
  | error e => rfl
  | ok s => cases h

theorem access_of_error (m : Memory) (x : Access) {e : Fault} (h : (m.access x).1 = .error e) :
    (m.access x).2 = m := by
  cases x with
  | loadByte a | loadHalf a | loadWord a => rfl
  | storeByte a v | storeHalf a v | storeWord a v => exact perform_of_error m _ h
  | reset => cases h

end Runs

/-! ### Aliases -/

section Aliases

variable {a b : Word}

/-- The map that a memory shows, with zeros at the locations of no window. -/
def flatten (m : Memory) : FlatMemory := fun p =>
  match Region.all.find? fun r => r.window.Holds p 1 with
  | some r => if h : p - r.origin < r.size then m.get r (p - r.origin) h else 0
  | none => 0

theorem shows_flatten (m : Memory) : m.Shows m.flatten := by
  intro r o ho hw
  have hr : r.window.Holds (r.origin + o) 1 := holds_of_lt_size ho hw
  have ho' : r.origin + o - r.origin = o := Nat.add_sub_cancel_left ..
  rw [flatten]
  split
  next s hs =>
    have hs' : s.window.Holds (r.origin + o) 1 := by simpa using List.find?_some hs
    obtain rfl := Region.eq_of_holds hr hs'
    simp only [ho', dif_pos ho]
  next hnone =>
    have := List.find?_eq_none.1 hnone r r.mem_all
    simp [hr] at this

/-- A byte stored at one mapped address, as it is seen from another one. -/
theorem loadByte_storeByte (m : Memory) (v : UInt8) (ha : Mapped 1 a) (hb : Mapped 1 b) :
    (m.storeByte a v).2.loadByte b =
      .ok (if location b = location a then v else m.flatten (location b)) := by
  have hstore : (m.storeByte a v).2.Shows (m.flatten.write (location a) 1 v.toNat) := by
    have h := (access_step m m.flatten (.storeByte a v) m.shows_flatten).2
    rwa [FlatMemory.access, FlatMemory.store, if_pos ha] at h
  rw [loadByte_of_mapped hstore hb, FlatMemory.write]
  by_cases h : location b = location a
  · rw [if_pos h, if_pos (by omega), h, Nat.sub_self]
    simp
  · rw [if_neg h, if_neg (by omega)]

/-- Whether a byte stored at one address is read at another one, whatever the byte and the memory
    are. -/
def Aliases (a b : Word) : Prop :=
  ∀ (m : Memory) (v : UInt8), (m.storeByte a v).2.loadByte b = .ok v

theorem mapped_of_aliases (h : Aliases a b) : Mapped 1 b := by
  by_contra hb
  have := h zeros 0
  rw [loadByte_of_not_mapped hb] at this
  cases this

theorem aliases_iff (ha : Mapped 1 a) (hb : Mapped 1 b) :
    Aliases a b ↔ location a = location b := by
  constructor
  · intro h
    by_contra hne
    have h0 := h zeros (zeros.flatten (location b) + 1)
    rw [loadByte_storeByte _ _ ha hb, if_neg (Ne.symm hne)] at h0
    have hv := congrArg UInt8.toNat (Except.ok.inj h0)
    rw [UInt8.toNat_add] at hv
    have := (zeros.flatten (location b)).toNat_lt
    simp at hv
    omega
  · intro h m v
    rw [loadByte_storeByte m v ha hb, if_pos h.symm]

/-- Cache control has no image. -/
theorem aliases_cacheControl_iff (hfirst : 0xFFFE0000 ≤ a.toNat) (hlast : a.toNat ≤ 0xFFFE01FF) :
    Aliases a b ↔ a = b := by
  have hloc : location a = a.toNat := if_pos ⟨hfirst, hlast⟩
  have ha : Mapped 1 a :=
    ⟨.cacheControl, Region.mem_all _, hloc ▸ hfirst, hloc ▸ Nat.succ_le_succ hlast⟩
  constructor
  · intro h
    have heq := (aliases_iff ha (mapped_of_aliases h)).1 h
    apply UInt32.toNat_inj.1
    rw [← hloc, heq, location]
    split
    next => rfl
    next hb =>
      rw [hloc, location, if_neg hb] at heq
      omega
  · rintro rfl
    exact (aliases_iff ha ha).2 rfl

/-- Every other mapped address has the images that its low 29 bits tell. -/
theorem aliases_image_iff (ha : Mapped 1 a)
    (hout : ¬ (0xFFFE0000 ≤ a.toNat ∧ a.toNat ≤ 0xFFFE01FF)) :
    Aliases a b ↔ a.toNat % 2 ^ 29 = b.toNat % 2 ^ 29 := by
  have hloc : location a = a.toNat % 2 ^ 29 := if_neg hout
  have hb (h : a.toNat % 2 ^ 29 = b.toNat % 2 ^ 29) : location b = a.toNat % 2 ^ 29 := by
    -- no window holds the low bits of a cache-control address
    obtain ⟨r, -, hr⟩ := ha
    rw [hloc] at hr
    refine (if_neg fun hc => ?_).trans h.symm
    cases r <;> simp only [Region.window, Window.Holds] at hr <;> omega
  constructor
  · intro h
    have heq := (aliases_iff ha (mapped_of_aliases h)).1 h
    rw [hloc, location] at heq
    split at heq
    next hc => omega
    next => exact heq
  · intro h
    have heq : location a = location b := hloc.trans (hb h).symm
    have hmapped : Mapped 1 b := by rwa [Mapped, ← heq]
    exact (aliases_iff ha hmapped).2 heq

end Aliases

/-- Memory is one line of bytes. With an image of at most 512 KiB it answers every list of accesses
    as the map does that holds the image at the BIOS, and a refused access changes nothing. Mapped
    addresses reach one byte if their locations are equal: for cache control, if they are equal
    themselves, and elsewhere, if their low 29 bits are. -/
theorem answers_eq_flat (image : ByteArray) (hsize : image.size ≤ 524288) :
    ∃ m, ofImage image = .ok m ∧
      (∀ xs, Run.answers access m xs =
        Run.answers FlatMemory.access (FlatMemory.ofImage image) xs) ∧
      (∀ xs x e, ((Run.after access m xs).access x).1 = .error e →
        ((Run.after access m xs).access x).2 = Run.after access m xs) ∧
      (∀ a b, Mapped 1 a → Mapped 1 b → (Aliases a b ↔ location a = location b)) ∧
      (∀ a b : Word, 0xFFFE0000 ≤ a.toNat → a.toNat ≤ 0xFFFE01FF → (Aliases a b ↔ a = b)) ∧
      ∀ a b : Word, Mapped 1 a → ¬ (0xFFFE0000 ≤ a.toNat ∧ a.toNat ≤ 0xFFFE01FF) →
        (Aliases a b ↔ a.toNat % 2 ^ 29 = b.toNat % 2 ^ 29) := by
  have hm : ofImage image = .ok (ofBios (.padded image hsize)) := dif_pos hsize
  refine ⟨_, hm, fun xs => ?_, fun xs x e => access_of_error _ x, fun a b => aliases_iff,
    fun a b => aliases_cacheControl_iff, fun a b => aliases_image_iff⟩
  exact (Run.answers_eq_of_simulation access_step (shows_ofImage hm) xs).1

/-- An image of four bytes, read whole and in part; a word over two aligned words, read through an
    image of RAM; a halfword over the end of the scratchpad, refused. -/
theorem answers_eq_flat_deadf00d : (ByteArray.mk #[0x0D, 0xF0, 0xAD, 0xDE]).size ≤ 524288 ∧
    ∃ m, ofImage ⟨#[0x0D, 0xF0, 0xAD, 0xDE]⟩ = .ok m ∧
      Run.answers access m [.loadWord 0xBFC00000, .loadHalf 0x1FC00001, .storeWord 0x803 0x11223344,
        .loadByte 0xA0000804, .storeHalf 0x1F8003FF 0xFFFF, .loadByte 0x1F8003FF] =
        [.ok (some 0xDEADF00D), .ok (some 0xADF0), .ok none, .ok (some 0x33),
          .error (.unmappedAddress 0x1F8003FF), .ok (some 0)] ∧
      (m.access (.storeHalf 0x1F8003FF 0xFFFF)).2 = m ∧
      (Aliases 0x1F801000 0x1F803000 ↔ location 0x1F801000 = location 0x1F803000) ∧
      (Aliases 0xFFFE0000 0x1FFE0000 ↔ (0xFFFE0000 : Word) = 0x1FFE0000) ∧
      (Aliases 0x80000804 0xA0000804 ↔ 0x80000804 % 2 ^ 29 = 0xA0000804 % 2 ^ 29) := by
  refine ⟨by decide, ?_⟩
  obtain ⟨m, hm, hanswers, hrefused, halias, hcache, himage⟩ :=
    answers_eq_flat ⟨#[0x0D, 0xF0, 0xAD, 0xDE]⟩ (by decide)
  exact ⟨m, hm, (hanswers _).trans (by rfl), hrefused [] (.storeHalf 0x1F8003FF 0xFFFF) _ rfl,
    halias _ _ (by decide) (by decide), hcache _ _ (by decide) (by decide),
    himage _ _ (by decide) (by decide)⟩

end Memory

end R3000
