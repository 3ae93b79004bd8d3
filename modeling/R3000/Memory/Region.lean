import R3000.Word

/-!
The address map: eight regions, the span of addresses of each, and the region that an address
falls into. The cache-control span is looked up by the address itself; all others by its low 29
bits, so that the segments of the address space are images of one another. Main statement: a
resolved offset lies inside its region.
-/

namespace R3000

/-- A run of addresses. -/
structure Span where
  base : Word
  size : Word
  deriving Repr, DecidableEq

namespace Span

/-- Whether an address lies in the span, whose end may lie beyond the last address. -/
def contains (s : Span) (a : Word) : Bool :=
  s.base ≤ a && a.toNat < s.base.toNat + s.size.toNat

/-- How far an address lies behind the base. -/
def offset (s : Span) (a : Word) : Nat := (a - s.base).toNat

theorem contains_iff (s : Span) (a : Word) :
    s.contains a = true ↔ s.base.toNat ≤ a.toNat ∧ a.toNat < s.base.toNat + s.size.toNat := by
  simp [contains, UInt32.le_iff_toNat_le]

theorem offset_eq {s : Span} {a : Word} (h : s.contains a = true) :
    s.offset a = a.toNat - s.base.toNat :=
  UInt32.toNat_sub_of_le _ _ (UInt32.le_iff_toNat_le.2 ((contains_iff s a).1 h).1)

theorem offset_lt {s : Span} {a : Word} (h : s.contains a = true) : s.offset a < s.size.toNat := by
  have := (contains_iff s a).1 h
  rw [offset_eq h]
  omega

end Span

/-- The regions of the address map. -/
inductive Region where
  | ram
  | scratchpad
  | bios
  | ioPorts
  | cacheControl
  | expansion1
  | expansion2
  | expansion3
  deriving Repr, DecidableEq

namespace Region

/-- All regions, in the order in which they are looked up. -/
def all : List Region :=
  [.cacheControl, .ram, .scratchpad, .ioPorts, .bios, .expansion1, .expansion2, .expansion3]

/-- The regions looked up by the low 29 bits of an address, in order. -/
def masked : List Region :=
  [.ram, .scratchpad, .ioPorts, .bios, .expansion1, .expansion2, .expansion3]

/-- The addresses of a region. The spans of the I/O ports and of expansion 2 overlap. -/
def span : Region → Span
  | ram => ⟨0x00000000, 0x200000⟩
  | scratchpad => ⟨0x1F800000, 0x400⟩
  | bios => ⟨0x1FC00000, 0x80000⟩
  | ioPorts => ⟨0x1F801000, 0x2000⟩
  | cacheControl => ⟨0xFFFE0000, 0x200⟩
  | expansion1 => ⟨0x1F000000, 0x800000⟩
  | expansion2 => ⟨0x1F802000, 0x2000⟩
  | expansion3 => ⟨0x1FA00000, 0x200000⟩

/-- The number of bytes of a region. -/
def size (r : Region) : Nat := r.span.size.toNat

/-- The low 29 bits of an address. -/
def physical (a : Word) : Word := a &&& 0x1FFFFFFF

/-- The region of an address and the offset in it. -/
def resolve (a : Word) : Option (Region × Nat) :=
  if cacheControl.span.contains a then some (.cacheControl, cacheControl.span.offset a)
  else
    (masked.find? fun r => r.span.contains (physical a)).map fun r =>
      (r, r.span.offset (physical a))

/-- The region of an address. -/
def of? (a : Word) : Option Region := (resolve a).map Prod.fst

theorem offset_lt_of_resolve {a : Word} {r : Region} {o : Nat} (h : resolve a = some (r, o)) :
    o < r.size := by
  unfold resolve at h
  split at h
  next hc =>
    obtain ⟨rfl, rfl⟩ := Prod.mk.inj (Option.some.inj h)
    exact Span.offset_lt hc
  next =>
    obtain ⟨s, hs, he⟩ := Option.map_eq_some_iff.1 h
    obtain ⟨rfl, rfl⟩ := Prod.mk.inj he
    have hc : s.span.contains (physical a) = true := by simpa using List.find?_some hs
    exact Span.offset_lt hc

end Region

end R3000
