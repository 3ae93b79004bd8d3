import Mathlib.Algebra.Group.Nat.Defs
import R3000.Memory.Basic

/-!
Windows: memory as one line of locations with eight windows in it. An address has a location, which
is the address itself in the cache-control window and its low 29 bits elsewhere. Main statements: an
address resolves to the region in whose window its location lies, an access finds its place if one
window holds all its locations, and different windows share no location.
-/

namespace R3000

/-- A run of locations, both ends included. -/
structure Window where
  first : Nat
  last : Nat

/-- Whether `n` locations from `p` on lie in the window. -/
def Window.Holds (w : Window) (p n : Nat) : Prop := w.first ≤ p ∧ p + n ≤ w.last + 1

instance (w : Window) (p n : Nat) : Decidable (w.Holds p n) :=
  inferInstanceAs (Decidable (_ ∧ _))

/-- The locations of a region. -/
def Region.window : Region → Window
  | ram => ⟨0x00000000, 0x001FFFFF⟩
  | expansion1 => ⟨0x1F000000, 0x1F7FFFFF⟩
  | scratchpad => ⟨0x1F800000, 0x1F8003FF⟩
  | ioPorts => ⟨0x1F801000, 0x1F802FFF⟩
  | expansion2 => ⟨0x1F803000, 0x1F803FFF⟩
  | expansion3 => ⟨0x1FA00000, 0x1FBFFFFF⟩
  | bios => ⟨0x1FC00000, 0x1FC7FFFF⟩
  | cacheControl => ⟨0xFFFE0000, 0xFFFE01FF⟩

/-- The location of an address. -/
def location (a : Word) : Nat :=
  if 0xFFFE0000 ≤ a.toNat ∧ a.toNat ≤ 0xFFFE01FF then a.toNat else a.toNat % 2 ^ 29

/-- Whether one window holds the locations of `n` bytes from an address on. -/
def Mapped (n : Nat) (a : Word) : Prop := ∃ r ∈ Region.all, r.window.Holds (location a) n

instance (n : Nat) (a : Word) : Decidable (Mapped n a) :=
  inferInstanceAs (Decidable (∃ r ∈ Region.all, _))

namespace Region

theorem mem_all (r : Region) : r ∈ all := by cases r <;> decide

/-- The location of the first byte of a region's buffer. The first half of expansion 2 lies behind
    the window of the I/O ports. -/
def origin (r : Region) : Nat := r.span.base.toNat

/-- A window ends where the buffer of its region ends. -/
theorem last_window (r : Region) : r.window.last + 1 = r.origin + r.size := by
  cases r <;> rfl

theorem origin_le_first_window (r : Region) : r.origin ≤ r.window.first := by
  cases r <;> decide

/-- Windows share no location. -/
theorem eq_of_holds {r r' : Region} {p : Nat} (h : r.window.Holds p 1) (h' : r'.window.Holds p 1) :
    r = r' := by
  cases r <;> cases r' <;> simp only [window, Window.Holds] at h h' <;>
    first | rfl | omega

theorem toNat_physical (a : Word) : (physical a).toNat = a.toNat % 2 ^ 29 := by
  simpa [physical] using Nat.and_two_pow_sub_one_eq_mod a.toNat 29

theorem contains_span_iff (r : Region) (a : Word) :
    r.span.contains a = true ↔ r.origin ≤ a.toNat ∧ a.toNat < r.origin + r.size :=
  Span.contains_iff _ _

/-- The buffer of a region holds its window; the two differ for expansion 2 alone. -/
theorem first_window {r : Region} (h : r ≠ expansion2) : r.window.first = r.origin := by
  cases r <;> first | rfl | exact absurd rfl h

/-- An address in the span of the I/O ports is never taken for one of expansion 2. -/
theorem not_contains_ioPorts {a : Word}
    (h : (masked.find? fun r => r.span.contains a) = some .expansion2) :
    ¬ ioPorts.span.contains a = true := by
  intro hio
  simp only [masked, List.find?_cons, hio] at h
  split at h
  · cases h
  · split at h <;> cases h

theorem holds_of_find? {r : Region} {a : Word}
    (h : (masked.find? fun r => r.span.contains a) = some r) : r.window.Holds a.toNat 1 := by
  have hspan := (contains_span_iff r a).1 (by simpa using List.find?_some h)
  have hlast := r.last_window
  refine ⟨?_, by omega⟩
  by_cases hr : r = expansion2
  · subst hr
    have hio := mt (contains_span_iff ioPorts a).2 (not_contains_ioPorts h)
    have hw : ioPorts.origin = 0x1F801000 ∧ ioPorts.size = 0x2000 ∧ expansion2.origin = 0x1F802000 ∧
      expansion2.window.first = 0x1F803000 := ⟨rfl, rfl, rfl, rfl⟩
    omega
  · rw [first_window hr]
    exact hspan.1

theorem location_of_contains {a : Word} (h : cacheControl.span.contains a = true) :
    location a = a.toNat := by
  have ha := (contains_span_iff _ _).1 h
  have hw : cacheControl.origin = 0xFFFE0000 ∧ cacheControl.size = 0x200 := ⟨rfl, rfl⟩
  exact if_pos (by omega)

theorem location_of_not_contains {a : Word} (h : ¬ cacheControl.span.contains a = true) :
    location a = (physical a).toNat := by
  rw [contains_span_iff] at h
  have hw : cacheControl.origin = 0xFFFE0000 ∧ cacheControl.size = 0x200 := ⟨rfl, rfl⟩
  rw [toNat_physical]
  exact if_neg (by omega)

/-- The offset of a resolved address is how far its location lies behind the origin. -/
theorem holds_of_resolve {a : Word} {r : Region} {o : Nat} (h : resolve a = some (r, o)) :
    r.window.Holds (location a) 1 ∧ location a = r.origin + o := by
  unfold resolve at h
  split at h
  next hc =>
    obtain ⟨rfl, rfl⟩ := Prod.mk.inj (Option.some.inj h)
    have ha := (contains_span_iff _ _).1 hc
    have hlast := cacheControl.last_window
    rw [location_of_contains hc, Span.offset_eq hc]
    exact ⟨⟨ha.1, by omega⟩, (Nat.add_sub_cancel' ha.1).symm⟩
  next hc =>
    obtain ⟨s, hs, he⟩ := Option.map_eq_some_iff.1 h
    obtain ⟨rfl, rfl⟩ := Prod.mk.inj he
    have hspan : s.span.contains (physical a) = true := by simpa using List.find?_some hs
    rw [location_of_not_contains hc, Span.offset_eq hspan]
    exact ⟨holds_of_find? hs, (Nat.add_sub_cancel' ((contains_span_iff _ _).1 hspan).1).symm⟩

theorem exists_resolve {a : Word} {r : Region} (h : r.window.Holds (location a) 1) :
    ∃ r' o, resolve a = some (r', o) := by
  by_cases hc : cacheControl.span.contains a = true
  · exact ⟨_, _, if_pos hc⟩
  · rw [location_of_not_contains hc] at h
    have hspan : r.span.contains (physical a) = true := by
      have := r.origin_le_first_window
      have := r.last_window
      rw [contains_span_iff]
      exact ⟨by have := h.1; omega, by have := h.2; omega⟩
    have hr : r ∈ masked := by
      cases r <;> first | decide | skip
      exfalso
      have hp := toNat_physical a
      have h1 := h.1
      simp only [window] at h1
      omega
    have hsome : (masked.find? fun r => r.span.contains (physical a)).isSome :=
      List.find?_isSome.2 ⟨r, hr, hspan⟩
    obtain ⟨s, hs⟩ := Option.isSome_iff_exists.1 hsome
    exact ⟨s, s.span.offset (physical a), by rw [resolve, if_neg hc, hs]; rfl⟩

/-- An address resolves to the region whose window holds its location. -/
theorem resolve_eq_some_iff {a : Word} {r : Region} {o : Nat} :
    resolve a = some (r, o) ↔ r.window.Holds (location a) 1 ∧ location a = r.origin + o := by
  refine ⟨holds_of_resolve, fun ⟨hw, ho⟩ => ?_⟩
  obtain ⟨r', o', h⟩ := exists_resolve hw
  obtain ⟨hw', ho'⟩ := holds_of_resolve h
  obtain rfl := eq_of_holds hw hw'
  rw [h, show o' = o by omega]

end Region

namespace Place

variable {n : Nat} {a : Word} {p : Place n}

/-- A place holds the locations of its access. -/
theorem holds_of_of? (h : of? n a = some p) :
    p.region.window.Holds (location a) n ∧ location a = p.region.origin + p.offset := by
  obtain ⟨hw, ho⟩ := Region.resolve_eq_some_iff.1 (resolve_of_of? h)
  have hlast := p.region.last_window
  have hfits := p.fits
  exact ⟨⟨hw.1, by omega⟩, ho⟩

theorem exists_of? {r : Region} (hn : 0 < n) (h : r.window.Holds (location a) n) :
    ∃ p, of? n a = some p := by
  have horigin := r.origin_le_first_window
  have hlast := r.last_window
  have hfirst := h.1
  have hend := h.2
  have hr : Region.resolve a = some (r, location a - r.origin) :=
    Region.resolve_eq_some_iff.2 ⟨⟨hfirst, by omega⟩, by omega⟩
  refine ⟨⟨r, location a - r.origin, by omega⟩, ?_⟩
  simp only [of?, hr]
  exact dif_pos (by omega)

/-- An access finds its place if it is mapped. -/
theorem find_of_mapped (hn : 0 < n) (h : Mapped n a) :
    ∃ r o hfits, find n a = .ok ⟨r, o, hfits⟩ ∧ r.window.Holds (location a) n ∧
      location a = r.origin + o := by
  obtain ⟨r, -, hr⟩ := h
  obtain ⟨p, hp⟩ := exists_of? hn hr
  exact ⟨p.region, p.offset, p.fits, find_eq_ok_iff.2 hp, holds_of_of? hp⟩

/-- An access that is not mapped is a fault that names its address. -/
theorem find_of_not_mapped (h : ¬ Mapped n a) : find n a = .error (.unmappedAddress a) := by
  cases hp : find n a with
  | ok p => exact absurd ⟨_, Region.mem_all _, (holds_of_of? (find_eq_ok_iff.1 hp)).1⟩ h
  | error f => rw [eq_unmappedAddress_of_find hp]

end Place

end R3000
