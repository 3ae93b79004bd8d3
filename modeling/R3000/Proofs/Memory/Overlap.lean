import Mathlib.Data.List.Basic
import R3000.Proofs.Memory.Window

/-!
Overlap: the one stretch that two spans share. The spans of the I/O ports and of expansion 2 have
4 KiB in common, and a lookup gives these to the region it tests first. Main statement: no other
spans meet, the order of the lookup matters nowhere else, and the bytes that no address reaches are
the first 4 KiB of expansion 2.
-/

namespace R3000

/-- The element of a list that comes first among those with a property is the one found. -/
theorem find?_eq_some_of_idxOf {α : Type} [DecidableEq α] {l : List α} {p : α → Bool} {x : α}
    (hx : x ∈ l) (hp : p x = true) (hfirst : ∀ y, p y = true → y ≠ x → l.idxOf x < l.idxOf y) :
    l.find? p = some x := by
  induction l with
  | nil => cases hx
  | cons y l ih =>
    by_cases hyx : y = x
    · rw [hyx, List.find?_cons_of_pos hp]
    · have hpy : ¬ p y = true := fun h => by
        have := hfirst y h hyx
        rw [List.idxOf_cons_self] at this
        omega
      rw [List.find?_cons_of_neg hpy]
      refine ih ((List.mem_cons.1 hx).resolve_left (Ne.symm hyx)) fun z hz hne => ?_
      have hyz : y ≠ z := fun h => hpy (h ▸ hz)
      have := hfirst z hz hne
      rwa [List.idxOf_cons_ne _ hyx, List.idxOf_cons_ne _ hyz, Nat.succ_lt_succ_iff] at this

namespace Region

/-- The locations that the spans of the I/O ports and of expansion 2 have in common. -/
def shared : Window := ⟨0x1F802000, 0x1F802FFF⟩

/-- The region of an address and the offset in it, in a lookup of another order. -/
def resolveIn (order : List Region) (a : Word) : Option (Region × Nat) :=
  if cacheControl.span.contains a then some (.cacheControl, cacheControl.span.offset a)
  else
    (order.find? fun r => r.span.contains (physical a)).map fun r =>
      (r, r.span.offset (physical a))

theorem resolveIn_masked (a : Word) : resolveIn masked a = resolve a := rfl

/-! ### Spans that meet -/

section Spans

variable {r r' : Region} {a : Word}

theorem contains_of_shared (h : shared.Holds a.toNat 1) :
    ioPorts.span.contains a = true ∧ expansion2.span.contains a = true := by
  have hio : ioPorts.origin = 0x1F801000 ∧ ioPorts.size = 0x2000 := ⟨rfl, rfl⟩
  have hexp : expansion2.origin = 0x1F802000 ∧ expansion2.size = 0x2000 := ⟨rfl, rfl⟩
  have hfirst : 0x1F802000 ≤ a.toNat := h.1
  have hlast : a.toNat + 1 ≤ 0x1F802FFF + 1 := h.2
  rw [contains_span_iff, contains_span_iff]
  omega

/-- Outside of expansion 2 a span is a window. -/
theorem holds_of_contains (hr : r ≠ expansion2) (h : r.span.contains a = true) :
    r.window.Holds a.toNat 1 := by
  have hspan := (contains_span_iff r a).1 h
  have hlast := r.last_window
  exact ⟨by rw [first_window hr]; exact hspan.1, by omega⟩

/-- Only the I/O ports reach into expansion 2. -/
theorem eq_ioPorts_of_contains (hr : r ≠ expansion2) (h : r.span.contains a = true)
    (hexp : expansion2.span.contains a = true) : r = ioPorts ∧ shared.Holds a.toNat 1 := by
  have hspan := (contains_span_iff expansion2 a).1 hexp
  have hw := holds_of_contains hr h
  have hnum : expansion2.origin = 0x1F802000 ∧ expansion2.size = 0x2000 := ⟨rfl, rfl⟩
  by_cases hlow : a.toNat < 0x1F803000
  · have hio : ioPorts.window.Holds a.toNat 1 := ⟨by simp only [window]; omega, by
      simp only [window]; omega⟩
    exact ⟨eq_of_holds hw hio, by simp only [shared]; omega, by simp only [shared]; omega⟩
  · have hupper : expansion2.window.Holds a.toNat 1 := ⟨by simp only [window]; omega, by
      simp only [window]; omega⟩
    exact absurd (eq_of_holds hw hupper) hr

/-- Two spans meet in the shared locations, and they are those of the I/O ports and expansion 2. -/
theorem contains_both_iff (hne : r ≠ r') (a : Word) :
    r.span.contains a = true ∧ r'.span.contains a = true ↔
      (r = ioPorts ∧ r' = expansion2 ∨ r = expansion2 ∧ r' = ioPorts) ∧
        shared.Holds a.toNat 1 := by
  constructor
  · rintro ⟨h, h'⟩
    by_cases hr : r = expansion2
    · subst hr
      obtain ⟨hio, hs⟩ := eq_ioPorts_of_contains hne.symm h' h
      exact ⟨.inr ⟨rfl, hio⟩, hs⟩
    · by_cases hr' : r' = expansion2
      · subst hr'
        obtain ⟨hio, hs⟩ := eq_ioPorts_of_contains hr h h'
        exact ⟨.inl ⟨hio, rfl⟩, hs⟩
      · exact absurd (eq_of_holds (holds_of_contains hr h) (holds_of_contains hr' h')) hne
  · rintro ⟨⟨rfl, rfl⟩ | ⟨rfl, rfl⟩, hs⟩
    · exact contains_of_shared hs
    · exact (contains_of_shared hs).symm

end Spans

/-! ### Orders of the lookup -/

section Order

variable {order : List Region} {r : Region} {a : Word}

/-- Of the regions that contain an address the first one in the order gets it. -/
theorem resolveIn_of_first (hc : ¬ cacheControl.span.contains a = true) (hr : r ∈ order)
    (hspan : r.span.contains (physical a) = true)
    (hfirst : ∀ r', r'.span.contains (physical a) = true → r' ≠ r →
      order.idxOf r < order.idxOf r') :
    resolveIn order a = some (r, r.span.offset (physical a)) := by
  have hfind : (order.find? fun r => r.span.contains (physical a)) = some r :=
    find?_eq_some_of_idxOf hr hspan hfirst
  rw [resolveIn, if_neg hc, hfind]
  rfl

/-- Outside of the shared locations every order finds the same region. -/
theorem resolveIn_of_not_shared (hperm : order.Perm masked)
    (hs : ¬ shared.Holds (location a) 1) : resolveIn order a = resolve a := by
  by_cases hc : cacheControl.span.contains a = true
  · rw [resolveIn, resolve, if_pos hc, if_pos hc]
  · rw [location_of_not_contains hc] at hs
    rw [← resolveIn_masked]
    by_cases hex : ∃ r ∈ masked, r.span.contains (physical a) = true
    · obtain ⟨r, hr, hspan⟩ := hex
      have halone : ∀ r', r'.span.contains (physical a) = true → ¬ r' ≠ r := fun r' hr' hne =>
        hs ((contains_both_iff hne _).1 ⟨hr', hspan⟩).2
      rw [resolveIn_of_first hc (hperm.mem_iff.2 hr) hspan fun r' h hne => absurd hne (halone r' h),
        resolveIn_of_first hc hr hspan fun r' h hne => absurd hne (halone r' h)]
    · have hnone (l : List Region) (hl : l.Perm masked) :
          (l.find? fun r => r.span.contains (physical a)) = none :=
        List.find?_eq_none.2 fun r hr h => hex ⟨r, hl.mem_iff.1 hr, h⟩
      rw [resolveIn, resolveIn, if_neg hc, if_neg hc, hnone order hperm, hnone masked (.refl _)]

/-- The first of the I/O ports and expansion 2 in the order gets a shared location. -/
theorem resolveIn_of_shared (hperm : order.Perm masked) (hs : shared.Holds (location a) 1)
    {r r' : Region} (hpair : r = ioPorts ∧ r' = expansion2 ∨ r = expansion2 ∧ r' = ioPorts)
    (hlt : order.idxOf r < order.idxOf r') :
    resolveIn order a = some (r, r.span.offset (physical a)) := by
  have hc : ¬ cacheControl.span.contains a = true := by
    intro hc
    have hspan := (contains_span_iff _ _).1 hc
    have hlast : location a + 1 ≤ 0x1F802FFF + 1 := hs.2
    have horigin : cacheControl.origin = 0xFFFE0000 := rfl
    rw [location_of_contains hc] at hlast
    omega
  rw [location_of_not_contains hc] at hs
  have hboth := contains_of_shared hs
  have hr : r ∈ masked ∧ r.span.contains (physical a) = true := by
    obtain ⟨rfl, -⟩ | ⟨rfl, -⟩ := hpair
    · exact ⟨by decide, hboth.1⟩
    · exact ⟨by decide, hboth.2⟩
  refine resolveIn_of_first hc (hperm.mem_iff.2 hr.1) hr.2 fun s hspan hne => ?_
  -- a third region would meet one of the two outside of the other
  have hs' : s = r' := by
    obtain ⟨hp, -⟩ := (contains_both_iff hne _).1 ⟨hspan, hr.2⟩
    grind
  exact hs' ▸ hlt

/-- An order finds what the lookup finds unless it tests expansion 2 before the I/O ports. -/
theorem resolveIn_eq_iff (hperm : order.Perm masked) (a : Word) :
    resolveIn order a = resolve a ↔
      (shared.Holds (location a) 1 → order.idxOf ioPorts < order.idxOf expansion2) := by
  by_cases hs : shared.Holds (location a) 1
  · have hio : resolve a = some (ioPorts, ioPorts.span.offset (physical a)) :=
      resolveIn_of_shared (.refl masked) hs (.inl ⟨rfl, rfl⟩) (by decide)
    rw [hio, forall_prop_of_true hs]
    constructor
    · intro h
      by_contra hlt
      have hmem : ioPorts ∈ order := hperm.mem_iff.2 (by decide)
      have hne : order.idxOf ioPorts ≠ order.idxOf expansion2 :=
        mt (List.idxOf_inj hmem).1 (by decide)
      rw [resolveIn_of_shared hperm hs (.inr ⟨rfl, rfl⟩) (by omega)] at h
      exact absurd (congrArg Prod.fst (Option.some.inj h)) (by simp)
    · exact resolveIn_of_shared hperm hs (.inl ⟨rfl, rfl⟩)
  · exact iff_of_true (resolveIn_of_not_shared hperm hs) fun h => absurd h hs

end Order

/-! ### Bytes in reach -/

/-- A number in a window is the location of the address it gives. -/
theorem location_ofNat {r : Region} {p : Nat} (h : r.window.Holds p 1) :
    location (UInt32.ofNat p) = p := by
  have hend : r.window.last ≤ 0xFFFE01FF ∧
      (r.window.last < 2 ^ 29 ∨ 0xFFFE0000 ≤ r.window.first) := by
    cases r <;> decide
  have hfirst := h.1
  have hlast := h.2
  have hnat : (UInt32.ofNat p).toNat = p := UInt32.toNat_ofNat_of_lt' (by simp [UInt32.size]; omega)
  rw [location, hnat]
  split <;> omega

/-- An address reaches every byte of a buffer but the first 4 KiB of expansion 2. -/
theorem exists_resolve_iff {r : Region} {o : Nat} :
    (∃ a, resolve a = some (r, o)) ↔ o < r.size ∧ ¬ (r = expansion2 ∧ o < 0x1000) := by
  constructor
  · rintro ⟨a, h⟩
    refine ⟨offset_lt_of_resolve h, ?_⟩
    rintro ⟨rfl, ho⟩
    obtain ⟨hw, hloc⟩ := resolve_eq_some_iff.1 h
    have hfirst : 0x1F803000 ≤ location a := hw.1
    have horigin : expansion2.origin = 0x1F802000 := rfl
    omega
  · rintro ⟨ho, hlow⟩
    have hlast := r.last_window
    have hw : r.window.Holds (r.origin + o) 1 := by
      refine ⟨?_, by omega⟩
      by_cases hr : r = expansion2
      · subst hr
        have hge : 0x1000 ≤ o := Nat.not_lt.1 fun h => hlow ⟨rfl, h⟩
        have hnum : expansion2.origin = 0x1F802000 ∧ expansion2.window.first = 0x1F803000 :=
          ⟨rfl, rfl⟩
        omega
      · rw [first_window hr]
        omega
    exact ⟨UInt32.ofNat (r.origin + o), resolve_eq_some_iff.2
      ⟨by rw [location_ofNat hw]; exact hw, location_ofNat hw⟩⟩

/-! ### Main statement -/

/-- Two different spans meet in the 4 KiB that the I/O ports and expansion 2 share and nowhere else;
    an order of the lookup finds the same as the given one at every address outside of these, and at
    all addresses if the I/O ports come before expansion 2; and the bytes that no address reaches
    are those of expansion 2 behind the I/O ports. -/
theorem spans_meet_in_shared :
    (∀ r ∈ masked, ∀ r' ∈ masked, r ≠ r' → ∀ p : Word,
      (r.span.contains p = true ∧ r'.span.contains p = true ↔
        (r = ioPorts ∧ r' = expansion2 ∨ r = expansion2 ∧ r' = ioPorts) ∧
          shared.Holds p.toNat 1)) ∧
    (∀ order : List Region, order.Perm masked → ∀ a,
      (resolveIn order a = resolve a ↔
        (shared.Holds (location a) 1 → order.idxOf ioPorts < order.idxOf expansion2))) ∧
    ∀ r o, (∃ a, resolve a = some (r, o)) ↔ o < r.size ∧ ¬ (r = expansion2 ∧ o < 0x1000) :=
  ⟨fun _ _ _ _ hne => contains_both_iff hne, fun _ => resolveIn_eq_iff,
    fun _ _ => exists_resolve_iff⟩

/-- Its three parts at an order that tests the regions backwards. -/
theorem spans_meet_in_shared_backwards :
    (ioPorts.span.contains 0x1F802FFF = true ∧ expansion2.span.contains 0x1F802FFF = true) ∧
    (masked.reverse.Perm masked ∧
      resolveIn masked.reverse 0x9F803000 = resolve 0x9F803000 ∧
      resolveIn masked.reverse 0x9F802FFF ≠ resolve 0x9F802FFF) ∧
    ∃ a, resolve a = some (expansion2, 0x1000) := by
  have hperm : masked.reverse.Perm masked := List.reverse_perm masked
  obtain ⟨hmeet, horder, hreach⟩ := spans_meet_in_shared
  refine ⟨?_, ⟨hperm, ?_, ?_⟩, ?_⟩
  · exact (hmeet ioPorts (by decide) expansion2 (by decide) (by decide) _).2
      ⟨.inl ⟨rfl, rfl⟩, by decide⟩
  · exact (horder _ hperm _).2 fun h => absurd h (by decide)
  · exact fun h => absurd ((horder _ hperm _).1 h (by decide)) (by decide)
  · exact (hreach _ _).2 ⟨by decide, by decide⟩

/-- The first location that the I/O ports and expansion 2 share lies in both spans; in the other
    order it would be the first byte of expansion 2, which no address reaches as it is. -/
theorem shared_first :
    (ioPorts ∈ masked ∧ ioPorts.span.contains 0x1F802000 = true ∧
      expansion2 ∈ masked ∧ expansion2.span.contains 0x1F802000 = true) ∧
    (masked.reverse.Perm masked ∧ resolve 0x1F802000 = some (ioPorts, 0x1000) ∧
      resolveIn masked.reverse 0x1F802000 = some (expansion2, 0)) ∧
    0 < expansion2.size ∧ ∀ a, resolve a ≠ some (expansion2, 0) := by
  refine ⟨by decide, ⟨List.reverse_perm masked, by decide, by decide⟩, by decide, fun a h => ?_⟩
  exact (exists_resolve_iff.1 ⟨a, h⟩).2 ⟨rfl, by decide⟩

end Region

end R3000
