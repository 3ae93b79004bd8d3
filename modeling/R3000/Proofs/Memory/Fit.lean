import R3000.Proofs.Memory.Extent

/-!
Accesses that fit. An access fits if its address resolves to a region with room for all its bytes
behind the offset, whatever the alignment of the address is. Main statements: loads and stores fail
exactly if they do not fit, with a fault that names their address; and the aligned word around a
byte fits exactly if the byte does, so a merge with it never runs over the edge of a region.
-/

namespace R3000

/-- Whether the region of an address holds `n` bytes from there on. -/
def Fits (n : Nat) (a : Word) : Prop := ∃ r o, Region.resolve a = some (r, o) ∧ o + n ≤ r.size

/-- The address of an aligned word is the address without its two lowest bits. -/
theorem Word.aligned_eq_and (a : Word) : a.aligned = a &&& ~~~3 := by
  have hshift : a.aligned = (a >>> 2) <<< 2 := by
    have ha := a.toNat_lt
    apply UInt32.toNat_inj.1
    rw [toNat_aligned]
    simp [Nat.shiftRight_eq_div_pow, Nat.shiftLeft_eq]
    omega
  rw [hshift]
  apply UInt32.toBitVec_inj.1
  exact BitVec.shiftLeft_ushiftRight (x := a.toBitVec) (n := 2)

variable {n : Nat} {a : Word} {f : Fault} {m : Memory}

theorem fits_iff_of? : Fits n a ↔ ∃ p, Place.of? n a = some p := by
  constructor
  · rintro ⟨r, o, hr, hfits⟩
    refine ⟨⟨r, o, hfits⟩, ?_⟩
    rw [Place.of?, hr]
    exact dif_pos hfits
  · rintro ⟨p, hp⟩
    exact ⟨p.region, p.offset, Place.resolve_of_of? hp, p.fits⟩

instance : Decidable (Fits n a) :=
  decidable_of_iff ((Place.of? n a).isSome = true)
    (Option.isSome_iff_exists.trans fits_iff_of?.symm)

theorem fits_iff_mapped (hn : 0 < n) : Fits n a ↔ Mapped n a := by
  constructor
  · rintro ⟨r, o, hr, hfits⟩
    obtain ⟨hw, ho⟩ := Region.resolve_eq_some_iff.1 hr
    have hlast := r.last_window
    exact ⟨r, r.mem_all, hw.1, by omega⟩
  · rintro ⟨r, -, hfirst, hend⟩
    have horigin := r.origin_le_first_window
    have hlast := r.last_window
    have hr : Region.resolve a = some (r, location a - r.origin) :=
      Region.resolve_eq_some_iff.2 ⟨⟨hfirst, by omega⟩, by omega⟩
    exact ⟨r, _, hr, by omega⟩

/-- An access fits if its bytes follow one another in one region. -/
theorem fits_iff_resolve (hn : 0 < n) : Fits n a ↔
    ∃ r o, ∀ k < n, Region.resolve (a + UInt32.ofNat k) = some (r, o + k) := by
  constructor
  · intro h
    obtain ⟨p, hp⟩ := fits_iff_of?.1 h
    exact ⟨p.region, p.offset, fun k hk => resolve_add hp hk⟩
  · rintro ⟨r, o, h⟩
    have hlast := Region.offset_lt_of_resolve (h (n - 1) (by omega))
    have hfirst : Region.resolve (a + 0) = some (r, o) := h 0 hn
    rw [UInt32.add_zero] at hfirst
    exact ⟨r, o, hfirst, by omega⟩

/-- The region of a byte holds its whole aligned word, and no other one does. -/
theorem fits_aligned_iff : Fits 4 a.aligned ↔ Fits 1 a := by
  rw [fits_iff_mapped (Nat.succ_pos 3), fits_iff_mapped Nat.one_pos]
  constructor
  · rintro ⟨r, hr, hfirst, hlast⟩
    have hloc := location_aligned a
    have hk := a.alignment_lt
    exact ⟨r, hr, by omega, by omega⟩
  · exact mapped_aligned

/-! ### Accesses that fail -/

theorem Place.find_eq_error_iff :
    find n a = .error f ↔ ¬ Fits n a ∧ f = .unmappedAddress a := by
  rw [fits_iff_of?, find]
  cases of? n a with
  | some p => simp
  | none => simp [eq_comm]

namespace Memory

theorem loadByte_eq_error_iff : m.loadByte a = .error f ↔ ¬ Fits 1 a ∧ f = .unmappedAddress a := by
  rw [← Place.find_eq_error_iff, loadByte]
  cases Place.find 1 a <;> simp

theorem loadHalf_eq_error_iff : m.loadHalf a = .error f ↔ ¬ Fits 2 a ∧ f = .unmappedAddress a := by
  rw [← Place.find_eq_error_iff, loadHalf]
  cases Place.find 2 a <;> simp

theorem loadWord_eq_error_iff : m.loadWord a = .error f ↔ ¬ Fits 4 a ∧ f = .unmappedAddress a := by
  rw [← Place.find_eq_error_iff, loadWord]
  cases Place.find 4 a <;> simp

end Memory

namespace Store

theorem ofBytes_eq_error_iff {bytes : List UInt8} :
    ofBytes a bytes = .error f ↔ ¬ Fits bytes.length a ∧ f = .unmappedAddress a := by
  rw [← Place.find_eq_error_iff, ofBytes]
  cases Place.find bytes.length a <;> simp

/-- A store that merges with a word finds its place where it has found the word. -/
theorem merge_eq_error_iff {merge : Word → Word} :
    ((m.loadWord a).bind fun w => ofWord a (merge w)) = .error f ↔
      ¬ Fits 4 a ∧ f = .unmappedAddress a := by
  rw [← Memory.loadWord_eq_error_iff (m := m)]
  cases hw : m.loadWord a with
  | error f' => simp only [Except.bind, Except.error.injEq]
  | ok w =>
    refine iff_of_false (fun h => ?_) nofun
    have hfit : ¬ Fits 4 a := (ofBytes_eq_error_iff.1 h).1
    have hfault : m.loadWord a = .error (.unmappedAddress a) :=
      Memory.loadWord_eq_error_iff.2 ⟨hfit, rfl⟩
    rw [hw] at hfault
    cases hfault

end Store

end R3000
