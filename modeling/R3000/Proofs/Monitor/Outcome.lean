import Mathlib.Logic.Function.Iterate
import R3000.Monitor.Basic
import R3000.Proofs.Atomicity

/-!
How a run ends. The steps of a monitor are numbered from zero, and step `k` begins in state `k`. A
run passes a step that succeeds and, the first one apart, does not begin at a breakpoint. It stops
at the first step that it does not pass, or at its limit, whichever comes first; where a step begins
at a breakpoint and would fail, the breakpoint counts. Main statements: what a run does on the steps
that it passes and at the first one that it does not, and `ends_iff` for every limit.
-/

namespace R3000

namespace Monitor

variable {s t : Monitor} {j k n : Nat}

/-! ### Steps by number -/

/-- The monitor after a number of steps, those that fail included. -/
def after (s : Monitor) (k : Nat) : Monitor := (fun s => s.step.2)^[k] s

/-- Whether the first `k` steps succeed. -/
def Proceeds (s : Monitor) (k : Nat) : Prop := ∀ j < k, (s.after j).step.1 = .ok ()

/-- Whether step `k` begins at a breakpoint. -/
def Marked (s : Monitor) (k : Nat) : Prop := s.breakpoints.contains (s.after k).pc = true

/-- Whether a run passes step `k`. -/
def Passes (s : Monitor) (k : Nat) : Prop := (s.after k).step.1 = .ok () ∧ (0 < k → ¬ s.Marked k)

theorem after_succ (s : Monitor) (k : Nat) : s.after (k + 1) = (s.after k).step.2 :=
  Function.iterate_succ_apply' ..

@[simp]
theorem breakpoints_after (s : Monitor) (k : Nat) : (s.after k).breakpoints = s.breakpoints := by
  induction k with
  | zero => rfl
  | succ k ih => rw [after_succ, breakpoints_step, ih]

theorem step_eq_of_ok (h : s.step.1 = .ok ()) : s.step = (.ok (), s.step.2) := Prod.ext h rfl

theorem step_eq_of_error {f : Fault} (h : s.step.1 = .error f) : s.step = (.error f, s.step.2) :=
  Prod.ext h rfl

theorem cycles_step_of_ok (h : s.step.1 = .ok ()) : s.step.2.cycles = s.cycles + 1 := by
  match hm : s.machine.cycle with
  | (.error f, t) =>
    rw [step_of_error hm] at h
    cases h
  | (.ok (), t) => rw [step_of_ok hm]

theorem cycles_step_of_error {f : Fault} (h : s.step.1 = .error f) :
    s.step.2.cycles = s.cycles := by
  match hm : s.machine.cycle with
  | (.error f', t) => rw [step_of_error hm]
  | (.ok (), t) =>
    rw [step_of_ok hm] at h
    cases h

theorem proceeds_succ : s.Proceeds (k + 1) ↔ s.Proceeds k ∧ (s.after k).step.1 = .ok () :=
  Nat.forall_lt_succ_right

/-- Every step that succeeds is counted. -/
theorem cycles_after (h : s.Proceeds k) : (s.after k).cycles = s.cycles + k := by
  induction k with
  | zero => rfl
  | succ k ih =>
    obtain ⟨hk, hstep⟩ := proceeds_succ.1 h
    rw [after_succ, cycles_step_of_ok hstep, ih hk, Nat.add_assoc]

/-- Steps that succeed are those of a count of steps. -/
theorem stepN_of_proceeds (h : s.Proceeds k) (n : Nat) :
    s.stepN (k + n) = (s.after k).stepN n := by
  induction k generalizing n with
  | zero => rw [Nat.zero_add]; rfl
  | succ k ih =>
    obtain ⟨hk, hstep⟩ := proceeds_succ.1 h
    rw [Nat.succ_add_eq_add_succ, ih hk, stepN, after_succ, step_eq_of_ok hstep]

/-! ### What a run does -/

variable {started : Bool}

theorem runFrom_of_marked (h : s.breakpoints.contains s.pc = true) (n : Nat) :
    s.runFrom true (n + 1) = (.ok (.breakpoint s.pc), s) := by
  rw [runFrom, h]
  rfl

theorem runFrom_of_error {f : Fault} (hb : started = true → ¬ s.breakpoints.contains s.pc = true)
    (h : s.step.1 = .error f) (n : Nat) : s.runFrom started (n + 1) = (.error f, s.step.2) := by
  rw [runFrom, if_neg (by simpa using hb), step_eq_of_error h]

theorem runFrom_of_ok (hb : started = true → ¬ s.breakpoints.contains s.pc = true)
    (h : s.step.1 = .ok ()) (n : Nat) :
    s.runFrom started (n + 1) = s.step.2.runFrom true n := by
  rw [runFrom, if_neg (by simpa using hb), step_eq_of_ok h]

/-- A breakpoint counts from the second step on. -/
theorem not_contains_of_not_marked (h : 0 < k → ¬ s.Marked k) (hk : (k != 0) = true) :
    ¬ (s.after k).breakpoints.contains (s.after k).pc = true := by
  rw [breakpoints_after]
  exact h (Nat.pos_of_ne_zero (bne_iff_ne.1 hk))

/-- A run goes on behind the steps that it passes. -/
theorem runAtMost_of_passes (h : ∀ j < k, s.Passes j) (n : Nat) :
    s.runAtMost (k + n) = (s.after k).runFrom (k != 0) n := by
  induction k generalizing n with
  | zero => rw [Nat.zero_add]; rfl
  | succ k ih =>
    obtain ⟨hstep, hmark⟩ := h k k.lt_succ_self
    rw [Nat.succ_add_eq_add_succ, ih fun j hj => h j (Nat.lt_succ_of_lt hj), after_succ]
    exact runFrom_of_ok (not_contains_of_not_marked hmark) hstep n

/-- Whether a run stops at step `k` since that begins at a breakpoint. -/
structure StopsAt (s : Monitor) (k : Nat) : Prop where
  pos : 0 < k
  marked : s.Marked k
  passes : ∀ j < k, s.Passes j

/-- Whether a run stops at step `k` since that fails. -/
structure FailsAt (s : Monitor) (k : Nat) (f : Fault) : Prop where
  error : (s.after k).step.1 = .error f
  notMarked : 0 < k → ¬ s.Marked k
  passes : ∀ j < k, s.Passes j

theorem runAtMost_of_stopsAt (h : s.StopsAt k) (hn : k < n) :
    s.runAtMost n = (.ok (.breakpoint (s.after k).pc), s.after k) := by
  obtain ⟨n, rfl⟩ : ∃ m, n = k + (m + 1) := ⟨n - k - 1, by omega⟩
  have hstarted : (k != 0) = true := bne_iff_ne.2 (Nat.ne_of_gt h.pos)
  rw [runAtMost_of_passes h.passes, hstarted]
  apply runFrom_of_marked
  rw [breakpoints_after]
  exact h.marked

theorem runAtMost_of_failsAt {f : Fault} (h : s.FailsAt k f) (hn : k < n) :
    s.runAtMost n = (.error f, (s.after k).step.2) := by
  obtain ⟨n, rfl⟩ : ∃ m, n = k + (m + 1) := ⟨n - k - 1, by omega⟩
  rw [runAtMost_of_passes h.passes]
  exact runFrom_of_error (not_contains_of_not_marked h.notMarked) h.error n

/-- Counted steps stop at the first one that fails. -/
theorem stepN_of_failsAt {f : Fault} (h : s.FailsAt k f) (hn : k < n) :
    s.stepN n = (.error f, (s.after k).step.2) := by
  obtain ⟨n, rfl⟩ : ∃ m, n = k + (m + 1) := ⟨n - k - 1, by omega⟩
  rw [stepN_of_proceeds fun j hj => (h.passes j hj).1, stepN, step_eq_of_error h.error]

theorem runAtMost_of_forall (h : ∀ j < n, s.Passes j) :
    s.runAtMost n = (.ok .limitReached, s.after n) := runAtMost_of_passes h 0

/-- Of the first `n` steps a run passes all, or there is a first one at which it stops. -/
theorem passes_or_stops (s : Monitor) (n : Nat) : (∀ j < n, s.Passes j) ∨
    ∃ k < n, s.StopsAt k ∨ ∃ f, s.FailsAt k f := by
  induction n with
  | zero => exact .inl fun j hj => absurd hj j.not_lt_zero
  | succ n ih =>
    rcases ih with hpass | ⟨k, hk, hstop⟩
    · by_cases hmark : 0 < n ∧ s.Marked n
      · exact .inr ⟨n, n.lt_succ_self, .inl ⟨hmark.1, hmark.2, hpass⟩⟩
      · have hnot : 0 < n → ¬ s.Marked n := fun hn hm => hmark ⟨hn, hm⟩
        cases hstep : (s.after n).step.1 with
        | error f => exact .inr ⟨n, n.lt_succ_self, .inr ⟨f, hstep, hnot, hpass⟩⟩
        | ok u =>
          refine .inl fun j hj => ?_
          rcases Nat.lt_succ_iff_lt_or_eq.1 hj with hj | rfl
          · exact hpass j hj
          · exact ⟨hstep, hnot⟩
    · exact .inr ⟨k, Nat.lt_succ_of_lt hk, hstop⟩

/-! ### In the terms of steps and breakpoints -/

theorem forall_passes_iff : (∀ j < n, s.Passes j) ↔
    s.Proceeds n ∧ ∀ k, 0 < k → k < n → ¬ s.Marked k :=
  ⟨fun h => ⟨fun j hj => (h j hj).1, fun k hpos hk => (h k hk).2 hpos⟩,
    fun ⟨hsteps, hmarks⟩ j hj => ⟨hsteps j hj, fun hpos => hmarks j hpos hj⟩⟩

theorem stopsAt_iff : s.StopsAt k ↔
    0 < k ∧ s.Marked k ∧ (∀ j, 0 < j → j < k → ¬ s.Marked j) ∧ s.Proceeds k := by
  constructor
  · rintro ⟨hpos, hmark, hpass⟩
    obtain ⟨hsteps, hmarks⟩ := forall_passes_iff.1 hpass
    exact ⟨hpos, hmark, hmarks, hsteps⟩
  · rintro ⟨hpos, hmark, hmarks, hsteps⟩
    exact ⟨hpos, hmark, forall_passes_iff.2 ⟨hsteps, hmarks⟩⟩

theorem failsAt_iff {f : Fault} : s.FailsAt k f ↔
    s.Proceeds k ∧ (s.after k).step.1 = .error f ∧ ∀ j, 0 < j → j ≤ k → ¬ s.Marked j := by
  constructor
  · rintro ⟨herror, hmark, hpass⟩
    obtain ⟨hsteps, hmarks⟩ := forall_passes_iff.1 hpass
    refine ⟨hsteps, herror, fun j hpos hj => ?_⟩
    rcases Nat.lt_or_eq_of_le hj with hj | rfl
    · exact hmarks j hpos hj
    · exact hmark hpos
  · rintro ⟨hsteps, herror, hmarks⟩
    exact ⟨herror, fun hpos => hmarks k hpos k.le_refl,
      forall_passes_iff.2 ⟨hsteps, fun j hpos hj => hmarks j hpos (Nat.le_of_lt hj)⟩⟩

/-! ### The ends of a run -/

/-- Whether a run ends with a result and leaves a monitor. A run without a limit ends if all fuel
    beyond some amount gives the same. -/
def Ends (s : Monitor) (limit : Option Nat) (result : Except Fault Outcome) (t : Monitor) : Prop :=
  (∃ enough, ∀ fuel, enough ≤ fuel → s.run fuel limit = (result, t)) ∧ result ≠ .ok .unfinished

variable {limit : Option Nat} {result : Except Fault Outcome}

/-- A step that ends every run that gets there ends the runs whose limit leaves room for it. -/
theorem ends_of_forall (h : ∀ n, k < n → s.runAtMost n = (result, t))
    (hlimit : ∀ n, limit = some n → k < n) (hreached : result ≠ .ok .limitReached)
    (hfinished : result ≠ .ok .unfinished) : s.Ends limit result t := by
  refine ⟨⟨k + 1, fun fuel hfuel => ?_⟩, hfinished⟩
  cases limit with
  | some n => exact h n (hlimit n rfl)
  | none =>
    rw [run, h fuel hfuel]
    split
    next heq => exact absurd (congrArg Prod.fst heq) hreached
    next => rfl

theorem ends_of_stopsAt (h : s.StopsAt k) (hlimit : ∀ n, limit = some n → k < n) :
    s.Ends limit (.ok (.breakpoint (s.after k).pc)) (s.after k) :=
  ends_of_forall (fun _ hn => runAtMost_of_stopsAt h hn) hlimit nofun nofun

theorem ends_of_failsAt {f : Fault} (h : s.FailsAt k f) (hlimit : ∀ n, limit = some n → k < n) :
    s.Ends limit (.error f) (s.after k).step.2 :=
  ends_of_forall (fun _ hn => runAtMost_of_failsAt h hn) hlimit nofun nofun

theorem ends_of_passes (h : ∀ j < n, s.Passes j) :
    s.Ends (some n) (.ok .limitReached) (s.after n) :=
  ⟨⟨0, fun _ _ => runAtMost_of_forall h⟩, nofun⟩

/-- A run ends in one way. -/
theorem Ends.unique {result' : Except Fault Outcome} {t' : Monitor} (h : s.Ends limit result t)
    (h' : s.Ends limit result' t') : result = result' ∧ t = t' := by
  obtain ⟨⟨enough, h⟩, -⟩ := h
  obtain ⟨⟨enough', h'⟩, -⟩ := h'
  have hboth := (h (max enough enough') (Nat.le_max_left ..)).symm.trans
    (h' (max enough enough') (Nat.le_max_right ..))
  exact Prod.mk.inj hboth

/-- There are three ways for a run to end. -/
theorem ends_cases (h : s.Ends limit result t) :
    (∃ n, limit = some n ∧ (∀ j < n, s.Passes j) ∧ result = .ok .limitReached ∧ t = s.after n) ∨
    (∃ k, (∀ n, limit = some n → k < n) ∧ s.StopsAt k ∧
      result = .ok (.breakpoint (s.after k).pc) ∧ t = s.after k) ∨
    (∃ k f, (∀ n, limit = some n → k < n) ∧ s.FailsAt k f ∧ result = .error f ∧
      t = (s.after k).step.2) := by
  obtain ⟨⟨enough, hrun⟩, hfinished⟩ := id h
  rcases s.passes_or_stops (limit.getD enough) with hpass | ⟨k, hk, hstop⟩
  · cases limit with
    | some n =>
      obtain ⟨rfl, rfl⟩ := h.unique (ends_of_passes hpass)
      exact .inl ⟨n, rfl, hpass, rfl, rfl⟩
    | none =>
      -- the fuel would be used up
      have hall : s.runAtMost enough = (.ok .limitReached, s.after enough) :=
        runAtMost_of_forall hpass
      have hfuel := hrun enough (Nat.le_refl enough)
      rw [run, hall] at hfuel
      exact absurd (Prod.mk.inj hfuel).1.symm hfinished
  · have hlimit : ∀ n, limit = some n → k < n := by
      rintro n rfl
      exact hk
    rcases hstop with hstop | ⟨f, hfail⟩
    · obtain ⟨rfl, rfl⟩ := h.unique (ends_of_stopsAt hstop hlimit)
      exact .inr (.inl ⟨k, hlimit, hstop, rfl, rfl⟩)
    · obtain ⟨rfl, rfl⟩ := h.unique (ends_of_failsAt hfail hlimit)
      exact .inr (.inr ⟨k, f, hlimit, hfail, rfl, rfl⟩)

/-- A run without an end has no limit and passes every step. -/
theorem not_ends_iff : (∀ result t, ¬ s.Ends limit result t) ↔
    limit = none ∧ ∀ k, s.Passes k := by
  constructor
  · intro h
    cases limit with
    | some n =>
      rcases s.passes_or_stops n with hpass | ⟨k, hk, hstop | ⟨f, hfail⟩⟩
      · exact (h _ _ (ends_of_passes hpass)).elim
      · exact (h _ _ (ends_of_stopsAt hstop fun _ hn => Option.some.inj hn ▸ hk)).elim
      · exact (h _ _ (ends_of_failsAt hfail fun _ hn => Option.some.inj hn ▸ hk)).elim
    | none =>
      refine ⟨rfl, fun k => ?_⟩
      rcases s.passes_or_stops (k + 1) with hpass | ⟨j, -, hstop | ⟨f, hfail⟩⟩
      · exact hpass k k.lt_succ_self
      · exact (h _ _ (ends_of_stopsAt hstop fun _ => nofun)).elim
      · exact (h _ _ (ends_of_failsAt hfail fun _ => nofun)).elim
  · rintro ⟨rfl, hpass⟩ result t h
    rcases ends_cases h with ⟨n, hn, -⟩ | ⟨k, -, hstop, -⟩ | ⟨k, f, -, hfail, -⟩
    · cases hn
    · exact (hpass k).2 hstop.pos hstop.marked
    · have hstep := (hpass k).1
      rw [hfail.error] at hstep
      cases hstep

/-- How a run ends, for every limit and for none. It reaches its limit `n` if the first `n` steps
    succeed and none of them but the first begins at a breakpoint. It stops at the first breakpoint
    behind its start if the steps up to there succeed and the limit leaves room for one more. It
    fails with the first step that fails if the limit leaves room for that and no step behind the
    start, up to and including this one, begins at a breakpoint. Otherwise it has no limit and never
    ends. Every step that succeeds is counted, and no other one; and without a breakpoint on its way
    a run does what counted steps do. -/
theorem ends_iff (s : Monitor) (limit : Option Nat) :
    (∀ t, s.Ends limit (.ok .limitReached) t ↔ ∃ n, limit = some n ∧ s.Proceeds n ∧
      (∀ k, 0 < k → k < n → ¬ s.Marked k) ∧ t = s.after n) ∧
    (∀ a t, s.Ends limit (.ok (.breakpoint a)) t ↔ ∃ k, 0 < k ∧ s.Marked k ∧
      (∀ j, 0 < j → j < k → ¬ s.Marked j) ∧ s.Proceeds k ∧ (∀ n, limit = some n → k < n) ∧
      a = (s.after k).pc ∧ t = s.after k) ∧
    (∀ f t, s.Ends limit (.error f) t ↔ ∃ k, s.Proceeds k ∧ (s.after k).step.1 = .error f ∧
      (∀ j, 0 < j → j ≤ k → ¬ s.Marked j) ∧ (∀ n, limit = some n → k < n) ∧
      t = (s.after k).step.2) ∧
    ((∀ result t, ¬ s.Ends limit result t) ↔
      limit = none ∧ ∀ k, s.Proceeds k ∧ (0 < k → ¬ s.Marked k)) ∧
    (∀ k, s.Proceeds k → (s.after k).cycles = s.cycles + k ∧
      ∀ f, (s.after k).step.1 = .error f → (s.after k).step.2.cycles = s.cycles + k) ∧
    ∀ n, (∀ k, 0 < k → k < n → s.Proceeds k → ¬ s.Marked k) →
      s.Ends (some n) ((s.stepN n).1.map fun _ => .limitReached) (s.stepN n).2 := by
  refine ⟨fun t => ⟨fun h => ?_, ?_⟩, fun a t => ⟨fun h => ?_, ?_⟩, fun f t => ⟨fun h => ?_, ?_⟩,
    ?_, fun k hk => ⟨cycles_after hk, fun f hf => ?_⟩, fun n hn => ?_⟩
  · obtain ⟨n, rfl, hpass, -, rfl⟩ | ⟨k, -, -, hr, -⟩ | ⟨k, f, -, -, hr, -⟩ := ends_cases h
    · obtain ⟨hsteps, hmarks⟩ := forall_passes_iff.1 hpass
      exact ⟨n, rfl, hsteps, hmarks, rfl⟩
    · cases hr
    · cases hr
  · rintro ⟨n, rfl, hsteps, hmarks, rfl⟩
    exact ends_of_passes (forall_passes_iff.2 ⟨hsteps, hmarks⟩)
  · obtain ⟨n, -, -, hr, -⟩ | ⟨k, hlimit, hstop, hr, rfl⟩ | ⟨k, f, -, -, hr, -⟩ := ends_cases h
    · cases hr
    · obtain ⟨hpos, hmark, hmarks, hsteps⟩ := stopsAt_iff.1 hstop
      obtain rfl := Outcome.breakpoint.inj (Except.ok.inj hr)
      exact ⟨k, hpos, hmark, hmarks, hsteps, hlimit, rfl, rfl⟩
    · cases hr
  · rintro ⟨k, hpos, hmark, hmarks, hsteps, hlimit, rfl, rfl⟩
    exact ends_of_stopsAt (stopsAt_iff.2 ⟨hpos, hmark, hmarks, hsteps⟩) hlimit
  · obtain ⟨n, -, -, hr, -⟩ | ⟨k, -, -, hr, -⟩ | ⟨k, f', hlimit, hfail, hr, rfl⟩ := ends_cases h
    · cases hr
    · cases hr
    · obtain rfl := Except.error.inj hr
      obtain ⟨hsteps, herror, hmarks⟩ := failsAt_iff.1 hfail
      exact ⟨k, hsteps, herror, hmarks, hlimit, rfl⟩
  · rintro ⟨k, hsteps, herror, hmarks, hlimit, rfl⟩
    exact ends_of_failsAt (failsAt_iff.2 ⟨hsteps, herror, hmarks⟩) hlimit
  · rw [not_ends_iff]
    refine and_congr_right fun _ => ⟨fun h k => ⟨fun j _ => (h j).1, (h k).2⟩, fun h k => ?_⟩
    exact ⟨(h (k + 1)).1 k k.lt_succ_self, (h k).2⟩
  · rw [cycles_step_of_error hf, cycles_after hk]
  · rcases s.passes_or_stops n with hpass | ⟨k, hk, hstop | ⟨f, hfail⟩⟩
    · have hsteps : s.stepN n = (.ok (), s.after n) :=
        stepN_of_proceeds (forall_passes_iff.1 hpass).1 0
      rw [hsteps]
      exact ends_of_passes hpass
    · obtain ⟨hpos, hmark, -, hsteps⟩ := stopsAt_iff.1 hstop
      exact absurd hmark (hn k hpos hk hsteps)
    · rw [stepN_of_failsAt hfail hk]
      exact ends_of_failsAt hfail fun _ hm => Option.some.inj hm ▸ hk

/-- Two idle instructions in front of an unknown opcode, with breakpoints at the first and the last
    of the three. The first breakpoint stops no run. The other one stops a run without a limit,
    which would fail there, but not a run that is limited to two steps. -/
theorem ends_iff_unknownOpcode : ∃ s : Monitor, s.Marked 0 ∧ s.Marked 2 ∧
    (s.after 2).step.1 = .error (.invalidOpcode 63 0xFC000000) ∧
    s.Ends none (.ok (.breakpoint 0xBFC00008)) (s.after 2) ∧
    s.Ends (some 2) (.ok .limitReached) (s.after 2) ∧
    s.Ends (some 2) ((s.stepN 2).1.map fun _ => .limitReached) (s.stepN 2).2 ∧
    (s.after 2).cycles = s.cycles + 2 := by
  obtain ⟨m, hm⟩ : ∃ m, Memory.ofImage ⟨#[0, 0, 0, 0, 0, 0, 0, 0, 0, 0, 0, 0xFC]⟩ = .ok m :=
    ⟨_, dif_pos (by decide)⟩
  have hone : m.loadWord 0xBFC00000 = .ok 0 := Memory.loadWord_of_ofImage hm (by decide) (by rfl)
  have htwo : m.loadWord 0xBFC00004 = .ok 0 := Memory.loadWord_of_ofImage hm (by decide) (by rfl)
  have hthree : m.loadWord 0xBFC00008 = .ok 0xFC000000 :=
    Memory.loadWord_of_ofImage hm (by decide) (by rfl)
  let s : Monitor := ((ofMemory m).addBreakpoint 0xBFC00000).addBreakpoint 0xBFC00008
  let c : Cpu := (Cpu.powerOn.advance ⟨0⟩).commit
  have hstep : s.step = (.ok (), { s with machine := ⟨c, m⟩, cycles := 1 }) :=
    step_of_ok (Machine.cycle_idle hone)
  have hafter : s.after 1 = { s with machine := ⟨c, m⟩, cycles := 1 } := congrArg Prod.snd hstep
  have hstep' : (s.after 1).step =
      (.ok (), { s with machine := ⟨(c.advance ⟨0⟩).commit, m⟩, cycles := 2 }) := by
    rw [hafter]
    exact step_of_ok (Machine.cycle_idle htwo)
  have hafter' : s.after 2 = { s with machine := ⟨(c.advance ⟨0⟩).commit, m⟩, cycles := 2 } := by
    rw [after_succ, hstep']
  have hsteps : s.Proceeds 2 := by
    intro j hj
    obtain rfl | rfl : j = 0 ∨ j = 1 := by omega
    · exact congrArg Prod.fst hstep
    · exact congrArg Prod.fst hstep'
  have hbreakpoints : s.breakpoints = (Breakpoints.empty.insert 0xBFC00000).insert 0xBFC00008 := rfl
  have hfirst : s.Marked 0 := by
    show s.breakpoints.contains 0xBFC00000 = true
    rw [hbreakpoints]
    decide
  have hmarks : ∀ k, 0 < k → k < 2 → ¬ s.Marked k := by
    intro k hpos hk
    obtain rfl : k = 1 := by omega
    rw [Marked, hafter]
    show ¬ s.breakpoints.contains 0xBFC00004 = true
    rw [hbreakpoints]
    decide
  have hlast : s.Marked 2 := by
    rw [Marked, hafter']
    show s.breakpoints.contains 0xBFC00008 = true
    rw [hbreakpoints]
    decide
  have herror : (s.after 2).step.1 = .error (.invalidOpcode 63 0xFC000000) := by
    rw [hafter']
    exact congrArg Prod.fst (step_of_error (Machine.cycle_of_fault hthree rfl))
  have hpc : (0xBFC00008 : Word) = (s.after 2).pc := by
    rw [hafter']
    rfl
  refine ⟨s, hfirst, hlast, herror, ?_, ?_, ?_, ?_⟩
  · exact ((ends_iff s none).2.1 _ _).2 ⟨2, by decide, hlast, hmarks, hsteps, nofun, hpc, rfl⟩
  · exact ((ends_iff s (some 2)).1 _).2 ⟨2, rfl, hsteps, hmarks, rfl⟩
  · exact (ends_iff s none).2.2.2.2.2 2 fun k hpos hk _ => hmarks k hpos hk
  · exact ((ends_iff s none).2.2.2.2.1 2 hsteps).1

end Monitor

end R3000
