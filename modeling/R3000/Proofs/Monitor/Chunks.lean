import Mathlib.Algebra.Order.BigOperators.Group.List
import Mathlib.Algebra.Order.Ring.Nat
import R3000.Proofs.Monitor.Calls

/-!
Bounded runs in chunks. A run that ends before its limit ends in the same way under a higher one. A
run that reaches its limit is gone on with by a new run, as a longer one would have gone on, with
one exception: at a breakpoint the longer run stops, and the new one begins with the instruction
there. Main statements: `run_split` for two chunks, and `runChunks_eq_run_iff` for any number of
them.
-/

namespace R3000

namespace Monitor

variable {s t : Monitor} {fuel k n : Nat} {result : Except Fault Outcome} {ns : List Nat}

/-! ### Two chunks -/

/-- There are three ways for a bounded run to end. -/
theorem runAtMost_cases (s : Monitor) (n : Nat) :
    (s.runAtMost n).1 = .ok .limitReached ∨ (∃ a, (s.runAtMost n).1 = .ok (.breakpoint a)) ∨
      ∃ f, (s.runAtMost n).1 = .error f := by
  rcases s.passes_or_stops n with hpass | ⟨k, hk, hstop | ⟨f, hfail⟩⟩
  · rw [runAtMost_of_forall hpass]
    exact .inl rfl
  · rw [runAtMost_of_stopsAt hstop hk]
    exact .inr (.inl ⟨_, rfl⟩)
  · rw [runAtMost_of_failsAt hfail hk]
    exact .inr (.inr ⟨f, rfl⟩)

/-- A run of at least one step counts one, unless it fails. -/
theorem lt_cycles_of_runAtMost {o : Outcome} (hn : 0 < n) (h : s.runAtMost n = (.ok o, t)) :
    s.cycles < t.cycles := by
  rcases s.passes_or_stops n with hpass | ⟨k, hk, hstop | ⟨f, hfail⟩⟩
  · rw [runAtMost_of_forall hpass] at h
    obtain ⟨-, rfl⟩ := Prod.mk.inj h
    rw [cycles_after fun j hj => (hpass j hj).1]
    omega
  · rw [runAtMost_of_stopsAt hstop hk] at h
    obtain ⟨-, rfl⟩ := Prod.mk.inj h
    have hpos := hstop.pos
    rw [cycles_after fun j hj => (hstop.passes j hj).1]
    omega
  · rw [runAtMost_of_failsAt hfail hk] at h
    cases h

/-- Away from breakpoints it does not matter whether a run has started. -/
theorem runFrom_true (hs : s.atBreakpoint = false) (n : Nat) :
    s.runFrom true n = s.runAtMost n := by
  cases n with
  | zero => rfl
  | succ n =>
    have hstarted : ¬ (true && s.breakpoints.contains s.pc) = true := Bool.eq_false_iff.1 hs
    have hfirst : ¬ (false && s.breakpoints.contains s.pc) = true := nofun
    rw [runAtMost, runFrom, runFrom, if_neg hstarted, if_neg hfirst]

theorem runAtMost_add_of_ended (h : s.runAtMost k = (result, t))
    (hended : result ≠ .ok .limitReached) (n : Nat) : s.runAtMost (k + n) = (result, t) := by
  rw [runAtMost] at h
  rw [runAtMost, runFrom_add, h]
  split
  next heq => exact absurd (congrArg Prod.fst heq) hended
  next => rfl

theorem runAtMost_add_of_limitReached (hk : 0 < k) (h : s.runAtMost k = (.ok .limitReached, t))
    (n : Nat) : s.runAtMost (k + n) = t.runFrom true n := by
  have hstarted : (false || k != 0) = true := bne_iff_ne.2 (Nat.ne_of_gt hk)
  rw [runAtMost] at h
  rw [runAtMost, runFrom_add, h, hstarted]

/-- A longer run goes on where a shorter one has reached its limit away from breakpoints. -/
theorem runAtMost_add_of_not_atBreakpoint (hk : 0 < k)
    (h : s.runAtMost k = (.ok .limitReached, t)) (ht : t.atBreakpoint = false) (n : Nat) :
    s.runAtMost (k + n) = t.runAtMost n :=
  (runAtMost_add_of_limitReached hk h n).trans (runFrom_true ht n)

/-- A longer run stops at a breakpoint where a shorter one has reached its limit. -/
theorem runAtMost_add_of_atBreakpoint (hk : 0 < k) (hn : 0 < n)
    (h : s.runAtMost k = (.ok .limitReached, t)) (ht : t.atBreakpoint = true) :
    s.runAtMost (k + n) = (.ok (.breakpoint t.pc), t) := by
  obtain ⟨n, rfl⟩ := Nat.exists_eq_add_one.2 hn
  rw [runAtMost_add_of_limitReached hk h]
  exact runFrom_of_marked ht n

/-- A run of at least one step does not leave the monitor as it is, unless it fails. -/
theorem runAtMost_ne {o : Outcome} (hn : 0 < n) : s.runAtMost n ≠ (.ok o, s) :=
  fun h => Nat.lt_irrefl _ (lt_cycles_of_runAtMost hn h)

/-! ### Any number of chunks -/

/-- Runs one after the other, each with its own limit, up to the first that does not reach it. -/
def runChunks (s : Monitor) (fuel : Nat) : List Nat → Except Fault Outcome × Monitor
  | [] => (.ok .limitReached, s)
  | n :: ns =>
    match s.run fuel (some n) with
    | (.ok .limitReached, t) => t.runChunks fuel ns
    | ended => ended

theorem runChunks_cons_of_limitReached (h : s.run fuel (some n) = (.ok .limitReached, t))
    (ns : List Nat) : s.runChunks fuel (n :: ns) = t.runChunks fuel ns := by
  rw [runChunks, h]

theorem runChunks_cons_of_ended (h : s.run fuel (some n) = (result, t))
    (hended : result ≠ .ok .limitReached) (ns : List Nat) :
    s.runChunks fuel (n :: ns) = (result, t) := by
  rw [runChunks, h]
  split
  next heq => exact absurd (congrArg Prod.fst heq) hended
  next => rfl

/-- Chunks of at least one step each count one, unless they fail. -/
theorem lt_cycles_of_runChunks {o : Outcome} (hns : ns ≠ []) (hpos : ∀ n ∈ ns, 0 < n)
    (h : s.runChunks fuel ns = (.ok o, t)) : s.cycles < t.cycles := by
  induction ns generalizing s with
  | nil => exact absurd rfl hns
  | cons n ns ih =>
    obtain ⟨hn, hpos⟩ := List.forall_mem_cons.1 hpos
    obtain ⟨result, u, hrun⟩ : ∃ result u, s.run fuel (some n) = (result, u) := ⟨_, _, rfl⟩
    by_cases hlimit : result = .ok .limitReached
    · subst hlimit
      have hfirst : s.cycles < u.cycles := lt_cycles_of_runAtMost hn hrun
      rw [runChunks_cons_of_limitReached hrun] at h
      by_cases hns : ns = []
      · subst hns
        obtain ⟨-, rfl⟩ := Prod.mk.inj h
        exact hfirst
      · exact Nat.lt_trans hfirst (ih hns hpos h)
    · rw [runChunks_cons_of_ended hrun hlimit] at h
      obtain ⟨rfl, rfl⟩ := Prod.mk.inj h
      exact lt_cycles_of_runAtMost hn hrun

/-- Whether no chunk but the last one reaches its limit at a breakpoint. -/
def Seamless (s : Monitor) (fuel : Nat) (ns : List Nat) : Prop :=
  ∀ ms ks t, ms ++ ks = ns → ms ≠ [] → ks ≠ [] → s.runChunks fuel ms = (.ok .limitReached, t) →
    t.atBreakpoint = false

theorem seamless_of_length_le_one (h : ns.length ≤ 1) : s.Seamless fuel ns := by
  rintro ms ks t rfl hms hks -
  have hleft := List.length_pos_iff.2 hms
  have hright := List.length_pos_iff.2 hks
  rw [List.length_append] at h
  omega

theorem seamless_cons_of_ended (h : s.run fuel (some n) = (result, t))
    (hended : result ≠ .ok .limitReached) : s.Seamless fuel (n :: ns) := by
  rintro (- | ⟨n', ms⟩) ks u happend hms - hrun
  · exact absurd rfl hms
  · obtain ⟨rfl, -⟩ := List.cons.inj happend
    rw [runChunks_cons_of_ended h hended] at hrun
    exact absurd (congrArg Prod.fst hrun) hended

theorem seamless_cons_of_limitReached (hns : ns ≠ [])
    (h : s.run fuel (some n) = (.ok .limitReached, t)) :
    s.Seamless fuel (n :: ns) ↔ t.atBreakpoint = false ∧ t.Seamless fuel ns := by
  constructor
  · refine fun hs => ⟨hs [n] ns t rfl (by simp) hns ?_, fun ms ks u happend _ hks hrun => ?_⟩
    · exact runChunks_cons_of_limitReached h []
    · refine hs (n :: ms) ks u (congrArg _ happend) (by simp) hks ?_
      rw [runChunks_cons_of_limitReached h, hrun]
  · rintro ⟨hbreakpoint, ht⟩ (- | ⟨n', ms⟩) ks u happend hms hks hrun
    · exact absurd rfl hms
    · obtain ⟨rfl, hrest⟩ := List.cons.inj happend
      rw [runChunks_cons_of_limitReached h] at hrun
      by_cases hms : ms = []
      · subst hms
        obtain ⟨-, rfl⟩ := Prod.mk.inj hrun
        exact hbreakpoint
      · exact ht ms ks u hrest hms hks hrun

/-- Chunks of at least one step each do what one run of all their steps does exactly if no chunk but
    the last one reaches its limit at a breakpoint. -/
theorem runChunks_eq_run_iff (hpos : ∀ n ∈ ns, 0 < n) :
    s.runChunks fuel ns = s.run fuel (some ns.sum) ↔ s.Seamless fuel ns := by
  induction ns generalizing s with
  | nil => exact iff_of_true rfl (seamless_of_length_le_one (Nat.zero_le 1))
  | cons n ns ih =>
    obtain ⟨hn, hpos⟩ := List.forall_mem_cons.1 hpos
    obtain ⟨result, t, hrun⟩ : ∃ result t, s.run fuel (some n) = (result, t) := ⟨_, _, rfl⟩
    rw [List.sum_cons]
    by_cases hlimit : result = .ok .limitReached
    · subst hlimit
      rw [runChunks_cons_of_limitReached hrun]
      by_cases hns : ns = []
      · -- the first chunk is the last one, whose end does not matter
        subst hns
        exact iff_of_true hrun.symm (seamless_of_length_le_one (Nat.le_refl 1))
      · rw [seamless_cons_of_limitReached hns hrun]
        cases hbreakpoint : t.atBreakpoint with
        | false =>
          have hlong : s.run fuel (some (n + ns.sum)) = t.run fuel (some ns.sum) :=
            runAtMost_add_of_not_atBreakpoint hn hrun hbreakpoint ns.sum
          rw [hlong, ih hpos]
          exact (and_iff_right rfl).symm
        | true =>
          have hsum : 0 < ns.sum := List.sum_pos ns hpos hns
          have hlong : s.run fuel (some (n + ns.sum)) = (.ok (.breakpoint t.pc), t) :=
            runAtMost_add_of_atBreakpoint hn hsum hrun hbreakpoint
          -- the chunks that are left count at least one more step, or fail
          refine iff_of_false (fun h => ?_) (fun h => nomatch h.1)
          rw [hlong] at h
          exact Nat.lt_irrefl _ (lt_cycles_of_runChunks hns hpos h)
    · have hlong : s.run fuel (some (n + ns.sum)) = (result, t) :=
        runAtMost_add_of_ended hrun hlimit ns.sum
      rw [runChunks_cons_of_ended hrun hlimit, hlong]
      exact iff_of_true rfl (seamless_cons_of_ended hrun hlimit)

/-- Splitting a bounded run. A run of `a` steps reaches its limit, stops at a breakpoint, or fails.
    If it stops or fails, so does a run of `a + b` steps, in the same state. If it reaches its limit
    away from breakpoints, a run of `b` steps from there ends as one of `a + b` steps does, in the
    same state. If it reaches its limit at a breakpoint, the run of `a + b` steps stops there, while
    one of `b` steps first executes the instruction at the breakpoint, and never ends the same. So
    any number of runs, each of at least one step, do what one run of all their steps does exactly
    if none of them but the last one reaches its limit at a breakpoint. -/
theorem run_split (s : Monitor) (fuel : Nat) :
    (∀ a b, 0 < a → 0 < b →
      ((s.run fuel (some a)).1 = .ok .limitReached ∨
        (∃ p, (s.run fuel (some a)).1 = .ok (.breakpoint p)) ∨
        ∃ f, (s.run fuel (some a)).1 = .error f) ∧
      (∀ p t, s.run fuel (some a) = (.ok (.breakpoint p), t) →
        s.run fuel (some (a + b)) = (.ok (.breakpoint p), t)) ∧
      (∀ f t, s.run fuel (some a) = (.error f, t) → s.run fuel (some (a + b)) = (.error f, t)) ∧
      ∀ t, s.run fuel (some a) = (.ok .limitReached, t) → t.breakpoints = s.breakpoints ∧
        (t.atBreakpoint = false → t.run fuel (some b) = s.run fuel (some (a + b))) ∧
        (t.atBreakpoint = true → s.run fuel (some (a + b)) = (.ok (.breakpoint t.pc), t) ∧
          (∀ f u, t.step = (.error f, u) → t.run fuel (some b) = (.error f, u)) ∧
          (∀ u, t.step = (.ok (), u) → t.run fuel (some b) = u.runFrom true (b - 1)) ∧
          t.run fuel (some b) ≠ s.run fuel (some (a + b)))) ∧
    ∀ ns, (∀ n ∈ ns, 0 < n) →
      (s.runChunks fuel ns = s.run fuel (some ns.sum) ↔ s.Seamless fuel ns) := by
  refine ⟨fun a b ha hb => ⟨s.runAtMost_cases a, fun p t h => runAtMost_add_of_ended h nofun b,
    fun f t h => runAtMost_add_of_ended h nofun b, fun t h => ⟨?_, fun ht => ?_, fun ht => ?_⟩⟩,
    fun ns hpos => runChunks_eq_run_iff hpos⟩
  · have hafter : (s.run fuel (some a)).2.breakpoints = s.breakpoints := by
      rw [run_eq_after, breakpoints_after]
    rwa [h] at hafter
  · exact (runAtMost_add_of_not_atBreakpoint ha h ht b).symm
  · have hlong : s.run fuel (some (a + b)) = (.ok (.breakpoint t.pc), t) :=
      runAtMost_add_of_atBreakpoint ha hb h ht
    have hfirst : false = true → ¬ t.atBreakpoint = true := nofun
    obtain ⟨b, rfl⟩ := Nat.exists_eq_add_one.2 hb
    refine ⟨hlong, fun f u hstep => ?_, fun u hstep => ?_, ?_⟩
    · have hrun := runFrom_of_error hfirst (congrArg Prod.fst hstep) b
      rw [hstep] at hrun
      exact hrun
    · have hrun := runFrom_of_ok hfirst (congrArg Prod.fst hstep) b
      rw [hstep] at hrun
      exact hrun
    · rw [hlong]
      exact runAtMost_ne hb

/-- Two idle instructions with a breakpoint at the second one. Two runs of one step each execute
    both, and one run of two steps stops in between. -/
theorem run_split_atBreakpoint : 0 < 1 ∧ (∀ n ∈ [1, 1], 0 < n) ∧ ∃ s t : Monitor,
    s.run 0 (some 1) = (.ok .limitReached, t) ∧ t.atBreakpoint = true ∧
    s.run 0 (some 2) = (.ok (.breakpoint 0xBFC00004), t) ∧
    t.run 0 (some 1) = (.ok .limitReached, t.step.2) ∧ t.run 0 (some 1) ≠ s.run 0 (some 2) ∧
    s.runChunks 0 [1, 1] ≠ s.run 0 (some [1, 1].sum) := by
  obtain ⟨m, hm⟩ : ∃ m, Memory.ofImage ⟨#[0, 0, 0, 0, 0, 0, 0, 0]⟩ = .ok m :=
    ⟨_, dif_pos (by decide)⟩
  have hone : m.loadWord 0xBFC00000 = .ok 0 := Memory.loadWord_of_ofImage hm (by decide) (by rfl)
  have htwo : m.loadWord 0xBFC00004 = .ok 0 := Memory.loadWord_of_ofImage hm (by decide) (by rfl)
  let s : Monitor := (ofMemory m).addBreakpoint 0xBFC00004
  let t : Monitor := { s with machine := ⟨(Cpu.powerOn.advance ⟨0⟩).commit, m⟩, cycles := 1 }
  have hfirst : s.step = (.ok (), t) := step_of_ok (Machine.cycle_idle hone)
  have hsecond : t.step = (.ok (), t.step.2) :=
    step_eq_of_ok (congrArg Prod.fst (step_of_ok (s := t) (Machine.cycle_idle htwo)))
  have hrun : s.run 0 (some 1) = (.ok .limitReached, t) := by
    have hstarts : false = true → ¬ s.breakpoints.contains s.pc = true := nofun
    refine (runFrom_of_ok hstarts (congrArg Prod.fst hfirst) 0).trans ?_
    rw [hfirst]
    rfl
  have hbreakpoint : t.atBreakpoint = true := by
    have hset : s.breakpoints = Breakpoints.empty.insert 0xBFC00004 := rfl
    show s.breakpoints.contains 0xBFC00004 = true
    rw [hset]
    decide
  have hpos : ∀ n ∈ [1, 1], 0 < n := by decide
  obtain ⟨hsplit, hchunks⟩ := run_split s 0
  obtain ⟨-, -, -, hlimit⟩ := hsplit 1 1 Nat.one_pos Nat.one_pos
  obtain ⟨-, -, hstop⟩ := hlimit t hrun
  obtain ⟨hlong, -, hgo, hne⟩ := hstop hbreakpoint
  refine ⟨Nat.one_pos, hpos, s, t, hrun, hbreakpoint, hlong, hgo _ hsecond, hne, fun h => ?_⟩
  have hseamless := (hchunks [1, 1] hpos).1 h
  have haway := hseamless [1] [1] t rfl (by decide) (by decide)
    (runChunks_cons_of_limitReached hrun [])
  rw [hbreakpoint] at haway
  cases haway

end Monitor

end R3000
