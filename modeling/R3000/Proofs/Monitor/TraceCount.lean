import Mathlib.Data.List.DropRight
import R3000.Proofs.Monitor.Tracing

/-!
The count of a trace, against the lines that it writes. The count is of attempts, and one more than
the limit once that is exceeded; a reset sets it to zero and leaves the tracer as it is, on or off.
Main statement: `traceCount_eq_iff`, when the count is the number of lines written since the last
reset.
-/

namespace R3000

/-! ### Tracings with a past -/

namespace Tracing

variable {t : Tracing} {limit : Nat} {ms : List Machine}

/-- A tracing behind earlier lines, on a tracer that may be off. -/
def resumed (on : Bool) (earlier : Array TraceLine) (t : Tracing) : Tracing where
  tracer := ⟨on && t.tracer.enabled, if on then earlier ++ t.tracer.lines else earlier⟩
  limit := t.limit
  count := t.count

theorem attempt_resumed (on : Bool) (earlier : Array TraceLine) (t : Tracing) (s : Machine) :
    (t.resumed on earlier).attempt s = (t.attempt s).resumed on earlier := by
  obtain ⟨⟨enabled, lines⟩, limit, count⟩ := t
  unfold attempt resumed
  dsimp only
  split
  next => split <;> cases on <;> rfl
  next =>
    cases on with
    | false => rfl
    | true =>
      cases enabled with
      | false => rfl
      | true => cases h : s.traceLine Tracer.defaultRegisters <;> simp [Tracer.trace, h]

/-- What a tracing with earlier lines holds is what one without them holds, behind these. -/
theorem foldl_resumed (on : Bool) (earlier : Array TraceLine) (t : Tracing) (ms : List Machine) :
    ms.foldl attempt (t.resumed on earlier) = (ms.foldl attempt t).resumed on earlier :=
  List.foldl_hom (resumed on earlier) fun t s => attempt_resumed on earlier t s

/-- A tracing whose count is zero is a new one behind the lines that it has. -/
theorem eq_resumed_start (h : t.count = 0) :
    t = (start t.limit).resumed t.tracer.enabled t.tracer.lines := by
  obtain ⟨⟨enabled, lines⟩, limit, count⟩ := t
  obtain rfl : count = 0 := h
  cases enabled <;> simp [resumed, start]

/-- A trace has a line for each attempt as long as there is room and every instruction can be
    fetched. -/
theorem size_lines_eq_iff (h : t.Follows limit ms) : t.tracer.lines.size = t.count ↔
    (limit = 0 ∨ ms.length ≤ limit) ∧ ∀ s ∈ ms, s.attemptLine?.isSome := by
  obtain ⟨-, hcount, -, hlines⟩ := h
  have hsome (s : Machine) : s.attemptLine?.isSome =
      (s.traceLine Tracer.defaultRegisters).toOption.isSome := by
    rw [← s.map_written_traceLine, Option.isSome_map]
  rw [← Array.length_toList, hlines, hcount]
  by_cases hroom : limit = 0 ∨ ms.length ≤ limit
  · have hall : (if limit = 0 then ms.length else min ms.length (limit + 1)) = ms.length := by
      split <;> omega
    rw [followed_of_room hroom, hall, List.filterMap_length_eq_length]
    simp only [hroom, hsome, true_and]
  · -- the count goes beyond the limit, and the lines do not
    obtain ⟨hpos, hfull⟩ := not_or.1 hroom
    have hle := List.length_filterMap_le
      (fun s : Machine => (s.traceLine Tracer.defaultRegisters).toOption) (followed limit ms)
    rw [followed, if_neg hpos, List.length_take] at hle
    rw [followed, if_neg hpos, if_neg hpos]
    exact iff_of_false (by omega) fun h => hroom h.1

theorem count_eq_zero_iff (h : t.Follows limit ms) : t.count = 0 ↔ ms = [] := by
  rw [h.count_eq, ← List.length_eq_zero_iff]
  split <;> omega

/-! ### When a tracer is on -/

/-- A tracer that is on has not counted beyond its limit. -/
def Latched (t : Tracing) : Prop :=
  t.tracer.enabled = true → t.limit = 0 ∨ t.count ≤ t.limit

/-- An attempt leaves a tracer on if it does not count beyond the limit. -/
theorem enabled_attempt (h : t.Latched) (s : Machine) :
    (t.attempt s).limit = t.limit ∧ t.count ≤ (t.attempt s).count ∧
      ((t.attempt s).tracer.enabled = true ↔
        t.tracer.enabled = true ∧ (t.limit = 0 ∨ (t.attempt s).count ≤ t.limit)) := by
  by_cases hroom : t.limit = 0 ∨ t.count < t.limit
  · rw [attempt_of_room hroom, Tracer.enabled_trace]
    refine ⟨rfl, Nat.le_succ t.count, (and_iff_left ?_).symm⟩
    exact hroom.imp_right Nat.succ_le_of_lt
  · obtain ⟨hpos, hfull⟩ := not_or.1 hroom
    by_cases hlast : t.count = t.limit
    · rw [attempt_of_full hpos hlast]
      refine ⟨rfl, Nat.le_succ t.count, iff_of_false nofun ?_⟩
      dsimp only
      omega
    · -- the tracer is off already
      rw [attempt_of_beyond hpos (by omega)]
      exact ⟨rfl, Nat.le_refl t.count, fun hon => ⟨hon, h hon⟩, fun hon => hon.1⟩

theorem enabled_foldl (h : t.Latched) (ms : List Machine) :
    (ms.foldl attempt t).limit = t.limit ∧ t.count ≤ (ms.foldl attempt t).count ∧
      ((ms.foldl attempt t).tracer.enabled = true ↔
        t.tracer.enabled = true ∧ (t.limit = 0 ∨ (ms.foldl attempt t).count ≤ t.limit)) := by
  induction ms generalizing t with
  | nil => exact ⟨rfl, Nat.le_refl _, fun hon => ⟨hon, h hon⟩, fun hon => hon.1⟩
  | cons s ms ih =>
    obtain ⟨hlimit, hcount, hon⟩ := enabled_attempt h s
    have hnext : (t.attempt s).Latched := fun h => hlimit ▸ (hon.1 h).2
    obtain ⟨hlimit', hcount', hon'⟩ := ih hnext
    rw [hlimit] at hlimit' hon'
    refine ⟨hlimit', Nat.le_trans hcount hcount', ?_⟩
    rw [List.foldl_cons, hon', hon, and_assoc]
    refine and_congr_right fun _ => and_iff_right_of_imp fun hend => ?_
    exact hend.imp_right (Nat.le_trans hcount')

end Tracing

/-! ### Calls -/

namespace Monitor

/-- The number of lines that the tracer has written. -/
def linesWritten (s : Monitor) : Nat := (s.tracing.map fun t => t.tracer.lines.size).getD 0

/-- The calls up to the last reset, which is the last of them. -/
def throughReset (xs : List Call) : List Call := xs.rdropWhile (· != .reset)

/-- The calls behind the last reset. -/
def sinceReset (xs : List Call) : List Call := xs.rtakeWhile (· != .reset)

theorem after_sinceReset (s : Monitor) (xs : List Call) :
    Run.after call (Run.after call s (throughReset xs)) (sinceReset xs) = Run.after call s xs := by
  have hsplit : throughReset xs ++ sinceReset xs = xs := List.rdropWhile_append_rtakeWhile
  rw [Run.after, Run.after, ← List.foldl_append, hsplit]
  rfl

theorem traceCount_of_tracing {s : Monitor} {t : Tracing} (h : s.tracing = some t) :
    s.traceCount = t.count := by
  rw [traceCount, h]
  rfl

theorem linesWritten_of_tracing {s : Monitor} {t : Tracing} (h : s.tracing = some t) :
    s.linesWritten = t.tracer.lines.size := by
  rw [linesWritten, h]
  rfl

theorem after_concat (s : Monitor) (xs : List Call) (x : Call) :
    Run.after call s (xs ++ [x]) = ((Run.after call s xs).call x).2 := List.foldl_append ..

/-- A tracer that calls leave on has never counted beyond its limit, and one that has never done so
    is left on. -/
theorem enabled_after (s : Monitor) (limit : Nat) {xs : List Call}
    (hxs : ∀ x ∈ xs, x = .reset ∨ x.keepsTracing) :
    ∃ t, (Run.after call (s.enableTracing true limit).2 xs).tracing = some t ∧ t.limit = limit ∧
      (t.tracer.enabled = true ↔ limit = 0 ∨
        ∀ ys, ys <+: xs →
          (Run.after call (s.enableTracing true limit).2 ys).traceCount ≤ limit) := by
  induction xs using List.reverseRecOn with
  | nil =>
    refine ⟨.start limit, rfl, rfl, iff_of_true rfl (.inr fun ys hys => ?_)⟩
    rw [List.prefix_nil.1 hys]
    exact Nat.zero_le limit
  | append_singleton xs x ih =>
    obtain ⟨hxs, hx⟩ := List.forall_mem_append.1 hxs
    obtain ⟨t, ht, hlimit, hon⟩ := ih hxs
    have hlatched : t.Latched := by
      intro h
      rw [hlimit, ← traceCount_of_tracing ht]
      exact (hon.1 h).imp_right fun h => h xs List.prefix_rfl
    simp only [List.prefix_concat_iff, or_imp, forall_and, forall_eq]
    rcases hx x (List.mem_singleton_self x) with rfl | hx
    · -- a reset leaves the tracer as it is
      have hreset : (Run.after call (s.enableTracing true limit).2 (xs ++ [.reset])).tracing =
          some { t with count := 0 } := by
        rw [after_concat]
        exact congrArg (Option.map _) ht
      refine ⟨_, hreset, hlimit, hon.trans ?_⟩
      rw [traceCount_of_tracing hreset]
      exact or_congr_right (and_iff_right (Nat.zero_le limit)).symm
    · obtain ⟨ms, hms⟩ : ∃ ms, ms = (Run.after call (s.enableTracing true limit).2 xs).attempts x :=
        ⟨_, rfl⟩
      have hsteps : (Run.after call (s.enableTracing true limit).2 (xs ++ [x])).tracing =
          some (ms.foldl Tracing.attempt t) := by
        rw [after_concat, tracing_call hx, ht, hms]
        rfl
      obtain ⟨hlimit', -, hon'⟩ := Tracing.enabled_foldl hlatched ms
      refine ⟨_, hsteps, hlimit'.trans hlimit, ?_⟩
      rw [hon', hon, hlimit, traceCount_of_tracing hsteps, or_and_left, and_comm]

theorem throughReset_cases (xs : List Call) :
    throughReset xs = [] ∨ ∃ ys, throughReset xs = ys ++ [.reset] := by
  induction xs using List.reverseRecOn with
  | nil => exact .inl rfl
  | append_singleton xs x ih =>
    by_cases hx : x = .reset
    · subst hx
      exact .inr ⟨xs, List.rdropWhile_concat_neg _ _ _ (by decide)⟩
    · have hdrop : throughReset (xs ++ [x]) = throughReset xs :=
        List.rdropWhile_concat_pos _ _ _ (bne_iff_ne.2 hx)
      rwa [hdrop]

/-- The count is zero behind a reset, and in front of all calls. -/
theorem traceCount_throughReset (s : Monitor) (limit : Nat) (xs : List Call) :
    (Run.after call (s.enableTracing true limit).2 (throughReset xs)).traceCount = 0 := by
  rcases throughReset_cases xs with h | ⟨ys, h⟩
  · rw [h]
    rfl
  · rw [h, after_concat]
    show traceCount (reset _) = 0
    rw [traceCount, reset, Option.map_map]
    cases (Run.after call (s.enableTracing true limit).2 ys).tracing <;> rfl

/-- Behind a reset the trace goes on as a new one would, behind the lines that it has. -/
theorem exists_resumed (s : Monitor) (limit : Nat) {xs : List Call}
    (hxs : ∀ x ∈ xs, x = .reset ∨ x.keepsTracing) :
    let u := Run.after call (s.enableTracing true limit).2 (throughReset xs)
    ∃ t r : Tracing, u.tracing = some t ∧ r.Follows limit (u.attemptsOver (sinceReset xs)) ∧
      (Run.after call (s.enableTracing true limit).2 xs).tracing =
        some (r.resumed t.tracer.enabled t.tracer.lines) := by
  intro u
  have hpre : ∀ x ∈ throughReset xs, x = .reset ∨ x.keepsTracing := fun x hx =>
    hxs x ((List.rdropWhile_prefix _ xs).subset hx)
  have hpost : ∀ x ∈ sinceReset xs, x.keepsTracing := by
    intro x hx
    have hsince : x ∈ List.rtakeWhile (fun x => x != Call.reset) xs := hx
    have hne : x ≠ .reset := by simpa using List.mem_rtakeWhile_imp hsince
    exact (hxs x ((List.rtakeWhile_suffix _ xs).subset hx)).resolve_left hne
  obtain ⟨t, ht, hlimit, -⟩ := enabled_after s limit hpre
  have hzero : t.count = 0 :=
    (traceCount_of_tracing ht).symm.trans (traceCount_throughReset s limit xs)
  have hnew : t = (Tracing.start limit).resumed t.tracer.enabled t.tracer.lines :=
    hlimit ▸ Tracing.eq_resumed_start hzero
  obtain ⟨r, hr⟩ : ∃ r, r = (u.attemptsOver (sinceReset xs)).foldl Tracing.attempt (.start limit) :=
    ⟨_, rfl⟩
  have hfold : (u.attemptsOver (sinceReset xs)).foldl Tracing.attempt t =
      r.resumed t.tracer.enabled t.tracer.lines := by
    rw [hr, ← Tracing.foldl_resumed, ← hnew]
  have hv := tracing_calls (s := u) hpost
  rw [after_sinceReset, ht, Option.map_some, hfold] at hv
  exact ⟨t, r, ht, hr ▸ Tracing.follows_foldl .., hv⟩

/-- What the count of a trace is, after calls that step, reset, or do something else than to start
    or end a trace. It is the number of attempts since the last reset, as long as these do not
    exceed the limit, and one more than the limit if they do. It is the number of lines written
    since then in just two cases. Either nothing has been attempted since; or the count has never
    gone beyond the limit, before the reset as little as behind it, and every instruction could be
    fetched. -/
theorem traceCount_eq_iff (s : Monitor) (limit : Nat) (xs : List Call)
    (hxs : ∀ x ∈ xs, x = .reset ∨ x.keepsTracing) :
    let start := (s.enableTracing true limit).2
    let u := Run.after call start (throughReset xs)
    let v := Run.after call start xs
    let ms := u.attemptsOver (sinceReset xs)
    v.traceCount = (if limit = 0 then ms.length else min ms.length (limit + 1)) ∧
      (limit ≠ 0 → (limit < v.traceCount ↔ limit < ms.length)) ∧
      (v.linesWritten = u.linesWritten + v.traceCount ↔ ms = [] ∨
        (limit = 0 ∨ ∀ ys, ys <+: xs → (Run.after call start ys).traceCount ≤ limit) ∧
          ∀ m ∈ ms, m.attemptLine?.isSome) := by
  intro start u v ms
  obtain ⟨t, r, ht, (hfollows : r.Follows limit ms), hv⟩ := exists_resumed s limit hxs
  have hcount : v.traceCount = r.count := (traceCount_of_tracing hv).trans rfl
  have hlines : v.linesWritten =
      if t.tracer.enabled then u.linesWritten + r.tracer.lines.size else u.linesWritten := by
    rw [linesWritten_of_tracing hv, linesWritten_of_tracing ht, Tracing.resumed]
    split <;> simp
  obtain ⟨t', ht', -, hon⟩ := enabled_after s limit hxs
  obtain rfl := Option.some.inj (ht'.symm.trans hv)
  refine ⟨hcount.trans hfollows.count_eq, fun hpos => ?_, ?_⟩
  · rw [hcount, hfollows.count_eq, if_neg hpos]
    omega
  · rw [← hon, hlines, hcount, Tracing.resumed]
    dsimp only
    cases t.tracer.enabled with
    | false =>
      -- nothing is written, so the count has to be zero
      have hempty := Tracing.count_eq_zero_iff hfollows
      simpa using hempty
    | true =>
      rw [if_pos rfl, Nat.add_left_cancel_iff, Tracing.size_lines_eq_iff hfollows, Bool.true_and,
        hfollows.enabled_iff]
      refine (or_iff_right_of_imp fun hempty => ?_).symm
      simp [hempty]

/-- With a limit of one line the first step is counted and written. A second one switches the tracer
    off, so the count starts again at a reset and the lines do not. -/
theorem traceCount_eq_iff_limitOne : ∃ m, Memory.ofImage ⟨#[]⟩ = .ok m ∧
    let start := ((ofMemory m).enableTracing true 1).2
    let calls := [.step, .step, .reset, .step]
    (∀ x ∈ calls, x = .reset ∨ x.keepsTracing) ∧
    (Run.after call start [.step]).traceCount = 1 ∧
    (Run.after call start [.step]).linesWritten = 1 ∧
    (Run.after call start calls).traceCount = 1 ∧
    (Run.after call start calls).linesWritten ≠
      (Run.after call start [.step, .step, .reset]).linesWritten + 1 := by
  obtain ⟨m, hm⟩ : ∃ m, Memory.ofImage ⟨#[]⟩ = .ok m := ⟨_, dif_pos (by decide)⟩
  have hw : m.loadWord 0xBFC00000 = .ok 0 := Memory.loadWord_of_ofImage hm (by decide) (by rfl)
  obtain ⟨hone, -, hwritten⟩ := traceCount_eq_iff (ofMemory m) 1 [.step] (by decide)
  have htwo :
      (Run.after call ((ofMemory m).enableTracing true 1).2 [.step, .step]).traceCount = 2 :=
    (traceCount_eq_iff (ofMemory m) 1 [.step, .step] (by decide)).1
  obtain ⟨hagain, -, hnone⟩ :=
    traceCount_eq_iff (ofMemory m) 1 [.step, .step, .reset, .step] (by decide)
  refine ⟨m, hm, by decide, hone, ?_, hagain, fun h => ?_⟩
  · refine (hwritten.2 (.inr ⟨.inr fun ys hys => ?_, fun t ht => ?_⟩)).trans ?_
    · cases ys with
      | nil => exact Nat.zero_le 1
      | cons y ys =>
        obtain ⟨rfl, hnil⟩ := List.cons_prefix_cons.1 hys
        obtain rfl := List.prefix_nil.1 hnil
        exact hone.le
    · obtain rfl : t = .powerOn m := List.mem_singleton.1 ht
      have hfetched : (Machine.powerOn m).memory.loadWord (Machine.powerOn m).cpu.pc = .ok 0 := hw
      rw [Machine.attemptLine?, hfetched]
      rfl
    · rw [hone]
      rfl
  · rcases hnone.1 (h.trans (congrArg _ hagain.symm)) with hempty | ⟨hpos | hcount, -⟩
    · cases hempty
    · cases hpos
    · have hle := hcount [.step, .step] ⟨[.reset, .step], rfl⟩
      rw [htwo] at hle
      exact absurd hle (by decide)

/-- The second step writes nothing, and the count goes beyond the limit. -/
theorem traceCount_beyond_limit : ∃ m, Memory.ofImage ⟨#[]⟩ = .ok m ∧
    let v := Run.after call ((ofMemory m).enableTracing true 1).2 [.step, .step]
    v.traceCount = 2 ∧ v.linesWritten = 1 := by
  obtain ⟨m, hm⟩ : ∃ m, Memory.ofImage ⟨#[]⟩ = .ok m := ⟨_, dif_pos (by decide)⟩
  have hw : m.loadWord 0xBFC00000 = .ok 0 := Memory.loadWord_of_ofImage hm (by decide) (by rfl)
  obtain ⟨l, hl⟩ : ∃ l, (Machine.powerOn m).traceLine Tracer.defaultRegisters = .ok l := by
    have hfetched : (Machine.powerOn m).memory.loadWord (Machine.powerOn m).cpu.pc = .ok 0 := hw
    rw [Machine.traceLine, hfetched]
    exact ⟨_, rfl⟩
  have hfirst : (Tracing.start 1).attempt (Machine.powerOn m) = ⟨⟨true, #[l]⟩, 1, 1⟩ := by
    simp [Tracing.start, Tracing.attempt, Tracer.trace, hl]
  have htracing : (Run.after call ((ofMemory m).enableTracing true 1).2 [.step, .step]).tracing =
      some ⟨⟨false, #[l]⟩, 1, 2⟩ := by
    have hstep : (((ofMemory m).enableTracing true 1).2.step.2).tracing =
        some ⟨⟨true, #[l]⟩, 1, 1⟩ := by
      rw [tracing_step, ← hfirst]
      rfl
    show ((ofMemory m).enableTracing true 1).2.step.2.step.2.tracing = _
    rw [tracing_step, hstep]
    rfl
  exact ⟨m, hm, traceCount_of_tracing htracing, linesWritten_of_tracing htracing⟩

end Monitor

end R3000
