import Mathlib.Algebra.Group.Nat.Defs
import R3000.Proofs.Text.Numeral
import R3000.Runner.Arguments

/-!
Layers of settings. A setting comes from the first layer that gives it: the command line, then a
variable that is not empty, then the file. Breakpoints add up, and only a file gives a log level. A
variable with a malformed count ends the run even where the command line gives a count of its own.
Main statement: what settings a run gets, why it gets none, and what variables change before one of
them turns out to be malformed.
-/

namespace R3000.Settings

/-! ### Counts in text -/

/-- Whether a text is a decimal numeral of a number that fits 64 bits, behind a plus sign or none,
    between blanks. -/
def IsCount (text : String) (n : Nat) : Prop :=
  n < 2 ^ 64 ∧ ∃ before after, ∃ sign ∈ Text.signs, ∃ digits,
    text.toList = before ++ (sign ++ digits) ++ after ∧
    (∀ c ∈ before, Text.isBlank c = true) ∧ (∀ c ∈ after, Text.isBlank c = true) ∧
    Text.IsNumeral 10 n digits

theorem isBlank_of_mem_count {n : Nat} {sign digits : List Char} {c : Char}
    (hsign : sign ∈ Text.signs) (hdigits : Text.IsNumeral 10 n digits)
    (hc : c ∈ sign ++ digits) : Text.isBlank c = false := by
  rcases List.mem_append.1 hc with hc | hc
  · rcases Text.mem_signs_iff.1 hsign with rfl | rfl
    · cases hc
    · obtain rfl := List.mem_singleton.1 hc
      rfl
  · exact Text.isBlank_of_mem_isNumeral (by decide) (by decide) hdigits hc

/-- The texts of counts are those that are read. -/
theorem parseCount_eq_some_iff {text : String} {n : Nat} :
    parseCount text = some n ↔ IsCount text n := by
  rw [parseCount, Text.unsigned?_eq_some_iff (by decide) (by decide)]
  constructor
  · rintro ⟨hlt, sign, hsign, digits, htrim, hdigits⟩
    obtain ⟨before, after, htext, hbefore, hafter⟩ := Text.trim_append text.toList
    rw [htrim] at htext
    exact ⟨hlt, before, after, sign, hsign, digits, htext, hbefore, hafter, hdigits⟩
  · rintro ⟨hlt, before, after, sign, hsign, digits, htext, hbefore, hafter, hdigits⟩
    refine ⟨hlt, sign, hsign, digits, ?_, hdigits⟩
    rw [htext]
    exact Text.trim_eq hbefore hafter fun c => isBlank_of_mem_count hsign hdigits

/-! ### What variables give -/

variable {lookup : String → Option String} {s t : Settings} {text : String}

/-- Whether a variable gives a value: it is present and not empty. -/
def Gives (lookup : String → Option String) (name value : String) : Prop :=
  lookup name = some value ∧ value ≠ ""

/-- Whether the variable for it gives a count. -/
def GivesCount (lookup : String → Option String) (n : Nat) : Prop :=
  ∃ text, Gives lookup instructionsVariable text ∧ IsCount text n

/-- Whether the variable for a count gives a text that is none. -/
def Malformed (lookup : String → Option String) (text : String) : Prop :=
  Gives lookup instructionsVariable text ∧ ∀ n, ¬ IsCount text n

/-- The count that the variable for it gives. -/
def count? (lookup : String → Option String) : Option Nat :=
  (present? lookup instructionsVariable).bind parseCount

theorem present?_eq_some_iff {name value : String} :
    present? lookup name = some value ↔ Gives lookup name value := by
  rw [present?, Option.filter_eq_some_iff, decide_eq_true_iff]
  rfl

theorem count?_eq_some_iff {n : Nat} : count? lookup = some n ↔ GivesCount lookup n := by
  simp only [count?, Option.bind_eq_some_iff, present?_eq_some_iff, parseCount_eq_some_iff,
    GivesCount]

theorem Malformed.unique {text' : String} (h : Malformed lookup text)
    (h' : Malformed lookup text') : text = text' := Option.some.inj (h.1.1.symm.trans h'.1.1)

/-- A malformed count is found after the paths have been taken; otherwise the count is taken too. -/
theorem withVariables_cases (lookup : String → Option String) (s : Settings) :
    (∃ text, Malformed lookup text ∧
      s.withVariables lookup = (.error (.badInstructionCount text), s.withPaths lookup)) ∨
    ((∀ text, ¬ Malformed lookup text) ∧ s.withVariables lookup =
      (.ok (), { s.withPaths lookup with instructions := (count? lookup).or s.instructions })) := by
  unfold withVariables count?
  cases hpresent : present? lookup instructionsVariable with
  | none =>
    refine .inr ⟨fun text h => ?_, rfl⟩
    rw [present?_eq_some_iff.2 h.1] at hpresent
    cases hpresent
  | some text =>
    have hgives := present?_eq_some_iff.1 hpresent
    cases hcount : parseCount text with
    | none =>
      refine .inl ⟨text, ⟨hgives, fun n hn => ?_⟩, ?_⟩
      · rw [parseCount_eq_some_iff.2 hn] at hcount
        cases hcount
      · simp only [hcount]
    | some n =>
      refine .inr ⟨fun text' h => ?_, by simp only [Option.bind_some, hcount, Option.some_or]⟩
      obtain rfl := Option.some.inj (h.1.1.symm.trans hgives.1)
      exact h.2 n (parseCount_eq_some_iff.1 hcount)

/-! ### The first layer that gives a setting -/

/-- A setting from the first of three layers that gives it: an argument, the environment, a file. -/
inductive FromLayers {α : Type} (given : α → Prop) :
    (argument : Option α) → (file : Option α) → Option α → Prop where
  | argument {v : α} {file : Option α} : FromLayers given (some v) file (some v)
  | environment {v : α} {file : Option α} : given v → FromLayers given none file (some v)
  | file {file : Option α} : (∀ v, ¬ given v) → FromLayers given none file file

theorem fromLayers_iff {α : Type} {given : α → Prop} {environment : Option α}
    (hgiven : ∀ v, environment = some v ↔ given v) {argument file value : Option α} :
    FromLayers given argument file value ↔ value = argument.or (environment.or file) := by
  constructor
  · rintro (_ | h | h)
    · rfl
    · rw [(hgiven _).2 h, Option.none_or, Option.some_or]
    · have hnone : environment = none :=
        Option.eq_none_iff_forall_ne_some.2 fun v hv => h v ((hgiven v).1 hv)
      rw [hnone, Option.none_or, Option.none_or]
  · rintro rfl
    cases argument with
    | some v => exact .argument
    | none =>
      cases environment with
      | some v => exact .environment ((hgiven v).1 rfl)
      | none => exact .file fun v hv => absurd ((hgiven v).2 hv) (by simp)

/-- Settings with the paths of the environment on top and all else as it was. -/
structure WithPaths (s : Settings) (lookup : String → Option String) (t : Settings) : Prop where
  bios : FromLayers (Gives lookup biosVariable) none s.bios t.bios
  trace : FromLayers (Gives lookup traceVariable) none s.trace t.trace
  instructions : t.instructions = s.instructions
  breakpoints : t.breakpoints = s.breakpoints
  logLevel : t.logLevel = s.logLevel

/-- Settings with the environment and a command line on top. -/
structure WithLayers (s : Settings) (lookup : String → Option String) (c : CommandLine)
    (t : Settings) : Prop where
  bios : FromLayers (Gives lookup biosVariable) c.bios s.bios t.bios
  trace : FromLayers (Gives lookup traceVariable) c.trace s.trace t.trace
  instructions : FromLayers (GivesCount lookup) c.instructions s.instructions t.instructions
  breakpoints : t.breakpoints = s.breakpoints ++ c.breakpoints
  logLevel : t.logLevel = s.logLevel

section Layers

variable {c : CommandLine}

theorem fromLayers_path_iff {name : String} {argument file value : Option String} :
    FromLayers (Gives lookup name) argument file value ↔
      value = argument.or ((present? lookup name).or file) :=
  fromLayers_iff fun _ => present?_eq_some_iff

theorem fromLayers_count_iff {argument file value : Option Nat} :
    FromLayers (GivesCount lookup) argument file value ↔
      value = argument.or ((count? lookup).or file) :=
  fromLayers_iff fun _ => count?_eq_some_iff

theorem withPaths_iff : WithPaths s lookup t ↔ t = s.withPaths lookup := by
  constructor
  · rintro ⟨hbios, htrace, hinstructions, hbreakpoints, hlevel⟩
    rw [fromLayers_path_iff] at hbios htrace
    cases t
    simp only [withPaths, mk.injEq]
    exact ⟨hbios, hinstructions, htrace, hbreakpoints, hlevel⟩
  · rintro rfl
    exact ⟨fromLayers_path_iff.2 rfl, fromLayers_path_iff.2 rfl, rfl, rfl, rfl⟩

theorem withLayers_iff : WithLayers s lookup c t ↔
    t = { s.withPaths lookup with
      instructions := (count? lookup).or s.instructions }.withCommandLine c := by
  constructor
  · rintro ⟨hbios, htrace, hinstructions, hbreakpoints, hlevel⟩
    rw [fromLayers_path_iff] at hbios htrace
    rw [fromLayers_count_iff] at hinstructions
    cases t
    simp only [withPaths, withCommandLine, mk.injEq]
    exact ⟨hbios, hinstructions, htrace, hbreakpoints, hlevel⟩
  · rintro rfl
    exact ⟨fromLayers_path_iff.2 rfl, fromLayers_path_iff.2 rfl, fromLayers_count_iff.2 rfl, rfl,
      rfl⟩

end Layers

/-! ### Settings of a run -/

theorem withVariables_eq_error_iff {p : SettingsProblem} :
    s.withVariables lookup = (.error p, t) ↔
      (∃ text, Malformed lookup text ∧ p = .badInstructionCount text) ∧ WithPaths s lookup t := by
  rw [withPaths_iff]
  obtain ⟨text, h, heq⟩ | ⟨hnone, heq⟩ := withVariables_cases lookup s
  · rw [heq]
    constructor
    · intro heq
      obtain ⟨hp, rfl⟩ := Prod.mk.inj heq
      exact ⟨⟨text, h, (Except.error.inj hp).symm⟩, rfl⟩
    · rintro ⟨⟨text', h', rfl⟩, rfl⟩
      rw [h.unique h']
  · rw [heq]
    exact iff_of_false nofun fun ⟨⟨text, h, _⟩, _⟩ => hnone text h

section Layered

variable {file : Except Error Settings} {c : CommandLine}

theorem layered_eq_error_iff {e : Error} :
    layered file lookup c = .error e ↔ file = .error e ∨
      (∃ s, file = .ok s) ∧ ∃ text, Malformed lookup text ∧
        e = .settings (.badInstructionCount text) := by
  cases file with
  | error e' => simp [layered]
  | ok s =>
    obtain ⟨text, h, heq⟩ | ⟨hnone, heq⟩ := withVariables_cases lookup s
    · simp only [layered, heq]
      constructor
      · intro he
        exact .inr ⟨⟨s, rfl⟩, text, h, (Except.error.inj he).symm⟩
      · rintro (hfile | ⟨-, text', h', rfl⟩)
        · cases hfile
        · rw [h.unique h']
    · simp only [layered, heq]
      refine iff_of_false nofun ?_
      rintro (hfile | ⟨-, text, h, -⟩)
      · cases hfile
      · exact hnone text h

theorem layered_eq_ok_iff : layered file lookup c = .ok t ↔
    ∃ s, file = .ok s ∧ (∀ text, ¬ Malformed lookup text) ∧ WithLayers s lookup c t := by
  cases file with
  | error e => simp [layered]
  | ok s =>
    simp only [Except.ok.injEq, exists_eq_left', withLayers_iff]
    obtain ⟨text, h, heq⟩ | ⟨hnone, heq⟩ := withVariables_cases lookup s
    · simp only [layered, heq]
      exact iff_of_false nofun fun hnot => hnot.1 text h
    · simp only [layered, heq, Except.ok.injEq]
      exact ⟨fun heq => ⟨hnone, heq.symm⟩, fun heq => heq.2.symm⟩

end Layered

/-- A run gets no settings if its file cannot be loaded or a variable gives a malformed count, and
    otherwise each setting from the first layer that gives it; and variables that fail have set
    paths and nothing else. -/
theorem layered_iff (file : Except Error Settings) (lookup : String → Option String)
    (c : CommandLine) :
    (∀ e, layered file lookup c = .error e ↔ file = .error e ∨
      (∃ s, file = .ok s) ∧ ∃ text, Malformed lookup text ∧
        e = .settings (.badInstructionCount text)) ∧
    (∀ t, layered file lookup c = .ok t ↔
      ∃ s, file = .ok s ∧ (∀ text, ¬ Malformed lookup text) ∧ WithLayers s lookup c t) ∧
    ∀ (s : Settings) p t, s.withVariables lookup = (.error p, t) ↔
      (∃ text, Malformed lookup text ∧ p = .badInstructionCount text) ∧ WithPaths s lookup t :=
  ⟨fun _ => layered_eq_error_iff, fun _ => layered_eq_ok_iff, fun _ _ _ =>
    withVariables_eq_error_iff⟩

/-- A count on the command line does not make up for a malformed one among the variables. -/
example : layered (.ok {}) (fun _ => some "many") { instructions := some 7 } =
    .error (.settings (.badInstructionCount "many")) := by
  rfl

end R3000.Settings
