import R3000.Pattern.Form
import R3000.Text.Blank

/-!
Options of a pattern's text: what its characters stand for, and which blanks in it count. Options
are switched on and off inside the text. Main statement: skipping a gap never lengthens the rest.
-/

namespace R3000.Pattern

/-- The options in force at a place of a pattern's text. -/
structure Options where
  /-- the cases of a letter are the same -/
  ignoreCase : Bool := false
  /-- the signs for the ends of the text stand for the ends of each line -/
  multiLine : Bool := false
  /-- the dot stands for line ends too -/
  dotAll : Bool := false
  /-- carriage returns end lines -/
  returns : Bool := false
  /-- classes and words are of all scripts, or of ASCII -/
  scripts : Bool := true
  /-- repetitions are for the shortest match, and for the longest one with a question mark -/
  swapGreed : Bool := false
  /-- blanks and comments in the text do not count -/
  spaced : Bool := false
  deriving Repr, DecidableEq

namespace Options

/-- Switches the option of a letter. -/
def switch? (o : Options) (on : Bool) : Char → Option Options
  | 'i' => some { o with ignoreCase := on }
  | 'm' => some { o with multiLine := on }
  | 's' => some { o with dotAll := on }
  | 'R' => some { o with returns := on }
  | 'u' => some { o with scripts := on }
  | 'x' => some { o with spaced := on }
  | 'U' => some { o with swapGreed := on }
  | _ => none

/-- Switches the options of letters, off behind a minus sign. -/
def switchAll? (o : Options) (on : Bool) : List Char → Option Options
  | [] => some o
  | '-' :: s => o.switchAll? false s
  | c :: s => (o.switch? on c).bind (·.switchAll? on s)

/-- Reads switches: each letter at most once, and a minus sign at most once and not at the end. -/
def read? (o : Options) (s : List Char) : Option Options :=
  if s.Nodup ∧ s.getLast? ≠ some '-' then o.switchAll? true s else none

/-- Drops blanks and comments; a comment runs from a number sign to the end of the line. -/
def dropBlanks (comment : Bool) : List Char → List Char
  | [] => []
  | c :: s =>
    if comment then dropBlanks (c != '\n') s
    else if Text.isBlank c then dropBlanks false s
    else if c = '#' then dropBlanks true s
    else c :: s

/-- Drops what does not count at the front of a text. -/
def gap (o : Options) (s : List Char) : List Char := if o.spaced then dropBlanks false s else s

/-- The next character that counts. A comment is no gap here: the first character of it counts. -/
def next? (o : Options) (s : List Char) : Option Char :=
  if o.spaced then
    match s.dropWhile Text.isBlank with
    | '#' :: t => (t.dropWhile Text.isBlank).head?
    | t => t.head?
  else s.head?

theorem length_dropBlanks_le (comment : Bool) (s : List Char) :
    (dropBlanks comment s).length ≤ s.length := by
  induction s generalizing comment with
  | nil => simp [dropBlanks]
  | cons c s ih =>
    rw [dropBlanks]
    split
    · exact Nat.le_succ_of_le (ih _)
    · split
      · exact Nat.le_succ_of_le (ih _)
      · split
        · exact Nat.le_succ_of_le (ih _)
        · exact Nat.le_refl _

/-- A gap never lengthens what is left to read. -/
theorem length_gap_le (o : Options) (s : List Char) : (o.gap s).length ≤ s.length := by
  rw [gap]
  split
  · exact length_dropBlanks_le false s
  · exact Nat.le_refl _

/-- The longest run of characters with a property, with gaps between and behind them, and what
    follows. -/
def run (o : Options) (p : Char → Bool) : List Char → List Char × List Char
  | [] => ([], [])
  | c :: s =>
    if p c then (c :: (o.run p (o.gap s)).1, (o.run p (o.gap s)).2) else ([], c :: s)
termination_by s => s.length
decreasing_by all_goals exact Nat.lt_succ_of_le (o.length_gap_le s)

/-! ## What signs stand for -/

/-- The characters that the dot stands for. In ASCII it stands for none: half a character would be
    among them. -/
def dot? (o : Options) : Option CharSet :=
  if !o.scripts then none
  else if o.dotAll then some .all
  else if o.returns then some (.compl (.union (.single '\r') (.single '\n')))
  else some (.compl (.single '\n'))

/-- The start that the circumflex stands for. -/
def start (o : Options) : Look := if o.multiLine then .lineStart o.returns else .textStart

/-- The end that the dollar sign stands for. -/
def stop (o : Options) : Look := if o.multiLine then .lineEnd o.returns else .textEnd

/-- A set as it counts where case may be ignored. Cases are known for ASCII only. -/
def cased (o : Options) (s : CharSet) : CharSet := if o.ignoreCase then s.eitherCase else s

/-- One character of a set. -/
def one (o : Options) (s : CharSet) : Pattern := .ofSet s (!o.scripts)

/-- Whether the cases of all scripts would have to be known. -/
def needsCases (o : Options) : Bool := o.ignoreCase && o.scripts

end Options

end R3000.Pattern
