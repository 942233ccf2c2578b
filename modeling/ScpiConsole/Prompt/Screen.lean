import ScpiConsole.Text.Lines
/-!
# The screen of the prompt

* `nextHighlight` : the candidate that is marked next
* `draw` : what is written to show the input and some candidates
-/

namespace ScpiConsole.Prompt

/-- The candidate marked next: the first one, and behind the last the first again. -/
def nextHighlight (highlight : Option Nat) (candidates : Nat) : Option Nat :=
  if candidates = 0 then none
  else match highlight with
    | none => some 0
    | some i => some ((i + 1) % candidates)

/-- How many candidates are shown at once. -/
def windowSize : Nat := 8

/-- The first candidate shown, so that the marked one is within the window. -/
def windowStart (highlight : Option Nat) : Nat :=
  match highlight with
  | none => 0
  | some i => i + 1 - windowSize

def reversed (label : String) : String := "\x1b[7m" ++ label ++ "\x1b[0m"

def dimmed (label : String) : String := "\x1b[38;5;8m" ++ label ++ "\x1b[39m"

/-- The labels from the `n`-th on, the marked one in reverse. -/
def styled (highlight : Option Nat) (n : Nat) : List String → List String
  | [] => []
  | label :: rest =>
    (if highlight = some n then reversed label else dimmed label) :: styled highlight (n + 1) rest

/-- The window on the candidates, with an ellipsis when some follow it. -/
def window (labels : List String) (highlight : Option Nat) : String :=
  let start := windowStart highlight
  let shown := styled highlight start ((labels.drop start).take windowSize)
  String.join (shown.map (· ++ " ")) ++ if start + windowSize < labels.length then "…" else ""

/-- Input and candidates. The cursor goes back to the end of the input. -/
def draw (prompt input : String) (labels : List String) (highlight : Option Nat) : String :=
  "\x1b[1G\x1b[K" ++ prompt ++ input ++
    if labels.isEmpty then "" else "\x1b7   " ++ window labels highlight ++ "\x1b8"

end ScpiConsole.Prompt
