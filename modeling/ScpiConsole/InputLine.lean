import ScpiConsole.History
import ScpiConsole.Completion.Insertion
/-!
# The input line

* `InputLine` : the text, what an accepted completion left behind, and the history
* `press`, `type`, `accept`, `cleared` : what the operator does to it
* `candidates` : the completions on offer
-/

namespace ScpiConsole

/-- What the operator is typing. -/
structure InputLine where
  text : String := ""
  sticky : Sticky := {}
  history : History := {}
deriving Repr, Inhabited

namespace InputLine

/-- The line with another text, if there is one. -/
def showing (l : InputLine) (text : Option String) : InputLine :=
  { l with text := text.getD l.text }

/-- What a key does to text and cursor. The ends of the text are the only place to type. -/
def edit (l : InputLine) : Key → InputLine
  | .up => let (history, text) := l.history.up l.text; { l with history }.showing text
  | .down => let (history, text) := l.history.down; { l with history }.showing text
  | .char c => if Text.isControl c then l else { l with text := l.text.push c }
  | .backspace => { l with text := .ofList l.text.toList.dropLast }
  | _ => l

/-- One keystroke. -/
def press (l : InputLine) (key : Key) : InputLine :=
  let l := l.edit key
  { l with
    history := l.history.onKey key
    sticky := if key.keepsSticky then l.sticky else {} }

/-- The characters of a text, one keystroke each. -/
def type (l : InputLine) (text : String) : InputLine :=
  text.toList.foldl (fun l c => l.press (.char c)) l

/-- The empty line, with the history not browsed. -/
def cleared (l : InputLine) : InputLine := { history := l.history.resetCursor }

/-- The completions of the text. -/
def candidates (l : InputLine) (grammar : Option Grammar) : List Candidate :=
  Completion.candidates grammar l.text l.history.browsing l.sticky

/-- The line with a completion in it. -/
def accept (l : InputLine) (candidate : Candidate) (short : Bool) : InputLine :=
  let (text, sticky) := Completion.insert l.text candidate short
  { l with text, sticky }

end InputLine

end ScpiConsole
