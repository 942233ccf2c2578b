import ScpiConsole.Prompt.Press
import ScpiConsole.Prompt.Screen
import ScpiConsole.Shell
/-!
# The prompt

On a terminal the shell sees every key, shows completions as one types, and executes a line when it
is entered. Keys come one by one while the terminal is raw, and lines are executed while it is not.

* `Event` : what the terminal tells
* `step` : what one event does
* `run` : the prompt from its start to its end
-/

namespace ScpiConsole.Prompt

open Session

/-- What the terminal tells. -/
inductive Event where
  | key (press : Press)
  /-- Anything but a key. -/
  | other
deriving DecidableEq, Repr

/-- What an event leads to. -/
inductive Turn where
  | ignored
  /-- The screen is drawn anew. -/
  | shown (highlight : Option Nat)
  | left
  | failed (cause : Failure)

def rawMode (on : Bool) : Act Session Unit := Act.perform (.rawMode on)

def print (text : String) : Act Session Unit := Act.perform (.print text)

/-- Shows input and completions. -/
def redraw (highlight : Option Nat) : Act Session Unit := do
  let s ← get
  let labels := (s.line.candidates s.grammar).map (·.label s.preferences.preferShortScpi)
  print (draw Shell.prompt s.line.text labels highlight)

/-- Changes the input line. -/
def changeLine (change : InputLine → InputLine) : Act Session Unit :=
  modify fun s => { s with line := change s.line }

/-- Accepts a completion. -/
def accept (candidate : Candidate) : Act Session Unit :=
  modify fun s => { s with line := s.line.accept candidate s.preferences.preferShortScpi }

/-- The only completion is accepted, of several the next is marked. -/
def complete (highlight : Option Nat) : Act Session Turn := do
  let s ← get
  match s.line.candidates s.grammar with
  | [only] =>
    accept only
    pure (.shown none)
  | candidates => pure (.shown (nextHighlight highlight candidates.length))

/-- The marked completion is accepted. -/
def acceptMarked (i : Nat) : Act Session Turn := do
  let s ← get
  match (s.line.candidates s.grammar)[i]? with
  | some candidate =>
    accept candidate
    pure (.shown none)
  | none => pure (.shown none)

/-- The line is executed. -/
def enter : Act Session Turn := do
  let s ← get
  let text := s.line.text
  set { s with line := s.line.cleared }
  print (draw Shell.prompt text [] none)
  print "\r\n"
  rawMode false
  let flow ← Shell.execute text
  Shell.tellNotices
  rawMode true
  match flow with
  | .error cause => pure (.failed cause)
  | .ok .quit => pure .left
  | .ok .goOn => pure (.shown none)

/-- The input is dropped, or the prompt is left when there is none. -/
def interrupt : Act Session Turn := do
  let s ← get
  set { s with line := s.line.cleared }
  pure (if s.line.text.isEmpty then .left else .shown none)

/-- What an action does while a completion may be marked. -/
def carryOut (highlight : Option Nat) : Action → Act Session Turn
  | .ignore => pure .ignored
  | .quit => pure .left
  | .interrupt => interrupt
  | .edit key => do
    changeLine (·.press key)
    pure (.shown none)
  | .complete => complete highlight
  | .submit =>
    match highlight with
    | some i => acceptMarked i
    | none => enter

/-- What one event does. -/
def step (highlight : Option Nat) : Event → Act Session Turn
  | .key press => carryOut highlight press.action
  | .other => pure .ignored

/-- Follows events up to one that leaves the prompt. An error stands for a terminal that could not
be read. -/
def follow (highlight : Option Nat) : List (Except String Event) → Act Session (Except Failure Unit)
  | [] => do
    Act.perform .await
    print "\r\n"
    pure (.ok ())
  | .error problem :: _ => do
    Act.perform .await
    pure (.error (.terminal problem))
  | .ok event :: rest => do
    Act.perform .await
    match ← step highlight event with
    | .ignored => follow highlight rest
    | .shown highlight => do
      redraw highlight
      follow highlight rest
    | .left => do
      print "\r\n"
      pure (.ok ())
    | .failed cause => pure (.error cause)

/-- The prompt, over all that the terminal tells. -/
def run (events : List (Except String Event)) : Act Session (Except Failure Unit) := do
  rawMode true
  redraw none
  let result ← follow none events
  rawMode false
  pure result

end ScpiConsole.Prompt
