import ScpiConsole.Session
/-!
# Surroundings

Surroundings that are a value: a disk and a state file on it, the readings of a clock, and all that
the operator was shown. In them a run of the client is a function, whatever stands for the server.

* `Surroundings` : what a run finds and leaves behind
* `Surroundings.answer` : the answer to each effect, given what the server answers
* `Surroundings.output` : all that was written to the operator
-/

namespace ScpiConsole

/-- What was written while nobody was asked for anything. -/
structure Screen where
  out : String := ""
  err : String := ""
  /-- The changes of the terminal between raw (`true`) and not. -/
  switches : List Bool := []
  /-- The input line in the end. -/
  input : String := ""
deriving DecidableEq, Repr, Inhabited

/-- What surrounds a run. `σ` is what stands for the server. -/
structure Surroundings (σ : Type) where
  server : σ
  /-- The state file, or why it cannot be opened. -/
  stored : Except StateError StateFile
  /-- Why the state cannot be written. -/
  fault : Option IoError := none
  disk : Disk := {}
  /-- The readings of the clock, one after the other. -/
  clock : Nat → Timestamp
  /-- The readings of the timer, one after the other. -/
  timer : Nat → Nat := fun _ => 0
  /-- How often clock and timer were read. -/
  readings : Nat := 0
  /-- How many commands the operator lets through before a script has to stop. -/
  patience : Option Nat := none
  clipboard : Except String String := .ok ""
  /-- What was shown, up to each time that the operator was asked. -/
  screens : List Screen := []
  /-- What was written since. -/
  screen : Screen := {}

namespace Surroundings

variable {σ : Type}

/-- The stored value of that name. -/
def value? (w : Surroundings σ) (name : String) : Option Json :=
  match w.stored with
  | .ok file => file.state.get? name
  | .error _ => none

/-- Stores a value. -/
def save (w : Surroundings σ) (name : String) (value : Json) :
    Except StateError Unit × Surroundings σ :=
  match w.stored, w.fault with
  | .error e, _ => (.error e, w)
  | .ok _, some cause => (.error (.io cause), w)
  | .ok file, none =>
    let (result, file, disk) := file.set name value w.disk
    (result, { w with stored := .ok file, disk })

/-- Writes a file. -/
def write (w : Surroundings σ) (path text : String) : Except IoError Unit × Surroundings σ :=
  match w.disk.write path.toList (Text.encodeUtf8 text.toList) with
  | .ok disk => (.ok (), { w with disk })
  | .error e => (.error e, w)

/-- Writes to the screen. -/
def onScreen (w : Surroundings σ) (change : Screen → Screen) : Surroundings σ :=
  { w with screen := change w.screen }

/-- The screen is shown, and a new one begins. -/
def turn (w : Surroundings σ) (input : String) : Surroundings σ :=
  { w with screens := w.screens ++ [{ w.screen with input }], screen := {} }

/-- A command has been sent. -/
def sent (w : Surroundings σ) : Surroundings σ := { w with patience := w.patience.map (· - 1) }

/-- A change of the surroundings as an answer. -/
def changing {α : Type} (s : Session) (change : Surroundings σ → α × Surroundings σ) :
    StateM (Surroundings σ) (Session × α) := do
  let a ← modifyGet change
  pure (s, a)

/-- The answer to an effect. `serve` answers for the server, and may work on the session
meanwhile. -/
def answer (serve : Session → (r : Request) →
      StateM (Surroundings σ) (Session × Except ServerError r.Answer)) (s : Session) :
    (e : Effect) → StateM (Surroundings σ) (Session × e.Answer)
  | .request (.send scpi c) => do
    let reply ← serve s (.send scpi c)
    modify sent
    pure reply
  | .request r => serve s r
  | .openState => changing s fun w => (w.stored.map fun _ => (), w)
  | .load slot => changing s fun w => (w.value? slot.name, w)
  | .save slot value => changing s fun w => w.save slot.name value
  | .now => changing s fun w => (w.clock w.readings, { w with readings := w.readings + 1 })
  | .uptime => changing s fun w => (w.timer w.readings, { w with readings := w.readings + 1 })
  | .cancelled => changing s fun w => (w.patience = some 0, w)
  | .readBytes path => changing s fun w => (w.disk.read path.toList, w)
  | .writeText path text => changing s fun w => w.write path text
  | .clipboard => changing s fun w => (w.clipboard, w)
  | .print text => changing s fun w => ((), w.onScreen fun c => { c with out := c.out ++ text })
  | .complain text => changing s fun w => ((), w.onScreen fun c => { c with err := c.err ++ text })
  | .rawMode on =>
    changing s fun w => ((), w.onScreen fun c => { c with switches := c.switches ++ [on] })
  | .await => changing s fun w => ((), w.turn s.line.text)

/-- All that was written to the operator: the output, and what was apart from it. -/
def output (w : Surroundings σ) : String × String :=
  let all := w.screens ++ [w.screen]
  (String.join (all.map Screen.out), String.join (all.map Screen.err))

end Surroundings

end ScpiConsole
