import ScpiConsole.Act
import ScpiConsole.InputLine
import ScpiConsole.Log
import ScpiConsole.Notification
import ScpiConsole.Preferences
import ScpiConsole.Script
/-!
# Sessions

* `Session` : all that one run of the client knows
* `Mode` : the two ways to send commands, each with a log
* `remember`, `changeLog`, `notify`, `newEntry` : the elementary acts on a session
-/

namespace ScpiConsole

/-- A way to send commands. -/
inductive Mode where
  | interactive
  | script
deriving DecidableEq, Repr

/-- Where the log of a mode is kept. -/
def Mode.slot : Mode → Slot
  | .interactive => .interactiveLog
  | .script => .scriptLog

/-- What one run of the client knows. -/
structure Session where
  server : Server := default
  preferences : Preferences := {}
  /-- What the next command is sent with. -/
  connection : Connection := {}
  grammar : Option Grammar := none
  /-- A command or a script is in flight. -/
  busy : Bool := false
  ids : IdSource := {}
  /-- News that the operator has not seen yet; nothing is kept while nobody listens. -/
  notices : Option (List Notification) := some []
  line : InputLine := {}
  /-- The log of the interactive mode. -/
  log : Log := {}
  /-- The log of the script mode. -/
  scriptLog : Log := {}
  script : Script := {}
  status : RunStatus := .idle
  progress : Progress := .none
deriving Inhabited

namespace Session

def logOf (s : Session) : Mode → Log
  | .interactive => s.log
  | .script => s.scriptLog

def setLog (s : Session) (mode : Mode) (log : Log) : Session :=
  match mode with
  | .interactive => { s with log }
  | .script => { s with scriptLog := log }

@[simp] theorem logOf_setLog (s : Session) (mode : Mode) (log : Log) :
    (s.setLog mode log).logOf mode = log := by cases mode <;> rfl

theorem logOf_setLog_of_ne (s : Session) {mode other : Mode} (h : other ≠ mode) (log : Log) :
    (s.setLog mode log).logOf other = s.logOf other := by
  cases mode <;> cases other <;> first | rfl | exact absurd rfl h

/-! ## Elementary acts -/

/-- Stores a value. A failure is passed over: the value then lasts as long as the session. -/
def remember (slot : Slot) (value : Json) : Act Session Unit := do
  let _ ← Act.perform (.save slot value)

/-- Changes the log of a mode and stores it. -/
def changeLog (mode : Mode) (change : Log → Log) : Act Session Unit := do
  modify fun s => s.setLog mode (change (s.logOf mode))
  let s ← get
  remember mode.slot (s.logOf mode).toJson

/-- Adds to the news for the operator. -/
def notify (n : Notification) : Act Session Unit :=
  modify fun s => { s with notices := s.notices.map (· ++ [n]) }

/-- A number for a new entry. -/
def newId : Act Session EntryId :=
  modifyGet fun s => (s.ids.fresh.1, { s with ids := s.ids.fresh.2 })

/-- An entry for a command about to be sent. -/
def newEntry (scpi : String) : Act Session Entry := do
  let id ← newId
  let time ← Act.perform .now
  pure (.pending id time scpi)

/-- Entries for errors that the instrument reported. -/
def newErrors : List String → Act Session (List Entry)
  | [] => pure []
  | error :: rest => do
    let id ← newId
    let time ← Act.perform .now
    let more ← newErrors rest
    pure (.instrumentError id time error :: more)

/-! ## From the store -/

/-- Takes up the stored history, with an empty input line. -/
def loadLine : Act Session Unit := do
  let stored ← Act.perform (.load .history)
  modify fun s => { s with line := { history := .ofStored stored } }

/-- Takes up the stored log of a mode. Numbers handed out from now on are not in it. -/
def loadLog (mode : Mode) : Act Session Unit := do
  let stored ← Act.perform (.load mode.slot)
  let log := Log.ofStored stored
  modify fun s => { s.setLog mode log with ids := log.reserveIds s.ids }

/-- Takes up the stored script. -/
def loadScript : Act Session Unit := do
  let source ← Act.perform (.load .scriptSource)
  let origin ← Act.perform (.load .scriptOrigin)
  modify fun s => { s with script := .ofStored source origin }

/-- Takes up the stored preferences, and a connection to no instrument in particular. -/
def loadPreferences : Act Session Unit := do
  let stored ← Act.perform (.load .preferences)
  let preferences := Preferences.ofStored stored
  modify fun s => { s with preferences, connection := preferences.apply {} }

/-- Takes up all that is stored, as a new run finds it. -/
def load : Act Session Unit := do
  loadPreferences
  loadLog .interactive
  loadLine
  loadLog .script
  loadScript

end Session

end ScpiConsole
