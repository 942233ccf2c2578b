import ScpiConsole.State
import ScpiConsole.Disk
import ScpiConsole.Json.Parser
import ScpiConsole.Json.Printer
/-!
# The state file

State kept in one JSON file. Every change writes the whole file. When a write fails the change stays
in memory, and the next write that succeeds brings it to the file.

* `StateFile.ofBytes` : the state that a file holds; a file that is no JSON object holds none
* `StateFile.load`, `save` : from and to a disk
* `set`, `remove`, `clear` : changes, each with its write
-/

namespace ScpiConsole

/-- Why state could not be read or written. -/
inductive StateError where
  | io (cause : IoError)
deriving DecidableEq, Repr

def StateError.message : StateError → String
  | .io cause => "state I/O error: " ++ cause.message

/-- A state file and what is known to belong into it. -/
structure StateFile where
  path : List Char
  state : State := {}

namespace StateFile

/-- The state written in a text; none unless the text is a JSON object. -/
def stateOfText (text : String) : State :=
  match Json.parse? text with
  | some (.object members) => ⟨members⟩
  | _ => {}

/-- The text of the file. -/
def text (f : StateFile) : String := (Json.object f.state.members).pretty

/-- The state after an attempt to read the file. There is none yet when there is no file. Bytes that
are no text are an error, and a text that is no JSON object is passed over. -/
def ofRead (path : List Char) : Except IoError (List UInt8) → Except StateError StateFile
  | .ok bytes =>
    match Text.strictText? bytes with
    | some text => .ok ⟨path, stateOfText text⟩
    | none => .error (.io .invalidText)
  | .error .notFound => .ok ⟨path, {}⟩
  | .error e => .error (.io e)

/-! ## On a disk -/

def load (d : Disk) (path : List Char) : Except StateError StateFile := ofRead path (d.read path)

/-- Writes the file, in a directory that is made when it is missing. -/
def save (f : StateFile) (d : Disk) : Except StateError Disk :=
  let prepared := match Path.parent? f.path with
    | some above => Disk.createParents f.path.length d above
    | none => .ok d
  match prepared.bind fun d => d.write f.path (Text.encodeUtf8 f.text.toList) with
  | .ok d => .ok d
  | .error e => .error (.io e)

/-- The outcome of a change that has to be written. -/
def commit (f : StateFile) (d : Disk) : Except StateError Unit × StateFile × Disk :=
  match f.save d with
  | .ok d => (.ok (), f, d)
  | .error e => (.error e, f, d)

def set (f : StateFile) (name : String) (value : Json) (d : Disk) :
    Except StateError Unit × StateFile × Disk :=
  commit { f with state := f.state.set name value.canonical } d

/-- Nothing is written when there is no such value. -/
def remove (f : StateFile) (name : String) (d : Disk) : Except StateError Unit × StateFile × Disk :=
  if (f.state.get? name).isSome then commit { f with state := f.state.remove name } d
  else (.ok (), f, d)

def clear (f : StateFile) (d : Disk) : Except StateError Unit × StateFile × Disk :=
  commit { f with state := f.state.clear } d

/-! ## Where it is -/

/-- The path as the user gave it, with a tilde at its start read as the home directory. -/
def userPath (home given : List Char) : List Char :=
  match Text.trim given with
  | ['~'] => home
  | '~' :: '/' :: rest | '~' :: '\\' :: rest => if rest.isEmpty then home else Path.join home rest
  | path => path

/-- The directory for settings. Only an absolute path can take the place of `.config`. -/
def settingsPath (home : List Char) (setting : Option String) : List Char :=
  match setting.map String.toList with
  | some path => if Path.isAbsolute path then path else Path.join home ".config".toList
  | none => Path.join home ".config".toList

/-- The path that the environment gives, or the one in the directory for settings when it is
blank. -/
def defaultPath (environment : String → Option String) : List Char :=
  let home := ((environment "HOME").getD "/").toList
  let given := ((environment "SCLIPI_STATE_PATH").getD "").toList
  if (Text.trim given).isEmpty then
    Path.join (settingsPath home (environment "XDG_CONFIG_HOME")) "sclipi/state.json".toList
  else userPath home given

end StateFile

end ScpiConsole
