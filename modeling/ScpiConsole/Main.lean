import ScpiConsole.Program
import ScpiConsole.Shell.Input
import Std.Time.DateTime.Timestamp
/-!
# The command line client

Carries out what a run asks for: state and scripts are files, the operator is at standard input and
output. There is no connection to a server here, so every request fails.
-/

namespace ScpiConsole.Main

/-- What a failed operation on a file says. -/
def ioError : IO.Error → IoError
  | .noFileOrDirectory .. => .notFound
  | .alreadyExists .. => .fileExists
  | e => .other (toString e)

/-- The result of an operation on a file. -/
def attempt {α : Type} (x : IO α) : IO (Except IoError α) := do
  match ← x.toBaseIO with
  | .ok a => pure (.ok a)
  | .error e => pure (.error (ioError e))

def readBytes (path : String) : IO (Except IoError (List UInt8)) := do
  let bytes ← attempt (IO.FS.readBinFile path)
  pure (bytes.map fun b => b.toList)

/-- Writes the state file, in a directory that is made when it is missing. -/
def writeState (file : StateFile) : IO (Except StateError Unit) := do
  let result ← attempt do
    match Path.parent? file.path with
    | some [] | none => pure ()
    | some above => IO.FS.createDirAll (String.ofList above)
    IO.FS.writeFile (String.ofList file.path) file.text
  pure (result.mapError StateError.io)

/-- The answer to an effect. -/
def answer (opened : Except StateError Unit) (state : IO.Ref StateFile) (s : Session) :
    (e : Effect) → IO (Session × e.Answer)
  | .request _ => pure (s, .error .unreachable)
  | .openState => pure (s, opened)
  | .load slot => do
    let file ← state.get
    pure (s, file.state.get? slot.name)
  | .save slot value => do
    state.modify fun f => { f with state := f.state.set slot.name value.canonical }
    pure (s, ← writeState (← state.get))
  | .now => do
    let now ← Std.Time.Timestamp.now
    pure (s, .ofUnix now.toNanosecondsSinceUnixEpoch.toInt.toNat)
  | .uptime => do pure (s, ← IO.monoNanosNow)
  | .cancelled => pure (s, false)
  | .readBytes path => do pure (s, ← readBytes path)
  | .writeText path text => do pure (s, ← attempt (IO.FS.writeFile path text))
  | .clipboard => pure (s, .error "no clipboard")
  | .print text => do
    IO.print text
    pure (s, ())
  | .complain text => do
    IO.eprint text
    pure (s, ())
  | .rawMode _ => pure (s, ())
  | .await => do
    (← IO.getStdout).flush
    pure (s, ())

/-- All of standard input. -/
partial def readInput (stream : IO.FS.Stream) (before : List UInt8) : IO (List UInt8) := do
  let bytes ← stream.read 65536
  if bytes.isEmpty then pure before else readInput stream (before ++ bytes.toList)

/-- Whether the operator types lines. -/
def isShell (environment : String → Option String) (args : List String) : Bool :=
  match CommandLine.parse environment args with
  | .ok cli => cli.command.getD .shell = .shell
  | .error _ => false

/-- The names of the environment that count. -/
def settingNames : List String :=
  ["HOME", "XDG_CONFIG_HOME", "SCLIPI_STATE_PATH"] ++ CommandLine.settingNames.map Prod.snd

def readEnvironment : IO (List (String × String)) :=
  settingNames.filterMapM fun name => do
    let value ← IO.getEnv name
    pure (value.map (name, ·))

end ScpiConsole.Main

open ScpiConsole Main in
/-- Runs the client. -/
def main (args : List String) : IO UInt32 := do
  let settings ← readEnvironment
  let environment := fun name => settings.lookup name
  let path := StateFile.defaultPath environment
  let read := StateFile.ofRead path (← readBytes (String.ofList path))
  let state ← IO.mkRef (read.toOption.getD ⟨path, {}⟩)
  let typed ← if isShell environment args then readInput (← IO.getStdin) [] else pure []
  let input := Program.Input.piped (Shell.inputLines typed)
  let (_, code) ← (Program.execute environment args input).run
    (answer (read.map fun _ => ()) state) {}
  pure code.toUInt32
