import ScpiConsole.CommandLine
import ScpiConsole.Prompt
import ScpiConsole.Session.Batch
import ScpiConsole.Session.Settings
/-!
# The program

* `openSession` : state, server and settings of one run
* `perform` : each command
* `execute` : a whole run, with its exit code
-/

namespace ScpiConsole.Program

open Session

/-- What the operator types, line by line or key by key. -/
inductive Input where
  | piped (lines : List (Except IoError String))
  | terminal (events : List (Except String Prompt.Event))

/-! ## Opening -/

/-- A typed number of the command line. -/
def readOption {α : Type} (name : String) (read : String → Except InputError α) :
    Option String → Except Failure (Option α)
  | none => .ok none
  | some text =>
    match read text with
    | .ok a => .ok (some a)
    | .error e => .error (.option name e)

/-- The connection with the settings of the command line in it. A blank address is passed over. -/
def overridden (cli : CommandLine) (port : Option UInt16) (timeout : Option UInt32)
    (c : Connection) : Connection :=
  let address := Text.trimmed (cli.address.getD "")
  { simulated := cli.simulated || c.simulated
    autoSystErr := !cli.noAutoSystErr && c.autoSystErr
    timeoutSeconds := timeout.getD c.timeoutSeconds
    port := port.getD c.port
    address := if address = "" then c.address else address }

/-- The settings of the command line count for this session, all of them or none. -/
def applyOverrides (cli : CommandLine) : Act Session (Except Failure Unit) := do
  match readOption "port" readPort cli.port with
  | .error e => pure (.error e)
  | .ok port =>
    match readOption "timeout" readTimeout cli.timeout with
    | .error e => pure (.error e)
    | .ok timeout =>
      override (overridden cli port timeout)
      pure (.ok ())

/-- Opens the stored state and reaches the server. The defaults of a server that does not answer are
passed over. -/
def openSession (cli : CommandLine) : Act Session (Except Failure Unit) := do
  match ← Act.perform .openState with
  | .error e => pure (.error (.state e))
  | .ok _ =>
    match Server.ofText? cli.server with
    | .error e => pure (.error (.server e))
    | .ok server =>
      modify fun s => { s with server }
      loadPreferences
      let _ ← loadDefaults
      applyOverrides cli

/-- Takes up the stored log and history of the interactive mode. -/
def loadConsole : Act Session Unit := do
  loadLog .interactive
  loadLine

/-! ## Commands -/

/-- Sends commands one after the other, up to one that is none. -/
def sendEach (showDate : Bool) : List String → Act Session (Except Failure Unit)
  | [] => pure (.ok ())
  | scpi :: rest => do
    match ← submitText scpi with
    | .rejected => pure (.error (.notCommand scpi))
    | .dropped => pure (.error .dropped)
    | .sent outcome =>
      Shell.sayOutcome outcome showDate
      sendEach showDate rest

def send (commands : List String) : Act Session (Except Failure Unit) := do
  loadConsole
  let s ← get
  sendEach s.preferences.showDate commands

/-- Shows the entries of the script log that were settled since; how many are shown now. -/
def showSettled (shown : Nat) : Act Session Nat := do
  let s ← get
  let entries := settledPart s.scriptLog.entries shown
  Shell.sayEntries entries s.preferences.showDate
  pure (shown + entries.length)

/-- Runs the loaded script and shows its log. -/
def runLoaded : Act Session (Except Failure Unit) := do
  let s ← get
  if s.script.lines.isEmpty then pure (.error .noScript)
  else
    loadLog .script
    match ← watchScript showSettled 0 s.script with
    | none => pure (.error .busy)
    | some (report, shown) =>
      let _ ← showSettled shown
      Act.say report.summary
      pure (.ok ())

/-- Loads the script that is asked for. -/
def loadAsked (file : Option String) (clipboard : Bool) : Act Session Bool := do
  match file with
  | some path => replaceScript (← scriptOfFile path)
  | none =>
    if clipboard then replaceScript (← scriptOfClipboard)
    else pure true

/-- Runs a script from a file, from the clipboard, or the one loaded last. -/
def script (file : Option String) (clipboard : Bool) : Act Session (Except Failure Unit) := do
  loadScript
  if ← loadAsked file clipboard then runLoaded else pure (.error .scriptNotLoaded)

def complete (text : String) (sticky : Sticky) : Act Session (Except Failure Unit) := do
  if ← loadGrammar then
    Shell.sayCompletions text sticky
    pure (.ok ())
  else pure (.error .noGrammar)

def history (clear : Bool) : Act Session (Except Failure Unit) := do
  loadConsole
  if clear then clearHistory else pure ()
  let s ← get
  Act.sayAll s.line.history.entries
  pure (.ok ())

/-- Writes the stored log of a mode to a file. -/
def exportLog (kind : ExportKind) (mode : Mode) (directory : String) :
    Act Session (Except Failure Unit) := do
  loadLog mode
  let s ← get
  match ← Shell.writeExport (s.logOf mode).entries kind directory with
  | .ok path =>
    Act.say path
    pure (.ok ())
  | .error e => pure (.error e)

def health : Act Session (Except Failure Unit) := do
  match ← Act.perform (.request .health) with
  | .ok text =>
    Act.say (Text.trimmed text)
    pure (.ok ())
  | .error e => pure (.error (.health e))

def idn : Act Session (Except Failure Unit) := do
  match ← identify with
  | .ok (some identity) =>
    Act.say identity.text
    pure (.ok ())
  | .ok none => pure (.error .noIdentity)
  | .error e => pure (.error (.identity e))

def resetPreferences : Act Session (Except Failure Unit) := do
  match ← reset with
  | .ok c =>
    Act.say
      ("Preferences reset; server port " ++ toString c.port ++ " address '" ++ c.address ++ "'")
    pure (.ok ())
  | .error e => pure (.error (.reset e))

/-- The shell, over all that the operator types. -/
def shell (input : Input) : Act Session (Except Failure Unit) := do
  if ← loadGrammar then pure ()
  else Act.say "No instrument grammar loaded; completion is unavailable."
  loadConsole
  match input with
  | .piped lines => Shell.readLines lines
  | .terminal events => Prompt.run events

/-- Each command. -/
def perform (input : Input) : Command → Act Session (Except Failure Unit)
  | .send scpi => send scpi
  | .script file clipboard => script file clipboard
  | .complete text sticky => complete text sticky
  | .shell => shell input
  | .history clear => history clear
  | .exportLog commandsOnly script output =>
    exportLog (if commandsOnly then .commandsOnly else .fullLog)
      (if script then .script else .interactive) output
  | .health => health
  | .idn => idn
  | .resetPreferences => resetPreferences

/-! ## Whole runs -/

/-- A run with its arguments read. The shell tells the news itself. -/
def run (cli : CommandLine) (input : Input) : Act Session (Except Failure Unit) := do
  match ← openSession cli with
  | .error e => pure (.error e)
  | .ok _ =>
    let command := cli.command.getD .shell
    let result ← perform input command
    if command = .shell then pure () else Shell.tellNotices
    pure result

/-- How the client is called. -/
def usage : String := "Usage: sclipi [OPTIONS] [COMMAND]\n"

/-- The answer to arguments that ask for no run, with the exit code. -/
def refuse : Arguments.Refusal → Act Session Nat
  | .help => do
    Act.perform (.print usage)
    pure 0
  | .version => do
    Act.say "sclipi 0.1.0"
    pure 0
  | _ => do
    Act.perform (.complain usage)
    pure 2

/-- A whole run and its exit code: 0, or 1 for a failure, or 2 for arguments that were refused. -/
def execute (environment : String → Option String) (args : List String) (input : Input) :
    Act Session Nat := do
  match CommandLine.parse environment args with
  | .error refusal => refuse refusal
  | .ok cli =>
    match ← run cli input with
    | .ok _ => pure 0
    | .error e =>
      Act.perform (.complain e.report)
      pure 1

end ScpiConsole.Program
