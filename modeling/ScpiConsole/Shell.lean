import ScpiConsole.Failure
import ScpiConsole.Log.Display
import ScpiConsole.Session.Dispatch
import ScpiConsole.Session.Instrument
import ScpiConsole.Shell.Directive
/-!
# The shell

* `execute` : one line
* `tellNotices` : news for the operator
* `readLines` : the lines of piped input
-/

namespace ScpiConsole.Shell

open Session

/-- Whether the shell goes on. -/
inductive Flow where
  | goOn
  | quit
deriving DecidableEq, Repr

/-- What stands before the input. -/
def prompt : String := "sclipi> "

def help : List String := [
  "Type an SCPI command to send it, e.g. `*IDN?` or `MEAS:VOLT?`.",
  "Tab completes, Up and Down cycle through your command history.",
  "  !complete <text>   list completions for <text>",
  "  !history           show command history",
  "  !clear-history     forget command history",
  "  !clear             clear the log",
  "  !err               read the instrument error queue",
  "  !idn               identify the instrument",
  "  !export [commands] write the log (or just its commands) to a file",
  "  !help              show this help",
  "  !quit              leave the shell"]

/-! ## Output -/

/-- Shows entries of a log. -/
def sayEntries (entries : List Entry) (showDate : Bool) : Act Session Unit :=
  Act.sayAll (entries.map fun e => e.displayLine showDate)

/-- Shows what became of a command: its entry, and those that were put behind it. -/
def sayOutcome (outcome : Outcome) (showDate : Bool) : Act Session Unit := do
  let s ← get
  sayEntries (settledFrom s.log.entries outcome.id) showDate

/-- Shows the completions of a text. -/
def sayCompletions (text : String) (sticky : Sticky) : Act Session Unit := do
  let s ← get
  Act.sayAll <| (Completion.candidates s.grammar text false sticky).map
    (·.label s.preferences.preferShortScpi)

/-- The history, each command behind its number. -/
def historyLines (n : Nat) : List String → List String
  | [] => []
  | entry :: rest =>
    (.ofList (Text.rightAligned 4 n) ++ "  " ++ entry) :: historyLines (n + 1) rest

/-- Tells the news there is. -/
def tell : List Notification → Act Session Unit
  | [] => pure ()
  | n :: rest => do
    Act.perform (.complain ("! " ++ n.text ++ "\n"))
    tell rest

/-- Tells the news there is, each once. -/
def tellNotices : Act Session Unit := do
  let s ← get
  set { s with notices := s.notices.map fun _ => [] }
  tell (s.notices.getD [])

/-- Writes entries to a file in a directory; the path of the file. -/
def writeExport (entries : List Entry) (kind : ExportKind) (directory : String) :
    Act Session (Except Failure String) := do
  let now ← Act.perform .now
  let path : String := .ofList (Path.join directory.toList (exportFileName kind now).toList)
  match ← Act.perform (.writeText path (exportText entries kind)) with
  | .ok _ => pure (.ok path)
  | .error cause => pure (.error (.exportFile path cause))

/-! ## Lines -/

/-- Shows what became of a text that was to be sent. -/
def saySubmission : Submission → Act Session Unit
  | .rejected => pure ()
  | .dropped => Act.say "Busy; command dropped."
  | .sent outcome => do
    let s ← get
    sayOutcome outcome s.preferences.showDate

def sayIdentity : Except ServerError (Option Identity) → Act Session Unit
  | .ok (some identity) => Act.say identity.text
  | .ok none => Act.say "The instrument did not identify itself."
  | .error e => Act.say ("*IDN? failed: " ++ e.message)

def perform : Directive → Act Session (Except Failure Flow)
  | .send scpi => do
    saySubmission (← submitText scpi)
    pure (.ok .goOn)
  | .errorQueue => do
    saySubmission (← readErrorQueue)
    pure (.ok .goOn)
  | .complete text => do
    sayCompletions text {}
    pure (.ok .goOn)
  | .history => do
    let s ← get
    Act.sayAll (historyLines 0 s.line.history.entries)
    pure (.ok .goOn)
  | .clearHistory => do
    Session.clearHistory
    pure (.ok .goOn)
  | .clearLog => do
    changeLog .interactive Log.clear
    pure (.ok .goOn)
  | .identify => do
    sayIdentity (← Session.identify)
    pure (.ok .goOn)
  | .exportLog kind => do
    let s ← get
    match ← writeExport s.log.entries kind "." with
    | .ok path =>
      Act.say ("Wrote " ++ path)
      pure (.ok .goOn)
    | .error e => pure (.error e)
  | .help => do
    Act.sayAll help
    pure (.ok .goOn)
  | .quit => pure (.ok .quit)
  | .unknown line => do
    Act.say ("Unknown directive " ++ line ++ "; try !help")
    pure (.ok .goOn)

/-- Carries out one line. -/
def execute (line : String) : Act Session (Except Failure Flow) := perform (Directive.ofLine line)

/-! ## Piped input -/

/-- Asks for a line. -/
def askLine : Act Session Unit := do
  Act.perform (.print prompt)
  Act.perform .await

/-- Carries out the lines of piped input, up to one that quits or fails. -/
def readLines : List (Except IoError String) → Act Session (Except Failure Unit)
  | [] => do
    askLine
    pure (.ok ())
  | .error cause :: _ => do
    askLine
    pure (.error (.input cause))
  | .ok line :: rest => do
    askLine
    match ← execute line with
    | .error e => pure (.error e)
    | .ok flow =>
      tellNotices
      if flow = .quit then pure (.ok ()) else readLines rest

end ScpiConsole.Shell
