import ScpiConsole.Log.Selection
import ScpiConsole.Session
/-!
# Sending commands

* `minimize` : the selected entry of a log is minimized
* `normalized` : a command in the form in which it is sent
* `dispatch` : a command is sent, and logged with its outcome
* `guarded` : work that nothing else may interrupt
* `submit` : a command of the operator, unless another one is in flight
-/

namespace ScpiConsole

/-- A command starts at the root of the grammar unless it is a common one. -/
def normalized (scpi : String) : String :=
  match scpi.toList with
  | ':' :: _ | '*' :: _ => scpi
  | text => .ofList (':' :: text)

/-- What became of a command. -/
structure Outcome where
  /-- The entry in the log. -/
  id : EntryId
  scpi : String
  response : String
  isServerError : Bool
  /-- How many errors the instrument reported. -/
  errors : Nat
deriving DecidableEq, Repr

/-- What became of a text that was to be sent. -/
inductive Submission where
  /-- There is nothing in it to send. -/
  | rejected
  /-- Another command is in flight. -/
  | dropped
  | sent (outcome : Outcome)
deriving DecidableEq, Repr

namespace Session

/-! ## The log -/

/-- Writes the outcome into an entry. -/
def settle (mode : Mode) (id : EntryId) (response : String) (isServerError : Bool)
    (elapsed : Elapsed) : Act Session Unit :=
  changeLog mode fun log => log.update id fun e => e.settle response isServerError elapsed

/-- Puts the errors that the instrument reported behind the entry of their command. -/
def addErrors (mode : Mode) (id : EntryId) (errors : List String) : Act Session Unit := do
  let entries ← newErrors errors
  if entries.isEmpty then pure () else changeLog mode fun log => log.insertAfter id entries

/-- Minimizes the selected entry of a log, or maximizes it. The answer tells whether there was one. -/
def minimize (mode : Mode) (selection : Selection) (minimized : Bool) : Act Session Bool := do
  let s ← get
  match selection.setMinimized (s.logOf mode) minimized with
  | none => pure false
  | some log => do
    changeLog mode fun _ => log
    pure true

/-! ## Dispatch -/

/-- Logs what came back from the server. -/
def conclude (mode : Mode) (id : EntryId) (scpi : String) (elapsed : Elapsed) :
    Except ServerError Reply → Act Session Outcome
  | .ok reply => do
    let (response, isServerError) := reply.settled
    settle mode id response isServerError elapsed
    addErrors mode id reply.errors
    pure ⟨id, scpi, response, isServerError, reply.errors.length⟩
  | .error e => do
    settle mode id e.message true elapsed
    notify (.transport scpi e.message)
    pure ⟨id, scpi, e.message, true, 0⟩

/-- Logs a command that is about to go out. -/
def logPending (mode : Mode) (scpi : String) : Act Session Entry := do
  let entry ← newEntry scpi
  changeLog mode fun log => log.append entry
  pure entry

/-- Sends a command over a connection. Its entry is in the log before it goes out, and is settled
once, also when the server cannot be reached. -/
def dispatchOver (connection : Connection) (mode : Mode) (scpi : String) : Act Session Outcome := do
  let scpi := normalized scpi
  let entry ← logPending mode scpi
  let start ← Act.perform .uptime
  let answer ← Act.perform (.request (.send scpi connection))
  let stop ← Act.perform .uptime
  conclude mode entry.id scpi (.between start stop) answer

/-- Sends a command over the connection of the session. -/
def dispatch (mode : Mode) (scpi : String) : Act Session Outcome := do
  let s ← get
  dispatchOver s.connection mode scpi

/-! ## The guard -/

/-- The session with the guard taken. -/
def held (s : Session) : Session := { s with busy := true }

/-- The session with the guard free. -/
def freed (s : Session) : Session := { s with busy := false }

/-- Takes the guard, unless it is taken. -/
def claim : Act Session Bool := modifyGet fun s => (!s.busy, s.held)

def release : Act Session Unit := modify freed

/-- Work under the guard; none when the guard is taken. -/
def guarded {α : Type} (work : Act Session α) : Act Session (Option α) := do
  if ← claim then
    let a ← work
    release
    pure (some a)
  else pure none

/-! ## The operator's commands -/

/-- A text without a command: empty, or only the mark of a root. -/
def isVoid (scpi : String) : Bool := scpi = "" || scpi = ":" || scpi = "*"

/-- Adds a command to the history. Nothing is stored when it is the newest already. -/
def recordCommand (scpi : String) : Act Session Unit := do
  let s ← get
  if s.line.history.repeats scpi then pure ()
  else
    let history := s.line.history.add scpi
    set { s with line := { s.line with history } }
    remember .history history.toJson

def clearHistory : Act Session Unit := do
  modify fun s => { s with line := { s.line with history := s.line.history.clear } }
  let s ← get
  remember .history s.line.history.toJson

/-- Sends a command of the operator. The line is cleared when the command goes out, and the command
joins the history when it is settled. -/
def sendCommand (scpi : String) : Act Session Outcome := do
  modify fun s => { s with line := s.line.cleared }
  let outcome ← dispatch .interactive scpi
  recordCommand scpi
  pure outcome

/-- Sends a text as if it had been typed. -/
def submitText (text : String) : Act Session Submission := do
  if isVoid (Text.trimmed text) then pure .rejected
  else
    let outcome ← guarded (sendCommand (Text.trimmed text))
    pure (outcome.elim .dropped .sent)

/-- Sends what is typed. -/
def submit : Act Session Submission := do
  let s ← get
  submitText s.line.text

/-- Reads one entry of the error queue of the instrument. -/
def readErrorQueue : Act Session Submission := submitText Entry.errorQuery

end Session

end ScpiConsole
