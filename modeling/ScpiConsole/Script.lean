import ScpiConsole.Json.Record
import ScpiConsole.Text.Blank
import ScpiConsole.Text.Lines
import ScpiConsole.Disk
/-!
# Scripts

* `Script` : a text of commands, one on each line, and where it came from
* `Script.lines` : the commands
* `Report` : how a run of a script ended
-/

namespace ScpiConsole

/-- Where a script came from. -/
inductive Origin where
  | file
  | clipboard
deriving DecidableEq, Repr, Inhabited

namespace Origin

def name : Origin → String
  | .file => "file"
  | .clipboard => "clipboard"

def toJson (o : Origin) : Json := .string o.name

def ofJson? (v : Json) : Option Origin :=
  match v.choice? with
  | some "file" => some .file
  | some "clipboard" => some .clipboard
  | _ => none

end Origin

/-- A text of commands. -/
structure Script where
  source : String := ""
  origin : Origin := .file
deriving DecidableEq, Repr, Inhabited

namespace Script

/-- The commands: the lines of the text, trimmed, without those that are blank. -/
def lines (s : Script) : List String :=
  (((Text.lines s.source.toList).map Text.trim).filter fun line => !line.isEmpty).map String.ofList

/-- The script in stored values. -/
def ofStored (source origin : Option Json) : Script :=
  ⟨(source.bind Json.text?).getD "", (origin.bind Origin.ofJson?).getD .file⟩

end Script

/-- Why a script could not be loaded. -/
inductive ScriptError where
  | unreadable (path : String) (cause : IoError)
  | noClipboard (problem : String)
deriving DecidableEq, Repr

def ScriptError.message : ScriptError → String
  | .unreadable path cause => "failed to read " ++ path ++ ": " ++ cause.message
  | .noClipboard problem => "clipboard unavailable: " ++ problem

/-! ## Runs -/

/-- What the script mode is doing. -/
inductive RunStatus where
  | idle
  | running
  | completed
  | cancelled
deriving DecidableEq, Repr, Inhabited

/-- How much of the script has been sent. -/
structure Progress where
  sent : Nat := 0
  total : Nat := 0
deriving DecidableEq, Repr, Inhabited

namespace Progress

def none : Progress := {}

def full : Progress := ⟨1, 1⟩

def percent (p : Progress) : Float :=
  if p.total = 0 then 0 else 100 * Float.ofNat p.sent / Float.ofNat p.total

end Progress

/-- How a run ended. -/
structure Report where
  status : RunStatus
  dispatched : Nat
  skipped : Nat
  /-- The commands that came back as errors of the server. -/
  failed : Nat
deriving DecidableEq, Repr

def Report.summary (r : Report) : String :=
  let sent := toString r.dispatched ++ " sent"
  if r.status = .cancelled then
    "Script cancelled: " ++ sent ++ ", " ++ toString r.skipped ++ " skipped"
  else if 0 < r.failed then
    "Script completed: " ++ sent ++ ", " ++ toString r.failed ++ " failed"
  else "Script completed: " ++ sent

end ScpiConsole
