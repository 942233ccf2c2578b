import ScpiConsole.Log.Entry
import ScpiConsole.Text.Lines
/-!
# Exports

* `exportText` : a log as a text of lines, or the commands in it as a script
* `exportFileName` : the file it goes to
-/

namespace ScpiConsole

/-- What an export holds. -/
inductive ExportKind where
  /-- Time, command and response of every entry. -/
  | fullLog
  /-- The commands, to be sent again as a script. -/
  | commandsOnly
deriving DecidableEq, Repr, Inhabited

/-- One entry of a full export. -/
def Entry.exportLine (e : Entry) : String :=
  .ofList <| Text.trimEnd <|
    '[' :: e.time.stampText ++ ']' :: ' ' :: e.scpi.toList ++ ' ' :: (e.response.getD "").toList

/-- The lines of an export. Errors that the instrument reported were never typed, so they are not
among the commands. -/
def exportLines (entries : List Entry) : ExportKind → List String
  | .fullLog => entries.map Entry.exportLine
  | .commandsOnly => (entries.filter fun e => !e.hideTime).map Entry.scpi

/-- The lines with a line feed after each. -/
def exportText (entries : List Entry) (kind : ExportKind) : String :=
  let text := Text.joinLines (exportLines entries kind)
  if text.isEmpty then text else text ++ "\n"

def exportFileName (kind : ExportKind) (now : Timestamp) : String :=
  let tag := match kind with
    | .fullLog => "log"
    | .commandsOnly => "commands"
  "sclipi-" ++ tag ++ "-" ++ .ofList now.fileText ++ ".txt"

end ScpiConsole
