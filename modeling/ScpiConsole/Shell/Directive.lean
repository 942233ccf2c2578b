import ScpiConsole.Log.Export
import ScpiConsole.Text.Blank
/-!
# Lines of the shell

* `Directive` : what a line asks for
* `Directive.ofLine` : a line is a command to send unless it starts with `!`
-/

namespace ScpiConsole

/-- What a line of the shell asks for. -/
inductive Directive where
  | send (scpi : String)
  | complete (text : String)
  | history
  | clearHistory
  | clearLog
  | errorQueue
  | identify
  | exportLog (kind : ExportKind)
  | help
  | quit
  | unknown (line : String)
deriving DecidableEq, Repr

namespace Directive

/-- The directive of that name, with what follows the first blank behind it. -/
def named (name argument line : String) : Directive :=
  match name with
  | "complete" => .complete (.ofList (Text.trimStart argument.toList))
  | "history" => .history
  | "clear-history" => .clearHistory
  | "clear" => .clearLog
  | "err" => .errorQueue
  | "idn" => .identify
  | "export" => .exportLog (if Text.trimmed argument = "commands" then .commandsOnly else .fullLog)
  | "help" | "?" => .help
  | "quit" | "exit" => .quit
  | _ => .unknown line

def ofLine (line : String) : Directive :=
  let line := Text.trim line.toList
  match line with
  | '!' :: rest =>
    let (name, argument) := (Text.cutOnce ' ' rest).getD (rest, [])
    named (.ofList name) (.ofList argument) (.ofList line)
  | _ => .send (.ofList line)

end Directive

end ScpiConsole
