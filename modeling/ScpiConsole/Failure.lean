import ScpiConsole.Preferences
import ScpiConsole.State.File
import ScpiConsole.Server.Request
/-!
# Failures

* `Failure` : why the client stops
* `Failure.chain` : what failed, and below it the causes
* `Failure.report` : the text for the operator
-/

namespace ScpiConsole

/-- Why the client stops. -/
inductive Failure where
  | state (cause : StateError)
  | server (cause : ServerError)
  /-- A value on the command line that is no number within its limits. -/
  | option (name : String) (cause : InputError)
  | health (cause : ServerError)
  | reset (cause : ServerError)
  | identity (cause : ServerError)
  | noIdentity
  | noGrammar
  | scriptNotLoaded
  | noScript
  | notCommand (text : String)
  /-- A command was dropped because another one is in flight. -/
  | dropped
  /-- A script could not start because a command is in flight. -/
  | busy
  | exportFile (path : String) (cause : IoError)
  | input (cause : IoError)
  | terminal (problem : String)

namespace Failure

/-- What failed, followed by its causes. -/
def chain : Failure → List String
  | .state (.io cause) =>
    ["failed to open client state", (StateError.io cause).message, cause.message]
  | .server cause => ["invalid server URL", cause.message]
  | .option name cause => ["invalid --" ++ name, cause.message]
  | .health cause => ["health check failed", cause.message]
  | .reset cause => ["failed to reset preferences", cause.message]
  | .identity cause => [cause.message]
  | .noIdentity => ["the instrument did not return a recognizable *IDN? response"]
  | .noGrammar => ["no instrument grammar available; set --port and --address"]
  | .scriptNotLoaded => ["script not loaded"]
  | .noScript => ["no script loaded; pass a file or --clipboard"]
  | .notCommand text => ["'" ++ text ++ "' is not a command"]
  | .dropped => ["another command is still in flight"]
  | .busy => ["a command is already in flight"]
  | .exportFile path cause => ["failed to write " ++ path, cause.message]
  | .input cause => ["failed to read stdin", cause.message]
  | .terminal problem => ["failed to read terminal input", problem]

/-- All on one line. -/
def message (f : Failure) : String := ": ".intercalate f.chain

/-- A text whose lines after the first start with `margin`. -/
def indented (first margin text : String) : String :=
  first ++ ("\n" ++ margin).intercalate ((text.toList.splitOn '\n').map String.ofList)

/-- The causes with their numbers, from `n` on. -/
def numbered (n : Nat) : List String → List String
  | [] => []
  | cause :: rest =>
    indented (.ofList (Text.rightAligned 5 n) ++ ": ") "       " cause :: numbered (n + 1) rest

/-- The text for the operator. Several causes are numbered. -/
def report (f : Failure) : String :=
  match f.chain with
  | [] => "Error: \n"
  | [top] => "Error: " ++ top ++ "\n"
  | [top, cause] => "Error: " ++ top ++ "\n\nCaused by:\n" ++ indented "    " "    " cause ++ "\n"
  | top :: causes =>
    "Error: " ++ top ++ "\n\nCaused by:\n" ++ Text.joinLines (numbered 0 causes) ++ "\n"

end Failure

end ScpiConsole
