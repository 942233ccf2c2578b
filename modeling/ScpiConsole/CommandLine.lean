import ScpiConsole.CommandLine.Arguments
import ScpiConsole.Completion
import ScpiConsole.Server
/-!
# The command line

* `Command` : what the client is to do
* `CommandLine` : a command, and the settings for this run
* `CommandLine.parse` : from arguments and environment
-/

namespace ScpiConsole

/-- What the client is to do. -/
inductive Command where
  | send (scpi : List String)
  | script (file : Option String) (clipboard : Bool)
  | complete (text : String) (sticky : Sticky)
  | shell
  | history (clear : Bool)
  | exportLog (commandsOnly script : Bool) (output : String)
  | health
  | idn
  | resetPreferences
deriving DecidableEq, Repr

/-- The arguments of one run. -/
structure CommandLine where
  server : String
  /-- In place of the address on the server. -/
  address : Option String
  /-- In place of the port on the server. -/
  port : Option String
  timeout : Option String
  simulated : Bool
  noAutoSystErr : Bool
  /-- The shell when there is none. -/
  command : Option Command
deriving DecidableEq, Repr

namespace CommandLine

open Arguments

/-! ## What is accepted -/

def helpSwitch : Switch := ⟨"help", some 'h', .stop .help⟩

/-- Before the name of a command. -/
def rootUsage : Usage where
  switches := [⟨"server", none, .valued true⟩, ⟨"address", some 'a', .valued true⟩,
    ⟨"port", some 'p', .valued true⟩, ⟨"timeout", some 't', .valued true⟩,
    ⟨"simulated", none, .flag⟩, ⟨"no-auto-syst-err", none, .flag⟩, helpSwitch,
    ⟨"version", some 'V', .stop .version⟩]

def commandNames : List String :=
  ["send", "script", "complete", "shell", "history", "export", "health", "idn",
    "reset-preferences", "help"]

/-- Behind the name of a command. -/
def usageOf (name : String) : Usage :=
  match name with
  | "send" => { switches := [helpSwitch], words := .many }
  | "script" => { switches := [⟨"clipboard", none, .flag⟩, helpSwitch], words := .one false }
  | "complete" =>
    { switches := [⟨"suffix", none, .flag⟩, ⟨"query", none, .flag⟩, helpSwitch]
      words := .one true }
  | "history" => { switches := [⟨"clear", none, .flag⟩, helpSwitch] }
  | "export" =>
    { switches := [⟨"commands-only", none, .flag⟩, ⟨"script", none, .flag⟩,
        ⟨"output", some 'o', .valued false⟩, helpSwitch] }
  | _ => { switches := [helpSwitch] }

/-! ## Commands -/

/-- The command of that name, with what was read behind it. -/
def commandOf (name : String) (r : Reading) : Except Refusal Command :=
  match name with
  | "send" => if r.words.isEmpty then .error .missing else .ok (.send r.words)
  | "script" =>
    if r.has "clipboard" && !r.words.isEmpty then .error .conflict
    else .ok (.script r.words.head? (r.has "clipboard"))
  | "complete" =>
    match r.words with
    | text :: _ =>
      if r.has "query" && !r.has "suffix" then .error .missing
      else .ok (.complete text ⟨r.has "suffix", r.has "query"⟩)
    | [] => .error .missing
  | "history" => .ok (.history (r.has "clear"))
  | "export" =>
    .ok (.exportLog (r.has "commands-only") (r.has "script") ((r.value? "output").getD "."))
  | "health" => .ok .health
  | "idn" => .ok .idn
  | "reset-preferences" => .ok .resetPreferences
  | _ => .ok .shell

/-- Help on a command. There are no commands below a command. -/
def helpOn : List String → Refusal
  | [] => .help
  | [name] => if commandNames.contains name then .help else .unknownCommand
  | _ => .unknownCommand

def readCommand : Option (String × List String) → Except Refusal (Option Command)
  | none => .ok none
  | some ("help", rest) => .error (helpOn rest)
  | some (name, rest) => do
    let r ← (usageOf name).read rest
    let command ← commandOf name r
    pure (some command)

/-! ## Environment -/

/-- The names of the environment that stand in for options. -/
def settingNames : List (String × String) :=
  [("server", "SCLIPI_SERVER"), ("address", "SCLIPI_ADDRESS"), ("port", "SCLIPI_PORT"),
    ("timeout", "SCLIPI_TIMEOUT")]

/-- The value of an option, or of the environment in its place. -/
def setting (environment : String → Option String) (r : Reading) (name : String) : Option String :=
  match r.value? name with
  | some value => some value
  | none => (settingNames.lookup name).bind environment

/-! ## The whole line -/

def parse (environment : String → Option String) (args : List String) :
    Except Refusal CommandLine := do
  let (r, behind) ← rootUsage.readUpTo commandNames {} args
  let command ← readCommand behind
  let r ← r.finish
  pure {
    server := (setting environment r "server").getD Server.standard
    address := setting environment r "address"
    port := setting environment r "port"
    timeout := setting environment r "timeout"
    simulated := r.has "simulated"
    noAutoSystErr := r.has "no-auto-syst-err"
    command }

end CommandLine

end ScpiConsole
