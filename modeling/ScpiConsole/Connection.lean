import ScpiConsole.Json.Record
import ScpiConsole.Text.Blank
import ScpiConsole.Text.Lines
/-!
# Instruments

What goes to an instrument with every command, and what comes back.

* `Connection` : which instrument, and how it is talked to
* `Reply` : the answer to a command
* `Identity` : the four fields of an answer to `*IDN?`
-/

namespace ScpiConsole

/-- Which instrument is talked to, and how. -/
structure Connection where
  simulated : Bool := false
  /-- The error queue is read after every command. -/
  autoSystErr : Bool := true
  timeoutSeconds : UInt32 := 10
  port : UInt16 := 0
  address : String := ""
deriving DecidableEq, Repr, Inhabited

namespace Connection

/-- Enough is known to reach an instrument. -/
def addressable (c : Connection) : Bool := c.port != 0 && !c.address.isEmpty

def toJson (c : Connection) : Json :=
  .object [("address", .string c.address), ("autoSystErr", .bool c.autoSystErr),
    ("port", .nat c.port.toNat), ("simulated", .bool c.simulated),
    ("timeoutSeconds", .nat c.timeoutSeconds.toNat)]

def ofJson? (v : Json) : Option Connection := do
  match ← v.fields? ["simulated", "autoSystErr", "timeoutSeconds", "port", "address"] with
  | [simulated, autoSystErr, timeoutSeconds, port, address] =>
    pure {
      simulated := ← Json.required Json.flag? simulated
      autoSystErr := ← Json.required Json.flag? autoSystErr
      timeoutSeconds := ← Json.required Json.word32? timeoutSeconds
      port := ← Json.required Json.word16? port
      address := ← Json.required Json.text? address }
  | _ => none

end Connection

/-- The answer to a command. -/
structure Reply where
  response : String := ""
  /-- What the error queue of the instrument held afterwards. -/
  errors : List String := []
  /-- What the server has to say when there is no response. -/
  serverError : String := ""
deriving DecidableEq, Repr, Inhabited

namespace Reply

/-- The response and whether it is an error: an empty response gives way to the error of the
server. -/
def settled (r : Reply) : String × Bool :=
  if r.response.isEmpty && !r.serverError.isEmpty then (r.serverError, true)
  else (r.response, false)

def toJson (r : Reply) : Json :=
  .object [("errors", .array (r.errors.map .string)), ("response", .string r.response),
    ("serverError", .string r.serverError)]

def ofJson? (v : Json) : Option Reply := do
  match ← v.fields? ["response", "errors", "serverError"] with
  | [response, errors, serverError] =>
    pure {
      response := ← Json.optional "" Json.text? response
      errors := ← Json.optional [] (Json.listOrNull? Json.text?) errors
      serverError := ← Json.optional "" Json.text? serverError }
  | _ => none

end Reply

/-- How an instrument names itself. -/
structure Identity where
  manufacturer : String
  model : String
  serial : String
  version : String
deriving DecidableEq, Repr, Inhabited

namespace Identity

/-- The first four of the parts between commas, trimmed and none of them blank. -/
def parse? (response : String) : Option Identity :=
  match ((Text.trim response.toList).splitOn ',').map Text.trim with
  | a :: b :: c :: d :: _ =>
    if a.isEmpty || b.isEmpty || c.isEmpty || d.isEmpty then none
    else some ⟨.ofList a, .ofList b, .ofList c, .ofList d⟩
  | _ => none

/-- One line for each field. -/
def text (i : Identity) : String :=
  Text.joinLines ["Manufacturer: " ++ i.manufacturer, "Model: " ++ i.model,
    "Serial: " ++ i.serial, "Version: " ++ i.version]

def toJson (i : Identity) : Json :=
  .object [("manufacturer", .string i.manufacturer), ("model", .string i.model),
    ("serial", .string i.serial), ("version", .string i.version)]

def ofJson? (v : Json) : Option Identity := do
  match ← v.fields? ["manufacturer", "model", "serial", "version"] with
  | [manufacturer, model, serial, version] =>
    pure {
      manufacturer := ← Json.required Json.text? manufacturer
      model := ← Json.required Json.text? model
      serial := ← Json.required Json.text? serial
      version := ← Json.required Json.text? version }
  | _ => none

end Identity

end ScpiConsole
