import ScpiConsole.Server.Request
import ScpiConsole.Text.Numeral
/-!
# Requests as HTTP messages

* `Message`, `Request.message` : method, path, named values and body of a request
* `Request.read` : the answer in a response
-/

namespace ScpiConsole

inductive Method where
  | get
  | post
  | delete
deriving DecidableEq, Repr, Inhabited

def Method.name : Method → String
  | .get => "GET"
  | .post => "POST"
  | .delete => "DELETE"

/-- A request in the form in which it goes to a server. -/
structure Message where
  method : Method
  /-- The path below that of the server. -/
  path : String
  pairs : List (String × String) := []
  contentType : Option String := none
  body : String := ""
deriving DecidableEq, Repr

namespace Request

/-- What each request asks for. -/
def path : Request → String
  | .send _ _ => "/api/scpi"
  | .commands _ _ => "/api/commands"
  | .health => "/api/health"
  | .port | .setPort _ => "/api/scpiPort"
  | .address | .setAddress _ => "/api/scpiAddress"
  | .resetPreferences => "/api/preferences"

def flagText (b : Bool) : String := if b then "true" else "false"

def message (r : Request) : Message :=
  match r with
  | .send scpi c =>
    { method := .post, path := r.path, body := scpi, contentType := some "text/plain"
      pairs := [("simulated", flagText c.simulated), ("autoSystErr", flagText c.autoSystErr),
        ("timeoutSeconds", toString c.timeoutSeconds), ("port", toString c.port),
        ("address", c.address)] }
  | .commands p a =>
    { method := .get, path := r.path, pairs := [("port", toString p), ("address", a)] }
  | .health | .port | .address => { method := .get, path := r.path }
  | .setPort p => { method := .post, path := r.path, body := toString p }
  | .setAddress a => { method := .post, path := r.path, body := a }
  | .resetPreferences => { method := .delete, path := r.path }

/-- The value of a document. -/
def readJson {α : Type} (path : String) (read : Json → Option α) (text : String) :
    Except ServerError α :=
  match (Json.ofText? text.toList).bind read with
  | some a => .ok a
  | none => .error (.unexpected path "not a document of the expected form")

/-- A port; no text stands for no port. -/
def readPortText (text : String) : Except ServerError UInt16 :=
  let trimmed := Text.trim text.toList
  if trimmed.isEmpty then .ok 0
  else
    let refused := ServerError.unexpected "/api/scpiPort"
      ("'" ++ .ofList trimmed ++ "' is not a port number")
    match Text.readUnsigned trimmed with
    | some n => if n ≤ 65535 then .ok n.toUInt16 else .error refused
    | none => .error refused

/-- The answer in the text of a successful response. -/
def readText (text : String) : (r : Request) → Except ServerError r.Answer
  | .send _ _ => readJson "/api/scpi" Reply.ofJson? text
  | .commands _ _ => readJson "/api/commands" Grammar.ofJson? text
  | .health => .ok text
  | .port => readPortText text
  | .address => .ok (Text.trimmed text)
  | .setPort _ | .setAddress _ | .resetPreferences => .ok ()

/-- The answer in a response. Every status from 200 to 299 is success. -/
def read (r : Request) (status : Nat) (body : List UInt8) : Except ServerError r.Answer :=
  let text := Text.lossyText body
  if 200 ≤ status ∧ status ≤ 299 then readText text r else .error (.refused status text)

end Request

end ScpiConsole
