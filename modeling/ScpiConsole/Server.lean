import ScpiConsole.Server.Message
/-!
# Servers

* `Server` : where a server is
* `Server.ofText?` : the server that a text names
* `Server.url?` : where a request goes
* `Server.ask` : the answer to a request
-/

namespace ScpiConsole

/-- A server, by the URL that the paths of all requests are appended to. -/
structure Server where
  base : List Char
deriving DecidableEq, Repr, Inhabited

namespace Server

/-- The server when nothing else is said. -/
def standard : String := "http://localhost:8080"

/-- How the client names itself. -/
def userAgent : String := "sclipi/0.1.0; linux"

/-- The server that a text names, a URL with the scheme of the web. Slashes at its end are left
out. -/
def ofText? (text : String) : Except ServerError Server :=
  let base := Text.dropEndWhile (· = '/') text.toList
  match Url.parse? base with
  | .ok url =>
    if url.scheme = "http".toList ∨ url.scheme = "https".toList then .ok ⟨base⟩
    else .error (.badAddress (.ofList base) (.scheme (.ofList url.scheme)))
  | .error e => .error (.badAddress (.ofList base) (.malformed e))

/-- The text that a setting gives, unless it is blank. -/
def choose (setting : Option String) : String :=
  match setting with
  | some text => if (Text.trim text.toList).isEmpty then standard else text
  | none => standard

/-- Where a request goes. -/
def url? (s : Server) (m : Message) : Except UrlError Url :=
  (Url.parse? (s.base ++ m.path.toList)).map fun u => u.withPairs m.pairs

/-- The answer to a request. `reply` gives status and body of the response to what is sent, and
nothing when there is no connection or it breaks off. -/
def ask (s : Server) (r : Request) (reply : Url → Message → Option (Nat × List UInt8)) :
    Except ServerError r.Answer :=
  match s.url? r.message with
  | .error _ => .error .unreachable
  | .ok url =>
    match reply url r.message with
    | some (status, body) => r.read status body
    | none => .error .unreachable

end Server

end ScpiConsole
