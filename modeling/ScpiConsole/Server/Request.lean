import ScpiConsole.Grammar
import ScpiConsole.Connection
import ScpiConsole.Url
/-!
# What a server is asked

The server owns the connections to the instruments. The client sends it commands, asks it for the
grammar of an instrument, and keeps the port and the address of the instrument there.

* `Request`, `Request.Answer` : each request with the kind of its answer
* `ServerError` : why there is no answer
-/

namespace ScpiConsole

/-- What is asked of a server. -/
inductive Request where
  /-- Send a command to the instrument. -/
  | send (scpi : String) (connection : Connection)
  /-- The grammar of the instrument at that address. -/
  | commands (port : UInt16) (address : String)
  /-- Whether the server is up. -/
  | health
  | port
  | setPort (port : UInt16)
  | address
  | setAddress (address : String)
  /-- Forget port and address. -/
  | resetPreferences
deriving DecidableEq, Repr

/-- What a request is answered with. -/
abbrev Request.Answer : Request → Type
  | .send _ _ => Reply
  | .commands _ _ => Grammar
  | .health => String
  | .port => UInt16
  | .setPort _ => Unit
  | .address => String
  | .setAddress _ => Unit
  | .resetPreferences => Unit

/-- Why a text does not name a server. -/
inductive AddressProblem where
  | malformed (cause : UrlError)
  | scheme (name : String)
deriving DecidableEq, Repr

def AddressProblem.message : AddressProblem → String
  | .malformed cause => cause.message
  | .scheme name => "unsupported scheme '" ++ name ++ "'"

/-- Why there is no answer. -/
inductive ServerError where
  /-- No connection, or one that broke off. -/
  | unreachable
  /-- An answer with a status other than success. -/
  | refused (status : Nat) (body : String)
  /-- An answer that does not read as what was asked for. -/
  | unexpected (path detail : String)
  /-- The server cannot be addressed. -/
  | badAddress (url : String) (problem : AddressProblem)
deriving DecidableEq, Repr

def ServerError.message : ServerError → String
  | .unreachable => "Network error: error sending request"
  | .refused status body => "HTTP " ++ toString status ++ ": " ++ body
  | .unexpected path detail => "Unexpected response from " ++ path ++ ": " ++ detail
  | .badAddress url problem => "Invalid server URL '" ++ url ++ "': " ++ problem.message

end ScpiConsole
