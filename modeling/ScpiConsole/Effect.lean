import ScpiConsole.Server
import ScpiConsole.State.File
import ScpiConsole.Time.Timestamp
/-!
# Effects

* `Effect`, `Effect.Answer` : what the client asks of its surroundings, each with the kind of answer
-/

namespace ScpiConsole

/-- What the client asks of its surroundings. -/
inductive Effect where
  /-- Ask the server. -/
  | request (r : Request)
  /-- Make the stored state available. -/
  | openState
  /-- The stored value. -/
  | load (slot : Slot)
  /-- Store a value in place of the one before. -/
  | save (slot : Slot) (value : Json)
  /-- The time of day. -/
  | now
  /-- Nanoseconds since some moment before. -/
  | uptime
  /-- Whether the operator wants the script to stop. -/
  | cancelled
  | readBytes (path : String)
  | writeText (path : String) (text : String)
  | clipboard
  /-- Write to the operator. -/
  | print (text : String)
  /-- Write to the operator, apart from the output. -/
  | complain (text : String)
  /-- Take keys from the terminal one by one, or leave that to the terminal. -/
  | rawMode (on : Bool)
  /-- Show all that was written, and wait for the operator. -/
  | await
deriving Repr

/-- What an effect is answered with. -/
abbrev Effect.Answer : Effect → Type
  | .request r => Except ServerError r.Answer
  | .openState => Except StateError Unit
  | .load _ => Option Json
  | .save _ _ => Except StateError Unit
  | .now => Timestamp
  | .uptime => Nat
  | .cancelled => Bool
  | .readBytes _ => Except IoError (List UInt8)
  | .writeText _ _ => Except IoError Unit
  | .clipboard => Except String String
  | .print _ | .complain _ | .rawMode _ | .await => Unit

end ScpiConsole
