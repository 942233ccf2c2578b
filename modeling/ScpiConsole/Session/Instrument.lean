import ScpiConsole.Session
/-!
# The instrument

* `refreshGrammar`, `loadGrammar` : the grammar of the instrument that is talked to
* `identify` : how the instrument names itself
-/

namespace ScpiConsole.Session

/-- Fetches the grammar of the instrument. Without port and address there is none; when the server
does not give it the one before stays. -/
def refreshGrammar : Act Session (Except ServerError Bool) := do
  let s ← get
  if s.connection.addressable then
    match ← Act.perform (.request (.commands s.connection.port s.connection.address)) with
    | .ok grammar =>
      modify fun s => { s with grammar := some grammar }
      pure (.ok true)
    | .error e => pure (.error e)
  else
    set { s with grammar := none }
    pure (.ok false)

/-- Fetches the grammar; whether it was there. -/
def loadGrammar : Act Session Bool := do
  match ← refreshGrammar with
  | .ok loaded => pure loaded
  | .error _ => pure false

/-- Asks the instrument for its name. The error queue is left alone, and nothing is logged. -/
def identify : Act Session (Except ServerError (Option Identity)) := do
  let s ← get
  let answer ← Act.perform (.request (.send "*IDN?" { s.connection with autoSystErr := false }))
  match answer with
  | .ok reply => pure (.ok (Identity.parse? reply.response))
  | .error e => pure (.error e)

end ScpiConsole.Session
