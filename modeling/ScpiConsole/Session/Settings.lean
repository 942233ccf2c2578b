import ScpiConsole.Session
/-!
# Settings

Port and address of the instrument are kept on the server. What else a connection needs is among the
preferences, which are kept with the state. Either way a change counts in the session first, and is
not taken back when it cannot be stored.

* `commitPort`, `commitAddress`, `commitTimeout` : a typed value
* `loadDefaults` : port and address from the server
* `reset` : all settings back to their defaults
-/

namespace ScpiConsole

/-- What became of a typed value. -/
inductive Commit where
  | changed
  | unchanged
deriving DecidableEq, Repr

namespace Session

/-! ## Preferences -/

/-- Changes the preferences and stores them. -/
def changePreferences (change : Preferences → Preferences) :
    Act Session (Except StateError Unit) := do
  modify fun s => { s with preferences := change s.preferences }
  let s ← get
  Act.perform (.save .preferences s.preferences.toJson)

/-- Makes the connection agree with the preferences. -/
def applyPreferences : Act Session Unit :=
  modify fun s => { s with connection := s.preferences.apply s.connection }

/-- Changes the preferences, for the next command on. -/
def updatePreferences (change : Preferences → Preferences) : Act Session Unit := do
  let _ ← changePreferences change
  applyPreferences

def setSimulated (simulated : Bool) : Act Session Unit :=
  updatePreferences fun p => { p with simulated }

def setAutoSystErr (autoSystErr : Bool) : Act Session Unit :=
  updatePreferences fun p => { p with autoSystErr }

/-! ## Typed values -/

/-- A typed port. A new one is stored on the server. -/
def commitPort (input : String) : Act Session (Except InputError Commit) := do
  match readPort input with
  | .error e => pure (.error e)
  | .ok port =>
    let s ← get
    if s.connection.port = port then pure (.ok .unchanged)
    else
      set { s with connection := { s.connection with port } }
      let _ ← Act.perform (.request (.setPort port))
      pure (.ok .changed)

/-- A typed address. A new one is stored on the server; a blank one is passed over. -/
def commitAddress (input : String) : Act Session Commit := do
  let address := Text.trimmed input
  let s ← get
  if address = "" ∨ s.connection.address = address then pure .unchanged
  else
    set { s with connection := { s.connection with address } }
    let _ ← Act.perform (.request (.setAddress address))
    pure .changed

/-- A typed timeout. A new one joins the preferences. -/
def commitTimeout (input : String) : Act Session (Except InputError Commit) := do
  match readTimeout input with
  | .error e => pure (.error e)
  | .ok timeoutSeconds =>
    let s ← get
    if s.connection.timeoutSeconds = timeoutSeconds then pure (.ok .unchanged)
    else
      updatePreferences fun p => { p with timeoutSeconds }
      pure (.ok .changed)

/-! ## The server's values -/

/-- Takes over port and address from the server, both or none. -/
def loadDefaults : Act Session (Except ServerError Connection) := do
  match ← Act.perform (.request .port) with
  | .error e => pure (.error e)
  | .ok port =>
    match ← Act.perform (.request .address) with
    | .error e => pure (.error e)
    | .ok address =>
      modify fun s => { s with connection := { s.connection with port, address } }
      let s ← get
      pure (.ok s.connection)

/-- Forgets the settings on the server and the preferences, and takes over what the server then
has. -/
def reset : Act Session (Except ServerError Connection) := do
  match ← Act.perform (.request .resetPreferences) with
  | .error e => pure (.error e)
  | .ok _ =>
    updatePreferences fun _ => {}
    loadDefaults

/-- Changes the connection for this session only. -/
def override (change : Connection → Connection) : Act Session Unit :=
  modify fun s => { s with connection := change s.connection }

end Session

end ScpiConsole
