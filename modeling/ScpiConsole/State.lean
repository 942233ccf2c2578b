import ScpiConsole.Json.Basic
/-!
# Stored state

Values by name. A run of the client leaves here what the next one starts from.

* `State` : the values, sorted by name
* `Slot` : the names under which the client keeps things
-/

namespace ScpiConsole

/-- Values by name, in the order of the names. -/
structure State where
  members : List (String × Json) := []
deriving Inhabited, Repr

namespace State

def get? (s : State) (name : String) : Option Json := Json.lookup name s.members

def set (s : State) (name : String) (value : Json) : State := ⟨Json.put name value s.members⟩

def remove (s : State) (name : String) : State := ⟨Json.erase name s.members⟩

def clear (_ : State) : State := {}

theorem get?_set_self (s : State) (name : String) (value : Json) :
    (s.set name value).get? name = some value := Json.lookup_put_self name value s.members

theorem get?_set_of_ne (s : State) {name other : String} (h : other ≠ name) (value : Json) :
    (s.set name value).get? other = s.get? other := Json.lookup_put_of_ne h value s.members

end State

/-- What the client keeps. -/
inductive Slot where
  | history
  | interactiveLog
  | scriptLog
  | scriptSource
  | scriptOrigin
  | preferences
deriving DecidableEq, Repr

/-- The name under which it is kept. -/
def Slot.name : Slot → String
  | .history => "history"
  | .interactiveLog => "interactiveLog"
  | .scriptLog => "scriptLog"
  | .scriptSource => "scriptSource"
  | .scriptOrigin => "scriptOrigin"
  | .preferences => "preferences"

end ScpiConsole
