import ScpiConsole.Key
/-!
# Keys of the prompt

* `Press` : a key event of the terminal
* `Action` : what the prompt does about it
-/

namespace ScpiConsole.Prompt

/-- A key event. A key that the console does not know is `none`. -/
structure Press where
  key : Option Key
  control : Bool := false
  /-- The key was let go. -/
  released : Bool := false
deriving DecidableEq, Repr, Inhabited

/-- What the prompt does about a key. -/
inductive Action where
  | edit (key : Key)
  | complete
  | submit
  /-- Drops the input, or leaves when there is none. -/
  | interrupt
  | quit
  | ignore
deriving DecidableEq, Repr

def Press.action (p : Press) : Action :=
  if p.released then .ignore
  else if p.control then
    match p.key with
    | some (.char 'c') => .interrupt
    | some (.char 'd') => .quit
    | _ => .ignore
  else
    match p.key with
    | some .tab => .complete
    | some .enter => .submit
    | some key => .edit key
    | none => .ignore

end ScpiConsole.Prompt
