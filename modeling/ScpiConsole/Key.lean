import ScpiConsole.Text.Blank
import ScpiConsole.Text.Digit
/-!
# Keys

* `Key.isEdit` : the key changes the input
* `Key.keepsSticky` : what an accepted completion left behind survives the key
-/

namespace ScpiConsole

/-- A key of the console. -/
inductive Key where
  | char (c : Char)
  | backspace
  | delete
  | left
  | right
  | up
  | down
  | home
  | endKey
  | tab
  | enter
  | escape
deriving DecidableEq, Repr, Inhabited

namespace Key

/-- Printable characters, backspace and delete. -/
def isEdit : Key → Bool
  | .char c => !Text.isControl c
  | .backspace | .delete => true
  | _ => false

/-- Digits continue a number, and keys without a character start nothing new. -/
def keepsSticky : Key → Bool
  | .char c => Text.isDigit c
  | _ => true

end Key

end ScpiConsole
