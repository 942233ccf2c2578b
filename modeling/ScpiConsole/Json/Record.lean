import ScpiConsole.Json.Basic
/-!
# Records in JSON

A record is written as an object, or as an array of its fields in order. Members that no field has
are passed over, a field given twice is refused.

* `Json.fields?` : what a value holds for each field name
* `text?`, `flag?`, `word?`, … : what a single field may hold
-/

namespace ScpiConsole.Json

/-! ## Fields -/

/-- The one member of that name, `none` inside when there is no such member. -/
def member? (name : String) (members : List (String × Json)) : Option (Option Json) :=
  match members.filter (·.1 = name) with
  | [] => some none
  | [m] => some (some m.2)
  | _ => none

/-- What the value holds for each name. An array may leave out fields at its end. -/
def fields? (names : List String) : Json → Option (List (Option Json))
  | .object members => names.mapM fun name => member? name members
  | .array items =>
    if items.length ≤ names.length then
      some (items.map some ++ List.replicate (names.length - items.length) none)
    else none
  | _ => none

/-- The field that must be there. -/
def required {α : Type} (read : Json → Option α) (field : Option Json) : Option α :=
  field.bind read

/-- The field that has a default when it is left out. -/
def optional {α : Type} (default : α) (read : Json → Option α) : Option Json → Option α
  | none => some default
  | some v => read v

/-! ## Scalars -/

def text? : Json → Option String
  | .string s => some s
  | _ => none

def flag? : Json → Option Bool
  | .bool b => some b
  | _ => none

/-- A whole number from zero to below `bound`. -/
def natBelow? (bound : Nat) : Json → Option Nat
  | .number (.int n) => if 0 ≤ n ∧ n.toNat < bound then some n.toNat else none
  | _ => none

def word16? (v : Json) : Option UInt16 := (natBelow? UInt16.size v).map Nat.toUInt16

def word32? (v : Json) : Option UInt32 := (natBelow? UInt32.size v).map Nat.toUInt32

def word64? (v : Json) : Option UInt64 := (natBelow? UInt64.size v).map Nat.toUInt64

/-- An array with items of one kind. -/
def list? {α : Type} (read : Json → Option α) : Json → Option (List α)
  | .array items => items.mapM read
  | _ => none

/-- A value, or `null` for none. -/
def nullable? {α : Type} (read : Json → Option α) : Json → Option (Option α)
  | .null => some none
  | v => (read v).map some

/-- A list in which `null` means empty. -/
def listOrNull? {α : Type} (read : Json → Option α) (v : Json) : Option (List α) :=
  (nullable? (list? read) v).map fun items => items.getD []

/-- The name of a choice: a string, or an object with that one member, which is `null`. -/
def choice? : Json → Option String
  | .string s => some s
  | .object [(name, .null)] => some name
  | _ => none

end ScpiConsole.Json
