import ScpiConsole.Json.Basic
import ScpiConsole.Decimal.Shortest
import ScpiConsole.Text.Utf8
/-!
# Writing JSON

* `Json.pretty` : one item or member per line, two blanks per level, empty containers closed at once
* `Json.compact` : no blanks at all
-/

namespace ScpiConsole.Json

/-! ## Scalars -/

/-- A character of a string: quote, backslash and controls below U+0020 are escaped. -/
def escapeChar (c : Char) : List Char :=
  if c = '"' then ['\\', '"']
  else if c = '\\' then ['\\', '\\']
  else if c = '\x08' then ['\\', 'b']
  else if c = '\t' then ['\\', 't']
  else if c = '\n' then ['\\', 'n']
  else if c = '\x0c' then ['\\', 'f']
  else if c = '\r' then ['\\', 'r']
  else if c.toNat < 0x20 then
    ['\\', 'u', '0', '0', Text.hexDigit false (c.toNat / 16), Text.hexDigit false (c.toNat % 16)]
  else [c]

def quote (s : String) : List Char := '"' :: s.toList.flatMap escapeChar ++ ['"']

def numberText : Number → List Char
  | .int n => if n < 0 then '-' :: Text.numeral n.natAbs else Text.numeral n.natAbs
  | .real bits => Decimal.render bits

def scalarText : Json → List Char
  | .bool true => "true".toList
  | .bool false => "false".toList
  | .number n => numberText n
  | .string s => quote s
  | _ => "null".toList

/-! ## Containers -/

/-- A line break and the blanks of a level. -/
def newLine (level : Nat) : List Char := '\n' :: List.replicate (2 * level) ' '

mutual

/-- The value as it stands at a level of nesting. -/
def prettyAt (level : Nat) : Json → List Char
  | .array [] => ['[', ']']
  | .array (v :: rest) =>
    '[' :: newLine (level + 1) ++ prettyAt (level + 1) v ++ prettyItems (level + 1) rest ++
      newLine level ++ [']']
  | .object [] => ['{', '}']
  | .object ((k, v) :: rest) =>
    '{' :: newLine (level + 1) ++ quote k ++ ':' :: ' ' :: prettyAt (level + 1) v ++
      prettyMembers (level + 1) rest ++ newLine level ++ ['}']
  | v => scalarText v

/-- The items after the first. -/
def prettyItems (level : Nat) : List Json → List Char
  | [] => []
  | v :: rest => ',' :: newLine level ++ prettyAt level v ++ prettyItems level rest

/-- The members after the first. -/
def prettyMembers (level : Nat) : List (String × Json) → List Char
  | [] => []
  | (k, v) :: rest =>
    ',' :: newLine level ++ quote k ++ ':' :: ' ' :: prettyAt level v ++ prettyMembers level rest

end

/-- The indented text of a value. -/
def pretty (v : Json) : String := .ofList (prettyAt 0 v)

mutual

def compactText : Json → List Char
  | .array [] => ['[', ']']
  | .array (v :: rest) => '[' :: compactText v ++ compactItems rest ++ [']']
  | .object [] => ['{', '}']
  | .object ((k, v) :: rest) =>
    '{' :: quote k ++ ':' :: compactText v ++ compactMembers rest ++ ['}']
  | v => scalarText v

def compactItems : List Json → List Char
  | [] => []
  | v :: rest => ',' :: compactText v ++ compactItems rest

def compactMembers : List (String × Json) → List Char
  | [] => []
  | (k, v) :: rest => ',' :: quote k ++ ':' :: compactText v ++ compactMembers rest

end

/-- The text of a value on one line. -/
def compact (v : Json) : String := .ofList (compactText v)

end ScpiConsole.Json
