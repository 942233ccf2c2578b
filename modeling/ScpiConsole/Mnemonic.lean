import ScpiConsole.Json.Record
import ScpiConsole.Text.Ascii
import ScpiConsole.Text.Blank
import ScpiConsole.Text.Numeral
/-!
# Mnemonics

A mnemonic of an instrument's grammar, such as `MEASure`, `CHANnel{1:4}` or `*IDN?`. Its capitals
spell the short form. A mnemonic may take a number from a range behind it.

* `Mnemonic` : text, range, and whether there is one
* `compare` : by text, then unsuffixed before suffixed, then by range
* `sortDistinct` : in that order, each once
* `label` : the form shown to the operator
-/

namespace ScpiConsole

/-- A mnemonic of the grammar. -/
structure Mnemonic where
  /-- A trailing `?` marks a query, a leading `*` a common command. -/
  text : String
  /-- The first number that may follow. -/
  start : UInt32 := 0
  /-- The last number that may follow. -/
  stop : UInt32 := 0
  /-- Whether a number may follow. -/
  suffixed : Bool := false
deriving DecidableEq, Repr, Inhabited

namespace Mnemonic

/-- A mnemonic without a number. -/
def plain (text : String) : Mnemonic := { text }

/-- A mnemonic with a number from a range. -/
def ranged (text : String) (start stop : UInt32) : Mnemonic := ⟨text, start, stop, true⟩

def isQuery (m : Mnemonic) : Bool := m.text.toList.getLast? == some '?'

def isCommon (m : Mnemonic) : Bool := m.text.toList.head? == some '*'

/-- The short form: the text without its small letters. -/
def shortForm (text : List Char) : List Char := text.filter fun c => !Text.isSmall c

/-! ## Order -/

protected def compare (a b : Mnemonic) : Ordering :=
  (compare a.text b.text).then <| (compare a.suffixed b.suffixed).then <|
    (compare a.start b.start).then (compare a.stop b.stop)

instance : Ord Mnemonic := ⟨Mnemonic.compare⟩

def precedes (a b : Mnemonic) : Bool := (compare a b).isLE

/-- Of neighbours that are equal, the first. -/
def dropRepeats : List Mnemonic → List Mnemonic
  | [] => []
  | [a] => [a]
  | a :: b :: rest => if a = b then dropRepeats (b :: rest) else a :: dropRepeats (b :: rest)

/-- In order, each once. -/
def sortDistinct (ms : List Mnemonic) : List Mnemonic := dropRepeats (ms.mergeSort precedes)

/-! ## Labels -/

/-- The mark of a range. -/
def rangeLabel (start stop : UInt32) : List Char :=
  if start = stop then '{' :: Text.numeral start.toNat ++ ['}']
  else '{' :: Text.numeral start.toNat ++ ':' :: Text.numeral stop.toNat ++ ['}']

/-- A text with the mark of a range, which goes before a trailing `?`. -/
def withRange (text : List Char) (start stop : UInt32) : List Char :=
  match Text.dropTail? ['?'] text with
  | some base => base ++ rangeLabel start stop ++ ['?']
  | none => text ++ rangeLabel start stop

/-- The mnemonic as it is shown, in full or in short form. -/
def label (m : Mnemonic) (short : Bool) : String :=
  let text := if short then shortForm m.text.toList else m.text.toList
  .ofList (if m.suffixed then withRange text m.start m.stop else text)

/-! ## JSON -/

def toJson (m : Mnemonic) : Json :=
  .object [("start", .nat m.start.toNat), ("stop", .nat m.stop.toNat),
    ("suffixed", .bool m.suffixed), ("text", .string m.text)]

def ofJson? (v : Json) : Option Mnemonic := do
  match ← v.fields? ["text", "start", "stop", "suffixed"] with
  | [text, start, stop, suffixed] =>
    pure {
      text := ← Json.required Json.text? text
      start := ← Json.optional 0 Json.word32? start
      stop := ← Json.optional 0 Json.word32? stop
      suffixed := ← Json.optional false Json.flag? suffixed }
  | _ => none

end Mnemonic

end ScpiConsole
