import ScpiConsole.Mnemonic
import ScpiConsole.Text.Digit
/-!
# Which mnemonic a segment names

A segment of a command is a mnemonic in full or short form, up to the case of its letters, and maybe
a number.

* `hasNumber`, `number?` : the digits at the end of a segment
* `bare` : the letters of a segment, with its `?`
* `Mnemonic.named` : one of the two forms
* `Mnemonic.selects` : the segment chooses this mnemonic
-/

namespace ScpiConsole

namespace Segment

/-- The segment ends in a digit of any script. -/
def hasNumber (segment : List Char) : Bool :=
  match segment.getLast? with
  | some c => Text.isDecimalDigit c
  | none => false

/-- The number at the end of a segment, when its digits are ASCII and it fits 32 bits. -/
def number? (segment : List Char) : Option UInt32 :=
  match Text.readNat (Text.takeEndWhile Text.isDecimalDigit segment) with
  | some n => if n < UInt32.size then some n.toUInt32 else none
  | none => none

/-- The letters at the start of a segment, and a `?` when it ends in one. -/
def bare (segment : List Char) : List Char :=
  match segment.takeWhile Text.isLetter with
  | [] => []
  | letters => if segment.getLast? = some '?' then letters ++ ['?'] else letters

end Segment

namespace Mnemonic

/-- The full or the short form of the mnemonic. -/
def named (m : Mnemonic) (segment : List Char) : Bool :=
  Text.sameText segment m.text.toList || Text.sameText segment (shortForm m.text.toList)

/-- The segment chooses this mnemonic. A number must lie in the range of a mnemonic that takes one,
and may be left out. -/
def selects (m : Mnemonic) (segment : List Char) : Bool :=
  if !m.suffixed then !Segment.hasNumber segment && m.named segment
  else if !Segment.hasNumber segment then m.named (Segment.bare segment)
  else
    match Segment.number? segment with
    | some n => m.start ≤ n && n ≤ m.stop && m.named (Segment.bare segment)
    | none => false

/-- The mnemonic is named when the `?` of a query may be left out. -/
def namedSansQuery (m : Mnemonic) (segment : List Char) : Bool :=
  m.named segment ||
    match Text.dropTail? ['?'] m.text.toList with
    | some base => (plain (.ofList base)).named segment
    | none => false

end Mnemonic

end ScpiConsole
