import ScpiConsole.Text.Digit
/-!
# Decimal numerals

* `numeral` : the shortest numeral of a number
* `readNat`, `readInt` : the number that a numeral stands for, leading zeros allowed
* `padded` : a numeral of at least a given width
-/

namespace ScpiConsole.Text

/-- The numeral of `n`, without leading zeros. -/
def numeral (n : Nat) : List Char := Nat.toDigits 10 n

/-- The value of a row of digits. -/
def digitsValue (s : List Char) : Nat := s.foldl (fun n c => 10 * n + digitValue c) 0

/-- One or more ASCII digits. -/
def readNat (s : List Char) : Option Nat :=
  if !s.isEmpty && s.all isDigit then some (digitsValue s) else none

/-- A numeral that may follow one `+`. -/
def readUnsigned : List Char → Option Nat
  | '+' :: s => readNat s
  | s => readNat s

/-- A numeral that may follow one `+` or `-`. -/
def readInt : List Char → Option Int
  | '+' :: s => (readNat s).map Int.ofNat
  | '-' :: s => (readNat s).map fun n => - Int.ofNat n
  | s => (readNat s).map Int.ofNat

/-- The numeral of `n`, filled up with zeros on the left to `width` digits. -/
def padded (width n : Nat) : List Char :=
  List.replicate (width - (numeral n).length) '0' ++ numeral n

/-- The numeral of `n`, filled up with blanks on the left to `width` characters. -/
def rightAligned (width n : Nat) : List Char :=
  List.replicate (width - (numeral n).length) ' ' ++ numeral n

end ScpiConsole.Text
