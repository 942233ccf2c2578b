import ScpiConsole.Text.Lines
import ScpiConsole.Text.Utf8
/-!
# Tables of code points

A table is a list of lines, with a blank between each two entries of a line. Numbers in it are
hexadecimal.

* `ranges` : the entry `41-5A` holds all code points from the one to the other
* `shifts` : the entry `C0-D6>E0` takes these code points to those from `E0` on
* `rows` : the entry `B2=32,BC.33` gives a text to each code point from `B2` on
-/

namespace ScpiConsole.Unicode

/-- The value of hexadecimal digits. -/
def hexNumber (digits : List Char) : Nat :=
  digits.foldl (fun n c => 16 * n + (Text.hexValue c).getD 0) 0

/-- What the entries of a table say. -/
def entries {α : Type} (read : List Char → α) (table : List String) : Array α :=
  (table.flatMap fun line => (line.toList.splitOn ' ').map read).toArray

/-- Both parts of an entry; the second is the first when there is but one. -/
def halves (separator : Char) (entry : List Char) : List Char × List Char :=
  (Text.cutOnce separator entry).getD (entry, entry)

/-! ## Sets -/

def range (entry : List Char) : Nat × Nat :=
  let (first, last) := halves '-' entry
  (hexNumber first, hexNumber last)

def ranges (table : List String) : Array (Nat × Nat) := entries range table

def inRange (n : Nat) (r : Nat × Nat) : Bool := r.1 ≤ n && n ≤ r.2

/-- The code point is in one of the ranges. -/
def holds (table : Array (Nat × Nat)) (n : Nat) : Bool := table.any (inRange n)

/-! ## Shifts -/

def shifts (table : List String) : Array ((Nat × Nat) × Nat) :=
  entries (fun entry => (range (halves '>' entry).1, hexNumber (halves '>' entry).2)) table

/-- Where a code point is taken to. -/
def shifted? (table : Array ((Nat × Nat) × Nat)) (n : Nat) : Option Nat :=
  (table.find? fun s => inRange n s.1).map fun s => s.2 + (n - s.1.1)

/-! ## Rows -/

/-- Texts for consecutive code points. -/
structure Row where
  first : Nat
  texts : List (List Char)
deriving Inhabited

def row (entry : List Char) : Row :=
  let (first, texts) := halves '=' entry
  ⟨hexNumber first, (texts.splitOn ',').map fun text =>
    (text.splitOn '.').map fun digits => Char.ofNat (hexNumber digits)⟩

def rows (table : List String) : Array Row := entries row table

/-- The text for a code point. -/
def textOf? (table : Array Row) (n : Nat) : Option (List Char) :=
  table.findSome? fun r => if r.first ≤ n then r.texts[n - r.first]? else none

/-- The code point in the row that a text is for. -/
def Row.placeOf? (text : List Char) (r : Row) : Option Nat :=
  (r.texts.findIdx? (· == text)).map (r.first + ·)

end ScpiConsole.Unicode
