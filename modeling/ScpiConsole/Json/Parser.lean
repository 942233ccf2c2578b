import ScpiConsole.Json.Basic
import ScpiConsole.Text.Numeral
import ScpiConsole.Text.Utf8
/-!
# Reading JSON

A strict reader: one value, nothing but blanks around it, no leading zeros, no trailing commas.

* `Json.ofText?` : any document, with `unreadable` for parts that denote no value
* `Json.parse?` : a document that denotes a value, at most 127 levels deep
-/

namespace ScpiConsole.Json

/-- The white space that may stand between tokens. -/
def isSpace (c : Char) : Bool := c == ' ' || c == '\t' || c == '\n' || c == '\r'

def skip (s : List Char) : List Char := s.dropWhile isSpace

/-! ## Strings -/

/-- The code unit after `\u`. -/
def codeUnit (a b c d : Char) : Option Nat := do
  let w ← Text.hexValue a
  let x ← Text.hexValue b
  let y ← Text.hexValue c
  let z ← Text.hexValue d
  pure (((w * 16 + x) * 16 + y) * 16 + z)

/-- The character that a backslash and this letter stand for. -/
def escaped : Char → Option Char
  | '"' => some '"'
  | '\\' => some '\\'
  | '/' => some '/'
  | 'b' => some '\x08'
  | 'f' => some '\x0c'
  | 'n' => some '\n'
  | 'r' => some '\r'
  | 't' => some '\t'
  | _ => none

/-- One piece of a string: a character, or half of a surrogate pair. -/
inductive Piece where
  | char (c : Char)
  | surrogate (unit : Nat)

/-- The pieces up to the closing quote, and what follows it. -/
def pieces : List Char → Option (List Piece × List Char)
  | [] => none
  | '"' :: s => some ([], s)
  | '\\' :: 'u' :: a :: b :: c :: d :: s => do
    let unit ← codeUnit a b c d
    let (rest, s) ← pieces s
    let piece := if 0xD800 ≤ unit ∧ unit ≤ 0xDFFF then .surrogate unit else .char (Char.ofNat unit)
    pure (piece :: rest, s)
  | '\\' :: c :: s => do
    let e ← escaped c
    let (rest, s) ← pieces s
    pure (.char e :: rest, s)
  | c :: s =>
    if c == '\\' || c.toNat < 0x20 then none
    else do
      let (rest, s) ← pieces s
      pure (.char c :: rest, s)

/-- A high and a low surrogate make one character; a surrogate without its partner makes none. -/
def joinPieces : List Piece → Option (List Char)
  | [] => some []
  | .char c :: rest => (joinPieces rest).map (c :: ·)
  | .surrogate high :: .surrogate low :: rest =>
    if high < 0xDC00 ∧ 0xDC00 ≤ low then
      (joinPieces rest).map (Char.ofNat (0x10000 + (high - 0xD800) * 0x400 + (low - 0xDC00)) :: ·)
    else none
  | .surrogate _ :: _ => none

/-! ## Numbers -/

/-- A number as written. -/
structure Numeral where
  negative : Bool
  whole : List Char
  fraction : List Char
  /-- Sign and digits of the power of ten. -/
  power : Option (Bool × List Char)

/-- One digit or more, and what follows them. -/
def digits? (s : List Char) : Option (List Char × List Char) :=
  let digits := s.takeWhile Text.isDigit
  if digits.isEmpty then none else some (digits, s.dropWhile Text.isDigit)

/-- The digits behind a point. Without a point there are none. -/
def fraction? : List Char → Option (List Char × List Char)
  | '.' :: s => digits? s
  | s => some ([], s)

/-- Sign and digits of a power of ten, after its letter. -/
def signedPower? : List Char → Option ((Bool × List Char) × List Char)
  | '-' :: s => (digits? s).map fun (digits, s) => ((true, digits), s)
  | '+' :: s => (digits? s).map fun (digits, s) => ((false, digits), s)
  | s => (digits? s).map fun (digits, s) => ((false, digits), s)

/-- The power of ten, if there is one. -/
def power? : List Char → Option (Option (Bool × List Char) × List Char)
  | 'e' :: s | 'E' :: s => (signedPower? s).map fun (power, s) => (some power, s)
  | s => some (none, s)

/-- A number behind its sign. -/
def unsigned? (negative : Bool) (s : List Char) : Option (Numeral × List Char) := do
  let (whole, s) ← digits? s
  guard (whole.head? != some '0' || whole.length == 1)
  let (fraction, s) ← fraction? s
  let (power, s) ← power? s
  pure (⟨negative, whole, fraction, power⟩, s)

/-- A number without leading zeros, and what follows it. -/
def numeral? : List Char → Option (Numeral × List Char)
  | '-' :: s => unsigned? true s
  | s => unsigned? false s

/-- Appends digits to a 64-bit significand while they fit; the digits that did not. -/
def significand (n : Nat) : List Char → Nat × List Char
  | [] => (n, [])
  | c :: s =>
    let next := 10 * n + Text.digitValue c
    if next < UInt64.size then significand next s else (n, c :: s)

/-- The double next to `x · 10 ^ e`, by one multiplication or division with a power of ten that is
a double itself; `none` beyond the largest double. -/
def scaled : Nat → Float → Int → Option Float
  | 0, _, _ => some 0
  | fuel + 1, x, e =>
    if e.natAbs ≤ 308 then
      let power := Float.ofScientific 1 false e.natAbs
      if 0 ≤ e then
        let y := x * power
        if y.isInf then none else some y
      else some (x / power)
    else if x == 0 then some x
    else if 0 ≤ e then none
    else scaled fuel (x / Float.ofScientific 1 false 308) (e + 308)

/-- The number that a numeral stands for: whole while it fits 64 bits, else a double. Digits beyond
the 64-bit significand count by their place only. -/
def Numeral.value? (n : Numeral) : Option Number :=
  let (whole, unread) := significand 0 n.whole
  if n.fraction.isEmpty && n.power.isNone && unread.isEmpty && (!n.negative || whole != 0) &&
      (!n.negative || whole ≤ 9223372036854775808) then
    some (.int (if n.negative then - Int.ofNat whole else whole))
  else
    let (digits, unreadFraction) := significand whole n.fraction
    let place := Int.ofNat unread.length - Int.ofNat (n.fraction.length - unreadFraction.length)
    let signed (x : Float) : Number := .real (if n.negative then (-x).toBits else x.toBits)
    match n.power with
    | none => (scaled 4 digits.toUInt64.toFloat place).map signed
    | some (negative, power) =>
      let power := Text.digitsValue power
      if 2147483648 ≤ power then
        if digits != 0 && !negative then none else some (signed 0)
      else
        (scaled 4 digits.toUInt64.toFloat (if negative then place - power else place + power)).map
          signed

/-! ## Values -/

mutual

/-- A value, and what follows it. The first argument bounds the number of steps. -/
def value : Nat → List Char → Option (Json × List Char)
  | 0, _ => none
  | n + 1, s =>
    match skip s with
    | 'n' :: 'u' :: 'l' :: 'l' :: s => some (.null, s)
    | 't' :: 'r' :: 'u' :: 'e' :: s => some (.bool true, s)
    | 'f' :: 'a' :: 'l' :: 's' :: 'e' :: s => some (.bool false, s)
    | '"' :: s => do
      let (parts, s) ← pieces s
      pure (((joinPieces parts).map fun t => Json.string (.ofList t)).getD .unreadable, s)
    | '[' :: s =>
      match skip s with
      | ']' :: s => some (.array [], s)
      | s => do
        let (vs, s) ← items n s
        pure (.array vs, s)
    | '{' :: s =>
      match skip s with
      | '}' :: s => some (.object [], s)
      | s => do
        let (ms, s) ← members n s
        pure ((ms.map Json.object).getD .unreadable, s)
    | s => do
      let (literal, s) ← numeral? s
      pure ((literal.value?.map Json.number).getD .unreadable, s)

/-- The values up to the closing bracket. -/
def items : Nat → List Char → Option (List Json × List Char)
  | 0, _ => none
  | n + 1, s => do
    let (v, s) ← value n s
    match skip s with
    | ']' :: s => some ([v], s)
    | ',' :: s => do
      let (vs, s) ← items n s
      pure (v :: vs, s)
    | _ => none

/-- The members up to the closing brace; `none` in the first part when a name is unreadable. -/
def members : Nat → List Char → Option (Option (List (String × Json)) × List Char)
  | 0, _ => none
  | n + 1, s =>
    match skip s with
    | '"' :: s => do
      let (parts, s) ← pieces s
      let name := (joinPieces parts).map String.ofList
      match skip s with
      | ':' :: s => do
        let (v, s) ← value n s
        let first := name.map fun k => (k, v)
        match skip s with
        | '}' :: s => some (first.map ([·]), s)
        | ',' :: s => do
          let (ms, s) ← members n s
          pure (first.bind fun m => ms.map (m :: ·), s)
        | _ => none
      | _ => none
    | _ => none

end

/-- The value of a whole document. A step that reads no character is followed by one that does, so
twice the length of the text bounds the steps. -/
def ofText? (text : List Char) : Option Json :=
  match value (2 * text.length + 2) text with
  | some (v, rest) => if (skip rest).isEmpty then some v else none
  | none => none

/-- The deepest nesting of arrays and objects that a reader follows. -/
def maxNesting : Nat := 127

/-- The value of a document in which every part has a value, in canonical form. -/
def parse? (text : String) : Option Json := do
  let v ← ofText? text.toList
  guard (v.readable && v.nesting ≤ maxNesting)
  pure v.canonical

end ScpiConsole.Json
