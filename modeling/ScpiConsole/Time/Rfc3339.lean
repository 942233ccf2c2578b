import ScpiConsole.Time.Timestamp
import ScpiConsole.Text.Numeral
import ScpiConsole.Text.Blank
import ScpiConsole.Text.Ascii
/-!
# Dates and times as text

* `Timestamp.rfc3339` : the written form, in UTC
* `Timestamp.read?` : the forms that are read, with any offset
* `Timestamp.dateText`, `clockText`, `stampText`, `fileText` : forms for display and file names
-/

namespace ScpiConsole.Timestamp

open Text

/-! ## Writing -/

/-- Four digits, or a sign and at least four when the year has more or is negative. -/
def yearText (year : Int) : List Char :=
  if 0 ≤ year ∧ year ≤ 9999 then padded 4 year.toNat
  else if year < 0 then '-' :: padded 4 year.natAbs
  else '+' :: padded 4 year.natAbs

/-- Year, month and day with dashes. -/
def dateText (t : Timestamp) : List Char :=
  yearText t.date.year ++ '-' :: padded 2 t.date.month ++ '-' :: padded 2 t.date.day

/-- Hour, minute and second with colons. -/
def clockText (t : Timestamp) : List Char :=
  padded 2 t.hour ++ ':' :: padded 2 t.minute ++ ':' :: padded 2 t.second

/-- Date and time to the millisecond. -/
def stampText (t : Timestamp) : List Char :=
  t.dateText ++ ' ' :: t.clockText ++ '.' :: padded 3 (t.nano / 1000000)

/-- Date and time without separators, for file names. -/
def fileText (t : Timestamp) : List Char :=
  yearText t.date.year ++ padded 2 t.date.month ++ padded 2 t.date.day ++
    'T' :: padded 2 t.hour ++ padded 2 t.minute ++ padded 2 t.second

/-- No fraction, or the fewest of 3, 6 and 9 digits that are exact. -/
def fractionText (nano : Nat) : List Char :=
  if nano = 0 then []
  else if nano % 1000000 = 0 then '.' :: padded 3 (nano / 1000000)
  else if nano % 1000 = 0 then '.' :: padded 6 (nano / 1000)
  else '.' :: padded 9 nano

/-- The form in which a moment is stored. -/
def rfc3339 (t : Timestamp) : List Char :=
  t.dateText ++ 'T' :: t.clockText ++ fractionText t.nano ++ ['Z']

/-! ## Reading -/

/-- After blanks, one to `width` digits. -/
def numberUpTo (width : Nat) (s : List Char) : Option (Nat × List Char) :=
  let s := trimStart s
  let digits := (s.take width).takeWhile isDigit
  if digits.isEmpty then none else some (digitsValue digits, s.drop digits.length)

/-- After blanks, a year of one to four digits, or of any number after a sign. -/
def year? (s : List Char) : Option (Int × List Char) :=
  match trimStart s with
  | '-' :: s => (signless s).map fun (n, s) => (- Int.ofNat n, s)
  | '+' :: s => (signless s).map fun (n, s) => (Int.ofNat n, s)
  | s => (numberUpTo 4 s).map fun (n, s) => (Int.ofNat n, s)
where
  signless (s : List Char) : Option (Nat × List Char) :=
    let digits := s.takeWhile isDigit
    if digits.isEmpty then none else some (digitsValue digits, s.dropWhile isDigit)

/-- After blanks, that character. -/
def mark (c : Char) (s : List Char) : Option (List Char) :=
  match trimStart s with
  | d :: s => if c = d then some s else none
  | [] => none

/-- A point and digits, of which nine count. -/
def fraction? : List Char → Option (Nat × List Char)
  | '.' :: s =>
    let digits := s.takeWhile isDigit
    let read := digits.take 9
    if digits.isEmpty then none
    else some (digitsValue read * Nat.pow 10 (9 - read.length), s.dropWhile isDigit)
  | s => some (0, s)

/-- Two digits. -/
def twoDigits? : List Char → Option (Nat × List Char)
  | a :: b :: s =>
    if isDigit a && isDigit b then some (10 * digitValue a + digitValue b, s) else none
  | _ => none

/-- Hours and minutes of a signed offset, in minutes. -/
def signedOffset? (s : List Char) : Option (Int × List Char) := do
  let (hours, s) ← twoDigits? s
  let (minutes, s) ← twoDigits? (s.dropWhile fun c => c == ':' || isBlank c)
  guard (hours < 24 && minutes < 60)
  pure (Int.ofNat (60 * hours + minutes), s)

/-- The offset from UTC in minutes: `Z`, the letters `UTC`, or a sign with hours and minutes. -/
def offset? (s : List Char) : Option (Int × List Char) :=
  if startsWithText s ['u', 't', 'c'] then some (0, s.drop 3)
  else match s with
    | 'Z' :: s | 'z' :: s => some (0, s)
    | '+' :: s => signedOffset? s
    | '-' :: s | '−' :: s => (signedOffset? s).map fun (n, s) => (-n, s)
    | _ => none

/-- A date, `T` or a blank, a time with an optional fraction of a second, and an offset. Blanks may
stand before every number, mark and offset. -/
def read? (s : List Char) : Option Timestamp := do
  let (year, s) ← year? s
  let s ← mark '-' s
  let (month, s) ← numberUpTo 2 s
  let s ← mark '-' s
  let (day, s) ← numberUpTo 2 s
  let s ← match s with
    | c :: s => if c == 'T' || c == 't' || c == ' ' then some s else none
    | [] => none
  let (hour, s) ← numberUpTo 2 s
  let s ← mark ':' s
  let (minute, s) ← numberUpTo 2 s
  let s ← mark ':' s
  let (second, s) ← numberUpTo 2 s
  let (nano, s) ← fraction? s
  let (offset, s) ← offset? (trimStart s)
  guard (trimStart s).isEmpty
  let date ← Date.of? year month day
  let t ← of? date hour minute second nano
  t.minus? offset

end ScpiConsole.Timestamp
