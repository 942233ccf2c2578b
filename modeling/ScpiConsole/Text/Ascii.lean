/-!
# Letter case of ASCII text

Mnemonics are compared without regard to the case of ASCII letters. Every other character is equal
only to itself.

* `foldCase` : ASCII capitals made small
* `sameText` : equality after folding
* `startsWithText` : a head of the text, after folding
-/

namespace ScpiConsole.Text

def isCapital (c : Char) : Bool := 'A' ≤ c && c ≤ 'Z'

def isSmall (c : Char) : Bool := 'a' ≤ c && c ≤ 'z'

def isLetter (c : Char) : Bool := isCapital c || isSmall c

/-- An ASCII capital becomes the small letter, all else stays. -/
def foldChar (c : Char) : Char :=
  if isCapital c then Char.ofNat (c.toNat + 32) else c

def foldCase (s : List Char) : List Char := s.map foldChar

/-- The two texts differ in the case of ASCII letters only. -/
def sameText (s t : List Char) : Bool := foldCase s == foldCase t

/-- `s` starts with `head`, up to the case of ASCII letters. -/
def startsWithText (s head : List Char) : Bool := (foldCase head).isPrefixOf (foldCase s)

theorem sameText_iff {s t : List Char} : sameText s t = true ↔ foldCase s = foldCase t := by
  simp [sameText]

theorem startsWithText_iff {s head : List Char} :
    startsWithText s head = true ↔ foldCase head <+: foldCase s := by
  simp [startsWithText]

@[simp] theorem sameText_self (s : List Char) : sameText s s = true := by simp [sameText]

theorem startsWithText_nil (s : List Char) : startsWithText s [] = true := by
  simp [startsWithText, foldCase]

end ScpiConsole.Text
