import ScpiConsole.Text.Ascii
import ScpiConsole.Text.Blank
import ScpiConsole.Unicode.Direction
import ScpiConsole.Unicode.Joining
import ScpiConsole.Unicode.NormalForm
import ScpiConsole.Url.DomainName.Mapping
import ScpiConsole.Url.Punycode
/-!
# Domain names

Names of any characters, as UTS 46 reads them for URLs. A name is brought to its normal form, in
which case and width do not count, and then each label between two dots has to be one.

* `mapped?` : what a character stands for in a name
* `labelText?` : the text of a label, which may be written in Punycode
* `isLabel`, `fitsDirection` : the rules for labels
* `normal?` : the normal form of a name
-/

namespace ScpiConsole.DomainName

open Unicode

/-! ## Characters -/

def isAscii (c : Char) : Bool := c.toNat < 0x80

/-- What a character stands for in a name; a character that no name holds stands for nothing. -/
def mapped? (c : Char) : Option (List Char) :=
  let n := c.toNat
  if isAscii c then some [Text.foldChar c]
  else if holds valid n then some [c]
  else if holds ignored n then some []
  else
    match alternating.find? (inRange n) with
    | some r => some [if (n - r.1) % 2 = 0 then Char.ofNat (n + 1) else c]
    | none =>
      match shifted? shifted n with
      | some m => some [Char.ofNat m]
      | none => textOf? replaced n

/-- The text that the characters stand for, composed. -/
def mapText? (s : List Char) : Option (List Char) :=
  (s.mapM mapped?).map fun parts =>
    if parts.flatten.all isAscii then parts.flatten else normalForm parts.flatten

/-- An ASCII character that has a meaning of its own in URLs, or that cannot be seen. -/
def isDenied (c : Char) : Bool :=
  c.toNat ≤ 0x20 || c.toNat == 0x7F || "%#/:<>?@[\\]^|".toList.contains c

/-! ## Labels -/

/-- The most characters of a label that are not all ASCII. -/
def maxLabel : Nat := 1000

/-- The most characters of the Punycode of a label. -/
def maxCode : Nat := 2000

/-- The text of a label. Behind `xn--` it is written in Punycode, and has to be a text in normal
form that needs it. -/
def labelText? (label : List Char) : Option (List Char) :=
  match label with
  | 'x' :: 'n' :: '-' :: '-' :: code =>
    if code.isEmpty || code.getLast? == some '-' || maxCode < code.length then none
    else
      match Punycode.decode? code with
      | some text =>
        if mapText? text = some text ∧ !"xn--".toList.isPrefixOf text then some text else none
      | none => none
  | _ => some label

def isVirama (c : Char) : Bool := combiningClass c == viramaClass

/-- The joiners U+200C and U+200D stand behind a virama. The first one may also stand between two
letters that it keeps from joining. `before` is the text before, from its end. -/
def joinersFit (before : List Char) : List Char → Bool
  | [] => true
  | c :: rest =>
    let behindVirama := (before.head?.map isVirama).getD false
    let between := ((before.dropWhile isTransparent).head?.map joinsNext).getD false &&
      ((rest.dropWhile isTransparent).head?.map joinsPrevious).getD false
    (match c.toNat with
      | 0x200C => behindVirama || between
      | 0x200D => behindVirama
      | _ => true) && joinersFit (c :: before) rest

/-- The rules for the text of a single label. -/
def isLabel (text : List Char) : Bool :=
  text.all isAscii || (!(text.head?.map isMark).getD false && joinersFit [] text &&
    text.length ≤ maxLabel)

/-- The rule of RFC 5893, which keeps the characters of a label together on the screen. -/
def fitsDirection (text : List Char) : Bool :=
  let all := text.map direction
  let last := (Text.dropEndWhile (· == .mark) all).getLast?
  match all.head? with
  | none => true
  | some .left =>
    !all.contains .right && !all.contains .arabicNumber &&
      (last == some .left || last == some .number)
  | some .right =>
    !all.contains .left && last != some .neutral &&
      !(all.contains .number && all.contains .arabicNumber)
  | some _ => false

/-- A part of the name goes from right to left, so that the rule on directions counts. -/
def hasRightToLeft (texts : List (List Char)) : Bool :=
  texts.any fun text => text.any fun c =>
    !isAscii c && (direction c == .right || direction c == .arabicNumber)

/-! ## Names -/

/-- The normal form of a name. -/
def normal? (name : List Char) : Option (List Char) :=
  match mapText? name with
  | some text =>
    if text.any isDenied then none
    else
      match (text.splitOn '.').mapM labelText? with
      | some labels =>
        if labels.all isLabel && (!hasRightToLeft labels || labels.all fitsDirection) then some text
        else none
      | none => none
  | none => none

end ScpiConsole.DomainName
