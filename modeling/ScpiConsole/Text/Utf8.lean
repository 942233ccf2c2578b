/-!
# UTF-8

Bytes and the characters they encode, and the percent form that a URL gives to bytes.

* `utf8Bytes` : the bytes of a character
* `decodeUtf8` : one step per character; a bad sequence is told apart from a character
* `lossyText` : a text for any bytes, with U+FFFD for every bad sequence
* `strictText?` : a text for bytes that hold no bad sequence
* `percentEncode`, `percentDecode`
-/

namespace ScpiConsole.Text

/-- The UTF-8 form of a character. -/
def utf8Bytes (c : Char) : List UInt8 :=
  let n := c.toNat
  if n < 0x80 then [n.toUInt8]
  else if n < 0x800 then [(0xC0 + n / 64).toUInt8, (0x80 + n % 64).toUInt8]
  else if n < 0x10000 then
    [(0xE0 + n / 4096).toUInt8, (0x80 + n / 64 % 64).toUInt8, (0x80 + n % 64).toUInt8]
  else
    [(0xF0 + n / 262144).toUInt8, (0x80 + n / 4096 % 64).toUInt8, (0x80 + n / 64 % 64).toUInt8,
      (0x80 + n % 64).toUInt8]

def encodeUtf8 (s : List Char) : List UInt8 := s.flatMap utf8Bytes

/-- The second byte must lie in this range after the given first byte, so that no overlong form, no
surrogate and nothing above U+10FFFF is read. -/
def secondRange (lead : Nat) : Nat × Nat :=
  if lead == 0xE0 then (0xA0, 0xBF)
  else if lead == 0xED then (0x80, 0x9F)
  else if lead == 0xF0 then (0x90, 0xBF)
  else if lead == 0xF4 then (0x80, 0x8F)
  else (0x80, 0xBF)

/-- How many bytes follow a first byte. -/
def following (lead : Nat) : Option Nat :=
  if lead < 0x80 then some 0
  else if 0xC2 ≤ lead && lead ≤ 0xDF then some 1
  else if 0xE0 ≤ lead && lead ≤ 0xEF then some 2
  else if 0xF0 ≤ lead && lead ≤ 0xF4 then some 3
  else none

/-- The bytes of `s` that continue a character, at most `wanted`, the first of them within `range`,
with their bits added to `acc`; how many were missing, and what follows. -/
def continuation (range : Nat × Nat) (acc : Nat) : Nat → List UInt8 → Nat × Nat × List UInt8
  | 0, s => (acc, 0, s)
  | wanted + 1, [] => (acc, wanted + 1, [])
  | wanted + 1, b :: s =>
    if range.1 ≤ b.toNat && b.toNat ≤ range.2 then
      continuation (0x80, 0xBF) (acc * 64 + b.toNat % 64) wanted s
    else (acc, wanted + 1, b :: s)

theorem length_continuation_le (range : Nat × Nat) (acc wanted : Nat) (s : List UInt8) :
    (continuation range acc wanted s).2.2.length ≤ s.length := by
  fun_induction continuation range acc wanted s with
  | case1 => exact Nat.le_refl _
  | case2 => exact Nat.le_refl _
  | case3 range acc wanted b s h ih => exact Nat.le_succ_of_le ih
  | case4 => exact Nat.le_refl _

/-- The characters of the bytes, `none` standing for a maximal bad sequence. -/
def decodeUtf8 : List UInt8 → List (Option Char)
  | [] => []
  | b :: s =>
    match following b.toNat with
    | none => none :: decodeUtf8 s
    | some 0 => some (Char.ofNat b.toNat) :: decodeUtf8 s
    | some (k + 1) =>
      let lead := b.toNat % Nat.pow 2 (5 - k)
      let read := continuation (secondRange b.toNat) lead (k + 1) s
      (if read.2.1 = 0 then some (Char.ofNat read.1) else none) :: decodeUtf8 read.2.2
termination_by s => s.length
decreasing_by
  all_goals simp only [List.length_cons]
  · omega
  · omega
  · exact Nat.lt_succ_of_le (length_continuation_le _ _ _ _)

/-- The text of any bytes; each bad sequence is written U+FFFD. -/
def lossyText (bytes : List UInt8) : String :=
  .ofList ((decodeUtf8 bytes).map fun c => c.getD '\uFFFD')

/-- The text of bytes that are UTF-8. -/
def strictText? (bytes : List UInt8) : Option String :=
  ((decodeUtf8 bytes).mapM id).map String.ofList

/-! ## Percent form -/

def hexDigit (upper : Bool) (n : Nat) : Char :=
  if n < 10 then Char.ofNat (0x30 + n) else Char.ofNat ((if upper then 0x37 else 0x57) + n)

def hexValue (c : Char) : Option Nat :=
  if '0' ≤ c && c ≤ '9' then some (c.toNat - 0x30)
  else if 'a' ≤ c && c ≤ 'f' then some (c.toNat - 0x57)
  else if 'A' ≤ c && c ≤ 'F' then some (c.toNat - 0x37)
  else none

/-- A percent sign and two capital hexadecimal digits. -/
def percentByte (b : UInt8) : List Char :=
  ['%', hexDigit true (b.toNat / 16), hexDigit true (b.toNat % 16)]

/-- Every character outside `keep` becomes the percent form of its bytes. -/
def percentEncode (keep : Char → Bool) (s : List Char) : List Char :=
  s.flatMap fun c => if keep c then [c] else (utf8Bytes c).flatMap percentByte

/-- The bytes of the text, with each percent form read back. A percent sign before anything but two
hexadecimal digits stands for itself. -/
def percentDecode : List Char → List UInt8
  | '%' :: a :: b :: s =>
    match hexValue a, hexValue b with
    | some x, some y => (16 * x + y).toUInt8 :: percentDecode s
    | _, _ => '%'.toNat.toUInt8 :: percentDecode (a :: b :: s)
  | c :: s => utf8Bytes c ++ percentDecode s
  | [] => []

end ScpiConsole.Text
