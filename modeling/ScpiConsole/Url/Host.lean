import ScpiConsole.Text.Digit
import ScpiConsole.Text.Utf8
import ScpiConsole.Url.DomainName
/-!
# Hosts of URLs

* `Host` : a name, or an address of either kind
* `Host.parse?` : the host of a scheme whose hosts are names in a network
* `Host.opaque?` : the host of any other scheme
* `UrlError` : why a text is no URL
-/

namespace ScpiConsole

/-- Why a text is no URL. -/
inductive UrlError where
  | noScheme
  | emptyHost
  | badPort
  | badIpv4
  | badIpv6
  | badName
  | badCharacter
deriving DecidableEq, Repr, Inhabited

def UrlError.message : UrlError → String
  | .noScheme => "relative URL without a base"
  | .emptyHost => "empty host"
  | .badPort => "invalid port number"
  | .badIpv4 => "invalid IPv4 address"
  | .badIpv6 => "invalid IPv6 address"
  | .badName => "invalid international domain name"
  | .badCharacter => "invalid domain character"

/-- Where a server is. -/
inductive Host where
  | name (text : List Char)
  | ipv4 (address : Nat)
  | ipv6 (pieces : List Nat)
deriving DecidableEq, Repr, Inhabited

namespace Host

/-- The value of digits to a base. -/
def valueTo (base : Nat) (digits : List Char) : Nat :=
  digits.foldl (fun n c => base * n + (Text.hexValue c).getD 0) 0

/-! ## IPv4 -/

/-- One number of an address: hexadecimal behind `0x`, octal behind another zero, else decimal. -/
def ipv4Number : List Char → Option Nat
  | [] => none
  | '0' :: 'x' :: s | '0' :: 'X' :: s =>
    if s.all fun c => (Text.hexValue c).isSome then some (valueTo 16 s) else none
  | '0' :: c :: s =>
    if (c :: s).all fun c => '0' ≤ c && c ≤ '7' then some (valueTo 8 (c :: s)) else none
  | s => if s.all Text.isDigit then some (valueTo 10 s) else none

/-- The parts between the dots; one dot may stand at the end. -/
def dotted (text : List Char) : List (List Char) :=
  let parts := text.splitOn '.'
  if parts.getLastD [] = [] then parts.dropLast else parts

/-- The last part is a number or looks like one, so the whole has to be an address. -/
def endsInNumber (text : List Char) : Bool :=
  match (dotted text).getLast? with
  | some part => (!part.isEmpty && part.all Text.isDigit) || (ipv4Number part).isSome
  | none => false

/-- An address of at most four numbers. The last one fills the bytes that the others leave. -/
def ipv4? (text : List Char) : Except UrlError Nat :=
  match (dotted text).mapM ipv4Number with
  | some numbers =>
    let first := numbers.dropLast
    let last := numbers.getLastD 0
    if numbers.length ≤ 4 ∧ first.all (· ≤ 255) ∧ last < Nat.pow 256 (4 - first.length) then
      .ok (first.foldr (fun n rest => n * 16777216 + rest / 256) 0 + last)
    else .error .badIpv4
  | none => .error .badIpv4

/-! ## IPv6 -/

/-- A number up to 255 without a leading zero. -/
def byte? (digits : List Char) : Option Nat :=
  if digits.isEmpty || !digits.all Text.isDigit then none
  else if digits.head? = some '0' ∧ digits.length ≠ 1 then none
  else
    let n := valueTo 10 digits
    if n ≤ 255 then some n else none

/-- The two pieces that four bytes with dots between them stand for. -/
def bytePieces (s : List Char) : Option (List Nat) :=
  match (s.splitOn '.').mapM byte? with
  | some [a, b, c, d] => some [256 * a + b, 256 * c + d]
  | _ => none

/-- Reads on behind the pieces in `acc`. The gap `::` counts as a piece of zero, and the second part
of the answer tells how many pieces there are up to its end. -/
def pieces (acc : List Nat) (gap : Option Nat) (s : List Char) : Option (List Nat × Option Nat) :=
  match s with
  | [] => some (acc, gap)
  | c :: rest =>
    if acc.length = 8 then none
    else if c = ':' then
      if gap.isSome then none else pieces (acc ++ [0]) (some (acc.length + 1)) rest
    else
      let digits := ((c :: rest).take 4).takeWhile fun c => (Text.hexValue c).isSome
      match _h : (c :: rest).drop digits.length with
      | [] => some (acc ++ [valueTo 16 digits], gap)
      | ':' :: next =>
        if next.isEmpty then none else pieces (acc ++ [valueTo 16 digits]) gap next
      | '.' :: _ =>
        if digits.isEmpty || 6 < acc.length then none
        else (bytePieces (c :: rest)).map fun last => (acc ++ last, gap)
      | _ => none
termination_by s.length
decreasing_by
  · simp
  · have := congrArg List.length _h
    simp only [List.length_drop, List.length_cons] at this ⊢
    omega

/-- An address of eight pieces, some of which a gap may stand for. -/
def ipv6? (text : List Char) : Except UrlError (List Nat) :=
  let read := match text with
    | ':' :: ':' :: s => pieces [0] (some 1) s
    | ':' :: _ | [_] | [] => none
    | s => pieces [] none s
  match read with
  | some (found, some gap) =>
    .ok (found.take gap ++ List.replicate (8 - found.length) 0 ++ found.drop gap)
  | some (found, none) => if found.length = 8 then .ok found else .error .badIpv6
  | none => .error .badIpv6

/-! ## Hosts -/

/-- The address between the brackets, when the text starts with one. -/
def bracketed? (text : List Char) : Option (Except UrlError Host) :=
  match text with
  | '[' :: inner =>
    if inner.getLast? = some ']' then some ((ipv6? inner.dropLast).map ipv6)
    else some (.error .badIpv6)
  | _ => none

/-- A name or an address. Percent forms are read first, and a name whose last part is a number has
to be an address. -/
def parse? (text : List Char) : Except UrlError Host :=
  match bracketed? text with
  | some address => address
  | none =>
    match DomainName.normal? (Text.lossyText (Text.percentDecode text)).toList with
    | none => .error .badName
    | some normal =>
      if normal.isEmpty then .error .emptyHost
      else if endsInNumber normal then (ipv4? normal).map ipv4
      else .ok (.name normal)

/-- An address in brackets, or any text without certain marks. -/
def opaque? (text : List Char) : Except UrlError Host :=
  match bracketed? text with
  | some address => address
  | none =>
    if text.any fun c => c == '\x00' || c == ' ' || "#/:<>?@[\\]^|".toList.contains c then
      .error .badCharacter
    else .ok (.name (Text.percentEncode (fun c => 0x20 ≤ c.toNat && c.toNat < 0x7F) text))

end Host

end ScpiConsole
