import ScpiConsole.Text.Numeral
/-!
# The shortest decimal of a double

A finite double stands for every real number that rounds to it. Its shortest decimal is the one with
the fewest digits among those numbers, and of two with equally many the nearer.

* `Binary.ofBits` : a positive double as `mantissa · 2 ^ exponent`
* `Binary.shortest` : digits and power of ten, by exact comparison of natural numbers
* `render` : the text, positional for `10⁻⁵ ≤ x < 10¹⁶` and scientific elsewhere
-/

namespace ScpiConsole.Decimal

/-- The number `mantissa · 2 ^ exponent`. -/
structure Binary where
  mantissa : Nat
  exponent : Int

/-- How many doubles there are between a power of two and the next, 2⁵². -/
def binade : Nat := 4503599627370496

/-- The magnitude of a finite double. -/
def Binary.ofBits (bits : UInt64) : Binary :=
  let field := bits.toNat / binade % 2048
  let fraction := bits.toNat % binade
  if field = 0 then ⟨fraction, -1074⟩ else ⟨binade + fraction, Int.ofNat field - 1075⟩

/-- `a · 2 ^ p` against `b · 10 ^ s`. -/
def compareScaled (a : Nat) (p : Int) (b : Nat) (s : Int) : Ordering :=
  compare (a * Nat.pow 2 p.toNat * Nat.pow 10 (-s).toNat)
    (b * Nat.pow 10 s.toNat * Nat.pow 2 (-p).toNat)

/-- The floor of `a · 2 ^ p / 10 ^ s`. -/
def quotient (a : Nat) (p : Int) (s : Int) : Nat :=
  (a * Nat.pow 2 p.toNat * Nat.pow 10 (-s).toNat) / (Nat.pow 10 s.toNat * Nat.pow 2 (-p).toNat)

/-- The least `e` from a lower bound on with `a · 2 ^ p < 10 ^ e`. -/
def magnitudeFrom (a : Nat) (p : Int) : Nat → Int → Int
  | 0, e => e
  | fuel + 1, e => if (compareScaled a p 1 e).isLT then e else magnitudeFrom a p fuel (e + 1)

/-- The number of digits before the point, or minus the number of zeros after it. -/
def magnitude (a : Nat) (p : Int) : Int :=
  magnitudeFrom a p 8 ((p + Nat.log2 a) * 30103 / 100000 - 1)

/-- `k · 10 ^ s` rounds to the double: it lies between the midpoints to both neighbours, which
belong to the double when its mantissa is even. All three numbers count quarters of the last
place. -/
def roundsTo (low high : Nat) (p : Int) (closed : Bool) (k : Nat) (s : Int) : Bool :=
  let above := compareScaled low p k s
  let below := compareScaled high p k s
  if closed then above.isLE && below.isGE else above.isLT && below.isGT

/-- The first grid of at least `n` digits that holds a point which rounds to the double. -/
def search (value low high : Nat) (p : Int) (closed : Bool) (e : Int) : Nat → Int → Nat × Int
  | 0, n => (quotient value p (e - n), e - n)
  | fuel + 1, n =>
    let s := e - n
    let k := quotient value p s
    match roundsTo low high p closed k s, roundsTo low high p closed (k + 1) s with
    | true, false => (k, s)
    | false, true => (k + 1, s)
    | true, true =>
      match compareScaled (2 * value) p (2 * k + 1) s with
      | .lt => (k, s)
      | .gt => (k + 1, s)
      | .eq => (if k % 2 = 0 then k else k + 1, s)
    | false, false => search value low high p closed e fuel (n + 1)

/-- A zero at the end of the digits moves into the power of ten. -/
def normal (fuel : Nat) (k : Nat) (s : Int) : Nat × Int :=
  match fuel with
  | 0 => (k, s)
  | fuel + 1 => if k ≠ 0 && k % 10 = 0 then normal fuel (k / 10) (s + 1) else (k, s)

/-- Digits `k` and exponent `s` of the shortest decimal `k · 10 ^ s` of a positive double. -/
def Binary.shortest (b : Binary) : Nat × Int :=
  let value := 4 * b.mantissa
  let p := b.exponent - 2
  let low := if b.mantissa = binade ∧ b.exponent ≠ -1074 then value - 1 else value - 2
  let found := search value low (value + 2) p (b.mantissa % 2 = 0) (magnitude value p) 17 1
  normal 17 found.1 found.2

/-- `k · 10 ^ s` as text. There is always a point or an exponent. -/
def layout (k : Nat) (s : Int) : List Char :=
  let digits := Text.numeral k
  let point := Int.ofNat digits.length + s
  if 0 ≤ s ∧ point ≤ 16 then
    digits ++ List.replicate s.toNat '0' ++ ['.', '0']
  else if 0 < point ∧ point ≤ 16 then
    digits.take point.toNat ++ '.' :: digits.drop point.toNat
  else if -5 < point ∧ point ≤ 0 then
    '0' :: '.' :: List.replicate (-point).toNat '0' ++ digits
  else
    let exponent := point - 1
    let power := (if exponent < 0 then '-' else '+') :: Text.numeral exponent.natAbs
    match digits with
    | [d] => d :: 'e' :: power
    | d :: rest => d :: '.' :: rest ++ 'e' :: power
    | [] => power

/-- The text of a finite double; a zero keeps its sign. -/
def render (bits : UInt64) : List Char :=
  let b := Binary.ofBits bits
  let magnitude :=
    if b.mantissa = 0 then ['0', '.', '0'] else layout b.shortest.1 b.shortest.2
  if bits.toNat / 9223372036854775808 = 1 then '-' :: magnitude else magnitude

end ScpiConsole.Decimal
