import ScpiConsole.Text.Digit
/-!
# Punycode

A text of any characters in ASCII letters, digits and hyphens (RFC 3492). The ASCII characters of
the text stand first, behind the last hyphen come numbers, one for each other character: it tells
how far the pair of code point and place moves on.

* `Punycode.decode?` : the text that was meant
-/

namespace ScpiConsole.Punycode

/-- The value of a digit to base 36. -/
def digit? (c : Char) : Option Nat :=
  if 'a' ≤ c ∧ c ≤ 'z' then some (c.toNat - 'a'.toNat)
  else if 'A' ≤ c ∧ c ≤ 'Z' then some (c.toNat - 'A'.toNat)
  else if Text.isDigit c then some (Text.digitValue c + 26)
  else none

/-- The least digit at position `k` that is not the last one of its number. -/
def threshold (bias k : Nat) : Nat := min 26 (max 1 (k - bias))

/-- A number, lowest digit first, and what follows it. `k` is the position and `weight` what the
next digit counts. -/
def number? (bias : Nat) (k weight : Nat) : List Char → Option (Nat × List Char)
  | [] => none
  | c :: rest => do
    let d ← digit? c
    let t := threshold bias k
    if d < t then some (d * weight, rest)
    else
      let (n, rest) ← number? bias (k + 36) (weight * (36 - t)) rest
      some (d * weight + n, rest)

theorem length_of_number? {bias k weight n : Nat} {s rest : List Char}
    (h : number? bias k weight s = some (n, rest)) : rest.length < s.length := by
  induction s generalizing k weight n with
  | nil => simp [number?] at h
  | cons c s ih =>
    simp only [number?, Option.bind_eq_bind, Option.bind_eq_some_iff] at h
    obtain ⟨d, -, h⟩ := h
    split at h
    · simp only [Option.some.injEq, Prod.mk.injEq] at h
      simp [← h.2]
    · obtain ⟨⟨m, r⟩, hm, h⟩ := Option.bind_eq_some_iff.1 h
      simp only [Option.some.injEq, Prod.mk.injEq] at h
      obtain ⟨-, rfl⟩ := h
      exact Nat.lt_succ_of_lt (ih hm)

/-- Splits a step over the positions that it uses up, 36 at a time. -/
def spread (k step : Nat) : Nat :=
  if 455 < step then spread (k + 36) (step / 35) else k + 36 * step / (step + 38)
termination_by step

/-- The bias after a step that made the text `size` characters long. -/
def adapt (step size : Nat) (first : Bool) : Nat :=
  let step := if first then step / 700 else step / 2
  spread 0 (step + step / size)

/-- Puts in one character for each number. `code` and `place` are those of the character before. -/
def insertAll (code place bias : Nat) (text : List Char) (s : List Char) : Option (List Char) :=
  if s.isEmpty then some text
  else
    match _h : number? bias 36 1 s with
    | none => none
    | some (step, rest) =>
      let size := text.length + 1
      let next := code + (place + step) / size
      let here := (place + step) % size
      if next.isValidChar then
        insertAll next (here + 1) (adapt step size (place == 0))
          (text.take here ++ Char.ofNat next :: text.drop here) rest
      else none
termination_by s.length
decreasing_by exact length_of_number? _h

/-- The text that ASCII characters stand for. A hyphen at the very start belongs to no number, so
such a text has no meaning. -/
def decode? (s : List Char) : Option (List Char) :=
  let behind := (s.reverse.takeWhile (· ≠ '-')).reverse
  let plain := s.take (s.length - behind.length - 1)
  if plain.all (·.toNat < 0x80) then
    insertAll 128 0 72 plain (if plain.isEmpty then s else behind)
  else none

end ScpiConsole.Punycode
