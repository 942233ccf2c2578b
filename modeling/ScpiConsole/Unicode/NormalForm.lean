import ScpiConsole.Unicode.Combining
import ScpiConsole.Unicode.Composition
/-!
# Normal form C

Two texts that mean the same characters have one normal form: each character is taken apart, marks
are put in the order of their classes, and what can be composed is composed.

* `decompose`, `reorder`, `compose` : the three steps
* `normalForm` : all of them
-/

namespace ScpiConsole.Unicode

/-- A character taken apart, at most `depth` times. -/
def parts : Nat → Char → List Char
  | 0, c => [c]
  | depth + 1, c => (pairOf? c).elim [c] fun p => parts depth p.1 ++ [p.2]

/-- No character is taken apart more often than this. -/
def maxDepth : Nat := 4

def decompose (s : List Char) : List Char := s.flatMap (parts maxDepth)

/-- Puts a mark in front of the marks that follow and have a smaller class. -/
def insertMark (c : Char) : List Char → List Char
  | [] => [c]
  | d :: rest =>
    if combiningClass d ≠ 0 ∧ combiningClass d < combiningClass c then d :: insertMark c rest
    else c :: d :: rest

/-- Marks in the order of their classes. Marks of one class stay as they are. -/
def reorder (s : List Char) : List Char := s.foldr insertMark []

/-- Composes `c` with what follows and is not kept from it by a mark of the same or a greater class.
`held` are the marks passed over, of which `last` is the greatest class. -/
def absorb (c : Char) (held : List Char) (last : Nat) : List Char → Char × List Char × List Char
  | [] => (c, held, [])
  | d :: rest =>
    let k := combiningClass d
    match if held.isEmpty || last < k then composed? c d else none with
    | some e => absorb e held last rest
    | none => if k = 0 then (c, held, d :: rest) else absorb c (held ++ [d]) k rest

theorem length_absorb_le (c : Char) (held : List Char) (last : Nat) (s : List Char) :
    (absorb c held last s).2.2.length ≤ s.length := by
  induction s generalizing c held last with
  | nil => exact Nat.le_refl _
  | cons d rest ih =>
    simp only [absorb]
    split
    · exact Nat.le_succ_of_le (ih ..)
    · split
      · exact Nat.le_refl _
      · exact Nat.le_succ_of_le (ih ..)

/-- Every character is composed with the marks on it. -/
def compose : List Char → List Char
  | [] => []
  | c :: rest =>
    if combiningClass c ≠ 0 then c :: compose rest
    else
      let found := absorb c [] 0 rest
      found.1 :: found.2.1 ++ compose found.2.2
termination_by s => s.length
decreasing_by
  · simp
  · exact Nat.lt_succ_of_le (length_absorb_le ..)

def normalForm (s : List Char) : List Char := compose (reorder (decompose s))

end ScpiConsole.Unicode
