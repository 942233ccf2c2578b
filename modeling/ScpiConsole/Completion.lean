import ScpiConsole.Grammar
import ScpiConsole.Mnemonic.Matching
/-!
# Completions

The completed segments of a line lead into the grammar, and the segment in progress filters what may
follow there. After a mnemonic that takes a number its numbers are offered instead.

* `Path.ofText` : the completed segments and the one in progress
* `reached` : the nodes that the completed segments lead to
* `gather`, `collect` : the contents of nodes, each once
* `candidates` : what is offered for a line
-/

namespace ScpiConsole

/-- What an accepted completion leaves behind until something else is typed. -/
structure Sticky where
  /-- The last accepted mnemonic takes a number. -/
  suffix : Bool := false
  /-- The last accepted mnemonic was a query. -/
  query : Bool := false
deriving DecidableEq, Repr, Inhabited

/-- One completion. -/
inductive Candidate where
  /-- A mnemonic, and whether anything follows it. -/
  | mnemonic (node : Mnemonic) (branch : Bool)
  /-- A number for the mnemonic just accepted, with the `?` of a query. -/
  | number (value : String)
deriving DecidableEq, Repr, Inhabited

/-- The form shown to the operator. -/
def Candidate.label (short : Bool) : Candidate → String
  | .mnemonic node _ => node.label short
  | .number value => value

namespace Completion

/-! ## The line as a path -/

/-- A line cut at its colons. -/
structure Path where
  completed : List (List Char)
  inProgress : List Char

/-- The parts between the colons. A colon at the start opens no segment. -/
def Path.ofText (text : List Char) : Path :=
  let parts := match text.splitOn ':' with
    | [] :: rest => rest
    | parts => parts
  ⟨parts.dropLast, parts.getLastD []⟩

/-- The children of some nodes that a segment chooses, in order. Of those chosen by a number only
the last stays. -/
def step (nodes : List Tree) (segment : List Char) : List Tree :=
  let reached :=
    ((nodes.flatMap Tree.children).filter (·.content.selects segment)).mergeSort Tree.precedes
  if Segment.hasNumber segment then reached.getLast?.toList else reached

/-- The nodes below `root` that completed segments lead to. -/
def reached (root : Tree) (completed : List (List Char)) : List Tree :=
  completed.foldl step [root]

/-! ## What is offered -/

/-- A content entered among those found before it. One that is found again keeps its place, and is a
branch when any of its nodes is. -/
def enter (node : Mnemonic) (branch : Bool) : List (Mnemonic × Bool) → List (Mnemonic × Bool)
  | [] => [(node, branch)]
  | entry :: rest =>
    if entry.1 = node then (node, entry.2 || branch) :: rest else entry :: enter node branch rest

/-- Each content once, in the order in which the contents were found. -/
def gather (found : List Tree) : List (Mnemonic × Bool) :=
  found.foldl (fun entries t => enter t.content (!t.isLeaf) entries) []

/-- Each content once, in the order of the mnemonics. -/
def collect (found : List Tree) : List Candidate :=
  ((gather found).mergeSort fun a b => a.1.precedes b.1).map fun entry => .mnemonic entry.1 entry.2

/-- The numerals from `start` to `stop`. -/
def numerals (start stop : UInt32) : List (List Char) :=
  (List.range' start.toNat (stop.toNat + 1 - start.toNat)).map Text.numeral

/-- The numbers of the mnemonic that the segment in progress names, as far as they start with the
digits already typed. Of several such mnemonics the last in order counts. -/
def numbers (nodes : List Tree) (inProgress : List Char) (query : Bool) : List Candidate :=
  let typed := Text.dropEndWhile Text.isDigit inProgress
  let digits := Text.takeEndWhile Text.isDigit inProgress
  let finished := ((nodes.flatMap Tree.children).map Tree.content).filter fun m =>
    !typed.isEmpty && m.suffixed && m.namedSansQuery typed
  match (finished.mergeSort Mnemonic.precedes).getLast? with
  | none => []
  | some m =>
    ((numerals m.start m.stop).filter digits.isPrefixOf).map fun n =>
      .number (.ofList (if query then n ++ ['?'] else n))

/-- The common commands that start with the text, both taken without their star. -/
def commonCandidates (root : Tree) (text : List Char) : List Candidate :=
  let sansStar : List Char → List Char
    | '*' :: rest => rest
    | t => t
  collect <| root.children.filter fun t =>
    Text.startsWithText (sansStar t.content.text.toList) (sansStar text)

/-- The continuations of a path: numbers for a mnemonic just accepted if there are any, and
otherwise the mnemonics that start with the segment in progress. -/
def pathCandidates (root : Tree) (text : List Char) (sticky : Sticky) : List Candidate :=
  let path := Path.ofText text
  let nodes := reached root path.completed
  let values := if sticky.suffix then numbers nodes path.inProgress sticky.query else []
  if values.isEmpty then
    collect <| (nodes.flatMap Tree.children).filter fun t =>
      Text.startsWithText t.content.text.toList path.inProgress
  else values

/-- What is offered for a line. Nothing is offered without a grammar, while history is browsed, or
behind a query or a blank. -/
def candidates (grammar : Option Grammar) (text : String) (browsing : Bool) (sticky : Sticky) :
    List Candidate :=
  match grammar with
  | none => []
  | some g =>
    let t := text.toList
    if browsing || t.getLast? == some '?' || t.getLast? == some ' ' then []
    else if t.head? == some '*' then commonCandidates g.common t
    else pathCandidates g.paths t sticky

end Completion

end ScpiConsole
