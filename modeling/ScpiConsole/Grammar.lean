import ScpiConsole.Mnemonic
import ScpiConsole.Json.Parser
/-!
# Command grammars

The commands of an instrument: a list of common commands, and a tree in which every path of
mnemonics joined by `:` is a command.

* `Tree` : a mnemonic and what may follow it
* `Grammar` : the roots of both trees
* `Grammar.ofJson?` : the form that a server sends, in which `null` stands for no children
-/

namespace ScpiConsole

/-- A mnemonic and what may follow it. -/
structure Tree where
  content : Mnemonic
  children : List Tree
deriving Inhabited

namespace Tree

def leaf (content : Mnemonic) : Tree := ⟨content, []⟩

def isLeaf (t : Tree) : Bool := t.children.isEmpty

/-- Order of the contents. -/
def precedes (a b : Tree) : Bool := a.content.precedes b.content

mutual

/-- The tree and everything below it, each node before its children. -/
def nodes : Tree → List Tree
  | ⟨content, children⟩ => ⟨content, children⟩ :: nodesOf children

def nodesOf : List Tree → List Tree
  | [] => []
  | t :: rest => nodes t ++ nodesOf rest

end

/-! ## JSON -/

mutual

def toJson : Tree → Json
  | ⟨content, children⟩ =>
    .object [("children", .array (toJsonList children)), ("content", content.toJson)]

def toJsonList : List Tree → List Json
  | [] => []
  | t :: rest => toJson t :: toJsonList rest

end

/-- A tree within `room` levels of arrays and objects. The tree takes one level and its content one
more, its children two. -/
def ofJson? : Nat → Json → Option Tree
  | room + 2, v => do
    match ← v.fields? ["content", "children"] with
    | [content, children] =>
      pure {
        content := ← Json.required Mnemonic.ofJson? content
        children := ← Json.optional [] (Json.listOrNull? (ofJson? room)) children }
    | _ => none
  | _, _ => none

end Tree

/-- The grammar of an instrument. Both roots have an empty mnemonic. -/
structure Grammar where
  /-- The commands that start with `*`. -/
  common : Tree
  /-- The commands that are paths of mnemonics. -/
  paths : Tree
deriving Inhabited

namespace Grammar

def toJson (g : Grammar) : Json :=
  .object [("colonTree", g.paths.toJson), ("starTree", g.common.toJson)]

def ofJson? (v : Json) : Option Grammar := do
  match ← v.fields? ["starTree", "colonTree"] with
  | [common, paths] =>
    pure {
      common := ← Json.required (Tree.ofJson? (Json.maxNesting - 1)) common
      paths := ← Json.required (Tree.ofJson? (Json.maxNesting - 1)) paths }
  | _ => none

end Grammar

end ScpiConsole
