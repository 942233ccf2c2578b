import ScpiConsole.Completion
/-!
# Accepting a completion

* `insert` : the line after a candidate was accepted, and what is left behind
-/

namespace ScpiConsole.Completion

/-- The text up to and with its last colon. -/
def throughLastColon (text : List Char) : List Char := Text.dropEndWhile (· ≠ ':') text

/-- The line with the candidate in it.

A mnemonic replaces the segment in progress; a colon follows when something may follow the mnemonic
and it takes no number. A query that takes a number goes in without its `?`, which the number then
brings. A number replaces the digits and the `?` at the end. A common command replaces the line. -/
def insert (input : String) (candidate : Candidate) (short : Bool) : String × Sticky :=
  match candidate with
  | .number value =>
    let base := Text.dropEndWhile Text.isDigit (Text.dropEndWhile (· = '?') input.toList)
    (.ofList (base ++ value.toList), {})
  | .mnemonic node branch =>
    let text := if short then Mnemonic.shortForm node.text.toList else node.text.toList
    if node.isCommon then (.ofList text, ⟨false, node.isQuery⟩)
    else
      let text := if node.suffixed then (Text.dropTail? ['?'] text).getD text else text
      let colon := if branch && !node.suffixed then [':'] else []
      (.ofList (throughLastColon input.toList ++ text ++ colon), ⟨node.suffixed, node.isQuery⟩)

end ScpiConsole.Completion
