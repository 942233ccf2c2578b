/-!
# Cutting a text

* `cutOnce` : a text at its first separator
* `lines` : the lines of a text, without their endings
* `joinLines` : the inverse way
-/

namespace ScpiConsole.Text

/-- What stands before and after the first `sep`, when there is one. -/
def cutOnce (sep : Char) : List Char → Option (List Char × List Char)
  | [] => none
  | c :: rest =>
    if c = sep then some ([], rest)
    else (cutOnce sep rest).map fun (before, after) => (c :: before, after)

/-- The line without the carriage return that belongs to its ending. -/
def dropReturn (line : List Char) : List Char :=
  match line.reverse with
  | '\r' :: rest => rest.reverse
  | _ => line

/-- The lines of a text: each ends at a line feed, with a carriage return just before it being part
of the ending. Text after the last line feed is a line of its own, with any carriage return kept. -/
def lines (s : List Char) : List (List Char) :=
  let parts := s.splitOn '\n'
  let last := parts.getLastD []
  parts.dropLast.map dropReturn ++ if last.isEmpty then [] else [last]

/-- The lines with a line feed between each two. -/
def joinLines (parts : List String) : String := "\n".intercalate parts

end ScpiConsole.Text
