import ScpiConsole.Text.Blank
/-!
# Paths of files

* `Path.join` : a path below another; an absolute path stands alone
* `Path.parent?` : the path without its last part
-/

namespace ScpiConsole.Path

def isAbsolute (path : List Char) : Bool := path.head? == some '/'

/-- `path` taken below `base`. -/
def join (base path : List Char) : List Char :=
  if isAbsolute path || base.isEmpty then path
  else if base.getLast? == some '/' then base ++ path
  else base ++ '/' :: path

/-- The parts between slashes that are not empty. -/
def parts (path : List Char) : List String :=
  ((path.splitOn '/').filter fun part => !part.isEmpty).map String.ofList

/-- The path without its last part. The root and the empty path have none. -/
def parent? (path : List Char) : Option (List Char) :=
  let body := Text.dropEndWhile (· = '/') path
  if body.isEmpty then none
  else
    let above := Text.dropEndWhile (· ≠ '/') body
    let trimmed := Text.dropEndWhile (· = '/') above
    some (if trimmed.isEmpty && !above.isEmpty then ['/'] else trimmed)

end ScpiConsole.Path
