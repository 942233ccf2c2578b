import ScpiConsole.Disk
import ScpiConsole.Text.Lines
import ScpiConsole.Text.Utf8
/-!
# Lines of piped input

* `inputLines` : the lines of some bytes; a line that is no text ends them with an error
-/

namespace ScpiConsole.Shell

/-- The parts of bytes, each up to and with its line feed; the last may lack one. -/
def byteLines : List UInt8 → List (List UInt8)
  | [] => []
  | b :: rest =>
    if b = 10 then [b] :: byteLines rest
    else match byteLines rest with
      | [] => [[b]]
      | line :: more => (b :: line) :: more

/-- A line without its ending. -/
def withoutEnding (line : List Char) : List Char :=
  match Text.dropTail? ['\r', '\n'] line with
  | some text => text
  | none => (Text.dropTail? ['\n'] line).getD line

/-- The lines of piped input. -/
def inputLines (bytes : List UInt8) : List (Except IoError String) :=
  (byteLines bytes).map fun line =>
    match Text.strictText? line with
    | some text => .ok (.ofList (withoutEnding text.toList))
    | none => .error .invalidText

end ScpiConsole.Shell
