import ScpiConsole.Log
/-!
# Entries on a terminal

* `Entry.displayLine` : an entry as a line
* `settledPart` : the entries from a place on, up to the first one in flight
-/

namespace ScpiConsole

namespace Entry

/-- What is shown while there is no response. -/
def shownResponse (e : Entry) : String :=
  (if e.isServerError then "!" else "") ++ e.response.getD "…"

/-- The time of day, after the date if that is wanted. -/
def shownTime (e : Entry) (showDate : Bool) : String :=
  .ofList (if showDate then e.time.dateText ++ ' ' :: e.time.clockText else e.time.clockText)

/-- An entry as a line. Without its time it is indented. -/
def displayLine (e : Entry) (showDate : Bool) : String :=
  if e.hideTime then "    " ++ e.scpi ++ " " ++ e.shownResponse
  else
    "[" ++ e.shownTime showDate ++ "] " ++ e.scpi ++ " " ++ e.shownResponse ++ " (" ++
      toString e.elapsed.millis ++ " ms)"

end Entry

/-- The entries from a place on, up to the first one in flight. -/
def settledPart (entries : List Entry) (shown : Nat) : List Entry :=
  (entries.drop shown).takeWhile fun e => !e.isPending

/-- The entries from the one of that number on, up to the first one in flight. -/
def settledFrom (entries : List Entry) (id : EntryId) : List Entry :=
  (entries.dropWhile fun e => e.id ≠ id).takeWhile fun e => !e.isPending

end ScpiConsole
