import ScpiConsole.Key
import ScpiConsole.Json.Record
/-!
# Command history

Commands, the newest first. While it is browsed a cursor points at the entry that the input shows,
and the text that was typed before is kept aside.

* `add` : a command joins unless it repeats the newest
* `up`, `down` : one entry older or newer
* `onKey` : an edit ends browsing
-/

namespace ScpiConsole

/-- The most entries that are kept. -/
def History.cap : Nat := 500

/-- Commands sent before, the newest first. -/
structure History where
  entries : List String := []
  /-- The entry that the input shows. -/
  cursor : Option Nat := none
  /-- The input from before browsing. -/
  unsent : String := ""
deriving Repr, Inhabited

namespace History

/-- A history of stored entries. -/
def ofEntries (entries : List String) : History := { entries := entries.take cap }

def browsing (h : History) : Bool := h.cursor.isSome

def resetCursor (h : History) : History := { h with cursor := none, unsent := "" }

/-- The command is the newest already. -/
def repeats (h : History) (command : String) : Bool := h.entries.head? == some command

def add (h : History) (command : String) : History :=
  if h.repeats command then h else { h with entries := (command :: h.entries).take cap }

def clear (_ : History) : History := {}

/-- One entry older, up to the oldest; the text that the input then shows. Browsing starts from an
empty input only. -/
def up (h : History) (input : String) : History × Option String :=
  if h.entries.isEmpty then (h, none)
  else
    match h.cursor with
    | none =>
      if input.isEmpty then
        ({ h with cursor := some 0, unsent := input }, h.entries[0]?)
      else (h, none)
    | some i =>
      let next := min (i + 1) (h.entries.length - 1)
      ({ h with cursor := some next }, h.entries[next]?)

/-- One entry newer, and past the newest the text from before browsing. -/
def down (h : History) : History × Option String :=
  match h.cursor with
  | none => (h, none)
  | some 0 => ({ h with cursor := none, unsent := "" }, some h.unsent)
  | some (i + 1) => ({ h with cursor := some i }, h.entries[i]?)

def onKey (h : History) (key : Key) : History := if key.isEdit then h.resetCursor else h

/-! ## Storage -/

def toJson (h : History) : Json := .array (h.entries.map .string)

/-- The history in a stored value; empty when there is none. -/
def ofStored (v : Option Json) : History :=
  ofEntries ((v.bind (Json.list? Json.text?)).getD [])

end History

end ScpiConsole
