import ScpiConsole.Log.Entry
/-!
# Session logs

Entries in the order of their commands. Every operation publishes a new state of the list, also one
that is equal to the state before.

* `append`, `insertAfter`, `update`, `clear` : the operations
* `ofStored` : the log that was stored
-/

namespace ScpiConsole

/-- The entries of one mode of the console. -/
structure Log where
  entries : List Entry := []
  /-- The number of states published. -/
  revision : Nat := 0
deriving Repr, Inhabited

namespace Log

/-- Puts `new` right behind the first entry of that number, or at the end. -/
def insertBehind (parent : EntryId) (new : List Entry) : List Entry → List Entry
  | [] => new
  | e :: rest => if e.id = parent then e :: (new ++ rest) else e :: insertBehind parent new rest

/-- Changes the first entry of that number. -/
def modifyFirst (id : EntryId) (change : Entry → Entry) : List Entry → List Entry
  | [] => []
  | e :: rest => if e.id = id then change e :: rest else e :: modifyFirst id change rest

/-- There is an entry of that number. -/
def holds (log : Log) (id : EntryId) : Bool := log.entries.any (·.id = id)

def publish (log : Log) (entries : List Entry) : Log := ⟨entries, log.revision + 1⟩

def append (log : Log) (e : Entry) : Log := log.publish (log.entries ++ [e])

/-- Puts entries behind the one they belong to. Nothing is published when there are none. -/
def insertAfter (log : Log) (parent : EntryId) (new : List Entry) : Log :=
  if new.isEmpty then log else log.publish (insertBehind parent new log.entries)

def update (log : Log) (id : EntryId) (change : Entry → Entry) : Log :=
  log.publish (modifyFirst id change log.entries)

def setMinimized (log : Log) (id : EntryId) (minimized : Bool) : Log :=
  log.update id fun e => { e with minimized }

def clear (log : Log) : Log := log.publish []

/-! ## Storage -/

def toJson (log : Log) : Json := .array (log.entries.map Entry.toJson)

/-- The log in a stored value; empty when there is none. -/
def ofStored (v : Option Json) : Log := { entries := (v.bind (Json.list? Entry.ofJson?)).getD [] }

/-- Numbers above all those in the log. -/
def reserveIds (log : Log) (ids : IdSource) : IdSource :=
  log.entries.foldl (fun ids e => ids.reserve e.id) ids

end Log

end ScpiConsole
