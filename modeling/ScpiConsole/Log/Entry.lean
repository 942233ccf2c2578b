import ScpiConsole.Json.Record
import ScpiConsole.Time.Rfc3339
/-!
# Log entries

* `EntryId`, `IdSource` : numbers that tell entries apart, handed out in order
* `Entry` : one command and what became of it
* `Entry.toJson`, `Entry.ofJson?` : the stored form
-/

namespace ScpiConsole

/-! ## Numbers of entries -/

/-- The number of an entry. -/
structure EntryId where
  value : UInt64
deriving DecidableEq, Repr, Inhabited

/-- Where new numbers come from. -/
structure IdSource where
  next : UInt64 := 1
deriving DecidableEq, Repr, Inhabited

namespace IdSource

/-- A new number; after the last of 64 bits they start over. -/
def fresh (s : IdSource) : EntryId × IdSource := (⟨s.next⟩, ⟨s.next + 1⟩)

/-- Numbers from now on lie above `id`, or at the top of the range. -/
def reserve (s : IdSource) (id : EntryId) : IdSource :=
  let above := if id.value.toNat + 1 < UInt64.size then id.value + 1 else id.value
  if s.next < above then ⟨above⟩ else s

end IdSource

/-! ## Entries -/

/-- What an entry sent. -/
inductive Kind where
  | command
  | query
deriving DecidableEq, Repr, Inhabited

namespace Kind

/-- A query is a text with a question mark anywhere. -/
def ofText (scpi : String) : Kind := if scpi.toList.contains '?' then .query else .command

def name : Kind → String
  | .command => "command"
  | .query => "query"

def ofName? : String → Option Kind
  | "command" => some .command
  | "query" => some .query
  | _ => none

end Kind

/-- One command sent, or one error that the instrument reported. -/
structure Entry where
  kind : Kind
  scpi : String
  /-- Absent while the command is in flight. -/
  response : Option String := none
  time : Timestamp
  elapsed : Elapsed := .zero
  isServerError : Bool := false
  id : EntryId
  /-- Shown without its time, below the entry it belongs to. -/
  hideTime : Bool := false
  minimized : Bool := false
deriving DecidableEq, Repr, Inhabited

namespace Entry

/-- A command just sent. -/
def pending (id : EntryId) (time : Timestamp) (scpi : String) : Entry :=
  { kind := .ofText scpi, scpi, time, id }

/-- The command that reads the error queue. -/
def errorQuery : String := ":SYST:ERR?"

/-- An error that the instrument reported, shown as a reading of its queue. -/
def instrumentError (id : EntryId) (time : Timestamp) (error : String) : Entry :=
  { pending id time errorQuery with response := some error, hideTime := true }

def isPending (e : Entry) : Bool := e.response.isNone

/-- The entry with its outcome. -/
def settle (e : Entry) (response : String) (isServerError : Bool) (elapsed : Elapsed) : Entry :=
  { e with response := some response, isServerError, elapsed }

/-! ## Storage -/

def elapsedToJson (e : Elapsed) : Json :=
  .object [("nanos", .nat e.nanos), ("secs", .nat e.seconds.toNat)]

/-- A span has exactly its two fields. -/
def elapsedOfJson? (v : Json) : Option Elapsed := do
  match v with
  | .object members => guard (members.all fun m => m.1 == "secs" || m.1 == "nanos")
  | _ => pure ()
  match ← v.fields? ["secs", "nanos"] with
  | [secs, nanos] =>
    Elapsed.of? (← Json.required (Json.natBelow? UInt64.size) secs)
      (← Json.required (Json.natBelow? UInt32.size) nanos)
  | _ => none

def toJson (e : Entry) : Json :=
  .object <|
    [("elapsed", elapsedToJson e.elapsed), ("hideTime", .bool e.hideTime),
      ("isServerError", .bool e.isServerError), ("minimized", .bool e.minimized)] ++
    (match e.response with
      | some r => [("response", .string r)]
      | none => []) ++
    [("scpi", .string e.scpi), ("time", .string (.ofList e.time.rfc3339)),
      ("type", .string e.kind.name), ("uniqueId", .nat e.id.value.toNat)]

def ofJson? (v : Json) : Option Entry := do
  match ← v.fields? ["type", "scpi", "response", "time", "elapsed", "isServerError", "uniqueId",
    "hideTime", "minimized"] with
  | [kind, scpi, response, time, elapsed, isServerError, id, hideTime, minimized] =>
    pure {
      kind := ← Kind.ofName? (← Json.required Json.choice? kind)
      scpi := ← Json.required Json.text? scpi
      response := ← Json.optional none (Json.nullable? Json.text?) response
      time := ← Timestamp.read? (← Json.required Json.text? time).toList
      elapsed := ← Json.optional .zero elapsedOfJson? elapsed
      isServerError := ← Json.optional false Json.flag? isServerError
      id := ⟨← Json.required Json.word64? id⟩
      hideTime := ← Json.optional false Json.flag? hideTime
      minimized := ← Json.optional false Json.flag? minimized }
  | _ => none

end Entry

end ScpiConsole
