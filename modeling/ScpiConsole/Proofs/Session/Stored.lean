import ScpiConsole.Proofs.Json.Record
import ScpiConsole.Proofs.Json.RoundTrip
import ScpiConsole.Proofs.Time.Rfc3339
import ScpiConsole.Session
/-!
# What is stored is taken up again

Everything that a session keeps has a stored form. These forms are canonical as they are written, their
text is read as the same form, and from each of them the value comes back that it was written from.

* `Entry.ofJson?_toJson`, `Preferences.ofJson?_toJson` : the records
* `History.entries_ofStored`, `Log.entries_ofStored`, `Preferences.ofStored_toJson`,
  `Script.ofStored_toJson` : what a session takes up
* `Session.faithful_stored` : what a session stores in each of its slots is read back from text
-/

namespace ScpiConsole

/-! ## Entries -/

namespace Entry

theorem elapsedOfJson?_elapsedToJson (e : Elapsed) : elapsedOfJson? (elapsedToJson e) = some e := by
  have hfields : Json.fields? ["secs", "nanos"]
      (.object [("nanos", .nat e.nanos), ("secs", .nat e.seconds.toNat)]) =
      some [some (.nat e.seconds.toNat), some (.nat e.nanos)] := rfl
  have hnanos : e.nanos < UInt32.size := Nat.lt_trans e.nanos_lt (by decide)
  have hcarry : e.nanos / 1000000000 = 0 := Nat.div_eq_of_lt e.nanos_lt
  have hspan : Elapsed.of? e.seconds.toNat e.nanos = some e := by
    simp [Elapsed.of?, hcarry, Nat.mod_eq_of_lt e.nanos_lt, e.seconds.toNat_lt]
  rw [elapsedToJson, elapsedOfJson?, hfields]
  simp only [Json.required, Option.bind_eq_bind, Option.bind_some, Json.natBelow?_nat hnanos]
  rw [Json.natBelow?_nat e.seconds.toNat_lt]
  exact hspan

theorem ofName?_name (k : Kind) : Kind.ofName? k.name = some k := by
  cases k <;> rfl

theorem canonical_toJson (e : Entry) : e.toJson.canonical = e.toJson := by
  rcases e with ⟨kind, scpi, response | response, time, elapsed, isServerError, id, hideTime, minimized⟩
  · rfl
  · rfl

/-- An entry comes back with all its fields, in flight or settled. -/
theorem ofJson?_toJson (e : Entry) : ofJson? e.toJson = some e := by
  have hresponse : Json.optional none (Json.nullable? Json.text?)
      (e.response.map Json.string) = some e.response := by
    cases e.response <;> rfl
  have hfields : e.toJson.fields? ["type", "scpi", "response", "time", "elapsed", "isServerError",
      "uniqueId", "hideTime", "minimized"] = some [some (.string e.kind.name), some (.string e.scpi),
        e.response.map Json.string, some (.string (.ofList e.time.rfc3339)),
        some (elapsedToJson e.elapsed), some (.bool e.isServerError), some (.nat e.id.value.toNat),
        some (.bool e.hideTime), some (.bool e.minimized)] := by
    rcases e with ⟨kind, scpi, response | response, time, elapsed, isServerError, id, hideTime,
      minimized⟩
    · rfl
    · rfl
  rw [ofJson?, hfields]
  simp only [Json.required, Json.choice?, Json.text?, Json.flag?, Json.optional_some, Option.bind_eq_bind,
    Option.bind_some, ofName?_name, hresponse, String.toList_ofList, Timestamp.read?_rfc3339,
    elapsedOfJson?_elapsedToJson, Json.word64?_nat]
  rfl

theorem faithful_elapsedToJson {depth : Nat} (e : Elapsed) :
    Json.Faithful (depth + 1) (elapsedToJson e) := by
  have hnanos : e.nanos < UInt64.size := Nat.lt_trans e.nanos_lt (by decide)
  refine .object (List.forall_mem_cons.2 ⟨Json.faithful_nat hnanos, ?_⟩)
  exact List.forall_mem_singleton.2 (Json.faithful_nat e.seconds.toNat_lt)

theorem faithful_toJson {depth : Nat} (e : Entry) : Json.Faithful (depth + 2) e.toJson := by
  refine .object (List.forall_mem_append.2 ⟨List.forall_mem_append.2 ⟨?_, ?_⟩, ?_⟩)
  · simp only [List.forall_mem_cons]
    exact ⟨faithful_elapsedToJson e.elapsed, .bool _, .bool _, .bool _, List.forall_mem_nil _⟩
  · cases e.response with
    | none => exact List.forall_mem_nil _
    | some r => exact List.forall_mem_singleton.2 (.string r)
  · simp only [List.forall_mem_cons]
    exact ⟨.string _, .string _, .string _, Json.faithful_nat e.id.value.toNat_lt,
      List.forall_mem_nil _⟩

end Entry

/-! ## What a session takes up -/

namespace History

theorem canonical_toJson (h : History) : h.toJson.canonical = h.toJson := by
  rw [toJson, Json.canonical, Json.canonicalItems_eq_map, List.map_map]
  rfl

/-- The entries come back, as many as are kept. -/
theorem entries_ofStored (h : History) : (ofStored (some h.toJson.canonical)).entries =
    h.entries.take cap := by
  have hread : Json.list? Json.text? h.toJson = some h.entries := Json.list?_map fun _ _ => rfl
  rw [canonical_toJson, ofStored, Option.bind_some, hread]
  rfl

theorem faithful_toJson {depth : Nat} (h : History) : Json.Faithful (depth + 1) h.toJson :=
  .array <| List.forall_mem_map.2 fun scpi _ => .string scpi

end History

namespace Log

theorem canonical_toJson (log : Log) : log.toJson.canonical = log.toJson := by
  rw [toJson, Json.canonical, Json.canonicalItems_eq_map, List.map_map]
  exact congrArg Json.array (List.map_congr_left fun e _ => e.canonical_toJson)

theorem entries_ofStored (log : Log) : (ofStored (some log.toJson.canonical)).entries = log.entries := by
  have hread : Json.list? Entry.ofJson? log.toJson = some log.entries :=
    Json.list?_map fun e _ => e.ofJson?_toJson
  rw [canonical_toJson, ofStored, Option.bind_some, hread]
  rfl

theorem faithful_toJson {depth : Nat} (log : Log) : Json.Faithful (depth + 3) log.toJson :=
  .array <| List.forall_mem_map.2 fun e _ => e.faithful_toJson

end Log

namespace Preferences

theorem canonical_toJson (p : Preferences) : p.toJson.canonical = p.toJson := rfl

theorem ofJson?_toJson (p : Preferences) : ofJson? p.toJson = some p := by
  have hfields : p.toJson.fields? ["simulated", "autoSystErr", "wrapLog", "showDate",
      "timeoutSeconds", "preferShortScpi", "scrollToNewLogOutput"] =
      some [some (.bool p.simulated), some (.bool p.autoSystErr), some (.bool p.wrapLog),
        some (.bool p.showDate), some (.nat p.timeoutSeconds.toNat), some (.bool p.preferShortScpi),
        some (.bool p.scrollToNewLogOutput)] := rfl
  rw [ofJson?, hfields]
  simp only [Json.optional_some, Json.flag?, Json.word32?_nat, Option.bind_eq_bind, Option.bind_some]
  rfl

theorem ofStored_toJson (p : Preferences) : ofStored (some p.toJson.canonical) = p := by
  rw [canonical_toJson, ofStored, Option.bind_some, ofJson?_toJson]
  rfl

theorem faithful_toJson {depth : Nat} (p : Preferences) : Json.Faithful (depth + 1) p.toJson := by
  have hseconds : p.timeoutSeconds.toNat < UInt64.size :=
    Nat.lt_trans p.timeoutSeconds.toNat_lt (by decide)
  refine .object ?_
  simp only [List.forall_mem_cons]
  exact ⟨.bool _, .bool _, .bool _, .bool _, .bool _, Json.faithful_nat hseconds, .bool _,
    List.forall_mem_nil _⟩

end Preferences

theorem Origin.ofJson?_toJson (o : Origin) : ofJson? o.toJson = some o := by
  cases o <;> rfl

theorem Origin.faithful_toJson {depth : Nat} (o : Origin) : Json.Faithful depth o.toJson :=
  .string o.name

theorem Script.ofStored_toJson (script : Script) :
    ofStored (some (.string script.source)) (some script.origin.toJson) = script := by
  rw [ofStored, Option.bind_some, Option.bind_some, Origin.ofJson?_toJson]
  rfl

/-! ## Slots -/

theorem Slot.name_ne {slot other : Slot} (h : other ≠ slot) : other.name ≠ slot.name := by
  cases slot <;> cases other <;> first | exact absurd rfl h | decide

/-- What the session stores in a slot. -/
def Session.stored (s : Session) : Slot → Json
  | .history => s.line.history.toJson
  | .interactiveLog => s.log.toJson
  | .scriptLog => s.scriptLog.toJson
  | .scriptSource => .string s.script.source
  | .scriptOrigin => s.script.origin.toJson
  | .preferences => s.preferences.toJson

/-- Whatever a session stores, its text is read back. -/
theorem Session.faithful_stored {depth : Nat} (s : Session) (slot : Slot) :
    Json.Faithful (depth + 3) (s.stored slot) := by
  cases slot with
  | history => exact s.line.history.faithful_toJson
  | interactiveLog => exact s.log.faithful_toJson
  | scriptLog => exact s.scriptLog.faithful_toJson
  | scriptSource => exact .string s.script.source
  | scriptOrigin => exact s.script.origin.faithful_toJson
  | preferences => exact s.preferences.faithful_toJson

end ScpiConsole
