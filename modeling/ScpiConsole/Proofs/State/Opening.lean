import ScpiConsole.Proofs.State.Durable
/-!
# What a state file opens as

A file opens exactly when its bytes are UTF-8, and only such a file can be repaired by writing it once
more. Of a document that is an object it gives the members, the last one of each name; any other text,
cut off or no JSON at all, gives none.

* `Json.Denotes` : a text is an object all of whose parts have values
* `Json.lookup_canonicalMembers` : of several members of one name the last one counts
* `StateFile.load_eq_ok_iff` : when a file opens, and as what
* `StateFile.document_of_save` : a write that succeeds makes the file a document
* `StateFile.opens_iff` : all of this for the bytes of a file
-/

namespace ScpiConsole

namespace Json

/-- The text is an object with those members. Every part has a value, and none stands deeper than a
reader follows. -/
structure Denotes (text : String) (written : List (String × Json)) : Prop where
  document : ofText? text.toList = some (.object written)
  readable : (Json.object written).readable = true
  shallow : (Json.object written).nesting ≤ maxNesting

variable {text : String} {written members sorted : List (String × Json)}

/-- The reader accepts an object exactly when the text denotes one. -/
theorem parse?_eq_object_iff : parse? text = some (.object members) ↔
    ∃ written, Denotes text written ∧ members = canonicalMembers [] written := by
  rw [parse?, Option.bind_eq_bind, Option.bind_eq_some_iff]
  constructor
  · rintro ⟨v, hdocument, h⟩
    rw [Option.bind_eq_bind, Option.bind_eq_some_iff] at h
    obtain ⟨_, hguard, hcanonical⟩ := h
    replace hcanonical : v.canonical = .object members := Option.some.inj hcanonical
    cases v with
    | object written =>
      rw [canonical, object.injEq] at hcanonical
      have hboth : (Json.object written).readable = true ∧ (Json.object written).nesting ≤ maxNesting := by
        simpa [guard] using hguard
      exact ⟨written, ⟨hdocument, hboth.1, hboth.2⟩, hcanonical.symm⟩
    | _ => cases hcanonical
  · rintro ⟨written, h, rfl⟩
    refine ⟨.object written, h.document, ?_⟩
    rw [h.readable, decide_eq_true h.shallow]
    rfl

theorem lookup_append (key : String) (front back : List (String × Json)) :
    lookup key (front ++ back) = (lookup key front).or (lookup key back) := by
  induction front with
  | nil => rfl
  | cons m rest ih =>
    obtain ⟨k, v⟩ := m
    rw [List.cons_append, lookup, lookup, ih]
    split <;> rfl

/-- Of several members of one name the last one counts, and before all of them what was there. -/
theorem lookup_canonicalMembers (key : String) (members sorted : List (String × Json)) :
    lookup key (canonicalMembers sorted members) =
      ((lookup key members.reverse).map canonical).or (lookup key sorted) := by
  induction members generalizing sorted with
  | nil => rfl
  | cons m rest ih =>
    obtain ⟨k, v⟩ := m
    rw [canonicalMembers, ih, List.reverse_cons, lookup_append]
    cases lookup key rest.reverse with
    | some found => rfl
    | none =>
      by_cases hk : k = key
      · subst hk
        simp [lookup, lookup_put_self]
      · simp [lookup, hk, lookup_put_of_ne (Ne.symm hk)]

end Json

namespace StateFile

open Text

variable {d d₁ d₂ : Disk} {path : List Char} {bytes : List UInt8} {f g : StateFile} {text : String}

/-! ## Opening -/

/-- A file opens when its bytes are those of a text. -/
theorem load_eq_ok_iff (h : d.read path = .ok bytes) : load d path = .ok f ↔
    ∃ text : String, bytes = encodeUtf8 text.toList ∧ f = ⟨path, stateOfText text⟩ := by
  rw [load, h, ofRead]
  cases htext : strictText? bytes with
  | some text =>
    have hbytes := strictText?_eq_some_iff.1 htext
    constructor
    · intro hload
      exact ⟨text, hbytes, (Except.ok.inj hload).symm⟩
    · rintro ⟨text', hbytes', rfl⟩
      obtain rfl : text = text' := Option.some.inj (htext.symm.trans (strictText?_eq_some_iff.2 hbytes'))
      rfl
  | none =>
    refine iff_of_false (fun hload => ?_) ?_
    · cases hload
    · rintro ⟨text, hbytes, -⟩
      cases htext.symm.trans (strictText?_eq_some_iff.2 hbytes)

theorem load_of_not_text (h : d.read path = .ok bytes)
    (hbytes : ¬ ∃ text : String, bytes = encodeUtf8 text.toList) :
    load d path = .error (.io .invalidText) := by
  rw [load, h, ofRead]
  cases htext : strictText? bytes with
  | some text => exact absurd ⟨text, strictText?_eq_some_iff.1 htext⟩ hbytes
  | none => rfl

/-- The state has the members of an object, the last one of each name. -/
theorem get?_stateOfText {written : List (String × Json)} (h : Json.Denotes text written) (name : String) :
    (stateOfText text).get? name = (Json.lookup name written.reverse).map Json.canonical := by
  rw [stateOfText, Json.parse?_eq_object_iff.2 ⟨written, h, rfl⟩, State.get?,
    Json.lookup_canonicalMembers]
  exact Option.or_none

theorem stateOfText_of_not_object (h : ¬ ∃ written, Json.Denotes text written) : stateOfText text = {} := by
  unfold stateOfText
  split
  · next members hparse =>
    obtain ⟨written, hwritten, -⟩ := Json.parse?_eq_object_iff.1 hparse
    exact absurd ⟨written, hwritten⟩ h
  · rfl

/-! ## Writing -/

/-- The file is the document of a value, written out. -/
def Document (d : Disk) (path : List Char) (v : Json) : Prop :=
  ∃ text : String, d.read path = .ok (encodeUtf8 text.toList) ∧ Json.ofText? text.toList = some v

/-- A write that succeeds makes the file a document, whatever was in it. -/
theorem document_of_save (h : f.save d = .ok d₁) :
    Document d₁ f.path (Json.object f.state.members).asWritten := by
  obtain ⟨prepared, hwrite⟩ := exists_write_of_save h
  exact ⟨f.text, Disk.read_of_write hwrite, Json.ofText?_pretty _⟩

theorem save_of_set {name : String} {value : Json} (h : f.set name value d₁ = (.ok (), g, d₂)) :
    g = { f with state := f.state.set name value.canonical } ∧ g.save d₁ = .ok d₂ := by
  rw [set, commit] at h
  split at h
  · next d hsave =>
    rw [Prod.mk.injEq, Prod.mk.injEq] at h
    obtain ⟨-, rfl, rfl⟩ := h
    exact ⟨rfl, hsave⟩
  · cases h

/-- A document opens. -/
theorem exists_load_of_document {v : Json} (h : Document d path v) : ∃ f, load d path = .ok f := by
  obtain ⟨text, hread, -⟩ := h
  exact ⟨_, (load_eq_ok_iff hread).2 ⟨text, rfl, rfl⟩⟩

/-! ## Any bytes at all -/

/-- **What a state file opens as.** A file with any bytes opens exactly when they are UTF-8, and is an
error otherwise. An object gives its members, the last one of each name, and any other text gives none.
A value that is then stored with success makes the file a document of all that memory holds, which opens;
it opens as what memory holds if every value is read back. -/
theorem opens_iff (h : d.read path = .ok bytes) :
    ((∃ f, load d path = .ok f) ↔ ∃ text : String, bytes = encodeUtf8 text.toList) ∧
    ((¬ ∃ text : String, bytes = encodeUtf8 text.toList) → load d path = .error (.io .invalidText)) ∧
    ∀ text : String, bytes = encodeUtf8 text.toList → ∃ f, load d path = .ok f ∧
      Json.Tidy f.state.members ∧
      (∀ written, Json.Denotes text written →
        ∀ name, f.state.get? name = (Json.lookup name written.reverse).map Json.canonical) ∧
      ((¬ ∃ written, Json.Denotes text written) → f.state = {}) ∧
      ∀ name value d₁ g d₂, f.set name value d₁ = (.ok (), g, d₂) →
        g.state = f.state.set name value.canonical ∧
        Document d₂ path (Json.object g.state.members).asWritten ∧
        (∃ f', load d₂ path = .ok f') ∧
        ((∀ m ∈ g.state.members, Json.Faithful 126 m.2) → load d₂ path = .ok g) := by
  have hopens (text : String) (hbytes : bytes = encodeUtf8 text.toList) :
      load d path = .ok ⟨path, stateOfText text⟩ := (load_eq_ok_iff h).2 ⟨text, hbytes, rfl⟩
  refine ⟨⟨?_, ?_⟩, load_of_not_text h, fun text hbytes => ?_⟩
  · rintro ⟨f, hload⟩
    obtain ⟨text, hbytes, -⟩ := (load_eq_ok_iff h).1 hload
    exact ⟨text, hbytes⟩
  · rintro ⟨text, hbytes⟩
    exact ⟨_, hopens text hbytes⟩
  · refine ⟨⟨path, stateOfText text⟩, hopens text hbytes, tidy_stateOfText text,
      fun written hwritten => get?_stateOfText hwritten, stateOfText_of_not_object, ?_⟩
    intro name value d₁ g d₂ hset
    obtain ⟨rfl, hsave⟩ := save_of_set hset
    have htidy : Json.Tidy (Json.put name value.canonical (stateOfText text).members) :=
      (tidy_stateOfText text).put (Json.canonical_canonical value)
    have hdocument := document_of_save hsave
    exact ⟨rfl, hdocument, exists_load_of_document hdocument, fun hvalues =>
      load_of_save ⟨htidy, hvalues⟩ hsave⟩

/-- The place of a state file. -/
def place : List Char := "state.json".toList

/-- A disk with nothing but a state file of those bytes. -/
def holding (bytes : List UInt8) : Disk := { nodes := [(["state.json"], .file bytes)] }

/-- An array that is cut off opens as no state, and the first value that is stored repairs the file. -/
theorem opens_truncated :
    (holding (encodeUtf8 "[1,".toList)).read place = .ok (encodeUtf8 "[1,".toList) ∧
    ∃ f g d, load (holding (encodeUtf8 "[1,".toList)) place = .ok f ∧ f.state = {} ∧
      f.set "a" .null (holding (encodeUtf8 "[1,".toList)) = (.ok (), g, d) ∧
      load d place = .ok g ∧ g.state.members = [("a", .null)] := by
  have hread : (holding (encodeUtf8 "[1,".toList)).read place = .ok (encodeUtf8 "[1,".toList) := rfl
  have hnone : ¬ ∃ written, Json.Denotes "[1," written := by
    rintro ⟨written, h⟩
    have hsome : (Json.ofText? "[1,".toList).isSome = true := by rw [h.document]; rfl
    exact absurd hsome (by decide +kernel)
  obtain ⟨-, -, hopens⟩ := opens_iff hread
  obtain ⟨f, hload, -, -, hempty, hset⟩ := hopens "[1," rfl
  have hstate : f = ⟨place, {}⟩ := by
    have hpath := (of_load hload).1
    cases f
    rw [StateFile.mk.injEq]
    exact ⟨hpath, hempty hnone⟩
  subst hstate
  have hstored : StateFile.set ⟨place, {}⟩ "a" .null (holding (encodeUtf8 "[1,".toList)) =
      (.ok (), ⟨place, ⟨[("a", .null)]⟩⟩,
        holding (encodeUtf8 (StateFile.text ⟨place, ⟨[("a", .null)]⟩⟩).toList)) := rfl
  obtain ⟨-, -, -, hback⟩ := hset _ _ _ _ _ hstored
  exact ⟨hread, _, _, _, hload, rfl, hstored, hback (List.forall_mem_singleton.2 .null), rfl⟩

/-- A byte that no text has keeps the file from opening. -/
theorem load_binary : (holding [0xff]).read place = .ok [0xff] ∧
    load (holding [0xff]) place = .error (.io .invalidText) := by
  have hread : (holding [0xff]).read place = .ok [0xff] := rfl
  have htext : strictText? [0xff] = none := by decide +kernel
  refine ⟨hread, load_of_not_text hread ?_⟩
  rintro ⟨text, hbytes⟩
  cases htext.symm.trans (strictText?_eq_some_iff.2 hbytes)

end StateFile

end ScpiConsole
