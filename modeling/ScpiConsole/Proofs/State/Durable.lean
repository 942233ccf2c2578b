import Mathlib.Data.List.Induction
import ScpiConsole.Proofs.Disk.Write
import ScpiConsole.Proofs.Json.RoundTrip
import ScpiConsole.Proofs.Text.Utf8
import ScpiConsole.State.File
/-!
# What reaches the state file

Any write of the state file may fail. The change then stays in memory alone, and the file stays as it
was. A write that succeeds brings everything to the file that memory holds.

* `State.Faithful` : values that survive being written and read
* `StateFile.Change` : a change of the state; `Change.apply_eq` says what it does, and when it writes
* `Storage.attempt` : a change while the disk takes writes or refuses them
* `Storage.exists_load_after` : the file holds what memory held after some change, and no write came
  through since
* `Storage.durable_iff` : when a change that succeeded has reached the file
-/

namespace ScpiConsole

/-! ## Files that are read back -/

/-- Sorted values that are read back inside of the one object that the file is. -/
structure State.Faithful (s : State) : Prop where
  tidy : Json.Tidy s.members
  values : ∀ m ∈ s.members, Json.Faithful 126 m.2

namespace State

variable {s : State} {name : String} {value : Json}

theorem get?_remove_of_ne (s : State) {other : String} (h : other ≠ name) :
    (s.remove name).get? other = s.get? other := Json.lookup_erase_of_ne h s.members

theorem faithful_clear (s : State) : s.clear.Faithful := ⟨Json.tidy_nil, List.forall_mem_nil _⟩

theorem Faithful.set (h : s.Faithful) (hvalue : Json.Faithful 126 value) :
    (s.set name value.canonical).Faithful where
  tidy := h.tidy.put (Json.canonical_canonical value)
  values m hm := by
    rcases Json.mem_of_mem_put hm with rfl | hm
    · exact hvalue.canonical
    · exact h.values m hm

theorem Faithful.remove (h : s.Faithful) : (s.remove name).Faithful where
  tidy := h.tidy.erase
  values m hm := h.values m (List.mem_filter.1 hm).1

end State

namespace StateFile

variable {f : StateFile} {d d' : Disk} {path : List Char}

theorem stateOfText_text (h : f.state.Faithful) : stateOfText f.text = f.state := by
  have hobject : Json.Faithful Json.maxNesting (.object f.state.members) := .object h.values
  rw [stateOfText, text, Json.parse?_pretty hobject, Json.canonical,
    Json.canonicalMembers_of_tidy h.tidy]

theorem exists_write_of_save (h : f.save d = .ok d') :
    ∃ prepared : Disk, prepared.write f.path (Text.encodeUtf8 f.text.toList) = .ok d' := by
  -- Whatever directories are made first, the file is then written on the disk that has them.
  unfold save at h
  extract_lets prepared at h
  cases hprepared : prepared with
  | error e =>
    rw [hprepared, Except.bind] at h
    cases h
  | ok ready =>
    rw [hprepared, Except.bind] at h
    split at h
    · next written hwrite => exact ⟨ready, hwrite.trans (congrArg Except.ok (Except.ok.inj h))⟩
    · cases h

/-- A state file that was written is read as it is in memory. -/
theorem load_of_save (hf : f.state.Faithful) (h : f.save d = .ok d') : load d' f.path = .ok f := by
  obtain ⟨prepared, hwrite⟩ := exists_write_of_save h
  rw [load, Disk.read_of_write hwrite, ofRead, Text.strictText?_encodeUtf8, String.ofList_toList]
  dsimp only
  rw [stateOfText_text hf]

@[simp] theorem load_withFault (fault : Option IoError) (path : List Char) :
    load (d.withFault fault) path = load d path := by
  rw [load, load, Disk.read_withFault]

/-! ## Changes -/

/-- A change of the state in a file. -/
inductive Change where
  | set (name : String) (value : Json)
  | remove (name : String)
  | clear

namespace Change

/-- The change, with its write. -/
def apply (f : StateFile) (d : Disk) : Change → Except StateError Unit × StateFile × Disk
  | .set name value => f.set name value d
  | .remove name => f.remove name d
  | .clear => f.clear d

/-- What it makes of the state. -/
def result (s : State) : Change → State
  | .set name value => s.set name value.canonical
  | .remove name => s.remove name
  | .clear => s.clear

/-- There is something to write: only a value that is there can be removed. -/
def writes (s : State) : Change → Bool
  | .remove name => (s.get? name).isSome
  | _ => true

/-- The value that it stores is read back. -/
def Faithful : Change → Prop
  | .set _ value => Json.Faithful 126 value
  | _ => True

/-- A change is made in memory first, and then written if there is something to write. -/
theorem apply_eq (c : Change) (f : StateFile) (d : Disk) : c.apply f d =
    if c.writes f.state then commit { f with state := c.result f.state } d else (.ok (), f, d) := by
  cases c with
  | set name value => rfl
  | remove name => rfl
  | clear => rfl

theorem Faithful.result {c : Change} (hc : c.Faithful) {s : State} (hs : s.Faithful) :
    (c.result s).Faithful := by
  cases c with
  | set name value => exact hs.set hc
  | remove name => exact hs.remove
  | clear => exact s.faithful_clear

end Change

/-! ## Opening -/

/-- What is read from a file is sorted and canonical. -/
theorem tidy_stateOfText (text : String) : Json.Tidy (stateOfText text).members := by
  unfold stateOfText
  split
  · next members hparse =>
    simp only [Json.parse?, Option.bind_eq_bind, Option.bind_eq_some_iff] at hparse
    obtain ⟨v, -, -, -, hcanonical⟩ := hparse
    replace hcanonical : v.canonical = .object members := Option.some.inj hcanonical
    cases v with
    | object written =>
      rw [Json.canonical, Json.object.injEq] at hcanonical
      exact hcanonical ▸ Json.tidy_canonicalMembers written Json.tidy_nil
    | _ => cases hcanonical
  · exact Json.tidy_nil

theorem of_load (h : load d path = .ok f) : f.path = path ∧ Json.Tidy f.state.members := by
  unfold load ofRead at h
  split at h
  · split at h
    · cases h
      exact ⟨rfl, tidy_stateOfText _⟩
    · cases h
  · cases h
    exact ⟨rfl, Json.tidy_nil⟩
  · cases h

end StateFile

/-! ## A disk that may refuse writes -/

/-- A state file in memory, and the disk that it is kept on. -/
structure Storage where
  file : StateFile
  disk : Disk

/-- A change that is tried, and why the disk takes no write then, if it takes none. -/
structure Attempt where
  change : StateFile.Change
  fault : Option IoError := none

namespace Storage

/-- The answer to a change, and what it leaves. -/
def attempt (w : Storage) (a : Attempt) : Except StateError Unit × Storage :=
  let outcome := a.change.apply w.file (w.disk.withFault a.fault)
  (outcome.1, ⟨outcome.2.1, outcome.2.2⟩)

/-- What changes leave, one after the other. -/
def after (w : Storage) (attempts : List Attempt) : Storage :=
  attempts.foldl (fun w a => (w.attempt a).2) w

/-- What is read from the disk is what memory holds. -/
def Durable (w : Storage) : Prop := StateFile.load w.disk w.file.path = .ok w.file

/-- The change has something to write, and its write succeeds. -/
def Writes (w : Storage) (a : Attempt) : Prop :=
  a.change.writes w.file.state = true ∧ (w.attempt a).1 = .ok ()

variable {w : Storage} {a : Attempt} {attempts : List Attempt}

theorem after_concat (w : Storage) (attempts : List Attempt) (a : Attempt) :
    w.after (attempts ++ [a]) = ((w.after attempts).attempt a).2 := by
  rw [after, List.foldl_append]
  rfl

/-- The file in memory once the change is made. -/
def changed (w : Storage) (a : Attempt) : StateFile :=
  { w.file with state := a.change.result w.file.state }

/-- All that an attempt can come to: nothing is to be written, or the change is made in memory and the
write succeeds or fails. -/
theorem attempt_cases (w : Storage) (a : Attempt) :
    (a.change.writes w.file.state = false ∧
      w.attempt a = (.ok (), ⟨w.file, w.disk.withFault a.fault⟩)) ∨
    (a.change.writes w.file.state = true ∧ ∃ d,
      (w.changed a).save (w.disk.withFault a.fault) = .ok d ∧
        w.attempt a = (.ok (), ⟨w.changed a, d⟩)) ∨
    (a.change.writes w.file.state = true ∧ ∃ e,
      w.attempt a = (.error e, ⟨w.changed a, w.disk.withFault a.fault⟩)) := by
  cases hwrites : a.change.writes w.file.state with
  | false =>
    left
    rw [attempt, StateFile.Change.apply_eq, hwrites]
    exact ⟨rfl, rfl⟩
  | true =>
    right
    rw [attempt, StateFile.Change.apply_eq, hwrites, if_pos rfl, StateFile.commit, ← changed]
    cases hsave : (w.changed a).save (w.disk.withFault a.fault) with
    | ok d => exact .inl ⟨rfl, d, rfl, rfl⟩
    | error e => exact .inr ⟨rfl, e, rfl⟩

theorem path_attempt (w : Storage) (a : Attempt) : (w.attempt a).2.file.path = w.file.path := by
  rcases w.attempt_cases a with ⟨-, h⟩ | ⟨-, d, -, h⟩ | ⟨-, e, h⟩ <;> rw [h] <;> rfl

theorem state_attempt (w : Storage) (a : Attempt) : (w.attempt a).2.file.state =
    if a.change.writes w.file.state then a.change.result w.file.state else w.file.state := by
  rcases w.attempt_cases a with ⟨hwrites, h⟩ | ⟨hwrites, d, -, h⟩ | ⟨hwrites, e, h⟩ <;>
    rw [h, hwrites] <;> rfl

theorem faithful_attempt (hw : w.file.state.Faithful) (ha : a.change.Faithful) :
    (w.attempt a).2.file.state.Faithful := by
  rcases w.attempt_cases a with ⟨-, h⟩ | ⟨-, d, -, h⟩ | ⟨-, e, h⟩
  · rw [h]
    exact hw
  · rw [h]
    exact ha.result hw
  · rw [h]
    exact ha.result hw

/-- A write that succeeds brings memory to the file. -/
theorem durable_of_writes (hw : w.file.state.Faithful) (ha : a.change.Faithful) (h : w.Writes a) :
    (w.attempt a).2.Durable := by
  obtain ⟨hwrites, hok⟩ := h
  rcases w.attempt_cases a with ⟨hnone, -⟩ | ⟨-, d, hsave, h⟩ | ⟨-, e, h⟩
  · cases hwrites.symm.trans hnone
  · rw [h]
    exact StateFile.load_of_save (ha.result hw) hsave
  · rw [h] at hok
    cases hok

/-- Without a write that succeeds the file stays as it was. -/
theorem load_attempt_of_not_writes (h : ¬ w.Writes a) (path : List Char) :
    StateFile.load (w.attempt a).2.disk path = StateFile.load w.disk path := by
  rcases w.attempt_cases a with ⟨-, h'⟩ | ⟨hwrites, d, -, h'⟩ | ⟨-, e, h'⟩
  · rw [h']
    exact StateFile.load_withFault a.fault path
  · exact absurd ⟨hwrites, by rw [h']⟩ h
  · rw [h']
    exact StateFile.load_withFault a.fault path

/-! ## Runs -/

theorem faithful_after (hw : w.file.state.Faithful) (h : ∀ a ∈ attempts, a.change.Faithful) :
    (w.after attempts).file.state.Faithful := by
  induction attempts using List.reverseRecOn with
  | nil => exact hw
  | append_singleton attempts a ih =>
    obtain ⟨hattempts, ha⟩ := List.forall_mem_append.1 h
    rw [after_concat]
    exact faithful_attempt (ih hattempts) (ha a List.mem_cons_self)

theorem path_after (w : Storage) (attempts : List Attempt) :
    (w.after attempts).file.path = w.file.path := by
  induction attempts using List.reverseRecOn with
  | nil => rfl
  | append_singleton attempts a ih => rw [after_concat, path_attempt, ih]

/-- The file holds what memory held after some of the changes, and none of the later ones was written. -/
theorem exists_load_after (hw : w.Durable) (hfaithful : w.file.state.Faithful)
    (h : ∀ a ∈ attempts, a.change.Faithful) :
    ∃ n ≤ attempts.length,
      StateFile.load (w.after attempts).disk w.file.path = .ok (w.after (attempts.take n)).file ∧
      ∀ k (hk : k < attempts.length), n ≤ k → ¬ (w.after (attempts.take k)).Writes attempts[k] := by
  induction attempts using List.reverseRecOn with
  | nil => exact ⟨0, Nat.le_refl _, hw, fun k hk => nomatch hk⟩
  | append_singleton attempts a ih =>
    obtain ⟨hattempts, ha⟩ := List.forall_mem_append.1 h
    -- Either the last change reached the file, or the file is as it was before that change.
    by_cases hwrites : (w.after attempts).Writes a
    · refine ⟨(attempts ++ [a]).length, Nat.le_refl _, ?_, fun k hk hn => absurd hk (Nat.not_lt.2 hn)⟩
      have hdurable := durable_of_writes (faithful_after hfaithful hattempts)
        (ha a List.mem_cons_self) hwrites
      rw [Durable, path_attempt, path_after, ← after_concat] at hdurable
      rwa [List.take_length]
    · obtain ⟨n, hn, hload, hpending⟩ := ih hattempts
      have hlength : (attempts ++ [a]).length = attempts.length + 1 := by simp
      refine ⟨n, by omega, ?_, fun k hk hnk => ?_⟩
      · rw [after_concat, load_attempt_of_not_writes hwrites, hload,
          List.take_append_of_le_length hn]
      · by_cases hlast : k < attempts.length
        · rw [List.take_append_of_le_length (Nat.le_of_lt hlast), List.getElem_append_left hlast]
          exact hpending k hlast hnk
        · obtain rfl : k = attempts.length := by omega
          rw [List.take_left, List.getElem_concat_length rfl]
          exact hwrites

/-- A change that succeeds has reached the file if it was written, and else if all was there before. -/
theorem durable_iff (hw : w.file.state.Faithful) (ha : a.change.Faithful)
    (hok : (w.attempt a).1 = .ok ()) :
    (w.attempt a).2.Durable ↔ a.change.writes w.file.state = true ∨ w.Durable := by
  by_cases hwrites : a.change.writes w.file.state = true
  · exact ⟨fun _ => .inl hwrites, fun _ => durable_of_writes hw ha ⟨hwrites, hok⟩⟩
  · have hload := load_attempt_of_not_writes (fun h => hwrites h.1) w.file.path
    have hfile : (w.attempt a).2.file = w.file := by
      rcases w.attempt_cases a with ⟨-, h⟩ | ⟨h, -⟩ | ⟨h, -⟩
      · rw [h]
      · exact absurd h hwrites
      · exact absurd h hwrites
    rw [Durable, hfile, hload, ← Durable]
    exact ⟨.inr, fun h => h.resolve_left hwrites⟩

/-- **What is durable.** A file that was opened is changed again and again, and any of the writes may
fail. The file then holds what memory held after some of the changes, and none of the later ones was
written. A change that succeeds has made memory and file agree if it was written; one that had nothing to
write leaves them as they were, agreeing or not. -/
theorem durable_iff_of_opened {d : Disk} {path : List Char} {f : StateFile}
    (hload : StateFile.load d path = .ok f) (hvalues : ∀ m ∈ f.state.members, Json.Faithful 126 m.2)
    (hattempts : ∀ a ∈ attempts, a.change.Faithful) (ha : a.change.Faithful) :
    let opened : Storage := ⟨f, d⟩
    let w := opened.after attempts
    (∃ n ≤ attempts.length,
      StateFile.load w.disk path = .ok (opened.after (attempts.take n)).file ∧
      ∀ k (hk : k < attempts.length), n ≤ k →
        ¬ (opened.after (attempts.take k)).Writes attempts[k]) ∧
    ((w.attempt a).1 = .ok () →
      ((w.attempt a).2.Durable ↔ a.change.writes w.file.state = true ∨ w.Durable)) := by
  intro opened w
  obtain ⟨hpath, htidy⟩ := StateFile.of_load hload
  have hopened : opened.Durable := by
    rw [Durable]
    exact hpath ▸ hload
  have hfaithful : opened.file.state.Faithful := ⟨htidy, hvalues⟩
  refine ⟨?_, durable_iff (faithful_after hfaithful hattempts) ha⟩
  have hlast := exists_load_after hopened hfaithful hattempts
  rwa [show opened.file.path = path from hpath] at hlast

/-- A disk that is read only. -/
def readOnly : IoError := .other "Read-only file system (os error 30)"

/-- A state file that is not there yet. -/
def fresh : Storage := ⟨⟨"state.json".toList, {}⟩, {}⟩

/-- What a refused write left in memory is not durable, and the next write makes it so. -/
theorem durable_after_failure :
    (StateFile.load {} "state.json".toList = .ok fresh.file ∧
      (∀ m ∈ fresh.file.state.members, Json.Faithful 126 m.2) ∧
      (∀ a ∈ [(⟨.set "a" .null, some readOnly⟩ : Attempt)], a.change.Faithful) ∧
      (StateFile.Change.set "b" .null).Faithful) ∧
    ¬ (fresh.after [⟨.set "a" .null, some readOnly⟩]).Durable ∧
    ((fresh.after [⟨.set "a" .null, some readOnly⟩]).attempt ⟨.set "b" .null, none⟩).2.Durable := by
  have hload : StateFile.load {} "state.json".toList = .ok fresh.file := rfl
  have hvalues : ∀ m ∈ fresh.file.state.members, Json.Faithful 126 m.2 := List.forall_mem_nil _
  have hattempts : ∀ a ∈ [(⟨.set "a" .null, some readOnly⟩ : Attempt)], a.change.Faithful :=
    List.forall_mem_singleton.2 .null
  have hset : (StateFile.Change.set "b" .null).Faithful := Json.Faithful.null
  obtain ⟨-, hdurable⟩ := durable_iff_of_opened (a := ⟨.set "b" .null, none⟩) hload hvalues hattempts hset
  refine ⟨⟨hload, hvalues, hattempts, hset⟩, fun h => ?_, ?_⟩
  · have hget := congrArg (fun r => r.toOption.map fun f => (f.state.get? "a").isSome) h
    revert hget
    decide +kernel
  · exact (hdurable (by decide +kernel)).2 (.inl rfl)

/-- A value that was written is not removed while the disk is read only. Removing it once more succeeds,
and the value is still in the file. -/
theorem load_after_removing_twice :
    let w := fresh.after [⟨.set "a" .null, none⟩, ⟨.remove "a", some readOnly⟩]
    let again := w.attempt ⟨.remove "a", none⟩
    again.1 = .ok () ∧ again.2.file.state.get? "a" = none ∧
      ∃ f, StateFile.load again.2.disk again.2.file.path = .ok f ∧ f.state.get? "a" = some .null := by
  intro w again
  have hstored : (fresh.after [⟨.set "a" .null, none⟩]).Durable :=
    durable_of_writes (State.faithful_clear {}) Json.Faithful.null ⟨rfl, by decide +kernel⟩
  have hkept : ¬ (fresh.after [⟨.set "a" .null, none⟩]).Writes ⟨.remove "a", some readOnly⟩ :=
    fun h => absurd h.2 (by decide +kernel)
  have hidle : ¬ w.Writes ⟨.remove "a", none⟩ := fun h => absurd h.1 (by decide +kernel)
  refine ⟨by decide +kernel, rfl, (fresh.after [⟨.set "a" .null, none⟩]).file, ?_, rfl⟩
  exact (load_attempt_of_not_writes hidle _).trans ((load_attempt_of_not_writes hkept _).trans hstored)

end Storage

end ScpiConsole
