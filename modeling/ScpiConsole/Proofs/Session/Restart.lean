import ScpiConsole.Proofs.Act.Waits
import ScpiConsole.Proofs.Session.Books
import ScpiConsole.Proofs.Session.Stored
import ScpiConsole.Session.Batch
import ScpiConsole.Session.Settings
/-!
# Restarts

Whatever a session changes of what it keeps, it stores at once. So a new run that takes up what is stored
finds history, logs, preferences and script as the one before left them.

* `State.since`, `Oracle.Retains` : a store whose writes succeed
* `Mutation` : all changes of what is kept
* `Mirrors` : what is stored reads as what the session holds; each change keeps it so
* `restart_invisible` : after any changes a new run takes up the same
-/

namespace ScpiConsole

/-! ## Stores -/

/-- What is stored once the record is made. -/
def State.since (first : State) (record : Record) : State :=
  record.foldl (fun s x => match x.effect with
    | .save slot value => s.set slot.name value.canonical
    | _ => s) first

/-- The store takes every value, and gives back the one that it took last. -/
structure Oracle.Retains (o : Oracle) (first : State) : Prop where
  load : ∀ record slot, o record (.load slot) = (first.since record).get? slot.name
  save : ∀ record slot value, o record (.save slot value) = .ok ()

namespace State

theorem since_concat (first : State) (record : Record) (x : Exchange) :
    first.since (record ++ [x]) = match x.effect with
      | .save slot value => (first.since record).set slot.name value.canonical
      | _ => first.since record := by
  rw [since, List.foldl_append]
  rfl

end State

/-- What is stored under one name leaves the others alone. -/
theorem State.get?_set_slot_of_ne (s : State) {slot other : Slot} (h : other ≠ slot) (value : Json) :
    (s.set slot.name value).get? other.name = s.get? other.name :=
  s.get?_set_of_ne (Slot.name_ne h) value

namespace Session

/-! ## Changes -/

/-- A change of what a session keeps. -/
inductive Mutation where
  | addCommand (scpi : String)
  | clearHistory
  | append (mode : Mode) (e : Entry)
  | insertAfter (mode : Mode) (parent : EntryId) (new : List Entry)
  | update (mode : Mode) (id : EntryId) (change : Entry → Entry)
  | setMinimized (mode : Mode) (id : EntryId) (minimized : Bool)
  | clearLog (mode : Mode)
  | changePreferences (change : Preferences → Preferences)
  | resetPreferences
  | replaceScript (loaded : Except ScriptError Script)

def Mutation.act : Mutation → Act Session Unit
  | .addCommand scpi => recordCommand scpi
  | .clearHistory => Session.clearHistory
  | .append mode e => changeLog mode fun log => log.append e
  | .insertAfter mode parent new =>
    if new.isEmpty then pure () else changeLog mode fun log => log.insertAfter parent new
  | .update mode id change => changeLog mode fun log => log.update id change
  | .setMinimized mode id minimized => changeLog mode fun log => log.setMinimized id minimized
  | .clearLog mode => changeLog mode Log.clear
  | .changePreferences change => do
    let _ ← Session.changePreferences change
  | .resetPreferences => do
    let _ ← Session.changePreferences fun _ => {}
  | .replaceScript loaded => do
    let _ ← Session.replaceScript loaded

def mutate : List Mutation → Act Session Unit
  | [] => pure ()
  | m :: rest => do
    m.act
    mutate rest

/-! ## What is stored and what is held -/

/-- What is stored reads as what the session holds. -/
structure Mirrors (s : Session) (stored : State) : Prop where
  history : (History.ofStored (stored.get? Slot.history.name)).entries = s.line.history.entries
  log : ∀ mode, (Log.ofStored (stored.get? (Mode.slot mode).name)).entries = (s.logOf mode).entries
  preferences : Preferences.ofStored (stored.get? Slot.preferences.name) = s.preferences
  script : Script.ofStored (stored.get? Slot.scriptSource.name)
    (stored.get? Slot.scriptOrigin.name) = s.script

variable {o : Oracle} {first stored : State} {s : Session} {record : Record}

/-! ### One value changed in both -/

theorem Mirrors.setLog (h : Mirrors s stored) (mode : Mode) (log : Log) :
    Mirrors (s.setLog mode log) (stored.set (Mode.slot mode).name log.toJson.canonical) where
  history := by
    rw [State.get?_set_slot_of_ne _ (by cases mode <;> decide), h.history]
    cases mode <;> rfl
  log other := by
    by_cases hother : other = mode
    · subst hother
      rw [State.get?_set_self, Log.entries_ofStored, logOf_setLog]
    · have hslot : other.slot ≠ mode.slot := by
        cases mode <;> cases other <;> first | exact absurd rfl hother | decide
      rw [State.get?_set_slot_of_ne _ hslot, h.log, logOf_setLog_of_ne s hother]
  preferences := by
    rw [State.get?_set_slot_of_ne _ (by cases mode <;> decide), h.preferences]
    cases mode <;> rfl
  script := by
    rw [State.get?_set_slot_of_ne _ (by cases mode <;> decide),
      State.get?_set_slot_of_ne _ (by cases mode <;> decide), h.script]
    cases mode <;> rfl

theorem Mirrors.setHistory (h : Mirrors s stored) {history : History}
    (hcap : history.entries.length ≤ History.cap) :
    Mirrors { s with line := { s.line with history } }
      (stored.set Slot.history.name history.toJson.canonical) where
  history := by
    rw [State.get?_set_self, History.entries_ofStored]
    exact List.take_of_length_le hcap
  log mode := by
    rw [State.get?_set_slot_of_ne _ (by cases mode <;> decide), h.log]
    cases mode <;> rfl
  preferences := by
    rw [State.get?_set_slot_of_ne _ (by decide), h.preferences]
  script := by
    rw [State.get?_set_slot_of_ne _ (by decide), State.get?_set_slot_of_ne _ (by decide), h.script]

theorem Mirrors.setPreferences (h : Mirrors s stored) (preferences : Preferences) :
    Mirrors { s with preferences }
      (stored.set Slot.preferences.name preferences.toJson.canonical) where
  history := by
    rw [State.get?_set_slot_of_ne _ (by decide), h.history]
  log mode := by
    rw [State.get?_set_slot_of_ne _ (by cases mode <;> decide), h.log]
    cases mode <;> rfl
  preferences := by
    rw [State.get?_set_self, Preferences.ofStored_toJson]
  script := by
    rw [State.get?_set_slot_of_ne _ (by decide), State.get?_set_slot_of_ne _ (by decide), h.script]

theorem Mirrors.setScript (h : Mirrors s stored) (script : Script) :
    Mirrors { s with script }
      ((stored.set Slot.scriptSource.name (.string script.source)).set Slot.scriptOrigin.name
        script.origin.toJson) where
  history := by
    rw [State.get?_set_slot_of_ne _ (by decide), State.get?_set_slot_of_ne _ (by decide), h.history]
  log mode := by
    rw [State.get?_set_slot_of_ne _ (by cases mode <;> decide),
      State.get?_set_slot_of_ne _ (by cases mode <;> decide), h.log]
    cases mode <;> rfl
  preferences := by
    rw [State.get?_set_slot_of_ne _ (by decide), State.get?_set_slot_of_ne _ (by decide),
      h.preferences]
  script := by
    rw [State.get?_set_self, State.get?_set_slot_of_ne _ (by decide), State.get?_set_self,
      Script.ofStored_toJson]

/-! ### Acts -/

/-- What an act leaves is mirrored when what it found was. -/
def Mirrored (first : State) (o : Oracle) {α : Type} (x : Act Session α) : Prop :=
  ∀ s record, Mirrors s (first.since record) →
    Mirrors (x.alone o s record).1.1 (first.since (x.alone o s record).2)

section

variable {α β : Type} {x : Act Session α} {f : α → Act Session β}

theorem Mirrored.bind (hx : Mirrored first o x) (hf : ∀ a, Mirrored first o (f a)) :
    Mirrored first o (x >>= f) := by
  intro s record h
  rw [Act.alone_bind]
  exact hf _ _ _ (hx s record h)

theorem mirrored_pure (a : α) : Mirrored first o (pure a : Act Session α) := by
  intro s record h
  rwa [Act.alone_pure]

end

theorem alone_remember (slot : Slot) (value : Json) (s : Session) (record : Record) :
    (remember slot value).alone o s record =
      ((s, ()), record ++ [⟨.save slot value, o record (.save slot value)⟩]) := by
  rw [remember, Act.alone_bind, Act.alone_perform, Act.alone_pure]

theorem mirrored_changeLog (mode : Mode) (change : Log → Log) :
    Mirrored first o (changeLog mode change) := by
  intro s record h
  rw [changeLog, Act.alone_bind, Act.alone_modify, Act.alone_get_bind, alone_remember,
    State.since_concat]
  dsimp only
  rw [logOf_setLog]
  exact h.setLog mode _

theorem mirrored_recordCommand (scpi : String) : Mirrored first o (recordCommand scpi) := by
  intro s record h
  rw [recordCommand, Act.alone_get_bind]
  by_cases hrepeats : s.line.history.repeats scpi = true
  · rw [if_pos hrepeats, Act.alone_pure]
    exact h
  · rw [if_neg hrepeats]
    have hadded : (s.line.history.add scpi).entries.length ≤ History.cap := by
      rw [History.add, if_neg hrepeats]
      exact List.length_take_le ..
    rw [Act.alone_bind, Act.alone_set, alone_remember, State.since_concat]
    exact h.setHistory hadded

theorem mirrored_clearHistory : Mirrored first o clearHistory := by
  intro s record h
  rw [clearHistory, Act.alone_bind, Act.alone_modify, Act.alone_get_bind, alone_remember,
    State.since_concat]
  exact h.setHistory (Nat.zero_le _)

theorem mirrored_changePreferences (change : Preferences → Preferences) :
    Mirrored first o (changePreferences change) := by
  intro s record h
  rw [changePreferences, Act.alone_bind, Act.alone_modify, Act.alone_get_bind, Act.alone_perform,
    State.since_concat]
  exact h.setPreferences _

theorem mirrored_replaceScript (ho : o.Retains first) (loaded : Except ScriptError Script) :
    Mirrored first o (replaceScript loaded) := by
  intro s record h
  cases loaded with
  | error e =>
    rw [replaceScript, Act.alone_bind, notify, Act.alone_modify, Act.alone_pure]
    exact ⟨h.history, h.log, h.preferences, h.script⟩
  | ok script =>
    rw [replaceScript, Act.alone_bind, Act.alone_perform, ho.save]
    dsimp only
    rw [Act.alone_bind, alone_remember, Act.alone_bind, Act.alone_modify, Act.alone_pure,
      State.since_concat, State.since_concat]
    exact h.setScript script

/-- Each change stores what it changed. -/
theorem mirrored_act (ho : o.Retains first) (m : Mutation) : Mirrored first o m.act := by
  cases m with
  | addCommand scpi => exact mirrored_recordCommand scpi
  | clearHistory => exact mirrored_clearHistory
  | append mode e => exact mirrored_changeLog mode fun log => log.append e
  | insertAfter mode parent new =>
    rw [Mutation.act]
    split
    · exact mirrored_pure ()
    · exact mirrored_changeLog mode fun log => log.insertAfter parent new
  | update mode id change => exact mirrored_changeLog mode fun log => log.update id change
  | setMinimized mode id minimized =>
    exact mirrored_changeLog mode fun log => log.setMinimized id minimized
  | clearLog mode => exact mirrored_changeLog mode Log.clear
  | changePreferences change =>
    exact (mirrored_changePreferences change).bind fun _ => mirrored_pure ()
  | resetPreferences => exact (mirrored_changePreferences _).bind fun _ => mirrored_pure ()
  | replaceScript loaded => exact (mirrored_replaceScript ho loaded).bind fun _ => mirrored_pure ()

theorem mirrored_mutate (ho : o.Retains first) (ms : List Mutation) :
    Mirrored first o (mutate ms) := by
  induction ms with
  | nil => exact mirrored_pure ()
  | cons m ms ih => exact (mirrored_act ho m).bind fun _ => ih

/-! ## Taking up what is stored -/

/-- The act stores nothing, and what it leaves is a matter of what is stored and of what it found. -/
def Reads (first : State) (o : Oracle) (x : Act Session Unit) (left : State → Session → Session) :
    Prop := ∀ s record, (x.alone o s record).1.1 = left (first.since record) s ∧
  first.since (x.alone o s record).2 = first.since record

section

variable {x y : Act Session Unit} {left left' : State → Session → Session}

theorem Reads.bind (hx : Reads first o x left) (hy : Reads first o y left') :
    Reads first o (x >>= fun _ => y) fun stored s => left' stored (left stored s) := by
  intro s record
  obtain ⟨hsession, hstored⟩ := hx s record
  obtain ⟨hsession', hstored'⟩ := hy (x.alone o s record).1.1 (x.alone o s record).2
  rw [Act.alone_bind, hsession', hstored', hstored, hsession]
  exact ⟨rfl, rfl⟩

theorem reads_modify (f : Session → Session) : Reads first o (modify f) fun _ s => f s := by
  intro s record
  rw [Act.alone_modify]
  exact ⟨rfl, rfl⟩

theorem reads_load_bind (ho : o.Retains first) (slot : Slot) {f : Option Json → Act Session Unit}
    {left : Option Json → State → Session → Session} (hf : ∀ v, Reads first o (f v) (left v)) :
    Reads first o (Act.perform (.load slot) >>= f) fun stored s =>
      left (stored.get? slot.name) stored s := by
  intro s record
  obtain ⟨hsession, hstored⟩ := hf ((first.since record).get? slot.name) s
    (record ++ [⟨.load slot, o record (.load slot)⟩])
  rw [Act.alone_bind, Act.alone_perform]
  dsimp only
  rw [ho.load] at hsession hstored ⊢
  rw [State.since_concat] at hsession hstored
  exact ⟨hsession, hstored⟩

end

/-- What a new run takes up. -/
def takenUp (stored : State) (s : Session) : Session :=
  let preferences := Preferences.ofStored (stored.get? Slot.preferences.name)
  let log := Log.ofStored (stored.get? Slot.interactiveLog.name)
  let scriptLog := Log.ofStored (stored.get? Slot.scriptLog.name)
  { s with
    preferences
    connection := preferences.apply {}
    log
    line := { history := .ofStored (stored.get? Slot.history.name) }
    scriptLog
    ids := scriptLog.reserveIds (log.reserveIds s.ids)
    script := .ofStored (stored.get? Slot.scriptSource.name) (stored.get? Slot.scriptOrigin.name) }

theorem reads_load (ho : o.Retains first) : Reads first o load takenUp :=
  (reads_load_bind ho .preferences fun _ => reads_modify _).bind <|
    (reads_load_bind ho .interactiveLog fun _ => reads_modify _).bind <|
    (reads_load_bind ho .history fun _ => reads_modify _).bind <|
    (reads_load_bind ho .scriptLog fun _ => reads_modify _).bind <|
    reads_load_bind ho .scriptSource fun _ => reads_load_bind ho .scriptOrigin fun _ => reads_modify _

theorem mirrors_takenUp (stored : State) (s : Session) : Mirrors (takenUp stored s) stored where
  history := rfl
  log mode := by cases mode <;> rfl
  preferences := rfl
  script := rfl

/-- A new run holds what is stored. -/
theorem mirrors_load (ho : o.Retains first) (s : Session) (record : Record) :
    Mirrors (load.alone o s record).1.1 (first.since (load.alone o s record).2) := by
  obtain ⟨hsession, hstored⟩ := reads_load ho s record
  rw [hsession, hstored]
  exact mirrors_takenUp _ s

/-- Two sessions that are mirrored by one store keep the same. -/
theorem Mirrors.eq {t : Session} (h : Mirrors s stored) (ht : Mirrors t stored) :
    t.line.history.entries = s.line.history.entries ∧
      (∀ mode, (t.logOf mode).entries = (s.logOf mode).entries) ∧
      t.preferences = s.preferences ∧ t.script = s.script :=
  ⟨ht.history.symm.trans h.history, fun mode => (ht.log mode).symm.trans (h.log mode),
    ht.preferences.symm.trans h.preferences, ht.script.symm.trans h.script⟩

/-- **Restarts are invisible.** A session takes up whatever is stored and changes what it keeps again and
again, in a store that takes every value. A new run `t` then finds the same history, the same entries in
both logs with all their fields, the same preferences and the same script. -/
theorem restart_invisible (ho : o.Retains first) (s t : Session) (ms : List Mutation) :
    let live := (load >>= fun _ => mutate ms).alone o s []
    let anew := load.alone o t live.2
    anew.1.1.line.history.entries = live.1.1.line.history.entries ∧
      (∀ mode, (anew.1.1.logOf mode).entries = (live.1.1.logOf mode).entries) ∧
      anew.1.1.preferences = live.1.1.preferences ∧ anew.1.1.script = live.1.1.script := by
  intro live anew
  have hlive : Mirrors live.1.1 (first.since live.2) := by
    have hmutated := mirrored_mutate ho ms _ _ (mirrors_load ho s [])
    have hsplit : live = (mutate ms).alone o (load.alone o s []).1.1 (load.alone o s []).2 :=
      Act.alone_bind ..
    rwa [hsplit]
  -- Taking up stores nothing, so one and the same store mirrors both sessions.
  obtain ⟨-, hstored⟩ := reads_load ho t live.2
  have hanew := mirrors_load ho t live.2
  rw [hstored] at hanew
  exact hlive.eq hanew

/-- A store that takes every value, over answers for closed instances. -/
def keeping (first : State) : Oracle := fun record e =>
  match e with
  | .load slot => (first.since record).get? slot.name
  | .save _ _ => .ok ()
  | e => scripted [] 0 record e

theorem retains_keeping (first : State) : (keeping first).Retains first :=
  ⟨fun _ _ => rfl, fun _ _ _ => rfl⟩

/-- A history that is none, as the file of a stranger may hold one. -/
def strange : State := ⟨[("history", .nat 7)]⟩

/-- A command in flight, and the script that is to follow. -/
def firstDay : List Mutation :=
  [.addCommand "*IDN?", .append .interactive (.pending ⟨1⟩ .epoch "*IDN?"),
    .changePreferences fun p => { p with timeoutSeconds := 30 },
    .replaceScript (.ok ⟨"*RST", .clipboard⟩)]

theorem restart_after_firstDay :
    (keeping strange).Retains strange ∧
    let live := (load >>= fun _ => mutate firstDay).alone (keeping strange) {} []
    let anew := (load.alone (keeping strange) {} live.2).1.1
    anew.line.history.entries = ["*IDN?"] ∧ anew.log.entries = [.pending ⟨1⟩ .epoch "*IDN?"] ∧
      anew.preferences.timeoutSeconds = 30 ∧ anew.script = ⟨"*RST", .clipboard⟩ := by
  have ho := retains_keeping strange
  obtain ⟨hhistory, hlog, hpreferences, hscript⟩ := restart_invisible ho {} {} firstDay
  refine ⟨ho, hhistory.trans (by decide +kernel), (hlog .interactive).trans (by decide +kernel), ?_,
    hscript.trans (by decide +kernel)⟩
  exact (congrArg Preferences.timeoutSeconds hpreferences).trans (by decide +kernel)

end Session

end ScpiConsole
