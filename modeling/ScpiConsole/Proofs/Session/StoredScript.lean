import ScpiConsole.Proofs.Session.Books
import ScpiConsole.Proofs.Session.Stored
import ScpiConsole.Proofs.State.Durable
import ScpiConsole.Session.Batch
/-!
# The script in the state file

Text and origin of a script are two values, written one after the other. When one of these writes fails
the file can come to hold the text of one script and the origin of another.

* `Cabinet.run` : an act on a session, with a state file whose writes may fail
* `ScriptStep` : scripts take the place of scripts, and other values are written in between
* `Whole` : whether memory and file hold a script as it was given, told from the writes that failed
* `StoreRun.Sound.step`, `sound_after` : the script in memory and the one in the file, step by step
* `restored_after` : what is restored from the file after any steps
-/

namespace ScpiConsole

/-! ## Acts and a state file -/

/-- Storage, and why the disk takes no write at the next attempts. After these it takes all. -/
structure Cabinet where
  storage : Storage
  faults : List (Option IoError) := []

namespace Cabinet

def attempt (c : Cabinet) (change : StateFile.Change) : Except StateError Unit × Cabinet :=
  let outcome := c.storage.attempt ⟨change, c.faults.head?.join⟩
  (outcome.1, ⟨outcome.2, c.faults.tail⟩)

/-- The state file answers for what is stored, and `o` for all else. -/
def answer (o : (e : Effect) → e.Answer) (s : Session) :
    (e : Effect) → StateM Cabinet (Session × e.Answer)
  | .load slot => fun c => ((s, c.storage.file.state.get? slot.name), c)
  | .save slot value => fun c =>
    ((s, (c.attempt (.set slot.name value)).1), (c.attempt (.set slot.name value)).2)
  | e => pure (s, o e)

def run {α : Type} (o : (e : Effect) → e.Answer) (x : Act Session α) (s : Session) (c : Cabinet) :
    (Session × α) × Cabinet := (x.run (answer o) s).run c

theorem run_bind {α β : Type} {o : (e : Effect) → e.Answer} (x : Act Session α)
    (f : α → Act Session β) (s : Session) (c : Cabinet) :
    c.run o (x >>= f) s = (c.run o x s).2.run o (f (c.run o x s).1.2) (c.run o x s).1.1 :=
  congrFun (Talk.run_bind (answer o) (x s) fun s a => f a s) c

theorem run_save {o : (e : Effect) → e.Answer} (slot : Slot) (value : Json) (s : Session)
    (c : Cabinet) : c.run o (Act.perform (.save slot value)) s =
      ((s, (c.attempt (.set slot.name value)).1), (c.attempt (.set slot.name value)).2) := rfl

end Cabinet

/-- The script that is restored from a state. -/
def Script.ofState (s : State) : Script :=
  .ofStored (s.get? Slot.scriptSource.name) (s.get? Slot.scriptOrigin.name)

namespace Cabinet

variable {o : (e : Effect) → e.Answer} {s : Session} {c : Cabinet}

/-- A script that could not be loaded changes nothing, and is told of once. -/
theorem run_replaceScript_error (e : ScriptError) : c.run o (Session.replaceScript (.error e)) s =
    (({ s with notices := s.notices.map (· ++ [.load e.message]) }, false), c) := rfl

/-- The origin is written if the text was. -/
theorem run_replaceScript_ok (script : Script) : c.run o (Session.replaceScript (.ok script)) s =
    let text := c.attempt (.set Slot.scriptSource.name (.string script.source))
    let origin := text.2.attempt (.set Slot.scriptOrigin.name script.origin.toJson)
    (({ s with script }, true), match text.1 with | .ok _ => origin.2 | .error _ => text.2) := by
  rw [Session.replaceScript, run_bind, run_save]
  dsimp only
  cases (c.attempt (.set Slot.scriptSource.name (.string script.source))).1 with
  | ok _ => rfl
  | error e => rfl

end Cabinet

/-! ## Scripts in a state -/

namespace Script

variable {s : State} {name : String} {value : Json}

theorem ofState_setSource (s : State) (text : String) :
    ofState (s.set Slot.scriptSource.name (.string text)) = ⟨text, (ofState s).origin⟩ := by
  rw [ofState, State.get?_set_self, State.get?_set_of_ne s (by decide)]
  rfl

theorem ofState_setOrigin (s : State) (o : Origin) :
    ofState (s.set Slot.scriptOrigin.name o.toJson) = ⟨(ofState s).source, o⟩ := by
  rw [ofState, State.get?_set_self, State.get?_set_of_ne s (by decide), ofStored, Option.bind_some,
    Origin.ofJson?_toJson]
  rfl

end Script

namespace StateFile.Change

/-- The change concerns neither part of the script. -/
def Elsewhere : Change → Prop
  | .set name _ | .remove name => name ≠ Slot.scriptSource.name ∧ name ≠ Slot.scriptOrigin.name
  | .clear => False

theorem Elsewhere.ofState_result {c : Change} (hc : c.Elsewhere) (s : State) :
    Script.ofState (c.result s) = Script.ofState s := by
  cases c with
  | set name value =>
    rw [result, Script.ofState, State.get?_set_of_ne s hc.1.symm, State.get?_set_of_ne s hc.2.symm]
    rfl
  | remove name =>
    rw [result, Script.ofState, State.get?_remove_of_ne s hc.1.symm,
      State.get?_remove_of_ne s hc.2.symm]
    rfl
  | clear => exact hc.elim

end StateFile.Change

namespace Cabinet

variable {change : StateFile.Change}

theorem state_attempt (c : Cabinet) (change : StateFile.Change) :
    (c.attempt change).2.storage.file.state =
      if change.writes c.storage.file.state then change.result c.storage.file.state
      else c.storage.file.state := Storage.state_attempt ..

theorem ofState_attempt (c : Cabinet) (h : change.Elsewhere) :
    Script.ofState (c.attempt change).2.storage.file.state = .ofState c.storage.file.state := by
  rw [state_attempt]
  split
  · exact h.ofState_result _
  · rfl

theorem ofState_attempt_source (c : Cabinet) (text : String) :
    Script.ofState (c.attempt (.set Slot.scriptSource.name (.string text))).2.storage.file.state =
      ⟨text, (Script.ofState c.storage.file.state).origin⟩ :=
  (congrArg Script.ofState (c.state_attempt _)).trans (Script.ofState_setSource _ text)

theorem ofState_attempt_origin (c : Cabinet) (o : Origin) :
    Script.ofState (c.attempt (.set Slot.scriptOrigin.name o.toJson)).2.storage.file.state =
      ⟨(Script.ofState c.storage.file.state).source, o⟩ :=
  (congrArg Script.ofState (c.state_attempt _)).trans (Script.ofState_setOrigin _ o)

end Cabinet

/-- The text of one of the scripts and the origin of one of them, the same one when `whole`. -/
def Script.Pieced (given : List Script) (whole : Bool) (script : Script) : Prop :=
  ∃ a ∈ given, ∃ b ∈ given, script = ⟨a.source, b.origin⟩ ∧ (whole = true → a = b)

namespace Script

variable {given more : List Script} {whole : Bool} {script : Script}

theorem pieced_of_mem (h : script ∈ given) (whole : Bool) : Pieced given whole script :=
  ⟨script, h, script, h, rfl, fun _ => rfl⟩

theorem Pieced.mono (h : Pieced given whole script) (hmore : given ⊆ more) :
    Pieced more whole script := by
  obtain ⟨a, ha, b, hb, heq, hwhole⟩ := h
  exact ⟨a, hmore ha, b, hmore hb, heq, hwhole⟩

/-- A text is put in front of the origin that was there. -/
theorem Pieced.retext (h : Pieced given whole script) {next : Script} (hnext : next ∈ given) :
    Pieced given false ⟨next.source, script.origin⟩ := by
  obtain ⟨-, -, b, hb, rfl, -⟩ := h
  exact ⟨next, hnext, b, hb, rfl, nofun⟩

end Script

/-! ## Steps -/

/-- What is done with the store: a script takes the place of the one before, or could not be loaded; or
another value is changed. -/
inductive ScriptStep where
  | replace (loaded : Except ScriptError Script)
  | other (change : StateFile.Change)

/-- The script in memory is one that was given, and so is the one in the file. -/
structure Whole where
  memory : Bool := true
  file : Bool := true

/-- A session and its store after some steps. -/
structure StoreRun where
  session : Session
  cabinet : Cabinet
  whole : Whole := {}

namespace ScriptStep

/-- The scripts that are put in the place of others. -/
def given : ScriptStep → List Script
  | .replace (.ok script) => [script]
  | _ => []

/-- Other changes leave text and origin alone, and store what is read back. -/
def Proper : ScriptStep → Prop
  | .replace _ => True
  | .other change => change.Elsewhere ∧ change.Faithful

/-- All else that a session stores may be written in between. -/
theorem proper_stored (s : Session) {slot : Slot}
    (h : slot ≠ .scriptSource ∧ slot ≠ .scriptOrigin) :
    Proper (.other (.set slot.name (s.stored slot))) :=
  ⟨⟨Slot.name_ne h.1, Slot.name_ne h.2⟩, s.faithful_stored slot⟩

/-- What remains whole. A text that is not written stays in memory, in front of an older origin, and an
origin that is not written leaves the file with a newer text. Any later write brings to the file what
memory holds. -/
def whole (step : ScriptStep) (c : Cabinet) (w : Whole) : Whole :=
  match step with
  | .replace (.error _) => w
  | .replace (.ok script) =>
    let text := c.attempt (.set Slot.scriptSource.name (.string script.source))
    let origin := text.2.attempt (.set Slot.scriptOrigin.name script.origin.toJson)
    if text.1.isOk then ⟨true, origin.1.isOk⟩ else ⟨false, w.file⟩
  | .other change =>
    if change.writes c.storage.file.state && (c.attempt change).1.isOk then ⟨w.memory, w.memory⟩
    else w

end ScriptStep

namespace StoreRun

def step (o : (e : Effect) → e.Answer) (r : StoreRun) (step : ScriptStep) : StoreRun :=
  match step with
  | .replace loaded =>
    let ended := r.cabinet.run o (Session.replaceScript loaded) r.session
    ⟨ended.1.1, ended.2, step.whole r.cabinet r.whole⟩
  | .other change => ⟨r.session, (r.cabinet.attempt change).2, step.whole r.cabinet r.whole⟩

def after (o : (e : Effect) → e.Answer) (r : StoreRun) (steps : List ScriptStep) : StoreRun :=
  steps.foldl (step o) r

/-- The script in memory and the one in the file are pieced together from given scripts. -/
structure Sound (path : List Char) (given : List Script) (c : Cabinet) (w : Whole) : Prop where
  path_eq : c.storage.file.path = path
  faithful : c.storage.file.state.Faithful
  memory : Script.Pieced given w.memory (.ofState c.storage.file.state)
  file : ∃ f, StateFile.load c.storage.disk path = .ok f ∧
    Script.Pieced given w.file (.ofState f.state)

variable {path : List Char} {given : List Script} {c : Cabinet} {w : Whole}

theorem Sound.mono (h : Sound path given c w) {more : List Script} (hmore : given ⊆ more) :
    Sound path more c w where
  path_eq := h.path_eq
  faithful := h.faithful
  memory := h.memory.mono hmore
  file := h.file.imp fun _ hf => ⟨hf.1, hf.2.mono hmore⟩

/-- A write brings to the file what memory then holds. Without one the file stays as it was. -/
theorem Sound.attempt (h : Sound path given c w) {change : StateFile.Change}
    (hchange : change.Faithful) {memory : Bool}
    (hmemory : Script.Pieced given memory (.ofState (c.attempt change).2.storage.file.state)) :
    Sound path given (c.attempt change).2 ⟨memory,
      if change.writes c.storage.file.state && (c.attempt change).1.isOk then memory else w.file⟩ := by
  have hpath : (c.attempt change).2.storage.file.path = path :=
    (Storage.path_attempt c.storage _).trans h.path_eq
  refine ⟨hpath, Storage.faithful_attempt h.faithful hchange, hmemory, ?_⟩
  by_cases hwrites : c.storage.Writes ⟨change, c.faults.head?.join⟩
  · have hdurable := Storage.durable_of_writes h.faithful hchange hwrites
    have hok : (c.attempt change).1.isOk = true := by
      rw [Cabinet.attempt, hwrites.2]
      rfl
    have hthere : change.writes c.storage.file.state = true := hwrites.1
    rw [hok, hthere]
    exact ⟨_, hpath ▸ hdurable, hmemory⟩
  · -- With nothing to write, or with a write that fails, the file stays as it was.
    have hkept := Storage.load_attempt_of_not_writes hwrites path
    have hflag : (change.writes c.storage.file.state && (c.attempt change).1.isOk) = false := by
      rw [Bool.and_eq_false_iff, ← Bool.not_eq_true, ← Bool.not_eq_true, ← not_and_or]
      rintro ⟨hthere, hok⟩
      refine hwrites ⟨hthere, ?_⟩
      change (c.attempt change).1 = .ok ()
      cases hanswer : (c.attempt change).1 with
      | ok _ => rfl
      | error e =>
        rw [hanswer] at hok
        cases hok
    rw [hflag]
    obtain ⟨f, hload, hpieced⟩ := h.file
    exact ⟨f, hkept.trans hload, hpieced⟩

/-- Each step leaves memory and file pieced together from what was given by then, and whole as told. -/
theorem Sound.step {r : StoreRun} (h : Sound path given r.cabinet r.whole)
    (o : (e : Effect) → e.Answer) {step : ScriptStep} (hstep : step.Proper) :
    Sound path (given ++ step.given) (r.step o step).cabinet (r.step o step).whole := by
  have hmore := h.mono (List.subset_append_left given step.given)
  match step with
  | .replace (.error e) => exact hmore
  | .other change =>
    obtain ⟨helsewhere, hfaithful⟩ := hstep
    have hmemory := hmore.memory
    rw [← r.cabinet.ofState_attempt helsewhere] at hmemory
    have hnext := hmore.attempt hfaithful hmemory
    rw [StoreRun.step, ScriptStep.whole]
    dsimp only
    split
    · next hwrites => rwa [hwrites] at hnext
    · next hwrites => rwa [if_neg hwrites] at hnext
  | .replace (.ok script) =>
    have hgiven : script ∈ given ++ ScriptStep.given (.replace (.ok script)) :=
      List.mem_append_right _ List.mem_cons_self
    have hsource : (StateFile.Change.set Slot.scriptSource.name (.string script.source)).Faithful :=
      Json.Faithful.string _
    have horigin : (StateFile.Change.set Slot.scriptOrigin.name script.origin.toJson).Faithful :=
      script.origin.faithful_toJson
    rw [StoreRun.step, ScriptStep.whole, Cabinet.run_replaceScript_ok]
    dsimp only
    -- In memory the text stands in front of the origin from before, until the origin follows.
    have hretext := hmore.memory.retext hgiven
    rw [← r.cabinet.ofState_attempt_source script.source] at hretext
    have htext := hmore.attempt hsource hretext
    have hwhole : Script.Pieced (given ++ ScriptStep.given (.replace (.ok script))) true
        (.ofState ((r.cabinet.attempt
          (.set Slot.scriptSource.name (.string script.source))).2.attempt
          (.set Slot.scriptOrigin.name script.origin.toJson)).2.storage.file.state) := by
      rw [Cabinet.ofState_attempt_origin, Cabinet.ofState_attempt_source]
      exact Script.pieced_of_mem hgiven true
    have hboth := htext.attempt horigin hwhole
    generalize r.cabinet.attempt (.set Slot.scriptSource.name (.string script.source)) = text
      at htext hboth ⊢
    obtain ⟨answer, cabinet⟩ := text
    cases answer with
    | error e => exact htext
    | ok _ =>
      change Sound path _ _ ⟨true, if (cabinet.attempt _).1.isOk then true else false⟩ at hboth
      rw [Bool.if_true_left, Bool.or_false, Bool.decide_eq_true] at hboth
      exact hboth

theorem sound_after {r : StoreRun} (h : Sound path given r.cabinet r.whole)
    (o : (e : Effect) → e.Answer) {steps : List ScriptStep} (hsteps : ∀ step ∈ steps, step.Proper) :
    Sound path (given ++ steps.flatMap ScriptStep.given) (r.after o steps).cabinet
      (r.after o steps).whole := by
  induction steps generalizing given r with
  | nil => rwa [List.flatMap_nil, List.append_nil]
  | cons step steps ih =>
    obtain ⟨hstep, hsteps⟩ := List.forall_mem_cons.1 hsteps
    rw [List.flatMap_cons, ← List.append_assoc]
    exact ih (h.step o hstep) hsteps

/-- **The stored script.** Scripts take the place of scripts, other values are written in between, and
any write may fail. What is restored from the file has the text of the first script or of one that was
given, and the origin of one of these. It is the same one unless the text of a script was not written and
memory has reached the file since, or the origin of the last script was not written and memory has not
reached the file since. A script that could not be loaded changes nothing but the news, by one. -/
theorem restored_after {d : Disk} {f : StateFile} (hload : StateFile.load d path = .ok f)
    (hvalues : ∀ m ∈ f.state.members, Json.Faithful 126 m.2) (faults : List (Option IoError))
    (s : Session) (o : (e : Effect) → e.Answer) {steps : List ScriptStep}
    (hsteps : ∀ step ∈ steps, step.Proper) :
    let r := StoreRun.after o ⟨s, ⟨⟨f, d⟩, faults⟩, {}⟩ steps
    (∃ g, StateFile.load r.cabinet.storage.disk path = .ok g ∧
      Script.Pieced (.ofState f.state :: steps.flatMap ScriptStep.given) r.whole.file
        (.ofState g.state)) ∧
    ∀ e : ScriptError, r.cabinet.run o (Session.replaceScript (.error e)) r.session =
      (({ r.session with notices := r.session.notices.map (· ++ [.load e.message]) }, false),
        r.cabinet) := by
  intro r
  obtain ⟨hpath, htidy⟩ := StateFile.of_load hload
  have hfirst (whole : Bool) : Script.Pieced [.ofState f.state] whole (.ofState f.state) :=
    Script.pieced_of_mem List.mem_cons_self whole
  have hstart : Sound path [.ofState f.state] ⟨⟨f, d⟩, faults⟩ {} :=
    ⟨hpath, ⟨htidy, hvalues⟩, hfirst true, f, hload, hfirst true⟩
  exact ⟨(sound_after hstart o hsteps (r := ⟨s, ⟨⟨f, d⟩, faults⟩, {}⟩)).file,
    fun _ => Cabinet.run_replaceScript_error ..⟩

/-- A script from the clipboard, and then a command for the history. -/
def clipboardSteps : List ScriptStep :=
  [.replace (.ok ⟨"*RST", .clipboard⟩),
    .other (.set Slot.history.name (.array [.string "*IDN?"]))]

theorem proper_clipboardSteps : ∀ step ∈ clipboardSteps, step.Proper := by
  have hhistory : ScriptStep.Proper (.other (.set Slot.history.name (.array [.string "*IDN?"]))) :=
    ScriptStep.proper_stored { line := { history := { entries := ["*IDN?"] } } }
      ⟨by decide, by decide⟩
  exact List.forall_mem_cons.2 ⟨trivial, List.forall_mem_singleton.2 hhistory⟩

/-- These steps from an empty store on, with writes that the disk refuses. -/
def afterClipboard (faults : List (Option IoError)) : StoreRun :=
  after (Session.scripted [] 0 []) ⟨{}, ⟨Storage.fresh, faults⟩, {}⟩ clipboardSteps

/-- The history is refused, the script is not. -/
theorem restored_clipboard :
    (StateFile.load {} "state.json".toList = .ok Storage.fresh.file ∧
      (∀ m ∈ Storage.fresh.file.state.members, Json.Faithful 126 m.2) ∧
      ∀ step ∈ clipboardSteps, step.Proper) ∧
    ∃ g, StateFile.load (afterClipboard [none, none, some Storage.readOnly]).cabinet.storage.disk
        "state.json".toList = .ok g ∧
      Script.ofState g.state ∈ [(⟨"", .file⟩ : Script), ⟨"*RST", .clipboard⟩] := by
  have hload : StateFile.load {} "state.json".toList = .ok Storage.fresh.file := rfl
  have hvalues : ∀ m ∈ Storage.fresh.file.state.members, Json.Faithful 126 m.2 :=
    List.forall_mem_nil _
  refine ⟨⟨hload, hvalues, proper_clipboardSteps⟩, ?_⟩
  obtain ⟨⟨g, hg, a, ha, b, hb, heq, hwhole⟩, -⟩ := restored_after hload hvalues
    [none, none, some Storage.readOnly] {} (Session.scripted [] 0 []) proper_clipboardSteps
  obtain rfl := hwhole (by decide +kernel)
  exact ⟨g, hg, heq ▸ ha⟩

/-- The text is refused, the history is not. The file then holds the text from the clipboard as that of
a file, and this pair nobody gave. -/
theorem restored_torn :
    ∃ g, StateFile.load (afterClipboard [some Storage.readOnly]).cabinet.storage.disk
        "state.json".toList = .ok g ∧
      Script.ofState g.state = ⟨"*RST", .file⟩ ∧
      Script.ofState g.state ∉ [(⟨"", .file⟩ : Script), ⟨"*RST", .clipboard⟩] := by
  have hfirst := Storage.faithful_attempt (State.faithful_clear {}) (w := Storage.fresh)
    (a := ⟨.set Slot.scriptSource.name (.string "*RST"), some Storage.readOnly⟩) (.string _)
  have hwritten : (afterClipboard [some Storage.readOnly]).cabinet.storage.Durable :=
    Storage.durable_of_writes (a := ⟨.set Slot.history.name (.array [.string "*IDN?"]), none⟩) hfirst
      (.array (List.forall_mem_singleton.2 (.string _))) ⟨rfl, by decide +kernel⟩
  refine ⟨(afterClipboard [some Storage.readOnly]).cabinet.storage.file, hwritten, ?_, ?_⟩
  · decide +kernel
  · decide +kernel

end StoreRun

end ScpiConsole
