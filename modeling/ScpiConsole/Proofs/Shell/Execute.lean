import ScpiConsole.Proofs.Act.Asks
import ScpiConsole.Proofs.Session.Line
import ScpiConsole.Shell
/-!
# One line of the shell

A line may ask for anything but what the loops around it ask for: it never waits for the operator, leaves
the mode of the terminal alone, and writes no prompt. So a record shows where each line begins and ends.

* `Session.Unseen` : acts of a session that leave the terminal alone
* `Shell.isMark` : what the loops around a line ask for
* `Session.AtRest` : nothing is typed on the input line
* `Shell.alone_tellNotices` : the news is told apart from the output
* `Shell.Orderly`, `Shell.orderly_execute` : a line asks for no marks, and does to the input line what
  commands do
-/

namespace ScpiConsole

variable {α β : Type}

namespace Session

/-! ## Acts of a session -/

/-- Nothing is asked of the terminal. -/
def Unseen (x : Act Session α) : Prop := x.Asks fun e => e.onTerminal = false

theorem unseen_perform {e : Effect} (he : e.onTerminal = false) : Unseen (Act.perform e) :=
  Act.asks_perform he

theorem unseen_remember (slot : Slot) (value : Json) : Unseen (remember slot value) :=
  (unseen_perform rfl).bind fun _ => Act.asks_pure _

theorem unseen_changeLog (mode : Mode) (change : Log → Log) : Unseen (changeLog mode change) :=
  (Act.asks_modify _).bind fun _ => Act.asks_get_bind fun _ => unseen_remember _ _

theorem unseen_newEntry (scpi : String) : Unseen (newEntry scpi) :=
  (Act.asks_modifyGet _).bind fun _ => (unseen_perform rfl).bind fun _ => Act.asks_pure _

theorem unseen_newErrors (errors : List String) : Unseen (newErrors errors) := by
  induction errors with
  | nil => exact Act.asks_pure _
  | cons error rest ih =>
    exact (Act.asks_modifyGet _).bind fun _ => (unseen_perform rfl).bind fun _ =>
      ih.bind fun _ => Act.asks_pure _

theorem unseen_addErrors (mode : Mode) (id : EntryId) (errors : List String) :
    Unseen (addErrors mode id errors) := by
  refine (unseen_newErrors errors).bind fun entries => ?_
  split
  · exact Act.asks_pure _
  · exact unseen_changeLog mode _

theorem unseen_conclude (mode : Mode) (id : EntryId) (scpi : String) (elapsed : Elapsed)
    (answer : Except ServerError Reply) : Unseen (conclude mode id scpi elapsed answer) := by
  cases answer with
  | ok reply =>
    exact (unseen_changeLog mode _).bind fun _ =>
      (unseen_addErrors mode id _).bind fun _ => Act.asks_pure _
  | error e =>
    exact (unseen_changeLog mode _).bind fun _ =>
      (Act.asks_modify _).bind fun _ => Act.asks_pure _

theorem unseen_dispatch (mode : Mode) (scpi : String) : Unseen (dispatch mode scpi) := by
  have hpending : Unseen (logPending mode (normalized scpi)) :=
    (unseen_newEntry _).bind fun _ => (unseen_changeLog mode _).bind fun _ => Act.asks_pure _
  refine Act.asks_get_bind fun s => hpending.bind fun entry => ?_
  exact (unseen_perform rfl).bind fun start => (unseen_perform rfl).bind fun answer =>
    (unseen_perform rfl).bind fun stop => unseen_conclude mode entry.id _ _ answer

theorem unseen_recordCommand (scpi : String) : Unseen (recordCommand scpi) := by
  refine Act.asks_get_bind fun s => ?_
  split
  · exact Act.asks_pure _
  · exact (Act.asks_set _).bind fun _ => unseen_remember _ _

theorem unseen_clearHistory : Unseen clearHistory :=
  (Act.asks_modify _).bind fun _ => Act.asks_get_bind fun _ => unseen_remember _ _

theorem unseen_guarded {work : Act Session α} (h : Unseen work) : Unseen (guarded work) := by
  refine (Act.asks_modifyGet _).bind fun granted => ?_
  cases granted with
  | false => exact Act.asks_pure _
  | true => exact h.bind fun _ => (Act.asks_modify _).bind fun _ => Act.asks_pure _

theorem unseen_sendCommand (scpi : String) : Unseen (sendCommand scpi) :=
  (Act.asks_modify _).bind fun _ => (unseen_dispatch _ _).bind fun _ =>
    (unseen_recordCommand _).bind fun _ => Act.asks_pure _

theorem unseen_submitText (text : String) : Unseen (submitText text) := by
  rw [submitText]
  split
  · exact Act.asks_pure _
  · exact (unseen_guarded (unseen_sendCommand _)).bind fun _ => Act.asks_pure _

theorem unseen_identify : Unseen identify := by
  refine Act.asks_get_bind fun s => (unseen_perform rfl).bind fun answer => ?_
  cases answer <;> exact Act.asks_pure _

theorem unseen_loadGrammar : Unseen loadGrammar := by
  have hrefresh : Unseen refreshGrammar := by
    refine Act.asks_get_bind fun s => ?_
    split
    · refine (unseen_perform rfl).bind fun answer => ?_
      cases answer with
      | ok grammar => exact (Act.asks_modify _).bind fun _ => Act.asks_pure _
      | error e => exact Act.asks_pure _
    · exact (Act.asks_set _).bind fun _ => Act.asks_pure _
  refine hrefresh.bind fun answer => ?_
  cases answer <;> exact Act.asks_pure _

theorem leavesFace_identify : LeavesFace identify := by
  refine fun P => Act.keeps_get_bind fun s hs => ?_
  refine (leavesFace_perform _).bind (fun answer => ?_) P s hs
  cases answer <;> exact leavesFace_pure _

/-! ## A line at rest -/

/-- Nothing is typed, and the history is not browsed. -/
def AtRest (s : Session) : Prop := s.line.cleared = s.line

section

variable {s : Session}

theorem AtRest.resetCursor (h : s.AtRest) : s.line.history.resetCursor = s.line.history :=
  congrArg InputLine.history h

theorem atRest_of_line {t : Session} (hs : s.AtRest) (h : t.line = s.line) : t.AtRest := by
  unfold AtRest
  rw [h]
  exact hs

theorem resetCursor_add (history : History) (command : String) :
    (history.add command).resetCursor = history.resetCursor.add command := by
  unfold History.add
  have hrepeats : history.resetCursor.repeats command = history.repeats command := rfl
  rw [hrepeats]
  split <;> rfl

theorem outlasts_atRest : Outlasts fun f => f.line.cleared = f.line where
  take _ := rfl
  record {f} command h := by
    have hadd := resetCursor_add f.line.history command
    have hfree : f.line.history.resetCursor = f.line.history := congrArg InputLine.history h
    rw [hfree] at hadd
    change ({ history := (f.line.history.add command).resetCursor } : InputLine) =
      { f.line with history := f.line.history.add command }
    rw [hadd, ← h]
    rfl
  forget {f} h := by
    change ({ history := f.line.history.clear.resetCursor } : InputLine) =
      { f.line with history := f.line.history.clear }
    rw [← h]
    rfl

end

end Session

namespace Shell

open Session

/-! ## Marks -/

/-- What the loops of the shell ask for, and nothing else does. -/
def isMark : Effect → Bool
  | .await | .rawMode _ => true
  | .print text => text == prompt
  | _ => false

theorem isMark_of_offTerminal {e : Effect} (h : e.onTerminal = false) : isMark e = false := by
  cases e <;> first | rfl | cases h

/-- What is written on lines is no prompt. -/
theorem isMark_say (line : String) : isMark (.print (line ++ "\n")) = false := by
  refine beq_eq_false_iff_ne.2 fun h => ?_
  have hlast := congrArg (fun text : String => text.toList.getLast?) h
  simp only [String.toList_append] at hlast
  have hfeed : (line.toList ++ "\n".toList).getLast? = some '\n' := List.getLast?_concat ..
  rw [hfeed] at hlast
  exact absurd hlast (by decide)

/-- The act asks for no marks, and nothing comes of it on the input line but what comes of commands. -/
structure Orderly (x : Act Session α) : Prop where
  keeps : ∀ {P}, Outlasts P → x.Keeps fun s => P s.face
  asks : x.Asks fun e => isMark e = false

theorem Orderly.keeps_atRest {x : Act Session α} (h : Orderly x) : x.Keeps AtRest :=
  h.keeps outlasts_atRest

theorem orderly_of_unseen {x : Act Session α} (hkeeps : LeavesFace x) (h : Unseen x) : Orderly x :=
  ⟨fun _ => hkeeps _, h.mono fun _ => isMark_of_offTerminal⟩

theorem Orderly.bind {x : Act Session α} {f : α → Act Session β} (hx : Orderly x)
    (hf : ∀ a, Orderly (f a)) : Orderly (x >>= f) :=
  ⟨fun hP => (hx.keeps hP).bind fun a => (hf a).keeps hP, hx.asks.bind fun a => (hf a).asks⟩

theorem orderly_pure (a : α) : Orderly (pure a) := ⟨fun _ => Act.keeps_pure a, Act.asks_pure a⟩

theorem orderly_get_bind {f : Session → Act Session β} (h : ∀ s, Orderly (f s)) :
    Orderly (get >>= f) :=
  ⟨fun hP => Act.keeps_get_bind fun s hs => (h s).keeps hP s hs, Act.asks_get_bind fun s => (h s).asks⟩

theorem orderly_perform {e : Effect} (he : isMark e = false) : Orderly (Act.perform e) :=
  ⟨fun _ => Act.keeps_perform e, Act.asks_perform he⟩

/-! ## Output -/

theorem orderly_say (line : String) : Orderly (Act.say line) := orderly_perform (isMark_say line)

theorem orderly_sayAll (lines : List String) : Orderly (Act.sayAll lines) := by
  induction lines with
  | nil => exact orderly_pure _
  | cons line rest ih => exact (orderly_say line).bind fun _ => ih

theorem orderly_tell (news : List Notification) : Orderly (tell news) := by
  induction news with
  | nil => exact orderly_pure _
  | cons n rest ih => exact (orderly_perform rfl).bind fun _ => ih

theorem orderly_tellNotices : Orderly tellNotices := by
  refine ⟨fun {P} hP => Act.keeps_get_bind fun s hs => ?_, Act.asks_get_bind fun s => ?_⟩
  · refine Act.keeps_set_bind (I := fun s : Session => P s.face) ?_ ((orderly_tell _).keeps hP) s
    exact hs
  · exact (Act.asks_set _).bind fun _ => (orderly_tell _).asks

theorem orderly_saySubmission (submission : Submission) : Orderly (saySubmission submission) := by
  cases submission with
  | rejected => exact orderly_pure _
  | dropped => exact orderly_say _
  | sent outcome => exact orderly_get_bind fun s => orderly_get_bind fun t => orderly_sayAll _

theorem orderly_sayCompletions (text : String) (sticky : Sticky) :
    Orderly (sayCompletions text sticky) := orderly_get_bind fun _ => orderly_sayAll _

theorem orderly_sayIdentity (answer : Except ServerError (Option Identity)) :
    Orderly (sayIdentity answer) := by
  rcases answer with e | - | identity <;> exact orderly_say _

theorem orderly_writeExport (entries : List Entry) (kind : ExportKind) (directory : String) :
    Orderly (writeExport entries kind directory) := by
  refine (orderly_perform rfl).bind fun now => (orderly_perform rfl).bind fun written => ?_
  cases written <;> exact orderly_pure _

/-! ## News -/

section

variable {o : Oracle}

def complaint (n : Notification) : Exchange := ⟨.complain ("! " ++ n.text ++ "\n"), ()⟩

/-- The news that the operator is told. -/
def complaints (s : Session) : Record := (s.notices.getD []).map complaint

/-- The session whose news was told. -/
def heard (s : Session) : Session := { s with notices := s.notices.map fun _ => [] }

theorem alone_tell (news : List Notification) (s : Session) (record : Record) :
    (tell news).alone o s record = ((s, ()), record ++ news.map complaint) := by
  induction news generalizing record with
  | nil =>
    rw [tell, Act.alone_pure, List.map_nil, List.append_nil]
  | cons n rest ih =>
    rw [tell, Act.alone_bind, Act.alone_perform, ih, List.append_assoc]
    rfl

theorem alone_tellNotices (s : Session) (record : Record) :
    tellNotices.alone o s record = ((heard s, ()), record ++ complaints s) := by
  rw [tellNotices, Act.alone_get_bind, Act.alone_bind, Act.alone_set]
  exact alone_tell ..

theorem unmarked_complaints (s : Session) : ∀ x ∈ complaints s, isMark x.effect = false := by
  intro x hx
  obtain ⟨n, -, rfl⟩ := List.mem_map.1 hx
  rfl

theorem offTerminal_complaints (s : Session) : offTerminal (complaints s) = [] := by
  refine offTerminal_eq_nil fun x hx => ?_
  obtain ⟨n, -, rfl⟩ := List.mem_map.1 hx
  rfl

end

/-! ## Lines -/

theorem orderly_submitText (text : String) : Orderly (submitText text) :=
  ⟨fun hP => hP.submitText text, (unseen_submitText text).mono fun _ => isMark_of_offTerminal⟩

theorem orderly_clearHistory : Orderly clearHistory :=
  ⟨Outlasts.clearHistory, unseen_clearHistory.mono fun _ => isMark_of_offTerminal⟩

theorem orderly_carryOut (directive : Directive) : Orderly (Shell.perform directive) := by
  cases directive with
  | send scpi =>
    exact (orderly_submitText scpi).bind fun submission =>
      (orderly_saySubmission submission).bind fun _ => orderly_pure _
  | errorQueue =>
    exact (orderly_submitText _).bind fun submission =>
      (orderly_saySubmission submission).bind fun _ => orderly_pure _
  | complete text => exact (orderly_sayCompletions text {}).bind fun _ => orderly_pure _
  | history => exact orderly_get_bind fun s => (orderly_sayAll _).bind fun _ => orderly_pure _
  | clearHistory => exact orderly_clearHistory.bind fun _ => orderly_pure _
  | clearLog =>
    have hclear := orderly_of_unseen (leavesFace_changeLog .interactive Log.clear)
      (unseen_changeLog .interactive Log.clear)
    exact hclear.bind fun _ => orderly_pure _
  | identify =>
    have hidentify := orderly_of_unseen leavesFace_identify unseen_identify
    exact hidentify.bind fun answer => (orderly_sayIdentity answer).bind fun _ => orderly_pure _
  | exportLog kind =>
    refine orderly_get_bind fun s => (orderly_writeExport _ kind ".").bind fun written => ?_
    cases written with
    | ok path => exact (orderly_say _).bind fun _ => orderly_pure _
    | error e => exact orderly_pure _
  | help => exact (orderly_sayAll _).bind fun _ => orderly_pure _
  | quit => exact orderly_pure _
  | unknown line => exact (orderly_say _).bind fun _ => orderly_pure _

/-- Whatever a line is, it asks for nothing that the loops around it ask for. -/
theorem orderly_execute (line : String) : Orderly (execute line) := orderly_carryOut _

end Shell

end ScpiConsole
