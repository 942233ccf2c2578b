import ScpiConsole.Proofs.Act.Keeps
import ScpiConsole.Proofs.InputLine.Run
import ScpiConsole.Session.Dispatch
/-!
# The face of a session

Sending does to the line what some deeds do, and nothing to the rest of what the prompt shows. So what
outlasts these deeds holds also while a command is in flight and others work on the session.

* `Face`, `LeavesFace` : what the prompt shows, and acts that do not touch it
* `leavesFace_dispatch` : the dispatch of a command does not touch it
* `Outlasts`, `Outlasts.submitText` : what holds of it whatever is sent
-/

namespace ScpiConsole

/-- What the prompt shows of a session: the line, and what its completions and entries look like. -/
structure Face where
  line : InputLine
  preferences : Preferences
  grammar : Option Grammar

/-- The face after something was done to the line. -/
def Face.after (f : Face) (deed : InputLine.Deed) : Face := { f with line := deed.apply f.line }

namespace Session

variable {α β : Type}

def face (s : Session) : Face := ⟨s.line, s.preferences, s.grammar⟩

/-! ## Acts beside the face -/

/-- Whatever holds of the face goes on to hold. -/
def LeavesFace (x : Act Session α) : Prop := ∀ P : Face → Prop, x.Keeps fun s => P s.face

theorem LeavesFace.bind {x : Act Session α} {f : α → Act Session β} (hx : LeavesFace x)
    (hf : ∀ a, LeavesFace (f a)) : LeavesFace (x >>= f) := fun P => (hx P).bind fun a => hf a P

theorem leavesFace_pure (a : α) : LeavesFace (pure a) := fun _ => Act.keeps_pure a

theorem leavesFace_perform (e : Effect) : LeavesFace (Act.perform e) := fun _ => Act.keeps_perform e

theorem leavesFace_modify {f : Session → Session} (h : ∀ s, (f s).face = s.face) :
    LeavesFace (modify f) := by
  intro P
  refine Act.keeps_modify fun s hs => ?_
  rwa [h]

theorem leavesFace_remember (slot : Slot) (value : Json) : LeavesFace (remember slot value) :=
  (leavesFace_perform _).bind fun _ => leavesFace_pure _

theorem face_setLog (s : Session) (mode : Mode) (log : Log) : (s.setLog mode log).face = s.face := by
  cases mode <;> rfl

theorem leavesFace_changeLog (mode : Mode) (change : Log → Log) :
    LeavesFace (changeLog mode change) := by
  refine (leavesFace_modify fun s => face_setLog s mode _).bind fun _ => ?_
  exact fun P => Act.keeps_get_bind fun s hs => leavesFace_remember _ _ P s hs

theorem leavesFace_notify (n : Notification) : LeavesFace (notify n) :=
  leavesFace_modify fun _ => rfl

theorem leavesFace_newId : LeavesFace newId := fun _ => Act.keeps_modifyGet fun _ hs => hs

theorem leavesFace_newEntry (scpi : String) : LeavesFace (newEntry scpi) :=
  leavesFace_newId.bind fun _ => (leavesFace_perform _).bind fun _ => leavesFace_pure _

theorem leavesFace_newErrors (errors : List String) : LeavesFace (newErrors errors) := by
  induction errors with
  | nil => exact leavesFace_pure _
  | cons error rest ih =>
    exact leavesFace_newId.bind fun _ => (leavesFace_perform _).bind fun _ =>
      ih.bind fun _ => leavesFace_pure _

theorem leavesFace_addErrors (mode : Mode) (id : EntryId) (errors : List String) :
    LeavesFace (addErrors mode id errors) := by
  refine (leavesFace_newErrors errors).bind fun entries => ?_
  split
  · exact leavesFace_pure _
  · exact leavesFace_changeLog mode _

theorem leavesFace_conclude (mode : Mode) (id : EntryId) (scpi : String) (elapsed : Elapsed)
    (answer : Except ServerError Reply) : LeavesFace (conclude mode id scpi elapsed answer) := by
  cases answer with
  | ok reply =>
    exact (leavesFace_changeLog mode _).bind fun _ =>
      (leavesFace_addErrors mode id _).bind fun _ => leavesFace_pure _
  | error e =>
    exact (leavesFace_changeLog mode _).bind fun _ =>
      (leavesFace_notify _).bind fun _ => leavesFace_pure _

theorem leavesFace_dispatchOver (connection : Connection) (mode : Mode) (scpi : String) :
    LeavesFace (dispatchOver connection mode scpi) := by
  have hpending : LeavesFace (logPending mode (normalized scpi)) :=
    (leavesFace_newEntry _).bind fun _ => (leavesFace_changeLog mode _).bind fun _ => leavesFace_pure _
  exact hpending.bind fun entry => (leavesFace_perform _).bind fun start =>
    (leavesFace_perform _).bind fun answer => (leavesFace_perform _).bind fun stop =>
      leavesFace_conclude mode entry.id _ _ answer

theorem leavesFace_dispatch (mode : Mode) (scpi : String) : LeavesFace (dispatch mode scpi) :=
  fun P => Act.keeps_get_bind fun s hs => leavesFace_dispatchOver s.connection mode scpi P s hs

/-! ## Commands -/

/-- The property outlasts the commands of an operator: the line is taken when one goes out, and the
command joins the history, which may be cleared, when it is settled. -/
structure Outlasts (P : Face → Prop) : Prop where
  take : ∀ {f}, P f → P (f.after .take)
  record : ∀ {f} (command : String), P f → P (f.after (.record command))
  forget : ∀ {f}, P f → P (f.after .forget)

theorem keeps_guarded {P : Face → Prop} {work : Act Session α} (h : work.Keeps fun s => P s.face) :
    (guarded work).Keeps fun s => P s.face := by
  refine Act.Keeps.bind (Act.keeps_modifyGet ?_) fun granted => ?_
  · exact fun _ hs => hs
  cases granted with
  | false => exact Act.keeps_pure _
  | true =>
    refine h.bind fun a => Act.Keeps.bind (Act.keeps_modify ?_) fun _ => Act.keeps_pure _
    exact fun _ hs => hs

namespace Outlasts

variable {P : Face → Prop}

theorem recordCommand (h : Outlasts P) (scpi : String) :
    (recordCommand scpi).Keeps fun s => P s.face := by
  refine Act.keeps_get_bind fun s hs => ?_
  split
  · exact .done hs
  · refine Act.keeps_set_bind (I := fun s : Session => P s.face) ?_ ?_ s
    · exact h.record scpi hs
    · exact leavesFace_remember _ _ P

theorem clearHistory (h : Outlasts P) : clearHistory.Keeps fun s => P s.face := by
  refine Act.Keeps.bind (Act.keeps_modify ?_) fun _ => ?_
  · exact fun _ hs => h.forget hs
  · exact Act.keeps_get_bind fun s hs => leavesFace_remember _ _ P s hs

theorem sendCommand (h : Outlasts P) (scpi : String) :
    (sendCommand scpi).Keeps fun s => P s.face := by
  refine Act.Keeps.bind (Act.keeps_modify ?_) fun _ => ?_
  · exact fun _ hs => h.take hs
  · exact (leavesFace_dispatch .interactive scpi P).bind fun _ =>
      (h.recordCommand scpi).bind fun _ => Act.keeps_pure _

/-- A submission takes the text when the command goes out, and records the command when it is settled,
on whatever line there is by then. -/
theorem submitText (h : Outlasts P) (text : String) :
    (submitText text).Keeps fun s => P s.face := by
  rw [Session.submitText]
  split
  · exact Act.keeps_pure _
  · exact (keeps_guarded (h.sendCommand _)).bind fun _ => Act.keeps_pure _

end Outlasts

end Session

end ScpiConsole
