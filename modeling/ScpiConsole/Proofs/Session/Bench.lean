import Mathlib.Logic.Function.Basic
import ScpiConsole.Proofs.Session.Guard
/-!
# A bench with many desks

Any number of consoles and runs of scripts share one guard. Each desk has a line and logs of its own,
and whoever works at one may be held up at every question while others go on.

* `Common`, `Desk` : the two parts of a session
* `Job`, `Ending` : a command or a run, from the first look at the guard to its end
* `Bench`, `Step` : many desks and tasks, and what may happen from one moment to the next
* `Pursues`, `pursues_of_step` : the steps of a task are those of its job
-/

namespace ScpiConsole

open Session (guarded guarded_bind guarded_of_busy guarded_of_idle release sendCommand sendScript submitText
  runScript watchScript)

/-! ## Desks -/

/-- What all desks share. -/
structure Common where
  server : Server
  preferences : Preferences
  connection : Connection
  grammar : Option Grammar
  busy : Bool
  ids : IdSource
  notices : Option (List Notification)

/-- What a desk has for itself. -/
structure Desk where
  line : InputLine
  log : Log
  scriptLog : Log
  script : Script
  status : RunStatus
  progress : Progress

namespace Session

def common (s : Session) : Common where
  server := s.server
  preferences := s.preferences
  connection := s.connection
  grammar := s.grammar
  busy := s.busy
  ids := s.ids
  notices := s.notices

def desk (s : Session) : Desk where
  line := s.line
  log := s.log
  scriptLog := s.scriptLog
  script := s.script
  status := s.status
  progress := s.progress

end Session

/-- The session as it is seen at a desk. -/
def Desk.session (d : Desk) (c : Common) : Session where
  server := c.server
  preferences := c.preferences
  connection := c.connection
  grammar := c.grammar
  busy := c.busy
  ids := c.ids
  notices := c.notices
  line := d.line
  log := d.log
  scriptLog := d.scriptLog
  script := d.script
  status := d.status
  progress := d.progress

/-! ## Jobs -/

/-- Something to be sent. -/
inductive Job where
  | command (text : String)
  | run (script : Script)

/-- What came of a job. -/
inductive Ending where
  /-- There is nothing in it to send. -/
  | rejected
  /-- Something else is in flight. -/
  | refused
  | sent (o : Outcome)
  | ran (r : Report)

/-- Nothing was done. -/
def Ending.TurnedAway : Ending → Prop
  | .rejected | .refused => True
  | .sent _ | .ran _ => False

namespace Job

def mode : Job → Mode
  | .command _ => .interactive
  | .run _ => .script

def isVoid : Job → Bool
  | .command text => Session.isVoid (Text.trimmed text)
  | .run _ => false

/-- All that is done for a job. -/
def act : Job → Act Session Ending
  | .command text => do
    match ← submitText text with
    | .rejected => pure .rejected
    | .dropped => pure .refused
    | .sent o => pure (.sent o)
  | .run script => do
    let report ← runScript script
    pure (report.elim .refused .ran)

/-- What is done under the guard. -/
def work : Job → Act Session Ending
  | .command text => do
    let o ← sendCommand (Text.trimmed text)
    pure (.sent o)
  | .run script => do
    let (r, _) ← sendScript pure () script
    pure (.ran r)

/-- A job is rejected, or it is work under the guard. -/
theorem act_eq (job : Job) :
    job.act =
      if job.isVoid then pure .rejected
      else (do
        let ending ← guarded job.work
        pure (ending.getD .refused)) := by
  cases job with
  | command text =>
    rw [act, submitText, isVoid, work, guarded_bind]
    split
    · exact pure_bind _ _
    · rw [bind_assoc, bind_assoc]
      refine congrArg (_ >>= ·) (funext fun outcome => ?_)
      cases outcome <;> exact pure_bind _ _
  | run script =>
    rw [act, runScript, watchScript, work, guarded_bind, isVoid, if_neg Bool.false_ne_true, bind_assoc,
      bind_assoc]
    refine congrArg (_ >>= ·) (funext fun report => ?_)
    cases report <;> exact (pure_bind _ _).symm

end Job

/-! ## Stages -/

/-- How far a job has come. -/
inductive Stage where
  | ahead
  /-- The guard is taken, and nothing else is done yet. -/
  | entering
  /-- At work, until the next answer comes. -/
  | waiting (e : Effect) (next : Session → e.Answer → Talk Session Ending)
  /-- The work is done, and the guard is not yet released. -/
  | leaving (ending : Ending)
  | ended (ending : Ending)

namespace Stage

/-- The guard is held. -/
def Holds : Stage → Prop
  | .entering | .waiting _ _ | .leaving _ => True
  | .ahead | .ended _ => False

/-- The command that waits for the server. -/
def outgoing : Stage → Option String
  | .waiting e _ => Session.outgoing e
  | _ => none

/-- What is left to do of a job. -/
def rest (job : Job) : Stage → Act Session Ending
  | .ahead => job.act
  | .entering => do
    let ending ← job.work
    release
    pure ending
  | .waiting e next => fun s =>
    .ask s e fun t a => (next t a).bind fun t ending => .done t.freed ending
  | .leaving ending => do
    release
    pure ending
  | .ended ending => pure ending

end Stage

/-! ## Steps -/

/-- A job and the desk where it is done. -/
structure Task (ι : Type) where
  desk : ι
  job : Job

/-- What is put on record. -/
inductive Event (κ : Type) where
  /-- The task goes to work. -/
  | entered (k : κ)
  | asked (k : κ) (x : Exchange)

/-- Desks, and the tasks that are done there. -/
structure Bench (ι κ : Type) where
  common : Common
  desks : ι → Desk
  stages : κ → Stage
  record : List (Event κ) := []

namespace Bench

variable {ι κ : Type}

/-- The session as it is seen at a desk. -/
def seat (b : Bench ι κ) (i : ι) : Session := (b.desks i).session b.common

def note (b : Bench ι κ) (event : Event κ) : Bench ι κ := { b with record := b.record ++ [event] }

section

variable [DecidableEq ι]

/-- The bench after something was done at a desk. -/
def sit (b : Bench ι κ) (i : ι) (s : Session) : Bench ι κ :=
  { b with common := s.common, desks := Function.update b.desks i s.desk }

variable {b : Bench ι κ} {i j : ι} {s : Session}

@[simp] theorem desks_sit : (b.sit i s).desks i = s.desk := Function.update_self ..

theorem desks_sit_of_ne (h : j ≠ i) : (b.sit i s).desks j = b.desks j := Function.update_of_ne h ..

@[simp] theorem seat_sit : (b.sit i s).seat i = s := by
  rw [seat, desks_sit]
  rfl

@[simp] theorem sit_seat : b.sit i (b.seat i) = b := by
  have hdesk : (b.seat i).desk = b.desks i := rfl
  rw [sit, hdesk, Function.update_eq_self]
  rfl

end

section

variable [DecidableEq κ]

def setStage (b : Bench ι κ) (k : κ) (stage : Stage) : Bench ι κ :=
  { b with stages := Function.update b.stages k stage }

variable {b : Bench ι κ} {k l : κ} {stage : Stage}

@[simp] theorem seat_setStage (i : ι) : (b.setStage k stage).seat i = b.seat i := rfl

@[simp] theorem stages_setStage : (b.setStage k stage).stages k = stage := Function.update_self ..

theorem stages_setStage_of_ne (h : l ≠ k) : (b.setStage k stage).stages l = b.stages l :=
  Function.update_of_ne h ..

end

variable [DecidableEq ι] [DecidableEq κ] (tasks : κ → Task ι) (b : Bench ι κ)

/-- A task works on, until it has to wait or is done. -/
def goOn (k : κ) : Talk Session Ending → Bench ι κ
  | .done s ending => (b.sit (tasks k).desk s).setStage k (.leaving ending)
  | .ask s e next => (b.sit (tasks k).desk s).setStage k (.waiting e next)

/-- What may happen next. -/
inductive Step : Bench ι κ → Prop where
  | reject {k : κ} (h : b.stages k = .ahead) (hvoid : (tasks k).job.isVoid = true) :
      Step (b.setStage k (.ended .rejected))
  /-- The guard is taken, unless it is taken. -/
  | claim {k : κ} (h : b.stages k = .ahead) (hvoid : (tasks k).job.isVoid = false) :
      Step ((b.sit (tasks k).desk (b.seat (tasks k).desk).held).setStage k
        (if b.common.busy then .ended .refused else .entering))
  | enter {k : κ} (h : b.stages k = .entering) :
      Step ((b.note (.entered k)).goOn tasks k ((tasks k).job.work (b.seat (tasks k).desk)))
  | answer {k : κ} {e : Effect} {next : Session → e.Answer → Talk Session Ending}
      (h : b.stages k = .waiting e next) (a : e.Answer) :
      Step ((b.note (.asked k ⟨e, a⟩)).goOn tasks k (next (b.seat (tasks k).desk) a))
  | release {k : κ} {ending : Ending} (h : b.stages k = .leaving ending) :
      Step ((b.sit (tasks k).desk (b.seat (tasks k).desk).freed).setStage k (.ended ending))
  /-- Something happens at a desk that is no sending. -/
  | aside (i : ι) (s : Session) (h : s.books = (b.seat i).books) : Step (b.sit i s)

section

variable {b : Bench ι κ} {tasks : κ → Task ι} {k l : κ} {t : Talk Session Ending}

theorem stages_goOn_of_ne (h : l ≠ k) : (b.goOn tasks k t).stages l = b.stages l := by
  cases t <;> exact stages_setStage_of_ne h

theorem record_goOn : (b.goOn tasks k t).record = b.record := by
  cases t <;> rfl

/-! ## The program of a task -/

/-- What a task has still to do, as things stand. -/
def rest (tasks : κ → Task ι) (b : Bench ι κ) (k : κ) : Talk Session Ending :=
  (b.stages k).rest (tasks k).job (b.seat (tasks k).desk)

theorem rest_goOn :
    (b.goOn tasks k t).rest tasks k = t.bind fun s ending => .done s.freed ending := by
  cases t <;> simp only [rest, goOn, stages_setStage, seat_setStage, seat_sit] <;> rfl

/-- The guard is found taken or free. -/
theorem rest_claim (h : b.stages k = .ahead) (hvoid : (tasks k).job.isVoid = false) :
    ((b.sit (tasks k).desk (b.seat (tasks k).desk).held).setStage k
      (if b.common.busy then .ended .refused else .entering)).rest tasks k = b.rest tasks k := by
  rw [rest, rest, h, stages_setStage, seat_setStage, seat_sit]
  generalize hs : b.seat (tasks k).desk = s
  have hbusy : b.common.busy = s.busy := hs ▸ rfl
  rw [Stage.rest, Job.act_eq, hvoid, if_neg Bool.false_ne_true, Act.bind_apply, hbusy]
  cases h : s.busy
  · rw [guarded_of_idle _ h, ← Act.bind_apply, bind_assoc]
    simp only [bind_assoc, pure_bind]
    rfl
  · rw [guarded_of_busy _ h, Session.held_of_busy h]
    rfl

/-- A task does what is left to do of its job, and nothing else. Its question is answered and it takes
up the session as it is then, or it goes on at once, or it is not its turn. -/
def Pursues (tasks : κ → Task ι) (b b' : Bench ι κ) (k : κ) : Prop :=
  (∃ e next a, b.rest tasks k = .ask (b.seat (tasks k).desk) e next ∧
    b'.record = b.record ++ [.asked k ⟨e, a⟩] ∧ b'.rest tasks k = next (b.seat (tasks k).desk) a) ∨
  b'.rest tasks k = b.rest tasks k ∨ b'.stages k = b.stages k

theorem pursues_of_step {b' : Bench ι κ} (hstep : b.Step tasks b') (k : κ) : Pursues tasks b b' k := by
  cases hstep with
  | @reject k' h hvoid =>
    by_cases hk : k = k'
    · subst hk
      refine .inr (.inl ?_)
      rw [rest, rest, h, stages_setStage, seat_setStage, Stage.rest, Stage.rest, Job.act_eq, if_pos hvoid]
    · exact .inr (.inr (stages_setStage_of_ne hk))
  | @claim k' h hvoid =>
    by_cases hk : k = k'
    · subst hk
      exact .inr (.inl (rest_claim h hvoid))
    · exact .inr (.inr (stages_setStage_of_ne hk))
  | @enter k' h =>
    by_cases hk : k = k'
    · subst hk
      refine .inr (.inl ?_)
      rw [rest_goOn, rest, h]
      rfl
    · exact .inr (.inr (stages_goOn_of_ne hk))
  | @answer k' e next h a =>
    by_cases hk : k = k'
    · subst hk
      refine .inl ⟨e, fun t a => (next t a).bind fun t ending => .done t.freed ending, a, ?_,
        record_goOn, rest_goOn⟩
      rw [rest, h]
      rfl
    · exact .inr (.inr (stages_goOn_of_ne hk))
  | @release k' ending h =>
    by_cases hk : k = k'
    · subst hk
      refine .inr (.inl ?_)
      rw [rest, rest, h, stages_setStage, seat_setStage, seat_sit]
      rfl
    · exact .inr (.inr (stages_setStage_of_ne hk))
  | aside i s h => exact .inr (.inr rfl)

end

end Bench

end ScpiConsole
