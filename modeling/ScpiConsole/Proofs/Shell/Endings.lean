import ScpiConsole.Proofs.Act.Ends
import ScpiConsole.Proofs.Session.Books
import ScpiConsole.Proofs.Session.Restart
import ScpiConsole.Prompt
/-!
# How a line of the shell ends

After most lines the shell goes on, whatever failed. It stops when it is told to, and also when an export
cannot be written or when the input cannot be read, piped or typed.

* `refusals`, `lost` : the exports that could not be written, and the commands that did not get through
* `Ending` : what a directive comes to
* `Stopped` : what piped input comes to
* `Prompted` : how a prompt can fail
* `Announces` : what did not get through is news for the operator
* `shell_ends` : all ends of lines and of piped input, and all failures of a prompt
-/

namespace ScpiConsole.Shell

open Session

/-! ## Failures on record -/

def refusal? : Exchange → Option Failure
  | ⟨.writeText path _, .error cause⟩ => some (.exportFile path cause)
  | _ => none

/-- The files that could not be written. -/
def refusals (asked : Record) : List Failure := asked.filterMap refusal?

def lost? : Exchange → Option Notification
  | ⟨.request (.send scpi _), .error e⟩ => some (.transport scpi e.message)
  | _ => none

/-- The commands that did not get through, as news for the operator. -/
def lost (asked : Record) : List Notification := asked.filterMap lost?

theorem lost_append (asked more : Record) : lost (asked ++ more) = lost asked ++ lost more :=
  List.filterMap_append

/-! ## Lines -/

/-- What a directive comes to, with what was asked for on its way. -/
structure Ending (d : Directive) (asked : Record) (result : Except Failure Flow) : Prop where
  quits : result = .ok .quit ↔ d = .quit
  goesOn : result = .ok .goOn ↔ d ≠ .quit ∧ ∀ kind, d = .exportLog kind → refusals asked = []
  fails : ∀ e, result = .error e → (∃ kind, d = .exportLog kind) ∧ e ∈ refusals asked
  /-- The operator is told why the instrument could not be identified. -/
  reports : d = .identify → ∀ scpi c e, ⟨.request (.send scpi c), .error e⟩ ∈ asked →
    ⟨.print ("*IDN? failed: " ++ e.message ++ "\n"), ()⟩ ∈ asked

section

variable {α : Type} {d : Directive}

/-- For all that neither quits nor exports nor identifies. -/
theorem ending_goOn (hquit : d ≠ .quit) (hexport : ∀ kind, d ≠ .exportLog kind)
    (hidentify : d ≠ .identify) (asked : Record) : Ending d asked (.ok .goOn) where
  quits := iff_of_false (by simp) hquit
  goesOn := iff_of_true rfl ⟨hquit, fun kind h => absurd h (hexport kind)⟩
  fails := by simp
  reports h := absurd h hidentify

theorem ends_goOn (x : Act Session α) (hquit : d ≠ .quit) (hexport : ∀ kind, d ≠ .exportLog kind)
    (hidentify : d ≠ .identify) : (x >>= fun _ => pure (.ok .goOn)).Ends (Ending d) :=
  Act.ends_bind_pure x (ending_goOn hquit hexport hidentify)

/-- For all that submits something. -/
theorem ends_submits (x : Act Session Submission) (hquit : d ≠ .quit) (hexport : ∀ kind, d ≠ .exportLog kind)
    (hidentify : d ≠ .identify) :
    (x >>= fun submission => saySubmission submission >>= fun _ => pure (.ok .goOn)).Ends (Ending d) :=
  x.ends.bind fun _ _ _ => Act.ends_bind_pure _ fun _ => ending_goOn hquit hexport hidentify _

end

theorem ends_askIdentity : Session.identify.Ends fun asked a => ∃ c answer,
    asked = [⟨.request (.send "*IDN?" c), answer⟩] ∧ ∀ e, answer = .error e → a = .error e := by
  refine Act.ends_get_bind fun s => (Act.ends_perform _).bind fun asked answer hasked => ?_
  subst hasked
  cases answer with
  | ok reply => exact Act.ends_pure ⟨_, _, rfl, by simp⟩
  | error e => exact Act.ends_pure ⟨_, _, rfl, by simp⟩

/-- Whatever the instrument answers, and also when there is no answer. -/
theorem ends_identify : (Shell.perform .identify).Ends (Ending .identify) := by
  refine ends_askIdentity.bind fun asked a hasked => ?_
  obtain ⟨c, answer, rfl, hanswer⟩ := hasked
  have hsaid : (sayIdentity a).Ends fun said _ => ∃ text, said = [⟨.print text, ()⟩] ∧
      ∀ e, a = .error e → text = "*IDN? failed: " ++ e.message ++ "\n" := by
    rcases a with e | - | identity
    · exact (Act.ends_perform _).mono fun said _ h => ⟨_, h, by simp⟩
    · exact (Act.ends_perform _).mono fun said _ h => ⟨_, h, by simp⟩
    · exact (Act.ends_perform _).mono fun said _ h => ⟨_, h, by simp⟩
  refine hsaid.bind fun said _ hsaid => Act.ends_pure ⟨by simp, by simp, by simp, ?_⟩
  obtain ⟨text, rfl, htext⟩ := hsaid
  intro _ scpi c' e hmem
  rcases List.mem_cons.1 hmem with h | h
  · cases h
    rw [← htext e (hanswer e rfl)]
    exact .tail _ (.head _)
  · rcases List.mem_singleton.1 h with ⟨⟩

/-- An export that cannot be written is the only failure of a line. -/
theorem ends_exportLog (kind : ExportKind) :
    (Shell.perform (.exportLog kind)).Ends (Ending (.exportLog kind)) := by
  refine Act.ends_get_bind fun s => ?_
  have hwritten : (writeExport s.log.entries kind ".").Ends fun asked a => ∃ now path text,
      (asked = [⟨.now, now⟩, ⟨.writeText path text, .ok ()⟩] ∧ a = .ok path) ∨
      ∃ cause, asked = [⟨.now, now⟩, ⟨.writeText path text, .error cause⟩] ∧
        a = .error (.exportFile path cause) := by
    refine (Act.ends_perform _).bind fun _ now hnow => (Act.ends_perform _).bind fun _ written h => ?_
    subst hnow h
    cases written with
    | ok _ => exact Act.ends_pure ⟨now, _, _, .inl ⟨rfl, rfl⟩⟩
    | error cause => exact Act.ends_pure ⟨now, _, _, .inr ⟨cause, rfl, rfl⟩⟩
  refine hwritten.bind fun asked a ha => ?_
  obtain ⟨now, path, text, ⟨rfl, rfl⟩ | ⟨cause, rfl, rfl⟩⟩ := ha
  · refine (Act.ends_perform _).bind fun said _ hsaid => ?_
    subst hsaid
    exact Act.ends_pure ⟨by simp, by simp [refusals, refusal?], by simp, by simp⟩
  · exact Act.ends_pure ⟨by simp, by simp [refusals, refusal?], by simp [refusals, refusal?], by simp⟩

/-- A line ends in one of these ways, whatever it is and whatever fails. -/
theorem ends_execute (line : String) : (execute line).Ends (Ending (Directive.ofLine line)) := by
  rw [execute]
  cases Directive.ofLine line with
  | send scpi => exact ends_submits (submitText scpi) (by simp) (by simp) (by simp)
  | errorQueue => exact ends_submits readErrorQueue (by simp) (by simp) (by simp)
  | complete text => exact ends_goOn (sayCompletions text {}) (by simp) (by simp) (by simp)
  | history => exact Act.ends_get_bind fun s => ends_goOn _ (by simp) (by simp) (by simp)
  | clearHistory => exact ends_goOn Session.clearHistory (by simp) (by simp) (by simp)
  | clearLog => exact ends_goOn (changeLog .interactive Log.clear) (by simp) (by simp) (by simp)
  | identify => exact ends_identify
  | exportLog kind => exact ends_exportLog kind
  | help => exact ends_goOn (Act.sayAll help) (by simp) (by simp) (by simp)
  | quit => exact Act.ends_pure ⟨by simp, by simp, by simp, by simp⟩
  | unknown text => exact ends_goOn (Act.say _) (by simp) (by simp) (by simp)

/-! ## Piped input -/

/-- What the lines of piped input come to, with all that was asked for. -/
inductive Stopped : List (Except IoError String) → Record → Except Failure Unit → Prop where
  | atEnd (asked : Record) : Stopped [] asked (.ok ())
  | unreadable (cause : IoError) (rest : List (Except IoError String)) (asked : Record) :
      Stopped (.error cause :: rest) asked (.error (.input cause))
  | quit {line : String} (h : Directive.ofLine line = .quit) (rest : List (Except IoError String))
      (asked : Record) : Stopped (.ok line :: rest) asked (.ok ())
  | failed {line : String} {asked : Record} {e : Failure}
      (h : Ending (Directive.ofLine line) asked (.error e)) (rest : List (Except IoError String))
      (before : Record) : Stopped (.ok line :: rest) (before ++ asked) (.error e)
  | goOn {line : String} {rest : List (Except IoError String)} {asked later : Record}
      {result : Except Failure Unit} (h : Ending (Directive.ofLine line) asked (.ok .goOn))
      (before between : Record) (hrest : Stopped rest later result) :
      Stopped (.ok line :: rest) (before ++ (asked ++ (between ++ later))) result

theorem refusals_append (asked more : Record) :
    refusals (asked ++ more) = refusals asked ++ refusals more := List.filterMap_append

/-- Nothing but a line that cannot be read and an export that cannot be written ends in an error. -/
theorem Stopped.error {lines : List (Except IoError String)} {asked : Record}
    {result : Except Failure Unit} (h : Stopped lines asked result) {e : Failure}
    (he : result = .error e) :
    (∃ cause, .error cause ∈ lines ∧ e = .input cause) ∨ e ∈ refusals asked := by
  induction h with
  | atEnd | quit => cases he
  | unreadable cause rest asked =>
    cases he
    exact .inl ⟨cause, .head _, rfl⟩
  | failed h rest before =>
    cases he
    rw [refusals_append, List.mem_append]
    exact .inr (.inr (h.fails _ rfl).2)
  | goOn h before between hrest ih =>
    rcases ih he with ⟨cause, hcause, rfl⟩ | hrefused
    · exact .inl ⟨cause, .tail _ hcause, rfl⟩
    · simp only [refusals_append, List.mem_append]
      exact .inr (.inr (.inr (.inr hrefused)))

theorem ends_readLines (lines : List (Except IoError String)) :
    (readLines lines).Ends (Stopped lines) := by
  induction lines with
  | nil => exact Act.ends_bind_pure askLine .atEnd
  | cons line rest ih =>
    cases line with
    | error cause => exact Act.ends_bind_pure askLine (.unreadable cause rest)
    | ok line =>
      refine askLine.ends.bind fun before _ _ => (ends_execute line).bind fun asked result h => ?_
      cases result with
      | error e =>
        refine Act.ends_pure ?_
        rw [List.append_nil]
        exact .failed h rest before
      | ok flow =>
        refine tellNotices.ends.bind fun between _ _ => ?_
        cases flow with
        | quit => exact Act.ends_pure (.quit (h.quits.1 rfl) rest _)
        | goOn => exact ih.mono fun later _ hrest => .goOn h before between hrest

/-! ## The prompt -/

section

open Prompt

/-- A turn that fails, fails for an export that could not be written. -/
def FailsForExport (asked : Record) (turn : Turn) : Prop :=
  ∀ cause, turn = .failed cause → cause ∈ refusals asked

theorem ends_enter : enter.Ends FailsForExport := by
  refine Act.ends_get_bind fun s => (Act.ends (set _)).bind fun _ _ _ => ?_
  refine (print _).ends.bind fun _ _ _ => (print _).ends.bind fun _ _ _ =>
    (rawMode false).ends.bind fun _ _ _ => (ends_execute s.line.text).bind fun asked flow h => ?_
  refine tellNotices.ends.bind fun _ _ _ => (rawMode true).ends.bind fun _ _ _ => ?_
  rcases flow with e | flow
  · refine Act.ends_pure fun cause hcause => ?_
    obtain rfl := Turn.failed.inj hcause
    simp only [refusals_append, List.mem_append]
    exact .inr (.inr (.inr (.inr (.inl (h.fails _ rfl).2))))
  · cases flow <;> exact Act.ends_pure fun _ h => by cases h

theorem ends_step (highlight : Option Nat) (event : Prompt.Event) :
    (step highlight event).Ends FailsForExport := by
  have hcalm {x : Act Session Unit} {turn : Turn} (h : ∀ cause, turn ≠ .failed cause) :
      (x >>= fun _ => pure turn).Ends FailsForExport :=
    Act.ends_bind_pure x fun _ cause hcause => absurd hcause (h cause)
  cases event with
  | other => exact Act.ends_pure fun _ h => by cases h
  | key press =>
    rw [step]
    cases press.action with
    | ignore | quit => exact Act.ends_pure fun _ h => by cases h
    | interrupt =>
      refine Act.ends_get_bind fun s => hcalm fun cause => ?_
      split <;> simp
    | edit key => exact hcalm fun _ => by simp
    | complete =>
      refine Act.ends_get_bind fun s => ?_
      split
      · exact hcalm fun _ => by simp
      · exact Act.ends_pure fun _ h => by cases h
    | submit =>
      cases highlight with
      | none => exact ends_enter
      | some i =>
        refine Act.ends_get_bind fun s => ?_
        split
        · exact hcalm fun _ => by simp
        · exact Act.ends_pure fun _ h => by cases h

/-- Nothing but a terminal that cannot be read and an export that cannot be written ends in an error. -/
def Prompted (events : List (Except String Prompt.Event)) (asked : Record) (result : Except Failure Unit) :
    Prop :=
  ∀ e, result = .error e →
    (∃ problem, .error problem ∈ events ∧ e = .terminal problem) ∨ e ∈ refusals asked

theorem Prompted.later {rest : List (Except String Prompt.Event)} {asked : Record}
    {result : Except Failure Unit} (h : Prompted rest asked result) (event : Prompt.Event) (before : Record) :
    Prompted (.ok event :: rest) (before ++ asked) result := by
  intro e he
  rw [refusals_append, List.mem_append]
  rcases h e he with ⟨problem, hproblem, hterminal⟩ | hrefused
  · exact .inl ⟨problem, .tail _ hproblem, hterminal⟩
  · exact .inr (.inr hrefused)

theorem ends_follow (events : List (Except String Prompt.Event)) (highlight : Option Nat) :
    (follow highlight events).Ends (Prompted events) := by
  induction events generalizing highlight with
  | nil =>
    exact (Act.perform .await).ends.bind fun _ _ _ => Act.ends_bind_pure _ fun _ _ h => by cases h
  | cons event rest ih =>
    cases event with
    | error problem =>
      refine (Act.perform .await).ends.bind fun _ _ _ => Act.ends_pure fun e he => ?_
      cases he
      exact .inl ⟨problem, .head _, rfl⟩
    | ok event =>
      refine (Act.perform .await).ends.bind fun waited _ _ => (ends_step highlight event).bind
        fun asked turn h => ?_
      have hrest (mark : Option Nat) (drawn : Record) : (follow mark rest).Ends fun more result =>
          Prompted (.ok event :: rest) (waited ++ (asked ++ (drawn ++ more))) result :=
        (ih mark).mono fun more result hended => by
          have hlater := hended.later event (waited ++ (asked ++ drawn))
          rwa [List.append_assoc, List.append_assoc] at hlater
      cases turn with
      | ignored => exact hrest _ []
      | shown mark => exact (redraw mark).ends.bind fun drawn _ _ => hrest mark drawn
      | left => exact Act.ends_bind_pure _ fun _ _ h => by cases h
      | failed cause =>
        refine Act.ends_pure fun e he => ?_
        cases he
        simp only [refusals_append, List.mem_append]
        exact .inr (.inr (.inl (h cause rfl)))

theorem ends_run (events : List (Except String Prompt.Event)) : (run events).Ends (Prompted events) := by
  refine (rawMode true).ends.bind fun _ _ _ => (redraw none).ends.bind fun _ _ _ =>
    (ends_follow events none).bind fun asked result h => (rawMode false).ends.bind fun _ _ _ => ?_
  refine Act.ends_pure fun e he => (h e he).imp_right fun hrefused => ?_
  simp only [refusals_append, List.mem_append]
  exact .inr (.inr (.inl hrefused))

end

/-! ## News -/

section

variable {α β : Type} {o : Oracle}

/-- Exactly what did not get through joins the news that the operator has not seen yet. -/
def Announces (o : Oracle) (x : Act Session α) : Prop :=
  ∀ s record, ∃ asked, (x.alone o s record).2 = record ++ asked ∧
    (x.alone o s record).1.1.notices = s.notices.map (· ++ lost asked)

theorem Announces.bind {x : Act Session α} {f : α → Act Session β} (hx : Announces o x)
    (hf : ∀ a, Announces o (f a)) : Announces o (x >>= f) := by
  intro s record
  obtain ⟨asked, hasked, hnews⟩ := hx s record
  obtain ⟨more, hmore, hnews'⟩ := hf (x.alone o s record).1.2 (x.alone o s record).1.1
    (x.alone o s record).2
  refine ⟨asked ++ more, ?_, ?_⟩
  · rw [Act.alone_bind, hmore, hasked, List.append_assoc]
  · rw [Act.alone_bind, hnews', hnews, Option.map_map, lost_append]
    exact congrArg (s.notices.map ·) (funext fun news => List.append_assoc ..)

theorem announces_of_nothing {x : Act Session α}
    (h : ∀ s record, ∃ asked, (x.alone o s record).2 = record ++ asked ∧ lost asked = [] ∧
      (x.alone o s record).1.1.notices = s.notices) : Announces o x := by
  intro s record
  obtain ⟨asked, hasked, hlost, hnews⟩ := h s record
  refine ⟨asked, hasked, ?_⟩
  rw [hnews, hlost]
  simp

theorem announces_pure (a : α) : Announces o (pure a : Act Session α) :=
  announces_of_nothing fun s record => ⟨[], by simp, rfl, by simp⟩

theorem announces_get_bind {f : Session → Act Session β} (h : ∀ s, Announces o (f s)) :
    Announces o (get >>= f) := by
  intro s record
  rw [Act.alone_get_bind]
  exact h s s record

theorem announces_modify {f : Session → Session} (h : ∀ s, (f s).notices = s.notices) :
    Announces o (modify f) :=
  announces_of_nothing fun s record => ⟨[], by simp, rfl, by simpa using h s⟩

theorem announces_perform {e : Effect} (h : ∀ a, lost? ⟨e, a⟩ = none) :
    Announces o (Act.perform e) :=
  announces_of_nothing fun s record =>
    ⟨[⟨e, o record e⟩], by simp, by simp [lost, h], by simp⟩

theorem announces_remember (slot : Slot) (value : Json) : Announces o (remember slot value) :=
  (announces_perform fun _ => rfl).bind fun _ => announces_pure _

theorem announces_changeLog (mode : Mode) (change : Log → Log) : Announces o (changeLog mode change) :=
  (announces_modify fun s => by cases mode <;> rfl).bind fun _ =>
    announces_get_bind fun _ => announces_remember _ _

theorem announces_modifyGet {f : Session → α × Session} (h : ∀ s, (f s).2.notices = s.notices) :
    Announces o (modifyGet f) :=
  announces_of_nothing fun s record =>
    ⟨[], by rw [List.append_nil, Act.alone_apply]; rfl, rfl, by rw [Act.alone_apply]; exact h s⟩

theorem announces_newId : Announces o newId := announces_modifyGet fun _ => rfl

theorem announces_newEntry (scpi : String) : Announces o (newEntry scpi) :=
  announces_newId.bind fun _ => (announces_perform fun _ => rfl).bind fun _ => announces_pure _

theorem announces_newErrors (errors : List String) : Announces o (newErrors errors) := by
  induction errors with
  | nil => exact announces_pure _
  | cons error rest ih =>
    exact announces_newId.bind fun _ => (announces_perform fun _ => rfl).bind fun _ =>
      ih.bind fun _ => announces_pure _

theorem announces_addErrors (mode : Mode) (id : EntryId) (errors : List String) :
    Announces o (addErrors mode id errors) := by
  refine (announces_newErrors errors).bind fun entries => ?_
  split
  · exact announces_pure _
  · exact announces_changeLog mode _

theorem announces_conclude (mode : Mode) (id : EntryId) (scpi : String) (elapsed : Elapsed)
    (reply : Reply) : Announces o (conclude mode id scpi elapsed (.ok reply)) :=
  (announces_changeLog mode _).bind fun _ => (announces_addErrors mode id _).bind fun _ =>
    announces_pure _

theorem alone_conclude_error (mode : Mode) (id : EntryId) (scpi : String) (elapsed : Elapsed)
    (e : ServerError) (s : Session) (record : Record) :
    let done := (conclude mode id scpi elapsed (.error e)).alone o s record
    ∃ x, done.2 = record ++ [x] ∧ lost? x = none ∧
      done.1.1.notices = s.notices.map (· ++ [.transport scpi e.message]) := by
  rw [conclude, Act.alone_bind, Act.alone_bind, Act.alone_pure, notify, Act.alone_modify, settle,
    changeLog, Act.alone_bind, Act.alone_modify, Act.alone_get_bind, alone_remember]
  exact ⟨_, rfl, rfl, by cases mode <;> rfl⟩

/-- A command that does not get through is announced when its answer is logged. -/
theorem announces_exchange (connection : Connection) (mode : Mode) (id : EntryId) (scpi : String)
    (start : Nat) : Announces o (do
      let answer ← Act.perform (.request (.send scpi connection))
      let stop ← Act.perform .uptime
      conclude mode id scpi (.between start stop) answer) := by
  intro s record
  rw [Act.alone_bind, Act.alone_perform]
  cases o record (.request (.send scpi connection)) with
  | ok reply =>
    have hrest : Announces o (do
        let stop ← Act.perform .uptime
        conclude mode id scpi (.between start stop) (.ok reply)) :=
      (announces_perform fun _ => rfl).bind fun _ => announces_conclude mode id scpi _ reply
    obtain ⟨asked, hasked, hnews⟩ := hrest s (record ++ [⟨.request (.send scpi connection), .ok reply⟩])
    refine ⟨⟨.request (.send scpi connection), .ok reply⟩ :: asked, hasked.trans ?_, hnews⟩
    rw [List.append_assoc]
    rfl
  | error e =>
    rw [Act.alone_bind, Act.alone_perform]
    dsimp only
    generalize o (record ++ [⟨.request (.send scpi connection), .error e⟩]) .uptime = stop
    obtain ⟨x, hx, hlost, hnews⟩ := alone_conclude_error (o := o) mode id scpi (.between start stop) e s
      (record ++ [⟨.request (.send scpi connection), .error e⟩] ++ [⟨.uptime, stop⟩])
    have hall : lost [⟨.request (.send scpi connection), .error e⟩, ⟨.uptime, stop⟩, x] =
        [.transport scpi e.message] :=
      congrArg (Notification.transport scpi e.message :: ·) (List.filterMap_cons_none hlost)
    refine ⟨[⟨.request (.send scpi connection), .error e⟩, ⟨.uptime, stop⟩, x], hx.trans ?_, ?_⟩
    · simp only [List.append_assoc]
      rfl
    · rw [hnews, hall]

theorem announces_dispatchOver (connection : Connection) (mode : Mode) (scpi : String) :
    Announces o (dispatchOver connection mode scpi) := by
  have hpending : Announces o (logPending mode (normalized scpi)) :=
    (announces_newEntry _).bind fun _ => (announces_changeLog mode _).bind fun _ => announces_pure _
  exact hpending.bind fun entry => (announces_perform fun _ => rfl).bind fun start =>
    announces_exchange connection mode entry.id _ start

theorem announces_recordCommand (scpi : String) : Announces o (recordCommand scpi) := by
  intro s record
  rw [recordCommand, Act.alone_get_bind]
  split
  · exact announces_pure _ s record
  · rw [Act.alone_bind, Act.alone_set]
    exact announces_remember _ _ _ record

theorem announces_guarded {work : Act Session α} (h : Announces o work) :
    Announces o (guarded work) := by
  refine Announces.bind (announces_modifyGet ?_) fun granted => ?_
  · exact fun _ => rfl
  cases granted with
  | false => exact announces_pure _
  | true =>
    refine h.bind fun a => Announces.bind (announces_modify ?_) fun _ => announces_pure _
    exact fun _ => rfl

theorem announces_sendCommand (scpi : String) : Announces o (sendCommand scpi) := by
  refine Announces.bind (announces_modify ?_) fun _ => ?_
  · exact fun _ => rfl
  · exact (announces_get_bind fun s => announces_dispatchOver s.connection _ _).bind fun _ =>
      (announces_recordCommand _).bind fun _ => announces_pure _

theorem announces_submitText (text : String) : Announces o (submitText text) := by
  rw [submitText]
  split
  · exact announces_pure _
  · exact (announces_guarded (announces_sendCommand _)).bind fun _ => announces_pure _

theorem announces_clearHistory : Announces o clearHistory := by
  refine Announces.bind (announces_modify ?_) fun _ => announces_get_bind fun s => announces_remember _ _
  exact fun s => rfl

theorem announces_sayAll (lines : List String) : Announces o (Act.sayAll lines) := by
  induction lines with
  | nil => exact announces_pure _
  | cons line rest ih => exact (announces_perform fun _ => rfl).bind fun _ => ih

theorem announces_saySubmission (submission : Submission) :
    Announces o (saySubmission submission) := by
  cases submission with
  | rejected => exact announces_pure _
  | dropped => exact announces_perform fun _ => rfl
  | sent outcome =>
    exact announces_get_bind fun s => announces_get_bind fun t => announces_sayAll _

/-- All lines but those that identify the instrument, which tell the operator themselves. -/
theorem announces_execute (line : String) (h : Directive.ofLine line ≠ .identify) :
    Announces o (execute line) := by
  rw [execute]
  cases hd : Directive.ofLine line with
  | send scpi | errorQueue =>
    exact (announces_submitText _).bind fun submission =>
      (announces_saySubmission submission).bind fun _ => announces_pure _
  | complete text =>
    exact (announces_get_bind fun _ => announces_sayAll _).bind fun _ => announces_pure _
  | history => exact announces_get_bind fun _ => (announces_sayAll _).bind fun _ => announces_pure _
  | clearHistory => exact announces_clearHistory.bind fun _ => announces_pure _
  | clearLog => exact (announces_changeLog _ _).bind fun _ => announces_pure _
  | identify => exact absurd hd h
  | exportLog kind =>
    have hwrite (entries : List Entry) : Announces o (writeExport entries kind ".") := by
      refine (announces_perform fun _ => rfl).bind fun now => ?_
      refine (announces_perform fun _ => rfl).bind fun written => ?_
      cases written <;> exact announces_pure _
    refine announces_get_bind fun s => (hwrite _).bind fun written => ?_
    cases written with
    | ok path => exact (announces_perform fun _ => rfl).bind fun _ => announces_pure _
    | error e => exact announces_pure _
  | help => exact (announces_sayAll _).bind fun _ => announces_pure _
  | quit => exact announces_pure _
  | unknown text => exact (announces_perform fun _ => rfl).bind fun _ => announces_pure _

end

/-- **What ends the shell.** Whatever is answered and whatever others do meanwhile, a line that does not quit
lets the shell go on, unless it is an export whose file cannot be written: then this is the failure. So
piped input ends where it is at its end or quits, and in an error only at a line that cannot be read or at
an export that cannot be written. A prompt fails only where the terminal cannot be read, or at such an
export. All other failures are told: why the instrument could not be identified, and exactly those commands
that did not get through. -/
theorem shell_ends (o : Oracle) (line : String) (lines : List (Except IoError String))
    (events : List (Except String Prompt.Event)) :
    (execute line).Ends (Ending (Directive.ofLine line)) ∧
    ((readLines lines).Ends fun asked result => Stopped lines asked result ∧
      ∀ e, result = .error e →
        (∃ cause, .error cause ∈ lines ∧ e = .input cause) ∨ e ∈ refusals asked) ∧
    ((Prompt.run events).Ends fun asked result => ∀ e, result = .error e →
      (∃ problem, .error problem ∈ events ∧ e = .terminal problem) ∨ e ∈ refusals asked) ∧
    (Directive.ofLine line ≠ .identify → Announces o (execute line)) :=
  ⟨ends_execute line, (ends_readLines lines).mono fun _ _ h => ⟨h, fun _ => h.error⟩, ends_run events,
    announces_execute line⟩

/-- The server cannot be reached. The shell goes on, and the operator hears of it. -/
theorem shell_ends_unreachable :
    Directive.ofLine "MEAS:VOLT?" = .send "MEAS:VOLT?" ∧
    let done := (execute "MEAS:VOLT?").alone (scripted [] 0) {} []
    done.1.2 = .ok .goOn ∧ (∃ asked, done.2 = asked ∧ done.1.1.notices = some (lost asked)) ∧
      done.1.1.notices = some [.transport ":MEAS:VOLT?" ServerError.unreachable.message] := by
  have hd : Directive.ofLine "MEAS:VOLT?" = .send "MEAS:VOLT?" := by decide
  obtain ⟨hline, -, -, hnews⟩ := shell_ends (scripted [] 0) "MEAS:VOLT?" [] []
  obtain ⟨_, -, hending⟩ := hline.alone (o := scripted [] 0) {} []
  obtain ⟨asked, hasked, hlost⟩ := hnews (by rw [hd]; simp) {} []
  refine ⟨hd, hending.goesOn.2 ⟨by rw [hd]; simp, by rw [hd]; simp⟩, ⟨asked, hasked, hlost⟩, ?_⟩
  decide +kernel

/-- Answers for closed instances, in a directory where no file can be written. -/
def writeProtected : Oracle := fun record e =>
  match e with
  | .writeText _ _ => .error (.other "Permission denied (os error 13)")
  | e => scripted [] 0 record e

/-- An export that cannot be written ends the shell, and so does a terminal that cannot be read once, with
the line behind it never executed. Nobody quits there. -/
theorem shell_ended :
    Directive.ofLine "!export" = .exportLog .fullLog ∧
    ((execute "!export").alone writeProtected {} []).1.2 =
      .error (.exportFile "./sclipi-log-19700101T000000.txt"
        (.other "Permission denied (os error 13)")) ∧
    let prompted := (Prompt.run [.error "tty gone", .ok (.key { key := some .enter })]).alone
      (scripted [] 0) { line := { text := "*IDN?" } } []
    prompted.1.2 = .error (.terminal "tty gone") ∧ calls prompted.2 = [] := by
  have hd : Directive.ofLine "!export" = .exportLog .fullLog := by decide
  refine ⟨hd, ?_, ?_⟩
  · rw [execute, hd, Shell.perform, Act.alone_get_bind, Act.alone_bind, writeExport, Act.alone_bind,
      Act.alone_perform, Act.alone_bind, Act.alone_perform]
    dsimp only [writeProtected]
    rw [Act.alone_pure, Act.alone_pure]
    have hpath : String.ofList (Path.join ".".toList
        (exportFileName .fullLog (scripted [] 0 [] .now)).toList) = "./sclipi-log-19700101T000000.txt" := by
      decide +kernel
    rw [hpath]
  · intro prompted
    have hprompted : prompted = (({ line := { text := "*IDN?" } }, .error (.terminal "tty gone")),
        [⟨.rawMode true, ()⟩, ⟨.print (Prompt.draw prompt "*IDN?" [] none), ()⟩, ⟨.await, ()⟩,
          ⟨.rawMode false, ()⟩]) := by
      change (Prompt.run _).alone _ _ _ = _
      rw [Act.alone_apply]
      rfl
    rw [hprompted]
    exact ⟨rfl, rfl⟩

end ScpiConsole.Shell
