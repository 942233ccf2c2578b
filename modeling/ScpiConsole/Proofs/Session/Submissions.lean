import ScpiConsole.Prompt
import ScpiConsole.Proofs.History.Contents
import ScpiConsole.Proofs.Session.ScriptRun
/-!
# The operator at work

The operator edits the line and sends commands, one after the other. Whatever comes back, the requests
that went out, the log and the history tell the same story.

* `Operation`, `operate` : what the operator does, with the verdict on each text that was to be sent
* `Sending` : a command that went out, with the entries and the report that it left
* `Agrees` : the requests, the log and the history after some operations
* `submissions_agree` : what they show in the end
-/

namespace ScpiConsole.Session

/-! ## Operations -/

/-- What the operator does. -/
inductive Operation where
  /-- Send what is typed. -/
  | enter
  | send (text : String)
  | press (key : Key)
  | accept (candidate : Candidate)

/-- One operation; the text that was to be sent, with what became of it. -/
def Operation.act : Operation → Act Session (Option (String × Submission))
  | .enter => do
    let s ← get
    let verdict ← submit
    pure (some (s.line.text, verdict))
  | .send text => do
    let verdict ← submitText text
    pure (some (text, verdict))
  | .press key => do
    Prompt.changeLine (·.press key)
    pure none
  | .accept candidate => do
    Prompt.accept candidate
    pure none

def operate : List Operation → Act Session (List (String × Submission))
  | [] => pure []
  | operation :: rest => do
    let verdict ← operation.act
    let verdicts ← operate rest
    pure (verdict.toList ++ verdicts)

/-- The commands in some texts. The mark of a root alone is no command. -/
def commands (texts : List String) : List String :=
  (texts.map Text.trimmed).filter fun text => text ∉ ["", ":", "*"]

def outcome? : Submission → Option Outcome
  | .sent outcome => some outcome
  | _ => none

theorem commands_append (texts texts' : List String) :
    commands (texts ++ texts') = commands texts ++ commands texts' := by
  simp [commands]

theorem commands_singleton (text : String) :
    commands [text] =
      if Text.trimmed text ∈ ["", ":", "*"] then [] else [Text.trimmed text] := by
  by_cases h : Text.trimmed text ∈ ["", ":", "*"]
  · rw [if_pos h]
    exact List.filter_cons_of_neg fun hd => of_decide_eq_true hd h
  · rw [if_neg h]
    exact List.filter_cons_of_pos (decide_eq_true h)

theorem isVoid_iff (text : String) : isVoid text = true ↔ text ∈ ["", ":", "*"] := by
  simp [isVoid, or_assoc]

/-! ## The history -/

theorem entries_press (l : InputLine) (key : Key) :
    (l.press key).history.entries = l.history.entries := by
  have hedit : (l.edit key).history.entries = l.history.entries := by
    cases key with
    | up => exact History.entries_up l.history l.text
    | down => exact History.entries_down l.history
    | char c =>
      show (if Text.isControl c then l else { l with text := l.text.push c }).history.entries = _
      split <;> rfl
    | _ => rfl
  exact (History.entries_onKey _ key).trans hedit

/-! ## One command -/

theorem alone_recordCommand (scpi : String) (o : Oracle) (s : Session) (record : Record) :
    ((recordCommand scpi).alone o s record).1.1.line =
      { s.line with history := s.line.history.add scpi } := by
  rw [recordCommand, Act.alone_get_bind]
  by_cases h : s.line.history.repeats scpi = true
  · rw [if_pos h, History.add, if_pos h, Act.alone_pure]
  · rw [if_neg h, Act.alone_apply]
    rfl

/-- A command takes the text and joins the history. -/
theorem alone_sendCommand_line (scpi : String) (o : Oracle) (s : Session) (record : Record) :
    ((sendCommand scpi).alone o s record).1.1.line =
      { s.line.cleared with history := s.line.cleared.history.add scpi } := by
  have hleaves := leavesFace_dispatch .interactive scpi fun f => f.line = s.line.cleared
  have hline := Act.Keeps.alone (o := o) hleaves (s := { s with line := s.line.cleared }) rfl record
  dsimp only [face] at hline
  simp only [sendCommand, Act.alone_bind, Act.alone_modify, Act.alone_pure, alone_recordCommand, hline]

theorem entries_add_resetCursor (h : History) (command : String) :
    (h.resetCursor.add command).entries = (h.add command).entries := by
  unfold History.add History.repeats History.resetCursor
  split <;> rfl

theorem alone_submitText_of_void (o : Oracle) (s : Session) (record : Record) {text : String}
    (hvoid : Text.trimmed text ∈ ["", ":", "*"]) :
    (submitText text).alone o s record = ((s, .rejected), record) := by
  rw [Session.submitText, if_pos ((isVoid_iff _).2 hvoid), Act.alone_pure]

theorem alone_submitText (o : Oracle) {s : Session} (hidle : s.busy = false) (record : Record)
    {text : String} (hcommand : Text.trimmed text ∉ ["", ":", "*"]) :
    (submitText text).alone o s record =
      ((((sendCommand (Text.trimmed text)).alone o s.held record).1.1.freed,
        .sent ((sendCommand (Text.trimmed text)).alone o s.held record).1.2),
        ((sendCommand (Text.trimmed text)).alone o s.held record).2) := by
  rw [Session.submitText, if_neg (mt (isVoid_iff _).1 hcommand), Act.alone_bind,
    alone_guarded_of_idle _ o hidle, Act.alone_pure, Option.elim_some]

/-! ## Many commands -/

/-- A command that went out, with the entries and the report that it left. -/
structure Sending where
  delivery : Delivery
  block : List Entry
  outcome : Outcome

/-- Entries and report show what came back. -/
def Sending.Sound (x : Sending) : Prop :=
  IsBlock x.delivery x.block ∧ Reports x.delivery x.block x.outcome

/-- What some commands leave in the books. -/
def Books.pageOf (b : Books) (xs : List Sending) : Page where
  calls := xs.map (.send ·.delivery)
  taken := (xs.flatMap Sending.block).length
  entries := xs.flatMap Sending.block
  notices := b.notices.map (· ++ xs.flatMap (·.delivery.news))

section

variable {b : Books} {xs : List Sending}

theorem pageOf_nil : b.pageOf [] = b.blank := by
  simp [Books.pageOf, Books.blank]

theorem pageOf_concat (x : Sending) :
    b.pageOf (xs ++ [x]) = (b.pageOf xs).add x.delivery x.block := by
  have hnotices : b.notices.map (· ++ (xs ++ [x]).flatMap (·.delivery.news)) =
      (b.pageOf xs).notices.map (· ++ x.delivery.news) := by
    rw [Books.pageOf, Option.map_map]
    refine congrArg (Option.map · b.notices) (funext fun old => ?_)
    simp
  rw [Books.pageOf, Page.add, ← hnotices]
  simp [Books.pageOf]

theorem closed_pageOf (hxs : ∀ x ∈ xs, x.Sound) : (b.pageOf xs).Closed := by
  induction xs using List.reverseRecOn with
  | nil => exact ⟨booked_nil, rfl⟩
  | append_singleton xs x ih =>
    rw [List.forall_mem_append, List.forall_mem_singleton] at hxs
    rw [pageOf_concat]
    exact (ih hxs.1).add hxs.2.1

end

/-- A text without a command is rejected, and every other one is sent. -/
def Verdict (text : String) (verdict : Submission) : Prop :=
  if Text.trimmed text ∈ ["", ":", "*"] then verdict = .rejected else ∃ o, verdict = .sent o

/-- The requests, the log and the history after some operations that began with the session `s`. -/
structure Agrees (s : Session) (record : Record) (t : Session)
    (verdicts : List (String × Submission)) (xs : List Sending) : Prop where
  sound : ∀ x ∈ xs, x.Sound
  idle : t.busy = false
  stands : Stands s.held.books .interactive (s.held.books.pageOf xs) 0 record t.held
  scpis : xs.map (·.delivery.scpi) = (commands (verdicts.map Prod.fst)).map normalized
  history : t.line.history.entries =
    ((commands (verdicts.map Prod.fst)).reverse.destutter (· ≠ ·)).take History.cap
  outcomes : verdicts.filterMap (outcome? ·.2) = xs.map Sending.outcome
  verdict : ∀ v ∈ verdicts, Verdict v.1 v.2

theorem agrees_start {s : Session} (hidle : s.busy = false) (hhistory : s.line.history.entries = []) :
    Agrees s [] s [] [] where
  sound := List.forall_mem_nil _
  idle := hidle
  stands := by
    rw [pageOf_nil]
    exact stands_blank rfl .interactive
  scpis := rfl
  history := hhistory
  outcomes := rfl
  verdict := List.forall_mem_nil _

section

variable {s t : Session} {record : Record} {verdicts : List (String × Submission)}
  {xs : List Sending}

/-- Work on the line leaves things as they are, up to the history. -/
theorem Agrees.of_line (h : Agrees s record t verdicts xs) {line : InputLine}
    (hline : line.history.entries = t.line.history.entries) :
    Agrees s record { t with line } verdicts xs :=
  { h with stands := h.stands.of_books rfl, history := hline.trans h.history }

theorem Agrees.of_rejected (h : Agrees s record t verdicts xs) {text : String}
    (hvoid : Text.trimmed text ∈ ["", ":", "*"]) :
    Agrees s record t (verdicts ++ [(text, .rejected)]) xs := by
  have hcommands : commands ((verdicts ++ [(text, Submission.rejected)]).map Prod.fst) =
      commands (verdicts.map Prod.fst) := by
    rw [List.map_append, commands_append, List.map_singleton, commands_singleton, if_pos hvoid,
      List.append_nil]
  refine { h with
    scpis := hcommands ▸ h.scpis
    history := hcommands ▸ h.history
    outcomes := ?_
    verdict := ?_ }
  · rw [List.filterMap_append, h.outcomes]
    exact List.append_nil _
  · refine List.forall_mem_append.2 ⟨h.verdict, List.forall_mem_singleton.2 ?_⟩
    rw [Verdict, if_pos hvoid]

/-- A command that goes out is on all the records when it is settled. -/
theorem Agrees.of_sent (h : Agrees s record t verdicts xs) {text : String}
    (hcommand : Text.trimmed text ∉ ["", ":", "*"]) {x : Sending} (hx : x.Sound)
    (hscpi : x.delivery.scpi = normalized (Text.trimmed text)) {record' : Record} {t' : Session}
    (hstands : Stands s.held.books .interactive ((s.held.books.pageOf xs).add x.delivery x.block) 0
      record' t'.held)
    (hidle : t'.busy = false)
    (hhistory : t'.line.history.entries = (t.line.history.add (Text.trimmed text)).entries) :
    Agrees s record' t' (verdicts ++ [(text, .sent x.outcome)]) (xs ++ [x]) := by
  have hcommands : commands ((verdicts ++ [(text, Submission.sent x.outcome)]).map Prod.fst) =
      commands (verdicts.map Prod.fst) ++ [Text.trimmed text] := by
    rw [List.map_append, commands_append, List.map_singleton, commands_singleton, if_neg hcommand]
  refine ⟨?_, hidle, pageOf_concat x ▸ hstands, ?_, ?_, ?_, ?_⟩
  · exact List.forall_mem_append.2 ⟨h.sound, List.forall_mem_singleton.2 hx⟩
  · rw [hcommands, List.map_append, List.map_append, h.scpis, List.map_singleton, hscpi]
    rfl
  · rw [hcommands, List.reverse_append, hhistory]
    exact History.entries_add h.history _
  · rw [List.filterMap_append, h.outcomes, List.map_append]
    rfl
  · refine List.forall_mem_append.2 ⟨h.verdict, List.forall_mem_singleton.2 ?_⟩
    rw [Verdict, if_neg hcommand]
    exact ⟨x.outcome, rfl⟩

end

/-! ## The operations -/

section

variable {o : Oracle} {s t : Session} {record : Record} {verdicts : List (String × Submission)}
  {xs : List Sending}

theorem held_freed {w : Session} (h : w.busy = true) : w.freed.held = w := by
  rw [held, freed, ← h]

theorem Agrees.submitText (h : Agrees s record t verdicts xs)
    (hfresh : s.held.books.Fresh .interactive) (text : String)
    (hleft : s.ids.next.toNat + taken ((Session.submitText text).alone o t record).2 ≤
      UInt64.size) :
    ∃ xs', Agrees s ((Session.submitText text).alone o t record).2
      ((Session.submitText text).alone o t record).1.1
      (verdicts ++ [(text, ((Session.submitText text).alone o t record).1.2)]) xs' := by
  by_cases hvoid : Text.trimmed text ∈ ["", ":", "*"]
  · rw [alone_submitText_of_void o t record hvoid]
    exact ⟨xs, h.of_rejected hvoid⟩
  rw [alone_submitText o h.idle record hvoid] at hleft ⊢
  have hline := alone_sendCommand_line (Text.trimmed text) o t.held record
  have hclosed : (s.held.books.pageOf xs).Closed := closed_pageOf h.sound
  have hmeets := meets_sendCommand hclosed hfresh (Text.trimmed text)
  dsimp only at hleft
  obtain ⟨d, hscpi, block, hblock, hreports, hstands⟩ := hmeets.alone (o := o) h.stands hleft
  generalize (sendCommand (Text.trimmed text)).alone o t.held record = worked at *
  -- The guard is free between two commands, and the books are compared with the guard taken.
  have hstands' : Stands s.held.books .interactive _ 0 worked.2 worked.1.1.freed.held :=
    (held_freed (congrArg Books.busy hstands.books)).symm ▸ hstands
  have hhistory : worked.1.1.freed.line.history.entries = _ :=
    (congrArg (·.history.entries) hline).trans (entries_add_resetCursor t.line.history _)
  let x : Sending := ⟨d, block, worked.1.2⟩
  have hx : x.Sound := ⟨hblock, hreports⟩
  exact ⟨xs ++ [x], h.of_sent hvoid hx hscpi hstands' rfl hhistory⟩

theorem alone_send (o : Oracle) (text : String) (s : Session) (record : Record) :
    (Operation.send text).act.alone o s record =
      ((((Session.submitText text).alone o s record).1.1,
        some (text, ((Session.submitText text).alone o s record).1.2)),
        ((Session.submitText text).alone o s record).2) := by
  rw [Operation.act, Act.alone_bind, Act.alone_pure]

/-- Sending the line is sending its text. -/
theorem alone_enter (o : Oracle) (s : Session) (record : Record) :
    Operation.enter.act.alone o s record = (Operation.send s.line.text).act.alone o s record := by
  rw [alone_send, Operation.act, Act.alone_get_bind, Act.alone_bind, submit, Act.alone_get_bind,
    Act.alone_pure]

theorem alone_press (o : Oracle) (key : Key) (s : Session) (record : Record) :
    (Operation.press key).act.alone o s record =
      (({ s with line := s.line.press key }, none), record) := by
  rw [Operation.act, Prompt.changeLine, Act.alone_bind, Act.alone_modify, Act.alone_pure]

theorem alone_accept (o : Oracle) (candidate : Candidate) (s : Session) (record : Record) :
    (Operation.accept candidate).act.alone o s record =
      (({ s with line := s.line.accept candidate s.preferences.preferShortScpi }, none), record) := by
  rw [Operation.act, Prompt.accept, Act.alone_bind, Act.alone_modify, Act.alone_pure]

theorem Agrees.send (h : Agrees s record t verdicts xs) (hfresh : s.held.books.Fresh .interactive)
    (text : String)
    (hleft : s.ids.next.toNat + taken ((Operation.send text).act.alone o t record).2 ≤
      UInt64.size) :
    ∃ xs', Agrees s ((Operation.send text).act.alone o t record).2
      ((Operation.send text).act.alone o t record).1.1
      (verdicts ++ ((Operation.send text).act.alone o t record).1.2.toList) xs' := by
  rw [alone_send] at hleft ⊢
  exact h.submitText hfresh text hleft

/-- What one operation preserves. -/
theorem Agrees.act (h : Agrees s record t verdicts xs) (hfresh : s.held.books.Fresh .interactive)
    (operation : Operation)
    (hleft : s.ids.next.toNat + taken (operation.act.alone o t record).2 ≤ UInt64.size) :
    ∃ xs', Agrees s (operation.act.alone o t record).2 (operation.act.alone o t record).1.1
      (verdicts ++ (operation.act.alone o t record).1.2.toList) xs' := by
  cases operation with
  | enter =>
    rw [alone_enter] at hleft ⊢
    exact h.send hfresh t.line.text hleft
  | send text => exact h.send hfresh text hleft
  | press key =>
    rw [alone_press, Option.toList_none, List.append_nil]
    exact ⟨xs, h.of_line (entries_press t.line key)⟩
  | accept candidate =>
    rw [alone_accept, Option.toList_none, List.append_nil]
    exact ⟨xs, h.of_line rfl⟩

theorem taken_le_alone {α : Type} (x : Act Session α) (o : Oracle) (s : Session) (record : Record) :
    taken record ≤ taken (x.alone o s record).2 := by
  obtain ⟨more, hmore⟩ := x.exists_append_alone (o := o) s record
  rw [hmore, taken_append]
  exact Nat.le_add_right _ _

/-- What a run of operations preserves. -/
theorem Agrees.operate (h : Agrees s record t verdicts xs)
    (hfresh : s.held.books.Fresh .interactive) (operations : List Operation)
    (hleft : s.ids.next.toNat + taken ((Session.operate operations).alone o t record).2 ≤
      UInt64.size) :
    ∃ xs', Agrees s ((Session.operate operations).alone o t record).2
      ((Session.operate operations).alone o t record).1.1
      (verdicts ++ ((Session.operate operations).alone o t record).1.2) xs' := by
  induction operations generalizing t record verdicts xs with
  | nil =>
    rw [Session.operate, Act.alone_pure, List.append_nil]
    exact ⟨xs, h⟩
  | cons operation rest ih =>
    rw [Session.operate, Act.alone_bind, Act.alone_bind, Act.alone_pure] at hleft ⊢
    have hmore := taken_le_alone (operate rest) o (operation.act.alone o t record).1.1
      (operation.act.alone o t record).2
    obtain ⟨xs₁, h₁⟩ := h.act hfresh operation (Nat.le_trans (Nat.add_le_add_left hmore _) hleft)
    rw [← List.append_assoc]
    exact ih h₁ hleft

end

/-- **Submissions.** On an idle session whose log has no number that is yet to come, the operator edits
the line and sends texts, with any answers, as long as numbers are left. Then the requests are the
commands in these texts, each once and in order. The log is the old one, followed by one block for each
command, numbered on. The history shows the commands, the newest first, without repeats in a row. Each
text is rejected or sent, and what was sent is reported as it was answered. -/
theorem submissions_agree (operations : List Operation) (o : Oracle) {s : Session}
    (hidle : s.busy = false) (hfresh : ∀ e ∈ s.log.entries, e.id.value < s.ids.next)
    (hhistory : s.line.history.entries = []) :
    let ended := (operate operations).alone o s []
    let sent := commands (ended.1.2.map Prod.fst)
    s.ids.next.toNat + taken ended.2 ≤ UInt64.size →
    ∃ xs : List Sending, (∀ x ∈ xs, IsBlock x.delivery x.block ∧ Reports x.delivery x.block x.outcome) ∧
      calls ended.2 = xs.map (.send ·.delivery) ∧
      xs.map (·.delivery.scpi) = sent.map normalized ∧
      ended.1.1.log.entries = s.log.entries ++ xs.flatMap Sending.block ∧
      Numbered s.books (xs.flatMap Sending.block) ∧
      ended.1.1.line.history.entries = (sent.reverse.destutter (· ≠ ·)).take History.cap ∧
      (∀ v ∈ ended.1.2, Verdict v.1 v.2) ∧
      ended.1.2.filterMap (outcome? ·.2) = xs.map Sending.outcome ∧
      ended.1.1.notices = s.notices.map (· ++ xs.flatMap (·.delivery.news)) ∧
      ended.1.1.scriptLog.entries = s.scriptLog.entries ∧ ended.1.1.busy = false := by
  intro ended sent hleft
  obtain ⟨xs, h⟩ := (agrees_start hidle hhistory).operate hfresh operations hleft
  have hlog (mode : Mode) : (ended.1.1.logOf mode).entries =
      Function.update s.held.books.logs .interactive
        (s.log.entries ++ xs.flatMap Sending.block) mode :=
    congrFun (congrArg Books.logs h.stands.books) mode
  exact ⟨xs, h.sound, h.stands.calls, h.scpis, hlog .interactive, h.stands.numbered, h.history,
    h.verdict, h.outcomes, congrArg Books.notices h.stands.books, hlog .script, h.idle⟩

/-- A session with an entry from before. -/
def reopened : Session where
  ids := ⟨5⟩
  log := { entries := [(Entry.pending ⟨3⟩ .epoch ":OUTP OFF").settle "" false .zero] }

/-- A command, a text without one, and a command that is typed. -/
def shortDay : List Operation :=
  [.send " OUTP ON ", .send ":", .press (.char '*'), .press (.char 'R'), .enter]

/-- The instrument complains about the first command, and the second does not get through. -/
@[irreducible]
def shortDayEnd : (Session × List (String × Submission)) × Record :=
  (operate shortDay).alone (scripted [{ errors := ["-113"] }] 0) reopened []

theorem short_day_agrees :
    (reopened.busy = false ∧ (∀ e ∈ reopened.log.entries, e.id.value < reopened.ids.next) ∧
      reopened.line.history.entries = [] ∧
      reopened.ids.next.toNat + taken shortDayEnd.2 ≤ UInt64.size) ∧
    ∃ xs : List Sending, (∀ x ∈ xs, IsBlock x.delivery x.block ∧ Reports x.delivery x.block x.outcome) ∧
      calls shortDayEnd.2 = xs.map (.send ·.delivery) ∧
      xs.map (·.delivery.scpi) = [":OUTP ON", "*R"] ∧
      shortDayEnd.1.1.log.entries = reopened.log.entries ++ xs.flatMap Sending.block ∧
      shortDayEnd.1.1.line.history.entries = ["*R", "OUTP ON"] := by
  have hfresh : ∀ e ∈ reopened.log.entries, e.id.value < reopened.ids.next := by decide
  have hleft : reopened.ids.next.toNat + taken shortDayEnd.2 ≤ UInt64.size := by decide +kernel
  have hsent : commands (shortDayEnd.1.2.map Prod.fst) = ["OUTP ON", "*R"] := by decide +kernel
  have hagree := submissions_agree shortDay (scripted [{ errors := ["-113"] }] 0) (s := reopened)
    rfl hfresh rfl
  rw [← shortDayEnd] at hagree
  obtain ⟨xs, hsound, hcalls, hscpis, hlog, -, hhistory, -⟩ := hagree hleft
  rw [hsent] at hscpis hhistory
  exact ⟨⟨rfl, hfresh, rfl, hleft⟩, xs, hsound, hcalls, hscpis, hlog, hhistory⟩

end ScpiConsole.Session
