import ScpiConsole.Proofs.InputLine.Sources
import ScpiConsole.Proofs.Session.Submissions
/-!
# At the console

One thing is done after another at the console, and a command that is sent is settled before the next thing
is done. So a command joins the history when nobody browses it, and the line never shows anything but the
entry under the cursor.

* `Move` : what is done at a console
* `Reached` : the sessions that moves lead to, with the texts that came into the line from elsewhere
* `line_submitText` : all that a submission can come to
* `consistent_of_reached` : line, cursor and sources agree in every session reached
* `line_consistent` : what that means for the line, the completions and the submissions
-/

namespace ScpiConsole.Session

open InputLine (Deed Consistent)

/-! ## Moves -/

/-- What is done at a console. -/
inductive Move where
  /-- Press a key, accept a completion, or send something. -/
  | operate (operation : Operation)
  | type (text : String)
  /-- Take the line away. -/
  | take
  /-- Clear the history. -/
  | forget

namespace Move

/-- One move; the text that was to be sent, with what became of it. -/
def act : Move → Act Session (Option (String × Submission))
  | .operate operation => operation.act
  | .type text => do
    Prompt.changeLine (·.type text)
    pure none
  | .take => do
    Prompt.changeLine InputLine.cleared
    pure none
  | .forget => do
    clearHistory
    pure none

/-- Only what is on offer is accepted. -/
def Possible (s : Session) : Move → Prop
  | .operate (.accept candidate) => candidate ∈ s.line.candidates s.grammar
  | _ => True

/-- The texts that it brings into the line from elsewhere: an entry recalled, or a mnemonic accepted. -/
def brings (s : Session) : Move → List String
  | .operate (.press key) => (Deed.press key).brings s.line
  | .operate (.accept candidate) =>
    (Deed.accept candidate s.preferences.preferShortScpi).brings s.line
  | .operate .enter | .operate (.send _) | .type _ | .take | .forget => []

end Move

/-- The sessions that moves lead to, with the texts brought into the line and the record of what was asked.
Between two moves all but the line may change. -/
inductive Reached (o : Oracle) (start : Session) : List String → Session → Record → Prop where
  | start : Reached o start [] start []
  | move {brought : List String} {s : Session} {record : Record} (m : Move)
      (reached : Reached o start brought s record) (possible : m.Possible s) :
    Reached o start (brought ++ m.brings s) (m.act.alone o s record).1.1 (m.act.alone o s record).2
  | aside {brought : List String} {s t : Session} {record : Record}
      (reached : Reached o start brought s record) (line_eq : t.line = s.line) :
    Reached o start brought t record

/-! ## What moves do to the line -/

section

variable {o : Oracle} {s : Session} {record : Record} {brought : List String}

theorem alone_changeLine (change : InputLine → InputLine) (o : Oracle) (s : Session) (record : Record) :
    (do Prompt.changeLine change; pure none : Act Session (Option (String × Submission))).alone o s
      record = (({ s with line := change s.line }, none), record) := by
  rw [Prompt.changeLine, Act.alone_bind, Act.alone_modify, Act.alone_pure]

theorem line_clearHistory (o : Oracle) (s : Session) (record : Record) :
    (clearHistory.alone o s record).1.1.line = Deed.forget.apply s.line := by
  rw [clearHistory, Act.alone_bind, Act.alone_modify, Act.alone_get_bind]
  exact Act.Keeps.alone (o := o) (leavesFace_remember _ _ fun f => f.line = Deed.forget.apply s.line)
    rfl record

theorem alone_submitText_of_busy (o : Oracle) (hbusy : s.busy = true) (record : Record) {text : String}
    (hcommand : Text.trimmed text ∉ ["", ":", "*"]) :
    (submitText text).alone o s record = ((s, .dropped), record) := by
  rw [submitText, if_neg (mt (isVoid_iff _).1 hcommand), Act.alone_bind,
    alone_guarded_of_busy _ o hbusy, Act.alone_pure, Option.elim_none]

/-- All that a submission can come to: nothing is sent and the line stays, or the command takes the text and
joins the history. -/
theorem line_submitText (text : String) (o : Oracle) (s : Session) (record : Record) :
    let ended := (submitText text).alone o s record
    ((ended.1.2 = .rejected ∨ ended.1.2 = .dropped) ∧ ended.1.1.line = s.line) ∨
      ∃ outcome, ended.1.2 = .sent outcome ∧
        ended.1.1.line = (Deed.record (Text.trimmed text)).apply (Deed.take.apply s.line) := by
  intro ended
  by_cases hvoid : Text.trimmed text ∈ ["", ":", "*"]
  · have hended : ended = ((s, .rejected), record) := alone_submitText_of_void o s record hvoid
    rw [hended]
    exact .inl ⟨.inl rfl, rfl⟩
  cases hbusy : s.busy with
  | true =>
    have hended : ended = ((s, .dropped), record) := alone_submitText_of_busy o hbusy record hvoid
    rw [hended]
    exact .inl ⟨.inr rfl, rfl⟩
  | false =>
    have hended : ended = _ := alone_submitText o hbusy record hvoid
    have hline := alone_sendCommand_line (Text.trimmed text) o s.held record
    rw [hended]
    exact .inr ⟨_, rfl, hline⟩

theorem consistent_submitText (h : s.line.Consistent brought) (text : String) :
    ((submitText text).alone o s record).1.1.line.Consistent brought := by
  rcases line_submitText text o s record with ⟨-, hline⟩ | ⟨outcome, -, hline⟩
  · rw [hline]
    exact h
  · have htaken := h.apply none .take trivial trivial
    have hrecorded := htaken.apply none (.record (Text.trimmed text)) trivial rfl
    rw [Deed.brings, Deed.brings, List.append_nil, List.append_nil] at hrecorded
    rw [hline]
    exact hrecorded

theorem consistent_type {l : InputLine} (h : l.Consistent brought) (text : String) :
    (l.type text).Consistent brought := by
  rw [InputLine.type]
  induction text.toList generalizing l with
  | nil => exact h
  | cons c rest ih =>
    have hbrings : (Deed.press (.char c)).brings l = [] := by
      rw [Deed.brings, if_neg]
      rintro (hkey | hkey) <;> cases hkey
    have hpress := h.press (.char c)
    rw [hbrings, List.append_nil] at hpress
    exact ih hpress

/-- What one move preserves. -/
theorem consistent_act (h : s.line.Consistent brought) (m : Move) (possible : m.Possible s) :
    (m.act.alone o s record).1.1.line.Consistent (brought ++ m.brings s) := by
  cases m with
  | operate operation =>
    rw [Move.act]
    cases operation with
    | enter =>
      rw [alone_enter, alone_send, Move.brings, List.append_nil]
      exact consistent_submitText h _
    | send text =>
      rw [alone_send, Move.brings, List.append_nil]
      exact consistent_submitText h text
    | press key =>
      rw [alone_press]
      exact h.press key
    | accept candidate =>
      rw [alone_accept]
      exact h.accept possible _
  | type text =>
    rw [Move.act, alone_changeLine, Move.brings, List.append_nil]
    exact consistent_type h text
  | take =>
    rw [Move.act, alone_changeLine]
    exact h.apply none .take trivial trivial
  | forget =>
    rw [Move.act, Act.alone_bind, Act.alone_pure, line_clearHistory]
    exact h.apply none .forget trivial trivial

/-- What moves preserve, one after another. -/
theorem consistent_of_reached {start : Session} (hstart : start.line.Consistent [])
    (h : Reached o start brought s record) : s.line.Consistent brought := by
  induction h with
  | start => exact hstart
  | move m _ possible ih => exact consistent_act ih m possible
  | aside _ hline ih => rwa [hline]

theorem line_of_sent_submitText {text : String} {outcome : Outcome}
    (h : ((submitText text).alone o s record).1.2 = .sent outcome) :
    let line := ((submitText text).alone o s record).1.1.line
    line.text = "" ∧ line.sticky = {} ∧ line.history.cursor = none := by
  rcases line_submitText text o s record with ⟨hnone | hnone, -⟩ | ⟨-, -, hline⟩
  · cases hnone.symm.trans h
  · cases hnone.symm.trans h
  · rw [hline]
    exact ⟨rfl, rfl, History.cursor_add _ _⟩

/-- However a command was sent, it leaves an empty line. -/
theorem line_of_sent {m : Move} {text : String} {outcome : Outcome}
    (h : (m.act.alone o s record).1.2 = some (text, .sent outcome)) :
    let line := (m.act.alone o s record).1.1.line
    line.text = "" ∧ line.sticky = {} ∧ line.history.cursor = none := by
  cases m with
  | operate operation =>
    rw [Move.act] at h ⊢
    cases operation with
    | enter =>
      rw [alone_enter, alone_send] at h ⊢
      exact line_of_sent_submitText (Prod.mk.inj (Option.some.inj h)).2
    | send text =>
      rw [alone_send] at h ⊢
      exact line_of_sent_submitText (Prod.mk.inj (Option.some.inj h)).2
    | press key =>
      rw [alone_press] at h
      cases h
    | accept candidate =>
      rw [alone_accept] at h
      cases h
  | type text =>
    rw [Move.act, alone_changeLine] at h
    cases h
  | take =>
    rw [Move.act, alone_changeLine] at h
    cases h
  | forget =>
    rw [Move.act, Act.alone_bind, Act.alone_pure] at h
    cases h

end

/-! ## The line -/

/-- **The line.** The operator starts with an empty line and the entries stored before. While the history is
browsed the cursor is on an entry, the line shows that entry, and nothing is on offer. A command that is sent
leaves an empty line, with nothing left behind and the history not browsed. A control character in the line
came with an entry that was recalled or with a mnemonic that was accepted. -/
theorem line_consistent {o : Oracle} {start s : Session} {brought : List String} {record : Record}
    (entries : List String) (hstart : start.line = { history := .ofEntries entries })
    (h : Reached o start brought s record) :
    (∀ i, s.line.history.cursor = some i → i < s.line.history.entries.length ∧
      s.line.history.entries[i]? = some s.line.text ∧ s.line.candidates s.grammar = []) ∧
    (∀ (m : Move) text outcome, (m.act.alone o s record).1.2 = some (text, .sent outcome) →
      let line := (m.act.alone o s record).1.1.line
      line.text = "" ∧ line.sticky = {} ∧ line.history.cursor = none) ∧
    (∀ c ∈ s.line.text.toList, Text.isControl c = true → ∃ text ∈ brought, c ∈ text.toList) := by
  have hline : s.line.Consistent brought :=
    consistent_of_reached (hstart ▸ InputLine.consistent_start entries) h
  refine ⟨fun i hi => ⟨hline.bounded.cursor_lt i hi, hline.shows i hi, ?_⟩, fun m text outcome hsent => ?_,
    hline.sourced⟩
  · exact InputLine.candidates_of_browsing (congrArg Option.isSome hi) s.grammar
  · exact line_of_sent hsent

/-- A session with two entries from before. A tab stands in the older one. -/
def resumed : Session where
  line := { history := .ofEntries ["*RST", "OUTP\tON"] }

/-- Two steps up, and the older entry is recalled. -/
def recalled : Session := { resumed with line := (resumed.line.press .up).press .up }

/-- The entry is sent as it was recalled. -/
@[irreducible]
def recalledEnd : (Session × Option (String × Submission)) × Record :=
  (Move.operate .enter).act.alone (scripted [{ response := "1" }] 0) recalled []

theorem reached_recalled (o : Oracle) : Reached o resumed ["*RST", "OUTP\tON"] recalled [] := by
  have hstart : Reached o resumed [] resumed [] := .start
  have hfirst := hstart.move (.operate (.press .up)) trivial
  rw [Move.act, alone_press] at hfirst
  have hsecond := hfirst.move (.operate (.press .up)) trivial
  rw [Move.act, alone_press] at hsecond
  exact hsecond

theorem line_consistent_recalled :
    (resumed.line = { history := .ofEntries ["*RST", "OUTP\tON"] } ∧
      Reached (scripted [{ response := "1" }] 0) resumed ["*RST", "OUTP\tON"] recalled []) ∧
    recalled.line.history.cursor = some 1 ∧
    recalled.line.history.entries[1]? = some recalled.line.text ∧
    recalled.line.candidates recalled.grammar = [] ∧
    (∃ text ∈ ["*RST", "OUTP\tON"], '\t' ∈ text.toList) ∧
    recalledEnd.1.2 = some ("OUTP\tON", .sent ⟨⟨1⟩, ":OUTP\tON", "1", false, 0⟩) ∧
    recalledEnd.1.1.line.text = "" ∧ recalledEnd.1.1.line.sticky = {} ∧
    recalledEnd.1.1.line.history.cursor = none := by
  have hreached := reached_recalled (scripted [{ response := "1" }] 0)
  have hcursor : recalled.line.history.cursor = some 1 := by decide +kernel
  have htab : '\t' ∈ recalled.line.text.toList := by decide +kernel
  have hverdict : recalledEnd.1.2 = some ("OUTP\tON", .sent ⟨⟨1⟩, ":OUTP\tON", "1", false, 0⟩) := by
    decide +kernel
  obtain ⟨hbrowsing, hsent, hcontrol⟩ := line_consistent ["*RST", "OUTP\tON"] rfl hreached
  obtain ⟨-, hshown, hnone⟩ := hbrowsing 1 hcursor
  have hended := hsent (.operate .enter)
  rw [← recalledEnd] at hended
  exact ⟨⟨rfl, hreached⟩, hcursor, hshown, hnone, hcontrol _ htab (by decide), hverdict,
    hended _ _ hverdict⟩

end ScpiConsole.Session
