import ScpiConsole.Proofs.Session.Guard
import ScpiConsole.Proofs.Session.Line
/-!
# Runs of scripts

What a run reports, what its log shows and what it told the operator all follow from what it sent. The
operator may stop it before any line, whatever came back for the lines before.

* `alone_guarded_of_idle`, `alone_guarded_of_busy` : work that finds the guard free, or taken
* `countP_blocks` : errors are counted in the log as in the answers
* `run_accounts_for_every_line` : the accounts of a run
-/

namespace ScpiConsole.Session

/-! ## Work that nobody disturbs -/

theorem alone_guarded_of_idle {α : Type} (work : Act Session α) (o : Oracle) {s : Session}
    (h : s.busy = false) (record : Record) :
    (guarded work).alone o s record =
      (((work.alone o s.held record).1.1.freed, some (work.alone o s.held record).1.2),
        (work.alone o s.held record).2) := by
  rw [Act.alone_apply, guarded_of_idle work h, ← Act.alone_apply, Act.alone_bind, Act.alone_bind,
    release, Act.alone_modify, Act.alone_pure]

theorem alone_runScript_of_idle (script : Script) (o : Oracle) {s : Session} (h : s.busy = false)
    (record : Record) :
    (runScript script).alone o s record =
      let work := (sendScript pure () script).alone o s.held record
      ((work.1.1.freed, some work.1.2.1), work.2) := by
  rw [runScript, watchScript, Act.alone_bind, alone_guarded_of_idle _ o h, Act.alone_pure]
  rfl

theorem alone_guarded_of_busy {α : Type} (work : Act Session α) (o : Oracle) {s : Session}
    (h : s.busy = true) (record : Record) :
    (guarded work).alone o s record = ((s, none), record) := by
  rw [Act.alone_apply, guarded_of_busy work h, Talk.alone_done]

/-! ## The line -/

theorem leavesFace_sendLines {β : Type} {watch : β → Act Session β}
    (hwatch : ∀ shown, LeavesFace (watch shown)) (total : Nat) (lines : List String) (shown : β)
    (tally : Tally) : LeavesFace (sendLines watch total shown tally lines) := by
  induction lines generalizing shown tally with
  | nil => exact leavesFace_pure _
  | cons line rest ih =>
    refine (leavesFace_perform _).bind fun stop => ?_
    cases stop with
    | true => exact leavesFace_pure _
    | false =>
      refine (leavesFace_dispatch .script line).bind fun _ => (leavesFace_modify ?_).bind fun _ =>
        (hwatch shown).bind fun shown => ih shown _
      exact fun _ => rfl

theorem leavesFace_closeRun (r : Report) : LeavesFace (closeRun r) := by
  refine (leavesFace_modify ?_).bind fun _ => ?_
  · exact fun _ => rfl
  split
  · exact leavesFace_notify _
  · exact leavesFace_pure _

theorem leavesFace_workThrough {β : Type} {watch : β → Act Session β}
    (hwatch : ∀ shown, LeavesFace (watch shown)) (shown : β) (lines : List String) :
    LeavesFace (workThrough watch shown lines) := by
  rw [workThrough]
  refine LeavesFace.bind (leavesFace_modify ?_) fun _ => ?_
  · exact fun _ => rfl
  refine LeavesFace.bind (leavesFace_sendLines hwatch _ _ _ _) fun _ => ?_
  exact (leavesFace_closeRun _).bind fun _ => leavesFace_pure _

/-- A run touches neither the line nor the history. -/
theorem leavesFace_sendScript {β : Type} {watch : β → Act Session β}
    (hwatch : ∀ shown, LeavesFace (watch shown)) (shown : β) (script : Script) :
    LeavesFace (sendScript watch shown script) :=
  (leavesFace_changeLog .script Log.clear).bind fun _ => leavesFace_workThrough hwatch shown _

/-! ## Accounts -/

/-- An error of the server shows in the first entry of its block. -/
theorem countP_blocks {ds : List Delivery} {blocks : List (List Entry)}
    (h : List.Forall₂ IsBlock ds blocks) :
    ds.countP (·.outcome.2) = blocks.countP fun block => block.head?.any Entry.isServerError := by
  induction h with
  | nil => rfl
  | cons hblock _ ih =>
    obtain ⟨head, errors, rfl, hhead, -⟩ := hblock
    simp only [List.countP_cons, ih, List.head?_cons, Option.any_some, hhead.isServerError]

/-- What the lines of a script leave in the books. -/
theorem alone_sendScript {β : Type} {watch : β → Act Session β} {s : Session}
    (hwatch : Watches s.emptied.books watch) (shown : β) (script : Script) (o : Oracle)
    (hbusy : s.busy = true)
    (hleft : s.ids.next.toNat + taken ((sendScript watch shown script).alone o s []).2 ≤ UInt64.size) :
    ∃ ds p, Sent s.emptied.books.blank script.lines ds p ∧
      ((sendScript watch shown script).alone o s []).1.2.1 = runReport script.lines ds ∧
      Stands s.emptied.books .script (p.tell (endNews (runReport script.lines ds))) 0
        ((sendScript watch shown script).alone o s []).2
        ((sendScript watch shown script).alone o s []).1.1 := by
  have hobeys := obeys_sendScript hwatch shown script hbusy
  obtain ⟨ds, p, hsent, hr, hstands⟩ := Act.alone_of_obeys (o := o) hobeys hleft
  exact ⟨ds, p, hsent, hr, hr ▸ hstands⟩

/-- **Runs.** A run on an idle session sends the first lines of the script, each once, and asks before
each whether to stop. Its log is then made of the blocks of these lines. The report counts the lines
sent, the others and the errors, and says that the run was stopped exactly if lines are left, of which
the operator is told once. The history stays, and the guard is free again. -/
theorem run_accounts_for_every_line (script : Script) (o : Oracle) {s : Session}
    (hidle : s.busy = false) :
    let ended := (runScript script).alone o s []
    s.ids.next.toNat + taken ended.2 ≤ UInt64.size →
    ∃ r ds blocks, ended.1.2 = some r ∧
      calls ended.2 = runCalls ds (0 < r.skipped) ∧
      ds.map Delivery.scpi = (script.lines.take r.dispatched).map normalized ∧
      List.Forall₂ IsBlock ds blocks ∧ ended.1.1.scriptLog.entries = blocks.flatten ∧
      r.dispatched = ds.length ∧ r.dispatched + r.skipped = script.lines.length ∧
      r.failed = (blocks.countP fun block => block.head?.any Entry.isServerError) ∧
      r.status = (if 0 < r.skipped then .cancelled else .completed) ∧
      ended.1.1.notices = s.notices.map (· ++ ds.flatMap Delivery.news ++
        if 0 < r.skipped then [.cancelled r.dispatched r.skipped] else []) ∧
      ended.1.1.line = s.line ∧ ended.1.1.log.entries = s.log.entries ∧
      ended.1.1.busy = false := by
  intro ended hleft
  have hended : ended = _ := alone_runScript_of_idle script o hidle []
  have hleaves := leavesFace_sendScript leavesFace_pure () script fun f => f.line = s.line
  have hline := Act.Keeps.alone (o := o) hleaves (s := s.held) rfl []
  rw [hended] at hleft ⊢
  dsimp only at hleft ⊢
  obtain ⟨ds, p, hsent, hr, hstands⟩ := alone_sendScript (s := s.held) watches_pure () script o rfl hleft
  obtain ⟨blocks, hblocks, hentries⟩ := hsent.closed.booked
  have haccounts := hsent.accounts
  rw [hr]
  generalize (sendScript pure () script).alone o s.held [] = worked at *
  generalize runReport script.lines ds = r at *
  have hpos : (0 < r.skipped) = (ds.length < script.lines.length) := propext haccounts.skipped_pos
  have hcalls : p.calls = runCalls ds (0 < r.skipped) := by
    simp only [hsent.calls, hpos]
    rfl
  rw [hcalls, delivered_runCalls] at hblocks
  have hlog (mode : Mode) : (worked.1.1.logOf mode).entries =
      Function.update s.held.emptied.books.logs .script p.entries mode :=
    congrFun (congrArg Books.logs hstands.books) mode
  refine ⟨r, ds, blocks, rfl, hstands.calls.trans hcalls, ?_, hblocks, ?_, haccounts.dispatched,
    haccounts.total, ?_, haccounts.status, ?_, hline, ?_, rfl⟩
  · rw [haccounts.dispatched]
    exact hsent.scpis
  · exact (hlog .script).trans hentries
  · rw [haccounts.failed, countP_blocks hblocks]
  · have hnews : worked.1.1.notices = p.notices.map (· ++ endNews r) :=
      congrArg Books.notices hstands.books
    change worked.1.1.notices = _
    rw [hnews, hsent.notices, Option.map_map, haccounts.endNews_eq]
    rfl
  · exact hlog .interactive

/-- The instrument complains about the first line, the second does not get through, and the operator
stops the run before the third. -/
@[irreducible]
def stoppedRun : (Session × Option Report) × Record :=
  (runScript ⟨"OUTP ON\n\nSYST:VERS?\n*RST", .file⟩).alone (scripted [{ errors := ["-113"] }] 2) {} []

theorem run_stopped_before_last_line :
    (({} : Session).busy = false ∧
      ({} : Session).ids.next.toNat + taken stoppedRun.2 ≤ UInt64.size) ∧
    ∃ r ds blocks, stoppedRun.1.2 = some r ∧ r = ⟨.cancelled, 2, 1, 1⟩ ∧
      calls stoppedRun.2 = runCalls ds true ∧
      ds.map Delivery.scpi = [":OUTP ON", ":SYST:VERS?"] ∧
      List.Forall₂ IsBlock ds blocks ∧ stoppedRun.1.1.scriptLog.entries = blocks.flatten ∧
      r.failed = (blocks.countP fun block => block.head?.any Entry.isServerError) ∧
      stoppedRun.1.1.notices = some (ds.flatMap Delivery.news ++ [.cancelled 2 1]) := by
  have hleft : ({} : Session).ids.next.toNat + taken stoppedRun.2 ≤ UInt64.size := by decide +kernel
  have hended : stoppedRun.1.2 = some ⟨.cancelled, 2, 1, 1⟩ := by decide +kernel
  have haccounts := run_accounts_for_every_line ⟨"OUTP ON\n\nSYST:VERS?\n*RST", .file⟩
    (scripted [{ errors := ["-113"] }] 2) (s := {}) rfl
  rw [← stoppedRun] at haccounts
  obtain ⟨r, ds, blocks, hr, hcalls, hscpis, hblocks, hlog, -, -, hfailed, -, hnews, -⟩ :=
    haccounts hleft
  obtain rfl : r = ⟨.cancelled, 2, 1, 1⟩ := Option.some.inj (hr.symm.trans hended)
  refine ⟨⟨rfl, hleft⟩, _, ds, blocks, hr, rfl, hcalls, ?_, hblocks, hlog, hfailed, hnews⟩
  exact hscpis.trans (by decide +kernel)

end ScpiConsole.Session
