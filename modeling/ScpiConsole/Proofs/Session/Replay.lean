import Mathlib.Logic.Function.Basic
import ScpiConsole.Log.Export
import ScpiConsole.Proofs.Session.Bench
import ScpiConsole.Proofs.Session.Restart
import ScpiConsole.Proofs.Session.ScriptRun
import ScpiConsole.Proofs.Text.Lines
/-!
# Exports that replay a session

The commands of a log are exported one on each line, and a script is read line by line. What was sent is in
the form in which it is sent again, so the export of a log is the script of what went out.

* `requests` : all that was asked of the server
* `Account` : the commands that the logs show, and the connection
* `Sendable` : a command on one line, in the form in which it is sent
* `lines_exportText` : such commands are the lines of their export
* `sends_dispatch`, `alone_runScript_account` : what a command and a run add to the account
* `export_replays` : an export is the script of what was sent, and sends it again
-/

namespace ScpiConsole.Session

/-! ## Requests -/

def request? (x : Exchange) : Option Request :=
  match x.effect with
  | .request r => some r
  | _ => none

/-- All that was asked of the server. -/
def requests (record : Record) : List Request := record.filterMap request?

theorem requests_append (record more : Record) :
    requests (record ++ more) = requests record ++ requests more := List.filterMap_append

theorem requests_concat {x : Exchange} (h : request? x = none) (record : Record) :
    requests (record ++ [x]) = requests record := by
  rw [requests_append, requests, requests, List.filterMap_cons_none h, List.filterMap_nil,
    List.append_nil]

/-! ## Accounts -/

/-- The commands in a log. Errors that the instrument reported are not among them. -/
def typed (es : List Entry) : List String := exportLines es .commandsOnly

theorem typed_append (es es' : List Entry) : typed (es ++ es') = typed es ++ typed es' := by
  simp [typed, exportLines]

theorem typed_cons (e : Entry) (es : List Entry) : typed (e :: es) = typed [e] ++ typed es :=
  typed_append [e] es

theorem typed_congr {e e' : Entry} (hscpi : e'.scpi = e.scpi) (hhide : e'.hideTime = e.hideTime) :
    typed [e'] = typed [e] := by
  simp only [typed, exportLines, List.filter_cons, List.filter_nil, hhide]
  split <;> simp [hscpi]

theorem typed_eq_nil {es : List Entry} (h : ∀ e ∈ es, e.hideTime = true) : typed es = [] := by
  rw [typed, exportLines, List.map_eq_nil_iff, List.filter_eq_nil_iff]
  intro e he
  simp [h e he]

/-- An outcome does not change what was sent. -/
theorem typed_modifyFirst (id : EntryId) {change : Entry → Entry}
    (h : ∀ e, typed [change e] = typed [e]) (es : List Entry) :
    typed (Log.modifyFirst id change es) = typed es := by
  induction es with
  | nil => rfl
  | cons e rest ih =>
    rw [Log.modifyFirst]
    split
    · rw [typed_cons, h, ← typed_cons]
    · rw [typed_cons, ih, ← typed_cons]

/-- Wherever errors of the instrument come in, the commands stay. -/
theorem typed_insertBehind (parent : EntryId) {new : List Entry} (h : ∀ e ∈ new, e.hideTime = true)
    (es : List Entry) : typed (Log.insertBehind parent new es) = typed es := by
  induction es with
  | nil => exact typed_eq_nil h
  | cons e rest ih =>
    rw [Log.insertBehind]
    split
    · rw [typed_cons, typed_append, typed_eq_nil h, List.nil_append, ← typed_cons]
    · rw [typed_cons, ih, ← typed_cons]

/-- What a session sends over, and the commands that its logs show. -/
structure Account where
  connection : Connection
  typed : Mode → List String

def account (s : Session) : Account := ⟨s.connection, fun mode => typed (s.logOf mode).entries⟩

namespace Account

/-- The account with other commands in the log of a mode. -/
def withTyped (a : Account) (mode : Mode) (scpis : List String) : Account :=
  { a with typed := Function.update a.typed mode scpis }

/-- The account with more commands in the log of a mode. -/
def add (a : Account) (mode : Mode) (scpis : List String) : Account :=
  a.withTyped mode (a.typed mode ++ scpis)

variable {a : Account} {mode : Mode} {scpis scpis' : List String}

theorem typed_withTyped : (a.withTyped mode scpis).typed mode = scpis := Function.update_self ..

theorem typed_withTyped_of_ne {other : Mode} (h : other ≠ mode) :
    (a.withTyped mode scpis).typed other = a.typed other := Function.update_of_ne h ..

theorem withTyped_typed : a.withTyped mode (a.typed mode) = a := by
  rw [withTyped, Function.update_eq_self]

theorem withTyped_withTyped :
    (a.withTyped mode scpis).withTyped mode scpis' = a.withTyped mode scpis' := by
  rw [withTyped, withTyped, withTyped, Function.update_idem]

theorem add_nil : a.add mode [] = a := by
  rw [add, List.append_nil, withTyped_typed]

theorem add_add : (a.add mode scpis).add mode scpis' = a.add mode (scpis ++ scpis') := by
  rw [add, add, add, withTyped_withTyped, typed_withTyped, List.append_assoc]

end Account

theorem account_setLog (s : Session) (mode : Mode) (log : Log) :
    (s.setLog mode log).account = s.account.withTyped mode (typed log.entries) := by
  have htyped : (fun m => typed ((s.setLog mode log).logOf m).entries) =
      Function.update (fun m => typed (s.logOf m).entries) mode (typed log.entries) := by
    funext other
    by_cases h : other = mode
    · subst h
      rw [logOf_setLog, Function.update_self]
    · rw [logOf_setLog_of_ne s h, Function.update_of_ne h]
  cases mode <;> exact congrArg (Account.mk s.connection) htyped

/-! ## Acts that send nothing -/

variable {α β : Type} {o : Oracle}

/-- The act sends nothing, and the logs show the same commands. -/
def LeavesAccount (o : Oracle) (x : Act Session α) : Prop :=
  ∀ s record, (x.alone o s record).1.1.account = s.account ∧
    requests (x.alone o s record).2 = requests record

theorem LeavesAccount.bind {x : Act Session α} {f : α → Act Session β} (hx : LeavesAccount o x)
    (hf : ∀ a, LeavesAccount o (f a)) : LeavesAccount o (x >>= f) := by
  intro s record
  obtain ⟨haccount, hrequests⟩ := hx s record
  obtain ⟨haccount', hrequests'⟩ := hf (x.alone o s record).1.2 (x.alone o s record).1.1
    (x.alone o s record).2
  rw [Act.alone_bind]
  exact ⟨haccount'.trans haccount, hrequests'.trans hrequests⟩

theorem leavesAccount_pure (a : α) : LeavesAccount o (pure a : Act Session α) := by
  intro s record
  rw [Act.alone_pure]
  exact ⟨rfl, rfl⟩

theorem leavesAccount_modify {f : Session → Session} (h : ∀ s, (f s).account = s.account) :
    LeavesAccount o (modify f) := by
  intro s record
  rw [Act.alone_modify]
  exact ⟨h s, rfl⟩

theorem leavesAccount_perform {e : Effect} (h : ∀ a, request? ⟨e, a⟩ = none) :
    LeavesAccount o (Act.perform e) := by
  intro s record
  rw [Act.alone_perform]
  exact ⟨rfl, requests_concat (h _) record⟩

theorem leavesAccount_remember (slot : Slot) (value : Json) : LeavesAccount o (remember slot value) :=
  (leavesAccount_perform fun _ => rfl).bind fun _ => leavesAccount_pure _

theorem leavesAccount_notify (n : Notification) : LeavesAccount o (notify n) :=
  leavesAccount_modify fun _ => rfl

theorem leavesAccount_newId : LeavesAccount o newId := by
  intro s record
  rw [Act.alone_apply]
  exact ⟨rfl, rfl⟩

theorem leavesAccount_newErrors (errors : List String) : LeavesAccount o (newErrors errors) := by
  induction errors with
  | nil => exact leavesAccount_pure _
  | cons error rest ih =>
    exact leavesAccount_newId.bind fun _ => (leavesAccount_perform fun _ => rfl).bind fun _ =>
      ih.bind fun _ => leavesAccount_pure _

/-- A change of the log that is stored at once. -/
theorem alone_changeLog_account (mode : Mode) (change : Log → Log) (s : Session) (record : Record) :
    ((changeLog mode change).alone o s record).1.1.account =
        s.account.withTyped mode (typed (change (s.logOf mode)).entries) ∧
      requests ((changeLog mode change).alone o s record).2 = requests record := by
  rw [changeLog, Act.alone_bind, Act.alone_modify, Act.alone_get_bind, alone_remember]
  exact ⟨account_setLog s mode _, requests_concat rfl record⟩

theorem leavesAccount_changeLog (mode : Mode) {change : Log → Log}
    (h : ∀ log, typed (change log).entries = typed log.entries) :
    LeavesAccount o (changeLog mode change) := by
  intro s record
  obtain ⟨haccount, hrequests⟩ := alone_changeLog_account (o := o) mode change s record
  rw [h] at haccount
  exact ⟨haccount.trans Account.withTyped_typed, hrequests⟩

theorem leavesAccount_settle (mode : Mode) (id : EntryId) (response : String) (isServerError : Bool)
    (elapsed : Elapsed) : LeavesAccount o (settle mode id response isServerError elapsed) := by
  have hsettle (e : Entry) : typed [e.settle response isServerError elapsed] = typed [e] :=
    typed_congr rfl rfl
  exact leavesAccount_changeLog mode fun log => typed_modifyFirst id hsettle log.entries

theorem hideTime_of_mem_newErrors (errors : List String) (s : Session) (record : Record) :
    ∀ e ∈ ((newErrors errors).alone o s record).1.2, e.hideTime = true := by
  induction errors generalizing s record with
  | nil =>
    rw [newErrors, Act.alone_pure]
    exact List.forall_mem_nil _
  | cons error rest ih =>
    rw [newErrors, Act.alone_bind, Act.alone_bind, Act.alone_bind, Act.alone_pure]
    exact List.forall_mem_cons.2 ⟨rfl, ih _ _⟩

theorem leavesAccount_addErrors (mode : Mode) (id : EntryId) (errors : List String) :
    LeavesAccount o (addErrors mode id errors) := by
  intro s record
  obtain ⟨haccount, hrequests⟩ := leavesAccount_newErrors (o := o) errors s record
  have hhidden := hideTime_of_mem_newErrors (o := o) errors s record
  rw [addErrors, Act.alone_bind]
  generalize (newErrors errors).alone o s record = made at *
  have hinsert : ∀ log : Log, typed (log.insertAfter id made.1.2).entries = typed log.entries := by
    intro log
    rw [Log.insertAfter]
    split
    · rfl
    · exact typed_insertBehind id hhidden log.entries
  rw [← haccount, ← hrequests]
  split
  · rw [Act.alone_pure]
    exact ⟨rfl, rfl⟩
  · exact leavesAccount_changeLog mode hinsert _ _

theorem leavesAccount_conclude (mode : Mode) (id : EntryId) (scpi : String) (elapsed : Elapsed)
    (answer : Except ServerError Reply) :
    LeavesAccount o (conclude mode id scpi elapsed answer) := by
  cases answer with
  | ok reply =>
    exact (leavesAccount_settle mode id _ _ elapsed).bind fun _ =>
      (leavesAccount_addErrors mode id _).bind fun _ => leavesAccount_pure _
  | error e =>
    exact (leavesAccount_settle mode id _ _ elapsed).bind fun _ =>
      (leavesAccount_notify _).bind fun _ => leavesAccount_pure _

theorem leavesAccount_recordCommand (scpi : String) : LeavesAccount o (recordCommand scpi) := by
  intro s record
  rw [recordCommand, Act.alone_get_bind]
  split
  · exact leavesAccount_pure _ s record
  · rw [Act.alone_bind, Act.alone_set]
    exact leavesAccount_remember .history _ _ record

theorem leavesAccount_closeRun (r : Report) : LeavesAccount o (closeRun r) := by
  refine LeavesAccount.bind (leavesAccount_modify ?_) fun _ => ?_
  · exact fun _ => rfl
  split
  · exact leavesAccount_notify _
  · exact leavesAccount_pure _

/-! ## Acts that send -/

/-- The act sends some commands, and the log of their mode shows them. -/
def Sends (o : Oracle) (mode : Mode) (scpis : List String) (x : Act Session α) : Prop :=
  ∀ s record, (x.alone o s record).1.1.account = s.account.add mode scpis ∧
    requests (x.alone o s record).2 = requests record ++ scpis.map (.send · s.connection)

section

variable {mode : Mode} {scpis scpis' : List String} {x : Act Session α} {f : α → Act Session β}

theorem connection_of_account {s t : Session} (h : t.account = s.account.add mode scpis) :
    t.connection = s.connection := congrArg Account.connection h

theorem LeavesAccount.sends (h : LeavesAccount o x) (mode : Mode) : Sends o mode [] x := by
  intro s record
  obtain ⟨haccount, hrequests⟩ := h s record
  rw [Account.add_nil, List.map_nil, List.append_nil]
  exact ⟨haccount, hrequests⟩

theorem Sends.bind (hx : Sends o mode scpis x) (hf : ∀ a, Sends o mode scpis' (f a)) :
    Sends o mode (scpis ++ scpis') (x >>= f) := by
  intro s record
  obtain ⟨haccount, hrequests⟩ := hx s record
  obtain ⟨haccount', hrequests'⟩ := hf (x.alone o s record).1.2 (x.alone o s record).1.1
    (x.alone o s record).2
  rw [Act.alone_bind]
  rw [connection_of_account haccount] at hrequests'
  refine ⟨?_, ?_⟩
  · rw [haccount', haccount, Account.add_add]
  · rw [hrequests', hrequests, List.map_append, List.append_assoc]

theorem LeavesAccount.bind_sends (hx : LeavesAccount o x) (hf : ∀ a, Sends o mode scpis (f a)) :
    Sends o mode scpis (x >>= f) := (hx.sends mode).bind hf

theorem Sends.bind_leavesAccount (hx : Sends o mode scpis x) (hf : ∀ a, LeavesAccount o (f a)) :
    Sends o mode scpis (x >>= f) := by
  have h := hx.bind fun a => (hf a).sends mode
  rwa [List.append_nil] at h

end

theorem alone_request_account (r : Request) (s : Session) (record : Record) :
    ((Act.perform (.request r) : Act Session _).alone o s record).1.1.account = s.account ∧
      requests ((Act.perform (.request r) : Act Session _).alone o s record).2 =
        requests record ++ [r] := by
  rw [Act.alone_perform]
  exact ⟨rfl, requests_append record [_]⟩

theorem alone_logPending_account (mode : Mode) (scpi : String) (s : Session) (record : Record) :
    ((logPending mode scpi).alone o s record).1.1.account = s.account.add mode [scpi] ∧
      requests ((logPending mode scpi).alone o s record).2 = requests record := by
  have hentry : LeavesAccount o (newEntry scpi) :=
    leavesAccount_newId.bind fun _ => (leavesAccount_perform fun _ => rfl).bind fun _ =>
      leavesAccount_pure _
  obtain ⟨haccount, hrequests⟩ := hentry s record
  have hscpi : typed [((newEntry scpi).alone o s record).1.2] = [scpi] := by
    rw [newEntry, Act.alone_bind, Act.alone_bind, Act.alone_pure]
    rfl
  rw [logPending, Act.alone_bind, Act.alone_bind, Act.alone_pure]
  generalize (newEntry scpi).alone o s record = made at *
  obtain ⟨hadded, hrequests'⟩ := alone_changeLog_account (o := o) mode (fun log => log.append made.1.2)
    made.1.1 made.2
  refine ⟨?_, hrequests'.trans hrequests⟩
  rw [hadded, ← haccount, Account.add, Log.append, Log.publish, typed_append, hscpi]
  rfl

/-- The entry comes into the log, and then the command goes out over the connection of the session. -/
theorem sends_dispatch (mode : Mode) (scpi : String) :
    Sends o mode [normalized scpi] (dispatch mode scpi) := by
  intro s record
  obtain ⟨haccount, hrequests⟩ := alone_logPending_account (o := o) mode (normalized scpi) s record
  rw [dispatch, Act.alone_get_bind, dispatchOver, Act.alone_bind]
  generalize (logPending mode (normalized scpi)).alone o s record = logged at *
  have hclock : LeavesAccount o (Act.perform .uptime : Act Session Nat) :=
    leavesAccount_perform fun _ => rfl
  rw [← haccount, List.map_singleton, ← hrequests]
  rw [Act.alone_bind]
  obtain ⟨hstart, hstart'⟩ := hclock logged.1.1 logged.2
  rw [← hstart, ← hstart']
  generalize (Act.perform .uptime : Act Session Nat).alone o logged.1.1 logged.2 = started
  -- Nothing but the request is left that counts.
  have hrest (answer : Except ServerError Reply) : LeavesAccount o (do
      let stop ← Act.perform .uptime
      conclude mode logged.1.2.id (normalized scpi) (.between started.1.2 stop) answer) :=
    hclock.bind fun stop => leavesAccount_conclude mode _ _ _ answer
  rw [Act.alone_bind]
  obtain ⟨hask, hask'⟩ := alone_request_account (o := o) (.send (normalized scpi) s.connection)
    started.1.1 started.2
  rw [← hask, ← hask']
  exact hrest _ _ _

/-- A command of the operator. -/
theorem sends_sendCommand (scpi : String) :
    Sends o .interactive [normalized scpi] (sendCommand scpi) := by
  refine LeavesAccount.bind_sends (leavesAccount_modify ?_) fun _ => ?_
  · exact fun _ => rfl
  exact (sends_dispatch .interactive scpi).bind_leavesAccount fun _ =>
    (leavesAccount_recordCommand scpi).bind fun _ => leavesAccount_pure _

/-- The operator never stops a run. -/
def Patient (o : Oracle) : Prop := ∀ record, o record .cancelled = false

/-- The first lines of a script go out, all of them unless the operator stops the run. -/
theorem alone_sendLines_account (total : Nat) (tally : Tally) (lines : List String) (s : Session)
    (record : Record) :
    let ended := (sendLines pure total () tally lines).alone o s record
    ∃ n ≤ lines.length, (Patient o → n = lines.length) ∧
      ended.1.1.account = s.account.add .script ((lines.take n).map normalized) ∧
      requests ended.2 =
        requests record ++ ((lines.take n).map normalized).map (.send · s.connection) := by
  induction lines generalizing tally s record with
  | nil =>
    rw [sendLines, Act.alone_pure]
    exact ⟨0, Nat.le_refl _, fun _ => rfl, Account.add_nil.symm, (List.append_nil _).symm⟩
  | cons line rest ih =>
    rw [sendLines, Act.alone_bind, Act.alone_perform]
    have hasked : requests (record ++ [⟨.cancelled, o record .cancelled⟩]) = requests record :=
      requests_concat rfl record
    cases hstop : o record .cancelled with
    | true =>
      rw [hstop] at hasked
      refine ⟨0, Nat.zero_le _, fun hpatient => ?_, ?_⟩
      · cases hstop.symm.trans (hpatient record)
      · rw [if_pos rfl, Act.alone_pure, List.take_zero, List.map_nil, List.map_nil, List.append_nil,
          Account.add_nil]
        exact ⟨rfl, hasked⟩
    | false =>
      rw [hstop] at hasked
      rw [if_neg Bool.false_ne_true, Act.alone_bind, Act.alone_bind, Act.alone_modify, Act.alone_bind,
        Act.alone_pure]
      obtain ⟨haccount, hrequests⟩ := sends_dispatch (o := o) .script line s
        (record ++ [⟨.cancelled, false⟩])
      generalize (dispatch .script line).alone o s (record ++ [⟨.cancelled, false⟩]) = sent at *
      rw [hasked] at hrequests
      obtain ⟨n, hn, hpatient, haccount', hrequests'⟩ := ih
        ⟨tally.dispatched + 1, if sent.1.2.isServerError then tally.failed + 1 else tally.failed⟩
        { sent.1.1 with progress := ⟨tally.dispatched + 1, total⟩ } sent.2
      refine ⟨n + 1, Nat.succ_le_succ hn, fun h => congrArg (· + 1) (hpatient h), ?_, ?_⟩
      · change _ = sent.1.1.account.add _ _ at haccount'
        rw [haccount', haccount, Account.add_add]
        rfl
      · change _ = _ ++ List.map (Request.send · sent.1.1.connection) _ at hrequests'
        rw [hrequests', hrequests, connection_of_account haccount, List.append_assoc]
        rfl

theorem alone_workThrough_account (lines : List String) (s : Session) (record : Record) :
    let ended := (workThrough pure () lines).alone o s record
    ∃ n ≤ lines.length, (Patient o → n = lines.length) ∧
      ended.1.1.account = s.account.add .script ((lines.take n).map normalized) ∧
      requests ended.2 =
        requests record ++ ((lines.take n).map normalized).map (.send · s.connection) := by
  rw [workThrough, Act.alone_bind, Act.alone_modify, Act.alone_bind]
  obtain ⟨n, hn, hpatient, haccount, hrequests⟩ := alone_sendLines_account (o := o) lines.length {} lines
    { s with progress := .none, status := .running } record
  generalize (sendLines pure lines.length () {} lines).alone o _ record = sent at *
  have hclosed := (leavesAccount_closeRun (o := o) (report lines.length sent.1.2.1)).bind fun _ =>
    leavesAccount_pure (report lines.length sent.1.2.1, sent.1.2.2)
  obtain ⟨hclosed, hclosed'⟩ := hclosed sent.1.1 sent.2
  exact ⟨n, hn, hpatient, hclosed.trans haccount, hclosed'.trans hrequests⟩

/-- A run clears the log of its mode, which then holds the lines that went out. -/
theorem alone_runScript_account (script : Script) {s : Session} (hidle : s.busy = false)
    (record : Record) :
    let ended := (runScript script).alone o s record
    ∃ n ≤ script.lines.length, (Patient o → n = script.lines.length) ∧
      ended.1.1.busy = false ∧
      ended.1.1.account = s.account.withTyped .script ((script.lines.take n).map normalized) ∧
      requests ended.2 =
        requests record ++ ((script.lines.take n).map normalized).map (.send · s.connection) := by
  intro ended
  have hended : ended = _ := alone_runScript_of_idle script o hidle record
  rw [hended]
  dsimp only
  rw [sendScript, Act.alone_bind]
  obtain ⟨hcleared, hcleared'⟩ := alone_changeLog_account (o := o) .script Log.clear s.held record
  generalize (changeLog .script Log.clear).alone o s.held record = cleared at *
  have hempty : cleared.1.1.account = s.account.withTyped .script [] := hcleared
  have hconnection : cleared.1.1.connection = s.connection := congrArg Account.connection hempty
  obtain ⟨n, hn, hpatient, haccount, hrequests⟩ := alone_workThrough_account (o := o) script.lines
    cleared.1.1 cleared.2
  rw [hempty, Account.add, Account.withTyped_withTyped, Account.typed_withTyped, List.nil_append]
    at haccount
  rw [hcleared', hconnection] at hrequests
  exact ⟨n, hn, hpatient, rfl, haccount, hrequests⟩

/-! ## Commands that are sent as they are -/

/-- A command on one line, in the form in which it is sent. -/
structure Sendable (scpi : String) : Prop where
  root : scpi.toList.head? = some ':' ∨ scpi.toList.head? = some '*'
  endsOutside : Text.EndsOutside Text.isBlank scpi.toList
  not_feed : '\n' ∉ scpi.toList

namespace Sendable

variable {scpi : String}

/-- Normalizing changes nothing. -/
theorem normalized_eq (h : Sendable scpi) : normalized scpi = scpi := by
  unfold normalized
  rcases h.root with hroot | hroot <;> obtain ⟨rest, hlist⟩ := List.head?_eq_some_iff.1 hroot <;>
    simp only [hlist]

theorem ne_nil (h : Sendable scpi) : scpi.toList ≠ [] := by
  intro hnil
  rcases h.root with hroot | hroot <;> rw [hnil] at hroot <;> cases hroot

theorem trim_eq (h : Sendable scpi) : Text.trim scpi.toList = scpi.toList := by
  refine Text.trim_eq_self (fun c hc => ?_) h.endsOutside
  rcases h.root with hroot | hroot <;> rw [hroot, Option.some.injEq] at hc <;> rw [← hc] <;> rfl

theorem isLine (h : Sendable scpi) : Text.IsLine scpi.toList := by
  refine ⟨h.not_feed, fun hreturn => ?_⟩
  have hblank := h.endsOutside _ hreturn
  exact absurd hblank (by decide)

end Sendable

/-- A trimmed text on one line is sent as such a command. -/
theorem sendable_normalized {scpi : String} (hne : scpi.toList ≠ []) (hfeed : '\n' ∉ scpi.toList)
    (htrim : Text.trim scpi.toList = scpi.toList) : Sendable (normalized scpi) := by
  have hend : Text.EndsOutside Text.isBlank scpi.toList := htrim ▸ Text.endsOutside_trim _
  unfold normalized
  split
  · next rest hlist => exact ⟨.inl (by rw [hlist]; rfl), hend, hfeed⟩
  · next rest hlist => exact ⟨.inr (by rw [hlist]; rfl), hend, hfeed⟩
  · refine ⟨.inl ?_, ?_, ?_⟩ <;> rw [String.toList_ofList]
    · rfl
    · exact Text.EndsOutside.append_left (s := [':']) hend hne
    · simpa using hfeed

theorem toList_exportText {es : List Entry} (h : ∀ scpi ∈ typed es, Sendable scpi) :
    (exportText es .commandsOnly).toList = (typed es).flatMap fun scpi => scpi.toList ++ ['\n'] := by
  change (if (Text.joinLines (typed es)).isEmpty then Text.joinLines (typed es)
    else Text.joinLines (typed es) ++ "\n").toList = _
  cases hlines : typed es with
  | nil => rfl
  | cons scpi rest =>
    have htoList := Text.toList_joinLines_append_feed (List.cons_ne_nil scpi rest)
    rw [if_neg, htoList]
    -- A text with a command in it is not empty.
    intro hempty
    rw [String.isEmpty_iff.1 hempty, List.flatMap_cons, List.append_assoc] at htoList
    have hsendable := h scpi (hlines ▸ List.mem_cons_self)
    rcases hsendable.root with hroot | hroot <;>
      obtain ⟨more, hlist⟩ := List.head?_eq_some_iff.1 hroot <;>
      rw [hlist] at htoList <;> cases htoList

/-- The lines of an export are the commands in it. -/
theorem lines_exportText {es : List Entry} (h : ∀ scpi ∈ typed es, Sendable scpi) (origin : Origin) :
    (Script.mk (exportText es .commandsOnly) origin).lines = typed es := by
  have hparts : ∀ part ∈ (typed es).map String.toList, Text.IsLine part := by
    intro part hpart
    obtain ⟨scpi, hscpi, rfl⟩ := List.mem_map.1 hpart
    exact (h scpi hscpi).isLine
  have hlines := Text.lines_flatMap hparts
  rw [List.flatMap_map] at hlines
  have htrim : ((typed es).map String.toList).map Text.trim = (typed es).map String.toList := by
    rw [List.map_map]
    exact List.map_congr_left fun scpi hscpi => (h scpi hscpi).trim_eq
  have hsome : ((typed es).map String.toList).filter (fun line => !line.isEmpty) =
      (typed es).map String.toList := by
    refine List.filter_eq_self.2 fun part hpart => ?_
    obtain ⟨scpi, hscpi, rfl⟩ := List.mem_map.1 hpart
    simpa using (h scpi hscpi).ne_nil
  unfold Script.lines
  rw [toList_exportText h, hlines, htrim, hsome, List.map_map]
  exact (List.map_congr_left fun scpi _ => String.ofList_toList).trans (List.map_id _)

/-! ## Jobs, one after another -/

/-- Jobs are done one after another. -/
def workOff : List Job → Act Session Unit
  | [] => pure ()
  | job :: rest => do
    let _ ← job.act
    workOff rest

/-- What each job asked of the server. -/
def askedBy (o : Oracle) : List Job → Session → Record → List (Job × List Request)
  | [], _, _ => []
  | job :: rest, s, record =>
    let ended := job.act.alone o s record
    (job, (requests ended.2).drop (requests record).length) :: askedBy o rest ended.1.1 ended.2

/-- What was asked for the commands that the log of a mode shows: those of the console, or those of the
last run, which cleared the log when it began. -/
def sentIn (mode : Mode) (asked : List (Job × List Request)) : List Request :=
  match mode with
  | .interactive => (asked.filter (·.1.mode = .interactive)).flatMap Prod.snd
  | .script => ((asked.filter (·.1.mode = .script)).getLast?.map Prod.snd).getD []

/-- The account after a job that sent some commands. -/
def Account.after (a : Account) (job : Job) (scpis : List String) : Account :=
  match job with
  | .command _ => a.add .interactive scpis
  | .run _ => a.withTyped .script scpis

theorem sendable_withTyped {a : Account} (mode : Mode) {scpis : List String}
    (h : ∀ m, ∀ scpi ∈ a.typed m, Sendable scpi) (hscpis : ∀ scpi ∈ scpis, Sendable scpi) (m : Mode) :
    ∀ scpi ∈ (a.withTyped mode scpis).typed m, Sendable scpi := by
  by_cases hm : m = mode
  · subst hm
    rwa [Account.typed_withTyped]
  · rw [Account.typed_withTyped_of_ne hm]
    exact h m

theorem sendable_after {a : Account} (job : Job) {scpis : List String}
    (h : ∀ m, ∀ scpi ∈ a.typed m, Sendable scpi) (hscpis : ∀ scpi ∈ scpis, Sendable scpi) (m : Mode) :
    ∀ scpi ∈ (a.after job scpis).typed m, Sendable scpi := by
  cases job with
  | command text =>
    exact sendable_withTyped .interactive h (List.forall_mem_append.2 ⟨h .interactive, hscpis⟩) m
  | run script => exact sendable_withTyped .script h hscpis m

/-- All that a job on an idle session comes to. -/
theorem alone_job_account (job : Job) {s : Session} (hidle : s.busy = false)
    (hfeed : ∀ text, job = .command text → '\n' ∉ text.toList) (record : Record) :
    let ended := job.act.alone o s record
    ∃ scpis, (∀ scpi ∈ scpis, Sendable scpi) ∧ ended.1.1.busy = false ∧
      ended.1.1.account = s.account.after job scpis ∧
      requests ended.2 = requests record ++ scpis.map (.send · s.connection) := by
  cases job with
  | command text =>
    rw [Job.act_eq]
    split
    · next hvoid =>
      rw [Act.alone_pure]
      exact ⟨[], List.forall_mem_nil _, hidle, Account.add_nil.symm, (List.append_nil _).symm⟩
    · next hvoid =>
      rw [Act.alone_bind, alone_guarded_of_idle _ o hidle, Act.alone_pure, Job.work]
      obtain ⟨haccount, hrequests⟩ := (sends_sendCommand (o := o) (Text.trimmed text)).bind_leavesAccount
        (fun outcome => leavesAccount_pure (Ending.sent outcome)) s.held record
      refine ⟨[normalized (Text.trimmed text)], ?_, rfl, haccount, hrequests⟩
      refine List.forall_mem_singleton.2 (sendable_normalized (fun hnil => hvoid ?_) (fun hmem => ?_) ?_)
      · rw [Job.isVoid, String.toList_eq_nil_iff.1 hnil]
        rfl
      · rw [Text.toList_trimmed] at hmem
        exact hfeed text rfl (Text.mem_of_mem_trim hmem)
      · rw [Text.toList_trimmed]
        exact Text.trim_trim _
  | run script =>
    rw [Job.act, Act.alone_bind, Act.alone_pure]
    obtain ⟨n, -, -, hbusy, haccount, hrequests⟩ := alone_runScript_account (o := o) script hidle record
    refine ⟨_, fun scpi hscpi => ?_, hbusy, haccount, hrequests⟩
    obtain ⟨line, hline, rfl⟩ := List.mem_map.1 hscpi
    obtain ⟨hne, hnot, htrim⟩ := Script.mem_lines (List.mem_of_mem_take hline)
    exact sendable_normalized hne hnot htrim

theorem askedBy_cons {job : Job} {s : Session} {record : Record} {rs : List Request}
    (h : requests (job.act.alone o s record).2 = requests record ++ rs) (rest : List Job) :
    askedBy o (job :: rest) s record = (job, rs) ::
      askedBy o rest (job.act.alone o s record).1.1 (job.act.alone o s record).2 := by
  rw [askedBy, h, List.drop_left]

/-- The commands that the log of a mode shows, as they were asked of the server. -/
def asLogged (s : Session) (mode : Mode) : List Request :=
  (s.account.typed mode).map (.send · s.connection)

theorem asLogged_of_account {s t : Session} {job : Job} {scpis : List String} (mode : Mode)
    (h : t.account = s.account.after job scpis) :
    t.asLogged mode =
      ((s.account.after job scpis).typed mode).map (.send · s.connection) := by
  have hconnection : t.connection = s.connection := by
    cases job <;> exact congrArg Account.connection h
  rw [asLogged, h, hconnection]

/-- What the logs show in the end, and what was asked until then. -/
structure Tallies (s : Session) (record : Record) (asked : List (Job × List Request)) (t : Session)
    (record' : Record) : Prop where
  connection : t.connection = s.connection
  sendable : ∀ mode, ∀ scpi ∈ t.account.typed mode, Sendable scpi
  interactive : t.asLogged .interactive = s.asLogged .interactive ++ sentIn .interactive asked
  script : t.asLogged .script =
    ((asked.filter (·.1.mode = .script)).getLast?.map Prod.snd).getD (s.asLogged .script)
  requests : requests record' = requests record ++ asked.flatMap Prod.snd

section

variable {s t u : Session} {record record' record'' : Record} {asked : List (Job × List Request)}
  {job : Job} {scpis : List String}

theorem tallies_nil (h : ∀ mode, ∀ scpi ∈ s.account.typed mode, Sendable scpi) :
    Tallies s record [] s record where
  connection := rfl
  sendable := h
  interactive := (List.append_nil _).symm
  script := rfl
  requests := (List.append_nil _).symm

theorem Tallies.cons (haccount : t.account = s.account.after job scpis)
    (hrequests : Session.requests record' = Session.requests record ++ scpis.map (.send · s.connection))
    (h : Tallies t record' asked u record'') :
    Tallies s record ((job, scpis.map (.send · s.connection)) :: asked) u record'' := by
  have hshown (mode : Mode) := asLogged_of_account mode haccount
  have hconnection : t.connection = s.connection := by
    cases job <;> exact congrArg Account.connection haccount
  have hinteractive := h.interactive
  have hscript := h.script
  rw [hshown] at hinteractive hscript
  refine ⟨h.connection.trans hconnection, h.sendable, ?_, ?_, ?_⟩
  · rw [hinteractive]
    cases job with
    | command text =>
      have hsent : sentIn .interactive ((.command text, scpis.map (.send · s.connection)) :: asked) =
          scpis.map (.send · s.connection) ++ sentIn .interactive asked := rfl
      rw [Account.after, Account.add, Account.typed_withTyped, List.map_append, hsent, List.append_assoc]
      rfl
    | run script =>
      rw [Account.after, Account.typed_withTyped_of_ne (by decide)]
      rfl
  · rw [hscript]
    cases job with
    | command text =>
      rw [Account.after, Account.add, Account.typed_withTyped_of_ne (by decide)]
      rfl
    | run script =>
      rw [Account.after, Account.typed_withTyped]
      change _ = (Option.map Prod.snd (List.getLast? ((_, _) :: asked.filter (·.1.mode = .script)))).getD _
      rw [List.getLast?_cons]
      cases (asked.filter (·.1.mode = .script)).getLast? <;> rfl
  · rw [h.requests, hrequests, List.flatMap_cons, List.append_assoc]

/-- What jobs on an idle session come to. -/
theorem tallies_workOff (jobs : List Job) (hidle : s.busy = false)
    (hsendable : ∀ mode, ∀ scpi ∈ s.account.typed mode, Sendable scpi)
    (hfeed : ∀ text, Job.command text ∈ jobs → '\n' ∉ text.toList) :
    Tallies s record (askedBy o jobs s record) ((workOff jobs).alone o s record).1.1
      ((workOff jobs).alone o s record).2 := by
  induction jobs generalizing s record with
  | nil =>
    rw [workOff, Act.alone_pure]
    exact tallies_nil hsendable
  | cons job rest ih =>
    have hfeed' : ∀ text, job = .command text → '\n' ∉ text.toList :=
      fun text hjob => hfeed text (hjob ▸ List.mem_cons_self)
    obtain ⟨scpis, hscpis, hidle', haccount, hrequests⟩ :=
      alone_job_account (o := o) job hidle hfeed' record
    rw [askedBy_cons hrequests, workOff, Act.alone_bind]
    have hsendable' : ∀ mode, ∀ scpi ∈ (job.act.alone o s record).1.1.account.typed mode,
        Sendable scpi := by
      rw [haccount]
      exact sendable_after job hsendable hscpis
    exact Tallies.cons haccount hrequests
      (ih hidle' hsendable' fun text hmem => hfeed text (List.mem_cons_of_mem _ hmem))

end

/-- **Replay.** On an idle session with empty logs commands are sent and scripts are run, one after another,
whatever comes back. No text that is sent at the console contains a line feed. Then the commands that the
export of a log holds are those that went out in its mode, one on each line: all those of the console, or
those of the last run. Errors that the instrument reported are not among them. Run as a script to its end,
over the same connection, the export asks the server for the same again. -/
theorem export_replays (jobs : List Job) (o : Oracle) {s : Session} (hidle : s.busy = false)
    (hempty : ∀ mode, (s.logOf mode).entries = [])
    (hfeed : ∀ text, Job.command text ∈ jobs → '\n' ∉ text.toList) :
    let ended := (workOff jobs).alone o s []
    let asked := askedBy o jobs s []
    requests ended.2 = asked.flatMap Prod.snd ∧
    ∀ mode origin,
      let script : Script := ⟨exportText (ended.1.1.logOf mode).entries .commandsOnly, origin⟩
      sentIn mode asked = script.lines.map (.send · s.connection) ∧
      ∀ (o' : Oracle) (t : Session), t.busy = false → t.connection = s.connection → Patient o' →
        requests ((runScript script).alone o' t []).2 = sentIn mode asked := by
  intro ended asked
  have hnone : ∀ mode, s.account.typed mode = [] := fun mode => congrArg typed (hempty mode)
  have h : Tallies s [] asked ended.1.1 ended.2 := by
    refine tallies_workOff jobs hidle (fun mode scpi hmem => ?_) hfeed
    rw [hnone] at hmem
    cases hmem
  clear_value ended asked
  have hsent : ∀ mode, ended.1.1.asLogged mode = sentIn mode asked := by
    intro mode
    cases mode with
    | interactive =>
      rw [h.interactive, asLogged, hnone]
      rfl
    | script =>
      rw [h.script, asLogged, hnone]
      rfl
  refine ⟨h.requests, fun mode origin => ?_⟩
  intro script
  have hlines : script.lines = ended.1.1.account.typed mode := lines_exportText (h.sendable mode) origin
  have hscript : sentIn mode asked = script.lines.map (.send · s.connection) := by
    rw [hlines, ← hsent, asLogged, h.connection]
  refine ⟨hscript, fun o' t hidle' hconnection hpatient => ?_⟩
  obtain ⟨n, -, hall, -, -, hrequests⟩ := alone_runScript_account (o := o') script hidle' []
  have hnormalized : script.lines.map normalized = script.lines := by
    refine (List.map_congr_left fun line hline => ?_).trans (List.map_id _)
    exact (h.sendable mode line (hlines ▸ hline)).normalized_eq
  have hnone : requests [] = [] := rfl
  rw [hrequests, hall hpatient, List.take_length, hnormalized, hconnection, hscript, hnone,
    List.nil_append]

/-- The operator sends two commands and runs a script in between, which is stopped behind its first line. -/
def workday : List Job :=
  [.command " OUTP ON ", .run ⟨"*RST\r\nMEAS:VOLT?", .file⟩, .command ":", .command "SYST:ERR?"]

/-- The instrument complains about the first command. -/
@[irreducible]
def workdayEnd : (Session × Unit) × Record :=
  (workOff workday).alone (scripted [{ errors := ["-113"] }] 2) {} []

/-- Answers for closed instances, of an operator who lets everything run. -/
def unhurried : Oracle := fun record e =>
  match e with
  | .cancelled => false
  | e => scripted [] 0 record e

theorem workday_replays :
    (({} : Session).busy = false ∧ (∀ mode, (({} : Session).logOf mode).entries = []) ∧
      (∀ text, Job.command text ∈ workday → '\n' ∉ text.toList) ∧ Patient unhurried) ∧
    let script : Script := ⟨exportText workdayEnd.1.1.log.entries .commandsOnly, .file⟩
    workdayEnd.1.1.log.entries.length = 3 ∧ script.source = ":OUTP ON\n:SYST:ERR?\n" ∧
      exportText workdayEnd.1.1.scriptLog.entries .commandsOnly = "*RST\n" ∧
      requests ((runScript script).alone unhurried {} []).2 =
        [.send ":OUTP ON" {}, .send ":SYST:ERR?" {}] := by
  have hempty : ∀ mode, (({} : Session).logOf mode).entries = [] := by
    intro mode
    cases mode <;> rfl
  have hfeed : ∀ text, Job.command text ∈ workday → '\n' ∉ text.toList := by
    intro text htext
    simp only [workday, List.mem_cons, Job.command.injEq, reduceCtorEq, List.not_mem_nil, false_or,
      or_false] at htext
    rcases htext with rfl | rfl | rfl <;> decide
  have hpatient : Patient unhurried := fun _ => rfl
  have hreplays := export_replays workday (scripted [{ errors := ["-113"] }] 2) (s := {}) rfl hempty hfeed
  rw [← workdayEnd] at hreplays
  obtain ⟨hlines, hagain⟩ := hreplays.2 .interactive .file
  have hrequests := (hagain unhurried {} rfl rfl hpatient).trans hlines
  have hsource : exportText workdayEnd.1.1.log.entries .commandsOnly = ":OUTP ON\n:SYST:ERR?\n" := by
    decide +kernel
  have hscript : (Script.mk (exportText workdayEnd.1.1.log.entries .commandsOnly) .file).lines =
      [":OUTP ON", ":SYST:ERR?"] := by
    rw [hsource]
    decide +kernel
  refine ⟨⟨rfl, hempty, hfeed, hpatient⟩, by decide +kernel, hsource, by decide +kernel, ?_⟩
  exact hrequests.trans (congrArg (List.map _) hscript)

end ScpiConsole.Session
