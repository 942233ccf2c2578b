import Mathlib.Data.List.TakeWhile
import ScpiConsole.Program
import ScpiConsole.Proofs.Act.Waits
import ScpiConsole.Proofs.Prompt.Events
import ScpiConsole.Proofs.Session.ScriptRun
/-!
# Watching a run

A watcher shows the log of a run while it grows. It sees some of the states that the run publishes, and
all that it remembers from one to the next is how many entries it has shown.

* `shown` : the entries that are shown, given the states of the log that are seen
* `shown_eq_of_grows` : of a growing log every entry is shown once, in its last form
* `watch`, `watch_eq_of_grows` : the watcher of the program, over states of the session
* `published` : the states of the session in which a run publishes its log
* `Publishes` : an act publishes every state of the log; one rule for each way to make an act
* `Shows`, `shows_sendScript` : what the program has shown while it runs a script
* `watcher_shows_final_log` : whatever a watcher misses, it has shown the final log in the end
-/

namespace ScpiConsole.Session

open Prompt (written printed printed_append)

/-! ## Shown entries -/

/-- The entries that are shown of some states of a log, when the first `n` were shown before. Of each
state those that are settled by then are shown, up to the first one in flight. -/
def shown : Nat → List (List Entry) → List Entry
  | _, [] => []
  | n, es :: rest => settledPart es n ++ shown (n + (settledPart es n).length) rest

/-- What is settled stays as it is. -/
theorem Grows.take_eq {es es' : List Entry} (h : Grows es es') {k : Nat} (hk : k ≤ es.length)
    (hsettled : ∀ e ∈ es.take k, e.isPending = false) : es'.take k = es.take k := by
  induction h generalizing k with
  | nil new =>
    obtain rfl : k = 0 := Nat.le_zero.1 hk
    rfl
  | @cons e e' es es' hlead _ ih =>
    cases k with
    | zero => rfl
    | succ k =>
      rw [List.take_succ_cons] at hsettled
      obtain ⟨he, hsettled⟩ := List.forall_mem_cons.1 hsettled
      have heq : e' = e := by
        rcases hlead with rfl | ⟨hpending, -⟩
        · rfl
        · rw [hpending] at he
          cases he
      rw [List.take_succ_cons, List.take_succ_cons, heq, ih (Nat.le_of_succ_le_succ hk) hsettled]

theorem isPending_of_mem_settledPart {es : List Entry} {n : Nat} :
    ∀ e ∈ settledPart es n, e.isPending = false := by
  intro e he
  have h := List.all_eq_true.1 List.all_takeWhile e he
  simpa using h

/-- The entries shown so far are the first ones of each state to come, and so they stay. -/
theorem append_shown_of_grows {final : List Entry} (hfinal : ∀ e ∈ final, e.isPending = false)
    (seen : List (List Entry)) (hgrows : (seen ++ [final]).Pairwise Grows) {before : List Entry}
    (hbefore : ∀ es ∈ seen ++ [final], before <+: es)
    (hsettled : ∀ e ∈ before, e.isPending = false) :
    before ++ shown before.length (seen ++ [final]) = final := by
  induction seen generalizing before with
  | nil =>
    obtain ⟨rest, rfl⟩ := hbefore final (by simp)
    have hrest : ∀ e ∈ rest, (!e.isPending) = true := fun e he => by
      simp [hfinal e (List.mem_append_right _ he)]
    simp [shown, settledPart, List.takeWhile_eq_self_iff.2 hrest]
  | cons es seen ih =>
    rw [List.cons_append] at hgrows hbefore
    obtain ⟨hlater, hchain⟩ := List.pairwise_cons.1 hgrows
    obtain ⟨rest, rfl⟩ := hbefore es List.mem_cons_self
    have hpart : settledPart (before ++ rest) before.length <+: rest := by
      rw [settledPart, List.drop_left]
      exact List.takeWhile_prefix _
    have hpending : ∀ e ∈ settledPart (before ++ rest) before.length, e.isPending = false :=
      isPending_of_mem_settledPart
    rw [List.cons_append, shown]
    generalize settledPart (before ++ rest) before.length = part at hpart hpending ⊢
    obtain ⟨unsettled, rfl⟩ := hpart
    have hall : ∀ e ∈ before ++ part, e.isPending = false :=
      List.forall_mem_append.2 ⟨hsettled, hpending⟩
    -- What this state shows is settled, so every later state begins with it.
    have hnext : ∀ es' ∈ seen ++ [final], before ++ part <+: es' := by
      intro es' hes'
      have hgrow := hlater es' hes'
      rw [← List.append_assoc] at hgrow
      have htake : (before ++ part ++ unsettled).take (before ++ part).length = before ++ part :=
        List.take_left
      have hkeep := hgrow.take_eq (k := (before ++ part).length) (by simp) (htake.symm ▸ hall)
      rw [htake] at hkeep
      exact hkeep ▸ List.take_prefix _ es'
    have hrest := ih hchain hnext hall
    rwa [List.length_append, List.append_assoc] at hrest

/-- Of a log that only grows every entry is shown once, in its last form. -/
theorem shown_eq_of_grows {final : List Entry} (hfinal : ∀ e ∈ final, e.isPending = false)
    {seen : List (List Entry)} (hgrows : (seen ++ [final]).Pairwise Grows) :
    shown 0 (seen ++ [final]) = final :=
  append_shown_of_grows hfinal seen hgrows (fun _ _ => List.nil_prefix) (List.forall_mem_nil _)

/-! ## The watcher -/

section

variable {o : Oracle}

/-- The line of an entry. -/
def lineOf (showDate : Bool) (e : Entry) : String := e.displayLine showDate ++ "\n"

theorem alone_sayAll (lines : List String) (s : Session) (record : Record) :
    (Act.sayAll lines).alone o s record =
      ((s, ()), record ++ (lines.map (· ++ "\n")).map written) := by
  induction lines generalizing record with
  | nil =>
    rw [Act.sayAll, Act.alone_pure, List.map_nil, List.map_nil, List.append_nil]
  | cons line rest ih =>
    rw [Act.sayAll, Act.alone_bind, Act.say, Act.alone_perform, ih, List.append_assoc]
    rfl

/-- It shows what is settled, and counts that. -/
theorem alone_showSettled (n : Nat) (s : Session) (record : Record) :
    let part := settledPart s.scriptLog.entries n
    (Program.showSettled n).alone o s record =
      ((s, n + part.length), record ++ (part.map (lineOf s.preferences.showDate)).map written) := by
  intro part
  have hlines : (part.map fun e => e.displayLine s.preferences.showDate).map (· ++ "\n") =
      part.map (lineOf s.preferences.showDate) := List.map_map
  rw [Program.showSettled, Act.alone_get_bind, Act.alone_bind, Act.alone_pure, Shell.sayEntries,
    alone_sayAll, hlines]

/-- The watcher of the program looks at states of the session, one after another: what it has counted in
the end, and the record. -/
def watch (o : Oracle) : Nat → List Session → Record → Nat × Record
  | n, [], record => (n, record)
  | n, s :: rest, record =>
    let looked := (Program.showSettled n).alone o s record
    watch o looked.1.2 rest looked.2

theorem alone_showSettled_of_shown {n : Nat} {s : Session} (h : n = s.scriptLog.entries.length)
    (record : Record) :
    (Program.showSettled n).alone o s record = ((s, n), record) := by
  have hlooked := alone_showSettled (o := o) n s record
  rw [settledPart, h, List.drop_length, List.takeWhile_nil] at hlooked
  rw [h, hlooked]
  simp

theorem watch_eq {showDate : Bool} {states : List Session}
    (h : ∀ s ∈ states, s.preferences.showDate = showDate) (n : Nat) (record : Record) :
    let entries := shown n (states.map fun s => s.scriptLog.entries)
    watch o n states record =
      (n + entries.length, record ++ (entries.map (lineOf showDate)).map written) := by
  induction states generalizing n record with
  | nil => simp [watch, shown]
  | cons s rest ih =>
    obtain ⟨hs, hrest⟩ := List.forall_mem_cons.1 h
    intro entries
    rw [watch, alone_showSettled, ih hrest, hs, List.append_assoc, ← List.map_append, ← List.map_append,
      Nat.add_assoc, ← List.length_append]
    rfl

/-- Of a log that only grows the watcher writes every line of its last state. -/
theorem watch_eq_of_grows (o : Oracle) {showDate : Bool} {seen : List Session} {final : Session}
    (hstates : ∀ s ∈ seen ++ [final], s.preferences.showDate = showDate)
    (hsettled : ∀ e ∈ final.scriptLog.entries, e.isPending = false)
    (hgrows : ((seen.map fun t => t.scriptLog.entries) ++ [final.scriptLog.entries]).Pairwise Grows)
    (record : Record) :
    watch o 0 (seen ++ [final]) record = (final.scriptLog.entries.length,
      record ++ (final.scriptLog.entries.map (lineOf showDate)).map written) := by
  rw [watch_eq hstates, List.map_append, List.map_singleton, shown_eq_of_grows hsettled hgrows,
    Nat.zero_add]

end

/-! ## What is published -/

/-- The log of a mode is stored. -/
def storesLog (mode : Mode) : Effect → Bool
  | .save slot _ => slot = mode.slot
  | _ => false

/-- The states in which the log of a mode was published. Each of them is stored at once. -/
def published (mode : Mode) (waits : List (Session × Effect)) : List Session :=
  (waits.filter fun w => storesLog mode w.2).map Prod.fst

theorem published_append (mode : Mode) (waits waits' : List (Session × Effect)) :
    published mode (waits ++ waits') = published mode waits ++ published mode waits' := by
  simp [published]

theorem published_sublist (mode : Mode) (waits : List (Session × Effect)) :
    (published mode waits).Sublist (waits.map Prod.fst) := List.filter_sublist.map _

/-- No state of the script log goes by without being published: each makes one revision. -/
def Publishes {α : Type} (x : Act Session α) : Prop :=
  ∀ (o : Oracle) (s : Session) (record : Record), (x.alone o s record).1.1.scriptLog.revision =
    s.scriptLog.revision + (published .script (x.waits o s record)).length

section

variable {α β : Type}

theorem Publishes.bind {x : Act Session α} {f : α → Act Session β} (hx : Publishes x)
    (hf : ∀ a, Publishes (f a)) : Publishes (x >>= f) := by
  intro o s record
  rw [Act.alone_bind, Act.waits_bind, published_append, List.length_append, hf, hx]
  omega

theorem publishes_pure (a : α) : Publishes (pure a) := fun o s record => by
  simp [published]

theorem publishes_get_bind {f : Session → Act Session β} (h : ∀ s, Publishes (f s)) :
    Publishes (get >>= f) := by
  intro o s record
  rw [Act.alone_get_bind, Act.waits_get_bind]
  exact h s o s record

theorem publishes_modify {f : Session → Session}
    (h : ∀ s, (f s).scriptLog.revision = s.scriptLog.revision) : Publishes (modify f) := by
  intro o s record
  simp [published, h]

theorem publishes_perform {e : Effect} (h : storesLog .script e = false) :
    Publishes (Act.perform e) := by
  intro o s record
  simp [published, h]

theorem publishes_newId : Publishes newId := by
  intro o s record
  rw [Act.alone_apply, Act.waits_apply]
  rfl

theorem publishes_changeLog {change : Log → Log}
    (h : ∀ log, (change log).revision = log.revision + 1) :
    Publishes (changeLog .script change) := by
  intro o s record
  have hstate : ((changeLog .script change).alone o s record).1.1 =
      s.setLog .script (change s.scriptLog) := by
    rw [Act.alone_apply]
    rfl
  have hwaits : ∃ value, (changeLog .script change).waits o s record =
      [(s.setLog .script (change s.scriptLog), .save .scriptLog value)] := by
    rw [Act.waits_apply]
    exact ⟨_, rfl⟩
  obtain ⟨value, hwaits⟩ := hwaits
  rw [hstate, hwaits]
  exact h s.scriptLog

theorem publishes_notify (n : Notification) : Publishes (notify n) := publishes_modify fun _ => rfl

theorem publishes_newEntry (scpi : String) : Publishes (newEntry scpi) :=
  publishes_newId.bind fun _ => (publishes_perform rfl).bind fun _ => publishes_pure _

theorem publishes_newErrors (errors : List String) : Publishes (newErrors errors) := by
  induction errors with
  | nil => exact publishes_pure []
  | cons error rest ih =>
    exact publishes_newId.bind fun _ => (publishes_perform rfl).bind fun _ => ih.bind fun _ =>
      publishes_pure _

theorem publishes_addErrors (id : EntryId) (errors : List String) :
    Publishes (addErrors .script id errors) := by
  refine (publishes_newErrors errors).bind fun entries => ?_
  split
  · exact publishes_pure _
  · next hsome =>
    refine publishes_changeLog fun log => ?_
    rw [Log.insertAfter, if_neg hsome]
    rfl

theorem publishes_conclude (id : EntryId) (scpi : String) (elapsed : Elapsed)
    (answer : Except ServerError Reply) : Publishes (conclude .script id scpi elapsed answer) := by
  have hsettle (response : String) (isServerError : Bool) :
      Publishes (settle .script id response isServerError elapsed) := publishes_changeLog fun _ => rfl
  cases answer with
  | ok reply =>
    exact (hsettle _ _).bind fun _ => (publishes_addErrors id _).bind fun _ => publishes_pure _
  | error e => exact (hsettle _ _).bind fun _ => (publishes_notify _).bind fun _ => publishes_pure _

theorem publishes_dispatch (scpi : String) : Publishes (dispatch .script scpi) := by
  refine publishes_get_bind fun s => ?_
  refine ((publishes_newEntry _).bind fun e => ?_).bind fun e => ?_
  · exact (publishes_changeLog fun _ => rfl).bind fun _ => publishes_pure e
  refine (publishes_perform rfl).bind fun start => (publishes_perform rfl).bind fun answer => ?_
  exact (publishes_perform rfl).bind fun stop => publishes_conclude _ _ _ answer

theorem publishes_sayAll (lines : List String) : Publishes (Act.sayAll lines) := by
  induction lines with
  | nil => exact publishes_pure _
  | cons line rest ih => exact (publishes_perform rfl).bind fun _ => ih

theorem publishes_showSettled (n : Nat) : Publishes (Program.showSettled n) :=
  publishes_get_bind fun _ => (publishes_sayAll _).bind fun _ => publishes_pure _

section

variable {watcher : β → Act Session β} (hwatcher : ∀ b, Publishes (watcher b))

include hwatcher

theorem publishes_sendLines (total : Nat) (lines : List String) (b : β) (tally : Tally) :
    Publishes (sendLines watcher total b tally lines) := by
  induction lines generalizing b tally with
  | nil => exact publishes_pure _
  | cons line rest ih =>
    refine (publishes_perform rfl).bind fun stop => ?_
    cases stop with
    | true => exact publishes_pure _
    | false =>
      refine (publishes_dispatch line).bind fun outcome => (publishes_modify ?_).bind fun _ => ?_
      · exact fun _ => rfl
      · exact (hwatcher b).bind fun _ => ih _ _

theorem publishes_sendScript (b : β) (script : Script) : Publishes (sendScript watcher b script) := by
  have hclose (r : Report) : Publishes (closeRun r) := by
    refine (publishes_modify ?_).bind fun _ => ?_
    · exact fun _ => rfl
    split
    · exact publishes_notify _
    · exact publishes_pure _
  refine (publishes_changeLog fun _ => rfl).bind fun _ => ?_
  rw [workThrough]
  refine (publishes_modify ?_).bind fun _ => (publishes_sendLines hwatcher _ _ _ _).bind fun _ => ?_
  · exact fun _ => rfl
  · exact (hclose _).bind fun _ => publishes_pure _

end

end

/-! ## Runs that the program watches -/

section

variable {o : Oracle} {b : Books} {p : Page} {s : Session} {record : Record} {n : Nat}

theorem watches_showSettled : Watches b Program.showSettled := by
  have hsay (p : Page) (hp : p.Closed) (lines : List String) :
      Act.Meets (terms b .script) (Stands b .script p 0) (Act.sayAll lines) fun record s _ =>
        Stands b .script p 0 record s := by
    induction lines with
    | nil => exact Act.meets_pure _ fun _ _ _ h => h
    | cons line rest ih => exact (meets_perform_plain (fun _ => rfl) rfl hp.inHand).bind fun _ => ih
  intro shown p hp
  refine Act.meets_get_bind_of_forall fun s => (hsay p hp _).bind fun _ => ?_
  exact Act.meets_pure _ fun _ _ _ h => h

theorem leavesFace_showSettled (n : Nat) : LeavesFace (Program.showSettled n) := by
  have hsay (lines : List String) : LeavesFace (Act.sayAll lines) := by
    induction lines with
    | nil => exact leavesFace_pure _
    | cons line rest ih => exact (leavesFace_perform _).bind fun _ => ih
  exact fun P => Act.keeps_get_bind fun s hs => (hsay _).bind (fun _ => leavesFace_pure _) P s hs

/-- The page is on the screen, as far as the log of a run is concerned. -/
structure Shows (p : Page) (showDate : Bool) (n : Nat) (record : Record) : Prop where
  count : n = p.entries.length
  printed : Prompt.printed record = p.entries.map (lineOf showDate)

theorem printed_of_unseen {α : Type} {x : Act Session α} (h : Unseen x) (s : Session) (record : Record) :
    printed (x.alone o s record).2 = printed record := by
  obtain ⟨more, hmore, hunseen⟩ := Act.Asks.alone (o := o) h s record
  have hnone : printed more = [] := by
    refine List.filterMap_eq_nil_iff.2 fun ⟨e, a⟩ hx => ?_
    have he := hunseen _ hx
    cases e <;> first | rfl | cases he
  rw [hmore, printed_append, hnone, List.append_nil]

theorem printed_map_written (texts : List String) : printed (texts.map written) = texts := by
  rw [printed, List.filterMap_map]
  exact List.filterMap_some

/-- The log shows the page and nothing else. -/
theorem Stands.scriptLog (h : Stands b .script p 0 record s) (hempty : b.logs .script = []) :
    s.scriptLog.entries = p.entries := by
  have hlogs := congrFun (congrArg Books.logs h.books) .script
  rw [b.logs_after, hempty, List.nil_append] at hlogs
  exact hlogs

/-- What comes onto the page behind a command is settled, and so it is shown. -/
theorem shows_showSettled (hempty : b.logs .script = []) {d : Delivery} {block : List Entry}
    (hblock : IsBlock d block) (hstands : Stands b .script (p.add d block) 0 record s)
    (hn : n = p.entries.length)
    (hprinted : printed record = p.entries.map (lineOf s.preferences.showDate)) :
    let looked := (Program.showSettled n).alone o s record
    Shows (p.add d block) s.preferences.showDate looked.1.2 looked.2 := by
  have hpart : settledPart s.scriptLog.entries n = block := by
    rw [hstands.scriptLog hempty, hn, settledPart, Page.add, List.drop_left]
    exact List.takeWhile_eq_self_iff.2 fun e he => by simp [hblock.isPending e he]
  intro looked
  have hlooked : looked = _ := alone_showSettled n s record
  rw [hlooked, hpart]
  refine ⟨?_, ?_⟩
  · rw [Page.add, List.length_append, hn]
  · rw [printed_append, hprinted, printed_map_written, Page.add, List.map_append]

/-- A question to the operator changes nothing of that. -/
theorem Shows.ask {showDate : Bool} (h : Shows p showDate n record) (stop : Bool) :
    Shows (p.ask stop) showDate n (record ++ [⟨.cancelled, stop⟩]) where
  count := h.count
  printed := by
    rw [printed_append, h.printed]
    exact List.append_nil _

/-- The log of a run after one more command, and what the watcher has shown by then. -/
theorem shows_line (hb : b.Fresh .script) (hempty : b.logs .script = []) (hp : p.Closed)
    (line : String) (progress : Progress) (hstands : Stands b .script p 0 record s)
    (hshows : Shows p s.preferences.showDate n record) :
    let sent := (dispatch .script line).alone o s record
    let looked := (Program.showSettled n).alone o { sent.1.1 with progress } sent.2
    (terms b .script).covers looked.2 →
    ∃ p', p'.Closed ∧ Stands b .script p' 0 looked.2 looked.1.1 ∧
      looked.1.1.preferences = s.preferences ∧ Shows p' s.preferences.showDate looked.1.2 looked.2 := by
  intro sent looked hcovers
  have hsent : (terms b .script).covers sent.2 := Act.covers_of_alone hcovers
  obtain ⟨d, -, block, hblock, -, hdelivered⟩ := (meets_dispatch hp hb line).alone hstands hsent
  have hclosed := hp.add hblock
  have hpreferences : sent.1.1.preferences = s.preferences :=
    Act.Keeps.alone (leavesFace_dispatch .script line fun f => f.preferences = s.preferences) rfl record
  have hprinted : printed sent.2 = p.entries.map (lineOf sent.1.1.preferences.showDate) := by
    rw [hpreferences, ← hshows.printed]
    exact printed_of_unseen (unseen_dispatch .script line) s record
  have hcounted : Stands b .script (p.add d block) 0 sent.2 { sent.1.1 with progress } :=
    hdelivered.of_books rfl
  have hlooked := (watches_showSettled n _ hclosed).alone hcounted hcovers
  have hstate : looked.1.1 = { sent.1.1 with progress } :=
    congrArg (·.1.1) (alone_showSettled n { sent.1.1 with progress } sent.2)
  refine ⟨_, hclosed, hlooked, ?_, ?_⟩
  · rw [hstate]
    exact hpreferences
  · rw [← hpreferences]
    exact shows_showSettled hempty hblock hcounted hshows.count hprinted

theorem alone_sendLines_cons {β : Type} (watcher : β → Act Session β) (total : Nat) (x : β)
    (tally : Tally) (line : String) (rest : List String) (s : Session) (record : Record) :
    let asked := record ++ [⟨.cancelled, o record .cancelled⟩]
    let sent := (dispatch .script line).alone o s asked
    let count : Tally :=
      ⟨tally.dispatched + 1, if sent.1.2.isServerError then tally.failed + 1 else tally.failed⟩
    let looked := (watcher x).alone o { sent.1.1 with progress := ⟨count.dispatched, total⟩ } sent.2
    (sendLines watcher total x tally (line :: rest)).alone o s record =
      if o record .cancelled then ((s, tally, x), asked)
      else (sendLines watcher total looked.1.2 count rest).alone o looked.1.1 looked.2 := by
  intro asked sent count looked
  rw [sendLines, Act.alone_bind, Act.alone_perform]
  split
  · rw [Act.alone_pure]
  · rw [Act.alone_bind, Act.alone_bind, Act.alone_modify, Act.alone_bind]

/-- Whenever a command is settled, all of the log is on the screen. -/
theorem shows_sendLines (hb : b.Fresh .script) (hempty : b.logs .script = []) (total : Nat)
    (lines : List String) (hp : p.Closed) (tally : Tally) (hstands : Stands b .script p 0 record s)
    (hshows : Shows p s.preferences.showDate n record) :
    let ended := (sendLines Program.showSettled total n tally lines).alone o s record
    (terms b .script).covers ended.2 →
    ∃ p', Stands b .script p' 0 ended.2 ended.1.1 ∧
      Shows p' s.preferences.showDate ended.1.2.2 ended.2 := by
  induction lines generalizing p s n tally record with
  | nil =>
    rw [sendLines, Act.alone_pure]
    exact fun _ => ⟨p, hstands, hshows⟩
  | cons line rest ih =>
    intro ended hcovers
    have hended : ended = _ := alone_sendLines_cons Program.showSettled total n tally line rest s record
    have hchecked := (meets_check hp).alone (o := o) hstands
    rw [Act.alone_perform] at hchecked
    clear_value ended
    cases hstop : o record .cancelled with
    | true =>
      rw [hstop] at hended hchecked
      rw [if_pos rfl] at hended
      subst hended
      exact ⟨p.ask true, hchecked hcovers, hshows.ask true⟩
    | false =>
      rw [hstop] at hended hchecked
      rw [if_neg Bool.false_ne_true] at hended
      subst hended
      have hlooked := Act.covers_of_alone hcovers
      have hasked := hchecked (Act.covers_of_alone (Act.covers_of_alone hlooked))
      obtain ⟨p', hp', hstands', hpreferences, hshows'⟩ := shows_line hb hempty (hp.ask false) line _ hasked
        (hshows.ask false) hlooked
      rw [← hpreferences] at hshows' ⊢
      exact ih hp' _ hstands' hshows' hcovers

theorem unseen_closeRun (r : Report) : Unseen (closeRun r) := by
  refine (Act.asks_modify _).bind fun _ => ?_
  split
  · exact Act.asks_modify _
  · exact Act.asks_pure _

/-- At the end of a run all of its log is on the screen. -/
theorem shows_sendScript (script : Script) (hbusy : s.busy = true) :
    let ended := (sendScript Program.showSettled 0 script).alone o s []
    let entries := ended.1.1.scriptLog.entries
    s.ids.next.toNat + taken ended.2 ≤ UInt64.size →
    ended.1.2.2 = entries.length ∧ printed ended.2 = entries.map (lineOf s.preferences.showDate) := by
  intro ended entries hleft
  let stored := (remember .scriptLog s.emptied.scriptLog.toJson).alone o s.emptied []
  let begun : Session := { stored.1.1 with progress := .none, status := .running }
  let sent := (sendLines Program.showSettled script.lines.length 0 {} script.lines).alone o begun stored.2
  let closed := (closeRun (report script.lines.length sent.1.2.1)).alone o sent.1.1 sent.2
  have hended : ended = ((closed.1.1, (report script.lines.length sent.1.2.1, sent.1.2.2)), closed.2) := by
    change (sendScript _ _ _).alone o s [] = _
    rw [Act.alone_apply, sendScript_apply, ← Act.alone_apply, workThrough, Act.alone_bind, Act.alone_bind,
      Act.alone_modify, Act.alone_bind, Act.alone_bind, Act.alone_pure]
  have hentries : entries = closed.1.1.scriptLog.entries := congrArg (·.1.1.scriptLog.entries) hended
  rw [hended] at hleft ⊢
  rw [hentries]
  clear_value ended entries
  -- Each part of the run is covered, since the whole is.
  have hsent : (terms s.emptied.books .script).covers sent.2 := Act.covers_of_alone hleft
  have hstored : (terms s.emptied.books .script).covers stored.2 := Act.covers_of_alone hsent
  have hfresh : s.emptied.books.Fresh .script := fun e he => by cases he
  have hblank := closed_blank s.emptied.books
  have hremembered : Stands s.emptied.books .script s.emptied.books.blank 0 stored.2 stored.1.1 :=
    (meets_remember _ _ hblank.inHand).alone (stands_blank (s := s.emptied) hbusy .script) hstored
  have hbegun : Stands s.emptied.books .script s.emptied.books.blank 0 stored.2 begun :=
    hremembered.of_books rfl
  have hpreferences : begun.preferences = s.preferences :=
    Act.Keeps.alone (leavesFace_remember .scriptLog _ fun f => f.preferences = s.preferences)
      (s := s.emptied) rfl []
  have hnothing : Shows s.emptied.books.blank begun.preferences.showDate 0 stored.2 :=
    ⟨rfl, printed_of_unseen (unseen_remember _ _) _ _⟩
  obtain ⟨p, hstands, hshows⟩ := shows_sendLines hfresh rfl script.lines.length script.lines hblank {}
    hbegun hnothing hsent
  have hclosed := (meets_closeRun _).alone hstands hleft
  have hlog : closed.1.1.scriptLog.entries = p.entries := hclosed.scriptLog rfl
  rw [hlog, ← hpreferences]
  exact ⟨hshows.count, (printed_of_unseen (unseen_closeRun _) _ _).trans hshows.printed⟩

end

/-! ## Watched runs -/

theorem waits_guarded_of_idle {α : Type} (work : Act Session α) (o : Oracle) {s : Session}
    (h : s.busy = false) (record : Record) :
    (guarded work).waits o s record = work.waits o s.held record := by
  rw [Act.waits_apply, guarded_of_idle work h, ← Act.waits_apply, Act.waits_bind, Act.waits_bind,
    release, Act.waits_modify, Act.waits_pure, List.append_nil, List.append_nil]

/-- The states of the log that a run publishes only grow, up to a log in which all is settled. -/
theorem published_grows (script : Script) (o : Oracle) {s : Session} (hbusy : s.busy = true) :
    let run := sendScript Program.showSettled 0 script
    let final := (run.alone o s []).1.1
    s.ids.next.toNat + taken (run.alone o s []).2 ≤ UInt64.size →
    ((published .script (run.waits o s []) ++ [final]).map fun t => t.scriptLog.entries).Pairwise Grows ∧
      ∀ e ∈ final.scriptLog.entries, e.isPending = false := by
  intro run final hleft
  constructor
  · have hobeys := obeys_sendScript watches_showSettled 0 script hbusy
    have hchain := (Act.pairwise_waits hobeys hleft).tail
    rw [List.tail_cons] at hchain
    have hseen := hchain.sublist ((published_sublist .script _).append (List.Sublist.refl [final]))
    exact hseen.map _ fun _ _ h => h .script
  · obtain ⟨ds, p, hsent, -, hstands⟩ := alone_sendScript watches_showSettled 0 script o hbusy hleft
    have hentries : final.scriptLog.entries = p.entries := hstands.scriptLog rfl
    rw [hentries]
    exact hsent.closed.booked.isPending

/-- **Watched runs.** A run on an idle session publishes its log whenever it changes, from the emptied
log on. The watcher may miss any of these states, and shows of each state that it sees the entries that
are settled and that it has not shown. With the final state, which it sees last, it has written exactly
the lines of the final log, each once, in their order and in their last form. So has the program, which
looks at the log behind each command and once more in the end. -/
theorem watcher_shows_final_log (script : Script) (o : Oracle) {s : Session}
    (hidle : s.busy = false) :
    let run := watchScript Program.showSettled 0 script
    let ended := run.alone o s []
    let snapshots := published .script (run.waits o s [])
    let final := ended.1.1
    let entries := final.scriptLog.entries
    let lines := entries.map fun e => e.displayLine s.preferences.showDate ++ "\n"
    s.ids.next.toNat + taken ended.2 ≤ UInt64.size →
    (final.scriptLog.revision = s.scriptLog.revision + snapshots.length ∧
      snapshots.head?.map (fun t => t.scriptLog.entries) = some []) ∧
    (∀ o' seen record, seen.Sublist snapshots →
      watch o' 0 (seen ++ [final]) record = (entries.length, record ++ lines.map written)) ∧
    ∃ report n, ended.1.2 = some (report, n) ∧
      let last := (Program.showSettled n).alone o final ended.2
      last.1.2 = entries.length ∧ printed last.2 = lines := by
  intro run ended snapshots final entries lines hleft
  let worked := (sendScript Program.showSettled 0 script).alone o s.held []
  have hended : ended = ((worked.1.1.freed, some worked.1.2), worked.2) :=
    alone_guarded_of_idle (sendScript Program.showSettled 0 script) o hidle []
  have hsnapshots : snapshots = published .script
      ((sendScript Program.showSettled 0 script).waits o s.held []) :=
    congrArg (published .script) (waits_guarded_of_idle _ o hidle [])
  have hfinal : final = worked.1.1.freed := congrArg (·.1.1) hended
  have hentries : entries = worked.1.1.scriptLog.entries := congrArg (·.1.1.scriptLog.entries) hended
  rw [hended] at hleft
  obtain ⟨hgrows, hsettled⟩ := published_grows script o (s := s.held) rfl hleft
  obtain ⟨hcount, hprinted⟩ := shows_sendScript script (s := s.held) rfl hleft
  have hleaves := leavesFace_sendScript leavesFace_showSettled 0 script fun f =>
    f.preferences = s.preferences
  have hpreferences : final.preferences = s.preferences :=
    (congrArg Session.preferences hfinal).trans (Act.Keeps.alone hleaves (s := s.held) rfl [])
  rw [← hentries] at hcount hprinted hsettled
  refine ⟨⟨?_, ?_⟩, fun o' seen record hseen => ?_, worked.1.2.1, worked.1.2.2, congrArg (·.1.2) hended, ?_⟩
  · rw [hfinal, hsnapshots]
    exact publishes_sendScript publishes_showSettled 0 script o s.held []
  · rw [hsnapshots, Act.waits_apply]
    rfl
  · rw [hsnapshots] at hseen
    have hstates : ∀ t ∈ seen ++ [final], t.preferences.showDate = s.preferences.showDate := by
      refine List.forall_mem_append.2 ⟨fun t ht => ?_, List.forall_mem_singleton.2 (by rw [hpreferences])⟩
      obtain ⟨w, hw, rfl⟩ := List.mem_map.1 ((hseen.trans (published_sublist .script _)).mem ht)
      exact congrArg Preferences.showDate (Act.Keeps.waits hleaves (s := s.held) rfl [] w hw)
    have hlogs := hgrows.sublist ((hseen.append (List.Sublist.refl [worked.1.1])).map _)
    rw [List.map_append, List.map_singleton, ← hentries] at hlogs
    exact watch_eq_of_grows o' hstates hsettled hlogs record
  · intro last
    have hlast : last = ((final, worked.1.2.2), ended.2) := alone_showSettled_of_shown hcount ended.2
    rw [hlast, hended]
    exact ⟨hcount, hprinted⟩

/-- The instrument complains about the first line, the second does not get through, and the operator
stops the run before the third. -/
@[irreducible]
def stoppedWatch : (Session × Option (Report × Nat)) × Record :=
  (watchScript Program.showSettled 0 ⟨"OUTP ON\n\nSYST:VERS?\n*RST", .file⟩).alone
    (scripted [{ errors := ["-113"] }] 2) {} []

/-- The states in which that run waits. -/
@[irreducible]
def stoppedWatchWaits : List (Session × Effect) :=
  (watchScript Program.showSettled 0 ⟨"OUTP ON\n\nSYST:VERS?\n*RST", .file⟩).waits
    (scripted [{ errors := ["-113"] }] 2) {} []

/-- The watcher misses all states from the complaint on, but for the last. -/
theorem watcher_shows_stopped_run :
    (({} : Session).busy = false ∧
      ({} : Session).ids.next.toNat + taken stoppedWatch.2 ≤ UInt64.size) ∧
    let snapshots := published .script stoppedWatchWaits
    let final := stoppedWatch.1.1
    let lines := ["[00:00:00] :OUTP ON  (0 ms)\n", "    :SYST:ERR? -113\n",
      "[00:00:00] :SYST:VERS? !" ++ ServerError.unreachable.message ++ " (0 ms)\n"]
    (snapshots.map fun t => t.scriptLog.entries.length) = [0, 1, 1, 2, 3, 3] ∧
    watch (scripted [] 0) 0 (snapshots.take 3 ++ [final]) [] = (3, lines.map written) ∧
    stoppedWatch.1.2 = some (⟨.cancelled, 2, 1, 1⟩, 3) ∧
    printed ((Program.showSettled 3).alone (scripted [{ errors := ["-113"] }] 2) final stoppedWatch.2).2 =
      lines := by
  have hleft : ({} : Session).ids.next.toNat + taken stoppedWatch.2 ≤ UInt64.size := by decide +kernel
  have hshown : stoppedWatch.1.2 = some (⟨.cancelled, 2, 1, 1⟩, 3) := by decide +kernel
  have hcount : stoppedWatch.1.1.scriptLog.entries.length = 3 := by decide +kernel
  have hlines : (stoppedWatch.1.1.scriptLog.entries.map fun e => e.displayLine false ++ "\n") =
      ["[00:00:00] :OUTP ON  (0 ms)\n", "    :SYST:ERR? -113\n",
        "[00:00:00] :SYST:VERS? !" ++ ServerError.unreachable.message ++ " (0 ms)\n"] := by
    decide +kernel
  have hwatched := watcher_shows_final_log ⟨"OUTP ON\n\nSYST:VERS?\n*RST", .file⟩
    (scripted [{ errors := ["-113"] }] 2) (s := {}) rfl
  dsimp only at hwatched
  rw [← stoppedWatch, ← stoppedWatchWaits] at hwatched
  obtain ⟨-, hmissed, report, n, hended, -, hprinted⟩ := hwatched hleft
  obtain ⟨rfl, rfl⟩ := Prod.mk.inj (Option.some.inj (hended.symm.trans hshown))
  refine ⟨⟨rfl, hleft⟩, by decide +kernel, ?_, hshown, hprinted.trans hlines⟩
  have hwritten := hmissed (scripted [] 0) _ [] (List.take_sublist 3 (published .script stoppedWatchWaits))
  rwa [hcount, hlines, List.nil_append] at hwritten

end ScpiConsole.Session
