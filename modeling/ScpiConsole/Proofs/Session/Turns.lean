import ScpiConsole.Proofs.Session.Bench
/-!
# Taking turns

Only the task that holds the guard works on the logs. It finds them settled, is alone with them for as
long as it takes, and leaves them settled for the next one.

* `Job.Ends`, `Job.obeys_work` : what a job asks for and what comes of it
* `Account`, `account` : what a log should show, by the record
* `Quiet`, `Working` : between two tasks, and during one
* `Working.quiet_of_leaving` : from one task to the next
-/

namespace ScpiConsole

open Session

/-! ## Jobs that are done -/

/-- What a job asked for, and what came of it. -/
inductive Job.Ends : Job → List Call → Ending → Prop where
  | turnedAway {job : Job} {ending : Ending} (h : ending.TurnedAway) : Ends job [] ending
  | sent {text : String} {d : Delivery} {block : List Entry} {o : Outcome}
      (hscpi : d.scpi = normalized (Text.trimmed text)) (hblock : IsBlock d block)
      (hreports : Reports d block o) : Ends (.command text) [.send d] (.sent o)
  | ran {script : Script} {ds : List Delivery} {r : Report}
      (hscpis : ds.map Delivery.scpi = (script.lines.take ds.length).map normalized)
      (haccounts : Accounts script.lines ds r) :
      Ends (.run script) (runCalls ds (0 < r.skipped)) (.ran r)

/-- The session as a job begins with it: a run clears its log. -/
def opened : Mode → Session → Session
  | .interactive, s => s
  | .script, s => s.emptied

/-- The work is done, and the page is complete. -/
def Job.Done (job : Job) (b : Books) (record : Record) (s : Session) (ending : Ending) : Prop :=
  ∃ p : Page, p.Closed ∧ Stands b job.mode p 0 record s ∧ job.Ends p.calls ending ∧ ¬ ending.TurnedAway

theorem Job.obeys_work (job : Job) {s : Session} (hbusy : s.busy = true)
    (hfresh : ∀ mode, s.books.Fresh mode) :
    (job.work s).Obeys (terms (opened job.mode s).books job.mode)
      (job.Done (opened job.mode s).books) [] (opened job.mode s) := by
  cases job with
  | command text =>
    refine (obeys_sendCommand (Text.trimmed text) hbusy (hfresh _)).bind (covers_nil _ _) ?_
    rintro record t o _ ⟨d, hscpi, block, hblock, hreports, hstands⟩
    exact .done (fun _ => .refl _) ⟨_, (closed_blank _).add hblock, hstands,
      .sent hscpi hblock hreports, id⟩
  | run script =>
    refine (obeys_sendScript watches_pure () script hbusy).bind (covers_nil _ _) ?_
    rintro record t ⟨r, _⟩ _ ⟨ds, p, hsent, hr, hstands⟩
    obtain rfl : r = runReport script.lines ds := hr
    have haccounts := hsent.accounts
    have hpos : (0 < (runReport script.lines ds).skipped) = (ds.length < script.lines.length) :=
      propext haccounts.skipped_pos
    have hcalls : runCalls ds (0 < (runReport script.lines ds).skipped) = p.calls := by
      simp only [hsent.calls, hpos]
      rfl
    exact .done (fun _ => .refl _) ⟨_, hsent.closed.tell _, hstands,
      hcalls ▸ .ran hsent.scpis haccounts, id⟩

theorem ids_opened (mode : Mode) (s : Session) : (opened mode s).books.ids = s.books.ids := by
  cases mode <;> rfl

theorem logs_opened {mode m : Mode} (h : ¬ (mode = .script ∧ m = .script)) (s : Session) :
    (opened mode s).books.logs m = s.books.logs m := by
  cases mode <;> cases m <;> first | rfl | exact absurd ⟨rfl, rfl⟩ h

theorem fresh_opened {s : Session} (h : ∀ m, s.books.Fresh m) (mode m : Mode) :
    (opened mode s).books.Fresh m := by
  cases mode with
  | interactive => exact h m
  | script =>
    cases m with
    | interactive => exact h .interactive
    | script => exact fun e he => by cases he

/-! ## Stages of work -/

/-- A task at work keeps the terms. -/
inductive Stage.Obeys (T : Terms Session) (Q : Record → Session → Ending → Prop) (own : Record)
    (s : Session) : Stage → Prop where
  | waiting {e : Effect} {next : Session → e.Answer → Talk Session Ending} (hw : T.waiting own e s)
      (hnext : ∀ t a, T.rely s t → T.covers (own ++ [⟨e, a⟩]) →
        (next t a).Obeys T Q (own ++ [⟨e, a⟩]) t) : Obeys T Q own s (.waiting e next)
  | leaving {ending : Ending} (hq : Q own s ending) : Obeys T Q own s (.leaving ending)

theorem Stage.Obeys.holds {T : Terms Session} {Q : Record → Session → Ending → Prop} {own : Record}
    {s : Session} {stage : Stage} (h : stage.Obeys T Q own s) : stage.Holds := by
  cases h <;> trivial

/-- The books show a page at all times. -/
theorem Stage.Obeys.page {job : Job} {b : Books} {own : Record} {s : Session} {stage : Stage}
    (h : stage.Obeys (terms b job.mode) (job.Done b) own s) :
    ∃ p more, Stands b job.mode p more own s ∧ InHand (delivered p.calls) stage.outgoing p.entries := by
  cases h with
  | waiting hw =>
    obtain ⟨p, hstands, hin⟩ := hw
    exact ⟨p, _, hstands, hin⟩
  | leaving hq =>
    obtain ⟨p, hp, hstands, -⟩ := hq
    exact ⟨p, 0, hstands, hp.inHand⟩

theorem Stage.Obeys.of_books {job : Job} {b : Books} {own : Record} {s t : Session} {stage : Stage}
    (h : stage.Obeys (terms b job.mode) (job.Done b) own s) (ht : t.books = s.books) :
    stage.Obeys (terms b job.mode) (job.Done b) own t := by
  cases h with
  | waiting hw hnext =>
    obtain ⟨p, hstands, hin⟩ := hw
    exact .waiting ⟨p, hstands.of_books ht, hin⟩ fun u a hu =>
      hnext u a ((terms b job.mode).rely_trans ht hu)
  | leaving hq =>
    obtain ⟨p, hp, hstands, hends⟩ := hq
    exact .leaving ⟨p, hp, hstands.of_books ht, hends⟩

/-! ## Accounts -/

/-- What a log should show: what it began with, and what was delivered since. -/
structure Account where
  kept : List Entry
  delivered : List Delivery

namespace Account

def enter : Mode → Account → Account
  | .interactive, a => a
  | .script, _ => ⟨[], []⟩

def add (a : Account) (ds : List Delivery) : Account := { a with delivered := a.delivered ++ ds }

def next {κ : Type} (mode : Mode) (a : Account) : Event κ → Account
  | .entered _ => a.enter mode
  | .asked _ x => a.add (deliveries [x])

end Account

def Event.task {κ : Type} : Event κ → κ
  | .entered k => k
  | .asked k _ => k

def Event.exchange? {κ : Type} : Event κ → Option Exchange
  | .entered _ => none
  | .asked _ x => some x

theorem filterMap_asked {κ : Type} (k : κ) (own : Record) :
    (own.map (Event.asked k)).filterMap Event.exchange? = own := by
  rw [List.filterMap_map]
  exact List.filterMap_some

theorem deliveries_cons (x : Exchange) (record : Record) :
    deliveries (x :: record) = deliveries [x] ++ deliveries record := by
  have h := calls_append [x] record
  rw [deliveries, deliveries, deliveries, ← delivered_append, ← h]
  rfl

theorem foldl_next_asked {κ : Type} (mode : Mode) (k : κ) (own : Record) (a : Account) :
    (own.map (Event.asked k)).foldl (Account.next mode) a = a.add (deliveries own) := by
  induction own generalizing a with
  | nil => exact congrArg (Account.mk a.kept) (List.append_nil _).symm
  | cons x own ih =>
    rw [List.map_cons, List.foldl_cons, ih, deliveries_cons]
    exact congrArg (Account.mk a.kept) (List.append_assoc ..)

namespace Bench

variable {ι κ : Type}

/-- The entries of the logs at a desk. -/
def logs (b : Bench ι κ) (i : ι) : Mode → List Entry := (b.seat i).books.logs

theorem books_seat (b : Bench ι κ) (i : ι) :
    (b.seat i).books = ⟨b.common.busy, b.common.ids, b.logs i, b.common.notices⟩ := rfl

theorem logs_sit [DecidableEq ι] {b : Bench ι κ} {i : ι} {s : Session}
    (h : s.books.logs = b.logs i) : (b.sit i s).logs = b.logs := by
  funext j
  by_cases hj : j = i
  · subst hj
    rw [logs, seat_sit, h]
  · rw [logs, seat, desks_sit_of_ne hj]
    rfl

theorem logs_sit_of_ne [DecidableEq ι] {b : Bench ι κ} {i j : ι} {s : Session} (h : j ≠ i) :
    (b.sit i s).logs j = b.logs j := by
  rw [logs, seat, desks_sit_of_ne h]
  rfl

/-- All that was asked. -/
def exchanges (b : Bench ι κ) : Record := b.record.filterMap Event.exchange?

/-- What a task asked. -/
def exchangesOf [DecidableEq κ] (b : Bench ι κ) (k : κ) : Record :=
  (b.record.filter (·.task = k)).filterMap Event.exchange?

end Bench

def Task.At {ι : Type} (t : Task ι) (i : ι) (mode : Mode) : Prop := t.desk = i ∧ t.job.mode = mode

instance {ι : Type} [DecidableEq ι] (t : Task ι) (i : ι) (mode : Mode) : Decidable (t.At i mode) :=
  inferInstanceAs (Decidable (_ ∧ _))

namespace Bench

variable {ι κ : Type} {tasks : κ → Task ι} {start b b' before : Bench ι κ} {k l : κ} {own : Record}

/-- The record of a task that is at work, behind that of the tasks before. -/
def Follows (b before : Bench ι κ) (k : κ) (own : Record) : Prop :=
  b.record = before.record ++ .entered k :: own.map (.asked k)

theorem task_of_mem {v : Event κ} (hv : v ∈ Event.entered k :: own.map (.asked k)) : v.task = k := by
  rcases List.mem_cons.1 hv with rfl | hv
  · rfl
  · obtain ⟨x, -, rfl⟩ := List.mem_map.1 hv
    rfl

theorem Follows.asked (h : b.Follows before k own) (x : Exchange) :
    (b.note (.asked k x)).Follows before k (own ++ [x]) := by
  rw [Follows, note, h, List.map_append, List.append_assoc]
  rfl

theorem Follows.exchanges_eq (h : b.Follows before k own) : b.exchanges = before.exchanges ++ own := by
  rw [exchanges, exchanges, h, List.filterMap_append]
  exact congrArg (before.record.filterMap Event.exchange? ++ ·) (filterMap_asked k own)

section

variable [DecidableEq κ]

theorem Follows.exchangesOf_eq (h : b.Follows before k own) :
    b.exchangesOf k = before.exchangesOf k ++ own := by
  have hown : ((Event.entered k :: own.map (.asked k)).filter (·.task = k)) =
      Event.entered k :: own.map (.asked k) :=
    List.filter_eq_self.2 fun v hv => decide_eq_true (task_of_mem hv)
  rw [exchangesOf, exchangesOf, h, List.filter_append, hown, List.filterMap_append]
  exact congrArg (List.filterMap Event.exchange? _ ++ ·) (filterMap_asked k own)

theorem exchangesOf_note_of_ne {event : Event κ} (h : event.task ≠ l) :
    (b.note event).exchangesOf l = b.exchangesOf l := by
  have hevent : [event].filter (·.task = l) = [] :=
    List.filter_cons_of_neg (by simpa using h)
  rw [exchangesOf, note, List.filter_append, hevent, List.append_nil]
  rfl

end

section

variable [DecidableEq ι]

/-- What a log should show, by the record. -/
def account (tasks : κ → Task ι) (start b : Bench ι κ) (i : ι) (mode : Mode) : Account :=
  (b.record.filter fun v => (tasks v.task).At i mode).foldl (Account.next mode) ⟨start.logs i mode, []⟩

theorem Follows.account_of_at (h : b.Follows before k own) {i : ι} {mode : Mode}
    (hat : (tasks k).At i mode) :
    account tasks start b i mode =
      ((account tasks start before i mode).enter mode).add (deliveries own) := by
  have hown : ((Event.entered k :: own.map (.asked k)).filter fun v => (tasks v.task).At i mode) =
      Event.entered k :: own.map (.asked k) :=
    List.filter_eq_self.2 fun v hv => decide_eq_true (task_of_mem hv ▸ hat)
  rw [account, account, h, List.filter_append, hown, List.foldl_append, List.foldl_cons,
    foldl_next_asked]
  rfl

theorem Follows.account_of_not_at (h : b.Follows before k own) {i : ι} {mode : Mode}
    (hat : ¬ (tasks k).At i mode) :
    account tasks start b i mode = account tasks start before i mode := by
  have hown : ((Event.entered k :: own.map (.asked k)).filter fun v => (tasks v.task).At i mode) =
      [] :=
    List.filter_eq_nil_iff.2 fun v hv h => hat (task_of_mem hv ▸ of_decide_eq_true h)
  rw [account, account, h, List.filter_append, hown, List.append_nil]

/-! ## Between two tasks -/

/-- Nobody is at work, and every log shows what it should. -/
structure Quiet (tasks : κ → Task ι) (start b : Bench ι κ) : Prop where
  booked : ∀ i mode, ∃ new, b.logs i mode = (account tasks start b i mode).kept ++ new ∧
    Booked (account tasks start b i mode).delivered new
  fresh : ∀ i mode, (b.seat i).books.Fresh mode
  next : b.common.ids.next.toNat = start.common.ids.next.toNat + taken b.exchanges

theorem Quiet.congr (h : Quiet tasks start b) (hlogs : b'.logs = b.logs)
    (hids : b'.common.ids = b.common.ids) (hrecord : b'.record = b.record) :
    Quiet tasks start b' where
  booked i mode := by
    rw [hlogs, account, hrecord]
    exact h.booked i mode
  fresh i mode := by
    rw [Books.Fresh, books_seat, hlogs, hids]
    exact h.fresh i mode
  next := by
    rw [hids, exchanges, hrecord]
    exact h.next

/-- Numbers are left after all that was asked. -/
def Lasts (start b : Bench ι κ) : Prop :=
  start.common.ids.next.toNat + taken b.exchanges < UInt64.size

instance : Decidable (Lasts start b) := inferInstanceAs (Decidable (_ < _))

/-- What a task finds when it goes to work. -/
def ground (tasks : κ → Task ι) (before : Bench ι κ) (k : κ) : Books :=
  (opened (tasks k).job.mode (before.seat (tasks k).desk)).books

theorem toNat_next_ground (h : Quiet tasks start before) (k : κ) :
    (ground tasks before k).ids.next.toNat =
      start.common.ids.next.toNat + taken before.exchanges := by
  rw [ground, ids_opened]
  exact h.next

theorem Quiet.covers (h : Quiet tasks start before) (hb : b.exchanges = before.exchanges ++ own)
    (hleft : Lasts start b) :
    (terms (ground tasks before k) (tasks k).job.mode).covers own := by
  have hground := toNat_next_ground h k
  rw [Lasts, hb, taken_append] at hleft
  change (ground tasks before k).ids.next.toNat + taken own ≤ UInt64.size
  omega

/-- A log is settled when a task begins to work on it. -/
theorem Quiet.ground (h : Quiet tasks start before) (k : κ) :
    ∃ new, (ground tasks before k).logs (tasks k).job.mode =
      ((account tasks start before (tasks k).desk (tasks k).job.mode).enter
        (tasks k).job.mode).kept ++ new ∧
      Booked ((account tasks start before (tasks k).desk (tasks k).job.mode).enter
        (tasks k).job.mode).delivered new := by
  rw [Bench.ground]
  cases (tasks k).job.mode with
  | interactive => exact h.booked _ .interactive
  | script => exact ⟨[], rfl, booked_nil⟩

end

/-! ## At work -/

section

variable [DecidableEq ι] [DecidableEq κ]

/-- The task went to work when nobody was, and keeps the terms. -/
structure Working (tasks : κ → Task ι) (start b : Bench ι κ) (k : κ) (before : Bench ι κ)
    (own : Record) : Prop where
  quiet : Quiet tasks start before
  first : before.exchangesOf k = []
  follows : b.Follows before k own
  others : ∀ j, j ≠ (tasks k).desk → b.logs j = before.logs j
  obeys : (b.stages k).Obeys (terms (ground tasks before k) (tasks k).job.mode)
    ((tasks k).job.Done (ground tasks before k)) own (b.seat (tasks k).desk)

variable {p : Page} {more : Nat} {i : ι} {mode : Mode}

theorem Working.log_of_at (h : Working tasks start b k before own)
    (hstands : Stands (ground tasks before k) (tasks k).job.mode p more own (b.seat (tasks k).desk))
    (hat : (tasks k).At i mode) :
    ∃ ds new, Booked ds new ∧
      b.logs i mode = (account tasks start b i mode).kept ++ (new ++ p.entries) ∧
      (account tasks start b i mode).delivered = ds ++ delivered p.calls := by
  rw [h.follows.account_of_at hat]
  obtain ⟨rfl, rfl⟩ := hat
  obtain ⟨new, hlog, hbooked⟩ := h.quiet.ground k
  refine ⟨_, new, hbooked, ?_, ?_⟩
  · rw [logs, hstands.books, Books.logs_after, hlog, List.append_assoc]
    rfl
  · rw [← hstands.calls]
    rfl

theorem Working.log_of_not_at (h : Working tasks start b k before own)
    (hstands : Stands (ground tasks before k) (tasks k).job.mode p more own (b.seat (tasks k).desk))
    (hat : ¬ (tasks k).At i mode) :
    ∃ new, b.logs i mode = (account tasks start b i mode).kept ++ new ∧
      Booked (account tasks start b i mode).delivered new := by
  have hlogs : b.logs i mode = before.logs i mode := by
    -- At its own desk the task leaves the other log alone, and it touches no other desk.
    by_cases hi : i = (tasks k).desk
    · subst hi
      have hmode : mode ≠ (tasks k).job.mode := fun hmode => hat ⟨rfl, hmode.symm⟩
      rw [logs, hstands.books, Books.logs_after_of_ne _ hmode, ground,
        logs_opened fun h => hmode (h.2.trans h.1.symm)]
      rfl
    · rw [h.others i hi]
  rw [h.follows.account_of_not_at hat, hlogs]
  exact h.quiet.booked i mode

/-- A task that is done leaves things as the next one needs them. -/
theorem Working.quiet_of_leaving (h : Working tasks start b k before own) {ending : Ending}
    (hstage : b.stages k = .leaving ending) (hleft : Lasts start b) : Quiet tasks start b := by
  have hobeys := h.obeys
  rw [hstage] at hobeys
  cases hobeys with
  | leaving hq =>
    -- The page is complete: its entries are blocks, and all of its numbers are used up.
    obtain ⟨p, hp, hstands, -⟩ := hq
    have hground := toNat_next_ground h.quiet k
    have htaken : taken b.exchanges = taken before.exchanges + p.taken := by
      rw [h.follows.exchanges_eq, taken_append, hstands.taken]
    have hleft' : (ground tasks before k).ids.next.toNat + p.taken < UInt64.size := by
      rw [Lasts] at hleft
      omega
    have hnext : b.common.ids.next.toNat = _ := hstands.toNat_next hleft'
    refine ⟨fun i mode => ?_, fun i mode => ?_, ?_⟩
    · by_cases hat : (tasks k).At i mode
      · obtain ⟨ds, new, hbooked, hlog, hdelivered⟩ := h.log_of_at hstands hat
        exact ⟨_, hlog, hdelivered ▸ hbooked.append hp.booked⟩
      · exact h.log_of_not_at hstands hat
    · by_cases hi : i = (tasks k).desk
      · subst hi
        exact hstands.fresh (fresh_opened (h.quiet.fresh _) _) hleft' mode
      · rw [Books.Fresh, books_seat, h.others i hi]
        intro e he
        have hold := UInt64.lt_iff_toNat_lt.1 (h.quiet.fresh i mode e he)
        rw [UInt64.lt_iff_toNat_lt, hnext, hground]
        exact Nat.lt_of_lt_of_le (h.quiet.next ▸ hold) (Nat.le_add_right _ _)
    · rw [hnext, hground, htaken, Nat.add_assoc]

end

end Bench

end ScpiConsole
