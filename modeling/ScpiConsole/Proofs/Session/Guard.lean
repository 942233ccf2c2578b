import ScpiConsole.Proofs.Session.Dispatch
import ScpiConsole.Session.Batch
/-!
# The guard

A command of the operator and a run of a script go the same way: claim the guard, work, release it.
Without the guard nothing is done.

* `guarded_of_busy`, `guarded_of_idle` : work that finds the guard taken, or free
* `Watches` : a watcher leaves the books alone
* `meets_sendCommand`, `meets_sendLines`, `obeys_sendScript` : the work, on the terms of its log
-/

namespace ScpiConsole.Session

open Act (perform Meets meets_get_bind meets_modify meets_and meets_exists)

/-! ## Work under the guard -/

section

variable {s : Session} {α : Type} (work : Act Session α)

theorem held_of_busy (h : s.busy = true) : s.held = s := by
  rw [held, ← h]

theorem guarded_of_busy (h : s.busy = true) : guarded work s = .done s none := by
  change (if (!s.busy) = true then _ else pure none : Act Session (Option α)) s.held = _
  rw [held_of_busy h, h]
  rfl

theorem guarded_of_idle (h : s.busy = false) :
    guarded work s = (do
      let a ← work
      release
      pure (some a)) s.held := by
  change (if (!s.busy) = true then _ else pure none : Act Session (Option α)) s.held = _
  rw [h]
  rfl

end

theorem guarded_bind {β : Type} (f : α → β) :
    guarded (do
      let a ← work
      pure (f a)) =
    (do
      let a ← guarded work
      pure (a.map f)) := by
  simp only [guarded, bind_assoc, pure_bind]
  refine congrArg (claim >>= ·) (funext fun granted => ?_)
  cases granted
  · rfl
  · simp only [if_true, bind_assoc, pure_bind, Option.map_some]

/-! ## Work -/

/-- The calls of a run: before each line it asks whether to stop, and if so it stops there. -/
def runCalls (ds : List Delivery) (stopped : Bool) : List Call :=
  ds.flatMap (fun d => [.check false, .send d]) ++ if stopped then [.check true] else []

theorem delivered_runCalls (ds : List Delivery) (stopped : Bool) :
    delivered (runCalls ds stopped) = ds := by
  induction ds with
  | nil => cases stopped <;> rfl
  | cons d ds ih => exact congrArg (d :: ·) ih

section

variable {b : Books} {mode : Mode} {p : Page}

theorem Stands.of_books {more : Nat} {record : Record} {s t : Session}
    (h : Stands b mode p more record s) (ht : t.books = s.books) : Stands b mode p more record t :=
  ⟨h.calls, h.taken, ht.trans h.books, h.numbered, h.length_le⟩

theorem grows_of_books {s t : Session} (h : t.books = s.books) (m : Mode) :
    Grows (s.books.logs m) (t.books.logs m) := h ▸ .refl _

theorem meets_modify_aside {f : Session → Session} (h : ∀ s, (f s).books = s.books) :
    Meets (terms b mode) (Stands b mode p 0) (modify f) fun record s _ =>
      Stands b mode p 0 record s :=
  meets_modify fun _ s _ hs => ⟨grows_of_books (h s), hs.of_books (h s)⟩

theorem meets_recordCommand (hp : p.Closed) (scpi : String) :
    Meets (terms b mode) (Stands b mode p 0) (recordCommand scpi) fun record s _ =>
      Stands b mode p 0 record s := by
  refine meets_get_bind fun s => ?_
  split
  · exact Act.meets_pure _ fun _ _ _ h => h.2
  refine Meets.bind (Q := fun record s _ => Stands b mode p 0 record s)
    (Act.meets_set ?_) fun _ => meets_remember _ _ hp.inHand
  rintro record _ _ ⟨rfl, h⟩
  exact ⟨grows_of_books rfl, h.of_books rfl⟩

/-- The work of one command. -/
theorem meets_sendCommand (hp : p.Closed) (hb : b.Fresh .interactive) (scpi : String) :
    Meets (terms b .interactive) (Stands b .interactive p 0) (sendCommand scpi)
      fun record s o => ∃ d, d.scpi = normalized scpi ∧ Delivered b .interactive p d record s o := by
  refine (meets_modify_aside ?_).bind fun _ => (meets_dispatch hp hb scpi).bind fun o => ?_
  · exact fun _ => rfl
  refine meets_exists fun d => meets_and fun hscpi => meets_exists fun block =>
    meets_and fun hblock => meets_and fun hreports => ?_
  exact (meets_recordCommand (hp.add hblock) scpi).bind fun _ =>
    Act.meets_pure _ fun _ _ _ h => ⟨d, hscpi, block, hblock, hreports, h⟩

/-- The page with one more question to the operator. -/
def Page.ask (p : Page) (stop : Bool) : Page := { p with calls := p.calls ++ [.check stop] }

theorem Page.Closed.ask (hp : p.Closed) (stop : Bool) : (p.ask stop).Closed where
  booked := by
    rw [Page.ask, delivered_append]
    exact (List.append_nil _).symm ▸ hp.booked
  length_eq := hp.length_eq

theorem meets_check (hp : p.Closed) :
    Meets (terms b mode) (Stands b mode p 0) (perform .cancelled) fun record s stop =>
      Stands b mode (p.ask stop) 0 record s :=
  meets_perform .cancelled hp.inHand

/-- Some lines of a script went out, the first ones, and came onto the page. -/
structure Sent (p : Page) (lines : List String) (ds : List Delivery) (p' : Page) : Prop where
  length_le : ds.length ≤ lines.length
  scpis : ds.map Delivery.scpi = (lines.take ds.length).map normalized
  calls : p'.calls = p.calls ++ runCalls ds (ds.length < lines.length)
  notices : p'.notices = p.notices.map (· ++ ds.flatMap Delivery.news)
  closed : p'.Closed

theorem sent_nil (hp : p.Closed) : Sent p [] [] p :=
  ⟨Nat.le_refl _, rfl, by simp [runCalls], by simp, hp⟩

theorem sent_stopped (hp : p.Closed) (line : String) (rest : List String) :
    Sent p (line :: rest) [] (p.ask true) :=
  ⟨Nat.zero_le _, rfl, by simp [runCalls, Page.ask], by simp [Page.ask], hp.ask true⟩

theorem Sent.cons {p' : Page} {d : Delivery} {block : List Entry} {line : String}
    {rest : List String} {ds : List Delivery} (hd : d.scpi = normalized line)
    (h : Sent ((p.ask false).add d block) rest ds p') : Sent p (line :: rest) (d :: ds) p' where
  length_le := Nat.succ_le_succ h.length_le
  scpis := by simp [hd, h.scpis]
  calls := by simp [h.calls, Page.add, Page.ask, runCalls]
  notices := by
    rw [h.notices, Page.add, Page.ask, Option.map_map]
    congr 1
    funext old
    simp
  closed := h.closed

/-- The count of a run that sent some more commands. -/
def Tally.plus (t : Tally) (ds : List Delivery) : Tally :=
  ⟨t.dispatched + ds.length, t.failed + ds.countP (·.outcome.2)⟩

theorem tally_plus_cons (t : Tally) (d : Delivery) (ds : List Delivery) :
    (⟨t.dispatched + 1, if d.outcome.2 then t.failed + 1 else t.failed⟩ : Tally).plus ds =
      t.plus (d :: ds) := by
  cases h : d.outcome.2 <;> simp [Tally.plus, h] <;> omega

/-- A watcher looks at the log of a run between its commands, and leaves the books alone. -/
def Watches {β : Type} (b : Books) (watch : β → Act Session β) : Prop :=
  ∀ (shown : β) (p : Page), p.Closed →
    Meets (terms b .script) (Stands b .script p 0) (watch shown) fun record s _ =>
      Stands b .script p 0 record s

theorem watches_pure {β : Type} : Watches b (pure : β → Act Session β) :=
  fun _ _ _ => Act.meets_pure _ fun _ _ _ h => h

theorem meets_sendLines {β : Type} {watch : β → Act Session β} (hwatch : Watches b watch)
    (hb : b.Fresh .script) (total : Nat) (lines : List String) (hp : p.Closed) (shown : β)
    (tally : Tally) :
    Meets (terms b .script) (Stands b .script p 0) (sendLines watch total shown tally lines)
      fun record s r => ∃ ds p', Sent p lines ds p' ∧ r.1 = tally.plus ds ∧
        Stands b .script p' 0 record s := by
  -- Each line begins on a closed page and leaves one.
  induction lines generalizing p shown tally with
  | nil => exact Act.meets_pure _ fun _ _ _ h => ⟨[], p, sent_nil hp, rfl, h⟩
  | cons line rest ih =>
    refine (meets_check hp).bind fun stop => ?_
    cases stop with
    | true => exact Act.meets_pure _ fun _ _ _ h => ⟨[], _, sent_stopped hp line rest, rfl, h⟩
    | false =>
      refine (meets_dispatch (hp.ask false) hb line).bind fun o => ?_
      refine meets_exists fun d => meets_and fun hscpi => meets_exists fun block =>
        meets_and fun hblock => meets_and fun hreports => ?_
      have hnext := (hp.ask false).add hblock
      refine (meets_modify_aside ?_).bind fun _ => (hwatch shown _ hnext).bind fun shown => ?_
      · exact fun _ => rfl
      refine (ih hnext shown _).imp ?_
      rintro _ _ _ _ ⟨ds, p', hsent, htally, h⟩
      refine ⟨d :: ds, p', hsent.cons hscpi, ?_, h⟩
      rw [htally, hreports.isServerError, tally_plus_cons]

/-- The page with some more news for the operator. -/
def Page.tell (p : Page) (news : List Notification) : Page :=
  { p with notices := p.notices.map (· ++ news) }

theorem Page.Closed.tell (hp : p.Closed) (news : List Notification) : (p.tell news).Closed :=
  ⟨hp.booked, hp.length_eq⟩

/-- The news at the end of a run. -/
def endNews (r : Report) : List Notification :=
  if r.status = .cancelled then [.cancelled r.dispatched r.skipped] else []

theorem meets_closeRun (r : Report) :
    Meets (terms b mode) (Stands b mode p 0) (closeRun r) fun record s _ =>
      Stands b mode (p.tell (endNews r)) 0 record s := by
  refine (meets_modify_aside ?_).bind fun _ => ?_
  · exact fun _ => rfl
  rw [endNews]
  split
  · exact meets_notify _
  · exact Act.meets_pure _ fun _ _ _ h => by simpa [Page.tell] using h

/-- The report on a run that sent some commands. -/
def runReport (lines : List String) (ds : List Delivery) : Report :=
  report lines.length (({} : Tally).plus ds)

/-- The report counts every line, and says whether lines are left. -/
structure Accounts (lines : List String) (ds : List Delivery) (r : Report) : Prop where
  dispatched : r.dispatched = ds.length
  total : r.dispatched + r.skipped = lines.length
  failed : r.failed = ds.countP (·.outcome.2)
  status : r.status = if 0 < r.skipped then .cancelled else .completed

theorem Sent.accounts {p' : Page} {lines : List String} {ds : List Delivery}
    (h : Sent p lines ds p') : Accounts lines ds (runReport lines ds) where
  dispatched := Nat.zero_add _
  total := by
    have hle := h.length_le
    simp only [runReport, report, Tally.plus]
    omega
  failed := Nat.zero_add _
  status := rfl

theorem Accounts.skipped_pos {lines : List String} {ds : List Delivery} {r : Report}
    (h : Accounts lines ds r) : 0 < r.skipped ↔ ds.length < lines.length := by
  have hdispatched := h.dispatched
  have htotal := h.total
  omega

theorem Accounts.endNews_eq {lines : List String} {ds : List Delivery} {r : Report}
    (h : Accounts lines ds r) :
    endNews r = if 0 < r.skipped then [.cancelled r.dispatched r.skipped] else [] := by
  rw [endNews, h.status]
  by_cases hs : 0 < r.skipped <;> simp [hs]

/-- The work of a run. -/
theorem meets_workThrough {β : Type} {watch : β → Act Session β} (hwatch : Watches b watch)
    (hb : b.Fresh .script) (shown : β) (lines : List String) (hp : p.Closed) :
    Meets (terms b .script) (Stands b .script p 0) (workThrough watch shown lines) fun record s r =>
      ∃ ds p', Sent p lines ds p' ∧ r.1 = runReport lines ds ∧
        Stands b .script (p'.tell (endNews r.1)) 0 record s := by
  refine (meets_modify_aside ?_).bind fun _ => ?_
  · exact fun _ => rfl
  refine (meets_sendLines hwatch hb lines.length lines hp shown {}).bind fun ⟨tally, shown⟩ => ?_
  refine meets_exists fun ds => meets_exists fun p' => meets_and fun hsent => meets_and ?_
  rintro rfl
  exact (meets_closeRun (runReport lines ds)).bind fun _ =>
    Act.meets_pure _ fun _ _ _ h => ⟨ds, p', hsent, rfl, h⟩

end

/-! ## From the start -/

/-- Nothing was done yet. -/
def Books.blank (b : Books) : Page := ⟨[], 0, [], b.notices⟩

theorem closed_blank (b : Books) : b.blank.Closed := ⟨booked_nil, rfl⟩

theorem stands_blank {s : Session} (hbusy : s.busy = true) (mode : Mode) :
    Stands s.books mode s.books.blank 0 [] s where
  calls := rfl
  taken := rfl
  books := by
    have hids : s.ids.next + UInt64.ofNat 0 = s.ids.next := UInt64.add_zero _
    have hlogs : Function.update s.books.logs mode (s.books.logs mode ++ []) = s.books.logs := by
      rw [List.append_nil, Function.update_eq_self]
    rw [Books.after, Books.blank, hlogs]
    change Books.mk s.busy s.ids s.books.logs s.notices = ⟨true, ⟨s.ids.next + UInt64.ofNat 0⟩, _, _⟩
    rw [hbusy, hids]
    rfl
  numbered := rfl
  length_le := Nat.le_refl _

theorem covers_nil (b : Books) (mode : Mode) : (terms b mode).covers [] :=
  Nat.le_of_lt b.ids.next.toNat_lt

theorem obeys_sendCommand (scpi : String) {s : Session} (hbusy : s.busy = true)
    (hfresh : s.books.Fresh .interactive) :
    (sendCommand scpi s).Obeys (terms s.books .interactive)
      (fun record t o => ∃ d, d.scpi = normalized scpi ∧
        Delivered s.books .interactive s.books.blank d record t o)
      [] s :=
  meets_sendCommand (closed_blank s.books) hfresh scpi [] s (covers_nil _ _) (stands_blank hbusy _)

/-- The session with nothing in the log of the script mode. -/
def emptied (s : Session) : Session := s.setLog .script s.scriptLog.clear

theorem sendScript_apply {β : Type} (watch : β → Act Session β) (shown : β) (script : Script)
    (s : Session) :
    sendScript watch shown script s =
      (do
        remember .scriptLog s.emptied.scriptLog.toJson
        workThrough watch shown script.lines) s.emptied := rfl

/-- A run from its start: the log holds nothing else. -/
theorem obeys_sendScript {β : Type} {watch : β → Act Session β} {s : Session}
    (hwatch : Watches s.emptied.books watch) (shown : β) (script : Script) (hbusy : s.busy = true) :
    (sendScript watch shown script s).Obeys (terms s.emptied.books .script)
      (fun record t r => ∃ ds p, Sent s.emptied.books.blank script.lines ds p ∧
        r.1 = runReport script.lines ds ∧
        Stands s.emptied.books .script (p.tell (endNews r.1)) 0 record t)
      [] s.emptied := by
  have hfresh : s.emptied.books.Fresh .script := fun e he => by cases he
  have hblank := closed_blank s.emptied.books
  rw [sendScript_apply]
  exact (meets_remember _ _ hblank.inHand).bind (fun _ => meets_workThrough hwatch hfresh shown _ hblank)
    [] _ (covers_nil _ _) (stands_blank (s := s.emptied) hbusy .script)

end ScpiConsole.Session
