import ScpiConsole.Proofs.Session.Books
/-!
# What a dispatch does to the books

An act that holds the guard is alone with the books, though others may work on the rest of the session
whenever it waits. It adds to its page, and what it adds is settled before it goes on.

* `terms` : the terms on which commands are sent
* `Stands` : the books show a page
* `meets_perform`, `meets_newId`, `meets_changeLog` : what each step adds to the page
* `meets_dispatch` : a dispatch adds one delivery and its block
-/

namespace ScpiConsole.Session

open Act (perform Meets meets_pure meets_get_bind_of_forall meets_modify meets_modifyGet meets_and meets_exists)

/-! ## Numbers -/

/-- The number that comes after `k` others. -/
def Books.number (b : Books) (k : Nat) : EntryId := ⟨b.ids.next + UInt64.ofNat k⟩

theorem Books.toNat_number (b : Books) {k : Nat} (h : b.ids.next.toNat + k < UInt64.size) :
    (b.number k).value.toNat = b.ids.next.toNat + k := by
  have hk : k < UInt64.size := by omega
  rw [Books.number, UInt64.toNat_add, UInt64.toNat_ofNat_of_lt' hk, Nat.mod_eq_of_lt h]

/-- No entry in the log has a number that is yet to come. -/
def Books.Fresh (b : Books) (mode : Mode) : Prop := ∀ e ∈ b.logs mode, e.id.value < b.ids.next

/-- The entries have the first numbers to come. -/
def Numbered (b : Books) (es : List Entry) : Prop :=
  es.map Entry.id = (List.range es.length).map b.number

theorem numbered_append {b : Books} {es es' : List Entry} (h : Numbered b es)
    (h' : es'.map Entry.id = (List.range' es.length es'.length).map b.number) :
    Numbered b (es ++ es') := by
  have hrange := @List.range'_append_1 0 es.length es'.length
  rw [Nat.zero_add] at hrange
  rw [Numbered, List.map_append, h, h', List.length_append, List.range_eq_range',
    List.range_eq_range', ← hrange, List.map_append]

theorem numbered_concat {b : Books} {es : List Entry} {e : Entry} :
    Numbered b (es ++ [e]) ↔ Numbered b es ∧ e.id = b.number es.length := by
  simp only [Numbered, List.map_append, List.length_append, List.length_singleton, List.range_succ]
  refine ⟨fun h => ?_, fun ⟨h, hid⟩ => by simp [h, hid]⟩
  obtain ⟨hes, he⟩ := List.append_inj' h rfl
  exact ⟨hes, by simpa using he⟩

/-- As long as numbers are left the next one is new. -/
theorem id_ne_number {b : Books} {mode : Mode} (hb : b.Fresh mode) {es : List Entry}
    (hes : Numbered b es) (hleft : b.ids.next.toNat + es.length < UInt64.size) :
    ∀ e ∈ b.logs mode ++ es, e.id ≠ b.number es.length := by
  intro e he heq
  have hnew : e.id.value.toNat = b.ids.next.toNat + es.length := by
    rw [heq, b.toNat_number hleft]
  rcases List.mem_append.1 he with he | he
  · have hlt := UInt64.lt_iff_toNat_lt.1 (hb e he)
    omega
  · have hmem : e.id ∈ (List.range es.length).map b.number :=
      hes ▸ List.mem_map_of_mem he
    obtain ⟨k, hk, hnumber⟩ := List.mem_map.1 hmem
    have hlt := List.mem_range.1 hk
    rw [← hnumber, b.toNat_number (by omega)] at hnew
    omega

/-! ## Terms -/

/-- The page of an act after a record, with some more numbers taken that are not in use yet. -/
structure Stands (b : Books) (mode : Mode) (p : Page) (more : Nat) (record : Record) (s : Session) :
    Prop where
  calls : calls record = p.calls
  taken : taken record = p.taken
  books : s.books = b.after mode p more
  numbered : Numbered b p.entries
  length_le : p.entries.length ≤ p.taken

/-- How many numbers are taken that the record does not show yet. -/
def underWay (e : Effect) : Nat := if dates e then 1 else 0

/-- While the act waits the others leave the books alone, and the act changes no entry that is settled.
This is promised as long as the numbers do not start over. -/
def terms (b : Books) (mode : Mode) : Terms Session where
  rely s t := t.books = s.books
  guarantee s t := ∀ m, Grows (s.books.logs m) (t.books.logs m)
  waiting record e s := ∃ p, Stands b mode p (underWay e) record s ∧
    InHand (delivered p.calls) (outgoing e) p.entries
  covers record := b.ids.next.toNat + Session.taken record ≤ UInt64.size
  rely_refl _ := rfl
  rely_trans h h' := h'.trans h
  guarantee_refl _ _ := .refl _
  guarantee_trans h h' m := (h m).trans (h' m)
  covers_of_append h := by
    rw [taken_append] at h
    omega

/-- The page of an act that has no command under way. -/
structure Page.Closed (p : Page) : Prop where
  booked : Booked (delivered p.calls) p.entries
  length_eq : p.entries.length = p.taken

/-- A delivery with its block comes onto the page. -/
def Page.add (p : Page) (d : Delivery) (block : List Entry) : Page where
  calls := p.calls ++ [.send d]
  taken := p.taken + block.length
  entries := p.entries ++ block
  notices := p.notices.map (· ++ d.news)

theorem Page.Closed.add {p : Page} (hp : p.Closed) {d : Delivery} {block : List Entry}
    (h : IsBlock d block) : (p.add d block).Closed where
  booked := by
    rw [Page.add, delivered_append]
    exact hp.booked.append h.booked
  length_eq := by
    rw [Page.add, List.length_append, hp.length_eq]

/-! ## Steps -/

section

variable {b : Books} {mode : Mode} {p : Page}

theorem Stands.answered {more : Nat} {record : Record} {s t : Session}
    (h : Stands b mode p more record s) (ht : t.books = s.books) (x : Exchange)
    (hmore : more = underWay x.effect) :
    Stands b mode { p with calls := p.calls ++ (call? x).toList, taken := p.taken + more } 0
      (record ++ [x]) t where
  calls := by
    rw [calls_append, h.calls, Session.calls, List.filterMap_cons]
    cases call? x <;> rfl
  taken := by
    have hx : Session.taken [x] = underWay x.effect := by
      cases hdate : dates x.effect <;> simp [Session.taken, underWay, hdate]
    rw [taken_append, h.taken, hx, hmore]
  books := ht.trans h.books
  numbered := h.numbered
  length_le := Nat.le_add_right_of_le h.length_le

section

variable {record : Record} {s : Session}

theorem Stands.toNat_next (h : Stands b mode p 0 record s)
    (hleft : b.ids.next.toNat + p.taken < UInt64.size) :
    s.books.ids.next.toNat = b.ids.next.toNat + p.taken := by
  rw [h.books]
  exact b.toNat_number hleft

/-- The numbers on the page are no longer to come. -/
theorem Stands.fresh (h : Stands b mode p 0 record s) (hb : ∀ m, b.Fresh m)
    (hleft : b.ids.next.toNat + p.taken < UInt64.size) (m : Mode) : s.books.Fresh m := by
  intro e he
  have hnext := h.toNat_next hleft
  rw [UInt64.lt_iff_toNat_lt, hnext]
  have hold (m : Mode) (he : e ∈ b.logs m) : e.id.value.toNat < b.ids.next.toNat + p.taken :=
    Nat.lt_of_lt_of_le (UInt64.lt_iff_toNat_lt.1 (hb m e he)) (Nat.le_add_right _ _)
  rw [h.books] at he
  by_cases hm : m = mode
  · subst hm
    rw [Books.logs_after] at he
    rcases List.mem_append.1 he with he | he
    · exact hold m he
    · have hmem : e.id ∈ (List.range p.entries.length).map b.number :=
        h.numbered ▸ List.mem_map_of_mem he
      obtain ⟨j, hj, hid⟩ := List.mem_map.1 hmem
      have hlt := Nat.lt_of_lt_of_le (List.mem_range.1 hj) h.length_le
      rw [← hid, b.toNat_number (by omega)]
      omega
  · rw [Books.logs_after_of_ne _ hm] at he
    exact hold m he

end

theorem meets_perform (e : Effect)
    (hin : InHand (delivered p.calls) (outgoing e) p.entries) :
    Meets (terms b mode) (Stands b mode p (underWay e)) (perform e) fun record s a =>
      Stands b mode
        { p with calls := p.calls ++ (call? ⟨e, a⟩).toList, taken := p.taken + underWay e } 0
        record s :=
  Act.meets_perform (fun _ _ _ h => ⟨p, h, hin⟩) fun _ _ _ _ h ht _ => h.answered ht _ rfl

/-- Effects that leave no trace. -/
theorem meets_perform_plain {e : Effect} (hcall : ∀ a, call? ⟨e, a⟩ = none) (hdate : dates e = false)
    (hin : InHand (delivered p.calls) (outgoing e) p.entries) :
    Meets (terms b mode) (Stands b mode p 0) (perform e) fun record s _ =>
      Stands b mode p 0 record s := by
  have h : Meets (terms b mode) _ _ _ := meets_perform e hin
  simpa [underWay, hdate, hcall] using h

/-- The number that was taken is in use. -/
theorem meets_now (hin : InHand (delivered p.calls) none p.entries) :
    Meets (terms b mode) (Stands b mode p 1) (perform .now) fun record s _ =>
      Stands b mode { p with taken := p.taken + 1 } 0 record s := by
  have h : Meets (terms b mode) _ _ _ := meets_perform .now hin
  simpa [underWay, dates, call?] using h

theorem meets_newId :
    Meets (terms b mode) (Stands b mode p 0) newId fun record s id =>
      id = b.number p.taken ∧ Stands b mode p 1 record s := by
  refine meets_modifyGet fun record s _ h => ?_
  have hids : s.ids = ⟨b.ids.next + UInt64.ofNat p.taken⟩ := congrArg Books.ids h.books
  have hbooks : ({ s with ids := s.ids.fresh.2 } : Session).books = b.after mode p 1 := by
    have hnext : s.ids.fresh.2 = ⟨b.ids.next + UInt64.ofNat (p.taken + 1)⟩ := by
      rw [hids, UInt64.ofNat_add, ← UInt64.add_assoc]
      rfl
    change { s.books with ids := s.ids.fresh.2 } = _
    rw [h.books, hnext]
    rfl
  refine ⟨fun _ => .refl _, ?_, h.calls, h.taken, hbooks, h.numbered, h.length_le⟩
  rw [hids]
  rfl

theorem meets_remember (slot : Slot) (value : Json)
    (hin : InHand (delivered p.calls) none p.entries) :
    Meets (terms b mode) (Stands b mode p 0) (remember slot value) fun record s _ =>
      Stands b mode p 0 record s :=
  (meets_perform_plain (e := .save slot value) (fun _ => rfl) rfl hin).bind fun _ =>
    meets_pure _ fun _ _ _ h => h

/-- A change of the log is stored at once. -/
theorem meets_changeLog {es : List Entry} {change : Log → Log}
    (hchange : Numbered b p.entries → b.ids.next.toNat + p.taken ≤ UInt64.size →
      ∀ log : Log, log.entries = b.logs mode ++ p.entries →
        (change log).entries = b.logs mode ++ es)
    (hgrows : Grows p.entries es) (hin : InHand (delivered p.calls) none es)
    (hnumbered : Numbered b p.entries → Numbered b es) (hlength : es.length ≤ p.taken) :
    Meets (terms b mode) (Stands b mode p 0) (changeLog mode change) fun record s _ =>
      Stands b mode { p with entries := es } 0 record s := by
  have hmodify : Meets (terms b mode) (Stands b mode p 0)
      (modify fun s => s.setLog mode (change (s.logOf mode)))
      fun record s _ => Stands b mode { p with entries := es } 0 record s := by
    refine meets_modify fun record s hcovers h => ?_
    have hold : (s.logOf mode).entries = b.logs mode ++ p.entries := by
      rw [← b.logs_after mode p 0, ← h.books]
      rfl
    have hnew := hchange h.numbered (h.taken ▸ hcovers) _ hold
    have hbooks : (s.setLog mode (change (s.logOf mode))).books =
        b.after mode { p with entries := es } 0 := by
      rw [books_setLog, hnew, h.books]
      simp only [Books.after, Function.update_idem]
    refine ⟨fun m => ?_, h.calls, h.taken, hbooks, hnumbered h.numbered, hlength⟩
    rw [hbooks, h.books]
    exact b.grows_after mode hgrows m
  exact hmodify.bind fun _ => meets_get_bind_of_forall fun s => meets_remember _ _ hin

theorem meets_notify (n : Notification) :
    Meets (terms b mode) (Stands b mode p 0) (notify n) fun record s _ =>
      Stands b mode { p with notices := p.notices.map (· ++ [n]) } 0 record s := by
  refine meets_modify fun record s _ h => ⟨fun _ => .refl _, h.calls, h.taken, ?_, h.numbered, h.length_le⟩
  change { s.books with notices := s.books.notices.map (· ++ [n]) } = _
  rw [h.books]
  rfl

theorem meets_newEntry (scpi : String) (hin : InHand (delivered p.calls) none p.entries) :
    Meets (terms b mode) (Stands b mode p 0) (newEntry scpi) fun record s e =>
      (∃ time, e = .pending (b.number p.taken) time scpi) ∧
        Stands b mode { p with taken := p.taken + 1 } 0 record s := by
  refine meets_newId.bind fun id => meets_and fun hid => ?_
  refine (meets_now hin).bind fun time => meets_pure _ fun record s _ h => ?_
  exact ⟨⟨time, by rw [hid]⟩, h⟩

theorem isReading_instrumentError (id : EntryId) (time : Timestamp) (error : String) :
    IsReading error (.instrumentError id time error) :=
  ⟨rfl, (by decide : Kind.ofText Entry.errorQuery = .query), rfl, rfl, rfl, rfl⟩

theorem meets_newErrors (errors : List String) (hin : InHand (delivered p.calls) none p.entries) :
    Meets (terms b mode) (Stands b mode p 0) (newErrors errors) fun record s es =>
      (List.Forall₂ IsReading errors es ∧
        es.map Entry.id = (List.range' p.taken errors.length).map b.number) ∧
        Stands b mode { p with taken := p.taken + errors.length } 0 record s := by
  induction errors generalizing p with
  | nil => exact meets_pure _ fun _ _ _ h => ⟨⟨.nil, rfl⟩, h⟩
  | cons error rest ih =>
    refine meets_newId.bind fun id => meets_and fun hid => ?_
    refine (meets_now hin).bind fun time => ?_
    refine (ih (p := { p with taken := p.taken + 1 }) hin).bind fun es =>
      meets_and fun hes => meets_pure _ fun record s _ h => ?_
    refine ⟨⟨.cons (isReading_instrumentError id time error) hes.1, ?_⟩, ?_⟩
    · rw [List.length_cons, List.range'_succ, List.map_cons, List.map_cons, hes.2, ← hid]
      rfl
    · simpa only [List.length_cons, Nat.add_assoc, Nat.add_comm 1] using h

/-! ## Dispatch -/

/-- The page with one more entry, and with what was asked for it. -/
def Page.withEntry (p : Page) (cs : List Call) (e : Entry) : Page where
  calls := p.calls ++ cs
  taken := p.taken + 1
  entries := p.entries ++ [e]
  notices := p.notices

theorem Page.Closed.inHand (hp : p.Closed) : InHand (delivered p.calls) none p.entries :=
  .booked hp.booked

theorem Page.Closed.inHand_pending (hp : p.Closed) {out : Option String} {e : Entry}
    (he : e.isPending = true) (hout : ∀ scpi ∈ out, e.scpi = scpi) :
    InHand (delivered (p.withEntry [] e).calls) out (p.withEntry [] e).entries := by
  rw [withEntry, List.append_nil]
  exact .pending hp.booked he hout

theorem delivered_concat (cs : List Call) (d : Delivery) :
    delivered (cs ++ [.send d]) = delivered cs ++ [d] := delivered_append _ _

theorem meets_logPending (hp : p.Closed) (scpi : String) :
    Meets (terms b mode) (Stands b mode p 0) (logPending mode scpi) fun record s e =>
      (∃ id time, e = .pending id time scpi) ∧ Stands b mode (p.withEntry [] e) 0 record s := by
  refine (meets_newEntry scpi hp.inHand).bind fun e => meets_and ?_
  rintro ⟨time, rfl⟩
  have happend : Meets (terms b mode) (Stands b mode { p with taken := p.taken + 1 } 0)
      (changeLog mode fun log => log.append (.pending (b.number p.taken) time scpi))
      fun record s _ =>
        Stands b mode (p.withEntry [] (.pending (b.number p.taken) time scpi)) 0 record s := by
    have hcalls : p.calls = p.calls ++ [] := (List.append_nil _).symm
    rw [Page.withEntry, ← hcalls]
    refine meets_changeLog (fun _ _ log hlog => ?_) (grows_append _ _) ?_ (fun hn => ?_) ?_
    · rw [Log.append, Log.publish, hlog, List.append_assoc]
    · exact .pending hp.booked rfl (fun _ h => by cases h)
    · exact numbered_concat.2 ⟨hn, by rw [hp.length_eq]; rfl⟩
    · simp [hp.length_eq]
  exact happend.bind fun _ => meets_pure _ fun _ _ _ h => ⟨⟨_, time, rfl⟩, h⟩

/-- The new entry is the one that is settled, since no other has its number. -/
theorem meets_settle (hp : p.Closed) (hb : b.Fresh mode) {d : Delivery} {e : Entry}
    {response : String} {isServerError : Bool} {elapsed : Elapsed} (he : e.isPending = true)
    (hd : IsOutcome d (e.settle response isServerError elapsed)) :
    Meets (terms b mode) (Stands b mode (p.withEntry [.send d] e) 0)
      (settle mode e.id response isServerError elapsed) fun record s _ =>
        Stands b mode (p.withEntry [.send d] (e.settle response isServerError elapsed)) 0 record s := by
  refine meets_changeLog (fun hn hleft log hlog => ?_) ?_ ?_ (fun hn => ?_) ?_
  · have hn := numbered_concat.1 hn
    have hlt : b.ids.next.toNat + p.entries.length < UInt64.size := by
      change b.ids.next.toNat + (p.taken + 1) ≤ UInt64.size at hleft
      rw [hp.length_eq]
      omega
    have hother := id_ne_number hb hn.1 hlt
    rw [← hn.2] at hother
    change Log.modifyFirst _ _ log.entries = _
    rw [hlog, Page.withEntry, ← List.append_assoc, Log.modifyFirst_concat hother rfl,
      List.append_assoc]
  · exact Grows.append_left _ (.cons (.inr ⟨he, _, _, _, rfl⟩) (.nil _))
  · rw [Page.withEntry, delivered_concat]
    exact .settled hp.booked rfl hd
  · have hn := numbered_concat.1 hn
    exact numbered_concat.2 hn
  · simp [Page.withEntry, hp.length_eq]

/-- The errors come in right behind the entry of their command, which is the last one. -/
theorem meets_addErrors (hp : p.Closed) (hb : b.Fresh mode) {d : Delivery} {e : Entry}
    (he : IsOutcome d e) :
    Meets (terms b mode) (Stands b mode (p.withEntry [.send d] e) 0)
      (addErrors mode e.id d.errors) fun record s _ =>
        ∃ errors, IsBlock d (e :: errors) ∧
          Stands b mode
            ⟨p.calls ++ [.send d], p.taken + 1 + errors.length, p.entries ++ e :: errors, p.notices⟩ 0
            record s := by
  have hin : InHand (delivered (p.withEntry [.send d] e).calls) none
      (p.withEntry [.send d] e).entries := by
    rw [Page.withEntry, delivered_concat]
    exact .settled hp.booked rfl he
  refine (meets_newErrors d.errors hin).bind fun errors => meets_and ?_
  rintro ⟨hread, hids⟩
  have hblock : IsBlock d (e :: errors) := ⟨e, errors, rfl, he, hread⟩
  rw [hread.length_eq] at hids ⊢
  split
  · next hnone =>
    obtain rfl := List.isEmpty_iff.1 hnone
    exact meets_pure _ fun _ _ _ h => ⟨[], hblock, h⟩
  · next hsome =>
    have hbooked : Booked (delivered (p.calls ++ [.send d])) (p.entries ++ e :: errors) := by
      rw [delivered_concat]
      exact hp.booked.append hblock.booked
    have hchange : Meets (terms b mode)
        (Stands b mode
          ⟨p.calls ++ [.send d], p.taken + 1 + errors.length, p.entries ++ [e], p.notices⟩ 0)
        (changeLog mode fun log => log.insertAfter e.id errors) fun record s _ =>
          Stands b mode
            ⟨p.calls ++ [.send d], p.taken + 1 + errors.length, p.entries ++ e :: errors, p.notices⟩
            0 record s := by
      refine meets_changeLog (fun hn hleft log hlog => ?_) ?_ (.booked hbooked) (fun hn => ?_) ?_
      · have hn := numbered_concat.1 hn
        have hlt : b.ids.next.toNat + p.entries.length < UInt64.size := by
          rw [hp.length_eq]
          dsimp only at hleft
          omega
        have hother := id_ne_number hb hn.1 hlt
        rw [← hn.2] at hother
        change (if errors.isEmpty then log else
          log.publish (Log.insertBehind e.id errors log.entries)).entries = _
        rw [if_neg hsome, hlog, ← List.append_assoc, Log.publish, Log.insertBehind_concat hother rfl]
        simp
      · exact Grows.append_left _ (grows_append [e] errors)
      · have hfollow : errors.map Entry.id =
            (List.range' (p.entries ++ [e]).length errors.length).map b.number := by
          rw [hids, List.length_append, hp.length_eq]
          rfl
        simpa using numbered_append hn hfollow
      · simp only [List.length_append, List.length_cons, hp.length_eq]
        omega
    exact hchange.imp fun _ _ _ _ h => ⟨errors, hblock, h⟩

/-- What a sender is told about a delivery. -/
structure Reports (d : Delivery) (block : List Entry) (o : Outcome) : Prop where
  id : block.head?.map Entry.id = some o.id
  scpi : o.scpi = d.scpi
  response : o.response = d.outcome.1
  isServerError : o.isServerError = d.outcome.2
  errors : o.errors = d.errors.length

/-- A delivery is on the page with its block, and reported. -/
def Delivered (b : Books) (mode : Mode) (p : Page) (d : Delivery) (record : Record) (s : Session)
    (o : Outcome) : Prop :=
  ∃ block, IsBlock d block ∧ Reports d block o ∧ Stands b mode (p.add d block) 0 record s

theorem isOutcome_settle (id : EntryId) (time : Timestamp) (d : Delivery) (elapsed : Elapsed) :
    IsOutcome d ((Entry.pending id time d.scpi).settle d.outcome.1 d.outcome.2 elapsed) where
  scpi := rfl
  kind := by
    change (if d.scpi.toList.contains '?' then Kind.query else .command) = .query ↔ _
    by_cases h : '?' ∈ d.scpi.toList <;> simp [h]
  response := rfl
  isServerError := rfl
  hideTime := rfl
  minimized := rfl

theorem outcome_ok (scpi : String) (connection : Connection) (reply : Reply) :
    (⟨scpi, connection, .ok reply⟩ : Delivery).outcome = reply.settled := by
  simp only [Delivery.outcome, Reply.settled, Bool.and_eq_true, Bool.not_eq_true', ne_eq,
    String.isEmpty_iff, ← Bool.not_eq_true]

theorem conclude_ok (id : EntryId) (scpi : String) (connection : Connection) (elapsed : Elapsed)
    (reply : Reply) :
    conclude mode id scpi elapsed (.ok reply) = (do
      let d : Delivery := ⟨scpi, connection, .ok reply⟩
      settle mode id d.outcome.1 d.outcome.2 elapsed
      addErrors mode id d.errors
      pure ⟨id, scpi, d.outcome.1, d.outcome.2, d.errors.length⟩) := by
  simp only [outcome_ok]
  rfl

theorem meets_conclude (hp : p.Closed) (hb : b.Fresh mode) {scpi : String} {connection : Connection}
    {e : Entry} (he : ∃ id time, e = .pending id time scpi) (elapsed : Elapsed)
    (answer : Except ServerError Reply) :
    Meets (terms b mode)
      (Stands b mode (p.withEntry [.send ⟨scpi, connection, answer⟩] e) 0)
      (conclude mode e.id scpi elapsed answer)
      (Delivered b mode p ⟨scpi, connection, answer⟩) := by
  obtain ⟨id, time, rfl⟩ := he
  cases answer with
  | ok reply =>
    have hd := isOutcome_settle id time ⟨scpi, connection, .ok reply⟩ elapsed
    rw [conclude_ok _ _ connection]
    refine (meets_settle hp hb rfl hd).bind fun _ => (meets_addErrors hp hb hd).bind fun _ => ?_
    refine meets_exists fun errors => meets_and fun hblock => meets_pure _ fun record s _ h => ?_
    refine ⟨_, hblock, ⟨rfl, rfl, rfl, rfl, rfl⟩, ?_⟩
    have hnews : p.notices.map (· ++ []) = p.notices := by simp
    rw [Page.add, Delivery.news, hnews, List.length_cons, Nat.add_comm errors.length, ← Nat.add_assoc]
    exact h
  | error problem =>
    have hd := isOutcome_settle id time ⟨scpi, connection, .error problem⟩ elapsed
    refine (meets_settle hp hb rfl hd).bind fun _ => (meets_notify _).bind fun _ =>
      meets_pure _ fun record s _ h => ⟨[_], ⟨_, [], rfl, hd, .nil⟩, ⟨rfl, rfl, rfl, rfl, rfl⟩, ?_⟩
    exact h

/-- The command goes out with its entry in the log. -/
theorem meets_send (hp : p.Closed) {e : Entry} (he : e.isPending = true) (connection : Connection) :
    Meets (terms b mode) (Stands b mode (p.withEntry [] e) 0)
      (perform (.request (.send e.scpi connection))) fun record s answer =>
        Stands b mode (p.withEntry [.send ⟨e.scpi, connection, answer⟩] e) 0 record s := by
  have hin : InHand (delivered (p.withEntry [] e).calls) (some e.scpi) (p.withEntry [] e).entries :=
    hp.inHand_pending he fun _ h => Option.some.inj h
  have h : Meets (terms b mode) _ _ _ := meets_perform (.request (.send e.scpi connection)) hin
  simpa [Page.withEntry, underWay, dates, call?] using h

/-- **Dispatch.** A command goes out once its entry is in the log. Its block is complete before the act
goes on, and is all that the act adds to the log. -/
theorem meets_dispatchOver (hp : p.Closed) (hb : b.Fresh mode) (connection : Connection)
    (scpi : String) :
    Meets (terms b mode) (Stands b mode p 0) (dispatchOver connection mode scpi)
      fun record s o =>
        ∃ answer, Delivered b mode p ⟨normalized scpi, connection, answer⟩ record s o := by
  refine (meets_logPending hp (normalized scpi)).bind fun e => meets_and fun he => ?_
  obtain ⟨hpending, hscpi⟩ : e.isPending = true ∧ e.scpi = normalized scpi := by
    obtain ⟨id, time, rfl⟩ := he
    exact ⟨rfl, rfl⟩
  rw [← hscpi] at he ⊢
  have hbefore : InHand (delivered (p.withEntry [] e).calls) none (p.withEntry [] e).entries :=
    hp.inHand_pending hpending fun _ h => by cases h
  refine (meets_perform_plain (e := .uptime) (fun _ => rfl) rfl hbefore).bind fun start => ?_
  -- From here on the delivery is on record, and only the log has to follow.
  refine (meets_send hp hpending connection).bind fun answer => ?_
  have hafter : InHand (delivered (p.withEntry [.send ⟨e.scpi, connection, answer⟩] e).calls) none
      (p.withEntry [.send ⟨e.scpi, connection, answer⟩] e).entries := by
    rw [Page.withEntry, delivered_concat]
    exact .answered hp.booked rfl hpending rfl
  refine (meets_perform_plain (e := .uptime) (fun _ => rfl) rfl hafter).bind fun stop => ?_
  exact (meets_conclude hp hb he _ answer).imp fun _ _ _ _ h => ⟨answer, h⟩

theorem meets_dispatch (hp : p.Closed) (hb : b.Fresh mode) (scpi : String) :
    Meets (terms b mode) (Stands b mode p 0) (dispatch mode scpi) fun record s o =>
      ∃ d, d.scpi = normalized scpi ∧ Delivered b mode p d record s o := by
  refine meets_get_bind_of_forall fun s => (meets_dispatchOver hp hb s.connection scpi).imp ?_
  exact fun _ _ _ _ ⟨answer, h⟩ => ⟨⟨normalized scpi, s.connection, answer⟩, rfl, h⟩

end

end ScpiConsole.Session
