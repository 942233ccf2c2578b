import Mathlib.Data.List.Forall2
import Mathlib.Logic.Function.Basic
import ScpiConsole.Proofs.Act.Terms
import ScpiConsole.Session.Dispatch
/-!
# The books of a session

What went out is on record, and what came back is in the log. The two agree entry by entry.

* `Call`, `calls` : the commands and the questions for a stop on a record; `deliveries`, the commands
* `IsBlock`, `Booked` : the entries that a delivery leaves, and a log of deliveries
* `InHand` : the same with a delivery under way
* `Grows` : what happens to a log from one moment to the next
* `Books`, `Page`, `Books.after` : the part of a session that sending commands works on
-/

namespace ScpiConsole.Session

/-! ## Deliveries -/

/-- A command that went out, with what came back. -/
structure Delivery where
  scpi : String
  connection : Connection
  answer : Except ServerError Reply

namespace Delivery

/-- The response to log, and whether it is an error. An error of the server takes the place of an empty
response, and a command that did not get through is answered with the reason. -/
def outcome (d : Delivery) : String × Bool :=
  match d.answer with
  | .ok reply =>
    if reply.response = "" ∧ reply.serverError ≠ "" then (reply.serverError, true)
    else (reply.response, false)
  | .error e => (e.message, true)

/-- The errors that the instrument reported. -/
def errors (d : Delivery) : List String :=
  match d.answer with
  | .ok reply => reply.errors
  | .error _ => []

/-- The news for the operator. -/
def news (d : Delivery) : List Notification :=
  match d.answer with
  | .ok _ => []
  | .error e => [.transport d.scpi e.message]

end Delivery

/-- What is asked of the server or of the operator. -/
inductive Call where
  /-- Whether to stop. -/
  | check (stop : Bool)
  | send (d : Delivery)
  /-- A request that is no command. -/
  | other (r : Request)

/-- An exchange with the server or the operator. -/
def call? : Exchange → Option Call
  | ⟨.request (.send scpi connection), answer⟩ => some (.send ⟨scpi, connection, answer⟩)
  | ⟨.request r, _⟩ => some (.other r)
  | ⟨.cancelled, stop⟩ => some (.check stop)
  | _ => none

def calls (record : Record) : List Call := record.filterMap call?

def Call.delivery? : Call → Option Delivery
  | .send d => some d
  | _ => none

/-- The commands among some calls. -/
def delivered (cs : List Call) : List Delivery := cs.filterMap Call.delivery?

/-- The commands on record. -/
def deliveries (record : Record) : List Delivery := delivered (calls record)

/-- An entry gets its number together with its time. -/
def dates : Effect → Bool
  | .now => true
  | _ => false

/-- How many numbers were given to entries. -/
def taken (record : Record) : Nat := record.countP fun x => dates x.effect

section

variable (record more : Record)

theorem calls_append : calls (record ++ more) = calls record ++ calls more :=
  List.filterMap_append

theorem delivered_append (cs cs' : List Call) :
    delivered (cs ++ cs') = delivered cs ++ delivered cs' := List.filterMap_append

theorem taken_append : taken (record ++ more) = taken record + taken more := List.countP_append

end

/-- Answers for closed instances: `replies` come back one after the other, and then the server cannot be
reached. The operator stops a run behind `patience` commands. -/
def scripted (replies : List Reply) (patience : Nat) : Oracle := fun record e =>
  match e with
  | .request (.send _ _) =>
    match replies[(deliveries record).length]? with
    | some reply => .ok reply
    | none => .error .unreachable
  | .request _ => .error .unreachable
  | .openState => .ok ()
  | .load _ => none
  | .save _ _ => .ok ()
  | .now => .epoch
  | .uptime => 0
  | .cancelled => patience ≤ (deliveries record).length
  | .readBytes _ => .ok []
  | .writeText _ _ => .ok ()
  | .clipboard => .ok ""
  | .print _ | .complain _ | .rawMode _ | .await => ()

/-! ## Blocks -/

/-- The entry of a command that was answered. -/
structure IsOutcome (d : Delivery) (e : Entry) : Prop where
  scpi : e.scpi = d.scpi
  kind : e.kind = .query ↔ '?' ∈ d.scpi.toList
  response : e.response = some d.outcome.1
  isServerError : e.isServerError = d.outcome.2
  hideTime : e.hideTime = false
  minimized : e.minimized = false

/-- The entry of an error that the instrument reported. -/
structure IsReading (error : String) (e : Entry) : Prop where
  scpi : e.scpi = ":SYST:ERR?"
  kind : e.kind = .query
  response : e.response = some error
  isServerError : e.isServerError = false
  hideTime : e.hideTime = true
  minimized : e.minimized = false

/-- The entry of a command, followed by those of the errors that the instrument reported. -/
def IsBlock (d : Delivery) (block : List Entry) : Prop :=
  ∃ head errors, block = head :: errors ∧ IsOutcome d head ∧ List.Forall₂ IsReading d.errors errors

/-- One block for each delivery. -/
def Booked (ds : List Delivery) (es : List Entry) : Prop :=
  ∃ blocks, List.Forall₂ IsBlock ds blocks ∧ es = blocks.flatten

theorem booked_nil : Booked [] [] := ⟨[], .nil, rfl⟩

theorem Booked.append {ds ds' : List Delivery} {es es' : List Entry} (h : Booked ds es)
    (h' : Booked ds' es') : Booked (ds ++ ds') (es ++ es') := by
  obtain ⟨blocks, hblocks, rfl⟩ := h
  obtain ⟨blocks', hblocks', rfl⟩ := h'
  exact ⟨blocks ++ blocks', List.rel_append hblocks hblocks', List.flatten_append.symm⟩

theorem IsBlock.booked {d : Delivery} {block : List Entry} (h : IsBlock d block) :
    Booked [d] block := ⟨[block], .cons h .nil, by simp⟩

theorem IsOutcome.isPending {d : Delivery} {e : Entry} (h : IsOutcome d e) : e.isPending = false := by
  simp [Entry.isPending, h.response]

theorem IsReading.isPending {error : String} {e : Entry} (h : IsReading error e) :
    e.isPending = false := by
  simp [Entry.isPending, h.response]

theorem IsBlock.isPending {d : Delivery} {block : List Entry} (h : IsBlock d block) :
    ∀ e ∈ block, e.isPending = false := by
  obtain ⟨head, errors, rfl, hhead, herrors⟩ := h
  refine List.forall_mem_cons.2 ⟨hhead.isPending, fun e he => ?_⟩
  generalize d.errors = reported at herrors
  induction herrors with
  | nil => cases he
  | cons hreading _ ih =>
    rcases List.mem_cons.1 he with rfl | he
    · exact hreading.isPending
    · exact ih he

/-- A command that was answered is pending no more. -/
theorem Booked.isPending {ds : List Delivery} {es : List Entry} (h : Booked ds es) :
    ∀ e ∈ es, e.isPending = false := by
  obtain ⟨blocks, hblocks, rfl⟩ := h
  intro e he
  induction hblocks with
  | nil => cases he
  | cons hblock _ ih =>
    rw [List.flatten_cons, List.mem_append] at he
    exact he.elim (hblock.isPending e) ih

/-! ## A delivery under way -/

/-- The command that waits for the server. -/
def outgoing : Effect → Option String
  | .request (.send scpi _) => some scpi
  | _ => none

/-- One block for each delivery, but for the last command, which may be under way. The command `out`
waits for the server. -/
inductive InHand (ds : List Delivery) : Option String → List Entry → Prop where
  | booked {es : List Entry} (h : Booked ds es) : InHand ds none es
  /-- The entry is in the log, and the command goes out. -/
  | pending {out : Option String} {es : List Entry} {e : Entry} (h : Booked ds es)
      (he : e.isPending = true) (hout : ∀ scpi ∈ out, e.scpi = scpi) : InHand ds out (es ++ [e])
  /-- The answer is there, and the entry does not show it yet. -/
  | answered {before : List Delivery} {d : Delivery} {es : List Entry} {e : Entry}
      (h : Booked before es) (hds : ds = before ++ [d]) (he : e.isPending = true)
      (hscpi : e.scpi = d.scpi) : InHand ds none (es ++ [e])
  /-- The entry shows the answer, and the errors of the instrument are not yet in the log. -/
  | settled {before : List Delivery} {d : Delivery} {es : List Entry} {e : Entry}
      (h : Booked before es) (hds : ds = before ++ [d]) (he : IsOutcome d e) :
      InHand ds none (es ++ [e])

theorem InHand.booked_append {ds₀ ds : List Delivery} {out : Option String} {es₀ es : List Entry}
    (h₀ : Booked ds₀ es₀) (h : InHand ds out es) : InHand (ds₀ ++ ds) out (es₀ ++ es) := by
  cases h with
  | booked h => exact .booked (h₀.append h)
  | pending h he hout =>
    rw [← List.append_assoc]
    exact .pending (h₀.append h) he hout
  | answered h hds he hscpi =>
    rw [← List.append_assoc]
    exact .answered (h₀.append h) (by rw [hds, List.append_assoc]) he hscpi
  | settled h hds he =>
    rw [← List.append_assoc]
    exact .settled (h₀.append h) (by rw [hds, List.append_assoc]) he

/-- All but the last entry are settled. -/
theorem InHand.isPending_dropLast {ds : List Delivery} {out : Option String} {es : List Entry}
    (h : InHand ds out es) : ∀ e ∈ es.dropLast, e.isPending = false := by
  cases h with
  | booked h => exact fun e he => h.isPending e (List.dropLast_subset _ he)
  | pending h | answered h | settled h =>
    rw [List.dropLast_concat]
    exact h.isPending

/-- What is pending comes last. -/
theorem InHand.length_of_isPending {ds : List Delivery} {out : Option String} {es : List Entry}
    (h : InHand ds out es) {n : Nat} {e : Entry} (hn : es[n]? = some e) (he : e.isPending = true) :
    n + 1 = es.length := by
  obtain ⟨hlt, -⟩ := List.getElem?_eq_some_iff.1 hn
  by_contra hne
  have hmem : e ∈ es.dropLast := by
    refine List.mem_of_getElem? (i := n) ?_
    rw [List.getElem?_dropLast, if_pos (by omega), hn]
  rw [h.isPending_dropLast e hmem] at he
  cases he

/-! ## Growing logs -/

/-- The entry stays, or its command is answered. -/
def Leads (e e' : Entry) : Prop :=
  e' = e ∨ e.isPending = true ∧ ∃ response isServerError elapsed,
    e' = e.settle response isServerError elapsed

/-- Every entry stays in its place, at most settled. New ones come at the end. -/
inductive Grows : List Entry → List Entry → Prop where
  | nil (new : List Entry) : Grows [] new
  | cons {e e' : Entry} {es es' : List Entry} (h : Leads e e') (hs : Grows es es') :
      Grows (e :: es) (e' :: es')

theorem Leads.trans {e e' e'' : Entry} (h : Leads e e') (h' : Leads e' e'') : Leads e e'' := by
  rcases h with rfl | ⟨hpending, response, flag, elapsed, rfl⟩
  · exact h'
  · rcases h' with rfl | ⟨hsettled, -⟩
    · exact .inr ⟨hpending, response, flag, elapsed, rfl⟩
    · cases hsettled

theorem Grows.trans {es es' es'' : List Entry} (h : Grows es es') (h' : Grows es' es'') :
    Grows es es'' := by
  induction h generalizing es'' with
  | nil new => exact .nil es''
  | cons h _ ih =>
    cases h' with
    | cons h' hs' => exact .cons (h.trans h') (ih hs')

theorem Grows.append_left (before : List Entry) {es es' : List Entry} (h : Grows es es') :
    Grows (before ++ es) (before ++ es') := by
  induction before with
  | nil => exact h
  | cons e before ih => exact .cons (.inl rfl) ih

theorem grows_append (es new : List Entry) : Grows es (es ++ new) := by
  have h := Grows.append_left es (.nil new)
  rwa [List.append_nil] at h

theorem Grows.refl (es : List Entry) : Grows es es := by
  have h := grows_append es []
  rwa [List.append_nil] at h

/-! ## Pages -/

/-- What commands in flight share. -/
structure Books where
  busy : Bool
  ids : IdSource
  logs : Mode → List Entry
  notices : Option (List Notification)

def books (s : Session) : Books := ⟨s.busy, s.ids, fun mode => (s.logOf mode).entries, s.notices⟩

theorem books_setLog (s : Session) (mode : Mode) (log : Log) :
    (s.setLog mode log).books =
      { s.books with logs := Function.update s.books.logs mode log.entries } := by
  have hlogs : (fun m => ((s.setLog mode log).logOf m).entries) =
      Function.update (fun m => (s.logOf m).entries) mode log.entries := by
    funext other
    by_cases h : other = mode
    · subst h
      rw [logOf_setLog, Function.update_self]
    · rw [logOf_setLog_of_ne s h, Function.update_of_ne h]
  cases mode <;> exact congrArg (Books.mk s.busy s.ids · s.notices) hlogs

/-- What an act did to the books. -/
structure Page where
  /-- What it asked for. -/
  calls : List Call
  /-- How many numbers it took. -/
  taken : Nat
  /-- What it added to the log. -/
  entries : List Entry
  notices : Option (List Notification)

/-- The books with a page added, in the hands of an act that took some more numbers. -/
def Books.after (b : Books) (mode : Mode) (p : Page) (more : Nat) : Books where
  busy := true
  ids := ⟨b.ids.next + UInt64.ofNat (p.taken + more)⟩
  logs := Function.update b.logs mode (b.logs mode ++ p.entries)
  notices := p.notices

theorem Books.logs_after (b : Books) (mode : Mode) (p : Page) (more : Nat) :
    (b.after mode p more).logs mode = b.logs mode ++ p.entries := Function.update_self ..

theorem Books.logs_after_of_ne (b : Books) {mode other : Mode} (h : other ≠ mode) (p : Page)
    (more : Nat) : (b.after mode p more).logs other = b.logs other := Function.update_of_ne h ..

/-- Nothing but the entries of the page may change, and these grow. -/
theorem Books.grows_after (b : Books) (mode : Mode) {p p' : Page} {more more' : Nat}
    (h : Grows p.entries p'.entries) (other : Mode) :
    Grows ((b.after mode p more).logs other) ((b.after mode p' more').logs other) := by
  by_cases hother : other = mode
  · subst hother
    rw [Books.logs_after, Books.logs_after]
    exact h.append_left _
  · rw [b.logs_after_of_ne hother, b.logs_after_of_ne hother]
    exact .refl _

end ScpiConsole.Session

namespace ScpiConsole.Log

/-! ## The last entry of a log -/

theorem modifyFirst_concat {id : EntryId} {es : List Entry} {e : Entry}
    (hes : ∀ x ∈ es, x.id ≠ id) (he : e.id = id) (change : Entry → Entry) :
    modifyFirst id change (es ++ [e]) = es ++ [change e] := by
  induction es with
  | nil => simp [modifyFirst, he]
  | cons x es ih =>
    obtain ⟨hx, hes⟩ := List.forall_mem_cons.1 hes
    simp [modifyFirst, hx, ih hes]

theorem insertBehind_concat {id : EntryId} {es : List Entry} {e : Entry}
    (hes : ∀ x ∈ es, x.id ≠ id) (he : e.id = id) (new : List Entry) :
    insertBehind id new (es ++ [e]) = es ++ [e] ++ new := by
  induction es with
  | nil => simp [insertBehind, he]
  | cons x es ih =>
    obtain ⟨hx, hes⟩ := List.forall_mem_cons.1 hes
    simp [insertBehind, hx, ih hes]

end ScpiConsole.Log
