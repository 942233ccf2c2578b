import Mathlib.Algebra.Group.Nat.Defs
import Mathlib.Data.List.Perm.Basic
import ScpiConsole.Proofs.Act.Waits
import ScpiConsole.Proofs.Log.Selection
import ScpiConsole.Proofs.Session.Books
import ScpiConsole.Proofs.Session.Restart
/-!
# The numbers of entries

All logs get their numbers from one source, and a stored log moves it on. So the numbers in a log stay
apart whatever is sent, cleared, taken up and marked, and a mark goes to the entry that was selected.

* `Handling`, `handled` : what is done to logs, one after the other
* `issuedBy`, `takenUpLogs` : the numbers handed out meanwhile, and the stored logs that were taken up
* `Files` : an act puts the numbers it takes into one log
* `Apart` : the invariant, with the numbers that are still to be handed out
* `ids_apart` : what it comes to
-/

namespace ScpiConsole

/-! ## The source -/

namespace IdSource

/-- The source when some numbers have been taken. -/
def after (ids : IdSource) (count : Nat) : IdSource := ⟨ids.next + UInt64.ofNat count⟩

/-- The next numbers in their order. -/
def upcoming (ids : IdSource) (count : Nat) : List EntryId :=
  (List.range count).map fun k => (ids.after k).fresh.1

variable (ids : IdSource) (count : Nat)

theorem after_zero : ids.after 0 = ids := congrArg mk (UInt64.add_zero ids.next)

theorem after_add (more : Nat) : ids.after (count + more) = (ids.after count).after more := by
  rw [after, after, after, UInt64.ofNat_add, UInt64.add_assoc]

theorem upcoming_add (more : Nat) :
    ids.upcoming (count + more) = ids.upcoming count ++ (ids.after count).upcoming more := by
  simp only [upcoming, List.range_add, List.map_append, List.map_map, Function.comp_def, after_add]

theorem upcoming_succ : ids.upcoming (count + 1) = ⟨ids.next⟩ :: (ids.after 1).upcoming count := by
  rw [Nat.add_comm, upcoming_add]
  exact congrArg (· :: _) (congrArg (·.fresh.1) ids.after_zero)

theorem toNat_after {count : Nat} (h : ids.next.toNat + count < UInt64.size) :
    (ids.after count).next.toNat = ids.next.toNat + count := by
  have hcount : count < UInt64.size := by omega
  rw [after, UInt64.toNat_add, UInt64.toNat_ofNat_of_lt' hcount, Nat.mod_eq_of_lt h]

theorem mem_upcoming {count : Nat} (h : ids.next.toNat + count ≤ UInt64.size) {id : EntryId} :
    id ∈ ids.upcoming count ↔
      ids.next.toNat ≤ id.value.toNat ∧ id.value.toNat < ids.next.toNat + count := by
  rw [upcoming, List.mem_map]
  constructor
  · rintro ⟨k, hk, rfl⟩
    rw [List.mem_range] at hk
    have hnumber : (ids.after k).next.toNat = ids.next.toNat + k := toNat_after ids (by omega)
    simp only [fresh, hnumber]
    omega
  · rintro ⟨hle, hlt⟩
    obtain ⟨k, hk⟩ := Nat.exists_eq_add_of_le hle
    refine ⟨k, List.mem_range.2 (by omega), congrArg EntryId.mk (UInt64.toNat_inj.1 ?_)⟩
    rw [toNat_after ids (by omega), hk]

theorem nodup_upcoming {count : Nat} (h : ids.next.toNat + count ≤ UInt64.size) :
    (ids.upcoming count).Nodup := by
  refine List.Nodup.map_on (fun j hj k hk heq => ?_) List.nodup_range
  rw [List.mem_range] at hj hk
  have hvalue := congrArg (·.value.toNat) heq
  simp only [fresh] at hvalue
  rw [toNat_after ids (by omega), toNat_after ids (by omega)] at hvalue
  omega

/-- What a reservation comes to while there is room above the number: the source lies above it, and has
gone no further than it had to. -/
theorem reserve_spec {ids : IdSource} {id : EntryId} {room : Nat} (hnext : ids.next.toNat + room ≤ UInt64.size)
    (hid : id.value.toNat + room < UInt64.size) :
    ids.next ≤ (ids.reserve id).next ∧ (ids.reserve id).next.toNat + room ≤ UInt64.size ∧
      (0 < room → id.value < (ids.reserve id).next) := by
  rw [reserve]
  simp only [UInt64.le_iff_toNat_le, UInt64.lt_iff_toNat_lt]
  by_cases htop : id.value.toNat + 1 < UInt64.size
  · have habove : (id.value + 1).toNat = id.value.toNat + 1 := by
      rw [UInt64.toNat_add]
      exact Nat.mod_eq_of_lt htop
    rw [if_pos htop, habove]
    split
    · simp only [habove]
      omega
    · omega
  · rw [if_neg htop]
    split
    · dsimp only
      omega
    · omega

end IdSource

theorem Log.reserveIds_spec {log : Log} {room : Nat} {ids : IdSource}
    (hnext : ids.next.toNat + room ≤ UInt64.size)
    (hids : ∀ e ∈ log.entries, e.id.value.toNat + room < UInt64.size) :
    ids.next ≤ (log.reserveIds ids).next ∧ (log.reserveIds ids).next.toNat + room ≤ UInt64.size ∧
      (0 < room → ∀ e ∈ log.entries, e.id.value < (log.reserveIds ids).next) := by
  rw [reserveIds]
  generalize log.entries = es at hids
  induction es generalizing ids with
  | nil => exact ⟨UInt64.le_refl _, hnext, fun _ => List.forall_mem_nil _⟩
  | cons e rest ih =>
    obtain ⟨he, hrest⟩ := List.forall_mem_cons.1 hids
    obtain ⟨hle, hroom, habove⟩ := IdSource.reserve_spec hnext he
    obtain ⟨hle', hroom', habove'⟩ := ih hroom hrest
    refine ⟨UInt64.le_trans hle hle', hroom', fun hpos => List.forall_mem_cons.2 ⟨?_, habove' hpos⟩⟩
    exact UInt64.lt_of_lt_of_le (habove hpos) hle'

namespace Session

/-! ## What is done to logs -/

/-- What is done to the logs of a session. -/
inductive Handling where
  | dispatch (connection : Connection) (mode : Mode) (scpi : String)
  | clear (mode : Mode)
  | load (mode : Mode)
  | minimize (mode : Mode) (selection : Selection) (minimized : Bool)

def Handling.act : Handling → Act Session Unit
  | .dispatch connection mode scpi => do
    let _ ← dispatchOver connection mode scpi
  | .clear mode => changeLog mode Log.clear
  | .load mode => loadLog mode
  | .minimize mode selection minimized => do
    let _ ← Session.minimize mode selection minimized

/-- The number that was handed out just now. An entry gets its number together with its time. -/
def issued? (w : Session × Effect) : Option EntryId :=
  if dates w.2 then some ⟨w.1.ids.next - 1⟩ else none

/-- The numbers handed out, in their order. -/
def issued (waits : List (Session × Effect)) : List EntryId := waits.filterMap issued?

/-- A stored log that was taken up. -/
def takenUp? : Exchange → Option (Mode × Log)
  | ⟨.load .interactiveLog, stored⟩ => some (.interactive, .ofStored stored)
  | ⟨.load .scriptLog, stored⟩ => some (.script, .ofStored stored)
  | _ => none

/-- The stored logs that were taken up. -/
def takenUpLogs (record : Record) : List (Mode × Log) := record.filterMap takenUp?

/-- The numbers in the log of a mode. -/
def idsIn (s : Session) (mode : Mode) : List EntryId := (s.logOf mode).entries.map Entry.id

theorem issued_nil : issued [] = [] := rfl

theorem issued_append (ws ws' : List (Session × Effect)) :
    issued (ws ++ ws') = issued ws ++ issued ws' := List.filterMap_append

theorem idsIn_setLog (s : Session) (mode : Mode) (log : Log) :
    (s.setLog mode log).idsIn mode = log.entries.map Entry.id := by
  rw [idsIn, logOf_setLog]

theorem idsIn_setLog_of_ne (s : Session) {mode other : Mode} (h : other ≠ mode) (log : Log) :
    (s.setLog mode log).idsIn other = s.idsIn other := by
  rw [idsIn, logOf_setLog_of_ne s h, idsIn]

theorem logOf_withIds (s : Session) (ids : IdSource) (mode : Mode) :
    ({ s with ids } : Session).logOf mode = s.logOf mode := by
  cases mode <;> rfl

theorem idsIn_withIds (s : Session) (ids : IdSource) (mode : Mode) :
    ({ s with ids } : Session).idsIn mode = s.idsIn mode := by
  rw [idsIn, logOf_withIds, idsIn]

theorem ids_setLog (s : Session) (mode : Mode) (log : Log) : (s.setLog mode log).ids = s.ids := by
  cases mode <;> rfl

/-! ## What an act files -/

/-- New numbers were taken from the source, and have come into the log of a mode. -/
structure Filed (mode : Mode) (s t : Session) (new : List EntryId) : Prop where
  ids : t.ids = s.ids.after new.length
  numbered : new = s.ids.upcoming new.length
  logs : ∀ m, (t.idsIn m).Perm (s.idsIn m ++ if m = mode then new else [])

theorem Filed.of_unchanged {mode : Mode} {s t : Session} (hids : t.ids = s.ids)
    (hlogs : ∀ m, t.idsIn m = s.idsIn m) : Filed mode s t [] where
  ids := hids.trans (IdSource.after_zero _).symm
  numbered := rfl
  logs m := by rw [hlogs, ite_self, List.append_nil]

theorem Filed.trans {mode : Mode} {s t u : Session} {new new' : List EntryId}
    (h : Filed mode s t new) (h' : Filed mode t u new') : Filed mode s u (new ++ new') where
  ids := by rw [h'.ids, h.ids, List.length_append, IdSource.after_add]
  numbered := by rw [List.length_append, IdSource.upcoming_add, ← h.numbered, ← h.ids, ← h'.numbered]
  logs m := by
    refine (h'.logs m).trans (((h.logs m).append_right _).trans ?_)
    split
    · rw [List.append_assoc]
    · rw [List.append_nil, List.append_nil]

variable {α β : Type} {o : Oracle}

/-- The act takes numbers, and puts them into the log of a mode. -/
def Files (o : Oracle) (mode : Mode) (x : Act Session α) : Prop :=
  ∀ s record, Filed mode s (x.alone o s record).1.1 (issued (x.waits o s record))

theorem Files.bind {mode : Mode} {x : Act Session α} {f : α → Act Session β} (hx : Files o mode x)
    (hf : ∀ a, Files o mode (f a)) : Files o mode (x >>= f) := by
  intro s record
  rw [Act.alone_bind, Act.waits_bind, issued_append]
  exact (hx s record).trans (hf _ _ _)

theorem files_pure (mode : Mode) (a : α) : Files o mode (pure a : Act Session α) := by
  intro s record
  rw [Act.alone_pure, Act.waits_pure]
  exact .of_unchanged rfl fun _ => rfl

theorem files_perform (mode : Mode) {e : Effect} (h : dates e = false) :
    Files o mode (Act.perform e) := by
  intro s record
  have hnone : issued [(s, e)] = [] := by simp [issued, issued?, h]
  rw [Act.alone_perform, Act.waits_perform, hnone]
  exact .of_unchanged rfl fun _ => rfl

theorem files_notify (mode : Mode) (n : Notification) : Files o mode (notify n) := by
  intro s record
  rw [notify, Act.alone_modify, Act.waits_modify]
  exact .of_unchanged rfl fun m => by cases m <;> rfl

theorem alone_changeLog (mode : Mode) (change : Log → Log) (s : Session) (record : Record) :
    ((changeLog mode change).alone o s record).1.1 = s.setLog mode (change (s.logOf mode)) := by
  rw [changeLog, Act.alone_bind, Act.alone_modify, Act.alone_get_bind, alone_remember]

theorem issued_changeLog (mode : Mode) (change : Log → Log) (s : Session) (record : Record) :
    issued ((changeLog mode change).waits o s record) = [] := by
  rw [changeLog, Act.waits_bind, Act.waits_modify, Act.waits_get_bind, remember, Act.waits_bind,
    Act.waits_perform, Act.waits_pure]
  rfl

/-- A change that leaves the numbers in place. -/
theorem files_changeLog (mode other : Mode) {change : Log → Log}
    (h : ∀ log, (change log).entries.map Entry.id = log.entries.map Entry.id) :
    Files o mode (changeLog other change) := by
  intro s record
  rw [alone_changeLog, issued_changeLog]
  refine .of_unchanged (ids_setLog ..) fun m => ?_
  by_cases hm : m = other
  · subst hm
    rw [idsIn_setLog, h, idsIn]
  · exact idsIn_setLog_of_ne s hm _

/-! ### Entries -/

/-- Entries were made with the next numbers, and are in no log yet. -/
structure Made (s t : Session) (es : List Entry) (new : List EntryId) : Prop where
  ids : t.ids = s.ids.after es.length
  numbered : new = s.ids.upcoming es.length
  entries : es.map Entry.id = new
  logs : ∀ m, t.logOf m = s.logOf m

/-- The entries come into the log, wherever. -/
theorem Made.filed {s t : Session} {es : List Entry} {new : List EntryId} (h : Made s t es new)
    (mode : Mode) {log : Log} (hlog : log.entries.Perm ((s.logOf mode).entries ++ es)) :
    Filed mode s (t.setLog mode log) new where
  ids := by rw [ids_setLog, h.ids, ← h.entries, List.length_map]
  numbered := by rw [← h.entries, List.length_map, h.entries, ← h.numbered]
  logs m := by
    by_cases hm : m = mode
    · subst hm
      have hids := hlog.map Entry.id
      rw [List.map_append, h.entries] at hids
      rwa [idsIn_setLog, if_pos rfl]
    · rw [idsIn_setLog_of_ne _ hm, idsIn, h.logs, if_neg hm, List.append_nil]
      exact .refl _

theorem alone_newId (s : Session) (record : Record) :
    newId.alone o s record = (({ s with ids := s.ids.fresh.2 }, s.ids.fresh.1), record) :=
  Act.alone_apply ..

theorem waits_newId (s : Session) (record : Record) : newId.waits o s record = [] :=
  Act.waits_apply ..

theorem issued_now (s : Session) :
    issued [({ s with ids := s.ids.fresh.2 }, Effect.now)] = [s.ids.fresh.1] := by
  have hlast : s.ids.fresh.2.next - 1 = s.ids.next := UInt64.add_sub_cancel ..
  exact congrArg (fun n => [EntryId.mk n]) hlast

theorem made_newEntry (scpi : String) (s : Session) (record : Record) :
    Made s ((newEntry scpi).alone o s record).1.1 [((newEntry scpi).alone o s record).1.2]
      (issued ((newEntry scpi).waits o s record)) := by
  rw [newEntry, Act.alone_bind, Act.waits_bind, alone_newId, waits_newId, Act.alone_bind,
    Act.waits_bind, Act.alone_perform, Act.waits_perform, Act.alone_pure, Act.waits_pure,
    List.append_nil, List.nil_append, issued_now]
  exact ⟨rfl, (s.ids.upcoming_succ 0).symm, rfl, fun m => by cases m <;> rfl⟩

theorem made_newErrors (errors : List String) (s : Session) (record : Record) :
    Made s ((newErrors errors).alone o s record).1.1 ((newErrors errors).alone o s record).1.2
      (issued ((newErrors errors).waits o s record)) := by
  induction errors generalizing s record with
  | nil =>
    rw [newErrors, Act.alone_pure, Act.waits_pure]
    exact ⟨(IdSource.after_zero _).symm, rfl, rfl, fun _ => rfl⟩
  | cons error rest ih =>
    rw [newErrors, Act.alone_bind, Act.waits_bind, alone_newId, waits_newId, Act.alone_bind,
      Act.waits_bind, Act.alone_perform, Act.waits_perform, Act.alone_bind, Act.waits_bind,
      Act.alone_pure, Act.waits_pure, List.append_nil, List.nil_append, issued_append, issued_now]
    have hrest := ih { s with ids := s.ids.fresh.2 } (record ++ [⟨.now, o record .now⟩])
    generalize (newErrors rest).alone o _ _ = made at *
    have hfirst : (⟨s.ids.fresh.2.next⟩ : IdSource) = s.ids.after 1 := rfl
    refine ⟨?_, ?_, ?_, fun m => (hrest.logs m).trans (by cases m <;> rfl)⟩
    · rw [hrest.ids, List.length_cons, Nat.add_comm, IdSource.after_add]
      rfl
    · rw [hrest.numbered, List.length_cons, IdSource.upcoming_succ]
      rfl
    · rw [List.map_cons, hrest.entries]
      rfl

theorem files_logPending (mode : Mode) (scpi : String) : Files o mode (logPending mode scpi) := by
  intro s record
  have hmade := made_newEntry (o := o) scpi s record
  rw [logPending, Act.alone_bind, Act.waits_bind, Act.alone_bind, Act.waits_bind, Act.alone_pure,
    Act.waits_pure, alone_changeLog, issued_append, issued_append, issued_changeLog]
  generalize (newEntry scpi).alone o s record = made at *
  rw [hmade.logs]
  have hlog : ((s.logOf mode).append made.1.2).entries.Perm
      ((s.logOf mode).entries ++ [made.1.2]) := .refl _
  rw [issued_nil, List.append_nil, List.append_nil]
  exact hmade.filed mode hlog

theorem files_addErrors (mode : Mode) (id : EntryId) (errors : List String) :
    Files o mode (addErrors mode id errors) := by
  intro s record
  have hmade := made_newErrors (o := o) errors s record
  rw [addErrors, Act.alone_bind, Act.waits_bind]
  generalize (newErrors errors).alone o s record = made at *
  generalize (newErrors errors).waits o s record = waits at *
  by_cases hempty : made.1.2.isEmpty = true
  · have hnil : made.1.2 = [] := List.isEmpty_iff.1 hempty
    have hnone : issued waits = [] := by rw [← hmade.entries, hnil, List.map_nil]
    rw [if_pos hempty, Act.alone_pure, Act.waits_pure, List.append_nil, hnone]
    rw [hnil] at hmade
    exact .of_unchanged (hmade.ids.trans (IdSource.after_zero _)) fun m => by
      rw [idsIn, hmade.logs, idsIn]
  · rw [if_neg hempty, alone_changeLog, issued_append, issued_changeLog, List.append_nil, hmade.logs,
      Log.insertAfter, if_neg hempty]
    exact hmade.filed mode (Log.insertBehind_perm id made.1.2 _)

theorem files_settle (mode : Mode) (id : EntryId) (response : String) (isServerError : Bool)
    (elapsed : Elapsed) : Files o mode (settle mode id response isServerError elapsed) := by
  have hid (e : Entry) : (e.settle response isServerError elapsed).id = e.id := rfl
  exact files_changeLog mode mode fun log => Log.map_id_modifyFirst id hid log.entries

theorem files_conclude (mode : Mode) (id : EntryId) (scpi : String) (elapsed : Elapsed)
    (answer : Except ServerError Reply) : Files o mode (conclude mode id scpi elapsed answer) := by
  cases answer with
  | ok reply =>
    exact (files_settle mode id _ _ elapsed).bind fun _ =>
      (files_addErrors mode id _).bind fun _ => files_pure mode _
  | error e =>
    exact (files_settle mode id _ _ elapsed).bind fun _ =>
      (files_notify mode _).bind fun _ => files_pure mode _

/-- Whatever comes back, and however many errors the instrument reports. -/
theorem files_dispatchOver (connection : Connection) (mode : Mode) (scpi : String) :
    Files o mode (dispatchOver connection mode scpi) :=
  (files_logPending mode _).bind fun _ => (files_perform mode rfl).bind fun _ =>
    (files_perform mode rfl).bind fun _ => (files_perform mode rfl).bind fun _ =>
    files_conclude mode _ _ _ _

/-! ## Marks -/

theorem setMinimized_ids {selection : Selection} {log marked : Log} {minimized : Bool}
    (h : selection.setMinimized log minimized = some marked) :
    marked.entries.map Entry.id = log.entries.map Entry.id := by
  rw [Selection.setMinimized, Option.map_eq_some_iff] at h
  obtain ⟨id, -, rfl⟩ := h
  have hid (e : Entry) : { e with minimized }.id = e.id := rfl
  exact Log.map_id_modifyFirst id hid log.entries

theorem files_minimize (mode other : Mode) (selection : Selection) (minimized : Bool) :
    Files o mode (minimize other selection minimized) := by
  intro s record
  rw [minimize, Act.alone_get_bind, Act.waits_get_bind]
  cases hmarked : selection.setMinimized (s.logOf other) minimized with
  | none => exact files_pure mode false s record
  | some log =>
    dsimp only
    rw [Act.alone_bind, Act.waits_bind, Act.alone_pure, Act.waits_pure, List.append_nil,
      alone_changeLog, issued_changeLog]
    refine .of_unchanged (ids_setLog ..) fun m => ?_
    by_cases hm : m = other
    · subst hm
      rw [idsIn_setLog, setMinimized_ids hmarked, idsIn]
    · exact idsIn_setLog_of_ne s hm _

/-- Exactly the one selected entry is minimized or maximized. -/
structure Hits (mode : Mode) (selection : Selection) (minimized : Bool) (s : Session)
    (done : Session × Bool) : Prop where
  /-- It succeeds when one place is selected, and is a place of the log. -/
  succeeds : done.2 = true ↔
    ∃ p, (∀ q, selection.contains q = true ↔ q = p) ∧ p < (s.logOf mode).entries.length
  /-- Then the entry there is marked, and the log stays otherwise. -/
  marks : done.2 = true → ∀ p e, selection.contains p = true →
    (s.logOf mode).entries[p]? = some e →
      (done.1.logOf mode).entries = (s.logOf mode).entries.set p { e with minimized }
  others : ∀ other, other ≠ mode → done.1.logOf other = s.logOf other
  fails : done.2 = false → done.1 = s

theorem hits_minimize {mode : Mode} {s : Session} (h : (s.idsIn mode).Nodup) {selection : Selection}
    (hascending : selection.Ascending) (minimized : Bool) (record : Record) :
    Hits mode selection minimized s ((minimize mode selection minimized).alone o s record).1 := by
  rw [minimize, Act.alone_get_bind]
  cases hmarked : selection.setMinimized (s.logOf mode) minimized with
  | none =>
    rw [Act.alone_pure]
    refine ⟨iff_of_false Bool.false_ne_true ?_, fun h => absurd h Bool.false_ne_true,
      fun _ _ => rfl, fun _ => rfl⟩
    rintro ⟨p, hp, hlt⟩
    have hsome := (Selection.setMinimized_eq_some_iff h minimized).2 ⟨p, _,
      (Selection.single_eq_some_iff hascending).2 hp, List.getElem?_eq_getElem hlt, rfl⟩
    rw [hmarked] at hsome
    cases hsome
  | some log =>
    obtain ⟨p, e, hp, he, rfl⟩ := (Selection.setMinimized_eq_some_iff h minimized).1 hmarked
    have honly := (Selection.single_eq_some_iff hascending).1 hp
    dsimp only
    rw [Act.alone_bind, Act.alone_pure, alone_changeLog]
    refine ⟨iff_of_true rfl ⟨p, honly, (List.getElem?_eq_some_iff.1 he).1⟩, fun _ q x hq hx => ?_,
      fun other hother => logOf_setLog_of_ne s hother _, fun h => absurd h.symm Bool.false_ne_true⟩
    obtain rfl := (honly q).1 hq
    rw [he] at hx
    cases hx
    rw [logOf_setLog]
    rfl

/-! ## The invariant -/

/-- The numbers in the log of a mode differ. While some are still to be handed out, these and the numbers
that are `known` lie below the source; and there are enough left. -/
structure Apart (mode : Mode) (room : Nat) (known : List EntryId) (s : Session) : Prop where
  distinct : (s.idsIn mode).Nodup
  below : 0 < room → ∀ id ∈ known ++ s.idsIn mode, id.value < s.ids.next
  room : s.ids.next.toNat + room ≤ UInt64.size

/-- A stored log that may be taken up before so many numbers are handed out. -/
structure Suits (mode : Mode) (room : Nat) (p : Mode × Log) : Prop where
  distinct : p.1 = mode → (p.2.entries.map Entry.id).Nodup
  room : ∀ e ∈ p.2.entries, e.id.value.toNat + room < UInt64.size

section

variable {mode : Mode} {room : Nat} {known : List EntryId} {s t : Session}

theorem Suits.mono {more : Nat} {p : Mode × Log} (h : Suits mode (more + room) p) :
    Suits mode room p where
  distinct := h.distinct
  room e he := by
    have hroom := h.room e he
    omega

/-- All numbers that are known and all in the log are below those that come next. -/
theorem Apart.filed {m : Mode} {new : List EntryId} (h : Apart mode (new.length + room) known s)
    (hfiled : Filed m s t new) :
    Apart mode room known t ∧ ∀ id ∈ new, ∀ k ∈ known, k.value < id.value := by
  have hroom := h.room
  have hnew (id : EntryId) : id ∈ new ↔ s.ids.next.toNat ≤ id.value.toNat ∧
      id.value.toNat < s.ids.next.toNat + new.length := by
    have hmem : id ∈ s.ids.upcoming new.length ↔ _ := s.ids.mem_upcoming (by omega)
    rwa [← hfiled.numbered] at hmem
  have hbelow : ∀ id ∈ new, ∀ k ∈ known ++ s.idsIn mode, k.value < id.value := by
    intro id hid k hk
    have hpos := List.length_pos_of_mem hid
    have hk := h.below (by omega) k hk
    rw [UInt64.lt_iff_toNat_lt] at hk ⊢
    have hid := (hnew id).1 hid
    omega
  have hnodup : new.Nodup := by
    rw [hfiled.numbered]
    exact s.ids.nodup_upcoming (by omega)
  refine ⟨⟨?_, fun hpos => ?_, ?_⟩, fun id hid k hk => hbelow id hid k (List.mem_append_left _ hk)⟩
  · rw [(hfiled.logs mode).nodup_iff]
    split
    · refine List.nodup_append.2 ⟨h.distinct, hnodup, fun k hk id hid heq => ?_⟩
      have hlt := hbelow id hid k (List.mem_append_right _ hk)
      rw [heq] at hlt
      exact UInt64.lt_irrefl _ hlt
    · rw [List.append_nil]
      exact h.distinct
  · have hnext : t.ids.next.toNat = s.ids.next.toNat + new.length := by
      rw [hfiled.ids, s.ids.toNat_after (by omega)]
    intro id hid
    rw [UInt64.lt_iff_toNat_lt, hnext]
    have hold : id ∈ known ++ s.idsIn mode → id.value.toNat < s.ids.next.toNat + new.length := by
      intro hid
      have hlt := UInt64.lt_iff_toNat_lt.1 (h.below (by omega) id hid)
      omega
    rw [List.mem_append, (hfiled.logs mode).mem_iff, List.mem_append, ← or_assoc, ← List.mem_append]
      at hid
    rcases hid with hid | hid
    · exact hold hid
    · split at hid
      · exact ((hnew id).1 hid).2
      · cases hid
  · rw [hfiled.ids]
    by_cases hfull : s.ids.next.toNat + new.length < UInt64.size
    · rw [s.ids.toNat_after hfull]
      omega
    · have hlt := (s.ids.after new.length).next.toNat_lt
      have hsize : UInt64.size = 2 ^ 64 := rfl
      omega

theorem Apart.of_append {more : List EntryId} (h : Apart mode room (known ++ more) s) :
    Apart mode room known s where
  distinct := h.distinct
  below hpos id hid := by
    refine h.below hpos id ?_
    rw [List.append_assoc, List.mem_append, List.mem_append]
    rw [List.mem_append] at hid
    exact hid.imp_right .inr
  room := h.room

/-- A log takes the place of another, and the source may move on. -/
theorem Apart.replace {m : Mode} {log : Log} {ids : IdSource} (h : Apart mode room known s)
    (hdistinct : m = mode → (log.entries.map Entry.id).Nodup) (hnext : s.ids.next ≤ ids.next)
    (hroom : ids.next.toNat + room ≤ UInt64.size)
    (hlog : 0 < room → ∀ e ∈ log.entries, e.id.value < ids.next) :
    Apart mode room (known ++ log.entries.map Entry.id) { s.setLog m log with ids } := by
  have hids : ({ s.setLog m log with ids } : Session).idsIn mode =
      if m = mode then log.entries.map Entry.id else s.idsIn mode := by
    rw [idsIn_withIds]
    split
    next hm =>
      subst hm
      exact idsIn_setLog ..
    next hm => exact idsIn_setLog_of_ne s (Ne.symm hm) log
  refine ⟨?_, fun hpos id hid => ?_, hroom⟩
  · rw [hids]
    split
    next hm => exact hdistinct hm
    next => exact h.distinct
  · have hold : id ∈ known ++ s.idsIn mode → id.value < ids.next := fun hid =>
      UInt64.lt_of_lt_of_le (h.below hpos id hid) hnext
    have hnew : id ∈ log.entries.map Entry.id → id.value < ids.next := by
      intro hid
      obtain ⟨e, he, rfl⟩ := List.mem_map.1 hid
      exact hlog hpos e he
    rw [hids, List.mem_append, List.mem_append] at hid
    rcases hid with (hid | hid) | hid
    · exact hold (List.mem_append_left _ hid)
    · exact hnew hid
    · split at hid
      · exact hnew hid
      · exact hold (List.mem_append_right _ hid)

theorem Apart.clear (h : Apart mode room known s) (m : Mode) :
    Apart mode room known (s.setLog m (s.logOf m).clear) := by
  have hcleared : Apart mode room (known ++ (s.logOf m).clear.entries.map Entry.id)
      { s.setLog m (s.logOf m).clear with ids := s.ids } :=
    h.replace (fun _ => .nil) (UInt64.le_refl _) h.room fun _ => List.forall_mem_nil _
  cases m <;> exact hcleared.of_append

/-- A stored log is taken up, and its numbers are known from then on. -/
theorem Apart.load {m : Mode} {log : Log} (h : Apart mode room known s)
    (hsuits : Suits mode room (m, log)) :
    Apart mode room (known ++ log.entries.map Entry.id)
      { s.setLog m log with ids := log.reserveIds s.ids } := by
  obtain ⟨hle, hroom, hbelow⟩ := Log.reserveIds_spec h.room hsuits.room
  exact h.replace hsuits.distinct hle hroom hbelow

end

/-! ## Runs -/

theorem takenUp?_load (mode : Mode) (stored : Option Json) :
    takenUp? ⟨.load mode.slot, stored⟩ = some (mode, .ofStored stored) := by
  cases mode <;> rfl

theorem alone_loadLog (mode : Mode) (s : Session) (record : Record) :
    let stored := o record (.load mode.slot)
    (loadLog mode).alone o s record =
      (({ s.setLog mode (.ofStored stored) with ids := (Log.ofStored stored).reserveIds s.ids }, ()),
        record ++ [⟨.load mode.slot, stored⟩]) := by
  rw [loadLog, Act.alone_bind, Act.alone_perform, Act.alone_modify]

theorem issued_loadLog (mode : Mode) (s : Session) (record : Record) :
    issued ((loadLog mode).waits o s record) = [] := by
  rw [loadLog, Act.waits_bind, Act.waits_perform, Act.waits_modify]
  rfl

/-- A session and what it has asked so far. -/
abbrev Moment := Session × Record

/-- When it is done, with all that is asked answered by `o`. -/
def Handling.done (o : Oracle) (m : Moment) (h : Handling) : Moment :=
  ((h.act.alone o m.1 m.2).1.1, (h.act.alone o m.1 m.2).2)

/-- When all are done, one after the other. -/
def handled (o : Oracle) (m : Moment) (hs : List Handling) : Moment :=
  hs.foldl (Handling.done o) m

/-- The numbers handed out meanwhile. -/
def issuedBy (o : Oracle) : Moment → List Handling → List EntryId
  | _, [] => []
  | m, h :: rest => issued (h.act.waits o m.1 m.2) ++ issuedBy o (h.done o m) rest

theorem issuedBy_append (m : Moment) (hs hs' : List Handling) :
    issuedBy o m (hs ++ hs') = issuedBy o m hs ++ issuedBy o (handled o m hs) hs' := by
  induction hs generalizing m with
  | nil => rfl
  | cons h rest ih =>
    rw [List.cons_append, issuedBy, issuedBy, ih, List.append_assoc]
    rfl

theorem handled_append (m : Moment) (hs hs' : List Handling) :
    handled o m (hs ++ hs') = handled o (handled o m hs) hs' := List.foldl_append

theorem issuedBy_load (m : Moment) (mode : Mode) (rest : List Handling) :
    issuedBy o m (.load mode :: rest) = issuedBy o ((Handling.load mode).done o m) rest := by
  rw [issuedBy, Handling.act, issued_loadLog, List.nil_append]

theorem takenUpLogs_done {p : Mode × Log} {m : Moment} (h : Handling) (hp : p ∈ takenUpLogs m.2) :
    p ∈ takenUpLogs (h.done o m).2 := by
  obtain ⟨more, hmore⟩ := h.act.exists_append_alone (o := o) m.1 m.2
  rw [Handling.done, hmore, takenUpLogs, List.filterMap_append]
  exact List.mem_append_left _ hp

theorem takenUpLogs_handled {p : Mode × Log} {m : Moment} (hs : List Handling)
    (hp : p ∈ takenUpLogs m.2) : p ∈ takenUpLogs (handled o m hs).2 := by
  induction hs generalizing m with
  | nil => exact hp
  | cons h rest ih => exact ih (takenUpLogs_done h hp)

theorem done_load (m : Moment) (mode : Mode) :
    let log := Log.ofStored (o m.2 (.load mode.slot))
    ((Handling.load mode).done o m).1 =
        { m.1.setLog mode log with ids := log.reserveIds m.1.ids } ∧
      (mode, log) ∈ takenUpLogs ((Handling.load mode).done o m).2 := by
  intro log
  rw [Handling.done, Handling.act, alone_loadLog]
  refine ⟨rfl, ?_⟩
  rw [takenUpLogs, List.filterMap_append, List.filterMap_cons_some (takenUp?_load mode _)]
  exact List.mem_append_right _ (.head _)

section

variable {mode : Mode} {room : Nat} {known : List EntryId} {m : Moment}

/-- What one handling keeps, as long as it takes up only logs that suit. -/
theorem Apart.done (h : Handling)
    (hm : Apart mode ((issued (h.act.waits o m.1 m.2)).length + room) known m.1)
    (hsuits : ∀ p ∈ takenUpLogs (h.done o m).2, Suits mode room p) :
    Apart mode room known (h.done o m).1 ∧
      ∀ id ∈ issued (h.act.waits o m.1 m.2), ∀ k ∈ known, k.value < id.value := by
  cases h with
  | dispatch connection other scpi =>
    exact hm.filed ((files_dispatchOver connection other scpi).bind (fun _ => files_pure other ()) _ _)
  | minimize other selection minimized =>
    exact hm.filed
      ((files_minimize other other selection minimized).bind (fun _ => files_pure other ()) _ _)
  | clear other =>
    rw [Handling.act, issued_changeLog, List.length_nil, Nat.zero_add] at hm
    rw [Handling.done, Handling.act, alone_changeLog, issued_changeLog]
    exact ⟨hm.clear other, List.forall_mem_nil _⟩
  | load other =>
    obtain ⟨hsession, htaken⟩ := done_load (o := o) m other
    rw [Handling.act, issued_loadLog, List.length_nil, Nat.zero_add] at hm
    rw [hsession, Handling.act, issued_loadLog]
    exact ⟨(hm.load (hsuits _ htaken)).of_append, List.forall_mem_nil _⟩

/-- What any number of handlings keeps. -/
theorem Apart.through (hs : List Handling) (room : Nat)
    (hm : Apart mode ((issuedBy o m hs).length + room) known m.1)
    (hsuits : ∀ p ∈ takenUpLogs (handled o m hs).2, Suits mode ((issuedBy o m hs).length + room) p) :
    Apart mode room known (handled o m hs).1 ∧
      ∀ id ∈ issuedBy o m hs, ∀ k ∈ known, k.value < id.value := by
  induction hs generalizing m with
  | nil => exact ⟨by rwa [issuedBy, List.length_nil, Nat.zero_add] at hm, List.forall_mem_nil _⟩
  | cons h rest ih =>
    simp only [issuedBy, List.length_append, Nat.add_assoc] at hm hsuits
    obtain ⟨hdone, hfirst⟩ := hm.done h fun p hp => (hsuits p (takenUpLogs_handled rest hp)).mono
    obtain ⟨hrest, hlater⟩ := ih hdone fun p hp => (hsuits p hp).mono
    refine ⟨hrest, fun id hid => ?_⟩
    rw [issuedBy, List.mem_append] at hid
    exact hid.elim (hfirst id) (hlater id)

/-- Once a log is taken up, its numbers are below all that follow. -/
theorem Apart.above_loaded {before after : List Handling} {other : Mode}
    (hm : Apart mode (issuedBy o m (before ++ .load other :: after)).length known m.1)
    (hsuits : ∀ p ∈ takenUpLogs (handled o m (before ++ .load other :: after)).2,
      Suits mode (issuedBy o m (before ++ .load other :: after)).length p) :
    let loaded := handled o m (before ++ [.load other])
    ∀ id ∈ issuedBy o loaded after, ∀ e ∈ (loaded.1.logOf other).entries, e.id.value < id.value := by
  intro loaded id hid e he
  have hloaded : loaded = (Handling.load other).done o (handled o m before) := handled_append ..
  have hend : handled o m (before ++ .load other :: after) = handled o loaded after := by
    rw [handled_append, hloaded]
    rfl
  obtain ⟨hsession, htaken⟩ := done_load (o := o) (handled o m before) other
  rw [← hloaded] at hsession htaken
  rw [issuedBy_append, issuedBy_load, ← hloaded, List.length_append] at hm hsuits
  rw [hend] at hsuits
  have hbefore (p : Mode × Log) (hp : p ∈ takenUpLogs (handled o m before).2) :=
    hsuits p (takenUpLogs_handled after (hloaded ▸ takenUpLogs_done (.load other) hp))
  obtain ⟨hmid, -⟩ := hm.through before _ hbefore
  have hlog := hmid.load (hsuits _ (takenUpLogs_handled after htaken)).mono
  rw [← hsession] at hlog
  obtain ⟨-, habove⟩ := hlog.through after 0 fun p hp => (hsuits p hp).mono
  refine habove id hid e.id (List.mem_append_right _ (List.mem_map_of_mem ?_))
  rwa [hsession, logOf_withIds, logOf_setLog] at he

end

theorem setLog_setLog (s : Session) (mode : Mode) (log log' : Log) :
    (s.setLog mode log).setLog mode log' = s.setLog mode log' := by
  cases mode <;> rfl

/-- A session that takes up a log is apart, whatever it held before. -/
theorem apart_load {mode : Mode} {room : Nat} {m : Moment}
    (hnext : m.1.ids.next.toNat + room ≤ UInt64.size)
    (hsuits : Suits mode room (mode, .ofStored (o m.2 (.load mode.slot)))) :
    let loaded := (Handling.load mode).done o m
    Apart mode room (loaded.1.idsIn mode) loaded.1 := by
  intro loaded
  have hempty : Apart mode room [] (m.1.setLog mode {}) := by
    refine ⟨by rw [idsIn_setLog]; exact .nil, fun _ => ?_, by rw [ids_setLog]; exact hnext⟩
    rw [idsIn_setLog]
    exact List.forall_mem_nil _
  have hapart := hempty.load hsuits
  rw [setLog_setLog, ids_setLog, List.nil_append] at hapart
  obtain ⟨hsession, -⟩ := done_load (o := o) m mode
  have hids : loaded.1.idsIn mode =
      (Log.ofStored (o m.2 (.load mode.slot))).entries.map Entry.id := by
    rw [hsession, idsIn_withIds, idsIn_setLog]
  rw [hids, hsession]
  exact hapart

/-- **The numbers in a log stay apart, and a mark goes to the entry that is selected.** A stored log is
taken up, whatever went before, and then commands are sent, logs cleared and taken up, and entries
marked, again and again and with any answers. The logs taken up for the mode have no number twice, and all
numbers fit: those handed out may follow the `largest` one that is stored. Then no number occurs twice in the
log, every number is above all in a log that was taken up before, and marking changes exactly the one
selected entry. -/
theorem ids_apart (o : Oracle) (s : Session) (mode : Mode) (later : List Handling) (largest : Nat)
    (hdistinct : ∀ p ∈ takenUpLogs (handled o (s, []) (.load mode :: later)).2,
      p.1 = mode → (p.2.entries.map Entry.id).Nodup)
    (hlargest : ∀ p ∈ takenUpLogs (handled o (s, []) (.load mode :: later)).2,
      ∀ e ∈ p.2.entries, e.id.value.toNat ≤ largest)
    (hstart : s.ids.next.toNat ≤ largest + 1)
    (hroom : largest + (issuedBy o (s, []) (.load mode :: later)).length ≤ 2 ^ 64 - 1) :
    let t := (handled o (s, []) (.load mode :: later)).1
    (t.idsIn mode).Nodup ∧
    (∀ before other after, .load mode :: later = before ++ .load other :: after →
      let loaded := handled o (s, []) (before ++ [.load other])
      ∀ id ∈ issuedBy o loaded after, ∀ e ∈ (loaded.1.logOf other).entries,
        e.id.value < id.value) ∧
    ∀ gestures minimized record,
      let selection := Selection.made gestures
      Hits mode selection minimized t ((minimize mode selection minimized).alone o t record).1 := by
  intro t
  obtain ⟨-, htaken⟩ := done_load (o := o) (s, []) mode
  have hend : handled o (s, []) (.load mode :: later) =
      handled o ((Handling.load mode).done o (s, [])) later := rfl
  have hissued := issuedBy_load (o := o) (s, []) mode later
  have hsize : UInt64.size = 2 ^ 64 := rfl
  have hsuits (p : Mode × Log) (hp : p ∈ takenUpLogs (handled o (s, []) (.load mode :: later)).2) :
      Suits mode (issuedBy o (s, []) (.load mode :: later)).length p := by
    refine ⟨hdistinct p hp, fun e he => ?_⟩
    have hle := hlargest p hp e he
    omega
  rw [hissued, hend] at hsuits
  have hfirst := apart_load (by rw [hissued] at hroom; dsimp only; omega)
    (hsuits _ (takenUpLogs_handled later htaken))
  obtain ⟨hlast, habove⟩ := hfirst.through later 0 hsuits
  refine ⟨hlast.distinct, fun before other after hsplit => ?_, fun gestures minimized record =>
    hits_minimize hlast.distinct (Selection.ascending_made gestures) minimized record⟩
  cases before with
  | nil =>
    cases hsplit
    exact fun id hid e he => habove id hid e.id (List.mem_map_of_mem he)
  | cons first before =>
    cases hsplit
    exact hfirst.above_loaded hsuits

/-- A store that holds one entry, and an instrument that complains about the first command. -/
def stocked : Oracle := fun record e =>
  match e with
  | .load .interactiveLog => some (Log.toJson { entries := [.pending ⟨7⟩ .epoch "*RST"] })
  | e => scripted [{ response := "1", errors := ["-113"] }] 0 record e

/-- The interactive log grows, while the other one is taken up, used and cleared. -/
def morning : List Handling :=
  [.dispatch {} .interactive "*IDN?", .load .script, .dispatch {} .script "*OPC?", .clear .script,
    .minimize .interactive (.made [.press 0 false, .press 1 true]) true]

theorem ids_apart_morning :
    let all := handled stocked ({}, []) (.load .interactive :: morning)
    let issued := issuedBy stocked ({}, []) (.load .interactive :: morning)
    let selection := Selection.made [.press 0 false, .drag 2, .release, .press 1 false]
    ((∀ p ∈ takenUpLogs all.2, p.1 = .interactive → (p.2.entries.map Entry.id).Nodup) ∧
      (∀ p ∈ takenUpLogs all.2, ∀ e ∈ p.2.entries, e.id.value.toNat ≤ 7) ∧ issued.length = 3) ∧
    all.1.idsIn .interactive = [⟨7⟩, ⟨8⟩, ⟨9⟩] ∧ issued = [⟨8⟩, ⟨9⟩, ⟨10⟩] ∧
    (all.1.idsIn .interactive).Nodup ∧ selection.contains 1 = true ∧
    Hits .interactive selection true all.1
      ((minimize .interactive selection true).alone stocked all.1 all.2).1 := by
  intro all issued selection
  have hdistinct : ∀ p ∈ takenUpLogs all.2, p.1 = .interactive → (p.2.entries.map Entry.id).Nodup := by
    decide +kernel
  have hlargest : ∀ p ∈ takenUpLogs all.2, ∀ e ∈ p.2.entries, e.id.value.toNat ≤ 7 := by
    decide +kernel
  have hissued : issued = [⟨8⟩, ⟨9⟩, ⟨10⟩] := by decide +kernel
  have hroom : 7 + issued.length ≤ 2 ^ 64 - 1 := by
    rw [hissued]
    decide
  obtain ⟨hnodup, -, hhits⟩ := ids_apart stocked {} .interactive morning 7 hdistinct hlargest
    (by decide) hroom
  exact ⟨⟨hdistinct, hlargest, by rw [hissued]; rfl⟩, by decide +kernel, hissued, hnodup,
    by decide +kernel, hhits [.press 0 false, .drag 2, .release, .press 1 false] true all.2⟩

end Session

end ScpiConsole
