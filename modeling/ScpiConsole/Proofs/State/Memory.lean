import ScpiConsole.Proofs.State.Durable
/-!
# A state file answers like memory

As long as its writes succeed, a state file that is closed and opened again and again is not to be told from
values that are held in memory all the time.

* `Use` : what is done with values that are stored
* `Storage.use`, `State.use` : the answer of a state file, and the one of memory
* `Storage.Serves` : a state file that holds what memory holds
* `Serves.use`, `Serves.answers` : it answers alike, once and again and again
* `answers_eq_memory` : a state file that was not there at first
-/

namespace ScpiConsole

/-- What is done with values that are stored. -/
inductive Use where
  | get (name : String)
  | change (a : Attempt)
  /-- Forget all that was read, and read the file again. -/
  | reopen

namespace Use

/-- A value that is stored has whole numbers only, and arrays and objects stand at most 126 deep in it. -/
def Plain : Use → Prop
  | .change ⟨.set _ value, _⟩ => value.Whole ∧ value.nesting ≤ 126
  | _ => True

theorem Plain.faithful {a : Attempt} (h : (Use.change a).Plain) : a.change.Faithful := by
  obtain ⟨change, fault⟩ := a
  cases change with
  | set name value => exact h.1.faithful h.2
  | remove name => trivial
  | clear => trivial

end Use

/-! ## In memory -/

namespace State

/-- What memory answers, and what it holds then: values in canonical form. Nothing is read again. -/
def use (s : State) : Use → Option Json × State
  | .get name => (s.get? name, s)
  | .change a => (none, a.change.result s)
  | .reopen => (none, s)

/-- What uses leave, one after the other. -/
def used (s : State) (uses : List Use) : State := uses.foldl (fun s u => (s.use u).2) s

def answers (s : State) : List Use → List (Option Json)
  | [] => []
  | u :: rest => (s.use u).1 :: (s.use u).2.answers rest

end State

/-- Without something to write a change leaves memory as it is. -/
theorem StateFile.Change.result_eq_self {c : Change} {s : State} (h : c.writes s = false) :
    c.result s = s := by
  cases c with
  | set name value => cases h
  | remove name =>
    have hmissing : s.get? name = none := by
      rwa [writes, Option.isSome_eq_false_iff, Option.isNone_iff_eq_none] at h
    exact congrArg State.mk (Json.erase_of_lookup_eq_none hmissing)
  | clear => cases h

/-! ## In a file -/

namespace Storage

/-- What a state file answers, and what it leaves. When it cannot be read again all stays as it was. -/
def use (w : Storage) : Use → Except StateError (Option Json) × Storage
  | .get name => (.ok (w.file.state.get? name), w)
  | .change a => ((w.attempt a).1.map fun _ => none, (w.attempt a).2)
  | .reopen =>
    match StateFile.load w.disk w.file.path with
    | .ok file => (.ok none, ⟨file, w.disk⟩)
    | .error e => (.error e, w)

/-- What uses leave, one after the other. -/
def used (w : Storage) (uses : List Use) : Storage := uses.foldl (fun w u => (w.use u).2) w

def answers (w : Storage) : List Use → List (Except StateError (Option Json))
  | [] => []
  | u :: rest => (w.use u).1 :: (w.use u).2.answers rest

/-- The write of a change succeeds, if it has something to write. -/
def Succeeds (w : Storage) : Use → Prop
  | .change a => (w.attempt a).1 = .ok ()
  | .get _ | .reopen => True

/-- Every write succeeds. -/
def Written (w : Storage) : List Use → Prop
  | [] => True
  | u :: rest => w.Succeeds u ∧ (w.use u).2.Written rest

instance (w : Storage) : (u : Use) → Decidable (w.Succeeds u)
  | .change a => inferInstanceAs (Decidable ((w.attempt a).1 = .ok ()))
  | .get _ | .reopen => .isTrue trivial

instance decidableWritten (w : Storage) : (uses : List Use) → Decidable (w.Written uses)
  | [] => .isTrue trivial
  | u :: rest =>
    have := decidableWritten (w.use u).2 rest
    inferInstanceAs (Decidable (w.Succeeds u ∧ (w.use u).2.Written rest))

/-- A state file at that path that holds what memory holds, also when it is read again. -/
structure Serves (w : Storage) (path : List Char) (s : State) : Prop where
  file_eq : w.file = ⟨path, s⟩
  load_eq : StateFile.load w.disk path = .ok ⟨path, s⟩
  faithful : s.Faithful

variable {w : Storage} {path : List Char} {s : State}

/-- Whether or not it is written, a change is made in memory. -/
theorem file_attempt (w : Storage) (a : Attempt) : (w.attempt a).2.file = w.changed a := by
  rcases w.attempt_cases a with ⟨hidle, h⟩ | ⟨-, d, -, h⟩ | ⟨-, e, h⟩
  · rw [h, changed, StateFile.Change.result_eq_self hidle]
  · rw [h]
  · rw [h]

/-- What one use preserves, and what it answers. -/
theorem Serves.use (h : w.Serves path s) {u : Use} (hplain : u.Plain) (hok : w.Succeeds u) :
    (w.use u).1 = .ok (s.use u).1 ∧ (w.use u).2.Serves path (s.use u).2 := by
  obtain ⟨hfile, hload, hfaithful⟩ := h
  have hstate : w.file.state = s := by rw [hfile]
  cases u with
  | get name => exact ⟨by rw [Storage.use, hstate, State.use], hfile, hload, hfaithful⟩
  | change a =>
    have hchanged : (w.attempt a).2.file = ⟨path, a.change.result s⟩ := by
      rw [file_attempt, changed, hfile]
    have hdurable : (w.attempt a).2.Durable := by
      refine (durable_iff (hstate ▸ hfaithful) hplain.faithful hok).2 (.inr ?_)
      rwa [Durable, hfile]
    rw [Durable, hchanged] at hdurable
    exact ⟨congrArg (Except.map fun _ => none) hok, hchanged, hdurable, hplain.faithful.result hfaithful⟩
  | reopen =>
    rw [Storage.use, show StateFile.load w.disk w.file.path = .ok ⟨path, s⟩ by rwa [hfile]]
    exact ⟨rfl, rfl, hload, hfaithful⟩

/-- What uses preserve, and what they answer. -/
theorem Serves.answers (h : w.Serves path s) {uses : List Use} (hplain : ∀ u ∈ uses, u.Plain)
    (hwritten : w.Written uses) :
    w.answers uses = (s.answers uses).map .ok ∧ (w.used uses).Serves path (s.used uses) := by
  induction uses generalizing w s with
  | nil => exact ⟨rfl, h⟩
  | cons u rest ih =>
    obtain ⟨hu, hrest⟩ := List.forall_mem_cons.1 hplain
    obtain ⟨hanswer, hserves⟩ := h.use hu hwritten.1
    obtain ⟨hanswers, hused⟩ := ih hserves hrest hwritten.2
    refine ⟨?_, hused⟩
    rw [Storage.answers, State.answers, List.map_cons, hanswer, hanswers]

/-- **A file like memory.** A state file that is not there yet is opened empty. Whatever is then stored,
removed and cleared in it, all numbers whole and nothing nested too deep, and however often it is closed and
opened again: as long as every write succeeds it answers as memory does that is never read again, and what
is read from it in the end is what memory holds. -/
theorem answers_eq_memory {d : Disk} {path : List Char} {uses : List Use}
    (habsent : d.read path = .error .notFound) (hplain : ∀ u ∈ uses, u.Plain)
    (hwritten : Written ⟨⟨path, {}⟩, d⟩ uses) :
    let opened : Storage := ⟨⟨path, {}⟩, d⟩
    let s : State := {}
    StateFile.load d path = .ok opened.file ∧
      opened.answers uses = (s.answers uses).map .ok ∧
      StateFile.load (opened.used uses).disk path = .ok ⟨path, s.used uses⟩ := by
  intro opened s
  have hload : StateFile.load d path = .ok opened.file := by
    rw [StateFile.load, habsent]
    rfl
  have hopened : opened.Serves path s := ⟨rfl, hload, s.faithful_clear⟩
  obtain ⟨hanswers, hused⟩ := hopened.answers hplain hwritten
  exact ⟨hload, hanswers, hused.load_eq⟩

/-- A value with what is hard to write: the least number, signs and letters of all kinds, and an array with
nothing in it. -/
def intricate : Json :=
  .object [("\\\"", .array [.number (.int (-9223372036854775808)), .array [], .string "\x01é😀"])]

/-- It is stored under a name that is hard to write too. Another value is removed, and once more when the file
is opened again and cannot be written. -/
def removingTwice : List Use :=
  [.change ⟨.set "\"\n" intricate, none⟩, .change ⟨.set "b" (.bool true), none⟩,
    .change ⟨.remove "b", none⟩, .reopen, .change ⟨.remove "b", some readOnly⟩, .get "b", .get "\"\n"]

theorem whole_intricate : intricate.Whole := by
  refine .object (List.forall_mem_singleton.2 (.array (List.forall_mem_cons.2 ⟨?_, ?_⟩)))
  · exact .number (by decide) (by decide)
  · refine List.forall_mem_cons.2 ⟨?_, List.forall_mem_singleton.2 (.string _)⟩
    exact .array (List.forall_mem_nil _)

theorem answers_eq_memory_removingTwice :
    (fresh.disk.read fresh.file.path = .error .notFound ∧ (∀ u ∈ removingTwice, u.Plain) ∧
      fresh.Written removingTwice) ∧
    fresh.answers removingTwice =
      [.ok none, .ok none, .ok none, .ok none, .ok none, .ok none, .ok (some intricate)] := by
  have habsent : fresh.disk.read fresh.file.path = .error .notFound := by decide +kernel
  have hplain : ∀ u ∈ removingTwice, u.Plain := by
    refine List.forall_mem_cons.2 ⟨⟨whole_intricate, by decide⟩,
      List.forall_mem_cons.2 ⟨⟨.bool true, by decide⟩, ?_⟩⟩
    simp [Use.Plain]
  have hwritten : fresh.Written removingTwice := by decide +kernel
  obtain ⟨-, hanswers, -⟩ := answers_eq_memory habsent hplain hwritten
  exact ⟨⟨habsent, hplain, hwritten⟩, hanswers.trans rfl⟩

end Storage

end ScpiConsole
