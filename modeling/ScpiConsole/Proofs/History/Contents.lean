import Mathlib.Data.List.Destutter
import ScpiConsole.History
/-!
# What a history holds

Commands join at the front, repeats of the newest are passed over, and the oldest go beyond the cap. What
is cut off never counts again, so the contents are known from the commands alone.

* `entries_add` : contents in closed form stay so when a command is added
* `Step`, `Watched.after` : what is done to a history, and what an onlooker remembers of it
* `entries_after` : the contents after any steps
-/

namespace ScpiConsole.History

/-! ## Lists without repeats in a row -/

theorem head?_destutter (l : List String) : (l.destutter (· ≠ ·)).head? = l.head? := by
  have hkeep (a : String) (l : List String) : (l.destutter' (· ≠ ·) a).head? = some a := by
    induction l generalizing a with
    | nil => rfl
    | cons b l ih =>
      by_cases h : a ≠ b
      · rw [List.destutter'_cons_pos _ h]
        rfl
      · rw [List.destutter'_cons_neg _ h]
        exact ih a
  cases l with
  | nil => rfl
  | cons a l => exact hkeep a l

/-- A command that repeats the newest one is not taken in. -/
theorem destutter_cons (a : String) (l : List String) :
    (a :: l).destutter (· ≠ ·) =
      if l.head? = some a then l.destutter (· ≠ ·) else a :: l.destutter (· ≠ ·) := by
  cases l with
  | nil => rfl
  | cons b l =>
    rw [List.destutter_cons_cons]
    by_cases h : a = b
    · subst h
      rw [if_neg (not_not.2 rfl), List.head?_cons, if_pos rfl]
      rfl
    · rw [if_pos h, List.head?_cons, if_neg (by simpa using Ne.symm h)]
      rfl

/-! ## One change -/

theorem entries_add {h : History} {l : List String}
    (hentries : h.entries = (l.destutter (· ≠ ·)).take cap) (command : String) :
    (h.add command).entries = ((command :: l).destutter (· ≠ ·)).take cap := by
  have hhead : h.entries.head? = l.head? := by
    rw [hentries, List.head?_take, if_neg (by decide), head?_destutter]
  rw [destutter_cons, ← hhead]
  by_cases hrepeats : h.entries.head? = some command
  · rw [if_pos hrepeats, add, repeats, if_pos (by simpa using hrepeats), hentries]
  · rw [if_neg hrepeats, cap, List.take_succ_cons, add, repeats, if_neg (by simpa using hrepeats),
      hentries]
    simp [cap, List.take_take]

theorem cursor_add (h : History) (command : String) : (h.add command).cursor = h.cursor := by
  unfold add
  split <;> rfl

theorem entries_up (h : History) (input : String) : (h.up input).1.entries = h.entries := by
  unfold up
  split
  · rfl
  · split
    · split <;> rfl
    · rfl

theorem entries_down (h : History) : h.down.1.entries = h.entries := by
  unfold down
  split <;> rfl

theorem entries_onKey (h : History) (key : Key) : (h.onKey key).entries = h.entries := by
  unfold onKey
  split <;> rfl

theorem entries_resetCursor (h : History) : h.resetCursor.entries = h.entries := rfl

/-! ## Many changes -/

/-- What is done to a history. -/
inductive Step where
  | add (command : String)
  | clear
  | up (input : String)
  | down
  | key (key : Key)
  | reset

namespace Step

/-- The history after it, and the text that it gives to the input. -/
def apply (h : History) : Step → History × Option String
  | .add command => (h.add command, none)
  | .clear => (h.clear, none)
  | .up input => h.up input
  | .down => h.down
  | .key k => (h.onKey k, none)
  | .reset => (h.resetCursor, none)

/-- How many commands join the list: one that is the newest already does not. -/
def joins (h : History) : Step → Nat
  | .add command => if h.repeats command then 0 else 1
  | _ => 0

/-- The commands added since the history was cleared last, the oldest first. -/
def noted (before : List String) : Step → List String
  | .add command => before ++ [command]
  | .clear => []
  | _ => before

end Step

/-- The commands added since the history was cleared last, the oldest first. -/
def added (steps : List Step) : List String := steps.foldl Step.noted []

/-- A history that is watched: the text that it gave to the input last, and how many commands have
joined since. -/
structure Watched where
  history : History := {}
  shown : Option String := none
  joined : Nat := 0

namespace Watched

def step (w : Watched) (s : Step) : Watched :=
  match s.apply w.history with
  | (history, some text) => { history, shown := some text }
  | (history, none) => { history, shown := w.shown, joined := w.joined + s.joins w.history }

/-- What some steps leave, one after the other. -/
def after (w : Watched) (steps : List Step) : Watched := steps.foldl step w

theorem after_concat (w : Watched) (steps : List Step) (s : Step) :
    w.after (steps ++ [s]) = (w.after steps).step s := by
  rw [after, List.foldl_append]
  rfl

theorem step_of_none {w : Watched} {s : Step} {h : History} (hs : s.apply w.history = (h, none)) :
    w.step s = ⟨h, w.shown, w.joined + s.joins w.history⟩ := by
  rw [step, hs]

theorem step_of_some {w : Watched} {s : Step} {h : History} {text : String}
    (hs : s.apply w.history = (h, some text)) : w.step s = ⟨h, some text, 0⟩ := by
  rw [step, hs]

theorem history_step (w : Watched) (s : Step) : (w.step s).history = (s.apply w.history).1 := by
  unfold step
  split
  · next hs => rw [hs]
  · next hs => rw [hs]

end Watched

theorem entries_apply {h : History} {l : List String}
    (hentries : h.entries = (l.reverse.destutter (· ≠ ·)).take cap) (s : Step) :
    (s.apply h).1.entries = ((s.noted l).reverse.destutter (· ≠ ·)).take cap := by
  cases s with
  | add command =>
    rw [Step.noted, List.reverse_concat]
    exact entries_add hentries command
  | clear => rfl
  | up input => exact (entries_up h input).trans hentries
  | down => exact (entries_down h).trans hentries
  | key key => exact (entries_onKey h key).trans hentries
  | reset => exact (entries_resetCursor h).trans hentries

/-- A new history holds the newest of the commands added since it was cleared last, without repeats in a
row. -/
theorem entries_after (steps : List Step) : (Watched.after {} steps).history.entries =
    ((added steps).reverse.destutter (· ≠ ·)).take cap := by
  induction steps using List.reverseRecOn with
  | nil => rfl
  | append_singleton steps s ih =>
    rw [Watched.after_concat, Watched.history_step, added, List.foldl_append]
    exact entries_apply ih s

end ScpiConsole.History
