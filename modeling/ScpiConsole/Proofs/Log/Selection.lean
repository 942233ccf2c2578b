import Mathlib.Data.List.Nodup
import ScpiConsole.Log.Selection
/-!
# What a selection marks

A selection knows places, and the log is changed by numbers. The two agree as long as no number occurs
twice.

* `Gesture`, `made` : the selections that there are
* `Ascending` : their places are in order, so that no place counts twice
* `single_eq_some_iff` : the one selected place
* `modifyFirst_id` : a change of the entry of a number is a change at its place
* `setMinimized_eq_some_iff` : what marking comes to
-/

namespace ScpiConsole

namespace Log

theorem map_id_modifyFirst (id : EntryId) {change : Entry → Entry} (h : ∀ e, (change e).id = e.id)
    (es : List Entry) : (modifyFirst id change es).map Entry.id = es.map Entry.id := by
  induction es with
  | nil => rfl
  | cons e rest ih =>
    rw [modifyFirst]
    split
    · rw [List.map_cons, List.map_cons, h]
    · rw [List.map_cons, List.map_cons, ih]

/-- Wherever the new entries come in. -/
theorem insertBehind_perm (parent : EntryId) (new es : List Entry) :
    (insertBehind parent new es).Perm (es ++ new) := by
  induction es with
  | nil => exact .refl _
  | cons e rest ih =>
    rw [insertBehind]
    split
    · exact List.perm_append_comm.cons e
    · exact ih.cons e

/-- The first entry of a number is the only one. -/
theorem modifyFirst_id {es : List Entry} (h : (es.map Entry.id).Nodup) {p : Nat} {e : Entry}
    (he : es[p]? = some e) (change : Entry → Entry) :
    modifyFirst e.id change es = es.set p (change e) := by
  induction es generalizing p with
  | nil => cases he
  | cons x rest ih =>
    rw [List.map_cons, List.nodup_cons] at h
    cases p with
    | zero =>
      rw [List.getElem?_cons_zero, Option.some.injEq] at he
      rw [modifyFirst, if_pos (by rw [he]), List.set_cons_zero, he]
    | succ p =>
      rw [List.getElem?_cons_succ] at he
      have hne : x.id ≠ e.id := fun heq =>
        h.1 (heq ▸ List.mem_map_of_mem (List.mem_of_getElem? he))
      rw [modifyFirst, if_neg hne, ih h.2 he, List.set_cons_succ]

end Log

/-! ## Gestures -/

/-- What the operator does to a selection. -/
inductive Gesture where
  | press (place : Nat) (toggle : Bool)
  | drag (place : Nat)
  | release
  | selectAll (count : Nat)
  | clear

namespace Selection

def after (s : Selection) : Gesture → Selection
  | .press place toggle => s.press place toggle
  | .drag place => s.drag place
  | .release => s.release
  | .selectAll count => s.selectAll count
  | .clear => s.clear

/-- The selection that gestures lead to. -/
def made (gestures : List Gesture) : Selection := gestures.foldl after {}

/-- No place occurs twice, and they are in order. -/
def Ascending (s : Selection) : Prop := s.places.Pairwise (· < ·)

variable {s : Selection}

theorem mem_insertPlace {place q : Nat} {places : List Nat} :
    q ∈ insertPlace place places ↔ q = place ∨ q ∈ places := by
  induction places with
  | nil => simp [insertPlace]
  | cons p rest ih =>
    rw [insertPlace]
    split
    · exact List.mem_cons
    · split
      · subst p
        simp
      · rw [List.mem_cons, ih, List.mem_cons]
        tauto

theorem pairwise_insertPlace (place : Nat) {places : List Nat} (h : places.Pairwise (· < ·)) :
    (insertPlace place places).Pairwise (· < ·) := by
  induction places with
  | nil => exact List.pairwise_singleton ..
  | cons p rest ih =>
    obtain ⟨hp, hrest⟩ := List.pairwise_cons.1 h
    rw [insertPlace]
    split
    next hlt =>
      refine List.pairwise_cons.2 ⟨List.forall_mem_cons.2 ⟨hlt, fun q hq => ?_⟩, h⟩
      exact Nat.lt_trans hlt (hp q hq)
    next hge =>
      split
      · exact h
      next hne =>
        refine List.pairwise_cons.2 ⟨fun q hq => ?_, ih hrest⟩
        rcases mem_insertPlace.1 hq with rfl | hq
        · omega
        · exact hp q hq

theorem Ascending.after (h : s.Ascending) (g : Gesture) : (s.after g).Ascending := by
  cases g with
  | press place toggle =>
    rw [Selection.after, press]
    split
    · by_cases hcontains : s.contains place = true
      · rw [if_pos hcontains]
        exact h.filter _
      · rw [if_neg hcontains]
        exact pairwise_insertPlace place h
    · exact List.pairwise_singleton ..
  | drag place =>
    rw [Selection.after, drag]
    split
    · exact h
    · exact List.pairwise_lt_range'
  | release => exact h
  | selectAll count => exact List.pairwise_lt_range
  | clear => exact .nil

theorem ascending_foldl (gestures : List Gesture) (h : s.Ascending) :
    (gestures.foldl Selection.after s).Ascending := by
  induction gestures generalizing s with
  | nil => exact h
  | cons g rest ih => exact ih (h.after g)

theorem ascending_made (gestures : List Gesture) : (made gestures).Ascending :=
  ascending_foldl gestures .nil

/-! ## The selected entry -/

theorem contains_iff {place : Nat} : s.contains place = true ↔ place ∈ s.places :=
  List.contains_iff_mem

theorem single_eq_some {p : Nat} : s.single = some p ↔ s.places = [p] := by
  rw [single]
  split
  next q hq => rw [hq, Option.some.injEq, List.singleton_inj]
  next hne => exact iff_of_false (fun h => by cases h) (hne p)

theorem single_eq_some_iff (h : s.Ascending) {p : Nat} :
    s.single = some p ↔ ∀ q, s.contains q = true ↔ q = p := by
  rw [single_eq_some]
  refine ⟨fun hplaces q => by rw [contains_iff, hplaces, List.mem_singleton], fun hall => ?_⟩
  have honly : ∀ q ∈ s.places, q = p := fun q hq => (hall q).1 (contains_iff.2 hq)
  have hp : p ∈ s.places := contains_iff.1 ((hall p).2 rfl)
  rw [Ascending] at h
  generalize s.places = places at h honly hp
  cases places with
  | nil => cases hp
  | cons a rest =>
    obtain ⟨ha, hrest⟩ := List.forall_mem_cons.1 honly
    cases rest with
    | nil => rw [ha]
    | cons b rest =>
      -- A second place would be the same and lie above.
      have hlt := (List.pairwise_cons.1 h).1 b (.head _)
      have hb := hrest b (.head _)
      omega

/-- Marking finds a log when one place is selected and there is an entry, and then changes that entry
alone. -/
theorem setMinimized_eq_some_iff {log marked : Log} (h : (log.entries.map Entry.id).Nodup)
    (minimized : Bool) :
    s.setMinimized log minimized = some marked ↔
      ∃ p e, s.single = some p ∧ log.entries[p]? = some e ∧
        marked = log.publish (log.entries.set p { e with minimized }) := by
  simp only [setMinimized, target, Option.map_eq_some_iff, Option.bind_eq_some_iff]
  constructor
  · rintro ⟨_, ⟨p, hp, e, he, rfl⟩, rfl⟩
    refine ⟨p, e, hp, he, ?_⟩
    rw [Log.setMinimized, Log.update, Log.modifyFirst_id h he]
  · rintro ⟨p, e, hp, he, rfl⟩
    refine ⟨e.id, ⟨p, hp, e, he, rfl⟩, ?_⟩
    rw [Log.setMinimized, Log.update, Log.modifyFirst_id h he]

end Selection

end ScpiConsole
