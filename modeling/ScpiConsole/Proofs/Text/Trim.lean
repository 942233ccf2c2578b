import Mathlib.Data.List.TakeWhile
import ScpiConsole.Proofs.Text.Lines
/-!
# Blanks around a text

Trimming takes the blanks from around a text and leaves what stands between them. A text that is cut
into parts has its blanks around the first and the last of them, so that they are gone once the parts
are trimmed.

* `Padded`, `trim_eq_iff` : a text with blanks around it, and what is left of it
* `map_trim_splitOn` : blanks around a text do not show in its trimmed parts
* `splitOn_intercalate_eq_flatMap`, `exists_splitOn_intercalate` : parts put together come apart again
-/

namespace ScpiConsole.Text

variable {s t before after : List Char} {sep : Char}

/-! ## Blanks at one end -/

theorem trim_append_of_forall (ht : ∀ c ∈ t, isBlank c = true) (s : List Char) :
    trim (s ++ t) = trim s := by
  unfold trim trimStart trimEnd
  rw [List.dropWhile_append]
  split
  · next hs =>
    -- All of the text is blank, on both sides.
    have hrest : t.dropWhile isBlank = [] := List.dropWhile_eq_nil_iff.2 ht
    rw [hrest, List.isEmpty_iff.1 hs]
  · exact dropEndWhile_append_of_forall ht _

theorem trim_of_forall_append (hs : ∀ c ∈ s, isBlank c = true) (t : List Char) :
    trim (s ++ t) = trim t := by
  unfold trim trimStart
  rw [List.dropWhile_append_of_pos hs]

/-! ## Blanks at both ends -/

/-- The second text is the first with blanks around it. -/
def Padded (t s : List Char) : Prop :=
  ∃ before after, (∀ c ∈ before, isBlank c = true) ∧ (∀ c ∈ after, isBlank c = true) ∧
    s = before ++ t ++ after

theorem padded_trim (s : List Char) : Padded (trim s) s := by
  refine ⟨s.takeWhile isBlank, takeEndWhile isBlank (trimStart s),
    List.all_eq_true.1 List.all_takeWhile, forall_mem_takeEndWhile _ _, ?_⟩
  have hend : trim s ++ takeEndWhile isBlank (trimStart s) = trimStart s :=
    dropEndWhile_append_takeEndWhile _ _
  rw [List.append_assoc, hend, trimStart, List.takeWhile_append_dropWhile]

theorem Padded.trim_eq (h : Padded t s) : trim s = trim t := by
  obtain ⟨before, after, hbefore, hafter, rfl⟩ := h
  rw [trim_append_of_forall hafter, trim_of_forall_append hbefore]

/-- Trimming takes off the blanks around a text, as far as they reach. -/
theorem trim_eq_iff : trim s = t ↔ Padded t s ∧ StartsOutside isBlank t ∧ EndsOutside isBlank t := by
  constructor
  · rintro rfl
    exact ⟨padded_trim s, startsOutside_trim s, endsOutside_trim s⟩
  · rintro ⟨hpadded, hstart, hend⟩
    rw [hpadded.trim_eq, trim_eq_self hstart hend]

theorem trim_eq_nil_iff : trim s = [] ↔ ∀ c ∈ s, isBlank c = true := by
  constructor
  · intro h
    obtain ⟨before, after, hbefore, hafter, hs⟩ := padded_trim s
    rw [hs, h, List.append_nil]
    exact List.forall_mem_append.2 ⟨hbefore, hafter⟩
  · exact fun h => trim_append_of_forall h []

/-! ## Parts -/

/-- What stands in front of a text goes to its first part. -/
theorem exists_splitOn_of_append (h : sep ∉ before) (s : List Char) : ∃ part parts,
    s.splitOn sep = part :: parts ∧ (before ++ s).splitOn sep = (before ++ part) :: parts := by
  induction before with
  | nil =>
    obtain ⟨part, parts, hs⟩ := List.exists_cons_of_ne_nil (List.splitOn_ne_nil sep s)
    exact ⟨part, parts, hs, hs⟩
  | cons c rest ih =>
    rw [List.mem_cons, not_or] at h
    obtain ⟨part, parts, hs, hrest⟩ := ih h.2
    exact ⟨part, parts, hs, splitOn_cons_of_ne (Ne.symm h.1) _ _ _ hrest⟩

theorem not_mem_of_isBlank (hsep : isBlank sep = false) (h : ∀ c ∈ s, isBlank c = true) : sep ∉ s :=
  fun hmem => by simp [h sep hmem] at hsep

theorem map_trim_splitOn_append (hsep : isBlank sep = false) (ht : ∀ c ∈ t, isBlank c = true)
    (s : List Char) : ((s ++ t).splitOn sep).map trim = (s.splitOn sep).map trim := by
  obtain ⟨front, last, hcut, -⟩ := exists_splitOn_append sep s
  have hs := hcut [] List.not_mem_nil
  rw [List.append_nil, List.append_nil] at hs
  rw [hcut t (not_mem_of_isBlank hsep ht), hs, List.map_append, List.map_append, List.map_singleton,
    List.map_singleton, trim_append_of_forall ht]

theorem map_trim_splitOn_of_append (hsep : isBlank sep = false) (hs : ∀ c ∈ s, isBlank c = true)
    (t : List Char) : ((s ++ t).splitOn sep).map trim = (t.splitOn sep).map trim := by
  obtain ⟨part, parts, ht, happend⟩ := exists_splitOn_of_append (not_mem_of_isBlank hsep hs) t
  rw [happend, ht, List.map_cons, List.map_cons, trim_of_forall_append hs]

/-- Blanks around a text lie around its first and its last part. -/
theorem map_trim_splitOn (hsep : isBlank sep = false) (h : Padded t s) :
    (s.splitOn sep).map trim = (t.splitOn sep).map trim := by
  obtain ⟨before, after, hbefore, hafter, rfl⟩ := h
  rw [map_trim_splitOn_append hsep hafter, map_trim_splitOn_of_append hsep hbefore]

theorem splitOn_intercalate_eq_flatMap (sep : Char) {parts : List (List Char)} (h : parts ≠ []) :
    ([sep].intercalate parts).splitOn sep = parts.flatMap (List.splitOn sep) := by
  induction parts with
  | nil => exact absurd rfl h
  | cons part rest ih =>
    cases rest with
    | nil => simp
    | cons next more =>
      rw [List.intercalate_cons_cons, List.append_assoc, List.singleton_append, List.splitOn_append_cons_self,
        ih (List.cons_ne_nil next more)]
      exact List.flatMap_cons.symm

theorem flatMap_splitOn_of_not_mem {parts : List (List Char)} (h : ∀ part ∈ parts, sep ∉ part) :
    parts.flatMap (List.splitOn sep) = parts := by
  induction parts with
  | nil => rfl
  | cons part rest ih =>
    obtain ⟨hpart, hrest⟩ := List.forall_mem_cons.1 h
    rw [List.flatMap_cons, List.splitOn_eq_singleton hpart, ih hrest, List.singleton_append]

/-- Parts without the separator come out as they are, whatever is put behind them. -/
theorem exists_splitOn_intercalate {parts : List (List Char)} (h : ∀ part ∈ parts, sep ∉ part)
    (hne : parts ≠ []) (more : List (List Char)) :
    ∃ rest, ([sep].intercalate (parts ++ more)).splitOn sep = parts ++ rest := by
  refine ⟨more.flatMap (List.splitOn sep), ?_⟩
  rw [splitOn_intercalate_eq_flatMap sep (List.append_ne_nil_of_left_ne_nil hne more), List.flatMap_append,
    flatMap_splitOn_of_not_mem h]

end ScpiConsole.Text
