import ScpiConsole.Proofs.Text.Ends
import ScpiConsole.Script

/-!
# The lines of a text

* `trim_eq_self`, `trim_trim` : a text that neither begins nor ends with a blank
* `lines_append_feed` : a text falls into its lines at every line feed
* `lines_flatMap` : lines that are put together come apart again
* `Script.mem_lines` : what every line of a script is like
-/

namespace ScpiConsole

namespace Text

/-! ## Trimming -/

theorem trim_eq_self {s : List Char} (hstart : StartsOutside isBlank s) (hend : EndsOutside isBlank s) :
    trim s = s := by
  have htrimStart : trimStart s = s := by
    cases s with
    | nil => rfl
    | cons c rest => exact List.dropWhile_cons_of_neg (by simp [hstart c rfl])
  rw [trim, htrimStart]
  exact dropEndWhile_eq_self hend

theorem endsOutside_trim (s : List Char) : EndsOutside isBlank (trim s) := endsOutside_dropEndWhile _ _

theorem startsOutside_trim (s : List Char) : StartsOutside isBlank (trim s) := by
  intro c hc
  -- The tail that is dropped lies behind the first character, which is no blank.
  have hsplit := dropEndWhile_append_takeEndWhile isBlank (trimStart s)
  have hhead : (trimStart s).head? = some c := by
    rw [← hsplit, List.head?_append]
    change ((trim s).head?.or _) = _
    rw [hc, Option.some_or]
  have hnot := List.head?_dropWhile_not isBlank s
  rw [trimStart] at hhead
  simpa only [hhead] using hnot

theorem trim_trim (s : List Char) : trim (trim s) = trim s :=
  trim_eq_self (startsOutside_trim s) (endsOutside_trim s)

theorem mem_of_mem_trim {s : List Char} {c : Char} (h : c ∈ trim s) : c ∈ s :=
  (List.dropWhile_suffix isBlank).subset (mem_of_mem_dropEndWhile h)

/-! ## Lines -/

theorem dropReturn_eq_self {line : List Char} (h : line.getLast? ≠ some '\r') :
    dropReturn line = line := by
  unfold dropReturn
  split
  · next rest hrest =>
    rw [List.getLast?_eq_head?_reverse, hrest] at h
    exact absurd rfl h
  · rfl

theorem lines_append_feed (a b : List Char) :
    lines (a ++ '\n' :: b) = (a.splitOn '\n').map dropReturn ++ lines b := by
  have hb := List.splitOn_ne_nil '\n' b
  have hlast : (a.splitOn '\n' ++ b.splitOn '\n').getLastD [] = (b.splitOn '\n').getLastD [] := by
    rw [List.getLastD_eq_getLast?, List.getLastD_eq_getLast?, List.getLast?_append_of_ne_nil _ hb]
  unfold lines
  rw [List.splitOn_append_cons_self]
  dsimp only
  rw [hlast, List.dropLast_append_of_ne_nil hb, List.map_append, List.append_assoc]

/-- No line feed in it, and no carriage return at its end. -/
def IsLine (part : List Char) : Prop := '\n' ∉ part ∧ part.getLast? ≠ some '\r'

theorem lines_flatMap {parts : List (List Char)} (h : ∀ part ∈ parts, IsLine part) :
    lines (parts.flatMap fun part => part ++ ['\n']) = parts := by
  induction parts with
  | nil => rfl
  | cons part rest ih =>
    obtain ⟨⟨hfeed, hreturn⟩, hrest⟩ := List.forall_mem_cons.1 h
    rw [List.flatMap_cons, List.append_assoc, List.singleton_append, lines_append_feed,
      List.splitOn_eq_singleton hfeed, List.map_singleton, dropReturn_eq_self hreturn, ih hrest]
    rfl

theorem not_feed_of_mem_lines {s part : List Char} (h : part ∈ lines s) : '\n' ∉ part := by
  have hdrop (line : List Char) (hline : '\n' ∉ line) : '\n' ∉ dropReturn line := by
    unfold dropReturn
    split
    · next rest hrest =>
      intro hmem
      refine hline (List.mem_reverse.1 ?_)
      rw [hrest]
      exact List.mem_cons_of_mem _ (List.mem_reverse.1 hmem)
    · exact hline
  unfold lines at h
  rcases List.mem_append.1 h with h | h
  · obtain ⟨line, hline, rfl⟩ := List.mem_map.1 h
    exact hdrop line (not_mem_of_mem_splitOn (List.dropLast_subset _ hline))
  · split at h
    · cases h
    · rw [List.mem_singleton.1 h, List.getLastD_eq_getLast?]
      cases hlast : (s.splitOn '\n').getLast? with
      | none => simp
      | some last => exact not_mem_of_mem_splitOn (List.mem_of_getLast? hlast)

theorem toList_joinLines_append_feed {parts : List String} (h : parts ≠ []) :
    (joinLines parts ++ "\n").toList = parts.flatMap fun part => part.toList ++ ['\n'] := by
  induction parts with
  | nil => exact absurd rfl h
  | cons part rest ih =>
    cases rest with
    | nil => simp [joinLines, String.toList_append]
    | cons next more =>
      have hcons : joinLines (part :: next :: more) = part ++ "\n" ++ joinLines (next :: more) :=
        String.intercalate_cons_cons
      have hrest := ih (List.cons_ne_nil next more)
      rw [hcons, String.append_assoc, String.toList_append, hrest, String.toList_append,
        List.flatMap_cons]
      rfl

end Text

/-! ## Lines of a script -/

theorem Script.mem_lines {script : Script} {line : String} (h : line ∈ script.lines) :
    line.toList ≠ [] ∧ '\n' ∉ line.toList ∧ Text.trim line.toList = line.toList := by
  obtain ⟨part, hpart, rfl⟩ := List.mem_map.1 h
  obtain ⟨hpart, hsome⟩ := List.mem_filter.1 hpart
  obtain ⟨whole, hwhole, rfl⟩ := List.mem_map.1 hpart
  rw [String.toList_ofList]
  refine ⟨by simpa using hsome, fun hfeed => ?_, Text.trim_trim whole⟩
  exact Text.not_feed_of_mem_lines hwhole (Text.mem_of_mem_trim hfeed)

end ScpiConsole
