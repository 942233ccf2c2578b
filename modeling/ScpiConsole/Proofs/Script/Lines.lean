import Mathlib.Data.List.Forall2
import ScpiConsole.Proofs.Text.Trim
/-!
# The lines of a script

Carriage returns and the end of the text matter to the lines of a text, but no longer once these are
trimmed and the blank ones left out. So the lines of a script are simply its parts between line feeds,
and the laws of cutting carry over.

* `filled_lines` : the lines are the parts between line feeds
* `Script.lines_append_feed` : a script falls into two at every line feed
* `Script.lines_withReturns` : line endings of both kinds are the same
* `Script.lines_joinLines` : lines put together come apart again
* `Script.lines_laws` : all of this, with what a single line is
-/

namespace ScpiConsole

namespace Text

/-! ## Trimming -/

theorem trim_append_return (s : List Char) : trim (s ++ ['\r']) = trim s :=
  trim_append_of_forall (List.forall_mem_singleton.2 rfl) s

theorem trim_dropReturn (line : List Char) : trim (dropReturn line) = trim line := by
  unfold dropReturn
  split
  · next rest hrest =>
    have hline : line = rest.reverse ++ ['\r'] := by
      rw [← List.reverse_reverse line, hrest, List.reverse_cons]
    rw [hline, trim_append_return]
  · rfl

/-! ## Parts with something in them -/

/-- The parts, trimmed, without the blank ones. -/
def filled (parts : List (List Char)) : List (List Char) :=
  (parts.map trim).filter fun line => !line.isEmpty

theorem filled_append (parts more : List (List Char)) :
    filled (parts ++ more) = filled parts ++ filled more := by
  rw [filled, List.map_append, List.filter_append, filled, filled]

theorem filled_map_dropReturn (parts : List (List Char)) :
    filled (parts.map dropReturn) = filled parts := by
  rw [filled, List.map_map, filled]
  exact congrArg _ (List.map_congr_left fun line _ => trim_dropReturn line)

theorem filled_singleton (part : List Char) :
    filled [part] = if trim part = [] then [] else [trim part] := by
  rw [filled, List.map_singleton, List.filter_singleton]
  cases trim part <;> rfl

/-- The ending of a line is blank, and so is a last line that is left out. -/
theorem filled_lines (s : List Char) : filled (lines s) = filled (s.splitOn '\n') := by
  have hne := List.splitOn_ne_nil '\n' s
  have hlast : (s.splitOn '\n').getLastD [] = (s.splitOn '\n').getLast hne := by
    rw [List.getLastD_eq_getLast?, List.getLast?_eq_some_getLast hne, Option.getD_some]
  conv => rhs; rw [← List.dropLast_concat_getLast hne, filled_append]
  unfold lines
  dsimp only
  rw [filled_append, filled_map_dropReturn, hlast]
  congr 1
  split
  · next hempty => rw [List.isEmpty_iff.1 hempty]; rfl
  · rfl

/-- Every line feed with a carriage return before it. -/
def withReturns (s : List Char) : List Char :=
  s.flatMap fun c => if c = '\n' then ['\r', '\n'] else [c]

/-- Every part but the last becomes longer by the carriage return. -/
theorem forall₂_splitOn_withReturns (s : List Char) :
    List.Forall₂ (fun part part' => part' = part ∨ part' = part ++ ['\r'])
      (s.splitOn '\n') ((withReturns s).splitOn '\n') := by
  induction s with
  | nil => exact .cons (.inl rfl) .nil
  | cons c rest ih =>
    have hcons : withReturns (c :: rest) = (if c = '\n' then ['\r', '\n'] else [c]) ++ withReturns rest :=
      List.flatMap_cons
    rw [hcons]
    by_cases hc : c = '\n'
    · subst hc
      have hreturn : (['\r'] ++ '\n' :: withReturns rest).splitOn '\n' =
          ['\r'] :: (withReturns rest).splitOn '\n' := List.splitOn_append_cons_self ['\r'] (withReturns rest)
      have hempty : ('\n' :: rest).splitOn '\n' = [] :: rest.splitOn '\n' := rfl
      rw [if_pos rfl, hempty]
      exact hreturn ▸ .cons (.inr rfl) ih
    · rw [if_neg hc, List.singleton_append]
      cases hparts : rest.splitOn '\n' with
      | nil => exact absurd hparts (List.splitOn_ne_nil '\n' rest)
      | cons part parts =>
        rw [hparts] at ih
        cases hparts' : (withReturns rest).splitOn '\n' with
        | nil => exact absurd hparts' (List.splitOn_ne_nil '\n' (withReturns rest))
        | cons part' parts' =>
          rw [hparts'] at ih
          cases ih with
          | cons hpart hmore =>
            rw [splitOn_cons_of_ne hc rest part parts hparts,
              splitOn_cons_of_ne hc (withReturns rest) part' parts' hparts']
            refine .cons ?_ hmore
            rcases hpart with rfl | rfl
            · exact .inl rfl
            · exact .inr rfl

/-- A carriage return behind a part is trimmed off again. -/
theorem map_trim_eq_of_forall₂ {parts parts' : List (List Char)}
    (h : List.Forall₂ (fun part part' => part' = part ∨ part' = part ++ ['\r']) parts parts') :
    parts'.map trim = parts.map trim := by
  induction h with
  | nil => rfl
  | cons hpart _ ih =>
    rw [List.map_cons, List.map_cons, ih]
    rcases hpart with rfl | rfl
    · rfl
    · rw [trim_append_return]

theorem filled_splitOn_withReturns (s : List Char) :
    filled ((withReturns s).splitOn '\n') = filled (s.splitOn '\n') := by
  rw [filled, map_trim_eq_of_forall₂ (forall₂_splitOn_withReturns s), filled]

end Text

/-! ## Scripts -/

namespace Script

variable (a b : String) (origin : Origin)

theorem lines_eq (script : Script) :
    script.lines = (Text.filled (script.source.toList.splitOn '\n')).map String.ofList := by
  rw [← Text.filled_lines]
  rfl

theorem lines_append_feed :
    (Script.mk (a ++ "\n" ++ b) origin).lines = (Script.mk a origin).lines ++ (Script.mk b origin).lines := by
  have htext : (a ++ "\n" ++ b).toList = a.toList ++ '\n' :: b.toList := by
    rw [String.toList_append, String.toList_append, List.append_assoc]
    rfl
  rw [lines_eq, lines_eq, lines_eq, htext, List.splitOn_append_cons_self, Text.filled_append, List.map_append]

/-- A text on one line is that line, trimmed, if there is anything in it. -/
theorem lines_of_not_feed (h : '\n' ∉ a.toList) :
    (Script.mk a origin).lines =
      if Text.trim a.toList = [] then [] else [.ofList (Text.trim a.toList)] := by
  rw [lines_eq, List.splitOn_eq_singleton h, Text.filled_singleton]
  split <;> rfl

theorem lines_withReturns :
    (Script.mk (.ofList (Text.withReturns a.toList)) origin).lines = (Script.mk a origin).lines := by
  rw [lines_eq, lines_eq]
  dsimp only
  rw [String.toList_ofList, Text.filled_splitOn_withReturns]

/-- Lines put together come apart again, when each of them is one. -/
theorem lines_joinLines {parts : List String} (h : ∀ part ∈ parts,
    part.toList ≠ [] ∧ '\n' ∉ part.toList ∧ Text.trim part.toList = part.toList) :
    (Script.mk (Text.joinLines parts) origin).lines = parts := by
  induction parts with
  | nil => rfl
  | cons part rest ih =>
    obtain ⟨⟨hne, hfeed, htrim⟩, hrest⟩ := List.forall_mem_cons.1 h
    have hpart : (Script.mk part origin).lines = [part] := by
      rw [lines_of_not_feed part origin hfeed, htrim, if_neg hne, String.ofList_toList]
    cases rest with
    | nil => exact hpart
    | cons next more =>
      have hjoin : Text.joinLines (part :: next :: more) = part ++ "\n" ++ Text.joinLines (next :: more) :=
        String.intercalate_cons_cons
      rw [hjoin, lines_append_feed, hpart, ih hrest]
      rfl

/-- **The lines of a script.** A text on one line is that line, trimmed, unless it is blank; and two
texts with a line feed between them have the lines of the first and then those of the second. Carriage
returns before the line feeds change nothing. Every line has something in it, begins and ends with no
blank and holds no line feed, and the lines joined again by line feeds are the same lines. -/
theorem lines_laws :
    ('\n' ∉ a.toList → (Script.mk a origin).lines =
      if Text.trim a.toList = [] then [] else [.ofList (Text.trim a.toList)]) ∧
    (Script.mk (a ++ "\n" ++ b) origin).lines =
      (Script.mk a origin).lines ++ (Script.mk b origin).lines ∧
    (Script.mk (.ofList (Text.withReturns a.toList)) origin).lines = (Script.mk a origin).lines ∧
    (∀ line ∈ (Script.mk a origin).lines, line.toList ≠ [] ∧
      Text.StartsOutside Text.isBlank line.toList ∧ Text.EndsOutside Text.isBlank line.toList ∧
      '\n' ∉ line.toList) ∧
    (Script.mk (Text.joinLines (Script.mk a origin).lines) origin).lines = (Script.mk a origin).lines := by
  refine ⟨lines_of_not_feed a origin, lines_append_feed a b origin, lines_withReturns a origin,
    fun line hline => ?_, lines_joinLines origin fun line hline => mem_lines hline⟩
  obtain ⟨hne, hfeed, htrim⟩ := mem_lines hline
  exact ⟨hne, htrim ▸ Text.startsOutside_trim _, htrim ▸ Text.endsOutside_trim _, hfeed⟩

/-- A line with blanks and a carriage return around it, then one with a bare line ending in front. -/
theorem lines_laws_reset :
    '\n' ∉ "  *RST \r".toList ∧ (Script.mk "  *RST \r" .file).lines = ["*RST"] ∧
    (Script.mk ("  *RST \r" ++ "\n" ++ "\r\n:OUTP ON") .file).lines = ["*RST", ":OUTP ON"] ∧
    "*RST" ∈ (Script.mk "  *RST \r" .file).lines ∧ "*RST".toList ≠ [] ∧ '\n' ∉ "*RST".toList := by
  obtain ⟨hone, happend, -, hline, -⟩ := lines_laws "  *RST \r" "\r\n:OUTP ON" .file
  have hfeed : '\n' ∉ "  *RST \r".toList := by decide
  have hlines : (Script.mk "  *RST \r" .file).lines = ["*RST"] := (hone hfeed).trans (by decide)
  have hnext : (Script.mk "\r\n:OUTP ON" .file).lines = [":OUTP ON"] := by decide
  have hmem : "*RST" ∈ (Script.mk "  *RST \r" .file).lines := by
    rw [hlines]
    exact List.mem_singleton_self _
  obtain ⟨hne, -, -, hnot⟩ := hline "*RST" hmem
  refine ⟨hfeed, hlines, ?_, hmem, hne, hnot⟩
  rw [happend, hlines, hnext]
  rfl

end Script

end ScpiConsole
