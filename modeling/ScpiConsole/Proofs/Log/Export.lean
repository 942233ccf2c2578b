import Mathlib.Algebra.Ring.Nat
import Mathlib.Data.List.Forall2
import ScpiConsole.Log.Export
import ScpiConsole.Proofs.Text.Lines
import ScpiConsole.Proofs.Time.Rfc3339
/-!
# Full exports

A full export has the moment of every entry, its command and its response, and a line feed behind each.
Nothing in a command or a response is escaped. So an entry takes one line exactly when neither of the two
has a line feed in it, up to trailing white space, and only then can the entries be told apart again.

* `Text.Terminated` : the lines of a text of which each ends in a line feed
* `Entry.ShownBy` : a line shows an entry, and `Entry.ShownBy.alike` : no other one
* `toList_exportText_fullLog` : the text of a full export
* `full_export_lines` : how many lines there are, and when they are one for each entry
-/

namespace ScpiConsole

namespace Text

variable {text : List Char} {parts parts' : List (List Char)}

/-! ## Lines with a line feed behind each -/

/-- The text is those lines, each of them ended by a line feed. -/
structure Terminated (text : List Char) (parts : List (List Char)) : Prop where
  text_eq : text = parts.flatMap fun part => part ++ ['\n']
  not_feed : ∀ part ∈ parts, '\n' ∉ part

theorem splitOn_flatMap_feed (h : ∀ part ∈ parts, '\n' ∉ part) :
    (parts.flatMap fun part => part ++ ['\n']).splitOn '\n' = parts ++ [[]] := by
  induction parts with
  | nil => rfl
  | cons part rest ih =>
    obtain ⟨hpart, hrest⟩ := List.forall_mem_cons.1 h
    rw [List.flatMap_cons, List.append_assoc, List.singleton_append, List.splitOn_append_cons_self,
      List.splitOn_eq_singleton hpart, ih hrest]
    rfl

/-- A text has such lines in one way only. -/
theorem Terminated.unique (h : Terminated text parts) (h' : Terminated text parts') : parts = parts' := by
  have hcut := splitOn_flatMap_feed h.not_feed
  rw [← h.text_eq, h'.text_eq, splitOn_flatMap_feed h'.not_feed] at hcut
  exact (List.append_cancel_right hcut).symm

theorem count_flatMap_feed (pieces : List (List Char)) :
    (pieces.flatMap fun piece => piece ++ ['\n']).count '\n' =
      pieces.length + (pieces.map (List.count '\n')).sum := by
  induction pieces with
  | nil => rfl
  | cons piece rest ih =>
    rw [List.flatMap_cons, List.count_append, List.count_append, ih, List.count_singleton_self,
      List.length_cons, List.map_cons, List.sum_cons]
    omega

theorem sum_count_eq_zero_iff {c : Char} {pieces : List (List Char)} :
    (pieces.map (List.count c)).sum = 0 ↔ ∀ piece ∈ pieces, c ∉ piece := by
  induction pieces with
  | nil => simp
  | cons piece rest ih =>
    rw [List.map_cons, List.sum_cons, Nat.add_eq_zero_iff, List.count_eq_zero, ih, List.forall_mem_cons]

/-- There are as many such lines as there are line feeds. -/
theorem Terminated.length_eq (h : Terminated text parts) : parts.length = text.count '\n' := by
  rw [h.text_eq, count_flatMap_feed, sum_count_eq_zero_iff.2 h.not_feed]
  rfl

theorem flatMap_feed_eq_intercalate (h : parts ≠ []) :
    (parts.flatMap fun part => part ++ ['\n']) = ['\n'].intercalate parts ++ ['\n'] := by
  induction parts with
  | nil => exact absurd rfl h
  | cons part rest ih =>
    cases rest with
    | nil => simp
    | cons next more =>
      rw [List.flatMap_cons, ih (List.cons_ne_nil next more), List.intercalate_cons_cons,
        List.append_assoc, List.append_assoc, List.append_assoc]

/-- Pieces with a line feed behind each make such a text, whatever is in them. -/
theorem exists_terminated (pieces : List (List Char)) :
    ∃ parts, Terminated (pieces.flatMap fun piece => piece ++ ['\n']) parts := by
  refine ⟨pieces.flatMap (List.splitOn '\n'), ?_, ?_⟩
  · rw [List.flatMap_assoc]
    refine congrArg (List.flatMap · pieces) (funext fun piece => ?_)
    rw [flatMap_feed_eq_intercalate (List.splitOn_ne_nil '\n' piece), List.intercalate_splitOn]
  · intro part hpart
    obtain ⟨piece, -, hmem⟩ := List.mem_flatMap.1 hpart
    exact not_mem_of_mem_splitOn hmem

/-! ## The ends of a line -/

/-- What stands in front stays, unless it ends in the class itself. -/
theorem dropEndWhile_append_left {α : Type} {p : α → Bool} {s : List α} (hs : EndsOutside p s)
    (t : List α) : dropEndWhile p (s ++ t) = s ++ dropEndWhile p t := by
  have hwhole := dropEndWhile_append_takeEndWhile p (s ++ t)
  have htail := dropEndWhile_append_takeEndWhile p t
  rw [takeEndWhile_append_left hs] at hwhole
  nth_rewrite 3 [← htail] at hwhole
  rw [← List.append_assoc] at hwhole
  exact List.append_cancel_right hwhole

theorem trimEnd_cons_blank (s : List Char) :
    trimEnd (' ' :: s) = if trimEnd s = [] then [] else ' ' :: trimEnd s := by
  have hempty : (s.reverse.dropWhile isBlank).isEmpty = true ↔
      (s.reverse.dropWhile isBlank).reverse = [] := by
    rw [List.isEmpty_iff, List.reverse_eq_nil_iff]
  unfold trimEnd dropEndWhile
  rw [List.reverse_cons, List.dropWhile_append]
  simp only [hempty]
  split
  · rfl
  · exact List.reverse_append

theorem trimEnd_cons_blank_inj {s t : List Char} (h : trimEnd (' ' :: s) = trimEnd (' ' :: t)) :
    trimEnd s = trimEnd t := by
  rw [trimEnd_cons_blank, trimEnd_cons_blank] at h
  split at h <;> split at h
  · next hs ht => rw [hs, ht]
  · cases h
  · cases h
  · exact (List.cons.inj h).2

theorem count_feed_trimEnd_cons_blank (s : List Char) :
    (trimEnd (' ' :: s)).count '\n' = (trimEnd s).count '\n' := by
  rw [trimEnd_cons_blank]
  split
  · next hs => rw [hs]
  · exact List.count_cons_of_ne (by decide)

end Text

/-! ## Moments -/

theorem Timestamp.not_mem_stampText {c : Char} (hdigit : Text.isDigit c = false)
    (hsign : c ∉ ['-', '+', ':', ' ', '.']) (t : Timestamp) : c ∉ t.stampText := by
  have hpadded (width n : Nat) : c ∉ Text.padded width n := by
    intro hmem
    rw [Text.isDigit_of_mem_padded hmem] at hdigit
    cases hdigit
  simp only [List.mem_cons, List.not_mem_nil, or_false, not_or] at hsign
  have hyear : c ∉ yearText t.date.year := by
    unfold yearText
    split
    · exact hpadded _ _
    · split <;> simp [hpadded, hsign]
  simp [stampText, dateText, clockText, hyear, hpadded, hsign]

/-! ## Entries and their lines -/

namespace Entry

variable {e e' : Entry} {line : List Char}

/-- The moment of an entry, in brackets. -/
def mark (e : Entry) : List Char := '[' :: e.time.stampText ++ [']']

/-- The command of an entry and its response. -/
def said (e : Entry) : List Char := e.scpi.toList ++ ' ' :: (e.response.getD "").toList

/-- The line begins with the moment of the entry, and is moment, command and response up to trailing
white space. -/
structure ShownBy (e : Entry) (line : List Char) : Prop where
  begins : e.mark <+: line
  whole : ∃ blanks, (∀ c ∈ blanks, Text.isBlank c = true) ∧ e.mark ++ ' ' :: e.said = line ++ blanks
  trimmed : Text.EndsOutside Text.isBlank line

/-- The same moment, and the same command and response up to trailing white space. -/
structure Alike (e e' : Entry) : Prop where
  mark_eq : e.mark = e'.mark
  said_eq : Text.trimEnd e.said = Text.trimEnd e'.said

theorem endsOutside_mark (e : Entry) : Text.EndsOutside Text.isBlank e.mark :=
  Text.endsOutside_append_singleton rfl

theorem toList_exportLine (e : Entry) :
    e.exportLine.toList = e.mark ++ Text.trimEnd (' ' :: e.said) := by
  have htext : '[' :: e.time.stampText ++ ']' :: ' ' :: e.scpi.toList ++
      ' ' :: (e.response.getD "").toList = e.mark ++ ' ' :: e.said := by simp [mark, said]
  rw [exportLine, String.toList_ofList, htext]
  exact Text.dropEndWhile_append_left e.endsOutside_mark _

theorem shownBy_iff : e.ShownBy line ↔ line = e.exportLine.toList := by
  rw [toList_exportLine]
  constructor
  · rintro ⟨-, ⟨blanks, hblanks, hwhole⟩, htrimmed⟩
    have hdrop := Text.dropEndWhile_append htrimmed hblanks
    rw [← hwhole, Text.dropEndWhile_append_left e.endsOutside_mark] at hdrop
    exact hdrop.symm
  · rintro rfl
    refine ⟨List.prefix_append _ _, ⟨Text.takeEndWhile Text.isBlank (' ' :: e.said),
      Text.forall_mem_takeEndWhile _ _, ?_⟩, ?_⟩
    · rw [List.append_assoc, Text.trimEnd, Text.dropEndWhile_append_takeEndWhile]
    · unfold Text.trimEnd
      rw [← Text.dropEndWhile_append_left e.endsOutside_mark]
      exact Text.endsOutside_dropEndWhile _ _

/-- A line shows one entry only: the moment ends at the first bracket. -/
theorem ShownBy.alike (h : e.ShownBy line) (h' : e'.ShownBy line) : e.Alike e' := by
  have hlines := (shownBy_iff.1 h).symm.trans (shownBy_iff.1 h')
  have hcut (e : Entry) : Text.cutOnce ']' e.exportLine.toList =
      some ('[' :: e.time.stampText, Text.trimEnd (' ' :: e.said)) := by
    have hnot : ']' ∉ '[' :: e.time.stampText := by
      rw [List.mem_cons, not_or]
      exact ⟨by decide, Timestamp.not_mem_stampText rfl (by decide) _⟩
    rw [toList_exportLine, mark, List.append_assoc, List.singleton_append]
    exact Text.cutOnce_append_sep hnot _
  have hparts := hcut e
  rw [hlines, hcut e', Option.some.injEq, Prod.mk.injEq] at hparts
  refine ⟨?_, (Text.trimEnd_cons_blank_inj hparts.2).symm⟩
  rw [mark, mark, hparts.1]

theorem count_feed_exportLine (e : Entry) :
    e.exportLine.toList.count '\n' = (Text.trimEnd e.said).count '\n' := by
  have hmark : e.mark.count '\n' = 0 := by
    rw [List.count_eq_zero]
    simp [mark, Timestamp.not_mem_stampText (c := '\n') rfl (by decide) e.time]
  rw [toList_exportLine, List.count_append, hmark, Nat.zero_add, Text.count_feed_trimEnd_cons_blank]

end Entry

/-! ## Exports -/

variable {es es' : List Entry}

/-- A full export is the lines of the entries with a line feed behind each. -/
theorem toList_exportText_fullLog (es : List Entry) : (exportText es .fullLog).toList =
    (es.map fun e => e.exportLine.toList).flatMap fun line => line ++ ['\n'] := by
  change (if (Text.joinLines (es.map Entry.exportLine)).isEmpty then
    Text.joinLines (es.map Entry.exportLine) else
    Text.joinLines (es.map Entry.exportLine) ++ "\n").toList = _
  cases es with
  | nil => rfl
  | cons e rest =>
    have htoList := Text.toList_joinLines_append_feed (List.cons_ne_nil e.exportLine (rest.map Entry.exportLine))
    rw [List.map_cons, if_neg, htoList, List.flatMap_map, ← List.map_cons, List.flatMap_map]
    -- A text with an opening bracket in it is not empty.
    intro hempty
    rw [String.isEmpty_iff.1 hempty, List.flatMap_cons, Entry.toList_exportLine, Entry.mark] at htoList
    cases htoList

/-- Each entry takes one line. -/
def OnOneLine (es : List Entry) : Prop := ∀ e ∈ es, '\n' ∉ Text.trimEnd e.said

theorem onOneLine_iff_sum :
    OnOneLine es ↔ (es.map fun e => (Text.trimEnd e.said).count '\n').sum = 0 := by
  have hmap : (es.map fun e => (Text.trimEnd e.said).count '\n') =
      (es.map fun e => Text.trimEnd e.said).map (List.count '\n') := by
    rw [List.map_map]
    rfl
  rw [hmap, Text.sum_count_eq_zero_iff, List.forall_mem_map]
  rfl

theorem count_feed_exportText (es : List Entry) : (exportText es .fullLog).toList.count '\n' =
    es.length + (es.map fun e => (Text.trimEnd e.said).count '\n').sum := by
  have hcounts : (es.map fun e => e.exportLine.toList).map (List.count '\n') =
      es.map fun e => (Text.trimEnd e.said).count '\n' := by
    rw [List.map_map]
    refine List.map_congr_left fun e _ => ?_
    rw [Function.comp_apply, Entry.count_feed_exportLine]
  rw [toList_exportText_fullLog, Text.count_flatMap_feed, List.length_map, hcounts]

theorem terminated_exportText (h : OnOneLine es) :
    Text.Terminated (exportText es .fullLog).toList (es.map fun e => e.exportLine.toList) := by
  refine ⟨toList_exportText_fullLog es, List.forall_mem_map.2 fun e he => ?_⟩
  rw [← List.count_eq_zero, Entry.count_feed_exportLine, List.count_eq_zero]
  exact h e he

theorem forall₂_shownBy_exportLine (es : List Entry) :
    List.Forall₂ Entry.ShownBy es (es.map fun e => e.exportLine.toList) :=
  List.forall₂_map_right_iff.2 (List.forall₂_same.2 fun _ _ => Entry.shownBy_iff.2 rfl)

theorem forall₂_alike_of_shownBy {parts : List (List Char)} (h : List.Forall₂ Entry.ShownBy es parts)
    (h' : List.Forall₂ Entry.ShownBy es' parts) : List.Forall₂ Entry.Alike es es' := by
  induction h generalizing es' with
  | nil =>
    cases h'
    exact .nil
  | cons hline _ ih =>
    cases h' with
    | cons hline' hmore => exact .cons (hline.alike hline') (ih hmore)

/-- **The lines of a full export.** The export of an empty log is empty. Any other has a line for each
entry and one more for each line feed in a command or a response that has something other than white
space behind it. The lines show the entries one by one exactly if there are no such line feeds, and two
logs of this kind with the same export are alike, entry by entry. -/
theorem full_export_lines (es : List Entry) :
    exportText [] .fullLog = "" ∧
    (∃ parts, Text.Terminated (exportText es .fullLog).toList parts ∧
      parts.length = es.length + (es.map fun e => (Text.trimEnd e.said).count '\n').sum) ∧
    ((∃ parts, Text.Terminated (exportText es .fullLog).toList parts ∧
      List.Forall₂ Entry.ShownBy es parts) ↔ OnOneLine es) ∧
    ∀ es', OnOneLine es → OnOneLine es' → exportText es .fullLog = exportText es' .fullLog →
      List.Forall₂ Entry.Alike es es' := by
  obtain ⟨parts, hparts⟩ := Text.exists_terminated (es.map fun e => e.exportLine.toList)
  rw [← toList_exportText_fullLog] at hparts
  have hlength := hparts.length_eq
  rw [count_feed_exportText] at hlength
  refine ⟨rfl, ⟨parts, hparts, hlength⟩, ⟨?_, fun h => ?_⟩, fun es' h h' heq => ?_⟩
  · rintro ⟨lines, hlines, hshown⟩
    obtain rfl := hparts.unique hlines
    rw [onOneLine_iff_sum]
    have hone := hshown.length_eq
    omega
  · exact ⟨_, terminated_exportText h, forall₂_shownBy_exportLine es⟩
  · have hsame := (terminated_exportText h).unique (heq ▸ terminated_exportText h')
    exact forall₂_alike_of_shownBy (forall₂_shownBy_exportLine es)
      (hsame ▸ forall₂_shownBy_exportLine es')

/-- A voltage that was measured. -/
def measured (response : String) : Entry :=
  { Entry.pending ⟨1⟩ .epoch ":MEAS:VOLT?" with response := some response }

/-- An output that was switched on. -/
def switchedOn : Entry := { Entry.pending ⟨2⟩ .epoch ":OUTP ON" with response := some "" }

/-- A line feed at the end of a response is not in the export, so the logs with it and without it are alike. -/
theorem full_export_lines_measured :
    OnOneLine [measured "1.25\n", switchedOn] ∧ OnOneLine [measured "1.25", switchedOn] ∧
    (∃ parts, Text.Terminated (exportText [measured "1.25\n", switchedOn] .fullLog).toList parts ∧
      List.Forall₂ Entry.ShownBy [measured "1.25\n", switchedOn] parts) ∧
    exportText [measured "1.25\n", switchedOn] .fullLog =
      exportText [measured "1.25", switchedOn] .fullLog ∧
    List.Forall₂ Entry.Alike [measured "1.25\n", switchedOn] [measured "1.25", switchedOn] := by
  obtain ⟨-, -, hshown, halike⟩ := full_export_lines [measured "1.25\n", switchedOn]
  have hone : OnOneLine [measured "1.25\n", switchedOn] := onOneLine_iff_sum.2 (by decide +kernel)
  have hone' : OnOneLine [measured "1.25", switchedOn] := onOneLine_iff_sum.2 (by decide +kernel)
  have heq : exportText [measured "1.25\n", switchedOn] .fullLog =
      exportText [measured "1.25", switchedOn] .fullLog := by decide +kernel
  exact ⟨hone, hone', hshown.2 hone, heq, halike _ hone hone' heq⟩

/-- A response of two lines gives two lines, of which the second passes for an entry of its own. -/
theorem full_export_forged :
    (¬ ∃ parts, Text.Terminated
      (exportText [measured "1.25\n[1970-01-01 00:00:00.000] :OUTP ON"] .fullLog).toList parts ∧
        parts.length = [measured "1.25\n[1970-01-01 00:00:00.000] :OUTP ON"].length) ∧
    exportText [measured "1.25\n[1970-01-01 00:00:00.000] :OUTP ON"] .fullLog =
      exportText [measured "1.25", switchedOn] .fullLog := by
  refine ⟨?_, by decide +kernel⟩
  rintro ⟨parts, hparts, hlength⟩
  have hfeeds : (exportText [measured "1.25\n[1970-01-01 00:00:00.000] :OUTP ON"] .fullLog).toList.count
      '\n' = 2 := by decide +kernel
  rw [hparts.length_eq, hfeeds] at hlength
  cases hlength

end ScpiConsole
