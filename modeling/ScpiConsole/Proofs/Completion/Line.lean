import ScpiConsole.Completion.Insertion
import ScpiConsole.Proofs.Completion.Walk
import ScpiConsole.Proofs.Mnemonic.Spelling
/-!
# Lines and their paths

Insertion looks for the last colon of a line, the walk cuts it at all of them. What is kept of the
line in the one is what leads to the completed segments in the other.

* `ofText_throughLastColon_append` : another segment in progress
* `ofText_append_colon` : one more completed segment
* `insert_mnemonic` : the line with a mnemonic of letters in it
-/

namespace ScpiConsole.Completion

/-! ## The line up to its last colon -/

theorem throughLastColon_append_takeEndWhile (text : List Char) :
    throughLastColon text ++ Text.takeEndWhile (· ≠ ':') text = text :=
  Text.dropEndWhile_append_takeEndWhile _ _

theorem not_mem_takeEndWhile_colon (text : List Char) : ':' ∉ Text.takeEndWhile (· ≠ ':') text := by
  intro h
  simpa using Text.forall_mem_takeEndWhile _ _ _ h

theorem throughLastColon_eq (text : List Char) :
    throughLastColon text = [] ∨ ∃ before, throughLastColon text = before ++ [':'] := by
  by_cases hne : throughLastColon text = []
  · exact Or.inl hne
  · refine Or.inr ⟨(throughLastColon text).dropLast, ?_⟩
    have hlast := Text.endsOutside_dropEndWhile (· ≠ ':') text _ (List.getLast?_eq_some_getLast hne)
    have hcolon : (throughLastColon text).getLast hne = ':' := by simpa using hlast
    rw [← hcolon, List.dropLast_concat_getLast]

/-! ## The path of a line -/

/-- The parts without an empty one at the start. -/
def sansRoot : List (List Char) → List (List Char)
  | [] :: rest => rest
  | parts => parts

theorem ofText_eq_sansRoot (text : List Char) :
    Path.ofText text =
      ⟨(sansRoot (text.splitOn ':')).dropLast, (sansRoot (text.splitOn ':')).getLastD []⟩ := rfl

theorem sansRoot_append_singleton (parts : List (List Char)) {s : List Char} (hs : s ≠ []) :
    sansRoot (parts ++ [s]) = sansRoot parts ++ [s] := by
  cases parts with
  | nil =>
    cases s with
    | nil => exact absurd rfl hs
    | cons c rest => rfl
  | cons part rest => cases part <;> rfl

theorem ofText_eq {text s : List Char} {parts : List (List Char)}
    (h : text.splitOn ':' = parts ++ [s]) : Path.ofText text = ⟨sansRoot parts, s⟩ := by
  rw [ofText_eq_sansRoot, h]
  cases parts with
  | nil => cases s <;> rfl
  | cons part rest =>
    have hlast : sansRoot (part :: rest ++ [s]) = sansRoot (part :: rest) ++ [s] := by
      cases part <;> rfl
    rw [hlast, List.dropLast_concat, List.getLastD_concat]

/-- What is kept of a line stands for some parts, whatever segment comes behind it. -/
theorem exists_splitOn_throughLastColon (text : List Char) :
    ∃ parts, ∀ s, ':' ∉ s → (throughLastColon text ++ s).splitOn ':' = parts ++ [s] := by
  rcases throughLastColon_eq text with h | ⟨before, h⟩
  · refine ⟨[], fun s hs => ?_⟩
    rw [h, List.nil_append, List.splitOn_eq_singleton hs, List.nil_append]
  · refine ⟨before.splitOn ':', fun s hs => ?_⟩
    rw [h, List.append_assoc, List.singleton_append, List.splitOn_append_cons_self,
      List.splitOn_eq_singleton hs]

theorem exists_ofText_throughLastColon (text : List Char) :
    ∃ parts, (Path.ofText text).completed = sansRoot parts ∧
      ∀ s, ':' ∉ s → (throughLastColon text ++ s).splitOn ':' = parts ++ [s] := by
  obtain ⟨parts, h⟩ := exists_splitOn_throughLastColon text
  have htext := h _ (not_mem_takeEndWhile_colon text)
  rw [throughLastColon_append_takeEndWhile] at htext
  exact ⟨parts, by rw [ofText_eq htext], h⟩

theorem ofText_throughLastColon_append (text : List Char) {s : List Char} (hs : ':' ∉ s) :
    Path.ofText (throughLastColon text ++ s) = ⟨(Path.ofText text).completed, s⟩ := by
  obtain ⟨parts, hparts, h⟩ := exists_ofText_throughLastColon text
  rw [ofText_eq (h s hs), hparts]

theorem ofText_append_colon (text : List Char) {s : List Char} (hs : ':' ∉ s) (hne : s ≠ []) :
    Path.ofText (throughLastColon text ++ s ++ [':']) =
      ⟨(Path.ofText text).completed ++ [s], []⟩ := by
  obtain ⟨parts, hparts, h⟩ := exists_ofText_throughLastColon text
  have hcut : (throughLastColon text ++ s ++ [':']).splitOn ':' = (parts ++ [s]) ++ [[]] := by
    rw [List.splitOn_append_cons_self, h s hs]
    rfl
  rw [ofText_eq hcut, sansRoot_append_singleton parts hne, hparts]

theorem inProgress_eq (text : List Char) :
    (Path.ofText text).inProgress = Text.takeEndWhile (· ≠ ':') text := by
  have h := ofText_throughLastColon_append text (not_mem_takeEndWhile_colon text)
  rw [throughLastColon_append_takeEndWhile] at h
  rw [h]

theorem throughLastColon_append_inProgress (text : List Char) :
    throughLastColon text ++ (Path.ofText text).inProgress = text := by
  rw [inProgress_eq, throughLastColon_append_takeEndWhile]

theorem not_mem_inProgress (text : List Char) : ':' ∉ (Path.ofText text).inProgress := by
  rw [inProgress_eq]
  exact not_mem_takeEndWhile_colon text

/-- What is kept of a line without a star at its start leaves paths to complete. -/
theorem completable_throughLastColon_append {text s : List Char} (hstar : text.head? ≠ some '*')
    (hne : s ≠ []) (hs : '*' ∉ s) (hquery : s.getLast? ≠ some '?') (hblank : s.getLast? ≠ some ' ') :
    Completable (throughLastColon text ++ s) where
  head := by
    rw [List.head?_append]
    cases h : throughLastColon text with
    | nil =>
      rw [List.head?_nil, Option.none_or]
      exact fun hhead => hs (List.mem_of_head? hhead)
    | cons c rest =>
      rw [← throughLastColon_append_takeEndWhile text, h] at hstar
      exact hstar
  query := by rwa [List.getLast?_append_of_ne_nil _ hne]
  blank := by rwa [List.getLast?_append_of_ne_nil _ hne]

/-! ## Insertion -/

theorem isCommon_eq_false {m : Mnemonic} (hm : m.Lettered) : m.isCommon = false := by
  cases h : m.stem with
  | nil =>
    obtain ⟨c, hc, -⟩ := hm.capital
    rw [h] at hc
    exact absurd hc List.not_mem_nil
  | cons c rest =>
    have hc : Text.isLetter c = true := hm.letters c (h ▸ List.mem_cons_self)
    have hne : c ≠ '*' := Text.ne_of_isLetter hc (by decide)
    rw [Mnemonic.isCommon, Mnemonic.text_eq, h]
    simpa using hne

/-- A mnemonic takes the place of the segment in progress. One that takes a number goes in without
its `?`, and one with something behind it brings a colon otherwise. -/
theorem insert_mnemonic {m : Mnemonic} (hm : m.Lettered) (input : String) (branch short : Bool) :
    insert input (.mnemonic m branch) short =
      (.ofList (throughLastColon input.toList ++ m.spelling short ++
        (if m.suffixed then [] else m.mark) ++ if branch && !m.suffixed then [':'] else []),
        ⟨m.suffixed, m.isQuery⟩) := by
  have htext : (if short then Mnemonic.shortForm m.text.toList else m.text.toList) =
      m.spelling short ++ m.mark := by
    cases short
    · rw [if_neg Bool.false_ne_true, Mnemonic.text_eq]
      rfl
    · rw [if_pos rfl, Mnemonic.shortForm_text]
  have htail : (Text.dropTail? ['?'] (m.spelling short ++ m.mark)).getD (m.spelling short ++ m.mark) =
      m.spelling short := by
    rcases m.mark_eq with h | h <;> rw [h]
    · rw [List.append_nil, Text.dropTail?_eq_none, Option.getD_none]
      intro h
      exact absurd (hm.isLetter_of_mem_spelling '?' (List.mem_of_getLast? h)) (by decide)
    · rw [Text.dropTail?_append, Option.getD_some]
  simp only [insert, htext, isCommon_eq_false hm, Bool.false_eq_true, if_false]
  cases m.suffixed
  · simp
  · simp [htail]

end ScpiConsole.Completion
