import ScpiConsole.Session.Dispatch
import ScpiConsole.Proofs.Completion.Numbers
import ScpiConsole.Proofs.Text.Case
/-!
# Letter case and the root of a line

What is offered depends on a line only through its folded text, and the colon of the root may be left
out. Each part of the walk is shown to give the same for the folded text: the choice of a mnemonic, the
step along a segment, the numbers and the mnemonics on offer.

* `selects_foldCase`, `step_foldCase`, `numbers_foldCase` : the parts of the walk
* `candidates_foldCase` : the same is on offer for the folded text
* `candidates_normalized` : the same is on offer for the command as it is sent
* `candidates_of_sameText` : both, for any two lines that differ in case only
-/

namespace ScpiConsole

/-! ## Segments -/

namespace Segment

theorem hasNumber_foldCase (segment : List Char) :
    hasNumber (Text.foldCase segment) = hasNumber segment := by
  rw [hasNumber_eq, hasNumber_eq, Text.foldCase, List.getLast?_map, Option.any_map]
  simp only [Text.isDecimalDigit_foldChar]

theorem number?_foldCase (segment : List Char) :
    number? (Text.foldCase segment) = number? segment := by
  unfold number?
  rw [Text.takeEndWhile_foldCase_eq_self fun _ => Text.isDecimalDigit_of_isLetter]

theorem bare_foldCase (segment : List Char) :
    bare (Text.foldCase segment) = Text.foldCase (bare segment) := by
  unfold bare
  rw [Text.takeWhile_foldCase Text.isLetter_foldChar]
  cases segment.takeWhile Text.isLetter with
  | nil => rfl
  | cons c rest =>
    show (if (Text.foldCase segment).getLast? = some '?' then _ else _) = Text.foldCase (if _ then _ else _)
    simp only [Text.getLast?_foldCase_eq_iff (show Text.isLetter '?' = false by decide)]
    split
    · show _ = List.map _ (_ ++ _)
      rw [List.map_append]
      rfl
    · rfl

end Segment

namespace Mnemonic

variable (m : Mnemonic) (segment : List Char)

theorem named_foldCase : m.named (Text.foldCase segment) = m.named segment := by
  rw [named, named, Text.sameText_foldCase, Text.sameText_foldCase]

theorem namedSansQuery_foldCase :
    m.namedSansQuery (Text.foldCase segment) = m.namedSansQuery segment := by
  rw [Bool.eq_iff_iff, namedSansQuery_iff, namedSansQuery_iff, named_foldCase]
  simp only [Spells, Text.sameText_foldCase]

theorem selects_foldCase : m.selects (Text.foldCase segment) = m.selects segment := by
  simp only [selects, Segment.hasNumber_foldCase, Segment.number?_foldCase, Segment.bare_foldCase,
    named_foldCase]

end Mnemonic

namespace Completion

/-! ## The walk -/

theorem ofText_foldCase (text : List Char) :
    Path.ofText (Text.foldCase text) =
      ⟨(Path.ofText text).completed.map Text.foldCase, Text.foldCase (Path.ofText text).inProgress⟩ := by
  have hsansRoot : ∀ parts, sansRoot (parts.map Text.foldCase) = (sansRoot parts).map Text.foldCase := by
    intro parts
    cases parts with
    | nil => rfl
    | cons part rest => cases part <;> rfl
  rw [ofText_eq_sansRoot, ofText_eq_sansRoot, Text.splitOn_foldCase (by decide), hsansRoot,
    ← List.map_dropLast]
  congr 1
  exact List.getLastD_map (a := [])

theorem step_foldCase (nodes : List Tree) (segment : List Char) :
    step nodes (Text.foldCase segment) = step nodes segment := by
  simp only [step, Mnemonic.selects_foldCase, Segment.hasNumber_foldCase]

theorem reached_foldCase (root : Tree) (completed : List (List Char)) :
    reached root (completed.map Text.foldCase) = reached root completed := by
  simp only [reached, List.foldl_map, step_foldCase]

/-! ## What is offered -/

theorem continuations_foldCase (root : Tree) (p : Path) :
    continuations root ⟨p.completed.map Text.foldCase, Text.foldCase p.inProgress⟩ =
      continuations root p := by
  simp only [continuations, reached_foldCase, Text.startsWithText_foldCase]

theorem lastNamed_foldCase (nodes : List Tree) (name : List Char) :
    lastNamed nodes (Text.foldCase name) = lastNamed nodes name := by
  refine Mnemonic.getLast?_mergeSort_congr fun m => ?_
  rw [mem_named, mem_named, Mnemonic.namedSansQuery_foldCase]
  simp only [Text.foldCase, ne_eq, List.map_eq_nil_iff]

/-- The digits of a segment stay, and its name is looked up without regard to case. -/
theorem numbers_foldCase (nodes : List Tree) (inProgress : List Char) (query : Bool) :
    numbers nodes (Text.foldCase inProgress) query = numbers nodes inProgress query := by
  have hname := Text.endsOutside_dropEndWhile Text.isDigit inProgress
  have hdigits := Text.forall_mem_takeEndWhile Text.isDigit inProgress
  have hfold : Text.EndsOutside Text.isDigit
      (Text.foldCase (Text.dropEndWhile Text.isDigit inProgress)) := by
    rw [← Text.dropEndWhile_foldCase Text.isDigit_foldChar]
    exact Text.endsOutside_dropEndWhile _ _
  rw [← Text.dropEndWhile_append_takeEndWhile Text.isDigit (Text.foldCase inProgress),
    Text.dropEndWhile_foldCase Text.isDigit_foldChar,
    Text.takeEndWhile_foldCase_eq_self fun _ => Text.isDigit_of_isLetter,
    numbers_eq nodes hfold hdigits, lastNamed_foldCase, ← numbers_eq nodes hname hdigits,
    Text.dropEndWhile_append_takeEndWhile]

theorem pathCandidates_foldCase (root : Tree) (text : List Char) (sticky : Sticky) :
    pathCandidates root (Text.foldCase text) sticky = pathCandidates root text sticky := by
  simp only [pathCandidates_eq, ofText_foldCase, reached_foldCase, numbers_foldCase,
    continuations_foldCase]

theorem commonCandidates_foldCase (root : Tree) {text : List Char} (h : text.head? = some '*') :
    commonCandidates root (Text.foldCase text) = commonCandidates root text := by
  obtain ⟨rest, rfl⟩ := List.head?_eq_some_iff.1 h
  show collect (root.children.filter fun t => Text.startsWithText _ (Text.foldCase rest)) = _
  simp only [Text.startsWithText_foldCase]
  rfl

/-- Nothing that is offered depends on the case of a line. -/
theorem candidates_foldCase (g : Option Grammar) (text : String) (browsing : Bool) (sticky : Sticky) :
    candidates g (.ofList (Text.foldCase text.toList)) browsing sticky =
      candidates g text browsing sticky := by
  have hlast : ∀ c, Text.isLetter c = false →
      ((Text.foldCase text.toList).getLast? == some c) = (text.toList.getLast? == some c) := by
    intro c hc
    rw [Bool.eq_iff_iff, beq_iff_eq, beq_iff_eq, Text.getLast?_foldCase_eq_iff hc]
  have hhead : (Text.foldCase text.toList).head? = some '*' ↔ text.toList.head? = some '*' :=
    Text.head?_foldCase_eq_iff (by decide)
  cases g with
  | none => rfl
  | some g =>
    simp only [candidates, String.toList_ofList, hlast '?' (by decide), hlast ' ' (by decide),
      beq_iff_eq, hhead]
    split
    · rfl
    · split
      · next h => exact commonCandidates_foldCase _ h
      · exact pathCandidates_foldCase _ _ _

/-! ## The root -/

/-- A colon in front of the first segment opens no other one. -/
theorem ofText_cons_colon {text : List Char} (h : text.head? ≠ some ':') :
    Path.ofText (':' :: text) = Path.ofText text := by
  have hcut : (':' :: text).splitOn ':' = [] :: text.splitOn ':' := rfl
  rw [ofText_eq_sansRoot, ofText_eq_sansRoot, hcut]
  cases text with
  | nil => rfl
  | cons c rest =>
    have hc : c ≠ ':' := by simpa using h
    obtain ⟨part, parts, hrest⟩ := List.exists_cons_of_ne_nil (List.splitOn_ne_nil ':' rest)
    rw [Text.splitOn_cons_of_ne hc rest part parts hrest]
    rfl

/-- What is offered for a line is what is offered for the command that it is sent as. -/
theorem candidates_normalized (g : Option Grammar) (text : String) (browsing : Bool)
    (sticky : Sticky) :
    candidates g (normalized text) browsing sticky = candidates g text browsing sticky := by
  unfold normalized
  split
  · rfl
  · rfl
  · next hcolon hstar =>
    have hroot : text.toList.head? ≠ some ':' := by
      intro h
      obtain ⟨rest, hrest⟩ := List.head?_eq_some_iff.1 h
      exact hcolon rest hrest
    have hcommon : text.toList.head? ≠ some '*' := by
      intro h
      obtain ⟨rest, hrest⟩ := List.head?_eq_some_iff.1 h
      exact hstar rest hrest
    have hlast : ∀ c, c ≠ ':' →
        ((':' :: text.toList).getLast? == some c) = (text.toList.getLast? == some c) := by
      intro c hc
      cases text.toList with
      | nil => simpa using Ne.symm hc
      | cons d rest => rw [List.getLast?_cons_cons]
    cases g with
    | none => rfl
    | some g =>
      simp only [candidates, String.toList_ofList, hlast '?' (by decide), hlast ' ' (by decide),
        beq_iff_eq, List.head?_cons, hcommon, if_false, Option.some.injEq]
      rw [if_neg (show ':' ≠ '*' by decide), pathCandidates_eq, pathCandidates_eq,
        ofText_cons_colon hroot]

/-- **Completion ignores letter case and the implied colon of the root.** Two lines that differ in the
case of ASCII letters only are offered the same, and so is the command that either is sent as, for
every grammar, whatever was accepted before. -/
theorem candidates_of_sameText {t u : String} (h : Text.sameText t.toList u.toList = true)
    (g : Option Grammar) (browsing : Bool) (sticky : Sticky) :
    candidates g u browsing sticky = candidates g t browsing sticky ∧
    candidates g (normalized t) browsing sticky = candidates g t browsing sticky ∧
    candidates g (normalized u) browsing sticky = candidates g t browsing sticky := by
  have hsame : candidates g u browsing sticky = candidates g t browsing sticky := by
    rw [← candidates_foldCase g t, Text.sameText_iff.1 h, candidates_foldCase]
  exact ⟨hsame, candidates_normalized .., (candidates_normalized ..).trans hsame⟩

/-- A number in the line and one to come, in small letters and in capitals. -/
theorem candidates_of_sameText_channel :
    Text.sameText "chan3:s".toList "CHAN3:S".toList = true ∧
    candidates (some .oscilloscope) "CHAN3:S" false {} =
      candidates (some .oscilloscope) "chan3:s" false {} ∧
    candidates (some .oscilloscope) (normalized "chan3:s") false {} =
      candidates (some .oscilloscope) "chan3:s" false {} ∧
    candidates (some .oscilloscope) (normalized "CHAN3:S") false {} =
      candidates (some .oscilloscope) "chan3:s" false {} :=
  ⟨by decide, candidates_of_sameText (by decide) _ false {}⟩

end Completion

end ScpiConsole
