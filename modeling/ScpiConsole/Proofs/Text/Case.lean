import ScpiConsole.Proofs.Text.Letters
/-!
# Letter case

Folding the case of a text moves letters among letters and leaves all else where it is. So a text is cut
and split in the same places before and after.

* `foldCase_foldCase` : folded once, folded for good
* `takeEndWhile_foldCase` and the like : heads and tails in a class that does not mind case
* `splitOn_foldCase` : the parts of a text
* `sameText_foldCase`, `startsWithText_foldCase` : comparisons do not see the difference
-/

namespace ScpiConsole.Text

variable {p : Char → Bool}

/-! ## Characters -/

theorem foldChar_foldChar (c : Char) : foldChar (foldChar c) = foldChar c := by
  by_cases hc : isCapital c = true
  · have hsmall := isSmall_foldChar hc
    have hnot : ¬isCapital (foldChar c) = true := by
      simp only [isSmall, isCapital, Bool.and_eq_true, decide_eq_true_eq] at hsmall ⊢
      have h97 : 97 ≤ (foldChar c).toNat := hsmall.1
      rintro ⟨-, h⟩
      have h90 : (foldChar c).toNat ≤ 90 := h
      omega
    exact if_neg hnot
  · have hfold : foldChar c = c := if_neg hc
    rw [hfold, hfold]

/-- A class without letters does not mind case. -/
theorem apply_foldChar (hp : ∀ c, isLetter c = true → p c = false) (c : Char) :
    p (foldChar c) = p c := by
  by_cases hc : isLetter c = true
  · rw [hp c hc, hp _ (by rwa [isLetter_foldChar])]
  · rw [foldChar_of_not_isLetter (by simpa using hc)]

theorem isDecimalDigit_foldChar (c : Char) : isDecimalDigit (foldChar c) = isDecimalDigit c :=
  apply_foldChar (fun _ => isDecimalDigit_of_isLetter) c

theorem isDigit_foldChar (c : Char) : isDigit (foldChar c) = isDigit c :=
  apply_foldChar (fun _ => isDigit_of_isLetter) c

theorem foldChar_eq_iff {c d : Char} (hd : isLetter d = false) : foldChar c = d ↔ c = d := by
  constructor
  · rintro rfl
    rw [isLetter_foldChar] at hd
    exact (foldChar_of_not_isLetter hd).symm
  · rintro rfl
    exact foldChar_of_not_isLetter hd

/-! ## Texts -/

theorem foldCase_foldCase (s : List Char) : foldCase (foldCase s) = foldCase s := by
  rw [foldCase, foldCase, List.map_map]
  exact List.map_congr_left fun c _ => foldChar_foldChar c

theorem foldCase_eq_self {s : List Char} (h : ∀ c ∈ s, isLetter c = false) : foldCase s = s := by
  rw [foldCase, List.map_congr_left fun c hc => foldChar_of_not_isLetter (h c hc)]
  exact List.map_id' s

theorem sameText_foldCase (s t : List Char) : sameText (foldCase s) t = sameText s t := by
  rw [sameText, sameText, foldCase_foldCase]

theorem startsWithText_foldCase (s head : List Char) :
    startsWithText s (foldCase head) = startsWithText s head := by
  rw [startsWithText, startsWithText, foldCase_foldCase]

theorem head?_foldCase_eq_iff {d : Char} (hd : isLetter d = false) {s : List Char} :
    (foldCase s).head? = some d ↔ s.head? = some d := by
  simp [foldCase, foldChar_eq_iff hd]

theorem getLast?_foldCase_eq_iff {d : Char} (hd : isLetter d = false) {s : List Char} :
    (foldCase s).getLast? = some d ↔ s.getLast? = some d := by
  simp [foldCase, foldChar_eq_iff hd]

/-! ## Heads and tails -/

theorem takeWhile_foldCase (hp : ∀ c, p (foldChar c) = p c) (s : List Char) :
    (foldCase s).takeWhile p = foldCase (s.takeWhile p) := by
  have hfold : p ∘ foldChar = p := funext hp
  rw [foldCase, List.takeWhile_map, hfold, foldCase]

theorem dropWhile_foldCase (hp : ∀ c, p (foldChar c) = p c) (s : List Char) :
    (foldCase s).dropWhile p = foldCase (s.dropWhile p) := by
  have hfold : p ∘ foldChar = p := funext hp
  rw [foldCase, List.dropWhile_map, hfold, foldCase]

theorem reverse_foldCase (s : List Char) : (foldCase s).reverse = foldCase s.reverse :=
  List.map_reverse.symm

theorem takeEndWhile_foldCase (hp : ∀ c, p (foldChar c) = p c) (s : List Char) :
    takeEndWhile p (foldCase s) = foldCase (takeEndWhile p s) := by
  rw [takeEndWhile, reverse_foldCase, takeWhile_foldCase hp, reverse_foldCase, takeEndWhile]

theorem dropEndWhile_foldCase (hp : ∀ c, p (foldChar c) = p c) (s : List Char) :
    dropEndWhile p (foldCase s) = foldCase (dropEndWhile p s) := by
  rw [dropEndWhile, reverse_foldCase, dropWhile_foldCase hp, reverse_foldCase, dropEndWhile]

/-- A tail in a class without letters is not touched. -/
theorem takeEndWhile_foldCase_eq_self (hp : ∀ c, isLetter c = true → p c = false) (s : List Char) :
    takeEndWhile p (foldCase s) = takeEndWhile p s := by
  rw [takeEndWhile_foldCase (apply_foldChar hp)]
  refine foldCase_eq_self fun c hc => ?_
  have hmem := forall_mem_takeEndWhile p s c hc
  rw [← Bool.not_eq_true]
  intro hletter
  rw [hp c hletter] at hmem
  exact Bool.false_ne_true hmem

/-! ## Parts -/

theorem splitOn_foldCase {sep : Char} (hsep : isLetter sep = false) (s : List Char) :
    (foldCase s).splitOn sep = (s.splitOn sep).map foldCase := by
  induction s with
  | nil => rfl
  | cons c rest ih =>
    by_cases hc : c = sep
    · subst hc
      have hcut (s : List Char) : (c :: s).splitOn c = [] :: s.splitOn c :=
        List.splitOn_append_cons_self_of_not_mem List.not_mem_nil s
      rw [hcut, foldCase, List.map_cons, foldChar_of_not_isLetter hsep, hcut, ← foldCase, ih]
      rfl
    · have hfold : foldChar c ≠ sep := fun h => hc ((foldChar_eq_iff hsep).1 h)
      obtain ⟨part, parts, hrest⟩ := List.exists_cons_of_ne_nil (List.splitOn_ne_nil sep rest)
      rw [hrest, List.map_cons] at ih
      rw [splitOn_cons_of_ne hc rest part parts hrest]
      exact splitOn_cons_of_ne hfold _ _ _ ih

end ScpiConsole.Text
