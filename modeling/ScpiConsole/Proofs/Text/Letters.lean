import ScpiConsole.Mnemonic.Matching
import ScpiConsole.Proofs.Text.Ends
/-!
# Letters and digits

No letter is a digit of any script, so letters and the numeral behind them come apart again.

* `isDecimalDigit_of_isLetter` : the two classes are disjoint
* `forall_isLetter_of_sameText` : case does not matter to being a letter
* `readNat_numeral` : a numeral is read as its number
-/

namespace ScpiConsole

namespace Text

/-! ## Letters -/

theorem toNat_of_isLetter {c : Char} (h : isLetter c = true) :
    (65 ≤ c.toNat ∧ c.toNat ≤ 90) ∨ (97 ≤ c.toNat ∧ c.toNat ≤ 122) := by
  simp only [isLetter, isCapital, isSmall, Bool.or_eq_true, Bool.and_eq_true, decide_eq_true_eq] at h
  exact h

/-- Apart from the ASCII digits every run of digits lies above the letters. -/
theorem eq_or_le_of_mem_digitZeros : ∀ z ∈ digitZeros, z = 48 ∨ 0x660 ≤ z := by decide

theorem isDecimalDigit_of_isLetter {c : Char} (h : isLetter c = true) : isDecimalDigit c = false := by
  have hc := toNat_of_isLetter h
  rw [isDecimalDigit, List.any_eq_false]
  intro z hz
  have := eq_or_le_of_mem_digitZeros z hz
  simp only [Bool.and_eq_true, decide_eq_true_eq, not_and]
  omega

theorem isDigit_of_isLetter {c : Char} (h : isLetter c = true) : isDigit c = false := by
  rw [← Bool.not_eq_true]
  intro hd
  have := isDecimalDigit_of_isDigit hd
  rw [isDecimalDigit_of_isLetter h] at this
  exact Bool.false_ne_true this

theorem isLetter_of_isDigit {c : Char} (h : isDigit c = true) : isLetter c = false := by
  rw [← Bool.not_eq_true]
  intro hl
  rw [isDigit_of_isLetter hl] at h
  exact Bool.false_ne_true h

theorem isControl_of_isLetter {c : Char} (h : isLetter c = true) : isControl c = false := by
  have := toNat_of_isLetter h
  simp only [isControl, Bool.or_eq_false_iff, Bool.and_eq_false_iff, decide_eq_false_iff_not]
  omega

theorem isControl_of_isDigit {c : Char} (h : isDigit c = true) : isControl c = false := by
  simp only [isDigit, Bool.and_eq_true, decide_eq_true_eq] at h
  have h0 : 48 ≤ c.toNat := h.1
  have h9 : c.toNat ≤ 57 := h.2
  simp only [isControl, Bool.or_eq_false_iff, Bool.and_eq_false_iff, decide_eq_false_iff_not]
  omega

theorem ne_of_isLetter {c d : Char} (h : isLetter c = true) (hd : isLetter d = false) : c ≠ d := by
  rintro rfl
  cases h.symm.trans hd

theorem not_mem_of_forall_isLetter {s : List Char} {d : Char} (h : ∀ c ∈ s, isLetter c = true)
    (hd : isLetter d = false) : d ∉ s := fun hm => ne_of_isLetter (h d hm) hd rfl

/-- Behind letters stand digits only. -/
theorem not_mem_append_digits {name digits : List Char} (hname : ∀ c ∈ name, isLetter c = true)
    (hdigits : ∀ c ∈ digits, isDigit c = true) {c : Char} (hl : isLetter c = false)
    (hd : isDigit c = false) : c ∉ name ++ digits := by
  intro hc
  rcases List.mem_append.1 hc with h | h
  · cases (hname c h).symm.trans hl
  · cases (hdigits c h).symm.trans hd

/-! ## Case -/

theorem foldChar_of_not_isLetter {c : Char} (h : isLetter c = false) : foldChar c = c := by
  rw [isLetter, Bool.or_eq_false_iff] at h
  rw [foldChar, if_neg (by simp [h.1])]

theorem isSmall_foldChar {c : Char} (h : isCapital c = true) : isSmall (foldChar c) = true := by
  have hcap : 65 ≤ c.toNat ∧ c.toNat ≤ 90 := by
    simp only [isCapital, Bool.and_eq_true, decide_eq_true_eq] at h
    exact h
  have hvalid : (c.toNat + 32).isValidChar := Or.inl (by omega)
  have hfold : (foldChar c).toNat = c.toNat + 32 := by
    rw [foldChar, if_pos h, Char.ofNat, dif_pos hvalid]
    rfl
  simp only [isSmall, Bool.and_eq_true, decide_eq_true_eq]
  have h1 : 97 ≤ (foldChar c).toNat := by omega
  have h2 : (foldChar c).toNat ≤ 122 := by omega
  exact ⟨h1, h2⟩

theorem isLetter_foldChar (c : Char) : isLetter (foldChar c) = isLetter c := by
  by_cases hc : isCapital c = true
  · rw [isLetter, isLetter, hc, isSmall_foldChar hc, Bool.or_true, Bool.true_or]
  · rw [foldChar, if_neg hc]

theorem sameText_comm {s t : List Char} : sameText s t = sameText t s := by
  rw [Bool.eq_iff_iff, sameText_iff, sameText_iff, eq_comm]

theorem forall_isLetter_of_sameText {s t : List Char} (h : sameText s t = true)
    (ht : ∀ c ∈ t, isLetter c = true) : ∀ c ∈ s, isLetter c = true := by
  intro c hc
  have hm : foldChar c ∈ foldCase t := by
    rw [← sameText_iff.1 h]
    exact List.mem_map_of_mem hc
  obtain ⟨d, hd, heq⟩ := List.mem_map.1 hm
  rw [← isLetter_foldChar, ← heq, isLetter_foldChar]
  exact ht d hd

/-! ## Numerals -/

theorem isDigit_of_mem_numeral {n : Nat} {c : Char} (h : c ∈ numeral n) : isDigit c = true := by
  have h := Nat.isDigit_of_mem_toDigits (by decide) (by decide) h
  simp only [Char.isDigit, Bool.and_eq_true, decide_eq_true_eq] at h
  rw [isDigit, Bool.and_eq_true, decide_eq_true_eq, decide_eq_true_eq]
  exact h

theorem numeral_ne_nil (n : Nat) : numeral n ≠ [] := Nat.toDigits_ne_nil

theorem digitsValue_numeral (n : Nat) : digitsValue (numeral n) = n :=
  Nat.ofDigitChars_ten_toDigits

theorem numeral_inj {m n : Nat} (h : numeral m = numeral n) : m = n := by
  rw [← digitsValue_numeral m, h, digitsValue_numeral]

theorem readNat_numeral (n : Nat) : readNat (numeral n) = some n := by
  rw [readNat, if_pos, digitsValue_numeral]
  rw [Bool.and_eq_true, List.all_eq_true]
  exact ⟨by simp [numeral_ne_nil], fun c hc => isDigit_of_mem_numeral hc⟩

end Text

end ScpiConsole
