import ScpiConsole.Proofs.Text.Letters
import ScpiConsole.Text.Utf8
/-!
# ASCII blanks and controls

The characters up to U+0020 are no letters, no digits and no signs.

* `isLetter_of_low`, `isDigit_of_low`, `hexValue_of_low` : what they are not
* `foldChar_of_low` : they have no case
-/

namespace ScpiConsole.Text

variable {c : Char}

theorem not_le_of_low {d : Char} (hd : 0x20 < d.toNat) (h : c.toNat ≤ 0x20) : ¬ d ≤ c := by
  intro hle
  have hnat : d.toNat ≤ c.toNat := hle
  omega

theorem ne_of_low {d : Char} (hd : 0x20 < d.toNat) (h : c.toNat ≤ 0x20) : c ≠ d := by
  rintro rfl
  omega

theorem not_mem_of_low {d : Char} (hd : 0x20 < d.toNat) {blanks : List Char}
    (hblanks : ∀ c ∈ blanks, c.toNat ≤ 0x20) : d ∉ blanks := fun hmem =>
  Nat.not_le_of_lt hd (hblanks d hmem)

theorem isLetter_of_low (h : c.toNat ≤ 0x20) : isLetter c = false := by
  rw [isLetter, isCapital, isSmall, decide_eq_false (not_le_of_low (by decide) h),
    decide_eq_false (not_le_of_low (by decide) h)]
  rfl

theorem foldChar_of_low (h : c.toNat ≤ 0x20) : foldChar c = c :=
  foldChar_of_not_isLetter (isLetter_of_low h)

theorem isDigit_of_low (h : c.toNat ≤ 0x20) : isDigit c = false := by
  rw [isDigit, decide_eq_false (not_le_of_low (by decide) h)]
  rfl

theorem hexValue_of_low (h : c.toNat ≤ 0x20) : hexValue c = none := by
  rw [hexValue, decide_eq_false (not_le_of_low (by decide) h),
    decide_eq_false (not_le_of_low (by decide) h), decide_eq_false (not_le_of_low (by decide) h)]
  rfl

end ScpiConsole.Text
