import ScpiConsole.Mnemonic.Matching
import ScpiConsole.Proofs.Text.Letters
/-!
# Spellings of a mnemonic

A mnemonic goes into a line in its full or its short form. The `?` of a query stands behind the form,
and a number between the two.

* `stem`, `mark`, `spelling` : the text as a form and a `?`
* `Lettered` : the form is made of ASCII letters and has a short one
* `named_iff`, `namedSansQuery_iff` : what names a mnemonic, in terms of its spellings
* `selects_spelling`, `selects_append_numeral` : what a segment without and with a number chooses
-/

namespace ScpiConsole

namespace Segment

theorem hasNumber_eq (s : List Char) : hasNumber s = s.getLast?.any Text.isDecimalDigit := by
  unfold hasNumber
  cases s.getLast? <;> rfl

theorem hasNumber_eq_false {s : List Char} (h : Text.EndsOutside Text.isDecimalDigit s) :
    hasNumber s = false := by
  unfold hasNumber
  split
  · next c hc => exact h c hc
  · rfl

theorem hasNumber_append_numeral (s : List Char) (k : Nat) :
    hasNumber (s ++ Text.numeral k) = true := by
  have hne := Text.numeral_ne_nil k
  rw [hasNumber, List.getLast?_append_of_ne_nil s hne, List.getLast?_eq_some_getLast hne]
  exact Text.isDecimalDigit_of_isDigit (Text.isDigit_of_mem_numeral (List.getLast_mem hne))

theorem number?_append_numeral {s : List Char} (h : Text.EndsOutside Text.isDecimalDigit s) (k : Nat) :
    number? (s ++ Text.numeral k) = if k < UInt32.size then some k.toUInt32 else none := by
  rw [number?, Text.takeEndWhile_append h fun c hc =>
    Text.isDecimalDigit_of_isDigit (Text.isDigit_of_mem_numeral hc), Text.readNat_numeral]

/-- The letters in front of a numeral. -/
theorem bare_append_numeral {s : List Char} (h : ∀ c ∈ s, Text.isLetter c = true) (k : Nat) :
    bare (s ++ Text.numeral k) = s := by
  have hne := Text.numeral_ne_nil k
  have hdigit := Text.isDigit_of_mem_numeral (List.getLast_mem hne)
  have hletters : (s ++ Text.numeral k).takeWhile Text.isLetter = s := by
    rw [List.takeWhile_append_of_pos h]
    cases hk : Text.numeral k with
    | nil => exact absurd hk hne
    | cons c rest =>
      have hc : Text.isDigit c = true := Text.isDigit_of_mem_numeral (hk ▸ List.mem_cons_self)
      rw [List.takeWhile_cons_of_neg (by simp [Text.isLetter_of_isDigit hc]), List.append_nil]
  have hlast : (s ++ Text.numeral k).getLast? ≠ some '?' := by
    rw [List.getLast?_append_of_ne_nil s hne, List.getLast?_eq_some_getLast hne, ne_eq,
      Option.some.injEq]
    rintro heq
    rw [heq] at hdigit
    exact absurd hdigit (by decide)
  rw [bare, hletters]
  split
  · rfl
  · rw [if_neg hlast]

end Segment

/-- The `?` behind a query. -/
def queryMark (query : Bool) : List Char := if query then ['?'] else []

namespace Mnemonic

/-- The text without the `?` of a query. -/
def stem (m : Mnemonic) : List Char := (Text.dropTail? ['?'] m.text.toList).getD m.text.toList

/-- The `?` of a query. -/
def mark (m : Mnemonic) : List Char := queryMark m.isQuery

/-- The full or the short form, without the `?` of a query. -/
def spelling (m : Mnemonic) (short : Bool) : List Char := if short then shortForm m.stem else m.stem

/-- One of the two forms, up to the case of its letters. -/
def Spells (m : Mnemonic) (s : List Char) : Prop :=
  ∃ short, Text.sameText s (m.spelling short) = true

instance (m : Mnemonic) (s : List Char) : Decidable (m.Spells s) :=
  decidable_of_iff _ Bool.exists_bool.symm

/-- The mnemonic is made of ASCII letters, with at least one capital among them and maybe a `?`
behind them. -/
structure Lettered (m : Mnemonic) : Prop where
  letters : ∀ c ∈ m.stem, Text.isLetter c = true
  capital : ∃ c ∈ m.stem, Text.isCapital c = true

instance (m : Mnemonic) : Decidable m.Lettered :=
  decidable_of_iff ((m.stem.all Text.isLetter && m.stem.any Text.isCapital) = true) <| by
    rw [Bool.and_eq_true, List.all_eq_true, List.any_eq_true]
    exact ⟨fun h => ⟨h.1, h.2⟩, fun h => ⟨h.letters, h.capital⟩⟩

theorem mark_of_isQuery {m : Mnemonic} (h : m.isQuery = true) : m.mark = ['?'] := by
  rw [mark, queryMark, if_pos h]

theorem mark_of_isQuery_eq_false {m : Mnemonic} (h : m.isQuery = false) : m.mark = [] := by
  rw [mark, queryMark, h, if_neg Bool.false_ne_true]

theorem mark_eq (m : Mnemonic) : m.mark = [] ∨ m.mark = ['?'] := by
  cases h : m.isQuery
  · exact Or.inl (mark_of_isQuery_eq_false h)
  · exact Or.inr (mark_of_isQuery h)

theorem text_eq (m : Mnemonic) : m.text.toList = m.stem ++ m.mark := by
  by_cases hq : m.text.toList.getLast? = some '?'
  · obtain ⟨init, hinit⟩ := List.getLast?_eq_some_iff.1 hq
    rw [mark_of_isQuery (by simp [isQuery, hq]), stem, hinit, Text.dropTail?_append, Option.getD_some]
  · rw [mark_of_isQuery_eq_false (by simp [isQuery, hq]), stem, Text.dropTail?_eq_none hq,
      Option.getD_none, List.append_nil]

theorem dropTail?_text_of_isQuery {m : Mnemonic} (h : m.isQuery = true) :
    Text.dropTail? ['?'] m.text.toList = some m.stem := by
  rw [text_eq, mark_of_isQuery h, Text.dropTail?_append]

theorem dropTail?_text_of_isQuery_eq_false {m : Mnemonic} (h : m.isQuery = false) :
    Text.dropTail? ['?'] m.text.toList = none :=
  Text.dropTail?_eq_none (by simpa [isQuery] using h)

theorem shortForm_append (s t : List Char) : shortForm (s ++ t) = shortForm s ++ shortForm t :=
  List.filter_append ..

theorem shortForm_mark (m : Mnemonic) : shortForm m.mark = m.mark := by
  rcases m.mark_eq with h | h <;> rw [h] <;> rfl

theorem shortForm_text (m : Mnemonic) : shortForm m.text.toList = m.spelling true ++ m.mark := by
  rw [text_eq, shortForm_append, shortForm_mark, spelling, if_pos rfl]

/-- The text of a mnemonic is one of its forms. -/
theorem exists_spelling_iff {m : Mnemonic} {P : List Char → Prop} :
    (∃ short, P (m.spelling short ++ m.mark)) ↔ P m.text.toList ∨ P (shortForm m.text.toList) := by
  rw [Bool.exists_bool, shortForm_text, text_eq, spelling, if_neg Bool.false_ne_true]

theorem named_iff {m : Mnemonic} {s : List Char} :
    m.named s = true ↔ ∃ short, Text.sameText s (m.spelling short ++ m.mark) = true := by
  rw [exists_spelling_iff (P := fun t => Text.sameText s t = true), named, Bool.or_eq_true]

/-! ## Mnemonics of letters -/

/-- The mnemonic is made of ASCII letters, and maybe a `?` behind them. -/
def OfLetters (m : Mnemonic) : Prop := ∀ c ∈ m.stem, Text.isLetter c = true

instance (m : Mnemonic) : Decidable m.OfLetters :=
  decidable_of_iff (m.stem.all Text.isLetter = true) List.all_eq_true

namespace OfLetters

variable {m : Mnemonic}

theorem isLetter_of_mem_spelling (hm : m.OfLetters) {short : Bool} :
    ∀ c ∈ m.spelling short, Text.isLetter c = true := by
  intro c hc
  rw [spelling] at hc
  split at hc
  · exact hm c (List.mem_filter.1 hc).1
  · exact hm c hc

theorem isLetter_of_spells (hm : m.OfLetters) {s : List Char} (h : m.Spells s) :
    ∀ c ∈ s, Text.isLetter c = true := by
  obtain ⟨short, h⟩ := h
  exact Text.forall_isLetter_of_sameText h fun c hc => hm.isLetter_of_mem_spelling c hc

end OfLetters

namespace Lettered

variable {m : Mnemonic}

theorem ofLetters (hm : m.Lettered) : m.OfLetters := hm.letters

theorem isLetter_of_mem_spelling (hm : m.Lettered) {short : Bool} :
    ∀ c ∈ m.spelling short, Text.isLetter c = true := hm.ofLetters.isLetter_of_mem_spelling

theorem spelling_ne_nil (hm : m.Lettered) (short : Bool) : m.spelling short ≠ [] := by
  obtain ⟨c, hc, hcapital⟩ := hm.capital
  have hsmall : Text.isSmall c = false := by
    simp only [Text.isCapital, Bool.and_eq_true, decide_eq_true_eq] at hcapital
    have h : c.toNat ≤ 90 := hcapital.2
    rw [Text.isSmall, Bool.and_eq_false_iff, decide_eq_false_iff_not]
    refine Or.inl fun ha => ?_
    have ha : 97 ≤ c.toNat := ha
    omega
  apply List.ne_nil_of_mem (a := c)
  rw [spelling]
  split
  · exact List.mem_filter.2 ⟨hc, by simp [hsmall]⟩
  · exact hc

theorem endsOutside_spelling (hm : m.Lettered) (short : Bool) :
    Text.EndsOutside Text.isDecimalDigit (m.spelling short) :=
  Text.endsOutside_of_forall fun c hc =>
    Text.isDecimalDigit_of_isLetter (hm.isLetter_of_mem_spelling c hc)

theorem isLetter_of_spells (hm : m.Lettered) {s : List Char} (h : m.Spells s) :
    ∀ c ∈ s, Text.isLetter c = true := hm.ofLetters.isLetter_of_spells h

end Lettered

/-- A name, a number behind it and maybe a `?` come apart again. -/
theorem append_numeral_append_queryMark_inj {name form : List Char}
    (hname : Text.EndsOutside Text.isDigit name) (hform : Text.EndsOutside Text.isDigit form)
    {k j : Nat} {q r : Bool}
    (h : name ++ Text.numeral k ++ queryMark q = form ++ Text.numeral j ++ queryMark r) :
    name = form ∧ k = j ∧ q = r := by
  have hlast : ∀ (s : List Char) (n : Nat) (b : Bool),
      (s ++ Text.numeral n ++ queryMark b).getLast? = some '?' ↔ b = true := by
    intro s n b
    cases b
    · have hne := Text.numeral_ne_nil n
      rw [queryMark, if_neg Bool.false_ne_true, List.append_nil,
        List.getLast?_append_of_ne_nil s hne]
      refine iff_of_false (fun hq => ?_) Bool.false_ne_true
      exact absurd (Text.isDigit_of_mem_numeral (List.mem_of_getLast? hq)) (by decide)
    · simp [queryMark]
  have hmark : q = r := by rw [Bool.eq_iff_iff, ← hlast name k q, h, hlast]
  rw [hmark] at h
  have hbody := List.append_cancel_right h
  have heq := congrArg (Text.dropEndWhile Text.isDigit) hbody
  rw [Text.dropEndWhile_append hname fun _ => Text.isDigit_of_mem_numeral,
    Text.dropEndWhile_append hform fun _ => Text.isDigit_of_mem_numeral] at heq
  rw [heq] at hbody
  exact ⟨heq, Text.numeral_inj (List.append_cancel_left hbody), hmark⟩

theorem isQuery_eq_false_of_named {m : Mnemonic} {s : List Char} (h : m.named s = true)
    (hs : ∀ c ∈ s, Text.isLetter c = true) : m.isQuery = false := by
  obtain ⟨short, h⟩ := named_iff.1 h
  rw [Text.sameText_comm] at h
  rw [← Bool.not_eq_true]
  intro hq
  have hmem : '?' ∈ m.spelling short ++ m.mark := by simp [mark_of_isQuery hq]
  exact absurd (Text.forall_isLetter_of_sameText h hs '?' hmem) (by decide)

theorem named_eq_true_iff_spells {m : Mnemonic} (hq : m.isQuery = false) {s : List Char} :
    m.named s = true ↔ m.Spells s := by
  simp only [named_iff, Spells, mark_of_isQuery_eq_false hq, List.append_nil]

theorem namedSansQuery_iff {m : Mnemonic} {s : List Char} :
    m.namedSansQuery s = true ↔ m.named s = true ∨ m.Spells s := by
  by_cases hq : m.isQuery = true
  · have hstem : (plain (.ofList m.stem)).named s = true ↔ m.Spells s := by
      rw [named, Bool.or_eq_true, Spells, Bool.exists_bool]
      simp [plain, spelling]
    rw [namedSansQuery, dropTail?_text_of_isQuery hq, Bool.or_eq_true]
    exact or_congr_right hstem
  · rw [Bool.not_eq_true] at hq
    rw [namedSansQuery, dropTail?_text_of_isQuery_eq_false hq, Bool.or_false,
      named_eq_true_iff_spells hq, or_self]

/-- Of letters alone a name without the `?` is a spelling. -/
theorem namedSansQuery_iff_spells {m : Mnemonic} {s : List Char}
    (hs : ∀ c ∈ s, Text.isLetter c = true) : m.namedSansQuery s = true ↔ m.Spells s := by
  rw [namedSansQuery_iff]
  constructor
  · rintro (h | h)
    · exact (named_eq_true_iff_spells (isQuery_eq_false_of_named h hs)).1 h
    · exact h
  · exact Or.inr

/-! ## Choosing a mnemonic -/

/-- Either form of a mnemonic without a number chooses it. -/
theorem selects_spelling {m : Mnemonic} (hm : m.Lettered) (hs : m.suffixed = false) (short : Bool) :
    m.selects (m.spelling short ++ m.mark) = true := by
  have hends : Text.EndsOutside Text.isDecimalDigit (m.spelling short ++ m.mark) := by
    rcases m.mark_eq with h | h <;> rw [h]
    · rw [List.append_nil]
      exact hm.endsOutside_spelling short
    · exact Text.endsOutside_append_singleton (by decide)
  rw [selects, hs, Segment.hasNumber_eq_false hends]
  exact named_iff.2 ⟨short, Text.sameText_self _⟩

/-- A number behind letters chooses the mnemonics of that name that have it in their range. -/
theorem selects_append_numeral {m : Mnemonic} {s : List Char}
    (hs : ∀ c ∈ s, Text.isLetter c = true) (k : Nat) :
    m.selects (s ++ Text.numeral k) = true ↔
      m.suffixed = true ∧ m.start.toNat ≤ k ∧ k ≤ m.stop.toNat ∧ m.named s = true := by
  have hends : Text.EndsOutside Text.isDecimalDigit s :=
    Text.endsOutside_of_forall fun c hc => Text.isDecimalDigit_of_isLetter (hs c hc)
  have hsize : m.stop.toNat < UInt32.size := m.stop.toNat_lt_size
  rw [selects, Segment.hasNumber_append_numeral, Segment.number?_append_numeral hends,
    Segment.bare_append_numeral hs]
  by_cases hk : k < UInt32.size
  · rw [if_pos hk]
    have hword : k.toUInt32.toNat = k := UInt32.toNat_ofNat_of_lt' hk
    cases m.suffixed <;> simp [UInt32.le_iff_toNat_le, hword, and_assoc]
  · rw [if_neg hk]
    cases m.suffixed
    · simp
    · simp
      omega

end Mnemonic

end ScpiConsole
