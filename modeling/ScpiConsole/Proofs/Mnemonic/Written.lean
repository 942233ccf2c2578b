import ScpiConsole.Proofs.Mnemonic.Spelling
import ScpiConsole.Proofs.Text.Case
/-!
# Written segments

A segment is written as a mnemonic when it is a form of it; a mnemonic that takes numbers may have one of
them between the letters and the `?`. What chooses a mnemonic is compared with that, for every segment
taken apart behind the letters at its start.

The choice looks at these letters, at the digits at the end of the segment and at a `?` behind all. So a
number in front of a `?` is passed over, and so is whatever stands between letters and digits.

* `Takes`, `Written` : the numbers of a mnemonic, and the segments written as it
* `selects_append_iff` : what the choice looks at
* `written_append_iff` : what there should be
* `Overlooked`, `Missed` : chosen but not written so, and the other way round
* `selects_iff_written_iff` : the two agree on all other segments
-/

namespace ScpiConsole

namespace Text

theorem isLetter_query : isLetter '?' = false := by decide

theorem startsOutside_queryMark (q : Bool) : StartsOutside isLetter (queryMark q) := by
  intro c hc
  cases q
  · cases hc
  · cases hc
    exact isLetter_query

theorem startsOutside_foldCase {s : List Char} (h : StartsOutside isLetter s) :
    StartsOutside isLetter (foldCase s) := by
  intro c hc
  rw [foldCase, List.head?_map, Option.map_eq_some_iff] at hc
  obtain ⟨d, hd, rfl⟩ := hc
  rw [isLetter_foldChar]
  exact h d hd

theorem forall_isLetter_foldCase {s : List Char} (h : ∀ c ∈ s, isLetter c = true) :
    ∀ c ∈ foldCase s, isLetter c = true := by
  intro c hc
  obtain ⟨d, hd, rfl⟩ := List.mem_map.1 hc
  rw [isLetter_foldChar]
  exact h d hd

/-- Letters are compared with letters, and what stands behind them with what stands behind. -/
theorem sameText_append_iff {name rest form tail : List Char}
    (hname : ∀ c ∈ name, isLetter c = true) (hrest : StartsOutside isLetter rest)
    (hform : ∀ c ∈ form, isLetter c = true) (htail : StartsOutside isLetter tail) :
    sameText (name ++ rest) (form ++ tail) = true ↔
      sameText name form = true ∧ sameText rest tail = true := by
  simp only [sameText_iff, foldCase, List.map_append]
  constructor
  · exact append_inj_of_startsOutside (forall_isLetter_foldCase hname) (startsOutside_foldCase hrest)
      (forall_isLetter_foldCase hform) (startsOutside_foldCase htail)
  · rintro ⟨h₁, h₂⟩
    rw [h₁, h₂]

theorem sameText_queryMark_iff {rest : List Char} {q : Bool} :
    sameText rest (queryMark q) = true ↔ rest = queryMark q := by
  constructor
  · intro h
    have hmark : ∀ c ∈ queryMark q, isLetter c = false := by
      cases q
      · exact List.forall_mem_nil _
      · exact List.forall_mem_singleton.2 isLetter_query
    have hrest : ∀ c ∈ rest, isLetter c = false := by
      intro c hc
      have hmem : foldChar c ∈ foldCase (queryMark q) := by
        rw [← sameText_iff.1 h]
        exact List.mem_map_of_mem hc
      rw [foldCase_eq_self hmark] at hmem
      rw [← isLetter_foldChar]
      exact hmark _ hmem
    rw [sameText_iff, foldCase_eq_self hrest, foldCase_eq_self hmark] at h
    exact h
  · rintro rfl
    exact sameText_self _

/-- Every text begins with some letters, maybe none, and goes on with something else. -/
theorem exists_letters_append (s : List Char) : ∃ name rest, s = name ++ rest ∧
    (∀ c ∈ name, isLetter c = true) ∧ StartsOutside isLetter rest :=
  ⟨s.takeWhile isLetter, s.dropWhile isLetter, List.takeWhile_append_dropWhile.symm,
    fun _ => List.all_eq_true.1 List.all_takeWhile _, startsOutside_dropWhile _ _⟩

end Text

/-! ## Numbers of a segment -/

theorem queryMark_inj {q r : Bool} (h : queryMark q = queryMark r) : q = r := by
  cases q <;> cases r <;> first | rfl | cases h

namespace Segment

theorem hasNumber_eq_false_iff {s : List Char} :
    hasNumber s = false ↔ Text.EndsOutside Text.isDecimalDigit s := by
  refine ⟨fun h c hc => ?_, hasNumber_eq_false⟩
  rwa [hasNumber_eq, hc] at h

/-- The digits at the end are the number, as far as they are ASCII digits and fit. -/
theorem number?_eq_some_iff {s : List Char} {n : UInt32} :
    number? s = some n ↔ ∃ front digits, s = front ++ digits ∧
      Text.EndsOutside Text.isDecimalDigit front ∧ digits ≠ [] ∧
      (∀ c ∈ digits, Text.isDigit c = true) ∧ Text.digitsValue digits = n.toNat := by
  constructor
  · intro h
    refine ⟨Text.dropEndWhile Text.isDecimalDigit s, Text.takeEndWhile Text.isDecimalDigit s,
      (Text.dropEndWhile_append_takeEndWhile _ s).symm, Text.endsOutside_dropEndWhile _ s, ?_⟩
    unfold number? Text.readNat at h
    split at h
    · next k hk =>
      split at hk
      · next hdigits =>
        rw [Bool.and_eq_true, Bool.not_eq_true', List.isEmpty_eq_false_iff, List.all_eq_true] at hdigits
        refine ⟨hdigits.1, hdigits.2, ?_⟩
        split at h
        · next hfits =>
          cases h
          rw [Option.some.inj hk]
          exact (UInt32.toNat_ofNat_of_lt' hfits).symm
        · cases h
      · cases hk
    · cases h
  · rintro ⟨front, digits, rfl, hfront, hne, hdigits, hvalue⟩
    have hread : Text.readNat digits = some n.toNat := by
      rw [Text.readNat, if_pos, hvalue]
      rw [Bool.and_eq_true, Bool.not_eq_true', List.isEmpty_eq_false_iff, List.all_eq_true]
      exact ⟨hne, hdigits⟩
    rw [number?, Text.takeEndWhile_append hfront fun c hc =>
      Text.isDecimalDigit_of_isDigit (hdigits c hc), hread]
    show (if n.toNat < UInt32.size then some n.toNat.toUInt32 else none) = some n
    rw [if_pos n.toNat_lt_size]
    exact congrArg some UInt32.ofNat_toNat

section

variable {name rest : List Char}

theorem endsOutside_of_letters (hname : ∀ c ∈ name, Text.isLetter c = true) :
    Text.EndsOutside Text.isDecimalDigit name :=
  Text.endsOutside_of_forall fun c hc => Text.isDecimalDigit_of_isLetter (hname c hc)

theorem getLast?_eq_query_iff (hname : ∀ c ∈ name, Text.isLetter c = true) :
    (name ++ rest).getLast? = some '?' ↔ rest.getLast? = some '?' := by
  by_cases hrest : rest = []
  · subst hrest
    rw [List.append_nil]
    refine iff_of_false (fun h => ?_) (by simp)
    exact Text.ne_of_isLetter (hname _ (List.mem_of_getLast? h)) Text.isLetter_query rfl
  · rw [List.getLast?_append_of_ne_nil name hrest]

theorem hasNumber_append (hname : ∀ c ∈ name, Text.isLetter c = true) :
    hasNumber (name ++ rest) = hasNumber rest := by
  by_cases hrest : rest = []
  · rw [hrest, List.append_nil, hasNumber_eq_false (endsOutside_of_letters hname)]
    rfl
  · rw [hasNumber_eq, hasNumber_eq, List.getLast?_append_of_ne_nil name hrest]

theorem number?_append (hname : ∀ c ∈ name, Text.isLetter c = true) :
    number? (name ++ rest) = number? rest := by
  rw [number?, number?, Text.takeEndWhile_append_left (endsOutside_of_letters hname)]

/-- The letters, and a `?` when there is one at the end and it does not stand alone. -/
theorem bare_append (hname : ∀ c ∈ name, Text.isLetter c = true)
    (hrest : Text.StartsOutside Text.isLetter rest) :
    bare (name ++ rest) = name ++ queryMark (decide (name ≠ [] ∧ rest.getLast? = some '?')) := by
  rw [bare, Text.takeWhile_append_of_startsOutside hname hrest]
  cases name with
  | nil => rfl
  | cons c name =>
    show (if (c :: name ++ rest).getLast? = some '?' then _ else _) = _
    simp only [getLast?_eq_query_iff hname, queryMark, ne_eq, reduceCtorEq, not_false_eq_true,
      true_and, decide_eq_true_eq]
    split
    · rfl
    · exact (List.append_nil _).symm

end

end Segment

namespace Mnemonic

/-! ## What is written as a mnemonic -/

/-- The digits are a number of the mnemonic. -/
structure Takes (m : Mnemonic) (digits : List Char) : Prop where
  ne_nil : digits ≠ []
  isDigit : ∀ c ∈ digits, Text.isDigit c = true
  start_le : m.start.toNat ≤ Text.digitsValue digits
  le_stop : Text.digitsValue digits ≤ m.stop.toNat

/-- The segment is the mnemonic in full or short form, up to the case of its letters. One that takes
numbers may have one of them behind the letters, in front of the `?` if there is one. -/
inductive Written (m : Mnemonic) : List Char → Prop where
  | form {name : List Char} (hname : m.Spells name) : Written m (name ++ m.mark)
  | numbered {name digits : List Char} (hsuffixed : m.suffixed = true) (hname : m.Spells name)
      (hdigits : m.Takes digits) : Written m (name ++ (digits ++ m.mark))

/-- The text does not end in a digit of any script, or it ends in a number of the mnemonic. -/
def EndsFit (m : Mnemonic) (s : List Char) : Prop :=
  Text.EndsOutside Text.isDecimalDigit s ∨ ∃ front digits, s = front ++ digits ∧
    Text.EndsOutside Text.isDecimalDigit front ∧ m.Takes digits

section

variable {m : Mnemonic} {name rest : List Char}

theorem endsFit_iff {s : List Char} : m.EndsFit s ↔
    Segment.hasNumber s = false ∨ ∃ n, Segment.number? s = some n ∧ m.start ≤ n ∧ n ≤ m.stop := by
  rw [EndsFit, Segment.hasNumber_eq_false_iff]
  refine or_congr_right ?_
  constructor
  · rintro ⟨front, digits, hs, hfront, htakes⟩
    have hlt : Text.digitsValue digits < UInt32.size :=
      Nat.lt_of_le_of_lt htakes.le_stop m.stop.toNat_lt_size
    have hword : (Text.digitsValue digits).toUInt32.toNat = Text.digitsValue digits :=
      UInt32.toNat_ofNat_of_lt' hlt
    refine ⟨(Text.digitsValue digits).toUInt32, Segment.number?_eq_some_iff.2
      ⟨front, digits, hs, hfront, htakes.ne_nil, htakes.isDigit, hword.symm⟩, ?_, ?_⟩
    · rw [UInt32.le_iff_toNat_le, hword]
      exact htakes.start_le
    · rw [UInt32.le_iff_toNat_le, hword]
      exact htakes.le_stop
  · rintro ⟨n, hn, hstart, hstop⟩
    obtain ⟨front, digits, hs, hfront, hne, hdigits, hvalue⟩ := Segment.number?_eq_some_iff.1 hn
    rw [UInt32.le_iff_toNat_le, ← hvalue] at hstart hstop
    exact ⟨front, digits, hs, hfront, hne, hdigits, hstart, hstop⟩

theorem Takes.startsOutside {digits : List Char} (h : m.Takes digits) (tail : List Char) :
    Text.StartsOutside Text.isLetter (digits ++ tail) := by
  obtain ⟨c, digits, rfl⟩ := List.exists_cons_of_ne_nil h.ne_nil
  rintro d hd
  cases hd
  exact Text.isLetter_of_isDigit (h.isDigit c List.mem_cons_self)

/-- Letters with something else behind them name a mnemonic if this is its `?` alone. -/
theorem named_append_iff (hm : m.OfLetters) (hname : ∀ c ∈ name, Text.isLetter c = true)
    (hrest : Text.StartsOutside Text.isLetter rest) :
    m.named (name ++ rest) = true ↔ m.Spells name ∧ rest = m.mark := by
  rw [named_iff, Spells, ← exists_and_right]
  refine exists_congr fun short => ?_
  rw [mark, Text.sameText_append_iff hname hrest (fun c hc => hm.isLetter_of_mem_spelling c hc)
    (Text.startsOutside_queryMark _), Text.sameText_queryMark_iff]

theorem named_bare_iff (hm : m.OfLetters) (hname : ∀ c ∈ name, Text.isLetter c = true)
    (hrest : Text.StartsOutside Text.isLetter rest) :
    m.named (Segment.bare (name ++ rest)) = true ↔
      m.Spells name ∧ (m.isQuery = true ↔ name ≠ [] ∧ rest.getLast? = some '?') := by
  rw [Segment.bare_append hname hrest, named_append_iff hm hname (Text.startsOutside_queryMark _), mark]
  refine and_congr_right fun _ => ?_
  constructor
  · intro h
    rw [← queryMark_inj h, decide_eq_true_eq]
  · intro h
    rw [Bool.eq_iff_iff.2 (decide_eq_true_iff.trans h.symm)]

/-- What chooses a mnemonic that takes numbers: its letters at the start, a `?` at the end just if it is a
query, and if there are digits at the end, a number of it. -/
theorem selects_append_iff (hm : m.OfLetters) (hsuffixed : m.suffixed = true)
    (hname : ∀ c ∈ name, Text.isLetter c = true) (hrest : Text.StartsOutside Text.isLetter rest) :
    m.selects (name ++ rest) = true ↔ m.Spells name ∧
      (m.isQuery = true ↔ name ≠ [] ∧ rest.getLast? = some '?') ∧ m.EndsFit rest := by
  rw [← and_assoc, ← named_bare_iff hm hname hrest, endsFit_iff, selects, hsuffixed,
    Segment.hasNumber_append hname, Segment.number?_append hname]
  cases hnumber : Segment.hasNumber rest
  · simp
  · cases Segment.number? rest with
    | none => simp
    | some n =>
      simp only [Bool.not_true, Bool.false_eq_true, if_false, Bool.and_eq_true, decide_eq_true_eq,
        Option.some.injEq, exists_eq_left', reduceCtorEq, false_or]
      exact and_comm

/-- In front of the `?` of a query nothing is looked at but the letters. -/
theorem selects_query (hm : m.OfLetters) (hsuffixed : m.suffixed = true) (hquery : m.isQuery = true)
    (hspells : m.Spells name) (hletters : name ≠ [])
    (hrest : Text.StartsOutside Text.isLetter (rest ++ ['?'])) :
    m.selects (name ++ (rest ++ ['?'])) = true := by
  refine (selects_append_iff hm hsuffixed (hm.isLetter_of_spells hspells) hrest).2
    ⟨hspells, iff_of_true hquery ⟨hletters, List.getLast?_concat⟩, Or.inl ?_⟩
  exact Text.endsOutside_append_singleton (by decide)

/-- Of a command the digits at the end are looked at as well. -/
theorem selects_command (hm : m.OfLetters) (hsuffixed : m.suffixed = true)
    (hquery : m.isQuery = false) (hspells : m.Spells name)
    (hrest : Text.StartsOutside Text.isLetter rest) (hend : m.EndsFit rest)
    (hlast : name ≠ [] → rest.getLast? ≠ some '?') : m.selects (name ++ rest) = true := by
  refine (selects_append_iff hm hsuffixed (hm.isLetter_of_spells hspells) hrest).2
    ⟨hspells, iff_of_false ?_ fun h => hlast h.1 h.2, hend⟩
  rw [hquery]
  exact Bool.false_ne_true

theorem hasNumber_mark (m : Mnemonic) : Segment.hasNumber m.mark = false := by
  rcases m.mark_eq with h | h <;> rw [h] <;> decide

theorem written_append_iff (hm : m.OfLetters) (hname : ∀ c ∈ name, Text.isLetter c = true)
    (hrest : Text.StartsOutside Text.isLetter rest) :
    m.Written (name ++ rest) ↔ m.Spells name ∧ (rest = m.mark ∨
      m.suffixed = true ∧ ∃ digits, m.Takes digits ∧ rest = digits ++ m.mark) := by
  constructor
  · intro h
    generalize hsegment : name ++ rest = segment at h
    cases h with
    | form hform =>
      obtain ⟨rfl, rfl⟩ := Text.append_inj_of_startsOutside hname hrest
        (hm.isLetter_of_spells hform) (Text.startsOutside_queryMark _) hsegment
      exact ⟨hform, Or.inl rfl⟩
    | numbered hsuffixed hform hdigits =>
      obtain ⟨rfl, rfl⟩ := Text.append_inj_of_startsOutside hname hrest
        (hm.isLetter_of_spells hform) (hdigits.startsOutside _) hsegment
      exact ⟨hform, Or.inr ⟨hsuffixed, _, hdigits, rfl⟩⟩
  · rintro ⟨hform, rfl | ⟨hsuffixed, digits, hdigits, rfl⟩⟩
    · exact .form hform
    · exact .numbered hsuffixed hform hdigits

/-- A mnemonic without numbers is chosen by its forms. -/
theorem selects_iff_written_of_not_suffixed (hm : m.OfLetters) (hsuffixed : m.suffixed = false)
    {segment : List Char} : m.selects segment = true ↔ m.Written segment := by
  obtain ⟨name, rest, rfl, hname, hrest⟩ := Text.exists_letters_append segment
  have hnamed := named_append_iff hm hname hrest
  rw [written_append_iff hm hname hrest, selects, hsuffixed]
  simp only [Bool.not_false, if_true, Bool.and_eq_true, hnamed, Bool.false_eq_true, false_and, or_false]
  refine ⟨And.right, fun h => ⟨?_, h⟩⟩
  rw [Segment.hasNumber_append hname, h.2, hasNumber_mark]
  rfl

end

/-! ## Where the two differ -/

/-- The segment chooses a mnemonic that takes numbers, but has something behind its letters that is none of
them. In front of the `?` of a query that may be anything. Without a `?` the digits at the end have to be
a number of the mnemonic, and what stands in front of these may be anything. -/
inductive Overlooked (m : Mnemonic) : List Char → Prop where
  | query {name rest : List Char} (hsuffixed : m.suffixed = true) (hquery : m.isQuery = true)
      (hname : m.Spells name) (hletters : name ≠ []) (hrest : rest ≠ [])
      (hout : Text.StartsOutside Text.isLetter rest) (hnot : ¬m.Takes rest) :
      Overlooked m (name ++ (rest ++ ['?']))
  | command {name rest : List Char} (hsuffixed : m.suffixed = true) (hquery : m.isQuery = false)
      (hname : m.Spells name) (hrest : rest ≠ []) (hout : Text.StartsOutside Text.isLetter rest)
      (hnot : ¬m.Takes rest) (hend : m.EndsFit rest) (hmark : name ≠ [] → rest.getLast? ≠ some '?') :
      Overlooked m (name ++ rest)

/-- The segment is the short form of a query without capitals, which has no letters, or one with a
number. It does not choose the query. -/
inductive Missed (m : Mnemonic) : List Char → Prop where
  | query {digits : List Char} (hsuffixed : m.suffixed = true) (hquery : m.isQuery = true)
      (hname : m.Spells []) (hdigits : digits = [] ∨ m.Takes digits) : Missed m (digits ++ ['?'])

section

variable {m : Mnemonic} {segment : List Char}

theorem selects_of_overlooked (hm : m.OfLetters) (h : m.Overlooked segment) :
    m.selects segment = true ∧ ¬m.Written segment := by
  cases h with
  | @query name rest hsuffixed hquery hname hletters hrest hout hnot =>
    have hl := hm.isLetter_of_spells hname
    have hout' : Text.StartsOutside Text.isLetter (rest ++ ['?']) :=
      (Text.startsOutside_append_iff hrest).2 hout
    have hmark := mark_of_isQuery hquery
    constructor
    · exact selects_query hm hsuffixed hquery hname hletters hout'
    · rw [written_append_iff hm hl hout', hmark]
      rintro ⟨-, h | ⟨-, digits, hdigits, h⟩⟩
      · exact hrest (List.append_left_eq_self.1 h)
      · rw [List.append_cancel_right h] at hnot
        exact hnot hdigits
  | command hsuffixed hquery hname hrest hout hnot hend hlast =>
    have hl := hm.isLetter_of_spells hname
    constructor
    · exact selects_command hm hsuffixed hquery hname hout hend hlast
    · rw [written_append_iff hm hl hout, mark_of_isQuery_eq_false hquery]
      rintro ⟨-, h | ⟨-, digits, hdigits, h⟩⟩
      · exact hrest h
      · rw [h, List.append_nil] at hnot
        exact hnot hdigits

theorem overlooked_of_selects (hm : m.OfLetters) (h : m.selects segment = true)
    (hnot : ¬m.Written segment) : m.Overlooked segment := by
  cases hsuffixed : m.suffixed with
  | false => exact absurd ((selects_iff_written_of_not_suffixed hm hsuffixed).1 h) hnot
  | true =>
    obtain ⟨name, rest, rfl, hname, hrest⟩ := Text.exists_letters_append segment
    obtain ⟨hspells, hlast, hend⟩ := (selects_append_iff hm hsuffixed hname hrest).1 h
    cases hquery : m.isQuery with
    | true =>
      have hmark := mark_of_isQuery hquery
      obtain ⟨hletters, hlast⟩ := hlast.1 hquery
      obtain ⟨front, rfl⟩ := List.getLast?_eq_some_iff.1 hlast
      have hne : front ≠ [] := by
        rintro rfl
        exact hnot ((written_append_iff hm hname hrest).2 ⟨hspells, Or.inl hmark.symm⟩)
      refine .query hsuffixed hquery hspells hletters hne
        ((Text.startsOutside_append_iff hne).1 hrest) fun htakes => hnot ?_
      rw [← hmark]
      exact .numbered hsuffixed hspells htakes
    | false =>
      have hmark := mark_of_isQuery_eq_false hquery
      refine .command hsuffixed hquery hspells ?_ hrest (fun htakes => hnot ?_) hend fun hletters hq => ?_
      · rintro rfl
        exact hnot ((written_append_iff hm hname hrest).2 ⟨hspells, Or.inl hmark.symm⟩)
      · refine (written_append_iff hm hname hrest).2 ⟨hspells, Or.inr ⟨hsuffixed, rest, htakes, ?_⟩⟩
        rw [hmark, List.append_nil]
      · rw [hlast.2 ⟨hletters, hq⟩] at hquery
        cases hquery

theorem written_of_missed (hm : m.OfLetters) (h : m.Missed segment) :
    m.Written segment ∧ m.selects segment = false := by
  cases h with
  | @query digits hsuffixed hquery hname hdigits =>
    have hmark := mark_of_isQuery hquery
    have hout : Text.StartsOutside Text.isLetter (digits ++ ['?']) := by
      rcases hdigits with rfl | htakes
      · exact Text.startsOutside_queryMark true
      · exact htakes.startsOutside _
    have hnil : ∀ c ∈ ([] : List Char), Text.isLetter c = true := List.forall_mem_nil _
    constructor
    · rw [← hmark]
      rcases hdigits with rfl | htakes
      · exact .form hname
      · exact .numbered hsuffixed hname htakes
    · rw [← Bool.not_eq_true]
      intro h
      have hlast := ((selects_append_iff hm hsuffixed hnil hout).1 h).2.1
      exact (hlast.1 hquery).1 rfl

theorem missed_of_written (hm : m.OfLetters) (h : m.Written segment)
    (hnot : m.selects segment = false) : m.Missed segment := by
  cases hsuffixed : m.suffixed with
  | false =>
    rw [(selects_iff_written_of_not_suffixed hm hsuffixed).2 h] at hnot
    cases hnot
  | true =>
    obtain ⟨name, rest, rfl, hname, hrest⟩ := Text.exists_letters_append segment
    obtain ⟨hspells, hbehind⟩ := (written_append_iff hm hname hrest).1 h
    -- What stands behind the letters is a number or nothing, and the `?` of a query.
    obtain ⟨digits, rfl, hdigits⟩ : ∃ digits, rest = digits ++ m.mark ∧ (digits = [] ∨ m.Takes digits) := by
      rcases hbehind with rfl | ⟨-, digits, htakes, rfl⟩
      · exact ⟨[], rfl, Or.inl rfl⟩
      · exact ⟨digits, rfl, Or.inr htakes⟩
    cases hquery : m.isQuery with
    | true =>
      have hmark := mark_of_isQuery hquery
      by_cases hletters : name = []
      · rw [hletters] at hspells ⊢
        rw [hmark]
        exact .query hsuffixed hquery hspells hdigits
      · rw [hmark] at hrest hnot
        rw [selects_query hm hsuffixed hquery hspells hletters hrest] at hnot
        cases hnot
    | false =>
      rw [mark_of_isQuery_eq_false hquery, List.append_nil] at hrest hnot
      have hlast : digits.getLast? ≠ some '?' := by
        intro h
        rcases hdigits with rfl | htakes
        · cases h
        · exact absurd (htakes.isDigit _ (List.mem_of_getLast? h)) (by decide)
      have hend : m.EndsFit digits := by
        rcases hdigits with rfl | htakes
        · exact Or.inl Text.endsOutside_nil
        · exact Or.inr ⟨[], digits, rfl, Text.endsOutside_nil, htakes⟩
      rw [selects_command hm hsuffixed hquery hspells hrest hend fun _ => hlast] at hnot
      cases hnot

/-- **What a segment chooses is written so, with two exceptions.** A segment chooses a mnemonic of letters
just if it is written as it, unless it is overlooked or missed. Those that are overlooked do choose it, and
those that are missed do not. -/
theorem selects_iff_written_iff (hm : m.OfLetters) (segment : List Char) :
    ((m.selects segment = true ↔ m.Written segment) ↔ ¬m.Overlooked segment ∧ ¬m.Missed segment) ∧
    (m.Overlooked segment → m.selects segment = true ∧ ¬m.Written segment) ∧
    (m.Missed segment → m.Written segment ∧ m.selects segment = false) := by
  refine ⟨?_, selects_of_overlooked hm, written_of_missed hm⟩
  constructor
  · intro h
    refine ⟨fun hover => ?_, fun hmissed => ?_⟩
    · obtain ⟨hselects, hnot⟩ := selects_of_overlooked hm hover
      exact hnot (h.1 hselects)
    · obtain ⟨hwritten, hnot⟩ := written_of_missed hm hmissed
      rw [h.2 hwritten] at hnot
      cases hnot
  · rintro ⟨hover, hmissed⟩
    refine ⟨fun h => Classical.byContradiction fun hnot => ?_, fun h => ?_⟩
    · exact hover (overlooked_of_selects hm h hnot)
    · rw [← Bool.not_eq_false]
      exact fun hnot => hmissed (missed_of_written hm h hnot)

/-- A number in the range of a query is neither overlooked nor missed. -/
theorem selects_iff_written_radio :
    let m := Mnemonic.ranged "RADio?" 1 4
    m.OfLetters ∧ m.selects "rad3?".toList = true ∧ m.Written "rad3?".toList ∧
      ¬m.Overlooked "rad3?".toList ∧ ¬m.Missed "rad3?".toList := by
  intro m
  have hm : m.OfLetters := by decide
  have hname : m.Spells "rad".toList := by decide
  have htakes : m.Takes ['3'] :=
    ⟨by decide, List.forall_mem_singleton.2 (by decide), by decide, by decide⟩
  have hwritten : m.Written "rad3?".toList := by
    have h := Written.numbered (by decide) hname htakes
    rwa [mark_of_isQuery (by decide)] at h
  have hselects : m.selects "rad3?".toList = true := by decide
  exact ⟨hm, hselects, hwritten,
    (selects_iff_written_iff hm "rad3?".toList).1.1 (iff_of_true hselects hwritten)⟩

/-- A query is chosen by a number beyond its range, and by its letters with anything behind them. -/
theorem selects_number_out_of_range :
    let m := Mnemonic.ranged "CHANnel?" 1 4
    (m.selects "CHAN99?".toList = true ∧ ¬m.Written "CHAN99?".toList) ∧
      m.selects "CHAN-x?".toList = true ∧ ¬m.Written "CHAN-x?".toList := by
  intro m
  have hm : m.OfLetters := by decide
  have hname : m.Spells "CHAN".toList := by decide
  have hbeyond : ¬m.Takes "99".toList := fun h => absurd h.le_stop (by decide)
  have hother : ¬m.Takes "-x".toList := fun h => absurd (h.isDigit '-' List.mem_cons_self) (by decide)
  have hout : ∀ c rest, Text.isLetter c = false → Text.StartsOutside Text.isLetter (c :: rest) := by
    rintro c rest hc d hd
    cases hd
    exact hc
  exact ⟨selects_of_overlooked hm (.query (by decide) (by decide) hname (by decide) (by decide)
      (hout '9' ['9'] (by decide)) hbeyond),
    selects_of_overlooked hm (.query (by decide) (by decide) hname (by decide) (by decide)
      (hout '-' ['x'] (by decide)) hother)⟩

end

end Mnemonic

end ScpiConsole
