import Mathlib.Data.List.Nodup
import ScpiConsole.Proofs.Completion.Branch
/-!
# Labels

A label shows the text of a mnemonic, and its range in braces in front of the `?` of a query. The text
ends where the brace opens, so a label in full belongs to one mnemonic. A line has each mnemonic on
offer once, so all labels in its list differ.

* `rangeLabel_inj` : the numbers in the braces
* `toList_label` : text and range in a label
* `Legible`, `label_inj` : mnemonics that their labels tell apart
* `candidates_cases` : what may be on offer
* `labels_identify` : one label for each mnemonic on offer
-/

namespace ScpiConsole

namespace Mnemonic

/-! ## Ranges -/

/-- The mark of a range behind its first number. -/
def rangeEnd (start stop : UInt32) : List Char :=
  if start = stop then ['}'] else ':' :: Text.numeral stop.toNat ++ ['}']

theorem rangeLabel_eq (start stop : UInt32) :
    rangeLabel start stop = '{' :: (Text.numeral start.toNat ++ rangeEnd start stop) := by
  unfold rangeLabel rangeEnd
  split
  · rfl
  · rw [List.cons_append, List.cons_append, List.append_assoc, List.cons_append]

theorem startsOutside_rangeEnd (start stop : UInt32) :
    Text.StartsOutside Text.isDigit (rangeEnd start stop) := by
  intro c hc
  unfold rangeEnd at hc
  split at hc
  · cases hc
    decide
  · cases hc
    decide

theorem rangeEnd_inj {start stop stop' : UInt32} (h : rangeEnd start stop = rangeEnd start stop') :
    stop = stop' := by
  unfold rangeEnd at h
  split at h
  · next hstop =>
    split at h
    · next hstop' => rw [← hstop, hstop']
    · simp at h
  · split at h
    · simp at h
    · have hnumeral := List.append_cancel_right (List.cons.inj h).2
      exact UInt32.toNat_inj.1 (Text.numeral_inj hnumeral)

/-- The first number ends before the first character that is no digit, and the brace or the colon
there tells whether there is a second one. -/
theorem rangeLabel_inj {start stop start' stop' : UInt32}
    (h : rangeLabel start stop = rangeLabel start' stop') : start = start' ∧ stop = stop' := by
  rw [rangeLabel_eq, rangeLabel_eq] at h
  obtain ⟨hstart, hend⟩ := Text.append_inj_of_startsOutside (fun _ => Text.isDigit_of_mem_numeral)
    (startsOutside_rangeEnd start stop) (fun _ => Text.isDigit_of_mem_numeral)
    (startsOutside_rangeEnd start' stop') (List.cons.inj h).2
  obtain rfl := UInt32.toNat_inj.1 (Text.numeral_inj hstart)
  exact ⟨rfl, rangeEnd_inj hend⟩

theorem exists_rangeLabel_eq_concat (start stop : UInt32) :
    ∃ front, rangeLabel start stop = front ++ ['}'] := by
  unfold rangeLabel
  split
  · exact ⟨_, rfl⟩
  · exact ⟨_, rfl⟩

/-! ## Labels in full -/

theorem toList_label_of_not_suffixed {m : Mnemonic} (h : m.suffixed = false) :
    (m.label false).toList = m.text.toList := by
  simp [label, h]

theorem toList_label_of_suffixed {m : Mnemonic} (h : m.suffixed = true) :
    (m.label false).toList = m.stem ++ (rangeLabel m.start m.stop ++ m.mark) := by
  have hlabel : (m.label false).toList = withRange m.text.toList m.start m.stop := by
    simp [label, h]
  rw [hlabel, withRange]
  cases hq : m.isQuery
  · rw [dropTail?_text_of_isQuery_eq_false hq, text_eq, mark_of_isQuery_eq_false hq, List.append_nil,
      List.append_nil]
  · rw [dropTail?_text_of_isQuery hq, mark_of_isQuery hq, ← List.append_assoc]

/-- A mnemonic that its label shows in full: no brace in its text, and no range if it takes no number. -/
structure Legible (m : Mnemonic) : Prop where
  brace : '{' ∉ m.text.toList
  range : m.suffixed = false → m.start = 0 ∧ m.stop = 0

instance (m : Mnemonic) : Decidable m.Legible :=
  decidable_of_iff ('{' ∉ m.text.toList ∧ (m.suffixed = false → m.start = 0 ∧ m.stop = 0))
    ⟨fun h => ⟨h.1, h.2⟩, fun h => ⟨h.brace, h.range⟩⟩

theorem OfLetters.legible {m : Mnemonic} (hm : m.OfLetters)
    (hrange : m.suffixed = false → m.start = 0 ∧ m.stop = 0) : m.Legible := by
  refine ⟨fun hmem => ?_, hrange⟩
  rw [text_eq, List.mem_append] at hmem
  rcases hmem with hmem | hmem
  · exact Text.not_mem_of_forall_isLetter hm (by decide) hmem
  · rcases m.mark_eq with h | h <;> rw [h] at hmem <;> simp at hmem

theorem brace_mem_label_iff {m : Mnemonic} (hm : m.Legible) :
    '{' ∈ (m.label false).toList ↔ m.suffixed = true := by
  cases hs : m.suffixed
  · rw [toList_label_of_not_suffixed hs]
    exact iff_of_false hm.brace Bool.false_ne_true
  · rw [toList_label_of_suffixed hs, rangeLabel_eq]
    simp

/-- A range ends in a brace, so a `?` behind it is no part of it. -/
theorem rangeLabel_append_mark_inj {m n : Mnemonic}
    (h : rangeLabel m.start m.stop ++ m.mark = rangeLabel n.start n.stop ++ n.mark) :
    m.start = n.start ∧ m.stop = n.stop ∧ m.mark = n.mark := by
  have hrange : ∀ k : Mnemonic, Text.dropEndWhile (· = '?') (rangeLabel k.start k.stop ++ k.mark) =
      rangeLabel k.start k.stop := by
    intro k
    obtain ⟨front, hfront⟩ := exists_rangeLabel_eq_concat k.start k.stop
    refine Text.dropEndWhile_append ?_ fun c hc => ?_
    · rw [hfront]
      exact Text.endsOutside_append_singleton (by decide)
    · rcases k.mark_eq with hk | hk <;> rw [hk] at hc <;> simp_all
  have hlabel : rangeLabel m.start m.stop = rangeLabel n.start n.stop := by rw [← hrange m, h, hrange n]
  obtain ⟨hstart, hstop⟩ := rangeLabel_inj hlabel
  rw [hlabel] at h
  exact ⟨hstart, hstop, List.append_cancel_left h⟩

theorem ne_brace_of_mem_stem {m : Mnemonic} (hm : m.Legible) :
    ∀ c ∈ m.stem, decide (c ≠ '{') = true := by
  intro c hc
  refine decide_eq_true fun heq => hm.brace ?_
  rw [text_eq, ← heq]
  exact List.mem_append_left _ hc

theorem startsOutside_rangeLabel (m : Mnemonic) :
    Text.StartsOutside (· ≠ '{') (rangeLabel m.start m.stop ++ m.mark) := by
  intro c hc
  rw [rangeLabel_eq] at hc
  cases hc
  decide

/-- The label in full tells a mnemonic that takes numbers from one that takes none by its brace, and
goes on behind the text in one way only. -/
theorem label_inj {m n : Mnemonic} (hm : m.Legible) (hn : n.Legible)
    (h : m.label false = n.label false) : m = n := by
  have hsuffixed : m.suffixed = n.suffixed := by
    rw [Bool.eq_iff_iff, ← brace_mem_label_iff hm, h, brace_mem_label_iff hn]
  have h := congrArg String.toList h
  have hfields : m.text = n.text ∧ m.start = n.start ∧ m.stop = n.stop := by
    cases hs : n.suffixed
    · rw [toList_label_of_not_suffixed hs, toList_label_of_not_suffixed (hsuffixed.trans hs)] at h
      obtain ⟨hstart, hstop⟩ := hm.range (hsuffixed.trans hs)
      obtain ⟨hstart', hstop'⟩ := hn.range hs
      exact ⟨String.toList_inj.1 h, hstart.trans hstart'.symm, hstop.trans hstop'.symm⟩
    · rw [toList_label_of_suffixed hs, toList_label_of_suffixed (hsuffixed.trans hs)] at h
      obtain ⟨hstem, hrest⟩ := Text.append_inj_of_startsOutside (ne_brace_of_mem_stem hm)
        (startsOutside_rangeLabel m) (ne_brace_of_mem_stem hn) (startsOutside_rangeLabel n) h
      obtain ⟨hstart, hstop, hmark⟩ := rangeLabel_append_mark_inj hrest
      exact ⟨String.toList_inj.1 (by rw [text_eq, text_eq, hstem, hmark]), hstart, hstop⟩
  obtain ⟨htext, hstart, hstop⟩ := hfields
  cases m
  cases n
  simp_all

end Mnemonic

/-! ## Labels on offer -/

/-- All mnemonics of the grammar are legible. -/
def Grammar.Legible (g : Grammar) : Prop :=
  ∀ n ∈ Tree.nodesOf g.common.children ++ Tree.nodesOf g.paths.children, n.content.Legible

instance (g : Grammar) : Decidable g.Legible :=
  inferInstanceAs (Decidable (∀ n ∈ Tree.nodesOf g.common.children ++ Tree.nodesOf g.paths.children,
    n.content.Legible))

namespace Completion

/-- On offer are numbers, or what is gathered from nodes of the grammar. -/
theorem candidates_cases (g : Grammar) (text : String) (browsing : Bool) (sticky : Sticky) :
    (∀ c ∈ candidates (some g) text browsing sticky, ∃ value, c = .number value) ∨
    ∃ found, candidates (some g) text browsing sticky = collect found ∧
      ∀ t ∈ found, t ∈ Tree.nodesOf g.common.children ++ Tree.nodesOf g.paths.children := by
  simp only [candidates]
  split
  · exact Or.inl fun c hc => absurd hc List.not_mem_nil
  split
  · refine Or.inr ⟨_, rfl, fun t ht => List.mem_append_left _ ?_⟩
    exact Tree.mem_nodesOf_of_mem (List.mem_filter.1 ht).1
  · rcases pathCandidates_cases g.paths text.toList sticky with heq | ⟨-, heq⟩
    · refine Or.inr ⟨_, heq, fun t ht => List.mem_append_right _ ?_⟩
      obtain ⟨n, hn, hchild, -⟩ := continues_of_mem_continuations ht
      exact mem_nodesOf_of_leads hn hchild
    · exact Or.inl fun c hc => eq_number_of_mem_numbers (heq ▸ hc)

theorem labels_collect (found : List Tree) :
    ((collect found).filter fun c => c.mnemonic?.isSome).map (Candidate.label false) =
      (Mnemonic.sortDistinct (found.map Tree.content)).map fun m => m.label false := by
  rw [collect_eq, List.filter_eq_self.2 fun c hc => ?_, List.map_map]
  · rfl
  · obtain ⟨m, -, rfl⟩ := List.mem_map.1 hc
    rfl

/-- **Labels in full identify what is on offer.** Mnemonics of letters, with no range unless they take
numbers, are legible. Legible mnemonics with the same label are the same, so no two mnemonics that a
grammar of them offers for a line show the same label. -/
theorem labels_identify :
    (∀ m : Mnemonic, m.OfLetters → (m.suffixed = false → m.start = 0 ∧ m.stop = 0) → m.Legible) ∧
    (∀ m n : Mnemonic, m.Legible → n.Legible → m.label false = n.label false → m = n) ∧
    ∀ g : Grammar, g.Legible → ∀ (text : String) (browsing : Bool) (sticky : Sticky),
      (((candidates (some g) text browsing sticky).filter fun c => c.mnemonic?.isSome).map
        (Candidate.label false)).Nodup := by
  refine ⟨fun m hm hrange => hm.legible hrange, fun m n hm hn => Mnemonic.label_inj hm hn,
    fun g hg text browsing sticky => ?_⟩
  rcases candidates_cases g text browsing sticky with hnumbers | ⟨found, hfound, hnodes⟩
  · rw [List.filter_eq_nil_iff.2 fun c hc => ?_, List.map_nil]
    · exact List.nodup_nil
    · obtain ⟨value, rfl⟩ := hnumbers c hc
      exact Bool.false_ne_true
  · rw [hfound, labels_collect]
    refine (Mnemonic.nodup_sortDistinct _).map_on fun m hm n hn hlabel => ?_
    have hlegible : ∀ k ∈ Mnemonic.sortDistinct (found.map Tree.content), k.Legible := by
      intro k hk
      obtain ⟨t, ht, rfl⟩ := List.mem_map.1 (Mnemonic.mem_sortDistinct.1 hk)
      exact hg t (hnodes t ht)
    exact Mnemonic.label_inj (hlegible m hm) (hlegible n hn) hlabel

/-- A command beside its query, both with a range, and a branch that is given twice. -/
theorem labels_identify_oscilloscope :
    (Mnemonic.ranged "CHANnel?" 1 8).OfLetters ∧ (Mnemonic.ranged "CHANnel?" 1 8).Legible ∧
    (Mnemonic.ranged "CHANnel?" 1 8).label false = Mnemonic.label ⟨"CHANnel?", 1, 8, true⟩ false ∧
    Mnemonic.ranged "CHANnel?" 1 8 = ⟨"CHANnel?", 1, 8, true⟩ ∧
    Grammar.oscilloscope.Legible ∧
    ((candidates (some .oscilloscope) ":" false {}).filter fun c => c.mnemonic?.isSome).map
      (Candidate.label false) = ["CHANnel{1:4}", "CHANnel{1:8}?", "MARKer{1:12}", "SYSTem"] ∧
    ["CHANnel{1:4}", "CHANnel{1:8}?", "MARKer{1:12}", "SYSTem"].Nodup := by
  obtain ⟨hletters, hinj, hoffered⟩ := labels_identify
  have hquery : (Mnemonic.ranged "CHANnel?" 1 8).Legible := hletters _ (by decide) (by decide)
  have hgrammar : Grammar.oscilloscope.Legible := by decide
  have hlabels : ((candidates (some .oscilloscope) ":" false {}).filter fun c => c.mnemonic?.isSome).map
      (Candidate.label false) = ["CHANnel{1:4}", "CHANnel{1:8}?", "MARKer{1:12}", "SYSTem"] := by
    have hopen : Completable ":".toList := ⟨by decide, by decide, by decide⟩
    have hpath : Path.ofText ":".toList = ⟨[], []⟩ := rfl
    have hcontents : [Mnemonic.ranged "CHANnel" 1 4, .ranged "CHANnel?" 1 8, .ranged "MARKer" 1 12,
        .plain "SYSTem"] = Mnemonic.sortDistinct (Grammar.oscilloscope.paths.children.map Tree.content) := by
      refine Mnemonic.eq_sortDistinct (by decide) fun m => ?_
      simp [Grammar.oscilloscope, Tree.leaf]
    rw [candidates_eq_collect hopen rfl, hpath, continuations_nil, labels_collect]
    change (Mnemonic.sortDistinct (Grammar.oscilloscope.paths.children.map Tree.content)).map _ = _
    rw [← hcontents]
    decide
  exact ⟨by decide, hquery, rfl, hinj _ _ hquery (by decide) rfl, hgrammar, hlabels,
    hlabels ▸ hoffered _ hgrammar ":" false {}⟩

/-- A range is not shown on a mnemonic that takes no number. -/
example : Mnemonic.label ⟨"RADio", 1, 16, false⟩ false = (Mnemonic.plain "RADio").label false := rfl

/-- In short form two mnemonics may look the same. -/
example : (Mnemonic.plain "VOLTage").label true = (Mnemonic.plain "VOLT").label true := by decide

end Completion

end ScpiConsole
