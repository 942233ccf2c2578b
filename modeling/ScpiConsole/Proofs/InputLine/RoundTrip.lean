import ScpiConsole.InputLine
import ScpiConsole.Proofs.Completion.Numbers
/-!
# From a mnemonic to its number and on

A mnemonic that takes a number is accepted, digits are typed, a number is accepted, and a colon is
typed. The name goes in once and is read three times on the way: to look up the range, to put the
number behind it, and to find the node that the number chooses.

* `Grammar.WellFormed` : letters, and ranges that are not empty
* `foldl_press_digits` : digits are appended, and nothing is forgotten
* `text_accept_number` : a number in the place of the digits
* `accepted_number_round_trip` : the way as a whole
-/

namespace ScpiConsole

/-- The mnemonic is made of letters, and its range is not empty if it has one. -/
structure Mnemonic.WellFormed (m : Mnemonic) : Prop extends m.Lettered where
  start_le_stop : m.suffixed = true → m.start ≤ m.stop

instance (m : Mnemonic) : Decidable m.WellFormed :=
  decidable_of_iff (m.Lettered ∧ (m.suffixed = true → m.start ≤ m.stop))
    ⟨fun h => ⟨h.1, h.2⟩, fun h => ⟨h.toLettered, h.start_le_stop⟩⟩

def Grammar.WellFormed (g : Grammar) : Prop :=
  ∀ n ∈ Tree.nodesOf g.paths.children, n.content.WellFormed

instance (g : Grammar) : Decidable g.WellFormed :=
  inferInstanceAs (Decidable (∀ n ∈ Tree.nodesOf g.paths.children, n.content.WellFormed))

theorem Grammar.WellFormed.lettered {g : Grammar} (hg : g.WellFormed) : g.Lettered :=
  fun n hn => (hg n hn).toLettered

theorem Completion.wellFormed_of_mem_children {g : Grammar} (hg : g.WellFormed)
    {completed : List (List Char)} {m : Tree}
    (hm : m ∈ (reached g.paths completed).flatMap Tree.children) : m.content.WellFormed := by
  obtain ⟨n, hn, hm⟩ := List.mem_flatMap.1 hm
  exact hg m (mem_nodesOf_of_leads (leads_of_mem_reached hn) hm)

namespace InputLine

open Completion

/-! ## Typing -/

theorem edit_char (l : InputLine) {c : Char} (hc : Text.isControl c = false) :
    l.edit (.char c) = { l with text := l.text.push c } := by
  show (if Text.isControl c then l else { l with text := l.text.push c }) = _
  rw [hc]
  rfl

theorem press_char (l : InputLine) {c : Char} (hc : Text.isControl c = false) :
    l.press (.char c) =
      ⟨l.text.push c, if Text.isDigit c then l.sticky else {}, l.history.resetCursor⟩ := by
  have hedit : (Key.char c).isEdit = true := by
    show (!Text.isControl c) = true
    rw [hc]
    rfl
  have hkeeps : (Key.char c).keepsSticky = Text.isDigit c := rfl
  rw [press, edit_char l hc, History.onKey, if_pos hedit, hkeeps]

theorem foldl_press_digits {d : List Char} (hd : ∀ c ∈ d, Text.isDigit c = true) (l : InputLine)
    (hb : l.history.browsing = false) :
    let typed := d.foldl (fun l c => l.press (.char c)) l
    typed.text.toList = l.text.toList ++ d ∧ typed.sticky = l.sticky ∧
      typed.history.browsing = false := by
  induction d generalizing l with
  | nil => exact ⟨(List.append_nil _).symm, rfl, hb⟩
  | cons c rest ih =>
    have hc := hd c List.mem_cons_self
    rw [List.foldl_cons, press_char l (Text.isControl_of_isDigit hc), if_pos hc]
    obtain ⟨htext, hsticky, hbrowsing⟩ := ih (fun c hc => hd c (List.mem_cons_of_mem _ hc))
      ⟨l.text.push c, l.sticky, l.history.resetCursor⟩ rfl
    refine ⟨?_, hsticky, hbrowsing⟩
    rw [htext, String.toList_push, List.append_assoc, List.singleton_append]

theorem candidates_of_not_browsing {l : InputLine} (h : l.history.browsing = false)
    (grammar : Option Grammar) :
    l.candidates grammar = Completion.candidates grammar l.text false l.sticky := by
  rw [candidates, h]

theorem browsing_of_mem_candidates {l : InputLine} {g : Grammar} {c : Candidate}
    (hstar : l.text.toList.head? ≠ some '*') (h : c ∈ l.candidates (some g)) :
    l.history.browsing = false :=
  (completable_of_mem_candidates hstar h).1

theorem accept_suffixed {m : Mnemonic} (hm : m.Lettered) (hs : m.suffixed = true) (l : InputLine)
    (branch short : Bool) : l.accept (.mnemonic m branch) short =
      ⟨.ofList (throughLastColon l.text.toList ++ m.spelling short), ⟨true, m.isQuery⟩, l.history⟩ := by
  simp only [accept, insert_suffixed hm hs]

/-- A number takes the place of the digits behind a name. -/
theorem text_accept_number (l : InputLine) {before digits : List Char}
    (hbefore : Text.EndsOutside Text.isDigit before) (hdigits : ∀ c ∈ digits, Text.isDigit c = true)
    (hquery : (before ++ digits).getLast? ≠ some '?') (hline : l.text.toList = before ++ digits)
    (query : Bool) (k : Nat) (short : Bool) :
    (l.accept (numberCandidate query k) short).text.toList =
      before ++ Text.numeral k ++ queryMark query := by
  have hmark : Text.EndsOutside (fun c => decide (c = '?')) (before ++ digits) := by
    intro c hc
    rw [decide_eq_false_iff_not]
    rintro rfl
    exact hquery hc
  simp only [accept, Completion.insert, numberCandidate, hline, String.toList_ofList,
    Text.dropEndWhile_eq_self hmark, Text.dropEndWhile_append hbefore hdigits, List.append_assoc]

/-- Behind a name of letters nothing but digits is replaced. -/
theorem text_accept_number_of_letters (l : InputLine) {kept name digits : List Char}
    (hname : ∀ c ∈ name, Text.isLetter c = true) (hne : name ≠ [])
    (hdigits : ∀ c ∈ digits, Text.isDigit c = true) (hline : l.text.toList = kept ++ name ++ digits)
    (query : Bool) (k : Nat) (short : Bool) :
    (l.accept (numberCandidate query k) short).text.toList =
      kept ++ name ++ Text.numeral k ++ queryMark query := by
  have hbefore : Text.EndsOutside Text.isDigit (kept ++ name) :=
    (Text.endsOutside_of_forall fun c hc => Text.isDigit_of_isLetter (hname c hc)).append_left hne
  have hquery : (kept ++ name ++ digits).getLast? ≠ some '?' := by
    rw [List.append_assoc,
      List.getLast?_append_of_ne_nil _ (List.append_ne_nil_of_left_ne_nil hne _)]
    exact fun h => Text.not_mem_append_digits hname hdigits (by decide) (by decide)
      (List.mem_of_getLast? h)
  exact text_accept_number l hbefore hdigits hquery hline query k short

/-- **The way through a mnemonic that takes a number is a round trip.** Behind an accepted mnemonic
exactly the numbers of its range that start with the digits typed are on offer. One of them takes the
place of these digits. When it chooses one node only, a colon leads to the children of this node. -/
theorem accepted_number_round_trip {g : Grammar} (hg : g.WellFormed) {l : InputLine}
    (hstar : l.text.toList.head? ≠ some '*') {c : Mnemonic} {branch : Bool}
    (hc : c.suffixed = true) (hoffered : .mnemonic c branch ∈ l.candidates (some g)) (short : Bool)
    (hsame : ∀ n ∈ (reached g.paths (Path.ofText l.text.toList).completed).flatMap Tree.children,
      n.content.suffixed = true → n.content.Spells (c.spelling short) →
        n.content.start = c.start ∧ n.content.stop = c.stop)
    {d : String} (hd : ∀ x ∈ d.toList, Text.isDigit x = true) :
    let inserted := l.accept (.mnemonic c branch) short
    let line := inserted.type d
    inserted.text.toList = throughLastColon l.text.toList ++ c.spelling short ∧
    line.text.toList = inserted.text.toList ++ d.toList ∧
    line.candidates (some g) =
      ((List.range' c.start.toNat (c.stop.toNat + 1 - c.start.toNat)).filter fun k =>
        d.toList.isPrefixOf (Text.numeral k)).map
          (fun k => .number (.ofList (Text.numeral k ++ c.mark))) ∧
    ∀ k, c.start.toNat ≤ k → k ≤ c.stop.toNat → d.toList <+: Text.numeral k → ∀ short',
      let done := line.accept (.number (.ofList (Text.numeral k ++ c.mark))) short'
      done.text.toList = inserted.text.toList ++ Text.numeral k ++ c.mark ∧
      (c.isQuery = false → ∀ m,
        ((reached g.paths (Path.ofText l.text.toList).completed).flatMap Tree.children).filter
          (fun t => t.content.suffixed &&
            (t.content.start.toNat ≤ k && k ≤ t.content.stop.toNat) &&
            t.content.named (c.spelling short)) = [m] →
        (done.press (.char ':')).candidates (some g) = collect m.children) := by
  intro inserted line
  have hbrowsing := browsing_of_mem_candidates hstar hoffered
  obtain ⟨origin, horigin, heq⟩ :=
    mem_collect.1 (mem_continuations_of_mem_candidates hstar hoffered)
  obtain ⟨rfl, -⟩ := Candidate.mnemonic.inj heq
  have hchild := List.mem_flatMap.2 (mem_continuations.1 horigin).1
  have hwell : origin.content.WellFormed := wellFormed_of_mem_children hg hchild
  have hl := hwell.toLettered
  have hname : ∀ x ∈ origin.content.spelling short, Text.isLetter x = true :=
    hl.isLetter_of_mem_spelling
  have hinserted : inserted = ⟨.ofList (throughLastColon l.text.toList ++
      origin.content.spelling short), ⟨true, origin.content.isQuery⟩, l.history⟩ :=
    accept_suffixed hl hc l branch short
  have htext : inserted.text.toList =
      throughLastColon l.text.toList ++ origin.content.spelling short := by
    rw [hinserted, String.toList_ofList]
  obtain ⟨hline, hsticky, hopen⟩ : line.text.toList = inserted.text.toList ++ d.toList ∧
      line.sticky = inserted.sticky ∧ line.history.browsing = false :=
    foldl_press_digits hd inserted (by rw [hinserted]; exact hbrowsing)
  refine ⟨htext, hline, ?_, fun k hstart hstop hprefix short' => ?_⟩
  · rw [candidates_of_not_browsing hopen, hsticky, hinserted]
    refine candidates_numberLine hg.lettered hstar hname hd (m := origin.content) ?_
      (hwell.start_le_stop hc) ?_ _ ?_
    · refine (mem_named_iff_spells hname (hl.spelling_ne_nil short)).2 ⟨⟨origin, hchild, rfl⟩, hc, ?_⟩
      exact ⟨short, Text.sameText_self _⟩
    · intro n hn
      obtain ⟨⟨t, ht, rfl⟩, hs, hspells⟩ :=
        (mem_named_iff_spells hname (hl.spelling_ne_nil short)).1 hn
      exact hsame t ht hs hspells
    · rw [hline, htext, List.append_assoc]
  · intro done
    have hdone : done.text.toList =
        inserted.text.toList ++ Text.numeral k ++ origin.content.mark := by
      rw [htext] at hline ⊢
      exact text_accept_number_of_letters line hname (hl.spelling_ne_nil short) hd hline
        origin.content.isQuery k short'
    refine ⟨hdone, fun hq m hm => ?_⟩
    rw [press_char done (by decide), candidates_of_not_browsing rfl]
    refine candidates_below_number hstar hname hm ?_ rfl
    rw [String.toList_push, hdone, htext, Mnemonic.mark_of_isQuery_eq_false hq]
    simp only [List.append_nil, List.append_assoc]

/-- The marker with number 12, on the way from a lower-case start to what follows it. -/
theorem accepted_marker_round_trip :
    let line := (accept { text := ":mark" } (.mnemonic (.ranged "MARKer" 1 12) true) false).type "1"
    let done := line.accept (.number "12") false
    line.text = ":MARKer1" ∧
    line.candidates (some .oscilloscope) = ["1", "10", "11", "12"].map .number ∧
    done.text = ":MARKer12" ∧
    (done.press (.char ':')).candidates (some .oscilloscope) =
      collect [.leaf (.plain "XPOSition")] := by
  have hfound : ⟨.ranged "MARKer" 1 12, [.leaf (.plain "XPOSition")]⟩ ∈
      continuations Grammar.oscilloscope.paths (Path.ofText ":mark".toList) :=
    mem_continuations.2 ⟨⟨_, List.mem_singleton_self _, by simp [Grammar.oscilloscope]⟩, by decide⟩
  have hoffered : .mnemonic (.ranged "MARKer" 1 12) true ∈
      candidates { text := ":mark" } (some .oscilloscope) := by
    refine (mem_candidates_iff ⟨by decide, by decide, by decide⟩ rfl).2 ?_
    exact mem_collect.2 ⟨_, hfound, by decide⟩
  obtain ⟨-, -, hnumbers, hdone⟩ :=
    accepted_number_round_trip (g := .oscilloscope) (by decide) (by decide) rfl hoffered false
      (by decide) (d := "1") (List.all_eq_true.1 (by decide))
  obtain ⟨-, hbelow⟩ := hdone 12 (by decide) (by decide) (by decide) false
  have hchildren := hbelow rfl ⟨_, [.leaf (.plain "XPOSition")]⟩ rfl
  exact ⟨by decide, hnumbers.trans (by decide), by decide, hchildren⟩

end InputLine

end ScpiConsole
