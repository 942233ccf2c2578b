import ScpiConsole.Proofs.InputLine.RoundTrip
/-!
# Runs of the input line

What an accepted completion leaves behind outlives digits, editing keys, and a look into the history,
while the numbers on offer are those of the mnemonic that the line names now. So a number on offer
belongs to the mnemonic accepted last only as far as the two agree.

* `Deed`, `Run`, `Reachable` : what is done to a line, one thing after another
* `awaits_of_run` : the sticky part speaks of the mnemonic accepted last
* `exists_run_accept` : how a number comes to be awaited
* `NumberFits` : a line that ends in a number of its mnemonic
* `offered_number_fits_iff` : when a number on offer fits
-/

namespace ScpiConsole

namespace InputLine

open Completion

/-! ## Runs -/

/-- What is done to a line. A command that is sent takes the text, and is recorded when it is settled,
which may be some deeds later. -/
inductive Deed where
  | press (key : Key)
  | accept (candidate : Candidate) (short : Bool)
  /-- The text is taken, to be sent or to be dropped. -/
  | take
  /-- A command that was sent joins the history. -/
  | record (command : String)
  /-- The history is cleared. -/
  | forget

namespace Deed

def apply (l : InputLine) : Deed → InputLine
  | .press key => l.press key
  | .accept candidate short => l.accept candidate short
  | .take => l.cleared
  | .record command => { l with history := l.history.add command }
  | .forget => { l with history := l.history.clear }

/-- Only what is on offer is accepted. -/
def Possible (grammar : Option Grammar) (l : InputLine) : Deed → Prop
  | .accept candidate _ => candidate ∈ l.candidates grammar
  | _ => True

/-- The completion that is accepted. -/
def accepted? : Deed → Option Candidate
  | .accept candidate _ => some candidate
  | _ => none

end Deed

/-- The lines that some deeds lead to, with the deeds. -/
inductive Run (grammar : Option Grammar) (start : InputLine) : List Deed → InputLine → Prop where
  | start : Run grammar start [] start
  | step {deeds : List Deed} {l : InputLine} (deed : Deed) (run : Run grammar start deeds l)
      (possible : deed.Possible grammar l) : Run grammar start (deeds ++ [deed]) (deed.apply l)

/-- Some deeds lead to the line. -/
def Reachable (grammar : Option Grammar) (start l : InputLine) : Prop :=
  ∃ deeds, Run grammar start deeds l

theorem Reachable.deed {grammar : Option Grammar} {start l : InputLine}
    (h : Reachable grammar start l) (deed : Deed) (possible : deed.Possible grammar l) :
    Reachable grammar start (deed.apply l) := by
  obtain ⟨deeds, hrun⟩ := h
  exact ⟨deeds ++ [deed], hrun.step deed possible⟩

/-- The completion accepted last. -/
def lastAccepted (deeds : List Deed) : Option Candidate :=
  (deeds.filterMap Deed.accepted?).getLast?

/-! ## What is left behind -/

/-- A number is awaited only for a mnemonic that takes one, and with its `?`. -/
def Awaits (last : Option Candidate) (sticky : Sticky) : Prop :=
  sticky.suffix = true → ∃ m branch, last = some (.mnemonic m branch) ∧ m.suffixed = true ∧
    sticky.query = m.isQuery

theorem awaits_of_suffix_eq_false {last : Option Candidate} {sticky : Sticky}
    (h : sticky.suffix = false) : Awaits last sticky := by
  intro hs
  cases h.symm.trans hs

theorem awaits_insert (input : String) (c : Candidate) (short : Bool) :
    Awaits (some c) (Completion.insert input c short).2 := by
  cases c with
  | number value => exact awaits_of_suffix_eq_false rfl
  | mnemonic m branch =>
    by_cases hcommon : m.isCommon = true
    · refine awaits_of_suffix_eq_false ?_
      simp only [Completion.insert, hcommon, if_true]
    · intro hs
      simp only [Completion.insert, hcommon, Bool.false_eq_true, if_false] at hs ⊢
      exact ⟨m, branch, rfl, hs, rfl⟩

theorem sticky_press (l : InputLine) (key : Key) :
    (l.press key).sticky = if key.keepsSticky then l.sticky else {} := by
  have hedit : (l.edit key).sticky = l.sticky := by
    cases key with
    | char c =>
      show (if Text.isControl c then l else { l with text := l.text.push c }).sticky = l.sticky
      split <;> rfl
    | _ => rfl
  simp only [press, hedit]

/-- One deed: either a completion is accepted, or what was left behind stays or goes. -/
theorem awaits_apply {last : Option Candidate} {l : InputLine} (h : Awaits last l.sticky)
    (deed : Deed) :
    Awaits (match deed.accepted? with | some c => some c | none => last) (deed.apply l).sticky := by
  cases deed with
  | press key =>
    simp only [Deed.apply, Deed.accepted?, sticky_press]
    split
    · exact h
    · exact awaits_of_suffix_eq_false rfl
  | accept candidate short => exact awaits_insert l.text candidate short
  | take => exact awaits_of_suffix_eq_false rfl
  | record command => exact h
  | forget => exact h

theorem lastAccepted_append (deeds : List Deed) (deed : Deed) :
    lastAccepted (deeds ++ [deed]) =
      match deed.accepted? with | some c => some c | none => lastAccepted deeds := by
  rw [lastAccepted, List.filterMap_append]
  cases h : deed.accepted? with
  | none => simp [h, lastAccepted]
  | some c => simp [h]

theorem awaits_of_run {grammar : Option Grammar} {start l : InputLine} {deeds : List Deed}
    (hstart : start.sticky = {}) (h : Run grammar start deeds l) :
    Awaits (lastAccepted deeds) l.sticky := by
  induction h with
  | start => exact awaits_of_suffix_eq_false (by rw [hstart])
  | step deed _ _ ih =>
    rw [lastAccepted_append]
    exact awaits_apply ih deed

/-- A mnemonic that takes a number and stands at the root can be accepted behind its first letter. -/
theorem exists_run_accept {g : Grammar} {c : Char} {t : Tree} (ht : t ∈ g.paths.children)
    (hl : t.content.Lettered) (hs : t.content.suffixed = true) (hc : Text.isLetter c = true)
    (hstart : Text.startsWithText t.content.text.toList [c] = true) (short : Bool) :
    ∃ deeds branch,
      Run (some g) {} deeds
        ⟨.ofList (t.content.spelling short), ⟨true, t.content.isQuery⟩, {}⟩ ∧
      lastAccepted deeds = some (.mnemonic t.content branch) := by
  have hne : ∀ d, Text.isLetter d = false → c ≠ d := fun d => Text.ne_of_isLetter hc
  have hcolon : ':' ∉ [c] := fun h => hne ':' (by decide) (List.mem_singleton.1 h).symm
  have htyped : press {} (.char c) = { text := .singleton c } := by
    rw [press_char _ (Text.isControl_of_isLetter hc), Text.isDigit_of_isLetter hc]
    rfl
  have hpath : Path.ofText [c] = ⟨[], [c]⟩ := ofText_throughLastColon_append [] hcolon
  have hopen : Completable (String.singleton c).toList := by
    rw [String.toList_singleton]
    exact ⟨by simpa using hne '*' (by decide), by simpa using hne '?' (by decide),
      by simpa using hne ' ' (by decide)⟩
  have hfound : t ∈ continuations g.paths (Path.ofText (String.singleton c).toList) := by
    rw [String.toList_singleton, hpath]
    exact mem_continuations.2 ⟨⟨g.paths, List.mem_singleton_self _, ht⟩, hstart⟩
  obtain ⟨branch, hoffered⟩ : ∃ branch,
      .mnemonic t.content branch ∈ candidates { text := .singleton c } (some g) :=
    ⟨_, (mem_candidates_iff hopen rfl).2 (mem_collect.2 ⟨t, hfound, rfl⟩)⟩
  have haccepted : accept { text := .singleton c } (.mnemonic t.content branch) short =
      ⟨.ofList (t.content.spelling short), ⟨true, t.content.isQuery⟩, {}⟩ := by
    have hkept : throughLastColon [c] = [] :=
      Text.dropEndWhile_append (s := []) (Text.endsOutside_of_forall (List.forall_mem_nil _))
        fun d hd => by simpa [List.mem_singleton.1 hd] using hne ':' (by decide)
    rw [accept_suffixed hl hs, String.toList_singleton, hkept, List.nil_append]
  refine ⟨[.press (.char c), .accept (.mnemonic t.content branch) short], branch, ?_, rfl⟩
  rw [← haccepted, ← htyped]
  refine .step (.accept _ short) (.step (.press (.char c)) .start trivial) ?_
  change _ ∈ candidates (press {} (.char c)) (some g)
  rwa [htyped]

/-! ## Numbers that fit -/

/-- The last segment of the line is the full or the short form of a mnemonic that may follow here,
with a number of its range behind it, and a `?` for a query. -/
def NumberFits (root : Tree) (line : List Char) : Prop :=
  ∃ t ∈ (reached root (Path.ofText line).completed).flatMap Tree.children,
    t.content.suffixed = true ∧ ∃ form k, t.content.Spells form ∧
      t.content.start.toNat ≤ k ∧ k ≤ t.content.stop.toNat ∧
      (Path.ofText line).inProgress = form ++ Text.numeral k ++ t.content.mark

/-- A line that ends in a number fits if one of the mnemonics that it names takes the number, and is
marked as a query exactly if the line is. -/
theorem numberFits_iff {g : Grammar} (hg : g.Lettered) {line name : List Char}
    {completed : List (List Char)} {k : Nat} {query : Bool} (hname : Text.EndsOutside Text.isDigit name)
    (hline : Path.ofText line = ⟨completed, name ++ Text.numeral k ++ queryMark query⟩) :
    NumberFits g.paths line ↔
      ∃ t ∈ (reached g.paths completed).flatMap Tree.children, t.content.suffixed = true ∧
        t.content.Spells name ∧ t.content.start.toNat ≤ k ∧ k ≤ t.content.stop.toNat ∧
        t.content.isQuery = query := by
  rw [NumberFits, hline]
  refine exists_congr fun t => and_congr_right fun ht => and_congr_right fun _ => ?_
  constructor
  · rintro ⟨form, j, hform, hstart, hstop, heq⟩
    have hl := lettered_of_mem_children hg ht
    have hends : Text.EndsOutside Text.isDigit form := Text.endsOutside_of_forall fun x hx =>
      Text.isDigit_of_isLetter (hl.isLetter_of_spells hform x hx)
    obtain ⟨rfl, rfl, hmark⟩ := Mnemonic.append_numeral_append_queryMark_inj hname hends heq
    exact ⟨hform, hstart, hstop, hmark.symm⟩
  · rintro ⟨hform, hstart, hstop, rfl⟩
    exact ⟨name, k, hform, hstart, hstop, rfl⟩

/-- **When a number on offer fits.** After any run a number on offer has the `?` of the mnemonic
accepted last, and takes the place of the digits in the line. The line fits then exactly if a mnemonic
that the line names has the number in its own range, and is a query exactly if the mnemonic accepted
last is one. -/
theorem offered_number_fits_iff {g : Grammar} (hg : g.Lettered) {start l : InputLine}
    (hstart : start.sticky = {}) {deeds : List Deed} (hrun : Run (some g) start deeds l)
    {value : String} (hvalue : .number value ∈ l.candidates (some g)) (short : Bool) :
    let p := Path.ofText l.text.toList
    let name := Text.dropEndWhile Text.isDigit p.inProgress
    let line := (l.accept (.number value) short).text.toList
    ∃ m branch k, lastAccepted deeds = some (.mnemonic m branch) ∧ m.suffixed = true ∧
      value.toList = Text.numeral k ++ m.mark ∧
      line = throughLastColon l.text.toList ++ name ++ Text.numeral k ++ m.mark ∧
      (NumberFits g.paths line ↔
        ∃ t ∈ (reached g.paths p.completed).flatMap Tree.children, t.content.suffixed = true ∧
          t.content.Spells name ∧ t.content.start.toNat ≤ k ∧ k ≤ t.content.stop.toNat ∧
          t.content.isQuery = m.isQuery) := by
  intro p name line
  obtain ⟨hopen, hsuffix, hnumbers⟩ := number_mem_candidates hvalue
  obtain ⟨m, branch, hlast, hm, hquery⟩ := awaits_of_run hstart hrun hsuffix
  have hname : Text.EndsOutside Text.isDigit name := Text.endsOutside_dropEndWhile _ _
  have hsplit : p.inProgress = name ++ Text.takeEndWhile Text.isDigit p.inProgress :=
    (Text.dropEndWhile_append_takeEndWhile _ _).symm
  have hdigits := Text.forall_mem_takeEndWhile Text.isDigit p.inProgress
  change _ ∈ numbers _ p.inProgress _ at hnumbers
  rw [hsplit, hquery, mem_numbers_iff hname hdigits] at hnumbers
  obtain ⟨found, k, hfound, -, hcandidate⟩ := hnumbers
  have hne : name ≠ [] := (mem_named.1 (lastNamed_eq_some_iff.1 hfound).1).2.1
  have htext : l.text.toList =
      throughLastColon l.text.toList ++ name ++ Text.takeEndWhile Text.isDigit p.inProgress := by
    rw [List.append_assoc, ← hsplit, throughLastColon_append_inProgress]
  have hline : line =
      throughLastColon l.text.toList ++ name ++ Text.numeral k ++ m.mark := by
    simp only [line, hcandidate]
    exact text_accept_number l (hname.append_left hne) hdigits (htext ▸ hopen.query) htext _ _ _
  have hcolon : ':' ∉ name := by
    intro h
    refine not_mem_inProgress l.text.toList ?_
    change ':' ∈ p.inProgress
    rw [hsplit]
    exact List.mem_append_left _ h
  have hpath : Path.ofText line = ⟨p.completed, name ++ Text.numeral k ++ m.mark⟩ := by
    rw [hline]
    exact ofText_append_number l.text.toList hcolon k m.isQuery
  refine ⟨m, branch, k, hlast, hm, ?_, hline, ?_⟩
  · rw [Candidate.number.inj hcandidate, String.toList_ofList]
    rfl
  · exact numberFits_iff hg hname hpath

/-- The number of a marker fits. -/
theorem offered_marker_number_fits :
    ∃ deeds l, Run (some .oscilloscope) {} deeds l ∧
      .number "12" ∈ l.candidates (some .oscilloscope) ∧
      NumberFits Grammar.oscilloscope.paths (l.accept (.number "12") true).text.toList := by
  have hchild : ⟨.ranged "MARKer" 1 12, [.leaf (.plain "XPOSition")]⟩ ∈
      Grammar.oscilloscope.paths.children := by simp [Grammar.oscilloscope]
  obtain ⟨deeds, branch, hrun, hlast⟩ := exists_run_accept (c := 'M') hchild (by decide) rfl
    (by decide) (by decide) false
  have hoffered : .number "12" ∈
      Completion.candidates (some .oscilloscope) "MARKer" false ⟨true, false⟩ := by
    have hends : Text.EndsOutside Text.isDigit "MARKer".toList := by
      intro c hc
      cases hc
      rfl
    refine mem_candidates_of_mem_numbers ⟨by decide, by decide, by decide⟩ rfl ?_
    refine (mem_numbers_iff hends (List.forall_mem_nil _)).2 ⟨.ranged "MARKer" 1 12, 12, ?_, by decide, rfl⟩
    exact lastNamed_eq_some_iff.2 ⟨by decide, by decide⟩
  obtain ⟨m, branch, k, hm, -, hvalue, -, hfits⟩ :=
    offered_number_fits_iff (g := .oscilloscope) (by decide) rfl hrun hoffered true
  obtain ⟨rfl, rfl⟩ := Candidate.mnemonic.inj (Option.some.inj (hlast.symm.trans hm))
  obtain rfl : 12 = k := Text.numeral_inj (hvalue.trans (List.append_nil _))
  refine ⟨_, _, hrun, hoffered, hfits.2 ⟨_, List.mem_flatMap.2 ⟨_, List.mem_singleton_self _, hchild⟩, ?_⟩⟩
  exact ⟨rfl, ⟨false, by decide⟩, by decide, by decide, rfl⟩

/-- A command beside a query of the same name is offered the numbers of the query, and takes fewer. -/
theorem offered_number_unfit :
    Grammar.oscilloscope.WellFormed ∧ ∃ deeds l, Run (some .oscilloscope) {} deeds l ∧
      .number "8" ∈ l.candidates (some .oscilloscope) ∧
      ¬ NumberFits Grammar.oscilloscope.paths (l.accept (.number "8") true).text.toList := by
  have hchild : ⟨.ranged "CHANnel" 1 4, [.leaf (.plain "SCALe"), .leaf (.plain "OFFSet")]⟩ ∈
      Grammar.oscilloscope.paths.children := by simp [Grammar.oscilloscope]
  obtain ⟨deeds, branch, hrun, -⟩ := exists_run_accept (c := 'C') hchild (by decide) rfl
    (by decide) (by decide) false
  have hends : Text.EndsOutside Text.isDigit "CHANnel".toList := by
    intro c hc
    cases hc
    rfl
  refine ⟨by decide, _, _, hrun, ?_, ?_⟩
  · -- the query comes last in order
    change _ ∈ Completion.candidates _ "CHANnel" false ⟨true, false⟩
    refine mem_candidates_of_mem_numbers ⟨by decide, by decide, by decide⟩ rfl ?_
    refine (mem_numbers_iff hends (List.forall_mem_nil _)).2 ⟨.ranged "CHANnel?" 1 8, 8, ?_, by decide, rfl⟩
    exact lastNamed_eq_some_iff.2 ⟨by decide, by decide⟩
  · have hpath : Path.ofText "CHANnel8".toList =
        ⟨[], "CHANnel".toList ++ Text.numeral 8 ++ queryMark false⟩ := rfl
    change ¬ NumberFits Grammar.oscilloscope.paths "CHANnel8".toList
    rw [numberFits_iff (by decide) hends hpath]
    decide

end InputLine

end ScpiConsole
