import ScpiConsole.Proofs.Completion.Branch
/-!
# Numbers on offer

The numbers behind a mnemonic that takes one. The segment in progress is split in front of its
digits, and the mnemonic is looked up anew in the children of the nodes reached.

* `named` : the mnemonics that take a number and bear a name, `?` aside
* `mem_numbers_iff` : a number on offer is one of the last of these in order
* `numbers_append` : the numbers on offer where these agree on their range
* `step_append_numeral` : what a number chooses in the end
* `candidates_numberLine`, `candidates_below_number` : what is on offer before and behind a number
-/

namespace ScpiConsole

namespace Completion

/-- The mnemonics that take a number, and have the name when the `?` of a query is left out. -/
def named (nodes : List Tree) (name : List Char) : List Mnemonic :=
  ((nodes.flatMap Tree.children).map Tree.content).filter fun m =>
    !name.isEmpty && m.suffixed && m.namedSansQuery name

theorem mem_named {nodes : List Tree} {name : List Char} {m : Mnemonic} :
    m ∈ named nodes name ↔ (∃ t ∈ nodes.flatMap Tree.children, t.content = m) ∧ name ≠ [] ∧
      m.suffixed = true ∧ m.namedSansQuery name = true := by
  simp only [named, List.mem_filter, List.mem_map, Bool.and_eq_true, Bool.not_eq_true',
    List.isEmpty_eq_false_iff, and_assoc, ne_eq]

/-- Of letters alone these are the ones that the name spells. -/
theorem mem_named_iff_spells {nodes : List Tree} {name : List Char}
    (hname : ∀ c ∈ name, Text.isLetter c = true) (hne : name ≠ []) {m : Mnemonic} :
    m ∈ named nodes name ↔
      (∃ t ∈ nodes.flatMap Tree.children, t.content = m) ∧ m.suffixed = true ∧ m.Spells name := by
  rw [mem_named, Mnemonic.namedSansQuery_iff_spells hname]
  simp only [hne, ne_eq, not_false_eq_true, true_and]

/-- The one of these whose range is offered: the last in order. -/
def lastNamed (nodes : List Tree) (name : List Char) : Option Mnemonic :=
  ((named nodes name).mergeSort Mnemonic.precedes).getLast?

theorem lastNamed_eq_some_iff {nodes : List Tree} {name : List Char} {m : Mnemonic} :
    lastNamed nodes name = some m ↔
      m ∈ named nodes name ∧ ∀ n ∈ named nodes name, n.precedes m = true :=
  Mnemonic.getLast?_mergeSort_eq_some_iff

theorem exists_lastNamed {nodes : List Tree} {name : List Char} {m : Mnemonic}
    (h : m ∈ named nodes name) : ∃ n, lastNamed nodes name = some n :=
  ⟨_, List.getLast?_eq_some_getLast (List.ne_nil_of_mem (List.mem_mergeSort.2 h))⟩

/-- The numbers from `start` to `stop` whose numerals start with the digits. -/
def numbersFrom (start stop : UInt32) (digits : List Char) : List Nat :=
  (List.range' start.toNat (stop.toNat + 1 - start.toNat)).filter fun k =>
    digits.isPrefixOf (Text.numeral k)

theorem mem_numbersFrom {start stop : UInt32} {digits : List Char} {k : Nat} :
    k ∈ numbersFrom start stop digits ↔
      start.toNat ≤ k ∧ k ≤ stop.toNat ∧ digits <+: Text.numeral k := by
  rw [numbersFrom, List.mem_filter, List.mem_range'_1, List.isPrefixOf_iff_prefix, and_assoc]
  refine and_congr_right fun _ => and_congr_left fun _ => ?_
  omega

/-- The candidate for a number. -/
def numberCandidate (query : Bool) (k : Nat) : Candidate :=
  .number (.ofList (Text.numeral k ++ queryMark query))

theorem numbers_eq (nodes : List Tree) {name digits : List Char}
    (hname : Text.EndsOutside Text.isDigit name) (hdigits : ∀ c ∈ digits, Text.isDigit c = true)
    (query : Bool) :
    numbers nodes (name ++ digits) query =
      match lastNamed nodes name with
      | none => []
      | some m => (numbersFrom m.start m.stop digits).map (numberCandidate query) := by
  simp only [numbers, Text.dropEndWhile_append hname hdigits,
    Text.takeEndWhile_append hname hdigits]
  change (match lastNamed nodes name with | none => [] | some m => _) = _
  cases lastNamed nodes name with
  | none => rfl
  | some m =>
    simp only [numerals, List.filter_map, List.map_map]
    refine congrArg (List.map · _) (funext fun k => ?_)
    cases query
    · simp [numberCandidate, queryMark]
    · simp [numberCandidate, queryMark]

theorem mem_numbers_iff {nodes : List Tree} {name digits : List Char}
    (hname : Text.EndsOutside Text.isDigit name) (hdigits : ∀ c ∈ digits, Text.isDigit c = true)
    {query : Bool} {c : Candidate} :
    c ∈ numbers nodes (name ++ digits) query ↔ ∃ m k, lastNamed nodes name = some m ∧
      k ∈ numbersFrom m.start m.stop digits ∧ c = numberCandidate query k := by
  rw [numbers_eq nodes hname hdigits]
  cases lastNamed nodes name with
  | none => simp
  | some m => simp [List.mem_map, eq_comm]

theorem exists_of_mem_numbers {nodes : List Tree} {inProgress : List Char} {query : Bool}
    {c : Candidate} (h : c ∈ numbers nodes inProgress query) : ∃ k, c = numberCandidate query k := by
  rw [← Text.dropEndWhile_append_takeEndWhile Text.isDigit inProgress, mem_numbers_iff
    (Text.endsOutside_dropEndWhile _ _) (Text.forall_mem_takeEndWhile _ _)] at h
  obtain ⟨-, k, -, -, rfl⟩ := h
  exact ⟨k, rfl⟩

/-- Where all the mnemonics of a name have one range, its numbers are on offer. -/
theorem numbers_append {nodes : List Tree} {name digits : List Char}
    (hname : ∀ c ∈ name, Text.isLetter c = true) (hdigits : ∀ c ∈ digits, Text.isDigit c = true)
    (query : Bool) {m : Mnemonic} (hm : m ∈ named nodes name)
    (hsame : ∀ n ∈ named nodes name, n.start = m.start ∧ n.stop = m.stop) :
    numbers nodes (name ++ digits) query =
      (numbersFrom m.start m.stop digits).map (numberCandidate query) := by
  have hends : Text.EndsOutside Text.isDigit name :=
    Text.endsOutside_of_forall fun c hc => Text.isDigit_of_isLetter (hname c hc)
  obtain ⟨n, hn⟩ := exists_lastNamed hm
  obtain ⟨hstart, hstop⟩ := hsame n (lastNamed_eq_some_iff.1 hn).1
  rw [numbers_eq nodes hends hdigits, hn]
  simp only [hstart, hstop]

/-- A number in range chooses the only node that has it in its range under this name. -/
theorem step_append_numeral {nodes : List Tree} {name : List Char} {k : Nat} {m : Tree}
    (hname : ∀ c ∈ name, Text.isLetter c = true)
    (h : (nodes.flatMap Tree.children).filter (fun t => t.content.suffixed &&
      (t.content.start.toNat ≤ k && k ≤ t.content.stop.toNat) && t.content.named name) = [m]) :
    step nodes (name ++ Text.numeral k) = [m] := by
  have hfilter : (nodes.flatMap Tree.children).filter
      (·.content.selects (name ++ Text.numeral k)) = [m] := by
    rw [← h]
    refine List.filter_congr fun t _ => ?_
    rw [Bool.eq_iff_iff, Mnemonic.selects_append_numeral hname]
    simp only [Bool.and_eq_true, decide_eq_true_eq, and_assoc]
  rw [step, hfilter, Segment.hasNumber_append_numeral, List.mergeSort_singleton]
  rfl

/-- A number is on offer only where paths are completed and a number is awaited. -/
theorem number_mem_candidates {g : Grammar} {text : String} {browsing : Bool} {sticky : Sticky}
    {value : String} (h : .number value ∈ candidates (some g) text browsing sticky) :
    Completable text.toList ∧ sticky.suffix = true ∧ .number value ∈
      numbers (reached g.paths (Path.ofText text.toList).completed) (Path.ofText text.toList).inProgress
        sticky.query := by
  have hstar : text.toList.head? ≠ some '*' := by
    intro hstar
    simp only [candidates] at h
    split at h
    · exact absurd h List.not_mem_nil
    · rw [if_pos (by rw [hstar]; rfl)] at h
      obtain ⟨t, -, heq⟩ := mem_collect.1 h
      cases heq
  obtain ⟨rfl, hopen⟩ := completable_of_mem_candidates hstar h
  rw [hopen.candidates_eq] at h
  rcases mem_pathCandidates h with h | ⟨hsuffix, h⟩
  · obtain ⟨t, -, heq⟩ := mem_collect.1 h
    cases heq
  · exact ⟨hopen, hsuffix, h⟩

/-- Where a number is awaited all numbers found are on offer. -/
theorem mem_candidates_of_mem_numbers {g : Grammar} {text : String} (hopen : Completable text.toList)
    {sticky : Sticky} (hsticky : sticky.suffix = true) {c : Candidate}
    (h : c ∈ numbers (reached g.paths (Path.ofText text.toList).completed)
      (Path.ofText text.toList).inProgress sticky.query) :
    c ∈ candidates (some g) text false sticky := by
  rw [hopen.candidates_eq, pathCandidates_eq]
  simp only [hsticky, if_true]
  rw [if_neg]
  · exact h
  · rw [List.isEmpty_iff]
    exact List.ne_nil_of_mem h

/-! ## The line of a mnemonic that takes a number -/

/-- A number behind a name stays in the segment in progress. -/
theorem ofText_append_number (text : List Char) {name : List Char} (hname : ':' ∉ name) (k : Nat)
    (query : Bool) :
    Path.ofText (throughLastColon text ++ name ++ Text.numeral k ++ queryMark query) =
      ⟨(Path.ofText text).completed, name ++ Text.numeral k ++ queryMark query⟩ := by
  have hnumeral : ':' ∉ Text.numeral k := fun h =>
    absurd (Text.isDigit_of_mem_numeral h) (by decide)
  have hmark : ':' ∉ queryMark query := by cases query <;> decide
  have hcolon : ':' ∉ name ++ Text.numeral k ++ queryMark query := by
    simp only [List.mem_append, not_or]
    exact ⟨⟨hname, hnumeral⟩, hmark⟩
  rw [← ofText_throughLastColon_append text hcolon]
  simp only [List.append_assoc]

theorem insert_suffixed {m : Mnemonic} (hm : m.Lettered) (hs : m.suffixed = true) (text : String)
    (branch short : Bool) : insert text (.mnemonic m branch) short =
      (.ofList (throughLastColon text.toList ++ m.spelling short), ⟨true, m.isQuery⟩) := by
  simp only [insert_mnemonic hm, hs, Bool.not_true, Bool.and_false, if_true, Bool.false_eq_true,
    if_false, List.append_nil]

/-- No mnemonic of letters starts with a segment that has a digit in it. -/
theorem continuations_eq_nil {g : Grammar} (hg : g.Lettered) {p : Path} {c : Char}
    (hc : c ∈ p.inProgress) (hdigit : Text.isDigit c = true) : continuations g.paths p = [] := by
  rw [List.eq_nil_iff_forall_not_mem]
  intro m hm
  obtain ⟨hreached, hstart⟩ := mem_continuations.1 hm
  have hl := lettered_of_mem_children hg (List.mem_flatMap.2 hreached)
  have hletter := Text.isLetter_of_isDigit hdigit
  have hmem : Text.foldChar c ∈ Text.foldCase m.content.text.toList :=
    (Text.startsWithText_iff.1 hstart).subset (List.mem_map_of_mem hc)
  obtain ⟨d, hd, heq⟩ := List.mem_map.1 hmem
  rw [Text.foldChar_of_not_isLetter hletter] at heq
  rw [← heq, Text.isLetter_foldChar] at hletter
  rw [Text.foldChar_of_not_isLetter hletter] at heq
  rw [Mnemonic.text_eq, List.mem_append] at hd
  rcases hd with hd | hd
  · cases (hl.letters d hd).symm.trans hletter
  · rcases m.content.mark_eq with h | h <;> rw [h] at hd
    · exact absurd hd List.not_mem_nil
    · rw [List.mem_singleton.1 hd] at heq
      rw [← heq] at hdigit
      exact absurd hdigit (by decide)

theorem numbersFrom_nil_ne_nil {start stop : UInt32} (h : start ≤ stop) :
    numbersFrom start stop [] ≠ [] := by
  refine List.ne_nil_of_mem (a := start.toNat) (mem_numbersFrom.2 ⟨Nat.le_refl _, ?_, List.nil_prefix⟩)
  exact UInt32.le_iff_toNat_le.1 h

/-- The numbers behind an accepted mnemonic, as far as the digits behind it go. -/
theorem candidates_numberLine {g : Grammar} (hg : g.Lettered) {text : List Char}
    (hstar : text.head? ≠ some '*') {name digits : List Char}
    (hname : ∀ c ∈ name, Text.isLetter c = true) (hdigits : ∀ c ∈ digits, Text.isDigit c = true)
    {m : Mnemonic} (hm : m ∈ named (reached g.paths (Path.ofText text).completed) name)
    (hrange : m.start ≤ m.stop)
    (hsame : ∀ n ∈ named (reached g.paths (Path.ofText text).completed) name,
      n.start = m.start ∧ n.stop = m.stop) (query : Bool) {line : String}
    (hline : line.toList = throughLastColon text ++ (name ++ digits)) :
    candidates (some g) line false ⟨true, query⟩ =
      (numbersFrom m.start m.stop digits).map (numberCandidate query) := by
  have hne : name ≠ [] := (mem_named.1 hm).2.1
  have hnot : ∀ c, Text.isLetter c = false → Text.isDigit c = false → c ∉ name ++ digits :=
    fun c => Text.not_mem_append_digits hname hdigits
  have hpath : Path.ofText line.toList = ⟨(Path.ofText text).completed, name ++ digits⟩ := by
    rw [hline, ofText_throughLastColon_append text (hnot ':' (by decide) (by decide))]
  have hopen : Completable line.toList := by
    rw [hline]
    exact completable_throughLastColon_append hstar (List.append_ne_nil_of_left_ne_nil hne _)
      (hnot '*' (by decide) (by decide))
      (fun h => hnot '?' (by decide) (by decide) (List.mem_of_getLast? h))
      (fun h => hnot ' ' (by decide) (by decide) (List.mem_of_getLast? h))
  rw [hopen.candidates_eq, pathCandidates_eq, hpath]
  simp only [if_true, numbers_append hname hdigits query hm hsame]
  split
  · next hempty =>
    rw [List.isEmpty_iff, List.map_eq_nil_iff] at hempty
    rw [hempty, List.map_nil]
    cases digits with
    | nil => exact absurd hempty (numbersFrom_nil_ne_nil hrange)
    | cons c rest =>
      rw [continuations_eq_nil hg (c := c) (by simp) (hdigits c List.mem_cons_self), collect_nil]
  · rfl

/-- Behind the number of a single node a colon leads to the children of this node. -/
theorem candidates_below_number {g : Grammar} {text : List Char} (hstar : text.head? ≠ some '*')
    {name : List Char} (hname : ∀ c ∈ name, Text.isLetter c = true) {k : Nat} {m : Tree}
    (hm : ((reached g.paths (Path.ofText text).completed).flatMap Tree.children).filter
      (fun t => t.content.suffixed &&
        (t.content.start.toNat ≤ k && k ≤ t.content.stop.toNat) && t.content.named name) = [m])
    {line : String} (hline : line.toList = throughLastColon text ++ (name ++ Text.numeral k) ++ [':'])
    {sticky : Sticky} (hsticky : sticky.suffix = false) :
    candidates (some g) line false sticky = collect m.children := by
  have hnot : ∀ c, Text.isLetter c = false → Text.isDigit c = false → c ∉ name ++ Text.numeral k :=
    fun c => Text.not_mem_append_digits hname fun _ => Text.isDigit_of_mem_numeral
  have hpath : Path.ofText line.toList =
      ⟨(Path.ofText text).completed ++ [name ++ Text.numeral k], []⟩ := by
    rw [hline, ofText_append_colon text (hnot ':' (by decide) (by decide))]
    exact List.append_ne_nil_of_right_ne_nil _ (Text.numeral_ne_nil k)
  have hopen : Completable line.toList := by
    rw [hline, List.append_assoc]
    refine completable_throughLastColon_append hstar (by simp) ?_ (by simp) (by simp)
    rw [List.mem_append, not_or]
    exact ⟨hnot '*' (by decide) (by decide), by simp⟩
  rw [candidates_eq_collect hopen hsticky, hpath, continuations_nil, reached_append,
    step_append_numeral hname hm, List.flatMap_singleton]

end Completion

end ScpiConsole
