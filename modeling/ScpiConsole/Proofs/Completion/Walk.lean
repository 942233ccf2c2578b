import ScpiConsole.Proofs.Completion.Gathering
/-!
# The walk along the completed segments

The completed segments of a line are followed from the root of the grammar, several nodes at a time.
Nothing is reached that no path of chosen nodes leads to. All such nodes are reached as long as no
segment ends in a digit, since a number keeps one node only.

* `Leads` : the paths of nodes that segments choose
* `leads_of_mem_reached`, `mem_reached_iff` : the walk against the paths
* `offered_iff_path` : the mnemonics on offer against the paths
-/

namespace ScpiConsole

namespace Completion

/-! ## Paths -/

/-- A path down from a node in which each segment chooses the next node. -/
inductive Leads : Tree → List (List Char) → Tree → Prop where
  | here (t : Tree) : Leads t [] t
  | down {t n m : Tree} {segment : List Char} {rest : List (List Char)} (hn : n ∈ t.children)
      (hs : n.content.selects segment = true) (hm : Leads n rest m) : Leads t (segment :: rest) m

/-- The node stands at the end of a line: a path of the completed segments leads to its parent, and
its text starts with the segment in progress. -/
def Continues (root : Tree) (p : Path) (m : Tree) : Prop :=
  ∃ n, Leads root p.completed n ∧ m ∈ n.children ∧
    Text.startsWithText m.content.text.toList p.inProgress = true

/-! ## The walk -/

theorem mem_of_mem_step {nodes : List Tree} {segment : List Char} {m : Tree}
    (h : m ∈ step nodes segment) :
    m ∈ nodes.flatMap Tree.children ∧ m.content.selects segment = true := by
  have hchosen : m ∈ ((nodes.flatMap Tree.children).filter (·.content.selects segment)).mergeSort
      Tree.precedes := by
    unfold step at h
    split at h
    · exact List.mem_of_getLast? (Option.mem_toList.1 h)
    · exact h
  rw [List.mem_mergeSort, List.mem_filter] at hchosen
  exact hchosen

/-- Without a number all nodes that the segment chooses stay. -/
theorem mem_step_iff {nodes : List Tree} {segment : List Char}
    (hs : Segment.hasNumber segment = false) {m : Tree} :
    m ∈ step nodes segment ↔
      m ∈ nodes.flatMap Tree.children ∧ m.content.selects segment = true := by
  simp only [step, hs, Bool.false_eq_true, if_false, List.mem_mergeSort, List.mem_filter]

theorem reached_append (root : Tree) (before : List (List Char)) (segment : List Char) :
    reached root (before ++ [segment]) = step (reached root before) segment := by
  simp [reached, List.foldl_append]

theorem leads_of_mem_foldl {completed : List (List Char)} {nodes : List Tree} {m : Tree}
    (h : m ∈ completed.foldl step nodes) : ∃ n ∈ nodes, Leads n completed m := by
  induction completed generalizing nodes with
  | nil => exact ⟨m, h, .here m⟩
  | cons segment rest ih =>
    obtain ⟨n, hn, hm⟩ := ih h
    obtain ⟨hchild, hs⟩ := mem_of_mem_step hn
    obtain ⟨t, ht, hchild⟩ := List.mem_flatMap.1 hchild
    exact ⟨t, ht, .down hchild hs hm⟩

theorem mem_foldl_of_leads {completed : List (List Char)} {nodes : List Tree} {n m : Tree}
    (hc : ∀ segment ∈ completed, Segment.hasNumber segment = false) (hn : n ∈ nodes)
    (h : Leads n completed m) : m ∈ completed.foldl step nodes := by
  induction h generalizing nodes with
  | here t => exact hn
  | @down t n m segment rest hchild hs hm ih =>
    refine ih (fun s h => hc s (List.mem_cons_of_mem _ h)) ?_
    rw [mem_step_iff (hc segment List.mem_cons_self)]
    exact ⟨List.mem_flatMap.2 ⟨t, hn, hchild⟩, hs⟩

theorem leads_of_mem_reached {root : Tree} {completed : List (List Char)} {m : Tree}
    (h : m ∈ reached root completed) : Leads root completed m := by
  obtain ⟨n, hn, h⟩ := leads_of_mem_foldl h
  rwa [List.mem_singleton.1 hn] at h

theorem mem_reached_iff {root : Tree} {completed : List (List Char)}
    (hc : ∀ segment ∈ completed, Segment.hasNumber segment = false) {m : Tree} :
    m ∈ reached root completed ↔ Leads root completed m :=
  ⟨leads_of_mem_reached, mem_foldl_of_leads hc List.mem_cons_self⟩

/-- A number chooses a mnemonic that takes one, and lies in its range. -/
theorem range_of_selects {m : Mnemonic} {segment : List Char} (hs : m.selects segment = true)
    (hn : Segment.hasNumber segment = true) :
    m.suffixed = true ∧ ∃ k, Segment.number? segment = some k ∧ m.start ≤ k ∧ k ≤ m.stop := by
  simp only [Mnemonic.selects, hn, Bool.not_true, Bool.false_and, Bool.false_eq_true, if_false] at hs
  split at hs
  · exact absurd hs Bool.false_ne_true
  · next hsuffixed =>
    refine ⟨by simpa using hsuffixed, ?_⟩
    split at hs
    · next k hk =>
      simp only [Bool.and_eq_true, decide_eq_true_eq] at hs
      exact ⟨k, hk, hs.1.1, hs.1.2⟩
    · exact absurd hs Bool.false_ne_true

/-! ## What is offered -/

/-- The nodes that the segment in progress may become. -/
def continuations (root : Tree) (p : Path) : List Tree :=
  ((reached root p.completed).flatMap Tree.children).filter fun t =>
    Text.startsWithText t.content.text.toList p.inProgress

theorem mem_continuations {root : Tree} {p : Path} {m : Tree} :
    m ∈ continuations root p ↔ (∃ n ∈ reached root p.completed, m ∈ n.children) ∧
      Text.startsWithText m.content.text.toList p.inProgress = true := by
  rw [continuations, List.mem_filter, List.mem_flatMap]

theorem continues_of_mem_continuations {root : Tree} {p : Path} {m : Tree}
    (h : m ∈ continuations root p) : Continues root p m := by
  obtain ⟨⟨n, hn, hchild⟩, hstart⟩ := mem_continuations.1 h
  exact ⟨n, leads_of_mem_reached hn, hchild, hstart⟩

theorem mem_continuations_iff {root : Tree} {p : Path}
    (hc : ∀ segment ∈ p.completed, Segment.hasNumber segment = false) {m : Tree} :
    m ∈ continuations root p ↔ Continues root p m := by
  refine ⟨continues_of_mem_continuations, ?_⟩
  rintro ⟨n, hn, hchild, hstart⟩
  exact mem_continuations.2 ⟨⟨n, (mem_reached_iff hc).2 hn, hchild⟩, hstart⟩

/-- Behind a colon all children are continuations. -/
theorem continuations_nil (root : Tree) (completed : List (List Char)) :
    continuations root ⟨completed, []⟩ = (reached root completed).flatMap Tree.children := by
  rw [continuations]
  exact List.filter_eq_self.2 fun t _ => Text.startsWithText_nil _

theorem eq_number_of_mem_numbers {nodes : List Tree} {inProgress : List Char} {query : Bool}
    {c : Candidate} (h : c ∈ numbers nodes inProgress query) : ∃ value, c = .number value := by
  simp only [numbers] at h
  split at h
  · exact absurd h List.not_mem_nil
  · obtain ⟨n, _, rfl⟩ := List.mem_map.1 h
    exact ⟨_, rfl⟩

/-- Numbers are on offer if there are any, and mnemonics otherwise. -/
theorem pathCandidates_eq (root : Tree) (text : List Char) (sticky : Sticky) :
    pathCandidates root text sticky =
      let p := Path.ofText text
      let values := if sticky.suffix then numbers (reached root p.completed) p.inProgress sticky.query
        else []
      if values.isEmpty then collect (continuations root p) else values := rfl

theorem pathCandidates_of_suffix_eq_false (root : Tree) (text : List Char) {sticky : Sticky}
    (h : sticky.suffix = false) :
    pathCandidates root text sticky = collect (continuations root (Path.ofText text)) := by
  rw [pathCandidates_eq, h]
  rfl

theorem pathCandidates_cases (root : Tree) (text : List Char) (sticky : Sticky) :
    pathCandidates root text sticky = collect (continuations root (Path.ofText text)) ∨
      sticky.suffix = true ∧ pathCandidates root text sticky =
        numbers (reached root (Path.ofText text).completed) (Path.ofText text).inProgress
          sticky.query := by
  cases hs : sticky.suffix
  · exact Or.inl (pathCandidates_of_suffix_eq_false root text hs)
  · rw [pathCandidates_eq, hs]
    dsimp only
    rw [if_pos rfl]
    split
    · exact Or.inl rfl
    · exact Or.inr ⟨rfl, rfl⟩

theorem mem_pathCandidates {root : Tree} {text : List Char} {sticky : Sticky} {c : Candidate}
    (h : c ∈ pathCandidates root text sticky) :
    c ∈ collect (continuations root (Path.ofText text)) ∨ sticky.suffix = true ∧
      c ∈ numbers (reached root (Path.ofText text).completed) (Path.ofText text).inProgress
        sticky.query := by
  rcases pathCandidates_cases root text sticky with heq | ⟨hs, heq⟩
  · exact Or.inl (heq ▸ h)
  · exact Or.inr ⟨hs, heq ▸ h⟩

/-- The lines behind which paths are completed. -/
structure Completable (text : List Char) : Prop where
  head : text.head? ≠ some '*'
  query : text.getLast? ≠ some '?'
  blank : text.getLast? ≠ some ' '

theorem Completable.candidates_eq {text : String} (h : Completable text.toList) (g : Grammar)
    (sticky : Sticky) :
    candidates (some g) text false sticky = pathCandidates g.paths text.toList sticky := by
  simp [candidates, h.head, h.query, h.blank]

/-- Where no number is awaited the continuations are on offer. -/
theorem candidates_eq_collect {g : Grammar} {text : String} {sticky : Sticky}
    (hopen : Completable text.toList) (hsticky : sticky.suffix = false) :
    candidates (some g) text false sticky =
      collect (continuations g.paths (Path.ofText text.toList)) := by
  rw [hopen.candidates_eq, pathCandidates_of_suffix_eq_false _ _ hsticky]

theorem mem_candidates_iff {g : Grammar} {text : String} {sticky : Sticky}
    (hopen : Completable text.toList) (hsticky : sticky.suffix = false) {c : Candidate} :
    c ∈ candidates (some g) text false sticky ↔
      c ∈ collect (continuations g.paths (Path.ofText text.toList)) := by
  rw [candidates_eq_collect hopen hsticky]

/-- Of a line without a star at its start something is offered only where paths are completed. -/
theorem completable_of_mem_candidates {g : Grammar} {text : String} {browsing : Bool}
    {sticky : Sticky} {c : Candidate} (hstar : text.toList.head? ≠ some '*')
    (h : c ∈ candidates (some g) text browsing sticky) :
    browsing = false ∧ Completable text.toList := by
  simp only [candidates] at h
  split at h
  · simp at h
  · next hopen =>
    simp only [Bool.or_eq_true, beq_iff_eq, not_or, Bool.not_eq_true] at hopen
    exact ⟨hopen.1.1, hstar, hopen.1.2, hopen.2⟩

/-- **Completion is sound and complete for the paths of the grammar.** A mnemonic is on offer only
where a path of chosen nodes ends in it; all of them are on offer, each with its mark of a branch,
unless a completed segment ends in a digit; they stand in strict order; and what a number chooses
takes numbers in a range with this one, as do the nodes that are kept of it. -/
theorem offered_iff_path (g : Grammar) (text : String) (sticky : Sticky)
    (hstar : text.toList.head? ≠ some '*') (hquery : text.toList.getLast? ≠ some '?')
    (hblank : text.toList.getLast? ≠ some ' ') (hsticky : sticky.suffix = false) :
    let p := Path.ofText text.toList
    let offered := candidates (some g) text false sticky
    (∀ c ∈ offered, ∃ m branch, c = .mnemonic m.content branch ∧ Continues g.paths p m) ∧
    ((∀ segment ∈ p.completed, Segment.hasNumber segment = false) →
      ∀ m, Continues g.paths p m →
        (∃ branch, .mnemonic m.content branch ∈ offered) ∧
        ∀ branch, .mnemonic m.content branch ∈ offered →
          (branch = true ↔ ∃ m', Continues g.paths p m' ∧ m'.content = m.content ∧
            m'.children ≠ [])) ∧
    (offered.filterMap Candidate.mnemonic?).Pairwise (fun a b => compare a b = .lt) ∧
    ∀ before segment, before ++ [segment] <+: p.completed → Segment.hasNumber segment = true →
      (∀ n ∈ (reached g.paths before).flatMap Tree.children, n.content.selects segment = true →
        n.content.suffixed = true ∧
          ∃ k, Segment.number? segment = some k ∧ n.content.start ≤ k ∧ k ≤ n.content.stop) ∧
      ∀ n ∈ reached g.paths (before ++ [segment]),
        n ∈ (reached g.paths before).flatMap Tree.children ∧ n.content.selects segment = true := by
  intro p offered
  have hoffered : offered = collect (continuations g.paths p) :=
    candidates_eq_collect ⟨hstar, hquery, hblank⟩ hsticky
  rw [hoffered]
  refine ⟨fun c hc => ?_, fun hdigits m hm => ?_, ?_, fun before segment _ hnumber => ⟨?_, ?_⟩⟩
  · obtain ⟨m, hm, rfl⟩ := mem_collect.1 hc
    exact ⟨m, _, rfl, continues_of_mem_continuations hm⟩
  · have hfound : ∀ t, t ∈ continuations g.paths p ↔ Continues g.paths p t :=
      fun t => mem_continuations_iff hdigits
    refine ⟨⟨_, mem_collect.2 ⟨m, (hfound m).2 hm, rfl⟩⟩, fun branch hbranch => ?_⟩
    obtain ⟨t, ht, hnode⟩ := mem_collect.1 hbranch
    obtain ⟨hcontent, rfl⟩ := Candidate.mnemonic.inj hnode
    simp only [any_branch_iff, hfound, hcontent]
  · rw [filterMap_mnemonic?_collect]
    exact Mnemonic.pairwise_sortDistinct _
  · exact fun n _ hs => range_of_selects hs hnumber
  · rw [reached_append]
    exact fun n hn => mem_of_mem_step hn

end Completion

/-- A small grammar with repeated siblings: a command beside its query, and a branch given twice. -/
def Grammar.oscilloscope : Grammar where
  common := ⟨.plain "", [.leaf (.plain "*IDN?"), .leaf (.plain "*RST")]⟩
  paths := ⟨.plain "", [
    ⟨.ranged "CHANnel" 1 4, [.leaf (.plain "SCALe"), .leaf (.plain "OFFSet")]⟩,
    .leaf (.ranged "CHANnel?" 1 8),
    ⟨.ranged "MARKer" 1 12, [.leaf (.plain "XPOSition")]⟩,
    ⟨.plain "SYSTem", [.leaf (.plain "ERRor?")]⟩,
    ⟨.plain "SYSTem", [.leaf (.plain "DATE")]⟩]⟩

namespace Completion

/-- What stands below a branch that is given twice is on offer from both places. -/
theorem offered_below_system :
    (∃ branch, .mnemonic (.plain "ERRor?") branch ∈
      candidates (some .oscilloscope) ":syst:" false {}) ∧
    ∃ branch, .mnemonic (.plain "DATE") branch ∈
      candidates (some .oscilloscope) ":syst:" false {} := by
  obtain ⟨-, hcomplete, -⟩ := offered_iff_path .oscilloscope ":syst:" {} (by decide) (by decide)
    (by decide) rfl
  have hoffered : ∀ child, ⟨.plain "SYSTem", [child]⟩ ∈ Grammar.oscilloscope.paths.children →
      ∃ branch, .mnemonic child.content branch ∈
        candidates (some .oscilloscope) ":syst:" false {} := by
    intro child hchild
    have hpath : Path.ofText ":syst:".toList = ⟨["syst".toList], []⟩ := rfl
    have hselects : (Mnemonic.plain "SYSTem").selects "syst".toList = true := by decide
    refine (hcomplete (by decide) child ?_).1
    rw [hpath]
    exact ⟨_, .down hchild hselects (.here _), List.mem_singleton_self child, Text.startsWithText_nil _⟩
  exact ⟨hoffered (.leaf (.plain "ERRor?")) (by simp [Grammar.oscilloscope]),
    hoffered (.leaf (.plain "DATE")) (by simp [Grammar.oscilloscope])⟩

end Completion

end ScpiConsole
