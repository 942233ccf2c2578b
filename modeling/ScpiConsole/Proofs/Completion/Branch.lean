import ScpiConsole.Proofs.Completion.Line
/-!
# Branches

A branch that is accepted goes into the line with a colon behind it. The segment that it becomes
chooses every node that the branch stood for, so their children are on offer next.

* `mem_nodesOf_of_leads` : what a line can reach lies below the root
* `mem_step_spelling` : a spelling leads back to the nodes of its mnemonic
* `accepted_branch_descends` : all children of an accepted branch are on offer
-/

namespace ScpiConsole

namespace Tree

theorem nodesOf_eq_flatMap (ts : List Tree) : nodesOf ts = ts.flatMap nodes := by
  induction ts with
  | nil => rfl
  | cons t rest ih => rw [nodesOf, ih, List.flatMap_cons]

theorem mem_nodes_self (t : Tree) : t ∈ nodes t := by
  cases t
  rw [nodes]
  exact List.mem_cons_self

theorem mem_nodesOf_of_mem {t : Tree} {ts : List Tree} (h : t ∈ ts) : t ∈ nodesOf ts := by
  rw [nodesOf_eq_flatMap]
  exact List.mem_flatMap.2 ⟨t, h, mem_nodes_self t⟩

theorem nodesOf_children_subset (t : Tree) : nodesOf t.children ⊆ nodes t := by
  cases t
  rw [nodes]
  exact List.subset_cons_self _ _

end Tree

namespace Completion

theorem mem_nodesOf_of_leads {root n m : Tree} {segments : List (List Char)}
    (h : Leads root segments n) (hm : m ∈ n.children) : m ∈ Tree.nodesOf root.children := by
  induction h with
  | here t => exact Tree.mem_nodesOf_of_mem hm
  | down hn _ _ ih =>
    rw [Tree.nodesOf_eq_flatMap]
    exact List.mem_flatMap.2 ⟨_, hn, Tree.nodesOf_children_subset _ (ih hm)⟩

end Completion

/-- Every mnemonic of a path is made of letters. -/
def Grammar.Lettered (g : Grammar) : Prop :=
  ∀ n ∈ Tree.nodesOf g.paths.children, n.content.Lettered

instance (g : Grammar) : Decidable g.Lettered :=
  inferInstanceAs (Decidable (∀ n ∈ Tree.nodesOf g.paths.children, n.content.Lettered))

namespace Completion

theorem lettered_of_mem_children {g : Grammar} (hg : g.Lettered) {completed : List (List Char)}
    {m : Tree} (hm : m ∈ (reached g.paths completed).flatMap Tree.children) :
    m.content.Lettered := by
  obtain ⟨n, hn, hm⟩ := List.mem_flatMap.1 hm
  exact hg m (mem_nodesOf_of_leads (leads_of_mem_reached hn) hm)

/-- A mnemonic on offer stands for nodes below those that the line reached, also where numbers are
looked for first. -/
theorem mem_continuations_of_mem_candidates {g : Grammar} {text : String} {browsing : Bool}
    {sticky : Sticky} {c : Mnemonic} {branch : Bool} (hstar : text.toList.head? ≠ some '*')
    (h : .mnemonic c branch ∈ candidates (some g) text browsing sticky) :
    .mnemonic c branch ∈ collect (continuations g.paths (Path.ofText text.toList)) := by
  obtain ⟨rfl, hopen⟩ := completable_of_mem_candidates hstar h
  rw [hopen.candidates_eq] at h
  rcases mem_pathCandidates h with h | ⟨-, h⟩
  · exact h
  · obtain ⟨value, hvalue⟩ := eq_number_of_mem_numbers h
    cases hvalue

theorem mem_step_spelling {nodes : List Tree} {m : Tree} (hm : m ∈ nodes.flatMap Tree.children)
    (hl : m.content.Lettered) (hs : m.content.suffixed = false) (short : Bool) :
    m ∈ step nodes (m.content.spelling short ++ m.content.mark) := by
  have hselects := Mnemonic.selects_spelling hl hs short
  rw [mem_step_iff]
  · exact ⟨hm, hselects⟩
  · simp only [Mnemonic.selects, hs] at hselects
    simp only [Bool.not_false, if_true, Bool.and_eq_true, Bool.not_eq_true'] at hselects
    exact hselects.1

/-! ## The line of a branch -/

/-- The line with a branch in it. -/
def branchLine (text : List Char) (m : Mnemonic) (short : Bool) : List Char :=
  throughLastColon text ++ (m.spelling short ++ m.mark) ++ [':']

theorem insert_branch {m : Mnemonic} (hl : m.Lettered) (hs : m.suffixed = false) (text : String)
    (short : Bool) : insert text (.mnemonic m true) short =
      (.ofList (branchLine text.toList m short), ⟨false, m.isQuery⟩) := by
  simp only [insert_mnemonic hl, hs, branchLine, Bool.not_false, Bool.and_self, if_true,
    Bool.false_eq_true, if_false, List.append_assoc]

theorem not_mem_form {m : Mnemonic} (hl : m.Lettered) {short : Bool} {c : Char}
    (hc : Text.isLetter c = false) (hquery : c ≠ '?') : c ∉ m.spelling short ++ m.mark := by
  rw [List.mem_append, not_or]
  refine ⟨Text.not_mem_of_forall_isLetter hl.isLetter_of_mem_spelling hc, ?_⟩
  rcases m.mark_eq with h | h <;> simp [h, hquery]

/-- The path has one more completed segment. -/
theorem ofText_branchLine {m : Mnemonic} (hl : m.Lettered) (text : List Char) (short : Bool) :
    Path.ofText (branchLine text m short) =
      ⟨(Path.ofText text).completed ++ [m.spelling short ++ m.mark], []⟩ :=
  ofText_append_colon text (not_mem_form hl (by decide) (by decide))
    (List.append_ne_nil_of_left_ne_nil (hl.spelling_ne_nil short) _)

theorem completable_branchLine {m : Mnemonic} (hl : m.Lettered) {text : List Char}
    (hstar : text.head? ≠ some '*') (short : Bool) : Completable (branchLine text m short) := by
  rw [branchLine, List.append_assoc]
  refine completable_throughLastColon_append hstar (by simp) ?_ (by simp) (by simp)
  rw [List.mem_append, not_or]
  exact ⟨not_mem_form hl (by decide) (by decide), by simp⟩

/-- Behind a branch all children of the nodes that it stands for are on offer. -/
theorem mem_candidates_branchLine {g : Grammar} {text : List Char} (hstar : text.head? ≠ some '*')
    {m child : Tree} (hl : m.content.Lettered) (hs : m.content.suffixed = false)
    (hm : m ∈ continuations g.paths (Path.ofText text)) (hchild : child ∈ m.children) (short : Bool)
    {sticky : Sticky} (hsticky : sticky.suffix = false) :
    ∃ branch, .mnemonic child.content branch ∈
      candidates (some g) (.ofList (branchLine text m.content short)) false sticky := by
  have hline := completable_branchLine hl hstar short
  rw [← String.toList_ofList (l := branchLine text m.content short)] at hline
  simp only [mem_candidates_iff hline hsticky, String.toList_ofList, ofText_branchLine hl]
  refine ⟨_, mem_collect.2 ⟨child, mem_continuations.2 ⟨⟨m, ?_, hchild⟩, ?_⟩, rfl⟩⟩
  · rw [reached_append]
    exact mem_step_spelling (List.mem_flatMap.2 (mem_continuations.1 hm).1) hl hs short
  · exact Text.startsWithText_nil _

/-- **Accepting a branch goes down into it.** The line keeps all up to its last colon and ends in a
colon behind the accepted form, no number is awaited, and every child of every node that the branch
stood for is on offer. -/
theorem accepted_branch_descends {g : Grammar} (hg : g.Lettered) {text : String}
    (hstar : text.toList.head? ≠ some '*') {browsing : Bool} {sticky : Sticky} {c : Mnemonic}
    (hc : c.suffixed = false) (h : .mnemonic c true ∈ candidates (some g) text browsing sticky)
    (short : Bool) :
    let applied := insert text (.mnemonic c true) short
    let next := candidates (some g) applied.1 false applied.2
    applied.2.suffix = false ∧
    (∃ kept last, text.toList = kept ++ last ∧ ':' ∉ last ∧
      (kept = [] ∨ kept.getLast? = some ':') ∧
      applied.1.toList = kept ++ (c.spelling short ++ c.mark) ++ [':']) ∧
    (∀ m ∈ continuations g.paths (Path.ofText text.toList), m.content = c →
      ∀ child ∈ m.children, ∃ branch, .mnemonic child.content branch ∈ next) ∧
    next ≠ [] := by
  intro applied next
  obtain ⟨origin, horigin, heq⟩ := mem_collect.1 (mem_continuations_of_mem_candidates hstar h)
  obtain ⟨rfl, hbranch⟩ := Candidate.mnemonic.inj heq
  have hl : origin.content.Lettered :=
    lettered_of_mem_children hg (List.mem_flatMap.2 (mem_continuations.1 horigin).1)
  have happlied : applied = (.ofList (branchLine text.toList origin.content short),
      ⟨false, origin.content.isQuery⟩) := insert_branch hl hc text short
  have hchildren : ∀ m ∈ continuations g.paths (Path.ofText text.toList),
      m.content = origin.content → ∀ child ∈ m.children,
        ∃ branch, .mnemonic child.content branch ∈ next := by
    intro m hm hcontent child hchild
    simp only [next, happlied]
    rw [← hcontent] at hl hc ⊢
    exact mem_candidates_branchLine hstar hl hc hm hchild short rfl
  refine ⟨by rw [happlied], ⟨_, _, (throughLastColon_append_inProgress text.toList).symm,
    not_mem_inProgress text.toList, ?_, ?_⟩, hchildren, ?_⟩
  · rcases throughLastColon_eq text.toList with h | ⟨before, h⟩
    · exact Or.inl h
    · exact Or.inr (by rw [h, List.getLast?_concat])
  · rw [happlied, String.toList_ofList, branchLine]
  · -- the mark of a branch comes from a node that has children
    obtain ⟨m, hm, hcontent, hne⟩ := any_branch_iff.1 hbranch.symm
    obtain ⟨child, hchild⟩ := List.exists_mem_of_ne_nil _ hne
    obtain ⟨branch, hmem⟩ := hchildren m hm hcontent child hchild
    exact List.ne_nil_of_mem hmem

/-- Both nodes of a branch that is given twice are gone down into. -/
theorem accepted_system_descends :
    let applied := insert ":sy" (.mnemonic (.plain "SYSTem") true) true
    let next := candidates (some .oscilloscope) applied.1 false applied.2
    applied.1 = ":SYST:" ∧ (∃ branch, .mnemonic (.plain "ERRor?") branch ∈ next) ∧
      ∃ branch, .mnemonic (.plain "DATE") branch ∈ next := by
  intro applied next
  have hstart : Text.startsWithText "SYSTem".toList (Path.ofText ":sy".toList).inProgress = true := by
    decide
  have hfound : ∀ child, ⟨.plain "SYSTem", [child]⟩ ∈ Grammar.oscilloscope.paths.children →
      ⟨.plain "SYSTem", [child]⟩ ∈
        continuations Grammar.oscilloscope.paths (Path.ofText ":sy".toList) :=
    fun child hchild => mem_continuations.2 ⟨⟨_, List.mem_singleton_self _, hchild⟩, hstart⟩
  have herror := hfound (.leaf (.plain "ERRor?")) (by simp [Grammar.oscilloscope])
  have hdate := hfound (.leaf (.plain "DATE")) (by simp [Grammar.oscilloscope])
  have hoffered : .mnemonic (.plain "SYSTem") true ∈
      candidates (some .oscilloscope) ":sy" false {} := by
    rw [mem_candidates_iff ⟨by decide, by decide, by decide⟩ rfl]
    exact mem_collect.2 ⟨_, hdate, by decide⟩
  obtain ⟨-, -, hchildren, -⟩ :=
    accepted_branch_descends (g := .oscilloscope) (by decide) (by decide) rfl hoffered true
  exact ⟨by decide, hchildren _ herror rfl _ (List.mem_singleton_self _),
    hchildren _ hdate rfl _ (List.mem_singleton_self _)⟩

end Completion

end ScpiConsole
