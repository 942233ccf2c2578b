import Mathlib.Data.List.Nodup
import ScpiConsole.Completion
import ScpiConsole.Proofs.Mnemonic.Order
/-!
# What is made of the nodes found

The contents of the nodes are entered one by one as they are found, and put in order in the end. Each
is entered once, and the marks of all nodes with it are joined, so that nothing depends on the order
in which the nodes came. What is offered is the list that `sortDistinct` makes of the contents.

* `Gathered` : what the entries say of the nodes found so far
* `gathered_enter`, `gathered_gather` : one more node, and all of them
* `collect_eq`, `mem_collect` : what is offered for the nodes
* `distinct_in_order` : the order of mnemonics, and both ways to put them in it
-/

namespace ScpiConsole

/-- The mnemonic of a completion that is not a number. -/
def Candidate.mnemonic? : Candidate → Option Mnemonic
  | .mnemonic node _ => some node
  | .number _ => none

namespace Completion

variable {entries : List (Mnemonic × Bool)} {found : List Tree} {node m : Mnemonic} {branch : Bool}

/-! ## The entries -/

/-- The content is entered as a branch. -/
def entersBranch (entries : List (Mnemonic × Bool)) (m : Mnemonic) : Bool :=
  entries.any fun e => e.1 = m && e.2

theorem mem_keys_enter : m ∈ (enter node branch entries).map Prod.fst ↔
    m ∈ entries.map Prod.fst ∨ m = node := by
  induction entries with
  | nil => simp [enter]
  | cons e rest ih =>
    rw [enter]
    split
    · next he => simp [he, or_comm]
    · rw [List.map_cons, List.mem_cons, ih, List.map_cons, List.mem_cons, or_assoc]

theorem nodup_keys_enter (h : (entries.map Prod.fst).Nodup) :
    ((enter node branch entries).map Prod.fst).Nodup := by
  induction entries with
  | nil => exact List.nodup_cons.2 ⟨List.not_mem_nil, List.nodup_nil⟩
  | cons e rest ih =>
    obtain ⟨hnot, hrest⟩ := List.nodup_cons.1 h
    rw [enter]
    split
    · next he => exact List.nodup_cons.2 ⟨he ▸ hnot, hrest⟩
    · next he =>
      refine List.nodup_cons.2 ⟨fun hmem => ?_, ih hrest⟩
      rcases mem_keys_enter.1 hmem with hmem | heq
      · exact hnot hmem
      · exact he heq

theorem entersBranch_enter (m : Mnemonic) :
    entersBranch (enter node branch entries) m = (entersBranch entries m || (node = m && branch)) := by
  induction entries with
  | nil => simp [enter, entersBranch]
  | cons e rest ih =>
    simp only [entersBranch, List.any_cons] at ih ⊢
    rw [enter]
    split
    · next he =>
      rw [List.any_cons, he, Bool.and_or_distrib_left, Bool.or_assoc, Bool.or_assoc]
      exact congrArg _ (Bool.or_comm ..)
    · rw [List.any_cons, ih, Bool.or_assoc]

/-- A content that is entered once has the mark of its entry. -/
theorem entersBranch_of_mem (h : (entries.map Prod.fst).Nodup) {e : Mnemonic × Bool}
    (he : e ∈ entries) : entersBranch entries e.1 = e.2 := by
  rw [Bool.eq_iff_iff, entersBranch, List.any_eq_true]
  simp only [Bool.and_eq_true, decide_eq_true_eq]
  constructor
  · rintro ⟨d, hd, hkey, hbranch⟩
    rwa [← List.inj_on_of_nodup_map h hd he hkey]
  · exact fun hbranch => ⟨e, he, rfl, hbranch⟩

/-! ## Gathering -/

/-- The entries are the contents of the nodes, each once, and a branch where one of the nodes is. -/
structure Gathered (entries : List (Mnemonic × Bool)) (found : List Tree) : Prop where
  nodup : (entries.map Prod.fst).Nodup
  mem_keys : ∀ m, m ∈ entries.map Prod.fst ↔ m ∈ found.map Tree.content
  branch : ∀ m, entersBranch entries m = found.any fun t => t.content = m && !t.isLeaf

theorem gathered_enter (h : Gathered entries found) (t : Tree) :
    Gathered (enter t.content (!t.isLeaf) entries) (found ++ [t]) where
  nodup := nodup_keys_enter h.nodup
  mem_keys m := by
    rw [mem_keys_enter, h.mem_keys, List.map_append, List.mem_append, List.map_singleton,
      List.mem_singleton]
  branch m := by
    rw [entersBranch_enter, h.branch, List.any_append, List.any_cons, List.any_nil, Bool.or_false]

theorem gathered_foldl (h : Gathered entries found) (more : List Tree) :
    Gathered (more.foldl (fun entries t => enter t.content (!t.isLeaf) entries) entries)
      (found ++ more) := by
  -- The entries so far stand for the nodes in front of `more`, whatever these are.
  induction more generalizing entries found with
  | nil => rwa [List.append_nil]
  | cons t rest ih =>
    rw [List.append_cons]
    exact ih (gathered_enter h t)

theorem gathered_gather (found : List Tree) : Gathered (gather found) found := by
  have hnone : Gathered [] [] := ⟨List.nodup_nil, fun _ => Iff.rfl, fun _ => rfl⟩
  exact gathered_foldl hnone found

/-! ## What is offered -/

/-- The entries put in order are what `sortDistinct` makes of the contents: the order is strict, since
each content is there once. -/
theorem keys_mergeSort_gather (found : List Tree) :
    ((gather found).mergeSort fun a b => a.1.precedes b.1).map Prod.fst =
      Mnemonic.sortDistinct (found.map Tree.content) := by
  have h := gathered_gather found
  have hperm := ((gather found).mergeSort_perm fun a b => a.1.precedes b.1).map Prod.fst
  refine Mnemonic.eq_sortDistinct ?_ fun m => by rw [hperm.mem_iff, h.mem_keys]
  have hsorted := Mnemonic.pairwise_mergeSort_on Prod.fst (gather found)
  have hnodup := List.pairwise_map.1 (hperm.nodup_iff.2 h.nodup)
  exact List.pairwise_map.2 <| hsorted.imp₂ (fun _ _ => Mnemonic.compare_eq_lt_of_precedes) hnodup

/-- What is offered for the nodes: their contents in order, each once and with its mark of a branch. -/
theorem collect_eq (found : List Tree) :
    collect found = (Mnemonic.sortDistinct (found.map Tree.content)).map fun node =>
      .mnemonic node (found.any fun t => t.content = node && !t.isLeaf) := by
  have h := gathered_gather found
  rw [collect, ← keys_mergeSort_gather, List.map_map]
  refine List.map_congr_left fun e he => ?_
  rw [Function.comp_apply, ← h.branch, entersBranch_of_mem h.nodup (List.mem_mergeSort.1 he)]

theorem mem_collect {found : List Tree} {c : Candidate} :
    c ∈ collect found ↔ ∃ t ∈ found,
      c = .mnemonic t.content (found.any fun u => u.content = t.content && !u.isLeaf) := by
  rw [collect_eq, List.mem_map]
  constructor
  · rintro ⟨node, hnode, rfl⟩
    obtain ⟨t, ht, rfl⟩ := List.mem_map.1 (Mnemonic.mem_sortDistinct.1 hnode)
    exact ⟨t, ht, rfl⟩
  · rintro ⟨t, ht, rfl⟩
    exact ⟨t.content, Mnemonic.mem_sortDistinct.2 (List.mem_map_of_mem ht), rfl⟩

/-- The mark of a branch: one of the nodes with the content has children. -/
theorem any_branch_iff {found : List Tree} {m : Mnemonic} :
    (found.any fun u => u.content = m && !u.isLeaf) = true ↔
      ∃ u ∈ found, u.content = m ∧ u.children ≠ [] := by
  simp only [List.any_eq_true, Bool.and_eq_true, decide_eq_true_eq, Tree.isLeaf, Bool.not_eq_true',
    List.isEmpty_eq_false_iff, ne_eq]

@[simp] theorem collect_nil : collect [] = [] := by
  simp [collect, gather]

theorem filterMap_mnemonic?_collect (found : List Tree) :
    (collect found).filterMap Candidate.mnemonic? =
      Mnemonic.sortDistinct (found.map Tree.content) := by
  rw [collect_eq, List.filterMap_map]
  exact List.filterMap_some

/-! ## Both ways -/

/-- **Mnemonics in order, each once.** The order is linear, and what it calls equal is equal. Sorting
and then dropping repeats gives the strictly increasing list with the same members, of which there is
one: so the places of the members and their repeats do not matter, and doing it twice changes nothing.
Gathering the contents of nodes and then sorting gives the same list. -/
theorem distinct_in_order :
    (∀ a b : Mnemonic, compare a b = .eq ↔ a = b) ∧
    (∀ a b : Mnemonic, compare b a = (compare a b).swap) ∧
    (∀ a b c : Mnemonic, (compare a b).isLE = true → (compare b c).isLE = true →
      (compare a c).isLE = true) ∧
    (∀ ms ns : List Mnemonic, ns = Mnemonic.sortDistinct ms ↔
      ns.Pairwise (fun a b => compare a b = .lt) ∧ ∀ m, m ∈ ns ↔ m ∈ ms) ∧
    (∀ ms ns : List Mnemonic, (∀ m, m ∈ ns ↔ m ∈ ms) →
      Mnemonic.sortDistinct ns = Mnemonic.sortDistinct ms) ∧
    (∀ ms : List Mnemonic, Mnemonic.sortDistinct (Mnemonic.sortDistinct ms) = Mnemonic.sortDistinct ms) ∧
    ∀ found : List Tree, (collect found).map Candidate.mnemonic? =
      (Mnemonic.sortDistinct (found.map Tree.content)).map some := by
  refine ⟨fun a b => Std.LawfulEqOrd.compare_eq_iff_eq, fun a b => Std.OrientedOrd.eq_swap,
    fun a b c => Std.TransOrd.isLE_trans, fun ms ns => ⟨?_, fun h => Mnemonic.eq_sortDistinct h.1 h.2⟩,
    fun ms ns h => Mnemonic.sortDistinct_congr h,
    fun ms => Mnemonic.sortDistinct_congr fun m => Mnemonic.mem_sortDistinct, fun found => ?_⟩
  · rintro rfl
    exact ⟨Mnemonic.pairwise_sortDistinct ms, fun m => Mnemonic.mem_sortDistinct⟩
  · rw [collect_eq, List.map_map]
    rfl

/-- A mnemonic with a number, twice the same without, and another one. -/
def radios : List Mnemonic := [.ranged "RADio" 1 16, .plain "RADio", .plain "AM", .plain "RADio"]

/-- The one without a number stands first, and once. -/
theorem distinct_in_order_radios :
    Mnemonic.sortDistinct radios = [.plain "AM", .plain "RADio", .ranged "RADio" 1 16] ∧
    (∀ m, m ∈ radios.reverse ↔ m ∈ radios) ∧
    Mnemonic.sortDistinct radios.reverse = [.plain "AM", .plain "RADio", .ranged "RADio" 1 16] ∧
    (compare (Mnemonic.plain "AM") (.plain "RADio")).isLE = true ∧
    (compare (Mnemonic.plain "RADio") (.ranged "RADio" 1 16)).isLE = true ∧
    (compare (Mnemonic.plain "AM") (.ranged "RADio" 1 16)).isLE = true ∧
    (collect (radios.map Tree.leaf)).map Candidate.mnemonic? =
      [some (.plain "AM"), some (.plain "RADio"), some (.ranged "RADio" 1 16)] := by
  obtain ⟨-, -, htrans, hunique, hcongr, -, hcollect⟩ := distinct_in_order
  have hsorted : Mnemonic.sortDistinct radios =
      [.plain "AM", .plain "RADio", .ranged "RADio" 1 16] := by
    refine ((hunique radios _).2 ⟨by decide, fun m => ?_⟩).symm
    simp only [radios, List.mem_cons, List.not_mem_nil, or_false]
    grind
  have hmem : ∀ m, m ∈ radios.reverse ↔ m ∈ radios := fun m => List.mem_reverse
  have hlow : (compare (Mnemonic.plain "AM") (.plain "RADio")).isLE = true := by decide
  have hhigh : (compare (Mnemonic.plain "RADio") (.ranged "RADio" 1 16)).isLE = true := by decide
  refine ⟨hsorted, hmem, (hcongr radios _ hmem).trans hsorted, hlow, hhigh, htrans _ _ _ hlow hhigh, ?_⟩
  have hcontents : (radios.map Tree.leaf).map Tree.content = radios := rfl
  rw [hcollect, hcontents, hsorted]
  rfl

end Completion

end ScpiConsole
