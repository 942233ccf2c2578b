import Mathlib.Data.List.Perm.Basic
import ScpiConsole.Proofs.Completion.Numbers
/-!
# Nodes of one content

The order of nodes is that of their contents, and nodes of one content stay in the order in which they
came. So a sorted list falls apart into the nodes of each content.

* `kin` : the nodes of a content, in order
* `mergeSort_eq_flatMap_kin` : the sorted list, content by content
* `Akin` : lists of nodes in which each content has the same below it
-/

namespace ScpiConsole

namespace Tree

theorem precedes_trans (a b c : Tree) (hab : a.precedes b = true) (hbc : b.precedes c = true) :
    a.precedes c = true := Mnemonic.precedes_trans _ _ _ hab hbc

theorem precedes_total (a b : Tree) : (a.precedes b || b.precedes a) = true :=
  Mnemonic.precedes_total _ _

theorem precedes_of_content_eq {a b : Tree} (h : a.content = b.content) : a.precedes b = true := by
  rw [Tree.precedes, h]
  exact Std.ReflOrd.isLE_rfl

theorem pairwise_mergeSort (ts : List Tree) :
    (ts.mergeSort Tree.precedes).Pairwise fun a b => a.precedes b = true :=
  Mnemonic.pairwise_mergeSort_on Tree.content ts

end Tree

namespace Completion

/-- The nodes of a content, in the order of the list. -/
def kin (m : Mnemonic) (ts : List Tree) : List Tree := ts.filter (·.content = m)

@[simp] theorem kin_nil (m : Mnemonic) : kin m [] = [] := rfl

@[simp] theorem kin_append (m : Mnemonic) (ts us : List Tree) :
    kin m (ts ++ us) = kin m ts ++ kin m us := List.filter_append ..

theorem kin_cons_self (t : Tree) (ts : List Tree) : kin t.content (t :: ts) = t :: kin t.content ts :=
  List.filter_cons_of_pos (by simp)

theorem kin_cons_of_ne {t : Tree} {m : Mnemonic} (h : t.content ≠ m) (ts : List Tree) :
    kin m (t :: ts) = kin m ts := List.filter_cons_of_neg (by simpa using h)

theorem mem_kin {m : Mnemonic} {ts : List Tree} {t : Tree} : t ∈ kin m ts ↔ t ∈ ts ∧ t.content = m := by
  simp [kin]

theorem kin_eq_nil_iff {m : Mnemonic} {ts : List Tree} : kin m ts = [] ↔ ∀ t ∈ ts, t.content ≠ m := by
  simp [kin, List.filter_eq_nil_iff]

/-- What a segment chooses it chooses by content. -/
theorem kin_filter (p : Mnemonic → Bool) (m : Mnemonic) (ts : List Tree) :
    kin m (ts.filter fun t => p t.content) = if p m then kin m ts else [] := by
  rw [kin, kin, List.filter_filter]
  split
  · next hp =>
    refine List.filter_congr fun t _ => ?_
    by_cases ht : t.content = m
    · simp [ht, hp]
    · simp [ht]
  · next hp =>
    refine List.filter_eq_nil_iff.2 fun t _ => ?_
    by_cases ht : t.content = m
    · simp [ht, hp]
    · simp [ht]

/-! ## Sorted lists -/

theorem pairwise_kin (m : Mnemonic) (ts : List Tree) :
    (kin m ts).Pairwise fun a b => a.precedes b = true :=
  List.pairwise_of_forall_mem_list fun _ ha _ hb =>
    Tree.precedes_of_content_eq ((mem_kin.1 ha).2.trans (mem_kin.1 hb).2.symm)

theorem kin_mergeSort (m : Mnemonic) (ts : List Tree) :
    kin m (ts.mergeSort Tree.precedes) = kin m ts := by
  have hsub : (kin m ts).Sublist (ts.mergeSort Tree.precedes) :=
    List.sublist_mergeSort Tree.precedes_trans Tree.precedes_total (pairwise_kin m ts)
      List.filter_sublist
  have hkin : kin m (kin m ts) = kin m ts :=
    List.filter_eq_self.2 fun t ht => by simpa using (mem_kin.1 ht).2
  have hlength : (kin m (ts.mergeSort Tree.precedes)).length = (kin m ts).length :=
    ((List.mergeSort_perm ts Tree.precedes).filter _).length_eq
  have hsub : (kin m (kin m ts)).Sublist (kin m (ts.mergeSort Tree.precedes)) := hsub.filter _
  rw [hkin] at hsub
  exact (hsub.eq_of_length hlength.symm).symm

/-- A sorted list is determined by the nodes of each content. -/
theorem eq_of_kin_eq {ts us : List Tree} (ht : ts.Pairwise fun a b => a.precedes b = true)
    (hu : us.Pairwise fun a b => a.precedes b = true) (h : ∀ m, kin m ts = kin m us) : ts = us := by
  have hmem : ∀ t, t ∈ ts ↔ t ∈ us := fun t => by
    simpa [mem_kin] using (show t ∈ kin t.content ts ↔ t ∈ kin t.content us by rw [h])
  induction ts generalizing us with
  | nil => exact (List.eq_nil_iff_forall_not_mem.2 fun u hu => by simpa using (hmem u).2 hu).symm
  | cons t ts ih =>
    cases us with
    | nil => simpa using (hmem t).1 List.mem_cons_self
    | cons u us =>
      have hcontent : t.content = u.content := by
        refine Mnemonic.precedes_antisymm ?_ ?_
        · rcases List.mem_cons.1 ((hmem u).2 List.mem_cons_self) with rfl | hut
          · exact Std.ReflOrd.isLE_rfl
          · exact List.rel_of_pairwise_cons ht hut
        · rcases List.mem_cons.1 ((hmem t).1 List.mem_cons_self) with rfl | htu
          · exact Std.ReflOrd.isLE_rfl
          · exact List.rel_of_pairwise_cons hu htu
      have hhead := h t.content
      rw [kin_cons_self, hcontent, kin_cons_self] at hhead
      obtain ⟨rfl, -⟩ := List.cons.inj hhead
      have htail : ∀ m, kin m ts = kin m us := by
        intro m
        have hm := h m
        by_cases hc : t.content = m
        · subst hc
          rw [kin_cons_self, kin_cons_self] at hm
          exact (List.cons.inj hm).2
        · rwa [kin_cons_of_ne hc, kin_cons_of_ne hc] at hm
      rw [ih ht.of_cons hu.of_cons htail fun t => by
        simpa [mem_kin] using (show t ∈ kin t.content ts ↔ t ∈ kin t.content us by rw [htail])]

theorem kin_flatMap_kin {ms : List Mnemonic} (hms : ms.Nodup) (m : Mnemonic) (ts : List Tree) :
    kin m (ms.flatMap (kin · ts)) = if m ∈ ms then kin m ts else [] := by
  induction ms with
  | nil => rfl
  | cons n ms ih =>
    have hn : kin m (kin n ts) = if m = n then kin m ts else [] :=
      (kin_filter (fun c => decide (c = n)) m ts).trans (by simp)
    rw [List.flatMap_cons, kin_append, hn, ih (List.nodup_cons.1 hms).2]
    by_cases hmn : m = n
    · subst hmn
      simp [(List.nodup_cons.1 hms).1]
    · simp [hmn]

/-- The sorted list holds the nodes of one content after the other. -/
theorem mergeSort_eq_flatMap_kin (ts : List Tree) :
    ts.mergeSort Tree.precedes = (Mnemonic.sortDistinct (ts.map Tree.content)).flatMap (kin · ts) := by
  refine eq_of_kin_eq (Tree.pairwise_mergeSort ts) ?_ fun m => ?_
  · refine List.pairwise_flatMap.2 ⟨fun m _ => pairwise_kin m ts, ?_⟩
    refine (Mnemonic.pairwise_sortDistinct _).imp fun hmn a ha b hb => ?_
    rw [Tree.precedes, (mem_kin.1 ha).2, (mem_kin.1 hb).2, Mnemonic.precedes_iff, hmn]
    rfl
  · rw [kin_mergeSort, kin_flatMap_kin (Mnemonic.nodup_sortDistinct _)]
    split
    · rfl
    · next hm =>
      refine kin_eq_nil_iff.2 fun t ht hc => hm ?_
      rw [Mnemonic.mem_sortDistinct, ← hc]
      exact List.mem_map_of_mem ht

/-! ## Lists that agree content by content -/

/-- A relation of lists that may be checked part by part. -/
structure Joins (r : List Tree → List Tree → Prop) : Prop where
  refl : ∀ ts, r ts ts
  append : ∀ {ts us vs ws}, r ts us → r vs ws → r (ts ++ vs) (us ++ ws)

theorem joins_eq : Joins Eq where
  refl _ := rfl
  append := by rintro _ _ _ _ rfl rfl; rfl

theorem joins_perm : Joins List.Perm where
  refl := List.Perm.refl
  append := List.Perm.append

theorem Joins.flatMap {r : List Tree → List Tree → Prop} (hr : Joins r) {ms : List Mnemonic}
    {f g : Mnemonic → List Tree} (h : ∀ m ∈ ms, r (f m) (g m)) : r (ms.flatMap f) (ms.flatMap g) := by
  induction ms with
  | nil => exact hr.refl []
  | cons m ms ih =>
    rw [List.flatMap_cons, List.flatMap_cons]
    exact hr.append (h m List.mem_cons_self) (ih fun n hn => h n (List.mem_cons_of_mem _ hn))

/-- Each content is in both lists or in neither, and what is below its nodes agrees up to `r`. -/
def Akin (r : List Tree → List Tree → Prop) (ts us : List Tree) : Prop :=
  ∀ m, (kin m ts = [] ↔ kin m us = []) ∧
    r ((kin m ts).flatMap Tree.children) ((kin m us).flatMap Tree.children)

theorem Joins.onKin {r : List Tree → List Tree → Prop} (hr : Joins r) :
    Joins fun ts us => ∀ m, r (kin m ts) (kin m us) where
  refl ts m := hr.refl _
  append h k m := by
    rw [kin_append, kin_append]
    exact hr.append (h m) (k m)

theorem Joins.onChildren {r : List Tree → List Tree → Prop} (hr : Joins r) :
    Joins fun ts us => r (ts.flatMap Tree.children) (us.flatMap Tree.children) where
  refl _ := hr.refl _
  append h k := by
    rw [List.flatMap_append, List.flatMap_append]
    exact hr.append h k

theorem joins_getLast? : Joins fun ts us => ts.getLast? = us.getLast? where
  refl _ := rfl
  append h k := by rw [List.getLast?_append, List.getLast?_append, h, k]

theorem Joins.akin {r : List Tree → List Tree → Prop} (hr : Joins r) : Joins (Akin r) where
  refl ts m := ⟨Iff.rfl, hr.refl _⟩
  append h k m := by
    simp only [kin_append, List.append_eq_nil_iff, List.flatMap_append]
    exact ⟨and_congr (h m).1 (k m).1, hr.append (h m).2 (k m).2⟩

theorem akin_of_perm {ts us : List Tree} (h : ts.Perm us) : Akin List.Perm ts us := by
  intro m
  have hm : (kin m ts).Perm (kin m us) := h.filter _
  exact ⟨⟨fun hn => List.perm_nil.1 (hn ▸ hm.symm), fun hn => List.perm_nil.1 (hn ▸ hm)⟩,
    hm.flatMap_right _⟩

theorem exists_content_iff {m : Mnemonic} {ts : List Tree} :
    (∃ t ∈ ts, t.content = m) ↔ kin m ts ≠ [] := by
  rw [Ne, kin_eq_nil_iff]
  push Not
  rfl

theorem exists_branch_iff {m : Mnemonic} {ts : List Tree} :
    (∃ t ∈ ts, t.content = m ∧ t.children ≠ []) ↔ (kin m ts).flatMap Tree.children ≠ [] := by
  rw [Ne, List.flatMap_eq_nil_iff]
  push Not
  simp only [mem_kin, and_assoc]

theorem sortDistinct_contents_congr {ts us : List Tree} (h : ∀ m, kin m ts = [] ↔ kin m us = []) :
    Mnemonic.sortDistinct (ts.map Tree.content) = Mnemonic.sortDistinct (us.map Tree.content) := by
  refine Mnemonic.sortDistinct_congr fun m => ?_
  rw [List.mem_map, List.mem_map, exists_content_iff, exists_content_iff, Ne, Ne, h]

theorem kin_filter_eq_nil_congr {ts us : List Tree} {m : Mnemonic} (h : kin m ts = [] ↔ kin m us = [])
    (p : Mnemonic → Bool) :
    kin m (ts.filter fun t => p t.content) = [] ↔ kin m (us.filter fun t => p t.content) = [] := by
  rw [kin_filter, kin_filter]
  split
  · exact h
  · exact Iff.rfl

/-! ## The walk -/

/-- What a segment chooses it chooses, and sorts, content by content. -/
theorem Joins.mergeSort_filter {r : List Tree → List Tree → Prop} (hr : Joins r) {ts us : List Tree}
    (p : Mnemonic → Bool)
    (h : ∀ m, (kin m ts = [] ↔ kin m us = []) ∧ r (kin m ts) (kin m us)) :
    r ((ts.filter fun t => p t.content).mergeSort Tree.precedes)
      ((us.filter fun t => p t.content).mergeSort Tree.precedes) := by
  rw [mergeSort_eq_flatMap_kin, mergeSort_eq_flatMap_kin,
    sortDistinct_contents_congr fun m => kin_filter_eq_nil_congr (h m).1 p]
  refine hr.flatMap fun m _ => ?_
  rw [kin_filter p, kin_filter p]
  split
  · exact (h m).2
  · exact hr.refl _

/-- Without a number a segment leads from lists that agree to lists that agree. -/
theorem Joins.step {r : List Tree → List Tree → Prop} (hr : Joins r) {ts us : List Tree}
    {segment : List Char} (hs : Segment.hasNumber segment = false)
    (h : Akin r (ts.flatMap Tree.children) (us.flatMap Tree.children)) :
    r ((step ts segment).flatMap Tree.children) ((step us segment).flatMap Tree.children) := by
  simp only [Completion.step, hs, Bool.false_eq_true, if_false]
  exact hr.onChildren.mergeSort_filter (fun c => c.selects segment) h

/-- With a number a segment sees the last node of each content only. -/
theorem step_congr_of_hasNumber {ts us : List Tree} {segment : List Char}
    (hs : Segment.hasNumber segment = true)
    (h : ∀ m, (kin m (ts.flatMap Tree.children)).getLast? =
      (kin m (us.flatMap Tree.children)).getLast?) : step ts segment = step us segment := by
  have hnil : ∀ m, kin m (ts.flatMap Tree.children) = [] ↔ kin m (us.flatMap Tree.children) = [] :=
    fun m => by rw [← List.getLast?_eq_none_iff, h, List.getLast?_eq_none_iff]
  have hlast := joins_getLast?.mergeSort_filter (fun c => c.selects segment) fun m => ⟨hnil m, h m⟩
  simp only [Completion.step, hs, if_true, hlast]

theorem foldl_step_congr {ts us : List Tree}
    (h : ts.flatMap Tree.children = us.flatMap Tree.children) (segments : List (List Char)) :
    (segments.foldl step ts).flatMap Tree.children = (segments.foldl step us).flatMap Tree.children := by
  cases segments with
  | nil => exact h
  | cons segment rest => simp only [List.foldl_cons, Completion.step, h]

/-- Segments without numbers lead from the same nodes in any order to the same nodes in some order. -/
theorem akin_foldl_step {ts us : List Tree} {segments : List (List Char)}
    (hs : ∀ segment ∈ segments, Segment.hasNumber segment = false)
    (h : Akin List.Perm (ts.flatMap Tree.children) (us.flatMap Tree.children)) :
    Akin List.Perm ((segments.foldl step ts).flatMap Tree.children)
      ((segments.foldl step us).flatMap Tree.children) := by
  induction segments generalizing ts us with
  | nil => exact h
  | cons segment rest ih =>
    refine ih (fun s hr => hs s (List.mem_cons_of_mem _ hr)) (akin_of_perm ?_)
    exact joins_perm.step (hs segment List.mem_cons_self) h

/-! ## What is offered -/

/-- The same contents occur in both lists, and the same of them with something below. -/
def OfferedAlike (ts us : List Tree) : Prop :=
  ∀ m, ((∃ t ∈ ts, t.content = m) ↔ ∃ u ∈ us, u.content = m) ∧
    ((∃ t ∈ ts, t.content = m ∧ t.children ≠ []) ↔ ∃ u ∈ us, u.content = m ∧ u.children ≠ [])

theorem Akin.offeredAlike {ts us : List Tree} (h : Akin List.Perm ts us) : OfferedAlike ts us := by
  intro m
  rw [exists_content_iff, exists_content_iff, exists_branch_iff, exists_branch_iff]
  refine ⟨not_congr (h m).1, not_congr ?_⟩
  rw [← List.length_eq_zero_iff, (h m).2.length_eq, List.length_eq_zero_iff]

theorem collect_congr {ts us : List Tree} (h : OfferedAlike ts us) : collect ts = collect us := by
  have hcontents : Mnemonic.sortDistinct (ts.map Tree.content) =
      Mnemonic.sortDistinct (us.map Tree.content) :=
    Mnemonic.sortDistinct_congr fun m => by rw [List.mem_map, List.mem_map, (h m).1]
  have hbranch : ∀ m, (ts.any fun t => t.content = m && !t.isLeaf) =
      us.any fun t => t.content = m && !t.isLeaf := by
    intro m
    rw [Bool.eq_iff_iff, any_branch_iff, any_branch_iff, (h m).2]
  simp only [collect_eq, hcontents, hbranch]

theorem OfferedAlike.filter {ts us : List Tree} (h : OfferedAlike ts us) (p : Mnemonic → Bool) :
    OfferedAlike (ts.filter fun t => p t.content) (us.filter fun t => p t.content) := by
  intro m
  have hfilter : ∀ (q : Tree → Prop) (vs : List Tree),
      (∃ t ∈ vs.filter fun t => p t.content, t.content = m ∧ q t) ↔
        p m = true ∧ ∃ t ∈ vs, t.content = m ∧ q t := by
    intro q vs
    simp only [List.mem_filter]
    constructor
    · rintro ⟨t, ⟨ht, hp⟩, rfl, hq⟩
      exact ⟨hp, t, ht, rfl, hq⟩
    · rintro ⟨hp, t, ht, rfl, hq⟩
      exact ⟨t, ⟨ht, hp⟩, rfl, hq⟩
  have hcontent : ∀ vs : List Tree, (∃ t ∈ vs.filter fun t => p t.content, t.content = m) ↔
      p m = true ∧ ∃ t ∈ vs, t.content = m := fun vs => by simpa using hfilter (fun _ => True) vs
  rw [hcontent, hcontent, hfilter, hfilter, (h m).1, (h m).2]
  exact ⟨Iff.rfl, Iff.rfl⟩

theorem numbers_congr {ts us : List Tree}
    (h : OfferedAlike (ts.flatMap Tree.children) (us.flatMap Tree.children)) (inProgress : List Char)
    (query : Bool) : numbers ts inProgress query = numbers us inProgress query := by
  have hlast : ∀ name, lastNamed ts name = lastNamed us name := fun name =>
    Mnemonic.getLast?_mergeSort_congr fun m => by rw [mem_named, mem_named, (h m).1]
  have hname := Text.endsOutside_dropEndWhile Text.isDigit inProgress
  have hdigits := Text.forall_mem_takeEndWhile Text.isDigit inProgress
  rw [← Text.dropEndWhile_append_takeEndWhile Text.isDigit inProgress, numbers_eq ts hname hdigits,
    numbers_eq us hname hdigits, hlast]

/-- Two grammars offer the same for a line if the walk ends in lists that look the same. -/
theorem pathCandidates_congr {root root' : Tree} {text : List Char}
    (h : OfferedAlike ((reached root (Path.ofText text).completed).flatMap Tree.children)
      ((reached root' (Path.ofText text).completed).flatMap Tree.children)) (sticky : Sticky) :
    pathCandidates root text sticky = pathCandidates root' text sticky := by
  simp only [pathCandidates_eq, continuations, numbers_congr h]
  rw [collect_congr (h.filter fun m => Text.startsWithText m.text.toList (Path.ofText text).inProgress)]

end Completion

end ScpiConsole
