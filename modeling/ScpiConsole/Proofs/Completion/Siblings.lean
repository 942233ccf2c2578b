import Mathlib.Data.List.Forall2
import ScpiConsole.Proofs.Completion.Kin
/-!
# Siblings of one content

A server may give a branch twice, with other commands below it each time. Completion then takes the two
for one, with the commands of both below it, except behind a number: a number keeps the last node only.

* `Tree.Altered` : two trees that differ in the children of one node
* `offeredAlike_of_akin`, `reached_eq_of_getLast?_kin` : the walks through two such trees
* `candidates_merged_siblings` : where equal siblings may be merged, and where the first is lost
-/

namespace ScpiConsole

namespace Tree

/-- The second tree is the first with the children `cs'` in place of `cs` at one node, `depth` levels
down. -/
inductive Altered (cs cs' : List Tree) : Nat → Tree → Tree → Prop where
  | here (content : Mnemonic) : Altered cs cs' 0 ⟨content, cs⟩ ⟨content, cs'⟩
  | deeper {depth : Nat} {t u : Tree} (content : Mnemonic) (before after : List Tree)
      (h : Altered cs cs' depth t u) :
      Altered cs cs' (depth + 1) ⟨content, before ++ t :: after⟩ ⟨content, before ++ u :: after⟩

/-- Two siblings put together. -/
def together (a b : Tree) : Tree := ⟨a.content, a.children ++ b.children⟩

/-- The second tree is the first, or the first altered below. -/
def AlteredOrEq (cs cs' : List Tree) (depth : Nat) (t u : Tree) : Prop :=
  t = u ∨ Altered cs cs' depth t u

section

variable {cs cs' : List Tree} {depth : Nat} {t u : Tree}

theorem AlteredOrEq.content_eq (h : AlteredOrEq cs cs' depth t u) : t.content = u.content := by
  rcases h with rfl | h
  · rfl
  · cases h <;> rfl

theorem AlteredOrEq.children_eq_nil_iff (hcs : cs ≠ []) (hcs' : cs' ≠ [])
    (h : AlteredOrEq cs cs' depth t u) : t.children = [] ↔ u.children = [] := by
  rcases h with rfl | h
  · rfl
  · cases h with
    | here content => simp [hcs, hcs']
    | deeper content before after h => simp

theorem AlteredOrEq.forall₂_children (h : AlteredOrEq cs cs' (depth + 1) t u) :
    List.Forall₂ (AlteredOrEq cs cs' depth) t.children u.children := by
  have hrefl : ∀ ts : List Tree, List.Forall₂ (AlteredOrEq cs cs' depth) ts ts :=
    fun ts => List.forall₂_same.2 fun _ _ => Or.inl rfl
  rcases h with rfl | h
  · exact hrefl _
  · cases h with
    | deeper content before after h => exact List.rel_append (hrefl before) (.cons (Or.inr h) (hrefl after))

end

end Tree

namespace Completion

open ScpiConsole.Tree (Altered AlteredOrEq)

/-! ## The walk through an altered tree -/

theorem forall₂_mergeSort {r : Tree → Tree → Prop} (hr : ∀ t u, r t u → t.content = u.content)
    {ts us : List Tree} (h : List.Forall₂ r ts us) :
    List.Forall₂ r (ts.mergeSort Tree.precedes) (us.mergeSort Tree.precedes) := by
  -- both are sorted along with the list of pairs
  obtain ⟨hlength, hpairs⟩ := List.forall₂_iff_zip.1 h
  have hfst : (ts.zip us).map Prod.fst = ts := List.map_fst_zip (Nat.le_of_eq hlength)
  have hsnd : (ts.zip us).map Prod.snd = us := List.map_snd_zip (Nat.le_of_eq hlength.symm)
  let le : Tree × Tree → Tree × Tree → Bool := fun p q => p.1.precedes q.1
  have hts : ((ts.zip us).mergeSort le).map Prod.fst = ts.mergeSort Tree.precedes := by
    conv_rhs => rw [← hfst]
    exact List.map_mergeSort fun _ _ _ _ => rfl
  have hus : ((ts.zip us).mergeSort le).map Prod.snd = us.mergeSort Tree.precedes := by
    conv_rhs => rw [← hsnd]
    refine List.map_mergeSort fun p hp q hq => ?_
    simp only [le, Tree.precedes, hr _ _ (hpairs hp), hr _ _ (hpairs hq)]
  rw [← hts, ← hus, List.forall₂_map_left_iff, List.forall₂_map_right_iff, List.forall₂_same]
  exact fun p hp => hpairs (List.mem_mergeSort.1 hp)

theorem forall₂_getLast? {r : Tree → Tree → Prop} {ts us : List Tree} (h : List.Forall₂ r ts us) :
    List.Forall₂ r ts.getLast?.toList us.getLast?.toList := by
  rw [← List.head?_reverse, ← List.head?_reverse]
  generalize hts : ts.reverse = xs
  generalize hus : us.reverse = ys
  have hrev : List.Forall₂ r xs ys := hts ▸ hus ▸ List.rel_reverse h
  cases hrev with
  | nil => exact .nil
  | cons hhead _ => exact .cons hhead .nil

section

variable {cs cs' : List Tree} {depth : Nat} {ts us : List Tree}

theorem forall₂_flatMap_children (h : List.Forall₂ (AlteredOrEq cs cs' (depth + 1)) ts us) :
    List.Forall₂ (AlteredOrEq cs cs' depth) (ts.flatMap Tree.children) (us.flatMap Tree.children) :=
  List.rel_flatMap h fun _ _ htu => htu.forall₂_children

theorem forall₂_step (h : List.Forall₂ (AlteredOrEq cs cs' (depth + 1)) ts us)
    (segment : List Char) :
    List.Forall₂ (AlteredOrEq cs cs' depth) (step ts segment) (step us segment) := by
  have hchosen : List.Forall₂ (AlteredOrEq cs cs' depth)
      (((ts.flatMap Tree.children).filter (·.content.selects segment)).mergeSort Tree.precedes)
      (((us.flatMap Tree.children).filter (·.content.selects segment)).mergeSort Tree.precedes) := by
    refine forall₂_mergeSort (fun _ _ => AlteredOrEq.content_eq) ?_
    refine List.rel_filter (fun _ _ htu => ?_) (forall₂_flatMap_children h)
    simp only [AlteredOrEq.content_eq htu]
  simp only [step]
  split
  · exact forall₂_getLast? hchosen
  · exact hchosen

theorem forall₂_foldl_step {segments : List (List Char)}
    (h : List.Forall₂ (AlteredOrEq cs cs' (depth + segments.length)) ts us) :
    List.Forall₂ (AlteredOrEq cs cs' depth) (segments.foldl step ts) (segments.foldl step us) := by
  induction segments generalizing ts us with
  | nil => exact h
  | cons segment rest ih => exact ih (forall₂_step h segment)

/-- Where the trees differ the lists of children are made of equal parts and of `cs` against `cs'`. -/
theorem Joins.flatMap_children {r : List Tree → List Tree → Prop} (hr : Joins r) (hcs : r cs cs')
    (h : List.Forall₂ (AlteredOrEq cs cs' 0) ts us) :
    r (ts.flatMap Tree.children) (us.flatMap Tree.children) := by
  induction h with
  | nil => exact hr.refl []
  | cons htu _ ih =>
    refine hr.append ?_ ih
    rcases htu with rfl | htu
    · exact hr.refl _
    · cases htu
      exact hcs

theorem offeredAlike_of_forall₂ (hcs : cs ≠ []) (hcs' : cs' ≠ [])
    (h : List.Forall₂ (AlteredOrEq cs cs' depth) ts us) : OfferedAlike ts us := by
  induction h with
  | nil => exact fun m => ⟨Iff.rfl, Iff.rfl⟩
  | cons htu _ ih =>
    intro m
    simp only [List.exists_mem_cons_iff, htu.content_eq, Ne, htu.children_eq_nil_iff hcs hcs']
    exact ⟨or_congr Iff.rfl (ih m).1, or_congr Iff.rfl (ih m).2⟩

end

section

variable {cs cs' : List Tree} {depth : Nat} {root root' : Tree} {segments : List (List Char)}

theorem forall₂_reached (h : Altered cs cs' depth root root') (hlength : segments.length ≤ depth) :
    List.Forall₂ (AlteredOrEq cs cs' (depth - segments.length)) (reached root segments)
      (reached root' segments) := by
  refine forall₂_foldl_step (.cons (Or.inr ?_) .nil)
  rwa [Nat.sub_add_cancel hlength]

/-- Above the altered node nothing is offered differently. -/
theorem offeredAlike_of_length_le (hcs : cs ≠ []) (hcs' : cs' ≠ [])
    (hakin : Akin List.Perm cs cs') (h : Altered cs cs' depth root root')
    (hlength : segments.length ≤ depth) :
    OfferedAlike ((reached root segments).flatMap Tree.children)
      ((reached root' segments).flatMap Tree.children) := by
  have hreached := forall₂_reached h hlength
  cases hdepth : depth - segments.length with
  | zero =>
    rw [hdepth] at hreached
    exact (joins_perm.akin.flatMap_children hakin hreached).offeredAlike
  | succ d =>
    rw [hdepth] at hreached
    exact offeredAlike_of_forall₂ hcs hcs' (forall₂_flatMap_children hreached)

theorem exists_append_cons {segment : List Char} (h : segments[depth]? = some segment) :
    ∃ before rest, segments = before ++ segment :: rest ∧ before.length = depth ∧
      segments.take (depth + 1) = before ++ [segment] ∧ segments.drop (depth + 1) = rest := by
  obtain ⟨hlength, rfl⟩ := List.getElem?_eq_some_iff.1 h
  exact ⟨segments.take depth, segments.drop (depth + 1), by simp, by simp; omega, by simp, rfl⟩

theorem reached_append_cons (root : Tree) (before : List (List Char)) (segment : List Char)
    (rest : List (List Char)) : reached root (before ++ segment :: rest) =
      rest.foldl step (step (reached root before) segment) := by
  simp [reached, List.foldl_append]

theorem forall₂_reached_of_length_eq (h : Altered cs cs' depth root root')
    (hlength : segments.length = depth) :
    List.Forall₂ (AlteredOrEq cs cs' 0) (reached root segments) (reached root' segments) := by
  have hreached := forall₂_reached h (Nat.le_of_eq hlength)
  rwa [hlength, Nat.sub_self] at hreached

/-- Children that agree content by content, in order, are not told apart by a segment without a
number. -/
theorem offeredAlike_of_akin (hakin : Akin Eq cs cs') (h : Altered cs cs' depth root root')
    {segment : List Char} (hsegment : segments[depth]? = some segment)
    (hs : Segment.hasNumber segment = false) :
    OfferedAlike ((reached root segments).flatMap Tree.children)
      ((reached root' segments).flatMap Tree.children) := by
  obtain ⟨before, rest, rfl, hbefore, -⟩ := exists_append_cons hsegment
  have hlevel : Akin Eq ((reached root before).flatMap Tree.children)
      ((reached root' before).flatMap Tree.children) :=
    joins_eq.akin.flatMap_children hakin (forall₂_reached_of_length_eq h hbefore)
  rw [reached_append_cons, reached_append_cons, foldl_step_congr (joins_eq.step hs hlevel)]
  exact fun m => ⟨Iff.rfl, Iff.rfl⟩

/-- In any order they are not told apart as long as no segment below has a number either. -/
theorem offeredAlike_of_akin_perm (hakin : Akin List.Perm cs cs') (h : Altered cs cs' depth root root')
    {segment : List Char} (hsegment : segments[depth]? = some segment)
    (hs : Segment.hasNumber segment = false)
    (hbelow : ∀ s ∈ segments.drop (depth + 1), Segment.hasNumber s = false) :
    OfferedAlike ((reached root segments).flatMap Tree.children)
      ((reached root' segments).flatMap Tree.children) := by
  obtain ⟨before, rest, rfl, hbefore, -, hdrop⟩ := exists_append_cons hsegment
  have hlevel : Akin List.Perm ((reached root before).flatMap Tree.children)
      ((reached root' before).flatMap Tree.children) :=
    joins_perm.akin.flatMap_children hakin (forall₂_reached_of_length_eq h hbefore)
  rw [reached_append_cons, reached_append_cons]
  exact (akin_foldl_step (hdrop ▸ hbelow) (akin_of_perm (joins_perm.step hs hlevel))).offeredAlike

/-- Children of which the last of each content are the same are not told apart by a number. -/
theorem reached_eq_of_getLast?_kin (hcs : ∀ m, (kin m cs).getLast? = (kin m cs').getLast?)
    (h : Altered cs cs' depth root root') {segment : List Char}
    (hsegment : segments[depth]? = some segment) (hs : Segment.hasNumber segment = true) :
    reached root segments = reached root' segments := by
  obtain ⟨before, rest, rfl, hbefore, -⟩ := exists_append_cons hsegment
  rw [reached_append_cons, reached_append_cons, step_congr_of_hasNumber hs
    (joins_getLast?.onKin.flatMap_children hcs (forall₂_reached_of_length_eq h hbefore))]

/-! ## Lists that differ by one node -/

/-- Where the second list differs it has other nodes of one content instead of `b`, and these are the
last of their content only if `b` was. -/
structure AlikeBut (b : Tree) (ts us : List Tree) : Prop where
  same : b ∉ ts → ts = us
  others : ∀ m, m ≠ b.content → kin m ts = kin m us
  nil : kin b.content ts = [] ↔ kin b.content us = []
  last : (kin b.content ts).getLast? = (kin b.content us).getLast? ∨
    (kin b.content ts).getLast? = some b

theorem joins_getLast?_or (b : Tree) :
    Joins fun ts us => ts.getLast? = us.getLast? ∨ ts.getLast? = some b where
  refl _ := .inl rfl
  append h k := by
    rw [List.getLast?_append, List.getLast?_append]
    rcases k with k | k
    · rcases h with h | h
      · exact .inl (by rw [h, k])
      · rw [h, k]
        generalize List.getLast? _ = last
        cases last with
        | none => exact .inr rfl
        | some t => exact .inl rfl
    · exact .inr (by rw [k]; rfl)

theorem joins_alikeBut (b : Tree) : Joins (AlikeBut b) where
  refl ts := ⟨fun _ => rfl, fun _ _ => rfl, Iff.rfl, .inl rfl⟩
  append h k :=
    { same := fun hb => by
        rw [List.mem_append, not_or] at hb
        rw [h.same hb.1, k.same hb.2]
      others := fun m hm => by rw [kin_append, kin_append, h.others m hm, k.others m hm]
      nil := by
        rw [kin_append, kin_append, List.append_eq_nil_iff, List.append_eq_nil_iff, h.nil, k.nil]
      last := by
        rw [kin_append, kin_append]
        exact (joins_getLast?_or b).append h.last k.last }

/-- A segment that does not lead to the node leads to the same nodes in both lists. -/
theorem AlikeBut.step_eq {b : Tree} {segment : List Char}
    (h : AlikeBut b (ts.flatMap Tree.children) (us.flatMap Tree.children))
    (hb : b ∉ step ts segment) : step ts segment = step us segment := by
  by_cases hchosen : b.content.selects segment = true
  · cases hs : Segment.hasNumber segment with
    | false =>
      have hmem : b ∉ ts.flatMap Tree.children := fun hmem => hb ((mem_step_iff hs).2 ⟨hmem, hchosen⟩)
      simp only [step, h.same hmem]
    | true =>
      have hkin : ∀ m, (kin m (ts.flatMap Tree.children) = [] ↔ kin m (us.flatMap Tree.children) = []) ∧
          ((kin m (ts.flatMap Tree.children)).getLast? = (kin m (us.flatMap Tree.children)).getLast? ∨
            (kin m (ts.flatMap Tree.children)).getLast? = some b) := by
        intro m
        by_cases hm : m = b.content
        · subst hm
          exact ⟨h.nil, h.last⟩
        · exact ⟨by rw [h.others m hm], .inl (by rw [h.others m hm])⟩
      have hlast := (joins_getLast?_or b).mergeSort_filter (fun c => c.selects segment) hkin
      simp only [step, hs, if_true] at hb ⊢
      rcases hlast with hlast | hlast
      · rw [hlast]
      · rw [hlast] at hb
        exact absurd (List.mem_singleton_self b) hb
  · -- What is chosen has other contents.
    have hfilter : ((ts.flatMap Tree.children).filter (·.content.selects segment)).mergeSort Tree.precedes =
        ((us.flatMap Tree.children).filter (·.content.selects segment)).mergeSort Tree.precedes := by
      refine eq_of_kin_eq (Tree.pairwise_mergeSort _) (Tree.pairwise_mergeSort _) fun m => ?_
      rw [kin_mergeSort, kin_mergeSort, kin_filter fun c => c.selects segment,
        kin_filter fun c => c.selects segment]
      by_cases hm : m = b.content
      · rw [hm, if_neg hchosen, if_neg hchosen]
      · rw [h.others m hm]
    simp only [step, hfilter]

theorem reached_eq_of_not_mem {b : Tree} (hcs : AlikeBut b cs cs') (h : Altered cs cs' depth root root')
    {segment : List Char} (hsegment : segments[depth]? = some segment)
    (hb : b ∉ reached root (segments.take (depth + 1))) :
    reached root segments = reached root' segments := by
  obtain ⟨before, rest, rfl, hbefore, htake, -⟩ := exists_append_cons hsegment
  rw [htake, reached_append] at hb
  have hlevel := (joins_alikeBut b).flatMap_children hcs (forall₂_reached_of_length_eq h hbefore)
  rw [reached_append_cons, reached_append_cons, hlevel.step_eq hb]

end

/-! ## Two siblings of one content -/

section

variable {before between after merged : List Tree} {a b : Tree}

/-- The one node for both stands in the place of either. -/
def Merged (before between after : List Tree) (a b : Tree) (merged : List Tree) : Prop :=
  merged = before ++ a.together b :: (between ++ after) ∨
    merged = before ++ (between ++ a.together b :: after)

theorem flatMap_children_kin_cons (m : Mnemonic) (t : Tree) (ts : List Tree) :
    (kin m (t :: ts)).flatMap Tree.children =
      (if t.content = m then t.children else []) ++ (kin m ts).flatMap Tree.children := by
  by_cases h : t.content = m
  · subst h
    simp [kin_cons_self]
  · simp [kin_cons_of_ne h, h]

theorem kin_cons_eq_nil_iff {m : Mnemonic} {t : Tree} {ts : List Tree} :
    kin m (t :: ts) = [] ↔ t.content ≠ m ∧ kin m ts = [] := by
  simp [kin_eq_nil_iff]

theorem kin_merged_eq_nil_iff (hab : a.content = b.content)
    (hmerged : Merged before between after a b merged) (m : Mnemonic) :
    kin m (before ++ a :: (between ++ b :: after)) = [] ↔ kin m merged = [] := by
  rcases hmerged with rfl | rfl <;>
  · simp only [kin_append, List.append_eq_nil_iff, kin_cons_eq_nil_iff, Tree.together, hab]
    tauto

theorem akin_merged_perm (hab : a.content = b.content)
    (hmerged : Merged before between after a b merged) :
    Akin List.Perm (before ++ a :: (between ++ b :: after)) merged := by
  refine fun m => ⟨kin_merged_eq_nil_iff hab hmerged m, ?_⟩
  by_cases hm : b.content = m
  · rcases hmerged with rfl | rfl
    · simp only [kin_append, List.flatMap_append, flatMap_children_kin_cons, hab, hm, if_true,
        Tree.together, List.append_assoc]
      refine .append_left _ (.append_left _ ?_)
      exact List.perm_append_comm_assoc _ _ _
    · simp only [kin_append, List.flatMap_append, flatMap_children_kin_cons, hab, hm, if_true,
        Tree.together, List.append_assoc]
      refine .append_left _ ?_
      exact List.perm_append_comm_assoc _ _ _
  · rcases hmerged with rfl | rfl <;>
      simp [List.flatMap_append, flatMap_children_kin_cons, hab, hm, Tree.together]

theorem akin_merged (hab : a.content = b.content) (hbetween : ∀ t ∈ between, t.content ≠ a.content)
    (hmerged : Merged before between after a b merged) :
    Akin Eq (before ++ a :: (between ++ b :: after)) merged := by
  refine fun m => ⟨kin_merged_eq_nil_iff hab hmerged m, ?_⟩
  by_cases hm : b.content = m
  · have hnone : kin m between = [] := kin_eq_nil_iff.2 fun t ht => hm ▸ hab ▸ hbetween t ht
    rcases hmerged with rfl | rfl <;>
      simp [List.flatMap_append, flatMap_children_kin_cons, hab, hm, hnone, Tree.together]
  · rcases hmerged with rfl | rfl <;>
      simp [List.flatMap_append, flatMap_children_kin_cons, hab, hm, Tree.together]

/-- The last node of each content stays when the first of two siblings goes. -/
theorem getLast?_kin_of_content_eq (hab : a.content = b.content) (m : Mnemonic) :
    (kin m (before ++ a :: (between ++ b :: after))).getLast? =
      (kin m (before ++ (between ++ b :: after))).getLast? := by
  by_cases hm : b.content = m
  · subst hm
    have ha : kin b.content (a :: (between ++ b :: after)) = a :: kin b.content (between ++ b :: after) :=
      hab ▸ kin_cons_self a _
    simp [ha, kin_cons_self, List.getLast?_append, List.getLast?_cons]
  · have ha : a.content ≠ m := fun h => hm (hab ▸ h)
    simp only [kin_append, kin_cons_of_ne ha]

/-- Only the second of the two and the node for both tell the lists apart. -/
theorem alikeBut_merged (hab : a.content = b.content) (hmerged : Merged before between after a b merged) :
    AlikeBut b (before ++ a :: (between ++ b :: after)) merged where
  same hb := absurd (by simp) hb
  others m hm := by
    have ha : a.content ≠ m := fun h => hm (h.symm.trans hab)
    have hboth : (a.together b).content ≠ m := ha
    rcases hmerged with rfl | rfl <;>
      simp only [kin_append, kin_cons_of_ne ha, kin_cons_of_ne hm.symm, kin_cons_of_ne hboth]
  nil := kin_merged_eq_nil_iff hab hmerged _
  last := by
    have hsiblings : before ++ a :: (between ++ b :: after) = (before ++ a :: between) ++ b :: after := by
      simp
    rw [hsiblings]
    by_cases hafter : kin b.content after = []
    · right
      rw [kin_append, kin_cons_self, hafter, List.getLast?_concat]
    · -- The last of that content stands behind both.
      have hlast : ∀ (front : List Tree) (t : Tree),
          (kin b.content (front ++ t :: after)).getLast? = (kin b.content after).getLast? := by
        intro front t
        rw [List.append_cons, kin_append, List.getLast?_append_of_ne_nil _ hafter]
      left
      rcases hmerged with rfl | rfl
      · rw [hlast, List.append_cons, ← List.append_assoc, kin_append,
          List.getLast?_append_of_ne_nil _ hafter]
      · rw [hlast, ← List.append_assoc, hlast]

end

/-- Only lines that are completed along the paths depend on them. -/
theorem candidates_congr_paths {g : Grammar} {root : Tree} {text : String} {browsing : Bool}
    {sticky : Sticky}
    (h : browsing = false → Completable text.toList →
      OfferedAlike ((reached g.paths (Path.ofText text.toList).completed).flatMap Tree.children)
        ((reached root (Path.ofText text.toList).completed).flatMap Tree.children)) :
    candidates (some { g with paths := root }) text browsing sticky =
      candidates (some g) text browsing sticky := by
  simp only [candidates]
  split
  · rfl
  next hopen =>
    split
    · rfl
    next hhead =>
      simp only [Bool.or_eq_true, not_or, beq_iff_eq, Bool.not_eq_true] at hopen hhead
      rw [pathCandidates_congr (h hopen.1.1 ⟨hhead, hopen.1.2, hopen.2⟩) sticky]

/-- **Merging siblings of one content.** Of two siblings with one content, the one node that has the
children of both may take the place, and nothing is offered differently, unless the completed segment
at their level leads to the second of the two and ends in a digit. If it leads there without a digit,
completed segments behind it may end in one as long as no third of the same content stands between the
two. If the segment at their level ends in a digit, the first of the two counts for nothing, with all
that is below it. -/
theorem candidates_merged_siblings (g : Grammar) {before between after : List Tree} {a b : Tree}
    (hab : a.content = b.content) (text : String) (browsing : Bool) (sticky : Sticky) (depth : Nat) :
    let siblings := before ++ a :: (between ++ b :: after)
    let completed := (Path.ofText text.toList).completed
    (∀ merged root, Merged before between after a b merged →
      Altered siblings merged depth g.paths root →
      (∀ segment, browsing = false → Completable text.toList → completed[depth]? = some segment →
        b ∈ reached g.paths (completed.take (depth + 1)) →
        Segment.hasNumber segment = false ∧
          ((∀ t ∈ between, t.content ≠ a.content) ∨
            ∀ s ∈ completed.drop (depth + 1), Segment.hasNumber s = false)) →
      candidates (some { g with paths := root }) text browsing sticky =
        candidates (some g) text browsing sticky) ∧
    ∀ root, Altered siblings (before ++ (between ++ b :: after)) depth g.paths root →
      (∃ segment, completed[depth]? = some segment ∧ Segment.hasNumber segment = true) →
      candidates (some { g with paths := root }) text browsing sticky =
        candidates (some g) text browsing sticky := by
  intro siblings completed
  have hsiblings : siblings ≠ [] := by simp [siblings]
  have hsame : ∀ root, reached g.paths completed = reached root completed →
      OfferedAlike ((reached g.paths completed).flatMap Tree.children)
        ((reached root completed).flatMap Tree.children) :=
    fun root h => h ▸ fun m => ⟨Iff.rfl, Iff.rfl⟩
  refine ⟨fun merged root hmerged hroot hdigits => ?_, fun root hroot hnumbered => ?_⟩
  · have hne : merged ≠ [] := by
      rcases hmerged with rfl | rfl <;> simp
    refine candidates_congr_paths fun hbrowsing hopen => ?_
    cases hsegment : completed[depth]? with
    | none =>
      exact offeredAlike_of_length_le hsiblings hne (akin_merged_perm hab hmerged) hroot
        (List.getElem?_eq_none_iff.1 hsegment)
    | some segment =>
      by_cases hb : b ∈ reached g.paths (completed.take (depth + 1))
      · obtain ⟨hs, hbetween | hbelow⟩ := hdigits segment hbrowsing hopen hsegment hb
        · exact offeredAlike_of_akin (akin_merged hab hbetween hmerged) hroot hsegment hs
        · exact offeredAlike_of_akin_perm (akin_merged_perm hab hmerged) hroot hsegment hs hbelow
      · exact hsame root (reached_eq_of_not_mem (alikeBut_merged hab hmerged) hroot hsegment hb)
  · obtain ⟨segment, hsegment, hnumber⟩ := hnumbered
    refine candidates_congr_paths fun _ _ => hsame root ?_
    exact reached_eq_of_getLast?_kin (getLast?_kin_of_content_eq hab) hroot hsegment hnumber

end Completion

/-- A channel given twice, with one command below it each time. -/
def Grammar.splitChannel : Grammar where
  common := ⟨.plain "", []⟩
  paths := ⟨.plain "", [
    ⟨.ranged "CHANnel" 1 16, [.leaf (.plain "SCALe")]⟩,
    ⟨.ranged "CHANnel" 1 16, [.leaf (.plain "OFFSet")]⟩]⟩

/-- The channel given once, with both commands below it. -/
def Grammar.wholeChannel : Grammar :=
  { Grammar.splitChannel with
    paths := ⟨.plain "", [⟨.ranged "CHANnel" 1 16, [.leaf (.plain "SCALe"), .leaf (.plain "OFFSet")]⟩]⟩ }

/-- The channel given once, with the second command only. -/
def Grammar.lastChannel : Grammar :=
  { Grammar.splitChannel with
    paths := ⟨.plain "", [⟨.ranged "CHANnel" 1 16, [.leaf (.plain "OFFSet")]⟩]⟩ }

namespace Completion

/-- Without a number both commands of the channel are on offer, with a number the second only. A number
that no channel has leads to neither. -/
theorem candidates_split_channel :
    candidates (some .wholeChannel) ":CHAN:" false {} =
      candidates (some .splitChannel) ":CHAN:" false {} ∧
    candidates (some .wholeChannel) ":CHAN30:" false {} =
      candidates (some .splitChannel) ":CHAN30:" false {} ∧
    candidates (some .lastChannel) ":CHAN3:" false {} =
      candidates (some .splitChannel) ":CHAN3:" false {} := by
  have hmerged := fun text => @candidates_merged_siblings .splitChannel [] [] []
    ⟨.ranged "CHANnel" 1 16, [.leaf (.plain "SCALe")]⟩
    ⟨.ranged "CHANnel" 1 16, [.leaf (.plain "OFFSet")]⟩ rfl text false {} 0
  refine ⟨(hmerged ":CHAN:").1 _ _ (Or.inl rfl) (.here _) ?_,
    (hmerged ":CHAN30:").1 _ _ (Or.inl rfl) (.here _) ?_, ?_⟩
  · rintro segment - - hsegment -
    obtain rfl : "CHAN".toList = segment := Option.some.inj hsegment
    exact ⟨by decide, .inl fun t ht => absurd ht List.not_mem_nil⟩
  · rintro segment - - - hreached
    change _ ∈ step [Grammar.splitChannel.paths] "CHAN30".toList at hreached
    exact absurd (mem_of_mem_step hreached).2 (by decide)
  · exact (hmerged ":CHAN3:").2 _ (.here _) ⟨"CHAN3".toList, rfl, by decide⟩

/-- Behind one segment the children of the nodes that it chooses are on offer. -/
theorem exists_mem_candidates_iff {g : Grammar} {text : String} {segment : List Char} {m : Mnemonic}
    (hopen : Completable text.toList) (hpath : Path.ofText text.toList = ⟨[segment], []⟩) :
    (∃ branch, .mnemonic m branch ∈ candidates (some g) text false {}) ↔
      ∃ n ∈ step [g.paths] segment, ∃ t ∈ n.children, t.content = m := by
  rw [candidates_eq_collect hopen rfl, hpath, continuations_nil]
  constructor
  · rintro ⟨branch, hm⟩
    obtain ⟨t, ht, hm⟩ := mem_collect.1 hm
    obtain ⟨n, hn, ht⟩ := List.mem_flatMap.1 ht
    exact ⟨n, hn, t, ht, (Candidate.mnemonic.inj hm).1.symm⟩
  · rintro ⟨n, hn, t, ht, rfl⟩
    exact ⟨_, mem_collect.2 ⟨t, List.mem_flatMap.2 ⟨n, hn, ht⟩, rfl⟩⟩

/-- Behind a number the command of the first node is on offer if the two are one node, and not if they
are two. -/
theorem numbered_siblings_not_merged :
    ∃ a b : Tree, a.content = b.content ∧
      Tree.Altered [a, b] [a.together b] 0 Grammar.splitChannel.paths Grammar.wholeChannel.paths ∧
      (∃ branch, .mnemonic (.plain "SCALe") branch ∈
        candidates (some .splitChannel) ":CHAN:" false {}) ∧
      (∃ branch, .mnemonic (.plain "SCALe") branch ∈
        candidates (some .wholeChannel) ":CHAN3:" false {}) ∧
      ¬ ∃ branch, .mnemonic (.plain "SCALe") branch ∈
        candidates (some .splitChannel) ":CHAN3:" false {} := by
  have hoffered : ∀ g : Grammar, (∃ branch, .mnemonic (.plain "SCALe") branch ∈
      candidates (some g) ":CHAN3:" false {}) ↔
      ∃ n ∈ step [g.paths] "CHAN3".toList, ∃ t ∈ n.children, t.content = .plain "SCALe" :=
    fun g => exists_mem_candidates_iff ⟨by decide, by decide, by decide⟩ rfl
  refine ⟨⟨.ranged "CHANnel" 1 16, [.leaf (.plain "SCALe")]⟩,
    ⟨.ranged "CHANnel" 1 16, [.leaf (.plain "OFFSet")]⟩, rfl, .here _, ?_, ?_, ?_⟩
  · have hpath : Path.ofText ":CHAN:".toList = ⟨["CHAN".toList], []⟩ := rfl
    rw [exists_mem_candidates_iff ⟨by decide, by decide, by decide⟩ hpath]
    have hchosen : ⟨.ranged "CHANnel" 1 16, [.leaf (.plain "SCALe")]⟩ ∈
        step [Grammar.splitChannel.paths] "CHAN".toList :=
      (mem_step_iff (by decide)).2 ⟨by simp [Grammar.splitChannel], by decide⟩
    exact ⟨_, hchosen, _, List.mem_singleton_self _, rfl⟩
  · have hchosen : step [Grammar.wholeChannel.paths] ("CHAN".toList ++ Text.numeral 3) =
        [⟨.ranged "CHANnel" 1 16, [.leaf (.plain "SCALe"), .leaf (.plain "OFFSet")]⟩] :=
      step_append_numeral (List.all_eq_true.1 (by decide)) rfl
    exact (hoffered _).2 ⟨_, hchosen ▸ List.mem_singleton_self _, .leaf (.plain "SCALe"),
      List.mem_cons_self, rfl⟩
  · have hchosen : reached Grammar.splitChannel.paths ["CHAN3".toList] =
        reached Grammar.lastChannel.paths ["CHAN3".toList] := by
      have hnumber : Segment.hasNumber "CHAN3".toList = true := by decide
      refine reached_eq_of_getLast?_kin ?_ (.here _) rfl hnumber
      exact @getLast?_kin_of_content_eq [] [] [] _ _ rfl
    intro hscale
    obtain ⟨n, hn, t, ht, hm⟩ := (hoffered _).1 hscale
    have hn : n ∈ reached Grammar.lastChannel.paths ["CHAN3".toList] := hchosen ▸ hn
    change n ∈ step [Grammar.lastChannel.paths] "CHAN3".toList at hn
    obtain ⟨hchild, -⟩ := mem_of_mem_step hn
    obtain rfl : n = ⟨.ranged "CHANnel" 1 16, [.leaf (.plain "OFFSet")]⟩ := by
      simpa [Grammar.lastChannel] using hchild
    rw [List.mem_singleton.1 ht] at hm
    exact absurd hm (by decide)

end Completion

end ScpiConsole
