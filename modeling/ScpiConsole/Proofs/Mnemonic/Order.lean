import ScpiConsole.Mnemonic
/-!
# The order of mnemonics

The order is linear, and its equality is that of the mnemonics. So a list that is sorted without
repeats is strictly increasing, and depends on its members only.

* `pairwise_mergeSort_on` : what is sorted by its mnemonics
* `getLast?_mergeSort_eq_some_iff`, `getLast?_mergeSort_congr` : the last in order
* `pairwise_sortDistinct`, `mem_sortDistinct` : what `sortDistinct` makes of a list
* `eq_sortDistinct` : no other list is strictly increasing and has these members
* `sortDistinct_congr` : it depends on the members only
-/

namespace ScpiConsole.Mnemonic

open Std

instance : TransOrd Mnemonic :=
  inferInstanceAs <| TransCmp <| compareLex (compareOn text) <|
    compareLex (compareOn suffixed) <| compareLex (compareOn start) (compareOn stop)

instance : LawfulEqOrd Mnemonic where
  eq_of_compare {a b} h := by
    change Mnemonic.compare a b = .eq at h
    simp only [Mnemonic.compare, Ordering.then_eq_eq, LawfulEqOrd.compare_eq_iff_eq] at h
    obtain ⟨text, suffixed, start, stop⟩ := h
    cases a
    cases b
    simp_all

theorem precedes_iff {a b : Mnemonic} : a.precedes b = true ↔ (compare a b).isLE = true := Iff.rfl

theorem precedes_trans (a b c : Mnemonic) (hab : a.precedes b = true) (hbc : b.precedes c = true) :
    a.precedes c = true := TransOrd.isLE_trans hab hbc

theorem precedes_total (a b : Mnemonic) : (a.precedes b || b.precedes a) = true := by
  rw [Bool.or_eq_true, precedes_iff, precedes_iff, OrientedOrd.eq_swap (a := b)]
  cases compare a b <;> simp

theorem compare_eq_lt_of_precedes {a b : Mnemonic} (h : a.precedes b = true) (hne : a ≠ b) :
    compare a b = .lt := by
  rw [precedes_iff] at h
  have hne : compare a b ≠ .eq := fun he => hne (LawfulEqOrd.eq_of_compare he)
  revert h hne
  cases compare a b <;> simp

theorem precedes_antisymm {a b : Mnemonic} (hab : a.precedes b = true) (hba : b.precedes a = true) :
    a = b := by
  rw [precedes_iff] at hab hba
  rw [OrientedOrd.eq_swap (a := b)] at hba
  refine LawfulEqOrd.eq_of_compare ?_
  revert hab hba
  cases compare a b <;> simp

/-- What is sorted by the mnemonics that it holds. -/
theorem pairwise_mergeSort_on {α : Type} (f : α → Mnemonic) (xs : List α) :
    (xs.mergeSort fun a b => (f a).precedes (f b)).Pairwise
      fun a b => (f a).precedes (f b) = true := by
  have htrans : ∀ a b c : α, (f a).precedes (f b) = true → (f b).precedes (f c) = true →
      (f a).precedes (f c) = true := fun a b c => precedes_trans (f a) (f b) (f c)
  have htotal : ∀ a b : α, ((f a).precedes (f b) || (f b).precedes (f a)) = true :=
    fun a b => precedes_total (f a) (f b)
  exact List.pairwise_mergeSort htrans htotal xs

theorem pairwise_mergeSort (ms : List Mnemonic) :
    (ms.mergeSort precedes).Pairwise fun a b => a.precedes b = true := pairwise_mergeSort_on id ms

/-- The last in order is the one that all others precede. -/
theorem getLast?_mergeSort_eq_some_iff {ms : List Mnemonic} {m : Mnemonic} :
    (ms.mergeSort precedes).getLast? = some m ↔ m ∈ ms ∧ ∀ n ∈ ms, n.precedes m = true := by
  have hlast : ∀ l, (ms.mergeSort precedes).getLast? = some l →
      l ∈ ms ∧ ∀ n ∈ ms, n.precedes l = true := by
    intro l hl
    obtain ⟨before, hsorted⟩ := List.getLast?_eq_some_iff.1 hl
    have hpairs := pairwise_mergeSort ms
    rw [hsorted, List.pairwise_append] at hpairs
    have hmem : ∀ n, n ∈ ms ↔ n ∈ before ++ [l] := fun n => by rw [← hsorted, List.mem_mergeSort]
    refine ⟨(hmem l).2 (by simp), fun n hn => ?_⟩
    rcases List.mem_append.1 ((hmem n).1 hn) with hn | hn
    · exact hpairs.2.2 n hn l List.mem_cons_self
    · rw [List.mem_singleton.1 hn]
      exact ReflOrd.isLE_rfl
  refine ⟨hlast m, fun ⟨hm, hall⟩ => ?_⟩
  have hne : ms.mergeSort precedes ≠ [] := List.ne_nil_of_mem (List.mem_mergeSort.2 hm)
  obtain ⟨hl, hbelow⟩ := hlast _ (List.getLast?_eq_some_getLast hne)
  rw [List.getLast?_eq_some_getLast hne, precedes_antisymm (hall _ hl) (hbelow m hm)]

theorem getLast?_mergeSort_congr {ms ns : List Mnemonic} (h : ∀ m, m ∈ ms ↔ m ∈ ns) :
    (ms.mergeSort precedes).getLast? = (ns.mergeSort precedes).getLast? := by
  refine Option.ext fun m => ?_
  simp only [getLast?_mergeSort_eq_some_iff, h]

/-! ## Neighbours -/

theorem mem_dropRepeats {m : Mnemonic} {ms : List Mnemonic} : m ∈ dropRepeats ms ↔ m ∈ ms := by
  induction ms using dropRepeats.induct with
  | case1 => rfl
  | case2 a => rfl
  | case3 a rest ih => simp [dropRepeats, ih]
  | case4 a b rest hne ih => simp [dropRepeats, hne, ih]

/-- In a sorted list equal mnemonics are neighbours, so none is left twice. -/
theorem pairwise_dropRepeats {ms : List Mnemonic} (h : ms.Pairwise fun a b => a.precedes b = true) :
    (dropRepeats ms).Pairwise fun a b => compare a b = .lt := by
  induction ms using dropRepeats.induct with
  | case1 => exact List.Pairwise.nil
  | case2 a => exact List.pairwise_singleton _ _
  | case3 a rest ih =>
    rw [dropRepeats, if_pos rfl]
    exact ih h.of_cons
  | case4 a b rest hne ih =>
    rw [dropRepeats, if_neg hne]
    refine List.pairwise_cons.2 ⟨fun m hm => ?_, ih h.of_cons⟩
    have hab := compare_eq_lt_of_precedes (List.rel_of_pairwise_cons h List.mem_cons_self) hne
    rcases List.mem_cons.1 (mem_dropRepeats.1 hm) with rfl | hm
    · exact hab
    · exact TransCmp.lt_of_lt_of_isLE hab (List.rel_of_pairwise_cons h.of_cons hm)

/-! ## In order, each once -/

theorem pairwise_sortDistinct (ms : List Mnemonic) :
    (sortDistinct ms).Pairwise fun a b => compare a b = .lt :=
  pairwise_dropRepeats (pairwise_mergeSort ms)

@[simp] theorem mem_sortDistinct {m : Mnemonic} {ms : List Mnemonic} :
    m ∈ sortDistinct ms ↔ m ∈ ms := by
  rw [sortDistinct, mem_dropRepeats, List.mem_mergeSort]

theorem nodup_sortDistinct (ms : List Mnemonic) : (sortDistinct ms).Nodup :=
  (pairwise_sortDistinct ms).imp fun hab heq => by simp [heq] at hab

/-- There is one strictly increasing list with given members. -/
theorem eq_sortDistinct {ms ns : List Mnemonic} (hns : ns.Pairwise fun a b => compare a b = .lt)
    (h : ∀ m, m ∈ ns ↔ m ∈ ms) : ns = sortDistinct ms := by
  have hnodup : ns.Nodup := hns.imp fun hab heq => by simp [heq] at hab
  have hperm : ns.Perm (sortDistinct ms) :=
    (List.perm_ext_iff_of_nodup hnodup (nodup_sortDistinct ms)).2 fun m => by rw [h, mem_sortDistinct]
  refine hperm.eq_of_pairwise (fun a b _ _ hab hba => ?_) hns (pairwise_sortDistinct ms)
  exact absurd hba (OrientedCmp.not_lt_of_lt hab)

theorem sortDistinct_congr {ms ns : List Mnemonic} (h : ∀ m, m ∈ ms ↔ m ∈ ns) :
    sortDistinct ms = sortDistinct ns :=
  eq_sortDistinct (pairwise_sortDistinct ms) fun m => by rw [mem_sortDistinct, h]

end ScpiConsole.Mnemonic
