import Mathlib.Data.List.DropRight
import ScpiConsole.Text.Blank
import ScpiConsole.Text.Lines
/-!
# The ends of a text, and its parts

* `takeWhile_append_of_head`, `dropWhile_append_of_head` : what follows does not lengthen a head
* `append_inj_of_startsOutside` : a head in a class is determined
* `dropEndWhile_eq_rdropWhile`, `takeEndWhile_eq_rtakeWhile` : the two ends as the library has them
* `dropEndWhile_append`, `takeEndWhile_append` : a text put together from a head and a tail comes
  apart there again
* `dropTail?_append`, `dropTail?_eq_none` : one tail
* `not_mem_of_mem_splitOn`, `exists_splitOn_append` : the parts of a text at a separator
* `cutOnce_eq_some_iff` : what stands before and after the first separator
-/

namespace ScpiConsole.Text

variable {α : Type} {p : α → Bool} {s t : List α}

/-! ## The longest head in a class -/

/-- The text does not begin in the class. -/
def StartsOutside {α : Type} (p : α → Bool) (s : List α) : Prop := ∀ c, s.head? = some c → p c = false

theorem takeWhile_append_of_head (s : List α) (h : StartsOutside p t) :
    (s ++ t).takeWhile p = s.takeWhile p := by
  induction s with
  | nil =>
    cases t with
    | nil => rfl
    | cons c t => exact List.takeWhile_cons_of_neg (by simp [h c rfl])
  | cons c s ih => rw [List.cons_append, List.takeWhile_cons, List.takeWhile_cons, ih]

theorem dropWhile_append_of_head (s : List α) (h : StartsOutside p t) :
    (s ++ t).dropWhile p = s.dropWhile p ++ t := by
  induction s with
  | nil =>
    cases t with
    | nil => rfl
    | cons c t => exact List.dropWhile_cons_of_neg (by simp [h c rfl])
  | cons c s ih =>
    rw [List.cons_append, List.dropWhile_cons, List.dropWhile_cons, ih]
    split <;> rfl

theorem startsOutside_dropWhile (p : α → Bool) (s : List α) : StartsOutside p (s.dropWhile p) := by
  intro c hc
  simpa [hc] using List.head?_dropWhile_not p s

theorem startsOutside_append_iff (hs : s ≠ []) : StartsOutside p (s ++ t) ↔ StartsOutside p s := by
  obtain ⟨c, rest, rfl⟩ := List.exists_cons_of_ne_nil hs
  rfl

theorem takeWhile_append_of_startsOutside (hs : ∀ c ∈ s, p c = true) (ht : StartsOutside p t) :
    (s ++ t).takeWhile p = s := by
  have hnil : t.takeWhile p = [] := by
    cases t with
    | nil => rfl
    | cons c rest => exact List.takeWhile_cons_of_neg (by simp [ht c rfl])
  rw [List.takeWhile_append_of_pos hs, hnil, List.append_nil]

/-- A text has one head in a class with nothing of the class behind it. -/
theorem append_inj_of_startsOutside {s' t' : List α} (hs : ∀ c ∈ s, p c = true)
    (ht : StartsOutside p t) (hs' : ∀ c ∈ s', p c = true) (ht' : StartsOutside p t')
    (h : s ++ t = s' ++ t') : s = s' ∧ t = t' := by
  have hhead : s = s' := by
    rw [← takeWhile_append_of_startsOutside hs ht, h, takeWhile_append_of_startsOutside hs' ht']
  subst hhead
  exact ⟨rfl, List.append_cancel_left h⟩

/-! ## The longest tail in a class -/

/-- The text does not end in the class. -/
def EndsOutside (p : α → Bool) (s : List α) : Prop := ∀ c, s.getLast? = some c → p c = false

theorem endsOutside_nil : EndsOutside p [] := by
  intro c hc
  cases hc

theorem endsOutside_of_forall (h : ∀ c ∈ s, p c = false) : EndsOutside p s :=
  fun c hc => h c (List.mem_of_getLast? hc)

theorem endsOutside_append_singleton {c : α} (h : p c = false) : EndsOutside p (s ++ [c]) := by
  intro d hd
  rw [List.getLast?_concat, Option.some.injEq] at hd
  rwa [← hd]

theorem EndsOutside.append_left (h : EndsOutside p t) (ht : t ≠ []) : EndsOutside p (s ++ t) := by
  intro c hc
  rw [List.getLast?_append_of_ne_nil s ht] at hc
  exact h c hc

theorem dropEndWhile_eq_rdropWhile (p : α → Bool) (s : List α) : dropEndWhile p s = s.rdropWhile p := rfl

theorem takeEndWhile_eq_rtakeWhile (p : α → Bool) (s : List α) : takeEndWhile p s = s.rtakeWhile p := rfl

theorem dropEndWhile_append_takeEndWhile (p : α → Bool) (s : List α) :
    dropEndWhile p s ++ takeEndWhile p s = s := by
  rw [dropEndWhile_eq_rdropWhile, takeEndWhile_eq_rtakeWhile, List.rdropWhile_append_rtakeWhile]

theorem dropEndWhile_eq_self (hs : EndsOutside p s) : dropEndWhile p s = s := by
  rw [dropEndWhile_eq_rdropWhile, List.rdropWhile_eq_self_iff]
  intro hne
  rw [hs _ (List.getLast?_eq_some_getLast hne)]
  exact Bool.false_ne_true

theorem endsOutside_dropEndWhile (p : α → Bool) (s : List α) : EndsOutside p (dropEndWhile p s) := by
  intro c hc
  have hne : s.rdropWhile p ≠ [] := List.ne_nil_of_mem (List.mem_of_getLast? hc)
  obtain rfl := (List.getLast_eq_iff_getLast?_eq_some hne).2 hc
  exact Bool.eq_false_iff.2 (List.rdropWhile_last_not p s hne)

theorem forall_mem_takeEndWhile (p : α → Bool) (s : List α) : ∀ c ∈ takeEndWhile p s, p c = true :=
  fun _ => List.mem_rtakeWhile_imp

theorem mem_of_mem_dropEndWhile {c : α} (h : c ∈ dropEndWhile p s) : c ∈ s :=
  (List.rdropWhile_prefix p s).subset h

/-- More of the class behind a text makes its tail longer. -/
theorem takeEndWhile_append_of_forall (ht : ∀ c ∈ t, p c = true) (s : List α) :
    takeEndWhile p (s ++ t) = takeEndWhile p s ++ t := by
  rw [takeEndWhile, List.reverse_append,
    List.takeWhile_append_of_pos fun c hc => ht c (List.mem_reverse.1 hc), List.reverse_append,
    List.reverse_reverse, takeEndWhile]

theorem dropEndWhile_append_of_forall (ht : ∀ c ∈ t, p c = true) (s : List α) :
    dropEndWhile p (s ++ t) = dropEndWhile p s := by
  rw [dropEndWhile, List.reverse_append,
    List.dropWhile_append_of_pos fun c hc => ht c (List.mem_reverse.1 hc), dropEndWhile]

theorem dropEndWhile_append (hs : EndsOutside p s) (ht : ∀ c ∈ t, p c = true) :
    dropEndWhile p (s ++ t) = s := by
  rw [dropEndWhile_append_of_forall ht, dropEndWhile_eq_self hs]

theorem takeEndWhile_append (hs : EndsOutside p s) (ht : ∀ c ∈ t, p c = true) :
    takeEndWhile p (s ++ t) = t := by
  have h := dropEndWhile_append_takeEndWhile p (s ++ t)
  rw [dropEndWhile_append hs ht] at h
  exact List.append_cancel_left h

/-- What stands in front of a text does not lengthen its tail unless it ends in the class. -/
theorem takeEndWhile_append_left (hs : EndsOutside p s) :
    takeEndWhile p (s ++ t) = takeEndWhile p t := by
  have hfront : EndsOutside p (s ++ dropEndWhile p t) := by
    by_cases h : dropEndWhile p t = []
    · rwa [h, List.append_nil]
    · exact (endsOutside_dropEndWhile p t).append_left h
  have hsplit := takeEndWhile_append hfront (forall_mem_takeEndWhile p t)
  rwa [List.append_assoc, dropEndWhile_append_takeEndWhile] at hsplit

/-! ## One tail -/

theorem dropTail?_append (tail s : List Char) : dropTail? tail (s ++ tail) = some s := by
  rw [dropTail?, if_pos (by simp), List.length_append, Nat.add_sub_cancel, List.take_left]

theorem dropTail?_eq_none {c : Char} {s : List Char} (h : s.getLast? ≠ some c) :
    dropTail? [c] s = none := by
  rw [dropTail?, if_neg]
  rw [List.isSuffixOf_iff_suffix]
  rintro ⟨t, rfl⟩
  exact h List.getLast?_concat

/-! ## Parts -/

variable {sep : Char} {a b : List Char}

theorem splitOn_cons_of_ne {c : Char} (h : c ≠ sep) (rest part : List Char) (parts : List (List Char))
    (hrest : rest.splitOn sep = part :: parts) : (c :: rest).splitOn sep = (c :: part) :: parts := by
  rw [List.splitOn_cons_eq_if_modifyHead, if_neg (by simpa using h), hrest, List.modifyHead_cons]

theorem not_mem_of_mem_splitOn {part : List Char} (h : part ∈ a.splitOn sep) : sep ∉ part := by
  induction a generalizing part with
  | nil =>
    rw [List.splitOn_nil, List.mem_singleton] at h
    exact h ▸ List.not_mem_nil
  | cons c rest ih =>
    by_cases hc : c = sep
    · rw [List.splitOn_cons_eq_if_modifyHead, if_pos (by simpa using hc)] at h
      rcases List.mem_cons.1 h with rfl | h
      · exact List.not_mem_nil
      · exact ih h
    · obtain ⟨first, parts, hrest⟩ := List.exists_cons_of_ne_nil (List.splitOn_ne_nil sep rest)
      rw [splitOn_cons_of_ne hc rest first parts hrest] at h
      rcases List.mem_cons.1 h with rfl | h
      · have hfirst := ih (hrest ▸ List.mem_cons_self)
        exact fun hmem => (List.mem_cons.1 hmem).elim (Ne.symm hc) hfirst
      · exact ih (hrest ▸ List.mem_cons_of_mem _ h)

/-- What stands behind the last separator, and what in front of it. -/
theorem not_mem_or_exists_append_sep (sep : Char) (a : List Char) : sep ∉ a ∨
    ∃ before last, a = before ++ sep :: last ∧ sep ∉ last := by
  have hlast : sep ∉ takeEndWhile (· ≠ sep) a := by
    intro h
    have hne := forall_mem_takeEndWhile (· ≠ sep) a sep h
    simp at hne
  have hsplit := dropEndWhile_append_takeEndWhile (· ≠ sep) a
  rcases List.eq_nil_or_concat (dropEndWhile (· ≠ sep) a) with hnil | ⟨before, c, hfront⟩
  · rw [hnil, List.nil_append] at hsplit
    exact .inl (hsplit ▸ hlast)
  · rw [List.concat_eq_append] at hfront
    have hc := endsOutside_dropEndWhile (· ≠ sep) a c (by rw [hfront, List.getLast?_concat])
    obtain rfl : c = sep := by simpa using hc
    refine .inr ⟨before, _, ?_, hlast⟩
    rw [hfront, List.append_assoc] at hsplit
    exact hsplit.symm

theorem eq_nil_iff_getLast? (h : sep ∉ a) : a = [] ↔ ∀ c, a.getLast? = some c → c = sep := by
  constructor
  · rintro rfl c hc
    cases hc
  · intro hall
    cases hlast : a.getLast? with
    | none => exact List.getLast?_eq_none_iff.1 hlast
    | some c =>
      rw [hall c hlast] at hlast
      exact absurd (List.mem_of_getLast? hlast) h

/-- A text without the separator behind another one makes its last part longer. The last part is empty when
the text is, or ends in a separator. -/
theorem exists_splitOn_append (sep : Char) (a : List Char) : ∃ front last,
    (∀ s, sep ∉ s → (a ++ s).splitOn sep = front ++ [last ++ s]) ∧
      (last = [] ↔ ∀ c, a.getLast? = some c → c = sep) := by
  rcases not_mem_or_exists_append_sep sep a with ha | ⟨before, last, rfl, hlast⟩
  · exact ⟨[], a, fun s hs => List.splitOn_eq_singleton (by simp [ha, hs]), eq_nil_iff_getLast? ha⟩
  · refine ⟨before.splitOn sep, last, fun s hs => ?_, (eq_nil_iff_getLast? hlast).trans ?_⟩
    · have hnot : sep ∉ last ++ s := by simp [hlast, hs]
      rw [List.append_assoc, List.cons_append, List.splitOn_append_cons_self, List.splitOn_eq_singleton hnot]
    · rw [List.getLast?_append, List.getLast?_cons]
      cases last.getLast? <;> simp

/-! ## The first cut -/

variable {before after : List Char}

theorem cutOnce_append_sep (h : sep ∉ before) (after : List Char) :
    cutOnce sep (before ++ sep :: after) = some (before, after) := by
  induction before with
  | nil => exact if_pos rfl
  | cons c rest ih =>
    rw [List.mem_cons, not_or] at h
    rw [List.cons_append, cutOnce, if_neg (Ne.symm h.1), ih h.2]
    rfl

theorem cutOnce_eq_some_iff :
    cutOnce sep a = some (before, after) ↔ a = before ++ sep :: after ∧ sep ∉ before := by
  constructor
  · intro h
    induction a generalizing before with
    | nil => cases h
    | cons c rest ih =>
      rw [cutOnce] at h
      split at h
      · next hc =>
        obtain ⟨rfl, rfl⟩ := Prod.mk.inj (Option.some.inj h)
        exact ⟨by rw [hc]; rfl, List.not_mem_nil⟩
      · next hc =>
        obtain ⟨⟨front, back⟩, hcut, hp⟩ := Option.map_eq_some_iff.1 h
        obtain ⟨rfl, rfl⟩ := Prod.mk.inj hp
        obtain ⟨rfl, hnot⟩ := ih hcut
        exact ⟨rfl, by simpa using ⟨Ne.symm hc, hnot⟩⟩
  · rintro ⟨rfl, h⟩
    exact cutOnce_append_sep h after

theorem cutOnce_eq_none (h : sep ∉ a) : cutOnce sep a = none := by
  cases hcut : cutOnce sep a with
  | none => rfl
  | some p =>
    obtain ⟨rfl, -⟩ := cutOnce_eq_some_iff.1 hcut
    simp at h

end ScpiConsole.Text
