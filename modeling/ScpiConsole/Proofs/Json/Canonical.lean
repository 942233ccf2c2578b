import ScpiConsole.Json.Basic
/-!
# Values in canonical form

Members sorted by name stay so whatever is put in or taken out, and what is sorted already is its own
canonical form.

* `Json.Tidy` : members sorted by name, with values in canonical form
* `Tidy.put`, `Tidy.erase` : changes keep members tidy
* `canonicalMembers_of_tidy` : nothing happens to tidy members
* `canonical_canonical` : a canonical form is its own
-/

namespace ScpiConsole.Json

variable {key : String} {value : Json} {members sorted : List (String × Json)}

/-! ## Putting members in -/

theorem mem_of_mem_put {m : String × Json} (h : m ∈ put key value members) :
    m = (key, value) ∨ m ∈ members := by
  induction members with
  | nil => exact .inl (List.mem_singleton.1 h)
  | cons first rest ih =>
    obtain ⟨k, v⟩ := first
    unfold put at h
    split at h
    · exact List.mem_cons.1 h
    · rcases List.mem_cons.1 h with h | h
      · exact .inl h
      · exact .inr (List.mem_cons_of_mem _ h)
    · rcases List.mem_cons.1 h with h | h
      · exact .inr (h ▸ List.mem_cons_self)
      · exact (ih h).imp_right (List.mem_cons_of_mem _)

theorem put_of_forall_lt (h : ∀ m ∈ members, compare m.1 key = .lt) :
    put key value members = members ++ [(key, value)] := by
  induction members with
  | nil => rfl
  | cons first rest ih =>
    obtain ⟨k, v⟩ := first
    obtain ⟨hfirst, hrest⟩ := List.forall_mem_cons.1 h
    have hgt : compare key k = .gt := Std.OrientedCmp.gt_of_lt hfirst
    simp only [put, hgt, ih hrest, List.cons_append]

theorem pairwise_put (h : members.Pairwise fun m m' => compare m.1 m'.1 = .lt) :
    (put key value members).Pairwise fun m m' => compare m.1 m'.1 = .lt := by
  induction members with
  | nil => exact List.pairwise_singleton _ _
  | cons first rest ih =>
    obtain ⟨k, v⟩ := first
    obtain ⟨hfirst, hrest⟩ := List.pairwise_cons.1 h
    unfold put
    split
    · next hlt =>
      refine List.pairwise_cons.2 ⟨fun m hm => ?_, h⟩
      rcases List.mem_cons.1 hm with rfl | hm
      · exact hlt
      · exact Std.TransCmp.lt_trans hlt (hfirst m hm)
    · next heq =>
      obtain rfl : key = k := Std.LawfulEqCmp.eq_of_compare heq
      exact List.pairwise_cons.2 ⟨hfirst, hrest⟩
    · next hgt =>
      refine List.pairwise_cons.2 ⟨fun m hm => ?_, ih hrest⟩
      rcases mem_of_mem_put hm with rfl | hm
      · exact Std.OrientedCmp.lt_of_gt hgt
      · exact hfirst m hm

theorem lookup_erase_of_ne {other : String} (h : other ≠ key) (members : List (String × Json)) :
    lookup other (erase key members) = lookup other members := by
  induction members with
  | nil => rfl
  | cons first rest ih =>
    obtain ⟨k, v⟩ := first
    rw [erase] at ih ⊢
    by_cases hk : k = key
    · rw [List.filter_cons_of_neg (by simpa using hk), ih, lookup, if_neg (hk ▸ h.symm)]
    · rw [List.filter_cons_of_pos (by simpa using hk), lookup, lookup, ih]

theorem erase_of_lookup_eq_none (h : lookup key members = none) : erase key members = members := by
  induction members with
  | nil => rfl
  | cons first rest ih =>
    obtain ⟨k, v⟩ := first
    rw [lookup] at h
    split at h
    · cases h
    · next hne => rw [erase, List.filter_cons_of_pos (by simpa using hne), ← erase, ih h]

/-! ## Tidy members -/

/-- Members sorted by name, with values in canonical form. -/
structure Tidy (members : List (String × Json)) : Prop where
  sorted : members.Pairwise fun m m' => compare m.1 m'.1 = .lt
  canonical : ∀ m ∈ members, m.2.canonical = m.2

theorem tidy_nil : Tidy [] := ⟨.nil, List.forall_mem_nil _⟩

theorem Tidy.put (h : Tidy members) (hvalue : value.canonical = value) :
    Tidy (put key value members) where
  sorted := pairwise_put h.sorted
  canonical m hm := by
    rcases mem_of_mem_put hm with rfl | hm
    · exact hvalue
    · exact h.canonical m hm

theorem Tidy.erase (h : Tidy members) : Tidy (erase key members) where
  sorted := h.sorted.sublist List.filter_sublist
  canonical m hm := h.canonical m (List.mem_filter.1 hm).1

/-- What is tidy already is put in as it stands. -/
theorem canonicalMembers_append_of_tidy (h : Tidy (sorted ++ members)) :
    canonicalMembers sorted members = sorted ++ members := by
  induction members generalizing sorted with
  | nil => rw [canonicalMembers, List.append_nil]
  | cons first rest ih =>
    obtain ⟨k, v⟩ := first
    have hbelow : ∀ m ∈ sorted, compare m.1 k = .lt := fun m hm =>
      (List.pairwise_append.1 h.sorted).2.2 m hm (k, v) List.mem_cons_self
    have hvalue : v.canonical = v := h.canonical (k, v) (by simp)
    have happend : sorted ++ (k, v) :: rest = (sorted ++ [(k, v)]) ++ rest := by simp
    rw [canonicalMembers, hvalue, put_of_forall_lt hbelow, happend]
    exact ih (happend ▸ h)

theorem canonicalMembers_of_tidy (h : Tidy members) : canonicalMembers [] members = members :=
  canonicalMembers_append_of_tidy h

/-! ## Canonical forms -/

theorem canonicalItems_eq_map (items : List Json) : canonicalItems items = items.map canonical := by
  induction items with
  | nil => rfl
  | cons v rest ih => rw [canonicalItems, ih, List.map_cons]

theorem exists_of_mem_canonicalMembers {m : String × Json} (h : m ∈ canonicalMembers sorted members) :
    m ∈ sorted ∨ ∃ m' ∈ members, m = (m'.1, m'.2.canonical) := by
  induction members generalizing sorted with
  | nil => exact .inl h
  | cons first rest ih =>
    rw [canonicalMembers] at h
    rcases ih h with h | ⟨m', hm', heq⟩
    · rcases mem_of_mem_put h with heq | h
      · exact .inr ⟨first, List.mem_cons_self, heq⟩
      · exact .inl h
    · exact .inr ⟨m', List.mem_cons_of_mem _ hm', heq⟩

mutual

/-- A canonical form is its own canonical form. -/
theorem canonical_canonical : (v : Json) → v.canonical.canonical = v.canonical
  | .array items => congrArg Json.array (canonicalItems_canonicalItems items)
  | .object members =>
    congrArg Json.object (canonicalMembers_of_tidy (tidy_canonicalMembers members tidy_nil))
  | .null | .bool _ | .number _ | .string _ | .unreadable => rfl

theorem canonicalItems_canonicalItems : (items : List Json) →
    canonicalItems (canonicalItems items) = canonicalItems items
  | [] => rfl
  | v :: rest => by
    rw [canonicalItems, canonicalItems, canonical_canonical v, canonicalItems_canonicalItems rest]

theorem tidy_canonicalMembers : (members : List (String × Json)) → {sorted : List (String × Json)} →
    Tidy sorted → Tidy (canonicalMembers sorted members)
  | [], _, h => h
  | (_, v) :: rest, _, h => tidy_canonicalMembers rest (h.put (canonical_canonical v))

end

end ScpiConsole.Json
