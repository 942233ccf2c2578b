import ScpiConsole.Unicode.NormalForm
/-!
# Blanks in normal form

An ASCII blank or control composes with nothing, and nothing is composed of it. So it stands in the normal
form of every text in which it stands.

* `clear_of_mem_pairs` : the table of composed characters is about other characters only
* `composed?_eq_none` : nothing is composed of a blank
* `mem_normalForm` : a blank stands in the normal form
-/

namespace ScpiConsole.Unicode

/-! ## The table -/

/-- Neither the code points of the row nor their texts are blanks or controls of ASCII. -/
def Row.clear (r : Row) : Bool :=
  0x20 < r.first && r.texts.all fun text => text.all fun c => 0x20 < c.toNat

/-- So it is for each row in a line of a table. -/
def clearLine (line : List Char) : Bool := (line.splitOn ' ').all fun entry => (row entry).clear

theorem clearLine_ofList {line : List Char} (h : clearLine line = true) :
    clearLine (String.ofList line).toList = true := by
  rwa [String.toList_ofList]

theorem clear_of_mem_rows {table : List String} (h : ∀ line ∈ table, clearLine line.toList = true)
    {r : Row} (hr : r ∈ rows table) : r.clear = true := by
  rw [rows, entries, List.mem_toArray, List.mem_flatMap] at hr
  obtain ⟨line, hline, hr⟩ := hr
  obtain ⟨entry, hentry, rfl⟩ := List.mem_map.1 hr
  exact List.all_eq_true.1 (h line hline) entry hentry

/-- The composed characters and their parts are visible. Each line is checked as a list of characters, which
is read faster than a string. -/
theorem clear_of_mem_pairs {r : Row} (hr : r ∈ pairs) : r.clear = true := by
  refine clear_of_mem_rows ?_ hr
  repeat refine List.forall_mem_cons.2 ⟨clearLine_ofList (by decide +kernel), ?_⟩
  exact List.forall_mem_nil _

theorem Row.clear_iff {r : Row} : r.clear = true ↔
    0x20 < r.first ∧ ∀ text ∈ r.texts, ∀ c ∈ text, 0x20 < c.toNat := by
  simp [Row.clear]

theorem textOf?_eq_none {table : Array Row} (h : ∀ r ∈ table, r.clear = true) {n : Nat}
    (hn : n ≤ 0x20) : textOf? table n = none := by
  refine Array.findSome?_eq_none_iff.2 fun r hr => if_neg ?_
  have hfirst := (Row.clear_iff.1 (h r hr)).1
  omega

theorem placeOf?_eq_none {table : Array Row} (h : ∀ r ∈ table, r.clear = true) {text : List Char} {c : Char}
    (hc : c ∈ text) (hlow : c.toNat ≤ 0x20) : table.findSome? (Row.placeOf? text) = none := by
  refine Array.findSome?_eq_none_iff.2 fun r hr => ?_
  rw [Row.placeOf?, Option.map_eq_none_iff, List.findIdx?_eq_none_iff]
  intro other hother
  rw [beq_eq_false_iff_ne]
  rintro rfl
  have hvisible := (Row.clear_iff.1 (h r hr)).2 other hother c hc
  omega

/-! ## Characters -/

variable {a b c : Char}

theorem pairOf?_eq_none (h : c.toNat ≤ 0x20) : pairOf? c = none := by
  rw [pairOf?, textOf?_eq_none (fun _ => clear_of_mem_pairs) h]
  have hsyllable : isSyllable c.toNat = false := by
    rw [isSyllable, firstSyllable]
    simp only [Bool.and_eq_false_iff, decide_eq_false_iff_not]
    omega
  rw [syllablePair?, hsyllable]
  rfl

theorem composed?_eq_none (h : a.toNat ≤ 0x20 ∨ b.toNat ≤ 0x20) : composed? a b = none := by
  have hplace : pairs.findSome? (Row.placeOf? [a, b]) = none := by
    rcases h with h | h
    · exact placeOf?_eq_none (fun _ => clear_of_mem_pairs) List.mem_cons_self h
    · exact placeOf?_eq_none (fun _ => clear_of_mem_pairs) (by simp) h
  have hsyllable : isSyllable a.toNat = true → 0xAC00 ≤ a.toNat := by
    rw [isSyllable, firstSyllable]
    simp only [Bool.and_eq_true, decide_eq_true_eq]
    exact And.left
  rw [composed?, hplace, Option.map_none, Option.none_or, syllable?, firstLead, firstVowel, noTrail,
    if_neg (by omega), if_neg]
  rintro ⟨hs, -, hb, -⟩
  have hlow := hsyllable hs
  omega

theorem combiningClass_eq_zero (h : c.toNat ≤ 0x20) : combiningClass c = 0 := if_pos (by omega)

/-! ## Texts -/

theorem mem_insertMark {s : List Char} : c ∈ insertMark a s ↔ c = a ∨ c ∈ s := by
  induction s with
  | nil => simp [insertMark]
  | cons d rest ih =>
    rw [insertMark]
    split
    · rw [List.mem_cons, ih, List.mem_cons]
      exact or_left_comm
    · exact List.mem_cons

theorem mem_reorder {s : List Char} : c ∈ reorder s ↔ c ∈ s := by
  induction s with
  | nil => rfl
  | cons d rest ih => rw [reorder, List.foldr_cons, mem_insertMark, ← reorder, ih, List.mem_cons]

theorem mem_decompose {s : List Char} (h : c.toNat ≤ 0x20) (hc : c ∈ s) : c ∈ decompose s := by
  refine List.mem_flatMap.2 ⟨c, hc, ?_⟩
  rw [maxDepth, parts, pairOf?_eq_none h]
  exact List.mem_singleton_self c

/-- Nothing is composed with a blank in front. -/
theorem absorb_fst (h : a.toNat ≤ 0x20) (held : List Char) (last : Nat) (s : List Char) :
    (absorb a held last s).1 = a := by
  induction s generalizing held last with
  | nil => rfl
  | cons d rest ih =>
    have hnone : (if held.isEmpty || last < combiningClass d then composed? a d else none) = none := by
      rw [composed?_eq_none (.inl h), ite_self]
    rw [absorb]
    simp only [hnone]
    split
    · rfl
    · exact ih _ _

/-- What is composed with a character in front stops at a blank. -/
theorem mem_absorb (h : c.toNat ≤ 0x20) {s : List Char} (hc : c ∈ s) (a : Char) (held : List Char)
    (last : Nat) : c ∈ (absorb a held last s).2.2 := by
  induction s generalizing a held last with
  | nil => cases hc
  | cons d rest ih =>
    rw [absorb]
    rcases List.mem_cons.1 hc with rfl | hc
    · have hnone : (if held.isEmpty || last < combiningClass c then composed? a c else none) = none := by
        rw [composed?_eq_none (.inr h), ite_self]
      simp only [hnone]
      rw [if_pos (combiningClass_eq_zero h)]
      exact List.mem_cons_self
    · split
      · exact ih hc _ _ _
      · split
        · exact List.mem_cons_of_mem _ hc
        · exact ih hc _ _ _

theorem mem_compose (h : c.toNat ≤ 0x20) (s : List Char) (hc : c ∈ s) : c ∈ compose s := by
  induction s using compose.induct with
  | case1 => cases hc
  | case2 d rest hclass ih =>
    rw [compose, if_pos hclass]
    rcases List.mem_cons.1 hc with rfl | hc
    · exact List.mem_cons_self
    · exact List.mem_cons_of_mem _ (ih hc)
  | case3 d rest hclass found ih =>
    rw [compose, if_neg hclass]
    rcases List.mem_cons.1 hc with rfl | hc
    · refine List.mem_cons.2 (.inl ?_)
      exact (absorb_fst h [] 0 rest).symm
    · exact List.mem_cons_of_mem _ (List.mem_append_right _ (ih (mem_absorb h hc _ _ _)))

/-- A blank stands in the normal form of a text in which it stands. -/
theorem mem_normalForm {s : List Char} (h : c.toNat ≤ 0x20) (hc : c ∈ s) : c ∈ normalForm s :=
  mem_compose h _ (mem_reorder.2 (mem_decompose h hc))

end ScpiConsole.Unicode
