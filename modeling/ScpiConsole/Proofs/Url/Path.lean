import ScpiConsole.Proofs.Text.Blank
import ScpiConsole.Proofs.Text.Percent
import ScpiConsole.Url
/-!
# Paths that go on

A path goes on behind another one, and dots and double dots in front do what they do anyway. Only at the
joint can something go wrong: behind a slash the path has an empty segment in the middle, and blanks
become a part of the last segment.

* `joined` : names with a slash in front of each
* `withoutSlash` : a path without the slash that closes it
* `networkPath_append_joined_iff` : when a path goes on as it should
-/

namespace ScpiConsole.Url

open Text

/-! ## Segments -/

/-- Letters, at least one. -/
def IsName (segment : List Char) : Prop := segment ≠ [] ∧ ∀ c ∈ segment, isLetter c = true

instance : DecidablePred IsName := fun segment =>
  decidable_of_iff (segment ≠ [] ∧ segment.all isLetter = true) (by rw [IsName, List.all_eq_true])

/-- The segments with a slash in front of each. -/
def joined (segments : List (List Char)) : List Char := segments.flatMap fun segment => '/' :: segment

@[simp] theorem joined_append (segments more : List (List Char)) :
    joined (segments ++ more) = joined segments ++ joined more := List.flatMap_append

@[simp] theorem joined_cons (segment : List Char) (more : List (List Char)) :
    joined (segment :: more) = '/' :: segment ++ joined more := List.flatMap_cons

@[simp] theorem joined_nil : joined [] = [] := rfl

/-- One segment that is not the last. -/
def step (done : List (List Char)) (segment : List Char) : List (List Char) :=
  if isDoubleDot segment then pop done
  else if isDot segment then done
  else done ++ [percentEncode keptInPath segment]

theorem resolve_cons {done : List (List Char)} {segment : List Char} {rest : List (List Char)}
    (h : rest ≠ []) : resolve done (segment :: rest) = resolve (step done segment) rest := by
  have hrest : rest.isEmpty = false := by simpa using h
  rw [resolve, step]
  simp only [hrest, Bool.false_eq_true, if_false, List.append_nil]
  split
  · rfl
  · split <;> rfl

theorem resolve_singleton (done : List (List Char)) (segment : List Char) : resolve done [segment] =
    if isDoubleDot segment then pop done ++ [[]]
    else if isDot segment then done ++ [[]]
    else done ++ [percentEncode keptInPath segment] := by
  rw [resolve]
  split
  · rfl
  · split <;> rfl

theorem resolve_append {rest : List (List Char)} (h : rest ≠ []) (front done : List (List Char)) :
    resolve done (front ++ rest) = resolve (front.foldl step done) rest := by
  induction front generalizing done with
  | nil => rfl
  | cons segment front ih =>
    rw [List.cons_append, resolve_cons (List.append_ne_nil_of_right_ne_nil front h), ih]
    rfl

/-! ## Dots -/

/-- Not only letters stand in a dot or a double dot, and no blanks and controls. -/
theorem mem_of_dots {segment : List Char} (h : isDot segment = true ∨ isDoubleDot segment = true) :
    (∃ c ∈ segment, isLetter c = false) ∧ ∀ c ∈ segment, 0x20 < c.toNat := by
  have hforms : ∀ a ∈ dotForms, (∃ c t, a = c :: t ∧ isLetter c = false) ∧ ∀ c ∈ a, 0x20 < c.toNat := by
    have hhigh (s : List Char) (h : s.all (fun c => 0x20 < c.toNat) = true) : ∀ c ∈ s, 0x20 < c.toNat :=
      fun c hc => of_decide_eq_true (List.all_eq_true.1 h c hc)
    intro a ha
    rcases List.mem_cons.1 ha with rfl | ha
    · exact ⟨⟨'.', _, rfl, rfl⟩, hhigh _ (by decide)⟩
    · rw [List.mem_singleton.1 ha]
      exact ⟨⟨'%', _, rfl, rfl⟩, hhigh _ (by decide)⟩
  obtain ⟨a, ha, t, ht, hsplit⟩ : ∃ a ∈ dotForms, ∃ t, (∀ c ∈ t, 0x20 < c.toNat) ∧
      foldCase segment = a ++ t := by
    rcases h with h | h
    · exact ⟨_, List.contains_iff_mem.1 h, [], by simp, by simp⟩
    · obtain ⟨a, ha, h⟩ := List.any_eq_true.1 h
      obtain ⟨b, hb, h⟩ := List.any_eq_true.1 h
      exact ⟨a, ha, b, (hforms b hb).2, beq_iff_eq.1 h⟩
  obtain ⟨⟨d, front, rfl, hd⟩, hlow⟩ := hforms a ha
  constructor
  · cases segment with
    | nil => cases hsplit
    | cons c rest =>
      obtain ⟨hc, -⟩ := List.cons.inj hsplit
      exact ⟨c, List.mem_cons_self, by rw [← isLetter_foldChar, hc, hd]⟩
  · intro c hc
    refine Nat.lt_of_not_le fun hle => ?_
    have hmem : foldChar c ∈ d :: front ++ t := hsplit ▸ List.mem_map_of_mem hc
    rw [foldChar_of_low hle] at hmem
    rcases List.mem_append.1 hmem with hmem | hmem
    · exact Nat.not_le_of_lt (hlow c hmem) hle
    · exact Nat.not_le_of_lt (ht c hmem) hle

theorem step_of_not_dots {segment : List Char} (hdouble : isDoubleDot segment = false)
    (hdot : isDot segment = false) (done : List (List Char)) :
    step done segment = done ++ [percentEncode keptInPath segment] := by
  rw [step, hdouble, hdot]
  rfl

theorem isPlain_of_isLetter {marks : List Char} (hmarks : marks.all (fun c => !isLetter c) = true) {c : Char}
    (h : isLetter c = true) : isPlain marks c = true := by
  have hc := toNat_of_isLetter h
  have hnot : c ∉ marks := by
    intro hmem
    have hother := List.all_eq_true.1 hmarks c hmem
    rw [h] at hother
    cases hother
  simp only [isPlain, List.contains_eq_mem, hnot, decide_false, Bool.not_false, Bool.and_true,
    Bool.and_eq_true, decide_eq_true_eq]
  omega

theorem IsName.not_dots {segment : List Char} (h : IsName segment) :
    isDoubleDot segment = false ∧ isDot segment = false := by
  have hdots : ¬ (isDot segment = true ∨ isDoubleDot segment = true) := by
    intro hdots
    obtain ⟨c, hc, hother⟩ := (mem_of_dots hdots).1
    cases hother.symm.trans (h.2 c hc)
  rw [not_or, Bool.not_eq_true, Bool.not_eq_true] at hdots
  exact hdots.symm

theorem IsName.percentEncode {segment : List Char} (h : IsName segment) :
    percentEncode keptInPath segment = segment :=
  percentEncode_eq_self fun c hc => isPlain_of_isLetter (by decide) (h.2 c hc)

/-- Names stay as they are. -/
theorem resolve_names {names : List (List Char)} (h : ∀ name ∈ names, IsName name) (hne : names ≠ [])
    (done : List (List Char)) : resolve done names = done ++ names := by
  induction names generalizing done with
  | nil => exact absurd rfl hne
  | cons name rest ih =>
    obtain ⟨hname, hrest⟩ := List.forall_mem_cons.1 h
    cases rest with
    | nil => rw [resolve_singleton, hname.not_dots.1, hname.not_dots.2, hname.percentEncode]; rfl
    | cons next more =>
      rw [resolve_cons (List.cons_ne_nil next more), ih hrest (List.cons_ne_nil next more),
        step_of_not_dots hname.not_dots.1 hname.not_dots.2, hname.percentEncode, List.append_assoc]
      rfl

/-! ## Paths -/

/-- A path without the slash that closes it. -/
def withoutSlash (path : List Char) : List Char :=
  if path.getLast? = some '/' then path.dropLast else path

theorem withoutSlash_concat (path : List Char) : withoutSlash (path ++ ['/']) = path := by
  rw [withoutSlash, if_pos List.getLast?_concat, List.dropLast_concat]

theorem length_withoutSlash_le (path : List Char) : (withoutSlash path).length ≤ path.length := by
  rw [withoutSlash]
  split
  · rw [List.length_dropLast]
    exact Nat.sub_le _ _
  · exact Nat.le_refl _

/-- A backslash is a slash. -/
def isSlash (c : Char) : Bool := c = '/' || c = '\\'

theorem networkPath_cons {c : Char} (hc : isSlash c = true) (s : List Char) : networkPath (c :: s) =
    joined (resolve [] ((s.map fun c => if c = '\\' then '/' else c).splitOn '/')) := by
  have hfirst : (if c = '\\' then '/' else c) = '/' := by
    rw [isSlash, Bool.or_eq_true, decide_eq_true_iff, decide_eq_true_iff] at hc
    rcases hc with rfl | rfl <;> rfl
  rw [networkPath, List.map_cons, hfirst]
  rfl

theorem splitOn_append_joined {names : List (List Char)} (h : ∀ name ∈ names, IsName name) (a : List Char) :
    (a ++ joined names).splitOn '/' = a.splitOn '/' ++ names := by
  induction names generalizing a with
  | nil => simp
  | cons name rest ih =>
    obtain ⟨hname, hrest⟩ := List.forall_mem_cons.1 h
    have hslash : '/' ∉ name := not_mem_of_forall_isLetter hname.2 rfl
    rw [joined_cons, List.cons_append, List.splitOn_append_cons_self, ih hrest, List.splitOn_eq_singleton hslash]
    rfl

theorem slashed_eq_iff {c : Char} : (if c = '\\' then '/' else c) = '/' ↔ isSlash c = true := by
  rw [isSlash, Bool.or_eq_true, decide_eq_true_iff, decide_eq_true_iff]
  by_cases hc : c = '\\'
  · simp [hc]
  · simp [hc]

/-- The last segment of a path that starts with a slash is empty when the path ends in a slash. -/
theorem getLast?_slashed_iff {c : Char} (hc : isSlash c = true) (s : List Char) :
    (∀ d, (s.map fun c => if c = '\\' then '/' else c).getLast? = some d → d = '/') ↔
      ¬ EndsOutside isSlash (c :: s) := by
  have hlast : (c :: s).getLast? = some (s.getLast?.getD c) := List.getLast?_cons
  have hends : EndsOutside isSlash (c :: s) ↔ isSlash (s.getLast?.getD c) = false := by
    simp [EndsOutside, hlast]
  rw [hends, Bool.not_eq_false, List.getLast?_map]
  cases s.getLast? with
  | none => simpa using hc
  | some d => simpa using slashed_eq_iff

/-- What is written behind the names of a path has no backslash that would be a slash. -/
theorem map_slash_eq_self {s : List Char} (h : '\\' ∉ s) :
    (s.map fun c => if c = '\\' then '/' else c) = s := by
  refine (List.map_congr_left fun c hc => if_neg ?_).trans (List.map_id' s)
  rintro rfl
  exact h hc

theorem backslash_not_mem_joined {names : List (List Char)} (h : ∀ name ∈ names, IsName name) :
    '\\' ∉ joined names := by
  intro hmem
  obtain ⟨name, hname, hmem⟩ := List.mem_flatMap.1 hmem
  rcases List.mem_cons.1 hmem with hmem | hmem
  · revert hmem
    decide
  · exact not_mem_of_forall_isLetter (h name hname).2 rfl hmem

/-- All but the last segment of a path is settled before more is written behind it. -/
theorem exists_networkPath_append {c : Char} (hc : isSlash c = true) (s : List Char) : ∃ done last,
    (last = [] ↔ ¬ EndsOutside isSlash (c :: s)) ∧ '/' ∉ last ∧
    networkPath (c :: s) = joined (resolve done [last]) ∧
    ∀ t names, '/' ∉ t → '\\' ∉ t → (∀ name ∈ names, IsName name) → names ≠ [] →
      networkPath (c :: s ++ (t ++ joined names)) = joined (step done (last ++ t)) ++ joined names := by
  obtain ⟨front, last, hcut, hlast⟩ := exists_splitOn_append '/' (s.map fun c => if c = '\\' then '/' else c)
  have hself := hcut [] List.not_mem_nil
  rw [List.append_nil, List.append_nil] at hself
  refine ⟨front.foldl step [], last, hlast.trans ?_, ?_, ?_, ?_⟩
  · exact getLast?_slashed_iff hc s
  · refine not_mem_of_mem_splitOn (a := s.map fun c => if c = '\\' then '/' else c) ?_
    rw [hself]
    exact List.mem_append_right _ (List.mem_singleton_self last)
  · rw [networkPath_cons hc, hself, resolve_append (List.cons_ne_nil last [])]
  · intro t names hslash hback hnames hne
    have hmore : '\\' ∉ t ++ joined names := by simp [hback, backslash_not_mem_joined hnames]
    rw [List.cons_append, networkPath_cons hc, List.map_append, map_slash_eq_self hmore,
      ← List.append_assoc, splitOn_append_joined hnames, hcut t hslash, resolve_append hne,
      List.foldl_append, resolve_names hnames hne, joined_append]
    rfl

theorem length_joined_pop_le (segments : List (List Char)) :
    (joined (pop segments)).length ≤ (joined segments).length := by
  unfold pop
  split
  · next last hlast =>
    split
    · exact Nat.le_refl _
    · obtain ⟨front, rfl⟩ := List.getLast?_eq_some_iff.1 hlast
      rw [List.dropLast_concat, joined_append, List.length_append]
      exact Nat.le_add_right _ _
  · exact Nat.zero_le _

theorem length_joined_concat (segments : List (List Char)) (segment : List Char) :
    (joined (segments ++ [segment])).length = (joined segments).length + 1 + segment.length := by
  rw [joined_append, joined_cons, joined_nil, List.append_nil, List.length_append, List.length_cons,
    Nat.add_assoc, Nat.add_comm 1]

/-- The last segment adds its own length at most, and a slash. -/
theorem length_joined_resolve_le (done : List (List Char)) (last : List Char) :
    (joined (resolve done [last])).length ≤
      (joined done).length + 1 + (percentEncode keptInPath last).length := by
  have hpop := length_joined_pop_le done
  rw [resolve_singleton]
  split
  · rw [length_joined_concat, List.length_nil]
    omega
  · split
    · rw [length_joined_concat, List.length_nil]
      omega
    · exact Nat.le_of_eq (length_joined_concat _ _)

theorem getLast?_joined_concat {last : List Char} (hne : last ≠ []) (segments : List (List Char)) :
    (joined (segments ++ [last])).getLast? = last.getLast? := by
  rw [joined_append, joined_cons, joined_nil, List.append_nil,
    List.getLast?_append_of_ne_nil _ (List.cons_ne_nil '/' last), ← List.singleton_append,
    List.getLast?_append_of_ne_nil _ hne]

theorem withoutSlash_joined_concat (segments : List (List Char)) :
    withoutSlash (joined (segments ++ [[]])) = joined segments := by
  rw [joined_append]
  exact withoutSlash_concat _

/-- Dots leave a slash at the end of a path, and nothing in the middle of it. -/
theorem joined_step_of_ne_nil (done : List (List Char)) {last : List Char} (hlast : '/' ∉ last)
    (hne : last ≠ []) : joined (step done last) = withoutSlash (joined (resolve done [last])) := by
  rw [step, resolve_singleton]
  split
  · exact (withoutSlash_joined_concat _).symm
  · split
    · exact (withoutSlash_joined_concat _).symm
    · have hopen : (joined (done ++ [percentEncode keptInPath last])).getLast? ≠ some '/' := by
        rw [getLast?_joined_concat (percentEncode_ne_nil keptInPath hne)]
        intro hslash
        rcases mem_percentEncode (List.mem_of_getLast? hslash) with ⟨-, h⟩ | h | h
        · exact hlast h
        · revert h
          decide
        · revert h
          decide
      exact (if_neg hopen).symm

/-- A path that ends in a slash has another one when names are written behind it. -/
theorem joined_step_nil_ne (done : List (List Char)) :
    joined (step done []) ≠ withoutSlash (joined (resolve done [[]])) := by
  intro h
  have hdouble : isDoubleDot [] = false := by decide
  have hdot : isDot [] = false := by decide
  have hempty : percentEncode keptInPath [] = [] := rfl
  rw [step_of_not_dots hdouble hdot, resolve_singleton, hdouble, hdot] at h
  simp only [Bool.false_eq_true, if_false] at h
  rw [hempty, withoutSlash_joined_concat, joined_append] at h
  simpa using congrArg List.length h

/-- Blanks make the last segment longer than it was. -/
theorem joined_step_append_ne (done : List (List Char)) {last blanks : List Char} (hne : blanks ≠ [])
    (hblanks : ∀ c ∈ blanks, c.toNat ≤ 0x20) :
    joined (step done (last ++ blanks)) ≠ withoutSlash (joined (resolve done [last])) := by
  intro h
  have hdots : ¬ (isDot (last ++ blanks) = true ∨ isDoubleDot (last ++ blanks) = true) := by
    intro hdots
    have hlow := hblanks _ (List.getLast_mem hne)
    have hhigh := (mem_of_dots hdots).2 _ (List.mem_append_right last (List.getLast_mem hne))
    omega
  rw [not_or, Bool.not_eq_true, Bool.not_eq_true] at hdots
  have hlength := congrArg List.length h
  have hmost := length_withoutSlash_le (joined (resolve done [last]))
  have hresolve := length_joined_resolve_le done last
  have hblank := List.length_pos_iff.2 (percentEncode_ne_nil keptInPath hne)
  rw [step_of_not_dots hdots.2 hdots.1, length_joined_concat, percentEncode_append, List.length_append]
    at hlength
  omega

/-- The last segment of a path that goes on is what it is in the path without its closing slash. -/
theorem joined_step_eq_iff (done : List (List Char)) {last blanks : List Char} (hlast : '/' ∉ last)
    (hblanks : ∀ c ∈ blanks, c.toNat ≤ 0x20) :
    joined (step done (last ++ blanks)) = withoutSlash (joined (resolve done [last])) ↔
      blanks = [] ∧ last ≠ [] := by
  by_cases hnil : blanks = []
  · subst hnil
    rw [List.append_nil]
    constructor
    · intro h
      refine ⟨rfl, ?_⟩
      rintro rfl
      exact joined_step_nil_ne done h
    · exact fun h => joined_step_of_ne_nil done hlast h.2
  · exact iff_of_false (joined_step_append_ne done hnil hblanks) fun h => hnil h.1

/-- **When a path goes on as it should.** Blanks may be left over in front of the names. -/
theorem networkPath_append_joined_iff {c : Char} (hc : isSlash c = true) (s : List Char) {blanks : List Char}
    (hblanks : ∀ c ∈ blanks, c.toNat ≤ 0x20) {names : List (List Char)}
    (hnames : ∀ name ∈ names, IsName name) (hne : names ≠ []) :
    networkPath (c :: s ++ (blanks ++ joined names)) =
        withoutSlash (networkPath (c :: s)) ++ joined names ↔
      blanks = [] ∧ EndsOutside isSlash (c :: s) := by
  obtain ⟨done, last, hends, hslash, hself, hmore⟩ := exists_networkPath_append hc s
  rw [hmore blanks names (not_mem_of_low (by decide) hblanks) (not_mem_of_low (by decide) hblanks) hnames
    hne, hself, List.append_cancel_right_eq, joined_step_eq_iff done hslash hblanks, ne_eq, hends, Classical.not_not]

end ScpiConsole.Url
