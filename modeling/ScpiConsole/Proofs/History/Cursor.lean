import ScpiConsole.Proofs.History.Contents
/-!
# Where the cursor is

A step up or down puts the cursor on an entry and shows it. A command that joins meanwhile moves the
entries and leaves the cursor where it is, so the entry shown is found as many places behind the cursor as
commands have joined.

* `Bounded.apply_cases` : all that a step can come to
* `Watched.Sound` : where the text shown last stands
* `shown_behind_cursor` : that place after any steps
* `contents_and_cursor` : the contents after any steps, and the way up the list and back
-/

namespace ScpiConsole.History

variable {h : History} {i : Nat}

/-! ## The cursor in range -/

/-- The list is not too long, the cursor is on an entry, and no text is kept aside but the empty one, since
browsing starts from an empty input. -/
structure Bounded (h : History) : Prop where
  length_le : h.entries.length ≤ cap
  cursor_lt : ∀ i, h.cursor = some i → i < h.entries.length
  unsent_eq : h.unsent = ""

theorem bounded_ofEntries (entries : List String) : (ofEntries entries).Bounded where
  length_le := List.length_take_le _ _
  cursor_lt i hi := by cases hi
  unsent_eq := rfl

theorem Bounded.turn (hb : h.Bounded) (hi : i < h.entries.length) :
    Bounded { h with cursor := some i } where
  length_le := hb.length_le
  cursor_lt _ hj := Option.some.inj hj ▸ hi
  unsent_eq := hb.unsent_eq

/-- The entry that one step up leads to. -/
def older (h : History) : Nat :=
  match h.cursor with
  | none => 0
  | some i => min (i + 1) (h.entries.length - 1)

theorem older_lt (hne : h.entries ≠ []) : h.older < h.entries.length := by
  have hpos : 0 < h.entries.length := List.length_pos_iff.2 hne
  unfold older
  split <;> omega

/-! ## Up and down -/

theorem up_of_shut {input : String} (hshut : h.entries = [] ∨ h.cursor = none ∧ input ≠ "") :
    h.up input = (h, none) := by
  rcases hshut with hempty | ⟨hcursor, hinput⟩
  · rw [up, hempty]
    rfl
  · have htyped : ¬ input.isEmpty = true := by rwa [String.isEmpty_iff]
    rw [up, hcursor]
    dsimp only
    rw [if_neg htyped, ite_self]

theorem up_of_open (hb : h.Bounded) (hne : h.entries ≠ []) {input : String}
    (hopen : h.cursor = none → input = "") :
    h.up input = ({ h with cursor := some h.older }, h.entries[h.older]?) := by
  have hfull : ¬ h.entries.isEmpty = true := by rwa [List.isEmpty_iff]
  rw [up, if_neg hfull, older]
  cases hcursor : h.cursor with
  | none =>
    have hempty : "".isEmpty = true := by decide
    dsimp only
    rw [hopen hcursor, if_pos hempty, hb.unsent_eq]
  | some i => rfl

theorem down_of_shut (hcursor : h.cursor = none) : h.down = (h, none) := by
  rw [down, hcursor]

/-- Past the newest entry the input is empty again. -/
theorem down_of_newest (hb : h.Bounded) (hcursor : h.cursor = some 0) :
    h.down = ({ h with cursor := none }, some "") := by
  rw [down, hcursor]
  dsimp only
  rw [hb.unsent_eq]

theorem down_of_older (hcursor : h.cursor = some (i + 1)) :
    h.down = ({ h with cursor := some i }, h.entries[i]?) := by
  rw [down, hcursor]

theorem up_eq_none_iff (hb : h.Bounded) (input : String) :
    (h.up input).2 = none ↔ h.entries = [] ∨ h.cursor = none ∧ input ≠ "" := by
  by_cases hshut : h.entries = [] ∨ h.cursor = none ∧ input ≠ ""
  · exact iff_of_true (congrArg Prod.snd (up_of_shut hshut)) hshut
  · refine iff_of_false ?_ hshut
    rw [not_or, not_and, not_not] at hshut
    rw [up_of_open hb hshut.1 hshut.2, List.getElem?_eq_getElem (older_lt hshut.1)]
    exact Option.some_ne_none _

theorem down_eq_none_iff (hb : h.Bounded) : h.down.2 = none ↔ h.cursor = none := by
  cases hcursor : h.cursor with
  | none => exact iff_of_true (congrArg Prod.snd (down_of_shut hcursor)) rfl
  | some i =>
    refine iff_of_false ?_ (Option.some_ne_none i)
    cases i with
    | zero =>
      rw [down_of_newest hb hcursor]
      exact Option.some_ne_none _
    | succ i =>
      rw [down_of_older hcursor, List.getElem?_eq_getElem (Nat.lt_of_succ_lt (hb.cursor_lt _ hcursor))]
      exact Option.some_ne_none _

/-! ## Steps -/

/-- All that a step can come to: an entry is recalled, or the history is not browsed any more, or all stays
as it is, or a command joins. -/
theorem Bounded.apply_cases (hb : h.Bounded) (s : Step) :
    (∃ i text, h.entries[i]? = some text ∧
      s.apply h = ({ h with cursor := some i }, some text)) ∨
    ((s.apply h).1.cursor = none ∧ (s.apply h).1.unsent = "" ∧
      ((s.apply h).1.entries = h.entries ∨ (s.apply h).1.entries = [])) ∨
    (s.apply h = (h, none) ∧ s.joins h = 0) ∨
    (∃ command, s.apply h = ({ h with entries := (command :: h.entries).take cap }, none) ∧
      s.joins h = 1) := by
  cases s with
  | add command =>
    right; right
    by_cases hrepeats : h.repeats command = true
    · exact .inl ⟨by rw [Step.apply, add, if_pos hrepeats], if_pos hrepeats⟩
    · exact .inr ⟨command, by rw [Step.apply, add, if_neg hrepeats], if_neg hrepeats⟩
  | clear => exact .inr (.inl ⟨rfl, rfl, .inr rfl⟩)
  | up input =>
    by_cases hshut : h.entries = [] ∨ h.cursor = none ∧ input ≠ ""
    · exact .inr (.inr (.inl ⟨up_of_shut hshut, rfl⟩))
    · rw [not_or, not_and, not_not] at hshut
      refine .inl ⟨h.older, _, List.getElem?_eq_getElem (older_lt hshut.1), ?_⟩
      rw [Step.apply, up_of_open hb hshut.1 hshut.2, List.getElem?_eq_getElem (older_lt hshut.1)]
  | down =>
    cases hcursor : h.cursor with
    | none => exact .inr (.inr (.inl ⟨down_of_shut hcursor, rfl⟩))
    | some i =>
      cases i with
      | zero =>
        right; left
        rw [Step.apply, down_of_newest hb hcursor]
        exact ⟨rfl, hb.unsent_eq, .inl rfl⟩
      | succ i =>
        have hi : i < h.entries.length := Nat.lt_of_succ_lt (hb.cursor_lt _ hcursor)
        refine .inl ⟨i, h.entries[i], List.getElem?_eq_getElem hi, ?_⟩
        rw [Step.apply, down_of_older hcursor, List.getElem?_eq_getElem hi]
  | key k =>
    cases hedit : k.isEdit with
    | true =>
      have hreset : h.onKey k = h.resetCursor := if_pos hedit
      right; left
      rw [Step.apply, hreset]
      exact ⟨rfl, rfl, .inl rfl⟩
    | false =>
      have hkept : h.onKey k = h := if_neg (Bool.eq_false_iff.1 hedit)
      refine .inr (.inr (.inl ⟨?_, rfl⟩))
      rw [Step.apply, hkept]
  | reset => exact .inr (.inl ⟨rfl, rfl, .inl rfl⟩)

theorem Bounded.apply (hb : h.Bounded) (s : Step) : (s.apply h).1.Bounded := by
  rcases hb.apply_cases s with ⟨i, text, hentry, hs⟩ | ⟨hcursor, hunsent, hentries⟩ | ⟨hs, -⟩ |
    ⟨command, hs, -⟩
  · rw [hs]
    exact hb.turn (List.getElem?_eq_some_iff.1 hentry).1
  · refine ⟨?_, fun i hi => ?_, hunsent⟩
    · rcases hentries with hentries | hentries <;> rw [hentries]
      · exact hb.length_le
      · exact Nat.zero_le _
    · cases hcursor.symm.trans hi
  · rw [hs]
    exact hb
  · rw [hs]
    refine ⟨List.length_take_le _ _, fun i hi => ?_, hb.unsent_eq⟩
    have hlt := hb.cursor_lt i hi
    have hle := hb.length_le
    rw [List.length_take, List.length_cons]
    omega

/-! ## The text shown last -/

/-- While the history is browsed, the text shown last stands as many places behind the cursor as commands
have joined since, if that is not beyond the cap. -/
structure Watched.Sound (w : Watched) : Prop where
  bounded : w.history.Bounded
  stands : ∀ i, w.history.cursor = some i → ∃ text, w.shown = some text ∧
    (i + w.joined < cap → w.history.entries[i + w.joined]? = some text)

namespace Watched

variable {w : Watched}

theorem sound_ofEntries (entries : List String) : Sound { history := ofEntries entries } where
  bounded := bounded_ofEntries entries
  stands i hi := by cases hi

theorem Sound.step (hw : w.Sound) (s : Step) : (w.step s).Sound := by
  refine ⟨?_, ?_⟩
  · rw [history_step]
    exact hw.bounded.apply s
  rcases hw.bounded.apply_cases s with ⟨i, text, hentry, hs⟩ | ⟨hcursor, -, -⟩ | ⟨hs, hjoins⟩ |
    ⟨command, hs, hjoins⟩
  · rw [step_of_some hs]
    intro j hj
    obtain rfl : i = j := Option.some.inj hj
    exact ⟨text, rfl, fun _ => hentry⟩
  · intro j hj
    rw [history_step, hcursor] at hj
    cases hj
  · rw [step_of_none hs, hjoins]
    exact hw.stands
  · rw [step_of_none hs, hjoins]
    intro j hj
    obtain ⟨text, hshown, hstands⟩ := hw.stands j hj
    -- The entry has moved on by one place.
    refine ⟨text, hshown, fun hcap => ?_⟩
    dsimp only at hcap ⊢
    rw [List.getElem?_take_of_lt hcap, ← Nat.add_assoc, List.getElem?_cons_succ]
    exact hstands (by omega)

theorem Sound.after (hw : w.Sound) (steps : List Step) : (w.after steps).Sound := by
  induction steps using List.reverseRecOn with
  | nil => exact hw
  | append_singleton steps s ih =>
    rw [after_concat]
    exact ih.step s

end Watched

/-- **Behind the cursor.** Stored entries are browsed and added to, in any order. While the history is
browsed the cursor is on an entry, and the text shown last stands as many places behind it as commands have
joined since; beyond the cap it is gone. So the cursor is on that text as long as none has joined. -/
theorem shown_behind_cursor (entries : List String) (steps : List Step) :
    let w := Watched.after { history := ofEntries entries } steps
    ∀ i, w.history.cursor = some i → i < w.history.entries.length ∧
      ∃ text, w.shown = some text ∧
        (i + w.joined < cap → w.history.entries[i + w.joined]? = some text) ∧
        (w.joined = 0 → w.history.entries[i]? = some text) := by
  intro w i hi
  have hw : w.Sound := (Watched.sound_ofEntries entries).after steps
  obtain ⟨text, hshown, hstands⟩ := hw.stands i hi
  have hlt := hw.bounded.cursor_lt i hi
  refine ⟨hlt, text, hshown, hstands, fun hjoined => ?_⟩
  rw [hjoined] at hstands
  exact hstands (Nat.lt_of_lt_of_le hlt hw.bounded.length_le)

/-- The second of two entries is recalled, and then one command joins and another one repeats it. -/
def recalledEarly : List Step := [.up "", .up "*RST", .add ":OUTP ON", .add ":OUTP ON"]

theorem shown_behind_cursor_recalledEarly :
    let w := Watched.after { history := ofEntries ["*RST", "*IDN?"] } recalledEarly
    w.history.cursor = some 1 ∧ w.history.entries[2]? = some "*IDN?" := by
  intro w
  have hcursor : w.history.cursor = some 1 := by decide
  have hjoined : w.joined = 1 := by decide
  obtain ⟨-, text, hshown, hstands, -⟩ :=
    shown_behind_cursor ["*RST", "*IDN?"] recalledEarly 1 hcursor
  obtain rfl : text = "*IDN?" := Option.some.inj (hshown.symm.trans (by decide))
  change 1 + w.joined < cap → w.history.entries[1 + w.joined]? = some "*IDN?" at hstands
  rw [hjoined] at hstands
  exact ⟨hcursor, hstands (by decide)⟩

/-- A command that joins while the history is browsed takes the place of the entry that is shown. -/
theorem cursor_off_shown :
    let w := Watched.after { history := ofEntries ["*RST"] } [.up "", .add "*IDN?"]
    w.history.cursor = some 0 ∧ w.shown = some "*RST" ∧ w.history.entries = ["*IDN?", "*RST"] := by
  decide

/-! ## Up the list and back -/

/-- The history turned to an entry, which is shown. -/
def turnedTo (h : History) (i : Nat) : Watched := ⟨{ h with cursor := some i }, h.entries[i]?, 0⟩

namespace Watched

theorem step_up (w : Watched) (hb : w.history.Bounded) (hne : w.history.entries ≠ []) {input : String}
    (hopen : w.history.cursor = none → input = "") :
    w.step (.up input) = w.history.turnedTo w.history.older := by
  have hup := up_of_open hb hne hopen
  rw [List.getElem?_eq_getElem (older_lt hne)] at hup
  rw [step_of_some (s := .up input) hup, turnedTo, List.getElem?_eq_getElem (older_lt hne)]

theorem turnedTo_step_up (hb : h.Bounded) (hi : i < h.entries.length) (input : String) :
    (h.turnedTo i).step (.up input) = h.turnedTo (min (i + 1) (h.entries.length - 1)) := by
  have hne : h.entries ≠ [] := List.ne_nil_of_length_pos (Nat.zero_lt_of_lt hi)
  exact step_up (h.turnedTo i) (hb.turn hi) hne fun hcursor => by cases hcursor

/-- Steps up from an empty input, whatever is in the input later, reach one entry each and then stay at the
oldest. -/
theorem after_ups {w : Watched} (hb : w.history.Bounded) (hcursor : w.history.cursor = none)
    (hne : w.history.entries ≠ []) (later : List String) :
    w.after (.up "" :: later.map .up) =
      w.history.turnedTo (min (later.length + 1) w.history.entries.length - 1) := by
  have hpos : 0 < w.history.entries.length := List.length_pos_iff.2 hne
  induction later using List.reverseRecOn with
  | nil =>
    have holder : w.history.older = 0 := by rw [older, hcursor]
    have htop : min 1 w.history.entries.length - 1 = w.history.older := by omega
    change w.step (.up "") = w.history.turnedTo (min 1 w.history.entries.length - 1)
    rw [htop]
    exact step_up w hb hne fun _ => rfl
  | append_singleton later input ih =>
    rw [List.map_append, ← List.cons_append, List.map_singleton, after_concat, ih,
      turnedTo_step_up hb (by omega), List.length_append, List.length_singleton]
    congr 1
    omega

/-- A step down shows the entry that is one newer. -/
theorem turnedTo_succ_step_down (hi : i < h.entries.length) :
    (h.turnedTo (i + 1)).step .down = h.turnedTo i := by
  have hdown : Step.apply (h.turnedTo (i + 1)).history .down =
      ({ h with cursor := some i }, some h.entries[i]) := by
    rw [← List.getElem?_eq_getElem hi]
    exact down_of_older (h := (h.turnedTo (i + 1)).history) rfl
  rw [step_of_some hdown, turnedTo, List.getElem?_eq_getElem hi]

theorem turnedTo_after_downs (hi : i < h.entries.length) {j : Nat} (hj : j ≤ i) :
    (h.turnedTo i).after (.replicate j .down) = h.turnedTo (i - j) := by
  induction j with
  | zero => rfl
  | succ j ih =>
    obtain ⟨m, hm⟩ : ∃ m, i - j = m + 1 := ⟨i - j - 1, by omega⟩
    have hleft : i - (j + 1) = m := by omega
    rw [List.replicate_succ', after_concat, ih (by omega), hm, turnedTo_succ_step_down (by omega),
      hleft]

/-- The step down from the newest entry leads back to the empty input. -/
theorem turnedTo_step_down (hb : h.Bounded) (hi : 0 < h.entries.length) :
    (h.turnedTo 0).step .down = ⟨{ h with cursor := none }, some "", 0⟩ :=
  step_of_some (s := .down) (down_of_newest (hb.turn hi) rfl)

end Watched

/-- **Contents and cursor.** A new history is worked on in any way. It holds the newest of the commands that
were added since it was cleared last, without repeats in a row. The cursor is on an entry, so a step finds
what it shows, unless there is nothing to browse. From an empty input steps up show one older entry each as
far as there is one, and as many steps down lead back to the empty input. -/
theorem contents_and_cursor (steps : List Step) :
    let w := Watched.after {} steps
    let h := w.history
    h.entries = ((added steps).reverse.destutter (· ≠ ·)).take cap ∧
    h.entries.length ≤ cap ∧ h.entries.IsChain (· ≠ ·) ∧
    (∀ i, h.cursor = some i → i < h.entries.length) ∧
    (∀ input, (h.up input).2 = none ↔ h.entries = [] ∨ h.cursor = none ∧ input ≠ "") ∧
    (h.down.2 = none ↔ h.cursor = none) ∧
    (h.cursor = none → h.entries ≠ [] → ∀ later : List String,
      let recalled := w.after (.up "" :: later.map .up)
      let top := min (later.length + 1) h.entries.length
      recalled = h.turnedTo (top - 1) ∧
      (∀ j < top, recalled.after (.replicate j .down) = h.turnedTo (top - 1 - j)) ∧
      recalled.after (.replicate top .down) = ⟨h, some "", 0⟩) := by
  intro w h
  have hentries : h.entries = ((added steps).reverse.destutter (· ≠ ·)).take cap := entries_after steps
  have hb : h.Bounded := ((Watched.sound_ofEntries []).after steps).bounded
  refine ⟨hentries, hb.length_le, ?_, hb.cursor_lt, up_eq_none_iff hb, down_eq_none_iff hb,
    fun hcursor hne later => ?_⟩
  · rw [hentries]
    exact (List.isChain_destutter _ _).take _
  · intro recalled top
    have hpos : 0 < h.entries.length := List.length_pos_iff.2 hne
    have hups : recalled = h.turnedTo (top - 1) := Watched.after_ups hb hcursor hne later
    have htop : top - 1 < h.entries.length := by omega
    refine ⟨hups, fun j hj => ?_, ?_⟩
    · rw [hups]
      exact Watched.turnedTo_after_downs htop (by omega)
    · have hsplit : top = (top - 1) + 1 := by omega
      rw [hups, hsplit, List.replicate_succ', Watched.after_concat, Nat.add_sub_cancel,
        Watched.turnedTo_after_downs htop (Nat.le_refl _), Nat.sub_self,
        Watched.turnedTo_step_down hb hpos, ← hcursor]

/-- Two commands, one of them repeated, and a look at the newest that an edit ends. -/
def twoCommands : List Step := [.add "*IDN?", .add "*IDN?", .add "*RST", .up "", .key .backspace]

/-- Three steps up end at the older of the two, and two steps down lead back. -/
theorem contents_and_cursor_twoCommands :
    let w := Watched.after {} twoCommands
    let recalled := w.after [.up "", .up "*RST", .up "*IDN?"]
    (w.history.cursor = none ∧ w.history.entries ≠ []) ∧ w.history.entries = ["*RST", "*IDN?"] ∧
      recalled.shown = some "*IDN?" ∧ (recalled.after [.down]).shown = some "*RST" ∧
      recalled.after [.down, .down] = ⟨w.history, some "", 0⟩ := by
  intro w recalled
  have hcursor : w.history.cursor = none := by decide
  have hentries : w.history.entries = ["*RST", "*IDN?"] := by decide
  have hne : w.history.entries ≠ [] := hentries ▸ List.cons_ne_nil _ _
  have hlength : w.history.entries.length = 2 := hentries ▸ rfl
  obtain ⟨-, -, -, -, -, -, hback⟩ := contents_and_cursor twoCommands
  obtain ⟨hups, hdowns, hhome⟩ := hback hcursor hne ["*RST", "*IDN?"]
  have htop : min (["*RST", "*IDN?"].length + 1) w.history.entries.length = 2 := by rw [hlength]; rfl
  rw [htop] at hups hdowns hhome
  refine ⟨⟨hcursor, hne⟩, hentries, ?_, ?_, hhome⟩
  · exact (congrArg Watched.shown hups).trans (by rw [turnedTo, hentries]; rfl)
  · exact (congrArg Watched.shown (hdowns 1 (by decide))).trans (by rw [turnedTo, hentries]; rfl)

end ScpiConsole.History
