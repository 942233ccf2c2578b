import ScpiConsole.Proofs.History.Cursor
import ScpiConsole.Proofs.InputLine.Run
/-!
# Where the text of a line comes from

While the history is browsed the line shows the entry under the cursor. All else in a line is typed, or came
with an entry that was recalled or a mnemonic that was accepted, and nobody can type a control character.

* `press_cases` : all that a key can come to
* `Deed.brings` : the text that a deed brings from elsewhere
* `Consistent` : line, cursor and sources agree
* `Consistent.apply` : every deed keeps them so, if commands are recorded while the history is not browsed
-/

namespace ScpiConsole

namespace Text

theorem mem_of_mem_dropTail? {tail s : List Char} {c : Char} (h : c ∈ (dropTail? tail s).getD s) :
    c ∈ s := by
  unfold dropTail? at h
  split at h
  · exact List.mem_of_mem_take h
  · exact h

end Text

namespace InputLine

open Completion

variable {l : InputLine} {grammar : Option Grammar}

/-! ## Keys -/

/-- All that a key can come to: an entry is recalled, or the history is not browsed any more and only what
can be typed is new, or text and history stay as they are. -/
theorem press_cases (hb : l.history.Bounded) (key : Key) :
    (∃ i text, (key = .up ∨ key = .down) ∧ l.history.entries[i]? = some text ∧
      (l.press key).text = text ∧ (l.press key).history = { l.history with cursor := some i }) ∨
    ((l.press key).history.cursor = none ∧ (l.press key).history.Bounded ∧
      ∀ c ∈ (l.press key).text.toList, c ∈ l.text.toList ∨ Text.isControl c = false) ∨
    ((l.press key).text = l.text ∧ (l.press key).history = l.history) := by
  have hreset : l.history.resetCursor.Bounded := hb.apply .reset
  cases key with
  | up =>
    have htext : (l.press .up).text = (l.history.up l.text).2.getD l.text := rfl
    have hhistory : (l.press .up).history = (l.history.up l.text).1 := rfl
    by_cases hshut : l.history.entries = [] ∨ l.history.cursor = none ∧ l.text ≠ ""
    · rw [History.up_of_shut hshut] at htext hhistory
      exact .inr (.inr ⟨htext, hhistory⟩)
    · rw [not_or, not_and, not_not] at hshut
      have holder := List.getElem?_eq_getElem (History.older_lt hshut.1)
      rw [History.up_of_open hb hshut.1 hshut.2, holder] at htext hhistory
      exact .inl ⟨_, _, .inl rfl, holder, htext, hhistory⟩
  | down =>
    have htext : (l.press .down).text = l.history.down.2.getD l.text := rfl
    have hhistory : (l.press .down).history = l.history.down.1 := rfl
    cases hcursor : l.history.cursor with
    | none =>
      rw [History.down_of_shut hcursor] at htext hhistory
      exact .inr (.inr ⟨htext, hhistory⟩)
    | some i =>
      cases i with
      | zero =>
        have hleft := hb.apply .down
        change l.history.down.1.Bounded at hleft
        rw [History.down_of_newest hb hcursor] at htext hhistory hleft
        refine .inr (.inl ⟨?_, ?_, ?_⟩)
        · rw [hhistory]
        · rwa [hhistory]
        · rw [htext]
          exact List.forall_mem_nil _
      | succ i =>
        have hi : i < l.history.entries.length := Nat.lt_of_succ_lt (hb.cursor_lt _ hcursor)
        rw [History.down_of_older hcursor, List.getElem?_eq_getElem hi] at htext hhistory
        exact .inl ⟨i, _, .inr rfl, List.getElem?_eq_getElem hi, htext, hhistory⟩
  | char c =>
    cases hc : Text.isControl c with
    | true =>
      have hedit : l.edit (.char c) = l := if_pos hc
      have hkept : (Key.char c).isEdit = false := by
        show (!Text.isControl c) = false
        rw [hc]
        rfl
      rw [press, hedit, History.onKey, hkept]
      exact .inr (.inr ⟨rfl, rfl⟩)
    | false =>
      rw [press_char l hc]
      refine .inr (.inl ⟨rfl, hreset, fun d hd => ?_⟩)
      rw [String.toList_push, List.mem_append, List.mem_singleton] at hd
      rcases hd with hd | rfl
      · exact .inl hd
      · exact .inr hc
  | backspace =>
    refine .inr (.inl ⟨rfl, hreset, fun c hc => .inl ?_⟩)
    change c ∈ (String.ofList l.text.toList.dropLast).toList at hc
    rw [String.toList_ofList] at hc
    exact (List.dropLast_sublist _).subset hc
  | delete => exact .inr (.inl ⟨rfl, hreset, fun c hc => .inl hc⟩)
  | left => exact .inr (.inr ⟨rfl, rfl⟩)
  | right => exact .inr (.inr ⟨rfl, rfl⟩)
  | home => exact .inr (.inr ⟨rfl, rfl⟩)
  | endKey => exact .inr (.inr ⟨rfl, rfl⟩)
  | tab => exact .inr (.inr ⟨rfl, rfl⟩)
  | enter => exact .inr (.inr ⟨rfl, rfl⟩)
  | escape => exact .inr (.inr ⟨rfl, rfl⟩)

/-! ## Completions -/

/-- Nothing is on offer while the history is browsed. -/
theorem candidates_of_browsing (h : l.history.browsing = true) (grammar : Option Grammar) :
    l.candidates grammar = [] := by
  rw [candidates, h]
  cases grammar <;> rfl

theorem cursor_of_mem_candidates {candidate : Candidate} (h : candidate ∈ l.candidates grammar) :
    l.history.cursor = none := by
  cases hcursor : l.history.cursor with
  | none => rfl
  | some i =>
    have hbrowsing : l.history.browsing = true := congrArg Option.isSome hcursor
    rw [candidates_of_browsing hbrowsing] at h
    cases h

theorem mem_insert_mnemonic {input : String} {m : Mnemonic} {branch short : Bool} {c : Char}
    (h : c ∈ (Completion.insert input (.mnemonic m branch) short).1.toList) :
    c ∈ input.toList ∨ c ∈ m.text.toList ∨ c = ':' := by
  have hform : ∀ d ∈ (if short then Mnemonic.shortForm m.text.toList else m.text.toList),
      d ∈ m.text.toList := by
    intro d hd
    split at hd
    · exact (List.mem_filter.1 hd).1
    · exact hd
  simp only [Completion.insert] at h
  split at h
  · rw [String.toList_ofList] at h
    exact .inr (.inl (hform c h))
  · rw [String.toList_ofList, List.mem_append, List.mem_append] at h
    obtain (h | h) | h := h
    · exact .inl (Text.mem_of_mem_dropEndWhile h)
    · refine .inr (.inl (hform c ?_))
      split at h
      · exact Text.mem_of_mem_dropTail? h
      · exact h
    · split at h
      · exact .inr (.inr (List.mem_singleton.1 h))
      · cases h

theorem mem_insert_number {input value : String} {short : Bool} {c : Char}
    (h : c ∈ (Completion.insert input (.number value) short).1.toList) : c ∈ input.toList ∨ c ∈ value.toList := by
  rw [Completion.insert, String.toList_ofList, List.mem_append] at h
  exact h.imp_left fun h => Text.mem_of_mem_dropEndWhile (Text.mem_of_mem_dropEndWhile h)

/-- A number on offer consists of digits and a `?`. -/
theorem isControl_of_mem_number {value : String} (h : .number value ∈ l.candidates grammar) {c : Char}
    (hc : c ∈ value.toList) : Text.isControl c = false := by
  cases grammar with
  | none => cases h
  | some g =>
    obtain ⟨k, hk⟩ := exists_of_mem_numbers (number_mem_candidates h).2.2
    rw [Candidate.number.inj hk, String.toList_ofList, List.mem_append] at hc
    rcases hc with hc | hc
    · exact Text.isControl_of_isDigit (Text.isDigit_of_mem_numeral hc)
    · unfold queryMark at hc
      split at hc
      · rw [List.mem_singleton.1 hc]
        decide
      · cases hc

/-! ## Deeds -/

/-- The entry under the cursor. -/
def recalled? (l : InputLine) : Option String := l.history.cursor.bind fun i => l.history.entries[i]?

/-- The text that a deed brings into the line from elsewhere: the entry that a key recalls, or the mnemonic
that is accepted. -/
def Deed.brings (l : InputLine) : Deed → List String
  | .press key => if key = .up ∨ key = .down then (l.press key).recalled?.toList else []
  | .accept (.mnemonic m _) _ => [m.text]
  | .accept (.number _) _ | .take | .record _ | .forget => []

/-- Commands are recorded while the history is not browsed. -/
def Deed.Settled (l : InputLine) : Deed → Prop
  | .record _ => l.history.cursor = none
  | _ => True

/-- The line shows the entry under the cursor, and control characters in it come from what was brought. -/
structure Consistent (brought : List String) (l : InputLine) : Prop where
  bounded : l.history.Bounded
  shows : ∀ i, l.history.cursor = some i → l.history.entries[i]? = some l.text
  sourced : ∀ c ∈ l.text.toList, Text.isControl c = true → ∃ text ∈ brought, c ∈ text.toList

theorem consistent_start (entries : List String) :
    Consistent [] { history := .ofEntries entries } where
  bounded := History.bounded_ofEntries entries
  shows i hi := by cases hi
  sourced := List.forall_mem_nil _

variable {brought : List String}

theorem Consistent.press (h : l.Consistent brought) (key : Key) :
    (l.press key).Consistent (brought ++ (Deed.press key).brings l) := by
  have hold : ∀ c ∈ l.text.toList, Text.isControl c = true →
      ∃ text ∈ brought ++ (Deed.press key).brings l, c ∈ text.toList := fun c hc hcontrol =>
    (h.sourced c hc hcontrol).imp fun _ => And.imp_left (List.mem_append_left _)
  rcases press_cases h.bounded key with ⟨i, text, hkey, hentry, htext, hhistory⟩ |
    ⟨hcursor, hb, hnew⟩ | ⟨htext, hhistory⟩
  · have hbrings : (Deed.press key).brings l = [text] := by
      rw [Deed.brings, if_pos hkey, recalled?, hhistory]
      exact congrArg Option.toList hentry
    refine ⟨?_, fun j hj => ?_, fun c hc _ => ⟨text, ?_, htext ▸ hc⟩⟩
    · rw [hhistory]
      exact h.bounded.turn (List.getElem?_eq_some_iff.1 hentry).1
    · rw [hhistory] at hj ⊢
      rw [htext, ← Option.some.inj hj]
      exact hentry
    · rw [hbrings]
      exact List.mem_append_right _ List.mem_cons_self
  · refine ⟨hb, fun i hi => ?_, fun c hc hcontrol => ?_⟩
    · cases hcursor.symm.trans hi
    · rcases hnew c hc with hc | hc
      · exact hold c hc hcontrol
      · cases hc.symm.trans hcontrol
  · refine ⟨?_, ?_, ?_⟩
    · rw [hhistory]
      exact h.bounded
    · rw [htext, hhistory]
      exact h.shows
    · rw [htext]
      exact hold

theorem Consistent.accept (h : l.Consistent brought) {candidate : Candidate}
    (hoffered : candidate ∈ l.candidates grammar) (short : Bool) :
    (l.accept candidate short).Consistent (brought ++ (Deed.accept candidate short).brings l) := by
  have hcursor := cursor_of_mem_candidates hoffered
  refine ⟨h.bounded, fun i hi => ?_, fun c hc hcontrol => ?_⟩
  · cases hcursor.symm.trans hi
  have hold (hc : c ∈ l.text.toList) : ∃ text ∈ brought ++ (Deed.accept candidate short).brings l,
      c ∈ text.toList := (h.sourced c hc hcontrol).imp fun _ => And.imp_left (List.mem_append_left _)
  cases candidate with
  | mnemonic m branch =>
    rcases mem_insert_mnemonic hc with hc | hc | rfl
    · exact hold hc
    · exact ⟨m.text, List.mem_append_right _ List.mem_cons_self, hc⟩
    · exact absurd hcontrol (by decide)
  | number value =>
    have hinserted : c ∈ (Completion.insert l.text (.number value) short).1.toList := hc
    rcases mem_insert_number hinserted with hc | hc
    · exact hold hc
    · cases (isControl_of_mem_number hoffered hc).symm.trans hcontrol

/-- What one deed preserves. -/
theorem Consistent.apply (h : l.Consistent brought) (grammar : Option Grammar) (deed : Deed)
    (possible : deed.Possible grammar l) (settled : deed.Settled l) :
    (deed.apply l).Consistent (brought ++ deed.brings l) := by
  cases deed with
  | press key => exact h.press key
  | accept candidate short => exact h.accept possible short
  | take =>
    refine ⟨h.bounded.apply .reset, fun i hi => ?_, List.forall_mem_nil _⟩
    cases hi
  | record command =>
    have hcursor : ((Deed.record command).apply l).history.cursor = none :=
      (History.cursor_add l.history command).trans settled
    refine ⟨h.bounded.apply (.add command), fun i hi => ?_, ?_⟩
    · cases hcursor.symm.trans hi
    · rw [Deed.brings, List.append_nil]
      exact h.sourced
  | forget =>
    refine ⟨h.bounded.apply .clear, fun i hi => ?_, ?_⟩
    · cases hi
    · rw [Deed.brings, List.append_nil]
      exact h.sourced

end InputLine

end ScpiConsole
