import Mathlib.Data.List.Forall2
import ScpiConsole.Connection
import ScpiConsole.Proofs.Text.Trim
/-!
# Identifications

An instrument names itself by four fields between commas. It may write blanks around them, and more
parts behind them.

* `parse?_eq_some_iff` : what a response is read as
* `isSome_parse?_iff` : which responses are read
* `parse?_intercalate` : fields with blanks around them are read back
* `parse?_retraction` : all of this, with what the fields are like
-/

namespace ScpiConsole.Identity

variable {response : String} {i : Identity}

/-- The fields in the order in which they are given. -/
def fields (i : Identity) : List String := [i.manufacturer, i.model, i.serial, i.version]

theorem exists_cons_of_four_le {α : Type} {parts : List α} (h : 4 ≤ parts.length) :
    ∃ a b c d more, parts = a :: b :: c :: d :: more := by
  rcases parts with _ | ⟨a, _ | ⟨b, _ | ⟨c, _ | ⟨d, more⟩⟩⟩⟩
  case cons.cons.cons.cons => exact ⟨a, b, c, d, more, rfl⟩
  all_goals simp at h

theorem four_le_of_take {parts : List (List Char)} (h : parts.take 4 = i.fields.map String.toList) :
    4 ≤ parts.length := by
  have hlength : min 4 parts.length = 4 := by
    rw [← List.length_take, h, List.length_map]
    rfl
  omega

/-! ## Reading -/

/-- The first four parts hold the fields. Blanks around the whole response lie around parts of it, so
they need not be taken off first. -/
theorem parse?_eq_some_iff : parse? response = some i ↔
    ((response.toList.splitOn ',').take 4).map Text.trim = i.fields.map String.toList ∧
      ∀ field ∈ i.fields, field ≠ "" := by
  rw [parse?, ← Text.map_trim_splitOn (by decide) (Text.padded_trim response.toList), List.map_take]
  generalize (response.toList.splitOn ',').map Text.trim = parts
  split
  · next a b c d more =>
    obtain ⟨manufacturer, model, serial, version⟩ := i
    simp only [fields, List.take_succ_cons, List.take_zero, List.map_cons, List.map_nil]
    constructor
    · intro h
      split at h
      · cases h
      · next hfilled =>
        obtain ⟨rfl, rfl, rfl, rfl⟩ := Identity.mk.inj (Option.some.inj h)
        simpa [and_assoc] using hfilled
    · rintro ⟨h, hne⟩
      simp only [List.cons.injEq, and_true] at h
      obtain ⟨rfl, rfl, rfl, rfl⟩ := h
      rw [if_neg (by simpa [and_assoc] using hne)]
      simp only [String.ofList_toList]
  · next hshort =>
    refine iff_of_false (by simp) fun ⟨h, _⟩ => ?_
    obtain ⟨a, b, c, d, more, hparts⟩ := exists_cons_of_four_le (four_le_of_take h)
    exact hshort a b c d more hparts

/-- A response is read when there is something in each of its first four parts. -/
theorem isSome_parse?_iff : (parse? response).isSome = true ↔
    4 ≤ (response.toList.splitOn ',').length ∧
      ∀ part ∈ (response.toList.splitOn ',').take 4, ∃ c ∈ part, Text.isBlank c = false := by
  have hfilled : ∀ part, (∃ c ∈ part, Text.isBlank c = false) ↔ Text.trim part ≠ [] := by
    intro part
    rw [ne_eq, Text.trim_eq_nil_iff]
    simp
  simp only [hfilled, Option.isSome_iff_exists, parse?_eq_some_iff]
  generalize response.toList.splitOn ',' = parts
  constructor
  · rintro ⟨i, htrim, hne⟩
    have hlength := four_le_of_take (List.map_take.symm.trans htrim)
    rw [List.length_map] at hlength
    refine ⟨hlength, fun part hpart hnil => ?_⟩
    have hmem : Text.trim part ∈ i.fields.map String.toList := htrim ▸ List.mem_map_of_mem hpart
    obtain ⟨field, hfield, heq⟩ := List.mem_map.1 hmem
    exact hne field hfield (String.toList_eq_nil_iff.1 (heq.trans hnil))
  · rintro ⟨hlength, hall⟩
    obtain ⟨a, b, c, d, more, rfl⟩ := exists_cons_of_four_le hlength
    refine ⟨⟨.ofList (Text.trim a), .ofList (Text.trim b), .ofList (Text.trim c),
      .ofList (Text.trim d)⟩, by simp [fields], ?_⟩
    simpa [fields] using hall

/-! ## The fields -/

theorem of_mem_fields (h : parse? response = some i) {field : String} (hfield : field ∈ i.fields) :
    field ≠ "" ∧ ',' ∉ field.toList ∧ Text.trim field.toList = field.toList := by
  obtain ⟨htrim, hne⟩ := parse?_eq_some_iff.1 h
  have hmem : field.toList ∈ i.fields.map String.toList := List.mem_map_of_mem hfield
  rw [← htrim] at hmem
  obtain ⟨part, hpart, heq⟩ := List.mem_map.1 hmem
  rw [← heq]
  exact ⟨hne field hfield, fun hcomma => Text.not_mem_of_mem_splitOn (List.mem_of_mem_take hpart)
    (Text.mem_of_mem_trim hcomma), Text.trim_trim part⟩

/-- Blanks around the fields bring in no comma, and are taken off again. -/
theorem trim_of_padded {fields padded : List String}
    (hpadded : List.Forall₂ (fun field part => Text.Padded field.toList part.toList) fields padded)
    (h : ∀ field ∈ fields, ',' ∉ field.toList ∧ Text.trim field.toList = field.toList) :
    (∀ part ∈ padded.map String.toList, ',' ∉ part) ∧
      (padded.map String.toList).map Text.trim = fields.map String.toList := by
  induction hpadded with
  | nil => exact ⟨fun _ hpart => absurd hpart List.not_mem_nil, rfl⟩
  | @cons field part fields padded hpart _ ih =>
    obtain ⟨⟨hcomma, htrim⟩, hrest⟩ := List.forall_mem_cons.1 h
    obtain ⟨hcommas, htrims⟩ := ih hrest
    refine ⟨List.forall_mem_cons.2 ⟨?_, hcommas⟩, ?_⟩
    · obtain ⟨before, after, hbefore, hafter, heq⟩ := hpart
      have hblank : Text.isBlank ',' = false := by decide
      rw [heq, List.mem_append, List.mem_append]
      rintro ((hmem | hmem) | hmem)
      · exact Text.not_mem_of_isBlank hblank hbefore hmem
      · exact hcomma hmem
      · exact Text.not_mem_of_isBlank hblank hafter hmem
    · rw [List.map_cons, List.map_cons, List.map_cons, hpart.trim_eq, htrim, htrims]

/-- The fields are read back, with blanks around each and any parts behind them. -/
theorem parse?_intercalate (h : parse? response = some i) {padded : List String}
    (hpadded : List.Forall₂ (fun field part => Text.Padded field.toList part.toList) i.fields padded)
    (more : List String) : parse? (",".intercalate (padded ++ more)) = some i := by
  obtain ⟨hcomma, htrim⟩ := trim_of_padded hpadded fun field hfield => (of_mem_fields h hfield).2
  have hlength : (padded.map String.toList).length = 4 := by
    rw [List.length_map, ← hpadded.length_eq]
    rfl
  obtain ⟨rest, hcut⟩ := Text.exists_splitOn_intercalate hcomma
    (List.ne_nil_of_length_eq_add_one hlength) (more.map String.toList)
  have htext : (",".intercalate (padded ++ more)).toList =
      [','].intercalate (padded.map String.toList ++ more.map String.toList) := by
    rw [String.toList_intercalate, List.map_append]
    rfl
  refine parse?_eq_some_iff.2 ⟨?_, fun field hfield => (of_mem_fields h hfield).1⟩
  rw [htext, hcut, List.take_left' hlength, htrim]

/-- **Identifications.** A response is read just if it has four parts between its commas and something
in each of the first four. The fields are these parts without the blanks around them, none of them
empty or with a comma. Joined by commas they are read back as the same identification, with any
blanks around them and any further parts behind. -/
theorem parse?_retraction (response : String) :
    ((parse? response).isSome = true ↔ 4 ≤ (response.toList.splitOn ',').length ∧
      ∀ part ∈ (response.toList.splitOn ',').take 4, ∃ c ∈ part, Text.isBlank c = false) ∧
    ∀ i, parse? response = some i →
      List.Forall₂ (fun field part => Text.Padded field.toList part ∧
          Text.StartsOutside Text.isBlank field.toList ∧ Text.EndsOutside Text.isBlank field.toList)
        i.fields ((response.toList.splitOn ',').take 4) ∧
      (∀ field ∈ i.fields, field ≠ "" ∧ ',' ∉ field.toList) ∧
      ∀ padded more : List String,
        List.Forall₂ (fun field part => Text.Padded field.toList part.toList) i.fields padded →
        parse? (",".intercalate (padded ++ more)) = some i := by
  refine ⟨isSome_parse?_iff, fun i h => ⟨?_, fun field hfield => ?_, fun padded more hpadded =>
    parse?_intercalate h hpadded more⟩⟩
  · have htrim : List.Forall₂ Eq (((response.toList.splitOn ',').take 4).map Text.trim)
        (i.fields.map String.toList) := (parse?_eq_some_iff.1 h).1 ▸ List.forall₂_refl _
    rw [List.forall₂_map_left_iff, List.forall₂_map_right_iff] at htrim
    exact htrim.flip.imp fun field part => Text.trim_eq_iff.1
  · obtain ⟨hne, hcomma, -⟩ := of_mem_fields h hfield
    exact ⟨hne, hcomma⟩

/-- A response with blanks of several kinds, and another with more behind its fields. -/
theorem parse?_retraction_acme :
    (parse? " ACME ,TX1\u00a0,\t7, 1.0 \r\n").isSome = true ∧
    parse? " ACME ,TX1\u00a0,\t7, 1.0 \r\n" = some ⟨"ACME", "TX1", "7", "1.0"⟩ ∧
    parse? "ACME,  TX1,7\u2003,1.0,option,," = some ⟨"ACME", "TX1", "7", "1.0"⟩ := by
  obtain ⟨hsome, hfields⟩ := parse?_retraction " ACME ,TX1\u00a0,\t7, 1.0 \r\n"
  have h : parse? " ACME ,TX1\u00a0,\t7, 1.0 \r\n" = some ⟨"ACME", "TX1", "7", "1.0"⟩ := by decide
  obtain ⟨-, -, hback⟩ := hfields _ h
  have hfilled : ((List.splitOn ',' " ACME ,TX1\u00a0,\t7, 1.0 \r\n".toList).take 4).all
      (fun part => part.any fun c => !Text.isBlank c) = true := by decide
  simp only [List.all_eq_true, List.any_eq_true, Bool.not_eq_true'] at hfilled
  have hkept : ∀ field : String, Text.Padded field.toList field.toList := fun field =>
    ⟨[], [], by simp, by simp, by simp⟩
  have hmodel : Text.Padded "TX1".toList "  TX1".toList :=
    ⟨[' ', ' '], [], List.all_eq_true.1 (by decide), by simp, rfl⟩
  have hserial : Text.Padded "7".toList "7\u2003".toList :=
    ⟨[], ['\u2003'], by simp, List.all_eq_true.1 (by decide), rfl⟩
  exact ⟨hsome.2 ⟨by decide, hfilled⟩, h, hback ["ACME", "  TX1", "7\u2003", "1.0"] ["option", "", ""]
    (.cons (hkept _) (.cons hmodel (.cons hserial (.cons (hkept _) .nil))))⟩

end ScpiConsole.Identity
