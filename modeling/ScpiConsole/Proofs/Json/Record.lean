import Mathlib.Data.List.Forall2
import Mathlib.Data.Option.Basic
import ScpiConsole.Json.Record
/-!
# Records are read back

A scalar or a list is read from the form in which it is written. The members of an object are found
whatever their order, and one that is left out is read as its default.

* `natBelow?_nat`, `word32?_nat`, `word64?_nat`, `list?_map` : scalars and lists
* `member?_perm` : the order of the members makes no difference
* `FormOf` : members of an object in any order, some left out because they have their defaults
* `FormOf.exists_fields?` : every field is found, or has its default
-/

namespace ScpiConsole.Json

/-! ## Numbers and lists -/

theorem natBelow?_nat {bound n : Nat} (h : n < bound) : natBelow? bound (.nat n) = some n := by
  simp [natBelow?, nat, h]

theorem word32?_nat (n : UInt32) : word32? (.nat n.toNat) = some n := by
  rw [word32?, natBelow?_nat n.toNat_lt]
  simp

theorem word64?_nat (n : UInt64) : word64? (.nat n.toNat) = some n := by
  rw [word64?, natBelow?_nat n.toNat_lt]
  simp

theorem optional_some {α : Type} (default : α) (read : Json → Option α) (v : Json) :
    optional default read (some v) = read v := rfl

/-- A list is read when its items are. -/
theorem list?_map {α : Type} {read : Json → Option α} {write : α → Json} {items : List α}
    (h : ∀ a ∈ items, read (write a) = some a) :
    list? read (.array (items.map write)) = some items := by
  induction items with
  | nil => rfl
  | cons a items ih =>
    obtain ⟨ha, hitems⟩ := List.forall_mem_cons.1 h
    have hrest : (items.map write).mapM read = some items := ih hitems
    rw [list?, List.map_cons, List.mapM_cons, ha, hrest]
    rfl

@[simp] theorem listOrNull?_null {α : Type} (read : Json → Option α) :
    listOrNull? read .null = some [] := rfl

@[simp] theorem listOrNull?_array {α : Type} (read : Json → Option α) (items : List Json) :
    listOrNull? read (.array items) = items.mapM read := by
  change ((items.mapM read).map some).map _ = items.mapM read
  cases items.mapM read <;> rfl

/-! ## Members in any order -/

variable {members members' : List (String × Json)} {name : String}

theorem member?_perm (h : members.Perm members') (name : String) :
    member? name members = member? name members' := by
  have hfound := h.filter (·.1 = name)
  unfold member?
  cases hone : members'.filter (·.1 = name) with
  | nil => rw [hone] at hfound; rw [hfound.eq_nil]
  | cons m rest =>
    cases rest with
    | nil => rw [hone] at hfound; rw [hfound.eq_singleton]
    | cons next rest =>
      rw [hone] at hfound
      have hlength := hfound.length_eq
      split
      · next heq => rw [heq] at hlength; cases hlength
      · next heq => rw [heq] at hlength; cases hlength
      · rfl

/-! ## Forms of a record -/

/-- A field of a record, with its value, and whether this is its default. -/
structure Field where
  name : String
  value : Json
  isDefault : Prop

def Field.member (f : Field) : String × Json := (f.name, f.value)

/-- The fields as members, one after another. A field that has its default may be left out. -/
inductive Noted : List Field → List (String × Json) → Prop where
  | nil : Noted [] []
  | written {f : Field} {fields : List Field} {members : List (String × Json)}
    (h : Noted fields members) : Noted (f :: fields) (f.member :: members)
  | leftOut {f : Field} {fields : List Field} {members : List (String × Json)} (hdefault : f.isDefault)
    (h : Noted fields members) : Noted (f :: fields) members

/-- The members are these fields, in any order. -/
def FormOf (fields : List Field) (members : List (String × Json)) : Prop :=
  ∃ noted, Noted fields noted ∧ members.Perm noted

variable {fields : List Field} {f : Field}

theorem Noted.exists_of_mem (h : Noted fields members) {m : String × Json} (hm : m ∈ members) :
    ∃ f ∈ fields, m = f.member := by
  induction h with
  | nil => cases hm
  | @written f fields members _ ih =>
    rcases List.mem_cons.1 hm with rfl | hm
    · exact ⟨f, List.mem_cons_self, rfl⟩
    · obtain ⟨g, hg, rfl⟩ := ih hm
      exact ⟨g, List.mem_cons_of_mem _ hg, rfl⟩
  | leftOut _ _ ih =>
    obtain ⟨g, hg, rfl⟩ := ih hm
    exact ⟨g, List.mem_cons_of_mem _ hg, rfl⟩

/-- A field that has no default at all, or another value, is written. -/
theorem Noted.member_mem (h : Noted fields members) (hf : f ∈ fields) (hdefault : ¬ f.isDefault) :
    f.member ∈ members := by
  induction h with
  | nil => cases hf
  | written _ ih =>
    rcases List.mem_cons.1 hf with rfl | hf
    · exact List.mem_cons_self
    · exact List.mem_cons_of_mem _ (ih hf)
  | leftOut hleft _ ih =>
    rcases List.mem_cons.1 hf with rfl | hf
    · exact absurd hleft hdefault
    · exact ih hf

theorem Noted.filter_eq_nil (h : Noted fields members) (hname : name ∉ fields.map Field.name) :
    members.filter (·.1 = name) = [] := by
  rw [List.filter_eq_nil_iff]
  intro m hm
  obtain ⟨f, hf, rfl⟩ := h.exists_of_mem hm
  have hne : f.name ≠ name := fun heq => hname (heq ▸ List.mem_map_of_mem hf)
  exact fun hfound => hne (of_decide_eq_true hfound)

/-- Each field is found under its name, unless it is left out. -/
theorem Noted.member?_cases (h : Noted fields members) (hnames : (fields.map Field.name).Nodup)
    (hf : f ∈ fields) : member? f.name members = some (some f.value) ∨
      (f.isDefault ∧ member? f.name members = some none) := by
  induction h with
  | nil => cases hf
  | @written g fields members hnoted ih =>
    rw [List.map_cons, List.nodup_cons] at hnames
    rcases List.mem_cons.1 hf with rfl | hf
    · left
      rw [member?, List.filter_cons_of_pos (by simp [Field.member]), hnoted.filter_eq_nil hnames.1]
      rfl
    · have hne : g.name ≠ f.name := fun heq => hnames.1 (heq ▸ List.mem_map_of_mem hf)
      have hskip : (g.member :: members).filter (·.1 = f.name) = members.filter (·.1 = f.name) :=
        List.filter_cons_of_neg (fun hfound => hne (of_decide_eq_true hfound))
      rw [member?, hskip]
      exact ih hnames.2 hf
  | @leftOut g fields members hdefault hnoted ih =>
    rw [List.map_cons, List.nodup_cons] at hnames
    rcases List.mem_cons.1 hf with rfl | hf
    · right
      rw [member?, hnoted.filter_eq_nil hnames.1]
      exact ⟨hdefault, rfl⟩
    · exact ih hnames.2 hf

theorem FormOf.exists_of_mem (h : FormOf fields members) {m : String × Json} (hm : m ∈ members) :
    ∃ f ∈ fields, m = f.member := by
  obtain ⟨noted, hnoted, hperm⟩ := h
  exact hnoted.exists_of_mem (hperm.mem_iff.1 hm)

theorem FormOf.member_mem (h : FormOf fields members) (hf : f ∈ fields) (hdefault : ¬ f.isDefault) :
    f.member ∈ members := by
  obtain ⟨noted, hnoted, hperm⟩ := h
  exact hperm.mem_iff.2 (hnoted.member_mem hf hdefault)

/-! ## Reading the fields -/

/-- What is found under the name of a field: its value, or nothing if that is its default. -/
def Field.FoundAs (f : Field) (field : Option Json) : Prop :=
  field = some f.value ∨ (f.isDefault ∧ field = none)

variable {α : Type} {read : Json → Option α} {field : Option Json}

theorem Field.FoundAs.required (h : f.FoundAs field) (hdefault : ¬ f.isDefault) :
    required read field = read f.value := by
  rcases h with rfl | ⟨hleft, -⟩
  · rfl
  · exact absurd hleft hdefault

/-- Written or left out, a field is read as its value. -/
theorem Field.FoundAs.optional {default : α} (h : f.FoundAs field)
    (hdefault : f.isDefault → read f.value = some default) : optional default read field = read f.value := by
  rcases h with rfl | ⟨hleft, rfl⟩
  · rfl
  · exact (hdefault hleft).symm

theorem FormOf.exists_member? (h : FormOf fields members) (hnames : (fields.map Field.name).Nodup)
    (hf : f ∈ fields) : ∃ field, member? f.name members = some field ∧ f.FoundAs field := by
  obtain ⟨noted, hnoted, hperm⟩ := h
  rw [member?_perm hperm]
  rcases hnoted.member?_cases hnames hf with hfound | ⟨hleft, hfound⟩
  · exact ⟨_, hfound, .inl rfl⟩
  · exact ⟨_, hfound, .inr ⟨hleft, rfl⟩⟩

theorem FormOf.exists_mapM_member? (h : FormOf fields members) (hnames : (fields.map Field.name).Nodup)
    {asked : List Field} (hasked : ∀ f ∈ asked, f ∈ fields) :
    ∃ found, (asked.map Field.name).mapM (fun name => member? name members) = some found ∧
      List.Forall₂ Field.FoundAs asked found := by
  induction asked with
  | nil => exact ⟨[], rfl, .nil⟩
  | cons f rest ih =>
    obtain ⟨hf, hrest⟩ := List.forall_mem_cons.1 hasked
    obtain ⟨field, hfind, hfield⟩ := h.exists_member? hnames hf
    obtain ⟨found, hfound, hall⟩ := ih hrest
    refine ⟨field :: found, ?_, .cons hfield hall⟩
    rw [List.map_cons, List.mapM_cons, hfind, hfound]
    rfl

/-- Every field is found, in the order in which a reader asks for them. -/
theorem FormOf.exists_fields? (h : FormOf fields members) (hnames : (fields.map Field.name).Nodup) :
    ∃ found, fields? (fields.map Field.name) (.object members) = some found ∧
      List.Forall₂ Field.FoundAs fields found :=
  h.exists_mapM_member? hnames fun _ hf => hf

end ScpiConsole.Json
