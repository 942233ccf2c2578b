import Mathlib.Data.List.Forall2
import ScpiConsole.Proofs.Json.Record
import ScpiConsole.Proofs.Json.RoundTrip
import ScpiConsole.Server.Message
/-!
# How a grammar may be written

A server may leave out what has its default, write `null` for a node without children, and put the
members of an object in any order. Each of these forms is read as the same grammar, as long as no part of
it stands deeper than a reader follows.

* `Mnemonic.WrittenAs`, `Tree.WrittenAs`, `Grammar.WrittenAs` : the forms of a value
* `Tree.levels` : what all forms of a tree need of a reader
* `Tree.Inherited` : induction on forms of trees
* `Tree.inherited_ofJson?` : a tree is read from all its forms, or from none
* `Grammar.writtenAs_toJson` : the form in which grammars are written is one of them
* `Grammar.reads_every_form` : a document with any of the forms is read as the grammar
-/

namespace ScpiConsole

/-! ## Forms as values -/

namespace Json.FormOf

variable {fields : List Field} {f : Field} {members : List (String × Json)} {depth : Nat}

theorem nesting_le (h : FormOf fields members) (hfields : ∀ f ∈ fields, f.value.nesting ≤ depth) :
    nestingMembers members ≤ depth := by
  refine nestingMembers_le fun m hm => ?_
  obtain ⟨f, hf, rfl⟩ := h.exists_of_mem hm
  exact hfields f hf

theorem le_nesting (h : FormOf fields members) (hf : f ∈ fields) (hdefault : ¬ f.isDefault) :
    f.value.nesting ≤ nestingMembers members :=
  nesting_le_nestingMembers (h.member_mem hf hdefault)

theorem whole (h : FormOf fields members) (hfields : ∀ f ∈ fields, f.value.Whole) :
    (Json.object members).Whole := by
  refine .object fun m hm => ?_
  obtain ⟨f, hf, rfl⟩ := h.exists_of_mem hm
  exact hfields f hf

end Json.FormOf

/-! ## Forms of mnemonics -/

namespace Mnemonic

variable {m : Mnemonic} {v : Json}

/-- The fields of a mnemonic. Only the text has no default. -/
def fields (m : Mnemonic) : List Json.Field := [⟨"text", .string m.text, False⟩,
  ⟨"start", .nat m.start.toNat, m.start = 0⟩, ⟨"stop", .nat m.stop.toNat, m.stop = 0⟩,
  ⟨"suffixed", .bool m.suffixed, m.suffixed = false⟩]

/-- The value is an object with the fields of the mnemonic. -/
def WrittenAs (m : Mnemonic) (v : Json) : Prop :=
  ∃ members, v = .object members ∧ Json.FormOf m.fields members

theorem ofJson?_of_writtenAs (h : m.WrittenAs v) : ofJson? v = some m := by
  obtain ⟨members, rfl, hform⟩ := h
  have hnames : (m.fields.map Json.Field.name).Nodup := by
    change ["text", "start", "stop", "suffixed"].Nodup
    decide
  obtain ⟨found, hfound, hfields⟩ := hform.exists_fields? hnames
  -- One thing is found for each of the four fields.
  obtain _ | ⟨htext, _ | ⟨hstart, _ | ⟨hstop, _ | ⟨hsuffixed, _ | _⟩⟩⟩⟩ := hfields
  have hfound : Json.fields? ["text", "start", "stop", "suffixed"] (.object members) = some [_, _, _, _] :=
    hfound
  have hword (n : UInt32) (h : n = 0) : Json.word32? (.nat n.toNat) = some 0 := by rw [Json.word32?_nat, h]
  have hflag (h : m.suffixed = false) : Json.flag? (.bool m.suffixed) = some false := congrArg some h
  rw [ofJson?, hfound]
  simp only [Option.bind_eq_bind, Option.bind_some, htext.required not_false,
    hstart.optional (hword m.start), hstop.optional (hword m.stop), hsuffixed.optional hflag,
    Json.word32?_nat]
  rfl

/-- Every field holds a scalar, and no number is too large for a reader. -/
theorem whole_of_mem_fields {f : Json.Field} (hf : f ∈ m.fields) : f.value.nesting = 0 ∧ f.value.Whole := by
  have hword (n : UInt32) : (Json.nat n.toNat).nesting = 0 ∧ (Json.nat n.toNat).Whole := by
    have hlow : (-9223372036854775808 : Int) ≤ n.toNat := by omega
    have hhigh : (n.toNat : Int) < UInt64.size := by
      have hlt : n.toNat < 2 ^ 32 := n.toNat_lt
      change (n.toNat : Int) < 18446744073709551616
      omega
    exact ⟨rfl, .number hlow hhigh⟩
  simp only [fields, List.mem_cons, List.not_mem_nil, or_false] at hf
  rcases hf with rfl | rfl | rfl | rfl
  · exact ⟨rfl, .string _⟩
  · exact hword m.start
  · exact hword m.stop
  · exact ⟨rfl, .bool _⟩

theorem nesting_of_writtenAs (h : m.WrittenAs v) : v.nesting = 1 := by
  obtain ⟨members, rfl, hform⟩ := h
  have hflat := hform.nesting_le fun f hf => (whole_of_mem_fields hf).1.le
  rw [Json.nesting, Nat.le_zero.1 hflat]

theorem whole_of_writtenAs (h : m.WrittenAs v) : v.Whole := by
  obtain ⟨members, rfl, hform⟩ := h
  exact hform.whole fun f hf => (whole_of_mem_fields hf).2

theorem writtenAs_toJson (m : Mnemonic) : m.WrittenAs m.toJson :=
  ⟨_, rfl, _, .written (.written (.written (.written .nil))), List.perm_append_singleton _ [_, _, _]⟩

end Mnemonic

/-! ## Forms of trees -/

/-- The fields of a node: its content, and what stands for its children. -/
def Tree.fields (content children : Json) (isLeaf : Prop) : List Json.Field :=
  [⟨"content", content, False⟩, ⟨"children", children, isLeaf⟩]

/-- A node with the list of its children, which may be left out when it is empty, or be `null`. -/
inductive Tree.WrittenAs : Tree → Json → Prop where
  | array {content : Mnemonic} {children : List Tree} {c : Json} {items : List Json}
    {members : List (String × Json)} (hcontent : content.WrittenAs c)
    (hchildren : List.Forall₂ Tree.WrittenAs children items)
    (hform : Json.FormOf (Tree.fields c (.array items) (children = [])) members) :
    Tree.WrittenAs ⟨content, children⟩ (.object members)
  | null {content : Mnemonic} {c : Json} {members : List (String × Json)} (hcontent : content.WrittenAs c)
    (hform : Json.FormOf (Tree.fields c .null True) members) :
    Tree.WrittenAs ⟨content, []⟩ (.object members)

namespace Tree

/-! ### Levels -/

mutual

/-- How many arrays and objects stand inside each other in every form of the tree. -/
def levels : Tree → Nat
  | ⟨_, children⟩ => levelsOf children + 2

def levelsOf : List Tree → Nat
  | [] => 0
  | t :: rest => max (levels t) (levelsOf rest)

end

variable {t : Tree} {ts : List Tree} {content : Mnemonic} {v c list : Json} {items : List Json}
  {isLeaf : Prop} {members : List (String × Json)} {room depth : Nat}

/-! ### Induction on forms -/

/-- What holds of every form of a node whenever it holds of the forms of its children. -/
structure Inherited (P : Tree → Json → Prop) : Prop where
  array {content : Mnemonic} {children : List Tree} {c : Json} {items : List Json}
    {members : List (String × Json)} (hcontent : content.WrittenAs c)
    (hchildren : List.Forall₂ P children items)
    (hform : Json.FormOf (fields c (.array items) (children = [])) members) :
    P ⟨content, children⟩ (.object members)
  null {content : Mnemonic} {c : Json} {members : List (String × Json)} (hcontent : content.WrittenAs c)
    (hform : Json.FormOf (fields c .null True) members) : P ⟨content, []⟩ (.object members)

mutual

theorem Inherited.of_writtenAs {P : Tree → Json → Prop} (hP : Inherited P) :
    (t : Tree) → {v : Json} → t.WrittenAs v → P t v
  | ⟨_, children⟩, _, h => by
    cases h with
    | array hcontent hchildren hform =>
      exact hP.array hcontent (hP.of_forall₂ children hchildren) hform
    | null hcontent hform => exact hP.null hcontent hform

theorem Inherited.of_forall₂ {P : Tree → Json → Prop} (hP : Inherited P) :
    (ts : List Tree) → {items : List Json} → List.Forall₂ WrittenAs ts items → List.Forall₂ P ts items
  | [], _, h => by
    cases h
    exact .nil
  | t :: rest, _, h => by
    cases h with
    | cons hfirst hrest => exact .cons (hP.of_writtenAs t hfirst) (hP.of_forall₂ rest hrest)

end

/-! ### Forms of trees as values -/

/-- One level for the node, and one for its content or for its list, which may be the deeper of the two. -/
theorem nesting_object (hcontent : content.WrittenAs c) (hform : Json.FormOf (fields c list isLeaf) members)
    (hlist : list.nesting ≤ depth + 1) (hdeep : 0 < depth → ¬ isLeaf ∧ depth < list.nesting) :
    (Json.object members).nesting = depth + 2 := by
  have hinner := Mnemonic.nesting_of_writtenAs hcontent
  have hle : Json.nestingMembers members ≤ depth + 1 := hform.nesting_le <|
    List.forall_mem_cons.2 ⟨hinner.le.trans (Nat.le_add_left 1 depth), List.forall_mem_singleton.2 hlist⟩
  have hge : depth + 1 ≤ Json.nestingMembers members := by
    rcases Nat.eq_zero_or_pos depth with rfl | hpos
    · exact hinner.ge.trans (hform.le_nesting (f := ⟨"content", c, False⟩) (by simp [fields]) not_false)
    · obtain ⟨hshown, hdepth⟩ := hdeep hpos
      exact Nat.le_trans hdepth (hform.le_nesting (f := ⟨"children", list, isLeaf⟩) (by simp [fields]) hshown)
  rw [Json.nesting, Nat.le_antisymm hle hge]

theorem nestingItems_eq_levelsOf (h : List.Forall₂ (fun t v => v.nesting = levels t) ts items) :
    Json.nestingItems items = levelsOf ts := by
  induction h with
  | nil => rfl
  | cons hfirst _ ih => rw [Json.nestingItems, levelsOf, hfirst, ih]

theorem inherited_nesting : Inherited fun t v => v.nesting = t.levels where
  array := by
    intro content children c items members hcontent hchildren hform
    have hitems := nestingItems_eq_levelsOf hchildren
    rw [levels]
    refine nesting_object hcontent hform ?_ fun hpos => ⟨?_, ?_⟩
    · rw [Json.nesting, hitems]
    · rintro rfl
      exact Nat.lt_irrefl 0 hpos
    · rw [Json.nesting, hitems]
      exact Nat.lt_succ_self _
  null hcontent hform := nesting_object hcontent hform (Nat.zero_le _) fun hpos => absurd hpos (Nat.lt_irrefl 0)

theorem whole_object (hcontent : content.WrittenAs c) (hform : Json.FormOf (fields c list isLeaf) members)
    (hlist : list.Whole) : (Json.object members).Whole :=
  hform.whole <| List.forall_mem_cons.2
    ⟨Mnemonic.whole_of_writtenAs hcontent, List.forall_mem_singleton.2 hlist⟩

theorem whole_of_forall₂ (h : List.Forall₂ (fun (_ : Tree) v => v.Whole) ts items) :
    ∀ v ∈ items, v.Whole := by
  induction h with
  | nil => exact List.forall_mem_nil _
  | cons hfirst _ ih => exact List.forall_mem_cons.2 ⟨hfirst, ih⟩

theorem inherited_whole : Inherited fun _ v => v.Whole where
  array hcontent hchildren hform := whole_object hcontent hform (.array (whole_of_forall₂ hchildren))
  null hcontent hform := whole_object hcontent hform .null

/-! ### Reading -/

/-- The tree, when there is room for all its levels. -/
def within (t : Tree) (room : Nat) : Option Tree :=
  if t.levels ≤ room then some t else none

theorem ofJson?_of_lt_two (h : room < 2) (v : Json) : ofJson? room v = none := by
  rcases room with _ | _ | room
  · rfl
  · rfl
  · omega

/-- A node is read when its children are, for which there are two levels less. -/
theorem ofJson?_object (hcontent : content.WrittenAs c) (hform : Json.FormOf (fields c list isLeaf) members)
    (hleaf : isLeaf → ts = []) (hlist : ∀ room, Json.listOrNull? (ofJson? room) list =
      if levelsOf ts ≤ room then some ts else none) (room : Nat) :
    ofJson? room (.object members) = within ⟨content, ts⟩ room := by
  rw [within, levels]
  by_cases hroom : room < 2
  · have hshort : ¬ levelsOf ts + 2 ≤ room := by omega
    rw [ofJson?_of_lt_two hroom, if_neg hshort]
  obtain ⟨room, rfl⟩ := Nat.exists_eq_add_of_le' (Nat.le_of_not_lt hroom)
  have hnames : ((fields c list isLeaf).map Json.Field.name).Nodup := by
    change ["content", "children"].Nodup
    decide
  obtain ⟨found, hfound, hfields⟩ := hform.exists_fields? hnames
  obtain _ | ⟨hfieldContent, _ | ⟨hfieldList, _ | _⟩⟩ := hfields
  have hfound : Json.fields? ["content", "children"] (.object members) = some [_, _] := hfound
  have hempty (h : isLeaf) : Json.listOrNull? (ofJson? room) list = some [] := by
    rw [hlist room, hleaf h]
    exact if_pos (Nat.zero_le room)
  rw [ofJson?, hfound]
  simp only [Option.bind_eq_bind, Option.bind_some, hfieldContent.required not_false,
    Mnemonic.ofJson?_of_writtenAs hcontent, hfieldList.optional hempty, hlist, Nat.add_le_add_iff_right]
  split <;> rfl

theorem mapM_ofJson? (h : List.Forall₂ (fun t v => ∀ room, ofJson? room v = within t room) ts items)
    (room : Nat) : items.mapM (ofJson? room) = if levelsOf ts ≤ room then some ts else none := by
  induction h with
  | nil => exact (if_pos (Nat.zero_le room)).symm
  | @cons t v ts items hfirst _ ih =>
    rw [List.mapM_cons, hfirst, ih, within, levelsOf]
    simp only [Nat.max_le]
    by_cases ht : t.levels ≤ room
    · by_cases hts : levelsOf ts ≤ room
      · simp only [ht, hts, and_self, if_true]
        rfl
      · simp only [ht, hts, and_false, if_true, if_false]
        rfl
    · simp only [ht, false_and, if_false]
      rfl

theorem inherited_ofJson? : Inherited fun t v => ∀ room, ofJson? room v = within t room where
  array hcontent hchildren hform := by
    refine ofJson?_object hcontent hform id fun room => ?_
    rw [Json.listOrNull?_array, mapM_ofJson? hchildren]
  null hcontent hform := by
    refine ofJson?_object hcontent hform (fun _ => rfl) fun room => ?_
    rw [Json.listOrNull?_null]
    exact (if_pos (Nat.zero_le room)).symm

/-! ### The form in which trees are written -/

mutual

theorem writtenAs_toJson : (t : Tree) → t.WrittenAs t.toJson
  | ⟨content, children⟩ => by
    rw [toJson]
    exact .array content.writtenAs_toJson (forall₂_toJsonList children)
      ⟨_, .written (.written .nil), .swap _ _ []⟩

theorem forall₂_toJsonList : (ts : List Tree) → List.Forall₂ WrittenAs ts (toJsonList ts)
  | [] => by
    rw [toJsonList]
    exact .nil
  | t :: rest => by
    rw [toJsonList]
    exact .cons (writtenAs_toJson t) (forall₂_toJsonList rest)

end

end Tree

/-! ## Forms of grammars -/

namespace Grammar

variable {g : Grammar} {v : Json}

def fields (common paths : Json) : List Json.Field :=
  [⟨"starTree", common, False⟩, ⟨"colonTree", paths, False⟩]

/-- The value is an object with forms of both trees. -/
def WrittenAs (g : Grammar) (v : Json) : Prop :=
  ∃ common paths members, g.common.WrittenAs common ∧ g.paths.WrittenAs paths ∧
    Json.FormOf (fields common paths) members ∧ v = .object members

/-- How many arrays and objects stand inside each other in every form of the grammar. -/
def levels (g : Grammar) : Nat := max g.common.levels g.paths.levels + 1

theorem nesting_of_writtenAs (h : g.WrittenAs v) : v.nesting = g.levels := by
  obtain ⟨common, paths, members, hcommon, hpaths, hform, rfl⟩ := h
  have hstar := Tree.inherited_nesting.of_writtenAs _ hcommon
  have hcolon := Tree.inherited_nesting.of_writtenAs _ hpaths
  have hle : Json.nestingMembers members ≤ max g.common.levels g.paths.levels := hform.nesting_le <|
    List.forall_mem_cons.2 ⟨hstar.le.trans (Nat.le_max_left _ _),
      List.forall_mem_singleton.2 (hcolon.le.trans (Nat.le_max_right _ _))⟩
  have hge : max g.common.levels g.paths.levels ≤ Json.nestingMembers members := Nat.max_le.2
    ⟨hstar.ge.trans (hform.le_nesting (f := ⟨"starTree", common, False⟩) (by simp [fields]) not_false),
      hcolon.ge.trans (hform.le_nesting (f := ⟨"colonTree", paths, False⟩) (by simp [fields]) not_false)⟩
  rw [Json.nesting, Nat.le_antisymm hle hge, levels]

theorem whole_of_writtenAs (h : g.WrittenAs v) : v.Whole := by
  obtain ⟨common, paths, members, hcommon, hpaths, hform, rfl⟩ := h
  exact hform.whole <| List.forall_mem_cons.2 ⟨Tree.inherited_whole.of_writtenAs _ hcommon,
    List.forall_mem_singleton.2 (Tree.inherited_whole.of_writtenAs _ hpaths)⟩

/-- If a reader can follow the levels of the grammar, all forms are read as it, and else none is. -/
theorem ofJson?_of_writtenAs (h : g.WrittenAs v) :
    ofJson? v = if g.levels ≤ Json.maxNesting then some g else none := by
  obtain ⟨common, paths, members, hcommon, hpaths, hform, rfl⟩ := h
  have hnames : ((fields common paths).map Json.Field.name).Nodup := by
    change ["starTree", "colonTree"].Nodup
    decide
  obtain ⟨found, hfound, hfields⟩ := hform.exists_fields? hnames
  obtain _ | ⟨hstar, _ | ⟨hcolon, _ | _⟩⟩ := hfields
  have hfound : Json.fields? ["starTree", "colonTree"] (.object members) = some [_, _] := hfound
  have hroom : g.levels ≤ Json.maxNesting ↔
      g.common.levels ≤ Json.maxNesting - 1 ∧ g.paths.levels ≤ Json.maxNesting - 1 :=
    Nat.succ_le_succ_iff.trans Nat.max_le
  rw [ofJson?, hfound]
  simp only [Option.bind_eq_bind, Option.bind_some, hstar.required not_false, hcolon.required not_false,
    Tree.inherited_ofJson?.of_writtenAs _ hcommon, Tree.inherited_ofJson?.of_writtenAs _ hpaths, Tree.within,
    hroom]
  by_cases hfits : g.common.levels ≤ Json.maxNesting - 1
  · by_cases hfits' : g.paths.levels ≤ Json.maxNesting - 1
    · simp only [hfits, hfits', and_self, if_true]
      rfl
    · simp only [hfits, hfits', and_false, if_true, if_false]
      rfl
  · simp only [hfits, false_and, if_false]
    rfl

theorem writtenAs_toJson (g : Grammar) : g.WrittenAs g.toJson :=
  ⟨_, _, _, g.common.writtenAs_toJson, g.paths.writtenAs_toJson,
    ⟨_, .written (.written .nil), .swap _ _ []⟩, rfl⟩

theorem ofText?_pretty_of_writtenAs (h : g.WrittenAs v) : Json.ofText? v.pretty.toList = some v := by
  rw [Json.ofText?_pretty, ((whole_of_writtenAs h).faithful (Nat.le_refl v.nesting)).asWritten]

theorem readText_of_le (h : g.WrittenAs v) {text : String} (htext : Json.ofText? text.toList = some v)
    (port : UInt16) (address : String) (hfits : g.levels ≤ Json.maxNesting) :
    Request.readText text (.commands port address) = .ok g := by
  rw [Request.readText, Request.readJson, htext, Option.bind_some, ofJson?_of_writtenAs h, if_pos hfits]

theorem exists_readText_of_lt (h : g.WrittenAs v) {text : String}
    (htext : Json.ofText? text.toList = some v) (port : UInt16) (address : String)
    (hdeep : Json.maxNesting < g.levels) : ∃ detail,
      Request.readText text (.commands port address) = .error (.unexpected "/api/commands" detail) := by
  rw [Request.readText, Request.readJson, htext, Option.bind_some, ofJson?_of_writtenAs h,
    if_neg (Nat.not_le_of_lt hdeep)]
  exact ⟨_, rfl⟩

/-- A document with any form of a grammar is read as that grammar, if a reader can follow the levels of
the grammar, which are the same in all forms. If not, the document is refused, whatever its form. Each
form has a document, and the form in which grammars are written is one of them. -/
theorem reads_every_form (g : Grammar) (port : UInt16) (address : String) :
    (∀ v text, g.WrittenAs v → Json.ofText? text.toList = some v →
      (g.levels ≤ Json.maxNesting → Request.readText text (.commands port address) = .ok g) ∧
      (Json.maxNesting < g.levels → ∃ detail, Request.readText text (.commands port address) =
        .error (.unexpected "/api/commands" detail))) ∧
    (∀ v, g.WrittenAs v → v.nesting = g.levels ∧ Json.ofText? v.pretty.toList = some v) ∧
    g.WrittenAs g.toJson ∧
    (g.levels ≤ Json.maxNesting →
      Request.readText g.toJson.pretty (.commands port address) = .ok g) := by
  refine ⟨fun v text hform htext => ?_, fun v hform => ?_, g.writtenAs_toJson, fun hfits => ?_⟩
  · exact ⟨readText_of_le hform htext port address, exists_readText_of_lt hform htext port address⟩
  · exact ⟨nesting_of_writtenAs hform, ofText?_pretty_of_writtenAs hform⟩
  · have hform := g.writtenAs_toJson
    exact readText_of_le hform (ofText?_pretty_of_writtenAs hform) port address hfits

/-- One common command, and channels 1 to 4. -/
def channels : Grammar where
  common := ⟨.plain "", [.leaf (.plain "*IDN?")]⟩
  paths := ⟨.plain "", [.leaf (.ranged "CHANnel" 1 4)]⟩

/-- A form in which the children of one leaf are `null` and those of the other left out. -/
def channelsSent : Json :=
  .object [("starTree", .object [("children", .array [.object [("children", .null),
        ("content", .object [("text", .string "*IDN?"), ("start", .nat 0), ("suffixed", .bool false)])]]),
      ("content", .object [("text", .string "")])]),
    ("colonTree", .object [("content", .object [("text", .string "")]),
      ("children", .array [.object [("content", .object [("text", .string "CHANnel"), ("start", .nat 1),
        ("stop", .nat 4), ("suffixed", .bool true)])]])])]

/-- Mnemonics below each other. -/
def chain : Nat → Tree
  | 0 => .leaf (.plain "OUTPut")
  | n + 1 => ⟨.plain "OUTPut", [chain n]⟩

/-- A grammar just too deep for a reader. -/
def tooDeep : Grammar := ⟨.leaf (.plain ""), chain 63⟩

theorem reads_every_form_channels : channels.WrittenAs channelsSent ∧
    channels.levels ≤ Json.maxNesting ∧
    Request.readText channelsSent.pretty (.commands 5025 "scope") = .ok channels ∧
    Json.maxNesting < tooDeep.levels ∧
    ∃ detail, Request.readText tooDeep.toJson.pretty (.commands 5025 "scope") =
      .error (.unexpected "/api/commands" detail) := by
  have hroot : (Mnemonic.plain "").WrittenAs (.object [("text", .string "")]) :=
    ⟨_, rfl, _, .written (.leftOut rfl (.leftOut rfl (.leftOut rfl .nil))), .refl _⟩
  have hidn : (Tree.leaf (.plain "*IDN?")).WrittenAs (.object [("children", .null), ("content",
      .object [("text", .string "*IDN?"), ("start", .nat 0), ("suffixed", .bool false)])]) :=
    .null ⟨_, rfl, _, .written (.written (.leftOut rfl (.written .nil))), .refl _⟩
      ⟨_, .written (.written .nil), .swap _ _ []⟩
  have hchannel : (Tree.leaf (.ranged "CHANnel" 1 4)).WrittenAs (.object [("content", .object
      [("text", .string "CHANnel"), ("start", .nat 1), ("stop", .nat 4), ("suffixed", .bool true)])]) :=
    .null ⟨_, rfl, _, .written (.written (.written (.written .nil))), .refl _⟩
      ⟨_, .written (.leftOut trivial .nil), .refl _⟩
  have hform : channels.WrittenAs channelsSent :=
    ⟨_, _, _, .array hroot (.cons hidn .nil) ⟨_, .written (.written .nil), .swap _ _ []⟩,
      .array hroot (.cons hchannel .nil) ⟨_, .written (.written .nil), .refl _⟩,
      ⟨_, .written (.written .nil), .refl _⟩, rfl⟩
  have hfits : channels.levels ≤ Json.maxNesting := by decide +kernel
  have hdeep : Json.maxNesting < tooDeep.levels := by decide +kernel
  obtain ⟨hreads, hdocuments, -⟩ := reads_every_form channels 5025 "scope"
  obtain ⟨hreadsDeep, hdocumentsDeep, htooDeep, -⟩ := reads_every_form tooDeep 5025 "scope"
  exact ⟨hform, hfits, (hreads _ _ hform (hdocuments _ hform).2).1 hfits, hdeep,
    (hreadsDeep _ _ htooDeep (hdocumentsDeep _ htooDeep).2).2 hdeep⟩

end Grammar

end ScpiConsole
