import Mathlib.Data.List.Forall2
import ScpiConsole.Proofs.Json.Canonical
import ScpiConsole.Proofs.Json.Doubles
import ScpiConsole.Proofs.Text.Utf8
/-!
# JSON is read back

Every text that was written from a value is a document. It is read as that value, but for numbers, which
come back as their own text is read. Strings come back whatever characters they hold.

* `Json.asWritten` : what is read from the text of a value
* `Json.Faithful` : values of a limited depth whose numbers are read back
* `Json.Whole` : values whose numbers are whole; `Whole.faithful` says that they are read back
* `pieces_quoted` : a string is read up to its closing quote
* `readsAs_asWritten` : a value is read up to the end of its text
* `ofText?_pretty`, `parse?_pretty` : a document is read, and a faithful one is read back
-/

namespace ScpiConsole.Json

/-! ## Values that are read back -/

/-- A value at most that deep whose numbers are read back. -/
inductive Faithful : Nat → Json → Prop where
  | null {depth : Nat} : Faithful depth .null
  | bool {depth : Nat} (b : Bool) : Faithful depth (.bool b)
  | number {depth : Nat} {n : Number} (h : n.ReadsBack) : Faithful depth (.number n)
  | string {depth : Nat} (s : String) : Faithful depth (.string s)
  | array {depth : Nat} {items : List Json} (h : ∀ v ∈ items, Faithful depth v) :
    Faithful (depth + 1) (.array items)
  | object {depth : Nat} {members : List (String × Json)} (h : ∀ m ∈ members, Faithful depth m.2) :
    Faithful (depth + 1) (.object members)

variable {depth : Nat} {v : Json}

theorem faithful_nat {n : Nat} (h : n < UInt64.size) : Faithful depth (.nat n) :=
  .number (readsBack_int (by omega) (by omega))

theorem Faithful.canonical (h : Faithful depth v) : Faithful depth v.canonical := by
  induction h with
  | null => exact .null
  | bool b => exact .bool b
  | number hn => exact .number hn
  | string s => exact .string s
  | array _ ih =>
    refine .array fun v hv => ?_
    rw [canonicalItems_eq_map] at hv
    obtain ⟨v', hv', rfl⟩ := List.mem_map.1 hv
    exact ih v' hv'
  | object _ ih =>
    refine .object fun m hm => ?_
    rcases exists_of_mem_canonicalMembers hm with hm | ⟨m', hm', rfl⟩
    · cases hm
    · exact ih m' hm'

theorem readableItems_eq_true {items : List Json} (h : ∀ v ∈ items, v.readable = true) :
    readableItems items = true := by
  induction items with
  | nil => rfl
  | cons v rest ih =>
    obtain ⟨hv, hrest⟩ := List.forall_mem_cons.1 h
    rw [readableItems, hv, ih hrest]
    rfl

theorem readableMembers_eq_true {members : List (String × Json)}
    (h : ∀ m ∈ members, m.2.readable = true) : readableMembers members = true := by
  induction members with
  | nil => rfl
  | cons m rest ih =>
    obtain ⟨hm, hrest⟩ := List.forall_mem_cons.1 h
    rw [readableMembers, hm, ih hrest]
    rfl

theorem nestingItems_le {items : List Json} (h : ∀ v ∈ items, v.nesting ≤ depth) :
    nestingItems items ≤ depth := by
  induction items with
  | nil => exact Nat.zero_le _
  | cons v rest ih =>
    obtain ⟨hv, hrest⟩ := List.forall_mem_cons.1 h
    exact Nat.max_le.2 ⟨hv, ih hrest⟩

theorem nestingMembers_le {members : List (String × Json)} (h : ∀ m ∈ members, m.2.nesting ≤ depth) :
    nestingMembers members ≤ depth := by
  induction members with
  | nil => exact Nat.zero_le _
  | cons m rest ih =>
    obtain ⟨hm, hrest⟩ := List.forall_mem_cons.1 h
    exact Nat.max_le.2 ⟨hm, ih hrest⟩

theorem Faithful.readable (h : Faithful depth v) : v.readable = true := by
  induction h with
  | array _ ih => exact readableItems_eq_true ih
  | object _ ih => exact readableMembers_eq_true ih
  | _ => rfl

theorem Faithful.nesting_le (h : Faithful depth v) : v.nesting ≤ depth := by
  induction h with
  | array _ ih => exact Nat.succ_le_succ (nestingItems_le ih)
  | object _ ih => exact Nat.succ_le_succ (nestingMembers_le ih)
  | _ => exact Nat.zero_le _

/-- A value whose numbers are whole, of 64 bits with or without a sign. -/
inductive Whole : Json → Prop where
  | null : Whole .null
  | bool (b : Bool) : Whole (.bool b)
  | number {n : Int} (hlow : -9223372036854775808 ≤ n) (hhigh : n < UInt64.size) :
    Whole (.number (.int n))
  | string (s : String) : Whole (.string s)
  | array {items : List Json} (h : ∀ v ∈ items, Whole v) : Whole (.array items)
  | object {members : List (String × Json)} (h : ∀ m ∈ members, Whole m.2) : Whole (.object members)

theorem nesting_le_nestingItems {items : List Json} (h : v ∈ items) :
    v.nesting ≤ nestingItems items := by
  induction items with
  | nil => cases h
  | cons first rest ih =>
    rw [nestingItems]
    rcases List.mem_cons.1 h with rfl | h
    · exact Nat.le_max_left _ _
    · exact Nat.le_trans (ih h) (Nat.le_max_right _ _)

theorem nesting_le_nestingMembers {members : List (String × Json)} {m : String × Json}
    (h : m ∈ members) : m.2.nesting ≤ nestingMembers members := by
  induction members with
  | nil => cases h
  | cons first rest ih =>
    rw [nestingMembers]
    rcases List.mem_cons.1 h with rfl | h
    · exact Nat.le_max_left _ _
    · exact Nat.le_trans (ih h) (Nat.le_max_right _ _)

theorem Whole.faithful (h : Whole v) (hdepth : v.nesting ≤ depth) : Faithful depth v := by
  induction h generalizing depth with
  | null => exact .null
  | bool b => exact .bool b
  | number hlow hhigh => exact .number (readsBack_int hlow hhigh)
  | string s => exact .string s
  | array _ ih =>
    rw [nesting] at hdepth
    cases depth with
    | zero => cases hdepth
    | succ depth =>
      refine .array fun v hv => ih v hv ?_
      exact Nat.le_trans (nesting_le_nestingItems hv) (Nat.le_of_succ_le_succ hdepth)
  | object _ ih =>
    rw [nesting] at hdepth
    cases depth with
    | zero => cases hdepth
    | succ depth =>
      refine .object fun m hm => ih m hm ?_
      exact Nat.le_trans (nesting_le_nestingMembers hm) (Nat.le_of_succ_le_succ hdepth)

/-! ## Values as they are read -/

/-- What the text of a number is read as. Beyond the largest double it denotes nothing. -/
def numberAsWritten (n : Number) : Json :=
  ((numeral? (numberText n)).bind fun p => p.1.value?.map Json.number).getD .unreadable

mutual

/-- What the text of a value is read as: the value, but for numbers whose text denotes another. -/
def asWritten : Json → Json
  | .number n => numberAsWritten n
  | .array items => .array (itemsAsWritten items)
  | .object members => .object (membersAsWritten members)
  | .unreadable => .null
  | v => v

def itemsAsWritten : List Json → List Json
  | [] => []
  | v :: rest => asWritten v :: itemsAsWritten rest

def membersAsWritten : List (String × Json) → List (String × Json)
  | [] => []
  | (k, v) :: rest => (k, asWritten v) :: membersAsWritten rest

end

theorem itemsAsWritten_eq_map (items : List Json) : itemsAsWritten items = items.map asWritten := by
  induction items with
  | nil => rfl
  | cons v rest ih => rw [itemsAsWritten, ih, List.map_cons]

theorem membersAsWritten_eq_map (members : List (String × Json)) :
    membersAsWritten members = members.map fun m => (m.1, m.2.asWritten) := by
  induction members with
  | nil => rfl
  | cons m rest ih => rw [membersAsWritten, ih, List.map_cons]

theorem Faithful.asWritten (h : Faithful depth v) : v.asWritten = v := by
  induction h with
  | null | bool | string => rfl
  | number hn =>
    obtain ⟨written, hread, hvalue⟩ := hn
    rw [Json.asWritten, numberAsWritten, hread, Option.bind_some, hvalue]
    rfl
  | array _ ih =>
    rw [Json.asWritten, itemsAsWritten_eq_map, List.map_congr_left ih, List.map_id']
  | object _ ih =>
    have hmembers := List.map_congr_left fun m hm => congrArg (Prod.mk m.1) (ih m hm)
    rw [Json.asWritten, membersAsWritten_eq_map, hmembers]
    exact congrArg Json.object (List.map_id' _)

/-! ## Strings -/

theorem pieces_plain {c : Char} (hquote : c ≠ '"') (hslash : c ≠ '\\') (hlow : ¬ c.toNat < 0x20)
    (s : List Char) : pieces (c :: s) = (pieces s).map fun p => (.char c :: p.1, p.2) := by
  rw [pieces]
  · rw [if_neg (by simp [hslash, hlow])]
    cases pieces s <;> rfl
  · exact hquote
  · exact fun _ _ _ _ _ h _ => hslash h
  · exact fun _ _ h _ => hslash h

theorem pieces_escaped {c d : Char} (hu : c ≠ 'u') (hc : escaped c = some d) (s : List Char) :
    pieces ('\\' :: c :: s) = (pieces s).map fun p => (.char d :: p.1, p.2) := by
  rw [pieces]
  · rw [hc]
    cases pieces s <;> rfl
  · exact fun _ _ _ _ _ h _ => hu h

theorem pieces_codeUnit {a b c d : Char} {unit : Nat} (hunit : codeUnit a b c d = some unit)
    (hplain : ¬ (0xD800 ≤ unit ∧ unit ≤ 0xDFFF)) (s : List Char) :
    pieces ('\\' :: 'u' :: a :: b :: c :: d :: s) =
      (pieces s).map fun p => (.char (Char.ofNat unit) :: p.1, p.2) := by
  rw [pieces, hunit]
  cases pieces s with
  | none => rfl
  | some p => simp [hplain]

/-- A character is read from the form that it has in a string. -/
theorem pieces_escapeChar (c : Char) (s : List Char) :
    pieces (escapeChar c ++ s) = (pieces s).map fun p => (.char c :: p.1, p.2) := by
  unfold escapeChar
  -- Seven characters have a letter or a sign that stands for them.
  iterate 7
    split
    · next h => subst h; exact pieces_escaped (by decide) rfl s
  split
  · next hlow =>
    have hunit : codeUnit '0' '0' (Text.hexDigit false (c.toNat / 16))
        (Text.hexDigit false (c.toNat % 16)) = some c.toNat := by
      have hzero : Text.hexValue '0' = some 0 := rfl
      have hsum : ((0 * 16 + 0) * 16 + c.toNat / 16) * 16 + c.toNat % 16 = c.toNat := by omega
      simp only [codeUnit, hzero, Text.hexValue_hexDigit false (show c.toNat / 16 < 16 by omega),
        Text.hexValue_hexDigit false (show c.toNat % 16 < 16 by omega), Option.bind_eq_bind, Option.bind_some,
        hsum]
      rfl
    have hread := pieces_codeUnit hunit (by omega) s
    rwa [Char.ofNat_toNat] at hread
  · next hquote hslash _ _ _ _ _ hlow => exact pieces_plain hquote hslash hlow s

/-- A string is read up to its closing quote. -/
theorem pieces_quoted (text s : List Char) :
    pieces (text.flatMap escapeChar ++ '"' :: s) = some (text.map .char, s) := by
  induction text with
  | nil => rfl
  | cons c text ih =>
    rw [List.flatMap_cons, List.append_assoc, pieces_escapeChar, ih]
    rfl

theorem joinPieces_map_char (text : List Char) : joinPieces (text.map .char) = some text := by
  induction text with
  | nil => rfl
  | cons c text ih => rw [List.map_cons, joinPieces, ih, Option.map_some]

/-! ## Values -/

@[simp] theorem skip_nil : skip [] = [] := rfl

theorem skip_cons {c : Char} (h : isSpace c = false) (s : List Char) : skip (c :: s) = c :: s :=
  List.dropWhile_cons_of_neg (by simp [h])

/-- The blanks of a new line are passed over. -/
theorem skip_newLine (level : Nat) (s : List Char) : skip (newLine level ++ s) = skip s := by
  have hblanks : ∀ c ∈ newLine level, isSpace c = true := by
    intro c hc
    rcases List.mem_cons.1 hc with rfl | hc
    · rfl
    · obtain rfl := List.eq_of_mem_replicate hc
      rfl
  exact List.dropWhile_append_of_pos hblanks

/-- What a value begins with: no blank and no closing bracket. -/
def leads (c : Char) : Bool := !isSpace c && c != ']'

theorem leads_of_digit {c : Char} (h : c = '-' ∨ Text.isDigit c = true) : leads c = true := by
  rcases h with rfl | h
  · rfl
  have hne (d : Char) (hd : Text.isDigit d = false) : c ≠ d := by
    rintro rfl
    cases h.symm.trans hd
  simp [leads, isSpace, hne ' ' rfl, hne '\t' rfl, hne '\n' rfl, hne '\r' rfl, hne ']' rfl]

theorem exists_cons_prettyAt (v : Json) (level : Nat) :
    ∃ c s, prettyAt level v = c :: s ∧ leads c = true := by
  cases v with
  | null | unreadable => exact ⟨'n', _, rfl, rfl⟩
  | bool b => cases b <;> exact ⟨_, _, rfl, rfl⟩
  | number n =>
    obtain ⟨written, hread⟩ := numberText_numeral n
    obtain ⟨c, s, hs, hc⟩ := head_of_numeral? hread
    exact ⟨c, s, hs, leads_of_digit hc⟩
  | string s => exact ⟨'"', _, rfl, rfl⟩
  | array items => cases items <;> exact ⟨'[', _, rfl, rfl⟩
  | object members => rcases members with _ | ⟨⟨k, v⟩, rest⟩ <;> exact ⟨'{', _, rfl, rfl⟩

/-- A sign or a digit begins a number. -/
theorem value_of_digit {c : Char} (hc : c = '-' ∨ Text.isDigit c = true) (n : Nat) (s : List Char) :
    value (n + 1) (c :: s) =
      (numeral? (c :: s)).map fun p => ((p.1.value?.map Json.number).getD .unreadable, p.2) := by
  have hne (d : Char) (hminus : d ≠ '-') (hd : Text.isDigit d = false) : c ≠ d := by
    rintro rfl
    rcases hc with hc | hc
    · exact hminus hc
    · cases hc.symm.trans hd
  have hskip : skip (c :: s) = c :: s := by
    have hlead := leads_of_digit hc
    rw [leads, Bool.and_eq_true, Bool.not_eq_true'] at hlead
    exact skip_cons hlead.1 s
  rw [value, hskip]
  split
  · next h => exact absurd (List.cons.inj h).1 (hne 'n' (by decide) rfl)
  · next h => exact absurd (List.cons.inj h).1 (hne 't' (by decide) rfl)
  · next h => exact absurd (List.cons.inj h).1 (hne 'f' (by decide) rfl)
  · next h => exact absurd (List.cons.inj h).1 (hne '"' (by decide) rfl)
  · next h => exact absurd (List.cons.inj h).1 (hne '[' (by decide) rfl)
  · next h => exact absurd (List.cons.inj h).1 (hne '{' (by decide) rfl)
  · cases numeral? (c :: s) <;> rfl

theorem value_number (n : Number) {rest : List Char} (hrest : EndsNumber rest) (fuel : Nat) :
    value (fuel + 1) (numberText n ++ rest) = some (numberAsWritten n, rest) := by
  obtain ⟨written, hread⟩ := numberText_numeral n
  obtain ⟨c, s, hs, hc⟩ := head_of_numeral? hread
  have happend := numeral?_append hrest hread
  rw [numberAsWritten, hread]
  rw [hs] at happend ⊢
  rw [List.cons_append] at happend ⊢
  rw [value_of_digit hc, happend]
  rfl

theorem quote_append (s : String) (rest : List Char) :
    quote s ++ rest = '"' :: (s.toList.flatMap escapeChar ++ '"' :: rest) := by
  simp [quote]

theorem value_string (s : String) (rest : List Char) (fuel : Nat) :
    value (fuel + 1) (quote s ++ rest) = some (.string s, rest) := by
  rw [quote_append, value, skip_cons rfl]
  show (pieces (s.toList.flatMap escapeChar ++ '"' :: rest)).bind _ = _
  rw [pieces_quoted, Option.bind_some]
  show some ((Option.map (fun t => Json.string (.ofList t)) (joinPieces _)).getD .unreadable, rest) = _
  rw [joinPieces_map_char, Option.map_some, Option.getD_some, String.ofList_toList]

theorem value_newLine (level n : Nat) (s : List Char) : value n (newLine level ++ s) = value n s := by
  cases n with
  | zero => rfl
  | succ n => rw [value, value, skip_newLine]

theorem value_space (n : Nat) (s : List Char) : value n (' ' :: s) = value n s := by
  cases n with
  | zero => rfl
  | succ n => rfl

theorem endsNumber_newLine (level : Nat) (s : List Char) : EndsNumber (newLine level ++ s) :=
  endsNumber_cons (by decide) _

theorem items_newLine (level n : Nat) (s : List Char) : items n (newLine level ++ s) = items n s := by
  cases n with
  | zero => rfl
  | succ n => rw [items, items, value_newLine]

theorem members_newLine (level n : Nat) (s : List Char) :
    members n (newLine level ++ s) = members n s := by
  cases n with
  | zero => rfl
  | succ n => rw [members, members, skip_newLine]

/-- An array that is not closed at once is read item by item. -/
theorem value_bracket {s t : List Char} {c : Char} (h : skip s = c :: t) (hc : c ≠ ']') (n : Nat) :
    value (n + 1) ('[' :: s) = (items n (c :: t)).map fun p => (.array p.1, p.2) := by
  rw [value, skip_cons rfl]
  simp only [h]
  split
  · next heq => exact absurd (List.cons.inj heq).1 hc
  · cases items n (c :: t) <;> rfl

/-- An object that is not closed at once is read member by member. -/
theorem value_brace {s t : List Char} {c : Char} (h : skip s = c :: t) (hc : c ≠ '}') (n : Nat) :
    value (n + 1) ('{' :: s) =
      (members n (c :: t)).map fun p => ((p.1.map Json.object).getD .unreadable, p.2) := by
  rw [value, skip_cons rfl]
  simp only [h]
  split
  · next heq => exact absurd (List.cons.inj heq).1 hc
  · cases members n (c :: t) <;> rfl

/-- The text of the value at that level is read as the other, within as many steps as it is long. -/
def ReadsAs (level : Nat) (v v' : Json) : Prop :=
  ∀ n rest, EndsNumber rest → (prettyAt level v).length ≤ n →
    value n (prettyAt level v ++ rest) = some (v', rest)

theorem endsNumber_prettyItems (level below : Nat) (more : List Json) (s : List Char) :
    EndsNumber (prettyItems level more ++ (newLine below ++ s)) := by
  cases more with
  | nil => exact endsNumber_newLine below s
  | cons v more => exact endsNumber_cons (by decide) _

theorem endsNumber_prettyMembers (level below : Nat) (more : List (String × Json)) (s : List Char) :
    EndsNumber (prettyMembers level more ++ (newLine below ++ s)) := by
  cases more with
  | nil => exact endsNumber_newLine below s
  | cons m more => exact endsNumber_cons (by decide) _

/-- The items of an array are read, from one of them up to the closing bracket. -/
theorem items_pretty {level n : Nat} {v v' : Json} {more more' : List Json} (hv : ReadsAs level v v')
    (hmore : List.Forall₂ (ReadsAs level) more more')
    (hn : (prettyAt level v).length + (prettyItems level more).length < n) (below : Nat)
    (rest : List Char) :
    items n (newLine level ++ (prettyAt level v ++ (prettyItems level more ++
      (newLine below ++ ']' :: rest)))) = some (v' :: more', rest) := by
  -- Each item costs one step, and its text is longer than that. So the steps that are left suffice.
  induction hmore generalizing v v' n with
  | nil =>
    cases n with
    | zero => omega
    | succ n =>
      have hread := hv n _ (endsNumber_prettyItems level below [] (']' :: rest)) (by omega)
      rw [items, value_newLine, hread]
      simp only [prettyItems, List.nil_append, Option.bind_eq_bind, Option.bind_some, skip_newLine]
      rfl
  | @cons next next' more more' hnext hmore ih =>
    have hlength : (prettyItems level (next :: more)).length = 1 + (newLine level).length +
        (prettyAt level next).length + (prettyItems level more).length := by
      simp only [prettyItems, List.length_cons, List.length_append]
      omega
    cases n with
    | zero => omega
    | succ n =>
      have hread := hv n _ (endsNumber_prettyItems level below (next :: more) (']' :: rest)) (by omega)
      have hrest := ih (n := n) hnext (by omega)
      rw [items, value_newLine, hread]
      simp only [prettyItems, List.cons_append, List.append_assoc, Option.bind_eq_bind,
        Option.bind_some, skip_cons (show isSpace ',' = false from rfl), hrest]
      rfl

/-- The names agree, and the text of one value is read as the other. -/
def MemberReadsAs (level : Nat) (m m' : String × Json) : Prop :=
  m.1 = m'.1 ∧ ReadsAs level m.2 m'.2

/-- The members of an object are read, from one of them up to the closing brace. -/
theorem members_pretty {level n : Nat} {m m' : String × Json} {more more' : List (String × Json)}
    (hm : MemberReadsAs level m m') (hmore : List.Forall₂ (MemberReadsAs level) more more')
    (hn : (prettyAt level m.2).length + (prettyMembers level more).length < n) (below : Nat)
    (rest : List Char) :
    members n (newLine level ++ (quote m.1 ++ ':' :: ' ' :: (prettyAt level m.2 ++
      (prettyMembers level more ++ (newLine below ++ '}' :: rest))))) =
        some (some (m' :: more'), rest) := by
  induction hmore generalizing m m' n with
  | nil =>
    obtain ⟨k, v'⟩ := m'
    obtain ⟨rfl, hv⟩ := hm
    cases n with
    | zero => omega
    | succ n =>
      have hread := hv n _ (endsNumber_prettyMembers level below [] ('}' :: rest)) (by omega)
      rw [members, skip_newLine, quote_append, skip_cons rfl]
      simp only [pieces_quoted, joinPieces_map_char, Option.bind_eq_bind, Option.bind_some,
        skip_cons (show isSpace ':' = false from rfl), value_space, hread]
      simp only [prettyMembers, List.nil_append, skip_newLine, Option.map_some,
        String.ofList_toList]
      rfl
  | @cons next next' more more' hnext hmore ih =>
    have hlength : (prettyMembers level (next :: more)).length = 3 + (newLine level).length +
        (quote next.1).length + (prettyAt level next.2).length + (prettyMembers level more).length := by
      simp only [prettyMembers, List.length_cons, List.length_append]
      omega
    obtain ⟨k, v'⟩ := m'
    obtain ⟨rfl, hv⟩ := hm
    cases n with
    | zero => omega
    | succ n =>
      have hread := hv n _ (endsNumber_prettyMembers level below (next :: more) ('}' :: rest)) (by omega)
      have hrest := ih (n := n) hnext (by omega)
      rw [members, skip_newLine, quote_append, skip_cons rfl]
      simp only [pieces_quoted, joinPieces_map_char, Option.bind_eq_bind, Option.bind_some,
        skip_cons (show isSpace ':' = false from rfl), value_space, hread]
      simp only [prettyMembers, List.cons_append, List.append_assoc,
        skip_cons (show isSpace ',' = false from rfl), hrest, Option.bind_some, Option.map_some,
        String.ofList_toList]
      rfl

/-- At least one step is left, since no text is empty. -/
theorem readsAs_of_succ {level : Nat} {v' : Json}
    (h : ∀ n rest, EndsNumber rest → (prettyAt level v).length ≤ n + 1 →
      value (n + 1) (prettyAt level v ++ rest) = some (v', rest)) : ReadsAs level v v' := by
  intro n rest hrest hn
  obtain ⟨c, s, htext, -⟩ := exists_cons_prettyAt v level
  cases n with
  | zero =>
    rw [htext] at hn
    cases hn
  | succ n => exact h n rest hrest hn

theorem readsAs_array {level : Nat} {items items' : List Json}
    (h : List.Forall₂ (ReadsAs (level + 1)) items items') :
    ReadsAs level (.array items) (.array items') := by
  refine readsAs_of_succ fun n rest _ hn => ?_
  cases h with
  | nil => rfl
  | @cons v v' more more' hv hmore =>
    obtain ⟨c, s, htext, hlead⟩ := exists_cons_prettyAt v (level + 1)
    rw [leads, Bool.and_eq_true, Bool.not_eq_true', bne_iff_ne] at hlead
    have hsplit : prettyAt level (.array (v :: more)) ++ rest = '[' :: (newLine (level + 1) ++
        (prettyAt (level + 1) v ++ (prettyItems (level + 1) more ++ (newLine level ++
          ']' :: rest)))) := by simp [prettyAt]
    simp only [prettyAt, List.cons_append, List.length_cons, List.length_append] at hn
    have hread := items_pretty (n := n) hv hmore (by omega) level rest
    rw [items_newLine, htext, List.cons_append] at hread
    have hskip := (skip_newLine (level + 1) _).trans (skip_cons hlead.1 (s ++
      (prettyItems (level + 1) more ++ (newLine level ++ ']' :: rest))))
    rw [hsplit, htext, List.cons_append, value_bracket hskip hlead.2, hread]
    rfl

theorem readsAs_object {level : Nat} {members members' : List (String × Json)}
    (h : List.Forall₂ (MemberReadsAs (level + 1)) members members') :
    ReadsAs level (.object members) (.object members') := by
  refine readsAs_of_succ fun n rest _ hn => ?_
  cases h with
  | nil => rfl
  | @cons m m' more more' hm hmore =>
    obtain ⟨k, v⟩ := m
    have hsplit : prettyAt level (.object ((k, v) :: more)) ++ rest = '{' :: (newLine (level + 1) ++
        (quote k ++ ':' :: ' ' :: (prettyAt (level + 1) v ++ (prettyMembers (level + 1) more ++
          (newLine level ++ '}' :: rest))))) := by simp [prettyAt]
    simp only [prettyAt, List.cons_append, List.length_cons, List.length_append] at hn
    have hread := members_pretty (n := n) hm hmore (by dsimp only; omega) level rest
    rw [members_newLine, quote_append] at hread
    have hskip := (skip_newLine (level + 1) _).trans (skip_cons (c := '"') rfl
      (k.toList.flatMap escapeChar ++ '"' :: ':' :: ' ' :: (prettyAt (level + 1) v ++
        (prettyMembers (level + 1) more ++ (newLine level ++ '}' :: rest)))))
    rw [hsplit, quote_append, value_brace hskip (by decide), hread]
    rfl

mutual

/-- Every value is read from its indented text, as far as that text goes. -/
theorem readsAs_asWritten : (v : Json) → (level : Nat) → ReadsAs level v v.asWritten
  | .null, _ | .unreadable, _ => readsAs_of_succ fun _ _ _ _ => rfl
  | .bool b, _ => readsAs_of_succ fun _ _ _ _ => by cases b <;> rfl
  | .number n, _ => readsAs_of_succ fun fuel _ hrest _ => value_number n hrest fuel
  | .string s, _ => readsAs_of_succ fun n rest _ _ => value_string s rest n
  | .array items, level => readsAs_array (readsAs_itemsAsWritten items (level + 1))
  | .object members, level => readsAs_object (readsAs_membersAsWritten members (level + 1))

theorem readsAs_itemsAsWritten : (items : List Json) → (level : Nat) →
    List.Forall₂ (ReadsAs level) items (itemsAsWritten items)
  | [], _ => .nil
  | v :: rest, level => .cons (readsAs_asWritten v level) (readsAs_itemsAsWritten rest level)

theorem readsAs_membersAsWritten : (members : List (String × Json)) → (level : Nat) →
    List.Forall₂ (MemberReadsAs level) members (membersAsWritten members)
  | [], _ => .nil
  | (_, v) :: rest, level =>
    .cons ⟨rfl, readsAs_asWritten v level⟩ (readsAs_membersAsWritten rest level)

end

/-- Whatever is written is a document. -/
theorem ofText?_pretty (v : Json) : ofText? v.pretty.toList = some v.asWritten := by
  have hread := readsAs_asWritten v 0 (2 * (prettyAt 0 v).length + 2) [] endsNumber_nil (by omega)
  rw [List.append_nil] at hread
  simp only [ofText?, pretty, String.toList_ofList, hread, skip_nil]
  rfl

/-- A document is read back, in canonical form. -/
theorem parse?_pretty (h : Faithful maxNesting v) : parse? v.pretty = some v.canonical := by
  rw [parse?, ofText?_pretty, h.asWritten, Option.bind_eq_bind, Option.bind_some, h.readable,
    decide_eq_true h.nesting_le]
  rfl

end ScpiConsole.Json
