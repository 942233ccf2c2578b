import Mathlib.Data.List.Induction
import Mathlib.Data.Nat.Digits.Defs
import ScpiConsole.Preferences
import ScpiConsole.Server.Message
/-!
# Numbers that an operator types

A typed port or timeout is a whole number in decimal digits, maybe with a sign and blanks around it.
What comes out is its value, or one of two refusals, each for exactly one reason. The text in which a
server gives its port is read by other means, with the same result.

* `Text.Literal` : the texts of whole numbers, with their values
* `Text.readInt_eq_some_iff` : the reader accepts these and gives their value
* `readWithin_cases` : all that a typed number can come to
* `ReadExactly` : a result is right for a typed text
* `typed_numbers` : ports and timeouts are read exactly, and both readers of ports agree
-/

namespace ScpiConsole

namespace Text

/-! ## Literals -/

/-- One or more decimal digits of that value, leading zeros allowed. -/
structure Digits (digits : List Char) (n : Nat) : Prop where
  ne_nil : digits ≠ []
  isDigit : ∀ c ∈ digits, isDigit c = true
  value : Nat.ofDigits 10 (digits.reverse.map digitValue) = n

/-- Digits, with a sign before them or none. -/
inductive Literal : List Char → Int → Prop where
  | bare {digits : List Char} {n : Nat} (h : Digits digits n) : Literal digits n
  | plus {digits : List Char} {n : Nat} (h : Digits digits n) : Literal ('+' :: digits) n
  | minus {digits : List Char} {n : Nat} (h : Digits digits n) : Literal ('-' :: digits) (-n)

variable {s : List Char} {k : Nat} {n m : Int}

/-- Reading from the left, each digit makes ten times as much of those before it. -/
theorem digitsValue_eq_ofDigits (digits : List Char) :
    digitsValue digits = Nat.ofDigits 10 (digits.reverse.map digitValue) := by
  induction digits using List.reverseRecOn with
  | nil => rfl
  | append_singleton digits c ih =>
    have hlast : digitsValue (digits ++ [c]) = 10 * digitsValue digits + digitValue c := by
      rw [digitsValue, List.foldl_append]
      rfl
    rw [hlast, ih, List.reverse_append, List.reverse_singleton, List.singleton_append, List.map_cons,
      Nat.ofDigits_cons, Nat.add_comm]

theorem readNat_eq_some_iff : readNat s = some k ↔ Digits s k := by
  unfold readNat
  split
  · next h =>
    rw [Bool.and_eq_true, Bool.not_eq_true', List.isEmpty_eq_false_iff, List.all_eq_true] at h
    rw [Option.some.injEq, digitsValue_eq_ofDigits]
    exact ⟨fun hvalue => ⟨h.1, h.2, hvalue⟩, Digits.value⟩
  · next h =>
    refine iff_of_false (by simp) fun hdigits => h ?_
    rw [Bool.and_eq_true, Bool.not_eq_true', List.isEmpty_eq_false_iff, List.all_eq_true]
    exact ⟨hdigits.ne_nil, hdigits.isDigit⟩

theorem not_digits_cons {c : Char} (hc : isDigit c = false) (rest : List Char) (k : Nat) :
    ¬ Digits (c :: rest) k := by
  intro h
  have hdigit := h.isDigit c List.mem_cons_self
  rw [hc] at hdigit
  cases hdigit

theorem map_readNat_eq_some_iff {f : Nat → Int} :
    (readNat s).map f = some n ↔ ∃ k, Digits s k ∧ f k = n := by
  rw [Option.map_eq_some_iff]
  simp only [readNat_eq_some_iff]

/-- The reader accepts the literals, each with its value. -/
theorem readInt_eq_some_iff : readInt s = some n ↔ Literal s n := by
  unfold readInt
  split
  · rw [map_readNat_eq_some_iff]
    constructor
    · rintro ⟨k, hk, rfl⟩
      exact .plus hk
    · intro h
      cases h with
      | bare h => exact absurd h (not_digits_cons rfl _ _)
      | plus h => exact ⟨_, h, rfl⟩
  · rw [map_readNat_eq_some_iff]
    constructor
    · rintro ⟨k, hk, rfl⟩
      exact .minus hk
    · intro h
      cases h with
      | bare h => exact absurd h (not_digits_cons rfl _ _)
      | minus h => exact ⟨_, h, rfl⟩
  · next hplus hminus =>
    rw [map_readNat_eq_some_iff]
    constructor
    · rintro ⟨k, hk, rfl⟩
      exact .bare hk
    · intro h
      cases h with
      | bare h => exact ⟨_, h, rfl⟩
      | plus h => exact absurd rfl (hplus _)
      | minus h => exact absurd rfl (hminus _)

theorem Literal.inj (hn : Literal s n) (hm : Literal s m) : n = m := by
  rw [← readInt_eq_some_iff] at hn hm
  exact Option.some.inj (hn.symm.trans hm)

/-- Without a minus sign the readers of whole and of natural numbers do the same. -/
theorem readUnsigned_eq_some_iff_of_pos (hk : 0 < k) : readUnsigned s = some k ↔ Literal s k := by
  rw [← readInt_eq_some_iff]
  unfold readInt readUnsigned
  have hmap (r : List Char) : (readNat r).map Int.ofNat = some (k : Int) ↔ readNat r = some k := by
    rw [Option.map_eq_some_iff]
    constructor
    · rintro ⟨j, hj, hjk⟩
      rw [hj, Int.ofNat.inj hjk]
    · exact fun h => ⟨k, h, rfl⟩
  split
  · exact (hmap _).symm
  · next rest hplus =>
    split
    · next heq => exact absurd rfl (hplus _)
    · next digits =>
      -- No digits begin with a minus sign, and nothing behind one is positive.
      refine iff_of_false (fun h => ?_) fun h => ?_
      · exact not_digits_cons rfl digits k (readNat_eq_some_iff.1 h)
      · obtain ⟨j, -, hj⟩ := Option.map_eq_some_iff.1 h
        rw [Int.ofNat_eq_natCast] at hj
        omega
    · exact (hmap _).symm

end Text

/-! ## Typed numbers -/

/-- A whole number of 64 bits with a sign. -/
def Representable (n : Int) : Prop := -9223372036854775808 ≤ n ∧ n ≤ 9223372036854775807

/-- The number is from 1 up to the limit. -/
def Limits.Within (limits : Limits) (n : Int) : Prop := 1 ≤ n ∧ n ≤ limits.most

/-- The text, without the blanks around it, is a whole number of 64 bits of that value. -/
def IsNumber (input : String) (n : Int) : Prop :=
  Text.Literal (Text.trim input.toList) n ∧ Representable n

variable {limits : Limits} {input : String} {n m : Int}

theorem IsNumber.inj (hn : IsNumber input n) (hm : IsNumber input m) : n = m := hn.1.inj hm.1

theorem readWhole_cases (limits : Limits) (input : String) :
    (∃ n, IsNumber input n ∧ readWhole limits input = .ok n) ∨
    ((¬ ∃ n, IsNumber input n) ∧ readWhole limits input = .error (.notInteger limits input)) := by
  unfold readWhole
  split
  · next n hread =>
    rw [Text.readInt_eq_some_iff] at hread
    split
    · next hfits => exact .inl ⟨n, ⟨hread, hfits.1, by omega⟩, rfl⟩
    · next hfits =>
      refine .inr ⟨?_, rfl⟩
      rintro ⟨m, hm, hlow, hhigh⟩
      obtain rfl := hread.inj hm
      exact hfits ⟨hlow, by omega⟩
  · next hread =>
    refine .inr ⟨?_, rfl⟩
    rintro ⟨m, hm, -⟩
    rw [Text.readInt_eq_some_iff.2 hm] at hread
    cases hread

/-- All that a typed number can come to: its value, a value beyond the limits, or no value. -/
theorem readWithin_cases (limits : Limits) (input : String) :
    (∃ k : Nat, IsNumber input k ∧ limits.Within k ∧ readWithin limits input = .ok k) ∨
    (∃ n, IsNumber input n ∧ ¬ limits.Within n ∧
      readWithin limits input = .error (.outOfRange limits n)) ∨
    ((¬ ∃ n, IsNumber input n) ∧ readWithin limits input = .error (.notInteger limits input)) := by
  unfold readWithin
  rcases readWhole_cases limits input with ⟨n, hn, hread⟩ | ⟨hnone, hread⟩
  · rw [hread]
    by_cases hwithin : limits.Within n
    · obtain ⟨k, rfl⟩ := Int.eq_ofNat_of_zero_le (Int.le_trans (by decide) hwithin.1)
      exact .inl ⟨k, hn, hwithin, if_pos hwithin⟩
    · exact .inr (.inl ⟨n, hn, hwithin, if_neg hwithin⟩)
  · rw [hread]
    exact .inr (.inr ⟨hnone, rfl⟩)

theorem readWithin_eq_ok_iff {k : Nat} :
    readWithin limits input = .ok k ↔ IsNumber input k ∧ limits.Within k := by
  rcases readWithin_cases limits input with ⟨j, hj, hwithin, hread⟩ | ⟨n, hn, hbeyond, hread⟩ |
    ⟨hnone, hread⟩ <;> rw [hread]
  · rw [Except.ok.injEq]
    constructor
    · rintro rfl
      exact ⟨hj, hwithin⟩
    · rintro ⟨hk, -⟩
      exact Int.ofNat.inj (hj.inj hk)
  · refine iff_of_false (by simp) ?_
    rintro ⟨hk, hwithin⟩
    exact hbeyond (hn.inj hk ▸ hwithin)
  · refine iff_of_false (by simp) ?_
    rintro ⟨hk, -⟩
    exact hnone ⟨k, hk⟩

theorem readWithin_eq_outOfRange_iff {l : Limits} :
    readWithin limits input = .error (.outOfRange l n) ↔
      l = limits ∧ IsNumber input n ∧ ¬ limits.Within n := by
  rcases readWithin_cases limits input with ⟨k, hk, hwithin, hread⟩ | ⟨m, hm, hbeyond, hread⟩ |
    ⟨hnone, hread⟩ <;> rw [hread]
  · refine iff_of_false (by simp) ?_
    rintro ⟨-, hn, hbeyond⟩
    exact hbeyond (hk.inj hn ▸ hwithin)
  · rw [Except.error.injEq, InputError.outOfRange.injEq]
    constructor
    · rintro ⟨rfl, rfl⟩
      exact ⟨rfl, hm, hbeyond⟩
    · rintro ⟨rfl, hn, -⟩
      exact ⟨rfl, hm.inj hn⟩
  · refine iff_of_false (by simp) ?_
    rintro ⟨-, hn, -⟩
    exact hnone ⟨n, hn⟩

theorem readWithin_eq_notInteger_iff {l : Limits} {text : String} :
    readWithin limits input = .error (.notInteger l text) ↔
      l = limits ∧ text = input ∧ ¬ ∃ n, IsNumber input n := by
  rcases readWithin_cases limits input with ⟨k, hk, -, hread⟩ | ⟨m, hm, -, hread⟩ | ⟨hnone, hread⟩ <;>
    rw [hread]
  · refine iff_of_false (by simp) ?_
    rintro ⟨-, -, hnone⟩
    exact hnone ⟨k, hk⟩
  · refine iff_of_false (by simp) ?_
    rintro ⟨-, -, hnone⟩
    exact hnone ⟨m, hm⟩
  · rw [Except.error.injEq, InputError.notInteger.injEq]
    constructor
    · rintro ⟨rfl, rfl⟩
      exact ⟨rfl, rfl, hnone⟩
    · rintro ⟨rfl, rfl, -⟩
      exact ⟨rfl, rfl⟩

/-! ## Words of fewer bits -/

/-- What a typed text comes to is right: its number within the limits, the number that is beyond them,
or, when it is no number, the text itself as it was typed. -/
structure ReadExactly {α : Type} (limits : Limits) (toNat : α → Nat) (input : String)
    (result : Except InputError α) : Prop where
  ok_iff : ∀ n : Int, (∃ a, result = .ok a ∧ (toNat a : Int) = n) ↔
    Text.Literal (Text.trim input.toList) n ∧ limits.Within n
  outOfRange_iff : ∀ l n, result = .error (.outOfRange l n) ↔
    l = limits ∧ IsNumber input n ∧ ¬ limits.Within n
  notInteger_iff : ∀ l text, result = .error (.notInteger l text) ↔
    l = limits ∧ text = input ∧ ¬ ∃ n, IsNumber input n

theorem map_eq_error_iff {ε α β : Type} {f : α → β} {x : Except ε α} {e : ε} :
    x.map f = .error e ↔ x = .error e := by
  cases x <;> simp [Except.map]

/-- A number within the limits is kept by a narrower type that has room for it. -/
theorem readExactly_map {α : Type} {toNat : α → Nat} {narrow : Nat → α}
    (hnarrow : ∀ n ≤ limits.most, toNat (narrow n) = n) (hmost : limits.most ≤ 9223372036854775807)
    (input : String) :
    ReadExactly limits toNat input ((readWithin limits input).map narrow) where
  ok_iff n := by
    constructor
    · rintro ⟨a, ha, rfl⟩
      cases hread : readWithin limits input with
      | error e =>
        rw [hread] at ha
        cases ha
      | ok k =>
        rw [hread] at ha
        obtain rfl := Except.ok.inj ha
        obtain ⟨hk, hwithin⟩ := readWithin_eq_ok_iff.1 hread
        rw [hnarrow k (Int.ofNat_le.1 hwithin.2)]
        exact ⟨hk.1, hwithin⟩
    · rintro ⟨hliteral, hwithin⟩
      obtain ⟨k, rfl⟩ := Int.eq_ofNat_of_zero_le (Int.le_trans (by decide) hwithin.1)
      have hle : k ≤ limits.most := Int.ofNat_le.1 hwithin.2
      have hk : IsNumber input k := ⟨hliteral, by omega, by omega⟩
      refine ⟨narrow k, ?_, congrArg Int.ofNat (hnarrow k hle)⟩
      rw [readWithin_eq_ok_iff.2 ⟨hk, hwithin⟩]
      rfl
  outOfRange_iff l n := map_eq_error_iff.trans readWithin_eq_outOfRange_iff
  notInteger_iff l text := map_eq_error_iff.trans readWithin_eq_notInteger_iff

theorem readExactly_port (input : String) :
    ReadExactly ⟨"port", 65535⟩ UInt16.toNat input (readPort input) :=
  readExactly_map (fun _ hn => UInt16.toNat_ofNat_of_lt' (Nat.lt_succ_of_le hn)) (by decide) input

theorem readExactly_timeout (input : String) :
    ReadExactly ⟨"timeout", 4294967295⟩ UInt32.toNat input (readTimeout input) :=
  readExactly_map (fun _ hn => UInt32.toNat_ofNat_of_lt' (Nat.lt_succ_of_le hn)) (by decide) input

/-! ## Ports of a server -/

namespace Request

variable {p : UInt16}

/-- A server's text gives a port other than 0 exactly when it is the number of that port. -/
theorem readPortText_eq_ok_iff (hp : p ≠ 0) :
    readPortText input = .ok p ↔ Text.Literal (Text.trim input.toList) p.toNat := by
  have hpos : 0 < p.toNat := Nat.pos_of_ne_zero fun h => hp (UInt16.toNat_inj.1 h)
  rw [← Text.readUnsigned_eq_some_iff_of_pos hpos]
  unfold readPortText
  dsimp only
  split
  · next hempty =>
    rw [List.isEmpty_iff.1 hempty]
    refine iff_of_false (fun h => hp (Except.ok.inj h).symm) fun h => ?_
    cases h
  · split
    · next n hread =>
      rw [hread, Option.some.injEq]
      split
      · next hle =>
        rw [Except.ok.injEq, ← UInt16.toNat_inj, Nat.toUInt16_eq,
          UInt16.toNat_ofNat_of_lt' (Nat.lt_succ_of_le hle)]
      · next hle =>
        refine iff_of_false (fun h => by cases h) fun h => hle ?_
        rw [h]
        exact Nat.le_of_lt_succ p.toNat_lt
    · next hread =>
      rw [hread]
      exact iff_of_false (fun h => by cases h) fun h => by cases h

end Request

/-- **Typed numbers are read exactly.** A port is a whole number from 1 to 65535, a timeout one from 1 to
4294967295, as they are typed with blanks around them, a sign and leading zeros; the value is never
changed. A number of 64 bits that is beyond these limits is refused with its value, and every other text
as it was typed. The text of a server gives the same ports, and beside them only port 0. -/
theorem typed_numbers (input : String) :
    ReadExactly ⟨"port", 65535⟩ UInt16.toNat input (readPort input) ∧
    ReadExactly ⟨"timeout", 4294967295⟩ UInt32.toNat input (readTimeout input) ∧
    ∀ p, readPort input = .ok p ↔ Request.readPortText input = .ok p ∧ p ≠ 0 := by
  have hexact := readExactly_port input
  refine ⟨hexact, readExactly_timeout input, fun p => ⟨fun h => ?_, ?_⟩⟩
  · obtain ⟨hliteral, hlow, -⟩ := (hexact.ok_iff p.toNat).1 ⟨p, h, rfl⟩
    have hp : p ≠ 0 := by
      rintro rfl
      exact absurd hlow (by decide)
    exact ⟨(Request.readPortText_eq_ok_iff hp).2 hliteral, hp⟩
  · rintro ⟨h, hp⟩
    have hpos : 0 < p.toNat := Nat.pos_of_ne_zero fun h => hp (UInt16.toNat_inj.1 h)
    have hmost : p.toNat < 65536 := p.toNat_lt
    have hwithin : Limits.Within ⟨"port", 65535⟩ p.toNat := by
      unfold Limits.Within
      dsimp only
      omega
    obtain ⟨q, hq, hvalue⟩ :=
      (hexact.ok_iff p.toNat).2 ⟨(Request.readPortText_eq_ok_iff hp).1 h, hwithin⟩
    rwa [UInt16.toNat_inj.1 (Int.ofNat.inj hvalue)] at hq

end ScpiConsole
