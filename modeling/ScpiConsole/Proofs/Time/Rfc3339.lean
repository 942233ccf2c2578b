import Mathlib.Algebra.Group.Nat.Defs
import Mathlib.Data.List.TakeWhile
import ScpiConsole.Proofs.Text.Letters
import ScpiConsole.Time.Rfc3339
/-!
# Stored moments are read back

Every moment is read from the form in which it is stored: any year, leap seconds, and each of the four
widths of the fraction.

* `numberUpTo_padded` : a number of a fixed width
* `year?_yearText`, `fraction?_fractionText` : the two ends of varying width
* `read?_rfc3339` : the whole moment
-/

namespace ScpiConsole

namespace Text

theorem isDigit_of_mem_padded {width n : Nat} {c : Char} (h : c ∈ padded width n) :
    isDigit c = true := by
  rcases List.mem_append.1 h with h | h
  · obtain rfl := List.eq_of_mem_replicate h
    rfl
  · exact isDigit_of_mem_numeral h

theorem length_padded {width n : Nat} (hwidth : 0 < width) (h : n < 10 ^ width) :
    (padded width n).length = width := by
  have hlength : (numeral n).length ≤ width := (Nat.length_toDigits_le_iff (by decide) hwidth).2 h
  rw [padded, List.length_append, List.length_replicate]
  omega

theorem padded_ne_nil (width n : Nat) : padded width n ≠ [] :=
  List.append_ne_nil_of_right_ne_nil _ (numeral_ne_nil n)

theorem digitsValue_padded (width n : Nat) : digitsValue (padded width n) = n := by
  have hzeros (k : Nat) : (List.replicate k '0').foldl (fun n c => 10 * n + digitValue c) 0 = 0 := by
    induction k with
    | zero => rfl
    | succ k ih => exact ih
  rw [padded, digitsValue, List.foldl_append, hzeros]
  exact digitsValue_numeral n

theorem isBlank_of_isDigit {c : Char} (h : isDigit c = true) : isBlank c = false := by
  simp only [isDigit, Bool.and_eq_true, decide_eq_true_eq] at h
  have h0 : 48 ≤ c.toNat := h.1
  have h9 : c.toNat ≤ 57 := h.2
  simp only [isBlank, Bool.or_eq_false_iff, Bool.and_eq_false_iff, decide_eq_false_iff_not,
    beq_eq_false_iff_ne]
  omega

theorem trimStart_cons {c : Char} (h : isBlank c = false) (s : List Char) :
    trimStart (c :: s) = c :: s := List.dropWhile_cons_of_neg (by simp [h])

theorem trimStart_padded (width n : Nat) (s : List Char) :
    trimStart (padded width n ++ s) = padded width n ++ s := by
  obtain ⟨c, digits, hdigits⟩ := List.exists_cons_of_ne_nil (padded_ne_nil width n)
  have hc : isDigit c = true := isDigit_of_mem_padded (hdigits ▸ List.mem_cons_self)
  rw [hdigits]
  exact trimStart_cons (isBlank_of_isDigit hc) _

end Text

namespace Timestamp

open Text

variable {rest : List Char}

theorem numberUpTo_padded {width n : Nat} (hwidth : 0 < width) (h : n < 10 ^ width)
    (rest : List Char) : numberUpTo width (padded width n ++ rest) = some (n, rest) := by
  have hlength := length_padded hwidth h
  have htake : ((padded width n ++ rest).take width).takeWhile isDigit = padded width n := by
    rw [List.take_left' hlength]
    exact List.takeWhile_eq_self_iff.2 fun c hc => isDigit_of_mem_padded hc
  have hne : ¬ (padded width n).isEmpty = true := by simpa using padded_ne_nil width n
  rw [numberUpTo, trimStart_padded]
  simp only [htake, if_neg hne, digitsValue_padded, List.drop_left]

theorem mark_cons {c : Char} (h : isBlank c = false) (s : List Char) : mark c (c :: s) = some s := by
  rw [mark, trimStart_cons h]
  exact if_pos rfl

theorem signless_padded {width n : Nat} (hrest : ∀ c, rest.head? = some c → isDigit c = false) :
    year?.signless (padded width n ++ rest) = some (n, rest) := by
  have hdigits : ∀ c ∈ padded width n, isDigit c = true := fun c hc => isDigit_of_mem_padded hc
  have htake : (padded width n ++ rest).takeWhile isDigit = padded width n := by
    rw [takeWhile_append_of_head _ hrest]
    exact List.takeWhile_eq_self_iff.2 hdigits
  have hdrop : (padded width n ++ rest).dropWhile isDigit = rest := by
    rw [dropWhile_append_of_head _ hrest, List.dropWhile_eq_nil_iff.2 hdigits, List.nil_append]
  have hne : ¬ (padded width n).isEmpty = true := by simpa using padded_ne_nil width n
  rw [year?.signless]
  simp only [htake, hdrop, if_neg hne, digitsValue_padded]

/-- Without a sign in front a year has four digits at most. -/
theorem year?_of_isDigit {c : Char} (h : isDigit c = true) (s : List Char) :
    year? (c :: s) = (numberUpTo 4 (c :: s)).map fun p => (Int.ofNat p.1, p.2) := by
  have hne (d : Char) (hd : isDigit d = false) : c ≠ d := by
    rintro rfl
    cases h.symm.trans hd
  rw [year?, trimStart_cons (isBlank_of_isDigit h)]
  split
  · next heq => exact absurd (List.cons.inj heq).1 (hne '-' rfl)
  · next heq => exact absurd (List.cons.inj heq).1 (hne '+' rfl)
  · rfl

/-- A year is read up to the dash behind it. -/
theorem year?_yearText (year : Int) (rest : List Char) :
    year? (yearText year ++ '-' :: rest) = some (year, '-' :: rest) := by
  have hdash : ∀ c, ('-' :: rest).head? = some c → isDigit c = false := by
    rintro c ⟨⟩
    rfl
  unfold yearText
  split
  · next hrange =>
    have hyear : Int.ofNat year.toNat = year := by
      rw [Int.ofNat_eq_natCast]
      omega
    have hfour : year.toNat < 10 ^ 4 := by omega
    have hread := numberUpTo_padded (by decide) hfour ('-' :: rest)
    obtain ⟨c, digits, hdigits⟩ := List.exists_cons_of_ne_nil (padded_ne_nil 4 year.toNat)
    have hc : isDigit c = true := isDigit_of_mem_padded (hdigits ▸ List.mem_cons_self)
    rw [hdigits] at hread ⊢
    rw [List.cons_append] at hread ⊢
    rw [year?_of_isDigit hc, hread, Option.map_some, hyear]
  split
  · next hneg =>
    have hyear : - Int.ofNat year.natAbs = year := by
      rw [Int.ofNat_eq_natCast]
      omega
    change (year?.signless (padded 4 year.natAbs ++ '-' :: rest)).map _ = _
    rw [signless_padded hdash]
    exact congrArg (fun y => some (y, '-' :: rest)) hyear
  · next hrange hneg =>
    have hyear : Int.ofNat year.natAbs = year := by
      rw [Int.ofNat_eq_natCast]
      omega
    change (year?.signless (padded 4 year.natAbs ++ '-' :: rest)).map _ = _
    rw [signless_padded hdash]
    exact congrArg (fun y => some (y, '-' :: rest)) hyear

/-! ## Fractions -/

theorem fraction?_point {width n : Nat} (hwidth : 0 < width ∧ width ≤ 9) (h : n < 10 ^ width) :
    fraction? ('.' :: (padded width n ++ ['Z'])) = some (n * 10 ^ (9 - width), ['Z']) := by
  have hlength := length_padded hwidth.1 h
  have hdigits : ∀ c ∈ padded width n, isDigit c = true := fun c hc => isDigit_of_mem_padded hc
  have hz : ∀ c, ['Z'].head? = some c → isDigit c = false := by
    rintro c ⟨⟩
    rfl
  have htake : (padded width n ++ ['Z']).takeWhile isDigit = padded width n := by
    rw [takeWhile_append_of_head _ hz]
    exact List.takeWhile_eq_self_iff.2 hdigits
  have hdrop : (padded width n ++ ['Z']).dropWhile isDigit = ['Z'] := by
    rw [dropWhile_append_of_head _ hz, List.dropWhile_eq_nil_iff.2 hdigits, List.nil_append]
  have hne : ¬ (padded width n).isEmpty = true := by simpa using padded_ne_nil width n
  have hnine : (padded width n).take 9 = padded width n := List.take_of_length_le (by omega)
  rw [fraction?]
  simp only [htake, hdrop, if_neg hne, hnine, digitsValue_padded, hlength, Nat.pow_eq]

/-- A fraction of a second is read from as many digits as it needs. -/
theorem fraction?_fractionText {nano : Nat} (h : nano < 1000000000) :
    fraction? (fractionText nano ++ ['Z']) = some (nano, ['Z']) := by
  unfold fractionText
  split
  · next hzero =>
    subst hzero
    rfl
  split
  · next hmillis =>
    rw [List.cons_append, fraction?_point (by decide) (by omega)]
    have hnano : nano / 1000000 * 10 ^ (9 - 3) = nano := by omega
    rw [hnano]
  split
  · next hmicros =>
    rw [List.cons_append, fraction?_point (by decide) (by omega)]
    have hnano : nano / 1000 * 10 ^ (9 - 6) = nano := by omega
    rw [hnano]
  · rw [List.cons_append, fraction?_point (by decide) (by omega)]
    have hnano : nano * 10 ^ (9 - 9) = nano := by omega
    rw [hnano]

/-! ## Moments -/

theorem lt_hundred_of_daysInMonth (d : Date) : d.day < 10 ^ 2 := by
  have hday := d.day_mem.2
  unfold daysInMonth at hday
  split at hday
  · split at hday <;> omega
  · split at hday <;> omega

/-- A stored moment is read back. -/
theorem read?_rfc3339 (t : Timestamp) : read? t.rfc3339 = some t := by
  have hmonth : t.date.month < 10 ^ 2 := by have := t.date.month_mem; omega
  have hhour : t.hour < 10 ^ 2 := by have := t.hour_lt; omega
  have hminute : t.minute < 10 ^ 2 := by have := t.minute_lt; omega
  have hsecond : t.second < 10 ^ 2 := by have := t.second_le; omega
  have htext : t.rfc3339 = yearText t.date.year ++ '-' :: (padded 2 t.date.month ++ '-' ::
      (padded 2 t.date.day ++ 'T' :: (padded 2 t.hour ++ ':' :: (padded 2 t.minute ++ ':' ::
        (padded 2 t.second ++ (fractionText t.nano ++ ['Z'])))))) := by
    simp [rfc3339, dateText, clockText]
  have hdash (s : List Char) : mark '-' ('-' :: s) = some s := mark_cons rfl s
  have hcolon (s : List Char) : mark ':' (':' :: s) = some s := mark_cons rfl s
  have hoffset : offset? (trimStart ['Z']) = some (0, []) := rfl
  rw [htext]
  -- The parts are read one after the other; each time the goal is shown with the part that is next.
  change (year? _).bind _ = some t
  rw [year?_yearText, Option.bind_some]
  change (mark '-' _).bind _ = some t
  rw [hdash, Option.bind_some]
  change (numberUpTo 2 _).bind _ = some t
  rw [numberUpTo_padded (by decide) hmonth, Option.bind_some]
  change (mark '-' _).bind _ = some t
  rw [hdash, Option.bind_some]
  change (numberUpTo 2 _).bind _ = some t
  rw [numberUpTo_padded (by decide) (lt_hundred_of_daysInMonth t.date), Option.bind_some]
  change (numberUpTo 2 _).bind _ = some t
  rw [numberUpTo_padded (by decide) hhour, Option.bind_some]
  change (mark ':' _).bind _ = some t
  rw [hcolon, Option.bind_some]
  change (numberUpTo 2 _).bind _ = some t
  rw [numberUpTo_padded (by decide) hminute, Option.bind_some]
  change (mark ':' _).bind _ = some t
  rw [hcolon, Option.bind_some]
  change (numberUpTo 2 _).bind _ = some t
  rw [numberUpTo_padded (by decide) hsecond, Option.bind_some]
  change (fraction? _).bind _ = some t
  rw [fraction?_fractionText t.nano_lt, Option.bind_some]
  change (offset? _).bind _ = some t
  rw [hoffset, Option.bind_some]
  change (Date.of? _ _ _).bind _ = some t
  rw [Date.of?_fields, Option.bind_some]
  change (of? _ _ _ _ _).bind _ = some t
  rw [of?_fields, Option.bind_some]
  exact t.minus?_zero

end Timestamp

end ScpiConsole
