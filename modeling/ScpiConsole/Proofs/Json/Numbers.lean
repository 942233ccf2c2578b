import Mathlib.Data.List.TakeWhile
import Mathlib.Data.Option.Basic
import ScpiConsole.Json.Parser
import ScpiConsole.Json.Printer
import ScpiConsole.Proofs.Text.Letters
/-!
# Numbers in JSON

Whether a number is read back from its text is a matter of that text alone. Whatever stands behind it
in a document cannot be taken for a part of it.

* `Json.Number.ReadsBack` : the text of the number is read as that number
* `numeral?_append` : a numeral is read up to what no numeral goes on with
* `readsBack_int` : whole numbers of 64 bits are read back
-/

namespace ScpiConsole.Json

open Text

/-! ## What ends a number -/

/-- Nothing in the text goes on with a number before it. -/
def EndsNumber (rest : List Char) : Prop :=
  ∀ c, rest.head? = some c → isDigit c = false ∧ c ≠ '.' ∧ c ≠ 'e' ∧ c ≠ 'E'

theorem endsNumber_nil : EndsNumber [] := fun _ h => nomatch h

theorem endsNumber_cons {c : Char} (h : isDigit c = false ∧ c ≠ '.' ∧ c ≠ 'e' ∧ c ≠ 'E')
    (s : List Char) : EndsNumber (c :: s) := by
  intro d hd
  obtain rfl : c = d := Option.some.inj hd
  exact h

variable {rest s t : List Char}

theorem EndsNumber.isDigit (h : EndsNumber rest) : ∀ c, rest.head? = some c → isDigit c = false :=
  fun c hc => (h c hc).1

theorem digits?_append (hrest : EndsNumber rest) {digits : List Char}
    (h : digits? s = some (digits, t)) : digits? (s ++ rest) = some (digits, t ++ rest) := by
  rw [digits?] at h
  split at h
  · cases h
  · next hne =>
    injection h with h
    obtain ⟨rfl, rfl⟩ := Prod.mk.inj h
    rw [digits?, takeWhile_append_of_head s hrest.isDigit, dropWhile_append_of_head s hrest.isDigit]
    exact if_neg hne

theorem fraction?_append (hrest : EndsNumber rest) {digits : List Char}
    (h : fraction? s = some (digits, t)) : fraction? (s ++ rest) = some (digits, t ++ rest) := by
  cases s with
  | nil =>
    injection h with h
    obtain ⟨rfl, rfl⟩ := Prod.mk.inj h
    rw [List.nil_append, fraction?]
    rintro s rfl
    exact (hrest _ rfl).2.1 rfl
  | cons c s =>
    by_cases hc : c = '.'
    · subst hc
      exact digits?_append hrest h
    · have hpoint (u : List Char) : fraction? (c :: u) = some ([], c :: u) := by
        rw [fraction?]
        exact fun _ hu => hc (List.cons.inj hu).1
      rw [hpoint] at h
      injection h with h
      obtain ⟨rfl, rfl⟩ := Prod.mk.inj h
      exact hpoint _

theorem signedPower?_append (hrest : EndsNumber rest) {power : Bool × List Char}
    (h : signedPower? s = some (power, t)) : signedPower? (s ++ rest) = some (power, t ++ rest) := by
  have hdigits {u : List Char} {negative : Bool}
      (hu : (digits? u).map (fun p => ((negative, p.1), p.2)) = some (power, t)) :
      (digits? (u ++ rest)).map (fun p => ((negative, p.1), p.2)) = some (power, t ++ rest) := by
    obtain ⟨⟨digits, t'⟩, hread, hp⟩ := Option.map_eq_some_iff.1 hu
    obtain ⟨rfl, rfl⟩ := Prod.mk.inj hp
    rw [digits?_append hrest hread]
    rfl
  cases s with
  | nil => cases h
  | cons c s =>
    by_cases hminus : c = '-'
    · subst hminus
      exact hdigits h
    by_cases hplus : c = '+'
    · subst hplus
      exact hdigits h
    have hbare (u : List Char) : signedPower? (c :: u) =
        (digits? (c :: u)).map fun p => ((false, p.1), p.2) := by
      rw [signedPower?]
      · exact fun _ hu => hminus (List.cons.inj hu).1
      · exact fun _ hu => hplus (List.cons.inj hu).1
    rw [hbare] at h
    rw [List.cons_append, hbare]
    exact hdigits h

theorem power?_append (hrest : EndsNumber rest) {power : Option (Bool × List Char)}
    (h : power? s = some (power, t)) : power? (s ++ rest) = some (power, t ++ rest) := by
  have hsigned {u : List Char}
      (hu : (signedPower? u).map (fun p => (some p.1, p.2)) = some (power, t)) :
      (signedPower? (u ++ rest)).map (fun p => (some p.1, p.2)) = some (power, t ++ rest) := by
    obtain ⟨⟨signed, t'⟩, hread, hp⟩ := Option.map_eq_some_iff.1 hu
    obtain ⟨rfl, rfl⟩ := Prod.mk.inj hp
    rw [signedPower?_append hrest hread]
    rfl
  cases s with
  | nil =>
    injection h with h
    obtain ⟨rfl, rfl⟩ := Prod.mk.inj h
    rw [List.nil_append, power?]
    · rintro s rfl
      exact (hrest _ rfl).2.2.1 rfl
    · rintro s rfl
      exact (hrest _ rfl).2.2.2 rfl
  | cons c s =>
    by_cases hsmall : c = 'e'
    · subst hsmall
      exact hsigned h
    by_cases hcapital : c = 'E'
    · subst hcapital
      exact hsigned h
    have hnone (u : List Char) : power? (c :: u) = some (none, c :: u) := by
      rw [power?]
      · exact fun _ hu => hsmall (List.cons.inj hu).1
      · exact fun _ hu => hcapital (List.cons.inj hu).1
    rw [hnone] at h
    injection h with h
    obtain ⟨rfl, rfl⟩ := Prod.mk.inj h
    exact hnone _

theorem unsigned?_append (hrest : EndsNumber rest) {negative : Bool} {n : Numeral}
    (h : unsigned? negative s = some (n, t)) :
    unsigned? negative (s ++ rest) = some (n, t ++ rest) := by
  simp only [unsigned?, Option.bind_eq_bind, Option.bind_eq_some_iff] at h
  obtain ⟨⟨whole, s₁⟩, hwhole, u, hguard, ⟨fraction, s₂⟩, hfraction, ⟨power, s₃⟩, hpower, hn⟩ := h
  dsimp only at hguard hfraction hpower
  injection hn with hn
  obtain ⟨rfl, rfl⟩ := Prod.mk.inj hn
  simp only [unsigned?, Option.bind_eq_bind, digits?_append hrest hwhole, Option.bind_some, hguard,
    fraction?_append hrest hfraction, power?_append hrest hpower]
  rfl

/-- A numeral is read up to what no numeral goes on with. -/
theorem numeral?_append (hrest : EndsNumber rest) {n : Numeral} (h : numeral? s = some (n, t)) :
    numeral? (s ++ rest) = some (n, t ++ rest) := by
  cases s with
  | nil => cases h
  | cons c s =>
    by_cases hminus : c = '-'
    · subst hminus
      exact unsigned?_append hrest h
    · have hbare (u : List Char) : numeral? (c :: u) = unsigned? false (c :: u) := by
        rw [numeral?]
        exact fun _ hu => hminus (List.cons.inj hu).1
      rw [hbare] at h
      rw [List.cons_append, hbare]
      exact unsigned?_append hrest h

/-- A numeral begins with a sign or a digit. -/
theorem head_of_numeral? {n : Numeral} (h : numeral? s = some (n, t)) :
    ∃ c u, s = c :: u ∧ (c = '-' ∨ isDigit c = true) := by
  cases s with
  | nil => cases h
  | cons c s =>
    refine ⟨c, s, rfl, ?_⟩
    by_cases hminus : c = '-'
    · exact .inl hminus
    · right
      rw [numeral?, unsigned?, digits?, List.takeWhile_cons] at h
      · cases hdigit : isDigit c with
        | true => rfl
        | false =>
          rw [hdigit] at h
          cases h
      · exact fun _ hu => hminus (List.cons.inj hu).1

/-! ## Numbers that are read back -/

/-- The text of the number is read as that number. -/
def Number.ReadsBack (n : Number) : Prop :=
  ∃ written, numeral? (numberText n) = some (written, []) ∧ written.value? = some n

theorem significand_of_lt {n : Nat} {s : List Char}
    (h : s.foldl (fun n c => 10 * n + digitValue c) n < UInt64.size) :
    significand n s = (s.foldl (fun n c => 10 * n + digitValue c) n, []) := by
  induction s generalizing n with
  | nil => rfl
  | cons c s ih =>
    rw [List.foldl_cons] at h ⊢
    have hgrows : ∀ (u : List Char) (m : Nat), m ≤ u.foldl (fun n c => 10 * n + digitValue c) m := by
      intro u
      induction u with
      | nil => exact fun m => Nat.le_refl m
      | cons d u ih => exact fun m => Nat.le_trans (by omega) (ih (10 * m + digitValue d))
    have hnext : 10 * n + digitValue c < UInt64.size := Nat.lt_of_le_of_lt (hgrows s _) h
    rw [significand]
    simp only [hnext, if_true]
    exact ih h

theorem digits?_numeral (n : Nat) : digits? (numeral n) = some (numeral n, []) := by
  have hdigits : ∀ c ∈ numeral n, isDigit c = true := fun c hc => isDigit_of_mem_numeral hc
  have hne : ¬ (numeral n).isEmpty = true := by simpa using numeral_ne_nil n
  simp only [digits?, List.takeWhile_eq_self_iff.2 hdigits, List.dropWhile_eq_nil_iff.2 hdigits,
    if_neg hne]

/-- There are no zeros in front of a numeral. -/
theorem length_numeral_of_head (n : Nat) (h : (numeral n).head? = some '0') :
    (numeral n).length = 1 := by
  induction n using Nat.strongRecOn with
  | ind n ih =>
    by_cases hn : n < 10
    · rw [numeral, Nat.toDigits_of_lt_base hn]
      rfl
    have hsplit : numeral n = numeral (n / 10) ++ [Nat.digitChar (n % 10)] :=
      Nat.toDigits_of_base_le (by decide) (by omega)
    obtain ⟨c, s, hs⟩ := List.exists_cons_of_ne_nil (numeral_ne_nil (n / 10))
    rw [hsplit, hs] at h
    obtain rfl : c = '0' := Option.some.inj h
    -- The number without its last digit would be zero.
    have hone := ih (n / 10) (by omega) (by rw [hs, List.head?_cons])
    rw [hs, List.length_cons, Nat.add_eq_right, List.length_eq_zero_iff] at hone
    have hzero : n / 10 = 0 := by
      rw [← digitsValue_numeral (n / 10), hs, hone]
      rfl
    omega

theorem unsigned?_numeral (negative : Bool) (n : Nat) :
    unsigned? negative (numeral n) = some (⟨negative, numeral n, [], none⟩, []) := by
  have hguard : ((numeral n).head? != some '0' || (numeral n).length == 1) = true := by
    by_cases hhead : (numeral n).head? = some '0'
    · simp [length_numeral_of_head n hhead]
    · simp [hhead]
  simp only [unsigned?, digits?_numeral, Option.bind_eq_bind, Option.bind_some]
  rw [hguard]
  rfl

theorem numeral?_numeral (n : Nat) :
    numeral? (numeral n) = some (⟨false, numeral n, [], none⟩, []) := by
  have hminus : ∀ s, numeral n = '-' :: s → False := by
    intro s hs
    have hdigit := isDigit_of_mem_numeral (n := n) (hs ▸ List.mem_cons_self)
    cases hdigit
  rw [numeral?]
  · exact unsigned?_numeral false n
  · exact hminus

theorem significand_numeral {n : Nat} (hn : n < UInt64.size) : significand 0 (numeral n) = (n, []) := by
  have hvalue : (numeral n).foldl (fun n c => 10 * n + digitValue c) 0 = n := digitsValue_numeral n
  rw [significand_of_lt (by rw [hvalue]; exact hn), hvalue]

theorem value?_numeral {n : Nat} (hn : n < UInt64.size) :
    Numeral.value? ⟨false, numeral n, [], none⟩ = some (.int n) := by
  simp [Numeral.value?, significand_numeral hn]

theorem value?_numeral_of_negative {n : Nat} (hzero : n ≠ 0) (hn : n ≤ 9223372036854775808) :
    Numeral.value? ⟨true, numeral n, [], none⟩ = some (.int (- Int.ofNat n)) := by
  have hsize : n < UInt64.size := Nat.lt_of_le_of_lt hn (by decide)
  simp [Numeral.value?, significand_numeral hsize, hzero, hn]

/-- Whole numbers of 64 bits, with or without a sign, are read back. -/
theorem readsBack_int {n : Int} (hlow : -9223372036854775808 ≤ n) (hhigh : n < UInt64.size) :
    Number.ReadsBack (.int n) := by
  by_cases hn : n < 0
  · have habs : - Int.ofNat n.natAbs = n := by
      rw [Int.ofNat_eq_natCast]
      omega
    refine ⟨⟨true, numeral n.natAbs, [], none⟩, ?_, ?_⟩
    · rw [numberText, if_pos hn]
      exact unsigned?_numeral true n.natAbs
    · rw [value?_numeral_of_negative (by omega) (by omega), habs]
  · have habs : (n.natAbs : Int) = n := by omega
    refine ⟨⟨false, numeral n.natAbs, [], none⟩, ?_, ?_⟩
    · rw [numberText, if_neg hn]
      exact numeral?_numeral n.natAbs
    · rw [value?_numeral (by omega), habs]

end ScpiConsole.Json
