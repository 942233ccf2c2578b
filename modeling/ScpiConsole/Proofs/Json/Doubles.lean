import Mathlib.Algebra.Group.Nat.Defs
import ScpiConsole.Proofs.Json.Numbers
/-!
# Doubles are written as numerals

Whatever bits a double has, its text is a number of JSON: there are digits on both sides of a point, and no
zeros in front. The one text that would have such zeros is that of the digit 0 with a positive power of ten,
and the search for the shortest digits never finds it.

* `search_ne_zero` : the digits are not 0, or their power of ten is not positive
* `layout_numeral` : such digits make a numeral
* `render_numeral`, `numberText_numeral` : the text of a double, and of any number, is a numeral
-/

namespace ScpiConsole.Decimal

/-! ## Digits -/

theorem le_of_not_isLT {a b : Nat} (h : ¬ (compare a b).isLT = true) : b ≤ a := by
  rw [Nat.compare_eq_ite_lt] at h
  split at h
  · exact absurd rfl h
  · omega

/-- A number whose quarters are positive does not round to zero. -/
theorem roundsTo_zero {low high : Nat} (hlow : 0 < low) (p : Int) (closed : Bool) (s : Int) :
    roundsTo low high p closed 0 s = false := by
  have hpos : 0 < low * 2 ^ p.toNat * 10 ^ (-s).toNat :=
    Nat.mul_pos (Nat.mul_pos hlow (Nat.two_pow_pos _)) (Nat.pow_pos (by decide))
  have habove : compareScaled low p 0 s = .gt := by
    rw [compareScaled, Nat.zero_mul, Nat.zero_mul]
    exact Nat.compare_eq_gt.2 hpos
  rw [roundsTo, habove]
  cases closed <;> rfl

/-- The digits of the last resort are not 0 either, when their power of ten is positive. -/
theorem search_ne_zero {value low high : Nat} {p e : Int} (hlow : 0 < low) (closed : Bool)
    (hlast : 18 < e → quotient value p (e - 18) ≠ 0) (fuel : Nat) (n : Int) (hn : n + fuel = 18) :
    (search value low high p closed e fuel n).1 = 0 →
      (search value low high p closed e fuel n).2 ≤ 0 := by
  induction fuel generalizing n with
  | zero =>
    obtain rfl : n = 18 := by omega
    intro hzero
    by_contra hpos
    rw [search] at hzero hpos
    exact hlast (by omega) hzero
  | succ fuel ih =>
    rw [search]
    have hhit (h : roundsTo low high p closed (quotient value p (e - n)) (e - n) = true) :
        quotient value p (e - n) ≠ 0 := by
      intro hzero
      rw [hzero, roundsTo_zero hlow] at h
      cases h
    split
    next h _ => exact fun hzero => absurd hzero (hhit h)
    next => exact fun hzero => absurd hzero (Nat.succ_ne_zero _)
    next h _ =>
      split
      · exact fun hzero => absurd hzero (hhit h)
      · exact fun hzero => absurd hzero (Nat.succ_ne_zero _)
      · dsimp only
        split
        · exact fun hzero => absurd hzero (hhit h)
        · exact fun hzero => absurd hzero (Nat.succ_ne_zero _)
    next => exact ih (n + 1) (by omega)

theorem normal_ne_zero (fuel k : Nat) (s : Int) (h : k = 0 → s ≤ 0) :
    (normal fuel k s).1 = 0 → (normal fuel k s).2 ≤ 0 := by
  induction fuel generalizing k s with
  | zero => exact h
  | succ fuel ih =>
    rw [normal]
    split
    · next hk =>
      rw [Bool.and_eq_true, decide_eq_true_iff, decide_eq_true_iff] at hk
      exact ih _ _ fun hzero => by omega
    · exact h

/-! ## Magnitudes -/

/-- The number lies above the power of ten before, unless the estimate was not gone beyond. -/
theorem magnitudeFrom_cases (a : Nat) (p : Int) (fuel : Nat) (e : Int) :
    magnitudeFrom a p fuel e = e ∨
      ¬ (compareScaled a p 1 (magnitudeFrom a p fuel e - 1)).isLT = true := by
  induction fuel generalizing e with
  | zero => exact .inl rfl
  | succ fuel ih =>
    rw [magnitudeFrom]
    split
    · exact .inl rfl
    · next h =>
      refine .inr ?_
      rcases ih (e + 1) with heq | hge
      · rwa [heq, Int.add_sub_cancel]
      · exact hge

theorem ten_pow_le_two_pow {t : Nat} {l : Nat} (h : 10 * (t + 2) ≤ 3 * l) : 10 ^ t ≤ 2 ^ l :=
  calc 10 ^ t ≤ 10 ^ (3 * ((t + 2) / 3)) := Nat.pow_le_pow_right (by decide) (by omega)
    _ = (10 ^ 3) ^ ((t + 2) / 3) := Nat.pow_mul ..
    _ ≤ (2 ^ 10) ^ ((t + 2) / 3) := Nat.pow_le_pow_left (by decide) _
    _ = 2 ^ (10 * ((t + 2) / 3)) := (Nat.pow_mul ..).symm
    _ ≤ 2 ^ l := Nat.pow_le_pow_right (by decide) (by omega)

/-- Eighteen digits are enough for the first of them not to be 0. -/
theorem quotient_ne_zero {a : Nat} {p : Int} (ha : a ≠ 0) (hbound : p + Nat.log2 a ≤ 2048)
    (he : 18 < magnitude a p) : quotient a p (magnitude a p - 18) ≠ 0 := by
  have hmagnitude := magnitudeFrom_cases a p 8 ((p + Nat.log2 a) * 30103 / 100000 - 1)
  rw [← magnitude] at hmagnitude
  generalize magnitude a p = e at he hmagnitude ⊢
  suffices h : 10 ^ (e - 18).toNat * 2 ^ (-p).toNat ≤ a * 2 ^ p.toNat by
    rw [quotient]
    have hpos : 0 < 10 ^ (e - 18).toNat * 2 ^ (-p).toNat :=
      Nat.mul_pos (Nat.pow_pos (by decide)) (Nat.two_pow_pos _)
    have hzero : (-(e - 18)).toNat = 0 := by omega
    simp only [Nat.pow_eq, hzero, Nat.pow_zero, Nat.mul_one]
    exact Nat.ne_of_gt (Nat.div_pos h hpos)
  rcases hmagnitude with heq | hge
  · have hlog : 2 ^ (p + Nat.log2 a).toNat * 2 ^ (-p).toNat = 2 ^ Nat.log2 a * 2 ^ p.toNat := by
      rw [← Nat.pow_add, ← Nat.pow_add]
      congr 1
      omega
    calc 10 ^ (e - 18).toNat * 2 ^ (-p).toNat
        ≤ 2 ^ (p + Nat.log2 a).toNat * 2 ^ (-p).toNat :=
          Nat.mul_le_mul_right _ (ten_pow_le_two_pow (by omega))
      _ = 2 ^ Nat.log2 a * 2 ^ p.toNat := hlog
      _ ≤ a * 2 ^ p.toNat := Nat.mul_le_mul_right _ (Nat.log2_self_le ha)
  · have hle := le_of_not_isLT hge
    have hzero : (-(e - 1)).toNat = 0 := by omega
    simp only [Nat.pow_eq, hzero, Nat.pow_zero, Nat.mul_one, Nat.one_mul] at hle
    refine Nat.le_trans (Nat.mul_le_mul_right _ ?_) hle
    exact Nat.pow_le_pow_right (by decide) (by omega)

/-- The digits of a positive double. -/
theorem shortest_ne_zero {bits : UInt64} (h : (Binary.ofBits bits).mantissa ≠ 0) :
    (Binary.ofBits bits).shortest.1 = 0 → (Binary.ofBits bits).shortest.2 ≤ 0 := by
  have hbounds : (Binary.ofBits bits).mantissa < 2 ^ 53 ∧ (Binary.ofBits bits).exponent ≤ 972 := by
    have hfraction : bits.toNat % binade < binade := Nat.mod_lt _ (by decide)
    have hfield : bits.toNat / binade % 2048 < 2048 := Nat.mod_lt _ (by decide)
    have hbinade : binade = 4503599627370496 := rfl
    rw [Binary.ofBits]
    split
    · dsimp only
      omega
    · dsimp only
      rw [Int.ofNat_eq_natCast]
      omega
  generalize Binary.ofBits bits = b at h hbounds
  have hlog : Nat.log2 (4 * b.mantissa) < 55 := (Nat.log2_lt (by omega)).2 (by omega)
  have hlast := quotient_ne_zero (a := 4 * b.mantissa) (p := b.exponent - 2) (by omega) (by omega)
  refine normal_ne_zero 17 _ _ (search_ne_zero ?_ _ hlast 17 1 (by decide))
  split <;> omega

end ScpiConsole.Decimal

namespace ScpiConsole.Json

open Text Decimal

/-! ## Numerals -/

theorem not_isDigit_head {c : Char} (h : isDigit c = false) {t : List Char} :
    ∀ d, (c :: t).head? = some d → isDigit d = false := by
  rintro d ⟨⟩
  exact h

/-- A row of digits is read up to what is no digit. -/
theorem digits?_of_digits {ds rest : List Char} (hds : ∀ c ∈ ds, isDigit c = true) (hne : ds ≠ [])
    (hrest : ∀ c, rest.head? = some c → isDigit c = false) :
    digits? (ds ++ rest) = some (ds, rest) := by
  have hnonempty : ¬ ds.isEmpty = true := by simpa using hne
  rw [digits?, takeWhile_append_of_head ds hrest, dropWhile_append_of_head ds hrest,
    List.takeWhile_eq_self_iff.2 hds, List.dropWhile_eq_nil_iff.2 hds]
  simp only [hnonempty]
  rfl

theorem digits?_cons {d c : Char} (hd : isDigit d = true) (hc : isDigit c = false) (t : List Char) :
    digits? (d :: c :: t) = some ([d], c :: t) := by
  have hds : ∀ x ∈ [d], isDigit x = true := by simpa using hd
  exact digits?_of_digits hds (List.cons_ne_nil d []) (not_isDigit_head hc)

theorem digits?_of_all {ds : List Char} (hds : ∀ c ∈ ds, isDigit c = true) (hne : ds ≠ []) :
    digits? ds = some (ds, []) := by
  have hread : digits? (ds ++ []) = some (ds, []) := digits?_of_digits hds hne (by simp)
  rwa [List.append_nil] at hread

/-- A number is read part by part. -/
theorem unsigned?_of_parts {negative : Bool} {whole fraction s s₁ s₂ : List Char}
    {power : Option (Bool × List Char)} (hwhole : digits? s = some (whole, s₁))
    (hzeros : whole.head? = some '0' → whole.length = 1)
    (hfraction : fraction? s₁ = some (fraction, s₂)) (hpower : power? s₂ = some (power, [])) :
    unsigned? negative s = some (⟨negative, whole, fraction, power⟩, []) := by
  have hguard : (whole.head? != some '0' || whole.length == 1) = true := by
    by_cases hhead : whole.head? = some '0'
    · simp [hzeros hhead]
    · simp [hhead]
  simp only [unsigned?, hwhole, Option.bind_eq_bind, Option.bind_some, hfraction, hpower]
  rw [hguard]
  rfl

theorem eq_zero_of_head {k : Nat} (h : (numeral k).head? = some '0') : k = 0 := by
  have hlength := length_numeral_of_head k h
  obtain ⟨c, hc⟩ := List.length_eq_one_iff.1 hlength
  rw [hc, List.head?_cons, Option.some.injEq] at h
  rw [← digitsValue_numeral k, hc, h]
  rfl

/-- A sign and a number behind the letter of the power of ten. -/
theorem power?_numeral (negative : Bool) (n : Nat) :
    power? ('e' :: (if negative then '-' else '+') :: numeral n) = some (some (negative, numeral n), []) := by
  cases negative <;> simp only [power?, Bool.false_eq_true, if_true, if_false, signedPower?,
    digits?_numeral, Option.map_some]

/-! ### The layouts of digits and a power of ten -/

/-- All digits stand in front of the point, and zeros behind them. -/
theorem unsigned?_zeros {k zeros : Nat} (h : k = 0 → zeros = 0) (negative : Bool) :
    ∃ written, unsigned? negative (numeral k ++ List.replicate zeros '0' ++ ['.', '0']) = some (written, []) := by
  have hne := numeral_ne_nil k
  have hds : ∀ c ∈ numeral k ++ List.replicate zeros '0', isDigit c = true := by
    intro c hc
    rcases List.mem_append.1 hc with hc | hc
    · exact isDigit_of_mem_numeral hc
    · rw [List.eq_of_mem_replicate hc]
      rfl
  refine ⟨_, unsigned?_of_parts (digits?_of_digits hds (by simp [hne]) (not_isDigit_head rfl)) ?_ rfl rfl⟩
  intro hhead
  rw [List.head?_append, List.head?_eq_some_head hne, Option.some_or, ← List.head?_eq_some_head hne]
    at hhead
  rw [h (eq_zero_of_head hhead), List.replicate_zero, List.append_nil, length_numeral_of_head k hhead]

/-- The point stands among the digits. -/
theorem unsigned?_point {k point : Nat} (hpos : point ≠ 0) (hlt : point < (numeral k).length)
    (negative : Bool) : ∃ written,
      unsigned? negative ((numeral k).take point ++ '.' :: (numeral k).drop point) = some (written, []) := by
  have htake : ∀ c ∈ (numeral k).take point, isDigit c = true := fun c hc =>
    isDigit_of_mem_numeral (List.mem_of_mem_take hc)
  have hdrop : ∀ c ∈ (numeral k).drop point, isDigit c = true := fun c hc =>
    isDigit_of_mem_numeral (List.mem_of_mem_drop hc)
  refine ⟨_, unsigned?_of_parts (digits?_of_digits htake ?_ (not_isDigit_head rfl)) ?_
    (digits?_of_all hdrop ?_) rfl⟩
  · simp [numeral_ne_nil k, hpos]
  · intro hhead
    rw [List.head?_take, if_neg hpos] at hhead
    have hone := length_numeral_of_head k hhead
    omega
  · simpa using hlt

/-- Zeros stand between the point and the digits. -/
theorem unsigned?_small (k zeros : Nat) (negative : Bool) : ∃ written,
    unsigned? negative ('0' :: '.' :: List.replicate zeros '0' ++ numeral k) = some (written, []) := by
  have hds : ∀ c ∈ List.replicate zeros '0' ++ numeral k, isDigit c = true := by
    intro c hc
    rcases List.mem_append.1 hc with hc | hc
    · rw [List.eq_of_mem_replicate hc]
      rfl
    · exact isDigit_of_mem_numeral hc
  exact ⟨_, unsigned?_of_parts (digits?_cons rfl rfl _) (fun _ => rfl)
    (digits?_of_all hds (by simp [numeral_ne_nil k])) rfl⟩

/-- One digit stands in front of the point, if there is one, and a power of ten behind it. -/
theorem unsigned?_power {d : Char} {rest : List Char} (hd : isDigit d = true)
    (hrest : ∀ c ∈ rest, isDigit c = true) (below : Bool) (n : Nat) (negative : Bool) :
    (∃ written, unsigned? negative (d :: 'e' :: (if below then '-' else '+') :: numeral n) = some (written, [])) ∧
      (rest ≠ [] → ∃ written, unsigned? negative
        (d :: '.' :: rest ++ 'e' :: (if below then '-' else '+') :: numeral n) = some (written, [])) := by
  have hpower := power?_numeral below n
  constructor
  · exact ⟨_, unsigned?_of_parts (digits?_cons hd rfl _) (fun _ => rfl) rfl hpower⟩
  · exact fun hne => ⟨_, unsigned?_of_parts (digits?_cons hd rfl _) (fun _ => rfl)
      (digits?_of_digits hrest hne (not_isDigit_head rfl)) hpower⟩

/-- The text of digits that are not 0, or whose power of ten is not positive. -/
theorem layout_numeral {k : Nat} {s : Int} (h : k = 0 → s ≤ 0) (negative : Bool) :
    ∃ written, unsigned? negative (layout k s) = some (written, []) := by
  rw [layout]
  simp only [Int.ofNat_eq_natCast]
  split
  next hwhole => exact unsigned?_zeros (fun hk => by have hs := h hk; omega) negative
  next hsmall =>
  split
  next hinner => exact unsigned?_point (by omega) (by omega) negative
  next =>
  split
  next => exact unsigned?_small k _ negative
  next =>
    generalize (↑(numeral k).length + s - 1 : Int) = exponent
    have hne := numeral_ne_nil k
    have hdigits : ∀ c ∈ numeral k, isDigit c = true := fun c hc => isDigit_of_mem_numeral hc
    generalize numeral k = ds at hdigits hne
    cases ds with
    | nil => exact absurd rfl hne
    | cons d rest =>
      obtain ⟨hd, hrest⟩ := List.forall_mem_cons.1 hdigits
      have hpower := unsigned?_power hd hrest (decide (exponent < 0)) exponent.natAbs negative
      simp only [decide_eq_true_eq] at hpower
      cases rest with
      | nil => exact hpower.1
      | cons d' rest => exact hpower.2 (List.cons_ne_nil d' rest)

/-- A number that is read without a sign is a numeral. -/
theorem numeral?_of_unsigned? {s t : List Char} {n : Numeral} (h : unsigned? false s = some (n, t)) :
    numeral? s = some (n, t) := by
  rw [numeral?]
  · exact h
  · rintro s rfl
    cases h

/-- Every double is written as a numeral, whatever its bits. -/
theorem render_numeral (bits : UInt64) :
    ∃ written, numeral? (Decimal.render bits) = some (written, []) := by
  have hmagnitude (negative : Bool) : ∃ written, unsigned? negative
      (if (Binary.ofBits bits).mantissa = 0 then ['0', '.', '0']
        else layout (Binary.ofBits bits).shortest.1 (Binary.ofBits bits).shortest.2) =
        some (written, []) := by
    split
    · exact ⟨_, rfl⟩
    · next h => exact layout_numeral (shortest_ne_zero h) negative
  rw [render]
  split
  · exact hmagnitude true
  · obtain ⟨written, hread⟩ := hmagnitude false
    exact ⟨written, numeral?_of_unsigned? hread⟩

/-- Every number is written as a numeral. -/
theorem numberText_numeral (n : Number) : ∃ written, numeral? (numberText n) = some (written, []) := by
  cases n with
  | int n =>
    rw [numberText]
    split
    · exact ⟨_, unsigned?_numeral true n.natAbs⟩
    · exact ⟨_, numeral?_numeral n.natAbs⟩
  | real bits => exact render_numeral bits

end ScpiConsole.Json
