import Mathlib.Algebra.Group.Nat.Defs
import ScpiConsole.Text.Utf8
/-!
# UTF-8 is read back

* `decodeUtf8_utf8Bytes` : the bytes of a character are one step of the reader
* `strictText?_encodeUtf8` : a written text is read back
* `strictText?_eq_some_iff` : nothing else is read as a text
* `mem_decodeUtf8` : an ASCII byte is read wherever it stands
-/

namespace ScpiConsole.Text

theorem hexValue_hexDigit (upper : Bool) {n : Nat} (h : n < 16) :
    hexValue (hexDigit upper n) = some n := by
  revert n
  cases upper <;> decide

/-! ## First bytes -/

theorem following_of_lt {lead : Nat} (h : lead < 0x80) : following lead = some 0 := by
  rw [following, if_pos h]

theorem following_of_two {lead : Nat} (h : 0xC2 ≤ lead ∧ lead ≤ 0xDF) : following lead = some 1 := by
  rw [following, if_neg (by omega), if_pos (by simpa using h)]

theorem following_of_three {lead : Nat} (h : 0xE0 ≤ lead ∧ lead ≤ 0xEF) :
    following lead = some 2 := by
  rw [following, if_neg (by omega), if_neg (by simp; omega), if_pos (by simpa using h)]

theorem following_of_four {lead : Nat} (h : 0xF0 ≤ lead ∧ lead ≤ 0xF4) :
    following lead = some 3 := by
  rw [following, if_neg (by omega), if_neg (by simp; omega), if_neg (by simp; omega),
    if_pos (by simpa using h)]

/-! ## Bytes that continue a character -/

/-- A byte with six bits of a character. -/
theorem continuation_cons {range : Nat × Nat} {b : Nat} (hb : range.1 ≤ 0x80 + b ∧ 0x80 + b ≤ range.2)
    (hlt : b < 64) (acc wanted : Nat) (s : List UInt8) :
    continuation range acc (wanted + 1) ((0x80 + b).toUInt8 :: s) =
      continuation (0x80, 0xBF) (acc * 64 + b) wanted s := by
  have hnat : (0x80 + b).toUInt8.toNat = 0x80 + b :=
    UInt8.toNat_ofNat_of_lt' (show 0x80 + b < 256 by omega)
  have hbits : (0x80 + b) % 64 = b := by omega
  rw [continuation, hnat, if_pos (by simpa using hb), hbits]

theorem secondRange_of_lt {lead : Nat} (h : lead < 0xE0) : secondRange lead = (0x80, 0xBF) := by
  have hne (b : Nat) (hb : 0xE0 ≤ b) : ¬ (lead == b) = true := by
    rw [beq_iff_eq]
    omega
  rw [secondRange, if_neg (hne _ (by decide)), if_neg (hne _ (by decide)),
    if_neg (hne _ (by decide)), if_neg (hne _ (by decide))]

/-- The second byte of a character of three bytes. -/
theorem secondRange_of_three {n : Nat} (hlow : 0x800 ≤ n) (hn : n < 0xD800 ∨ 0xDFFF < n ∧ n < 0x10000) :
    (secondRange (0xE0 + n / 4096)).1 ≤ 0x80 + n / 64 % 64 ∧
      0x80 + n / 64 % 64 ≤ (secondRange (0xE0 + n / 4096)).2 := by
  unfold secondRange
  iterate 4
    split
    · next h => simp only [beq_iff_eq] at h; omega
  simp only
  omega

/-- The second byte of a character of four bytes. -/
theorem secondRange_of_four {n : Nat} (hn : 0x10000 ≤ n ∧ n < 0x110000) :
    (secondRange (0xF0 + n / 262144)).1 ≤ 0x80 + n / 4096 % 64 ∧
      0x80 + n / 4096 % 64 ≤ (secondRange (0xF0 + n / 262144)).2 := by
  unfold secondRange
  iterate 4
    split
    · next h => simp only [beq_iff_eq] at h; omega
  simp only
  omega

/-! ## Characters and texts -/

/-- One step of the reader: a first byte, and the bytes that continue it up to `s`. -/
theorem decodeUtf8_cons {lead k n : Nat} {t s : List UInt8} (hlead : lead < 256)
    (hk : following lead = some (k + 1))
    (hread : continuation (secondRange lead) (lead % 2 ^ (5 - k)) (k + 1) t = (n, 0, s)) :
    decodeUtf8 (lead.toUInt8 :: t) = some (Char.ofNat n) :: decodeUtf8 s := by
  have hnat : lead.toUInt8.toNat = lead := UInt8.toNat_ofNat_of_lt' hlead
  rw [decodeUtf8, hnat, hk]
  simp only [Nat.pow_eq, hread, if_true]

/-- The bytes of a character are read as that character, whatever follows. -/
theorem decodeUtf8_utf8Bytes (c : Char) (s : List UInt8) :
    decodeUtf8 (utf8Bytes c ++ s) = some c :: decodeUtf8 s := by
  have hvalid : c.toNat < 0xD800 ∨ 0xDFFF < c.toNat ∧ c.toNat < 0x110000 := c.valid
  rw [utf8Bytes]
  generalize hn : c.toNat = n at hvalid
  have hc : Char.ofNat n = c := hn ▸ Char.ofNat_toNat c
  -- In each case the first byte has the upper bits, and every byte behind it six more.
  by_cases h1 : n < 0x80
  · have hlead : n.toUInt8.toNat = n := UInt8.toNat_ofNat_of_lt' (show n < 256 by omega)
    rw [if_pos h1, List.singleton_append, decodeUtf8, hlead, following_of_lt h1, hc]
  by_cases h2 : n < 0x800
  · have hlead : 0xC0 + n / 64 < 0xE0 := by omega
    have hbits : (0xC0 + n / 64) % 2 ^ (5 - 0) * 64 + n % 64 = n := by omega
    rw [if_neg h1, if_pos h2, List.cons_append, List.singleton_append,
      decodeUtf8_cons (by omega) (following_of_two (by omega)), hc]
    rw [secondRange_of_lt hlead, continuation_cons (by simp only; omega) (by omega), hbits, continuation]
  by_cases h3 : n < 0x10000
  · have hbits : ((0xE0 + n / 4096) % 2 ^ (5 - 1) * 64 + n / 64 % 64) * 64 + n % 64 = n := by omega
    rw [if_neg h1, if_neg h2, if_pos h3, List.cons_append, List.cons_append, List.singleton_append,
      decodeUtf8_cons (by omega) (following_of_three (by omega)), hc]
    rw [continuation_cons (secondRange_of_three (by omega) (by omega)) (by omega),
      continuation_cons (by simp only; omega) (by omega), hbits, continuation]
  · have hbits : (((0xF0 + n / 262144) % 2 ^ (5 - 2) * 64 + n / 4096 % 64) * 64 +
        n / 64 % 64) * 64 + n % 64 = n := by omega
    rw [if_neg h1, if_neg h2, if_neg h3, List.cons_append, List.cons_append, List.cons_append,
      List.singleton_append, decodeUtf8_cons (by omega) (following_of_four (by omega)), hc]
    rw [continuation_cons (secondRange_of_four (by omega)) (by omega),
      continuation_cons (by simp only; omega) (by omega),
      continuation_cons (by simp only; omega) (by omega), hbits, continuation]

theorem decodeUtf8_encodeUtf8 (s : List Char) : decodeUtf8 (encodeUtf8 s) = s.map some := by
  induction s with
  | nil => rw [encodeUtf8, List.flatMap_nil, decodeUtf8, List.map_nil]
  | cons c s ih =>
    rw [encodeUtf8, List.flatMap_cons, decodeUtf8_utf8Bytes, ← encodeUtf8, ih, List.map_cons]

/-- A written text is read back. -/
theorem strictText?_encodeUtf8 (s : List Char) :
    strictText? (encodeUtf8 s) = some (String.ofList s) := by
  have hall : (s.map some).mapM id = some s := by
    induction s with
    | nil => rfl
    | cons c s ih => simp [ih]
  rw [strictText?, decodeUtf8_encodeUtf8, hall, Option.map_some]

/-! ## What is read was written -/

theorem toNat_charOfNat {n : Nat} (h : n < 0xD800 ∨ 0xDFFF < n ∧ n < 0x110000) :
    (Char.ofNat n).toNat = n := by
  have hvalid : n.isValidChar := h
  rw [Char.ofNat, dif_pos hvalid]
  rfl

theorem toUInt8_eq {n : Nat} {b : UInt8} (h : n = b.toNat) : n.toUInt8 = b := by
  rw [h]
  exact UInt8.toNat_inj.1 (UInt8.toNat_ofNat_of_lt' b.toNat_lt)

/-- The first byte tells how many follow. -/
theorem lead_of_following {lead k : Nat} (h : following lead = some k) :
    (k = 0 ∧ lead < 0x80) ∨ (k = 1 ∧ 0xC2 ≤ lead ∧ lead ≤ 0xDF) ∨
      (k = 2 ∧ 0xE0 ≤ lead ∧ lead ≤ 0xEF) ∨ (k = 3 ∧ 0xF0 ≤ lead ∧ lead ≤ 0xF4) := by
  unfold following at h
  split at h
  · simp_all
  split at h
  · simp_all
  split at h
  · simp_all
  split at h
  · simp_all
  · cases h

/-- A byte that continues a character. -/
theorem exists_cons_of_continuation {range : Nat × Nat} {acc wanted n : Nat} {s t : List UInt8}
    (h : continuation range acc (wanted + 1) s = (n, 0, t)) :
    ∃ b s', s = b :: s' ∧ range.1 ≤ b.toNat ∧ b.toNat ≤ range.2 ∧
      continuation (0x80, 0xBF) (acc * 64 + b.toNat % 64) wanted s' = (n, 0, t) := by
  cases s with
  | nil => cases h
  | cons b s' =>
    rw [continuation] at h
    split at h
    · next hb =>
      rw [Bool.and_eq_true, decide_eq_true_iff, decide_eq_true_iff] at hb
      exact ⟨b, s', rfl, hb.1, hb.2, h⟩
    · cases h

theorem secondRange_spec (lead : Nat) :
    0x80 ≤ (secondRange lead).1 ∧ (secondRange lead).2 ≤ 0xBF ∧
      (lead = 0xE0 → 0xA0 ≤ (secondRange lead).1) ∧ (lead = 0xED → (secondRange lead).2 ≤ 0x9F) ∧
      (lead = 0xF0 → 0x90 ≤ (secondRange lead).1) ∧ (lead = 0xF4 → (secondRange lead).2 ≤ 0x8F) := by
  unfold secondRange
  iterate 4
    split
    · next h =>
      obtain rfl := beq_iff_eq.1 h
      decide
  next h₁ h₂ h₃ h₄ =>
    simp only [beq_iff_eq] at h₁ h₂ h₃ h₄
    exact ⟨by decide, by decide, fun h => absurd h h₁, fun h => absurd h h₂, fun h => absurd h h₃,
      fun h => absurd h h₄⟩

section

variable {b b₁ b₂ b₃ : UInt8}

/-- A byte that may stand second behind `b`. -/
def MayFollow (b b₁ : UInt8) : Prop :=
  (secondRange b.toNat).1 ≤ b₁.toNat ∧ b₁.toNat ≤ (secondRange b.toNat).2

theorem utf8Bytes_of_two (hb : 0xC2 ≤ b.toNat ∧ b.toNat ≤ 0xDF) (h₁ : MayFollow b b₁) :
    utf8Bytes (Char.ofNat (b.toNat % 32 * 64 + b₁.toNat % 64)) = [b, b₁] := by
  obtain ⟨hlow, hhigh⟩ := h₁
  have hrange := secondRange_spec b.toNat
  rw [utf8Bytes, toNat_charOfNat (by omega), if_neg (by omega), if_pos (by omega),
    toUInt8_eq (b := b) (by omega), toUInt8_eq (b := b₁) (by omega)]

theorem utf8Bytes_of_three (hb : 0xE0 ≤ b.toNat ∧ b.toNat ≤ 0xEF) (h₁ : MayFollow b b₁)
    (h₂ : 0x80 ≤ b₂.toNat ∧ b₂.toNat ≤ 0xBF) :
    utf8Bytes (Char.ofNat ((b.toNat % 16 * 64 + b₁.toNat % 64) * 64 + b₂.toNat % 64)) = [b, b₁, b₂] := by
  obtain ⟨hlow, hhigh⟩ := h₁
  have hrange := secondRange_spec b.toNat
  rw [utf8Bytes, toNat_charOfNat (by omega), if_neg (by omega), if_neg (by omega), if_pos (by omega),
    toUInt8_eq (b := b) (by omega), toUInt8_eq (b := b₁) (by omega), toUInt8_eq (b := b₂) (by omega)]

theorem utf8Bytes_of_four (hb : 0xF0 ≤ b.toNat ∧ b.toNat ≤ 0xF4) (h₁ : MayFollow b b₁)
    (h₂ : 0x80 ≤ b₂.toNat ∧ b₂.toNat ≤ 0xBF) (h₃ : 0x80 ≤ b₃.toNat ∧ b₃.toNat ≤ 0xBF) :
    utf8Bytes (Char.ofNat (((b.toNat % 8 * 64 + b₁.toNat % 64) * 64 + b₂.toNat % 64) * 64 +
      b₃.toNat % 64)) = [b, b₁, b₂, b₃] := by
  obtain ⟨hlow, hhigh⟩ := h₁
  have hrange := secondRange_spec b.toNat
  rw [utf8Bytes, toNat_charOfNat (by omega), if_neg (by omega), if_neg (by omega), if_neg (by omega),
    toUInt8_eq (b := b) (by omega), toUInt8_eq (b := b₁) (by omega), toUInt8_eq (b := b₂) (by omega),
    toUInt8_eq (b := b₃) (by omega)]

end

/-- The bytes that continue a character make its bits, and the lead tells how many they are. -/
theorem utf8Bytes_of_continuation {b : UInt8} {k n : Nat} {s t : List UInt8}
    (hlead : following b.toNat = some (k + 1))
    (hread : continuation (secondRange b.toNat) (b.toNat % Nat.pow 2 (5 - k)) (k + 1) s = (n, 0, t)) :
    b :: s = utf8Bytes (Char.ofNat n) ++ t := by
  obtain ⟨b₁, s₁, rfl, hlow, hhigh, hread⟩ := exists_cons_of_continuation hread
  have h₁ : MayFollow b b₁ := ⟨hlow, hhigh⟩
  obtain ⟨hk, -⟩ | ⟨hk, hb⟩ | ⟨hk, hb⟩ | ⟨hk, hb⟩ := lead_of_following hlead
  · omega
  · obtain rfl : k = 0 := by omega
    rw [continuation] at hread
    obtain ⟨rfl, ht⟩ := Prod.mk.inj hread
    rw [(Prod.mk.inj ht).2]
    exact congrArg (· ++ t) (utf8Bytes_of_two hb h₁).symm
  · obtain rfl : k = 1 := by omega
    obtain ⟨b₂, s₂, rfl, hlow₂, hhigh₂, hread⟩ := exists_cons_of_continuation hread
    rw [continuation] at hread
    obtain ⟨rfl, ht⟩ := Prod.mk.inj hread
    rw [(Prod.mk.inj ht).2]
    exact congrArg (· ++ t) (utf8Bytes_of_three hb h₁ ⟨hlow₂, hhigh₂⟩).symm
  · obtain rfl : k = 2 := by omega
    obtain ⟨b₂, s₂, rfl, hlow₂, hhigh₂, hread⟩ := exists_cons_of_continuation hread
    obtain ⟨b₃, s₃, rfl, hlow₃, hhigh₃, hread⟩ := exists_cons_of_continuation hread
    rw [continuation] at hread
    obtain ⟨rfl, ht⟩ := Prod.mk.inj hread
    rw [(Prod.mk.inj ht).2]
    exact congrArg (· ++ t) (utf8Bytes_of_four hb h₁ ⟨hlow₂, hhigh₂⟩ ⟨hlow₃, hhigh₃⟩).symm

/-- The bytes from which a character was read are those of the character. -/
theorem exists_of_decodeUtf8_cons {b : UInt8} {s : List UInt8} {c : Char} {rest : List (Option Char)}
    (h : decodeUtf8 (b :: s) = some c :: rest) :
    ∃ t, b :: s = utf8Bytes c ++ t ∧ rest = decodeUtf8 t := by
  rw [decodeUtf8] at h
  split at h
  · cases h
  · next hlead =>
    have hlt : b.toNat < 0x80 := by
      have hcases := lead_of_following hlead
      omega
    obtain ⟨hc, hrest⟩ := List.cons.inj h
    obtain rfl := Option.some.inj hc
    refine ⟨s, ?_, hrest.symm⟩
    rw [utf8Bytes, toNat_charOfNat (by omega), if_pos hlt, toUInt8_eq rfl, List.singleton_append]
  · next k hlead =>
    obtain ⟨hc, hrest⟩ := List.cons.inj h
    split at hc
    next hmissing =>
      obtain rfl := Option.some.inj hc
      generalize hread : continuation (secondRange b.toNat) _ (k + 1) s = read at hmissing hrest ⊢
      obtain ⟨n, missing, t⟩ := read
      dsimp only at hmissing hrest ⊢
      subst hmissing
      exact ⟨t, utf8Bytes_of_continuation hlead hread, hrest.symm⟩
    next => cases hc

/-- Bytes without a bad sequence are those of the characters that are read. -/
theorem eq_encodeUtf8_of_decodeUtf8 {bytes : List UInt8} {cs : List Char}
    (h : decodeUtf8 bytes = cs.map some) : bytes = encodeUtf8 cs := by
  induction cs generalizing bytes with
  | nil =>
    cases bytes with
    | nil => rfl
    | cons b s =>
      rw [decodeUtf8] at h
      split at h <;> cases h
  | cons c cs ih =>
    cases bytes with
    | nil =>
      rw [decodeUtf8] at h
      cases h
    | cons b s =>
      obtain ⟨t, ht, hrest⟩ := exists_of_decodeUtf8_cons h
      rw [ht, ih hrest.symm, encodeUtf8, encodeUtf8, List.flatMap_cons]

theorem eq_map_some_of_mapM_id {α : Type} {xs : List (Option α)} {ys : List α}
    (h : xs.mapM id = some ys) : xs = ys.map some := by
  induction xs generalizing ys with
  | nil =>
    cases h
    rfl
  | cons x xs ih =>
    simp only [List.mapM_cons, Option.bind_eq_bind, Option.bind_eq_some_iff] at h
    obtain ⟨y, hy, ys', hys, heq⟩ := h
    cases heq
    rw [List.map_cons, ← ih hys, ← hy, id]

/-- Bytes are read as a text exactly when they are the bytes of that text. -/
theorem strictText?_eq_some_iff {bytes : List UInt8} {text : String} :
    strictText? bytes = some text ↔ bytes = encodeUtf8 text.toList := by
  constructor
  · intro h
    obtain ⟨cs, hcs, rfl⟩ := Option.map_eq_some_iff.1 h
    rw [String.toList_ofList]
    exact eq_encodeUtf8_of_decodeUtf8 (eq_map_some_of_mapM_id hcs)
  · rintro rfl
    rw [strictText?_encodeUtf8, String.ofList_toList]

/-! ## ASCII bytes -/

theorem mem_continuation {b : UInt8} (hb : b.toNat < 0x80) {range : Nat × Nat} (hrange : 0x80 ≤ range.1)
    (acc wanted : Nat) {s : List UInt8} (h : b ∈ s) : b ∈ (continuation range acc wanted s).2.2 := by
  induction wanted generalizing range acc s with
  | zero => exact h
  | succ wanted ih =>
    cases s with
    | nil => cases h
    | cons b' rest =>
      rw [continuation]
      split
      · next hfits =>
        rw [Bool.and_eq_true, decide_eq_true_iff] at hfits
        rcases List.mem_cons.1 h with rfl | h
        · omega
        · exact ih (Nat.le_refl _) _ h
      · exact h

/-- An ASCII byte is no part of a longer sequence, be it good or bad. -/
theorem mem_decodeUtf8 {b : UInt8} (hb : b.toNat < 0x80) (bytes : List UInt8) (h : b ∈ bytes) :
    some (Char.ofNat b.toNat) ∈ decodeUtf8 bytes := by
  induction bytes using decodeUtf8.induct with
  | case1 => cases h
  | case2 lead rest hlead ih =>
    rw [decodeUtf8, hlead]
    rcases List.mem_cons.1 h with rfl | h
    · rw [following_of_lt hb] at hlead
      cases hlead
    · exact List.mem_cons_of_mem _ (ih h)
  | case3 lead rest hlead ih =>
    rw [decodeUtf8, hlead]
    rcases List.mem_cons.1 h with rfl | h
    · exact List.mem_cons_self
    · exact List.mem_cons_of_mem _ (ih h)
  | case4 lead rest k hlead bits read ih =>
    rw [decodeUtf8, hlead]
    rcases List.mem_cons.1 h with rfl | h
    · rw [following_of_lt hb] at hlead
      cases hlead
    · refine List.mem_cons_of_mem _ (ih (mem_continuation hb ?_ _ _ h))
      exact (secondRange_spec lead.toNat).1

end ScpiConsole.Text
