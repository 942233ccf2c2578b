import ScpiConsole.Proofs.Text.Utf8
/-!
# Percent forms

A text whose characters were written in percent form is read back, whichever of them stand for
themselves.

* `percentDecode_percentEncode` : the percent form is read back
* `mem_percentEncode` : what stands in it
* `mem_lossyText_percentDecode` : an ASCII sign that is no part of a percent form stands in what is read
-/

namespace ScpiConsole.Text

/-- A byte is read from its percent form. -/
theorem percentDecode_percentByte (b : UInt8) (s : List Char) :
    percentDecode (percentByte b ++ s) = b :: percentDecode s := by
  have hb := b.toNat_lt
  rw [percentByte, List.cons_append, List.cons_append, List.cons_append, List.nil_append, percentDecode,
    hexValue_hexDigit true (show b.toNat / 16 < 16 by omega),
    hexValue_hexDigit true (show b.toNat % 16 < 16 by omega)]
  dsimp only
  rw [Nat.div_add_mod]
  exact congrArg (· :: percentDecode s) (toUInt8_eq rfl)

theorem percentDecode_percentBytes (bytes : List UInt8) (s : List Char) :
    percentDecode (bytes.flatMap percentByte ++ s) = bytes ++ percentDecode s := by
  induction bytes with
  | nil => rfl
  | cons b rest ih =>
    rw [List.flatMap_cons, List.append_assoc, percentDecode_percentByte, ih, List.cons_append]

/-- Every other character stands for itself. -/
theorem percentDecode_cons {c : Char} (h : c ≠ '%') (s : List Char) :
    percentDecode (c :: s) = utf8Bytes c ++ percentDecode s := by
  rw [percentDecode]
  exact fun _ _ _ hc _ => h hc

theorem percentEncode_cons (keep : Char → Bool) (c : Char) (s : List Char) : percentEncode keep (c :: s) =
    (if keep c then [c] else (utf8Bytes c).flatMap percentByte) ++ percentEncode keep s := rfl

/-- A text is read back from the form in which only some characters stand for themselves. -/
theorem percentDecode_percentEncode {keep : Char → Bool} (h : keep '%' = false) (text s : List Char) :
    percentDecode (percentEncode keep text ++ s) = encodeUtf8 text ++ percentDecode s := by
  induction text with
  | nil => rfl
  | cons c rest ih =>
    have hbytes : encodeUtf8 (c :: rest) = utf8Bytes c ++ encodeUtf8 rest := rfl
    rw [percentEncode_cons, hbytes, List.append_assoc, List.append_assoc, ← ih]
    split
    · next hkeep =>
      refine percentDecode_cons ?_ _
      rintro rfl
      cases h.symm.trans hkeep
    · exact percentDecode_percentBytes _ _

theorem percentEncode_append (keep : Char → Bool) (s t : List Char) :
    percentEncode keep (s ++ t) = percentEncode keep s ++ percentEncode keep t := List.flatMap_append

theorem percentEncode_eq_self {keep : Char → Bool} {s : List Char} (h : ∀ c ∈ s, keep c = true) :
    percentEncode keep s = s := by
  induction s with
  | nil => rfl
  | cons c rest ih =>
    obtain ⟨hc, hrest⟩ := List.forall_mem_cons.1 h
    rw [percentEncode_cons, hc, ih hrest]
    rfl

theorem utf8Bytes_ne_nil (c : Char) : utf8Bytes c ≠ [] := by
  unfold utf8Bytes
  dsimp only
  iterate 3
    split
    · exact List.cons_ne_nil _ _
  exact List.cons_ne_nil _ _

theorem percentEncode_ne_nil (keep : Char → Bool) {s : List Char} (h : s ≠ []) :
    percentEncode keep s ≠ [] := by
  obtain ⟨c, rest, rfl⟩ := List.exists_cons_of_ne_nil h
  rw [percentEncode_cons]
  refine List.append_ne_nil_of_left_ne_nil ?_ _
  split
  · exact List.cons_ne_nil c []
  · obtain ⟨b, bytes, hbytes⟩ := List.exists_cons_of_ne_nil (utf8Bytes_ne_nil c)
    rw [hbytes]
    exact List.cons_ne_nil '%' _

theorem mem_percentByte {b : UInt8} {c : Char} (h : c ∈ percentByte b) :
    c = '%' ∨ (hexValue c).isSome = true := by
  have hb := b.toNat_lt
  rw [percentByte] at h
  rcases List.mem_cons.1 h with rfl | h
  · exact .inl rfl
  rcases List.mem_cons.1 h with rfl | h
  · exact .inr (by rw [hexValue_hexDigit true (by omega)]; rfl)
  · rw [List.mem_singleton.1 h]
    exact .inr (by rw [hexValue_hexDigit true (by omega)]; rfl)

theorem mem_percentEncode {keep : Char → Bool} {text : List Char} {c : Char}
    (h : c ∈ percentEncode keep text) : (keep c = true ∧ c ∈ text) ∨ c = '%' ∨ (hexValue c).isSome = true := by
  rw [percentEncode, List.mem_flatMap] at h
  obtain ⟨d, hd, h⟩ := h
  split at h
  · next hkeep =>
    rw [List.mem_singleton.1 h]
    exact .inl ⟨hkeep, hd⟩
  · obtain ⟨b, -, h⟩ := List.mem_flatMap.1 h
    exact .inr (mem_percentByte h)

/-! ## Signs that stay -/

theorem mem_percentDecode {c : Char} (hascii : c.toNat < 0x80) (hsign : c ≠ '%') (hhex : hexValue c = none)
    (s : List Char) (h : c ∈ s) : c.toNat.toUInt8 ∈ percentDecode s := by
  have hself : c.toNat.toUInt8 ∈ utf8Bytes c := by
    rw [utf8Bytes, if_pos hascii]
    exact List.mem_singleton_self _
  induction s using percentDecode.induct with
  | case1 a b s x y hy hx ih =>
    rw [percentDecode, hx, hy]
    rcases List.mem_cons.1 h with rfl | h
    · exact absurd rfl hsign
    rcases List.mem_cons.1 h with rfl | h
    · cases hhex.symm.trans hx
    rcases List.mem_cons.1 h with rfl | h
    · cases hhex.symm.trans hy
    · exact List.mem_cons_of_mem _ (ih h)
  | case2 a b s hnone ih =>
    have hread : percentDecode ('%' :: a :: b :: s) = '%'.toNat.toUInt8 :: percentDecode (a :: b :: s) := by
      rw [percentDecode]
      split
      · next x y hx hy => exact absurd hy (hnone x y hx)
      · rfl
    rw [hread]
    rcases List.mem_cons.1 h with rfl | h
    · exact absurd rfl hsign
    · exact List.mem_cons_of_mem _ (ih h)
  | case3 d s hd ih =>
    rw [percentDecode.eq_2 d s hd]
    rcases List.mem_cons.1 h with rfl | h
    · exact List.mem_append_left _ hself
    · exact List.mem_append_right _ (ih h)
  | case4 => cases h

/-- An ASCII sign that is no part of a percent form stands in what is read. -/
theorem mem_lossyText_percentDecode {c : Char} (hascii : c.toNat < 0x80) (hsign : c ≠ '%')
    (hhex : hexValue c = none) {s : List Char} (h : c ∈ s) :
    c ∈ (lossyText (percentDecode s)).toList := by
  have hbyte : c.toNat.toUInt8.toNat = c.toNat := UInt8.toNat_ofNat_of_lt' (show c.toNat < 256 by omega)
  have hmem := mem_decodeUtf8 (by omega) _ (mem_percentDecode hascii hsign hhex s h)
  rw [hbyte, Char.ofNat_toNat] at hmem
  rw [lossyText, String.toList_ofList]
  exact List.mem_map.2 ⟨some c, hmem, rfl⟩

end ScpiConsole.Text
