import ScpiConsole.Proofs.Text.Ends
import ScpiConsole.Proofs.Text.Percent
import ScpiConsole.Url
/-!
# Named values are read back

The values that a request adds to its query are those that a server finds there, whatever characters
stand in them.

* `Url.readPairs` : what a server reads from a query
* `Url.readPairs_pairsText` : it is what was written
-/

namespace ScpiConsole

namespace Url

open Text

/-! ## Queries as a server reads them -/

/-- A name or a value; `+` stands for a blank. -/
def readPart (s : List Char) : String := lossyText (percentDecode (s.map fun c => if c = '+' then ' ' else c))

/-- A name, and the value behind `=`. Without it there is no value. -/
def readPair (s : List Char) : String × String :=
  match cutOnce '=' s with
  | some (name, value) => (readPart name, readPart value)
  | none => (readPart s, "")

/-- The named values of a query. -/
def readPairs (query : List Char) : List (String × String) :=
  ((query.splitOn '&').filter fun s => !s.isEmpty).map readPair

/-- All that stands in the text of a part. -/
theorem mem_pairText {s : List Char} {c : Char} (h : c ∈ pairText s) :
    c = '+' ∨ keptInPair c = true ∨ c = '%' ∨ (hexValue c).isSome = true := by
  obtain ⟨d, -, h⟩ := List.mem_flatMap.1 h
  split at h
  · exact .inl (List.mem_singleton.1 h)
  · exact .inr ((mem_percentEncode h).imp_left And.left)

theorem not_mem_pairText {c : Char} (hplus : c ≠ '+') (hkept : keptInPair c = false) (hsign : c ≠ '%')
    (hhex : hexValue c = none) (s : List Char) : c ∉ pairText s := by
  intro h
  rcases mem_pairText h with h | h | h | h
  · exact hplus h
  · cases hkept.symm.trans h
  · exact hsign h
  · rw [hhex] at h
    cases h

/-- Only a blank is written as `+`. -/
theorem plus_not_mem_percentEncode (c : Char) : '+' ∉ percentEncode keptInPair [c] := by
  intro h
  rcases mem_percentEncode h with ⟨h, -⟩ | h | h
  · revert h
    decide
  · revert h
    decide
  · revert h
    decide

theorem percentDecode_pairText (s : List Char) :
    percentDecode ((pairText s).map fun c => if c = '+' then ' ' else c) = encodeUtf8 s := by
  induction s with
  | nil => rfl
  | cons c rest ih =>
    have hsplit : pairText (c :: rest) =
        (if c = ' ' then ['+'] else percentEncode keptInPair [c]) ++ pairText rest := rfl
    have hbytes : encodeUtf8 (c :: rest) = utf8Bytes c ++ encodeUtf8 rest := rfl
    rw [hsplit, hbytes, List.map_append, ← ih]
    split
    · next hblank =>
      subst hblank
      exact percentDecode_cons (by decide) _
    · have hkept : (percentEncode keptInPair [c]).map (fun c => if c = '+' then ' ' else c) =
          percentEncode keptInPair [c] := by
        refine (List.map_congr_left fun d hd => if_neg ?_).trans (List.map_id' _)
        rintro rfl
        exact plus_not_mem_percentEncode c hd
      rw [hkept, percentDecode_percentEncode (by decide)]
      exact congrArg (· ++ _) (List.append_nil (utf8Bytes c))

theorem readPart_pairText (s : String) : readPart (pairText s.toList) = s := by
  rw [readPart, percentDecode_pairText, lossyText, decodeUtf8_encodeUtf8, List.map_map]
  exact (congrArg String.ofList (List.map_id' s.toList)).trans String.ofList_toList

/-- The text of a pair. -/
def pieceText (p : String × String) : List Char := pairText p.1.toList ++ '=' :: pairText p.2.toList

theorem readPair_pieceText (p : String × String) : readPair (pieceText p) = p := by
  have hequals := not_mem_pairText (c := '=') (by decide) (by decide) (by decide) (by decide) p.1.toList
  rw [pieceText, readPair, cutOnce_append_sep hequals]
  exact Prod.ext (readPart_pairText p.1) (readPart_pairText p.2)

theorem not_mem_pieceText (p : String × String) : '&' ∉ pieceText p := by
  have hand := not_mem_pairText (c := '&') (by decide) (by decide) (by decide) (by decide)
  rw [pieceText, List.mem_append, List.mem_cons, not_or, not_or]
  exact ⟨hand _, by decide, hand _⟩

theorem splitOn_pairsText {pairs : List (String × String)} (h : pairs ≠ []) :
    (pairsText pairs).splitOn '&' = pairs.map pieceText := by
  induction pairs with
  | nil => exact absurd rfl h
  | cons p rest ih =>
    cases rest with
    | nil =>
      have hone : pairsText [p] = pieceText p := by simp [pairsText, pieceText]
      rw [hone, List.splitOn_eq_singleton (not_mem_pieceText p)]
      rfl
    | cons next more =>
      have hsplit : pairsText (p :: next :: more) = pieceText p ++ '&' :: pairsText (next :: more) := by
        rw [pairsText, List.map_cons, List.map_cons, List.intercalate_cons_cons, List.append_assoc]
        rfl
      rw [hsplit, List.splitOn_append_cons_self, List.splitOn_eq_singleton (not_mem_pieceText p),
        ih (List.cons_ne_nil next more)]
      rfl

/-- A server finds the named values that were written. -/
theorem readPairs_pairsText {pairs : List (String × String)} (h : pairs ≠ []) :
    readPairs (pairsText pairs) = pairs := by
  have hkept : (pairs.map pieceText).filter (fun s => !s.isEmpty) = pairs.map pieceText := by
    refine List.filter_eq_self.2 fun s hs => ?_
    obtain ⟨p, -, rfl⟩ := List.mem_map.1 hs
    simp [pieceText]
  rw [readPairs, splitOn_pairsText h, hkept, List.map_map]
  exact (List.map_congr_left fun p _ => readPair_pieceText p).trans (List.map_id' pairs)

/-! ## Named values in a URL -/

variable (u : Url) (pairs : List (String × String))

theorem withPairs_eq : ∃ query, u.withPairs pairs = { u with query } := by
  unfold withPairs
  split <;> exact ⟨_, rfl⟩

/-- Named values on their own make the query. -/
theorem query_withPairs (h : u.query = none) :
    (u.withPairs pairs).query = if pairs = [] then none else some (pairsText pairs) := by
  cases u
  cases h
  cases pairs <;> rfl

end Url

end ScpiConsole
