import Mathlib.Data.List.TakeWhile
import ScpiConsole.Proofs.Text.Letters
import ScpiConsole.Proofs.Url.Path
/-!
# The parts of a URL of the network

The text of such a URL is its scheme, any slashes, the part with the host, and then its path and query. Text
written behind it makes the last of these parts longer.

* `exists_of_scheme?` : the scheme in front
* `authorityPart`, `pathPart` : what stands behind the scheme
* `parse?_eq_ok_iff` : the parts make the URL
* `pathAndQuery_append_of_mem` : nothing gets behind a query into the path
-/

namespace ScpiConsole.Url

open Text

/-! ## Schemes -/

variable {s rest scheme : List Char}

/-- A scheme stays what it is, whatever is written behind its colon. -/
theorem exists_of_scheme? (h : scheme? s = some (scheme, rest)) : ∃ name, s = name ++ rest ∧
    (∀ c ∈ name, c = ':' ∨ isSchemeChar c = true) ∧ ∀ t, scheme? (name ++ t) = some (scheme, t) := by
  unfold scheme? at h
  split at h
  · next c name after hcut =>
    split at h
    · next hchars =>
      obtain ⟨rfl, rfl⟩ := Prod.mk.inj (Option.some.inj h)
      obtain ⟨rfl, hcolon⟩ := cutOnce_eq_some_iff.1 hcut
      have hsplit (t : List Char) : c :: name ++ [':'] ++ t = c :: name ++ ':' :: t :=
        List.append_assoc _ _ _
      refine ⟨c :: name ++ [':'], (hsplit after).symm, fun d hd => ?_, fun t => ?_⟩
      · rw [Bool.and_eq_true] at hchars
        rcases List.mem_append.1 hd with hd | hd
        · rcases List.mem_cons.1 hd with rfl | hd
          · exact .inr (by rw [isSchemeChar, hchars.1]; rfl)
          · exact .inr (List.all_eq_true.1 hchars.2 d hd)
        · exact .inl (List.mem_singleton.1 hd)
      · rw [hsplit, scheme?, cutOnce_append_sep hcolon]
        exact if_pos hchars
    · cases h
  · cases h

/-! ## Host and path -/

/-- A character that ends the part with the host. -/
def endsAuthority (c : Char) : Bool := "/\\?#".toList.contains c

/-- Host and port, and any credentials, in what follows the scheme. -/
def authorityPart (rest : List Char) : List Char :=
  (rest.dropWhile isSlash).takeWhile fun c => !endsAuthority c

/-- Path, query and fragment, in what follows the scheme. -/
def pathPart (rest : List Char) : List Char := (rest.dropWhile isSlash).dropWhile fun c => !endsAuthority c

theorem slashes_append_parts (rest : List Char) :
    rest.takeWhile isSlash ++ (authorityPart rest ++ pathPart rest) = rest := by
  rw [authorityPart, pathPart, List.takeWhile_append_dropWhile, List.takeWhile_append_dropWhile]

theorem endsAuthority_of_mem_authorityPart {c : Char} (h : c ∈ authorityPart rest) :
    endsAuthority c = false := by
  have hends := List.mem_takeWhile_imp h
  simpa using hends

theorem endsAuthority_of_isSlash {c : Char} (h : isSlash c = true) : endsAuthority c = true := by
  rw [isSlash, Bool.or_eq_true, decide_eq_true_iff, decide_eq_true_iff] at h
  rcases h with rfl | rfl <;> decide

theorem isSlash_of_mem_authorityPart {c : Char} (h : c ∈ authorityPart rest) : isSlash c = false := by
  rw [← Bool.not_eq_true]
  intro hslash
  cases (endsAuthority_of_mem_authorityPart h).symm.trans (endsAuthority_of_isSlash hslash)

theorem startsOutside_pathPart (rest : List Char) : StartsOutside (fun c => !endsAuthority c) (pathPart rest) :=
  startsOutside_dropWhile _ _

/-- More behind the path makes the path longer. -/
theorem parts_append (hne : pathPart rest ≠ []) (t : List Char) :
    authorityPart (rest ++ t) = authorityPart rest ∧ pathPart (rest ++ t) = pathPart rest ++ t := by
  have hslashes : (rest ++ t).dropWhile isSlash = rest.dropWhile isSlash ++ t := by
    refine (List.dropWhile_append ..).trans (if_neg fun h => hne ?_)
    rw [pathPart, List.isEmpty_iff.1 h]
    rfl
  have hhost : ¬ ((rest.dropWhile isSlash).dropWhile fun c => !endsAuthority c).isEmpty = true :=
    fun h => hne (List.isEmpty_iff.1 h)
  refine ⟨?_, ?_⟩
  · rw [authorityPart, hslashes]
    rw [pathPart] at hne
    conv =>
      lhs
      rw [← List.takeWhile_append_dropWhile (p := fun c => !endsAuthority c) (l := rest.dropWhile isSlash),
        List.append_assoc]
    exact takeWhile_append_of_startsOutside (List.all_eq_true.1 List.all_takeWhile)
      ((startsOutside_append_iff hne).2 (startsOutside_pathPart rest))
  · rw [pathPart, hslashes, List.dropWhile_append, if_neg hhost, pathPart]

/-- Without a path what is written behind the host belongs to it until a slash starts a path. -/
theorem parts_append_of_path_eq_nil (hpath : pathPart rest = []) (hne : authorityPart rest ≠ [])
    {t more : List Char} (ht : ∀ c ∈ t, endsAuthority c = false)
    (hmore : StartsOutside (fun c => !endsAuthority c) more) :
    authorityPart (rest ++ (t ++ more)) = authorityPart rest ++ t ∧ pathPart (rest ++ (t ++ more)) = more := by
  have hsplit := slashes_append_parts rest
  rw [hpath, List.append_nil] at hsplit
  have hstarts : StartsOutside isSlash (authorityPart rest) := fun c hc =>
    isSlash_of_mem_authorityPart (List.mem_of_mem_head? hc)
  have hslashes : (rest ++ (t ++ more)).dropWhile isSlash = authorityPart rest ++ t ++ more := by
    conv =>
      lhs
      rw [← hsplit, List.append_assoc]
    rw [List.dropWhile_append_of_pos fun c hc => List.mem_takeWhile_imp hc, List.append_assoc]
    obtain ⟨c, tail, hcons⟩ := List.exists_cons_of_ne_nil hne
    rw [hcons, List.cons_append]
    refine List.dropWhile_cons_of_neg ?_
    simp [hstarts c (by rw [hcons]; rfl)]
  have hall : ∀ c ∈ authorityPart rest ++ t, (!endsAuthority c) = true := by
    intro c hc
    rw [Bool.not_eq_true']
    rcases List.mem_append.1 hc with hc | hc
    · exact endsAuthority_of_mem_authorityPart hc
    · exact ht c hc
  have hhost := takeWhile_append_of_startsOutside hall hmore
  refine ⟨?_, ?_⟩
  · rw [authorityPart, hslashes, hhost]
  · have hwhole := List.takeWhile_append_dropWhile (p := fun c => !endsAuthority c)
      (l := authorityPart rest ++ t ++ more)
    rw [hhost] at hwhole
    rw [pathPart, hslashes]
    exact List.append_cancel_left hwhole

/-! ## Path and query -/

theorem pathAndQuery_of_not_mem (hquery : '?' ∉ s) (hfragment : '#' ∉ s) : pathAndQuery s = (s, none) := by
  have hall : s.takeWhile (fun c => decide (c ≠ '#')) = s := by
    refine List.takeWhile_eq_self_iff.2 fun c hc => decide_eq_true ?_
    rintro rfl
    exact hfragment hc
  rw [pathAndQuery, hall, cutOnce_eq_none hquery]

theorem fst_pathAndQuery_cons {c : Char} (hquery : c ≠ '?') (hfragment : c ≠ '#') (s : List Char) :
    (pathAndQuery (c :: s)).1 = c :: (pathAndQuery s).1 := by
  rw [pathAndQuery, pathAndQuery, List.takeWhile_cons_of_pos (by simpa using hfragment), cutOnce,
    if_neg hquery]
  cases cutOnce '?' (s.takeWhile fun c => decide (c ≠ '#')) <;> rfl

/-- What stands behind the start of a query or a fragment is not in the path. -/
theorem pathAndQuery_append_of_mem (h : '?' ∈ s ∨ '#' ∈ s) (t : List Char) :
    (pathAndQuery (s ++ t)).1 = (pathAndQuery s).1 := by
  induction s with
  | nil => simp at h
  | cons c s ih =>
    rw [List.cons_append]
    by_cases hquery : c = '?'
    · subst hquery
      rfl
    · by_cases hfragment : c = '#'
      · subst hfragment
        rfl
      · rw [fst_pathAndQuery_cons hquery hfragment, fst_pathAndQuery_cons hquery hfragment, ih]
        rw [List.mem_cons, List.mem_cons] at h
        exact h.imp (Or.resolve_left · (Ne.symm hquery)) (Or.resolve_left · (Ne.symm hfragment))

/-! ## URLs -/

variable {text : List Char} {implied : Nat} {u : Url}

theorem drop_length_authorityPart (rest : List Char) :
    (rest.dropWhile isSlash).drop (authorityPart rest).length = pathPart rest := by
  conv =>
    lhs
    rw [← List.takeWhile_append_dropWhile (p := fun c => !endsAuthority c) (l := rest.dropWhile isSlash)]
  exact List.drop_left

/-- What makes a URL of a scheme of the network. -/
theorem network?_eq_ok_iff : network? scheme implied rest = .ok u ↔ ∃ host port,
    authority? (some implied) (authorityPart rest) (!(pathPart rest).isEmpty) = .ok (host, port) ∧
      u = ⟨scheme, host, port, networkPath (pathAndQuery (pathPart rest)).1,
        (pathAndQuery (pathPart rest)).2.map (percentEncode keptInQuery)⟩ := by
  have hopen : network? scheme implied rest =
      (authority? (some implied) (authorityPart rest) (!(pathPart rest).isEmpty)).bind fun p =>
        .ok ⟨scheme, p.1, p.2, networkPath (pathAndQuery (pathPart rest)).1,
          (pathAndQuery (pathPart rest)).2.map (percentEncode keptInQuery)⟩ := by
    rw [← drop_length_authorityPart rest]
    rfl
  rw [hopen]
  cases authority? (some implied) (authorityPart rest) (!(pathPart rest).isEmpty) with
  | error e => exact iff_of_false (fun h => by cases h) (by rintro ⟨host, port, h, -⟩; cases h)
  | ok parts =>
    obtain ⟨host, port⟩ := parts
    constructor
    · intro h
      exact ⟨host, port, rfl, (Except.ok.inj h).symm⟩
    · rintro ⟨host', port', hparts, rfl⟩
      obtain ⟨rfl, rfl⟩ := Prod.mk.inj (Except.ok.inj hparts)
      rfl

theorem scheme_of_file? (h : file? scheme rest = .ok u) : u.scheme = scheme := by
  unfold file? at h
  dsimp only at h
  split at h
  · split at h
    · split at h
      · rw [← Except.ok.inj h]
      · generalize Host.parse? _ = host at h
        cases host with
        | error e => cases h
        | ok host => rw [← Except.ok.inj h]
    · rw [← Except.ok.inj h]
  · rw [← Except.ok.inj h]

theorem scheme_of_other? (h : other? scheme rest = .ok u) : u.scheme = scheme := by
  unfold other? at h
  dsimp only at h
  split at h
  · generalize authority? none _ _ = parts at h
    cases parts with
    | error e => cases h
    | ok parts => rw [← Except.ok.inj h]
  · rw [← Except.ok.inj h]

/-- A URL of a scheme of the network is read from what follows its scheme. -/
theorem parse?_eq_ok_iff (hport : impliedPort? u.scheme = some implied) : parse? text = .ok u ↔
    ∃ rest, scheme? (cleaned text) = some (u.scheme, rest) ∧ network? u.scheme implied rest = .ok u := by
  unfold parse?
  cases hscheme : scheme? (cleaned text) with
  | none => exact iff_of_false (fun h => by cases h) (by rintro ⟨rest, h, -⟩; cases h)
  | some parts =>
    obtain ⟨scheme, rest⟩ := parts
    dsimp only
    constructor
    · intro h
      split at h
      · next port hown =>
        obtain ⟨host, port', hparts, rfl⟩ := network?_eq_ok_iff.1 h
        obtain rfl : port = implied := Option.some.inj (hown.symm.trans hport)
        exact ⟨rest, rfl, h⟩
      · next hown =>
        have hsame : u.scheme = scheme := by
          split at h
          · exact scheme_of_file? h
          · exact scheme_of_other? h
        rw [hsame, hown] at hport
        cases hport
    · rintro ⟨rest', hparts, h⟩
      obtain ⟨rfl, rfl⟩ := Prod.mk.inj (Option.some.inj hparts)
      rw [hport]
      exact h

end ScpiConsole.Url
