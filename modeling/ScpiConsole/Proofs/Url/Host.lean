import Mathlib.Data.List.TakeWhile
import ScpiConsole.Proofs.Text.Blank
import ScpiConsole.Proofs.Text.Percent
import ScpiConsole.Proofs.Unicode.Blank
import ScpiConsole.Url
/-!
# Hosts and ports behind which more is written

The host of a URL ends where a colon, a slash or another sign ends it. Blanks and controls that stand in
front of that sign belong to the host, or to the port, and no host and no port holds them.

* `DomainName.normal?_eq_none` : no name holds a blank
* `Host.exists_parse?_error` : no host ends in blanks
* `Url.authority?_eq_ok_iff` : what makes host and port
* `Url.exists_authority?_error` : neither of them ends in blanks
-/

namespace ScpiConsole

/-! ## Names -/

namespace DomainName

theorem mapped?_of_isAscii {c : Char} (h : isAscii c = true) : mapped? c = some [Text.foldChar c] := by
  rw [mapped?, if_pos h]

theorem mem_mapText? {name text : List Char} {c : Char} (h : c.toNat ≤ 0x20) (hc : c ∈ name)
    (htext : mapText? name = some text) : c ∈ text := by
  rw [mapText?] at htext
  obtain ⟨parts, hparts, rfl⟩ := Option.map_eq_some_iff.1 htext
  have hascii : isAscii c = true := decide_eq_true (by omega)
  have hmem : c ∈ parts.flatten := by
    have hpart : [c] ∈ parts := by
      have hmapped := mapped?_of_isAscii hascii
      rw [Text.foldChar_of_low h] at hmapped
      clear htext
      induction name generalizing parts with
      | nil => cases hc
      | cons d rest ih =>
        rw [List.mapM_cons, Option.bind_eq_bind, Option.bind_eq_some_iff] at hparts
        obtain ⟨part, hd, hparts⟩ := hparts
        rw [Option.bind_eq_bind, Option.bind_eq_some_iff] at hparts
        obtain ⟨more, hmore, hparts⟩ := hparts
        obtain rfl : part :: more = parts := Option.some.inj hparts
        rcases List.mem_cons.1 hc with rfl | hc
        · obtain rfl : [c] = part := Option.some.inj (hmapped.symm.trans hd)
          exact List.mem_cons_self
        · exact List.mem_cons_of_mem _ (ih hc _ hmore)
    exact List.mem_flatten.2 ⟨[c], hpart, List.mem_singleton_self c⟩
  split
  · exact hmem
  · exact Unicode.mem_normalForm h hmem

/-- No name holds a blank or a control. -/
theorem normal?_eq_none {name : List Char} {c : Char} (h : c.toNat ≤ 0x20) (hc : c ∈ name) :
    normal? name = none := by
  rw [normal?]
  split
  · next text htext =>
    have hdenied : text.any isDenied = true := by
      refine List.any_eq_true.2 ⟨c, mem_mapText? h hc htext, ?_⟩
      simp [isDenied, h]
    rw [if_pos hdenied]
  · rfl

end DomainName

/-! ## Hosts -/

namespace Host

/-- No host ends in blanks and controls. -/
theorem exists_parse?_error {text blanks : List Char} (htext : text ≠ []) (hne : blanks ≠ [])
    (hblanks : ∀ c ∈ blanks, c.toNat ≤ 0x20) : ∃ e, parse? (text ++ blanks) = .error e := by
  have hlow := hblanks _ (List.getLast_mem hne)
  obtain ⟨c, rest, rfl⟩ := List.exists_cons_of_ne_nil htext
  by_cases hc : c = '['
  · subst hc
    have hopen : bracketed? ('[' :: (rest ++ blanks)) = some (.error .badIpv6) := by
      rw [bracketed?, if_neg]
      rw [List.getLast?_append_of_ne_nil rest hne, List.getLast?_eq_some_getLast hne, Option.some.injEq]
      exact Text.ne_of_low (by decide) hlow
    exact ⟨.badIpv6, by rw [List.cons_append, parse?, hopen]⟩
  · have hopen : bracketed? (c :: (rest ++ blanks)) = none := by
      rw [bracketed?]
      exact fun _ h => hc (List.cons.inj h).1
    have hmem : blanks.getLast hne ∈ c :: (rest ++ blanks) := by simp
    have hread := Text.mem_lossyText_percentDecode (by omega) (Text.ne_of_low (by decide) hlow)
      (Text.hexValue_of_low hlow) hmem
    exact ⟨.badName, by rw [List.cons_append, parse?, hopen, DomainName.normal?_eq_none hlow hread]⟩

end Host

/-! ## Host and port -/

namespace Url

open Text

/-- The port behind a host, in what follows the host. -/
def portBehind? (implied : Nat) : List Char → Except UrlError (Option Nat)
  | ':' :: digits => port? (some implied) (digits.takeWhile (· ≠ '\\'))
  | _ => .ok none

/-- The part in front of `@` names no host. -/
def hostAndPort (s : List Char) : List Char := (splitCredentials s).2

/-- Host and port of a scheme of the network, as they are written behind any credentials. -/
theorem authority?_eq_ok_iff {implied : Nat} {s : List Char} {more : Bool} {host : Option Host}
    {port : Option Nat} : authority? (some implied) s more = .ok (host, port) ↔
      hostText false (hostAndPort s) ≠ [] ∧
      (∃ h, Host.parse? (hostText false (hostAndPort s)) = .ok h ∧ host = some h) ∧
      portBehind? implied ((hostAndPort s).drop (hostText false (hostAndPort s)).length) = .ok port := by
  unfold authority? hostAndPort
  generalize splitCredentials s = parts
  obtain ⟨credentials, rest⟩ := parts
  dsimp only
  by_cases htext : hostText false rest = []
  · refine iff_of_false (fun h => ?_) fun h => h.1 htext
    rw [htext] at h
    split at h
    · cases h
    · cases h
  · have hrest : rest ≠ [] := by
      rintro rfl
      exact htext rfl
    have hnotFirst : ¬ (credentials = some [] ∧ rest.isEmpty = true ∧ more = true) := by simp [hrest]
    have hnotText : ¬ (hostText false rest).isEmpty = true := by simpa using htext
    rw [if_neg hnotFirst, if_neg (fun h => hnotText h.1)]
    simp only [Option.isSome_some, if_true]
    cases hhost : Host.parse? (hostText false rest) with
    | error e =>
      refine iff_of_false (fun h => ?_) fun h => ?_
      · cases h
      · obtain ⟨-, ⟨h, hok, -⟩, -⟩ := h
        cases hok
    | ok h =>
      have hiff (result : Option Nat) :
          (Except.ok (some h, result) : Except UrlError (Option Host × Option Nat)) = .ok (host, port) ↔
            host = some h ∧ (Except.ok result : Except UrlError (Option Nat)) = .ok port := by
        rw [Except.ok.injEq, Except.ok.injEq, Prod.mk.injEq, eq_comm]
      dsimp only [bind, Except.bind, pure, Except.pure]
      simp only [hnotText, Except.ok.injEq, exists_eq_left', htext, ne_eq, not_false_eq_true, true_and,
        Bool.false_eq_true, false_and, if_false]
      generalize List.drop (hostText false rest).length rest = behind
      split
      · next digits =>
        rw [show portBehind? implied (':' :: digits) =
          port? (some implied) (digits.takeWhile (· ≠ '\\')) from rfl]
        simp only [ne_eq]
        cases port? (some implied) (digits.takeWhile fun c => decide ¬ c = '\\') with
        | error e => exact iff_of_false (by simp) (by simp)
        | ok result => exact hiff result
      · next hother =>
        rw [portBehind?]
        · exact hiff none
        · exact hother

/-- Whether the URL goes on behind them does not matter to host and port. -/
theorem authority?_of_more {implied : Nat} {s : List Char} {more : Bool} {host : Option Host}
    {port : Option Nat} (h : authority? (some implied) s more = .ok (host, port)) (more' : Bool) :
    authority? (some implied) s more' = .ok (host, port) :=
  authority?_eq_ok_iff.2 (authority?_eq_ok_iff.1 h)

theorem hostAndPort_append {t : List Char} (ht : '@' ∉ t) (s : List Char) :
    hostAndPort (s ++ t) = hostAndPort s ++ t := by
  unfold hostAndPort splitCredentials
  by_cases hs : '@' ∈ s
  · have hmore : '@' ∈ s ++ t := List.mem_append_left t hs
    simp only [List.contains_eq_mem, hs, hmore, decide_true, if_true]
    refine takeEndWhile_append_of_forall (fun c hc => decide_eq_true ?_) s
    rintro rfl
    exact ht hc
  · have hmore : '@' ∉ s ++ t := by simp [hs, ht]
    simp only [List.contains_eq_mem, hs, hmore, decide_false, Bool.false_eq_true, if_false]

theorem hostAndPort_subset (s : List Char) : hostAndPort s ⊆ s := by
  intro c hc
  unfold hostAndPort splitCredentials at hc
  split at hc
  · rw [← dropEndWhile_append_takeEndWhile (fun c => decide (c ≠ '@')) s]
    exact List.mem_append_right _ hc
  · exact hc

/-- The host ends at a colon, or at the end. -/
theorem hostText_cases (inside : Bool) (s : List Char) : hostText inside s = s ∨
    ∃ digits, s = hostText inside s ++ ':' :: digits ∧ ∀ t, hostText inside (s ++ t) = hostText inside s := by
  induction s generalizing inside with
  | nil => exact .inl rfl
  | cons c rest ih =>
    simp only [List.cons_append, hostText]
    split
    · next hc => exact .inr ⟨rest, by rw [hc.1]; rfl, fun _ => rfl⟩
    · rcases ih (if c = '[' then true else if c = ']' then false else inside) with h | ⟨digits, h, hmore⟩
      · exact .inl (congrArg (c :: ·) h)
      · exact .inr ⟨digits, congrArg (c :: ·) h, fun t => congrArg (c :: ·) (hmore t)⟩

theorem hostText_append {t : List Char} (ht : ':' ∉ t) {inside : Bool} {s : List Char}
    (hs : hostText inside s = s) : hostText inside (s ++ t) = s ++ t := by
  induction s generalizing inside with
  | nil =>
    rw [List.nil_append]
    clear hs
    induction t generalizing inside with
    | nil => rfl
    | cons c rest ih =>
      rw [List.mem_cons, not_or] at ht
      rw [hostText, if_neg (fun h => ht.1 h.1.symm), ih ht.2]
  | cons c rest ih =>
    rw [hostText] at hs
    rw [List.cons_append, hostText]
    split at hs
    · cases hs
    · next hc => rw [if_neg hc, ih (List.cons.inj hs).2]

/-- No port ends in blanks and controls. -/
theorem portBehind?_append {digits blanks : List Char} (implied : Nat) (hslash : '\\' ∉ digits)
    (hne : blanks ≠ []) (hblanks : ∀ c ∈ blanks, c.toNat ≤ 0x20) :
    portBehind? implied (':' :: (digits ++ blanks)) = .error .badPort := by
  have hall : (digits ++ blanks).takeWhile (fun c => decide (c ≠ '\\')) = digits ++ blanks := by
    refine List.takeWhile_eq_self_iff.2 fun c hc => decide_eq_true ?_
    rintro rfl
    rcases List.mem_append.1 hc with hc | hc
    · exact hslash hc
    · exact not_mem_of_low (by decide) hblanks hc
  have hletters : (digits ++ blanks).all isDigit = false := by
    refine List.all_eq_false.2 ⟨blanks.getLast hne, by simp, ?_⟩
    rw [isDigit_of_low (hblanks _ (List.getLast_mem hne))]
    decide
  rw [portBehind?, hall, port?, hletters]
  rfl

/-- Neither host nor port ends in blanks and controls. -/
theorem exists_authority?_error {implied : Nat} {s blanks : List Char} {more : Bool} {host : Option Host}
    {port : Option Nat} (h : authority? (some implied) s more = .ok (host, port)) (hslash : '\\' ∉ s)
    (hne : blanks ≠ []) (hblanks : ∀ c ∈ blanks, c.toNat ≤ 0x20) (more' : Bool) :
    ∃ e, authority? (some implied) (s ++ blanks) more' = .error e := by
  cases hresult : authority? (some implied) (s ++ blanks) more' with
  | error e => exact ⟨e, rfl⟩
  | ok result =>
    obtain ⟨host', port'⟩ := result
    obtain ⟨htext, -, -⟩ := authority?_eq_ok_iff.1 h
    obtain ⟨-, ⟨h', hhost, -⟩, hport⟩ := authority?_eq_ok_iff.1 hresult
    rw [hostAndPort_append (not_mem_of_low (by decide) hblanks)] at hhost hport
    rcases hostText_cases false (hostAndPort s) with hall | ⟨digits, hsplit, hmore⟩
    · -- The blanks would belong to the host.
      rw [hall] at htext
      rw [hostText_append (not_mem_of_low (by decide) hblanks) hall] at hhost
      obtain ⟨e, herror⟩ := Host.exists_parse?_error htext hne hblanks
      cases herror.symm.trans hhost
    · -- The blanks would belong to the port.
      have hbehind (front : List Char) (hfront : hostAndPort s = front ++ ':' :: digits) :
          (hostAndPort s ++ blanks).drop front.length = ':' :: (digits ++ blanks) := by
        rw [hfront, List.append_assoc, List.drop_left]
        rfl
      have hdigits : '\\' ∉ digits := by
        refine fun hc => hslash (hostAndPort_subset s ?_)
        rw [hsplit]
        exact List.mem_append_right _ (List.mem_cons_of_mem _ hc)
      rw [hmore, hbehind _ hsplit, portBehind?_append implied hdigits hne hblanks] at hport
      cases hport

end Url

end ScpiConsole
