import Mathlib.Data.List.TakeWhile
import ScpiConsole.Proofs.Url.Host
import ScpiConsole.Proofs.Url.Parts
/-!
# URLs with a path behind them

The text of a URL is read once on its own, and once with a path written behind it. The two agree in scheme,
host and port and the path goes on, unless the text has a query or a fragment, which takes up what is
behind it, or ends in a slash or in blanks, which count as soon as they are no end any more.

* `leftOver` : the blanks at the end of a text, which are in the middle then
* `Extensible` : texts behind which a path can be written
* `parse?_append_joined` : the URL with a path behind an extensible text
* `extensible_of_parse?_append_joined` : no other text gives that path
-/

namespace ScpiConsole.Url

open Text

/-! ## Ends of a text -/

/-- A blank or a control, which does not count at the ends of a text. -/
def isEdge (c : Char) : Bool := c.toNat ≤ 0x20

/-- No line break and no tab, which do not count anywhere. -/
def isKept (c : Char) : Bool := c != '\t' && c != '\n' && c != '\r'

/-- What counts of the blanks at the end of a text when more is written behind them. -/
def leftOver (text : List Char) : List Char :=
  (takeEndWhile isEdge (text.dropWhile isEdge)).filter isKept

variable {text : List Char}

theorem cleaned_eq (text : List Char) :
    cleaned text = (dropEndWhile isEdge (text.dropWhile isEdge)).filter isKept := rfl

theorem low_of_mem_leftOver (text : List Char) : ∀ c ∈ leftOver text, c.toNat ≤ 0x20 := fun c h =>
  of_decide_eq_true (forall_mem_takeEndWhile isEdge _ c (List.mem_filter.1 h).1)

theorem isKept_of_high {c : Char} (h : 0x20 < c.toNat) : isKept c = true := by
  have hne (d : Char) (hd : d.toNat ≤ 0x20) : c ≠ d := by
    rintro rfl
    omega
  simp [isKept, hne '\t' (by decide), hne '\n' (by decide), hne '\r' (by decide)]

/-- Nothing of a text gets lost but the blanks at its start, tabs and line breaks. -/
theorem filter_isKept_eq (text : List Char) :
    text.filter isKept = (text.takeWhile isEdge).filter isKept ++ (cleaned text ++ leftOver text) := by
  rw [cleaned_eq, leftOver, ← List.filter_append, dropEndWhile_append_takeEndWhile, ← List.filter_append,
    List.takeWhile_append_dropWhile]

theorem mem_cleaned_of_high {c : Char} (hc : 0x20 < c.toNat) (h : c ∈ text) : c ∈ cleaned text := by
  have hmem : c ∈ text.filter isKept := List.mem_filter.2 ⟨h, isKept_of_high hc⟩
  rw [filter_isKept_eq, List.mem_append, List.mem_append] at hmem
  rcases hmem with hmem | hmem | hmem
  · have hlow : c.toNat ≤ 0x20 := of_decide_eq_true
      (List.mem_takeWhile_imp (List.mem_filter.1 hmem).1 : isEdge c = true)
    omega
  · exact hmem
  · have hlow := low_of_mem_leftOver text c hmem
    omega

theorem mem_of_mem_cleaned {c : Char} (h : c ∈ cleaned text) : c ∈ text := by
  have hmem : c ∈ text.filter isKept := by
    rw [filter_isKept_eq]
    exact List.mem_append_right _ (List.mem_append_left _ h)
  exact (List.mem_filter.1 hmem).1

/-- What is left of a text does not end in a blank. -/
theorem endsOutside_cleaned (text : List Char) : EndsOutside isEdge (cleaned text) := by
  have hends := endsOutside_dropEndWhile isEdge (text.dropWhile isEdge)
  rw [cleaned_eq]
  rcases List.eq_nil_or_concat (dropEndWhile isEdge (text.dropWhile isEdge)) with hnil | ⟨front, c, hsplit⟩
  · rw [hnil]
    exact endsOutside_nil
  · rw [List.concat_eq_append] at hsplit
    rw [hsplit] at hends ⊢
    have hc : isEdge c = false := hends c List.getLast?_concat
    have hkept : isKept c = true := isKept_of_high (Nat.lt_of_not_le (of_decide_eq_false hc))
    rw [List.filter_append, List.filter_cons_of_pos hkept, List.filter_nil]
    exact endsOutside_append_singleton hc

theorem getLast?_filter_isKept (h : cleaned text ≠ []) : (text.filter isKept).getLast? =
    if leftOver text = [] then (cleaned text).getLast? else (leftOver text).getLast? := by
  rw [filter_isKept_eq, List.getLast?_append_of_ne_nil _ (List.append_ne_nil_of_left_ne_nil h _)]
  split
  · next hnil => rw [hnil, List.append_nil]
  · next hne => exact List.getLast?_append_of_ne_nil _ hne

/-- The blanks at the end of a text count when more is written behind them. -/
theorem cleaned_append (h : cleaned text ≠ []) {more : List Char} (hne : more ≠ [])
    (hmore : ∀ c ∈ more, 0x20 < c.toNat) :
    cleaned (text ++ more) = cleaned text ++ (leftOver text ++ more) := by
  have hstart : text.dropWhile isEdge ≠ [] := by
    intro hnil
    rw [cleaned_eq, hnil] at h
    exact h rfl
  have hfront : (text ++ more).dropWhile isEdge = text.dropWhile isEdge ++ more := by
    rw [List.dropWhile_append, if_neg (by simpa using hstart)]
  have hends : EndsOutside isEdge (text.dropWhile isEdge ++ more) :=
    EndsOutside.append_left (endsOutside_of_forall fun c hc => decide_eq_false
      (Nat.not_le_of_lt (hmore c hc))) hne
  have hkept : more.filter isKept = more :=
    List.filter_eq_self.2 fun c hc => isKept_of_high (hmore c hc)
  rw [cleaned_eq, cleaned_eq, leftOver, hfront, dropEndWhile_eq_self hends, List.filter_append, hkept,
    ← List.append_assoc, ← List.filter_append, dropEndWhile_append_takeEndWhile]

/-! ## Texts behind which a path can be written -/

/-- The text has neither query nor fragment, and it ends in no slash and no blank. Tabs and line breaks do not
count. -/
structure Extensible (text : List Char) : Prop where
  query : '?' ∉ text
  fragment : '#' ∉ text
  ends : EndsOutside (fun c => isSlash c || isEdge c) (text.filter isKept)

variable {scheme rest : List Char} {implied : Nat} {names : List (List Char)} {b u : Url}

theorem mem_iff_mem_pathPart (hscheme : scheme? (cleaned text) = some (scheme, rest)) {c : Char}
    (hhigh : 0x20 < c.toNat) (hcolon : c ≠ ':') (hchar : isSchemeChar c = false) (hslash : isSlash c = false)
    (hends : endsAuthority c = true) : c ∈ text ↔ c ∈ pathPart rest := by
  obtain ⟨name, hsplit, hname, -⟩ := exists_of_scheme? hscheme
  rw [← slashes_append_parts rest] at hsplit
  constructor
  · intro h
    have hmem := mem_cleaned_of_high hhigh h
    rw [hsplit, List.mem_append, List.mem_append, List.mem_append] at hmem
    rcases hmem with hmem | hmem | hmem | hmem
    · rcases hname c hmem with h | h
      · exact absurd h hcolon
      · cases hchar.symm.trans h
    · cases hslash.symm.trans (List.mem_takeWhile_imp hmem : isSlash c = true)
    · cases (endsAuthority_of_mem_authorityPart hmem).symm.trans hends
    · exact hmem
  · intro h
    refine mem_of_mem_cleaned ?_
    rw [hsplit]
    exact List.mem_append_right _ (List.mem_append_right _ (List.mem_append_right _ h))

theorem cleaned_ne_nil (hscheme : scheme? (cleaned text) = some (scheme, rest)) : cleaned text ≠ [] := by
  intro hnil
  rw [hnil] at hscheme
  cases hscheme

/-- Blanks that are left over stand at the end. -/
theorem ends_iff (h : cleaned text ≠ []) :
    EndsOutside (fun c => isSlash c || isEdge c) (text.filter isKept) ↔
      leftOver text = [] ∧ EndsOutside isSlash (cleaned text) := by
  have hwhole := getLast?_filter_isKept h
  by_cases hleft : leftOver text = []
  · rw [if_pos hleft] at hwhole
    constructor
    · intro hends
      refine ⟨hleft, fun c hc => ?_⟩
      exact (Bool.or_eq_false_iff.1 (hends c (hwhole.trans hc))).1
    · rintro ⟨-, hends⟩ c hc
      rw [hwhole] at hc
      exact Bool.or_eq_false_iff.2 ⟨hends c hc, endsOutside_cleaned text c hc⟩
  · rw [if_neg hleft, List.getLast?_eq_some_getLast hleft] at hwhole
    refine iff_of_false (fun hends => ?_) fun h => hleft h.1
    have hedge : isEdge ((leftOver text).getLast hleft) = true :=
      decide_eq_true (low_of_mem_leftOver text _ (List.getLast_mem hleft))
    cases (Bool.or_eq_false_iff.1 (hends _ hwhole)).2.symm.trans hedge

/-- A host does not end in a slash. -/
theorem endsOutside_cleaned_iff (hscheme : scheme? (cleaned text) = some (scheme, rest))
    (hne : authorityPart rest ≠ []) :
    EndsOutside isSlash (cleaned text) ↔ EndsOutside isSlash (pathPart rest) := by
  obtain ⟨name, hsplit, -⟩ := exists_of_scheme? hscheme
  rw [← slashes_append_parts rest] at hsplit
  have hparts : authorityPart rest ++ pathPart rest ≠ [] := List.append_ne_nil_of_left_ne_nil hne _
  unfold EndsOutside
  rw [hsplit, List.getLast?_append_of_ne_nil _ (List.append_ne_nil_of_right_ne_nil _ hparts),
    List.getLast?_append_of_ne_nil _ hparts]
  by_cases hnil : pathPart rest = []
  · rw [hnil, List.append_nil]
    exact iff_of_true (fun c hc => isSlash_of_mem_authorityPart (List.mem_of_getLast? hc)) endsOutside_nil
  · rw [List.getLast?_append_of_ne_nil _ hnil]

/-- It is the path that must not have a query, a fragment or a slash at its end. -/
theorem extensible_iff (hscheme : scheme? (cleaned text) = some (scheme, rest))
    (hne : authorityPart rest ≠ []) : Extensible text ↔ '?' ∉ pathPart rest ∧ '#' ∉ pathPart rest ∧
      leftOver text = [] ∧ EndsOutside isSlash (pathPart rest) := by
  have hquery := mem_iff_mem_pathPart hscheme (c := '?') (by decide) (by decide) (by decide) (by decide)
    (by decide)
  have hfragment := mem_iff_mem_pathPart hscheme (c := '#') (by decide) (by decide) (by decide) (by decide)
    (by decide)
  rw [← hquery, ← hfragment, ← endsOutside_cleaned_iff hscheme hne, ← ends_iff (cleaned_ne_nil hscheme)]
  exact ⟨fun h => ⟨h.query, h.fragment, h.ends⟩, fun h => ⟨h.1, h.2.1, h.2.2⟩⟩

/-! ## The longer URL -/

theorem high_of_mem_joined (hnames : ∀ name ∈ names, IsName name) {c : Char} (hc : c ∈ joined names) :
    0x20 < c.toNat ∧ c ≠ '?' ∧ c ≠ '#' := by
  obtain ⟨name, hname, hmem⟩ := List.mem_flatMap.1 hc
  rcases List.mem_cons.1 hmem with rfl | hmem
  · decide
  · have hletter := (hnames name hname).2 c hmem
    refine ⟨?_, ne_of_isLetter hletter (by decide), ne_of_isLetter hletter (by decide)⟩
    have hrange := toNat_of_isLetter hletter
    omega

theorem joined_ne_nil (hne : names ≠ []) : joined names ≠ [] := by
  obtain ⟨name, more, rfl⟩ := List.exists_cons_of_ne_nil hne
  exact List.cons_ne_nil _ _

theorem isSlash_of_endsAuthority {c : Char} (h : endsAuthority c = true) (hquery : c ≠ '?')
    (hfragment : c ≠ '#') : isSlash c = true := by
  simpa [endsAuthority, isSlash, hquery, hfragment] using h

theorem networkPath_joined (hnames : ∀ name ∈ names, IsName name) (hne : names ≠ []) :
    networkPath (joined names) = joined names := by
  obtain ⟨name, more, rfl⟩ := List.exists_cons_of_ne_nil hne
  obtain ⟨hname, hmore⟩ := List.forall_mem_cons.1 hnames
  have hback : '\\' ∉ name ++ joined more := by
    rw [List.mem_append, not_or]
    exact ⟨not_mem_of_forall_isLetter hname.2 rfl, backslash_not_mem_joined hmore⟩
  rw [joined_cons, List.cons_append, networkPath_cons (by decide), map_slash_eq_self hback,
    splitOn_append_joined hmore, List.splitOn_eq_singleton (not_mem_of_forall_isLetter hname.2 rfl),
    List.singleton_append, resolve_names hnames hne]
  rfl

theorem networkPath_nil : networkPath [] = ['/'] := by decide

theorem parse?_of_scheme? (hscheme : scheme? (cleaned text) = some (scheme, rest))
    (hport : impliedPort? scheme = some implied) : parse? text = network? scheme implied rest := by
  rw [parse?, hscheme]
  dsimp only
  rw [hport]

/-- What is written behind the text of a URL is read behind its scheme, and so are the blanks that were at the
end. -/
theorem exists_rest_of_parse? (h : parse? text = .ok b) (hport : impliedPort? b.scheme = some implied) : ∃ rest,
    scheme? (cleaned text) = some (b.scheme, rest) ∧ authorityPart rest ≠ [] ∧
    network? b.scheme implied rest = .ok b ∧
    ∀ more ≠ [], (∀ c ∈ more, 0x20 < c.toNat) →
      parse? (text ++ more) = network? b.scheme implied (rest ++ (leftOver text ++ more)) := by
  obtain ⟨rest, hscheme, hnetwork⟩ := (parse?_eq_ok_iff hport).1 h
  obtain ⟨host, port, hparts, -⟩ := network?_eq_ok_iff.1 hnetwork
  have hhost : authorityPart rest ≠ [] := by
    intro hnil
    have htext := (authority?_eq_ok_iff.1 hparts).1
    rw [hnil] at htext
    exact htext rfl
  refine ⟨rest, hscheme, hhost, hnetwork, fun more hne hmore => parse?_of_scheme? ?_ hport⟩
  obtain ⟨name, hsplit, -, hlonger⟩ := exists_of_scheme? hscheme
  rw [cleaned_append (cleaned_ne_nil hscheme) hne hmore, hsplit, List.append_assoc]
  exact hlonger _

theorem startsOutside_joined (hne : names ≠ []) :
    StartsOutside (fun c => !endsAuthority c) (joined names) := by
  obtain ⟨name, more, rfl⟩ := List.exists_cons_of_ne_nil hne
  intro c hc
  obtain rfl : '/' = c := Option.some.inj hc
  decide

theorem endsAuthority_of_low {c : Char} (h : c.toNat ≤ 0x20) : endsAuthority c = false := by
  have hne (d : Char) (hd : 0x20 < d.toNat) : c ≠ d := ne_of_low hd h
  simp [endsAuthority, hne '/' (by decide), hne '\\' (by decide), hne '?' (by decide), hne '#' (by decide)]

/-- The names start a path, or make it longer. -/
theorem parts_append_joined (hhost : authorityPart rest ≠ []) (hne : names ≠ []) :
    authorityPart (rest ++ joined names) = authorityPart rest ∧
      pathPart (rest ++ joined names) = pathPart rest ++ joined names := by
  by_cases hpath : pathPart rest = []
  · have hparts := parts_append_of_path_eq_nil hpath hhost (t := []) (by simp) (startsOutside_joined hne)
    rw [List.nil_append, List.append_nil] at hparts
    rwa [hpath, List.nil_append]
  · exact parts_append hpath (joined names)

theorem exists_cons_of_pathPart (hpath : pathPart rest ≠ []) (hquery : '?' ∉ pathPart rest)
    (hfragment : '#' ∉ pathPart rest) : ∃ c s, pathPart rest = c :: s ∧ isSlash c = true := by
  obtain ⟨c, s, hcons⟩ := List.exists_cons_of_ne_nil hpath
  have hends := startsOutside_pathPart rest c (by rw [hcons]; rfl)
  rw [Bool.not_eq_false'] at hends
  rw [hcons, List.mem_cons, not_or] at hquery hfragment
  exact ⟨c, s, hcons, isSlash_of_endsAuthority hends (Ne.symm hquery.1) (Ne.symm hfragment.1)⟩

theorem networkPath_append_joined (hquery : '?' ∉ pathPart rest) (hfragment : '#' ∉ pathPart rest)
    (hends : EndsOutside isSlash (pathPart rest)) (hnames : ∀ name ∈ names, IsName name) (hne : names ≠ []) :
    networkPath (pathPart rest ++ joined names) =
      withoutSlash (networkPath (pathPart rest)) ++ joined names := by
  by_cases hnil : pathPart rest = []
  · rw [hnil, List.nil_append, networkPath_joined hnames hne, networkPath_nil]
    rfl
  · obtain ⟨c, s, hcons, hslash⟩ := exists_cons_of_pathPart hnil hquery hfragment
    rw [hcons] at hends ⊢
    have hblanks : ∀ c ∈ ([] : List Char), c.toNat ≤ 0x20 := by simp
    exact (networkPath_append_joined_iff hslash s hblanks hnames hne).2 ⟨rfl, hends⟩

/-- Names behind a path start neither query nor fragment, and no more do blanks in front of them. -/
theorem pathAndQuery_append_joined {s blanks : List Char} (hquery : '?' ∉ s) (hfragment : '#' ∉ s)
    (hblanks : ∀ c ∈ blanks, c.toNat ≤ 0x20) (hnames : ∀ name ∈ names, IsName name) :
    pathAndQuery (s ++ (blanks ++ joined names)) = (s ++ (blanks ++ joined names), none) := by
  have hnot (c : Char) (hhigh : 0x20 < c.toNat) (hs : c ∉ s) (hjoined : c ∉ joined names) :
      c ∉ s ++ (blanks ++ joined names) := by
    rw [List.mem_append, List.mem_append, not_or, not_or]
    exact ⟨hs, not_mem_of_low hhigh hblanks, hjoined⟩
  exact pathAndQuery_of_not_mem
    (hnot '?' (by decide) hquery fun hc => (high_of_mem_joined hnames hc).2.1 rfl)
    (hnot '#' (by decide) hfragment fun hc => (high_of_mem_joined hnames hc).2.2 rfl)

/-- Blanks between the host and the names would belong to the host or the port. -/
theorem blanks_eq_nil {blanks : List Char} {host host' : Option Host} {port port' : Option Nat}
    {more more' : Bool} (hpath : pathPart rest = []) (hhost : authorityPart rest ≠ [])
    (hblanks : ∀ c ∈ blanks, c.toNat ≤ 0x20) (hne : names ≠ [])
    (h : authority? (some implied) (authorityPart rest) more = .ok (host, port))
    (h' : authority? (some implied) (authorityPart (rest ++ (blanks ++ joined names))) more' =
      .ok (host', port')) : blanks = [] := by
  refine Classical.not_not.1 fun hnil => ?_
  have hends (c : Char) (hc : c ∈ blanks) : endsAuthority c = false := endsAuthority_of_low (hblanks c hc)
  rw [(parts_append_of_path_eq_nil hpath hhost hends (startsOutside_joined hne)).1] at h'
  have hback : '\\' ∉ authorityPart rest := fun hc =>
    absurd (endsAuthority_of_mem_authorityPart hc) (by decide)
  obtain ⟨e, herror⟩ := exists_authority?_error h hback hnil hblanks more'
  cases herror.symm.trans h'

/-- **A path behind an extensible text.** -/
theorem parse?_append_joined (h : parse? text = .ok b) (hport : impliedPort? b.scheme = some implied)
    (hnames : ∀ name ∈ names, IsName name) (hne : names ≠ []) (hext : Extensible text) :
    parse? (text ++ joined names) = .ok { b with path := withoutSlash b.path ++ joined names } ∧
      b.query = none := by
  obtain ⟨rest, hscheme, hhost, hnetwork, hlonger⟩ := exists_rest_of_parse? h hport
  obtain ⟨hquery, hfragment, hleft, hends⟩ := (extensible_iff hscheme hhost).1 hext
  obtain ⟨host, port, hauthority, hb⟩ := network?_eq_ok_iff.1 hnetwork
  rw [pathAndQuery_of_not_mem hquery hfragment] at hb
  obtain ⟨hsame, hpath⟩ := parts_append_joined hhost hne
  have hsplit := pathAndQuery_append_joined hquery hfragment (low_of_mem_leftOver text) hnames
  rw [hleft, List.nil_append] at hsplit
  rw [hlonger _ (joined_ne_nil hne) fun c hc => (high_of_mem_joined hnames hc).1, hleft, List.nil_append]
  refine ⟨network?_eq_ok_iff.2 ⟨host, port, ?_, ?_⟩, by rw [hb]; rfl⟩
  · rw [hsame]
    exact authority?_of_more hauthority _
  · rw [hpath, hsplit, networkPath_append_joined hquery hfragment hends hnames hne, hb]

theorem length_le_withoutSlash (path : List Char) : path.length ≤ (withoutSlash path).length + 1 := by
  rw [withoutSlash]
  split
  · rw [List.length_dropLast]
    omega
  · exact Nat.le_succ _

/-- A path does not stay the same when names are written behind it. -/
theorem path_ne_append_joined (hnames : ∀ name ∈ names, IsName name) (hne : names ≠ []) (path : List Char) :
    path ≠ withoutSlash path ++ joined names := by
  intro h
  obtain ⟨name, more, rfl⟩ := List.exists_cons_of_ne_nil hne
  have hname := List.length_pos_iff.2 (hnames name List.mem_cons_self).1
  have hshort := length_le_withoutSlash path
  have hlengths := congrArg List.length h
  simp only [joined_cons, List.length_append, List.length_cons] at hlengths
  omega

/-- **Only behind an extensible text.** No other text gives the URL with that path. -/
theorem extensible_of_parse?_append_joined (h : parse? text = .ok b)
    (hport : impliedPort? b.scheme = some implied) (hnames : ∀ name ∈ names, IsName name) (hne : names ≠ [])
    (hu : parse? (text ++ joined names) = .ok u) (hpath : u.path = withoutSlash b.path ++ joined names) :
    Extensible text := by
  obtain ⟨rest, hscheme, hhost, hnetwork, hlonger⟩ := exists_rest_of_parse? h hport
  obtain ⟨host, port, hauthority, hb⟩ := network?_eq_ok_iff.1 hnetwork
  rw [hlonger _ (joined_ne_nil hne) fun c hc => (high_of_mem_joined hnames hc).1] at hu
  obtain ⟨host', port', hauthority', hu⟩ := network?_eq_ok_iff.1 hu
  rw [hu, hb] at hpath
  dsimp only at hpath
  have hblanks := low_of_mem_leftOver text
  rw [extensible_iff hscheme hhost]
  by_cases hnil : pathPart rest = []
  · have hleft := blanks_eq_nil hnil hhost hblanks hne hauthority hauthority'
    rw [hnil]
    exact ⟨List.not_mem_nil, List.not_mem_nil, hleft, endsOutside_nil⟩
  · rw [(parts_append hnil (leftOver text ++ joined names)).2] at hpath
    by_cases hmark : '?' ∈ pathPart rest ∨ '#' ∈ pathPart rest
    · -- The path is the old one.
      rw [pathAndQuery_append_of_mem hmark] at hpath
      exact absurd hpath (path_ne_append_joined hnames hne _)
    · obtain ⟨hquery, hfragment⟩ := not_or.1 hmark
      rw [pathAndQuery_of_not_mem hquery hfragment,
        pathAndQuery_append_joined hquery hfragment hblanks hnames] at hpath
      obtain ⟨c, s, hcons, hslash⟩ := exists_cons_of_pathPart hnil hquery hfragment
      rw [hcons] at hpath
      obtain ⟨hleft, hends⟩ := (networkPath_append_joined_iff hslash s hblanks hnames hne).1 hpath
      exact ⟨hquery, hfragment, hleft, hcons ▸ hends⟩

end ScpiConsole.Url
