import ScpiConsole.Proofs.Url.Extension
import ScpiConsole.Proofs.Url.Pairs
import ScpiConsole.Server
/-!
# Where the requests of a server go

A text that names a server is accepted when it is a URL of the web, and the path of each request is written
behind it. The requests reach the server when that gives its URL with a longer path. This depends on
the text alone, not on the request.

* `Server.Reaches` : a URL is that of a request to a server
* `Server.ofText?_eq_ok_iff` : the texts that are accepted
* `Server.reaches_iff` : those whose requests reach the server
-/

namespace ScpiConsole

/-! ## Requests -/

theorem Request.path_message (r : Request) : r.message.path = r.path := by cases r <;> rfl

/-- The name that stands last in the path of a request. -/
def Request.endpoint : Request → List Char
  | .send _ _ => "scpi".toList
  | .commands _ _ => "commands".toList
  | .health => "health".toList
  | .port | .setPort _ => "scpiPort".toList
  | .address | .setAddress _ => "scpiAddress".toList
  | .resetPreferences => "preferences".toList

/-- The path of every request is made of two names. -/
theorem Request.toList_path (r : Request) : r.path.toList = Url.joined ["api".toList, r.endpoint] := by
  cases r <;> dsimp only [Request.path, Request.endpoint] <;> decide +kernel

theorem Request.isName_endpoint (r : Request) : Url.IsName r.endpoint := by
  cases r <;> dsimp only [Request.endpoint] <;> decide +kernel

namespace Server

/-- The URL of a request to the server at `base`: a path below that of the server, and a query with the named
values of the request and no others. -/
structure Reaches (base : Url) (m : Message) (u : Url) : Prop where
  scheme : u.scheme = base.scheme
  host : u.host = base.host
  port : u.port = base.port
  path : u.path = Url.withoutSlash base.path ++ m.path.toList
  query : u.query.map Url.readPairs = if m.pairs = [] then none else some m.pairs

variable {text : String} {s : Server}

theorem ofText?_eq_ok_iff : ofText? text = .ok s ↔ s.base = Text.dropEndWhile (· = '/') text.toList ∧
    ∃ u, Url.parse? s.base = .ok u ∧ (u.scheme = "http".toList ∨ u.scheme = "https".toList) := by
  obtain ⟨base⟩ := s
  unfold ofText?
  dsimp only
  constructor
  · intro h
    split at h
    · next u hu =>
      split at h
      · next hscheme =>
        obtain rfl := Server.mk.inj (Except.ok.inj h)
        exact ⟨rfl, u, hu, hscheme⟩
      · cases h
    · cases h
  · rintro ⟨rfl, u, hu, hscheme⟩
    rw [hu]
    exact if_pos hscheme

theorem exists_impliedPort? {scheme : List Char} (h : scheme = "http".toList ∨ scheme = "https".toList) :
    ∃ implied, Url.impliedPort? scheme = some implied := by
  rcases h with rfl | rfl
  · exact ⟨80, rfl⟩
  · exact ⟨443, rfl⟩

theorem url?_eq_ok_iff {m : Message} {u : Url} : s.url? m = .ok u ↔
    ∃ front, Url.parse? (s.base ++ m.path.toList) = .ok front ∧ front.withPairs m.pairs = u := by
  unfold url?
  cases Url.parse? (s.base ++ m.path.toList) with
  | error e => exact iff_of_false (fun h => by cases h) (by rintro ⟨front, h, -⟩; cases h)
  | ok front =>
    constructor
    · intro h
      exact ⟨front, rfl, Except.ok.inj h⟩
    · rintro ⟨front', h, rfl⟩
      rw [Except.ok.inj h]
      rfl

/-- Without a query of its own the URL gets the named values of the request as its query. -/
theorem reaches_withPairs {base : Url} (h : base.query = none) (m : Message) :
    Reaches base m ({ base with path := Url.withoutSlash base.path ++ m.path.toList }.withPairs m.pairs) := by
  have hquery :=
    Url.query_withPairs { base with path := Url.withoutSlash base.path ++ m.path.toList } m.pairs h
  obtain ⟨query, hu⟩ :=
    Url.withPairs_eq { base with path := Url.withoutSlash base.path ++ m.path.toList } m.pairs
  rw [hu] at hquery ⊢
  refine ⟨rfl, rfl, rfl, rfl, ?_⟩
  rw [hquery]
  split
  · rfl
  · next hpairs => rw [Option.map_some, Url.readPairs_pairsText hpairs]

/-- **The texts whose requests reach the server.** Every accepted text is a URL, and a request goes where it
should exactly when a path can be written behind that text. -/
theorem reaches_iff (h : ofText? text = .ok s) (r : Request) : ∃ base, Url.parse? s.base = .ok base ∧
    ((∃ u, s.url? r.message = .ok u ∧ Reaches base r.message u) ↔ Url.Extensible s.base) := by
  obtain ⟨-, base, hbase, hscheme⟩ := ofText?_eq_ok_iff.1 h
  obtain ⟨implied, hport⟩ := exists_impliedPort? hscheme
  have hpath : r.message.path.toList = Url.joined ["api".toList, r.endpoint] := by
    rw [r.path_message, r.toList_path]
  have hnames : ∀ name ∈ ["api".toList, r.endpoint], Url.IsName name :=
    List.forall_mem_cons.2 ⟨by decide, List.forall_mem_singleton.2 r.isName_endpoint⟩
  have hne : ["api".toList, r.endpoint] ≠ [] := List.cons_ne_nil _ _
  refine ⟨base, hbase, ?_, ?_⟩
  · rintro ⟨u, hu, hreaches⟩
    obtain ⟨front, hfront, rfl⟩ := url?_eq_ok_iff.1 hu
    have hsame : (front.withPairs r.message.pairs).path = front.path := by
      obtain ⟨query, hquery⟩ := Url.withPairs_eq front r.message.pairs
      rw [hquery]
    rw [hpath] at hfront
    refine Url.extensible_of_parse?_append_joined hbase hport hnames hne hfront ?_
    rw [← hsame, hreaches.path, hpath]
  · intro hext
    obtain ⟨hfront, hnone⟩ := Url.parse?_append_joined hbase hport hnames hne hext
    rw [← hpath] at hfront
    exact ⟨_, url?_eq_ok_iff.2 ⟨_, hfront, rfl⟩, reaches_withPairs hnone r.message⟩

theorem ok_of_toOption {ε α : Type} {result : Except ε α} {a : α} (h : result.toOption = some a) :
    result = .ok a := by
  cases result with
  | error e => cases h
  | ok b => exact congrArg Except.ok (Option.some.inj h)

/-- The slash at the end of a text does not count, and all its requests reach that server. -/
theorem reaches_bench : ofText? "http://bench:8080/" = .ok ⟨"http://bench:8080".toList⟩ ∧
    ∀ r : Request, ∃ base u, Url.parse? "http://bench:8080".toList = .ok base ∧
      url? ⟨"http://bench:8080".toList⟩ r.message = .ok u ∧ Reaches base r.message u := by
  have haccepted : ofText? "http://bench:8080/" = .ok ⟨"http://bench:8080".toList⟩ :=
    ok_of_toOption (by decide +kernel)
  have hext : Url.Extensible "http://bench:8080".toList := by
    refine ⟨by decide +kernel, by decide +kernel, fun c hc => ?_⟩
    have hlast : (List.filter Url.isKept "http://bench:8080".toList).getLast? = some '0' := by decide +kernel
    obtain rfl : '0' = c := Option.some.inj (hlast.symm.trans hc)
    decide
  refine ⟨haccepted, fun r => ?_⟩
  obtain ⟨base, hbase, hiff⟩ := reaches_iff haccepted r
  obtain ⟨u, hu, hreaches⟩ := hiff.2 hext
  exact ⟨base, u, hbase, hu, hreaches⟩

/-- A text with a query is accepted, and the path of a request behind it goes into that query. -/
theorem not_reaches_of_query : ofText? "http://bench:8080?x=1" = .ok ⟨"http://bench:8080?x=1".toList⟩ ∧
    ∃ u, url? ⟨"http://bench:8080?x=1".toList⟩ Request.health.message = .ok u ∧
      u.target = "/?x=1/api/health" ∧ ∀ base, ¬ Reaches base Request.health.message u := by
  refine ⟨ok_of_toOption (by decide +kernel), ⟨"http".toList, some (.name "bench".toList), some 8080,
    "/".toList, some "x=1/api/health".toList⟩, ok_of_toOption (by decide +kernel), by decide +kernel, ?_⟩
  intro base hreaches
  have hlength := congrArg List.length hreaches.path
  rw [List.length_append] at hlength
  have hpath : Request.health.message.path.toList.length = 11 := by decide +kernel
  have hroot : "/".toList.length = 1 := by decide +kernel
  dsimp only at hlength
  omega

end Server

end ScpiConsole
