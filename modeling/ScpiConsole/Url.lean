import ScpiConsole.Url.Host
/-!
# URLs

* `Url` : scheme, host, port, path and query
* `Url.parse?` : the URL that a text denotes, in its normal form
* `Url.withPairs` : named values added to the query
* `Url.target` : the part that a request names
-/

namespace ScpiConsole

/-- A URL without credentials and fragment, which no request names. -/
structure Url where
  scheme : List Char
  /-- Absent when the scheme has no hosts. -/
  host : Option Host
  /-- Absent when it is the one that the scheme implies. -/
  port : Option Nat
  path : List Char
  query : Option (List Char)
deriving DecidableEq, Repr

namespace Url

/-! ## Schemes -/

/-- The port that a scheme of the network implies. -/
def impliedPort? (scheme : List Char) : Option Nat :=
  if scheme = "http".toList ∨ scheme = "ws".toList then some 80
  else if scheme = "https".toList ∨ scheme = "wss".toList then some 443
  else if scheme = "ftp".toList then some 21
  else none

def isSchemeChar (c : Char) : Bool := Text.isLetter c || Text.isDigit c || "+-.".toList.contains c

/-- The scheme in small letters, and what follows its colon. -/
def scheme? (s : List Char) : Option (List Char × List Char) :=
  match Text.cutOnce ':' s with
  | some (c :: name, rest) =>
    if Text.isLetter c && name.all isSchemeChar then some (Text.foldCase (c :: name), rest)
    else none
  | _ => none

/-! ## Paths -/

/-- A printable ASCII character that none of `marks` is. -/
def isPlain (marks : List Char) (c : Char) : Bool :=
  0x21 ≤ c.toNat && c.toNat < 0x7F && !marks.contains c

/-- The characters that stand for themselves in a path. -/
def keptInPath : Char → Bool := isPlain "\"#<>?`\x7b\x7d".toList

/-- The characters that stand for themselves in the query of a scheme of the network. -/
def keptInQuery : Char → Bool := isPlain "\"#<>'".toList

/-- A dot, either itself or in percent form. -/
def dotForms : List (List Char) := [".".toList, "%2e".toList]

def isDot (segment : List Char) : Bool := dotForms.contains (Text.foldCase segment)

def isDoubleDot (segment : List Char) : Bool :=
  dotForms.any fun a => dotForms.any fun b => Text.foldCase segment == a ++ b

/-- A letter and a colon or a bar, which a double dot does not take away. -/
def isDrive : List Char → Bool
  | [c, d] => Text.isLetter c && (d == ':' || d == '|')
  | _ => false

/-- The segments so far without the last one. -/
def pop (segments : List (List Char)) : List (List Char) :=
  match segments.getLast? with
  | some last => if isDrive last then segments else segments.dropLast
  | none => []

/-- The segments of a path with the dots carried out, read on behind those in `done`. -/
def resolve (done : List (List Char)) : List (List Char) → List (List Char)
  | [] => done
  | segment :: rest =>
    let closing := if rest.isEmpty then [[]] else []
    if isDoubleDot segment then resolve (pop done ++ closing) rest
    else if isDot segment then resolve (done ++ closing) rest
    else resolve (done ++ [Text.percentEncode keptInPath segment]) rest

/-- The path of a scheme of the network, which starts with a slash. A backslash is a slash. -/
def networkPath (s : List Char) : List Char :=
  let slashed := s.map fun c => if c = '\\' then '/' else c
  let inner := match slashed with
    | '/' :: rest => rest
    | rest => rest
  (resolve [] (inner.splitOn '/')).flatMap fun segment => '/' :: segment

/-! ## The part with the host -/

/-- The text of the host; a colon between brackets belongs to it. -/
def hostText (inside : Bool) : List Char → List Char
  | [] => []
  | c :: rest =>
    if c = ':' ∧ !inside then []
    else c :: hostText (if c = '[' then true else if c = ']' then false else inside) rest

/-- What stands before the last `@`, and what behind it. -/
def splitCredentials (s : List Char) : Option (List Char) × List Char :=
  if s.contains '@' then
    (some (Text.dropEndWhile (· ≠ '@') s).dropLast, Text.takeEndWhile (· ≠ '@') s)
  else (none, s)

/-- The number behind a colon; absent when it is empty or implied. -/
def port? (implied : Option Nat) (digits : List Char) : Except UrlError (Option Nat) :=
  if digits.all Text.isDigit then
    let n := Host.valueTo 10 digits
    if 65535 < n then .error .badPort
    else .ok (if digits.isEmpty || implied == some n then none else some n)
  else .error .badPort

/-- Host and port. `more` tells that the URL goes on behind them. -/
def authority? (implied : Option Nat) (s : List Char) (more : Bool) :
    Except UrlError (Option Host × Option Nat) := do
  let (credentials, s) := splitCredentials s
  if credentials = some [] ∧ s.isEmpty ∧ more then throw .emptyHost
  let text := hostText false s
  let behind := s.drop text.length
  if text.isEmpty ∧ (implied.isSome ∨ !behind.isEmpty) then throw .emptyHost
  let host ← if implied.isSome then Host.parse? text else Host.opaque? text
  let port ← match behind with
    | ':' :: digits => port? implied (digits.takeWhile (· ≠ '\\'))
    | _ => pure none
  if text.isEmpty ∧ credentials ≠ none ∧ credentials ≠ some [] ∧ credentials ≠ some [':'] then
    throw .emptyHost
  pure (if text.isEmpty then none else some host, port)

/-! ## URLs -/

/-- Path and query of a text without its fragment. -/
def pathAndQuery (s : List Char) : List Char × Option (List Char) :=
  match Text.cutOnce '?' (s.takeWhile (· ≠ '#')) with
  | some (path, query) => (path, some query)
  | none => (s.takeWhile (· ≠ '#'), none)

/-- The text without controls and blanks at its ends, and without line breaks and tabs. -/
def cleaned (text : List Char) : List Char :=
  let isEdge : Char → Bool := fun c => c.toNat ≤ 0x20
  (Text.dropEndWhile isEdge (text.dropWhile isEdge)).filter fun c =>
    c != '\t' && c != '\n' && c != '\r'

/-- A URL of a scheme of the network. All slashes before the host are passed over. -/
def network? (scheme : List Char) (implied : Nat) (s : List Char) : Except UrlError Url := do
  let s := s.dropWhile fun c => c = '/' || c = '\\'
  let head := s.takeWhile fun c => !"/\\?#".toList.contains c
  let tail := s.drop head.length
  let (host, port) ← authority? (some implied) head (!tail.isEmpty)
  let (path, query) := pathAndQuery tail
  pure ⟨scheme, host, port, networkPath path, query.map (Text.percentEncode keptInQuery)⟩

/-- A URL of a file. A drive at the place of the host is none. -/
def file? (scheme : List Char) (s : List Char) : Except UrlError Url := do
  let isSlash : Char → Bool := fun c => c == '/' || c == '\\'
  match s with
  | a :: b :: rest =>
    if isSlash a && isSlash b then
      let head := rest.takeWhile fun c => !"/\\?#".toList.contains c
      if head.isEmpty || isDrive head then
        let (path, query) := pathAndQuery rest
        pure ⟨scheme, none, none, path, query⟩
      else
        let host ← Host.parse? head
        let (path, query) := pathAndQuery (rest.drop head.length)
        pure ⟨scheme, some host, none, path, query⟩
    else
      let (path, query) := pathAndQuery s
      pure ⟨scheme, none, none, path, query⟩
  | _ =>
    let (path, query) := pathAndQuery s
    pure ⟨scheme, none, none, path, query⟩

/-- A URL of any other scheme, which has a host behind two slashes. Its path stays as it is. -/
def other? (scheme : List Char) (s : List Char) : Except UrlError Url := do
  match s with
  | '/' :: '/' :: s =>
    let head := s.takeWhile fun c => !"/?#".toList.contains c
    let tail := s.drop head.length
    let (host, port) ← authority? none head (!tail.isEmpty)
    let (path, query) := pathAndQuery tail
    pure ⟨scheme, host, port, path, query⟩
  | s =>
    let (path, query) := pathAndQuery s
    pure ⟨scheme, none, none, path, query⟩

/-- The URL that a text denotes. -/
def parse? (text : List Char) : Except UrlError Url :=
  match scheme? (cleaned text) with
  | none => .error .noScheme
  | some (scheme, rest) =>
    match impliedPort? scheme with
    | some port => network? scheme port rest
    | none => if scheme = "file".toList then file? scheme rest else other? scheme rest

/-! ## Requests -/

/-- The characters that stand for themselves among named values. -/
def keptInPair (c : Char) : Bool := Text.isLetter c || Text.isDigit c || "*-._".toList.contains c

/-- A name or a value among named values; a blank is written `+`. -/
def pairText (s : List Char) : List Char :=
  s.flatMap fun c => if c = ' ' then ['+'] else Text.percentEncode keptInPair [c]

/-- Names and values with `=` between them and `&` between the pairs. -/
def pairsText (pairs : List (String × String)) : List Char :=
  ['&'].intercalate (pairs.map fun p => pairText p.1.toList ++ '=' :: pairText p.2.toList)

/-- The URL with named values behind its query. -/
def withPairs (u : Url) (pairs : List (String × String)) : Url :=
  match pairs, u.query with
  | [], _ => u
  | _, some (c :: q) => { u with query := some (c :: q ++ '&' :: pairsText pairs) }
  | _, _ => { u with query := some (pairsText pairs) }

/-- Path and query, as a request names them. -/
def target (u : Url) : String :=
  .ofList <| u.path ++ match u.query with
    | some query => '?' :: query
    | none => []

end Url

end ScpiConsole
