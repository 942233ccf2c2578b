import ScpiConsole.Text.Lines
/-!
# Reading arguments

Arguments are read from left to right. An option whose value stands in the same argument counts at
once. One that waits for its value in the next argument, and a word that stands alone, count only
when the argument behind them is known to be fine. After `--` every argument is a word.

* `Option`, `Words`, `Usage` : what a command accepts
* `Reading` : what was read so far
* `Reading.take`, `Reading.finish` : one argument, and the end
-/

namespace ScpiConsole.Arguments

/-- Why arguments were refused, or what they ask for in place of a run. -/
inductive Refusal where
  | unknownArgument
  | unknownCommand
  | noValue
  | needlessValue
  | conflict
  | missing
  | help
  | version
deriving DecidableEq, Repr

/-- What an option does. -/
inductive Role where
  | flag
  /-- Takes a value; `blank` tells whether the empty text is one. -/
  | valued (blank : Bool)
  /-- Ends the reading. -/
  | stop (answer : Refusal)
deriving DecidableEq, Repr

/-- An option by its long name, and the letter that may stand for it. -/
structure Switch where
  name : String
  letter : Option Char := none
  role : Role
deriving DecidableEq, Repr

/-- Which words a command takes. -/
inductive Words where
  | none
  /-- At most one; `blank` tells whether it may be empty. -/
  | one (blank : Bool)
  | many
deriving DecidableEq, Repr

/-- What a command accepts. -/
structure Usage where
  switches : List Switch
  words : Words := .none
deriving DecidableEq, Repr

/-- Something read that does not count yet. -/
inductive Pending where
  /-- An option that waits for its value, or has got it from an argument of its own. -/
  | value (name : String) (blank : Bool) (text : Option String)
  | word (blank : Bool) (text : String)
deriving DecidableEq, Repr

/-- What was read so far. -/
structure Reading where
  /-- Options with their values; those of flags are empty. -/
  given : List (String × String) := []
  words : List String := []
  pending : Option Pending := none
  /-- Only words follow. -/
  trailing : Bool := false
deriving DecidableEq, Repr, Inhabited

namespace Reading

def has (r : Reading) (name : String) : Bool := r.given.any fun g => g.1 = name

def value? (r : Reading) (name : String) : Option String := r.given.lookup name

/-- An option was read. None may be given twice. -/
def give (r : Reading) (name value : String) : Except Refusal Reading :=
  if r.has name then .error .conflict else .ok { r with given := r.given ++ [(name, value)] }

/-- An option with a value was read, which may be empty when `blank` says so. -/
def giveValue (r : Reading) (name : String) (blank : Bool) (text : String) :
    Except Refusal Reading := do
  let r ← r.give name text
  if text = "" ∧ !blank then .error .noValue else pure r

/-- What was pending counts from now on. -/
def settle (r : Reading) : Except Refusal Reading :=
  match r.pending with
  | none => .ok r
  | some (.value _ _ none) => .error .noValue
  | some (.value name blank (some text)) => giveValue { r with pending := none } name blank text
  | some (.word blank text) =>
    if text = "" ∧ !blank then .error .noValue
    else .ok { r with pending := none, words := r.words ++ [text] }

/-- The option waits for its value. -/
def waits (r : Reading) : Bool :=
  match r.pending with
  | some (.value _ _ none) => true
  | _ => false

/-- A word. -/
def takeWord (u : Usage) (r : Reading) (text : String) : Except Refusal Reading :=
  match u.words with
  | .none => .error .unknownArgument
  | .one blank =>
    match r.words, r.pending with
    | [], some (.word _ _) => .error .unknownArgument
    | [], _ => do
      let r ← r.settle
      pure { r with pending := some (.word blank text) }
    | _ :: _, _ => .error .unknownArgument
  | .many => do
    let r ← r.settle
    pure { r with words := r.words ++ [text] }

/-- An option, with the value that stands in the same argument. -/
def takeSwitch (r : Reading) (s : Switch) (value : Option String) : Except Refusal Reading :=
  match s.role, value with
  | .valued blank, some text => do
    let r ← r.settle
    r.giveValue s.name blank text
  | .valued blank, none => do
    let r ← r.settle
    pure { r with pending := some (.value s.name blank none) }
  | _, some _ => .error .needlessValue
  | .flag, none => do
    let r ← r.settle
    r.give s.name ""
  | .stop answer, none => do
    let _ ← r.settle
    throw answer

/-- An option by its name, with what follows an equals sign as its value. -/
def takeName (u : Usage) (r : Reading) (text : List Char) : Except Refusal Reading :=
  let (name, value) := match Text.cutOnce '=' text with
    | some (name, value) => (name, some (String.ofList value))
    | none => (text, none)
  match u.switches.find? fun s => s.name = .ofList name with
  | some s => r.takeSwitch s value
  | none => .error .unknownArgument

/-- Options by their letters. What follows a letter whose option takes a value is that value. -/
def takeLetters (u : Usage) (r : Reading) : List Char → Except Refusal Reading
  | [] => .ok r
  | c :: rest =>
    match u.switches.find? fun s => s.letter = some c with
    | none => .error .unknownArgument
    | some s =>
      match s.role, rest with
      | .valued _, [] => r.takeSwitch s none
      | .valued _, '=' :: value => r.takeSwitch s (some (.ofList value))
      | .valued _, value => r.takeSwitch s (some (.ofList value))
      | _, _ =>
        match r.takeSwitch s none with
        | .ok r => takeLetters u r rest
        | .error e => .error e

/-- One argument. -/
def take (u : Usage) (r : Reading) (text : String) : Except Refusal Reading :=
  if r.trailing then takeWord u r text
  else
    match text.toList with
    | ['-', '-'] => .ok { r with trailing := true }
    | '-' :: '-' :: name => takeName u r name
    | '-' :: c :: letters => takeLetters u r (c :: letters)
    | _ =>
      match r.pending with
      | some (.value name blank none) =>
        .ok { r with pending := some (.value name blank (some text)) }
      | _ => takeWord u r text

/-- The end of the arguments. -/
def finish (r : Reading) : Except Refusal Reading := r.settle

end Reading

/-- All arguments of a command. -/
def Usage.read (u : Usage) (args : List String) : Except Refusal Reading := do
  let r ← args.foldlM (Reading.take u) {}
  r.finish

/-- The arguments up to the name of a command, and those from there on. A name behind `--` is none,
and neither is a value that an option waits for. -/
def Usage.readUpTo (u : Usage) (commands : List String) (r : Reading) :
    List String → Except Refusal (Reading × Option (String × List String))
  | [] => .ok (r, none)
  | text :: rest =>
    if r.trailing then .error (if commands.contains text then .unknownArgument else .unknownCommand)
    else if !r.waits && commands.contains text then .ok (r, some (text, rest))
    else
      match r.take u text with
      | .ok r => readUpTo u commands r rest
      | .error .unknownArgument =>
        .error (if text.toList.head? = some '-' ∧ text ≠ "-" then .unknownArgument
          else .unknownCommand)
      | .error e => .error e

end ScpiConsole.Arguments
