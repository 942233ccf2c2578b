import ScpiConsole.Connection
import ScpiConsole.Text.Numeral
/-!
# Preferences

What the operator chose and the client keeps, and the numbers that the operator may type.

* `Preferences` : the choices, with their defaults
* `readPort`, `readTimeout` : a typed number within its range
-/

namespace ScpiConsole

/-- The choices that the client keeps. -/
structure Preferences where
  simulated : Bool := false
  autoSystErr : Bool := true
  wrapLog : Bool := true
  showDate : Bool := false
  timeoutSeconds : UInt32 := 10
  preferShortScpi : Bool := false
  scrollToNewLogOutput : Bool := true
deriving DecidableEq, Repr, Inhabited

namespace Preferences

/-- The part of a connection that the preferences decide. -/
def apply (p : Preferences) (c : Connection) : Connection :=
  { c with
    simulated := p.simulated
    autoSystErr := p.autoSystErr
    timeoutSeconds := p.timeoutSeconds }

def toJson (p : Preferences) : Json :=
  .object [("autoSystErr", .bool p.autoSystErr), ("preferShortScpi", .bool p.preferShortScpi),
    ("scrollToNewLogOutput", .bool p.scrollToNewLogOutput), ("showDate", .bool p.showDate),
    ("simulated", .bool p.simulated), ("timeoutSeconds", .nat p.timeoutSeconds.toNat),
    ("wrapLog", .bool p.wrapLog)]

/-- A field that is left out has its default. -/
def ofJson? (v : Json) : Option Preferences := do
  match ← v.fields? ["simulated", "autoSystErr", "wrapLog", "showDate", "timeoutSeconds",
    "preferShortScpi", "scrollToNewLogOutput"] with
  | [simulated, autoSystErr, wrapLog, showDate, timeoutSeconds, preferShortScpi, scroll] =>
    pure {
      simulated := ← Json.optional false Json.flag? simulated
      autoSystErr := ← Json.optional true Json.flag? autoSystErr
      wrapLog := ← Json.optional true Json.flag? wrapLog
      showDate := ← Json.optional false Json.flag? showDate
      timeoutSeconds := ← Json.optional 10 Json.word32? timeoutSeconds
      preferShortScpi := ← Json.optional false Json.flag? preferShortScpi
      scrollToNewLogOutput := ← Json.optional true Json.flag? scroll }
  | _ => none

/-- The preferences in a stored value; the defaults when there are none. -/
def ofStored (v : Option Json) : Preferences := (v.bind ofJson?).getD {}

end Preferences

/-! ## Typed numbers -/

/-- A number that an operator types. -/
structure Limits where
  name : String
  most : Nat

def Limits.port : Limits := ⟨"port", 65535⟩

def Limits.timeout : Limits := ⟨"timeout", 4294967295⟩

/-- Why a typed number was refused. -/
inductive InputError where
  | notInteger (limits : Limits) (input : String)
  | outOfRange (limits : Limits) (value : Int)

def InputError.message : InputError → String
  | .notInteger limits input => limits.name ++ " must be an integer, got '" ++ input ++ "'"
  | .outOfRange limits value =>
    limits.name ++ " must be between 1 and " ++ toString limits.most ++ ", got " ++ toString value

/-- A whole number of 64 bits, with blanks around it and maybe a sign. -/
def readWhole (limits : Limits) (input : String) : Except InputError Int :=
  match Text.readInt (Text.trim input.toList) with
  | some n =>
    if -9223372036854775808 ≤ n ∧ n < 9223372036854775808 then .ok n
    else .error (.notInteger limits input)
  | none => .error (.notInteger limits input)

/-- A whole number from 1 on. -/
def readWithin (limits : Limits) (input : String) : Except InputError Nat :=
  match readWhole limits input with
  | .ok n => if 1 ≤ n ∧ n ≤ limits.most then .ok n.toNat else .error (.outOfRange limits n)
  | .error e => .error e

def readPort (input : String) : Except InputError UInt16 :=
  (readWithin .port input).map Nat.toUInt16

def readTimeout (input : String) : Except InputError UInt32 :=
  (readWithin .timeout input).map Nat.toUInt32

end ScpiConsole
