/-!
# JSON values

* `Json` : a value as it is read, with the members of an object in the order of the text
* `Json.nesting` : how many arrays and objects stand inside each other
* `Json.canonical` : members sorted by key, the last of several members of one key kept
-/

namespace ScpiConsole

/-- A whole number, or a double given by its bits. -/
inductive Json.Number where
  | int (n : Int)
  | real (bits : UInt64)
deriving DecidableEq, Repr

/-- A JSON value. `unreadable` stands for a well-formed text without a value: a number beyond the
largest double, a string or a member name with an unpaired surrogate. -/
inductive Json where
  | null
  | bool (b : Bool)
  | number (n : Json.Number)
  | string (s : String)
  | array (items : List Json)
  | object (members : List (String × Json))
  | unreadable
deriving Inhabited, Repr

namespace Json

/-- The value as a number, a natural one. -/
def nat (n : Nat) : Json := .number (.int n)

/-- The member of that name in a list of members. -/
def lookup (key : String) : List (String × Json) → Option Json
  | [] => none
  | (k, v) :: rest => if k = key then some v else lookup key rest

/-- The member of that name. -/
def get? (key : String) : Json → Option Json
  | .object members => lookup key members
  | _ => none

/-! ## Nesting -/

mutual

/-- The number of arrays and objects around the deepest value, itself included. -/
def nesting : Json → Nat
  | .array items => nestingItems items + 1
  | .object members => nestingMembers members + 1
  | _ => 0

def nestingItems : List Json → Nat
  | [] => 0
  | v :: rest => max (nesting v) (nestingItems rest)

def nestingMembers : List (String × Json) → Nat
  | [] => 0
  | (_, v) :: rest => max (nesting v) (nestingMembers rest)

end

mutual

/-- No `unreadable` anywhere inside. -/
def readable : Json → Bool
  | .array items => readableItems items
  | .object members => readableMembers members
  | .unreadable => false
  | _ => true

def readableItems : List Json → Bool
  | [] => true
  | v :: rest => readable v && readableItems rest

def readableMembers : List (String × Json) → Bool
  | [] => true
  | (_, v) :: rest => readable v && readableMembers rest

end

/-! ## Members sorted by name -/

/-- Puts a member at its place among members sorted by name, over any member of that name. -/
def put (key : String) (value : Json) : List (String × Json) → List (String × Json)
  | [] => [(key, value)]
  | (k, v) :: rest =>
    match compare key k with
    | .lt => (key, value) :: (k, v) :: rest
    | .eq => (key, value) :: rest
    | .gt => (k, v) :: put key value rest

theorem lookup_put_self (key : String) (value : Json) (members : List (String × Json)) :
    lookup key (put key value members) = some value := by
  induction members with
  | nil => simp [put, lookup]
  | cons m rest ih =>
    obtain ⟨k, v⟩ := m
    unfold put
    split
    · simp [lookup]
    · simp [lookup]
    · next h =>
      have hk : k ≠ key := by rintro rfl; simp [Std.ReflCmp.compare_self] at h
      simp [lookup, hk, ih]

theorem lookup_put_of_ne {key other : String} (h : other ≠ key) (value : Json)
    (members : List (String × Json)) :
    lookup other (put key value members) = lookup other members := by
  induction members with
  | nil => simp [put, lookup, Ne.symm h]
  | cons m rest ih =>
    obtain ⟨k, v⟩ := m
    unfold put
    split
    · simp [lookup, Ne.symm h]
    · next heq =>
      have hk : key = k := Std.LawfulEqCmp.eq_of_compare heq
      subst hk
      simp [lookup, Ne.symm h]
    · simp only [lookup]; split
      · rfl
      · exact ih

/-- The members without the one of that name. -/
def erase (key : String) (members : List (String × Json)) : List (String × Json) :=
  members.filter fun m => m.1 ≠ key

mutual

/-- Members sorted by name at every level; of several with one name the last stays. -/
def canonical : Json → Json
  | .array items => .array (canonicalItems items)
  | .object members => .object (canonicalMembers [] members)
  | v => v

def canonicalItems : List Json → List Json
  | [] => []
  | v :: rest => canonical v :: canonicalItems rest

/-- `sorted` with further members put in one after the other. -/
def canonicalMembers (sorted : List (String × Json)) :
    List (String × Json) → List (String × Json)
  | [] => sorted
  | (k, v) :: rest => canonicalMembers (put k (canonical v) sorted) rest

end

end Json

end ScpiConsole
