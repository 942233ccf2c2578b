import ScpiConsole.Log
/-!
# Selections

Which entries of a log are selected, by their places, and the drag that is going on.

* `press`, `drag`, `release` : gestures of a pointer
* `single` : the one selected place
* `target` : the entry at that place
* `setMinimized` : what is done to that entry
-/

namespace ScpiConsole

/-- Selected places in ascending order. -/
structure Selection where
  places : List Nat := []
  /-- Where the drag began that is going on. -/
  anchor : Option Nat := none
deriving DecidableEq, Repr, Inhabited

namespace Selection

/-- Puts a place into ascending places. -/
def insertPlace (place : Nat) : List Nat → List Nat
  | [] => [place]
  | p :: rest =>
    if place < p then place :: p :: rest
    else if place = p then p :: rest
    else p :: insertPlace place rest

def contains (s : Selection) (place : Nat) : Bool := s.places.contains place

/-- A plain press selects that place alone and starts a drag. A press that toggles flips the place
and ends any drag. -/
def press (s : Selection) (place : Nat) (toggle : Bool) : Selection :=
  if toggle then
    ⟨if s.contains place then s.places.filter (· ≠ place) else insertPlace place s.places, none⟩
  else ⟨[place], some place⟩

/-- While dragging, all places from the anchor to here. -/
def drag (s : Selection) (place : Nat) : Selection :=
  match s.anchor with
  | none => s
  | some a => { s with places := List.range' (min a place) (max a place + 1 - min a place) }

def release (s : Selection) : Selection := { s with anchor := none }

def selectAll (s : Selection) (count : Nat) : Selection := { s with places := List.range count }

def clear (_ : Selection) : Selection := {}

/-- The selected place when there is exactly one. -/
def single (s : Selection) : Option Nat :=
  match s.places with
  | [p] => some p
  | _ => none

/-- The selected entries, places beyond the end passed over. -/
def entries (s : Selection) (log : List Entry) : List Entry := s.places.filterMap (log[·]?)

/-- The number of the one selected entry. -/
def target (s : Selection) (log : Log) : Option EntryId :=
  s.single.bind fun p => log.entries[p]?.map Entry.id

/-- The log with the one selected entry minimized, or not any more. There is none unless exactly one
entry is selected. -/
def setMinimized (s : Selection) (log : Log) (minimized : Bool) : Option Log :=
  (s.target log).map fun id => log.setMinimized id minimized

end Selection

end ScpiConsole
