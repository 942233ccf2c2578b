import ScpiConsole.Session.Dispatch
/-!
# Running scripts

* `readScript` : a script from a file or the clipboard
* `replaceScript` : a script takes the place of the one before
* `runScript` : the commands of a script, one after the other
-/

namespace ScpiConsole.Session

/-! ## Loading -/

/-- The script in a file. -/
def scriptOfFile (path : String) : Act Session (Except ScriptError Script) := do
  match ← Act.perform (.readBytes path) with
  | .error cause => pure (.error (.unreadable path cause))
  | .ok bytes =>
    match Text.strictText? bytes with
    | some source => pure (.ok ⟨source, .file⟩)
    | none => pure (.error (.unreadable path .invalidText))

/-- The script on the clipboard. -/
def scriptOfClipboard : Act Session (Except ScriptError Script) := do
  match ← Act.perform .clipboard with
  | .error problem => pure (.error (.noClipboard problem))
  | .ok source => pure (.ok ⟨source, .clipboard⟩)

/-- Puts a script in the place of the one before and stores it. Its origin is stored only when its
text could be. A script that could not be loaded changes nothing; the answer tells which it was. -/
def replaceScript : Except ScriptError Script → Act Session Bool
  | .error e => do
    notify (.load e.message)
    pure false
  | .ok script => do
    match ← Act.perform (.save .scriptSource (.string script.source)) with
    | .ok _ => remember .scriptOrigin script.origin.toJson
    | .error _ => pure ()
    modify fun s => { s with script }
    pure true

/-! ## Runs -/

/-- What a run has sent so far. -/
structure Tally where
  dispatched : Nat := 0
  failed : Nat := 0
deriving DecidableEq, Repr

/-- Sends commands until none is left or the operator stops it, which is asked before each of them.
`shown` goes from one command to the next through `watch`, which sees the log after each. -/
def sendLines {β : Type} (watch : β → Act Session β) (total : Nat) (shown : β) (tally : Tally) :
    List String → Act Session (Tally × β)
  | [] => pure (tally, shown)
  | line :: rest => do
    if ← Act.perform .cancelled then pure (tally, shown)
    else
      let outcome ← dispatch .script line
      let tally : Tally :=
        ⟨tally.dispatched + 1, if outcome.isServerError then tally.failed + 1 else tally.failed⟩
      modify fun s => { s with progress := ⟨tally.dispatched, total⟩ }
      let shown ← watch shown
      sendLines watch total shown tally rest

/-- The report on a run of `total` commands. -/
def report (total : Nat) (tally : Tally) : Report :=
  let skipped := total - tally.dispatched
  ⟨if 0 < skipped then .cancelled else .completed, tally.dispatched, skipped, tally.failed⟩

/-- Shows the end of a run, and tells the operator if it did not reach its end. -/
def closeRun (r : Report) : Act Session Unit := do
  modify fun s =>
    { s with
      status := r.status
      progress := if r.status = .cancelled then s.progress else .full }
  if r.status = .cancelled then notify (.cancelled r.dispatched r.skipped) else pure ()

/-- Sends the lines of a script and reports on them. -/
def workThrough {β : Type} (watch : β → Act Session β) (shown : β) (lines : List String) :
    Act Session (Report × β) := do
  modify fun s => { s with progress := .none, status := .running }
  let (tally, shown) ← sendLines watch lines.length shown {} lines
  let r := report lines.length tally
  closeRun r
  pure (r, shown)

/-- Sends a script. The log of the script mode then holds this run alone. -/
def sendScript {β : Type} (watch : β → Act Session β) (shown : β) (script : Script) :
    Act Session (Report × β) := do
  changeLog .script Log.clear
  workThrough watch shown script.lines

/-- Runs a script, which nothing else may interrupt; none when something is in flight already. -/
def watchScript {β : Type} (watch : β → Act Session β) (shown : β) (script : Script) :
    Act Session (Option (Report × β)) := guarded (sendScript watch shown script)

/-- Runs a script that nobody watches. -/
def runScript (script : Script) : Act Session (Option Report) := do
  let ended ← watchScript pure () script
  pure (ended.map Prod.fst)

end ScpiConsole.Session
