/-!
# Notifications

* `Notification` : news for the operator that no command answers with
-/

namespace ScpiConsole

/-- News for the operator. -/
inductive Notification where
  /-- The server could not be reached, or did not accept the command. -/
  | transport (scpi message : String)
  /-- A script could not be loaded; the one before is still there. -/
  | load (message : String)
  /-- A script stopped before its end. -/
  | cancelled (dispatched skipped : Nat)
deriving DecidableEq, Repr

def Notification.text : Notification → String
  | .transport scpi message => scpi ++ " failed: " ++ message
  | .load message => "Could not load script: " ++ message
  | .cancelled dispatched skipped =>
    "Script cancelled after " ++ toString dispatched ++ " commands, " ++ toString skipped ++
      " skipped"

end ScpiConsole
