import ScpiConsole.Proofs.InputLine.Run
import ScpiConsole.Proofs.Prompt.Events
/-!
# The line of the prompt

All that happens to the line at a prompt are the deeds of an operator and what comes of commands. So what
is known of the lines that deeds lead to is known of the line at every wait.

* `Face.Reaches` : deeds lead from one line to another, before the same grammar
* `keeps_step`, `keeps_follow` : what one event preserves, and all of them
* `line_run` : the line after a prompt is one that deeds lead to
-/

namespace ScpiConsole

open InputLine (Deed Reachable)

/-- Deeds lead to the line, and the grammar is the same. -/
structure Face.Reaches (start f : Face) : Prop where
  grammar : f.grammar = start.grammar
  line : Reachable start.grammar start.line f.line

namespace Face

variable {start f : Face}

theorem reaches_self (start : Face) : start.Reaches start := ⟨rfl, [], .start⟩

theorem Reaches.after (h : start.Reaches f) (deed : Deed) (possible : deed.Possible f.grammar f.line) :
    start.Reaches (f.after deed) := ⟨h.grammar, h.line.deed deed (h.grammar ▸ possible)⟩

/-- Commands are no way out. -/
theorem outlasts_reaches (start : Face) : Session.Outlasts start.Reaches where
  take h := h.after .take trivial
  record command h := h.after (.record command) trivial
  forget h := h.after .forget trivial

end Face

namespace Prompt

open Session

/-! ## Events -/

section

variable {start : Face} {candidate : Candidate} {s : Session}

theorem keeps_press (key : Key) :
    (changeLine (·.press key)).Keeps fun s => start.Reaches s.face :=
  Act.keeps_modify fun _ hs => hs.after (.press key) trivial

/-- Nothing but what is on offer is accepted. -/
theorem keeps_accept (hs : start.Reaches s.face) (hoffered : candidate ∈ offered s) (turn : Turn) :
    ((do accept candidate; pure turn : Act Session Turn) s).Keeps fun s => start.Reaches s.face :=
  .done (hs.after (.accept candidate s.preferences.preferShortScpi) hoffered)

theorem keeps_complete (highlight : Option Nat) :
    (complete highlight).Keeps fun s => start.Reaches s.face := by
  refine Act.keeps_get_bind fun s hs => ?_
  rcases hoffered : s.line.candidates s.grammar with - | ⟨only, - | ⟨second, rest⟩⟩
  · exact .done hs
  · have hmem : only ∈ offered s := by
      rw [offered, hoffered]
      exact List.mem_singleton_self only
    exact keeps_accept hs hmem _
  · exact .done hs

theorem keeps_acceptMarked (i : Nat) : (acceptMarked i).Keeps fun s => start.Reaches s.face := by
  refine Act.keeps_get_bind fun s hs => ?_
  cases hmarked : (s.line.candidates s.grammar)[i]? with
  | none => exact .done hs
  | some candidate => exact keeps_accept hs (List.mem_of_getElem? hmarked) _

theorem keeps_interrupt : interrupt.Keeps fun s => start.Reaches s.face :=
  Act.keeps_get_bind fun _ hs => .done (hs.after .take trivial)

/-- The line is taken, and the rest is left to the commands. -/
theorem keeps_enter : enter.Keeps fun s => start.Reaches s.face := by
  refine Act.keeps_get_bind fun s hs => ?_
  refine Act.keeps_set_bind (I := fun s : Session => start.Reaches s.face) ?_ ?_ s
  · exact hs.after .take trivial
  refine (Act.keeps_perform _).bind fun _ => (Act.keeps_perform _).bind fun _ =>
    (Act.keeps_perform _).bind fun _ => ?_
  refine ((Shell.orderly_execute _).keeps start.outlasts_reaches).bind fun flow =>
    (Shell.orderly_tellNotices.keeps start.outlasts_reaches).bind fun _ =>
      (Act.keeps_perform _).bind fun _ => ?_
  rcases flow with cause | flow
  · exact Act.keeps_pure _
  · cases flow <;> exact Act.keeps_pure _

theorem keeps_step (highlight : Option Nat) (event : Event) :
    (step highlight event).Keeps fun s => start.Reaches s.face := by
  cases event with
  | other => exact Act.keeps_pure _
  | key press =>
    rw [step]
    cases press.action with
    | ignore | quit => exact Act.keeps_pure _
    | interrupt => exact keeps_interrupt
    | edit key => exact (keeps_press key).bind fun _ => Act.keeps_pure _
    | complete => exact keeps_complete highlight
    | submit =>
      cases highlight with
      | some i => exact keeps_acceptMarked i
      | none => exact keeps_enter

/-! ## Events one after another -/

theorem keeps_redraw (highlight : Option Nat) :
    (redraw highlight).Keeps fun s => start.Reaches s.face :=
  Act.keeps_get_bind fun s hs => Act.keeps_perform _ s hs

theorem keeps_follow (events : List (Except String Event)) (highlight : Option Nat) :
    (follow highlight events).Keeps fun s => start.Reaches s.face := by
  induction events generalizing highlight with
  | nil =>
    exact (Act.keeps_perform _).bind fun _ => (Act.keeps_perform _).bind fun _ => Act.keeps_pure _
  | cons event rest ih =>
    cases event with
    | error problem => exact (Act.keeps_perform _).bind fun _ => Act.keeps_pure _
    | ok event =>
      rw [follow_cons]
      refine (Act.keeps_perform _).bind fun _ => (keeps_step highlight event).bind fun turn => ?_
      cases turn with
      | ignored => exact ih highlight
      | shown highlight => exact (keeps_redraw highlight).bind fun _ => ih highlight
      | left => exact (Act.keeps_perform _).bind fun _ => Act.keeps_pure _
      | failed cause => exact Act.keeps_pure _

/-- **The line of the prompt.** Whatever the terminal tells and whatever is answered, the line is one that
deeds lead to from the line at the start, whenever the prompt waits and at its end. What others do meanwhile
may be such deeds too. -/
theorem keeps_run (events : List (Except String Event)) (start : Face) :
    (run events).Keeps fun s => start.Reaches s.face :=
  (Act.keeps_perform _).bind fun _ => (keeps_redraw none).bind fun _ => (keeps_follow events none).bind
    fun _ => (Act.keeps_perform _).bind fun _ => Act.keeps_pure _

/-- A prompt that nobody disturbs is a run of the line. -/
theorem line_run (events : List (Except String Event)) (o : Oracle) (s : Session) (record : Record) :
    ∃ deeds, InputLine.Run s.grammar s.line deeds ((run events).alone o s record).1.1.line :=
  ((keeps_run events s.face).alone (o := o) (Face.reaches_self s.face) record).line

end

end Prompt

end ScpiConsole
