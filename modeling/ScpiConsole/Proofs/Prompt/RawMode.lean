import ScpiConsole.Proofs.Prompt.Events
import ScpiConsole.Proofs.Session.Books
/-!
# The mode of the terminal

The prompt makes the terminal raw, and leaves that to the terminal again for each line that it executes and
in the end, however the end comes.

* `switches` : the changes of the mode on a record
* `modes` : what was asked for, each with the mode at that time
* `Raw` : what a record of a raw terminal is made of
* `StaysRaw`, `staysRaw_follow` : whatever the terminal tells, the prompt goes on in this way
* `exists_alone_run_enter` : a line that is entered is executed between two switches
* `raw_mode_balanced` : switches alternate, waits are raw, and lines are not
-/

namespace ScpiConsole.Prompt

open Session

/-! ## Modes on a record -/

def switch? (x : Exchange) : Option Bool :=
  match x.effect with
  | .rawMode on => some on
  | _ => none

/-- The changes of the mode, one after another. -/
def switches (record : Record) : List Bool := record.filterMap switch?

theorem switches_append (record more : Record) :
    switches (record ++ more) = switches record ++ switches more := List.filterMap_append

/-- What was asked for, each with the mode of the terminal at that time. -/
def modes : Bool → Record → List (Bool × Exchange)
  | _, [] => []
  | raw, x :: rest => (raw, x) :: modes ((switch? x).getD raw) rest

theorem switch?_of_unmarked {x : Exchange} (h : Shell.isMark x.effect = false) : switch? x = none := by
  obtain ⟨e, a⟩ := x
  cases e <;> first | rfl | cases h

/-- Where nothing is switched the mode stays. -/
theorem modes_append_of_unmarked {record : Record} (h : ∀ x ∈ record, Shell.isMark x.effect = false)
    (raw : Bool) (rest : Record) :
    modes raw (record ++ rest) = record.map (raw, ·) ++ modes raw rest := by
  induction record with
  | nil => rfl
  | cons x record ih =>
    obtain ⟨hx, hrecord⟩ := List.forall_mem_cons.1 h
    rw [List.cons_append, modes, switch?_of_unmarked hx, Option.getD_none, ih hrecord]
    rfl

theorem switches_of_unmarked {record : Record} (h : ∀ x ∈ record, Shell.isMark x.effect = false) :
    switches record = [] :=
  List.filterMap_eq_nil_iff.2 fun x hx => switch?_of_unmarked (h x hx)

/-- Waits are raw, and whatever goes elsewhere than to the terminal is not. -/
def Fits (raw : Bool) (x : Exchange) : Prop :=
  (x.effect = .await → raw = true) ∧ (x.effect.onTerminal = false → raw = false)

theorem fits_of_unmarked {x : Exchange} (h : Shell.isMark x.effect = false) : Fits false x := by
  refine ⟨fun hwait => ?_, fun _ => rfl⟩
  rw [hwait] at h
  cases h

theorem fits_wait : Fits true awaited := ⟨fun _ => rfl, fun h => (by cases h)⟩

theorem fits_written (text : String) : Fits true (written text) :=
  ⟨fun _ => rfl, fun h => (by cases h)⟩

theorem fits_switched (raw on : Bool) : Fits raw (switched on) :=
  ⟨fun h => (by cases h), fun h => (by cases h)⟩

/-- Off and on again, between the first switch and the last. -/
theorem alternate (n : Nat) :
    true :: ((List.replicate n [false, true]).flatten ++ [false]) =
      (List.replicate (n + 1) [true, false]).flatten := by
  induction n with
  | zero => rfl
  | succ n ih =>
    rw [List.replicate_succ, List.flatten_cons, List.append_assoc]
    change [true, false] ++ (true :: ((List.replicate n [false, true]).flatten ++ [false])) = _
    rw [ih]
    rfl

/-! ## A raw terminal -/

/-- What comes behind a record while the terminal is raw: the operator is waited for, the prompt is drawn
anew, and lines are fed. A line is executed in between. It is drawn without candidates and fed, and then
the terminal is not raw until it has been executed. -/
inductive Raw (o : Oracle) : Record → Record → Prop where
  | nil {before : Record} : Raw o before []
  | wait {before more : Record} (h : Raw o (before ++ [awaited]) more) : Raw o before (awaited :: more)
  | draw {before more : Record} (highlight : Option Nat) (s : Session)
    (h : Raw o (before ++ [written (drawing highlight s)]) more) :
    Raw o before (written (drawing highlight s) :: more)
  | feed {before more : Record} (h : Raw o (before ++ [written "\r\n"]) more) :
    Raw o before (written "\r\n" :: more)
  | line {before more done : Record} (s : Session)
    (hdone : ((work s.line.text).alone o (lineTaken s) (before ++ leaving s ++ [switched false])).2 =
      before ++ leaving s ++ [switched false] ++ done)
    (h : Raw o (before ++ leaving s ++ [switched false] ++ done ++ [switched true]) more) :
    Raw o before (leaving s ++ switched false :: done ++ switched true :: more)

variable {o : Oracle}

/-- The exchanges of a line switch nothing and wait for nobody. -/
theorem unmarked_of_work {text : String} {s : Session} {before done : Record}
    (h : ((work text).alone o s before).2 = before ++ done) :
    ∀ x ∈ done, Shell.isMark x.effect = false := by
  obtain ⟨more, hmore, hunmarked⟩ := (orderly_work text).asks.alone (o := o) s before
  have hdone : done = more := List.append_cancel_left (h.symm.trans hmore)
  rwa [hdone]

theorem Raw.switches_eq {before more : Record} (h : Raw o before more) :
    ∃ n, switches more = (List.replicate n [false, true]).flatten := by
  induction h with
  | nil => exact ⟨0, rfl⟩
  | wait _ ih => exact ih
  | draw _ _ _ ih => exact ih
  | feed _ ih => exact ih
  | @line before more done s hdone _ ih =>
    obtain ⟨n, hn⟩ := ih
    refine ⟨n + 1, ?_⟩
    have hnone := switches_of_unmarked (unmarked_of_work hdone)
    have hon : switches (switched true :: more) = true :: switches more := rfl
    have hoff : switches (leaving s ++ switched false :: done) = false :: switches done := rfl
    rw [switches_append, hoff, hnone, hon, hn, List.replicate_succ]
    rfl

theorem Raw.fits {before more : Record} (h : Raw o before more) (rest : Record)
    (hrest : ∀ p ∈ modes true rest, Fits p.1 p.2) :
    ∀ p ∈ modes true (more ++ rest), Fits p.1 p.2 := by
  induction h with
  | nil => exact hrest
  | wait _ ih => exact List.forall_mem_cons.2 ⟨fits_wait, ih⟩
  | draw _ _ _ ih => exact List.forall_mem_cons.2 ⟨fits_written _, ih⟩
  | feed _ ih => exact List.forall_mem_cons.2 ⟨fits_written _, ih⟩
  | @line before more done s hdone _ ih =>
    have hunmarked := unmarked_of_work hdone
    rw [List.append_assoc, List.append_assoc, List.cons_append]
    refine List.forall_mem_cons.2 ⟨fits_written _, List.forall_mem_cons.2 ⟨fits_written _, ?_⟩⟩
    refine List.forall_mem_cons.2 ⟨fits_switched true false, ?_⟩
    change ∀ p ∈ modes false (done ++ switched true :: (more ++ rest)), Fits p.1 p.2
    rw [modes_append_of_unmarked hunmarked]
    refine List.forall_mem_append.2 ⟨fun p hp => ?_, ?_⟩
    · obtain ⟨x, hx, rfl⟩ := List.mem_map.1 hp
      exact fits_of_unmarked (hunmarked x hx)
    · exact List.forall_mem_cons.2 ⟨fits_switched false true, ih⟩

theorem Raw.append {before more more' : Record} (h : Raw o before more)
    (h' : Raw o (before ++ more) more') : Raw o before (more ++ more') := by
  induction h with
  | nil =>
    rwa [List.append_nil] at h'
  | wait _ ih =>
    refine .wait (ih ?_)
    rwa [List.append_assoc]
  | draw highlight s _ ih =>
    refine .draw highlight s (ih ?_)
    rwa [List.append_assoc]
  | feed _ ih =>
    refine .feed (ih ?_)
    rwa [List.append_assoc]
  | @line before more done s hdone _ ih =>
    rw [List.append_assoc, List.cons_append]
    refine .line s hdone (ih ?_)
    have hshape : before ++ (leaving s ++ switched false :: done ++ switched true :: more) =
        before ++ leaving s ++ [switched false] ++ done ++ [switched true] ++ more := by
      simp only [List.append_assoc, List.cons_append, List.nil_append]
    rwa [hshape] at h'

/-! ## The loop -/

/-- The act continues every record in the way of a raw terminal. -/
def StaysRaw {α : Type} (o : Oracle) (x : Act Session α) : Prop :=
  ∀ s before, ∃ more, (x.alone o s before).2 = before ++ more ∧ Raw o before more

section

variable {α β : Type}

theorem StaysRaw.bind {x : Act Session α} {f : α → Act Session β} (hx : StaysRaw o x)
    (hf : ∀ a, StaysRaw o (f a)) : StaysRaw o (x >>= f) := by
  intro s before
  obtain ⟨more, hmore, hraw⟩ := hx s before
  obtain ⟨more', hmore', hraw'⟩ := hf (x.alone o s before).1.2 (x.alone o s before).1.1
    (x.alone o s before).2
  rw [hmore] at hraw'
  refine ⟨more ++ more', ?_, hraw.append hraw'⟩
  rw [Act.alone_bind, hmore', hmore, List.append_assoc]

theorem staysRaw_pure (a : α) : StaysRaw o (pure a) := by
  intro s before
  rw [Act.alone_pure]
  exact ⟨[], (List.append_nil before).symm, .nil⟩

end

theorem staysRaw_await : StaysRaw o (Act.perform .await : Act Session Unit) := by
  intro s before
  rw [alone_await]
  exact ⟨[awaited], rfl, .wait .nil⟩

theorem staysRaw_feed : StaysRaw o (print "\r\n") := by
  intro s before
  rw [alone_print]
  exact ⟨[written "\r\n"], rfl, .feed .nil⟩

theorem staysRaw_redraw (highlight : Option Nat) : StaysRaw o (redraw highlight) := by
  intro s before
  rw [alone_redraw]
  exact ⟨[written (drawing highlight s)], rfl, .draw highlight s .nil⟩

/-- A line that is entered is executed between two switches. -/
theorem staysRaw_enter : StaysRaw o enter := by
  intro s before
  rw [alone_enter]
  obtain ⟨done, hdone⟩ := (work s.line.text).exists_append_alone (o := o) (lineTaken s)
    (before ++ leaving s ++ [switched false])
  refine ⟨leaving s ++ switched false :: done ++ [switched true], ?_, .line s hdone .nil⟩
  dsimp only
  rw [hdone]
  simp only [List.append_assoc, List.cons_append, List.nil_append]

theorem staysRaw_step (highlight : Option Nat) (event : Event) : StaysRaw o (step highlight event) := by
  intro s before
  rcases step_cases (o := o) highlight event s before with ⟨t, turn, hstep, -⟩ | ⟨-, hstep⟩
  · rw [hstep]
    exact ⟨[], (List.append_nil before).symm, .nil⟩
  · rw [hstep]
    exact staysRaw_enter s before

theorem staysRaw_proceed {rest : List (Except String Event)}
    (ih : ∀ highlight, StaysRaw o (follow highlight rest)) (highlight : Option Nat) (turn : Turn) :
    StaysRaw o (proceed highlight rest turn) := by
  cases turn with
  | ignored => exact ih highlight
  | shown highlight => exact (staysRaw_redraw highlight).bind fun _ => ih highlight
  | left => exact staysRaw_feed.bind fun _ => staysRaw_pure _
  | failed cause => exact staysRaw_pure _

/-- Whatever the terminal tells, and whatever comes of the lines. -/
theorem staysRaw_follow (events : List (Except String Event)) (highlight : Option Nat) :
    StaysRaw o (follow highlight events) := by
  induction events generalizing highlight with
  | nil => exact staysRaw_await.bind fun _ => staysRaw_feed.bind fun _ => staysRaw_pure _
  | cons event rest ih =>
    cases event with
    | error problem => exact staysRaw_await.bind fun _ => staysRaw_pure _
    | ok event =>
      rw [follow_cons]
      exact staysRaw_await.bind fun _ => (staysRaw_step highlight event).bind fun turn =>
        staysRaw_proceed ih highlight turn

/-! ## Lines that are entered -/

/-- The prompt goes on with a line that is executed between two switches. -/
theorem exists_alone_follow_enter {press : Press} (hpress : press.action = .submit)
    (rest : List (Except String Event)) (s : Session) (before : Record) :
    let asked := before ++ awaited :: leaving s ++ [switched false]
    ∃ more, ((follow none (.ok (.key press) :: rest)).alone o s before).2 =
      ((work s.line.text).alone o (lineTaken s) asked).2 ++ switched true :: more := by
  intro asked
  have hsubmit : step none (.key press) = enter := by
    rw [step, hpress]
    rfl
  have hasked : before ++ [awaited] ++ leaving s ++ [switched false] = asked := by
    simp only [asked, List.append_assoc, List.cons_append, List.nil_append]
  rw [follow_cons, Act.alone_bind, alone_await, Act.alone_bind, hsubmit, alone_enter, hasked]
  dsimp only
  generalize (work s.line.text).alone o (lineTaken s) asked = worked
  obtain ⟨more, hmore⟩ := (proceed none rest (Turn.ofFlow worked.1.2)).exists_append_alone (o := o)
    worked.1.1 (worked.2 ++ [switched true])
  exact ⟨more, hmore.trans (List.append_assoc ..)⟩

/-- Wherever a line is entered, it is executed between two switches. -/
theorem exists_alone_run_enter {before : List Event} {press : Press} (hpress : press.action = .submit)
    (rest : List (Except String Event)) {s : Session} {record : Record}
    (hmark : ((opening before).alone o s record).1.2 = .ok none) :
    let reached := (opening before).alone o s record
    let asked := reached.2 ++ awaited :: leaving reached.1.1 ++ [switched false]
    ∃ done more,
      ((run (before.map .ok ++ .ok (.key press) :: rest)).alone o s record).2 =
        asked ++ done ++ switched true :: more ∧
      ((work reached.1.1.line.text).alone o (lineTaken reached.1.1) asked).2 = asked ++ done := by
  intro reached asked
  obtain ⟨more, hmore⟩ := exists_alone_follow_enter (o := o) hpress rest reached.1.1 reached.2
  obtain ⟨done, hdone⟩ := (work reached.1.1.line.text).exists_append_alone (o := o)
    (lineTaken reached.1.1) asked
  refine ⟨done, more ++ [switched false], ?_, hdone⟩
  rw [run_append, Act.alone_bind, hmark, ending, resume, Act.alone_bind, Act.alone_bind, alone_rawMode,
    Act.alone_pure]
  dsimp only
  rw [hmore, hdone, List.append_assoc]
  rfl

/-- **Raw mode.** Whatever the terminal tells, whether it can be read to its end or not, and whatever comes
of the lines: the prompt first makes the terminal raw, and the last that it does is to make it not raw any
more. In between it waits and draws, and executes lines between two switches. So the switches alternate,
the operator is waited for while the terminal is raw only, and only while it is not raw anything but the
terminal is asked for. Every line that is entered, wherever it is, is executed between such switches. -/
theorem raw_mode_balanced (o : Oracle) (events : List (Except String Event)) (s : Session)
    (record : Record) :
    let ended := (run events).alone o s record
    ∃ between, ended.2 = record ++ switched true :: (between ++ [switched false]) ∧
      Raw o (record ++ [switched true]) between ∧
      (∃ n, switches (switched true :: (between ++ [switched false])) =
        (List.replicate (n + 1) [true, false]).flatten) ∧
      (∀ p ∈ modes false (switched true :: (between ++ [switched false])),
        (p.2.effect = .await → p.1 = true) ∧ (p.2.effect.onTerminal = false → p.1 = false)) ∧
      ∀ (before : List Event) (press : Press) (rest : List (Except String Event)),
        events = before.map .ok ++ .ok (.key press) :: rest → press.action = .submit →
        let reached := (opening before).alone o s record
        let t := reached.1.1
        reached.1.2 = .ok none →
        let asked := reached.2 ++ awaited :: leaving t ++ [switched false]
        ∃ done more, ended.2 = asked ++ done ++ switched true :: more ∧
          ((work t.line.text).alone o (lineTaken t) asked).2 = asked ++ done := by
  intro ended
  have hbody : StaysRaw o (redraw none >>= fun _ => follow none events) :=
    (staysRaw_redraw none).bind fun _ => staysRaw_follow events none
  obtain ⟨between, hended, hbetween⟩ := hbody s (record ++ [switched true])
  refine ⟨between, ?_, hbetween, ?_, ?_, ?_⟩
  · have hrun : run events = rawMode true >>= fun _ =>
        (redraw none >>= fun _ => follow none events) >>= fun result =>
          rawMode false >>= fun _ => pure result := by
      rw [run]
      simp only [bind_assoc]
    change ((run events).alone o s record).2 = _
    rw [hrun, Act.alone_bind, alone_rawMode, Act.alone_bind, Act.alone_bind, alone_rawMode,
      Act.alone_pure]
    dsimp only
    rw [hended]
    simp only [List.append_assoc, List.cons_append, List.nil_append]
  · obtain ⟨n, hn⟩ := hbetween.switches_eq
    refine ⟨n, ?_⟩
    have hfirst (rest : Record) : switches (switched true :: rest) = true :: switches rest := rfl
    rw [hfirst, switches_append, hn]
    exact alternate n
  · have hlast : ∀ p ∈ modes true [switched false], Fits p.1 p.2 :=
      List.forall_mem_singleton.2 (fits_switched true false)
    exact List.forall_mem_cons.2 ⟨fits_switched false true, hbetween.fits _ hlast⟩
  · rintro before press rest rfl hpress
    exact exists_alone_run_enter hpress rest

/-- A session with a line that only writes. -/
def asksHelp : Session := { line := { text := "!help" } }

/-- The line is entered, and what it writes is written while the terminal is not raw. -/
theorem raw_mode_balanced_help :
    let ended := (run [.ok (.key { key := some .enter })]).alone (scripted [] 0) asksHelp []
    switches ended.2 = [true, false, true, false] ∧
    ∃ done more, printed done = Shell.help.map (· ++ "\n") ∧
      ended.2 = [switched true, written (drawing none asksHelp), awaited] ++ leaving asksHelp ++
        switched false :: (done ++ switched true :: more) := by
  intro ended
  obtain ⟨-, -, -, -, -, hentered⟩ := raw_mode_balanced (scripted [] 0)
    [.ok (.key { key := some .enter })] asksHelp []
  have hstart : (opening []).alone (scripted [] 0) asksHelp [] =
      ((asksHelp, .ok none), [switched true, written (drawing none asksHelp)]) := by
    rw [opening, Act.alone_bind, alone_rawMode, Act.alone_bind, alone_redraw, pass, Act.alone_pure]
    rfl
  have hline := hentered [] { key := some .enter } [] rfl rfl
  rw [hstart] at hline
  obtain ⟨done, more, hended, hdone⟩ := hline rfl
  refine ⟨by decide +kernel, done, more, ?_, ?_⟩
  · have hprinted := congrArg printed hdone
    rw [printed_append] at hprinted
    refine List.append_cancel_left (hprinted.symm.trans ?_)
    decide +kernel
  · exact hended.trans (by simp)

end ScpiConsole.Prompt
