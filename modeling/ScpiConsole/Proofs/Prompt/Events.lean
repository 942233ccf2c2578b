import ScpiConsole.Proofs.Shell.Execute
import ScpiConsole.Prompt
/-!
# What an event comes to

Most events change the input line or the mark on the candidates, and ask for nothing. The exception is the
line that is entered, which is executed.

* `drawing` : how a session is drawn
* `alone_enter` : a line is executed between two switches of the terminal
* `step_cases` : all that an event can come to
* `pass` : events that do not end the prompt, with the mark after them
* `run_append` : the prompt over some events goes on from where these lead
-/

namespace ScpiConsole.Prompt

open Session

/-! ## Exchanges with the terminal -/

def written (text : String) : Exchange := ⟨.print text, ()⟩

def awaited : Exchange := ⟨.await, ()⟩

/-- The terminal was made raw (`true`), or not. -/
def switched (on : Bool) : Exchange := ⟨.rawMode on, ()⟩

variable {o : Oracle}

@[simp] theorem alone_print (text : String) (s : Session) (record : Record) :
    (print text).alone o s record = ((s, ()), record ++ [written text]) := Act.alone_perform ..

@[simp] theorem alone_rawMode (on : Bool) (s : Session) (record : Record) :
    (rawMode on).alone o s record = ((s, ()), record ++ [switched on]) := Act.alone_perform ..

@[simp] theorem alone_await (s : Session) (record : Record) :
    (Act.perform .await : Act Session Unit).alone o s record = ((s, ()), record ++ [awaited]) :=
  Act.alone_perform ..

def printed? (x : Exchange) : Option String :=
  match x.effect with
  | .print text => some text
  | _ => none

/-- What was written, one text after another. -/
def printed (record : Record) : List String := record.filterMap printed?

theorem printed_append (record more : Record) :
    printed (record ++ more) = printed record ++ printed more := List.filterMap_append

/-! ## Drawings -/

/-- The candidates on offer. -/
def offered (s : Session) : List Candidate := s.line.candidates s.grammar

/-- Their labels, as the session prefers them. -/
def labels (s : Session) : List String := (offered s).map (·.label s.preferences.preferShortScpi)

theorem length_labels (s : Session) : (labels s).length = (offered s).length := List.length_map ..

/-- Input and candidates on the screen. -/
def drawing (highlight : Option Nat) (s : Session) : String :=
  draw Shell.prompt s.line.text (labels s) highlight

theorem alone_redraw (highlight : Option Nat) (s : Session) (record : Record) :
    (redraw highlight).alone o s record = ((s, ()), record ++ [written (drawing highlight s)]) := by
  rw [redraw, Act.alone_get_bind]
  exact alone_print ..

/-! ## Lines that are entered -/

/-- The line is executed, and the news is told. -/
def work (text : String) : Act Session (Except Failure Shell.Flow) := do
  let flow ← Shell.execute text
  Shell.tellNotices
  pure flow

/-- How the prompt goes on after a line. -/
def Turn.ofFlow : Except Failure Shell.Flow → Turn
  | .error cause => .failed cause
  | .ok .quit => .left
  | .ok .goOn => .shown none

theorem orderly_work (text : String) : Shell.Orderly (work text) :=
  (Shell.orderly_execute text).bind fun _ => Shell.orderly_tellNotices.bind fun _ =>
    Shell.orderly_pure _

/-- The session whose line was taken. -/
def lineTaken (s : Session) : Session := { s with line := s.line.cleared }

/-- What is written before a line is executed. -/
def leaving (s : Session) : Record := [written (draw Shell.prompt s.line.text [] none), written "\r\n"]

theorem alone_work (text : String) (s : Session) (record : Record) :
    (work text).alone o s record =
      let executed := (Shell.execute text).alone o s record
      let told := Shell.tellNotices.alone o executed.1.1 executed.2
      ((told.1.1, executed.1.2), told.2) := by
  rw [work, Act.alone_bind, Act.alone_bind, Act.alone_pure]

/-- A line is executed between two switches of the terminal. -/
theorem alone_enter (s : Session) (record : Record) :
    enter.alone o s record =
      let ended := (work s.line.text).alone o (lineTaken s) (record ++ leaving s ++ [switched false])
      ((ended.1.1, Turn.ofFlow ended.1.2), ended.2 ++ [switched true]) := by
  have hleaving : record ++ leaving s =
      record ++ [written (draw Shell.prompt s.line.text [] none)] ++ [written "\r\n"] :=
    (List.append_assoc record [_] [_]).symm
  rw [hleaving, alone_work, enter, Act.alone_get_bind, Act.alone_bind, Act.alone_set, Act.alone_bind,
    alone_print, Act.alone_bind, alone_print, Act.alone_bind, alone_rawMode, Act.alone_bind,
    Act.alone_bind, Act.alone_bind, alone_rawMode, lineTaken]
  generalize (Shell.execute s.line.text).alone o _ _ = executed
  obtain ⟨⟨t, flow⟩, record'⟩ := executed
  rcases flow with cause | flow
  · exact Act.alone_pure ..
  · cases flow <;> exact Act.alone_pure ..

/-! ## Events -/

theorem alone_changeLine (change : InputLine → InputLine) (s : Session) (record : Record) :
    (changeLine change).alone o s record = (({ s with line := change s.line }, ⟨⟩), record) :=
  Act.alone_modify ..

/-- The session with a completion on its line. -/
def accepting (candidate : Candidate) (s : Session) : Session :=
  { s with line := s.line.accept candidate s.preferences.preferShortScpi }

theorem alone_accept (candidate : Candidate) (s : Session) (record : Record) :
    (accept candidate).alone o s record = ((accepting candidate s, ⟨⟩), record) := Act.alone_modify ..

theorem alone_acceptMarked {i : Nat} {candidate : Candidate} {s : Session}
    (h : (offered s)[i]? = some candidate) (record : Record) :
    (acceptMarked i).alone o s record = ((accepting candidate s, .shown none), record) := by
  rw [offered] at h
  rw [acceptMarked, Act.alone_get_bind]
  simp only [h]
  rw [Act.alone_bind, alone_accept, Act.alone_pure]

theorem alone_acceptMarked_of_none {i : Nat} {s : Session} (h : (offered s)[i]? = none)
    (record : Record) : (acceptMarked i).alone o s record = ((s, .shown none), record) := by
  rw [offered] at h
  rw [acceptMarked, Act.alone_get_bind]
  simp only [h]
  rw [Act.alone_pure]

/-- Of several completions the next one is marked, and of none no one is. -/
theorem alone_complete {s : Session} (h : (offered s).length ≠ 1) (highlight : Option Nat)
    (record : Record) : (complete highlight).alone o s record =
      ((s, .shown (nextHighlight highlight (offered s).length)), record) := by
  rw [offered] at h ⊢
  rw [complete, Act.alone_get_bind]
  split
  · next only honly =>
    rw [honly] at h
    exact absurd rfl h
  · rw [Act.alone_pure]

theorem alone_complete_of_only {only : Candidate} {s : Session} (h : offered s = [only])
    (highlight : Option Nat) (record : Record) :
    (complete highlight).alone o s record = ((accepting only s, .shown none), record) := by
  rw [offered] at h
  rw [complete, Act.alone_get_bind]
  simp only [h]
  rw [Act.alone_bind, alone_accept, Act.alone_pure]

theorem alone_interrupt (s : Session) (record : Record) :
    interrupt.alone o s record =
      ((lineTaken s, if s.line.text.isEmpty then .left else .shown none), record) := by
  rw [interrupt, Act.alone_get_bind, Act.alone_bind, Act.alone_set, Act.alone_pure, lineTaken]

/-- What an event comes to that asks for nothing. -/
inductive Calm (s : Session) : Session → Turn → Prop where
  | ignored : Calm s s .ignored
  | left (line : InputLine) : Calm s { s with line } .left
  | edited (line : InputLine) : Calm s { s with line } (.shown none)
  /-- One of several candidates is marked. -/
  | marked {i : Nat} (hi : i < (offered s).length) (hmany : 2 ≤ (offered s).length) :
    Calm s s (.shown (some i))

theorem nextHighlight_of_pos (highlight : Option Nat) {n : Nat} (hn : 0 < n) :
    ∃ i < n, nextHighlight highlight n = some i := by
  unfold nextHighlight
  rw [if_neg (Nat.ne_of_gt hn)]
  cases highlight with
  | none => exact ⟨0, hn, rfl⟩
  | some i => exact ⟨(i + 1) % n, Nat.mod_lt _ hn, rfl⟩

theorem calm_complete (highlight : Option Nat) (s : Session) (record : Record) :
    ∃ t turn, (complete highlight).alone o s record = ((t, turn), record) ∧ Calm s t turn := by
  rcases hoffered : offered s with - | ⟨only, - | ⟨second, rest⟩⟩
  · have hnone : (offered s).length ≠ 1 := by simp [hoffered]
    refine ⟨_, _, alone_complete hnone highlight record, ?_⟩
    have hmark : nextHighlight highlight (offered s).length = none := by
      rw [hoffered]
      rfl
    rw [hmark]
    exact .edited s.line
  · exact ⟨_, _, alone_complete_of_only hoffered highlight record, .edited _⟩
  · have hmany : 2 ≤ (offered s).length := by simp [hoffered]
    have hnot : (offered s).length ≠ 1 := by omega
    refine ⟨_, _, alone_complete hnot highlight record, ?_⟩
    obtain ⟨i, hi, hmark⟩ := nextHighlight_of_pos highlight (Nat.lt_of_lt_of_le Nat.two_pos hmany)
    rw [hmark]
    exact .marked hi hmany

theorem calm_acceptMarked (i : Nat) (s : Session) (record : Record) :
    ∃ t turn, (acceptMarked i).alone o s record = ((t, turn), record) ∧ Calm s t turn := by
  cases hmarked : (offered s)[i]? with
  | none => exact ⟨_, _, alone_acceptMarked_of_none hmarked record, .edited s.line⟩
  | some candidate => exact ⟨_, _, alone_acceptMarked hmarked record, .edited _⟩

/-- All that an event can come to: it asks for nothing, or a line is entered. -/
theorem step_cases (highlight : Option Nat) (event : Event) (s : Session) (record : Record) :
    (∃ t turn, (step highlight event).alone o s record = ((t, turn), record) ∧ Calm s t turn) ∨
    (highlight = none ∧ (step highlight event).alone o s record = enter.alone o s record) := by
  cases event with
  | other => exact .inl ⟨s, .ignored, Act.alone_pure .., .ignored⟩
  | key press =>
    rw [step]
    cases press.action with
    | ignore => exact .inl ⟨s, .ignored, Act.alone_pure .., .ignored⟩
    | quit => exact .inl ⟨s, .left, Act.alone_pure .., .left s.line⟩
    | interrupt =>
      refine .inl ⟨_, _, alone_interrupt s record, ?_⟩
      split
      · exact .left _
      · exact .edited _
    | edit key =>
      refine .inl ⟨_, _, ?_, .edited (s.line.press key)⟩
      rw [carryOut, Act.alone_bind, alone_changeLine, Act.alone_pure]
    | complete => exact .inl (calm_complete highlight s record)
    | submit =>
      cases highlight with
      | some i => exact .inl (calm_acceptMarked i s record)
      | none => exact .inr ⟨rfl, rfl⟩

/-! ## Events one after another -/

/-- How the prompt goes on after an event. -/
def proceed (highlight : Option Nat) (rest : List (Except String Event)) :
    Turn → Act Session (Except Failure Unit)
  | .ignored => follow highlight rest
  | .shown highlight => do
    redraw highlight
    follow highlight rest
  | .left => do
    print "\r\n"
    pure (.ok ())
  | .failed cause => pure (.error cause)

theorem follow_cons (highlight : Option Nat) (event : Event) (rest : List (Except String Event)) :
    follow highlight (.ok event :: rest) =
      (Act.perform .await >>= fun _ => step highlight event >>= proceed highlight rest) := by
  rw [follow]
  rfl

/-- Events up to one that ends the prompt, and the mark that they lead to. -/
def pass (highlight : Option Nat) :
    List Event → Act Session (Except (Except Failure Unit) (Option Nat))
  | [] => pure (.ok highlight)
  | event :: rest => do
    Act.perform .await
    match ← step highlight event with
    | .ignored => pass highlight rest
    | .shown highlight => do
      redraw highlight
      pass highlight rest
    | .left => do
      print "\r\n"
      pure (.error (.ok ()))
    | .failed cause => pure (.error (.error cause))

/-- The prompt goes on unless it has ended. -/
def resume (rest : List (Except String Event)) :
    Except (Except Failure Unit) (Option Nat) → Act Session (Except Failure Unit)
  | .ok highlight => follow highlight rest
  | .error result => pure result

theorem follow_append (highlight : Option Nat) (events : List Event)
    (rest : List (Except String Event)) :
    follow highlight (events.map .ok ++ rest) = pass highlight events >>= resume rest := by
  induction events generalizing highlight with
  | nil => rw [pass, pure_bind]; rfl
  | cons event events ih =>
    rw [List.map_cons, List.cons_append, follow_cons, pass]
    simp only [bind_assoc]
    congr 1
    funext _
    congr 1
    funext turn
    cases turn with
    | ignored => exact ih highlight
    | shown highlight =>
      rw [proceed, ih, bind_assoc]
    | left =>
      rw [proceed, bind_assoc]
      rfl
    | failed cause => rfl

/-- More events follow unless the prompt has ended. -/
def carry (more : List Event) : Except (Except Failure Unit) (Option Nat) →
    Act Session (Except (Except Failure Unit) (Option Nat))
  | .ok highlight => pass highlight more
  | .error result => pure (.error result)

theorem pass_append (highlight : Option Nat) (events more : List Event) :
    pass highlight (events ++ more) = pass highlight events >>= carry more := by
  induction events generalizing highlight with
  | nil => rw [pass, pure_bind]; rfl
  | cons event events ih =>
    rw [List.cons_append, pass, pass]
    simp only [bind_assoc]
    congr 1
    funext _
    congr 1
    funext turn
    cases turn with
    | ignored => exact ih highlight
    | shown highlight =>
      dsimp only
      rw [ih, bind_assoc]
    | left =>
      dsimp only
      rw [bind_assoc]
      rfl
    | failed cause => rfl

/-- The prompt from its start over some events, and the mark that they lead to. -/
def opening (events : List Event) : Act Session (Except (Except Failure Unit) (Option Nat)) := do
  rawMode true
  redraw none
  pass none events

/-- The prompt from there to its end. -/
def ending (rest : List (Except String Event)) (reached : Except (Except Failure Unit) (Option Nat)) :
    Act Session (Except Failure Unit) := do
  let result ← resume rest reached
  rawMode false
  pure result

theorem opening_append (events more : List Event) :
    opening (events ++ more) = opening events >>= carry more := by
  unfold opening
  simp only [bind_assoc, pass_append]

/-- The prompt over some events goes on from where these lead. -/
theorem run_append (events : List Event) (rest : List (Except String Event)) :
    run (events.map .ok ++ rest) = opening events >>= ending rest := by
  unfold run opening ending
  simp only [bind_assoc, follow_append]

end ScpiConsole.Prompt
