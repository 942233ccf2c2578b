import ScpiConsole.Program
import ScpiConsole.Proofs.InputLine.RoundTrip
import ScpiConsole.Proofs.Prompt.Events
import ScpiConsole.Proofs.Session.Books
/-!
# Lines that are piped and lines that are typed

The shell takes its lines from a pipe, or key by key from a terminal. The prompt on the terminal shows a lot
more, but what it does is the same.

* `stretches` : what was written in each part of a record
* `keystrokes` : a line as it is typed
* `alone_pass_typing` : typing changes the input line and the screen
* `Alike` : two runs that differ in what the terminal is asked for
* `alike_lines` : the pipe and the prompt go through the same lines in the same way
* `piped_and_typed_agree` : so do whole runs of the shell
-/

namespace ScpiConsole

namespace Prompt

open Session

/-! ## Parts of a record -/

section

variable {opens closes : Effect → Bool}

/-- What was written behind each exchange that opens a part, up to one that closes it. -/
def stretches (opens closes : Effect → Bool) : Record → List (List String)
  | [] => []
  | x :: rest =>
    if opens x.effect then
      printed (rest.takeWhile fun y => !closes y.effect) :: stretches opens closes rest
    else stretches opens closes rest

theorem stretches_append_of_not_opens {before : Record} (h : ∀ x ∈ before, opens x.effect = false)
    (rest : Record) : stretches opens closes (before ++ rest) = stretches opens closes rest := by
  induction before with
  | nil => rfl
  | cons x before ih =>
    obtain ⟨hx, hbefore⟩ := List.forall_mem_cons.1 h
    rw [List.cons_append, stretches, hx, if_neg Bool.false_ne_true, ih hbefore]

/-- A part that is opened, and closed by what follows it. -/
theorem stretches_cons_append {x : Exchange} {inside rest : Record} (hx : opens x.effect = true)
    (hopens : ∀ y ∈ inside, opens y.effect = false) (hcloses : ∀ y ∈ inside, closes y.effect = false)
    (hrest : ∀ y ∈ rest.head?, closes y.effect = true) :
    stretches opens closes (x :: (inside ++ rest)) =
      printed inside :: stretches opens closes rest := by
  have hinside : ∀ y ∈ inside, (!closes y.effect) = true := fun y hy => by rw [hcloses y hy]; rfl
  have hend : rest.takeWhile (fun y => !closes y.effect) = [] :=
    Text.takeWhile_append_of_head [] fun y hy => by rw [hrest y hy]; rfl
  rw [stretches, if_pos hx, List.takeWhile_append_of_pos hinside, hend, List.append_nil,
    stretches_append_of_not_opens hopens]

theorem printed_takeWhile_concat {x : Exchange} (hsilent : printed? x = none)
    (p : Exchange → Bool) (record : Record) :
    printed ((record ++ [x]).takeWhile p) = printed (record.takeWhile p) := by
  induction record with
  | nil =>
    rw [List.nil_append, List.takeWhile_cons]
    split
    · exact List.filterMap_cons_none hsilent
    · rfl
  | cons y record ih =>
    rw [List.cons_append, List.takeWhile_cons, List.takeWhile_cons]
    split
    · change printed ([y] ++ _) = printed ([y] ++ _)
      rw [printed_append, printed_append, ih]
    · rfl

/-- Nothing is written behind the last opening. -/
theorem stretches_concat {x : Exchange} (hx : opens x.effect = true) (hsilent : printed? x = none)
    (record : Record) :
    stretches opens closes (record ++ [x]) = stretches opens closes record ++ [[]] := by
  induction record with
  | nil => exact if_pos hx
  | cons y record ih =>
    rw [List.cons_append, stretches, stretches, printed_takeWhile_concat hsilent, ih]
    split <;> rfl

end

def isAwait : Effect → Bool
  | .await => true
  | _ => false

def isPrompt : Effect → Bool
  | .print text => text == Shell.prompt
  | _ => false

def isSwitch (on : Bool) : Effect → Bool
  | .rawMode raw => raw == on
  | _ => false

/-- What each piped line wrote: from the wait for it up to the next prompt. -/
def pipedOutputs (record : Record) : List (List String) := stretches isAwait isPrompt record

/-- What each typed line wrote: while the terminal was not raw. -/
def typedOutputs (record : Record) : List (List String) := stretches (isSwitch false) (isSwitch true) record

theorem typedOutputs_concat (record : Record) :
    typedOutputs (record ++ [switched false]) = typedOutputs record ++ [[]] :=
  stretches_concat rfl rfl record

section

variable {inside rest : Record}

theorem isAwait_of_unmarked {e : Effect} (h : Shell.isMark e = false) : isAwait e = false := by
  cases e <;> first | rfl | cases h

theorem isPrompt_of_unmarked {e : Effect} (h : Shell.isMark e = false) : isPrompt e = false := by
  cases e <;> first | rfl | exact h

theorem isSwitch_of_unmarked {e : Effect} (h : Shell.isMark e = false) (on : Bool) :
    isSwitch on e = false := by
  cases e <;> first | rfl | cases h

theorem pipedOutputs_line (h : ∀ x ∈ inside, Shell.isMark x.effect = false)
    (hrest : ∀ x ∈ rest.head?, isPrompt x.effect = true) :
    pipedOutputs (written Shell.prompt :: awaited :: (inside ++ rest)) =
      printed inside :: pipedOutputs rest := by
  change stretches isAwait isPrompt (awaited :: (inside ++ rest)) = _
  exact stretches_cons_append rfl (fun x hx => isAwait_of_unmarked (h x hx))
    (fun x hx => isPrompt_of_unmarked (h x hx)) hrest

theorem typedOutputs_line {before : Record} (hbefore : ∀ x ∈ before, isSwitch false x.effect = false)
    (h : ∀ x ∈ inside, Shell.isMark x.effect = false) :
    typedOutputs (before ++ switched false :: (inside ++ switched true :: rest)) =
      printed inside :: typedOutputs rest := by
  have hon : typedOutputs (switched true :: rest) = typedOutputs rest := rfl
  rw [typedOutputs, stretches_append_of_not_opens hbefore, ← hon]
  refine stretches_cons_append rfl (fun x hx => isSwitch_of_unmarked (h x hx) false)
    (fun x hx => isSwitch_of_unmarked (h x hx) true) fun x hx => ?_
  obtain rfl := Option.some.inj hx
  rfl

end

/-! ## Typing -/

def keystroke (c : Char) : Event := .key { key := some (.char c) }

/-- A line as it is typed. -/
def keystrokes (line : String) : List Event :=
  line.toList.map keystroke ++ [.key { key := some .enter }]

variable {o : Oracle}

/-- What the terminal is asked for while one types. -/
def Idle (record : Record) : Prop :=
  ∀ x ∈ record, x.effect.onTerminal = true ∧ isSwitch false x.effect = false

theorem idle_cons {x : Exchange} {record : Record} (hterminal : x.effect.onTerminal = true)
    (hswitch : isSwitch false x.effect = false) (h : Idle record) : Idle (x :: record) :=
  List.forall_mem_cons.2 ⟨⟨hterminal, hswitch⟩, h⟩

/-- The session with one more character on its line. -/
def pressed (s : Session) (c : Char) : Session := { s with line := s.line.press (.char c) }

/-- Each character changes the input line, and the screen is drawn anew. -/
theorem alone_pass_typing (cs : List Char) (s : Session) (record : Record) :
    ∃ typing, Idle typing ∧ (pass none (cs.map keystroke)).alone o s record =
      ((cs.foldl pressed s, .ok none), record ++ typing) := by
  induction cs generalizing s record with
  | nil =>
    refine ⟨[], List.forall_mem_nil _, ?_⟩
    rw [List.map_nil, pass, Act.alone_pure, List.append_nil, List.foldl_nil]
  | cons c rest ih =>
    obtain ⟨typing, hidle, htyped⟩ := ih (pressed s c)
      (record ++ [awaited] ++ [written (drawing none (pressed s c))])
    refine ⟨awaited :: written (drawing none (pressed s c)) :: typing,
      idle_cons rfl rfl (idle_cons rfl rfl hidle), ?_⟩
    have haction : ({ key := some (.char c) } : Press).action = .edit (.char c) := rfl
    rw [List.map_cons, pass, keystroke, Act.alone_bind, alone_await, Act.alone_bind, step, haction,
      carryOut, Act.alone_bind, alone_changeLine, Act.alone_pure, ← pressed]
    dsimp only
    rw [Act.alone_bind, alone_redraw]
    dsimp only
    rw [htyped, List.append_assoc, List.append_assoc]
    rfl

theorem lineTaken_pressed (s : Session) {c : Char} (hc : Text.isControl c = false) :
    lineTaken (pressed s c) = lineTaken s := by
  rw [lineTaken, pressed, InputLine.press_char s.line hc]
  rfl

theorem text_pressed (s : Session) {c : Char} (hc : Text.isControl c = false) :
    (pressed s c).line.text.toList = s.line.text.toList ++ [c] := by
  rw [pressed, InputLine.press_char s.line hc]
  exact String.toList_push ..

theorem foldl_pressed {cs : List Char} (hcs : ∀ c ∈ cs, Text.isControl c = false) (s : Session) :
    lineTaken (cs.foldl pressed s) = lineTaken s ∧
      (cs.foldl pressed s).line.text.toList = s.line.text.toList ++ cs := by
  induction cs generalizing s with
  | nil => exact ⟨rfl, (List.append_nil _).symm⟩
  | cons c rest ih =>
    obtain ⟨hc, hrest⟩ := List.forall_mem_cons.1 hcs
    obtain ⟨htaken, htext⟩ := ih hrest (pressed s c)
    refine ⟨htaken.trans (lineTaken_pressed s hc), ?_⟩
    rw [List.foldl_cons, htext, text_pressed s hc, List.append_assoc]
    rfl

/-- On a line at rest, what is typed is the whole text, and nothing is left when it is taken. -/
theorem foldl_pressed_of_atRest {s : Session} (hrest : s.AtRest) {line : String}
    (hline : ∀ c ∈ line.toList, Text.isControl c = false) :
    lineTaken (line.toList.foldl pressed s) = s ∧ (line.toList.foldl pressed s).line.text = line := by
  obtain ⟨htaken, htext⟩ := foldl_pressed hline s
  refine ⟨htaken.trans ?_, ?_⟩
  · rw [lineTaken, hrest]
  · have hempty : s.line.text = "" := by
      rw [← hrest]
      rfl
    rw [hempty] at htext
    exact String.toList_inj.1 htext

/-! ## Execution -/

theorem printed_complaints (s : Session) : printed (Shell.complaints s) = [] := by
  refine List.filterMap_eq_nil_iff.2 fun x hx => ?_
  obtain ⟨n, -, rfl⟩ := List.mem_map.1 hx
  rfl

/-- A line that is executed after records that differ on the terminal only. -/
theorem alone_execute_unwatched (line : String) {s : Session} (hrest : s.AtRest)
    {before before' : Record} (h : offTerminal before' = offTerminal before) :
    ∃ t flow done, t.AtRest ∧ (∀ x ∈ done, Shell.isMark x.effect = false) ∧
      (Shell.execute line).alone o.unwatched s before = ((t, flow), before ++ done) ∧
      (work line).alone o.unwatched s before' =
        ((Shell.heard t, flow), before' ++ (done ++ Shell.complaints t)) := by
  obtain ⟨done, hdone, hdone'⟩ := (Shell.execute line).alone_unwatched (o := o) s h
  have hkept := (Shell.orderly_execute line).keeps_atRest.alone (o := o.unwatched) hrest before
  obtain ⟨more, hmore, hunmarked⟩ :=
    (Shell.orderly_execute line).asks.alone (o := o.unwatched) s before
  rw [hdone] at hmore hkept
  refine ⟨_, _, done, hkept, ?_, hdone, ?_⟩
  · rwa [List.append_cancel_left hmore]
  · rw [alone_work, hdone']
    dsimp only
    rw [Shell.alone_tellNotices, List.append_assoc]

/-! ## Line by line -/

/-- The session without the news that the operator has not seen yet. -/
def quiet (s : Session) : Session := { s with notices := none }

/-- From two records on, `n` piped lines and `n` typed ones come to the same. -/
structure Alike (n : Nat) (before before' : Record)
    (piped typed : (Session × Except Failure Unit) × Record) : Prop where
  result : piped.1.2 = typed.1.2
  session : quiet piped.1.1 = quiet typed.1.1
  records : ∃ more more', piped.2 = before ++ more ∧ typed.2 = before' ++ more' ∧
    (∀ x ∈ more.head?, isPrompt x.effect = true) ∧ offTerminal more = offTerminal more' ∧
    (pipedOutputs more).take n = typedOutputs more'

section

variable {n : Nat} {before before' idle : Record} {piped typed : (Session × Except Failure Unit) × Record}

theorem Idle.offTerminal_eq (h : Idle idle) : offTerminal idle = [] :=
  offTerminal_eq_nil fun x hx => (h x hx).1

theorem Idle.typedOutputs_append (h : Idle idle) (more : Record) :
    typedOutputs (idle ++ more) = typedOutputs more :=
  stretches_append_of_not_opens (fun x hx => (h x hx).2) more

/-- No line is executed any more. -/
theorem alike_ended (hidle : Idle idle) (hresult : piped.1.2 = typed.1.2)
    (hsession : quiet piped.1.1 = quiet typed.1.1) (hpiped : piped.2 = before)
    (htyped : typed.2 = before' ++ idle) : Alike n before before' piped typed := by
  refine ⟨hresult, hsession, [], idle, ?_, htyped, fun x hx => ?_, ?_, ?_⟩
  · rw [hpiped, List.append_nil]
  · cases hx
  · exact hidle.offTerminal_eq.symm
  · have houtputs := hidle.typedOutputs_append []
    rw [List.append_nil] at houtputs
    rw [houtputs]
    exact List.take_nil

theorem Alike.of_idle (hidle : Idle idle) (h : Alike n before (before' ++ idle) piped typed) :
    Alike n before before' piped typed := by
  obtain ⟨hresult, hsession, more, more', hmore, hmore', hhead, hoff, houtputs⟩ := h
  refine ⟨hresult, hsession, more, idle ++ more', hmore, ?_, hhead, ?_, ?_⟩
  · rw [hmore', List.append_assoc]
  · rw [offTerminal_append, hidle.offTerminal_eq, List.nil_append, hoff]
  · rw [hidle.typedOutputs_append, houtputs]

/-- A line goes before. What its executions differ in is no output, and goes to the terminal. -/
theorem Alike.cons {inside inside' : Record} (hidle : Idle idle)
    (hinside : ∀ x ∈ inside, Shell.isMark x.effect = false)
    (hinside' : ∀ x ∈ inside', Shell.isMark x.effect = false)
    (hprinted : printed inside = printed inside') (hasked : offTerminal inside = offTerminal inside')
    (h : Alike n (before ++ [written Shell.prompt, awaited] ++ inside)
      (before' ++ idle ++ [switched false] ++ inside' ++ [switched true]) piped typed) :
    Alike (n + 1) before before' piped typed := by
  obtain ⟨hresult, hsession, more, more', hmore, hmore', hhead, hoff, houtputs⟩ := h
  refine ⟨hresult, hsession, written Shell.prompt :: awaited :: (inside ++ more),
    idle ++ switched false :: (inside' ++ switched true :: more'), ?_, ?_, fun x hx => ?_, ?_, ?_⟩
  · rw [hmore]
    simp only [List.append_assoc, List.cons_append, List.nil_append]
  · rw [hmore']
    simp only [List.append_assoc, List.cons_append, List.nil_append]
  · obtain rfl := Option.some.inj hx
    exact beq_self_eq_true _
  · have hleft : offTerminal (written Shell.prompt :: awaited :: (inside ++ more)) =
        offTerminal (inside ++ more) := rfl
    have hright : offTerminal (switched false :: (inside' ++ switched true :: more')) =
        offTerminal (inside' ++ switched true :: more') := rfl
    have hon : offTerminal (switched true :: more') = offTerminal more' := rfl
    rw [hleft, offTerminal_append, offTerminal_append, hidle.offTerminal_eq, List.nil_append, hright,
      offTerminal_append, hon, hasked, hoff]
  · rw [pipedOutputs_line hinside hhead, typedOutputs_line (fun x hx => (hidle x hx).2) hinside',
      List.take_succ_cons, houtputs, hprinted]

end

/-- What the prompt does with a line that is typed and entered. -/
theorem alone_follow_line {line : String} (hline : ∀ c ∈ line.toList, Text.isControl c = false)
    {s : Session} (hrest : s.AtRest) (rest : List (Except String Event)) (before : Record) :
    ∃ idle, Idle idle ∧ (follow none ((keystrokes line).map .ok ++ rest)).alone o s before =
      let ended := (work line).alone o s (before ++ idle ++ [switched false])
      (proceed none rest (Turn.ofFlow ended.1.2)).alone o ended.1.1 (ended.2 ++ [switched true]) := by
  obtain ⟨typing, hidle, htyping⟩ := alone_pass_typing (o := o) line.toList s before
  obtain ⟨htaken, htext⟩ := foldl_pressed_of_atRest hrest hline
  generalize line.toList.foldl pressed s = typed at htyping htaken htext
  have hleaving : Idle (awaited :: leaving typed) :=
    idle_cons rfl rfl (idle_cons rfl rfl (idle_cons rfl rfl (List.forall_mem_nil _)))
  refine ⟨typing ++ awaited :: leaving typed, List.forall_mem_append.2 ⟨hidle, hleaving⟩, ?_⟩
  have hevents : (keystrokes line).map Except.ok ++ rest =
      (line.toList.map keystroke).map Except.ok ++
        (.ok (.key { key := some .enter }) :: rest : List (Except String Event)) := by
    rw [keystrokes, List.map_append, List.append_assoc]
    rfl
  have hsubmit : step none (.key { key := some .enter }) = enter := rfl
  have hbefore : before ++ typing ++ [awaited] ++ leaving typed =
      before ++ (typing ++ awaited :: leaving typed) := by
    simp only [List.append_assoc, List.cons_append, List.nil_append]
  rw [hevents, follow_append, Act.alone_bind, htyping]
  dsimp only
  rw [resume, follow_cons, Act.alone_bind, alone_await, Act.alone_bind, hsubmit, alone_enter, htaken,
    htext, hbefore]

theorem alone_askLine (s : Session) (record : Record) :
    Shell.askLine.alone o s record = ((s, ()), record ++ [written Shell.prompt, awaited]) := by
  rw [Shell.askLine, Act.alone_bind, alone_await, Act.alone_perform, List.append_assoc]
  rfl

/-- The pipe and the prompt go through the same lines in the same way. -/
theorem alike_lines {lines : List String}
    (hlines : ∀ line ∈ lines, ∀ c ∈ line.toList, Text.isControl c = false) {s : Session}
    (hrest : s.AtRest) {before before' : Record} (h : offTerminal before' = offTerminal before) :
    Alike lines.length before before'
      ((Shell.readLines (lines.map .ok)).alone o.unwatched s before)
      ((follow none ((lines.flatMap keystrokes).map .ok)).alone o.unwatched s before') := by
  induction lines generalizing s before before' with
  | nil =>
    rw [List.map_nil, List.flatMap_nil, List.map_nil, Shell.readLines, Act.alone_bind, alone_askLine,
      Act.alone_pure, follow, Act.alone_bind, alone_await, Act.alone_bind, alone_print, Act.alone_pure]
    refine ⟨rfl, rfl, _, [awaited, written "\r\n"], rfl, List.append_assoc .., fun x hx => ?_, rfl, rfl⟩
    obtain rfl := Option.some.inj hx
    exact beq_self_eq_true _
  | cons line rest ih =>
    obtain ⟨hline, hlines⟩ := List.forall_mem_cons.1 hlines
    obtain ⟨idle, hidle, hfollow⟩ := alone_follow_line (o := o.unwatched) hline hrest
      ((rest.flatMap keystrokes).map .ok) before'
    have hoff : offTerminal (before' ++ idle ++ [switched false]) =
        offTerminal (before ++ [written Shell.prompt, awaited]) := by
      rw [offTerminal_append, offTerminal_append, offTerminal_append, hidle.offTerminal_eq, h,
        List.append_nil]
      rfl
    obtain ⟨t, flow, done, hkept, hdone, hexecuted, hworked⟩ :=
      alone_execute_unwatched (o := o) line hrest hoff
    have htold : ∀ x ∈ done ++ Shell.complaints t, Shell.isMark x.effect = false :=
      List.forall_mem_append.2 ⟨hdone, Shell.unmarked_complaints t⟩
    rw [List.flatMap_cons, List.map_append, hfollow, hworked, List.map_cons, Shell.readLines,
      Act.alone_bind, alone_askLine, Act.alone_bind, hexecuted]
    dsimp only
    rcases flow with cause | flow
    · -- The prompt tells the news of a line that failed, and the pipe does not.
      have hprinted : printed done = printed (done ++ Shell.complaints t) := by
        rw [printed_append, printed_complaints, List.append_nil]
      have hasked : offTerminal done = offTerminal (done ++ Shell.complaints t) := by
        rw [offTerminal_append, Shell.offTerminal_complaints, List.append_nil]
      rw [Act.alone_pure, Turn.ofFlow, proceed, Act.alone_pure]
      refine Alike.cons hidle hdone htold hprinted hasked ?_
      exact alike_ended (List.forall_mem_nil _) rfl rfl rfl (List.append_nil _).symm
    · rw [Act.alone_bind, Shell.alone_tellNotices, List.append_assoc _ done]
      cases flow with
      | quit =>
        rw [if_pos rfl, Act.alone_pure, Turn.ofFlow, proceed, Act.alone_bind, alone_print, Act.alone_pure]
        have hnewline : Idle [written "\r\n"] := idle_cons rfl rfl (List.forall_mem_nil _)
        exact Alike.cons hidle htold htold rfl rfl (alike_ended hnewline rfl rfl rfl rfl)
      | goOn =>
        rw [if_neg (by decide), Turn.ofFlow, proceed, Act.alone_bind, alone_redraw]
        have hdrawn : Idle [written (drawing none (Shell.heard t))] :=
          idle_cons rfl rfl (List.forall_mem_nil _)
        have hon : offTerminal [switched true] = [] := rfl
        have hheard : (Shell.heard t).AtRest := atRest_of_line hkept rfl
        refine Alike.cons hidle htold htold rfl rfl (Alike.of_idle hdrawn (ih hlines hheard ?_))
        rw [offTerminal_append, offTerminal_append, offTerminal_append, hoff, hon, hdrawn.offTerminal_eq,
          List.append_nil, List.append_nil, ← offTerminal_append]

end Prompt

namespace Program

open Session Prompt

variable {o : Oracle}

/-! ## Whole runs -/

/-- Without a grammar there are no completions. -/
def warn (loaded : Bool) : Act Session Unit :=
  if loaded then pure ()
  else Act.say "No instrument grammar loaded; completion is unavailable."

/-- What the shell does before the first line. -/
def boot : Act Session Unit := do
  warn (← loadGrammar)
  loadConsole

theorem shell_piped (lines : List (Except IoError String)) :
    shell (.piped lines) = boot >>= fun _ => Shell.readLines lines := by
  unfold shell boot
  rw [bind_assoc]
  congr 1
  funext loaded
  cases loaded <;> rfl

theorem shell_terminal (events : List (Except String Prompt.Event)) :
    shell (.terminal events) = boot >>= fun _ => Prompt.run events := by
  unfold shell boot
  rw [bind_assoc]
  congr 1
  funext loaded
  cases loaded <;> rfl

theorem asks_boot : boot.Asks fun e => Shell.isMark e = false := by
  have hgrammar := Act.Asks.mono unseen_loadGrammar fun _ => Shell.isMark_of_offTerminal
  refine hgrammar.bind fun loaded => Act.Asks.bind ?_ fun _ => ?_
  · unfold warn
    split
    · exact Act.asks_pure _
    · exact (Shell.orderly_say _).asks
  · have hlog : Unseen (loadLog .interactive) :=
      (unseen_perform rfl).bind fun stored => Act.asks_modify _
    have hline : Unseen loadLine := (unseen_perform rfl).bind fun stored => Act.asks_modify _
    exact (hlog.bind fun _ => hline).mono fun _ => Shell.isMark_of_offTerminal

/-- The input line is at rest when it was just taken up. -/
theorem atRest_boot (s : Session) (record : Record) : (boot.alone o s record).1.1.AtRest := by
  rw [boot, Act.alone_bind, Act.alone_bind, loadConsole, Act.alone_bind, loadLine,
    Act.alone_bind, Act.alone_modify]
  rfl

/-- **Pipe and prompt.** Lines without control characters are piped into the shell, or typed and entered at
its prompt, one after another. The surroundings answer the same to the same: what they answer may depend on
all that was asked of server, store, clock and files, and only not on what the terminal was asked for. Then
both runs ask for the same, end in the same way, and leave the same session behind, up to news that was not
told. They execute the same lines, and each of these writes the same. -/
theorem piped_and_typed_agree (o : Oracle) (s : Session) {lines : List String}
    (hlines : ∀ line ∈ lines, ∀ c ∈ line.toList, Text.isControl c = false) :
    let piped := (shell (.piped (lines.map .ok))).alone o.unwatched s []
    let typed := (shell (.terminal ((lines.flatMap keystrokes).map .ok))).alone o.unwatched s []
    offTerminal piped.2 = offTerminal typed.2 ∧ piped.1.2 = typed.1.2 ∧
      { piped.1.1 with notices := none } = { typed.1.1 with notices := none } ∧
      (pipedOutputs piped.2).take lines.length = (typedOutputs typed.2).dropLast := by
  rw [shell_piped, shell_terminal, Act.alone_bind, Act.alone_bind]
  obtain ⟨begun, hbegun, hunmarked⟩ := asks_boot.alone (o := o.unwatched) s []
  have hrest := atRest_boot (o := o.unwatched) s []
  generalize boot.alone o.unwatched s [] = booted at hbegun hrest
  rw [List.nil_append] at hbegun
  have hoff : offTerminal (booted.2 ++ [switched true] ++ [written (drawing none booted.1.1)]) =
      offTerminal booted.2 := by
    have hon : offTerminal [switched true] = [] := rfl
    have hdrawn : offTerminal [written (drawing none booted.1.1)] = [] := rfl
    rw [offTerminal_append, offTerminal_append, hon, hdrawn, List.append_nil, List.append_nil]
  obtain ⟨hresult, hsession, more, more', hmore, hmore', -, hoff', houtputs⟩ :=
    alike_lines hlines hrest hoff
  rw [Prompt.run, Act.alone_bind, alone_rawMode, Act.alone_bind, alone_redraw, Act.alone_bind,
    Act.alone_bind, alone_rawMode, Act.alone_pure]
  dsimp only
  refine ⟨?_, hresult, hsession, ?_⟩
  · have hlast : offTerminal [switched false] = [] := rfl
    rw [hmore, hmore', offTerminal_append, offTerminal_append _ [switched false],
      offTerminal_append _ more', hoff, hlast, List.append_nil, hoff']
  · have hpiped : pipedOutputs (booted.2 ++ more) = pipedOutputs more := by
      refine stretches_append_of_not_opens (fun x hx => ?_) more
      rw [hbegun] at hx
      exact isAwait_of_unmarked (hunmarked x hx)
    have htyped : typedOutputs (booted.2 ++ [switched true] ++ [written (drawing none booted.1.1)] ++
        more') = typedOutputs more' := by
      rw [List.append_assoc booted.2]
      refine stretches_append_of_not_opens (List.forall_mem_append.2 ⟨fun x hx => ?_, ?_⟩) more'
      · rw [hbegun] at hx
        exact isSwitch_of_unmarked (hunmarked x hx) false
      · exact List.forall_mem_cons.2 ⟨rfl, List.forall_mem_singleton.2 rfl⟩
    rw [hmore, hmore', hpiped, houtputs, typedOutputs_concat, List.dropLast_concat, htyped]

/-- A command and an unknown directive. Then the shell is left, and one more command is not reached. -/
def visit : List String := ["*IDN?", "!what", "!quit", "*RST"]

/-- The lines are typed, and the instrument answers once. -/
@[irreducible]
def typedVisit : (Session × Except Failure Unit) × Record :=
  (shell (.terminal ((visit.flatMap keystrokes).map .ok))).alone
    (scripted [{ response := "ACME" }] 0).unwatched {} []

theorem piped_and_typed_agree_visit :
    (∀ line ∈ visit, ∀ c ∈ line.toList, Text.isControl c = false) ∧
    let piped := (shell (.piped (visit.map .ok))).alone
      (scripted [{ response := "ACME" }] 0).unwatched {} []
    offTerminal piped.2 = offTerminal typedVisit.2 ∧ piped.1.1.line.history.entries = ["*IDN?"] ∧
      (pipedOutputs piped.2).take 4 =
        [["[00:00:00] *IDN? ACME (0 ms)\n"], ["Unknown directive !what; try !help\n"], []] := by
  have hvisit : ∀ line ∈ visit, ∀ c ∈ line.toList, Text.isControl c = false := by
    have hall : visit.all fun line => line.toList.all fun c => !Text.isControl c := by decide
    intro line hline c hc
    simpa using List.all_eq_true.1 (List.all_eq_true.1 hall line hline) c hc
  have hagree := piped_and_typed_agree (scripted [{ response := "ACME" }] 0) {} hvisit
  rw [← typedVisit] at hagree
  obtain ⟨hoff, -, hsession, houtputs⟩ := hagree
  have hentries := congrArg (fun s : Session => s.line.history.entries) hsession
  have htyped : typedVisit.1.1.line.history.entries = ["*IDN?"] := by decide +kernel
  have hwritten : (typedOutputs typedVisit.2).dropLast =
      [["[00:00:00] *IDN? ACME (0 ms)\n"], ["Unknown directive !what; try !help\n"], []] := by
    decide +kernel
  exact ⟨hvisit, hoff, hentries.trans htyped, houtputs.trans hwritten⟩

end Program

end ScpiConsole
