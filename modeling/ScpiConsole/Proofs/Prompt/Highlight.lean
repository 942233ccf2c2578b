import ScpiConsole.Proofs.Completion.Walk
import ScpiConsole.Proofs.Prompt.Events
import ScpiConsole.Proofs.Session.Books
/-!
# The marked candidate

A mark is an index into the candidates, which are computed anew after every event. It stays in step with
them: whatever was pressed, the candidate shown in reverse is the one that is accepted.

* `draw_marked` : the window on the candidates contains the marked one
* `Marks` : a mark stands for a candidate of several
* `marks_pass` : so it does after any events, and the screen shows it
* `alone_pass_tabs` : the completion key goes through the candidates in their order
* `marked_candidate_accepted` : all of this, for a prompt from its start
-/

namespace ScpiConsole.Prompt

open Session Completion

/-! ## The window -/

theorem styled_append (highlight : Option Nat) (n : Nat) (labels more : List String) :
    styled highlight n (labels ++ more) =
      styled highlight n labels ++ styled highlight (n + labels.length) more := by
  induction labels generalizing n with
  | nil => rfl
  | cons label rest ih =>
    rw [List.cons_append, styled, styled, ih, List.length_cons, Nat.add_right_comm, Nat.add_assoc,
      List.cons_append]

/-- Labels that are not marked are dimmed. -/
theorem styled_of_not_marked {i n : Nat} {labels : List String}
    (h : i < n ∨ n + labels.length ≤ i) : styled (some i) n labels = labels.map dimmed := by
  induction labels generalizing n with
  | nil => rfl
  | cons label rest ih =>
    rw [List.length_cons] at h
    have hother : some i ≠ some n := by
      intro heq
      obtain rfl := Option.some.inj heq
      omega
    rw [styled, if_neg hother, ih (by omega), List.map_cons]

/-- The parts of a list around one of its items, within a window on it. -/
theorem exists_window {α : Type} {items : List α} {i start size : Nat} (hi : i < items.length)
    (hstart : start ≤ i) (hstop : i < start + size) :
    ∃ before marked after, items[i]? = some marked ∧
      (items.drop start).take size = before ++ marked :: after ∧ start + before.length = i := by
  have hinside : i - start < ((items.drop start).take size).length := by
    rw [List.length_take, List.length_drop]
    omega
  have hitem : ((items.drop start).take size)[i - start] = items[i] := by
    rw [List.getElem_take, List.getElem_drop]
    congr 1
    omega
  refine ⟨((items.drop start).take size).take (i - start), items[i],
    ((items.drop start).take size).drop (i - start + 1), List.getElem?_eq_getElem hi, ?_, ?_⟩
  · rw [← hitem, List.getElem_cons_drop, List.take_append_drop]
  · rw [List.length_take]
    omega

/-- What is written to show some labels with one of them in reverse video and the others in gray. Each is
set off from the next by a blank, and an ellipsis may follow. -/
def marking (prompt input : String) (before : List String) (marked : String) (after : List String)
    (more : Bool) : String :=
  let gray (label : String) := "\x1b[38;5;8m" ++ label ++ "\x1b[39m"
  let labels := before.map gray ++ ("\x1b[7m" ++ marked ++ "\x1b[0m") :: after.map gray
  "\x1b[1G\x1b[K" ++ prompt ++ input ++ ("\x1b7   " ++
    (String.join (labels.map (· ++ " ")) ++ if more then "…" else "") ++ "\x1b8")

/-- The labels shown follow one another, at most as many as the window holds. The marked one is among them,
and an ellipsis tells that some follow. -/
theorem draw_marked {labels : List String} {i : Nat} (hi : i < labels.length) (prompt input : String) :
    ∃ hidden before marked after remaining,
      labels = hidden ++ (before ++ marked :: after) ++ remaining ∧
      hidden.length + before.length = i ∧ labels[i]? = some marked ∧
      (before ++ marked :: after).length ≤ windowSize ∧
      draw prompt input labels (some i) =
        marking prompt input before marked after (!remaining.isEmpty) := by
  have hsize : 0 < windowSize := by decide
  have hstart : windowStart (some i) ≤ i := by
    change i + 1 - windowSize ≤ i
    omega
  have hstop : i < windowStart (some i) + windowSize := by
    change i < i + 1 - windowSize + windowSize
    omega
  obtain ⟨before, marked, after, hmarked, hshown, hindex⟩ := exists_window hi hstart hstop
  generalize hfrom : windowStart (some i) = start at hstart hstop hshown hindex
  refine ⟨labels.take start, before, marked, after, labels.drop (start + windowSize), ?_, ?_, hmarked,
    ?_, ?_⟩
  · rw [← hshown, List.append_assoc, ← List.drop_drop, List.take_append_drop, List.take_append_drop]
  · rw [List.length_take, Nat.min_eq_left (by omega)]
    exact hindex
  · rw [← hshown]
    exact List.length_take_le ..
  · have hstyled : styled (some i) start ((labels.drop start).take windowSize) =
        before.map dimmed ++ reversed marked :: after.map dimmed := by
      rw [hshown, styled_append, styled_of_not_marked (.inr (Nat.le_of_eq hindex)), hindex, styled,
        if_pos rfl, styled_of_not_marked (.inl (Nat.lt_succ_self i))]
    have hmore : (!(labels.drop (start + windowSize)).isEmpty) =
        decide (start + windowSize < labels.length) := by
      rw [Bool.eq_iff_iff, decide_eq_true_iff, Bool.not_eq_true', List.isEmpty_eq_false_iff, Ne,
        List.drop_eq_nil_iff, Nat.not_le]
    have hsome : labels.isEmpty = false := by
      rw [List.isEmpty_eq_false_iff]
      exact List.ne_nil_of_length_pos (Nat.lt_of_le_of_lt (Nat.zero_le i) hi)
    unfold draw window marking
    rw [hfrom]
    dsimp only
    rw [hstyled, hmore, hsome]
    simp only [decide_eq_true_eq, Bool.false_eq_true, if_false]
    rfl

/-! ## The mark -/

/-- A mark stands for a candidate, of which there are several then. -/
def Marks (highlight : Option Nat) (s : Session) : Prop :=
  ∀ i, highlight = some i → i < (offered s).length ∧ 2 ≤ (offered s).length

theorem marks_none (s : Session) : Marks none s := fun i h => by cases h

/-- What was written last. -/
def lastShown (record : Record) : Option String := (printed record).getLast?

theorem lastShown_written (record : Record) (text : String) :
    lastShown (record ++ [written text]) = some text := by
  have hprinted : printed [written text] = [text] := rfl
  rw [lastShown, printed_append, hprinted, List.getLast?_concat]

theorem lastShown_awaited (record : Record) : lastShown (record ++ [awaited]) = lastShown record := by
  have hprinted : printed [awaited] = [] := rfl
  rw [lastShown, printed_append, hprinted, List.append_nil, lastShown]

variable {o : Oracle}

/-- After an event that changes something no candidate is marked, or one of several. -/
theorem Calm.marks {s t : Session} {highlight : Option Nat} (h : Calm s t (.shown highlight)) :
    Marks highlight t := by
  cases h with
  | edited line => exact marks_none _
  | marked hi hmany =>
    intro i hmark
    obtain rfl := Option.some.inj hmark
    exact ⟨hi, hmany⟩

/-- Where the events lead, the mark stands for a candidate and the screen shows it. -/
structure Reached (highlight : Option Nat) (s : Session) (record : Record) : Prop where
  marks : Marks highlight s
  screen : lastShown record = some (drawing highlight s)

theorem reached_redraw {highlight : Option Nat} {s : Session} (h : Marks highlight s)
    (record : Record) : Reached highlight s (record ++ [written (drawing highlight s)]) :=
  ⟨h, lastShown_written ..⟩

theorem Reached.await {highlight : Option Nat} {s : Session} {record : Record}
    (h : Reached highlight s record) : Reached highlight s (record ++ [awaited]) :=
  ⟨h.marks, (lastShown_awaited record).trans h.screen⟩

/-- All that follows an event: the prompt ends, nothing has changed, or the screen is drawn anew. -/
theorem pass_cons_cases {highlight : Option Nat} {s : Session} {record : Record}
    (h : Reached highlight s record) (event : Event) (rest : List Event) :
    let ended := (pass highlight (event :: rest)).alone o s record
    (∃ result, ended.1.2 = .error result) ∨
    ∃ mark t record', Reached mark t record' ∧ ended = (pass mark rest).alone o t record' := by
  rw [pass, Act.alone_bind, alone_await, Act.alone_bind]
  dsimp only
  rcases step_cases (o := o) highlight event s (record ++ [awaited]) with
    ⟨t, turn, hstep, hcalm⟩ | ⟨-, hstep⟩
  · rw [hstep]
    cases turn with
    | ignored =>
      cases hcalm
      exact .inr ⟨highlight, s, _, h.await, rfl⟩
    | shown mark =>
      dsimp only
      rw [Act.alone_bind, alone_redraw]
      exact .inr ⟨mark, t, _, reached_redraw hcalm.marks _, rfl⟩
    | left =>
      dsimp only
      rw [Act.alone_bind, alone_print, Act.alone_pure]
      exact .inl ⟨_, rfl⟩
    | failed cause => cases hcalm
  · rw [hstep, alone_enter]
    dsimp only
    generalize (work s.line.text).alone o _ _ = ended
    rcases ended.1.2 with cause | flow
    · simp only [Turn.ofFlow]
      rw [Act.alone_pure]
      exact .inl ⟨_, rfl⟩
    · cases flow with
      | quit =>
        simp only [Turn.ofFlow]
        rw [Act.alone_bind, alone_print, Act.alone_pure]
        exact .inl ⟨_, rfl⟩
      | goOn =>
        simp only [Turn.ofFlow]
        rw [Act.alone_bind, alone_redraw]
        exact .inr ⟨none, ended.1.1, _, reached_redraw (marks_none _) _, rfl⟩

theorem reached_pass (events : List Event) {highlight mark : Option Nat} {s : Session}
    {record : Record} (h : Reached highlight s record)
    (hmark : ((pass highlight events).alone o s record).1.2 = .ok mark) :
    Reached mark ((pass highlight events).alone o s record).1.1
      ((pass highlight events).alone o s record).2 := by
  induction events generalizing highlight s record with
  | nil =>
    rw [pass, Act.alone_pure] at hmark ⊢
    obtain rfl := Except.ok.inj hmark
    exact h
  | cons event rest ih =>
    rcases pass_cons_cases (o := o) h event rest with
      ⟨result, hended⟩ | ⟨mark', t, record', hreached, hended⟩
    · rw [hended] at hmark
      cases hmark
    · rw [hended] at hmark ⊢
      exact ih hreached hmark

/-! ## Keys for the candidates -/

/-- The completion key marks one candidate after another, and behind the last the first again. -/
theorem alone_pass_tabs {s : Session} (hmany : 2 ≤ (offered s).length) (tabs : List Press)
    (htabs : ∀ p ∈ tabs, p.action = .complete) {i : Nat} (hi : i < (offered s).length)
    (record : Record) :
    ((pass (some i) (tabs.map .key)).alone o s record).1 =
      (s, .ok (some ((i + tabs.length) % (offered s).length))) := by
  induction tabs generalizing i record with
  | nil =>
    rw [List.map_nil, pass, Act.alone_pure, List.length_nil, Nat.add_zero, Nat.mod_eq_of_lt hi]
  | cons tab rest ih =>
    obtain ⟨htab, hrest⟩ := List.forall_mem_cons.1 htabs
    have hnext : nextHighlight (some i) (offered s).length = some ((i + 1) % (offered s).length) := by
      unfold nextHighlight
      rw [if_neg (by omega)]
    have hlt : (i + 1) % (offered s).length < (offered s).length := Nat.mod_lt _ (by omega)
    have hnot : (offered s).length ≠ 1 := by omega
    rw [List.map_cons, pass, Act.alone_bind, alone_await, Act.alone_bind, step, htab, carryOut,
      alone_complete hnot, hnext]
    dsimp only
    rw [Act.alone_bind, alone_redraw]
    dsimp only
    rw [ih hrest hlt, Nat.mod_add_mod, List.length_cons, Nat.add_right_comm, Nat.add_assoc]

/-- The first one marks the first candidate. -/
theorem alone_pass_first_tab {s : Session} (hmany : 2 ≤ (offered s).length) {tab : Press}
    (htab : tab.action = .complete) (rest : List Event) (record : Record) :
    (pass none (.key tab :: rest)).alone o s record =
      (pass (some 0) rest).alone o s (record ++ [awaited] ++ [written (drawing (some 0) s)]) := by
  have hnext : nextHighlight none (offered s).length = some 0 := by
    unfold nextHighlight
    rw [if_neg (by omega)]
  have hnot : (offered s).length ≠ 1 := by omega
  rw [pass, Act.alone_bind, alone_await, Act.alone_bind, step, htab, carryOut,
    alone_complete hnot, hnext]
  dsimp only
  rw [Act.alone_bind, alone_redraw]

/-- The key that enters a line accepts the marked candidate instead. -/
theorem alone_pass_submit {s : Session} {i : Nat} {candidate : Candidate}
    (hmarked : (offered s)[i]? = some candidate) {press : Press} (hpress : press.action = .submit)
    (record : Record) :
    (pass (some i) [.key press]).alone o s record =
      ((accepting candidate s, .ok none),
        record ++ [awaited, written (drawing none (accepting candidate s))]) := by
  rw [pass, Act.alone_bind, alone_await, Act.alone_bind, step, hpress, carryOut,
    alone_acceptMarked hmarked]
  dsimp only
  rw [Act.alone_bind, alone_redraw, pass, Act.alone_pure, List.append_assoc]
  rfl

/-! ## The prompt from its start -/

theorem reached_opening {events : List Event} {mark : Option Nat} {s : Session} {record : Record}
    (hmark : ((opening events).alone o s record).1.2 = .ok mark) :
    Reached mark ((opening events).alone o s record).1.1 ((opening events).alone o s record).2 := by
  rw [opening, Act.alone_bind, alone_rawMode, Act.alone_bind, alone_redraw] at hmark ⊢
  exact reached_pass events (reached_redraw (marks_none s) _) hmark

theorem alone_opening_append {events : List Event} {mark : Option Nat} {s : Session} {record : Record}
    (hmark : ((opening events).alone o s record).1.2 = .ok mark) (more : List Event) :
    (opening (events ++ more)).alone o s record =
      (pass mark more).alone o ((opening events).alone o s record).1.1
        ((opening events).alone o s record).2 := by
  rw [opening_append, Act.alone_bind, hmark, carry]

/-- **The marked candidate.** Whatever the terminal has told, the prompt goes on with a mark, and the screen
shows input, candidates and mark as they are. A mark stands for one of several candidates. Its label is the
one in reverse, among at most eight that follow one another; an ellipsis tells that there are more behind
them. The key that enters a line accepts this candidate, and nothing is asked for but to wait and to draw.
Where no candidate of several is marked, the completion key marks the first, then the second and so on, and
behind the last the first again. -/
theorem marked_candidate_accepted (o : Oracle) (events : List Event) (s : Session) (record : Record)
    {mark : Option Nat} (hmark : ((opening events).alone o s record).1.2 = .ok mark) :
    let reached := (opening events).alone o s record
    let t := reached.1.1
    (∀ rest, (run (events.map .ok ++ rest)).alone o s record =
      (ending rest (.ok mark)).alone o t reached.2) ∧
    lastShown reached.2 = some (drawing mark t) ∧
    (∀ i, mark = some i → 2 ≤ (offered t).length ∧
      ∃ candidate, (offered t)[i]? = some candidate ∧
        let label := candidate.label t.preferences.preferShortScpi
        (∃ hidden before after remaining,
          labels t = hidden ++ (before ++ label :: after) ++ remaining ∧
          hidden.length + before.length = i ∧ (before ++ label :: after).length ≤ 8 ∧
          lastShown reached.2 =
            some (marking "sclipi> " t.line.text before label after (!remaining.isEmpty))) ∧
        let accepted := { t with line := t.line.accept candidate t.preferences.preferShortScpi }
        ∀ enter : Press, enter.action = .submit →
          (opening (events ++ [.key enter])).alone o s record =
            ((accepted, .ok none), reached.2 ++ [awaited, written (drawing none accepted)])) ∧
    (mark = none → 2 ≤ (offered t).length →
      ∀ (tab : Press) (more : List Press), (∀ p ∈ tab :: more, p.action = .complete) →
        ((opening (events ++ (tab :: more).map .key)).alone o s record).1 =
          (t, .ok (some (more.length % (offered t).length)))) := by
  intro reached t
  have hreached : Reached mark t reached.2 := reached_opening hmark
  have happend := alone_opening_append hmark
  refine ⟨fun rest => ?_, hreached.screen, fun i hi => ?_, fun hnone hmany tab more htabs => ?_⟩
  · rw [run_append, Act.alone_bind, hmark]
  · obtain ⟨hlt, hmany⟩ := hreached.marks i hi
    obtain ⟨candidate, hcandidate⟩ : ∃ candidate, (offered t)[i]? = some candidate :=
      ⟨_, List.getElem?_eq_getElem hlt⟩
    refine ⟨hmany, candidate, hcandidate, ?_, fun enter henter => ?_⟩
    · have hlabels : i < (labels t).length := by
        rw [length_labels]
        exact hlt
      obtain ⟨hidden, before, marked, after, remaining, hall, hindex, hmarked, hwindow, hdraw⟩ :=
        draw_marked hlabels Shell.prompt t.line.text
      have hlabel : marked = candidate.label t.preferences.preferShortScpi := by
        rw [labels, List.getElem?_map, hcandidate] at hmarked
        exact (Option.some.inj hmarked).symm
      subst hlabel hi
      exact ⟨hidden, before, after, remaining, hall, hindex, hwindow,
        hreached.screen.trans (congrArg some hdraw)⟩
    · subst hi
      rw [happend, alone_pass_submit hcandidate henter]
      rfl
  · subst hnone
    obtain ⟨htab, hmore⟩ := List.forall_mem_cons.1 htabs
    rw [happend, List.map_cons, alone_pass_first_tab hmany htab,
      alone_pass_tabs hmany more hmore (by omega), Nat.zero_add]

/-- A session with a colon on its line, behind which several branches begin. -/
def menu : Session := { grammar := some .oscilloscope, line := { text := ":" } }

theorem offered_menu : offered menu =
    [.mnemonic (.ranged "CHANnel" 1 4) true, .mnemonic (.ranged "CHANnel?" 1 8) false,
      .mnemonic (.ranged "MARKer" 1 12) true, .mnemonic (.plain "SYSTem") true] := by
  have hopen : Completable ":".toList := ⟨by decide, by decide, by decide⟩
  have hpath : Path.ofText ":".toList = ⟨[], []⟩ := rfl
  have hcontents : [Mnemonic.ranged "CHANnel" 1 4, .ranged "CHANnel?" 1 8, .ranged "MARKer" 1 12,
      .plain "SYSTem"] = Mnemonic.sortDistinct (Grammar.oscilloscope.paths.children.map Tree.content) := by
    refine Mnemonic.eq_sortDistinct (by decide) fun m => ?_
    simp [Grammar.oscilloscope, Tree.leaf]
  change candidates (some .oscilloscope) ":" false {} = _
  rw [candidates_eq_collect hopen rfl, hpath, continuations_nil, collect_eq]
  change (Mnemonic.sortDistinct (Grammar.oscilloscope.paths.children.map Tree.content)).map _ = _
  rw [← hcontents]
  rfl

/-- Four presses of the completion key mark the last candidate, and the key that enters a line accepts it. -/
theorem marked_candidate_accepted_menu :
    let tab : Press := { key := some .tab }
    let enter : Press := { key := some .enter }
    let tabs : List Event := [.key tab, .key tab, .key tab, .key tab]
    let marked := (opening tabs).alone (scripted [] 0) menu []
    let accepted := (opening (tabs ++ [.key enter])).alone (scripted [] 0) menu []
    marked.1 = (menu, .ok (some 3)) ∧
    lastShown marked.2 = some ("\x1b[1G\x1b[Ksclipi> :\x1b7   \x1b[38;5;8mCHANnel{1:4}\x1b[39m " ++
      "\x1b[38;5;8mCHANnel{1:8}?\x1b[39m \x1b[38;5;8mMARKer{1:12}\x1b[39m \x1b[7mSYSTem\x1b[0m \x1b8") ∧
    accepted.1.2 = .ok none ∧ accepted.1.1.line.text = ":SYSTem:" ∧
    ∃ drawn, accepted.2 = marked.2 ++ [awaited, written drawn] := by
  intro tab enter tabs marked accepted
  have hlength : (offered menu).length = 4 := by rw [offered_menu]; rfl
  have hstart : ((opening []).alone (scripted [] 0) menu []).1 = (menu, .ok none) := by
    rw [opening, Act.alone_bind, alone_rawMode, Act.alone_bind, alone_redraw, pass, Act.alone_pure]
  have hbegun := marked_candidate_accepted (scripted [] 0) [] menu [] (congrArg Prod.snd hstart)
  obtain ⟨-, -, -, htabs⟩ := hbegun
  rw [hstart, hlength] at htabs
  have hmark : marked.1 = (menu, .ok (some 3)) :=
    htabs rfl (by decide) tab [tab, tab, tab] fun p hp => by
      obtain rfl : p = tab := List.eq_of_mem_replicate (n := 4) hp
      rfl
  obtain ⟨-, hscreen, hmarked, -⟩ := marked_candidate_accepted (scripted [] 0) tabs menu []
    (congrArg Prod.snd hmark)
  change lastShown marked.2 = some (drawing (some 3) marked.1.1) at hscreen
  obtain ⟨-, candidate, hcandidate, -, hentered⟩ := hmarked 3 rfl
  change (offered marked.1.1)[3]? = some candidate at hcandidate
  have haccepted : accepted = _ := hentered enter rfl
  rw [hmark] at hscreen hcandidate
  rw [offered_menu] at hcandidate
  obtain rfl : Candidate.mnemonic (.plain "SYSTem") true = candidate := Option.some.inj hcandidate
  have hline : accepted.1.1.line = marked.1.1.line.accept (.mnemonic (.plain "SYSTem") true)
      marked.1.1.preferences.preferShortScpi := congrArg (·.1.1.line) haccepted
  rw [hmark] at hline
  refine ⟨hmark, hscreen.trans ?_, congrArg (·.1.2) haccepted, ?_, _, congrArg Prod.snd haccepted⟩
  · rw [drawing, labels, offered_menu]
    decide +kernel
  · rw [hline]
    decide +kernel

end ScpiConsole.Prompt
