import Mathlib.Data.Set.Subsingleton
import Mathlib.Logic.Relation
import ScpiConsole.Proofs.Session.Turns
/-!
# One command in flight

At a bench where tasks come and go in any order, one at most holds the guard, one request at most is
out, and one entry at most is pending. Who finds the guard taken leaves no trace.

* `Sound` : who holds the guard, and what the others have done; `Sound.step`, what one step preserves
* `Moves` : what one step does to the logs
* `one_command_in_flight` : what holds at every moment
-/

namespace ScpiConsole

open Session Relation

/-- What the record shows of a task. -/
def Stage.Tells (job : Job) (record : Record) : Stage → Prop
  | .ahead | .entering => record = []
  | .waiting _ _ | .leaving _ => True
  | .ended ending => job.Ends (calls record) ending

theorem Stage.Obeys.tells {T : Terms Session} {Q : Record → Session → Ending → Prop} {own record : Record}
    {s : Session} {stage : Stage} (h : stage.Obeys T Q own s) (job : Job) : stage.Tells job record := by
  cases h <;> trivial

namespace Bench

variable {ι κ : Type} [DecidableEq ι] [DecidableEq κ]

/-- Who holds the guard, and how far that task has come. -/
inductive Phase (tasks : κ → Task ι) (start b : Bench ι κ) : Option κ → Prop where
  | free (hbusy : b.common.busy = false) (hquiet : Quiet tasks start b) : Phase tasks start b none
  | entering {k : κ} (hbusy : b.common.busy = true) (hstage : b.stages k = .entering)
      (hquiet : Quiet tasks start b) : Phase tasks start b (some k)
  | working {k : κ} {before : Bench ι κ} {own : Record} (h : Working tasks start b k before own) :
      Phase tasks start b (some k)

/-- The holder is the only one that holds the guard, and every other task has its record. -/
structure Sound (tasks : κ → Task ι) (start b : Bench ι κ) (holder : Option κ) : Prop where
  holds : ∀ k, (b.stages k).Holds ↔ holder = some k
  phase : Phase tasks start b holder
  tells : ∀ k, (b.stages k).Tells (tasks k).job (b.exchangesOf k)

variable {tasks : κ → Task ι} {start b b' before : Bench ι κ} {k : κ} {own : Record}
  {holder : Option κ}

theorem Phase.busy (h : Phase tasks start b holder) : b.common.busy = holder.isSome := by
  cases h with
  | free hbusy => exact hbusy
  | entering hbusy => exact hbusy
  | @working k before own h =>
    obtain ⟨p, more, hstands, -⟩ := h.obeys.page
    exact congrArg Books.busy hstands.books

/-! ## Steps that change no books -/

omit [DecidableEq κ] in
/-- Who finds the guard taken changes nothing. -/
theorem sit_held_of_busy (i : ι) (h : b.common.busy = true) : b.sit i (b.seat i).held = b := by
  rw [held_of_busy h, sit_seat]

/-- The books and the record are the same. -/
structure Alike (b b' : Bench ι κ) : Prop where
  busy : b'.common.busy = b.common.busy
  ids : b'.common.ids = b.common.ids
  notices : b'.common.notices = b.common.notices
  logs : b'.logs = b.logs
  record : b'.record = b.record

omit [DecidableEq ι] [DecidableEq κ] in
theorem Alike.books (h : Alike b b') (i : ι) : (b'.seat i).books = (b.seat i).books := by
  rw [books_seat, books_seat, h.busy, h.ids, h.notices, h.logs]

theorem Phase.of_alike (h : Phase tasks start b holder) (hlike : Alike b b')
    (hstage : ∀ k, holder = some k → b'.stages k = b.stages k) : Phase tasks start b' holder := by
  cases h with
  | free hbusy hquiet =>
    exact .free (hlike.busy.trans hbusy) (hquiet.congr hlike.logs hlike.ids hlike.record)
  | @entering k hbusy hentering hquiet =>
    exact .entering (hlike.busy.trans hbusy) ((hstage k rfl).trans hentering)
      (hquiet.congr hlike.logs hlike.ids hlike.record)
  | @working k before own h =>
    have hworking : Working tasks start b' k before own := by
      refine { h with follows := hlike.record.trans h.follows, others := fun j hj => ?_, obeys := ?_ }
      · rw [hlike.logs]
        exact h.others j hj
      · rw [hstage k rfl]
        exact h.obeys.of_books (hlike.books _)
    exact .working hworking

/-- Who is turned away leaves no trace. -/
theorem Sound.turnAway (h : Sound tasks start b holder) (hk : b.stages k = .ahead) {ending : Ending}
    (hending : ending.TurnedAway) : Sound tasks start (b.setStage k (.ended ending)) holder := by
  -- Who is yet to begin does not hold the guard, so the holder is another task.
  have hholder : ∀ l, holder = some l → l ≠ k := by
    rintro l hl rfl
    have hholds := (h.holds l).2 hl
    rw [hk] at hholds
    exact hholds
  refine ⟨fun l => ?_, h.phase.of_alike ⟨rfl, rfl, rfl, rfl, rfl⟩ fun l hl => ?_, fun l => ?_⟩
  · by_cases hl : l = k
    · subst hl
      rw [stages_setStage]
      exact ⟨False.elim, fun hl => hholder l hl rfl⟩
    · rw [stages_setStage_of_ne hl]
      exact h.holds l
  · exact stages_setStage_of_ne (hholder l hl)
  · have hl' := h.tells l
    by_cases hl : l = k
    · subst hl
      rw [hk] at hl'
      change b.exchangesOf l = [] at hl'
      rw [stages_setStage]
      change Job.Ends _ (calls (b.exchangesOf l)) ending
      rw [hl']
      exact .turnedAway hending
    · rw [stages_setStage_of_ne hl]
      exact hl'

theorem Sound.aside (h : Sound tasks start b holder) {i : ι} {s : Session}
    (hs : s.books = (b.seat i).books) : Sound tasks start (b.sit i s) holder where
  holds := h.holds
  phase := by
    refine h.phase.of_alike ⟨congrArg Books.busy hs, congrArg Books.ids hs, congrArg Books.notices hs,
      logs_sit (congrArg Books.logs hs), rfl⟩ fun _ _ => rfl
  tells := h.tells

/-! ## Turns -/

/-- Only the task whose turn it is does its part. -/
theorem Sound.of_turn {holder' : Option κ} (h : Sound tasks start b holder)
    (hholder : ∀ l, holder = some l → l = k) (hstage : ∀ l, l ≠ k → b'.stages l = b.stages l)
    (hown : ∀ l, l ≠ k → b'.exchangesOf l = b.exchangesOf l) (hphase : Phase tasks start b' holder')
    (hholder' : ∀ l, holder' = some l → l = k) (hholds : (b'.stages k).Holds ↔ holder' = some k)
    (htells : (b'.stages k).Tells (tasks k).job (b'.exchangesOf k)) : Sound tasks start b' holder' where
  holds l := by
    by_cases hl : l = k
    · subst hl
      exact hholds
    · rw [hstage l hl, h.holds l]
      exact iff_of_false (fun h => hl (hholder l h)) fun h => hl (hholder' l h)
  phase := hphase
  tells l := by
    by_cases hl : l = k
    · subst hl
      exact htells
    · rw [hstage l hl, hown l hl]
      exact h.tells l

theorem Sound.holder_eq (h : Sound tasks start b holder) (hk : (b.stages k).Holds) :
    holder = some k := (h.holds k).1 hk

theorem Sound.claim (h : Sound tasks start b holder) (hk : b.stages k = .ahead)
    (hfree : b.common.busy = false) :
    Sound tasks start ((b.sit (tasks k).desk (b.seat (tasks k).desk).held).setStage k .entering)
      (some k) := by
  obtain rfl : holder = none := by simpa [hfree] using h.phase.busy.symm
  have htells := h.tells k
  rw [hk] at htells
  cases h.phase with
  | free _ hquiet =>
    have hquiet : Quiet tasks start (b.sit (tasks k).desk (b.seat (tasks k).desk).held) :=
      hquiet.congr (logs_sit rfl) rfl rfl
    refine h.of_turn (k := k) (fun _ hl => by cases hl) (fun l hl => stages_setStage_of_ne hl)
      (fun _ _ => rfl) (.entering rfl stages_setStage (hquiet.congr rfl rfl rfl))
      (fun _ hl => (Option.some.inj hl).symm) ?_ ?_
    · rw [stages_setStage]
      exact iff_of_true trivial rfl
    · rw [stages_setStage]
      exact htells

theorem logs_goOn_of_ne {t : Talk Session Ending} {j : ι} (h : j ≠ (tasks k).desk) :
    (b.goOn tasks k t).logs j = b.logs j := by
  cases t <;> exact logs_sit_of_ne h

variable (tasks b k) in
/-- A task that works on keeps the terms. -/
theorem obeys_goOn {T : Terms Session} {Q : Record → Session → Ending → Prop} {s₀ : Session}
    {t : Talk Session Ending} (h : t.Obeys T Q own s₀) :
    ((b.goOn tasks k t).stages k).Obeys T Q own ((b.goOn tasks k t).seat (tasks k).desk) ∧
      T.guarantee s₀ ((b.goOn tasks k t).seat (tasks k).desk) := by
  cases h with
  | done hs hq =>
    rw [goOn, stages_setStage, seat_setStage, seat_sit]
    exact ⟨.leaving hq, hs⟩
  | ask hs hw hnext =>
    rw [goOn, stages_setStage, seat_setStage, seat_sit]
    exact ⟨.waiting hw hnext, hs⟩

theorem exchangesOf_goOn_of_ne {t : Talk Session Ending} {event : Event κ} (hevent : event.task = k)
    {l : κ} (hl : l ≠ k) : ((b.note event).goOn tasks k t).exchangesOf l = b.exchangesOf l := by
  rw [exchangesOf, record_goOn]
  exact exchangesOf_note_of_ne fun h => hl (h.symm.trans hevent)

/-- A task that is at work after a step. -/
theorem Sound.of_working {t : Talk Session Ending} {event : Event κ} (hevent : event.task = k)
    (h : Sound tasks start b (some k))
    (hworking : Working tasks start ((b.note event).goOn tasks k t) k before own) :
    Sound tasks start ((b.note event).goOn tasks k t) (some k) :=
  h.of_turn (fun _ hl => (Option.some.inj hl).symm) (fun _ hl => stages_goOn_of_ne hl)
    (fun _ hl => exchangesOf_goOn_of_ne hevent hl) (.working hworking)
    (fun _ hl => (Option.some.inj hl).symm) (iff_of_true hworking.obeys.holds rfl)
    (hworking.obeys.tells _)

/-- What a task that goes to work finds, and what it then is bound to. -/
theorem Sound.entering (h : Sound tasks start b holder) (hk : b.stages k = .entering) :
    Quiet tasks start b ∧
    ((tasks k).job.work (b.seat (tasks k).desk)).Obeys
      (terms (ground tasks b k) (tasks k).job.mode) ((tasks k).job.Done (ground tasks b k)) []
      (opened (tasks k).job.mode (b.seat (tasks k).desk)) := by
  obtain rfl := h.holder_eq (k := k) (by rw [hk]; trivial)
  cases h.phase with
  | entering hbusy _ hquiet => exact ⟨hquiet, (tasks k).job.obeys_work hbusy (hquiet.fresh _)⟩
  | working hworking =>
    have hobeys := hworking.obeys
    rw [hk] at hobeys
    cases hobeys

/-- What a task that waits is bound to. -/
theorem Sound.waiting (h : Sound tasks start b holder) {e : Effect}
    {next : Session → e.Answer → Talk Session Ending} (hk : b.stages k = .waiting e next) :
    ∃ before own, Working tasks start b k before own ∧
      ∀ a, (terms (ground tasks before k) (tasks k).job.mode).covers (own ++ [⟨e, a⟩]) →
        (next (b.seat (tasks k).desk) a).Obeys (terms (ground tasks before k) (tasks k).job.mode)
          ((tasks k).job.Done (ground tasks before k)) (own ++ [⟨e, a⟩]) (b.seat (tasks k).desk) := by
  obtain rfl := h.holder_eq (k := k) (by rw [hk]; trivial)
  cases h.phase with
  | entering _ hstage => cases hk.symm.trans hstage
  | @working _ before own hworking =>
    have hobeys := hworking.obeys
    rw [hk] at hobeys
    cases hobeys with
    | waiting _ hnext => exact ⟨before, own, hworking, fun a => hnext _ a rfl⟩

/-- What a task that is done has done. -/
theorem Sound.leaving (h : Sound tasks start b holder) {ending : Ending}
    (hk : b.stages k = .leaving ending) :
    ∃ before own, Working tasks start b k before own ∧
      (tasks k).job.Done (ground tasks before k) own (b.seat (tasks k).desk) ending := by
  obtain rfl := h.holder_eq (k := k) (by rw [hk]; trivial)
  cases h.phase with
  | entering _ hstage => cases hk.symm.trans hstage
  | @working _ before own hworking =>
    have hobeys := hworking.obeys
    rw [hk] at hobeys
    cases hobeys with
    | leaving hq => exact ⟨before, own, hworking, hq⟩

theorem Sound.enter (h : Sound tasks start b holder) (hk : b.stages k = .entering) :
    Sound tasks start
      ((b.note (.entered k)).goOn tasks k ((tasks k).job.work (b.seat (tasks k).desk))) (some k) := by
  obtain ⟨hquiet, hobeys⟩ := h.entering hk
  have htells := h.tells k
  obtain rfl := h.holder_eq (k := k) (by rw [hk]; trivial)
  rw [hk] at htells
  have hworking : Working tasks start
      ((b.note (.entered k)).goOn tasks k ((tasks k).job.work (b.seat (tasks k).desk))) k b [] :=
    { quiet := hquiet
      first := htells
      follows := record_goOn
      others := fun j hj => logs_goOn_of_ne hj
      obeys := (obeys_goOn tasks _ k hobeys).1 }
  exact h.of_working rfl hworking

theorem Sound.answer (h : Sound tasks start b holder) {e : Effect}
    {next : Session → e.Answer → Talk Session Ending} (hk : b.stages k = .waiting e next) (a : e.Answer)
    (hleft : Lasts start (b.note (.asked k ⟨e, a⟩))) :
    Sound tasks start
      ((b.note (.asked k ⟨e, a⟩)).goOn tasks k (next (b.seat (tasks k).desk) a)) (some k) := by
  obtain ⟨before, own, hworking, hnext⟩ := h.waiting hk
  obtain rfl := h.holder_eq (k := k) (by rw [hk]; trivial)
  have hfollows := hworking.follows.asked ⟨e, a⟩
  have hobeys := hnext a (hworking.quiet.covers hfollows.exchanges_eq hleft)
  exact h.of_working rfl
    { quiet := hworking.quiet
      first := hworking.first
      follows := record_goOn.trans hfollows
      others := fun j hj => (logs_goOn_of_ne hj).trans (hworking.others j hj)
      obeys := (obeys_goOn tasks _ k hobeys).1 }

theorem Sound.release (h : Sound tasks start b holder) {ending : Ending}
    (hk : b.stages k = .leaving ending) (hleft : Lasts start b) :
    Sound tasks start
      ((b.sit (tasks k).desk (b.seat (tasks k).desk).freed).setStage k (.ended ending)) none := by
  obtain ⟨before, own, hworking, p, hp, hstands, hends, -⟩ := h.leaving hk
  obtain rfl := h.holder_eq (k := k) (by rw [hk]; trivial)
  have hquiet : Quiet tasks start (b.sit (tasks k).desk (b.seat (tasks k).desk).freed) :=
    (hworking.quiet_of_leaving hk hleft).congr (logs_sit rfl) rfl rfl
  have hown : b.exchangesOf k = own := by
    rw [hworking.follows.exchangesOf_eq, hworking.first, List.nil_append]
  refine h.of_turn (k := k) (fun _ hl => (Option.some.inj hl).symm)
    (fun l hl => stages_setStage_of_ne hl) (fun _ _ => rfl) (.free rfl (hquiet.congr rfl rfl rfl))
    (fun _ hl => by cases hl) ?_ ?_
  · rw [stages_setStage]
    exact iff_of_false id fun h => by cases h
  · rw [stages_setStage]
    change Job.Ends _ (calls (b.exchangesOf k)) ending
    rw [hown, hstands.calls]
    exact hends

/-! ## Steps -/

theorem Sound.step (h : Sound tasks start b holder) (hstep : b.Step tasks b') (hleft : Lasts start b') :
    ∃ holder', Sound tasks start b' holder' := by
  cases hstep with
  | reject hk => exact ⟨holder, h.turnAway hk trivial⟩
  | @claim k hk =>
    cases hbusy : b.common.busy with
    | false => exact ⟨_, h.claim hk hbusy⟩
    | true =>
      rw [sit_held_of_busy _ hbusy]
      exact ⟨_, h.turnAway hk trivial⟩
  | enter hk => exact ⟨_, h.enter hk⟩
  | answer hk a =>
    refine ⟨_, h.answer hk a ?_⟩
    rwa [Lasts, exchanges, record_goOn] at hleft
  | release hk => exact ⟨_, h.release hk hleft⟩
  | aside i s hs => exact ⟨_, h.aside hs⟩

/-- What a step does to the logs. Entries stay, at most settled, and new ones come at the end; only a
run begins by clearing its log. Who is turned away leaves everything as it is. -/
structure Moves (tasks : κ → Task ι) (b b' : Bench ι κ) : Prop where
  grows : ∀ i mode, Grows (b.logs i mode) (b'.logs i mode) ∨
    ∃ k, b'.record = b.record ++ [.entered k] ∧ (tasks k).At i .script ∧ mode = .script
  turnedAway : ∀ k ending, b'.stages k = .ended ending → ending.TurnedAway →
    b.stages k = .ended ending ∨ b'.common = b.common ∧ b'.desks = b.desks ∧ b'.record = b.record

omit [DecidableEq ι] in
theorem moves_of_logs (hlogs : b'.logs = b.logs) (hstage : ∀ l, l ≠ k → b'.stages l = b.stages l)
    (hk : ∀ ending, b'.stages k = .ended ending → ending.TurnedAway →
      b'.common = b.common ∧ b'.desks = b.desks ∧ b'.record = b.record) : Moves tasks b b' where
  grows i mode := .inl (hlogs ▸ .refl _)
  turnedAway l ending hl hending := by
    by_cases h : l = k
    · subst h
      exact .inr (hk ending hl hending)
    · exact .inl (hstage l h ▸ hl)

theorem moves_goOn {t : Talk Session Ending} {event : Event κ}
    (hdesk : ∀ mode, Grows (b.logs (tasks k).desk mode)
        (((b.note event).goOn tasks k t).logs (tasks k).desk mode) ∨
      event = .entered k ∧ (tasks k).job.mode = .script ∧ mode = .script) :
    Moves tasks b ((b.note event).goOn tasks k t) where
  grows i mode := by
    by_cases hi : i = (tasks k).desk
    · subst hi
      refine (hdesk mode).imp_right ?_
      rintro ⟨rfl, hmode, hscript⟩
      exact ⟨k, record_goOn, ⟨rfl, hmode⟩, hscript⟩
    · rw [logs_goOn_of_ne hi]
      exact .inl (.refl _)
  turnedAway l ending hl _ := by
    by_cases h : l = k
    · subst h
      cases t <;> simp [goOn] at hl
    · rw [stages_goOn_of_ne h] at hl
      exact .inl hl

theorem Sound.moves (h : Sound tasks start b holder) (hstep : b.Step tasks b')
    (hleft : Lasts start b') : Moves tasks b b' := by
  cases hstep with
  | reject hk =>
    exact moves_of_logs rfl (fun _ hl => stages_setStage_of_ne hl) fun _ _ _ => ⟨rfl, rfl, rfl⟩
  | @claim k hk =>
    refine moves_of_logs (k := k) (logs_sit rfl) (fun _ hl => stages_setStage_of_ne hl) ?_
    rintro ending hending -
    cases hbusy : b.common.busy with
    | false =>
      rw [hbusy, stages_setStage] at hending
      cases hending
    | true =>
      rw [sit_held_of_busy _ hbusy]
      exact ⟨rfl, rfl, rfl⟩
  | @enter k hk =>
    obtain ⟨-, hobeys⟩ := h.entering hk
    have hgrows := (obeys_goOn tasks (b.note (.entered k)) k hobeys).2
    refine moves_goOn fun mode => ?_
    -- Only a run clears a log, its own, before the terms begin to hold.
    by_cases hmode : (tasks k).job.mode = .script ∧ mode = .script
    · exact .inr ⟨rfl, hmode⟩
    · have hlog := hgrows mode
      rw [logs_opened hmode] at hlog
      exact .inl hlog
  | @answer k e next hk a =>
    obtain ⟨before, own, hworking, hnext⟩ := h.waiting hk
    have hfollows := hworking.follows.asked ⟨e, a⟩
    rw [Lasts, exchanges, record_goOn] at hleft
    have hobeys := hnext a (hworking.quiet.covers hfollows.exchanges_eq hleft)
    exact moves_goOn fun mode => .inl ((obeys_goOn tasks (b.note (.asked k ⟨e, a⟩)) k hobeys).2 mode)
  | @release k ending hk =>
    obtain ⟨before, own, -, p, -, -, -, hending⟩ := h.leaving hk
    refine moves_of_logs (k := k) (logs_sit rfl) (fun _ hl => stages_setStage_of_ne hl) ?_
    intro ending' hended hturned
    rw [stages_setStage] at hended
    cases hended
    exact absurd hturned hending
  | aside i s hs =>
    exact ⟨fun j mode => .inl (logs_sit (congrArg Books.logs hs) ▸ .refl _), fun _ _ hl _ => .inl hl⟩

/-! ## Moments -/

theorem record_of_step (hstep : b.Step tasks b') : ∃ more, b'.record = b.record ++ more := by
  cases hstep with
  | enter | answer => exact ⟨_, record_goOn⟩
  | reject | claim | release | aside => exact ⟨[], (List.append_nil _).symm⟩

theorem Lasts.of_step (hstep : b.Step tasks b') (h : Lasts start b') : Lasts start b := by
  obtain ⟨more, hmore⟩ := record_of_step hstep
  rw [Lasts, exchanges, hmore, List.filterMap_append, taken_append] at h
  exact Nat.lt_of_le_of_lt (Nat.add_le_add_left (Nat.le_add_right _ _) _) h

/-- The tasks are yet to begin, and no log has a number that is yet to come. -/
structure Ready (start : Bench ι κ) : Prop where
  free : start.common.busy = false
  ahead : ∀ k, start.stages k = .ahead
  record : start.record = []
  fresh : ∀ i mode, (start.seat i).books.Fresh mode

theorem Ready.sound (h : Ready start) : Sound tasks start start none where
  holds k := by
    rw [h.ahead]
    exact iff_of_false id fun h => by cases h
  phase := by
    refine .free h.free ⟨fun i mode => ⟨[], ?_⟩, h.fresh, ?_⟩
    · rw [account, h.record]
      exact ⟨(List.append_nil _).symm, booked_nil⟩
    · rw [exchanges, h.record]
      rfl
  tells k := by
    rw [h.ahead, exchangesOf, h.record]
    rfl

theorem Ready.sound_of_reached (hready : Ready start) (h : ReflTransGen (Step tasks) start b)
    (hleft : Lasts start b) : ∃ holder, Sound tasks start b holder := by
  induction h with
  | refl => exact ⟨none, hready.sound⟩
  | tail _ hstep ih =>
    obtain ⟨holder, h⟩ := ih (hleft.of_step hstep)
    exact h.step hstep hleft

/-- Where entries of tasks are pending: a desk, a mode, and a place in the log. -/
def pending (tasks : κ → Task ι) (start b : Bench ι κ) : Set (ι × Mode × Nat) :=
  { x | (account tasks start b x.1 x.2.1).kept.length ≤ x.2.2 ∧
    ∃ e, (b.logs x.1 x.2.1)[x.2.2]? = some e ∧ e.isPending = true }

/-- What holds of a bench at every moment. -/
structure OneInFlight (tasks : κ → Task ι) (start b : Bench ι κ) : Prop where
  /-- The guard is taken exactly while a task holds it. -/
  busy : b.common.busy = true ↔ ∃ k, (b.stages k).Holds
  holder : { k | (b.stages k).Holds }.Subsingleton
  /-- One request at most is out. -/
  outgoing : { k | (b.stages k).outgoing.isSome }.Subsingleton
  /-- One entry at most is pending. -/
  pending : (Bench.pending tasks start b).Subsingleton
  /-- A log has one settled block for each command that went out for it. The last one may be under
  way, in the hands of the task that holds the guard. -/
  logs : ∀ i mode, ∃ new, b.logs i mode = (account tasks start b i mode).kept ++ new ∧
    (Booked (account tasks start b i mode).delivered new ∨
      ∃ k, (b.stages k).Holds ∧ (tasks k).At i mode ∧
        InHand (account tasks start b i mode).delivered (b.stages k).outgoing new)
  /-- A task that is turned away asked for nothing. A command that is sent went out once, and a run
  accounts for its lines. -/
  ended : ∀ k ending, b.stages k = .ended ending →
    (tasks k).job.Ends (calls (b.exchangesOf k)) ending

theorem Sound.log (h : Sound tasks start b holder) (i : ι) (mode : Mode) :
    ∃ new, b.logs i mode = (account tasks start b i mode).kept ++ new ∧
      (Booked (account tasks start b i mode).delivered new ∨
        ∃ k, (b.stages k).Holds ∧ (tasks k).At i mode ∧
          InHand (account tasks start b i mode).delivered (b.stages k).outgoing new) := by
  cases h.phase with
  | free _ hquiet => exact (hquiet.booked i mode).imp fun _ hnew => hnew.imp_right .inl
  | entering _ _ hquiet => exact (hquiet.booked i mode).imp fun _ hnew => hnew.imp_right .inl
  | @working k before own hworking =>
    obtain ⟨p, more, hstands, hin⟩ := hworking.obeys.page
    by_cases hat : (tasks k).At i mode
    · obtain ⟨ds, new, hbooked, hlog, hdelivered⟩ := hworking.log_of_at hstands hat
      rw [hdelivered]
      exact ⟨_, hlog, .inr ⟨k, hworking.obeys.holds, hat, hin.booked_append hbooked⟩⟩
    · exact (hworking.log_of_not_at hstands hat).imp fun _ hnew => hnew.imp_right .inl

/-- What is pending is the last entry of the task that holds the guard. -/
theorem Sound.pending (h : Sound tasks start b holder) {x : ι × Mode × Nat}
    (hx : x ∈ Bench.pending tasks start b) :
    ∃ k, (b.stages k).Holds ∧ (tasks k).At x.1 x.2.1 ∧ x.2.2 + 1 = (b.logs x.1 x.2.1).length := by
  obtain ⟨i, mode, n⟩ := x
  obtain ⟨hkept, e, he, hpending⟩ := hx
  obtain ⟨new, hlog, hnew⟩ := h.log i mode
  dsimp only at hkept he ⊢
  rw [hlog, List.getElem?_append_right hkept] at he
  -- Blocks are settled, so the entry is the last one of a delivery under way.
  rcases hnew with hbooked | ⟨k, hholds, hat, hin⟩
  · rw [hbooked.isPending e (List.mem_of_getElem? he)] at hpending
    cases hpending
  · have hlast := hin.length_of_isPending he hpending
    refine ⟨k, hholds, hat, ?_⟩
    rw [hlog, List.length_append]
    omega

theorem Sound.oneInFlight (h : Sound tasks start b holder) : OneInFlight tasks start b where
  busy := by
    rw [h.phase.busy, Option.isSome_iff_exists]
    exact exists_congr fun k => (h.holds k).symm
  holder := fun k hk l hl => Option.some.inj ((h.holder_eq hk).symm.trans (h.holder_eq hl))
  outgoing := by
    have hholds (k : κ) (hk : (b.stages k).outgoing.isSome) : (b.stages k).Holds := by
      cases hstage : b.stages k with
      | waiting => trivial
      | _ => simp [hstage, Stage.outgoing] at hk
    exact fun k hk l hl =>
      Option.some.inj ((h.holder_eq (hholds k hk)).symm.trans (h.holder_eq (hholds l hl)))
  pending := by
    rintro ⟨i, mode, n⟩ hx ⟨j, mode', n'⟩ hy
    obtain ⟨k, hk, ⟨rfl, rfl⟩, hn⟩ := h.pending hx
    obtain ⟨l, hl, hat, hn'⟩ := h.pending hy
    obtain rfl := Option.some.inj ((h.holder_eq hk).symm.trans (h.holder_eq hl))
    obtain ⟨rfl, rfl⟩ := hat
    simp only [Prod.mk.injEq, true_and]
    dsimp only at hn hn'
    omega
  logs := h.log
  ended k ending hk := by
    have htells := h.tells k
    rw [hk] at htells
    exact htells

/-- **One command in flight.** Any number of tasks at any number of desks come and go, in any order and
with any answers, as long as numbers are left and no log began with one that was yet to come. Each of
them does what its job asks for, step by step. Then at every moment one of them at most is at work, with
one request out and one entry pending at most. All entries are settled once and stay as they are, and
who is turned away leaves no trace. -/
theorem one_command_in_flight (hready : Ready start) (hreach : ReflTransGen (Step tasks) start b)
    (hleft : Lasts start b) :
    OneInFlight tasks start b ∧ ∀ b', b.Step tasks b' → Lasts start b' →
      Moves tasks b b' ∧ ∀ k, Pursues tasks b b' k := by
  obtain ⟨holder, h⟩ := hready.sound_of_reached hreach hleft
  exact ⟨h.oneInFlight, fun b' hstep hleft' => ⟨h.moves hstep hleft', pursues_of_step hstep⟩⟩

/-- A query at one desk and a run at the other. -/
def duet : Bool → Task Bool
  | true => ⟨true, .command "*OPC?"⟩
  | false => ⟨false, .run ⟨"*RST", .file⟩⟩

def duetStart : Bench Bool Bool where
  common := ({} : Session).common
  desks _ := ({} : Session).desk
  stages _ := .ahead

theorem duet_one_in_flight :
    ∃ b, (Ready duetStart ∧ ReflTransGen (Step duet) duetStart b ∧ Lasts duetStart b) ∧
      b.stages false = .ended .refused ∧ (b.stages true).outgoing = some "*OPC?" ∧
      OneInFlight duet duetStart b ∧ ∀ b', b.Step duet b' → Lasts duetStart b' →
        Moves duet b b' ∧ ∀ k, Pursues duet b b' k := by
  have hready : Ready duetStart :=
    ⟨rfl, fun _ => rfl, rfl, fun _ mode => by cases mode <;> exact fun e he => by cases he⟩
  have hvoid : (duet true).job.isVoid = false := by decide
  obtain ⟨b, hreach, hleft, hrefused, hout⟩ : ∃ b, ReflTransGen (Step duet) duetStart b ∧ Lasts duetStart b ∧
      b.stages false = .ended .refused ∧ (b.stages true).outgoing = some "*OPC?" := by
    have h₀ : ReflTransGen (Step duet) duetStart duetStart := .refl
    have h₁ := h₀.tail (.claim (k := true) rfl hvoid)
    have h₂ := h₁.tail (.claim (k := false) rfl rfl)
    have h₃ := h₂.tail (.enter (k := true) rfl)
    have h₄ := h₃.tail (.answer (k := true) (e := .now) rfl .epoch)
    have h₅ := h₄.tail (.answer (k := true) (e := .save _ _) rfl (.ok ()))
    have h₆ := h₅.tail (.answer (k := true) (e := .uptime) rfl 0)
    exact ⟨_, h₆, by decide +kernel, rfl, by decide +kernel⟩
  exact ⟨b, ⟨hready, hreach, hleft⟩, hrefused, hout, one_command_in_flight hready hreach hleft⟩

end Bench

end ScpiConsole
