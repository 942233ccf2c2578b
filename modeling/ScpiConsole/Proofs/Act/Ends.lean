import ScpiConsole.Proofs.Act.Waits
/-!
# What an act comes to

An act ends whatever the answers are and whatever others do to its state meanwhile. What can be said of
all its ends at once is said of what was asked for, and of the result.

* `Talk.Ends`, `Act.Ends` : all ends of an act
* `Act.ends` : there is one, whatever happens
* `Act.Ends.bind` and the like : one rule for each way to make an act
* `Act.Ends.alone` : the end when nobody disturbs the act
-/

namespace ScpiConsole

variable {S α β : Type}

/-- Whatever the answers are, and in whatever state others leave the act with each of them, it ends with `Q`
of all that was asked, the state and the result. -/
def Talk.Ends (Q : Record → S → α → Prop) : Talk S α → Record → Prop
  | .done s a, asked => Q asked s a
  | .ask _ e next, asked => ∀ s a, (next s a).Ends Q (asked ++ [⟨e, a⟩])

section

variable {Q Q' : Record → S → α → Prop} {asked : Record}

theorem Talk.Ends.mono {t : Talk S α} (h : t.Ends Q asked)
    (hQ : ∀ asked s a, Q asked s a → Q' asked s a) : t.Ends Q' asked := by
  induction t generalizing asked with
  | done s a => exact hQ _ _ _ h
  | ask s e next ih => exact fun s a => ih s a (h s a)

theorem Talk.ends_bind {R : Record → S → β → Prop} (t : Talk S α) (f : S → α → Talk S β)
    (asked : Record) :
    (t.bind f).Ends R asked ↔ t.Ends (fun asked s a => (f s a).Ends R asked) asked := by
  induction t generalizing asked with
  | done s a => rfl
  | ask s e next ih => exact forall_congr' fun s => forall_congr' fun a => ih s a _

/-- What was asked before stays in front. -/
theorem Talk.ends_append (t : Talk S α) (before asked : Record) :
    t.Ends Q (before ++ asked) ↔ t.Ends (fun more => Q (before ++ more)) asked := by
  induction t generalizing asked with
  | done s a => rfl
  | ask s e next ih =>
    refine forall_congr' fun s => forall_congr' fun a => ?_
    rw [List.append_assoc]
    exact ih s a _

theorem Talk.ends (t : Talk S α) (asked : Record) : t.Ends (fun _ _ _ => True) asked := by
  induction t generalizing asked with
  | done s a => trivial
  | ask s e next ih => exact fun s a => ih s a _

theorem Talk.Ends.alone {o : Oracle} {t : Talk S α} (h : t.Ends Q asked) (record : Record) :
    ∃ more, (t.alone o record).2 = record ++ more ∧
      Q (asked ++ more) (t.alone o record).1.1 (t.alone o record).1.2 := by
  induction t generalizing asked record with
  | done s a =>
    refine ⟨[], (List.append_nil record).symm, ?_⟩
    rw [List.append_nil]
    exact h
  | ask s e next ih =>
    obtain ⟨more, hmore, hQ⟩ := ih s (o record e) (h s _) (record ++ [⟨e, o record e⟩])
    refine ⟨⟨e, o record e⟩ :: more, ?_, ?_⟩
    · rw [Talk.alone_ask, hmore, List.append_assoc]
      rfl
    · rwa [List.append_assoc] at hQ

end

namespace Act

/-- Wherever it is taken up, the act ends with `Q` of what it asked for and of its result. -/
def Ends (x : Act S α) (Q : Record → α → Prop) : Prop :=
  ∀ s, (x s).Ends (fun asked _ a => Q asked a) []

variable {Q Q' : Record → α → Prop} {R : Record → β → Prop}

/-- Every act ends. -/
theorem ends (x : Act S α) : x.Ends fun _ _ => True := fun s => (x s).ends []

theorem Ends.mono {x : Act S α} (h : x.Ends Q) (hQ : ∀ asked a, Q asked a → Q' asked a) :
    x.Ends Q' := fun s => (h s).mono fun asked _ a => hQ asked a

theorem ends_pure {a : α} (h : Q [] a) : (pure a : Act S α).Ends Q := fun _ => h

theorem Ends.bind {x : Act S α} {f : α → Act S β} (hx : x.Ends Q)
    (hf : ∀ asked a, Q asked a → (f a).Ends fun more b => R (asked ++ more) b) :
    (x >>= f).Ends R := by
  intro s
  refine (Talk.ends_bind (x s) _ []).2 ((hx s).mono fun asked t a ha => ?_)
  have hafter := (Talk.ends_append (Q := fun asked _ b => R asked b) (f a t) asked []).2
  rw [List.append_nil] at hafter
  exact hafter (hf asked a ha t)

/-- The result is set, whatever the act in front comes to. -/
theorem ends_bind_pure (x : Act S α) {b : β} (h : ∀ asked, R asked b) :
    (x >>= fun _ => pure b).Ends R := x.ends.bind fun _ _ _ => ends_pure (h _)

theorem ends_get_bind {f : S → Act S β} (h : ∀ s, (f s).Ends R) : (get >>= f).Ends R :=
  fun s => h s s

theorem ends_perform (e : Effect) :
    (perform e : Act S e.Answer).Ends fun asked a => asked = [⟨e, a⟩] := fun _ _ _ => rfl

theorem Ends.alone {o : Oracle} {x : Act S α} (h : x.Ends Q) (s : S) (record : Record) :
    ∃ asked, (x.alone o s record).2 = record ++ asked ∧ Q asked (x.alone o s record).1.2 := by
  obtain ⟨asked, hasked, hQ⟩ := (h s).alone (o := o) record
  rw [alone_apply]
  exact ⟨asked, hasked, hQ⟩

end Act

end ScpiConsole
