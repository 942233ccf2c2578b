import ScpiConsole.Proofs.Act.Keeps
/-!
# Acts and their surroundings

What an act does depends on the answers and on what others do to its state meanwhile. It is said of all
of them at once, on terms that both sides keep.

* `Exchange`, `Record` : what was asked and answered
* `Terms`, `Talk.Obeys` : an act keeps its part as long as the others keep theirs
* `Act.Meets` : the same from a precondition, with one rule for each way to make an act
* `Oracle`, `Act.alone` : an act that nobody disturbs, with `Act.Meets.alone` and `Act.Keeps.alone`
-/

namespace ScpiConsole

variable {S α β : Type}

/-- An effect and the answer that it got. -/
structure Exchange where
  effect : Effect
  answer : effect.Answer

/-- What was asked, and answered, one after the other. -/
abbrev Record := List Exchange

/-! ## Terms -/

/-- What an act and the others owe each other. -/
structure Terms (S : Type) where
  /-- What the others may do while the act waits. -/
  rely : S → S → Prop
  /-- What the act may do from one wait to the next. -/
  guarantee : S → S → Prop
  /-- How things stand while the act waits for the answer to an effect. -/
  waiting : Record → Effect → S → Prop
  /-- How far the terms reach: after a record that is not covered the act owes nothing. -/
  covers : Record → Prop
  rely_refl : ∀ s, rely s s
  rely_trans : ∀ {s t u}, rely s t → rely t u → rely s u
  guarantee_refl : ∀ s, guarantee s s
  guarantee_trans : ∀ {s t u}, guarantee s t → guarantee t u → guarantee s u
  covers_of_append : ∀ {record more}, covers (record ++ more) → covers record

/-- Taken up at `s₀` after a record, the act keeps its part and ends with `Q`. -/
inductive Talk.Obeys (T : Terms S) (Q : Record → S → α → Prop) : Record → S → Talk S α → Prop where
  | done {record : Record} {s₀ s : S} {a : α} (hs : T.guarantee s₀ s) (hq : Q record s a) :
      Obeys T Q record s₀ (.done s a)
  | ask {record : Record} {s₀ s : S} {e : Effect} {next : S → e.Answer → Talk S α}
      (hs : T.guarantee s₀ s) (hw : T.waiting record e s)
      (hnext : ∀ t a, T.rely s t → T.covers (record ++ [⟨e, a⟩]) →
        Obeys T Q (record ++ [⟨e, a⟩]) t (next t a)) : Obeys T Q record s₀ (.ask s e next)

section

variable {T : Terms S} {Q : Record → S → α → Prop} {Q' : Record → S → β → Prop}
  {record : Record} {s₀ s : S} {t : Talk S α}

theorem Talk.Obeys.since (h₀ : T.guarantee s₀ s) (h : t.Obeys T Q record s) :
    t.Obeys T Q record s₀ := by
  cases h with
  | done hs hq => exact .done (T.guarantee_trans h₀ hs) hq
  | ask hs hw hnext => exact .ask (T.guarantee_trans h₀ hs) hw hnext

theorem Talk.Obeys.mono {P : Record → S → α → Prop} (hrecord : T.covers record)
    (h : t.Obeys T Q record s₀)
    (hQ : ∀ record s a, T.covers record → Q record s a → P record s a) :
    t.Obeys T P record s₀ := by
  induction h with
  | done hs hq => exact .done hs (hQ _ _ _ hrecord hq)
  | ask hs hw _ ih => exact .ask hs hw fun t a ht hcovers => ih t a ht hcovers hcovers

theorem Talk.Obeys.bind {f : S → α → Talk S β} (hrecord : T.covers record)
    (ht : t.Obeys T Q record s₀)
    (hf : ∀ record s a, T.covers record → Q record s a → (f s a).Obeys T Q' record s) :
    (t.bind f).Obeys T Q' record s₀ := by
  induction ht with
  | done hs hq => exact (hf _ _ _ hrecord hq).since hs
  | ask hs hw _ ih => exact .ask hs hw fun t a ht hcovers => ih t a ht hcovers hcovers

end

namespace Act

/-- Taken up where `P` holds, the act keeps the terms and ends with `Q`. -/
def Meets (T : Terms S) (P : Record → S → Prop) (x : Act S α) (Q : Record → S → α → Prop) : Prop :=
  ∀ record s, T.covers record → P record s → (x s).Obeys T Q record s

section

variable {T : Terms S} {P P' : Record → S → Prop} {Q : Record → S → α → Prop}
  {Q' : Record → S → β → Prop}

theorem meets_pure (a : α) (h : ∀ record s, T.covers record → P record s → Q record s a) :
    Meets T P (pure a : Act S α) Q :=
  fun record s hcovers hP => .done (T.guarantee_refl s) (h record s hcovers hP)

theorem Meets.bind {x : Act S α} {f : α → Act S β} (hx : Meets T P x Q)
    (hf : ∀ a, Meets T (fun record s => Q record s a) (f a) Q') : Meets T P (x >>= f) Q' :=
  fun record s hcovers hP => (hx record s hcovers hP).bind hcovers fun record s a => hf a record s

theorem Meets.of_imp {x : Act S α} (h : Meets T P' x Q) (hP : ∀ record s, P record s → P' record s) :
    Meets T P x Q := fun record s hcovers hs => h record s hcovers (hP record s hs)

theorem Meets.imp {R : Record → S → α → Prop} {x : Act S α} (h : Meets T P x Q)
    (hQ : ∀ record s a, T.covers record → Q record s a → R record s a) : Meets T P x R :=
  fun record s hcovers hP => (h record s hcovers hP).mono hcovers hQ

theorem meets_exists {ι : Sort _} {P : ι → Record → S → Prop} {x : Act S α}
    (h : ∀ i, Meets T (P i) x Q) : Meets T (fun record s => ∃ i, P i record s) x Q :=
  fun record s hcovers ⟨i, hi⟩ => h i record s hcovers hi

theorem meets_and {p : Prop} {x : Act S α} (h : p → Meets T P x Q) :
    Meets T (fun record s => p ∧ P record s) x Q :=
  fun record s hcovers ⟨hp, hs⟩ => h hp record s hcovers hs

/-- What is read is the state itself until the act waits. -/
theorem meets_get_bind {f : S → Act S β}
    (h : ∀ s, Meets T (fun record t => t = s ∧ P record t) (f s) Q') : Meets T P (get >>= f) Q' :=
  fun record s hcovers hP => h s record s hcovers ⟨rfl, hP⟩

/-- What is read may be out of date later on. -/
theorem meets_get_bind_of_forall {f : S → Act S β} (h : ∀ s, Meets T P (f s) Q') :
    Meets T P (get >>= f) Q' := meets_get_bind fun s => (h s).of_imp fun _ _ hs => hs.2

theorem meets_modify {f : S → S} {Q : Record → S → PUnit → Prop}
    (h : ∀ record s, T.covers record → P record s → T.guarantee s (f s) ∧ Q record (f s) ⟨⟩) :
    Meets T P (modify f : Act S PUnit) Q :=
  fun record s hcovers hP => .done (h record s hcovers hP).1 (h record s hcovers hP).2

theorem meets_set {t : S} {Q : Record → S → PUnit → Prop}
    (h : ∀ record s, T.covers record → P record s → T.guarantee s t ∧ Q record t ⟨⟩) :
    Meets T P (set t : Act S PUnit) Q :=
  fun record s hcovers hP => .done (h record s hcovers hP).1 (h record s hcovers hP).2

theorem meets_modifyGet {f : S → α × S}
    (h : ∀ record s, T.covers record → P record s → T.guarantee s (f s).2 ∧ Q record (f s).2 (f s).1) :
    Meets T P (modifyGet f : Act S α) Q :=
  fun record s hcovers hP => .done (h record s hcovers hP).1 (h record s hcovers hP).2

theorem meets_perform {e : Effect} {Q : Record → S → e.Answer → Prop}
    (hwaiting : ∀ record s, T.covers record → P record s → T.waiting record e s)
    (hanswer : ∀ record s t a, P record s → T.rely s t → T.covers (record ++ [⟨e, a⟩]) →
      Q (record ++ [⟨e, a⟩]) t a) : Meets T P (perform e) Q := by
  intro record s hcovers hP
  refine .ask (T.guarantee_refl s) (hwaiting record s hcovers hP) fun t a ht hcovers' => ?_
  exact .done (T.guarantee_refl t) (hanswer record s t a hP ht hcovers')

end

end Act

/-! ## Undisturbed acts -/

/-- Surroundings that only answer. An answer may depend on all that was asked before. -/
def Oracle : Type := Record → (e : Effect) → e.Answer

/-- The answer, put on record. -/
def Oracle.answer (o : Oracle) (s : S) (e : Effect) : StateM Record (S × e.Answer) :=
  fun record => ((s, o record e), record ++ [⟨e, o record e⟩])

/-- What an act that nobody disturbs comes to, with the record continued. -/
def Talk.alone (o : Oracle) (t : Talk S α) (record : Record) : (S × α) × Record :=
  ((t.run o.answer).run record).run

/-- What an act that nobody disturbs comes to, with the record continued. The acts of a session are
long, so they are taken apart by the lemmas below and not by computation. -/
@[irreducible]
def Act.alone (o : Oracle) (x : Act S α) (s : S) (record : Record) : (S × α) × Record :=
  (x s).alone o record

section

variable {o : Oracle}

@[simp] theorem Talk.alone_done (s : S) (a : α) (record : Record) :
    (Talk.done s a).alone o record = ((s, a), record) := rfl

@[simp] theorem Talk.alone_ask (s : S) (e : Effect) (next : S → e.Answer → Talk S α)
    (record : Record) :
    (Talk.ask s e next).alone o record =
      (next s (o record e)).alone o (record ++ [⟨e, o record e⟩]) := rfl

theorem Talk.alone_bind (t : Talk S α) (f : S → α → Talk S β) (record : Record) :
    (t.bind f).alone o record =
      (f (t.alone o record).1.1 (t.alone o record).1.2).alone o (t.alone o record).2 := by
  induction t generalizing record with
  | done s a => rfl
  | ask s e next ih => exact ih s (o record e) _

theorem Act.bind_apply (x : Act S α) (f : α → Act S β) (s : S) :
    (x >>= f) s = (x s).bind fun s a => f a s := rfl

theorem Act.alone_apply (x : Act S α) (s : S) (record : Record) :
    x.alone o s record = (x s).alone o record := by
  rw [Act.alone]

theorem Act.alone_bind (x : Act S α) (f : α → Act S β) (s : S) (record : Record) :
    (x >>= f).alone o s record =
      (f (x.alone o s record).1.2).alone o (x.alone o s record).1.1 (x.alone o s record).2 := by
  simp only [Act.alone_apply]
  exact Talk.alone_bind (x s) _ record

@[simp] theorem Act.alone_pure (a : α) (s : S) (record : Record) :
    (pure a : Act S α).alone o s record = ((s, a), record) := Act.alone_apply ..

@[simp] theorem Act.alone_modify (f : S → S) (s : S) (record : Record) :
    (modify f : Act S PUnit).alone o s record = ((f s, ⟨⟩), record) := Act.alone_apply ..

theorem Act.alone_get_bind (f : S → Act S β) (s : S) (record : Record) :
    (get >>= f).alone o s record = (f s).alone o s record := by
  rw [Act.alone_apply, Act.alone_apply]
  rfl

theorem Talk.exists_append_alone (t : Talk S α) (record : Record) :
    ∃ more, (t.alone o record).2 = record ++ more := by
  induction t generalizing record with
  | done s a => exact ⟨[], (List.append_nil record).symm⟩
  | ask s e next ih =>
    obtain ⟨more, hmore⟩ := ih s (o record e) (record ++ [⟨e, o record e⟩])
    exact ⟨⟨e, o record e⟩ :: more, by rw [Talk.alone_ask, hmore, List.append_assoc]; rfl⟩

theorem Act.exists_append_alone (x : Act S α) (s : S) (record : Record) :
    ∃ more, (x.alone o s record).2 = record ++ more := by
  rw [Act.alone_apply]
  exact (x s).exists_append_alone record

theorem Talk.Obeys.alone {T : Terms S} {Q : Record → S → α → Prop} {record : Record} {s₀ : S}
    {t : Talk S α} (h : t.Obeys T Q record s₀) (hcovers : T.covers (t.alone o record).2) :
    Q (t.alone o record).2 (t.alone o record).1.1 (t.alone o record).1.2 := by
  induction h with
  | done _ hq => exact hq
  | @ask record s₀ s e next hs hw hnext ih =>
    obtain ⟨more, hmore⟩ := (next s (o record e)).exists_append_alone (o := o)
      (record ++ [⟨e, o record e⟩])
    rw [Talk.alone_ask] at hcovers ⊢
    exact ih s _ (T.rely_refl s) (T.covers_of_append (hmore ▸ hcovers)) hcovers

theorem Act.alone_of_obeys {T : Terms S} {x : Act S α} {Q : Record → S → α → Prop}
    {record : Record} {s₀ s : S} (h : (x s).Obeys T Q record s₀)
    (hcovers : T.covers (x.alone o s record).2) :
    Q (x.alone o s record).2 (x.alone o s record).1.1 (x.alone o s record).1.2 := by
  rw [Act.alone_apply] at hcovers ⊢
  exact h.alone hcovers

/-- What is covered in the end was covered before. -/
theorem Act.covers_of_alone {T : Terms S} {x : Act S α} {s : S} {record : Record}
    (h : T.covers (x.alone o s record).2) : T.covers record := by
  obtain ⟨more, hmore⟩ := x.exists_append_alone (o := o) s record
  exact T.covers_of_append (hmore ▸ h)

theorem Act.Meets.alone {T : Terms S} {P : Record → S → Prop} {x : Act S α}
    {Q : Record → S → α → Prop} (h : x.Meets T P Q) {s : S} {record : Record} (hP : P record s)
    (hcovers : T.covers (x.alone o s record).2) :
    Q (x.alone o s record).2 (x.alone o s record).1.1 (x.alone o s record).1.2 :=
  Act.alone_of_obeys (h record s (Act.covers_of_alone hcovers) hP) hcovers

theorem Talk.Keeps.alone {I : S → Prop} {t : Talk S α} (h : t.Keeps I) (record : Record) :
    I (t.alone o record).1.1 := by
  induction h generalizing record with
  | done hs => exact hs
  | ask hs _ ih => exact ih _ _ hs _

theorem Act.Keeps.alone {I : S → Prop} {x : Act S α} (h : x.Keeps I) {s : S} (hs : I s)
    (record : Record) : I (x.alone o s record).1.1 := by
  rw [Act.alone_apply]
  exact (h s hs).alone record

end

end ScpiConsole
