import ScpiConsole.Proofs.Act.Terms
/-!
# Where an act waits

An act shows its state whenever it waits. Whoever looks on sees some of these states, in their order.

* `Talk.waits`, `Act.waits` : the states in which an undisturbed act waits, each with what it asked for
* `Act.waits_bind` and the like : one rule for each way to make an act
* `Act.pairwise_waits` : from one wait to any later one, and to the end, an act on terms keeps its
  guarantee
* `Act.Meets.waiting` : an act on terms waits as they say
* `Act.Keeps.waits` : an invariant holds at each wait
-/

namespace ScpiConsole

variable {S α β : Type} {o : Oracle}

/-- The states in which an act that nobody disturbs waits, each with the effect that it waits for. -/
def Talk.waits (o : Oracle) : Talk S α → Record → List (S × Effect)
  | .done _ _, _ => []
  | .ask s e next, record => (s, e) :: (next s (o record e)).waits o (record ++ [⟨e, o record e⟩])

theorem Talk.waits_bind (t : Talk S α) (f : S → α → Talk S β) (record : Record) :
    (t.bind f).waits o record = t.waits o record ++
      (f (t.alone o record).1.1 (t.alone o record).1.2).waits o (t.alone o record).2 := by
  induction t generalizing record with
  | done s a => rfl
  | ask s e next ih => exact congrArg ((s, e) :: ·) (ih s (o record e) _)

/-- What is promised from one wait to the next holds from each wait to all later ones. -/
theorem Talk.Obeys.pairwise_waits {T : Terms S} {Q : Record → S → α → Prop} {record : Record}
    {s₀ : S} {t : Talk S α} (h : t.Obeys T Q record s₀) (hcovers : T.covers (t.alone o record).2) :
    (s₀ :: ((t.waits o record).map Prod.fst ++ [(t.alone o record).1.1])).Pairwise T.guarantee := by
  induction h with
  | done hs _ => exact List.pairwise_pair.2 hs
  | @ask record s₀ s e next hs _ hnext ih =>
    obtain ⟨more, hmore⟩ := (next s (o record e)).exists_append_alone (o := o)
      (record ++ [⟨e, o record e⟩])
    rw [Talk.alone_ask] at hcovers ⊢
    have hrest := ih s _ (T.rely_refl s) (T.covers_of_append (hmore ▸ hcovers)) hcovers
    -- The states behind this wait are reached through it.
    refine List.pairwise_cons.2 ⟨fun u hu => ?_, hrest⟩
    rcases List.mem_cons.1 hu with rfl | hu
    · exact hs
    · exact T.guarantee_trans hs ((List.pairwise_cons.1 hrest).1 u hu)

/-- An act on terms waits as they say, whatever was asked by then. -/
theorem Talk.Obeys.waiting {T : Terms S} {Q : Record → S → α → Prop} {record : Record} {s₀ : S}
    {t : Talk S α} (h : t.Obeys T Q record s₀) (hcovers : T.covers (t.alone o record).2) :
    ∀ w ∈ t.waits o record, ∃ asked, T.waiting asked w.2 w.1 := by
  induction h with
  | done _ _ => exact List.forall_mem_nil _
  | @ask record s₀ s e next _ hw _ ih =>
    obtain ⟨more, hmore⟩ := (next s (o record e)).exists_append_alone (o := o)
      (record ++ [⟨e, o record e⟩])
    rw [Talk.alone_ask] at hcovers
    refine List.forall_mem_cons.2 ⟨⟨record, hw⟩, ?_⟩
    exact ih s _ (T.rely_refl s) (T.covers_of_append (hmore ▸ hcovers)) hcovers

/-- An invariant holds at each wait. -/
theorem Talk.Keeps.waits {I : S → Prop} {t : Talk S α} (h : t.Keeps I) (record : Record) :
    ∀ w ∈ t.waits o record, I w.1 := by
  induction h generalizing record with
  | done _ => exact List.forall_mem_nil _
  | ask hs _ ih => exact List.forall_mem_cons.2 ⟨hs, ih _ _ hs _⟩

namespace Act

/-- The states in which an act that nobody disturbs waits, each with the effect that it waits for. -/
@[irreducible]
def waits (o : Oracle) (x : Act S α) (s : S) (record : Record) : List (S × Effect) :=
  (x s).waits o record

theorem waits_apply (x : Act S α) (s : S) (record : Record) :
    x.waits o s record = (x s).waits o record := by
  rw [waits]

theorem waits_bind (x : Act S α) (f : α → Act S β) (s : S) (record : Record) :
    (x >>= f).waits o s record = x.waits o s record ++
      (f (x.alone o s record).1.2).waits o (x.alone o s record).1.1 (x.alone o s record).2 := by
  simp only [waits_apply, alone_apply]
  exact Talk.waits_bind (x s) _ record

@[simp] theorem waits_pure (a : α) (s : S) (record : Record) :
    (pure a : Act S α).waits o s record = [] := waits_apply ..

@[simp] theorem waits_modify (f : S → S) (s : S) (record : Record) :
    (modify f : Act S PUnit).waits o s record = [] := waits_apply ..

theorem waits_get_bind (f : S → Act S β) (s : S) (record : Record) :
    (get >>= f).waits o s record = (f s).waits o s record := by
  rw [waits_apply, waits_apply]
  rfl

@[simp] theorem waits_perform (e : Effect) (s : S) (record : Record) :
    (perform e : Act S e.Answer).waits o s record = [(s, e)] := waits_apply ..

@[simp] theorem alone_perform (e : Effect) (s : S) (record : Record) :
    (perform e : Act S e.Answer).alone o s record =
      ((s, o record e), record ++ [⟨e, o record e⟩]) := alone_apply ..

@[simp] theorem alone_set (t s : S) (record : Record) :
    (set t : Act S PUnit).alone o s record = ((t, ⟨⟩), record) := alone_apply ..

theorem pairwise_waits {T : Terms S} {Q : Record → S → α → Prop} {x : Act S α} {record : Record}
    {s₀ s : S} (h : (x s).Obeys T Q record s₀) (hcovers : T.covers (x.alone o s record).2) :
    (s₀ :: ((x.waits o s record).map Prod.fst ++ [(x.alone o s record).1.1])).Pairwise
      T.guarantee := by
  rw [alone_apply] at hcovers ⊢
  rw [waits_apply]
  exact h.pairwise_waits hcovers

theorem Meets.waiting {T : Terms S} {P : Record → S → Prop} {Q : Record → S → α → Prop}
    {x : Act S α} (h : x.Meets T P Q) {s : S} {record : Record} (hP : P record s)
    (hcovers : T.covers (x.alone o s record).2) :
    ∀ w ∈ x.waits o s record, ∃ asked, T.waiting asked w.2 w.1 := by
  have hbefore : T.covers record := covers_of_alone hcovers
  rw [alone_apply] at hcovers
  rw [waits_apply]
  exact (h record s hbefore hP).waiting hcovers

theorem Keeps.waits {I : S → Prop} {x : Act S α} (h : x.Keeps I) {s : S} (hs : I s)
    (record : Record) : ∀ w ∈ x.waits o s record, I w.1 := by
  rw [waits_apply]
  exact (h s hs).waits record

end Act

end ScpiConsole
