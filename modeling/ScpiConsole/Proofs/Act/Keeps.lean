import ScpiConsole.Act
/-!
# Invariants of acts

While an act waits for an answer others may change its state. So an invariant of an act holds whenever
it waits and when it ends, provided that the others leave it true.

* `Act.Keeps` : an act has an invariant
* `Act.Keeps.bind`, `Act.keeps_get_bind`, `Act.keeps_modify`, `Act.keeps_perform` : one rule for each
  way to make an act
-/

namespace ScpiConsole

variable {S α β : Type} {I : S → Prop}

/-- The property holds whenever the act waits and at its end, as long as the others leave it true. -/
inductive Talk.Keeps (I : S → Prop) : Talk S α → Prop where
  | done {s : S} {a : α} (hs : I s) : Keeps I (.done s a)
  | ask {s : S} {e : Effect} {next : S → e.Answer → Talk S α} (hs : I s)
      (hnext : ∀ t a, I t → Keeps I (next t a)) : Keeps I (.ask s e next)

theorem Talk.Keeps.bind {t : Talk S α} {f : S → α → Talk S β} (ht : t.Keeps I)
    (hf : ∀ s a, I s → (f s a).Keeps I) : (t.bind f).Keeps I := by
  induction ht with
  | done hs => exact hf _ _ hs
  | ask hs _ ih => exact .ask hs ih

namespace Act

/-- Taken up where the property holds, the act keeps it. -/
def Keeps (I : S → Prop) (x : Act S α) : Prop := ∀ s, I s → (x s).Keeps I

theorem keeps_pure (a : α) : Keeps I (pure a : Act S α) := fun _ hs => .done hs

theorem Keeps.bind {x : Act S α} {f : α → Act S β} (hx : x.Keeps I) (hf : ∀ a, (f a).Keeps I) :
    (x >>= f).Keeps I := fun s hs => (hx s hs).bind fun t a ht => hf a t ht

/-- What is read is the state itself until the act waits. -/
theorem keeps_get_bind {f : S → Act S β} (h : ∀ s, I s → (f s s).Keeps I) :
    Keeps I (get >>= f) := h

theorem keeps_set_bind {t : S} {f : PUnit → Act S β} (ht : I t) (hf : (f ⟨⟩).Keeps I) (s : S) :
    ((set t >>= f : Act S β) s).Keeps I := hf t ht

theorem keeps_modify {f : S → S} (h : ∀ s, I s → I (f s)) : Keeps I (modify f : Act S Unit) :=
  fun s hs => .done (h s hs)

theorem keeps_modifyGet {f : S → α × S} (h : ∀ s, I s → I (f s).2) :
    Keeps I (modifyGet f : Act S α) := fun s hs => .done (h s hs)

theorem keeps_perform (e : Effect) : Keeps I (perform e : Act S e.Answer) :=
  fun _ hs => .ask hs fun _ _ ht => .done ht

end Act

end ScpiConsole
