import ScpiConsole.Proofs.Act.Waits
/-!
# What an act asks for

Some effects are for the eyes of the operator only: what comes of them tells the client nothing. When the
surroundings do not mind them either, an act comes to the same wherever they are left out.

* `Act.Asks` : an act asks for nothing but effects of some kind, with one rule for each way to make an act
* `Act.Asks.alone` : the record is continued with such effects
* `offTerminal` : what was asked of anything but the terminal
* `Oracle.unwatched` : surroundings that do not mind the terminal
* `Act.alone_unwatched` : what was asked of the terminal before makes no difference to an act
-/

namespace ScpiConsole

variable {S α β : Type} {o : Oracle}

/-! ## Effects of some kind -/

section

variable {P P' : Effect → Prop}

/-- Whatever the answers are, and whatever others do, only such effects are asked for. -/
inductive Talk.Asks (P : Effect → Prop) : Talk S α → Prop where
  | done {s : S} {a : α} : Asks P (.done s a)
  | ask {s : S} {e : Effect} {next : S → e.Answer → Talk S α} (he : P e)
      (hnext : ∀ t a, Asks P (next t a)) : Asks P (.ask s e next)

theorem Talk.Asks.bind {t : Talk S α} {f : S → α → Talk S β} (ht : t.Asks P)
    (hf : ∀ s a, (f s a).Asks P) : (t.bind f).Asks P := by
  induction ht with
  | done => exact hf _ _
  | ask he _ ih => exact .ask he ih

theorem Talk.Asks.mono {t : Talk S α} (h : t.Asks P) (hP : ∀ e, P e → P' e) : t.Asks P' := by
  induction h with
  | done => exact .done
  | ask he _ ih => exact .ask (hP _ he) ih

theorem Talk.Asks.alone {t : Talk S α} (h : t.Asks P) (record : Record) :
    ∃ more, (t.alone o record).2 = record ++ more ∧ ∀ x ∈ more, P x.effect := by
  induction h generalizing record with
  | done => exact ⟨[], (List.append_nil record).symm, List.forall_mem_nil _⟩
  | @ask s e next he _ ih =>
    obtain ⟨more, hmore, hP⟩ := ih s (o record e) (record ++ [⟨e, o record e⟩])
    refine ⟨⟨e, o record e⟩ :: more, ?_, List.forall_mem_cons.2 ⟨he, hP⟩⟩
    rw [Talk.alone_ask, hmore, List.append_assoc]
    rfl

namespace Act

/-- The act asks for effects of that kind only. -/
def Asks (P : Effect → Prop) (x : Act S α) : Prop := ∀ s, (x s).Asks P

theorem asks_pure (a : α) : Asks P (pure a : Act S α) := fun _ => .done

theorem Asks.bind {x : Act S α} {f : α → Act S β} (hx : x.Asks P) (hf : ∀ a, (f a).Asks P) :
    (x >>= f).Asks P := fun s => (hx s).bind fun t a => hf a t

theorem Asks.mono {x : Act S α} (h : x.Asks P) (hP : ∀ e, P e → P' e) : x.Asks P' :=
  fun s => (h s).mono hP

theorem asks_get_bind {f : S → Act S β} (h : ∀ s, (f s).Asks P) : Asks P (get >>= f) :=
  fun s => h s s

theorem asks_set (t : S) : Asks P (set t : Act S PUnit) := fun _ => .done

theorem asks_modify (f : S → S) : Asks P (modify f : Act S PUnit) := fun _ => .done

theorem asks_modifyGet (f : S → α × S) : Asks P (modifyGet f : Act S α) := fun _ => .done

theorem asks_perform {e : Effect} (he : P e) : Asks P (perform e : Act S e.Answer) :=
  fun _ => .ask he fun _ _ => .done

theorem Asks.alone {x : Act S α} (h : x.Asks P) (s : S) (record : Record) :
    ∃ more, (x.alone o s record).2 = record ++ more ∧ ∀ y ∈ more, P y.effect := by
  rw [alone_apply]
  exact (h s).alone record

end Act

end

/-! ## The terminal -/

/-- The effect goes to the terminal, which answers nothing. -/
def Effect.onTerminal : Effect → Bool
  | .print _ | .complain _ | .rawMode _ | .await => true
  | _ => false

/-- What was asked of anything but the terminal. -/
def offTerminal (record : Record) : Record := record.filter fun x => !x.effect.onTerminal

theorem offTerminal_append (record more : Record) :
    offTerminal (record ++ more) = offTerminal record ++ offTerminal more := List.filter_append ..

theorem offTerminal_eq_nil {record : Record} (h : ∀ x ∈ record, x.effect.onTerminal = true) :
    offTerminal record = [] := by
  refine List.filter_eq_nil_iff.2 fun x hx => ?_
  rw [h x hx]
  decide

/-- The same surroundings, except that answers do not depend on what the terminal was asked for. -/
def Oracle.unwatched (o : Oracle) : Oracle := fun record e => o (offTerminal record) e

theorem Oracle.unwatched_congr {record record' : Record} (h : offTerminal record' = offTerminal record)
    (e : Effect) : o.unwatched record' e = o.unwatched record e := by
  unfold Oracle.unwatched
  rw [h]

/-- After records that differ on the terminal only, an act comes to the same and asks for the same. -/
theorem Talk.alone_unwatched (t : Talk S α) {record record' : Record}
    (h : offTerminal record' = offTerminal record) :
    ∃ more, t.alone o.unwatched record = ((t.alone o.unwatched record).1, record ++ more) ∧
      t.alone o.unwatched record' = ((t.alone o.unwatched record).1, record' ++ more) := by
  induction t generalizing record record' with
  | done s a => exact ⟨[], by simp, by simp⟩
  | ask s e next ih =>
    rw [Talk.alone_ask, Talk.alone_ask, Oracle.unwatched_congr h]
    have hnext : offTerminal (record' ++ [⟨e, o.unwatched record e⟩]) =
        offTerminal (record ++ [⟨e, o.unwatched record e⟩]) := by
      rw [offTerminal_append, offTerminal_append, h]
    obtain ⟨more, hmore, hmore'⟩ := ih s (o.unwatched record e) hnext
    rw [List.append_assoc] at hmore hmore'
    exact ⟨⟨e, o.unwatched record e⟩ :: more, hmore, hmore'⟩

theorem Act.alone_unwatched (x : Act S α) (s : S) {record record' : Record}
    (h : offTerminal record' = offTerminal record) :
    ∃ more, x.alone o.unwatched s record = ((x.alone o.unwatched s record).1, record ++ more) ∧
      x.alone o.unwatched s record' = ((x.alone o.unwatched s record).1, record' ++ more) := by
  simp only [Act.alone_apply]
  exact (x s).alone_unwatched h

end ScpiConsole
