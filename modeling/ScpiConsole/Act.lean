import ScpiConsole.Effect
/-!
# Acts

An act works on a state and asks its surroundings for effects. While an effect is under way others
may act on the same state, so an act takes it up again as it is when the answer comes.

* `Talk` : an act under way, either done or asking
* `Act` : what is done to a state; a monad
* `Talk.run`, `Act.run` : an act with the answers of a given surrounding
-/

namespace ScpiConsole

variable {S α β : Type}

/-- An act under way. -/
inductive Talk (S α : Type) where
  | done (s : S) (a : α)
  /-- Asks for an effect, with the state as it is meanwhile. -/
  | ask (s : S) (e : Effect) (next : S → e.Answer → Talk S α)

namespace Talk

protected def bind : Talk S α → (S → α → Talk S β) → Talk S β
  | .done s a, f => f s a
  | .ask s e next, f => .ask s e fun s a => (next s a).bind f

/-- The outcome when `answer` gives the answers. It may also change the state. -/
def run {M : Type → Type} [Monad M] (answer : S → (e : Effect) → M (S × e.Answer)) :
    Talk S α → M (S × α)
  | .done s a => pure (s, a)
  | .ask s e next => do
    let (s, a) ← answer s e
    (next s a).run answer

theorem bind_done (t : Talk S α) : t.bind .done = t := by
  induction t with
  | done s a => rfl
  | ask s e next ih => simp only [Talk.bind, ih]

theorem bind_assoc {γ : Type} (t : Talk S α) (f : S → α → Talk S β) (g : S → β → Talk S γ) :
    (t.bind f).bind g = t.bind fun s a => (f s a).bind g := by
  induction t with
  | done s a => rfl
  | ask s e next ih => simp only [Talk.bind, ih]

theorem run_bind {M : Type → Type} [Monad M] [LawfulMonad M]
    (answer : S → (e : Effect) → M (S × e.Answer)) (t : Talk S α) (f : S → α → Talk S β) :
    (t.bind f).run answer = t.run answer >>= fun p => (f p.1 p.2).run answer := by
  induction t with
  | done s a => simp [Talk.bind, Talk.run]
  | ask s e next ih => simp [Talk.bind, Talk.run, ih]

end Talk

/-- What is done to a state. -/
def Act (S α : Type) : Type := S → Talk S α

namespace Act

protected def pure (a : α) : Act S α := fun s => .done s a

protected def bind (x : Act S α) (f : α → Act S β) : Act S β := fun s =>
  (x s).bind fun s a => f a s

instance : Monad (Act S) where
  pure := Act.pure
  bind := Act.bind

instance : MonadStateOf S (Act S) where
  get := fun s => .done s s
  set s := fun _ => .done s ()
  modifyGet f := fun s => .done (f s).2 (f s).1

instance : LawfulMonad (Act S) :=
  LawfulMonad.mk' (Act S) (fun x => funext fun s => Talk.bind_done (x s)) (fun _ _ => rfl)
    fun x _ _ => funext fun s => Talk.bind_assoc (x s) _ _

/-- Asks for one effect. -/
def perform (e : Effect) : Act S e.Answer := fun s => .ask s e .done

/-- The outcome of an act when `answer` gives the answers. -/
def run {M : Type → Type} [Monad M] (answer : S → (e : Effect) → M (S × e.Answer)) (x : Act S α)
    (s : S) : M (S × α) := (x s).run answer

/-- Writes a line to the operator. -/
def say (line : String) : Act S Unit := perform (.print (line ++ "\n"))

/-- Writes lines to the operator. -/
def sayAll : List String → Act S Unit
  | [] => pure ()
  | line :: rest => do
    say line
    sayAll rest

end Act

end ScpiConsole
