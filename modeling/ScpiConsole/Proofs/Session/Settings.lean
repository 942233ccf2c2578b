import ScpiConsole.Proofs.Act.Waits
import ScpiConsole.Proofs.Session.Books
import ScpiConsole.Session.Settings
/-!
# Settings and preferences

The preferences decide three settings of a connection. Whoever changes one of them publishes all three, so
they are in force as long as nobody overrides them, and an override lasts until any of the three is
changed.

* `Setting` : what the preferences decide of a connection; `Session.InForce`, it is as they have it
* `Adjustment`, `adjust` : all that is done to the settings
* `LeavesInForce`, `leavesInForce_adjust` : every adjustment but an override keeps the settings in force
* `settings_mirror_preferences` : so they mirror the preferences whatever fails
* `Chosen`, `chosen_prefer` : what a change of one setting does to the others
* `others_kept_iff_inForce` : they stay exactly as far as they were in force
-/

namespace ScpiConsole

/-! ## Settings -/

/-- What the preferences decide of a connection. -/
inductive Setting where
  | simulated
  | autoSystErr
  | timeoutSeconds
deriving DecidableEq

namespace Setting

abbrev Value : Setting → Type
  | .simulated | .autoSystErr => Bool
  | .timeoutSeconds => UInt32

/-- The value that counts for the next command. -/
def published : (f : Setting) → Connection → f.Value
  | .simulated, c => c.simulated
  | .autoSystErr, c => c.autoSystErr
  | .timeoutSeconds, c => c.timeoutSeconds

/-- The value that the client keeps. -/
def preferred : (f : Setting) → Preferences → f.Value
  | .simulated, p => p.simulated
  | .autoSystErr, p => p.autoSystErr
  | .timeoutSeconds, p => p.timeoutSeconds

/-- The preferences with another value for one setting. -/
def prefer : (f : Setting) → f.Value → Preferences → Preferences
  | .simulated, v, p => { p with simulated := v }
  | .autoSystErr, v, p => { p with autoSystErr := v }
  | .timeoutSeconds, v, p => { p with timeoutSeconds := v }

@[simp] theorem published_apply (f : Setting) (p : Preferences) (c : Connection) :
    f.published (p.apply c) = f.preferred p := by cases f <;> rfl

@[simp] theorem preferred_prefer_self (f : Setting) (v : f.Value) (p : Preferences) :
    f.preferred (f.prefer v p) = v := by cases f <;> rfl

theorem preferred_prefer_of_ne {f g : Setting} (h : g ≠ f) (v : f.Value) (p : Preferences) :
    g.preferred (f.prefer v p) = g.preferred p := by
  cases f <;> cases g <;> first | rfl | exact absurd rfl h

/-- Where the instrument is has no part in the settings. -/
@[simp] theorem published_mk (f : Setting) (c : Connection) (port : UInt16) (address : String) :
    f.published { c with port, address } = f.published c := by cases f <;> rfl

end Setting

namespace Session

/-- The setting is as the preferences have it. -/
def InForce (s : Session) (f : Setting) : Prop :=
  f.published s.connection = f.preferred s.preferences

/-- The session with other preferences, and these in force. -/
def prefer (s : Session) (p : Preferences) : Session :=
  { s with preferences := p, connection := p.apply s.connection }

theorem inForce_prefer (s : Session) (p : Preferences) (f : Setting) : (s.prefer p).InForce f :=
  f.published_apply p s.connection

/-! ## Adjustments -/

/-- What is done to the settings. -/
inductive Adjustment where
  | commitPort (input : String)
  | commitAddress (input : String)
  | commitTimeout (input : String)
  | setSimulated (simulated : Bool)
  | setAutoSystErr (autoSystErr : Bool)
  | loadDefaults
  | reset
  | override (change : Connection → Connection)

namespace Adjustment

def act : Adjustment → Act Session Unit
  | .commitPort input => do
    let _ ← Session.commitPort input
  | .commitAddress input => do
    let _ ← Session.commitAddress input
  | .commitTimeout input => do
    let _ ← Session.commitTimeout input
  | .setSimulated simulated => Session.setSimulated simulated
  | .setAutoSystErr autoSystErr => Session.setAutoSystErr autoSystErr
  | .loadDefaults => do
    let _ ← Session.loadDefaults
  | .reset => do
    let _ ← Session.reset
  | .override change => Session.override change

/-- It is no override, or one that leaves alone what the preferences decide. -/
def Lasting : Adjustment → Prop
  | .override change => ∀ (f : Setting) (c : Connection), f.published (change c) = f.published c
  | _ => True

end Adjustment

def adjust : List Adjustment → Act Session Unit
  | [] => pure ()
  | a :: rest => do
    a.act
    adjust rest

/-- A session that takes up its preferences, and then is adjusted. -/
def adjusted (as : List Adjustment) : Act Session Unit := do
  loadPreferences
  adjust as

/-! ## What stays in force -/

/-- Others leave the settings in force, and they are in force whenever the server is asked. -/
def inForceTerms : Terms Session where
  rely s t := (∀ f, s.InForce f) → ∀ f, t.InForce f
  guarantee _ _ := True
  waiting _ e s := ∀ r, e = .request r → ∀ f, s.InForce f
  covers _ := True
  rely_refl _ := id
  rely_trans h h' := h' ∘ h
  guarantee_refl _ := trivial
  guarantee_trans _ _ := trivial
  covers_of_append := id

/-- The act leaves all settings in force. -/
def LeavesInForce {α : Type} (x : Act Session α) : Prop :=
  x.Meets inForceTerms (fun _ s => ∀ f, s.InForce f) fun _ s _ => ∀ f, s.InForce f

section

variable {α β : Type}

theorem LeavesInForce.bind {x : Act Session α} {f : α → Act Session β} (hx : LeavesInForce x)
    (hf : ∀ a, LeavesInForce (f a)) : LeavesInForce (x >>= f) :=
  Act.Meets.bind hx hf

theorem leavesInForce_pure (a : α) : LeavesInForce (pure a) :=
  Act.meets_pure a fun _ _ _ h => h

/-- What the act comes to may be passed over. -/
theorem LeavesInForce.discard {x : Act Session α} (hx : LeavesInForce x) :
    LeavesInForce (do let _ ← x) := hx.bind fun _ => leavesInForce_pure ()

theorem leavesInForce_get_bind {f : Session → Act Session β}
    (h : ∀ s, (∀ g, s.InForce g) → LeavesInForce (f s)) : LeavesInForce (get >>= f) :=
  fun record s hcovers hs => h s hs record s hcovers hs

theorem leavesInForce_modify {f : Session → Session}
    (h : ∀ s, (∀ g, s.InForce g) → ∀ g, (f s).InForce g) : LeavesInForce (modify f) :=
  Act.meets_modify fun _ s _ hs => ⟨trivial, h s hs⟩

theorem leavesInForce_perform (e : Effect) : LeavesInForce (Act.perform e) := by
  refine Act.meets_perform (fun _ s _ hs r hr => hs) fun _ s t a hs hrely _ => ?_
  exact hrely hs

/-- Between the change and its publication nobody asks the server, and it does not matter what was in
force before. -/
theorem meets_updatePreferences (change : Preferences → Preferences) :
    (updatePreferences change).Meets inForceTerms (fun _ _ => True)
      fun _ s _ => ∀ f, s.InForce f := by
  have hchange : (changePreferences change).Meets inForceTerms (fun _ _ => True)
      fun _ _ _ => True := by
    refine (Act.meets_modify (Q := fun _ _ _ => True) fun _ _ _ _ => ⟨trivial, trivial⟩).bind
      fun _ => Act.meets_get_bind_of_forall fun s => ?_
    -- It is the store that is asked here, not the server.
    refine Act.meets_perform (fun _ _ _ _ r hr => ?_) fun _ _ _ _ _ _ _ => trivial
    cases hr
  exact hchange.bind fun _ => Act.meets_modify fun _ s _ _ =>
    ⟨trivial, s.inForce_prefer s.preferences⟩

theorem leavesInForce_updatePreferences (change : Preferences → Preferences) :
    LeavesInForce (updatePreferences change) :=
  (meets_updatePreferences change).of_imp fun _ _ _ => trivial

/-- What is published before the server is asked to store it has no part in the settings. -/
theorem leavesInForce_publish {s : Session} {port : UInt16} {address : String} (r : Request)
    (a : α) (hs : ∀ f, s.InForce f) : LeavesInForce (do
      set { s with connection := { s.connection with port, address } }
      let _ ← Act.perform (.request r)
      pure a) := by
  refine Act.Meets.bind (Act.meets_set (Q := fun _ t _ => ∀ f, t.InForce f) fun _ _ _ _ => ?_)
    fun _ => ?_
  · exact ⟨trivial, fun f => (f.published_mk s.connection port address).trans (hs f)⟩
  · exact (leavesInForce_perform _).bind fun _ => leavesInForce_pure a

theorem leavesInForce_commitPort (input : String) : LeavesInForce (commitPort input) := by
  unfold commitPort
  cases readPort input with
  | error e => exact leavesInForce_pure _
  | ok port =>
    refine leavesInForce_get_bind fun s hs => ?_
    split
    · exact leavesInForce_pure _
    · exact leavesInForce_publish _ _ hs

theorem leavesInForce_commitAddress (input : String) : LeavesInForce (commitAddress input) := by
  refine leavesInForce_get_bind fun s hs => ?_
  split
  · exact leavesInForce_pure _
  · exact leavesInForce_publish _ _ hs

theorem leavesInForce_commitTimeout (input : String) : LeavesInForce (commitTimeout input) := by
  unfold commitTimeout
  cases readTimeout input with
  | error e => exact leavesInForce_pure _
  | ok seconds =>
    refine leavesInForce_get_bind fun s _ => ?_
    split
    · exact leavesInForce_pure _
    · exact (leavesInForce_updatePreferences _).bind fun _ => leavesInForce_pure _

theorem leavesInForce_loadDefaults : LeavesInForce loadDefaults := by
  refine (leavesInForce_perform _).bind fun answer => ?_
  cases answer with
  | error e => exact leavesInForce_pure _
  | ok port =>
    refine (leavesInForce_perform _).bind fun answer => ?_
    cases answer with
    | error e => exact leavesInForce_pure _
    | ok address =>
      refine (leavesInForce_modify fun s hs f => ?_).bind fun _ => ?_
      · exact (f.published_mk s.connection port address).trans (hs f)
      · exact leavesInForce_get_bind fun s _ => leavesInForce_pure _

theorem leavesInForce_reset : LeavesInForce reset := by
  refine (leavesInForce_perform _).bind fun answer => ?_
  cases answer with
  | error e => exact leavesInForce_pure _
  | ok _ => exact (leavesInForce_updatePreferences _).bind fun _ => leavesInForce_loadDefaults

/-- Every adjustment but an override of a setting keeps the settings in force. -/
theorem leavesInForce_act {a : Adjustment} (h : a.Lasting) : LeavesInForce a.act := by
  cases a with
  | commitPort input => exact (leavesInForce_commitPort input).discard
  | commitAddress input => exact (leavesInForce_commitAddress input).discard
  | commitTimeout input => exact (leavesInForce_commitTimeout input).discard
  | setSimulated simulated => exact leavesInForce_updatePreferences _
  | setAutoSystErr autoSystErr => exact leavesInForce_updatePreferences _
  | loadDefaults => exact leavesInForce_loadDefaults.discard
  | reset => exact leavesInForce_reset.discard
  | override change => exact leavesInForce_modify fun s hs f => (h f s.connection).trans (hs f)

theorem leavesInForce_adjust {as : List Adjustment} (h : ∀ a ∈ as, a.Lasting) :
    LeavesInForce (adjust as) := by
  induction as with
  | nil => exact leavesInForce_pure ()
  | cons a as ih =>
    obtain ⟨ha, has⟩ := List.forall_mem_cons.1 h
    exact (leavesInForce_act ha).bind fun _ => ih has

/-- What is taken up is in force, whatever was before. -/
theorem meets_adjusted {as : List Adjustment} (h : ∀ a ∈ as, a.Lasting) :
    (adjusted as).Meets inForceTerms (fun _ _ => True) fun _ s _ => ∀ f, s.InForce f := by
  have hload : loadPreferences.Meets inForceTerms (fun _ _ => True)
      fun _ s _ => ∀ f, s.InForce f := by
    refine (Act.meets_perform (Q := fun _ _ _ => True) (fun _ _ _ _ r hr => ?_) ?_).bind
      fun stored => Act.meets_modify fun _ s _ _ => ⟨trivial, fun f => f.published_apply _ _⟩
    · cases hr
    · exact fun _ _ _ _ _ _ _ => trivial
  exact hload.bind fun _ => leavesInForce_adjust h

end

/-! ## What the acts come to -/

section

variable {α : Type} {o : Oracle} {s : Session} {record : Record} {input : String}

/-- The preferences, on their way to the store. -/
def saving (p : Preferences) : Effect := .save .preferences p.toJson

/-- The change counts whether or not it could be stored. -/
theorem alone_updatePreferences (change : Preferences → Preferences) :
    (updatePreferences change).alone o s record =
      let p := change s.preferences
      ((s.prefer p, ()), record ++ [⟨saving p, o record (saving p)⟩]) := by
  rw [updatePreferences, Act.alone_bind, changePreferences, Act.alone_bind, Act.alone_modify,
    Act.alone_get_bind, Act.alone_perform, applyPreferences, Act.alone_modify]
  rfl

/-- What is published stays so, whatever the server answers. -/
theorem alone_publish (t : Session) (r : Request) (a : α) :
    (do set t; let _ ← Act.perform (.request r); pure a : Act Session α).alone o s record =
      ((t, a), record ++ [⟨.request r, o record (.request r)⟩]) := by
  rw [Act.alone_bind, Act.alone_set, Act.alone_bind, Act.alone_perform, Act.alone_pure]

theorem alone_commitPort_of_error {e : InputError} (h : readPort input = .error e) :
    (commitPort input).alone o s record = ((s, .error e), record) := by
  rw [commitPort, h]
  exact Act.alone_pure _ _ _

theorem alone_commitPort_of_ok {port : UInt16} (h : readPort input = .ok port) :
    (commitPort input).alone o s record =
      if s.connection.port = port then ((s, .ok .unchanged), record)
      else (({ s with connection := { s.connection with port } }, .ok .changed),
        record ++ [⟨.request (.setPort port), o record (.request (.setPort port))⟩]) := by
  rw [commitPort, h]
  refine (Act.alone_get_bind _ _ _).trans ?_
  split
  · exact Act.alone_pure _ _ _
  · exact alone_publish _ _ _

theorem alone_commitAddress {address : String} (h : Text.trimmed input = address) :
    (commitAddress input).alone o s record =
      if address = "" ∨ s.connection.address = address then ((s, .unchanged), record)
      else (({ s with connection := { s.connection with address } }, .changed),
        record ++ [⟨.request (.setAddress address), o record (.request (.setAddress address))⟩]) := by
  subst h
  refine (Act.alone_get_bind _ _ _).trans ?_
  split
  · exact Act.alone_pure _ _ _
  · exact alone_publish _ _ _

theorem alone_commitTimeout_of_error {e : InputError} (h : readTimeout input = .error e) :
    (commitTimeout input).alone o s record = ((s, .error e), record) := by
  rw [commitTimeout, h]
  exact Act.alone_pure _ _ _

/-- Whether the timeout is new is a question of what is published, not of what is preferred. -/
theorem alone_commitTimeout_of_ok {seconds : UInt32} (h : readTimeout input = .ok seconds) :
    (commitTimeout input).alone o s record =
      if s.connection.timeoutSeconds = seconds then ((s, .ok .unchanged), record)
      else
        let p := Setting.timeoutSeconds.prefer seconds s.preferences
        ((s.prefer p, .ok .changed), record ++ [⟨saving p, o record (saving p)⟩]) := by
  rw [commitTimeout, h]
  refine (Act.alone_get_bind _ _ _).trans ?_
  split
  · exact Act.alone_pure _ _ _
  · rw [Act.alone_bind, alone_updatePreferences, Act.alone_pure]
    rfl

/-- Either request may fail, and then neither answer is taken over. -/
theorem alone_loadDefaults (o : Oracle) (s : Session) (record : Record) :
    (∃ e, loadDefaults.alone o s record =
      ((s, .error e), record ++ [⟨.request .port, .error e⟩])) ∨
    (∃ port e, loadDefaults.alone o s record =
      ((s, .error e), record ++ [⟨.request .port, .ok port⟩, ⟨.request .address, .error e⟩])) ∨
    ∃ port address, let connection := { s.connection with port, address }
      loadDefaults.alone o s record = (({ s with connection }, .ok connection),
        record ++ [⟨.request .port, .ok port⟩, ⟨.request .address, .ok address⟩]) := by
  rw [loadDefaults, Act.alone_bind, Act.alone_perform]
  cases o record (.request .port) with
  | error e => exact .inl ⟨e, Act.alone_pure _ _ _⟩
  | ok port =>
    refine .inr ?_
    dsimp only
    rw [Act.alone_bind, Act.alone_perform, List.append_assoc]
    cases o (record ++ [⟨.request .port, .ok port⟩]) (.request .address) with
    | error e => exact .inl ⟨port, e, Act.alone_pure _ _ _⟩
    | ok address =>
      refine .inr ⟨port, address, ?_⟩
      dsimp only
      rw [Act.alone_bind, Act.alone_modify, Act.alone_get_bind, Act.alone_pure]
      rfl

/-- If one of the two requests fails, so does the whole, and nothing changes. -/
theorem alone_loadDefaults_of_failed {more : Record} {r : Request} {e : ServerError}
    (hmore : (loadDefaults.alone o s record).2 = record ++ more)
    (hfailed : ⟨.request r, .error e⟩ ∈ more) : (loadDefaults.alone o s record).1 = (s, .error e) := by
  rcases alone_loadDefaults o s record with ⟨e', hloaded⟩ | ⟨port, e', hloaded⟩ | ⟨port, address, hloaded⟩
  -- What is new on the record are the exchanges of the case at hand.
  all_goals
    rw [hloaded] at hmore ⊢
    obtain rfl := List.append_cancel_left hmore
  · cases List.mem_singleton.1 hfailed
    rfl
  · rcases List.mem_pair.1 hfailed with hport | haddress
    · cases hport
    · cases haddress
      rfl
  · rcases List.mem_pair.1 hfailed with hport | haddress
    · cases hport
    · cases haddress

/-- What is reported as changed is published, whatever the server answered. -/
theorem connection_of_commitPort_changed
    (h : ((commitPort input).alone o s record).1.2 = .ok .changed) :
    ∃ port, readPort input = .ok port ∧
      ((commitPort input).alone o s record).1.1.connection = { s.connection with port } := by
  cases hport : readPort input with
  | error e =>
    rw [alone_commitPort_of_error hport] at h
    cases h
  | ok port =>
    refine ⟨port, rfl, ?_⟩
    rw [alone_commitPort_of_ok hport] at h ⊢
    split at h
    · cases h
    · next hport => rw [if_neg hport]

theorem connection_of_commitAddress_changed
    (h : ((commitAddress input).alone o s record).1.2 = .changed) :
    ((commitAddress input).alone o s record).1.1.connection =
      { s.connection with address := Text.trimmed input } := by
  rw [alone_commitAddress rfl] at h ⊢
  split at h
  · cases h
  · next haddress => rw [if_neg haddress]

end

/-! ## Settings mirror preferences -/

/-- **Settings mirror preferences.** A session takes up its preferences, and its settings are adjusted any
number of times; no override touches what the preferences decide. Whatever requests fail and whatever
cannot be stored, the settings are as the preferences have them, in the end and whenever the server is asked.
There input that is refused changes nothing and asks for nothing, as does a blank address; a failed request
for port or address leaves both as they were; and a port or an address that is reported as changed is the
one that was typed, whether or not the server took it. -/
theorem settings_mirror_preferences {as : List Adjustment} (h : ∀ a ∈ as, a.Lasting) (o : Oracle)
    (start : Session) (before : Record) :
    let reached := (adjusted as).alone o start before
    let s := reached.1.1
    let record := reached.2
    (∀ f, s.InForce f) ∧
    (∀ w ∈ (adjusted as).waits o start before, ∀ r, w.2 = .request r → ∀ f, w.1.InForce f) ∧
    (∀ input e, readPort input = .error e →
      (commitPort input).alone o s record = ((s, .error e), record)) ∧
    (∀ input e, readTimeout input = .error e →
      (commitTimeout input).alone o s record = ((s, .error e), record)) ∧
    (∀ input, Text.trimmed input = "" →
      (commitAddress input).alone o s record = ((s, .unchanged), record)) ∧
    (∀ more r e, let loaded := loadDefaults.alone o s record
      loaded.2 = record ++ more → ⟨.request r, .error e⟩ ∈ more → loaded.1 = (s, .error e)) ∧
    (∀ input, let committed := (commitPort input).alone o s record
      committed.1.2 = .ok .changed → ∃ port, readPort input = .ok port ∧
        committed.1.1.connection = { s.connection with port }) ∧
    ∀ input, let committed := (commitAddress input).alone o s record
      committed.1.2 = .changed →
        committed.1.1.connection = { s.connection with address := Text.trimmed input } := by
  intro reached s record
  refine ⟨(meets_adjusted h).alone trivial trivial, ?_, fun _ _ => alone_commitPort_of_error,
    fun _ _ => alone_commitTimeout_of_error, fun input hblank => ?_,
    fun _ _ _ => alone_loadDefaults_of_failed, fun _ => connection_of_commitPort_changed,
    fun _ => connection_of_commitAddress_changed⟩
  · intro w hw
    obtain ⟨asked, hwaiting⟩ := (meets_adjusted h).waiting trivial trivial w hw
    exact hwaiting
  · rw [alone_commitAddress hblank]
    exact if_pos (.inl rfl)

/-- Answers of a server that is not there, with a disk that takes nothing. -/
def failing : Oracle := fun record e =>
  match e with
  | .save _ _ => .error (.io (.other "disk full"))
  | e => scripted [] 0 record e

def stubborn : List Adjustment :=
  [.commitPort "5025", .setSimulated true, .reset, .commitTimeout "30", .loadDefaults,
    .override fun c => { c with address := "bench" }]

@[irreducible]
def stubbornSession : (Session × Unit) × Record := (adjusted stubborn).alone failing {} []

theorem lasting_stubborn : ∀ a ∈ stubborn, a.Lasting := by
  simp [stubborn, Adjustment.Lasting]

theorem settings_mirror_preferences_failing :
    (∀ a ∈ stubborn, a.Lasting) ∧
    let s := stubbornSession.1.1
    let record := stubbornSession.2
    s.connection = ⟨true, true, 30, 5025, "bench"⟩ ∧ (∀ f, s.InForce f) ∧
      (commitPort "70000").alone failing s record =
        ((s, .error (.outOfRange .port 70000)), record) := by
  have hmirrors := settings_mirror_preferences lasting_stubborn failing {} []
  rw [← stubbornSession] at hmirrors
  obtain ⟨hinForce, -, hrefused, -⟩ := hmirrors
  exact ⟨lasting_stubborn, by decide +kernel, hinForce, hrefused "70000" _ rfl⟩

/-! ## One setting at a time -/

/-- From `s` to `t` one setting has got a value, both kept and published. Where the instrument is has not
changed, and of the other settings those have not changed that were in force. -/
structure Chosen (f : Setting) (v : f.Value) (s t : Session) : Prop where
  published : f.published t.connection = v
  preferred : f.preferred t.preferences = v
  port : t.connection.port = s.connection.port
  address : t.connection.address = s.connection.address
  kept_iff : ∀ g, g ≠ f → (g.published t.connection = g.published s.connection ↔ s.InForce g)

theorem chosen_prefer (f : Setting) (v : f.Value) (s : Session) :
    Chosen f v s (s.prefer (f.prefer v s.preferences)) where
  published := (f.published_apply _ _).trans (f.preferred_prefer_self v s.preferences)
  preferred := f.preferred_prefer_self v s.preferences
  port := rfl
  address := rfl
  kept_iff g hg := by
    have hpublished := g.published_apply (f.prefer v s.preferences) s.connection
    rw [Setting.preferred_prefer_of_ne hg] at hpublished
    rw [prefer, hpublished]
    exact eq_comm

theorem chosen_updatePreferences (f : Setting) (v : f.Value) (o : Oracle) (s : Session)
    (record : Record) : Chosen f v s ((updatePreferences (f.prefer v)).alone o s record).1.1 := by
  rw [alone_updatePreferences]
  exact chosen_prefer f v s

/-- A timeout that is published counts as committed, whatever is preferred. -/
theorem commitTimeout_cases {input : String} {seconds : UInt32} (h : readTimeout input = .ok seconds)
    (o : Oracle) (s : Session) (record : Record) :
    let committed := (commitTimeout input).alone o s record
    let t := committed.1.1
    committed = ((s, .ok .unchanged), record) ∧ s.connection.timeoutSeconds = seconds ∨
    committed.1.2 = .ok .changed ∧ s.connection.timeoutSeconds ≠ seconds ∧
      Chosen .timeoutSeconds seconds s t ∧
      ∃ stored, committed.2 = record ++ [⟨saving t.preferences, stored⟩] := by
  rw [alone_commitTimeout_of_ok h]
  split
  · next hpublished => exact .inl ⟨rfl, hpublished⟩
  · next hpublished => exact .inr ⟨rfl, hpublished, chosen_prefer .timeoutSeconds seconds s, _, rfl⟩

/-- **One setting at a time.** A session takes up its preferences, and its settings are adjusted any number
of times, also by overrides. If then one setting is changed, it has its value, and each of the others stays
as it is published exactly if it is in force: an override of it is lost. A timeout that is published already
is not committed again, so it joins the preferences exactly if it is new, or in force. Unless something
was overridden, all settings are in force. -/
theorem others_kept_iff_inForce (as : List Adjustment) (o : Oracle) (start : Session)
    (before : Record) :
    let reached := (adjusted as).alone o start before
    let s := reached.1.1
    let record := reached.2
    (∀ on, Chosen .simulated on s ((setSimulated on).alone o s record).1.1) ∧
    (∀ on, Chosen .autoSystErr on s ((setAutoSystErr on).alone o s record).1.1) ∧
    (∀ input seconds, readTimeout input = .ok seconds →
      let committed := (commitTimeout input).alone o s record
      let t := committed.1.1
      (committed = ((s, .ok .unchanged), record) ∧ s.connection.timeoutSeconds = seconds ∨
        committed.1.2 = .ok .changed ∧ s.connection.timeoutSeconds ≠ seconds ∧
        Chosen .timeoutSeconds seconds s t ∧
        ∃ stored, committed.2 = record ++ [⟨saving t.preferences, stored⟩]) ∧
      t.connection.timeoutSeconds = seconds ∧
      (t.preferences.timeoutSeconds = seconds ↔
        (s.connection.timeoutSeconds = seconds → s.InForce .timeoutSeconds))) ∧
    ((∀ a ∈ as, a.Lasting) → ∀ f, s.InForce f) := by
  intro reached s record
  refine ⟨fun on => chosen_updatePreferences .simulated on o s record,
    fun on => chosen_updatePreferences .autoSystErr on o s record, fun input seconds hread => ?_,
    fun h => (meets_adjusted h).alone trivial trivial⟩
  intro committed t
  have hcases := commitTimeout_cases hread o s record
  refine ⟨hcases, ?_⟩
  rcases hcases with ⟨hcommitted, hpublished⟩ | ⟨-, hpublished, hchosen, -⟩
  · have ht : t = s := congrArg (·.1.1) hcommitted
    rw [ht]
    refine ⟨hpublished, fun hpreferred _ => hpublished.trans hpreferred.symm, fun hinForce => ?_⟩
    exact (hinForce hpublished).symm.trans hpublished
  · exact ⟨hchosen.published, fun _ h => absurd h hpublished, fun _ => hchosen.preferred⟩

/-- For this session the timeout is short and the error queue is not read. -/
@[irreducible]
def hurried : (Session × Unit) × Record :=
  (adjusted [.override fun c => { c with autoSystErr := false, timeoutSeconds := 3 }]).alone
    (scripted [] 0) {} []

theorem others_kept_hurried :
    readTimeout "30" = .ok 30 ∧
    Chosen .simulated true hurried.1.1
      ((setSimulated true).alone (scripted [] 0) hurried.1.1 hurried.2).1.1 ∧
    ((commitTimeout "30").alone (scripted [] 0) hurried.1.1 hurried.2).1.1.connection.timeoutSeconds =
      30 := by
  have hkept := others_kept_iff_inForce
    [.override fun c => { c with autoSystErr := false, timeoutSeconds := 3 }] (scripted [] 0) {} []
  rw [← hurried] at hkept
  obtain ⟨hsimulated, -, htimeout, -⟩ := hkept
  exact ⟨rfl, hsimulated true, (htimeout "30" 30 rfl).2.1⟩

/-- A simulated instrument ends both overrides, and another timeout has the error queue read again. The
timeout in force is no preference, and committing it does not make it one. -/
theorem overrides_lost_hurried :
    let s := hurried.1.1
    let simulated := ((setSimulated true).alone (scripted [] 0) s hurried.2).1.1
    let slow := (commitTimeout "30").alone (scripted [] 0) s hurried.2
    let same := (commitTimeout "3").alone (scripted [] 0) s hurried.2
    s.connection = ⟨false, false, 3, 0, ""⟩ ∧ simulated.connection = ⟨true, true, 10, 0, ""⟩ ∧
      slow.1.1.connection = ⟨false, true, 30, 0, ""⟩ ∧
      same.1.2.toOption = some .unchanged ∧ same.1.1.connection.timeoutSeconds = 3 ∧
      same.1.1.preferences.timeoutSeconds = 10 := by
  decide +kernel

end Session

end ScpiConsole
