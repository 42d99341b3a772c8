import RecordStore.Proofs.Play
import RecordStore.Store.Basic

namespace RecordStore

/-!
# What actions ensure

An action is judged by its play: the log, the outcome and the state it ends in. The rules below take
an action apart along the way it is put together, so that the plays of store operations are read off
their text.
-/

instance : LawfulMonad Program :=
  .mk' Program (fun p ↦ Program.bind_done p) (fun _ _ ↦ rfl) fun p f g ↦ Program.bind_assoc p f g

/-- The notices that the trigger of a store is told, if there is one. -/
def Store.told (store : Store) (notices : List Notice) : List Notice :=
  if store.hasTrigger then notices else []

namespace Action

variable {σ α β : Type} {surface : Surface σ} {d : Dialect} {s : σ}

theorem ofArgument_ok_bind (a : α) (f : α → Action β) : ofArgument (.ok a) >>= f = f a := rfl

theorem ofArgument_error_bind (fault : ArgumentFault) (f : α → Action β) :
    ofArgument (.error fault) >>= f = throw (.illegalArgument fault) := rfl

/-- The play of the action from the state `s` satisfies `Q`. -/
def Ensures (surface : Surface σ) (d : Dialect) (a : Action α) (s : σ)
    (Q : List Entry → Except Error α → σ → Prop) : Prop :=
  let q := Program.play surface d a.run s
  Q q.log q.result q.state

/-- What an action that goes on with `f` has to ensure so that the whole ensures `Q`. -/
def Then (surface : Surface σ) (d : Dialect) (f : α → Action β)
    (Q : List Entry → Except Error β → σ → Prop) : List Entry → Except Error α → σ → Prop
  | log, .ok a, s => (f a).Ensures surface d s fun log' ↦ Q (log ++ log')
  | log, .error e, s => Q log (.error e) s

theorem Ensures.mono {a : Action α} {Q Q' : List Entry → Except Error α → σ → Prop}
    (h : a.Ensures surface d s Q) (hQ : ∀ log outcome s', Q log outcome s' → Q' log outcome s') :
    a.Ensures surface d s Q' :=
  hQ _ _ _ h

theorem ensures_pure {a : α} {Q : List Entry → Except Error α → σ → Prop} :
    (pure a : Action α).Ensures surface d s Q ↔ Q [] (.ok a) s := .rfl

theorem ensures_throw {e : Error} {Q : List Entry → Except Error α → σ → Prop} :
    (throw e : Action α).Ensures surface d s Q ↔ Q [] (.error e) s := .rfl

theorem ensures_ofExcept {e : Except Error α} {Q : List Entry → Except Error α → σ → Prop} :
    (ofExcept e).Ensures surface d s Q ↔ Q [] e s := .rfl

theorem ensures_bind {a : Action α} {f : α → Action β}
    {Q : List Entry → Except Error β → σ → Prop} :
    (a >>= f).Ensures surface d s Q ↔ a.Ensures surface d s (Then surface d f Q) := by
  have hplay := Program.play_bind surface d a.run (ExceptT.bindCont f) s
  have hrun : (a >>= f).run = a.run.bind (ExceptT.bindCont f) := rfl
  simp only [Ensures, hrun, hplay]
  cases (Program.play surface d a.run s).result with
  | ok x => exact .rfl
  | error e => simp [ExceptT.bindCont, Then, Program.play]

theorem ensures_map {a : Action α} {f : α → β} {Q : List Entry → Except Error β → σ → Prop} :
    (f <$> a).Ensures surface d s Q ↔
      a.Ensures surface d s fun log outcome s' ↦ Q log (outcome.map f) s' := by
  have hmap : f <$> a = a >>= fun x ↦ pure (f x) := rfl
  rw [hmap, ensures_bind]
  simp only [Ensures]
  cases (Program.play surface d a.run s).result with
  | ok x => simp [Then, ensures_pure, Except.map]
  | error e => simp [Then, Except.map]

theorem ensures_discard {a : Action α} {Q : List Entry → Except Error Unit → σ → Prop} :
    (discard a).Ensures surface d s Q ↔
      a.Ensures surface d s fun log outcome s' ↦ Q log (outcome.map fun _ ↦ ()) s' :=
  ensures_map

theorem ensures_perform {k : ReplyKind} {c : Call Request k} {spelled : Call String k}
    (hc : c.inDialect d = .ok spelled) {Q : List Entry → Except Error k.Reply → σ → Prop} :
    (perform c).Ensures surface d s Q ↔
      Q [.exchange ⟨spelled, (surface.answer spelled s).1⟩] (surface.answer spelled s).1
        (surface.answer spelled s).2 := by
  simp only [Ensures, perform, ExceptT.run_mk, Program.play, hc]

theorem ensures_perform_error {k : ReplyKind} {c : Call Request k} {e : Error}
    (hc : c.inDialect d = .error e) {Q : List Entry → Except Error k.Reply → σ → Prop} :
    (perform c).Ensures surface d s Q ↔ Q [] (.error e) s := by
  simp only [Ensures, perform, ExceptT.run_mk, Program.play, hc]

theorem ensures_tell {n : Notice} {Q : List Entry → Except Error Unit → σ → Prop} :
    (tell n).Ensures surface d s Q ↔ Q [.notice n] (.ok ()) s := .rfl

theorem ensures_tellAll {notices : List Notice} {Q : List Entry → Except Error Unit → σ → Prop} :
    (tellAll notices).Ensures surface d s Q ↔ Q (notices.map .notice) (.ok ()) s := by
  induction notices generalizing Q with
  | nil => exact ensures_pure
  | cons n notices ih =>
      rw [tellAll, ensures_bind, ensures_tell]
      simp only [Then, ih, List.map_cons, List.singleton_append]

theorem ensures_attempt {a : Action α} {Q : List Entry → Except Error (Except Error α) → σ → Prop} :
    a.attempt.Ensures surface d s Q ↔
      a.Ensures surface d s fun log outcome s' ↦ Q log (.ok outcome) s' := by
  simp [Ensures, attempt, Program.play_bind, Program.play]

theorem ensures_during {operation typeName : String} {subject : Subject} {a : Action α}
    {Q : List Entry → Except Error α → σ → Prop} :
    (a.during operation typeName subject).Ensures surface d s Q ↔
      a.Ensures surface d s fun log outcome s' ↦
        Q log (outcome.mapError (Error.during operation typeName subject)) s' := by
  simp [Ensures, during, Program.play_bind, Program.play]

theorem ensures_announce {store : Store} {notices : List Notice}
    {Q : List Entry → Except Error Unit → σ → Prop} :
    (store.announce notices).Ensures surface d s Q ↔
      Q ((store.told notices).map .notice) (.ok ()) s := by
  unfold Store.announce Store.told
  split
  · exact ensures_tellAll
  · exact ensures_pure

/-! ## Statements that are asked for -/

/-- The action asks for nothing but statements of which `P` holds. -/
def Asks (P : Request → Prop) (a : Action α) : Prop :=
  Program.Asks P a.run

/-- The action only asks for statements that registered layouts have. -/
def Within (r : Registry) (a : Action α) : Prop :=
  a.Asks r.Knows

section

variable {P : Request → Prop}

theorem asks_pure (a : α) : (pure a : Action α).Asks P := trivial

theorem asks_throw (e : Error) : (throw e : Action α).Asks P := trivial

theorem asks_ofExcept (e : Except Error α) : (ofExcept e).Asks P := trivial

theorem asks_tell (n : Notice) : (tell n).Asks P := trivial

theorem Asks.bind {a : Action α} {f : α → Action β} (ha : a.Asks P) (hf : ∀ x, (f x).Asks P) :
    (a >>= f).Asks P := by
  refine Program.Asks.bind ha fun outcome ↦ ?_
  cases outcome with
  | ok x => exact hf x
  | error e => trivial

theorem Asks.attempt {a : Action α} (ha : a.Asks P) : a.attempt.Asks P :=
  Program.Asks.bind ha fun _ ↦ trivial

theorem Asks.during {a : Action α} (ha : a.Asks P) (operation typeName : String)
    (subject : Subject) : (a.during operation typeName subject).Asks P :=
  Program.Asks.bind ha fun _ ↦ trivial

theorem Asks.map {a : Action α} (ha : a.Asks P) (f : α → β) : (f <$> a).Asks P :=
  Asks.bind ha fun x ↦ asks_pure (f x)

theorem Asks.discard {a : Action α} (ha : a.Asks P) : (discard a).Asks P :=
  ha.map _

theorem asks_perform {k : ReplyKind} {c : Call Request k}
    (hc : ∀ request ∈ c.statement?, P request) : (perform c).Asks P :=
  ⟨hc, fun _ ↦ trivial⟩

/-- The calls that begin and end a transaction ask for no statement. -/
theorem asks_control (c : Call Request .done) : (perform c).Asks P := by
  cases c with
  | openTransaction | commit | rollback => exact asks_perform (by simp [Call.statement?])

section

variable {request : Request} (hrequest : P request)

include hrequest

theorem asks_query (inTransaction : Bool) (params : List Value) (shape : List FieldType) :
    (perform (.query inTransaction request params shape)).Asks P :=
  asks_perform (by simpa [Call.statement?] using hrequest)

theorem asks_write (inTransaction : Bool) (params : List Value) :
    (perform (.write inTransaction request params)).Asks P :=
  asks_perform (by simpa [Call.statement?] using hrequest)

theorem asks_batchWrite (inTransaction : Bool) (rows : List Row) :
    (perform (.batchWrite inTransaction request rows)).Asks P :=
  asks_perform (by simpa [Call.statement?] using hrequest)

end

theorem asks_tellAll (notices : List Notice) : (tellAll notices).Asks P := by
  induction notices with
  | nil => exact asks_pure ()
  | cons n notices ih => exact (asks_tell n).bind fun _ ↦ ih

theorem asks_announce (store : Store) (notices : List Notice) :
    (store.announce notices).Asks P := by
  unfold Store.announce
  split
  · exact asks_tellAll notices
  · exact asks_pure ()

end

variable {r : Registry}

/-- What an action ensures holds of its run over a reachable registry. -/
theorem Ensures.run {a : Action α} {Q : List Entry → Except Error α → σ → Prop}
    (h : a.Ensures surface d s Q) (hr : r.Reachable) (ha : a.Within r) :
    let o := Program.run surface d a.run r s
    (∃ log, o.events = log.map Entry.event ∧
      surface.Conducts s (log.filterMap Entry.exchange?) o.state ∧ Q log o.result o.state) ∧
      o.registry.Reachable ∧ o.registry.get? = r.get? := by
  obtain ⟨hevents, hresult, hstate, hreachable, hget⟩ :=
    Program.run_eq_play surface d hr ha s
  refine ⟨⟨_, hevents, ?_, ?_⟩, hreachable, hget⟩
  · rw [hstate]
    exact Program.play_conducts a.run s
  · rw [hresult, hstate]
    exact h

end Action

end RecordStore
