import RecordStore.Program
import RecordStore.Proofs.Registry

namespace RecordStore

/-!
# Runs with their answers

A run only keeps the calls that were made. Here it is played with the answers beside the calls and
with every statement spelled anew, without a registry. Over a reachable registry a run is its play,
so what an operation does can be read off its play, step by step.
-/

structure Exchange where
  {kind : ReplyKind}
  call : Call String kind
  reply : Except Error kind.Reply

inductive Entry
  | exchange (e : Exchange)
  | notice (n : Notice)

def Exchange.event (e : Exchange) : Event :=
  .call e.call

def Entry.event : Entry → Event
  | exchange e => e.event
  | notice n => .notice n

def Entry.exchange? : Entry → Option Exchange
  | exchange e => some e
  | notice _ => none

structure Play (σ α : Type) where
  log : List Entry
  result : α
  state : σ

variable {σ α β : Type} {surface : Surface σ} {d : Dialect}

def Call.statement? {τ : Type} {k : ReplyKind} : Call τ k → Option τ
  | query _ statement _ _ => some statement
  | write _ statement _ => some statement
  | batchWrite _ statement _ => some statement
  | openTransaction _ => none
  | commit => none
  | rollback => none

/-- The request is about a registered layout, which has the statement that is asked for. -/
structure Registry.Knows (r : Registry) (request : Request) : Prop where
  registered : r.get? request.layout.typeName = some request.layout
  worded : (request.layout.command? request.statement request.count).isSome

theorem Registry.Reachable.knows {r : Registry} (hr : r.Reachable) {typeName : String} {l : Layout}
    (hl : r.get? typeName = some l) {s : Statement} {count : Nat}
    (hworded : (l.command? s count).isSome) : r.Knows ⟨l, s, count⟩ :=
  ⟨by rw [(hr.sound.layouts hl).1, hl], hworded⟩

/-- The call with its statement spelled without a book. -/
def Call.inDialect {k : ReplyKind} (d : Dialect) :
    Call Request k → Except Error (Call String k)
  | query inTransaction request params shape =>
    Error.ofArgument ((request.layout.text d request.statement request.count).map
      fun sql ↦ query inTransaction (sql.getD "") params shape)
  | write inTransaction request params =>
    Error.ofArgument ((request.layout.text d request.statement request.count).map
      fun sql ↦ write inTransaction (sql.getD "") params)
  | batchWrite inTransaction request rows =>
    Error.ofArgument ((request.layout.text d request.statement request.count).map
      fun sql ↦ batchWrite inTransaction (sql.getD "") rows)
  | openTransaction isolation => .ok (openTransaction isolation)
  | commit => .ok commit
  | rollback => .ok rollback

theorem Call.spell_fst {k : ReplyKind} {r : Registry} (hr : r.Sound) (c : Call Request k)
    (hc : ∀ request ∈ c.statement?, r.Knows request) : (c.spell d r).1 = c.inDialect d := by
  cases c with
  | query inTransaction request params shape =>
      simp [spell, inDialect, Registry.statement_fst hr (hc request rfl).registered]
  | write inTransaction request params =>
      simp [spell, inDialect, Registry.statement_fst hr (hc request rfl).registered]
  | batchWrite inTransaction request rows =>
      simp [spell, inDialect, Registry.statement_fst hr (hc request rfl).registered]
  | openTransaction isolation => rfl
  | commit => rfl
  | rollback => rfl

theorem Call.spell_snd {k : ReplyKind} {r : Registry} (hr : r.Reachable) (c : Call Request k)
    (hc : ∀ request ∈ c.statement?, r.Knows request) :
    (c.spell d r).2.Reachable ∧ (c.spell d r).2.get? = r.get? := by
  cases c with
  | query inTransaction request params shape =>
      exact ⟨.statement d _ _ (hc request rfl).registered hr, Registry.get?_statement ..⟩
  | write inTransaction request params =>
      exact ⟨.statement d _ _ (hc request rfl).registered hr, Registry.get?_statement ..⟩
  | batchWrite inTransaction request rows =>
      exact ⟨.statement d _ _ (hc request rfl).registered hr, Registry.get?_statement ..⟩
  | openTransaction isolation => exact ⟨hr, rfl⟩
  | commit => exact ⟨hr, rfl⟩
  | rollback => exact ⟨hr, rfl⟩

theorem Call.layouts_spell {k : ReplyKind} {r : Registry} (c : Call Request k) :
    (c.spell d r).2.layouts = r.layouts := by
  cases c with
  | query inTransaction request params shape => exact Registry.layouts_statement ..
  | write inTransaction request params => exact Registry.layouts_statement ..
  | batchWrite inTransaction request rows => exact Registry.layouts_statement ..
  | openTransaction isolation => rfl
  | commit => rfl
  | rollback => rfl

namespace Program

/-- The program asks for nothing but statements of which `P` holds. -/
def Asks (P : Request → Prop) : Program α → Prop
  | done _ => True
  | call c next => (∀ request ∈ c.statement?, P request) ∧ ∀ reply, (next reply).Asks P
  | notify _ next => next.Asks P

/-- The program only asks for statements that registered layouts have. -/
def Within (r : Registry) (p : Program α) : Prop :=
  p.Asks r.Knows

section

variable {P P' : Request → Prop}

theorem Asks.bind {p : Program α} {f : α → Program β} (hp : p.Asks P) (hf : ∀ a, (f a).Asks P) :
    (p.bind f).Asks P := by
  induction p with
  | done a => exact hf a
  | call c next ih => exact ⟨hp.1, fun reply ↦ ih reply (hp.2 reply)⟩
  | notify n next ih => exact ih hp

theorem Asks.mono {p : Program α} (hp : p.Asks P) (h : ∀ request, P request → P' request) :
    p.Asks P' := by
  induction p with
  | done a => trivial
  | call c next ih =>
      exact ⟨fun request hc ↦ h request (hp.1 request hc), fun reply ↦ ih reply (hp.2 reply)⟩
  | notify n next ih => exact ih hp

end

theorem Within.of_get? {r r' : Registry} {p : Program α} (h : r'.get? = r.get?)
    (hp : p.Within r) : p.Within r' :=
  Asks.mono hp fun _ hrequest ↦ ⟨h ▸ hrequest.registered, hrequest.worded⟩

/-- Spelling statements opens and fills books, but registers nothing. -/
theorem layouts_run (surface : Surface σ) (d : Dialect) (p : Program α) (r : Registry) (s : σ) :
    (p.run surface d r s).registry.layouts = r.layouts := by
  induction p generalizing r s with
  | done a => rfl
  | notify n next ih => exact ih r s
  | call c next ih =>
      have hspell := c.layouts_spell (d := d) (r := r)
      simp only [run]
      split
      · next spelled r' hc =>
        rw [hc] at hspell
        exact (ih _ r' _).trans hspell
      · next e r' hc =>
        rw [hc] at hspell
        exact (ih _ r' s).trans hspell

def play (surface : Surface σ) (d : Dialect) : Program α → σ → Play σ α
  | done a, s => ⟨[], a, s⟩
  | notify n next, s =>
    let rest := next.play surface d s
    { rest with log := .notice n :: rest.log }
  | call c next, s =>
    match c.inDialect d with
    | .ok spelled =>
      let (reply, s) := surface.answer spelled s
      let rest := (next reply).play surface d s
      { rest with log := .exchange ⟨spelled, reply⟩ :: rest.log }
    | .error e => (next (.error e)).play surface d s

variable (surface d)

/-- A run over a reachable registry is its play. The registry stays reachable and keeps its
layouts. -/
theorem run_eq_play {r : Registry} (hr : r.Reachable) {p : Program α} (hp : p.Within r) (s : σ) :
    let o := p.run surface d r s
    let q := p.play surface d s
    o.events = q.log.map Entry.event ∧ o.result = q.result ∧ o.state = q.state ∧
      o.registry.Reachable ∧ o.registry.get? = r.get? := by
  induction p generalizing r s with
  | done a => exact ⟨rfl, rfl, rfl, hr, rfl⟩
  | notify n next ih =>
      obtain ⟨hevents, hrest⟩ := ih hr hp s
      exact ⟨congrArg (Event.notice n :: ·) hevents, hrest⟩
  | call c next ih =>
      have hfst := c.spell_fst (d := d) hr.sound hp.1
      obtain ⟨hreachable, hget⟩ := c.spell_snd (d := d) hr hp.1
      have hnext := fun reply ↦ Within.of_get? hget (hp.2 reply)
      cases hspell : c.spell d r with
      | mk text r' =>
          rw [hspell] at hfst hreachable hget hnext
          dsimp only at hfst hreachable hget hnext
          cases text with
          | ok spelled =>
              have hrest := ih (surface.answer spelled s).1 hreachable (hnext _)
                (surface.answer spelled s).2
              obtain ⟨hevents, hresult, hstate, hr', hget'⟩ := hrest
              simp only [run, play, hspell, ← hfst, List.map_cons]
              exact ⟨congrArg (Event.call spelled :: ·) hevents, hresult, hstate, hr',
                hget'.trans hget⟩
          | error e =>
              obtain ⟨hevents, hresult, hstate, hr', hget'⟩ :=
                ih (.error e) hreachable (hnext _) s
              simp only [run, play, hspell, ← hfst]
              exact ⟨hevents, hresult, hstate, hr', hget'.trans hget⟩

theorem play_bind (p : Program α) (f : α → Program β) (s : σ) :
    let q := p.play surface d s
    let q' := (f q.result).play surface d q.state
    (p.bind f).play surface d s = { q' with log := q.log ++ q'.log } := by
  induction p generalizing s with
  | done a => rfl
  | notify n next ih => simp [play, ih]
  | call c next ih =>
      simp only [call_bind, play]
      split <;> simp [ih]

end Program

/-! ## Statements of a run -/

def Event.statement? : Event → Option String
  | call c => c.statement?
  | notice _ => none

/-- The text that is asked for, if the layout has the statement. -/
theorem Request.text_of_map {τ : Type} {request : Request}
    (hworded : (request.layout.command? request.statement request.count).isSome)
    (make : String → τ) {made : τ}
    (h : Error.ofArgument ((request.layout.text d request.statement request.count).map
      fun sql ↦ make (sql.getD "")) = .ok made) :
    ∃ text, request.layout.text d request.statement request.count = .ok (some text) ∧
      make text = made := by
  obtain ⟨c, hc⟩ := Option.isSome_iff_exists.mp hworded
  rw [Layout.text] at h ⊢
  split at h
  · cases h
  · next hcount =>
    rw [Layout.sql?, hc] at h
    rw [if_neg hcount, Layout.sql?, hc]
    exact ⟨c.render d, rfl, Except.ok.inj h⟩

theorem Call.text_of_inDialect {k : ReplyKind} {c : Call Request k}
    (hworded : ∀ request ∈ c.statement?,
      (request.layout.command? request.statement request.count).isSome)
    {spelled : Call String k} (h : c.inDialect d = .ok spelled) {text : String}
    (htext : spelled.statement? = some text) :
    ∃ request ∈ c.statement?,
      request.layout.text d request.statement request.count = .ok (some text) := by
  cases c with
  | query inTransaction request params shape =>
      obtain ⟨sql, hsql, rfl⟩ := Request.text_of_map (hworded _ rfl)
        (fun sql ↦ query inTransaction sql params shape) h
      obtain rfl : sql = text := Option.some.inj htext
      exact ⟨request, rfl, hsql⟩
  | write inTransaction request params =>
      obtain ⟨sql, hsql, rfl⟩ := Request.text_of_map (hworded _ rfl)
        (fun sql ↦ write inTransaction sql params) h
      obtain rfl : sql = text := Option.some.inj htext
      exact ⟨request, rfl, hsql⟩
  | batchWrite inTransaction request rows =>
      obtain ⟨sql, hsql, rfl⟩ := Request.text_of_map (hworded _ rfl)
        (fun sql ↦ batchWrite inTransaction sql rows) h
      obtain rfl : sql = text := Option.some.inj htext
      exact ⟨request, rfl, hsql⟩
  | openTransaction isolation =>
      cases h
      cases htext
  | commit =>
      cases h
      cases htext
  | rollback =>
      cases h
      cases htext

/-- Every text that is sent is that of a statement that the program may ask for. -/
theorem Program.text_of_play {P : Request → Prop} (hworded : ∀ request, P request →
      (request.layout.command? request.statement request.count).isSome)
    {p : Program α} (hp : p.Asks P) (s : σ) {e : Event}
    (he : e ∈ (p.play surface d s).log.map Entry.event) {text : String}
    (htext : e.statement? = some text) :
    ∃ request, P request ∧
      request.layout.text d request.statement request.count = .ok (some text) := by
  induction p generalizing s with
  | done a => cases he
  | notify n next ih =>
      rcases List.mem_cons.mp he with rfl | he
      · cases htext
      · exact ih hp s he
  | call c next ih =>
      simp only [play] at he
      split at he
      · next spelled hspelled =>
        rcases List.mem_cons.mp he with rfl | he
        · obtain ⟨request, hrequest, hsql⟩ := Call.text_of_inDialect
            (fun request hrequest ↦ hworded request (hp.1 request hrequest)) hspelled htext
          exact ⟨request, hp.1 request hrequest, hsql⟩
        · exact ih _ (hp.2 _) _ he
      · exact ih _ (hp.2 _) s he

/-- Every answer in the log is the one that the surface gives, state after state. -/
def Surface.Conducts (surface : Surface σ) : σ → List Exchange → σ → Prop
  | s, [], s' => s' = s
  | s, x :: log, s' => x.reply = (surface.answer x.call s).1 ∧
      surface.Conducts (surface.answer x.call s).2 log s'

theorem Program.play_conducts (p : Program α) (s : σ) :
    surface.Conducts s ((p.play surface d s).log.filterMap Entry.exchange?)
      (p.play surface d s).state := by
  induction p generalizing s with
  | done a => rfl
  | notify n next ih => exact ih s
  | call c next ih =>
      simp only [play]
      split
      · exact ⟨rfl, ih _ _⟩
      · exact ih _ s

end RecordStore
