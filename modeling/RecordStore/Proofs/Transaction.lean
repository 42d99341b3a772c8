import RecordStore.Proofs.Actions
import RecordStore.Proofs.Layout
import RecordStore.Store.Write
import RecordStore.Surface.Script

namespace RecordStore

open Sql (Command)
open Store (insertRow updateRow)

/-!
# The transaction of a batch

A batch is stored between one opening and one closing of a transaction. The calls in between follow
a plan that depends on the keys reported to exist; they are made in order up to the first failure,
and whether there was one decides how the transaction is closed.
-/

/-! ## Slices of keys -/

section Chunks

variable {α : Type} {size : Nat} {xs piece : List α}

theorem chunks_singleton (size : Nat) (x : α) : chunks size [x] = [[x]] := by
  simp [chunks]

theorem ne_nil_of_mem_chunks (h : piece ∈ chunks size xs) : piece ≠ [] := by
  induction xs using chunks.induct size with
  | case1 => simp [chunks] at h
  | case2 x rest ih =>
      rw [chunks, List.mem_cons] at h
      rcases h with rfl | h
      · exact List.cons_ne_nil _ _
      · exact ih h

theorem length_le_of_mem_chunks (h : piece ∈ chunks size xs) : piece.length ≤ max size 1 := by
  induction xs using chunks.induct size with
  | case1 => simp [chunks] at h
  | case2 x rest ih =>
      rw [chunks, List.mem_cons] at h
      rcases h with rfl | h
      · simp only [List.length_cons, List.length_take]
        omega
      · exact ih h

theorem length_chunks (size : Nat) (xs : List α) :
    (chunks size xs).length = (xs.length + (max size 1 - 1)) / max size 1 := by
  induction xs using chunks.induct size with
  | case1 =>
      rw [chunks, List.length_nil, List.length_nil, Nat.zero_add, Nat.div_eq_of_lt]
      omega
  | case2 x rest ih =>
      have hsize : size - 1 = max size 1 - 1 := by omega
      have hpos : 0 < max size 1 := by omega
      rw [chunks, List.length_cons, ih, List.length_drop, List.length_cons, hsize]
      generalize max size 1 = m at hpos
      rcases Nat.lt_or_ge rest.length m with hlt | hge
      · have hleft : (rest.length - (m - 1) + (m - 1)) / m = 0 := Nat.div_eq_of_lt (by omega)
        have hright : (rest.length + 1 + (m - 1)) / m = 1 :=
          Nat.div_eq_of_lt_le (by omega) (by omega)
        omega
      · have hleft : rest.length - (m - 1) + (m - 1) = rest.length := by omega
        have hright : rest.length + 1 + (m - 1) = rest.length + m := by omega
        rw [hleft, hright, Nat.add_div_right _ hpos]

end Chunks

/-! ## Calls made in order -/

/-- The keys that an exchange reports to exist, or how it failed. A query whose answer has a cell
that is not a key has failed too. -/
def Exchange.verdict : Exchange → Except Error (List Key)
  | @mk .rows _ reply => reply.bind Store.keysOf
  | @mk _ _ reply => reply.map fun _ ↦ []

def reported (log : List Exchange) : List Key :=
  log.flatMap fun x ↦ x.verdict.toOption.getD []

/-- The calls of a plan are made in order, up to the first that fails. -/
inductive CarriedOut : List Event → List Exchange → Except Error (List Key) → Prop
  | nil : CarriedOut [] [] (.ok [])
  | failed {plan : List Event} {x : Exchange} {e : Error} :
    x.verdict = .error e → CarriedOut (x.event :: plan) [x] (.error e)
  | passed {plan : List Event} {log : List Exchange} {outcome : Except Error (List Key)}
      {x : Exchange} {keys : List Key} : x.verdict = .ok keys → CarriedOut plan log outcome →
    CarriedOut (x.event :: plan) (x :: log) (outcome.map (keys ++ ·))

namespace CarriedOut

variable {plan plan' : List Event} {log log' : List Exchange} {keys : List Key} {e : Error}
  {outcome : Except Error (List Key)}

theorem single (x : Exchange) : CarriedOut [x.event] [x] x.verdict := by
  cases hx : x.verdict with
  | ok keys => simpa [Except.map] using passed hx nil
  | error e => exact failed hx

theorem append_plan (h : CarriedOut plan log (.error e)) (plan' : List Event) :
    CarriedOut (plan ++ plan') log (.error e) := by
  generalize houtcome : (Except.error e : Except Error (List Key)) = outcome at h
  induction h with
  | nil => cases houtcome
  | failed hx => exact failed hx
  | @passed _ _ rest _ _ hx _ ih =>
      cases rest with
      | ok found => cases houtcome
      | error e' => exact passed hx (ih houtcome)

theorem append (h : CarriedOut plan log (.ok keys)) (h' : CarriedOut plan' log' outcome) :
    CarriedOut (plan ++ plan') (log ++ log') (outcome.map (keys ++ ·)) := by
  generalize hfirst : (Except.ok keys : Except Error (List Key)) = first at h
  induction h generalizing keys with
  | nil =>
      cases hfirst
      cases outcome <;> exact h'
  | failed hx => cases hfirst
  | @passed _ _ first _ found hx _ ih =>
      cases first with
      | error e => cases hfirst
      | ok rest =>
          cases hfirst
          have hmap : outcome.map (found ++ rest ++ ·)
              = (outcome.map (rest ++ ·)).map (found ++ ·) := by
            cases outcome <;> simp [Except.map]
          rw [hmap]
          exact passed hx (ih rfl)

/-- Without a failure every call has been made and has succeeded. -/
theorem of_ok (h : CarriedOut plan log (.ok keys)) :
    log.map Exchange.event = plan ∧ (∀ x ∈ log, x.verdict.isOk = true) ∧ keys = reported log := by
  generalize houtcome : (Except.ok keys : Except Error (List Key)) = outcome at h
  induction h generalizing keys with
  | nil =>
      cases houtcome
      simp [reported]
  | failed hx => cases houtcome
  | @passed _ _ outcome _ found hx _ ih =>
      cases outcome with
      | error e => cases houtcome
      | ok rest =>
          cases houtcome
          obtain ⟨hplan, hok, hkeys⟩ := ih rfl
          refine ⟨by simp [hplan], ?_, ?_⟩
          · intro x' hx'
            rcases List.mem_cons.mp hx' with rfl | hx'
            · simp [hx, Except.isOk, Except.toBool]
            · exact hok x' hx'
          · simp [reported, hx, hkeys, Except.toOption]

/-- After a failure the calls made are the first of the plan, and the last of them is the only one
that failed. -/
theorem of_error (h : CarriedOut plan log (.error e)) :
    log.map Exchange.event <+: plan ∧ ∃ middle last, log = middle ++ [last] ∧
      (∀ x ∈ middle, x.verdict.isOk = true) ∧ last.verdict = .error e := by
  generalize houtcome : (Except.error e : Except Error (List Key)) = outcome at h
  induction h with
  | nil => cases houtcome
  | @failed plan x _ hx =>
      cases houtcome
      exact ⟨⟨plan, rfl⟩, [], x, rfl, by simp, hx⟩
  | @passed _ _ outcome x _ hx _ ih =>
      cases outcome with
      | ok found => cases houtcome
      | error e' =>
          obtain ⟨hplan, middle, last, rfl, hmiddle, hlast⟩ := ih houtcome
          refine ⟨by simpa using hplan, x :: middle, last, rfl, ?_, hlast⟩
          intro x' hx'
          rcases List.mem_cons.mp hx' with rfl | hx'
          · simp [hx, Except.isOk, Except.toBool]
          · exact hmiddle x' hx'

end CarriedOut

/-! ## The plan of a batch -/

namespace Store

variable {σ : Type} {surface : Surface σ} {d : Dialect} {s : σ} {l : Layout}

def newRows (records : List Record) (existing : List Key) : List Row :=
  (records.filter (·.key ∉ existing)).map insertRow

/-- The rows to update when the given keys exist already. Without fields there are none. -/
def changedRows (l : Layout) (records : List Record) (existing : List Key) : List Row :=
  if l.fields = [] then [] else (records.filter (·.key ∈ existing)).map updateRow

/-- Writes rows in one batch inside the transaction, if there are any. -/
def writeRows (l : Layout) (statement : Statement) (rows : List Row) : Action Unit :=
  if rows = [] then pure ()
  else discard (Action.perform (.batchWrite true ⟨l, statement, 0⟩ rows))

theorem upsert_eq (store : Store) (l : Layout) (records : List Record) :
    store.upsert l records = (do
      let existing ← existingKeys l (chunks store.options.maxInList (records.map Record.key))
      writeRows l .insert (newRows records existing)
      writeRows l .update (changedRows l records existing)) := by
  unfold upsert
  refine congrArg _ (funext fun existing ↦ ?_)
  simp only [List.partition_eq_filter_filter, writeRows, newRows, changedRows, Function.comp_def]
  by_cases hnew : records.filter (fun r ↦ !decide (r.key ∈ existing)) = [] <;>
    by_cases hpresent : records.filter (fun r ↦ decide (r.key ∈ existing)) = [] <;>
    by_cases hfields : l.fields = [] <;>
    simp [hnew, hpresent, hfields]

def keysQuery (d : Dialect) (l : Layout) (slice : List Key) : Call String .rows :=
  .query true ((Command.select [l.keyColumn] l.table (some ⟨l.keyColumn, slice.length⟩)).render d)
    (slice.map Key.toValue) [l.keyType.fieldType]

def batchCall (d : Dialect) (c : Command) (rows : List Row) : List Event :=
  if rows = [] then [] else [.call (.batchWrite true (c.render d) rows)]

/-- The calls inside the transaction: a query for each slice of the keys, an insertion of the
records whose keys do not exist and an update of the others. -/
def batchPlan (d : Dialect) (l : Layout) (slices : List (List Key)) (records : List Record)
    (existing : List Key) : List Event :=
  slices.map (fun slice ↦ .call (keysQuery d l slice))
    ++ batchCall d (.insert l.table l.columns (l.fieldCount + 1)) (newRows records existing)
    ++ batchCall d (.update l.table l.fieldNames l.keyColumn) (changedRows l records existing)

theorem inDialect_keysQuery {slice : List Key} (h : slice ≠ []) :
    (Call.query true ⟨l, .selectKeys, slice.length⟩ (slice.map Key.toValue)
      [l.keyType.fieldType]).inDialect d = .ok (keysQuery d l slice) := by
  simp [Call.inDialect, Layout.text, Statement.isSized, h, Layout.sql?, Layout.command?,
    Except.map, Error.ofArgument, keysQuery]

theorem ensures_existingKeys {slices : List (List Key)} (hslices : ∀ slice ∈ slices, slice ≠ [])
    (s : σ) : (existingKeys l slices).Ensures surface d s fun log outcome _ ↦
      ∃ exchanges : List Exchange, log = exchanges.map .exchange ∧
        CarriedOut (slices.map fun slice ↦ .call (keysQuery d l slice)) exchanges outcome := by
  induction slices generalizing s with
  | nil => exact ⟨[], rfl, .nil⟩
  | cons slice slices ih =>
      obtain ⟨hslice, hrest⟩ := List.forall_mem_cons.mp hslices
      rw [existingKeys, Action.ensures_bind, Action.ensures_perform (inDialect_keysQuery hslice)]
      generalize hx : (⟨keysQuery d l slice, (surface.answer (keysQuery d l slice) s).1⟩ : Exchange)
        = x
      have hevent : Event.call (keysQuery d l slice) = x.event := by rw [← hx]; rfl
      have hverdict : (surface.answer (keysQuery d l slice) s).1.bind keysOf = x.verdict := by
        rw [← hx]; rfl
      rw [List.map_cons, hevent]
      cases hreply : (surface.answer (keysQuery d l slice) s).1 with
      | error e =>
          rw [hreply] at hverdict
          exact ⟨[x], rfl, .failed hverdict.symm⟩
      | ok rows =>
          rw [hreply] at hverdict
          simp only [Action.Then]
          rw [Action.ensures_bind, Action.ensures_ofExcept]
          cases hkeys : keysOf rows with
          | error e => exact ⟨[x], rfl, .failed (hverdict.symm.trans hkeys)⟩
          | ok found =>
              simp only [Action.Then]
              rw [Action.ensures_bind]
              refine (ih hrest _).mono ?_
              rintro log outcome s' ⟨exchanges, rfl, hcarried⟩
              have hpassed := CarriedOut.passed (hverdict.symm.trans hkeys) hcarried
              cases outcome with
              | error e => exact ⟨x :: exchanges, rfl, hpassed⟩
              | ok rest =>
                  refine ⟨x :: exchanges, ?_, hpassed⟩
                  simp [Program.play]

theorem ensures_writeRows {statement : Statement} {c : Command} {rows : List Row}
    (hc : rows ≠ [] → l.text d statement 0 = .ok (some (c.render d))) (s : σ) :
    (writeRows l statement rows).Ensures surface d s fun log outcome _ ↦
      ∃ exchanges : List Exchange, log = exchanges.map .exchange ∧
        reported exchanges = [] ∧
        CarriedOut (batchCall d c rows) exchanges (outcome.map fun _ ↦ []) := by
  unfold writeRows batchCall
  split
  · exact ⟨[], rfl, rfl, .nil⟩
  · next hrows =>
    have hspelled : (Call.batchWrite true ⟨l, statement, 0⟩ rows).inDialect d
        = .ok (.batchWrite true (c.render d) rows) := by
      simp [Call.inDialect, hc hrows, Except.map, Error.ofArgument]
    rw [Action.ensures_discard, Action.ensures_perform hspelled]
    have hsingle := CarriedOut.single ⟨Call.batchWrite true (c.render d) rows,
      (surface.answer (.batchWrite true (c.render d) rows) s).1⟩
    cases hreply : (surface.answer (.batchWrite true (c.render d) rows) s).1 with
    | error e =>
        rw [hreply] at hsingle
        exact ⟨[_], rfl, rfl, hsingle⟩
    | ok counts =>
        rw [hreply] at hsingle
        exact ⟨[_], rfl, rfl, hsingle⟩

end Store

/-! ## Opening and closing -/

/-- How a transaction over a plan goes. It does not open; or it is opened and closed once, by a
rollback after the first failure, by a commit if the whole plan was carried out. -/
inductive Transacted (plan : List Key → List Event) : List Exchange → Except Error Unit → Prop
  | unopened (e : Error) :
    Transacted plan [⟨.openTransaction .serializable, .error e⟩] (.error e)
  | rolledBack {middle : List Exchange} {last : Exchange} {e : Error} (reply : Except Error Unit) :
    (middle ++ [last]).map Exchange.event <+: plan (reported (middle ++ [last])) →
    (∀ x ∈ middle, x.verdict.isOk = true) → last.verdict = .error e →
    Transacted plan ([⟨.openTransaction .serializable, .ok ()⟩] ++ (middle ++ [last])
      ++ [⟨.rollback, reply⟩]) (.error e)
  | committed {middle : List Exchange} (reply : Except Error Unit) :
    middle.map Exchange.event = plan (reported middle) → (∀ x ∈ middle, x.verdict.isOk = true) →
    Transacted plan ([⟨.openTransaction .serializable, .ok ()⟩] ++ middle ++ [⟨.commit, reply⟩])
      reply

/-- What the body of a transaction has to ensure so that the whole ensures `Q`. -/
def Closing {σ : Type} (surface : Surface σ) (Q : List Entry → Except Error Unit → σ → Prop) :
    List Entry → Except Error Unit → σ → Prop
  | log, .ok (), s => Q (.exchange ⟨.openTransaction .serializable, .ok ()⟩ :: log
      ++ [.exchange ⟨.commit, (surface.answer .commit s).1⟩]) (surface.answer .commit s).1
      (surface.answer .commit s).2
  | log, .error e, s => Q (.exchange ⟨.openTransaction .serializable, .ok ()⟩ :: log
      ++ [.exchange ⟨.rollback, (surface.answer .rollback s).1⟩]) (.error e)
      (surface.answer .rollback s).2

namespace Store

variable {σ : Type} {surface : Surface σ} {d : Dialect} {s : σ} {l : Layout}

theorem ensures_inTransaction {a : Action Unit} {Q : List Entry → Except Error Unit → σ → Prop}
    (hunopened : ∀ e, (surface.answer (.openTransaction .serializable) s).1 = .error e →
      Q [.exchange ⟨.openTransaction .serializable, .error e⟩] (.error e)
        (surface.answer (.openTransaction .serializable) s).2)
    (hopened : (surface.answer (.openTransaction .serializable) s).1 = .ok () →
      a.Ensures surface d (surface.answer (.openTransaction .serializable) s).2
        (Closing surface Q)) :
    (inTransaction a).Ensures surface d s Q := by
  have hopen : (Call.openTransaction .serializable : Call Request .done).inDialect d
      = .ok (.openTransaction .serializable) := rfl
  have hcommit : (Call.commit : Call Request .done).inDialect d = .ok .commit := rfl
  have hrollback : (Call.rollback : Call Request .done).inDialect d = .ok .rollback := rfl
  rw [inTransaction, Action.ensures_bind, Action.ensures_perform hopen]
  cases hreply : (surface.answer (.openTransaction .serializable) s).1 with
  | error e => exact hunopened e hreply
  | ok _ =>
      simp only [Action.Then]
      rw [Action.ensures_bind, Action.ensures_attempt]
      refine (hopened hreply).mono ?_
      intro log outcome s' hclosing
      cases outcome with
      | ok _ =>
          simp only [Action.Then]
          rw [Action.ensures_perform hcommit]
          exact hclosing
      | error e =>
          simp only [Action.Then]
          rw [Action.ensures_bind, Action.ensures_discard, Action.ensures_attempt,
            Action.ensures_perform hrollback]
          simp only [Action.Then, Except.map]
          rw [Action.ensures_throw]
          simpa [Closing] using hclosing

theorem ensures_upsert (store : Store) (l : Layout) (records : List Record) (s : σ) :
    (store.upsert l records).Ensures surface d s fun log outcome _ ↦
      ∃ (exchanges : List Exchange) (verdict : Except Error (List Key)),
        log = exchanges.map .exchange ∧ outcome = verdict.map (fun _ ↦ ()) ∧
        CarriedOut (batchPlan d l (chunks store.options.maxInList (records.map Record.key)) records
          (reported exchanges)) exchanges verdict := by
  have hinsert (rows : List Row) : rows ≠ [] → l.text d .insert 0
      = .ok (some ((Command.insert l.table l.columns (l.fieldCount + 1)).render d)) := fun _ ↦ rfl
  have hupdate (existing : List Key) : changedRows l records existing ≠ [] → l.text d .update 0
      = .ok (some ((Command.update l.table l.fieldNames l.keyColumn).render d)) := by
    intro hrows
    have hfields : l.fields ≠ [] := fun h ↦ hrows (by simp [changedRows, h])
    simp [Layout.text, Statement.isSized, Layout.sql?, Layout.command?, hfields]
  rw [upsert_eq, Action.ensures_bind]
  refine (ensures_existingKeys (fun slice h ↦ ne_nil_of_mem_chunks h) s).mono ?_
  rintro log outcome s' ⟨asked, rfl, hasked⟩
  cases outcome with
  | error e =>
      refine ⟨asked, .error e, rfl, rfl, ?_⟩
      rw [batchPlan, List.append_assoc]
      exact hasked.append_plan _
  | ok existing =>
      obtain ⟨-, -, hexisting⟩ := hasked.of_ok
      simp only [Action.Then]
      rw [Action.ensures_bind]
      refine (ensures_writeRows (hinsert _) s').mono ?_
      rintro log outcome s'' ⟨inserted, rfl, hnone, hinserted⟩
      cases outcome with
      | error e =>
          refine ⟨asked ++ inserted, .error e, by simp, rfl, ?_⟩
          have hreported : reported (asked ++ inserted) = existing := by
            simpa [reported, hexisting] using hnone
          rw [hreported]
          exact (hasked.append hinserted).append_plan _
      | ok _ =>
          simp only [Action.Then]
          refine (ensures_writeRows (hupdate existing) s'').mono ?_
          rintro log outcome - ⟨updated, rfl, hnone', hupdated⟩
          have hreported : reported (asked ++ inserted ++ updated) = existing := by
            simp only [reported, List.flatMap_append] at hexisting hnone hnone' ⊢
            simp [hexisting, hnone, hnone']
          refine ⟨asked ++ inserted ++ updated, _, by simp, ?_,
            by rw [hreported]; exact (hasked.append hinserted).append hupdated⟩
          cases outcome <;> rfl

/-! ## Batches that are accepted -/

/-- A batch that is accepted where the given layouts are registered: records of one registered type
with its layout, no two of them with one key. -/
structure Admits (layout? : String → Option Layout) (l : Layout) (records : List Record) :
    Prop where
  registered : layout? l.typeName = some l
  layouts : ∀ r ∈ records, r.layout = l
  keys : (records.map Record.key).Nodup

theorem checkBatch_eq_ok {seen : List Key} {records : List Record} :
    checkBatch l seen records = .ok () ↔
      (∀ r ∈ records, r.layout = l) ∧ (records.map Record.key).Nodup ∧
        ∀ r ∈ records, r.key ∉ seen := by
  induction records generalizing seen with
  | nil => simp [checkBatch]
  | cons r records ih =>
      unfold checkBatch
      split
      · next htype =>
        refine iff_of_false (by simp) fun ⟨hlayouts, _⟩ ↦ htype ?_
        rw [Record.typeName, hlayouts r List.mem_cons_self]
      · split
        · next hlayout =>
          exact iff_of_false (by simp) fun ⟨hlayouts, _⟩ ↦ hlayout (hlayouts r List.mem_cons_self)
        · next hlayout =>
          split
          · next hseen =>
            exact iff_of_false (by simp) fun ⟨_, _, hfresh⟩ ↦ hfresh r List.mem_cons_self hseen
          · next hseen =>
            simp only [ne_eq, not_not] at hlayout
            rw [ih, List.forall_mem_cons, List.forall_mem_cons, List.map_cons, List.nodup_cons]
            constructor
            · rintro ⟨hlayouts, hnodup, hfresh⟩
              refine ⟨⟨hlayout, hlayouts⟩, ⟨?_, hnodup⟩, hseen, ?_⟩
              · intro hmem
                obtain ⟨r', hr', hkey⟩ := List.mem_map.mp hmem
                exact hfresh r' hr' (hkey ▸ List.mem_cons_self)
              · exact fun r' hr' hmem ↦ hfresh r' hr' (List.mem_cons_of_mem _ hmem)
            · rintro ⟨⟨-, hlayouts⟩, ⟨hkey, hnodup⟩, -, hfresh⟩
              refine ⟨hlayouts, hnodup, fun r' hr' hmem ↦ ?_⟩
              rcases List.mem_cons.mp hmem with heq | hmem
              · exact hkey (List.mem_map.mpr ⟨r', hr', heq⟩)
              · exact hfresh r' hr' hmem

theorem putAll_of_none {store : Store} {entries : List (Option Record)}
    (hnone : entries.reduceOption = []) : store.putAll entries = pure [] := by
  simp only [putAll, hnone]

/-- Storing an accepted batch is one transaction between two rounds of notices. -/
theorem putAll_of_admits {store : Store} {entries : List (Option Record)}
    (hadmits : Admits store.registry.get? l entries.reduceOption)
    (hpresent : entries.reduceOption ≠ []) :
    store.putAll entries = (do
      store.announce (entries.reduceOption.map .beforePersist)
      (inTransaction (store.upsert l entries.reduceOption)).during "put_all" l.typeName
        (.records (entries.reduceOption.map Record.key))
      store.announce (entries.reduceOption.map .afterPersist)
      pure entries.reduceOption) := by
  unfold putAll
  generalize entries.reduceOption = records at hadmits hpresent
  cases records with
  | nil => exact absurd rfl hpresent
  | cons first rest =>
      have hlayout : first.layout = l := hadmits.layouts first List.mem_cons_self
      have hcheck : checkBatch l [] (first :: rest) = .ok () :=
        checkBatch_eq_ok.mpr ⟨hadmits.layouts, hadmits.keys, by simp⟩
      have htype : first.typeName = l.typeName := congrArg Layout.typeName hlayout
      simp only [require, Registry.require, htype, hadmits.registered, Action.ofArgument_ok_bind,
        hcheck]

/-- Any other batch with a record in it is refused without a call. -/
theorem putAll_of_not_admits {store : Store} {entries : List (Option Record)}
    (hadmits : ∀ l, ¬ Admits store.registry.get? l entries.reduceOption)
    (hpresent : entries.reduceOption ≠ []) :
    ∃ fault, store.putAll entries = throw (.illegalArgument fault) := by
  unfold putAll
  generalize entries.reduceOption = records at hadmits hpresent
  cases records with
  | nil => exact absurd rfl hpresent
  | cons first rest =>
      cases hregistered : store.registry.get? first.typeName with
      | none =>
          refine ⟨.unregistered "put_all" first.typeName, ?_⟩
          simp only [require, Registry.require, hregistered, Action.ofArgument_error_bind]
      | some l =>
          cases hcheck : checkBatch l [] (first :: rest) with
          | error fault =>
              refine ⟨fault, ?_⟩
              simp only [require, Registry.require, hregistered, Action.ofArgument_ok_bind, hcheck,
                Action.ofArgument_error_bind]
          | ok _ =>
              obtain ⟨hlayouts, hkeys, -⟩ := checkBatch_eq_ok.mp hcheck
              have htype : first.typeName = l.typeName :=
                congrArg Layout.typeName (hlayouts first List.mem_cons_self)
              exact absurd ⟨htype ▸ hregistered, hlayouts, hkeys⟩ (hadmits l)

/-! ## Statements that are asked for -/

section

variable {P : Request → Prop}

theorem asks_existingKeys {slices : List (List Key)}
    (h : ∀ slice ∈ slices, P ⟨l, .selectKeys, slice.length⟩) : (existingKeys l slices).Asks P := by
  induction slices with
  | nil => exact Action.asks_pure []
  | cons slice slices ih =>
      obtain ⟨hslice, hslices⟩ := List.forall_mem_cons.mp h
      refine (Action.asks_query hslice _ _ _).bind fun rows ↦ ?_
      refine (Action.asks_ofExcept _).bind fun found ↦ ?_
      exact (ih hslices).bind fun rest ↦ Action.asks_pure _

theorem asks_writeRows {statement : Statement} {rows : List Row}
    (h : rows ≠ [] → P ⟨l, statement, 0⟩) : (writeRows l statement rows).Asks P := by
  unfold writeRows
  split
  · exact Action.asks_pure ()
  · next hrows => exact (Action.asks_batchWrite (h hrows) _ _).discard

theorem asks_inTransaction {a : Action Unit} (ha : a.Asks P) : (inTransaction a).Asks P := by
  refine (Action.asks_control _).bind fun _ ↦ ?_
  refine ha.attempt.bind fun outcome ↦ ?_
  cases outcome with
  | ok _ => exact Action.asks_control _
  | error e =>
      exact (Action.asks_control _).attempt.discard.bind fun _ ↦ Action.asks_throw e

/-- Rows are only changed where there are fields to change. -/
theorem fields_ne_nil_of_changedRows {records : List Record} {existing : List Key}
    (h : changedRows l records existing ≠ []) : l.fields ≠ [] := by
  intro hfields
  rw [changedRows, if_pos hfields] at h
  exact h rfl

/-- Only admitted batches are stored. -/
theorem asks_putAll {store : Store} {entries : List (Option Record)}
    (hquery : ∀ l, entries.reduceOption ≠ [] → Admits store.registry.get? l entries.reduceOption →
      ∀ slice ∈ chunks store.options.maxInList (entries.reduceOption.map Record.key),
        P ⟨l, .selectKeys, slice.length⟩)
    (hwrite : ∀ l, entries.reduceOption ≠ [] → Admits store.registry.get? l entries.reduceOption →
      P ⟨l, .insert, 0⟩ ∧ (l.fields ≠ [] → P ⟨l, .update, 0⟩)) :
    (store.putAll entries).Asks P := by
  by_cases hpresent : entries.reduceOption = []
  · rw [putAll_of_none hpresent]
    exact Action.asks_pure []
  by_cases hadmits : ∃ l, Admits store.registry.get? l entries.reduceOption
  · obtain ⟨l, hadmits⟩ := hadmits
    obtain ⟨hinsert, hupdate⟩ := hwrite l hpresent hadmits
    rw [putAll_of_admits hadmits hpresent, upsert_eq]
    refine (Action.asks_announce store _).bind fun _ ↦ ?_
    refine (Action.Asks.during (asks_inTransaction ?_) _ _ _).bind fun _ ↦ ?_
    · exact (asks_existingKeys (hquery l hpresent hadmits)).bind fun existing ↦
        (asks_writeRows fun _ ↦ hinsert).bind fun _ ↦
          asks_writeRows fun hrows ↦ hupdate (fields_ne_nil_of_changedRows hrows)
    · exact (Action.asks_announce store _).bind fun _ ↦ Action.asks_pure _
  · obtain ⟨fault, hrefused⟩ :=
      putAll_of_not_admits (fun l h ↦ hadmits ⟨l, h⟩) hpresent
    rw [hrefused]
    exact Action.asks_throw _

theorem isSome_update (hfields : l.fields ≠ []) : (l.command? .update 0).isSome := by
  rw [Layout.command?, if_neg hfields]
  rfl

theorem within_putAll (store : Store) (entries : List (Option Record)) :
    (store.putAll entries).Within store.registry :=
  asks_putAll (fun _ _ hadmits _ _ ↦ ⟨hadmits.registered, rfl⟩) fun _ _ hadmits ↦
    ⟨⟨hadmits.registered, rfl⟩, fun hfields ↦ ⟨hadmits.registered, isSome_update hfields⟩⟩

end

/-! ## The run of a batch -/

theorem ensures_transaction (store : Store) (l : Layout) (records : List Record) (s : σ) :
    (inTransaction (store.upsert l records)).Ensures surface d s fun log outcome _ ↦
      ∃ exchanges : List Exchange, log = exchanges.map .exchange ∧
        Transacted (batchPlan d l (chunks store.options.maxInList (records.map Record.key)) records)
          exchanges outcome := by
  refine ensures_inTransaction ?_ ?_
  · intro e _
    exact ⟨_, by rw [List.map_singleton], .unopened e⟩
  · intro _
    refine (ensures_upsert store l records _).mono ?_
    rintro log outcome s' ⟨exchanges, verdict, rfl, rfl, hcarried⟩
    cases verdict with
    | ok keys =>
        obtain ⟨hplan, hok, -⟩ := hcarried.of_ok
        refine ⟨_, ?_, .committed (surface.answer .commit s').1 hplan hok⟩
        simp
    | error e =>
        obtain ⟨hplan, middle, last, rfl, hmiddle, hlast⟩ := hcarried.of_error
        refine ⟨_, ?_, .rolledBack (surface.answer .rollback s').1 hplan hmiddle hlast⟩
        simp

end Store

open Store

variable {σ : Type}

/-- Storing an accepted batch makes the calls of one transaction, over as few slices of its keys as
the store allows, whatever the surface answers. The batch is returned when the commit succeeds, and
otherwise the first failure under the name of the operation. -/
theorem putAll_transaction (surface : Surface σ) (d : Dialect) {store : Store}
    (hstore : store.registry.Reachable) {l : Layout} {entries : List (Option Record)}
    (hadmits : Admits store.registry.get? l entries.reduceOption)
    (hpresent : entries.reduceOption ≠ []) (s : σ) :
    let records := entries.reduceOption
    let keys := records.map Record.key
    let most := max store.options.maxInList 1
    let o := (store.putAll entries).run.run surface d store.registry s
    ∃ slices : List (List Key), slices.flatten = keys ∧
      slices.length = (keys.length + (most - 1)) / most ∧
      (∀ slice ∈ slices, 1 ≤ slice.length ∧ slice.length ≤ most) ∧
      ∃ log outcome, Transacted (batchPlan d l slices records) log outcome ∧
        surface.Conducts s log o.state ∧
        o.events = (store.told (records.map .beforePersist)).map .notice ++ log.map Exchange.event
          ++ (if outcome.isOk then store.told (records.map .afterPersist) else []).map .notice ∧
        o.result = (outcome.map fun _ ↦ records).mapError
          (Error.during "put_all" l.typeName (.records keys)) := by
  intro records keys most o
  refine ⟨chunks store.options.maxInList keys, flatten_chunks _ _, length_chunks _ _, ?_, ?_⟩
  · intro slice hslice
    exact ⟨List.length_pos_iff.mpr (ne_nil_of_mem_chunks hslice), length_le_of_mem_chunks hslice⟩
  have hplay : (store.putAll entries).Ensures surface d s fun log outcome _ ↦
      ∃ exchanges verdict, Transacted (batchPlan d l (chunks store.options.maxInList keys) records)
          exchanges verdict ∧
        log = (store.told (records.map .beforePersist)).map .notice ++ exchanges.map .exchange
          ++ (if verdict.isOk then store.told (records.map .afterPersist) else []).map .notice ∧
        outcome = (verdict.map fun _ ↦ records).mapError
          (Error.during "put_all" l.typeName (.records keys)) := by
    rw [putAll_of_admits hadmits hpresent, Action.ensures_bind, Action.ensures_announce]
    simp only [Action.Then]
    rw [Action.ensures_bind, Action.ensures_during]
    refine (ensures_transaction store l records s).mono ?_
    rintro log outcome s' ⟨exchanges, rfl, htransacted⟩
    cases outcome with
    | error e =>
        exact ⟨exchanges, .error e, htransacted, by simp [Except.isOk, Except.toBool, records], rfl⟩
    | ok _ =>
        simp only [Action.Then, Except.mapError]
        rw [Action.ensures_bind, Action.ensures_announce]
        simp only [Action.Then]
        rw [Action.ensures_pure]
        exact ⟨exchanges, .ok (), htransacted, by simp [Except.isOk, Except.toBool, records], rfl⟩
  obtain ⟨⟨log, hevents, hconducts, exchanges, verdict, htransacted, rfl, hresult⟩, -, -⟩ :=
    hplay.run hstore (within_putAll store entries)
  refine ⟨exchanges, verdict, htransacted, ?_, ?_, hresult⟩
  · have hexchanges (told : List Notice) :
        (told.map Entry.notice).filterMap Entry.exchange? = [] := by
      simp [List.filterMap_map, Function.comp_def, Entry.exchange?]
    simpa [List.filterMap_append, hexchanges, List.filterMap_map, Function.comp_def,
      Entry.exchange?] using hconducts
  · rw [hevents]
    simp [Function.comp_def, Entry.event]

/-- Two notes asked for one by one; the second question fails. -/
theorem putAll_transaction_failing_question :
    let t : RecordType := ⟨"Note", none, "id", .int, [⟨"getTitle", .text, false⟩]⟩
    let l : Layout := ⟨"Note", none, "id", .int, [("title", .text)]⟩
    let store : Store := ⟨(Registry.empty.register t).2, ⟨0⟩, true⟩
    let records : List Record := [⟨l, .int 1, [.text "a"]⟩, ⟨l, .int 2, [.text "b"]⟩]
    let entries := none :: records.map some
    let script : List ScriptReply := [.silent, .silent, ⟨some "lost", [], 0⟩]
    let o := (store.putAll entries).run.run .script .postgres store.registry script
    store.registry.Reachable ∧ Admits store.registry.get? l entries.reduceOption ∧
      entries.reduceOption ≠ [] ∧
      ∃ slices log outcome, slices.length = 2 ∧
        Transacted (batchPlan .postgres l slices records) log outcome ∧
        Surface.script.Conducts script log o.state ∧
        o.result = (outcome.map fun _ ↦ records).mapError
          (Error.during "put_all" "Note" (.records [.int 1, .int 2])) := by
  intro t l store records entries script o
  have hstore : store.registry.Reachable := .register t .empty
  have hresolve : Layout.resolve ⟨"Note", none, "id", .int, [⟨"getTitle", .text, false⟩]⟩
      = .ok ⟨"Note", none, "id", .int, [("title", .text)]⟩ := rfl
  have hregistered : store.registry.get? l.typeName = some l :=
    Registry.get?_register_self (t := t) rfl hresolve
  have hadmits : Admits store.registry.get? l entries.reduceOption :=
    ⟨hregistered, by decide, by decide⟩
  have hpresent : entries.reduceOption ≠ [] := by decide
  obtain ⟨slices, -, hlength, -, log, outcome, htransacted, hconducts, -, hresult⟩ :=
    putAll_transaction .script .postgres hstore hadmits hpresent script
  exact ⟨hstore, hadmits, hpresent, slices, log, outcome, hlength.trans (by decide),
    htransacted, hconducts, hresult⟩

end RecordStore
