import RecordStore.Proofs.Transaction

namespace RecordStore

open Store (Admits)

/-!
# Which batches are admitted

A batch is looked through once before anything happens: the type of its first record is looked up,
and then every record is compared with what has been found so far. The outcome is that of a condition
on the batch as a whole. Coherent batches go on to open a transaction and all others are refused.
-/

/-- The layouts agree in everything but the name of their type. -/
structure Layout.Matches (l l' : Layout) : Prop where
  schema : l.schema = l'.schema
  keyColumn : l.keyColumn = l'.keyColumn
  keyType : l.keyType = l'.keyType
  identityAccessor : l.identityAccessor = l'.identityAccessor
  fieldNames : l.fieldNames = l'.fieldNames
  fieldTypes : l.fieldTypes = l'.fieldTypes
  places : ∀ field i, l.fieldIndex field = .ok i ↔ l'.fieldIndex field = .ok i

theorem Layout.zip_fields (l : Layout) : l.fieldNames.zip l.fieldTypes = l.fields := by
  simp [fieldNames, fieldTypes, List.zip_map']

theorem Layout.eq_iff_matches {l l' : Layout} :
    l = l' ↔ l.typeName = l'.typeName ∧ l.Matches l' := by
  constructor
  · rintro rfl
    exact ⟨rfl, rfl, rfl, rfl, rfl, rfl, rfl, fun _ _ ↦ .rfl⟩
  · rintro ⟨htype, hmatches⟩
    have hfields : l.fields = l'.fields := by
      rw [← l.zip_fields, ← l'.zip_fields, hmatches.fieldNames, hmatches.fieldTypes]
    cases l
    cases l'
    simp only [mk.injEq]
    exact ⟨htype, hmatches.schema, hmatches.keyColumn, hmatches.keyType, hfields⟩

/-- The type of the first record is registered, every record is of that type and has a layout that
matches the registered one, and no two have one key. -/
structure Coherent (layout? : String → Option Layout) (first : Record) (rest : List Record) :
    Prop where
  layouts : ∃ l, layout? first.typeName = some l ∧
    ∀ r ∈ first :: rest, r.typeName = first.typeName ∧ r.layout.Matches l
  keys : (first :: rest).Pairwise fun r r' ↦ r.key ≠ r'.key

namespace Store

theorem Admits.perm {layout? : String → Option Layout} {l : Layout} {records records' : List Record}
    (hperm : records.Perm records') (h : Admits layout? l records) : Admits layout? l records' :=
  ⟨h.registered, fun r hr ↦ h.layouts r (hperm.mem_iff.mpr hr),
    (hperm.map Record.key).nodup_iff.mp h.keys⟩

variable {store : Store} {first : Record} {rest : List Record}

theorem coherent_iff (hstore : store.registry.Reachable) :
    Coherent store.registry.get? first rest ↔
      ∃ l, Admits store.registry.get? l (first :: rest) := by
  constructor
  · rintro ⟨⟨l, hregistered, hlayouts⟩, hkeys⟩
    have htype : l.typeName = first.typeName := (hstore.sound.layouts hregistered).1
    refine ⟨l, htype ▸ hregistered, fun r hr ↦ ?_, List.pairwise_map.mpr hkeys⟩
    obtain ⟨hsame, hmatches⟩ := hlayouts r hr
    exact Layout.eq_iff_matches.mpr ⟨hsame.trans htype.symm, hmatches⟩
  · rintro ⟨l, hadmits⟩
    have hsame (r : Record) (hr : r ∈ first :: rest) :=
      Layout.eq_iff_matches.mp (hadmits.layouts r hr)
    have htype : first.typeName = l.typeName := (hsame first List.mem_cons_self).1
    refine ⟨⟨l, htype ▸ hadmits.registered, fun r hr ↦ ?_⟩, List.pairwise_map.mp hadmits.keys⟩
    exact ⟨(hsame r hr).1.trans htype.symm, (hsame r hr).2⟩

theorem coherent_perm (hstore : store.registry.Reachable) {rest' : List Record}
    (hperm : rest.Perm rest') : Coherent store.registry.get? first rest ↔
      Coherent store.registry.get? first rest' := by
  rw [coherent_iff hstore, coherent_iff hstore]
  exact exists_congr fun l ↦
    ⟨Admits.perm (hperm.cons first), Admits.perm (hperm.cons first).symm⟩

/-! ## Ways to go on -/

variable {σ : Type}

/-- After nothing but the notices in front of it, a transaction is asked for. -/
def Opens (store : Store) (records : List Record) (o : Outcome σ (Except Error (List Record))) :
    Prop :=
  ∃ later, o.events = (store.told (records.map .beforePersist)).map .notice
    ++ .call (.openTransaction .serializable) :: later

/-- Refused before anything has happened. -/
def Refuses (s : σ) (o : Outcome σ (Except Error (List Record))) : Prop :=
  (∃ fault, o.result = .error (.illegalArgument fault)) ∧ o.events = [] ∧ o.state = s

theorem Opens.not_refuses {records : List Record} {o : Outcome σ (Except Error (List Record))}
    (h : store.Opens records o) (s : σ) : ¬ Refuses s o := by
  obtain ⟨later, hevents⟩ := h
  rintro ⟨-, hnone, -⟩
  rw [hevents] at hnone
  simp at hnone

theorem opens_of_transacted {plan : List Key → List Event} {log : List Exchange}
    {outcome : Except Error Unit} (h : Transacted plan log outcome) :
    ∃ later, log.map Exchange.event = .call (.openTransaction .serializable) :: later := by
  cases h <;> exact ⟨_, rfl⟩

theorem putAll_congr {entries entries' : List (Option Record)}
    (h : entries.reduceOption = entries'.reduceOption) :
    store.putAll entries = store.putAll entries' := by
  unfold putAll
  rw [h]

variable {surface : Surface σ} {d : Dialect} {s : σ}

variable (surface d s) in
theorem ensures_putAll_opens {l : Layout} {entries : List (Option Record)}
    (hadmits : Admits store.registry.get? l entries.reduceOption)
    (hpresent : entries.reduceOption ≠ []) :
    (store.putAll entries).Ensures surface d s fun log _ _ ↦ ∃ later, log.map Entry.event
      = (store.told (entries.reduceOption.map .beforePersist)).map .notice
        ++ .call (.openTransaction .serializable) :: later := by
  rw [putAll_of_admits hadmits hpresent, Action.ensures_bind, Action.ensures_announce]
  simp only [Action.Then]
  rw [Action.ensures_bind, Action.ensures_during]
  refine (ensures_transaction store l entries.reduceOption s).mono ?_
  rintro log outcome s' ⟨exchanges, rfl, htransacted⟩
  obtain ⟨later, hopens⟩ := opens_of_transacted htransacted
  have hevents : (exchanges.map Entry.exchange).map Entry.event
      = .call (.openTransaction .serializable) :: later := by
    rw [← hopens, List.map_map]
    rfl
  cases outcome with
  | error e =>
      refine ⟨later, ?_⟩
      simp [hevents, Function.comp_def, Entry.event]
  | ok _ =>
      simp only [Action.Then, Except.mapError]
      rw [Action.ensures_bind, Action.ensures_announce]
      simp only [Action.Then]
      rw [Action.ensures_pure]
      refine ⟨later ++ (store.told (entries.reduceOption.map .afterPersist)).map .notice, ?_⟩
      simp [hevents, Function.comp_def, Entry.event]

/-- A batch with a record in it opens a transaction if it is coherent and is refused if not. -/
theorem putAll_cases (surface : Surface σ) (d : Dialect) (hstore : store.registry.Reachable)
    {entries : List (Option Record)} (hentries : entries.reduceOption = first :: rest) (s : σ) :
    let o := (store.putAll entries).run.run surface d store.registry s
    (Coherent store.registry.get? first rest ∧ store.Opens (first :: rest) o) ∨
      (¬ Coherent store.registry.get? first rest ∧ Refuses s o) := by
  have hpresent : entries.reduceOption ≠ [] := by simp [hentries]
  rw [coherent_iff hstore, ← hentries]
  by_cases hadmits : ∃ l, Admits store.registry.get? l entries.reduceOption
  · left
    obtain ⟨l, hl⟩ := hadmits
    obtain ⟨⟨log, hevents, -, later, hlater⟩, -, -⟩ :=
      (ensures_putAll_opens surface d s hl hpresent).run hstore (within_putAll store entries)
    exact ⟨⟨l, hl⟩, later, hevents.trans hlater⟩
  · right
    obtain ⟨fault, hrefused⟩ := putAll_of_not_admits (fun l h ↦ hadmits ⟨l, h⟩) hpresent
    rw [hrefused]
    exact ⟨hadmits, ⟨fault, rfl⟩, rfl, rfl⟩

end Store

open Store

variable {σ : Type}

/-- Storing a batch without records has no effect at all. Any other batch opens a transaction exactly
if it is coherent and is refused otherwise, whatever the order of the records behind the first, and
entries without a record make no difference. -/
theorem putAll_admission (surface : Surface σ) (d : Dialect) {store : Store}
    (hstore : store.registry.Reachable) (entries : List (Option Record)) (s : σ) :
    let run (entries : List (Option Record)) :=
      (store.putAll entries).run.run surface d store.registry s
    (entries.reduceOption = [] →
      (run entries).result = .ok [] ∧ (run entries).events = [] ∧ (run entries).state = s) ∧
    (∀ first rest, entries.reduceOption = first :: rest →
      (store.Opens (first :: rest) (run entries) ↔ Coherent store.registry.get? first rest) ∧
      (Refuses s (run entries) ↔ ¬ Coherent store.registry.get? first rest) ∧
      ∀ entries' rest', entries'.reduceOption = first :: rest' → rest.Perm rest' →
        (store.Opens (first :: rest') (run entries') ↔
          store.Opens (first :: rest) (run entries)) ∧
        (Refuses s (run entries') ↔ Refuses s (run entries))) ∧
    ∀ entries', entries'.reduceOption = entries.reduceOption → run entries' = run entries := by
  intro run
  have hopens {entries : List (Option Record)} {first : Record} {rest : List Record}
      (h : entries.reduceOption = first :: rest) : store.Opens (first :: rest) (run entries) ↔
        Coherent store.registry.get? first rest := by
    rcases putAll_cases surface d hstore h s with ⟨hyes, ho⟩ | ⟨hno, ho⟩
    · exact iff_of_true ho hyes
    · exact iff_of_false (fun h ↦ h.not_refuses s ho) hno
  have hrefuses {entries : List (Option Record)} {first : Record} {rest : List Record}
      (h : entries.reduceOption = first :: rest) : Refuses s (run entries) ↔
        ¬ Coherent store.registry.get? first rest := by
    rcases putAll_cases surface d hstore h s with ⟨hyes, ho⟩ | ⟨hno, ho⟩
    · exact iff_of_false (ho.not_refuses s) (not_not_intro hyes)
    · exact iff_of_true ho hno
  refine ⟨fun hnone ↦ ?_, fun first rest h ↦ ⟨hopens h, hrefuses h, ?_⟩, fun entries' h ↦ ?_⟩
  · have hpure : run entries = (pure [] : Action (List Record)).run.run surface d store.registry s :=
      congrArg (fun a ↦ Program.run surface d (ExceptT.run a) store.registry s)
        (putAll_of_none hnone)
    rw [hpure]
    exact ⟨rfl, rfl, rfl⟩
  · intro entries' rest' h' hperm
    have hsame : Coherent store.registry.get? first rest ↔
        Coherent store.registry.get? first rest' := coherent_perm hstore hperm
    rw [hopens h, hopens h', hrefuses h, hrefuses h', hsame]
    exact ⟨.rfl, .rfl⟩
  · exact congrArg (fun a ↦ Program.run surface d (ExceptT.run a) store.registry s) (putAll_congr h)

/-- Two notes between absent entries go on to a transaction; with the first note once more at the end
they are refused. -/
theorem putAll_admission_notes :
    let t : RecordType := ⟨"Note", none, "id", .int, [⟨"getTitle", .text, false⟩]⟩
    let l : Layout := ⟨"Note", none, "id", .int, [("title", .text)]⟩
    let store : Store := ⟨(Registry.empty.register t).2, ⟨500⟩, true⟩
    let first : Record := ⟨l, .int 1, [.text "a"]⟩
    let second : Record := ⟨l, .int 2, [.text "b"]⟩
    let run (entries : List (Option Record)) :=
      (store.putAll entries).run.run .script .sqlite store.registry []
    store.registry.Reachable ∧
      store.Opens [first, second] (run [none, some first, none, some second]) ∧
      Refuses [] (run [some first, none, some second, some first]) := by
  intro t l store first second run
  have hstore : store.registry.Reachable := .register t .empty
  have hresolve : Layout.resolve ⟨"Note", none, "id", .int, [⟨"getTitle", .text, false⟩]⟩
      = .ok ⟨"Note", none, "id", .int, [("title", .text)]⟩ := rfl
  have hregistered : store.registry.get? "Note" = some l :=
    Registry.get?_register_self (t := t) rfl hresolve
  have hcoherent : Coherent store.registry.get? first [second] :=
    (coherent_iff hstore).mpr ⟨l, hregistered, by decide, by decide⟩
  have hrepeated : ¬ Coherent store.registry.get? first [second, first] :=
    fun h ↦ absurd h.keys (by decide)
  obtain ⟨-, hopens, -⟩ := putAll_admission .script .sqlite hstore
    [none, some first, none, some second] []
  obtain ⟨-, hrefuses, -⟩ := putAll_admission .script .sqlite hstore
    [some first, none, some second, some first] []
  exact ⟨hstore, (hopens first [second] rfl).1.mpr hcoherent,
    (hrefuses first [second, first] rfl).2.1.mpr hrepeated⟩

end RecordStore
