import RecordStore.Proofs.Actions
import RecordStore.Store.Read
import RecordStore.Store.Write

namespace RecordStore.Store

/-!
# Operations on a registered type

Every operation that is given a type name and keys first looks the type up and then checks the keys.
It goes on with the layout only if both succeed, and otherwise it ends without a call.
-/

/-- The name is registered with the layout, and the keys are of its key type. -/
structure Takes (layout? : String → Option Layout) (l : Layout) (typeName : String)
    (keys : List Key) : Prop where
  registered : layout? typeName = some l
  keys : ∀ k ∈ keys, k.keyType = l.keyType

theorem Takes.unique {layout? : String → Option Layout} {l l' : Layout} {typeName : String}
    {keys keys' : List Key} (h : Takes layout? l typeName keys)
    (h' : Takes layout? l' typeName keys') : l = l' :=
  Option.some.inj (h.registered.symm.trans h'.registered)

theorem checkKey_eq_ok {l : Layout} {k : Key} : l.checkKey k = .ok () ↔ k.keyType = l.keyType := by
  unfold Layout.checkKey
  split
  · next h => exact iff_of_true rfl h
  · next h => exact iff_of_false (by simp) h

theorem checkKeys_singleton (l : Layout) (k : Key) : checkKeys l [k] = l.checkKey k := by
  simp only [checkKeys]
  cases l.checkKey k <;> rfl

theorem checkKeys_eq_ok {l : Layout} {keys : List Key} :
    checkKeys l keys = .ok () ↔ ∀ k ∈ keys, k.keyType = l.keyType := by
  induction keys with
  | nil => simp [checkKeys]
  | cons k keys ih =>
      rw [List.forall_mem_cons, ← ih, ← checkKey_eq_ok]
      simp only [checkKeys]
      cases l.checkKey k with
      | ok _ => exact (and_iff_right rfl).symm
      | error fault => exact iff_of_false (by simp [bind, Except.bind]) (by simp)

variable {α σ : Type} {surface : Surface σ} {d : Dialect} {s : σ}

/-- Goes on with the layout of a type once the keys have been checked. -/
def taking (store : Store) (typeName operation : String) (keys : List Key)
    (f : Layout → Action α) : Action α := do
  let l ← store.require typeName operation
  Action.ofArgument (checkKeys l keys)
  f l

theorem ensures_taking {store : Store} {typeName operation : String} {keys : List Key}
    {f : Layout → Action α} {Q : List Entry → Except Error α → σ → Prop}
    (htaken : ∀ l, Takes store.registry.get? l typeName keys → (f l).Ensures surface d s Q)
    (hrefused : (∀ l, ¬ Takes store.registry.get? l typeName keys) →
      ∀ fault, Q [] (.error (.illegalArgument fault)) s) :
    (store.taking typeName operation keys f).Ensures surface d s Q := by
  unfold taking require Registry.require
  cases hregistered : store.registry.get? typeName with
  | none =>
      rw [Action.ofArgument_error_bind, Action.ensures_throw]
      refine hrefused (fun l htakes ↦ ?_) _
      have hsome := htakes.registered
      rw [hregistered] at hsome
      cases hsome
  | some l =>
      rw [Action.ofArgument_ok_bind]
      cases hcheck : checkKeys l keys with
      | error fault =>
          rw [Action.ofArgument_error_bind, Action.ensures_throw]
          refine hrefused (fun l' htakes ↦ ?_) _
          have hsome := htakes.registered
          rw [hregistered] at hsome
          cases hsome
          rw [checkKeys_eq_ok.mpr htakes.keys] at hcheck
          cases hcheck
      | ok _ =>
          rw [Action.ofArgument_ok_bind]
          exact htaken l ⟨hregistered, checkKeys_eq_ok.mp hcheck⟩

theorem asks_taking {P : Request → Prop} {store : Store} {typeName operation : String}
    {keys : List Key} {f : Layout → Action α}
    (hf : ∀ l, store.registry.get? typeName = some l → (f l).Asks P) :
    (store.taking typeName operation keys f).Asks P := by
  unfold taking require Registry.require
  cases hregistered : store.registry.get? typeName with
  | none =>
      rw [Action.ofArgument_error_bind]
      exact Action.asks_throw _
  | some l =>
      rw [Action.ofArgument_ok_bind]
      exact (Action.asks_ofExcept _).bind fun _ ↦ hf l hregistered

/-! ## The operations -/

variable (store : Store) (typeName : String)

theorem get_eq (key : Key) :
    store.get typeName key = store.taking typeName "get" [key] fun l ↦ (do
      let found ← (store.fetchSome l [key]).during "get" typeName (.one key)
      pure found.getLast?) := by
  simp only [get, taking, checkKeys_singleton]

theorem getSome_eq (keys : List Key) :
    store.getSome typeName keys = store.taking typeName "get_some" keys fun l ↦
      if keys = [] then pure []
      else (store.fetchSome l keys).during "get_some" typeName (.ids keys) := by
  unfold getSome taking
  refine congrArg _ (funext fun l ↦ ?_)
  by_cases hkeys : keys = []
  · subst hkeys
    rfl
  · simp only [hkeys, if_false]

theorem getAll_eq : store.getAll typeName = store.taking typeName "get_all" [] fun l ↦
    Action.during "get_all" typeName .whole (do
      let rows ← Action.perform (.query false ⟨l, .selectAll, 0⟩ [] l.rowShape)
      materialize l rows) := rfl

theorem getSize_eq : store.getSize typeName = store.taking typeName "get_size" [] fun l ↦
    Action.during "get_size" typeName .whole (do
      let rows ← Action.perform (.query false ⟨l, .selectCount, 0⟩ [] [.i64])
      Action.ofExcept (countOf rows)) := rfl

theorem contains_eq (key : Key) :
    store.contains typeName key = store.taking typeName "contains" [key] fun l ↦
      Action.during "contains" typeName (.one key) (do
        let rows ← Action.perform
          (.query false ⟨l, .selectKeys, 1⟩ [key.toValue] [l.keyType.fieldType])
        pure !rows.isEmpty) := by
  simp only [contains, taking, checkKeys_singleton]

theorem remove_eq (keys : List Key) :
    store.remove typeName keys = store.taking typeName "remove" keys fun l ↦
      if keys = [] then pure 0
      else (do
        let count ← Action.during "remove" typeName (.ids keys)
          (Action.perform (.write false ⟨l, .delete, keys.length⟩ (keys.map Key.toValue)))
        if 0 < count then store.announce (keys.map (.deleted typeName))
        pure count) := by
  unfold remove taking
  refine congrArg _ (funext fun l ↦ ?_)
  by_cases hkeys : keys = []
  · subst hkeys
    rfl
  · simp only [hkeys, if_false]

theorem removeAll_eq : store.removeAll typeName = store.taking typeName "remove_all" [] fun l ↦
    Action.during "remove_all" typeName .whole
      (Action.perform (.write false ⟨l, .deleteAll, 0⟩ [])) := rfl

theorem removeRecords_of_none {entries : List (Option Record)}
    (hnone : entries.reduceOption = []) : store.removeRecords entries = pure 0 := by
  simp only [removeRecords, hnone]

section

variable {entries : List (Option Record)} (hpresent : entries.reduceOption ≠ [])

include hpresent

theorem removeRecords_of_one (hone : ∀ r ∈ entries.reduceOption, r.typeName = typeName) :
    store.removeRecords entries
      = store.remove typeName (entries.reduceOption.map Record.key) := by
  unfold removeRecords
  generalize entries.reduceOption = records at hpresent hone
  cases records with
  | nil => exact absurd rfl hpresent
  | cons first rest =>
      obtain rfl : first.typeName = typeName := hone first List.mem_cons_self
      have hnone : (first :: rest).find? (·.typeName != first.typeName) = none := by
        rw [List.find?_eq_none]
        intro r hr
        simp [hone r hr]
      simp only [hnone]

theorem removeRecords_of_mixed
    (hmixed : ¬ ∃ typeName, ∀ r ∈ entries.reduceOption, r.typeName = typeName) :
    ∃ fault, store.removeRecords entries = throw (.illegalArgument fault) := by
  unfold removeRecords
  generalize entries.reduceOption = records at hpresent hmixed
  cases records with
  | nil => exact absurd rfl hpresent
  | cons first rest =>
      cases hother : (first :: rest).find? (·.typeName != first.typeName) with
      | some other =>
          refine ⟨.mixedBatch "remove_objects" first.typeName other.typeName, ?_⟩
          simp only [hother]
      | none =>
          refine absurd ⟨first.typeName, fun r hr ↦ ?_⟩ hmixed
          simpa using List.find?_eq_none.mp hother r hr

end

/-! ## Statements that are asked for -/

section

variable {P : Request → Prop} {l : Layout}

theorem asks_materialize (l : Layout) (rows : List Row) : (materialize l rows).Asks P := by
  induction rows with
  | nil => exact Action.asks_pure []
  | cons row rows ih =>
      refine (Action.asks_tell _).bind fun _ ↦ ?_
      refine (Action.asks_ofExcept _).bind fun found ↦ ?_
      exact ih.bind fun rest ↦ Action.asks_pure _

theorem asks_fetchChunks {slices : List (List Key)}
    (h : ∀ slice ∈ slices, P ⟨l, .selectSome, slice.length⟩) : (fetchChunks l slices).Asks P := by
  induction slices with
  | nil => exact Action.asks_pure []
  | cons slice slices ih =>
      obtain ⟨hslice, hslices⟩ := List.forall_mem_cons.mp h
      refine (Action.asks_query hslice _ _ _).bind fun rows ↦ ?_
      refine (asks_materialize l rows).bind fun found ↦ ?_
      exact (ih hslices).bind fun rest ↦ Action.asks_pure _

variable {store : Store} {typeName : String}

theorem asks_get {key : Key}
    (h : ∀ l, store.registry.get? typeName = some l → P ⟨l, .selectSome, 1⟩) :
    (store.get typeName key).Asks P := by
  rw [get_eq]
  refine asks_taking fun l hl ↦ ?_
  have hfetch : (store.fetchSome l [key]).Asks P := by
    refine asks_fetchChunks fun slice hslice ↦ ?_
    obtain rfl : slice = [key] := by simpa [chunks] using hslice
    exact h l hl
  exact (hfetch.during _ _ _).bind fun found ↦ Action.asks_pure _

theorem asks_getSome {keys : List Key} (h : ∀ l, store.registry.get? typeName = some l →
      ∀ slice ∈ chunks store.options.maxInList keys, P ⟨l, .selectSome, slice.length⟩) :
    (store.getSome typeName keys).Asks P := by
  rw [getSome_eq]
  refine asks_taking fun l hl ↦ ?_
  split
  · exact Action.asks_pure []
  · exact (asks_fetchChunks (h l hl)).during _ _ _

theorem asks_getAll (h : ∀ l, store.registry.get? typeName = some l → P ⟨l, .selectAll, 0⟩) :
    (store.getAll typeName).Asks P := by
  rw [getAll_eq]
  refine asks_taking fun l hl ↦ Action.Asks.during ?_ _ _ _
  refine (Action.asks_query (h l hl) _ _ _).bind fun rows ↦ ?_
  exact asks_materialize l rows

theorem asks_getSize (h : ∀ l, store.registry.get? typeName = some l → P ⟨l, .selectCount, 0⟩) :
    (store.getSize typeName).Asks P := by
  rw [getSize_eq]
  refine asks_taking fun l hl ↦ Action.Asks.during ?_ _ _ _
  refine (Action.asks_query (h l hl) _ _ _).bind fun rows ↦ ?_
  exact Action.asks_ofExcept _

theorem asks_contains {key : Key}
    (h : ∀ l, store.registry.get? typeName = some l → P ⟨l, .selectKeys, 1⟩) :
    (store.contains typeName key).Asks P := by
  rw [contains_eq]
  refine asks_taking fun l hl ↦ Action.Asks.during ?_ _ _ _
  refine (Action.asks_query (h l hl) _ _ _).bind fun rows ↦ ?_
  exact Action.asks_pure _

theorem asks_remove {keys : List Key}
    (h : ∀ l, store.registry.get? typeName = some l → P ⟨l, .delete, keys.length⟩) :
    (store.remove typeName keys).Asks P := by
  rw [remove_eq]
  refine asks_taking fun l hl ↦ ?_
  split
  · exact Action.asks_pure 0
  · refine ((Action.asks_write (h l hl) _ _).during _ _ _).bind fun count ↦ ?_
    split
    · exact (Action.asks_announce store _).bind fun _ ↦ Action.asks_pure _
    · exact Action.asks_pure _

theorem asks_removeAll (h : ∀ l, store.registry.get? typeName = some l → P ⟨l, .deleteAll, 0⟩) :
    (store.removeAll typeName).Asks P := by
  rw [removeAll_eq]
  refine asks_taking fun l hl ↦ Action.Asks.during ?_ _ _ _
  exact Action.asks_write (h l hl) _ _

/-- Only records of one type are removed. -/
theorem asks_removeRecords {entries : List (Option Record)}
    (h : ∀ typeName l, entries.reduceOption ≠ [] →
      (∀ r ∈ entries.reduceOption, r.typeName = typeName) →
      store.registry.get? typeName = some l → P ⟨l, .delete, entries.reduceOption.length⟩) :
    (store.removeRecords entries).Asks P := by
  unfold removeRecords
  cases hrecords : entries.reduceOption with
  | nil => exact Action.asks_pure 0
  | cons first rest =>
      rw [hrecords] at h
      cases hother : (first :: rest).find? (·.typeName != first.typeName) with
      | some other =>
          simp only [hother]
          exact Action.asks_throw _
      | none =>
          simp only [hother]
          have hsame : ∀ r ∈ first :: rest, r.typeName = first.typeName := fun r hr ↦ by
            simpa using List.find?_eq_none.mp hother r hr
          refine asks_remove fun l hl ↦ ?_
          rw [List.length_map]
          exact h first.typeName l (List.cons_ne_nil first rest) hsame hl

end

section

variable {store : Store} (hstore : store.registry.Reachable)

include hstore

theorem within_get (typeName : String) (key : Key) :
    (store.get typeName key).Within store.registry :=
  asks_get fun _ hl ↦ hstore.knows hl rfl

theorem within_getSome (typeName : String) (keys : List Key) :
    (store.getSome typeName keys).Within store.registry :=
  asks_getSome fun _ hl _ _ ↦ hstore.knows hl rfl

theorem within_getAll (typeName : String) : (store.getAll typeName).Within store.registry :=
  asks_getAll fun _ hl ↦ hstore.knows hl rfl

theorem within_getSize (typeName : String) : (store.getSize typeName).Within store.registry :=
  asks_getSize fun _ hl ↦ hstore.knows hl rfl

theorem within_remove (typeName : String) (keys : List Key) :
    (store.remove typeName keys).Within store.registry :=
  asks_remove fun _ hl ↦ hstore.knows hl rfl

theorem within_removeAll (typeName : String) :
    (store.removeAll typeName).Within store.registry :=
  asks_removeAll fun _ hl ↦ hstore.knows hl rfl

end

end RecordStore.Store
