import Mathlib.Data.List.ReduceOption
import RecordStore.Proofs.Taking
import RecordStore.Proofs.Transaction

namespace RecordStore

open Store (Admits)

/-!
# The operations of a store

Whatever a store is asked to do, it only asks for the statements that its operation has, over as
many keys as the operation is about. They are those of the layout that is registered under the name
of the operation, and records are only stored if this is their own layout.
-/

inductive Operation
  | put (entry : Option Record)
  | putAll (entries : List (Option Record))
  | remove (typeName : String) (keys : List Key)
  | removeRecords (entries : List (Option Record))
  | removeAll (typeName : String)
  | get (typeName : String) (key : Key)
  | getSome (typeName : String) (keys : List Key)
  | getAll (typeName : String)
  | getSize (typeName : String)
  | contains (typeName : String) (key : Key)
  | containsRecord (entry : Option Record)

inductive Reply
  | record (found : Option Record)
  | records (found : List Record)
  | count (n : Nat)
  | truth (holds : Bool)
deriving DecidableEq

namespace Operation

def given : Operation → List Record
  | put entry | containsRecord entry => entry.toList
  | putAll entries | removeRecords entries => entries.reduceOption
  | _ => []

/-- The records that are to be stored. -/
def stored : Operation → List Record
  | put entry => entry.toList
  | putAll entries => entries.reduceOption
  | _ => []

/-- The type that is named, or the types of the records that are given. -/
def typeNames : Operation → List String
  | remove typeName _ | removeAll typeName | get typeName _ | getSome typeName _ | getAll typeName
  | getSize typeName | contains typeName _ => [typeName]
  | op => op.given.map Record.typeName

/-- The statements for a batch of keys, which are looked up in slices, each with the number of keys
that it is about. -/
def statementsOfBatch (maxInList : Nat) (keys : List Key) : List (Statement × Nat) :=
  (chunks maxInList keys).map (fun slice ↦ (.selectKeys, slice.length))
    ++ [(.insert, 0), (.update, 0)]

/-- The statements that an operation may come to, each with the number of keys that it is about. -/
def statements (maxInList : Nat) : Operation → List (Statement × Nat)
  | put entry => statementsOfBatch maxInList (entry.toList.map Record.key)
  | putAll entries => statementsOfBatch maxInList (entries.reduceOption.map Record.key)
  | remove _ keys => [(.delete, keys.length)]
  | removeRecords entries => [(.delete, entries.reduceOption.length)]
  | removeAll _ => [(.deleteAll, 0)]
  | get _ _ => [(.selectSome, 1)]
  | getSome _ keys => (chunks maxInList keys).map fun slice ↦ (.selectSome, slice.length)
  | getAll _ => [(.selectAll, 0)]
  | getSize _ => [(.selectCount, 0)]
  | contains _ _ | containsRecord _ => [(.selectKeys, 1)]

/-- The layout stands for the name of the operation and the names of all records that are given, and
it is the layout of those that are to be stored. -/
structure IsFor (op : Operation) (layout? : String → Option Layout) (l : Layout) : Prop where
  named : op.typeNames ≠ []
  registered : ∀ typeName ∈ op.typeNames, layout? typeName = some l
  stored : ∀ r ∈ op.stored, r.layout = l

/-- What an operation may ask for. -/
structure AsksFor (op : Operation) (layout? : String → Option Layout) (maxInList : Nat)
    (request : Request) : Prop where
  layout : op.IsFor layout? request.layout
  statement : (request.statement, request.count) ∈ op.statements maxInList
  worded : (request.layout.command? request.statement request.count).isSome

variable {layout? : String → Option Layout} {l : Layout} {op : Operation}

/-- The layout that an operation is for has the names of the operation. -/
theorem IsFor.of_reachable {r : Registry} (h : op.IsFor r.get? l) (hr : r.Reachable) :
    r.get? l.typeName = some l ∧ ∀ typeName ∈ op.typeNames, typeName = l.typeName := by
  have hname : ∀ typeName ∈ op.typeNames, typeName = l.typeName := fun typeName htypeName ↦
    (hr.sound.layouts (h.registered typeName htypeName)).1.symm
  obtain ⟨typeName, htypeName⟩ := List.exists_mem_of_ne_nil _ h.named
  exact ⟨hname typeName htypeName ▸ h.registered typeName htypeName, hname⟩

theorem isFor_of_name {typeName : String} (hnames : op.typeNames = [typeName])
    (hstored : op.stored = []) (hl : layout? typeName = some l) : op.IsFor layout? l := by
  refine ⟨by simp [hnames], ?_, by simp [hstored]⟩
  simpa [hnames] using hl

theorem isFor_of_admits {records : List Record} (hnames : op.typeNames = records.map Record.typeName)
    (hstored : op.stored = records) (hpresent : records ≠ []) (hadmits : Admits layout? l records) :
    op.IsFor layout? l := by
  refine ⟨by simpa [hnames] using hpresent, ?_, fun r hr ↦ hadmits.layouts r (hstored ▸ hr)⟩
  intro typeName hname
  rw [hnames] at hname
  obtain ⟨r, hr, rfl⟩ := List.mem_map.mp hname
  rw [Record.typeName, hadmits.layouts r hr, hadmits.registered]

end Operation

namespace Store

def operate (store : Store) : Operation → Action Reply
  | .put entry => Reply.record <$> store.put entry
  | .putAll entries => Reply.records <$> store.putAll entries
  | .remove typeName keys => Reply.count <$> store.remove typeName keys
  | .removeRecords entries => Reply.count <$> store.removeRecords entries
  | .removeAll typeName => Reply.count <$> store.removeAll typeName
  | .get typeName key => Reply.record <$> store.get typeName key
  | .getSome typeName keys => Reply.records <$> store.getSome typeName keys
  | .getAll typeName => Reply.records <$> store.getAll typeName
  | .getSize typeName => Reply.count <$> store.getSize typeName
  | .contains typeName key => Reply.truth <$> store.contains typeName key
  | .containsRecord entry => Reply.truth <$> store.containsRecord entry

theorem operate_put_some (store : Store) (r : Record) : store.operate (.put (some r))
    = (fun stored : List Record ↦ Reply.record stored.getLast?) <$> store.putAll [some r] := by
  simp only [operate, put, bind_pure_comp, Functor.map_map]

/-- A batch asks for what an operation asks for that stores its records. -/
theorem asks_batch (store : Store) {op : Operation} {entries : List (Option Record)}
    (hnames : op.typeNames = entries.reduceOption.map Record.typeName)
    (hstored : op.stored = entries.reduceOption)
    (hstatements : op.statements store.options.maxInList = Operation.statementsOfBatch
      store.options.maxInList (entries.reduceOption.map Record.key)) :
    (store.putAll entries).Asks (op.AsksFor store.registry.get? store.options.maxInList) := by
  refine asks_putAll (fun l hpresent hadmits slice hslice ↦ ?_) fun l hpresent hadmits ↦ ?_
  · refine ⟨Operation.isFor_of_admits hnames hstored hpresent hadmits, ?_, rfl⟩
    rw [hstatements]
    exact List.mem_append_left _ (List.mem_map_of_mem hslice)
  · have hfor := Operation.isFor_of_admits hnames hstored hpresent hadmits
    refine ⟨⟨hfor, ?_, rfl⟩, fun hfields ↦ ⟨hfor, ?_, isSome_update hfields⟩⟩
    · rw [hstatements]
      exact List.mem_append_right _ List.mem_cons_self
    · rw [hstatements]
      exact List.mem_append_right _ (List.mem_cons_of_mem _ List.mem_cons_self)

/-- Every operation asks for its own statements only, and for none if it is refused. -/
theorem asks_operate (store : Store) (op : Operation) :
    (store.operate op).Asks (op.AsksFor store.registry.get? store.options.maxInList) := by
  cases op with
  | put entry =>
      cases entry with
      | none => exact (Action.asks_pure none).map _
      | some r =>
          rw [operate_put_some]
          exact (asks_batch store rfl rfl rfl).map _
  | putAll entries => exact (asks_batch store rfl rfl rfl).map _
  | remove typeName keys =>
      refine (asks_remove fun l hl ↦ ?_).map _
      exact ⟨Operation.isFor_of_name rfl rfl hl, List.mem_singleton_self _, rfl⟩
  | removeRecords entries =>
      refine (asks_removeRecords fun typeName l hpresent hone hl ↦ ?_).map _
      refine ⟨⟨by simpa [Operation.typeNames, Operation.given] using hpresent, ?_, nofun⟩,
        List.mem_singleton_self _, rfl⟩
      intro typeName' hname
      obtain ⟨r, hr, rfl⟩ := List.mem_map.mp hname
      rw [hone r hr, hl]
  | removeAll typeName =>
      refine (asks_removeAll fun l hl ↦ ?_).map _
      exact ⟨Operation.isFor_of_name rfl rfl hl, List.mem_singleton_self _, rfl⟩
  | get typeName key =>
      refine (asks_get fun l hl ↦ ?_).map _
      exact ⟨Operation.isFor_of_name rfl rfl hl, List.mem_singleton_self _, rfl⟩
  | getSome typeName keys =>
      refine (asks_getSome fun l hl slice hslice ↦ ?_).map _
      exact ⟨Operation.isFor_of_name rfl rfl hl, List.mem_map_of_mem hslice, rfl⟩
  | getAll typeName =>
      refine (asks_getAll fun l hl ↦ ?_).map _
      exact ⟨Operation.isFor_of_name rfl rfl hl, List.mem_singleton_self _, rfl⟩
  | getSize typeName =>
      refine (asks_getSize fun l hl ↦ ?_).map _
      exact ⟨Operation.isFor_of_name rfl rfl hl, List.mem_singleton_self _, rfl⟩
  | contains typeName key =>
      refine (asks_contains fun l hl ↦ ?_).map _
      exact ⟨Operation.isFor_of_name rfl rfl hl, List.mem_singleton_self _, rfl⟩
  | containsRecord entry =>
      cases entry with
      | none => exact (Action.asks_pure false).map _
      | some r =>
          refine (asks_contains fun l hl ↦ ?_).map _
          exact ⟨Operation.isFor_of_name rfl rfl hl, List.mem_singleton_self _, rfl⟩

theorem within_operate {store : Store} (hstore : store.registry.Reachable) (op : Operation) :
    (store.operate op).Within store.registry := by
  refine Program.Asks.mono (asks_operate store op) fun request hrequest ↦ ?_
  exact ⟨(hrequest.layout.of_reachable hstore).1, hrequest.worded⟩

end Store

end RecordStore
