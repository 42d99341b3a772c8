import RecordStore.Proofs.Operations
import RecordStore.Proofs.Tables.Statements

namespace RecordStore

open Store (Admits Takes)

/-!
# A store is a keyed map

What a store does on keyed tables is described by what it does to their contents: a map from tables
and keys to values. Every sequence of operations is answered as that map answers it, and leaves the
tables with the contents that the map is left with.
-/

namespace Operation

/-- Records have been built, and several records are asked for under distinct keys. -/
def Proper (op : Operation) : Prop :=
  (∀ r ∈ op.given, r.Built) ∧
    match op with
    | getSome _ keys => keys.Nodup
    | _ => True

/-- The operations that are carried out where the given layouts are registered. -/
def Accepted (layout? : String → Option Layout) : Operation → Prop
  | put none => True
  | put (some r) => ∃ l, Admits layout? l [r]
  | putAll entries => entries.reduceOption = [] ∨ ∃ l, Admits layout? l entries.reduceOption
  | remove typeName keys => ∃ l, Takes layout? l typeName keys
  | removeRecords entries => entries.reduceOption = [] ∨
      ∃ typeName l, (∀ r ∈ entries.reduceOption, r.typeName = typeName) ∧
        Takes layout? l typeName (entries.reduceOption.map Record.key)
  | removeAll typeName => ∃ l, Takes layout? l typeName []
  | get typeName key => ∃ l, Takes layout? l typeName [key]
  | getSome typeName keys => ∃ l, Takes layout? l typeName keys
  | getAll typeName => ∃ l, Takes layout? l typeName []
  | getSize typeName => ∃ l, Takes layout? l typeName []
  | contains typeName key => ∃ l, Takes layout? l typeName [key]
  | containsRecord none => True
  | containsRecord (some r) => ∃ l, Takes layout? l r.typeName [r.key]

theorem accepted_put_some (layout? : String → Option Layout) (r : Record) :
    (put (some r)).Accepted layout? ↔ (putAll [some r]).Accepted layout? :=
  (or_iff_right (List.cons_ne_nil r [])).symm

theorem accepted_removeRecords (layout? : String → Option Layout) {typeName : String}
    {entries : List (Option Record)} (hpresent : entries.reduceOption ≠ [])
    (hone : ∀ r ∈ entries.reduceOption, r.typeName = typeName) :
    (removeRecords entries).Accepted layout? ↔
      ∃ l, Takes layout? l typeName (entries.reduceOption.map Record.key) := by
  constructor
  · rintro (hempty | ⟨typeName', l, hone', htakes⟩)
    · exact absurd hempty hpresent
    · obtain ⟨r, hr⟩ := List.exists_mem_of_ne_nil _ hpresent
      obtain rfl : typeName = typeName' := (hone r hr).symm.trans (hone' r hr)
      exact ⟨l, htakes⟩
  · rintro ⟨l, htakes⟩
    exact .inr ⟨typeName, l, hone, htakes⟩

end Operation

namespace Contents

/-- How a map answers an operation, and what it is afterwards. The answer is fixed up to the order
in which several records are listed, and an operation that is not accepted is refused and changes
nothing. A size is only promised to be right below the greatest 64-bit integer. -/
inductive Answers (layout? : String → Option Layout) (m : Contents) :
    Operation → Except Error Reply → Contents → Prop
  | refused {op : Operation} (fault : ArgumentFault) :
    ¬ op.Accepted layout? → Answers layout? m op (.error (.illegalArgument fault)) m
  | putNone : Answers layout? m (.put none) (.ok (.record none)) m
  | put {l : Layout} {r : Record} : Admits layout? l [r] →
    Answers layout? m (.put (some r)) (.ok (.record (some r))) (m.overlay [r])
  | putAll {entries : List (Option Record)} : (Operation.putAll entries).Accepted layout? →
    Answers layout? m (.putAll entries) (.ok (.records entries.reduceOption))
      (m.overlay entries.reduceOption)
  | remove {l : Layout} {typeName : String} {keys : List Key} {n : Nat} :
    Takes layout? l typeName keys → Counts (fun k ↦ k ∈ keys ∧ (m l.table k).isSome) n →
    Answers layout? m (.remove typeName keys) (.ok (.count n))
      (m.without l.table fun k ↦ k ∈ keys)
  | removeNone {entries : List (Option Record)} : entries.reduceOption = [] →
    Answers layout? m (.removeRecords entries) (.ok (.count 0)) m
  | removeRecords {l : Layout} {typeName : String} {entries : List (Option Record)}
      {keys : List Key} {n : Nat} : entries.reduceOption ≠ [] →
    (∀ r ∈ entries.reduceOption, r.typeName = typeName) →
    entries.reduceOption.map Record.key = keys → Takes layout? l typeName keys →
    Counts (fun k ↦ k ∈ keys ∧ (m l.table k).isSome) n →
    Answers layout? m (.removeRecords entries) (.ok (.count n))
      (m.without l.table fun k ↦ k ∈ keys)
  | removeAll {l : Layout} {typeName : String} {n : Nat} :
    Takes layout? l typeName [] → Counts (fun k ↦ (m l.table k).isSome) n →
    Answers layout? m (.removeAll typeName) (.ok (.count n)) (m.without l.table fun _ ↦ true)
  | get {l : Layout} {typeName : String} {key : Key} : Takes layout? l typeName [key] →
    Answers layout? m (.get typeName key) (.ok (.record (m.record? l key))) m
  | getSome {l : Layout} {typeName : String} {keys : List Key} {found : List Record} :
    Takes layout? l typeName keys → found.Perm (keys.filterMap (m.record? l)) →
    Answers layout? m (.getSome typeName keys) (.ok (.records found)) m
  | getAll {l : Layout} {typeName : String} {found : List Record} :
    Takes layout? l typeName [] → (found.map Record.key).Nodup →
    (∀ r, r ∈ found ↔ m.record? l r.key = some r) →
    Answers layout? m (.getAll typeName) (.ok (.records found)) m
  | getSize {l : Layout} {typeName : String} {n size : Nat} :
    Takes layout? l typeName [] → Counts (fun k ↦ (m l.table k).isSome) n →
    (n < 2 ^ 63 → size = n) →
    Answers layout? m (.getSize typeName) (.ok (.count size)) m
  | contains {l : Layout} {typeName : String} {key : Key} : Takes layout? l typeName [key] →
    Answers layout? m (.contains typeName key) (.ok (.truth (m l.table key).isSome)) m
  | containsNone : Answers layout? m (.containsRecord none) (.ok (.truth false)) m
  | containsRecord {l : Layout} {r : Record} : Takes layout? l r.typeName [r.key] →
    Answers layout? m (.containsRecord (some r)) (.ok (.truth (m l.table r.key).isSome)) m

inductive AnswersAll (layout? : String → Option Layout) :
    Contents → List Operation → List (Except Error Reply) → Contents → Prop
  | nil {m : Contents} : AnswersAll layout? m [] [] m
  | cons {m m' m'' : Contents} {op : Operation} {ops : List Operation}
      {reply : Except Error Reply} {replies : List (Except Error Reply)} :
    Answers layout? m op reply m' → AnswersAll layout? m' ops replies m'' →
    AnswersAll layout? m (op :: ops) (reply :: replies) m''

section

variable {layout? : String → Option Layout} {m m' m'' : Contents} {op : Operation}
  {reply reply' : Except Error Reply}

/-- The operations that are accepted are those that succeed. -/
theorem Answers.isOk_iff (h : Answers layout? m op reply m') :
    reply.isOk = true ↔ op.Accepted layout? := by
  cases h with
  | refused fault hrefused => exact iff_of_false Bool.false_ne_true hrefused
  | putNone => exact iff_of_true rfl trivial
  | put hadmits => exact iff_of_true rfl ⟨_, hadmits⟩
  | putAll haccepted => exact iff_of_true rfl haccepted
  | remove htakes => exact iff_of_true rfl ⟨_, htakes⟩
  | removeNone hempty => exact iff_of_true rfl (.inl hempty)
  | removeRecords hpresent hone hkeys htakes =>
      exact iff_of_true rfl (.inr ⟨_, _, hone, hkeys ▸ htakes⟩)
  | removeAll htakes => exact iff_of_true rfl ⟨_, htakes⟩
  | get htakes => exact iff_of_true rfl ⟨_, htakes⟩
  | getSome htakes => exact iff_of_true rfl ⟨_, htakes⟩
  | getAll htakes => exact iff_of_true rfl ⟨_, htakes⟩
  | getSize htakes => exact iff_of_true rfl ⟨_, htakes⟩
  | contains htakes => exact iff_of_true rfl ⟨_, htakes⟩
  | containsNone => exact iff_of_true rfl trivial
  | containsRecord htakes => exact iff_of_true rfl ⟨_, htakes⟩

theorem Answers.contents_unique (h : Answers layout? m op reply m')
    (h' : Answers layout? m op reply' m'') : m' = m'' := by
  have hsame : reply.isOk = reply'.isOk := by
    rw [Bool.eq_iff_iff, h.isOk_iff, h'.isOk_iff]
  cases h with
  | remove htakes =>
      cases h' with
      | refused => cases hsame
      | remove htakes' => rw [htakes.unique htakes']
  | removeAll htakes =>
      cases h' with
      | refused => cases hsame
      | removeAll htakes' => rw [htakes.unique htakes']
  | removeNone hempty =>
      cases h' with
      | refused => rfl
      | removeNone => rfl
      | removeRecords hpresent => exact absurd hempty hpresent
  | removeRecords hpresent hone hkeys htakes =>
      cases h' with
      | refused => cases hsame
      | removeNone hempty => exact absurd hempty hpresent
      | removeRecords _ hone' hkeys' htakes' =>
          obtain ⟨r, hr⟩ := List.exists_mem_of_ne_nil _ hpresent
          obtain rfl := (hone r hr).symm.trans (hone' r hr)
          rw [htakes.unique htakes', ← hkeys, hkeys']
  | _ => cases h' <;> first | rfl | cases hsame

/-- The contents after a sequence of operations do not depend on the order of any answer. -/
theorem AnswersAll.contents_unique {ops : List Operation}
    {replies replies' : List (Except Error Reply)} (h : AnswersAll layout? m ops replies m')
    (h' : AnswersAll layout? m ops replies' m'') : m' = m'' := by
  induction h generalizing replies' with
  | nil =>
      cases h' with
      | nil => rfl
  | cons hfirst _ ih =>
      cases h' with
      | cons hfirst' hrest' =>
          obtain rfl := hfirst.contents_unique hfirst'
          exact ih hrest'

end

end Contents

namespace Store

/-- The replies to a sequence of operations and the state they end in. The statement books that an
operation leaves behind are used by the next one. -/
def operateAll {σ : Type} (surface : Surface σ) (d : Dialect) (store : Store) :
    List Operation → σ → List (Except Error Reply) × σ
  | [], s => ([], s)
  | op :: ops, s =>
    let o := (store.operate op).run.run surface d store.registry s
    let rest := operateAll surface d { store with registry := o.registry } ops o.state
    (o.result :: rest.1, rest.2)

end Store

/-! ## One operation -/

/-- From one state between transactions to another, with the answer of the map. -/
structure TableState.Follows (layout? : String → Option Layout) (s : TableState) (op : Operation)
    (reply : Except Error Reply) (s' : TableState) : Prop where
  closed : s'.pending = none
  layouts : s'.committed.layouts = s.committed.layouts
  answers : Contents.Answers layout? s.committed.contents op reply s'.committed.contents

theorem TableState.Unchanged.follows {layout? : String → Option Layout} {s s' : TableState}
    {op : Operation} {reply : Except Error Reply} (h : s.Unchanged s')
    (hanswers : Contents.Answers layout? s.committed.contents op reply s.committed.contents) :
    s.Follows layout? op reply s' := by
  refine ⟨h.closed, ?_, ?_⟩
  · rw [h.same]
  · rwa [h.same]

@[simp] theorem Contents.without_nil (m : Contents) (table : TableName) :
    (m.without table fun k ↦ k ∈ ([] : List Key)) = m := by
  funext table' k
  simp [without]

namespace Store

section

variable {d : Dialect} {arrangement : Arrangement} {s : TableState} {store : Store}
  (hstore : store.registry.Reachable) (hserves : s.committed.Serves store.registry.get?)
  (hpending : s.pending = none)

include hstore hserves hpending

/-- An operation on a type is refused unless its type and keys are taken, and otherwise it does what
it does with the layout. -/
theorem follows_taking {α : Type} {op : Operation} {f : α → Reply} {typeName operation : String}
    {keys : List Key} {body : Layout → Action α}
    (haccepted : op.Accepted store.registry.get? ↔
      ∃ l, Takes store.registry.get? l typeName keys)
    (htaken : ∀ l, Takes store.registry.get? l typeName keys → l.Sound →
      s.committed.layouts l.table = some l →
      (body l).Ensures (Surface.soundTables d arrangement) d s fun _ outcome s' ↦
        s.Follows store.registry.get? op (outcome.map f) s') :
    (f <$> store.taking typeName operation keys body).Ensures
      (Surface.soundTables d arrangement) d s
      fun _ reply s' ↦ s.Follows store.registry.get? op reply s' := by
  rw [Action.ensures_map]
  refine ensures_taking (fun l htakes ↦ ?_) fun hnone fault ↦ ?_
  · exact htaken l htakes (hstore.sound.layouts htakes.registered).2
      (hserves typeName l htakes.registered)
  · exact ⟨hpending, rfl, .refused fault fun h ↦ not_exists.mpr hnone (haccepted.mp h)⟩

theorem follows_get (typeName : String) (key : Key) :
    (store.operate (.get typeName key)).Ensures (Surface.soundTables d arrangement) d s
      fun _ reply s' ↦ s.Follows store.registry.get? (.get typeName key) reply s' := by
  rw [operate, get_eq]
  refine follows_taking hstore hserves hpending .rfl fun l htakes hl hdb ↦ ?_
  rw [Action.ensures_bind, Action.ensures_during]
  refine (fetchSome_tables hl hdb hpending store (List.nodup_singleton key)).mono ?_
  rintro log outcome s' ⟨hunchanged, found, rfl, hperm⟩
  simp only [Except.mapError, Action.Then]
  rw [Action.ensures_pure]
  have hlast : found.getLast? = s.committed.contents.record? l key := by
    cases hr : s.committed.contents.record? l key with
    | none =>
        rw [List.filterMap_cons_none hr, List.filterMap_nil, List.perm_nil] at hperm
        rw [hperm, List.getLast?_nil]
    | some r =>
        rw [List.filterMap_cons_some hr, List.filterMap_nil, List.perm_singleton] at hperm
        rw [hperm, List.getLast?_singleton]
  refine hunchanged.follows ?_
  rw [hlast]
  exact .get htakes

theorem follows_getSome (typeName : String) {keys : List Key} (hkeys : keys.Nodup) :
    (store.operate (.getSome typeName keys)).Ensures (Surface.soundTables d arrangement) d s
      fun _ reply s' ↦ s.Follows store.registry.get? (.getSome typeName keys) reply s' := by
  rw [operate, getSome_eq]
  refine follows_taking hstore hserves hpending .rfl fun l htakes hl hdb ↦ ?_
  split
  · next hempty =>
    subst hempty
    rw [Action.ensures_pure]
    exact ⟨hpending, rfl, .getSome htakes (.refl _)⟩
  · rw [Action.ensures_during]
    refine (fetchSome_tables hl hdb hpending store hkeys).mono ?_
    rintro log outcome s' ⟨hunchanged, found, rfl, hperm⟩
    exact hunchanged.follows (.getSome htakes hperm)

theorem follows_getAll (typeName : String) :
    (store.operate (.getAll typeName)).Ensures (Surface.soundTables d arrangement) d s
      fun _ reply s' ↦ s.Follows store.registry.get? (.getAll typeName) reply s' := by
  rw [operate, getAll_eq]
  refine follows_taking hstore hserves hpending .rfl fun l htakes hl hdb ↦ ?_
  rw [Action.ensures_during]
  refine (selectAll_tables hl hdb hpending).mono ?_
  rintro log outcome s' ⟨hunchanged, found, rfl, hnodup, hfound⟩
  exact hunchanged.follows (.getAll htakes hnodup hfound)

theorem follows_getSize (typeName : String) :
    (store.operate (.getSize typeName)).Ensures (Surface.soundTables d arrangement) d s
      fun _ reply s' ↦ s.Follows store.registry.get? (.getSize typeName) reply s' := by
  rw [operate, getSize_eq]
  refine follows_taking hstore hserves hpending .rfl fun l htakes _ hdb ↦ ?_
  rw [Action.ensures_during]
  refine (selectCount_tables hdb hpending).mono ?_
  rintro log outcome s' ⟨hunchanged, n, size, rfl, hcounts, hsize⟩
  exact hunchanged.follows (.getSize htakes hcounts hsize)

/-- A look for a key, for whichever operation it is that looks. -/
theorem follows_look {op : Operation} {typeName : String} {key : Key}
    (haccepted : op.Accepted store.registry.get? ↔
      ∃ l, Takes store.registry.get? l typeName [key])
    (hanswers : ∀ l, Takes store.registry.get? l typeName [key] →
      Contents.Answers store.registry.get? s.committed.contents op
        (.ok (.truth (s.committed.contents l.table key).isSome)) s.committed.contents) :
    (Reply.truth <$> store.contains typeName key).Ensures (Surface.soundTables d arrangement) d s
      fun _ reply s' ↦ s.Follows store.registry.get? op reply s' := by
  rw [contains_eq]
  refine follows_taking hstore hserves hpending haccepted fun l htakes _ hdb ↦ ?_
  rw [Action.ensures_during]
  refine (selectKey_tables hdb hpending key).mono ?_
  rintro log outcome s' ⟨hunchanged, rfl⟩
  exact hunchanged.follows (hanswers l htakes)

theorem follows_containsRecord (entry : Option Record) :
    (store.operate (.containsRecord entry)).Ensures (Surface.soundTables d arrangement) d s
      fun _ reply s' ↦ s.Follows store.registry.get? (.containsRecord entry) reply s' := by
  cases entry with
  | none => exact ⟨hpending, rfl, .containsNone⟩
  | some r => exact follows_look hstore hserves hpending .rfl fun l ↦ .containsRecord

/-- A removal of listed keys, for whichever operation it is that removes them. -/
theorem follows_removal {op : Operation} {typeName : String} {keys : List Key}
    (haccepted : op.Accepted store.registry.get? ↔
      ∃ l, Takes store.registry.get? l typeName keys)
    (hanswers : ∀ l n, Takes store.registry.get? l typeName keys →
      Counts (fun k ↦ k ∈ keys ∧ (s.committed.contents l.table k).isSome) n →
      Contents.Answers store.registry.get? s.committed.contents op (.ok (.count n))
        (s.committed.contents.without l.table fun k ↦ k ∈ keys)) :
    (Reply.count <$> store.remove typeName keys).Ensures (Surface.soundTables d arrangement) d s
      fun _ reply s' ↦ s.Follows store.registry.get? op reply s' := by
  rw [remove_eq]
  refine follows_taking hstore hserves hpending haccepted fun l htakes _ hdb ↦ ?_
  split
  · next hempty =>
    subst hempty
    rw [Action.ensures_pure]
    have hnone := hanswers l 0 htakes ⟨[], .nil, by simp, rfl⟩
    rw [Contents.without_nil] at hnone
    exact ⟨hpending, rfl, hnone⟩
  · next hkeys =>
    have htext : l.text d .delete keys.length = .ok (some ((Sql.Command.delete l.table
        (some ⟨l.keyColumn, keys.length⟩)).render d)) := by
      simp [Layout.text, Statement.isSized, hkeys, Layout.sql?, Layout.command?]
    have hlisted : Sql.KeyFilter.Listed (some ⟨l.keyColumn, keys.length⟩) := by
      simpa [Sql.KeyFilter.Listed] using hkeys
    rw [Action.ensures_bind, Action.ensures_during]
    refine (delete_tables hdb hpending htext hlisted
      fun t ht ↦ Table.filter?_keys ht keys).mono ?_
    rintro log outcome s' ⟨hclosed, hlayouts, hcontents, n, rfl, hcounts⟩
    simp only [decide_eq_true_eq] at hcounts
    have hfollows : s.Follows store.registry.get? op (.ok (.count n)) s' :=
      ⟨hclosed, hlayouts, hcontents ▸ hanswers l n htakes hcounts⟩
    simp only [Except.mapError, Action.Then]
    split
    · rw [Action.ensures_bind, Action.ensures_announce]
      simp only [Action.Then]
      rw [Action.ensures_pure]
      exact hfollows
    · rw [Action.ensures_pure]
      exact hfollows

theorem follows_removeAll (typeName : String) :
    (store.operate (.removeAll typeName)).Ensures (Surface.soundTables d arrangement) d s
      fun _ reply s' ↦ s.Follows store.registry.get? (.removeAll typeName) reply s' := by
  rw [operate, removeAll_eq]
  refine follows_taking hstore hserves hpending .rfl fun l htakes _ hdb ↦ ?_
  rw [Action.ensures_during]
  refine (delete_tables (p := fun _ ↦ true) hdb hpending rfl (by simp [Sql.KeyFilter.Listed])
    fun t _ ↦ rfl).mono ?_
  rintro log outcome s' ⟨hclosed, hlayouts, hcontents, n, rfl, hcounts⟩
  simp only [true_and] at hcounts
  refine ⟨hclosed, hlayouts, ?_⟩
  rw [hcontents]
  exact .removeAll htakes hcounts

theorem follows_removeRecords (entries : List (Option Record)) :
    (store.operate (.removeRecords entries)).Ensures (Surface.soundTables d arrangement) d s
      fun _ reply s' ↦ s.Follows store.registry.get? (.removeRecords entries) reply s' := by
  rw [operate]
  by_cases hpresent : entries.reduceOption = []
  · rw [removeRecords_of_none store hpresent, Action.ensures_map, Action.ensures_pure]
    exact ⟨hpending, rfl, .removeNone hpresent⟩
  by_cases hone : ∃ typeName, ∀ r ∈ entries.reduceOption, r.typeName = typeName
  · obtain ⟨typeName, hone⟩ := hone
    rw [removeRecords_of_one store typeName hpresent hone]
    have haccepted := Operation.accepted_removeRecords store.registry.get? hpresent hone
    exact follows_removal hstore hserves hpending haccepted fun l n htakes hcounts ↦
      .removeRecords hpresent hone rfl htakes hcounts
  · obtain ⟨fault, hmixed⟩ := removeRecords_of_mixed store hpresent hone
    rw [hmixed, Action.ensures_map, Action.ensures_throw]
    refine ⟨hpending, rfl, .refused fault ?_⟩
    rintro (hempty | ⟨typeName, -, hone', -⟩)
    · exact hpresent hempty
    · exact hone ⟨typeName, hone'⟩

/-- A batch is refused, or laid over the contents, for whichever operation it is that stores it. -/
theorem follows_batch {op : Operation} {entries : List (Option Record)}
    {f : List Record → Reply} (hbuilt : ∀ r ∈ entries.reduceOption, r.Built)
    (haccepted : op.Accepted store.registry.get? ↔
      (Operation.putAll entries).Accepted store.registry.get?)
    (hanswers : (Operation.putAll entries).Accepted store.registry.get? →
      Contents.Answers store.registry.get? s.committed.contents op
        (.ok (f entries.reduceOption)) (s.committed.contents.overlay entries.reduceOption)) :
    (f <$> store.putAll entries).Ensures (Surface.soundTables d arrangement) d s
      fun _ reply s' ↦ s.Follows store.registry.get? op reply s' := by
  rw [Action.ensures_map]
  refine (putAll_tables hstore (fun r hr ↦ (hbuilt r hr).aligned) hserves hpending).mono ?_
  rintro log outcome s' ⟨hstores, hstored⟩
  by_cases hop : (Operation.putAll entries).Accepted store.registry.get?
  · obtain ⟨stored, rfl⟩ := hstored (fun _ ↦ rfl) hop
    obtain ⟨rfl, hlayouts, hcontents⟩ := hstores.overlaid stored rfl
    refine ⟨hstores.closed, hlayouts, ?_⟩
    rw [hcontents]
    exact hanswers hop
  · obtain ⟨hpresent, hnone⟩ := not_or.mp hop
    obtain ⟨fault, rfl⟩ := hstores.refused hpresent fun l h ↦ hnone ⟨l, h⟩
    have hunchanged : s.Unchanged s' := ⟨hstores.closed, hstores.unchanged _ rfl⟩
    exact hunchanged.follows (.refused fault fun h ↦ hop (haccepted.mp h))

theorem follows_putAll {entries : List (Option Record)}
    (hbuilt : ∀ r ∈ entries.reduceOption, r.Built) :
    (store.operate (.putAll entries)).Ensures (Surface.soundTables d arrangement) d s
      fun _ reply s' ↦ s.Follows store.registry.get? (.putAll entries) reply s' :=
  follows_batch hstore hserves hpending hbuilt .rfl .putAll

theorem follows_put {entry : Option Record} (hbuilt : ∀ r ∈ entry.toList, r.Built) :
    (store.operate (.put entry)).Ensures (Surface.soundTables d arrangement) d s
      fun _ reply s' ↦ s.Follows store.registry.get? (.put entry) reply s' := by
  cases entry with
  | none => exact ⟨hpending, rfl, .putNone⟩
  | some r =>
      have haccepted := Operation.accepted_put_some store.registry.get? r
      rw [operate_put_some]
      refine follows_batch hstore hserves hpending hbuilt haccepted fun h ↦ ?_
      obtain ⟨l, hadmits⟩ := haccepted.mpr h
      exact .put hadmits

theorem follows_operate {op : Operation} (hop : op.Proper) :
    (store.operate op).Ensures (Surface.soundTables d arrangement) d s
      fun _ reply s' ↦ s.Follows store.registry.get? op reply s' := by
  obtain ⟨hbuilt, hkeys⟩ := hop
  cases op with
  | put entry => exact follows_put hstore hserves hpending hbuilt
  | putAll entries => exact follows_putAll hstore hserves hpending hbuilt
  | remove typeName keys =>
      exact follows_removal hstore hserves hpending .rfl fun l n ↦ .remove
  | removeRecords entries => exact follows_removeRecords hstore hserves hpending entries
  | removeAll typeName => exact follows_removeAll hstore hserves hpending typeName
  | get typeName key => exact follows_get hstore hserves hpending typeName key
  | getSome typeName keys => exact follows_getSome hstore hserves hpending typeName hkeys
  | getAll typeName => exact follows_getAll hstore hserves hpending typeName
  | getSize typeName => exact follows_getSize hstore hserves hpending typeName
  | contains typeName key => exact follows_look hstore hserves hpending .rfl fun l ↦ .contains
  | containsRecord entry => exact follows_containsRecord hstore hserves hpending entry

end

end Store

/-! ## Every sequence of operations -/

/-- On keyed tables on which no call fails, a store answers every sequence of operations as the map
of the contents does, and ends with the contents that the map ends with. -/
theorem operateAll_answersAll (d : Dialect) (arrangement : Arrangement) {store : Store}
    (hstore : store.registry.Reachable) {ops : List Operation} (hops : ∀ op ∈ ops, op.Proper)
    {s : TableState} (hserves : s.committed.Serves store.registry.get?)
    (hpending : s.pending = none) :
    let o := Store.operateAll (Surface.soundTables d arrangement) d store ops s
    o.2.pending = none ∧ o.2.committed.layouts = s.committed.layouts ∧
      Contents.AnswersAll store.registry.get? s.committed.contents ops o.1
        o.2.committed.contents := by
  induction ops generalizing store s with
  | nil => exact ⟨hpending, rfl, .nil⟩
  | cons op ops ih =>
      obtain ⟨hop, hrest⟩ := List.forall_mem_cons.mp hops
      have hstep : (store.operate op).Ensures (Surface.soundTables d arrangement) d s _ :=
        Store.follows_operate hstore hserves hpending hop
      obtain ⟨⟨log, -, -, hfollows⟩, hreachable, hget⟩ :=
        hstep.run hstore (Store.within_operate hstore op)
      -- the books may have grown, but the same layouts are registered
      generalize honce : (store.operate op).run.run (Surface.soundTables d arrangement) d
        store.registry s = once at hfollows hreachable hget
      let next : Store := { store with registry := once.registry }
      have hnext : next.registry.Reachable := hreachable
      have hserves' : once.state.committed.Serves next.registry.get? := by
        intro name l hl
        rw [hfollows.layouts]
        rw [hget] at hl
        exact hserves name l hl
      have htail := ih hnext hrest hserves' hfollows.closed
      rw [hget] at htail
      obtain ⟨hclosed, hlayouts, hanswers⟩ := htail
      simp only [Store.operateAll, honce]
      exact ⟨hclosed, hlayouts.trans hfollows.layouts, .cons hfollows.answers hanswers⟩

/-- Three notes are put one over another, read and removed, two keys to a list and the rows of every
answer in reverse. -/
theorem operateAll_answersAll_notes :
    let t : RecordType := ⟨"Note", none, "id", .int, [⟨"getTitle", .text, false⟩]⟩
    let l : Layout := ⟨"Note", none, "id", .int, [("title", .text)]⟩
    let store : Store := ⟨(Registry.empty.register t).2, ⟨2⟩, false⟩
    let note (k : Int64) (title : String) : Record := ⟨l, .int k, [.text title]⟩
    let ops : List Operation :=
      [.putAll [some (note 1 "a"), none, some (note 2 "b"), some (note 3 "c")],
        .put (some (note 2 "d")), .getSome "Note" [.int 1, .int 2, .int 4],
        .putAll [some (note 5 "e"), some (note 5 "f")], .remove "Note" [.int 1, .int 4],
        .getAll "Note", .getSize "Note", .contains "Memo" (.int 1)]
    let arrangement : Arrangement := ⟨fun _ rows ↦ rows.reverse, fun _ _ ↦ List.reverse_perm _⟩
    let s : TableState := ⟨Database.ofRegistry store.registry, none, 0⟩
    let o := store.operateAll (Surface.soundTables .sqlite arrangement) .sqlite ops s
    store.registry.Reachable ∧ (∀ op ∈ ops, op.Proper) ∧
      s.committed.Serves store.registry.get? ∧ s.pending = none ∧
      o.1.map Except.isOk = [true, true, true, false, true, true, true, false] ∧
      Contents.AnswersAll store.registry.get? s.committed.contents ops o.1
        o.2.committed.contents := by
  intro t l store note ops arrangement s o
  have hstore : store.registry.Reachable := .register t .empty
  have hnote : ∀ k title, (note k title).Built := fun k title ↦ Record.built_iff_aligned.mpr rfl
  have hops : ∀ op ∈ ops, op.Proper := by
    simp [ops, Operation.Proper, Operation.given, hnote]
  have hserves : s.committed.Serves store.registry.get? := Database.serves_ofRegistry hstore.sound
  have hreplies : o.1.map Except.isOk = [true, true, true, false, true, true, true, false] := by
    decide +kernel
  obtain ⟨-, -, hanswers⟩ := operateAll_answersAll .sqlite arrangement hstore hops hserves rfl
  exact ⟨hstore, hops, hserves, rfl, hreplies, hanswers⟩

end RecordStore
