import RecordStore.Proofs.CommandLine.Files
import RecordStore.Proofs.KeyedMap
import RecordStore.Proofs.Printing

namespace RecordStore

open Store (Takes)

/-!
# Printed identities

The identity in the object of a record is a number or a text, and the raw text of either is read as
the key of the record. The commands that take identities are therefore carried out on exactly the
records that a list has printed.
-/

/-! ## Reading a printed identity -/

/-- The digits of an integer, or the content of a text. -/
def Json.rawText? : Json → Option String
  | int n => some (integerText n)
  | text s => some s
  | _ => none

/-- What an object has for the key of its record. -/
def Record.identity? (r : Record) : Option String :=
  (r.toJson.member? r.layout.keyColumn).bind Json.rawText?

/-- The object of a record, written on a line, has an entry with the name of the key and the
identity, which stands there as it is if it is a number, and quoted otherwise. -/
def Record.Shows (r : Record) (raw : String) : Prop :=
  ∃ before after : List (List Char), r.toJson.compact.toList = '{' :: ([','].intercalate
    (before ++ (Json.textChars r.layout.keyColumn ++ ':' ::
      if r.layout.keyType = .int then raw.toList else Json.textChars raw) :: after) ++ ['}'])

theorem Key.exists_rawText (key : Key) :
    ∃ raw, key.toValue.toJson.rawText? = some raw ∧ key.keyType.read raw = .ok key ∧
      key.toValue.toJson.chars
        = if key.keyType = .int then raw.toList else Json.textChars raw := by
  cases key with
  | int n =>
      refine ⟨integerText n.toInt, rfl, ?_, ?_⟩
      · rw [keyType_int, KeyType.read, integerText, String.toList_ofList, readInteger_integerChars]
      · rw [keyType_int, if_pos rfl, integerText, String.toList_ofList]
        simp [toValue, Value.toJson, Json.chars]
  | text s => exact ⟨s, rfl, rfl, by simp [toValue, Value.toJson, Json.chars]⟩
  | uuid u =>
      refine ⟨u.toText, rfl, ?_, by simp [toValue, Value.toJson, Json.chars]⟩
      rw [keyType_uuid, KeyType.read, u.read_toText]

def Json.entryChars (entry : String × Json) : List Char :=
  textChars entry.1 ++ ':' :: entry.2.chars

theorem Json.membersChars_eq (members : List (String × Json)) :
    membersChars members = [','].intercalate (members.map entryChars) := by
  induction members with
  | nil => simp [List.intercalate]
  | cons entry rest ih =>
      obtain ⟨name, v⟩ := entry
      cases rest with
      | nil => simp [membersChars, entryChars, List.intercalate]
      | cons second rest => simp [membersChars, entryChars, ih, List.intercalate]

theorem Record.identity?_eq {r : Record} (hsound : r.layout.Sound)
    (hlength : r.values.length = r.layout.fieldCount) :
    r.identity? = r.key.toValue.toJson.rawText? := by
  rw [identity?, Record.member?_toJson hsound hlength r.key_mem_cells]
  rfl

theorem Record.exists_identity {r : Record} (hsound : r.layout.Sound)
    (hlength : r.values.length = r.layout.fieldCount) (hkeyed : r.Keyed) :
    ∃ raw, r.identity? = some raw ∧ r.layout.keyType.read raw = .ok r.key ∧ r.Shows raw := by
  obtain ⟨raw, hraw, hread, hchars⟩ := r.key.exists_rawText
  refine ⟨raw, (Record.identity?_eq hsound hlength).trans hraw, hkeyed ▸ hread, ?_⟩
  have hentry := Record.mem_printedCells r.key_mem_cells
  rw [← Ordered.mem_ofList (nodup_printedCells hsound hlength)] at hentry
  obtain ⟨before, after, hmembers⟩ := List.append_of_mem hentry
  refine ⟨before.map Json.entryChars, after.map Json.entryChars, ?_⟩
  rw [hkeyed] at hchars
  rw [toJson_eq, hmembers, Json.compact, String.toList_ofList, Json.chars, Json.membersChars_eq,
    List.map_append, List.map_cons, Json.entryChars, hchars]

/-- The identities of records of one type are read as their keys. -/
theorem exists_identities {l : Layout} (hsound : l.Sound) {found : List Record}
    (hfound : ∀ r ∈ found, r.layout = l ∧ r.Keyed ∧ r.Aligned) :
    ∃ ids : List String, found.map Record.identity? = ids.map some ∧
      ids.mapM l.keyType.read = .ok (found.map Record.key) := by
  induction found with
  | nil => exact ⟨[], rfl, rfl⟩
  | cons r found ih =>
      obtain ⟨⟨rfl, hkeyed, haligned⟩, hrest⟩ := List.forall_mem_cons.mp hfound
      obtain ⟨raw, hraw, hread, -⟩ :=
        Record.exists_identity hsound haligned.length_values hkeyed
      obtain ⟨ids, hids, hreads⟩ := ih hrest
      refine ⟨raw :: ids, by rw [List.map_cons, List.map_cons, hraw, hids], ?_⟩
      rw [mapM_eq_ok] at hreads ⊢
      exact .cons hread hreads

/-! ## Commands with identities -/

namespace CommandLine

variable {ids : List String}

theorem addWords_none (g : Gathered) (words : List String) :
    g.addWords none words = .ok { g with words := g.words ++ words } := by
  induction words generalizing g with
  | nil => rw [List.append_nil]; rfl
  | cons word words ih =>
      rw [List.append_cons]
      exact ih { g with words := g.words ++ [word] }

/-- Behind two dashes every argument of a command is a word, whatever it begins with. -/
theorem wordsOf_escape (words : List String) : wordsOf none ("--" :: words) = .ok words := by
  have hgather : (innerGrammar none).gather .empty ("--" :: words)
      = .ok ({ Gathered.empty with words := words }, []) := by
    have hescape : Argument.of "--" = .escape := by decide
    rw [Grammar.gather, hescape]
    simp only [innerGrammar, addWords_none]
    rfl
  rw [wordsOf, hgather]
  rfl

theorem read_of_word {name : String} (hname : Argument.of name = .word name) {rest : List String}
    {command : Command} (hcommand : Command.read name rest = .ok command) :
    Invocation.read (name :: rest) = .ok ⟨defaultConfigPath, false, command⟩ := by
  have hgather : outerGrammar.gather .empty (name :: rest)
      = .ok ({ Gathered.empty with words := [name] }, rest) := by
    rw [Grammar.gather, hname]
    rfl
  rw [Invocation.read, hgather]
  simp only [bind, Except.bind, hcommand]
  rfl

theorem read_list (typeName : String) : Invocation.read ["list", "--", typeName]
    = .ok ⟨defaultConfigPath, false, .list typeName⟩ := by
  apply read_of_word (by decide)
  rfl

theorem read_get (typeName : String) (hids : ids ≠ []) :
    Invocation.read ("get" :: "--" :: typeName :: ids)
      = .ok ⟨defaultConfigPath, false, .get typeName ids⟩ := by
  obtain ⟨id, ids, rfl⟩ := List.exists_cons_of_ne_nil hids
  apply read_of_word (by decide)
  rw [Command.read, aboutIds, wordsOf_escape]
  rfl

theorem read_remove (typeName : String) (hids : ids ≠ []) :
    Invocation.read ("remove" :: "--" :: typeName :: ids)
      = .ok ⟨defaultConfigPath, false, .remove typeName ids⟩ := by
  obtain ⟨id, ids, rfl⟩ := List.exists_cons_of_ne_nil hids
  apply read_of_word (by decide)
  rw [Command.read, aboutIds, wordsOf_escape]
  rfl

end CommandLine

namespace CommandLine

variable {typeName : String} {found : List Record}

/-! ## On keyed tables -/

section

variable {layout? : String → Option Layout} {m m' : Contents} {reply : Except Error Reply}
  {l : Layout} {keys : List Key}

theorem answers_getAll
    (h : Contents.Answers layout? m (.getAll typeName) (.ok (.records found)) m') :
    m' = m ∧ ∃ l, Takes layout? l typeName [] ∧ (found.map Record.key).Nodup ∧
      ∀ r, r ∈ found ↔ m.record? l r.key = some r := by
  cases h with
  | getAll htakes hnodup hfound => exact ⟨rfl, _, htakes, hnodup, hfound⟩

theorem answers_getSome (h : Contents.Answers layout? m (.getSome typeName keys) reply m')
    (htakes : Takes layout? l typeName keys) :
    ∃ again, reply = .ok (.records again) ∧ again.Perm (keys.filterMap (m.record? l)) := by
  cases h with
  | refused fault hrefused => exact absurd ⟨l, htakes⟩ hrefused
  | getSome htakes' hperm =>
      obtain rfl := htakes.unique htakes'
      exact ⟨_, rfl, hperm⟩

theorem answers_remove (h : Contents.Answers layout? m (.remove typeName keys) reply m')
    (htakes : Takes layout? l typeName keys) :
    ∃ n, reply = .ok (.count n) ∧ m' = m.without l.table (fun k ↦ k ∈ keys) ∧
      Counts (fun k ↦ k ∈ keys ∧ (m l.table k).isSome) n := by
  cases h with
  | refused fault hrefused => exact absurd ⟨l, htakes⟩ hrefused
  | remove htakes' hcounts =>
      obtain rfl := htakes.unique htakes'
      exact ⟨_, rfl, rfl, hcounts⟩

/-- Listed records are found again under their keys. -/
theorem filterMap_keys (hfound : ∀ r, r ∈ found ↔ m.record? l r.key = some r) :
    (found.map Record.key).filterMap (m.record? l) = found := by
  have hsame : ∀ r ∈ found, m.record? l r.key = some r := fun r hr ↦ (hfound r).mp hr
  clear hfound
  induction found with
  | nil => rfl
  | cons r found ih =>
      obtain ⟨hr, hrest⟩ := List.forall_mem_cons.mp hsame
      rw [List.map_cons, List.filterMap_cons_some hr, ih hrest]

theorem mem_keys_of_listed (hfound : ∀ r, r ∈ found ↔ m.record? l r.key = some r) (k : Key) :
    k ∈ found.map Record.key ↔ (m l.table k).isSome = true := by
  have hrecord : (m l.table k).isSome = (m.record? l k).isSome := Option.isSome_map.symm
  rw [hrecord, Option.isSome_iff_exists, List.mem_map]
  constructor
  · rintro ⟨r, hr, rfl⟩
    exact ⟨r, (hfound r).mp hr⟩
  · rintro ⟨r, hr⟩
    obtain ⟨-, rfl, -⟩ := Contents.eq_of_record? hr
    exact ⟨r, (hfound r).mpr hr, rfl⟩

theorem length_of_counts (hnodup : (found.map Record.key).Nodup)
    (hfound : ∀ r, r ∈ found ↔ m.record? l r.key = some r) {n : Nat}
    (hcounts : Counts (fun k ↦ k ∈ found.map Record.key ∧ (m l.table k).isSome) n) :
    n = found.length := by
  obtain ⟨counted, hdistinct, hcounted, rfl⟩ := hcounts
  rw [← List.length_map (f := Record.key)]
  apply List.Perm.length_eq
  refine (List.perm_ext_iff_of_nodup hdistinct hnodup).mpr fun k ↦ ?_
  exact (hcounted k).trans (and_iff_left_of_imp (mem_keys_of_listed hfound k).mp)

theorem without_keys (hfound : ∀ r, r ∈ found ↔ m.record? l r.key = some r) :
    (m.without l.table fun k ↦ k ∈ found.map Record.key) = m.without l.table fun _ ↦ true := by
  funext table k
  unfold Contents.without
  by_cases hlisted : k ∈ found.map Record.key
  · simp [hlisted]
  · have hnone : m l.table k = none := by
      rwa [mem_keys_of_listed hfound, Bool.not_eq_true, Option.isSome_eq_false_iff,
        Option.isNone_iff_eq_none] at hlisted
    by_cases htable : table = l.table
    · simp [hlisted, htable, hnone]
    · simp [htable]

end

section

variable {d : Dialect} {arrangement : Arrangement} {s : TableState} {store : Store}

/-- Where an operation follows the map, its run does. -/
theorem follows_run {α : Type} {a : Action α} {f : α → Reply} {op : Operation}
    (h : (f <$> a).Ensures (Surface.soundTables d arrangement) d s
      fun _ reply s' ↦ s.Follows store.registry.get? op reply s')
    (hstore : store.registry.Reachable) (ha : a.Within store.registry) :
    let o := a.run.run (Surface.soundTables d arrangement) d store.registry s
    s.Follows store.registry.get? op (o.result.map f) o.state := by
  rw [Action.ensures_map] at h
  obtain ⟨⟨_, -, -, hfollows⟩, -⟩ := h.run hstore ha
  exact hfollows

section

variable {l : Layout} (hstore : store.registry.Reachable)
  (hserves : s.committed.Serves store.registry.get?) (hpending : s.pending = none)
  (htakes : Takes store.registry.get? l typeName (found.map Record.key))
  (hnodup : (found.map Record.key).Nodup)
  (hfound : ∀ r, r ∈ found ↔ s.committed.contents.record? l r.key = some r)

include hstore hserves hpending htakes hnodup hfound

theorem getSome_listed : ∃ again,
    ((store.getSome typeName (found.map Record.key)).run.run (Surface.soundTables d arrangement) d
      store.registry s).result = .ok again ∧ again.Perm found := by
  let o := (store.getSome typeName (found.map Record.key)).run.run
    (Surface.soundTables d arrangement) d store.registry s
  have hfollows : s.Follows store.registry.get? (.getSome typeName (found.map Record.key))
      (o.result.map .records) o.state :=
    follows_run (Store.follows_getSome hstore hserves hpending typeName hnodup) hstore
      (Store.within_getSome hstore typeName _)
  obtain ⟨again, hreply, hperm⟩ := answers_getSome hfollows.answers htakes
  obtain ⟨_, hresult, hsame⟩ := map_eq_ok.mp hreply
  cases hsame
  rw [filterMap_keys hfound] at hperm
  exact ⟨again, hresult, hperm⟩

theorem remove_listed :
    let o := (store.remove typeName (found.map Record.key)).run.run
      (Surface.soundTables d arrangement) d store.registry s
    o.result = .ok found.length ∧
      o.state.committed.contents = s.committed.contents.without l.table fun _ ↦ true := by
  intro o
  have hfollows : s.Follows store.registry.get? (.remove typeName (found.map Record.key))
      (o.result.map .count) o.state :=
    follows_run (Store.follows_removal hstore hserves hpending .rfl fun l n ↦ .remove) hstore
      (Store.within_remove hstore typeName _)
  obtain ⟨n, hreply, hcontents, hcounts⟩ := answers_remove hfollows.answers htakes
  obtain ⟨_, hresult, hsame⟩ := map_eq_ok.mp hreply
  cases hsame
  rw [length_of_counts hnodup hfound hcounts] at hresult
  exact ⟨hresult, hcontents.trans (without_keys hfound)⟩

end

/-- On keyed tables the listed records are found again under the printed identities, and removed
under them they are all gone. -/
theorem tables_given_back (hstore : store.registry.Reachable)
    (hserves : s.committed.Serves store.registry.get?) (hpending : s.pending = none)
    (hlist : ((store.getAll typeName).run.run (Surface.soundTables d arrangement) d store.registry
      s).result = .ok found) (hkeyed : ∀ r ∈ found, r.Keyed) :
    let o := (store.getAll typeName).run.run (Surface.soundTables d arrangement) d store.registry s
    ∃ ids l, found.map Record.identity? = ids.map some ∧ store.registry.get? typeName = some l ∧
      (∃ again, ((getNamed typeName ids store).run.run (Surface.soundTables d arrangement) d
        store.registry o.state).result = .ok again ∧ again.Perm found) ∧
      let removal := (removeNamed typeName ids store).run.run (Surface.soundTables d arrangement) d
        store.registry o.state
      removal.result = .ok found.length ∧
        removal.state.committed.contents = s.committed.contents.without l.table fun _ ↦ true := by
  intro o
  have hlisted : s.Follows store.registry.get? (.getAll typeName) (o.result.map .records) o.state :=
    follows_run (Store.follows_getAll hstore hserves hpending typeName) hstore
      (Store.within_getAll hstore typeName)
  rw [hlist] at hlisted
  obtain ⟨hclosed, hlayouts, hanswers⟩ := hlisted
  obtain ⟨hsame, l, ⟨hregistered, -⟩, hnodup, hfound⟩ := answers_getAll hanswers
  have hrecords : ∀ r ∈ found, r.layout = l ∧ r.Keyed ∧ r.Aligned := by
    intro r hr
    have hrecord := (hfound r).mp hr
    exact ⟨(Contents.eq_of_record? hrecord).1, hkeyed r hr,
      Database.aligned_of_record? (hserves typeName l hregistered) hrecord⟩
  have htakes : Takes store.registry.get? l typeName (found.map Record.key) := by
    refine ⟨hregistered, fun k hk ↦ ?_⟩
    obtain ⟨r, hr, rfl⟩ := List.mem_map.mp hk
    obtain ⟨rfl, hkey, -⟩ := hrecords r hr
    exact hkey
  have hserves' : o.state.committed.Serves store.registry.get? := by
    intro name l' hl'
    rw [hlayouts]
    exact hserves name l' hl'
  obtain ⟨ids, hids, hread⟩ := exists_identities (hstore.sound.layouts hregistered).2 hrecords
  rw [← hsame] at hfound ⊢
  refine ⟨ids, l, hids, hregistered, ?_, ?_⟩
  · rw [getNamed_eq hregistered hread]
    exact getSome_listed hstore hserves' hclosed htakes hnodup hfound
  · rw [removeNamed_eq hregistered hread]
    exact remove_listed hstore hserves' hclosed htakes hnodup hfound

end

/-! ## On files -/

section

variable {w : Workspace} {configPath path : String} {c : Config} {l : Layout} {t : Sqlite.Table}
  (h : w.Keeps configPath c typeName path l t found)

include h

theorem read_identities {picked : List Record} {ids : List String} (hpicked : picked ⊆ found)
    (hids : picked.map Record.identity? = ids.map some) :
    ids.mapM l.keyType.read = .ok (picked.map Record.key) := by
  have hrecords : ∀ r ∈ picked, r.layout = l ∧ r.Keyed ∧ r.Aligned := by
    intro r hr
    have hlayout := h.found.layout (hpicked hr)
    exact ⟨hlayout, (h.found.keyType (hpicked hr)).trans (congrArg Layout.keyType hlayout.symm),
      h.found.aligned (hpicked hr)⟩
  obtain ⟨ids', hids', hread⟩ := exists_identities h.sound hrecords
  obtain rfl : ids = ids' :=
    (List.map_inj_right fun _ _ ↦ Option.some.inj).mp (hids.symm.trans hids')
  exact hread

theorem nodup_keys {picked : List Record} {ids : List String} (hpicked : picked ⊆ found)
    (hids : picked.map Record.identity? = ids.map some) (hnodup : ids.Nodup) :
    (picked.map Record.key).Nodup := by
  have hkeys : picked.map Record.identity?
      = (picked.map Record.key).map fun key ↦ key.toValue.toJson.rawText? := by
    rw [List.map_map]
    refine List.map_congr_left fun r hr ↦ Record.identity?_eq ?_ ?_
    · exact h.found.layout (hpicked hr) ▸ h.sound
    · exact (h.found.aligned (hpicked hr)).length_values
  apply List.Nodup.of_map fun key : Key ↦ key.toValue.toJson.rawText?
  rw [← hkeys, hids]
  exact hnodup.map fun _ _ ↦ Option.some.inj

end

/-- Every key is read back from the identity in the object of its record, and a key that is read is
of the type it is read at and survives being bound. Behind two dashes whatever has been printed is
taken as it is. A list that succeeds prints all records of a table of a file. Identities that it has
printed are given back, as long as the table stores its keys as they are bound and there are not more
of them than a statement has places for: if they are distinct they have the records printed that have
them, and in any case they remove these records and no others. On keyed tables the listed records are
found again and removed under the printed identities. -/
theorem identities_given_back :
    (∀ {t : RecordType} {l : Layout}, Layout.resolve t = .ok l → ∀ r : Record, r.layout = l →
      r.values.length = l.fieldCount → r.Keyed →
      ∃ raw, r.identity? = some raw ∧ l.keyType.read raw = .ok r.key ∧ r.Shows raw) ∧
    (∀ (type : KeyType) (raw : String) (key : Key), type.read raw = .ok key →
      key.keyType = type ∧ Key.ofValue key.toValue = .ok key) ∧
    (∀ (typeName : String) (ids : List String), ids ≠ [] →
      Invocation.read ["list", "--", typeName] = .ok ⟨defaultConfigPath, false, .list typeName⟩ ∧
      Invocation.read ("get" :: "--" :: typeName :: ids)
        = .ok ⟨defaultConfigPath, false, .get typeName ids⟩ ∧
      Invocation.read ("remove" :: "--" :: typeName :: ids)
        = .ok ⟨defaultConfigPath, false, .remove typeName ids⟩) ∧
    (∀ (w : Workspace) (configPath typeName : String) (json : Bool) (args : List String),
      Invocation.read args = .ok ⟨configPath, json, .list typeName⟩ → (run w args).1.exitCode = 0 →
      ∃ c path l t found, w.Keeps configPath c typeName path l t found) ∧
    (∀ (w : Workspace) (configPath typeName path : String) (c : Config) (l : Layout)
      (t : Sqlite.Table) (found : List Record), w.Keeps configPath c typeName path l t found →
      (∀ json args, Invocation.read args = .ok ⟨configPath, json, .list typeName⟩ →
        Prints w args json found ∧ (run w args).2.Keeps configPath c typeName path l t found) ∧
      ∀ (picked : List Record) (ids : List String), picked ⊆ found → picked ≠ [] →
        picked.map Record.identity? = ids.map some → t.StoresKeys l →
        (∀ json args, Invocation.read args = .ok ⟨configPath, json, .get typeName ids⟩ →
          ids.Nodup → min (max c.storage.maxInList 1) ids.length ≤ Sqlite.Refusal.maxPlaces →
          Prints w args json (found.filter fun r ↦ r.key ∈ picked.map Record.key) ∧
            (run w args).2.Keeps configPath c typeName path l t found) ∧
        ∀ json args, Invocation.read args = .ok ⟨configPath, json, .remove typeName ids⟩ →
          (ids.length ≤ Sqlite.Refusal.maxPlaces →
            Removes w args json configPath c typeName path l t
              (found.filter fun r ↦ r.key ∈ picked.map Record.key)
              (found.filter fun r ↦ r.key ∉ picked.map Record.key)) ∧
          (Sqlite.Refusal.maxPlaces < ids.length →
            (run w args).1.exitCode = 4 ∧ w.SameBut [] (run w args).2)) ∧
    ∀ (d : Dialect) (arrangement : Arrangement) (store : Store) (s : TableState)
      (typeName : String) (found : List Record), store.registry.Reachable →
      s.committed.Serves store.registry.get? → s.pending = none →
      let surface := Surface.soundTables d arrangement
      let o := (store.getAll typeName).run.run surface d store.registry s
      o.result = .ok found → (∀ r ∈ found, r.Keyed) →
      ∃ ids l, found.map Record.identity? = ids.map some ∧ store.registry.get? typeName = some l ∧
        (∃ again, ((getNamed typeName ids store).run.run surface d store.registry o.state).result
          = .ok again ∧ again.Perm found) ∧
        let removal := (removeNamed typeName ids store).run.run surface d store.registry o.state
        removal.result = .ok found.length ∧
          removal.state.committed.contents = s.committed.contents.without l.table fun _ ↦ true := by
  refine ⟨?_, ?_, fun typeName ids hids ↦ ⟨read_list typeName, read_get typeName hids,
    read_remove typeName hids⟩, fun w configPath typeName json args ↦ exists_keeps, ?_, ?_⟩
  · rintro t l hl r rfl hlength hkeyed
    exact Record.exists_identity (Layout.sound_of_resolve hl) hlength hkeyed
  · intro type raw key h
    exact ⟨KeyType.keyType_of_read h, Key.ofValue_toValue key⟩
  · intro w configPath typeName path c l t found h
    constructor
    · intro json args hread
      have hprints := run_list h hread
      exact ⟨hprints, h.of_same hprints.same⟩
    · intro picked ids hpicked hsome hids hstores
      have hkeys := read_identities h hpicked hids
      have hne : picked.map Record.key ≠ [] := fun hnone ↦ hsome (List.map_eq_nil_iff.mp hnone)
      have hlength : ids.length = (picked.map Record.key).length := by
        simpa using (congrArg List.length hids).symm
      constructor
      · intro json args hread hnodup hfits
        rw [hlength] at hfits
        have hprints := run_get h hkeys hne hstores (nodup_keys h hpicked hids hnodup) hfits hread
        exact ⟨hprints, h.of_same hprints.same⟩
      · intro json args hread
        rw [hlength]
        exact ⟨fun hfits ↦ run_remove h hkeys hne hstores hfits hread,
          fun hmany ↦ run_remove_of_many h hkeys hmany hread⟩
  · intro d arrangement store s typeName found hstore hserves hpending surface o hlist hkeyed
    exact tables_given_back hstore hserves hpending hlist hkeyed

theorem identities_given_back_limits :
    let type : RecordType := ⟨"Note", none, "id", .int, [⟨"getTitle", .text, false⟩]⟩
    let l : Layout := ⟨"Note", none, "id", .int, [("title", .text)]⟩
    let c : Config := ⟨⟨"sqlite", "sqlite:notes.db", 5⟩, ⟨500⟩, [type]⟩
    let columns : List Sqlite.Column :=
      [.ofDeclaration "id" "INTEGER PRIMARY KEY", .ofDeclaration "title" "TEXT"]
    let t : Sqlite.Table := ⟨"Note", columns,
      [[.integer (-9223372036854775808), .text "a"], [.integer 9223372036854775807, .null]]⟩
    let w : Workspace := ⟨[("objstore.yaml", "database:\n  url: 'sqlite:notes.db'\ntypes:\n"
      ++ "  - name: Note\n    fields:\n      title: text\n")], [("notes.db", [t])], []⟩
    let first : Record := ⟨l, .int (-9223372036854775808), [.text "a"]⟩
    let last : Record := ⟨l, .int 9223372036854775807, [.null .text]⟩
    let store : Store := ⟨(Registry.empty.register type).2, ⟨500⟩, false⟩
    let arrangement : Arrangement := ⟨fun _ rows ↦ rows, fun _ _ ↦ .refl _⟩
    let surface := Surface.soundTables .sqlite arrangement
    let s := ((store.putAll [some last, some first]).run.run surface .sqlite store.registry
      ⟨Database.ofRegistry store.registry, none, 0⟩).state
    let o := (store.getAll "Note").run.run surface .sqlite store.registry s
    (Layout.resolve type = .ok l ∧ first.Keyed ∧
      l.keyType.read "-9223372036854775808" = .ok first.key) ∧
    (w.Keeps "objstore.yaml" c "Note" "notes.db" l t [first, last] ∧ t.StoresKeys l ∧
      (run w ["get", "--", "Note", "-9223372036854775808"]).1
        = ⟨0, "\x7b\"id\":-9223372036854775808,\"title\":\"a\"\x7d\n", none⟩ ∧
      let q := run w ["remove", "--", "Note", "-9223372036854775808"]
      q.1 = ⟨0, "Removed 1 Note object(s)\n", none⟩ ∧
        ∃ t', q.2.Keeps "objstore.yaml" c "Note" "notes.db" l t' [last]) ∧
    store.registry.Reachable ∧ s.committed.Serves store.registry.get? ∧ s.pending = none ∧
      o.result = .ok [first, last] ∧
      ((removeNamed "Note" ["-9223372036854775808", "9223372036854775807"] store).run.run surface
        .sqlite store.registry o.state).result = .ok 2 := by
  intro type l c columns t w first last store arrangement surface s o
  obtain ⟨hkeys, -, hargs, -, hfiles, htables⟩ := identities_given_back
  have hresolve : Layout.resolve type = .ok l := by decide +kernel
  have hids : [first].map Record.identity? = ["-9223372036854775808"].map some := by decide +kernel
  refine ⟨⟨hresolve, rfl, ?_⟩, ?_, ?_⟩
  · obtain ⟨raw, hraw, hread, -⟩ := hkeys hresolve first rfl rfl rfl
    obtain rfl : raw = "-9223372036854775808" := by
      apply Option.some.inj
      rw [← hraw]
      exact List.head_eq_of_cons_eq hids
    exact hread
  · have hreads : List.Forall₂ (t.Reads l) t.rows [first, last] :=
      .cons (toOption_eq_some.mp (by decide +kernel))
        (.cons (toOption_eq_some.mp (by decide +kernel)) .nil)
    have hkeeps : w.Keeps "objstore.yaml" c "Note" "notes.db" l t [first, last] := by
      refine ⟨toOption_eq_some.mp (by decide +kernel), ⟨type, by decide +kernel, hresolve⟩,
        ⟨⟨"notes.db", false⟩, ?_, ?_, ?_⟩, toOption_eq_some.mp (by decide +kernel), t.rows,
        .refl _, hreads⟩
      · exact toOption_eq_some.mp (by decide +kernel)
      · decide +kernel
      · decide +kernel
    have hstores : t.StoresKeys l := by
      have hkept : ∀ row ∈ t.rows, row.length = t.columns.length ∧ row = t.convert row := by
        decide +kernel
      exact ⟨fun row hrow ↦ ⟨row, hkept row hrow⟩, nofun⟩
    have hone : ([first, last].filter fun r ↦ r.key ∈ [first].map Record.key) = [first] := by
      decide +kernel
    have hother : ([first, last].filter fun r ↦ r.key ∉ [first].map Record.key) = [last] := by
      decide +kernel
    obtain ⟨-, hget, hremove⟩ := hargs "Note" ["-9223372036854775808"] (List.cons_ne_nil _ _)
    obtain ⟨-, hgiven⟩ := hfiles w _ _ _ c l t _ hkeeps
    obtain ⟨hgot, hremoved⟩ := hgiven [first] ["-9223372036854775808"] (by decide +kernel)
      (List.cons_ne_nil _ _) hids hstores
    refine ⟨hkeeps, hstores, ?_, ?_⟩
    · obtain ⟨⟨⟨printed, hperm, hprinted⟩, -⟩, -⟩ := hgot false _ hget (by decide) (by decide)
      rw [hone, List.perm_singleton] at hperm
      rw [hprinted, hperm]
      decide +kernel
    · obtain ⟨hremoved, -⟩ := hremoved false _ hremove
      obtain ⟨hprinted, -, t', -, -, -, -, hkept⟩ := hremoved (by decide)
      rw [hone] at hprinted
      rw [hother] at hkept
      refine ⟨?_, t', hkept⟩
      rw [hprinted]
      decide +kernel
  · have hstore : store.registry.Reachable := .register type .empty
    have hserves : s.committed.Serves store.registry.get? := by
      intro name l' hl'
      rcases Registry.get?_register_cases hl' with hempty | ⟨hl', -⟩
      · cases hempty
      · obtain rfl : l = l' := Except.ok.inj (hresolve.symm.trans hl')
        decide +kernel
    have hpending : s.pending = none := Option.isNone_iff_eq_none.mp (by decide +kernel)
    have hlisted : o.result = .ok [first, last] := toOption_eq_some.mp (by decide +kernel)
    have hkeyed : ∀ r ∈ [first, last], r.Keyed := by
      unfold Record.Keyed
      decide
    obtain ⟨ids, _, hprinted, -, -, hremoved, -⟩ := htables .sqlite arrangement store s "Note"
      [first, last] hstore hserves hpending hlisted hkeyed
    obtain rfl : ["-9223372036854775808", "9223372036854775807"] = ids := by
      have hsame : [first, last].map Record.identity?
          = ["-9223372036854775808", "9223372036854775807"].map some := by decide +kernel
      exact (List.map_inj_right fun _ _ ↦ Option.some.inj).mp (hsame.symm.trans hprinted)
    exact ⟨hstore, hserves, hpending, hlisted, hremoved⟩

/-- A printed identity that begins with a dash is taken for an option unless two dashes stand before
it, and a text that is kept in place of an identifier is printed as one but is not found under it. -/
theorem printed_identity_not_given_back :
    let w (file : String) (t : Sqlite.Table) : Workspace :=
      ⟨[("objstore.yaml", "database:\n  url: 'sqlite:notes.db'\ntypes:\n  - name: Note\n" ++ file)],
        [("notes.db", [t])], []⟩
    let numbered := w "    fields:\n      title: text\n"
      ⟨"Note", [.ofDeclaration "id" "INTEGER PRIMARY KEY", .ofDeclaration "title" "TEXT"],
        [[.integer (-1), .text "a"]]⟩
    let identified := w "    key:\n      type: uuid\n"
      ⟨"Note", [.ofDeclaration "id" "TEXT"], [[.text "abcdefghijklmnop"]]⟩
    ((run numbered ["list", "Note"]).1 = ⟨0, "\x7b\"id\":-1,\"title\":\"a\"\x7d\n", none⟩ ∧
      (run numbered ["get", "Note", "-1"]).1 = ⟨2, "", none⟩ ∧
      (run numbered ["remove", "Note", "-1"]).1 = ⟨2, "", none⟩) ∧
    (run identified ["list", "Note"]).1
      = ⟨0, "\x7b\"id\":\"61626364-6566-6768-696a-6b6c6d6e6f70\"\x7d\n", none⟩ ∧
    (run identified ["get", "Note", "61626364-6566-6768-696a-6b6c6d6e6f70"]).1 = ⟨0, "", none⟩ := by
  decide +kernel

end CommandLine

end RecordStore
