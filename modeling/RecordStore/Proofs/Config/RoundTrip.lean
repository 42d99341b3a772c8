import RecordStore.Config.Json
import RecordStore.Proofs.Config.Validation

namespace RecordStore

/-!
# Configurations written and read back

A configuration that is written as JSON can be read again, and everything but the keys of its types
comes back. A type is written with the members `key_column` and `key_type`, while reading looks for
a member `key` and passes over names it does not know. So every type comes back with the key that a
declaration without `key` gets.
-/

/-! ## Reading an object member by member -/

theorem Format.store_member {V ε σ α : Type} {inner : V → Except ε α} {v : V} {a : α}
    (h : inner v = .ok a) (name : String) (optional : Bool) (put : α → σ → σ) (s : σ) :
    (Format.member name optional inner put).store v s = .ok (put a s) := by
  simp only [member, h]
  rfl

namespace Json

section

variable {σ : Type} {members : List (Member Json Fault σ)} {m : Member Json Fault σ} {name : String}
  {v : Json} {rest present : List (String × Json)} {s s' : σ}

theorem storeKnown_known (hm : members.find? (·.name == name) = some m)
    (hs : m.store v s = .ok s') :
    storeKnown members ((name, v) :: rest) s = storeKnown members rest s' := by
  simp only [storeKnown, hm, hs]
  rfl

theorem storeKnown_unknown (hm : members.find? (·.name == name) = none) :
    storeKnown members ((name, v) :: rest) s = storeKnown members rest s := by
  simp only [storeKnown, hm]

theorem readStructure_object (name : String) (hs : storeKnown members present s = .ok s')
    (hpresent : members.find? (fun m ↦ !m.optional && (present.lookup m.name).isNone) = none) :
    readStructure name members s (.object present) = .ok s' := by
  simp only [readStructure, hs, hpresent, bind, Except.bind]
  rfl

end

theorem text_text (s : String) : format.text (.text s) = .ok s := rfl

theorem bool_bool (b : Bool) : format.bool (.bool b) = .ok b := rfl

theorem bounded_natCast {limit n : Nat} (h : n < limit) (wanted : String) :
    format.bounded limit wanted (.int n) = .ok n := by
  have hint : (0 : Int) ≤ n ∧ (n : Int) < limit := ⟨Int.natCast_nonneg n, Int.ofNat_lt.mpr h⟩
  change readBounded limit wanted (.int n) = .ok n
  rw [readBounded, if_pos hint, Int.toNat_natCast]

theorem option_ofOption (o : Option String) :
    format.option format.text (.ofOption .text o) = .ok o := by
  cases o <;> rfl

/-- A list comes back as its items do. -/
theorem list_array {α β : Type} {inner : Reading β} {write : α → Json} {g : α → β} {xs : List α}
    (h : ∀ x ∈ xs, inner (write x) = .ok (g x)) :
    format.list inner (.array (xs.map write)) = .ok (xs.map g) := by
  have hitems : (xs.map write).mapM inner = .ok (xs.map g) := by
    induction xs with
    | nil => rfl
    | cons x xs ih =>
        obtain ⟨hx, hrest⟩ := List.forall_mem_cons.mp h
        rw [List.map_cons, List.mapM_cons, hx]
        simp only [bind, Except.bind, ih hrest]
        rfl
  exact hitems

end Json

/-! ## The parts of a configuration -/

theorem FieldType.read_name (t : FieldType) :
    FieldType.read Json.format (.text t.name) = .ok t := by
  cases t <;> rfl

theorem Accessor.toJson_eq (a : Accessor) : a.toJson = .object
    [("name", .text a.name), ("returns", .text a.returns.name), ("static", .bool a.isStatic)] := by
  have hnames : ["name", "returns", "static"].Pairwise (· < ·) := by decide
  exact congrArg Json.object (Ordered.ofList_of_perm (.refl _) hnames)

theorem Accessor.read_toJson (a : Accessor) : Accessor.read Json.format a.toJson = .ok a := by
  rw [toJson_eq]
  refine Json.readStructure_object "Accessor" ?_ rfl
  refine (Json.storeKnown_known rfl (Format.store_member (Json.text_text _) ..)).trans ?_
  refine (Json.storeKnown_known rfl (Format.store_member a.returns.read_name ..)).trans ?_
  exact (Json.storeKnown_known rfl (Format.store_member (Json.bool_bool _) ..)).trans rfl

namespace RecordType

/-- The type with the key of a declaration that gives none. -/
def withDefaultKey (t : RecordType) : RecordType :=
  { t with keyColumn := defaultKeyColumn, keyType := .int }

theorem toJson_eq (t : RecordType) : t.toJson = .object
    [("accessors", .array (t.accessors.map Accessor.toJson)), ("key_column", .text t.keyColumn),
      ("key_type", .text t.keyType.name), ("name", .text t.name),
      ("schema", .ofOption .text t.schema)] := by
  have hnames : ["accessors", "key_column", "key_type", "name", "schema"].Pairwise (· < ·) := by
    decide
  have hmoved (a b c d e : String × Json) : [a, b, c, d, e].Perm [e, c, d, a, b] :=
    (@List.perm_append_comm _ [a, b] [c, d, e]).trans
      ((@List.perm_append_comm _ [c, d] [e]).append_right [a, b])
  exact congrArg Json.object (Ordered.ofList_of_perm (hmoved ..) hnames)

/-- Neither member that a key is written to is known when the type is read. -/
theorem read_toJson (t : RecordType) :
    RecordType.read Json.format t.toJson = .ok t.withDefaultKey := by
  have haccessors : Json.format.list (Accessor.read Json.format)
      (.array (t.accessors.map Accessor.toJson)) = .ok t.accessors := by
    have hlist := Json.list_array (g := id) fun a (_ : a ∈ t.accessors) ↦ a.read_toJson
    rwa [List.map_id] at hlist
  have hdeclared : DeclaredType.read Json.format t.toJson
      = .ok ⟨t.name, t.schema, defaultKeyColumn, .int, t.accessors, []⟩ := by
    rw [toJson_eq]
    refine Json.readStructure_object "TypeDeclaration" ?_ rfl
    refine (Json.storeKnown_known rfl (Format.store_member haccessors ..)).trans ?_
    refine (Json.storeKnown_unknown rfl).trans ?_
    refine (Json.storeKnown_unknown rfl).trans ?_
    refine (Json.storeKnown_known rfl (Format.store_member (Json.text_text _) ..)).trans ?_
    exact (Json.storeKnown_known rfl (Format.store_member (Json.option_ofOption _) ..)).trans rfl
  rw [RecordType.read, hdeclared]
  simp [Except.map, DeclaredType.toRecordType, withDefaultKey]

end RecordType

theorem DatabaseSettings.toJson_eq (c : DatabaseSettings) : c.toJson = .object
    [("max_connections", .int c.maxConnections), ("type", .text c.type), ("url", .text c.url)] := by
  have hnames : ["max_connections", "type", "url"].Pairwise (· < ·) := by decide
  have hmoved (a b c : String × Json) : [a, b, c].Perm [c, a, b] :=
    @List.perm_append_comm _ [a, b] [c]
  exact congrArg Json.object (Ordered.ofList_of_perm (hmoved ..) hnames)

theorem DatabaseSettings.read_toJson {c : DatabaseSettings} (h : c.maxConnections < twoTo 32) :
    DatabaseSettings.read Json.format c.toJson = .ok c := by
  rw [toJson_eq]
  refine Json.readStructure_object "DatabaseConfig" ?_ rfl
  refine (Json.storeKnown_known rfl (Format.store_member (Json.bounded_natCast h _) ..)).trans ?_
  refine (Json.storeKnown_known rfl (Format.store_member (Json.text_text _) ..)).trans ?_
  exact (Json.storeKnown_known rfl (Format.store_member (Json.text_text _) ..)).trans rfl

theorem StorageSettings.read_toJson {c : StorageSettings} (h : c.maxInList < twoTo 64) :
    StorageSettings.read Json.format c.toJson = .ok c := by
  refine Json.readStructure_object "StorageConfig" ?_ rfl
  exact (Json.storeKnown_known rfl (Format.store_member (Json.bounded_natCast h _) ..)).trans rfl

/-! ## Whole configurations -/

namespace Config

def withDefaultKeys (c : Config) : Config :=
  { c with types := c.types.map RecordType.withDefaultKey }

theorem toJson_eq (c : Config) : c.toJson = .object
    [("database", c.database.toJson), ("storage", c.storage.toJson),
      ("types", .array (c.types.map RecordType.toJson))] := by
  have hnames : ["database", "storage", "types"].Pairwise (· < ·) := by decide
  exact congrArg Json.object (Ordered.ofList_of_perm (.refl _) hnames)

variable {c : Config}

theorem read_toJson (hconnections : c.database.maxConnections < twoTo 32)
    (hlist : c.storage.maxInList < twoTo 64) :
    Config.read Json.format c.toJson = .ok c.withDefaultKeys := by
  have htypes := Json.list_array fun t (_ : t ∈ c.types) ↦ t.read_toJson
  rw [toJson_eq]
  refine Json.readStructure_object "Config" ?_ rfl
  refine (Json.storeKnown_known rfl
    (Format.store_member (DatabaseSettings.read_toJson hconnections) ..)).trans ?_
  refine (Json.storeKnown_known rfl
    (Format.store_member (StorageSettings.read_toJson hlist) ..)).trans ?_
  exact (Json.storeKnown_known rfl (Format.store_member htypes ..)).trans rfl

theorem ofJson_eq_checked (hconnections : c.database.maxConnections < twoTo 32)
    (hlist : c.storage.maxInList < twoTo 64) : ofJson c.toJson = c.withDefaultKeys.checked := by
  rw [ofJson, read_toJson hconnections hlist]

theorem Valid.withDefaultKeys_iff (h : c.Valid) : c.withDefaultKeys.Valid ↔
    ∀ t ∈ c.types, ∃ l, Layout.resolve t.withDefaultKey = .ok l := by
  have htypes : c.withDefaultKeys.types = c.types.map RecordType.withDefaultKey := rfl
  have hnames : c.withDefaultKeys.types.map RecordType.name = c.types.map RecordType.name := by
    rw [htypes, List.map_map]
    rfl
  constructor
  · intro hdefault t ht
    exact hdefault.resolves _ (List.mem_map.mpr ⟨t, ht, rfl⟩)
  · intro hresolves
    refine ⟨h.url, h.type, h.maxConnections, h.maxInList, hnames ▸ h.names, ?_⟩
    rw [htypes, List.forall_mem_map]
    exact hresolves

end Config

theorem RecordType.withDefaultKey_eq_self_iff {t : RecordType} :
    t.withDefaultKey = t ↔ t.keyColumn = defaultKeyColumn ∧ t.keyType = .int := by
  constructor
  · intro h
    rw [← h]
    exact ⟨rfl, rfl⟩
  · rintro ⟨hcolumn, htype⟩
    rw [withDefaultKey, ← hcolumn, ← htype]

theorem Config.withDefaultKeys_eq_self_iff {c : Config} : c.withDefaultKeys = c ↔
    ∀ t ∈ c.types, t.keyColumn = RecordType.defaultKeyColumn ∧ t.keyType = .int := by
  have htypes : c.withDefaultKeys = c ↔ c.types.map RecordType.withDefaultKey = c.types.map id := by
    obtain ⟨database, storage, types⟩ := c
    simp [withDefaultKeys]
  rw [htypes, List.map_inj_left]
  exact forall₂_congr fun t _ ↦ RecordType.withDefaultKey_eq_self_iff

/-- The layout that a type comes back to has another key unless the type has the default one. -/
theorem Layout.resolve_withDefaultKey {t : RecordType} {l : Layout} (h : resolve t = .ok l) :
    resolve t.withDefaultKey = resolve t ↔
      t.keyColumn = RecordType.defaultKeyColumn ∧ t.keyType = .int := by
  constructor
  · intro hsame
    rw [h] at hsame
    obtain ⟨_, -, rfl⟩ := resolve_eq_ok h
    obtain ⟨_, -, hl⟩ := resolve_eq_ok hsame
    exact ⟨congrArg keyColumn hl, congrArg keyType hl⟩
  · intro hdefault
    rw [RecordType.withDefaultKey_eq_self_iff.mpr hdefault]

/-- A valid configuration that is written can be read, and what is read has the same settings and
the same types apart from their keys, which are default ones. It is valid if the types still resolve
with these keys. Only a configuration whose types all have the default key comes back as it was. -/
theorem Config.ofJson_toJson {c : Config} (hvalid : c.validate = .ok ())
    (hconnections : c.database.maxConnections < twoTo 32) (hlist : c.storage.maxInList < twoTo 64) :
    Config.read Json.format c.toJson = .ok c.withDefaultKeys ∧
    (∀ c', ofJson c.toJson = .ok c' ↔ c' = c.withDefaultKeys ∧
      ∀ t ∈ c.types, ∃ l, Layout.resolve t.withDefaultKey = .ok l) ∧
    (ofJson c.toJson = .ok c ↔
      ∀ t ∈ c.types, t.keyColumn = RecordType.defaultKeyColumn ∧ t.keyType = .int) ∧
    ∀ t ∈ c.types, (Layout.resolve t.withDefaultKey = Layout.resolve t ↔
      t.keyColumn = RecordType.defaultKeyColumn ∧ t.keyType = .int) := by
  have hc := validate_eq_ok_iff.mp hvalid
  have hread := ofJson_eq_checked hconnections hlist
  refine ⟨read_toJson hconnections hlist, fun c' ↦ ?_, ?_, fun t ht ↦ ?_⟩
  · rw [hread, checked_eq_ok_iff, hc.withDefaultKeys_iff, eq_comm]
  · rw [hread, checked_eq_ok_iff, withDefaultKeys_eq_self_iff, and_iff_left_iff_imp]
    intro hdefault
    rwa [withDefaultKeys_eq_self_iff.mpr hdefault]
  · obtain ⟨l, hl⟩ := hc.resolves t ht
    exact Layout.resolve_withDefaultKey hl

/-- Notes with the default key and memos under a text. -/
theorem Config.ofJson_toJson_memo :
    let note : RecordType := ⟨"Note", some "main", "id", .int, [⟨"getTitle", .text, false⟩]⟩
    let memo : RecordType := ⟨"Memo", none, "label", .text, [⟨"isDone", .bool, false⟩]⟩
    let c : Config := ⟨⟨"sqlite", "sqlite::memory:", 5⟩, ⟨500⟩, [note, memo]⟩
    c.validate = .ok () ∧ c.database.maxConnections < twoTo 32 ∧ c.storage.maxInList < twoTo 64 ∧
      Config.read Json.format c.toJson
        = .ok { c with types := [note, { memo with keyColumn := "id", keyType := .int }] } ∧
      ¬Layout.resolve memo.withDefaultKey = Layout.resolve memo := by
  intro note memo c
  have hvalid : c.validate = .ok () := by decide +kernel
  have hconnections : c.database.maxConnections < twoTo 32 := by decide
  have hlist : c.storage.maxInList < twoTo 64 := by decide
  obtain ⟨hread, -, -, hlayouts⟩ := ofJson_toJson hvalid hconnections hlist
  refine ⟨hvalid, hconnections, hlist, hread, ?_⟩
  rw [hlayouts memo (by simp [c])]
  decide

/-- Memos come back under numbers, and a type with an accessor `isId` does not come back at all. -/
theorem Config.toJson_loses_keys :
    let memo : RecordType := ⟨"Memo", none, "label", .text, [⟨"isDone", .bool, false⟩]⟩
    let flag : RecordType := ⟨"Flag", none, "label", .text, [⟨"isId", .bool, false⟩]⟩
    let c (t : RecordType) : Config := ⟨⟨"sqlite", "sqlite::memory:", 5⟩, ⟨500⟩, [t]⟩
    (c memo).validate = .ok () ∧ (c flag).validate = .ok () ∧
      ofJson (c memo).toJson = .ok (c { memo with keyColumn := "id", keyType := .int }) ∧
      ¬∃ c', ofJson (c flag).toJson = .ok c' := by
  intro memo flag c
  have hread (t : RecordType) : ofJson (c t).toJson = (c t).withDefaultKeys.checked :=
    ofJson_eq_checked (by decide : 5 < twoTo 32) (by decide : 500 < twoTo 64)
  refine ⟨by decide +kernel, by decide +kernel, ?_, ?_⟩
  · rw [hread, checked_eq_ok_iff, ← validate_eq_ok_iff]
    exact ⟨rfl, by decide +kernel⟩
  · rintro ⟨c', hc'⟩
    rw [hread, checked_eq_ok_iff, ← validate_eq_ok_iff] at hc'
    have hrefused : (c flag).withDefaultKeys.validate ≠ .ok () := by decide +kernel
    exact hrefused hc'.2

end RecordStore
