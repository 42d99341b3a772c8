import RecordStore.Proofs.Drafts
import RecordStore.Proofs.Text.ByteOrder

namespace RecordStore

/-!
# Resolving a type from the fields it declares

The accessors of a type are looked at one after another, and each is passed over, refused, found
again or added, depending on what came before it. All the same the outcome depends only on which
fields the accessors show: a type resolves when these can stand beside the key, and its layout then
has exactly them, in the order of their names.
-/

theorem Identifier.check_ne_error {name : String} {fault : ArgumentFault}
    (h : Identifier.Valid name) : Identifier.check name ≠ .error fault := by
  rw [Identifier.check_eq_ok_iff.mpr h]
  exact nofun

/-! ## The field an accessor shows -/

/-- The field is what follows `get` or `is` in the name, with its first character in lower case. -/
def Accessor.Names (name field : String) : Prop :=
  ∃ verb ∈ ["get", "is"], ∃ first rest, name.toList = verb.toList ++ first :: rest ∧
    field = String.ofList (Text.lowerChar first ++ rest)

/-- An accessor of records shows the field that it names, unless it is the identity accessor. -/
structure Accessor.Shows (t : RecordType) (a : Accessor) (field : String) (type : FieldType) :
    Prop where
  not_static : a.isStatic = false
  not_identity : a.name ≠ t.identityAccessor
  named : Accessor.Names a.name field
  returns : a.returns = type

namespace Layout

theorem afterVerb?_append {verb : String} (h : verb ∈ verbs) (suffix : List Char) :
    afterVerb? (verb.toList ++ suffix) = some suffix := by
  simp only [verbs, List.mem_cons, List.not_mem_nil, or_false] at h
  rcases h with rfl | rfl | rfl <;> rfl

theorem startsWith_iff {verb name : String} :
    startsWith verb name = true ↔ ∃ suffix, name.toList = verb.toList ++ suffix := by
  unfold startsWith
  rw [List.isPrefixOf_iff_prefix]
  exact exists_congr fun _ ↦ eq_comm

theorem fieldNameOf?_of_verb {verb name field : String} {suffix : List Char} (hverb : verb ∈ verbs)
    (hname : name.toList = verb.toList ++ suffix) : fieldNameOf? name = some field ↔
      ∃ first rest, suffix = first :: rest ∧
        field = String.ofList (Text.lowerChar first ++ rest) := by
  unfold fieldNameOf?
  rw [hname, afterVerb?_append hverb]
  cases suffix with
  | nil => simp
  | cons first rest =>
      constructor
      · intro h
        exact ⟨first, rest, rfl, (Option.some.inj h).symm⟩
      · rintro ⟨first', rest', hsame, rfl⟩
        obtain ⟨rfl, rfl⟩ := List.cons.inj hsame
        rfl

theorem mem_verbs {verb : String} (h : verb ∈ ["get", "is"]) : verb ∈ verbs := by
  revert verb
  decide

/-- The verbs of setters are no verbs of accessors, yet all of them lead to the same field names. -/
theorem names_iff {name field : String} :
    (startsWith "get" name || startsWith "is" name) = true ∧ fieldNameOf? name = some field ↔
      Accessor.Names name field := by
  constructor
  · rintro ⟨hstart, hfield⟩
    obtain ⟨verb, hverb, suffix, hname⟩ : ∃ verb ∈ ["get", "is"], ∃ suffix,
        name.toList = verb.toList ++ suffix := by
      rcases Bool.or_eq_true_iff.mp hstart with h | h
      · exact ⟨"get", by decide, startsWith_iff.mp h⟩
      · exact ⟨"is", by decide, startsWith_iff.mp h⟩
    obtain ⟨first, rest, rfl, hfield⟩ := (fieldNameOf?_of_verb (mem_verbs hverb) hname).mp hfield
    exact ⟨verb, hverb, first, rest, hname, hfield⟩
  · rintro ⟨verb, hverb, first, rest, hname, hfield⟩
    refine ⟨?_, (fieldNameOf?_of_verb (mem_verbs hverb) hname).mpr ⟨first, rest, rfl, hfield⟩⟩
    have hstart : startsWith verb name = true := startsWith_iff.mpr ⟨_, hname⟩
    rcases List.mem_pair.mp hverb with rfl | rfl <;> simp [hstart]

theorem contribution?_eq_some_iff {t : RecordType} {a : Accessor} {field : String}
    {type : FieldType} : contribution? t a = some (field, type) ↔ a.Shows t field type := by
  unfold contribution?
  split
  · next hskipped =>
    refine ⟨fun h ↦ (nomatch h), fun h ↦ ?_⟩
    simp [h.not_static, h.not_identity] at hskipped
  · next hkept =>
    obtain ⟨hstatic, hidentity⟩ : a.isStatic = false ∧ a.name ≠ t.identityAccessor := by
      simpa using hkept
    split
    · next hstart =>
      constructor
      · intro h
        obtain ⟨field', hfield, hpair⟩ := Option.map_eq_some_iff.mp h
        obtain ⟨rfl, hreturns⟩ := Prod.mk.inj hpair
        exact ⟨hstatic, hidentity, names_iff.mp ⟨hstart, hfield⟩, hreturns⟩
      · intro h
        obtain ⟨-, hfield⟩ := names_iff.mpr h.named
        rw [hfield, ← h.returns]
        rfl
    · next hstart =>
      exact ⟨fun h ↦ (nomatch h), fun h ↦ absurd (names_iff.mpr h.named).1 hstart⟩

end Layout

/-! ## Fields side by side -/

/-- Fields that can stand beside the key: they have usable names other than the key's, and none is
shown with two types. -/
structure Consistent (keyColumn : String) (shown : String → FieldType → Prop) : Prop where
  valid : ∀ {field type}, shown field type → Identifier.Valid field
  not_key : ∀ {type}, ¬shown keyColumn type
  one_type : ∀ {field type type'}, shown field type → shown field type' → type = type'

/-- The fields that are shown, in ascending order of their names. -/
structure Collected (shown : String → FieldType → Prop) (fields : List (String × FieldType)) :
    Prop where
  ascending : Ordered.Ascending fields
  mem_iff : ∀ {field type}, (field, type) ∈ fields ↔ shown field type

section Fields

variable {keyColumn field : String} {type : FieldType} {shown shown' : String → FieldType → Prop}
  {fields fields' : List (String × FieldType)}

theorem shown_ext (h : ∀ field type, shown field type ↔ shown' field type) : shown = shown' :=
  funext fun field ↦ funext fun type ↦ propext (h field type)

theorem Collected.unique (h : Collected shown fields) (h' : Collected shown fields') :
    fields = fields' :=
  h.ascending.ext h'.ascending fun _ ↦ h.mem_iff.trans h'.mem_iff.symm

/-- A new field may join if its name is usable and not the key's. -/
theorem Consistent.extend (h : Consistent keyColumn shown) (hvalid : Identifier.Valid field)
    (hkey : field ≠ keyColumn) (hnew : ∀ type, ¬shown field type)
    (hadded : ∀ field' type', shown' field' type' ↔
      shown field' type' ∨ field' = field ∧ type' = type) :
    Consistent keyColumn shown' := by
  constructor
  · intro field' type' hshown
    rcases (hadded _ _).mp hshown with hold | ⟨rfl, -⟩
    · exact h.valid hold
    · exact hvalid
  · intro type' hshown
    rcases (hadded _ _).mp hshown with hold | ⟨hsame, -⟩
    · exact h.not_key hold
    · exact hkey hsame.symm
  · intro field' type' type'' hshown hshown'
    rcases (hadded _ _).mp hshown with hold | ⟨rfl, rfl⟩
    · rcases (hadded _ _).mp hshown' with hold' | ⟨rfl, -⟩
      · exact h.one_type hold hold'
      · exact absurd hold (hnew _)
    · rcases (hadded _ _).mp hshown' with hold' | ⟨-, rfl⟩
      · exact absurd hold' (hnew _)
      · rfl

theorem Collected.extend (h : Collected shown fields) (hnew : field ∉ fields.map Prod.fst)
    (hadded : ∀ field' type', shown' field' type' ↔
      shown field' type' ∨ field' = field ∧ type' = type) :
    Collected shown' (Ordered.insert field type fields) := by
  refine ⟨h.ascending.insert field type, ?_⟩
  intro field' type'
  rw [Ordered.mem_insert_of_not_mem hnew, h.mem_iff, hadded, or_comm, Prod.mk.injEq]

end Fields

/-! ## Accessors looked at so far -/

namespace RecordType

variable {t : RecordType} {accessors accessors' : List Accessor} {a : Accessor} {field : String}
  {type : FieldType}

/-- One of the accessors shows the field, and with this type. -/
def Shown (t : RecordType) (accessors : List Accessor) (field : String) (type : FieldType) : Prop :=
  ∃ a ∈ accessors, a.Shows t field type

/-- The fields that a type declares, each with a type that it is declared with. -/
def Declares (t : RecordType) : String → FieldType → Prop :=
  t.Shown t.accessors

theorem not_shown_nil : ¬t.Shown [] field type := by
  rintro ⟨a, ha, -⟩
  exact List.not_mem_nil ha

theorem shown_append : t.Shown (accessors ++ [a]) field type ↔
    t.Shown accessors field type ∨ a.Shows t field type := by
  simp [Shown, or_and_right, exists_or]

theorem Shown.declares (h : t.Shown accessors field type) (hsub : accessors ⊆ t.accessors) :
    t.Declares field type := by
  obtain ⟨a, ha, hshows⟩ := h
  exact ⟨a, hsub ha, hshows⟩

structure Resolvable (t : RecordType) : Prop where
  name : Identifier.Valid t.name
  schema : ∀ {schema}, t.schema = some schema → Identifier.Valid schema
  keyColumn : Identifier.Valid t.keyColumn
  fields : Consistent t.keyColumn t.Declares

/-- Types with one name and one key whose accessors show the same fields. -/
structure Alike (t t' : RecordType) : Prop where
  name : t.name = t'.name
  schema : t.schema = t'.schema
  keyColumn : t.keyColumn = t'.keyColumn
  keyType : t.keyType = t'.keyType
  declares : ∀ field type, t.Declares field type ↔ t'.Declares field type

theorem Alike.symm {t t' : RecordType} (h : t.Alike t') : t'.Alike t :=
  ⟨h.name.symm, h.schema.symm, h.keyColumn.symm, h.keyType.symm, fun _ _ ↦ (h.declares _ _).symm⟩

theorem Alike.resolvable {t t' : RecordType} (h : t.Alike t') (ht : t.Resolvable) :
    t'.Resolvable := by
  obtain ⟨hname, hschema, hkeyColumn, hfields⟩ := ht
  rw [h.name] at hname
  rw [h.schema] at hschema
  rw [h.keyColumn] at hkeyColumn
  rw [h.keyColumn, shown_ext h.declares] at hfields
  exact ⟨hname, hschema, hkeyColumn, hfields⟩

/-- Neither the order nor the number of declarations of an accessor counts, and static accessors do
not count at all. -/
theorem alike_of_mem_iff
    (h : ∀ a : Accessor, a.isStatic = false → (a ∈ accessors ↔ a ∈ t.accessors)) :
    Alike { t with accessors } t := by
  refine ⟨rfl, rfl, rfl, rfl, fun field type ↦ ?_⟩
  constructor
  · rintro ⟨a, ha, hshows⟩
    obtain ⟨hstatic, hidentity, hnamed, hreturns⟩ := hshows
    exact ⟨a, (h a hstatic).mp ha, hstatic, hidentity, hnamed, hreturns⟩
  · rintro ⟨a, ha, hshows⟩
    obtain ⟨hstatic, hidentity, hnamed, hreturns⟩ := hshows
    exact ⟨a, (h a hstatic).mpr ha, hstatic, hidentity, hnamed, hreturns⟩

end RecordType

namespace Layout

variable {t t' : RecordType} {l : Layout} {seen rest : List Accessor} {a : Accessor}
  {field : String} {type : FieldType} {fields : List (String × FieldType)}

/-- A reason not to resolve a type: a name that is no identifier, an accessor of a field that has
the key's name, or two types of one field. -/
inductive Refused (t : RecordType) : ArgumentFault → Prop
  | name {name : String} {fault : ArgumentFault} :
    name = t.name ∨ t.schema = some name ∨ name = t.keyColumn ∨ (∃ type, t.Declares name type) →
    Identifier.check name = .error fault → Refused t fault
  | key {a : Accessor} {type : FieldType} : a ∈ t.accessors → a.Shows t t.keyColumn type →
    Refused t (.mapsOntoKey a.name t.name t.keyColumn)
  | types {field : String} {type type' : FieldType} : t.Declares field type →
    t.Declares field type' → type ≠ type' → Refused t (.conflictingField field t.name type type')

theorem shown_append_of_none (seen : List Accessor) (h : contribution? t a = none) :
    t.Shown (seen ++ [a]) = t.Shown seen := by
  refine shown_ext fun field type ↦ RecordType.shown_append.trans (or_iff_left ?_)
  rw [← contribution?_eq_some_iff, h]
  exact nofun

theorem shown_append_of_some (seen : List Accessor) (h : contribution? t a = some (field, type))
    (field' : String) (type' : FieldType) : t.Shown (seen ++ [a]) field' type' ↔
      t.Shown seen field' type' ∨ field' = field ∧ type' = type := by
  rw [RecordType.shown_append, ← contribution?_eq_some_iff, h, Option.some.injEq, Prod.mk.injEq,
    eq_comm, @eq_comm _ type]

/-- Looking at one more accessor either takes in what it shows or finds a reason to refuse. -/
theorem addAccessor_cases (hsub : seen ++ [a] ⊆ t.accessors)
    (hseen : Consistent t.keyColumn (t.Shown seen)) (hfields : Collected (t.Shown seen) fields) :
    (∃ found, addAccessor t fields a = .ok found ∧
      Consistent t.keyColumn (t.Shown (seen ++ [a])) ∧ Collected (t.Shown (seen ++ [a])) found) ∨
    ∃ fault, addAccessor t fields a = .error fault ∧ Refused t fault := by
  unfold addAccessor
  cases hcontribution : contribution? t a with
  | none =>
      rw [shown_append_of_none seen hcontribution]
      exact .inl ⟨fields, rfl, hseen, hfields⟩
  | some contribution =>
  obtain ⟨field, type⟩ := contribution
  have hadded := shown_append_of_some seen hcontribution
  have hdeclared : t.Declares field type :=
    ((hadded field type).mpr (.inr ⟨rfl, rfl⟩)).declares hsub
  dsimp only
  cases hcheck : Identifier.check field with
  | error fault => exact .inr ⟨fault, rfl, .name (.inr (.inr (.inr ⟨type, hdeclared⟩))) hcheck⟩
  | ok _ =>
  by_cases hkey : field = t.keyColumn
  · subst hkey
    have ha : a ∈ t.accessors := hsub (by simp)
    have hshows := contribution?_eq_some_iff.mp hcontribution
    exact .inr ⟨.mapsOntoKey a.name t.name t.keyColumn, if_pos rfl, .key ha hshows⟩
  simp only [bind, Except.bind, if_neg hkey]
  cases hlookup : fields.lookup field with
  | some declared =>
      have hold : t.Shown seen field declared :=
        hfields.mem_iff.mp (Ordered.mem_of_lookup hlookup)
      -- a field that is there already is not added again, and its type must not change
      by_cases htype : declared = type
      · subst htype
        have hsame : t.Shown (seen ++ [a]) = t.Shown seen := by
          refine shown_ext fun field' type' ↦ (hadded _ _).trans (or_iff_left_of_imp ?_)
          rintro ⟨rfl, rfl⟩
          exact hold
        rw [hsame]
        exact .inl ⟨fields, if_pos rfl, hseen, hfields⟩
      · have hbefore := hold.declares (List.Subset.trans (List.subset_append_left seen [a]) hsub)
        exact .inr ⟨_, if_neg htype, .types hbefore hdeclared htype⟩
  | none =>
      have hnew := Ordered.not_mem_of_lookup hlookup
      have hnone (type') : ¬t.Shown seen field type' := by
        intro hold
        exact hnew (List.mem_map.mpr ⟨_, hfields.mem_iff.mpr hold, rfl⟩)
      have hvalid := Identifier.check_eq_ok_iff.mp hcheck
      exact .inl ⟨_, rfl, hseen.extend hvalid hkey hnone hadded, hfields.extend hnew hadded⟩

/-- All accessors that remain are taken in, unless there is a reason to refuse. -/
theorem foldlM_cases (hall : seen ++ rest = t.accessors)
    (hseen : Consistent t.keyColumn (t.Shown seen)) (hfields : Collected (t.Shown seen) fields) :
    (∃ found, rest.foldlM (addAccessor t) fields = .ok found ∧
      Consistent t.keyColumn t.Declares ∧ Collected t.Declares found) ∨
    ∃ fault, rest.foldlM (addAccessor t) fields = .error fault ∧ Refused t fault := by
  -- `rest` is what remains to be looked at; the reasons to refuse speak of all accessors
  induction rest generalizing seen fields with
  | nil =>
      rw [List.append_nil] at hall
      subst hall
      exact .inl ⟨fields, rfl, hseen, hfields⟩
  | cons a rest ih =>
      have hsub : seen ++ [a] ⊆ t.accessors := by
        rw [← hall]
        exact List.append_subset.mpr ⟨by simp, by simp⟩
      rw [List.foldlM_cons]
      rcases addAccessor_cases hsub hseen hfields with
        ⟨found, hok, hnext, hfound⟩ | ⟨fault, herror, hrefused⟩
      · rw [hok]
        exact ih (by simpa using hall) hnext hfound
      · rw [herror]
        exact .inr ⟨fault, rfl, hrefused⟩

/-! ## Resolving -/

theorem Refused.not_resolvable {fault : ArgumentFault} (h : Refused t fault) : ¬t.Resolvable := by
  intro hres
  cases h with
  | name hname hcheck =>
      refine Identifier.check_ne_error ?_ hcheck
      rcases hname with rfl | hschema | rfl | ⟨type, hshown⟩
      · exact hres.name
      · exact hres.schema hschema
      · exact hres.keyColumn
      · exact hres.fields.valid hshown
  | key ha hshows => exact hres.fields.not_key ⟨_, ha, hshows⟩
  | types hshown hshown' hne => exact hne (hres.fields.one_type hshown hshown')

/-- The layout has the name, the key and exactly the declared fields of the type. -/
structure Carries (l : Layout) (t : RecordType) : Prop where
  typeName : l.typeName = t.name
  schema : l.schema = t.schema
  keyColumn : l.keyColumn = t.keyColumn
  keyType : l.keyType = t.keyType
  fields : Collected t.Declares l.fields

theorem Carries.alike (h : l.Carries t) (halike : t.Alike t') : l.Carries t' := by
  refine ⟨h.typeName.trans halike.name, h.schema.trans halike.schema,
    h.keyColumn.trans halike.keyColumn, h.keyType.trans halike.keyType, ?_⟩
  rw [← shown_ext halike.declares]
  exact h.fields

theorem Carries.mem_fieldNames_iff (h : l.Carries t) (field : String) :
    field ∈ l.fieldNames ↔ ∃ type, t.Declares field type := by
  simp [fieldNames, h.fields.mem_iff]

theorem Carries.unique {l' : Layout} (h : l.Carries t) (h' : l'.Carries t) : l = l' := by
  have hfields : l.fields = l'.fields := h.fields.unique h'.fields
  obtain ⟨hname, hschema, hkeyColumn, hkeyType, -⟩ := h
  obtain ⟨hname', hschema', hkeyColumn', hkeyType', -⟩ := h'
  cases l
  cases l'
  simp_all

/-- Resolving either gives the layout of the declared fields or finds a reason to refuse. -/
theorem resolve_cases (t : RecordType) :
    (∃ l, resolve t = .ok l ∧ t.Resolvable ∧ l.Carries t) ∨
      ∃ fault, resolve t = .error fault ∧ Refused t fault := by
  rw [resolve_eq]
  cases hname : Identifier.check t.name with
  | error fault => exact .inr ⟨fault, rfl, .name (.inl rfl) hname⟩
  | ok _ =>
  cases hschema : t.schema.elim (.ok ()) Identifier.check with
  | error fault =>
      cases hgiven : t.schema with
      | none =>
          rw [hgiven] at hschema
          cases hschema
      | some schema =>
          rw [hgiven] at hschema
          exact .inr ⟨fault, rfl, .name (.inr (.inl hgiven)) hschema⟩
  | ok _ =>
  cases hkey : Identifier.check t.keyColumn with
  | error fault => exact .inr ⟨fault, rfl, .name (.inr (.inr (.inl rfl))) hkey⟩
  | ok _ =>
  have hconsistent : Consistent t.keyColumn (t.Shown []) :=
    ⟨fun h ↦ absurd h RecordType.not_shown_nil, RecordType.not_shown_nil,
      fun h ↦ absurd h RecordType.not_shown_nil⟩
  have hcollected : Collected (t.Shown []) [] :=
    ⟨Ordered.ascending_nil, iff_of_false List.not_mem_nil RecordType.not_shown_nil⟩
  rcases foldlM_cases (List.nil_append t.accessors) hconsistent hcollected with
    ⟨fields, hfields, hdeclared, hfound⟩ | ⟨fault, hfault, hrefused⟩
  · rw [hfields]
    refine .inl ⟨_, rfl, ⟨Identifier.check_eq_ok_iff.mp hname, ?_,
      Identifier.check_eq_ok_iff.mp hkey, hdeclared⟩, ⟨rfl, rfl, rfl, rfl, hfound⟩⟩
    intro schema hgiven
    rw [hgiven] at hschema
    exact Identifier.check_eq_ok_iff.mp hschema
  · rw [hfault]
    exact .inr ⟨fault, rfl, hrefused⟩

theorem resolve_eq_ok_iff : resolve t = .ok l ↔ t.Resolvable ∧ l.Carries t := by
  rcases resolve_cases t with ⟨l', hl', hresolvable, hcarries⟩ | ⟨fault, hfault, hrefused⟩
  · rw [hl', Except.ok.injEq]
    constructor
    · rintro rfl
      exact ⟨hresolvable, hcarries⟩
    · rintro ⟨-, hcarries'⟩
      exact hcarries.unique hcarries'
  · rw [hfault]
    exact iff_of_false nofun fun h ↦ hrefused.not_resolvable h.1

theorem resolve_alike (h : t.Alike t') (l : Layout) : resolve t = .ok l ↔ resolve t' = .ok l := by
  rw [resolve_eq_ok_iff, resolve_eq_ok_iff]
  constructor
  · rintro ⟨hresolvable, hcarries⟩
    exact ⟨h.resolvable hresolvable, hcarries.alike h⟩
  · rintro ⟨hresolvable, hcarries⟩
    exact ⟨h.symm.resolvable hresolvable, hcarries.alike h.symm⟩

/-! ## What a layout tells about its type -/

/-- All that can be asked of a layout, told from the type. -/
structure Describes (l : Layout) (t : RecordType) : Prop where
  typeName : l.typeName = t.name
  schema : l.schema = t.schema
  keyColumn : l.keyColumn = t.keyColumn
  keyType : l.keyType = t.keyType
  identityAccessor : l.identityAccessor = t.identityAccessor
  ordered : Text.InByteOrder l.fieldNames
  declared : ∀ field, field ∈ l.fieldNames ↔ ∃ type, t.Declares field type
  key_not_field : t.keyColumn ∉ l.fieldNames
  length_types : l.fieldTypes.length = l.fieldNames.length
  typed : ∀ (i : Nat) field type, l.fieldNames[i]? = some field →
    (l.fieldTypes[i]? = some type ↔ t.Declares field type)
  indexed : ∀ (i : Nat) field, l.fieldNames[i]? = some field → l.fieldIndex field = .ok i
  unknown : ∀ field, field ∉ l.fieldNames →
    Error.ofArgument (l.fieldIndex field) = .error (.illegalArgument (.unknownField field t.name))
  shape : l.rowShape = t.keyType.fieldType :: l.fieldTypes

theorem fieldIndex_of_getElem? {i : Nat} {field : String} (hnodup : l.fieldNames.Nodup)
    (h : l.fieldNames[i]? = some field) : l.fieldIndex field = .ok i := by
  obtain ⟨hi, rfl⟩ := List.getElem?_eq_some_iff.mp h
  unfold fieldIndex
  rw [findIdx?_getElem_of_nodup hnodup hi]

theorem fieldIndex_of_not_mem {field : String} (h : field ∉ l.fieldNames) :
    l.fieldIndex field = .error (.unknownField field l.typeName) := by
  cases hindex : l.fieldIndex field with
  | error fault => rw [(fieldIndex_eq_error hindex).2]
  | ok i =>
      obtain ⟨hi, rfl⟩ := getElem_of_fieldIndex hindex
      exact absurd (mem_fieldNames (List.getElem_mem hi)) h

theorem Carries.describes (h : l.Carries t) (hres : t.Resolvable) : l.Describes t where
  typeName := h.typeName
  schema := h.schema
  keyColumn := h.keyColumn
  keyType := h.keyType
  identityAccessor := by rw [identityAccessor, RecordType.identityAccessor, h.keyColumn]
  ordered := Text.inByteOrder_iff.mpr h.fields.ascending
  declared := h.mem_fieldNames_iff
  key_not_field := by
    rw [h.mem_fieldNames_iff]
    rintro ⟨type, hshown⟩
    exact hres.fields.not_key hshown
  length_types := by simp
  typed i field type hfield := by
    obtain ⟨hi, hname⟩ := List.getElem?_eq_some_iff.mp hfield
    have hi' : i < l.fields.length := by simpa [fieldCount] using hi
    have hentry : l.fields[i] = (field, l.fields[i].2) :=
      Prod.ext (by simpa [fieldNames] using hname) rfl
    have hdeclared : t.Declares field l.fields[i].2 :=
      h.fields.mem_iff.mp (hentry ▸ List.getElem_mem hi')
    simp only [fieldTypes, List.getElem?_map, List.getElem?_eq_getElem hi', Option.map_some,
      Option.some.injEq]
    constructor
    · rintro rfl
      exact hdeclared
    · exact hres.fields.one_type hdeclared
  indexed i field := fieldIndex_of_getElem? h.fields.ascending.nodup
  unknown field hfield := by
    rw [fieldIndex_of_not_mem hfield, h.typeName]
    rfl
  shape := by rw [rowShape, h.keyType]

/-- A type resolves exactly if its name, its schema, its key column and the fields that it declares
can stand together. The layout then holds these fields in the order of their names, and the same
fields declared in another way give the same layout. -/
theorem resolve_declared (t : RecordType) :
    ((∃ l, resolve t = .ok l) ↔ t.Resolvable) ∧
    (¬t.Resolvable → ∃ fault, Refused t fault ∧
      Error.ofArgument (resolve t) = .error (.illegalArgument fault)) ∧
    (∀ l, resolve t = .ok l → l.Describes t) ∧
    (∀ t', t.Alike t' → ∀ l, resolve t' = .ok l ↔ resolve t = .ok l) ∧
    ∀ accessors, (∀ a : Accessor, a.isStatic = false → (a ∈ accessors ↔ a ∈ t.accessors)) →
      ∀ l, resolve { t with accessors } = .ok l ↔ resolve t = .ok l := by
  refine ⟨⟨?_, fun hres ↦ ?_⟩, fun hnot ↦ ?_, fun l hl ↦ ?_, fun t' h l ↦ (resolve_alike h l).symm,
    fun accessors h ↦ resolve_alike (RecordType.alike_of_mem_iff h)⟩
  · rintro ⟨l, hl⟩
    exact (resolve_eq_ok_iff.mp hl).1
  · rcases resolve_cases t with ⟨l, hl, -⟩ | ⟨fault, -, hrefused⟩
    · exact ⟨l, hl⟩
    · exact absurd hres hrefused.not_resolvable
  · rcases resolve_cases t with ⟨-, -, hres, -⟩ | ⟨fault, hfault, hrefused⟩
    · exact absurd hres hnot
    · refine ⟨fault, hrefused, ?_⟩
      rw [hfault]
      rfl
  · obtain ⟨hres, hcarries⟩ := resolve_eq_ok_iff.mp hl
    exact hcarries.describes hres

/-- A note with a static accessor, an accessor of its key, a setter and a bare verb besides its two
fields, and a type whose field is declared twice over with different types. -/
theorem resolve_declared_note :
    let accessors : List Accessor := [⟨"getTitle", .text, false⟩, ⟨"isÉtat", .bool, false⟩,
      ⟨"getLabel", .i64, false⟩, ⟨"setAge", .i32, false⟩, ⟨"get", .text, false⟩]
    let again : List Accessor :=
      [⟨"getTitle", .i32, true⟩] ++ accessors.reverse ++ [⟨"getTitle", .text, false⟩]
    let t : RecordType := ⟨"Note", some "main", "label", .text, accessors⟩
    let l : Layout := ⟨"Note", some "main", "label", .text, [("title", .text), ("état", .bool)]⟩
    let torn : RecordType := ⟨"Note", none, "id", .int, [⟨"getDone", .text, false⟩,
      ⟨"isDone", .bool, false⟩]⟩
    resolve t = .ok l ∧ l.Describes t ∧ resolve { t with accessors := again } = .ok l ∧
      l.fieldIndex "état" = .ok 1 ∧ Error.ofArgument (l.fieldIndex "label")
        = .error (.illegalArgument (.unknownField "label" "Note")) ∧
      ¬torn.Resolvable ∧ ∃ fault, Refused torn fault ∧
        Error.ofArgument (resolve torn) = .error (.illegalArgument fault) := by
  intro accessors again t l torn
  obtain ⟨-, -, hdescribes, -, hsame⟩ := resolve_declared t
  obtain ⟨hresolvable, hrefused, -, -, -⟩ := resolve_declared torn
  have hresolve : resolve t = .ok l := by decide +kernel
  have hl := hdescribes l hresolve
  have hagain (a : Accessor) (ha : a.isStatic = false) : a ∈ again ↔ a ∈ accessors := by
    have hstatic : a ≠ ⟨"getTitle", .i32, true⟩ := by
      rintro rfl
      cases ha
    have hfirst : ⟨"getTitle", .text, false⟩ ∈ accessors := by decide
    rw [List.mem_append, List.mem_append, List.mem_reverse, List.mem_singleton,
      List.mem_singleton, or_iff_right hstatic]
    exact or_iff_left_of_imp fun h ↦ h ▸ hfirst
  have hconflict : resolve torn = .error (.conflictingField "done" "Note" .text .bool) := by
    decide +kernel
  have htorn : ¬torn.Resolvable := by
    rw [← hresolvable, hconflict]
    rintro ⟨l, hl⟩
    cases hl
  exact ⟨hresolve, hl, (hsame again hagain l).mpr hresolve, hl.indexed 1 "état" rfl,
    hl.unknown "label" hl.key_not_field, htorn, hrefused htorn⟩

end Layout

end RecordStore
