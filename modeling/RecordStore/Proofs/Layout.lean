import Mathlib.Data.List.Basic
import Mathlib.Data.List.Induction
import Mathlib.Data.List.Nodup
import RecordStore.Draft

namespace RecordStore

/-!
# Resolved layouts and aligned records

The fields of a resolved layout stand in strictly ascending order of their names, and none of them
carries the name of the key column. A record is aligned when it holds one value of the declared type
for each field; its own row then reads back as the record.
-/

theorem bind_eq_ok {ε α β : Type} {x : Except ε α} {f : α → Except ε β} {b : β} :
    x >>= f = .ok b ↔ ∃ a, x = .ok a ∧ f a = .ok b := by
  cases x <;> simp [bind, Except.bind]

theorem toOption_eq_some {ε α : Type} {x : Except ε α} {a : α} :
    x.toOption = some a ↔ x = .ok a := by
  cases x <;> simp [Except.toOption]

/-! ## Ascending association lists -/

namespace Ordered

variable {α : Type}

def Ascending (entries : List (String × α)) : Prop :=
  (entries.map Prod.fst).Pairwise (· < ·)

theorem ascending_nil : Ascending ([] : List (String × α)) := .nil

theorem Ascending.nodup {entries : List (String × α)} (h : Ascending entries) :
    (entries.map Prod.fst).Nodup :=
  List.Pairwise.imp (fun hlt ↦ String.ne_of_lt hlt) h

theorem mem_keys_insert {key k : String} {value : α} {entries : List (String × α)} :
    k ∈ (insert key value entries).map Prod.fst ↔ k = key ∨ k ∈ entries.map Prod.fst := by
  induction entries with
  | nil => simp
  | cons entry rest ih =>
      obtain ⟨k', v'⟩ := entry
      simp only [insert]
      split
      · simp
      · split
        · next heq => simp [heq]
        · simp only [List.map_cons, List.mem_cons, ih]
          exact or_left_comm

theorem Ascending.insert {entries : List (String × α)} (h : Ascending entries) (key : String)
    (value : α) : Ascending (insert key value entries) := by
  induction entries with
  | nil => exact List.pairwise_singleton _ _
  | cons entry rest ih =>
      obtain ⟨k, v⟩ := entry
      obtain ⟨hk, hrest⟩ := List.pairwise_cons.mp h
      simp only [Ordered.insert]
      split
      · next hlt =>
        refine List.pairwise_cons.mpr ⟨?_, h⟩
        intro k' hk'
        rcases List.mem_cons.mp hk' with rfl | hk'
        · exact hlt
        · exact String.lt_trans hlt (hk k' hk')
      · next hnot =>
        split
        · next heq =>
          subst heq
          exact List.pairwise_cons.mpr ⟨hk, hrest⟩
        · next hne =>
          refine List.pairwise_cons.mpr ⟨?_, ih hrest⟩
          intro k' hk'
          rcases mem_keys_insert.mp hk' with rfl | hk'
          · rcases Std.lt_trichotomy k k' with hlt | heq | hgt
            · exact hlt
            · exact absurd heq.symm hne
            · exact absurd hgt hnot
          · exact hk k' hk'

theorem mem_insert_of_not_mem {key : String} {value : α} {entries : List (String × α)}
    {entry : String × α} (h : key ∉ entries.map Prod.fst) :
    entry ∈ insert key value entries ↔ entry = (key, value) ∨ entry ∈ entries := by
  induction entries with
  | nil => simp
  | cons first rest ih =>
      obtain ⟨k, v⟩ := first
      rw [List.map_cons, List.mem_cons, not_or] at h
      simp only [insert, if_neg h.1]
      split
      · exact List.mem_cons
      · rw [List.mem_cons, ih h.2, List.mem_cons]
        exact or_left_comm

theorem mem_of_lookup {key : String} {value : α} {entries : List (String × α)}
    (h : entries.lookup key = some value) : (key, value) ∈ entries := by
  obtain ⟨before, after, rfl, -⟩ := List.lookup_eq_some_iff.mp h
  simp

theorem not_mem_of_lookup {key : String} {entries : List (String × α)}
    (h : entries.lookup key = none) : key ∉ entries.map Prod.fst := by
  intro hmem
  obtain ⟨entry, hentry, rfl⟩ := List.mem_map.mp hmem
  have hne := List.lookup_eq_none_iff.mp h entry hentry
  simp at hne

theorem mem_keys_iff {key : String} {entries : List (String × α)} :
    key ∈ entries.map Prod.fst ↔ (entries.lookup key).isSome := by
  cases hlookup : entries.lookup key with
  | none => exact iff_of_false (not_mem_of_lookup hlookup) Bool.false_ne_true
  | some value => exact iff_of_true (List.mem_map.mpr ⟨_, mem_of_lookup hlookup, rfl⟩) rfl

/-- An ascending list is determined by its entries. -/
theorem Ascending.ext {entries entries' : List (String × α)} (h : Ascending entries)
    (h' : Ascending entries') (hmem : ∀ entry, entry ∈ entries ↔ entry ∈ entries') :
    entries = entries' := by
  have hperm : entries.Perm entries' :=
    (List.perm_ext_iff_of_nodup (.of_map _ h.nodup) (.of_map _ h'.nodup)).mpr hmem
  refine hperm.eq_of_pairwise ?_ (List.pairwise_map.mp h) (List.pairwise_map.mp h')
  intro a b _ _ hab hba
  exact absurd hba (String.lt_asymm hab)

theorem ofList_append (entries : List (String × α)) (entry : String × α) :
    ofList (entries ++ [entry]) = insert entry.1 entry.2 (ofList entries) := by
  rw [ofList, List.foldl_append, List.foldl_cons, List.foldl_nil, ofList]

theorem ascending_ofList (entries : List (String × α)) : Ascending (ofList entries) := by
  induction entries using List.reverseRecOn with
  | nil => exact ascending_nil
  | append_singleton entries entry ih =>
      rw [ofList_append]
      exact ih.insert entry.1 entry.2

theorem mem_ofList {entries : List (String × α)} (h : (entries.map Prod.fst).Nodup)
    {entry : String × α} : entry ∈ ofList entries ↔ entry ∈ entries := by
  induction entries using List.reverseRecOn generalizing entry with
  | nil => exact Iff.rfl
  | append_singleton entries last ih =>
      rw [List.map_append, List.nodup_append] at h
      obtain ⟨hrest, -, hdisjoint⟩ := h
      have hnew : last.1 ∉ (ofList entries).map Prod.fst := by
        intro hmem
        obtain ⟨entry, hentry, hname⟩ := List.mem_map.mp hmem
        refine hdisjoint entry.1 ?_ last.1 (by simp) hname
        exact List.mem_map.mpr ⟨entry, (ih hrest).mp hentry, rfl⟩
      rw [ofList_append, mem_insert_of_not_mem hnew, ih hrest, List.mem_append,
        List.mem_singleton]
      exact or_comm

theorem lookup_of_mem {entries : List (String × α)} (h : (entries.map Prod.fst).Nodup)
    {key : String} {value : α} (hmem : (key, value) ∈ entries) :
    entries.lookup key = some value := by
  cases hlookup : entries.lookup key with
  | none => exact absurd (List.mem_map_of_mem hmem) (not_mem_of_lookup hlookup)
  | some found =>
      have heq := List.inj_on_of_nodup_map h (mem_of_lookup hlookup) hmem rfl
      rw [(Prod.mk.inj heq).2]

/-- Entries with distinct keys are put in order. -/
theorem ofList_of_perm {entries sorted : List (String × α)} (hperm : entries.Perm sorted)
    (hsorted : Ascending sorted) : ofList entries = sorted := by
  have hnodup : (entries.map Prod.fst).Nodup := (hperm.map _).nodup_iff.mpr hsorted.nodup
  exact (ascending_ofList entries).ext hsorted fun _ ↦ (mem_ofList hnodup).trans hperm.mem_iff

end Ordered

/-! ## Layouts -/

namespace Layout

/-- What resolving promises of the columns of a layout. -/
structure Sound (l : Layout) : Prop where
  ascending : Ordered.Ascending l.fields
  key_not_field : l.keyColumn ∉ l.fieldNames

theorem Sound.nodup_fieldNames {l : Layout} (h : l.Sound) : l.fieldNames.Nodup :=
  h.ascending.nodup

theorem Sound.nodup_columns {l : Layout} (h : l.Sound) : l.columns.Nodup :=
  List.nodup_cons.mpr ⟨h.key_not_field, h.nodup_fieldNames⟩

/-- The columns that accessors have contributed so far. -/
def Contributed (t : RecordType) (fields : List (String × FieldType)) : Prop :=
  Ordered.Ascending fields ∧ t.keyColumn ∉ fields.map Prod.fst

theorem contributed_addAccessor {t : RecordType} {fields found : List (String × FieldType)}
    {a : Accessor} (h : addAccessor t fields a = .ok found) (hfields : Contributed t fields) :
    Contributed t found := by
  unfold addAccessor at h
  split at h
  · cases h
    exact hfields
  · next field type _ =>
    obtain ⟨_, -, h⟩ := bind_eq_ok.mp h
    dsimp only at h
    by_cases hkey : field = t.keyColumn
    · rw [if_pos hkey] at h
      cases h
    · rw [if_neg hkey] at h
      split at h
      · split at h
        · cases h
          exact hfields
        · cases h
      · cases h
        refine ⟨hfields.1.insert field type, ?_⟩
        rw [Ordered.mem_keys_insert, not_or]
        exact ⟨Ne.symm hkey, hfields.2⟩

theorem contributed_foldlM {t : RecordType} {accessors : List Accessor}
    {fields found : List (String × FieldType)}
    (h : accessors.foldlM (addAccessor t) fields = .ok found) (hfields : Contributed t fields) :
    Contributed t found := by
  induction accessors generalizing fields with
  | nil =>
      cases h
      exact hfields
  | cons a accessors ih =>
      rw [List.foldlM_cons] at h
      obtain ⟨next, ha, hrest⟩ := bind_eq_ok.mp h
      exact ih hrest (contributed_addAccessor ha hfields)

/-- The four steps of resolving; a type without a schema has nothing to check there. -/
theorem resolve_eq (t : RecordType) : resolve t = (do
    Identifier.check t.name
    t.schema.elim (.ok ()) Identifier.check
    Identifier.check t.keyColumn
    let fields ← t.accessors.foldlM (addAccessor t) []
    pure ⟨t.name, t.schema, t.keyColumn, t.keyType, fields⟩) := by
  obtain ⟨name, schema, keyColumn, keyType, accessors⟩ := t
  cases schema <;> rfl

theorem resolve_eq_ok {t : RecordType} {l : Layout} (h : resolve t = .ok l) :
    ∃ fields, t.accessors.foldlM (addAccessor t) [] = .ok fields ∧
      l = ⟨t.name, t.schema, t.keyColumn, t.keyType, fields⟩ := by
  rw [resolve_eq] at h
  obtain ⟨_, -, h⟩ := bind_eq_ok.mp h
  obtain ⟨_, -, h⟩ := bind_eq_ok.mp h
  obtain ⟨_, -, h⟩ := bind_eq_ok.mp h
  obtain ⟨fields, hfields, h⟩ := bind_eq_ok.mp h
  cases h
  exact ⟨fields, hfields, rfl⟩

theorem sound_of_resolve {t : RecordType} {l : Layout} (h : resolve t = .ok l) : l.Sound := by
  obtain ⟨fields, hfields, rfl⟩ := resolve_eq_ok h
  obtain ⟨hascending, hkey⟩ := contributed_foldlM hfields ⟨Ordered.ascending_nil, by simp⟩
  exact ⟨hascending, hkey⟩

theorem typeName_of_resolve {t : RecordType} {l : Layout} (h : resolve t = .ok l) :
    l.typeName = t.name := by
  obtain ⟨fields, -, rfl⟩ := resolve_eq_ok h
  rfl

end Layout

/-! ## Values by column -/

/-- Looking up a name beside its value is finding its place and then the value there. -/
theorem lookup_zip_eq {α : Type} (names : List String) (values : List α) (name : String) :
    (names.zip values).lookup name = (names.findIdx? (· == name)).bind (values[·]?) := by
  induction names generalizing values with
  | nil => rfl
  | cons first names ih =>
      cases values with
      | nil =>
          cases (first :: names).findIdx? (· == name) <;> simp
      | cons v values =>
          simp only [List.zip_cons_cons, List.lookup_cons, List.findIdx?_cons]
          by_cases h : first = name
          · simp [h]
          · have hne : (name == first) = false := by simpa using Ne.symm h
            have hne' : (first == name) = false := by simpa using h
            simp only [hne, hne', ih, Bool.false_eq_true, if_false]
            cases names.findIdx? (· == name) <;> simp

theorem findIdx?_getElem_of_nodup {names : List String} (hnodup : names.Nodup) {i : Nat}
    (hi : i < names.length) : names.findIdx? (· == names[i]) = some i := by
  rw [List.findIdx?_eq_some_iff_getElem]
  refine ⟨hi, beq_self_eq_true _, fun j hj ↦ ?_⟩
  simpa using fun h ↦ Nat.ne_of_lt hj ((List.Nodup.getElem_inj_iff hnodup).mp h)

/-- Under distinct names every name is found beside the value in its place. -/
theorem lookup_zip_getElem {α : Type} {names : List String} {values : List α}
    (hnodup : names.Nodup) {i : Nat} (hname : i < names.length) (hvalue : i < values.length) :
    (names.zip values).lookup names[i] = some values[i] := by
  rw [lookup_zip_eq, findIdx?_getElem_of_nodup hnodup hname]
  simp [hvalue]

theorem map_lookup_zip {α : Type} {names : List String} {values : List α} (hnodup : names.Nodup)
    (hlength : values.length = names.length) :
    names.map (fun name ↦ (names.zip values).lookup name) = values.map some := by
  refine List.ext_getElem (by simp [hlength]) fun i hi hi' ↦ ?_
  rw [List.getElem_map, List.getElem_map]
  exact lookup_zip_getElem hnodup (by simpa using hi) (by simpa using hi')

namespace Value

@[simp] theorem coerceTo_fieldType (v : Value) : v.coerceTo v.fieldType = some v := by
  cases v <;> simp [coerceTo, fieldType]

theorem fieldType_of_coerceTo {v w : Value} {type : FieldType} (h : v.coerceTo type = some w) :
    w.fieldType = type := by
  unfold coerceTo at h
  split at h
  · cases h
    rfl
  · cases h
    rfl
  · obtain ⟨n, -, rfl⟩ := Option.map_eq_some_iff.mp h
    rfl
  · cases h
    rfl
  · split at h
    · next hsame =>
      cases h
      exact hsame
    · cases h

end Value

theorem Key.ofValue_eq_ok {v : Value} {key : Key} :
    Key.ofValue v = .ok key ↔ Key.ofValue? v = some key := by
  unfold Key.ofValue
  split
  · next found hfound => rw [hfound, Except.ok.injEq, Option.some.injEq]
  · next hnone => exact iff_of_false (by simp) (by simp [hnone])

namespace Record

/-- One value of the declared type for each field. Drafts and rows only yield aligned records. -/
def Aligned (r : Record) : Prop :=
  r.values.map Value.fieldType = r.layout.fieldTypes

instance (r : Record) : Decidable r.Aligned :=
  inferInstanceAs (Decidable (_ = _))

theorem Aligned.length_values {r : Record} (h : r.Aligned) :
    r.values.length = r.layout.fieldCount := by
  have hlength := congrArg List.length h
  simpa using hlength

theorem coerceRow_of_types {fields : List (String × FieldType)} {values : List Value}
    (h : values.map Value.fieldType = fields.map Prod.snd) :
    coerceRow fields values = .ok values := by
  induction fields generalizing values with
  | nil =>
      obtain rfl : values = [] := by simpa using h
      rfl
  | cons field fields ih =>
      obtain ⟨name, type⟩ := field
      cases values with
      | nil => simp at h
      | cons v values =>
          simp only [List.map_cons, List.cons.injEq] at h
          obtain ⟨rfl, hrest⟩ := h
          simp only [coerceRow, Value.coerceTo_fieldType, ih hrest]
          rfl

theorem ofRow_of_types {l : Layout} {values : List Value}
    (h : values.map Value.fieldType = l.fieldTypes) (key : Key) :
    ofRow l (key.toValue :: values) = .ok ⟨l, key, values⟩ := by
  have hlength : values.length = l.fieldCount := by simpa using congrArg List.length h
  simp only [ofRow, hlength, if_true, Key.ofValue_toValue, coerceRow_of_types h]
  rfl

theorem coerceRow_eq_ok {fields : List (String × FieldType)} {row values : List Value} :
    coerceRow fields row = .ok values ↔
      List.zipWith Value.coerceTo row (fields.map Prod.snd) = values.map some := by
  induction fields generalizing row values with
  | nil => cases row <;> cases values <;> simp [coerceRow, pure, Except.pure]
  | cons field fields ih =>
      obtain ⟨name, type⟩ := field
      cases row with
      | nil => cases values <;> simp [coerceRow, pure, Except.pure]
      | cons v row =>
          simp only [coerceRow, List.map_cons, List.zipWith_cons_cons]
          cases hv : v.coerceTo type with
          | none => cases values <;> simp [throw, throwThe, MonadExceptOf.throw]
          | some w =>
              simp only [bind_eq_ok, ih]
              cases values with
              | nil => simp [pure, Except.pure]
              | cons w' values => simp [pure, Except.pure, and_comm]

theorem ofRow_eq_ok {l : Layout} {row : List Value} {r : Record} : ofRow l row = .ok r ↔
    r.layout = l ∧ row.length = l.fieldCount + 1 ∧ row.head?.bind Key.ofValue? = some r.key ∧
      List.zipWith Value.coerceTo row.tail l.fieldTypes = r.values.map some := by
  cases row with
  | nil =>
      refine iff_of_false (by simp [ofRow]) ?_
      rintro ⟨-, hwidth, -⟩
      simp at hwidth
  | cons v rest =>
      simp only [ofRow]
      split
      · next hlength =>
        simp only [bind_eq_ok, coerceRow_eq_ok, List.tail_cons, List.head?_cons, Option.bind_some,
          List.length_cons, hlength, true_and]
        constructor
        · rintro ⟨key, hkey, values, hvalues, hr⟩
          cases hr
          exact ⟨rfl, Key.ofValue_eq_ok.mp hkey, hvalues⟩
        · rintro ⟨rfl, hkey, hvalues⟩
          exact ⟨r.key, Key.ofValue_eq_ok.mpr hkey, r.values, hvalues, rfl⟩
      · next hlength =>
        refine iff_of_false (by simp) ?_
        rintro ⟨-, hwidth, -⟩
        exact hlength (by simpa using hwidth)

theorem value_eq {r : Record} {field : String} {v : Value}
    (h : (r.layout.fieldNames.zip r.values).lookup field = some v) : r.value field = .ok v := by
  rw [lookup_zip_eq] at h
  obtain ⟨index, hindex, hv⟩ := Option.bind_eq_some_iff.mp h
  simp only [value, Layout.valueOf, Layout.fieldIndex, hindex, Error.ofArgument, bind, Except.bind,
    hv]
  rfl

theorem types_of_coerceRow {fields : List (String × FieldType)} {row values : List Value}
    (hlength : row.length = fields.length) (h : coerceRow fields row = .ok values) :
    values.map Value.fieldType = fields.map Prod.snd := by
  induction fields generalizing row values with
  | nil =>
      cases h
      rfl
  | cons field fields ih =>
      obtain ⟨name, type⟩ := field
      cases row with
      | nil => simp at hlength
      | cons v row =>
          simp only [coerceRow] at h
          split at h
          · next w hw =>
            obtain ⟨rest, hrest, h⟩ := bind_eq_ok.mp h
            cases h
            have hlength' : row.length = fields.length := by simpa using hlength
            simp [Value.fieldType_of_coerceTo hw, ih hlength' hrest]
          · cases h

theorem aligned_of_ofRow {l : Layout} {row : List Value} {r : Record} (h : ofRow l row = .ok r) :
    r.Aligned := by
  unfold ofRow at h
  split at h
  · split at h
    · next hlength =>
      obtain ⟨key, -, h⟩ := bind_eq_ok.mp h
      obtain ⟨values, hvalues, h⟩ := bind_eq_ok.mp h
      cases h
      exact types_of_coerceRow hlength hvalues
    · cases h
  · cases h

end Record

/-! ## Records that are built -/

mutual

/-- The drafts that starting, setting and copying lead to. -/
inductive Draft.Made : Draft → Prop
  | empty (l : Layout) (key : Key) : Draft.Made (.empty l key)
  | set {d d' : Draft} {field : String} {v : Value} :
    Draft.Made d → d.set field v = .ok d' → Draft.Made d'
  | modify {r : Record} : Record.Built r → Draft.Made r.modify
  | template {r : Record} {key : Key} {d : Draft} :
    Record.Built r → r.template key = .ok d → Draft.Made d

/-- The records that drafts and rows become. -/
inductive Record.Built : Record → Prop
  | draft {d d' : Draft} {r : Record} : Draft.Made d → d.build = .ok (r, d') → Record.Built r
  | row {l : Layout} {row : List Value} {r : Record} : Record.ofRow l row = .ok r → Record.Built r

end

theorem Draft.types_set {d d' : Draft} {field : String} {v : Value} (h : d.set field v = .ok d')
    (hd : d.values.map Value.fieldType = d.layout.fieldTypes) :
    d'.values.map Value.fieldType = d'.layout.fieldTypes := by
  unfold set at h
  split at h
  · cases h
  · split at h
    · cases h
    · obtain ⟨index, -, h⟩ := bind_eq_ok.mp h
      split at h
      · cases h
      · next type htype =>
        split at h
        · next w hw =>
          cases h
          obtain ⟨hlt, htype⟩ := List.getElem?_eq_some_iff.mp htype
          simp only [List.map_set, hd, Value.fieldType_of_coerceTo hw, ← htype,
            List.set_getElem_self]
        · cases h

theorem Draft.layout_template {r : Record} {key : Key} {d : Draft} (h : r.template key = .ok d) :
    d.layout = r.layout ∧ d.values = r.values := by
  unfold Record.template at h
  obtain ⟨_, -, h⟩ := bind_eq_ok.mp h
  cases h
  exact ⟨rfl, rfl⟩

mutual

theorem Draft.Made.types {d : Draft} :
    d.Made → d.values.map Value.fieldType = d.layout.fieldTypes
  | .empty l key => by simp [Draft.empty, Function.comp_def, Value.fieldType]
  | .set hd h => Draft.types_set h hd.types
  | .modify hr => hr.aligned
  | .template hr h => by
      obtain ⟨hlayout, hvalues⟩ := Draft.layout_template h
      rw [hlayout, hvalues]
      exact hr.aligned

theorem Record.Built.aligned {r : Record} : r.Built → r.Aligned
  | .draft hd h => by
      unfold Draft.build at h
      split at h
      · cases h
      · cases h
        exact hd.types
  | .row h => Record.aligned_of_ofRow h

end

theorem Record.built_iff_aligned {r : Record} : r.Built ↔ r.Aligned :=
  ⟨Built.aligned, fun h ↦ .row (Record.ofRow_of_types h r.key)⟩

end RecordStore
