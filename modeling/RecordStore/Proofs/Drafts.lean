import RecordStore.Draft.InPlace
import RecordStore.Proofs.Registry

namespace RecordStore

/-!
# What drafts and records hold

Whatever drafts and records are made of, and whatever has been tried with them since, they hold one
value of the declared type for each field of a sound layout. So a name is either refused or found at
a place that is there, and every value can be read at the type that its field is declared with.
-/

/-! ## Operations in place -/

namespace Drafting

variable {α : Type}

/-- A changed draft takes the place of the old one; after a failure the old one is still there. -/
def inPlace (d : Draft) : Except Error (α × Draft) → EStateM.Result Error Draft α
  | .ok (a, d') => .ok a d'
  | .error e => .error e d

theorem inPlace_eq_ok {d d' : Draft} {result : Except Error (α × Draft)} {a : α} :
    inPlace d result = .ok a d' ↔ result = .ok (a, d') := by
  cases result <;> simp [inPlace, Prod.ext_iff]

theorem run_set (field : String) (v : Value) (d : Draft) :
    (set field v).run d = inPlace d ((d.set field v).map fun d' ↦ ((), d')) := by
  simp only [set, Draft.set, EStateM.run_bind, EStateM.run_get]
  by_cases hfinalized : d.finalized = true
  · simp only [if_pos hfinalized]
    rfl
  simp only [if_neg hfinalized]
  by_cases hkey : field = d.layout.keyColumn
  · simp only [if_pos hkey]
    rfl
  simp only [if_neg hkey]
  cases d.layout.fieldIndex field with
  | error fault => rfl
  | ok index =>
      simp only [Error.ofArgument, ofExcept, EStateM.run_bind, EStateM.run_pure]
      simp only [bind, Except.bind]
      cases d.layout.fieldType? index with
      | none => rfl
      | some type =>
          dsimp only
          cases v.coerceTo type with
          | none => rfl
          | some w => rfl

theorem run_call (setter : String) (v : Value) (d : Draft) :
    (call setter v).run d = inPlace d ((d.call setter v).map fun d' ↦ ((), d')) := by
  unfold call Draft.call
  cases Draft.setterField? setter with
  | none => rfl
  | some field => exact run_set field v d

theorem run_build (d : Draft) : build.run d = inPlace d d.build := by
  simp only [build, Draft.build, EStateM.run_bind, EStateM.run_get]
  by_cases hfinalized : d.finalized = true
  · simp only [if_pos hfinalized]
    rfl
  · simp only [if_neg hfinalized]
    rfl

/-- An operation in place leaves the draft alone or turns it into what the operation returns. -/
theorem after_cases {x : Drafting α} {d : Draft} {result : Except Error (α × Draft)}
    (h : x.run d = inPlace d result) :
    after x d = d ∨ ∃ a, result = .ok (a, after x d) := by
  unfold after
  rw [h]
  cases result with
  | error e => exact .inl rfl
  | ok changed => exact .inr ⟨changed.1, rfl⟩

end Drafting

/-! ## Places of fields -/

namespace Layout

variable {l : Layout} {field : String} {type type' : FieldType} {i : Nat}

theorem getElem_of_fieldIndex (h : l.fieldIndex field = .ok i) :
    ∃ hi : i < l.fields.length, l.fields[i].1 = field := by
  unfold fieldIndex at h
  split at h
  · next index hfound =>
    obtain rfl : index = i := Except.ok.inj h
    obtain ⟨hi, hname, -⟩ := List.findIdx?_eq_some_iff_getElem.mp hfound
    have hi' : index < l.fields.length := by simpa [fieldCount] using hi
    exact ⟨hi', by simpa [fieldNames] using hname⟩
  · cases h

theorem lt_of_fieldIndex (h : l.fieldIndex field = .ok i) : i < l.fieldCount :=
  (getElem_of_fieldIndex h).1

theorem fieldIndex_eq_error {fault : ArgumentFault} (h : l.fieldIndex field = .error fault) :
    field ∉ l.fieldNames ∧ fault = .unknownField field l.typeName := by
  unfold fieldIndex at h
  split at h
  · cases h
  · next hnone =>
    refine ⟨?_, (Except.error.inj h).symm⟩
    intro hmem
    have hne := List.findIdx?_eq_none_iff.mp hnone field hmem
    simp at hne

theorem mem_fieldNames (h : (field, type) ∈ l.fields) : field ∈ l.fieldNames :=
  List.mem_map.mpr ⟨(field, type), h, rfl⟩

theorem Sound.type_unique (h : l.Sound) (hmem : (field, type) ∈ l.fields)
    (hmem' : (field, type') ∈ l.fields) : type = type' := by
  have hsame := List.inj_on_of_nodup_map h.nodup_fieldNames hmem hmem' rfl
  exact congrArg Prod.snd hsame

/-- In a sound layout a field is found where it stands. -/
theorem Sound.fieldIndex_of_mem (h : l.Sound) (hmem : (field, type) ∈ l.fields) :
    ∃ i, l.fieldIndex field = .ok i ∧ l.fieldType? i = some type := by
  cases hindex : l.fieldIndex field with
  | error fault => exact absurd (mem_fieldNames hmem) (fieldIndex_eq_error hindex).1
  | ok i =>
      refine ⟨i, rfl, ?_⟩
      obtain ⟨hi, hfield⟩ := getElem_of_fieldIndex hindex
      have hsame : l.fields[i] = (field, type) :=
        List.inj_on_of_nodup_map h.nodup_fieldNames (List.getElem_mem hi) hmem hfield
      simp [fieldType?, fieldTypes, hi, hsame]

end Layout

/-! ## Starting and setting -/

theorem exists_of_forall₂ {α β : Type} {R : α → β → Prop} {xs : List α} {ys : List β}
    (h : List.Forall₂ R xs ys) {y : β} (hy : y ∈ ys) : ∃ x ∈ xs, R x y := by
  obtain ⟨i, hi, rfl⟩ := List.mem_iff_getElem.mp hy
  have hx : i < xs.length := h.length_eq ▸ hi
  exact ⟨xs[i], List.getElem_mem hx, h.get hx hi⟩

theorem forall₂_of_mapM {ε α β : Type} {f : α → Except ε β} {xs : List α} {ys : List β}
    (h : xs.mapM f = .ok ys) : List.Forall₂ (fun x y ↦ f x = .ok y) xs ys := by
  induction xs generalizing ys with
  | nil =>
      obtain rfl : [] = ys := Except.ok.inj h
      exact .nil
  | cons x xs ih =>
      rw [List.mapM_cons] at h
      obtain ⟨y, hy, h⟩ := bind_eq_ok.mp h
      obtain ⟨rest, hrest, h⟩ := bind_eq_ok.mp h
      obtain rfl : y :: rest = ys := Except.ok.inj h
      exact .cons hy (ih hrest)

theorem mapM_eq_ok {ε α β : Type} {f : α → Except ε β} {xs : List α} {ys : List β} :
    xs.mapM f = .ok ys ↔ List.Forall₂ (fun x y ↦ f x = .ok y) xs ys := by
  refine ⟨forall₂_of_mapM, fun h ↦ ?_⟩
  induction h with
  | nil => rfl
  | cons hx _ ih =>
      rw [List.mapM_cons, hx, ih]
      rfl

theorem exists_of_mapM_eq_ok {ε α β : Type} {f : α → Except ε β} {xs : List α} {ys : List β}
    (h : xs.mapM f = .ok ys) {y : β} (hy : y ∈ ys) : ∃ x, f x = .ok y := by
  obtain ⟨x, -, hx⟩ := exists_of_forall₂ (forall₂_of_mapM h) hy
  exact ⟨x, hx⟩

theorem getElem?_of_mapM {ε α β : Type} {f : α → Except ε β} {xs : List α} {ys : List β}
    (h : xs.mapM f = .ok ys) {i : Nat} {x : α} {y : β} (hx : xs[i]? = some x)
    (hy : ys[i]? = some y) : f x = .ok y := by
  obtain ⟨hi, rfl⟩ := List.getElem?_eq_some_iff.mp hx
  obtain ⟨hi', rfl⟩ := List.getElem?_eq_some_iff.mp hy
  exact (forall₂_of_mapM h).get hi hi'

theorem map_eq_ok {ε α β : Type} {x : Except ε α} {f : α → β} {b : β} :
    x.map f = .ok b ↔ ∃ a, x = .ok a ∧ f a = b := by
  cases x <;> simp [Except.map]

theorem Error.ofArgument_eq_ok {α : Type} {x : Except ArgumentFault α} {a : α} :
    ofArgument x = .ok a ↔ x = .ok a := by
  cases x <;> simp [ofArgument]

theorem Registry.newDraft_eq_ok {r : Registry} {typeName : String} {key : Key} {d : Draft}
    (h : r.newDraft typeName key = .ok d) :
    ∃ l, r.get? typeName = some l ∧ d = .empty l key := by
  obtain ⟨l, hl, h⟩ := bind_eq_ok.mp h
  obtain ⟨_, -, h⟩ := bind_eq_ok.mp h
  have hregistered : r.get? typeName = some l := by
    have hrequired := Error.ofArgument_eq_ok.mp hl
    unfold require at hrequired
    split at hrequired
    · next l' hl' =>
      obtain rfl : l' = l := Except.ok.inj hrequired
      exact hl'
    · cases hrequired
  exact ⟨l, hregistered, (Except.ok.inj h).symm⟩

theorem Registry.newDraft_eq_empty {r : Registry} {typeName : String} {key : Key} {l : Layout}
    {d : Draft} (hl : r.get? typeName = some l) (h : r.newDraft typeName key = .ok d) :
    d = .empty l key := by
  obtain ⟨l', hl', hd⟩ := newDraft_eq_ok h
  obtain rfl : l' = l := Option.some.inj (hl'.symm.trans hl)
  exact hd

theorem Record.template_eq_ok {r : Record} {key : Key} {d : Draft} (h : r.template key = .ok d) :
    d = ⟨r.layout, key, r.values, false⟩ := by
  obtain ⟨_, -, h⟩ := bind_eq_ok.mp h
  exact (Except.ok.inj h).symm

namespace Draft

variable {d d' : Draft}

theorem set_eq_ok {field : String} {v : Value} (h : d.set field v = .ok d') :
    ∃ values, d' = { d with values := values } := by
  unfold set at h
  split at h
  · cases h
  · split at h
    · cases h
    · obtain ⟨index, -, h⟩ := bind_eq_ok.mp h
      split at h
      · cases h
      · split at h
        · exact ⟨_, (Except.ok.inj h).symm⟩
        · cases h

/-- Setting a field of an unfinished draft is converting the value and putting it in its place. -/
theorem set_of_fieldIndex {field : String} {i : Nat} {type : FieldType}
    (hopen : d.finalized = false) (hkey : field ≠ d.layout.keyColumn)
    (hindex : d.layout.fieldIndex field = .ok i) (htype : d.layout.fieldType? i = some type)
    (v : Value) :
    d.set field v = match v.coerceTo type with
      | some w => .ok { d with values := d.values.set i w }
      | none => .error (.typeMismatch field type.name v.fieldType.name) := by
  unfold set
  rw [if_neg (by simp [hopen]), if_neg hkey, hindex]
  simp only [Error.ofArgument, bind, Except.bind, htype]
  cases v.coerceTo type <;> rfl

theorem call_eq_ok {setter : String} {v : Value} (h : d.call setter v = .ok d') :
    ∃ field, d.set field v = .ok d' := by
  unfold call at h
  split at h
  · next field _ => exact ⟨field, h⟩
  · cases h

theorem build_eq_ok {r : Record} (h : d.build = .ok (r, d')) :
    r = ⟨d.layout, d.key, d.values⟩ ∧ d' = { d with finalized := true } := by
  unfold build at h
  split at h
  · cases h
  · cases h
    exact ⟨rfl, rfl⟩

end Draft

/-! ## What is obtained -/

mutual

/-- The drafts that any chain of operations leads to, whether they succeed or fail. -/
inductive Draft.Obtained : Draft → Prop
  | newDraft {registry : Registry} {typeName : String} {key : Key} {d : Draft} :
    registry.Reachable → registry.newDraft typeName key = .ok d → Draft.Obtained d
  | newDraftWith {registry : Registry} {typeName : String} {key : Key}
    {settings : List (String × Value)} {d : Draft} : registry.Reachable →
    registry.newDraftWith typeName key settings = .ok d → Draft.Obtained d
  | newDrafts {registry : Registry} {typeName : String} {keys : List Key} {ds : List Draft}
    {d : Draft} : registry.Reachable → registry.newDrafts typeName keys = .ok ds → d ∈ ds →
    Draft.Obtained d
  | template {r : Record} {key : Key} {d : Draft} : Record.Obtained r → r.template key = .ok d →
    Draft.Obtained d
  | templates {r : Record} {keys : List Key} {ds : List Draft} {d : Draft} : Record.Obtained r →
    r.templates keys = .ok ds → d ∈ ds → Draft.Obtained d
  | modify {r : Record} : Record.Obtained r → Draft.Obtained r.modify
  | set {d : Draft} (field : String) (v : Value) : Draft.Obtained d →
    Draft.Obtained ((Drafting.set field v).after d)
  | call {d : Draft} (setter : String) (v : Value) : Draft.Obtained d →
    Draft.Obtained ((Drafting.call setter v).after d)
  | build {d : Draft} : Draft.Obtained d → Draft.Obtained (Drafting.build.after d)

/-- The records that drafts and rows become. -/
inductive Record.Obtained : Record → Prop
  | draft {d d' : Draft} {r : Record} : Draft.Obtained d → Drafting.build.run d = .ok r d' →
    Record.Obtained r
  | row {t : RecordType} {l : Layout} {row : List Value} {r : Record} :
    Layout.resolve t = .ok l → Record.ofRow l row = .ok r → Record.Obtained r

end

/-- One value of the declared type for each field of a sound layout. -/
structure Layout.Filled (l : Layout) (values : List Value) : Prop where
  sound : l.Sound
  types : values.map Value.fieldType = l.fieldTypes

namespace Draft

variable {d d' : Draft}

theorem filled_empty {l : Layout} (h : l.Sound) (key : Key) : l.Filled (empty l key).values :=
  ⟨h, by simp [empty, Function.comp_def, Value.fieldType]⟩

theorem filled_set {field : String} {v : Value} (h : d.set field v = .ok d')
    (hd : d.layout.Filled d.values) : d'.layout.Filled d'.values := by
  have htypes := types_set h hd.types
  obtain ⟨values, rfl⟩ := set_eq_ok h
  exact ⟨hd.sound, htypes⟩

theorem filled_setAll {settings : List (String × Value)} (h : d.setAll settings = .ok d')
    (hd : d.layout.Filled d.values) : d'.layout.Filled d'.values := by
  induction settings generalizing d with
  | nil =>
      obtain rfl : d = d' := Except.ok.inj h
      exact hd
  | cons setting settings ih =>
      obtain ⟨field, v⟩ := setting
      obtain ⟨next, hnext, hrest⟩ := bind_eq_ok.mp h
      exact ih hrest (filled_set hnext hd)

theorem filled_newDraft {registry : Registry} (hregistry : registry.Reachable) {typeName : String}
    {key : Key} (h : registry.newDraft typeName key = .ok d) : d.layout.Filled d.values := by
  obtain ⟨l, hl, rfl⟩ := Registry.newDraft_eq_ok h
  exact filled_empty (hregistry.sound.layouts hl).2 key

theorem filled_template {r : Record} {key : Key} (h : r.template key = .ok d)
    (hr : r.layout.Filled r.values) : d.layout.Filled d.values := by
  obtain rfl := Record.template_eq_ok h
  exact hr

theorem filled_after {α : Type} {x : Drafting α} {result : Except Error (α × Draft)}
    (hrun : x.run d = Drafting.inPlace d result) (hd : d.layout.Filled d.values)
    (hresult : ∀ {a d'}, result = .ok (a, d') → d'.layout.Filled d'.values) :
    (x.after d).layout.Filled (x.after d).values := by
  rcases Drafting.after_cases hrun with hsame | ⟨a, hchanged⟩
  · rw [hsame]
    exact hd
  · exact hresult hchanged

end Draft

theorem Record.layout_of_ofRow {l : Layout} {row : List Value} {r : Record}
    (h : ofRow l row = .ok r) : r.layout = l :=
  (ofRow_eq_ok.mp h).1

-- A record is filled because its draft is, and a draft because its template is: both at once, by
-- recursion on how they are obtained.
mutual

theorem Draft.Obtained.filled {d : Draft} : d.Obtained → d.layout.Filled d.values
  | .newDraft hregistry h => Draft.filled_newDraft hregistry h
  | .newDraftWith hregistry h => by
      obtain ⟨start, hstart, hset⟩ := bind_eq_ok.mp h
      exact Draft.filled_setAll hset (Draft.filled_newDraft hregistry hstart)
  | .newDrafts hregistry h hd => by
      obtain ⟨key, hkey⟩ := exists_of_mapM_eq_ok h hd
      exact Draft.filled_newDraft hregistry hkey
  | .template hr h => Draft.filled_template h hr.filled
  | .templates hr h hd => by
      obtain ⟨key, hkey⟩ := exists_of_mapM_eq_ok h hd
      exact Draft.filled_template hkey hr.filled
  | .modify hr => hr.filled
  | .set field v hd => by
      refine Draft.filled_after (Drafting.run_set field v _) hd.filled fun {_ _} h ↦ ?_
      obtain ⟨d', hset, hd'⟩ := map_eq_ok.mp h
      cases hd'
      exact Draft.filled_set hset hd.filled
  | .call setter v hd => by
      refine Draft.filled_after (Drafting.run_call setter v _) hd.filled fun {_ _} h ↦ ?_
      obtain ⟨d', hcall, hd'⟩ := map_eq_ok.mp h
      obtain ⟨field, hset⟩ := Draft.call_eq_ok hcall
      cases hd'
      exact Draft.filled_set hset hd.filled
  | .build hd => by
      refine Draft.filled_after (Drafting.run_build _) hd.filled fun {_ _} h ↦ ?_
      obtain ⟨-, rfl⟩ := Draft.build_eq_ok h
      exact hd.filled

theorem Record.Obtained.filled {r : Record} : r.Obtained → r.layout.Filled r.values
  | .draft hd h => by
      rw [Drafting.run_build, Drafting.inPlace_eq_ok] at h
      obtain ⟨rfl, -⟩ := Draft.build_eq_ok h
      exact hd.filled
  | .row hl h => by
      have haligned := Record.aligned_of_ofRow h
      have hlayout := Record.layout_of_ofRow h
      subst hlayout
      exact ⟨Layout.sound_of_resolve hl, haligned⟩

end

/-! ## Reading -/

/-- A value is read at a type: as what it holds if it is present, and as nothing if it is not. -/
def Value.ReadsBack (v : Value) (type : FieldType) (plain : Except Error type.Contents)
    (optional : Except Error (Option type.Contents)) : Prop :=
  if v.isNull then optional = .ok none
  else ∃ contents, v = ofContents type contents ∧ plain = .ok contents ∧
    optional = .ok (some contents)

/-- A name is found at a place that values and types both have, and what is read is the value there,
or the name is refused before any place is looked at. -/
inductive Layout.Looks (l : Layout) (values : List Value) :
    Except ArgumentFault Nat → Except Error Value → Prop
  | found {i : Nat} (hvalue : i < values.length) (htype : i < l.fieldTypes.length) :
    Looks l values (.ok i) (.ok values[i])
  | refused (fault : ArgumentFault) :
    Looks l values (.error fault) (.error (.illegalArgument fault))

/-- What values held under a layout, and the three ways to read them, owe to it. -/
structure Layout.Typed (l : Layout) (values : List Value) (value : String → Except Error Value)
    (get : String → (type : FieldType) → Except Error type.Contents)
    (getOption : String → (type : FieldType) → Except Error (Option type.Contents)) : Prop where
  length_values : values.length = l.fieldCount
  fieldType_values : ∀ i (hi : i < values.length), l.fieldType? i = some values[i].fieldType
  looks : ∀ field, l.Looks values (l.fieldIndex field) (value field)
  reads_back : ∀ field type, (field, type) ∈ l.fields → ∃ v, value field = .ok v ∧
    v.fieldType = type ∧ v.ReadsBack type (get field type) (getOption field type)

theorem Value.read?_ofContents (type : FieldType) (contents : type.Contents) :
    read? type (ofContents type contents) = some contents := by
  cases type <;> rfl

theorem Value.exists_ofContents {v : Value} (h : v.isNull = false) :
    ∃ contents, v = ofContents v.fieldType contents := by
  cases v with
  | null hint => cases h
  | _ => exact ⟨_, rfl⟩

theorem Value.readsBack (v : Value) (field : String) :
    v.ReadsBack v.fieldType (v.extract field v.fieldType) (v.extractOption field v.fieldType) := by
  unfold ReadsBack extractOption
  cases hnull : v.isNull with
  | true => rfl
  | false =>
      obtain ⟨contents, hcontents⟩ := exists_ofContents hnull
      have hread : read? v.fieldType v = some contents := by
        have hback := read?_ofContents v.fieldType contents
        rwa [← hcontents] at hback
      have hplain : v.extract field v.fieldType = .ok contents := by
        simp only [extract, hread]
      exact ⟨contents, hcontents, hplain, by simp [hplain, Except.map]⟩

namespace Layout.Filled

variable {l : Layout} {values : List Value}

theorem length_eq (h : l.Filled values) : values.length = l.fieldCount := by
  have hlength := congrArg List.length h.types
  simpa using hlength

theorem fieldType_eq (h : l.Filled values) (i : Nat) (hi : i < values.length) :
    l.fieldType? i = some values[i].fieldType := by
  unfold fieldType?
  rw [← h.types]
  simp [hi]

theorem looks_of_lt (h : l.Filled values) {place : Except ArgumentFault Nat}
    (hplace : ∀ i, place = .ok i → i < l.fieldCount) (absent : Error) :
    l.Looks values place (do
      let index ← Error.ofArgument place
      match values[index]? with
      | some v => pure v
      | none => throw absent) := by
  cases place with
  | error fault => exact .refused fault
  | ok i =>
      have hvalue : i < values.length := h.length_eq.symm ▸ hplace i rfl
      have htype : i < l.fieldTypes.length := by simpa using hplace i rfl
      simp only [Error.ofArgument, bind, Except.bind, List.getElem?_eq_getElem hvalue]
      exact .found hvalue htype

theorem looks_valueOf (h : l.Filled values) (field : String) :
    l.Looks values (l.fieldIndex field) (l.valueOf values field) :=
  h.looks_of_lt (fun _ ↦ lt_of_fieldIndex) _

theorem looks_valueRead (h : l.Filled values) (accessor : String) :
    l.Looks values (l.accessorIndex accessor) (l.valueRead values accessor) := by
  refine h.looks_of_lt (fun i hi ↦ ?_) _
  unfold accessorIndex at hi
  split at hi
  · exact lt_of_fieldIndex hi
  · cases hi

theorem reads_back (h : l.Filled values) {field : String} {type : FieldType}
    (hmem : (field, type) ∈ l.fields) :
    ∃ v, l.valueOf values field = .ok v ∧ v.fieldType = type := by
  obtain ⟨i, hindex, htype⟩ := h.sound.fieldIndex_of_mem hmem
  have hlooks := h.looks_valueOf field
  rw [hindex] at hlooks
  generalize hvalue : l.valueOf values field = looked at hlooks
  cases hlooks with
  | found hi _ =>
      have hdeclared := h.fieldType_eq i hi
      exact ⟨values[i], rfl, Option.some.inj (hdeclared.symm.trans htype)⟩

/-- Values that are looked up by name and then read at a type. -/
theorem typed (h : l.Filled values) : l.Typed values (l.valueOf values)
    (fun field type ↦ do Value.extract field type (← l.valueOf values field))
    (fun field type ↦ do Value.extractOption field type (← l.valueOf values field)) where
  length_values := h.length_eq
  fieldType_values := h.fieldType_eq
  looks := h.looks_valueOf
  reads_back := by
    intro field type hmem
    obtain ⟨v, hv, rfl⟩ := h.reads_back hmem
    refine ⟨v, hv, rfl, ?_⟩
    simp only [hv, bind, Except.bind]
    exact v.readsBack field

end Layout.Filled

/-- What is obtained is typed. A value that is set is converted to the type in the place of its
field and put there, and an accessor reads the key or is looked up as a field is. -/
theorem obtained_typed :
    (∀ d : Draft, d.Obtained → d.layout.Typed d.values d.value d.get d.getOption ∧
      ∀ field i v, d.finalized = false → field ≠ d.layout.keyColumn →
        d.layout.fieldIndex field = .ok i →
        ∃ (_ : i < d.values.length) (htype : i < d.layout.fieldTypes.length),
          (Drafting.set field v).run d = match v.coerceTo d.layout.fieldTypes[i] with
            | some w => .ok () { d with values := d.values.set i w }
            | none => .error
              (.typeMismatch field d.layout.fieldTypes[i].name v.fieldType.name) d) ∧
    ∀ r : Record, r.Obtained → r.layout.Typed r.values r.value r.get r.getOption ∧
      ∀ accessor, accessor = r.layout.identityAccessor ∧ r.call accessor = .ok r.key.toValue ∨
        r.layout.Looks r.values (r.layout.accessorIndex accessor) (r.call accessor) := by
  refine ⟨fun d hd ↦ ⟨hd.filled.typed, ?_⟩, fun r hr ↦ ⟨hr.filled.typed, ?_⟩⟩
  · intro field i v hopen hkey hindex
    have hplace : i < d.layout.fieldCount := Layout.lt_of_fieldIndex hindex
    have htype : i < d.layout.fieldTypes.length := by simpa using hplace
    have hdeclared : d.layout.fieldType? i = some d.layout.fieldTypes[i] :=
      List.getElem?_eq_getElem htype
    refine ⟨hd.filled.length_eq.symm ▸ hplace, htype, ?_⟩
    rw [Drafting.run_set, Draft.set_of_fieldIndex hopen hkey hindex hdeclared]
    cases v.coerceTo d.layout.fieldTypes[i] <;> rfl
  · intro accessor
    unfold Record.call
    by_cases hidentity : accessor = r.layout.identityAccessor
    · exact .inl ⟨hidentity, if_pos hidentity⟩
    · rw [if_neg hidentity]
      exact .inr (hr.filled.looks_valueRead accessor)

/-- A note whose stars are set by name, tried again with a text and then built. -/
theorem obtained_typed_note :
    let t : RecordType :=
      ⟨"Note", none, "id", .int, [⟨"getTitle", .text, false⟩, ⟨"getStars", .i32, false⟩]⟩
    let l : Layout := ⟨"Note", none, "id", .int, [("stars", .i32), ("title", .text)]⟩
    let d := (Drafting.set "stars" (.text "many")).after
      ((Drafting.call "setStars" (.i64 5)).after (.empty l (.int 1)))
    let r : Record := ⟨l, .int 1, [.i32 5, .null .text]⟩
    Layout.resolve t = .ok l ∧ d.Obtained ∧ d.finalized = false ∧ "title" ≠ d.layout.keyColumn ∧
      d.layout.fieldIndex "title" = .ok 1 ∧ d.values = [.i32 5, .null .text] ∧
      d.layout.Typed d.values d.value d.get d.getOption ∧
      (Drafting.set "title" (.text "a")).run d = .ok () ⟨l, .int 1, [.i32 5, .text "a"], false⟩ ∧
      r.Obtained ∧ r.layout.Typed r.values r.value r.get r.getOption := by
  intro t l d r
  have hresolve : Layout.resolve ⟨"Note", none, "id", .int,
      [⟨"getTitle", .text, false⟩, ⟨"getStars", .i32, false⟩]⟩
      = .ok ⟨"Note", none, "id", .int, [("stars", .i32), ("title", .text)]⟩ := rfl
  have hregistry : (Registry.empty.register t).2.Reachable := .register t .empty
  have hregistered : (Registry.empty.register t).2.get? "Note" = some l :=
    Registry.get?_register_self (t := t) rfl hresolve
  have hstart : (Registry.empty.register t).2.newDraft "Note" (.int 1)
      = .ok (.empty l (.int 1)) := by
    simp only [Registry.newDraft, Registry.require, hregistered]
    rfl
  have hd : d.Obtained := .set _ _ (.call _ _ (.newDraft hregistry hstart))
  have hr : r.Obtained := .draft hd rfl
  obtain ⟨hdrafts, hrecords⟩ := obtained_typed
  obtain ⟨htyped, hset⟩ := hdrafts d hd
  obtain ⟨_, _, hrun⟩ := hset "title" 1 (.text "a") rfl (by decide) rfl
  exact ⟨hresolve, hd, rfl, by decide, rfl, rfl, htyped, hrun, hr, (hrecords r hr).1⟩

end RecordStore
