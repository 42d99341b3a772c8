import RecordStore.Proofs.LifeCycle
import RecordStore.Proofs.Resolution

namespace RecordStore

/-!
# Accessors and their setters

The setter that goes with an accessor has the same name after another verb, and all verbs lead to
the same field. So what a setter takes is what its accessor reads, in the place that the layout
gives to the field, while every accessor of another field and the identity accessor read on as
before.
-/

/-! ## One field for all verbs -/

namespace Layout

variable {l : Layout} {name suffix verb field : String} {i : Nat}

/-- The field that is left of a name without its verb. -/
def fieldOf (suffix : String) : String :=
  String.ofList (Text.decapitalizeChars suffix.toList)

theorem fieldNameOf?_append (hverb : verb ∈ verbs) (hsuffix : suffix ≠ "") :
    fieldNameOf? (verb ++ suffix) = some (fieldOf suffix) := by
  unfold fieldNameOf? fieldOf
  rw [String.toList_append, afterVerb?_append hverb]
  cases hchars : suffix.toList with
  | nil => exact absurd (String.toList_eq_nil_iff.mp hchars) hsuffix
  | cons first rest => rfl

theorem accessorIndex_of_field (h : fieldNameOf? name = some field) :
    l.accessorIndex name = l.fieldIndex field := by
  unfold accessorIndex
  rw [h]

/-- A name that is found at the place of a field leads to that field. -/
theorem fieldNameOf?_of_accessorIndex (hfield : l.fieldIndex field = .ok i)
    (h : l.accessorIndex name = .ok i) : fieldNameOf? name = some field := by
  unfold accessorIndex at h
  split at h
  · next field' hname =>
    obtain ⟨hi, hfirst⟩ := getElem_of_fieldIndex hfield
    obtain ⟨hi', hsecond⟩ := getElem_of_fieldIndex h
    rw [hname, ← hfirst, ← hsecond]
  · cases h

end Layout

theorem Draft.setterField?_set {suffix : String} (h : suffix ≠ "") :
    setterField? ("set" ++ suffix) = some (Layout.fieldOf suffix) := by
  have hstarts : Layout.startsWith "set" ("set" ++ suffix) = true :=
    Layout.startsWith_iff.mpr ⟨suffix.toList, String.toList_append⟩
  rw [setterField?, if_pos hstarts, Layout.fieldNameOf?_append (by decide) h]

/-! ## Reading by accessor -/

namespace Layout

variable {l : Layout} {values : List Value} {accessor field : String} {i : Nat} {v : Value}

theorem valueRead_of_accessorIndex (hi : l.accessorIndex accessor = .ok i)
    (hv : values[i]? = some v) : l.valueRead values accessor = .ok v := by
  simp only [valueRead, hi, Error.ofArgument, bind, Except.bind, hv]
  rfl

theorem valueOf_of_fieldIndex (hi : l.fieldIndex field = .ok i) (hv : values[i]? = some v) :
    l.valueOf values field = .ok v := by
  simp only [valueOf, hi, Error.ofArgument, bind, Except.bind, hv]
  rfl

/-- A value in another place is not looked at. -/
theorem valueRead_set_ne (h : l.accessorIndex accessor ≠ .ok i) (w : Value) :
    l.valueRead (values.set i w) accessor = l.valueRead values accessor := by
  unfold valueRead
  cases hindex : l.accessorIndex accessor with
  | error fault => rfl
  | ok j =>
      have hne : i ≠ j := by
        rintro rfl
        exact h hindex
      simp only [Error.ofArgument, bind, Except.bind, List.getElem?_set_ne hne]

/-- A field in its place, with its type, apart from the key. -/
structure Places (l : Layout) (field : String) (type : FieldType) (i : Nat) : Prop where
  index : l.fieldIndex field = .ok i
  type : l.fieldType? i = some type
  name : l.fieldNames[i]? = some field
  not_key : field ≠ l.keyColumn

theorem Sound.places {type : FieldType} (h : l.Sound) (hmem : (field, type) ∈ l.fields) :
    ∃ i, l.Places field type i := by
  obtain ⟨i, hindex, htype⟩ := h.fieldIndex_of_mem hmem
  obtain ⟨hi, hfield⟩ := getElem_of_fieldIndex hindex
  refine ⟨i, hindex, htype, ?_, ?_⟩
  · simp [fieldNames, hi, hfield]
  · rintro rfl
    exact h.key_not_field (mem_fieldNames hmem)

end Layout

@[simp] theorem Record.call_identityAccessor (r : Record) :
    r.call r.layout.identityAccessor = .ok r.key.toValue :=
  if_pos rfl

/-! ## Setting by setter -/

namespace Drafting

variable {d : Draft} {suffix : String} {type : FieldType} {i : Nat}

/-- A setter converts the value to the type of its field and puts it in the place of the field. -/
theorem run_call_set (hopen : d.finalized = false) (hsuffix : suffix ≠ "")
    (hplaces : d.layout.Places (Layout.fieldOf suffix) type i) (v : Value) :
    (call ("set" ++ suffix) v).run d = match v.coerceTo type with
      | some w => .ok () { d with values := d.values.set i w }
      | none => .error (.typeMismatch (Layout.fieldOf suffix) type.name v.fieldType.name) d := by
  have hcall : d.call ("set" ++ suffix) v = d.set (Layout.fieldOf suffix) v := by
    simp only [Draft.call, Draft.setterField?_set hsuffix]
  rw [run_call, hcall, Draft.set_of_fieldIndex hopen hplaces.not_key hplaces.index hplaces.type]
  cases v.coerceTo type <;> rfl

theorem run_build_of_open (hopen : d.finalized = false) :
    build.run d = .ok ⟨d.layout, d.key, d.values⟩ { d with finalized := true } := by
  rw [run_build, Draft.build, if_neg (by simp [hopen])]
  rfl

/-- The record after a successful setter, and the one that there would have been without it. -/
theorem call_set_build (hopen : d.finalized = false) (hsuffix : suffix ≠ "")
    (hplaces : d.layout.Places (Layout.fieldOf suffix) type i) (hi : i < d.values.length)
    {v w : Value} (hw : v.coerceTo type = some w) :
    ∃ d' r e r₀ e₀, (call ("set" ++ suffix) v).run d = .ok () d' ∧ build.run d' = .ok r e ∧
      build.run d = .ok r₀ e₀ ∧ r.layout = d.layout ∧ r₀.layout = d.layout ∧
      r.key = d.key ∧ r₀.key = d.key ∧ r.values[i]? = some w ∧
      ∀ accessor, d.layout.accessorIndex accessor ≠ .ok i → r.call accessor = r₀.call accessor := by
  have hrun := run_call_set hopen hsuffix hplaces v
  rw [hw] at hrun
  refine ⟨_, _, _, _, _, hrun, run_build_of_open hopen, run_build_of_open hopen, rfl, rfl, rfl, rfl,
    List.getElem?_set_self hi, fun accessor hother ↦ ?_⟩
  simp only [Record.call, Layout.valueRead_set_ne hother]

end Drafting

/-! ## Declared accessors -/

/-- The field that a declared accessor shows has a place in the layout. -/
theorem Layout.places_of_shows {t : RecordType} {l : Layout} (h : resolve t = .ok l)
    {a : Accessor} (ha : a ∈ t.accessors) {field : String} {type : FieldType}
    (hshows : a.Shows t field type) : ∃ i, l.Places field type i := by
  obtain ⟨-, hcarries⟩ := resolve_eq_ok_iff.mp h
  exact (sound_of_resolve h).places (hcarries.fields.mem_iff.mpr ⟨a, ha, hshows⟩)

theorem Accessor.names_append_iff {verb suffix field : String} (hverb : verb ∈ ["get", "is"]) :
    Names (verb ++ suffix) field ↔ suffix ≠ "" ∧ field = Layout.fieldOf suffix := by
  have hstart : (Layout.startsWith "get" (verb ++ suffix) ||
      Layout.startsWith "is" (verb ++ suffix)) = true := by
    have hverb' : Layout.startsWith verb (verb ++ suffix) = true :=
      Layout.startsWith_iff.mpr ⟨suffix.toList, String.toList_append⟩
    rcases List.mem_pair.mp hverb with rfl | rfl <;> simp [hverb']
  rw [← Layout.names_iff, and_iff_right hstart]
  by_cases hsuffix : suffix = ""
  · subst hsuffix
    have hnone : Layout.fieldNameOf? (verb ++ "") = none := by
      rcases List.mem_pair.mp hverb with rfl | rfl <;> decide +kernel
    rw [hnone]
    exact iff_of_false nofun fun h ↦ h.1 rfl
  · rw [Layout.fieldNameOf?_append (Layout.mem_verbs hverb) hsuffix, Option.some.injEq,
      and_iff_right hsuffix, eq_comm]

/-- The key that a draft began with is the key of the record that it is built into, whatever is
tried with it before. -/
theorem Draft.Begun.key_of_acts {start d : Draft} {settings : List (String × Value)}
    (h : Begun start settings d) {acts : List Draft.Act} (hacts : .build ∉ acts) :
    ∃ r e, Drafting.build.run (Drafting.acts acts d).2 = .ok r e ∧ r.layout = d.layout ∧
      r.key = start.key := by
  obtain ⟨⟨o, -, hleft, -⟩, hlayout, -, -, hmark, -⟩ := acts_overlay h acts
  have hopen : (Drafting.acts acts d).2.finalized = false := by
    rw [← Bool.not_eq_true, hmark]
    exact hacts
  refine ⟨_, _, Drafting.run_build_of_open hopen, hlayout, ?_⟩
  rw [hleft]
  rfl

/-- A declared accessor `get…` or `is…` other than the identity accessor has a place of the type it
returns. The setter with the same rest of the name takes exactly the values that convert to this
type, and then the accessor and the field of that place read the converted value, while accessors of
other fields and the identity accessor read what they would have read. The identity accessor always
reads the key that the draft was begun with. -/
theorem accessor_reads_set {t : RecordType} {l : Layout} (hl : Layout.resolve t = .ok l)
    {a : Accessor} (ha : a ∈ t.accessors) (hstatic : a.isStatic = false)
    (hidentity : a.name ≠ t.identityAccessor) {verb suffix : String}
    (hverb : verb ∈ ["get", "is"]) (hname : a.name = verb ++ suffix)
    (hsuffix : suffix ≠ "") :
    (∃ i field, l.accessorIndex a.name = .ok i ∧ l.fieldType? i = some a.returns ∧
      l.fieldNames[i]? = some field ∧
      ∀ d : Draft, d.Obtained → d.layout = l → d.finalized = false → ∀ v : Value,
        ((∃ d', (Drafting.call ("set" ++ suffix) v).run d = .ok () d') ↔
          ∃ w, v.coerceTo a.returns = some w) ∧
        ∀ w, v.coerceTo a.returns = some w → ∃ d' r e r₀ e₀,
          (Drafting.call ("set" ++ suffix) v).run d = .ok () d' ∧
          Drafting.build.run d' = .ok r e ∧ Drafting.build.run d = .ok r₀ e₀ ∧
          r.call a.name = .ok w ∧ r.value field = .ok w ∧
          (∀ name, Layout.fieldNameOf? name ≠ Layout.fieldNameOf? a.name →
            r.call name = r₀.call name) ∧
          r.call t.identityAccessor = r₀.call t.identityAccessor) ∧
    ∀ start settings d, Draft.Begun start settings d → d.layout = l → ∀ acts, .build ∉ acts →
      ∃ r e, Drafting.build.run (Drafting.acts acts d).2 = .ok r e ∧
        r.call t.identityAccessor = .ok start.key.toValue := by
  have hfield : Layout.fieldNameOf? a.name = some (Layout.fieldOf suffix) := by
    rw [hname, Layout.fieldNameOf?_append (Layout.mem_verbs hverb) hsuffix]
  obtain ⟨-, hcarries⟩ := Layout.resolve_eq_ok_iff.mp hl
  have hsame : t.identityAccessor = l.identityAccessor := by
    rw [Layout.identityAccessor, hcarries.keyColumn, RecordType.identityAccessor]
  have hshows : a.Shows t (Layout.fieldOf suffix) a.returns := by
    refine ⟨hstatic, hidentity, ?_, rfl⟩
    rw [hname]
    exact (Accessor.names_append_iff hverb).mpr ⟨hsuffix, rfl⟩
  obtain ⟨i, hplaces⟩ := Layout.places_of_shows hl ha hshows
  have hindex : l.accessorIndex a.name = .ok i := by
    rw [Layout.accessorIndex_of_field hfield, hplaces.index]
  refine ⟨⟨i, _, hindex, hplaces.type, hplaces.name, ?_⟩, ?_⟩
  · rintro d hd rfl hopen v
    have hi : i < d.values.length := hd.filled.length_eq ▸ Layout.lt_of_fieldIndex hplaces.index
    constructor
    · rw [Drafting.run_call_set hopen hsuffix hplaces v]
      cases v.coerceTo a.returns <;> simp
    · intro w hw
      obtain ⟨d', r, e, r₀, e₀, hset, hbuild, hbuild₀, hlayout, hlayout₀, hkey, hkey₀, hvalue,
        hothers⟩ := Drafting.call_set_build hopen hsuffix hplaces hi hw
      refine ⟨d', r, e, r₀, e₀, hset, hbuild, hbuild₀, ?_, ?_, ?_, ?_⟩
      · rw [Record.call, hlayout, if_neg (hsame ▸ hidentity)]
        exact Layout.valueRead_of_accessorIndex hindex hvalue
      · rw [Record.value, hlayout]
        exact Layout.valueOf_of_fieldIndex hplaces.index hvalue
      · intro name hother
        refine hothers name fun hfound ↦ hother ?_
        rw [hfield, Layout.fieldNameOf?_of_accessorIndex hplaces.index hfound]
      · have hread : r.call t.identityAccessor = .ok r.key.toValue := by
          rw [hsame, ← hlayout, Record.call_identityAccessor]
        have hread₀ : r₀.call t.identityAccessor = .ok r₀.key.toValue := by
          rw [hsame, ← hlayout₀, Record.call_identityAccessor]
        rw [hread, hread₀, hkey, hkey₀]
  · rintro start settings d hbegun rfl acts hacts
    obtain ⟨r, e, hbuild, hlayout, hkey⟩ := hbegun.key_of_acts hacts
    refine ⟨r, e, hbuild, ?_⟩
    rw [hsame, ← hlayout, Record.call_identityAccessor, hkey]

/-- The key is called almost as a field is: `getId` reads the key and `isId` the field, which alone
has the setter. -/
theorem accessor_reads_set_near_key :
    let t : RecordType := ⟨"Note", none, "Id", .int,
      [⟨"getTitle", .text, false⟩, ⟨"isId", .bool, false⟩, ⟨"getId", .text, false⟩]⟩
    let l : Layout := ⟨"Note", none, "Id", .int, [("id", .bool), ("title", .text)]⟩
    let d : Draft := .empty l (.int 7)
    let a : Accessor := ⟨"isId", .bool, false⟩
    Layout.resolve t = .ok l ∧ a ∈ t.accessors ∧ a.isStatic = false ∧
      a.name ≠ t.identityAccessor ∧ "is" ∈ ["get", "is"] ∧ a.name = "is" ++ "Id" ∧ "Id" ≠ "" ∧
      d.Obtained ∧ d.layout = l ∧ d.finalized = false ∧ Draft.Begun d [] d ∧
      (Value.bool true).coerceTo a.returns = some (.bool true) ∧
      (∃ d' r e, (Drafting.call "setId" (.bool true)).run d = .ok () d' ∧
        Drafting.build.run d' = .ok r e ∧ r.call "isId" = .ok (.bool true) ∧
        r.value "id" = .ok (.bool true) ∧ r.call "getTitle" = .ok (.null .text)) ∧
      ∃ r e, Drafting.build.run (Drafting.acts [.set "Id" (.i64 8), .call "setId" (.bool false),
        .call "setId" (.i64 9)] d).2 = .ok r e ∧ r.call "getId" = .ok (.i64 7) := by
  intro t l d a
  have hresolve : Layout.resolve ⟨"Note", none, "Id", .int, [⟨"getTitle", .text, false⟩,
      ⟨"isId", .bool, false⟩, ⟨"getId", .text, false⟩]⟩
      = .ok ⟨"Note", none, "Id", .int, [("id", .bool), ("title", .text)]⟩ := by decide +kernel
  have ha : a ∈ t.accessors := by decide
  have hname : a.name = "is" ++ "Id" := rfl
  have hidentity : a.name ≠ t.identityAccessor := by decide +kernel
  have hregistry : (Registry.empty.register t).2.Reachable := .register t .empty
  have hregistered : (Registry.empty.register t).2.get? "Note" = some l :=
    Registry.get?_register_self (t := t) rfl hresolve
  have hstart : (Registry.empty.register t).2.newDraft "Note" (.int 7) = .ok d := by
    simp only [Registry.newDraft, Registry.require, hregistered]
    rfl
  have hd : d.Obtained := .newDraft hregistry hstart
  have hbegun : Draft.Begun d [] d := .newDraft hregistry hregistered hstart
  obtain ⟨⟨i, field, hindex, -, hfield, hsetter⟩, hkey⟩ :=
    accessor_reads_set hresolve ha rfl hidentity (by decide) hname (by decide)
  obtain ⟨-, hsets⟩ := hsetter d hd rfl rfl (.bool true)
  obtain ⟨d', r, e, r₀, e₀, hset, hbuild, hbuild₀, hread, hvalue, hothers, -⟩ :=
    hsets (.bool true) rfl
  obtain ⟨r', e', hbuild', hread'⟩ := hkey d [] d hbegun rfl
    [.set "Id" (.i64 8), .call "setId" (.bool false), .call "setId" (.i64 9)] (by simp)
  have hi : i = 0 := by
    have hfirst : l.accessorIndex "isId" = .ok 0 := by decide +kernel
    exact Except.ok.inj (hindex.symm.trans hfirst)
  have hid : field = "id" := by
    subst hi
    exact (Option.some.inj hfield).symm
  have htitle : r.call "getTitle" = .ok (.null .text) := by
    rw [hothers "getTitle" (by decide +kernel)]
    have hr₀ : r₀ = ⟨l, .int 7, [.null .bool, .null .text]⟩ := by
      have hrun : Drafting.build.run d = .ok ⟨l, .int 7, [.null .bool, .null .text]⟩ _ :=
        Drafting.run_build_of_open rfl
      cases hbuild₀.symm.trans hrun
      rfl
    have hplace : l.accessorIndex "getTitle" = .ok 1 := by decide +kernel
    rw [hr₀, Record.call, if_neg (by decide +kernel)]
    exact Layout.valueRead_of_accessorIndex hplace rfl
  have hidentityName : t.identityAccessor = "getId" := by decide +kernel
  exact ⟨hresolve, ha, rfl, hidentity, by decide, rfl, by decide, hd, rfl, rfl, hbegun, rfl,
    ⟨d', r, e, hset, hbuild, hread, hid ▸ hvalue, htitle⟩,
    r', e', hbuild', hidentityName ▸ hread'⟩

end RecordStore
