import RecordStore.Config.Basic
import RecordStore.Proofs.Accessors

namespace RecordStore

/-!
# Types declared by their fields

A declaration may give only the names and types of the fields. Each name is then made into the
usual accessor, which has the first character in upper case after the verb, and the field is read
off this accessor with its first character in lower case. The way back does not always end at the
name that was declared, and an accessor that is the identity accessor leads to no field at all.
-/

namespace Text

/-- A character that comes back when its upper-case form gets its first character in lower case. -/
def Returns (c : Char) : Prop :=
  decapitalizeChars (upperChar c) = [c]

instance (c : Char) : Decidable (Returns c) :=
  inferInstanceAs (Decidable (decapitalizeChars (upperChar c) = [c]))

theorem mapCase_ne_nil {several : List (Nat × List Nat)} {runs : List CaseRun}
    (h : ∀ entry ∈ several, entry.2 ≠ []) (c : Char) : mapCase several runs c ≠ [] := by
  unfold mapCase
  split
  · next image himage =>
    obtain ⟨before, after, hseveral, -⟩ := List.lookup_eq_some_iff.mp himage
    have hnonempty : image ≠ [] := h (c.toNat, image) (by simp [hseveral])
    simpa using hnonempty
  · split <;> exact List.cons_ne_nil _ _

theorem upperChar_ne_nil (c : Char) : upperChar c ≠ [] :=
  mapCase_ne_nil (by decide +kernel) c

theorem decapitalizeChars_append {chars : List Char} (h : chars ≠ []) (rest : List Char) :
    decapitalizeChars (chars ++ rest) = decapitalizeChars chars ++ rest := by
  obtain ⟨first, others, rfl⟩ := List.exists_cons_of_ne_nil h
  simp [decapitalizeChars]

theorem capitalize_ne_empty {s : String} (h : s ≠ "") : capitalize s ≠ "" := by
  obtain ⟨first, rest, hchars⟩ := List.exists_cons_of_ne_nil (mt String.toList_eq_nil_iff.mp h)
  rw [Ne, ← String.toList_eq_nil_iff, toList_capitalize, hchars]
  exact List.append_ne_nil_of_left_ne_nil (upperChar_ne_nil first) rest

/-- The image of a character under a single run, which leaves all others as they are. -/
def CaseRun.apply (run : CaseRun) (c : Char) : Char :=
  ((run.image? c.toNat).map Char.ofNat).getD c

/-- Where all of a table but its first run lies beyond ASCII, this run alone changes ASCII
characters. -/
theorem mapCase_ascii {several : List (Nat × List Nat)} {run : CaseRun} {runs : List CaseRun}
    (hseveral : ∀ entry ∈ several, 128 ≤ entry.1) (hruns : ∀ other ∈ runs, 128 ≤ other.first)
    {c : Char} (hc : c.toNat < 128) : mapCase several (run :: runs) c = [run.apply c] := by
  have hlookup : several.lookup c.toNat = none := by
    refine List.lookup_eq_none_iff.mpr fun entry hentry ↦ ?_
    have hbound := hseveral entry hentry
    simp only [bne_iff_ne]
    omega
  have hnone : runs.findSome? (·.image? c.toNat) = none := by
    refine List.findSome?_eq_none_iff.mpr fun other hother ↦ if_neg ?_
    have hbound := hruns other hother
    simp only [Bool.and_eq_true, decide_eq_true_eq]
    omega
  unfold mapCase CaseRun.apply
  rw [hlookup, List.findSome?_cons, hnone]
  cases run.image? c.toNat <;> rfl

/-- The run of the letters `a` to `z`. -/
def smallLetters : CaseRun :=
  ⟨0x61, 0x7a, 1, -32⟩

/-- The run of the letters `A` to `Z`. -/
def capitalLetters : CaseRun :=
  ⟨0x41, 0x5a, 1, 32⟩

theorem upperChar_ascii {c : Char} (h : c.toNat < 128) : upperChar c = [smallLetters.apply c] :=
  mapCase_ascii (by decide +kernel) (by decide +kernel) h

theorem lowerChar_ascii {c : Char} (h : c.toNat < 128) : lowerChar c = [capitalLetters.apply c] :=
  mapCase_ascii (by decide +kernel) (by decide +kernel) h

/-- Of the ASCII characters exactly the capital letters do not come back. -/
theorem returns_ascii {c : Char} (h : c.toNat < 128) : Returns c ↔ c.isUpper = false := by
  have hall : ∀ n < 128, (smallLetters.apply (Char.ofNat n)).toNat < 128 ∧
      (capitalLetters.apply (smallLetters.apply (Char.ofNat n)) = Char.ofNat n ↔
        (Char.ofNat n).isUpper = false) := by
    decide +kernel
  obtain ⟨hsmall, hback⟩ := hall c.toNat h
  rw [Char.ofNat_toNat] at hsmall hback
  rw [Returns, upperChar_ascii h, decapitalizeChars, lowerChar_ascii hsmall, ← hback]
  simp

end Text

/-! ## From a name to its accessor and back -/

namespace Layout

/-- The field that a declared name leads to by way of its usual accessor. -/
def fieldDeclared (name : String) : String :=
  fieldOf (Text.capitalize name)

variable {name : String}

/-- Only the first character decides whether a name comes back. -/
theorem fieldDeclared_eq_self_iff {first : Char} {rest : List Char}
    (hname : name.toList = first :: rest) : fieldDeclared name = name ↔ Text.Returns first := by
  rw [fieldDeclared, fieldOf, Text.toList_capitalize, hname, Text.capitalizeChars,
    Text.decapitalizeChars_append (Text.upperChar_ne_nil first), ← String.toList_inj,
    String.toList_ofList, hname, ← List.singleton_append, List.append_left_inj]
  rfl

end Layout

namespace Accessor

variable {name field : String} {type type' : FieldType}

theorem name_ofField_eq_iff {key : String} :
    (ofField name type).name = "get" ++ key ↔ type ≠ .bool ∧ Text.capitalize name = key := by
  unfold ofField
  by_cases hbool : type = .bool
  · simp only [if_pos hbool]
    refine iff_of_false (fun h ↦ ?_) fun h ↦ h.1 hbool
    have hchars := congrArg String.toList h
    simp at hchars
  · simp only [if_neg hbool]
    rw [← String.toList_inj, String.toList_append, String.toList_append, List.append_cancel_left_eq,
      String.toList_inj]
    exact (and_iff_right hbool).symm

theorem names_ofField_iff :
    Names (ofField name type).name field ↔ name ≠ "" ∧ field = Layout.fieldDeclared name := by
  have hverb : (if type = .bool then "is" else "get") ∈ ["get", "is"] := by
    split <;> decide
  have hempty : Text.capitalize name ≠ "" ↔ name ≠ "" := by
    refine ⟨?_, Text.capitalize_ne_empty⟩
    rintro h rfl
    exact h rfl
  exact (names_append_iff hverb).trans (and_congr_left' hempty)

end Accessor

namespace DeclaredType

variable {t : DeclaredType} {name field : String} {type type' : FieldType}

/-- A declared name leads to a field if its usual accessor names one and is not the identity
accessor. -/
structure Yields (t : DeclaredType) (name : String) (type : FieldType) (field : String) :
    Prop where
  nonempty : name ≠ ""
  not_identity : type = .bool ∨ Text.capitalize name ≠ Text.capitalize t.keyColumn
  field_eq : field = Layout.fieldDeclared name

theorem shows_ofField_iff : (Accessor.ofField name type).Shows t.toRecordType field type' ↔
    t.Yields name type field ∧ type = type' := by
  have hidentity : (Accessor.ofField name type).name ≠ t.toRecordType.identityAccessor ↔
      type = .bool ∨ Text.capitalize name ≠ Text.capitalize t.keyColumn := by
    rw [Ne, RecordType.identityAccessor, Accessor.name_ofField_eq_iff, not_and_or, not_not]
    rfl
  constructor
  · rintro ⟨-, hother, hnamed, hreturns⟩
    obtain ⟨hnonempty, hfield⟩ := Accessor.names_ofField_iff.mp hnamed
    exact ⟨⟨hnonempty, hidentity.mp hother, hfield⟩, hreturns⟩
  · rintro ⟨⟨hnonempty, hother, hfield⟩, htype⟩
    exact ⟨rfl, hidentity.mpr hother, Accessor.names_ofField_iff.mpr ⟨hnonempty, hfield⟩, htype⟩

theorem mem_accessors_iff (h : t.accessors = []) {a : Accessor} :
    a ∈ t.toRecordType.accessors ↔
      ∃ name type, (name, type) ∈ t.fields ∧ Accessor.ofField name type = a := by
  simp [toRecordType, h]

theorem declares_iff (h : t.accessors = []) : t.toRecordType.Declares field type ↔
    ∃ name, (name, type) ∈ t.fields ∧ t.Yields name type field := by
  constructor
  · rintro ⟨a, ha, hshows⟩
    obtain ⟨name, declared, hmem, rfl⟩ := (mem_accessors_iff h).mp ha
    obtain ⟨hyields, rfl⟩ := shows_ofField_iff.mp hshows
    exact ⟨name, hmem, hyields⟩
  · rintro ⟨name, hmem, hyields⟩
    have hdeclared := (mem_accessors_iff h).mpr ⟨name, type, hmem, rfl⟩
    exact ⟨Accessor.ofField name type, hdeclared, shows_ofField_iff.mpr ⟨hyields, rfl⟩⟩

theorem yields_self_iff : t.Yields name type name ↔ (∃ first rest, name.toList = first :: rest ∧
    Text.Returns first) ∧ (type = .bool ∨ Text.capitalize name ≠ Text.capitalize t.keyColumn) := by
  constructor
  · rintro ⟨hnonempty, hother, hfield⟩
    obtain ⟨first, rest, hchars⟩ := List.exists_cons_of_ne_nil
      (mt String.toList_eq_nil_iff.mp hnonempty)
    exact ⟨⟨first, rest, hchars, (Layout.fieldDeclared_eq_self_iff hchars).mp hfield.symm⟩, hother⟩
  · rintro ⟨⟨first, rest, hchars, hreturns⟩, hother⟩
    refine ⟨?_, hother, ((Layout.fieldDeclared_eq_self_iff hchars).mpr hreturns).symm⟩
    rintro rfl
    cases hchars

/-- Of a type that is declared by its fields alone, the layout has the fields that the declared
names lead to, in the order of their names. They are the declared fields if every name comes back
from its usual accessor and none of these accessors is the identity accessor. Whether a name comes
back depends on its first character, which among the ASCII characters must not be a capital
letter. -/
theorem fields_of_resolve {l : Layout} (haccessors : t.accessors = [])
    (h : Layout.resolve t.toRecordType = .ok l) :
    Text.InByteOrder l.fieldNames ∧
    (∀ field type, (field, type) ∈ l.fields ↔
      ∃ name, (name, type) ∈ t.fields ∧ t.Yields name type field) ∧
    (Ordered.Ascending t.fields → (∀ name type, (name, type) ∈ t.fields → t.Yields name type name) →
      l.fields = t.fields) ∧
    (∀ name type, t.Yields name type name ↔ (∃ first rest, name.toList = first :: rest ∧
      Text.Returns first) ∧ (type = .bool ∨ Text.capitalize name ≠ Text.capitalize t.keyColumn)) ∧
    ∀ first : Char, first.toNat < 128 → (Text.Returns first ↔ first.isUpper = false) := by
  obtain ⟨-, hcarries⟩ := Layout.resolve_eq_ok_iff.mp h
  have hmem (field : String) (type : FieldType) : (field, type) ∈ l.fields ↔
      ∃ name, (name, type) ∈ t.fields ∧ t.Yields name type field :=
    hcarries.fields.mem_iff.trans (declares_iff haccessors)
  refine ⟨Text.inByteOrder_iff.mpr hcarries.fields.ascending, hmem, fun hascending hall ↦ ?_,
    fun name type ↦ yields_self_iff, fun first ↦ Text.returns_ascii⟩
  refine hcarries.fields.ascending.ext hascending fun entry ↦ ?_
  obtain ⟨field, type⟩ := entry
  rw [hmem]
  constructor
  · rintro ⟨name, hname, hyields⟩
    rw [hyields.field_eq, ← (hall name type hname).field_eq]
    exact hname
  · intro hfield
    exact ⟨field, hfield, hall field type hfield⟩

/-- The accessor of `sum` is also that of a name with a long `s`, and the accessor of `id` is the
identity accessor, while a note with an age and a state keeps both. -/
theorem fields_of_resolve_note :
    let torn : DeclaredType := ⟨"Note", none, "Id", .int, [],
      [("id", .text), ("sum", .text), ("ßeta", .text), ("ſum", .text)]⟩
    let found : Layout := ⟨"Note", none, "Id", .int, [("sSeta", .text), ("sum", .text)]⟩
    let t : DeclaredType := ⟨"Note", none, "id", .int, [], [("age", .i32), ("état", .bool)]⟩
    let l : Layout := ⟨"Note", none, "id", .int, [("age", .i32), ("état", .bool)]⟩
    torn.accessors = [] ∧ Layout.resolve torn.toRecordType = .ok found ∧
      Text.InByteOrder found.fieldNames ∧
      (∃ name, (name, .text) ∈ torn.fields ∧ torn.Yields name .text "sSeta") ∧
      (¬∃ name, (name, .text) ∈ torn.fields ∧ torn.Yields name .text "id") ∧
      t.accessors = [] ∧ Layout.resolve t.toRecordType = .ok l ∧ Ordered.Ascending t.fields ∧
      t.Yields "état" .bool "état" ∧ l.fields = t.fields := by
  intro torn found t l
  have hfound : Layout.resolve torn.toRecordType = .ok found := by decide +kernel
  have hl : Layout.resolve t.toRecordType = .ok l := by decide +kernel
  obtain ⟨horder, hmem, -, -, -⟩ := fields_of_resolve rfl hfound
  obtain ⟨-, -, hkept, hself, hascii⟩ := fields_of_resolve rfl hl
  have hage : t.Yields "age" .i32 "age" := by
    refine (hself _ _).mpr ⟨⟨'a', ['g', 'e'], rfl, (hascii 'a' (by decide)).mpr (by decide)⟩, ?_⟩
    exact .inr (by decide +kernel)
  have hétat : t.Yields "état" .bool "état" :=
    (hself _ _).mpr ⟨⟨'é', ['t', 'a', 't'], rfl, by decide +kernel⟩, .inl rfl⟩
  have hascending : Ordered.Ascending t.fields := by
    unfold Ordered.Ascending
    decide +kernel
  refine ⟨rfl, hfound, horder, (hmem _ _).mp (by decide), ?_, rfl, hl, hascending, hétat,
    hkept hascending ?_⟩
  · rw [← hmem]
    decide
  · intro name type hname
    rcases List.mem_pair.mp hname with hpair | hpair
    · cases hpair
      exact hage
    · cases hpair
      exact hétat

/-- A declared field may be renamed, merged with another one or left out. -/
theorem not_all_declared_kept : ¬∀ (t : DeclaredType) (l : Layout), t.accessors = [] →
    Ordered.Ascending t.fields → Layout.resolve t.toRecordType = .ok l → l.fields = t.fields := by
  intro h
  let fields : List (String × FieldType) :=
    [("id", .text), ("sum", .text), ("ßeta", .text), ("ſum", .text)]
  have hascending : Ordered.Ascending fields := by
    unfold Ordered.Ascending
    decide +kernel
  have hkept := h ⟨"Note", none, "Id", .int, [], fields⟩
    ⟨"Note", none, "Id", .int, [("sSeta", .text), ("sum", .text)]⟩ rfl hascending
    (by decide +kernel)
  exact absurd hkept (by decide)

end DeclaredType

end RecordStore
