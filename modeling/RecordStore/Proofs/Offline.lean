import RecordStore.CommandLine.Run
import RecordStore.Proofs.Config.Validation
import RecordStore.Proofs.Drafts
import RecordStore.Proofs.Registry.History

namespace RecordStore

open CommandLine (Printing Workspace printTypes runCommand spellAll)

/-!
# Commands without a database

The commands that only look at a configuration resolve its types on their own, and so does the store
that is connected. Once a configuration has passed its checks none of these resolutions can fail or
differ: the store registers every declared type, and the commands print the fields and statements
that the store works with.
-/

/-! ## Registering the types of a configuration -/

namespace Registry

variable {declared types : List RecordType} {t : RecordType} {r : Registry} {l : Layout}

/-- Among types with distinct names each is the first of its name. -/
theorem firstValid_of_nodup (hnames : (types.map RecordType.name).Nodup) (ht : t ∈ types)
    (hl : Layout.resolve t = .ok l) : firstValid types t.name = some l := by
  induction types with
  | nil => cases ht
  | cons first types ih =>
      rw [List.map_cons, List.nodup_cons] at hnames
      rw [firstValid, List.findSome?_cons]
      rcases List.mem_cons.mp ht with rfl | ht
      · rw [if_pos rfl, hl]
        rfl
      · have hne : first.name ≠ t.name := by
          intro hname
          exact hnames.1 (hname ▸ List.mem_map_of_mem ht)
        rw [if_neg hne]
        exact ih hnames.2 ht

/-- Types that resolve are all registered, whatever the registry knows already. -/
theorem Remembers.registerAll (h : Remembers declared r)
    (hresolves : ∀ t ∈ types, ∃ l, Layout.resolve t = .ok l) :
    ∃ r', r.registerAll types = .ok r' ∧ Remembers (declared ++ types) r' := by
  induction types generalizing declared r with
  | nil => exact ⟨r, rfl, by rwa [List.append_nil]⟩
  | cons t types ih =>
      obtain ⟨⟨l, hl⟩, hrest⟩ := List.forall_mem_cons.mp hresolves
      obtain ⟨-, hnext⟩ := h.register (σ := Unit) t
      have hok : ∃ l', (r.register t).1 = .ok l' := by
        cases hknown : r.get? t.name with
        | some l' => exact ⟨l', by rw [register_of_get? hknown]⟩
        | none => exact ⟨l, by rw [register_of_ok hknown hl]⟩
      obtain ⟨l', hl'⟩ := hok
      obtain ⟨r', hr', hremembers⟩ := ih hnext hrest
      refine ⟨r', ?_, by rwa [List.append_assoc] at hremembers⟩
      rw [Registry.registerAll, show r.register t = (.ok l', (r.register t).2) from
        Prod.ext hl' rfl]
      exact hr'

end Registry

/-! ## What the commands print -/

/-- The places that a layout gives its fields are their places in its list. -/
theorem Layout.Sound.fieldIndex_iff {l : Layout} (h : l.Sound) (field : String) (i : Nat) :
    l.fieldIndex field = .ok i ↔ ∃ type, l.fields.zipIdx[i]? = some ((field, type), i) := by
  have hzip (entry : String × FieldType) :
      l.fields.zipIdx[i]? = some (entry, i) ↔ l.fields[i]? = some entry := by
    rw [List.getElem?_zipIdx, Nat.zero_add]
    cases l.fields[i]? <;> simp
  simp only [hzip]
  constructor
  · intro hindex
    obtain ⟨hi, hname⟩ := getElem_of_fieldIndex hindex
    refine ⟨l.fields[i].2, ?_⟩
    rw [← hname, List.getElem?_eq_getElem hi]
  · rintro ⟨type, hentry⟩
    obtain ⟨hi, hentry⟩ := List.getElem?_eq_some_iff.mp hentry
    obtain ⟨j, hindex, -⟩ := h.fieldIndex_of_mem (hentry ▸ List.getElem_mem hi)
    obtain ⟨hj, hname⟩ := getElem_of_fieldIndex hindex
    have hi' : i < l.fieldNames.length := by simpa [fieldNames] using hi
    have hj' : j < l.fieldNames.length := by simpa [fieldNames] using hj
    have hsame : l.fieldNames[j] = l.fieldNames[i] := by
      simp [fieldNames, hname, hentry]
    rwa [h.nodup_fieldNames.getElem_inj_iff.mp hsame] at hindex

/-- The texts of statements in turn, with their names, up to the first that is refused. A statement
that a layout has no use for is left out. -/
def Statement.textsOf (spell : Statement → Except ArgumentFault (Option String)) :
    List Statement → List (String × String) × Except Error Unit
  | [] => ([], .ok ())
  | s :: rest =>
    match spell s with
    | .ok sql =>
      let (later, outcome) := textsOf spell rest
      ((sql.map (s.name, ·)).toList ++ later, outcome)
    | .error fault => ([], .error (.illegalArgument fault))

theorem Statement.textsOf_of_ok {spell : Statement → Except ArgumentFault (Option String)}
    {text : Statement → Option String} {statements : List Statement}
    (h : ∀ s ∈ statements, spell s = .ok (text s)) :
    textsOf spell statements
      = (statements.filterMap fun s ↦ (text s).map (s.name, ·), .ok ()) := by
  induction statements with
  | nil => rfl
  | cons s rest ih =>
      obtain ⟨hs, hrest⟩ := List.forall_mem_cons.mp h
      rw [textsOf, hs, ih hrest, List.filterMap_cons]
      cases text s <;> rfl

namespace CommandLine

/-- A line for each text, or all of them in one object. The object is only printed when it is
complete. -/
def printedTexts (json : Bool) (texts : List (String × String)) : Except Error Unit → Printing
  | .ok () => .ofLines (if json then
      [(Json.ofMembers (texts.map fun (name, sql) ↦ (name, .text sql))).pretty]
    else texts.map fun (name, sql) ↦ name ++ ": " ++ sql)
  | .error e => ⟨if json then [] else texts.map fun (name, sql) ↦ name ++ ": " ++ sql, .error e⟩

theorem spellAll_eq {b : StatementBook} (h : b.Sound) (count : UInt64)
    (statements : List Statement) :
    spellAll b count statements
      = Statement.textsOf (fun s ↦ b.layout.requested b.dialect s count) statements := by
  induction statements generalizing b with
  | nil => rfl
  | cons s rest ih =>
      have htext := StatementBook.request_fst h s count
      obtain ⟨hlayout, hdialect, hsound⟩ := StatementBook.request_snd h s count
      have hrest := ih hsound
      rw [hlayout, hdialect] at hrest
      rw [spellAll, Statement.textsOf, ← htext]
      cases hspelled : b.request s count with
      | mk outcome b' =>
          rw [hspelled] at hrest
          dsimp only at hrest ⊢
          cases outcome with
          | error fault => rfl
          | ok sql =>
              cases sql with
              | none => simp [hrest]
              | some sql => simp [hrest]

theorem printStatements_eq {b : StatementBook} (h : b.Sound) (json : Bool) (count : UInt64) :
    let texts := Statement.textsOf (fun s ↦ b.layout.requested b.dialect s count) Statement.all
    printStatements json count b = printedTexts json texts.1 texts.2 := by
  intro texts
  have htexts : spellAll b count Statement.all = texts := spellAll_eq h count Statement.all
  rw [printStatements, htexts]
  obtain ⟨found, outcome⟩ := texts
  cases outcome <;> cases json <;> rfl

/-! ### Types -/

/-- An item for each field of the layout, in the order of the places where the layout finds them. -/
structure ListsFields {α : Type} (l : Layout) (item : Nat → String → FieldType → α)
    (items : List α) : Prop where
  length : items.length = l.fieldCount
  item : ∀ i < l.fieldCount, ∃ name type, l.fieldIndex name = .ok i ∧
    l.fields[i]? = some (name, type) ∧ items[i]? = some (item i name type)

/-- The lines of a type: its name and its key, and then a line for each field. -/
def ListsType (l : Layout) (lines : List String) : Prop :=
  ∃ fieldLines, lines
      = (l.typeName ++ " (key: " ++ l.keyColumn ++ " " ++ l.keyType.tag ++ ")") :: fieldLines ∧
    ListsFields l (fun i name type ↦ "  [" ++ toString i ++ "] " ++ name ++ ": " ++ type.name)
      fieldLines

def DescribesType (l : Layout) (json : Json) : Prop :=
  ∃ fields, json = .ofMembers [("name", .text l.typeName), ("key_column", .text l.keyColumn),
      ("key_type", .text l.keyType.name), ("fields", .array fields)] ∧
    ListsFields l (fun i name type ↦
      .ofMembers [("index", .int i), ("name", .text name), ("type", .text type.name)]) fields

theorem go_of_forall₂ {types : List RecordType} {layouts : List Layout}
    (h : List.Forall₂ (fun t l ↦ Layout.resolve t = .ok l) types layouts) (done : List Layout) :
    printTypes.go done types = (done.reverse ++ layouts, .ok ()) := by
  induction h generalizing done with
  | nil => rw [printTypes.go, List.append_nil]
  | cons hl _ ih =>
      rw [printTypes.go, hl, List.append_cons, ← List.reverse_cons]
      exact ih _

theorem listsFields_zipIdx {α : Type} {l : Layout} (h : l.Sound)
    (item : Nat → String → FieldType → α) :
    ListsFields l item (l.fields.zipIdx.map fun ((name, type), i) ↦ item i name type) := by
  refine ⟨by simp [Layout.fieldCount], fun i hi ↦ ?_⟩
  obtain ⟨⟨name, type⟩, hfield⟩ : ∃ field, l.fields[i]? = some field :=
    ⟨_, List.getElem?_eq_getElem hi⟩
  have hzip : l.fields.zipIdx[i]? = some ((name, type), i) := by
    simp [List.getElem?_zipIdx, hfield]
  exact ⟨name, type, (h.fieldIndex_iff name i).mpr ⟨type, hzip⟩, hfield, by simp [hzip]⟩

theorem listsType_layoutLines {l : Layout} (h : l.Sound) : ListsType l (layoutLines l) :=
  ⟨accessorLines l, rfl, listsFields_zipIdx h _⟩

theorem describesType_layoutJson {l : Layout} (h : l.Sound) : DescribesType l (layoutJson l) :=
  ⟨_, rfl, listsFields_zipIdx h _⟩

/-- The types are printed in the order of their declaration. -/
theorem printTypes_of_forall₂ {c : Config} {layouts : List Layout}
    (h : List.Forall₂ (fun t l ↦ Layout.resolve t = .ok l) c.types layouts) :
    (∃ blocks, List.Forall₂ ListsType layouts blocks ∧
      printTypes false c = .ofLines blocks.flatten) ∧
    ∃ entries, List.Forall₂ DescribesType layouts entries ∧
      printTypes true c = .ofLines [(Json.array entries).pretty] := by
  have hsound : ∀ l ∈ layouts, l.Sound := by
    intro l hl
    obtain ⟨t, -, hresolve⟩ := exists_of_forall₂ h hl
    exact Layout.sound_of_resolve hresolve
  refine ⟨⟨layouts.map layoutLines, ?_, ?_⟩, layouts.map layoutJson, ?_, ?_⟩
  · exact List.forall₂_map_right_iff.mpr
      (List.forall₂_same.mpr fun l hl ↦ listsType_layoutLines (hsound l hl))
  · rw [printTypes, go_of_forall₂ h, ← List.flatMap_def]
    rfl
  · exact List.forall₂_map_right_iff.mpr
      (List.forall₂_same.mpr fun l hl ↦ describesType_layoutJson (hsound l hl))
  · rw [printTypes, go_of_forall₂ h]
    rfl

end CommandLine

/-! ## The connected store -/

open CommandLine (DescribesType ListsType bookOf printStatements_eq printTypes_of_forall₂ printedTexts)

theorem Config.type?_of_valid {c : Config} (h : c.Valid) {t : RecordType} (ht : t ∈ c.types) :
    c.type? t.name = some t := by
  cases hfound : c.type? t.name with
  | none =>
      have hnone := List.find?_eq_none.mp hfound t ht
      simp at hnone
  | some t' =>
      have hname : t'.name = t.name := by simpa using List.find?_some hfound
      rw [List.inj_on_of_nodup_map h.names (List.mem_of_find?_eq_some hfound) ht hname]

theorem exists_layouts {types : List RecordType}
    (h : ∀ t ∈ types, ∃ l, Layout.resolve t = .ok l) :
    ∃ layouts, List.Forall₂ (fun t l ↦ Layout.resolve t = .ok l) types layouts := by
  induction types with
  | nil => exact ⟨[], .nil⟩
  | cons t types ih =>
      obtain ⟨⟨l, hl⟩, hrest⟩ := List.forall_mem_cons.mp h
      obtain ⟨layouts, hlayouts⟩ := ih hrest
      exact ⟨l :: layouts, .cons hl hlayouts⟩

end RecordStore
