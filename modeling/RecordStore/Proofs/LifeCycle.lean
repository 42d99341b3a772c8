import RecordStore.Proofs.Drafts

namespace RecordStore

/-!
# The life of a draft

A draft behaves as the values it starts from with an overlay: for each field the value that was last
set with success, and a mark that the draft is finished. Whatever is tried with it, the outcome and
the draft that is left are those of the overlay.
-/

/-- What can be tried with a draft. -/
inductive Draft.Act
  | set (field : String) (v : Value)
  | call (setter : String) (v : Value)
  | build

/-- Only building returns something, the record. -/
abbrev Draft.Response := Except Error (Option Record)

namespace Drafting

open Draft (Act Response)

def act : Act → Drafting (Option Record)
  | .set field v => do
    set field v
    return none
  | .call setter v => do
    call setter v
    return none
  | .build => do
    let r ← build
    return some r

/-- What an act makes of a draft that is not kept anywhere. -/
def tried (d : Draft) : Act → Except Error (Option Record × Draft)
  | .set field v => (d.set field v).map fun d' ↦ (none, d')
  | .call setter v => (d.call setter v).map fun d' ↦ (none, d')
  | .build => d.build.map fun (r, d') ↦ (some r, d')

/-- One act after another, also after a failure: their outcomes and the draft that is left. -/
def acts : List Act → Draft → List Response × Draft
  | [], d => ([], d)
  | a :: rest, d =>
    match (act a).run d with
    | .ok result d' =>
      let (outcomes, left) := acts rest d'
      (.ok result :: outcomes, left)
    | .error e d' =>
      let (outcomes, left) := acts rest d'
      (.error e :: outcomes, left)

variable {d d' : Draft}

theorem run_act (a : Act) (d : Draft) : (act a).run d = inPlace d (tried d a) := by
  cases a with
  | set field v =>
      simp only [act, tried, EStateM.run_bind, run_set]
      cases d.set field v <;> rfl
  | call setter v =>
      simp only [act, tried, EStateM.run_bind, run_call]
      cases d.call setter v <;> rfl
  | build =>
      simp only [act, tried, EStateM.run_bind, run_build]
      cases d.build <;> rfl

theorem act_call {field setter : String} (h : Draft.setterField? setter = some field) (v : Value) :
    act (.call setter v) = act (.set field v) := by
  simp only [act, call, h]

/-- An act that fails leaves the draft as it was. -/
theorem unchanged_of_error {a : Act} {e : Error} (h : (act a).run d = .error e d') : d' = d := by
  rw [run_act] at h
  cases htried : tried d a with
  | error e' =>
      rw [htried] at h
      cases h
      rfl
  | ok changed =>
      rw [htried] at h
      cases h

/-- Settings that all succeed are acts that do. -/
theorem acts_settings {settings : List (String × Value)} (h : d.setAll settings = .ok d')
    (rest : List Act) : acts (settings.map (fun s ↦ .set s.1 s.2) ++ rest) d
      = (settings.map (fun _ ↦ .ok none) ++ (acts rest d').1, (acts rest d').2) := by
  induction settings generalizing d with
  | nil =>
      obtain rfl : d = d' := Except.ok.inj h
      rfl
  | cons setting settings ih =>
      obtain ⟨field, v⟩ := setting
      obtain ⟨next, hnext, hrest⟩ := bind_eq_ok.mp h
      have hset : d.set field v = .ok next := hnext
      have hrun : (act (.set field v)).run d = .ok none next := by
        rw [run_act, tried, hset]
        rfl
      simp only [List.map_cons, List.cons_append, acts, hrun, ih hrest]

end Drafting

/-! ## Overlays -/

structure Overlay where
  written : String → Option Value
  finalized : Bool

namespace Overlay

open Draft (Act Response)

def blank : Overlay :=
  ⟨fun _ ↦ none, false⟩

def write (o : Overlay) (field : String) (v : Value) : Overlay :=
  { o with written := Function.update o.written field (some v) }

/-- The value of every field: what was written last, or else what the draft has started with. -/
def values (o : Overlay) (start : Draft) : List Value :=
  List.zipWith (fun field v ↦ (o.written field).getD v) start.layout.fieldNames start.values

/-- The draft that an overlay over another one stands for. -/
def draft (o : Overlay) (start : Draft) : Draft :=
  { start with values := o.values start, finalized := o.finalized }

@[simp] theorem draft_layout (o : Overlay) (start : Draft) :
    (o.draft start).layout = start.layout := rfl

@[simp] theorem draft_key (o : Overlay) (start : Draft) : (o.draft start).key = start.key := rfl

@[simp] theorem draft_finalized (o : Overlay) (start : Draft) :
    (o.draft start).finalized = o.finalized := rfl

/-- The setter of a field is `set` and then, with its first letter made small, the field. -/
def SetterOf (field setter : String) : Prop :=
  ∃ c rest, setter.toList = 's' :: 'e' :: 't' :: c :: rest ∧
    field = String.ofList (Text.lowerChar c ++ rest)

variable (start : Draft) (o : Overlay)

/-- The outcome of setting a field, and the overlay after it. -/
inductive Sets (field : String) (v : Value) : Response → Overlay → Prop
  | accepted {type : FieldType} {w : Value} : o.finalized = false →
    field ≠ start.layout.keyColumn → (field, type) ∈ start.layout.fields →
    v.coerceTo type = some w → Sets field v (.ok none) (o.write field w)
  | finalized : o.finalized = true →
    Sets field v (.error (.illegalState (.finalized start.layout.typeName start.key))) o
  | key : o.finalized = false → field = start.layout.keyColumn →
    Sets field v (.error (.illegalArgument (.reassignedKey start.layout.typeName start.key))) o
  | unknown : o.finalized = false → field ≠ start.layout.keyColumn →
    field ∉ start.layout.fieldNames →
    Sets field v (.error (.illegalArgument (.unknownField field start.layout.typeName))) o
  | mismatched {type : FieldType} : o.finalized = false → field ≠ start.layout.keyColumn →
    (field, type) ∈ start.layout.fields → v.coerceTo type = none →
    Sets field v (.error (.typeMismatch field type.name v.fieldType.name)) o

/-- The outcome of an act, and the overlay after it. A name that is no setter is refused first. -/
inductive Does : Act → Response → Overlay → Prop
  | set {field : String} {v : Value} {outcome : Response} {o' : Overlay} :
    Sets start o field v outcome o' → Does (.set field v) outcome o'
  | call {field setter : String} {v : Value} {outcome : Response} {o' : Overlay} :
    SetterOf field setter → Sets start o field v outcome o' → Does (.call setter v) outcome o'
  | malformed {setter : String} {v : Value} : (∀ field, ¬ SetterOf field setter) →
    Does (.call setter v) (.error (.illegalArgument (.notSetter setter start.layout.typeName))) o
  | build : o.finalized = false →
    Does .build (.ok (some ⟨start.layout, start.key, o.values start⟩)) { o with finalized := true }
  | rebuild : o.finalized = true →
    Does .build (.error (.illegalState (.alreadyBuilt start.layout.typeName start.key))) o

variable {start o}

/-- The outcomes of acts one after another, and the overlay after them. -/
inductive Runs (start : Draft) : Overlay → List Act → List Response → Overlay → Prop
  | nil (o : Overlay) : Runs start o [] [] o
  | cons {o o' o'' : Overlay} {act : Act} {acts : List Act} {outcome : Response}
    {outcomes : List Response} :
    Does start o act outcome o' → Runs start o' acts outcomes o'' →
    Runs start o (act :: acts) (outcome :: outcomes) o''

theorem SetterOf.unique {field field' setter : String} (h : SetterOf field setter)
    (h' : SetterOf field' setter) : field = field' := by
  obtain ⟨c, rest, hsetter, rfl⟩ := h
  obtain ⟨c', rest', hsetter', rfl⟩ := h'
  rw [hsetter] at hsetter'
  simp only [List.cons.injEq, true_and] at hsetter'
  rw [hsetter'.1, hsetter'.2]

theorem Sets.unique (hsound : start.layout.Sound) {field : String} {v : Value}
    {outcome outcome' : Response} {o₁ o₂ : Overlay}
    (h : Sets start o field v outcome o₁) (h' : Sets start o field v outcome' o₂) :
    outcome = outcome' ∧ o₁ = o₂ := by
  cases h with
  | accepted hopen hkey hmem hw =>
      have hname := Layout.mem_fieldNames hmem
      cases h' with
      | accepted _ _ hmem' hw' =>
          obtain rfl := hsound.type_unique hmem hmem'
          obtain rfl := Option.some.inj (hw.symm.trans hw')
          exact ⟨rfl, rfl⟩
      | mismatched _ _ hmem' hw' =>
          obtain rfl := hsound.type_unique hmem hmem'
          cases hw.symm.trans hw'
      | _ => simp_all
  | finalized hclosed => cases h' <;> simp_all
  | key hopen hkey => cases h' <;> simp_all
  | unknown hopen hkey hname =>
      cases h' with
      | accepted _ _ hmem _ => exact absurd (Layout.mem_fieldNames hmem) hname
      | mismatched _ _ hmem _ => exact absurd (Layout.mem_fieldNames hmem) hname
      | _ => simp_all
  | mismatched hopen hkey hmem hw =>
      have hname := Layout.mem_fieldNames hmem
      cases h' with
      | accepted _ _ hmem' hw' =>
          obtain rfl := hsound.type_unique hmem hmem'
          cases hw.symm.trans hw'
      | mismatched _ _ hmem' _ =>
          obtain rfl := hsound.type_unique hmem hmem'
          exact ⟨rfl, rfl⟩
      | _ => simp_all

theorem Does.unique (hsound : start.layout.Sound) {act : Act}
    {outcome outcome' : Response} {o₁ o₂ : Overlay}
    (h : Does start o act outcome o₁) (h' : Does start o act outcome' o₂) :
    outcome = outcome' ∧ o₁ = o₂ := by
  cases h with
  | set hset =>
      cases h' with
      | set hset' => exact hset.unique hsound hset'
  | call hsetter hset =>
      cases h' with
      | call hsetter' hset' =>
          obtain rfl := hsetter.unique hsetter'
          exact hset.unique hsound hset'
      | malformed hnone => exact absurd hsetter (hnone _)
  | malformed hnone =>
      cases h' with
      | call hsetter' _ => exact absurd hsetter' (hnone _)
      | malformed _ => exact ⟨rfl, rfl⟩
  | build hopen =>
      cases h' with
      | build _ => exact ⟨rfl, rfl⟩
      | rebuild hclosed => simp [hopen] at hclosed
  | rebuild hclosed =>
      cases h' with
      | build hopen => simp [hopen] at hclosed
      | rebuild _ => exact ⟨rfl, rfl⟩

theorem Runs.unique (hsound : start.layout.Sound) {acts : List Act}
    {outcomes outcomes' : List Response} {o₁ o₂ : Overlay}
    (h : Runs start o acts outcomes o₁) (h' : Runs start o acts outcomes' o₂) :
    outcomes = outcomes' ∧ o₁ = o₂ := by
  induction h generalizing outcomes' with
  | nil o =>
      cases h'
      exact ⟨rfl, rfl⟩
  | cons hdoes _ ih =>
      cases h' with
      | cons hdoes' hrest' =>
          obtain ⟨rfl, rfl⟩ := hdoes.unique hsound hdoes'
          obtain ⟨rfl, rfl⟩ := ih hrest'
          exact ⟨rfl, rfl⟩

/-! ### The mark -/

theorem Sets.finalized_eq {field : String} {v : Value} {outcome : Response} {o' : Overlay}
    (h : Sets start o field v outcome o') : o'.finalized = o.finalized := by
  cases h <;> rfl

theorem Does.finalized_iff {a : Act} {outcome : Response} {o' : Overlay}
    (h : Does start o a outcome o') : o'.finalized = true ↔ o.finalized = true ∨ a = .build := by
  cases h with
  | set hset => simp [hset.finalized_eq]
  | call _ hset => simp [hset.finalized_eq]
  | malformed _ => simp
  | build _ => simp
  | rebuild hclosed => simp [hclosed]

/-- The mark is there after the first building and for good. -/
theorem Runs.finalized_iff {acts : List Act} {outcomes : List Response} {o' : Overlay}
    (h : Runs start o acts outcomes o') :
    o'.finalized = true ↔ o.finalized = true ∨ Act.build ∈ acts := by
  induction h with
  | nil o => simp
  | cons hdoes _ ih => rw [ih, hdoes.finalized_iff, List.mem_cons, or_assoc, @eq_comm _ Act.build]

/-- Under the mark whatever is well formed is refused as coming too late. -/
theorem Does.of_finalized {a : Act} {outcome : Response} {o' : Overlay}
    (h : Does start o a outcome o') (hclosed : o.finalized = true)
    (hnamed : ∀ setter v, a = .call setter v → ∃ field, SetterOf field setter) :
    o' = o ∧ ∃ fault, outcome = .error (.illegalState fault) := by
  have hsets : ∀ {field v outcome o'}, Sets start o field v outcome o' →
      o' = o ∧ ∃ fault, outcome = .error (.illegalState fault) := by
    intro field v outcome o' hset
    cases hset with
    | finalized _ => exact ⟨rfl, _, rfl⟩
    | _ => simp_all
  cases h with
  | set hset => exact hsets hset
  | call _ hset => exact hsets hset
  | malformed hnone =>
      obtain ⟨field, hfield⟩ := hnamed _ _ rfl
      exact absurd hfield (hnone field)
  | build hopen => simp [hclosed] at hopen
  | rebuild _ => exact ⟨rfl, _, rfl⟩

/-! ## A draft under its overlay -/

theorem values_blank (h : start.values.length = start.layout.fieldCount) :
    blank.values start = start.values := by
  refine List.ext_getElem (by simp [values, h]) fun i hi hi' ↦ ?_
  simp [values, blank]

theorem draft_blank (h : start.values.length = start.layout.fieldCount)
    (hopen : start.finalized = false) : blank.draft start = start := by
  have hvalues := values_blank h
  cases start
  simp_all [draft, blank]

/-- Writing a field changes the value in its place, and no other. -/
theorem values_write (hsound : start.layout.Sound) {field : String} {i : Nat}
    (hi : start.layout.fieldIndex field = .ok i) (o : Overlay) (w : Value) :
    (o.write field w).values start = (o.values start).set i w := by
  obtain ⟨hlt, hname⟩ := Layout.getElem_of_fieldIndex hi
  refine List.ext_getElem (by simp [values]) fun j hj hj' ↦ ?_
  have hj : j < start.layout.fieldNames.length := by
    simp only [values, List.length_zipWith] at hj
    omega
  have hi' : i < start.layout.fieldNames.length := by simpa [Layout.fieldCount] using hlt
  have hfield : start.layout.fieldNames[i] = field := by simpa [Layout.fieldNames] using hname
  simp only [values, write, List.getElem_zipWith, List.getElem_set]
  by_cases hplace : i = j
  · subst hplace
    simp [hfield]
  · have hother : start.layout.fieldNames[j] ≠ field := by
      intro hsame
      rw [← hfield] at hsame
      exact hplace ((List.Nodup.getElem_inj_iff hsound.nodup_fieldNames).mp hsame).symm
    simp [hplace, hother]

/-- The result of an act whose outcome and draft are known. -/
def result (outcome : Response) (d : Draft) :
    EStateM.Result Error Draft (Option Record) :=
  match outcome with
  | .ok x => .ok x d
  | .error e => .error e d

/-- Setting a field of the draft under an overlay has the outcome that the overlay says. -/
theorem sets_draft (hstart : start.layout.Filled start.values) (o : Overlay) (field : String)
    (v : Value) : ∃ outcome o', Sets start o field v outcome o' ∧
      (Drafting.act (.set field v)).run (o.draft start) = result outcome (o'.draft start) := by
  rw [Drafting.run_act, Drafting.tried]
  -- one case for each rule, in the order in which the checks are made
  by_cases hclosed : o.finalized = true
  · refine ⟨_, o, .finalized hclosed, ?_⟩
    rw [Draft.set, draft_finalized, if_pos hclosed]
    rfl
  have hopen : o.finalized = false := by simpa using hclosed
  by_cases hkey : field = start.layout.keyColumn
  · refine ⟨_, o, .key hopen hkey, ?_⟩
    rw [Draft.set, draft_finalized, if_neg hclosed, draft_layout, if_pos hkey]
    rfl
  cases hindex : start.layout.fieldIndex field with
  | error fault =>
      obtain ⟨hname, rfl⟩ := Layout.fieldIndex_eq_error hindex
      refine ⟨_, o, .unknown hopen hkey hname, ?_⟩
      rw [Draft.set, draft_finalized, if_neg hclosed, draft_layout, if_neg hkey, hindex]
      rfl
  | ok i =>
      obtain ⟨hi, hname⟩ := Layout.getElem_of_fieldIndex hindex
      have hmem : (field, start.layout.fields[i].2) ∈ start.layout.fields := by
        rw [← hname]
        exact List.getElem_mem hi
      have htype : start.layout.fieldType? i = some start.layout.fields[i].2 := by
        simp [Layout.fieldType?, Layout.fieldTypes, hi]
      rw [Draft.set_of_fieldIndex (d := o.draft start) hopen hkey hindex htype v]
      cases hw : v.coerceTo start.layout.fields[i].2 with
      | none => exact ⟨_, o, .mismatched hopen hkey hmem hw, rfl⟩
      | some w =>
          refine ⟨_, o.write field w, .accepted hopen hkey hmem hw, ?_⟩
          simp only [Except.map, Drafting.inPlace, result, draft, values_write hstart.sound hindex]
          rfl

theorem setterField?_eq_some {field setter : String} :
    Draft.setterField? setter = some field ↔ SetterOf field setter := by
  unfold Draft.setterField?
  split
  · next hset =>
    obtain ⟨suffix, hsuffix⟩ := List.isPrefixOf_iff_prefix.mp hset
    have hname : setter.toList = 's' :: 'e' :: 't' :: suffix := hsuffix.symm
    have hafter : Layout.afterVerb? ('s' :: 'e' :: 't' :: suffix) = some suffix := rfl
    unfold Layout.fieldNameOf? SetterOf
    rw [hname, hafter]
    cases suffix with
    | nil => simp
    | cons c rest =>
        constructor
        · intro h
          exact ⟨c, rest, rfl, (Option.some.inj h).symm⟩
        · rintro ⟨c', rest', hsame, rfl⟩
          simp only [List.cons.injEq, true_and] at hsame
          rw [hsame.1, hsame.2]
          rfl
  · next hset =>
    refine iff_of_false nofun ?_
    rintro ⟨c, rest, hname, -⟩
    apply hset
    unfold Layout.startsWith
    rw [hname]
    rfl

/-- Every act on the draft under an overlay has the outcome that the overlay says. -/
theorem does_draft (hstart : start.layout.Filled start.values) (o : Overlay) (a : Act) :
    ∃ outcome o', Does start o a outcome o' ∧
      (Drafting.act a).run (o.draft start) = result outcome (o'.draft start) := by
  cases a with
  | set field v =>
      obtain ⟨outcome, o', hsets, hrun⟩ := sets_draft hstart o field v
      exact ⟨outcome, o', .set hsets, hrun⟩
  | call setter v =>
      cases hsetter : Draft.setterField? setter with
      | none =>
          refine ⟨_, o, .malformed fun field hfield ↦ ?_, ?_⟩
          · rw [setterField?_eq_some.mpr hfield] at hsetter
            cases hsetter
          · simp only [Drafting.act, Drafting.call, hsetter]
            rfl
      | some field =>
          obtain ⟨outcome, o', hsets, hrun⟩ := sets_draft hstart o field v
          refine ⟨outcome, o', .call (setterField?_eq_some.mp hsetter) hsets, ?_⟩
          rw [Drafting.act_call hsetter, hrun]
  | build =>
      rw [Drafting.run_act, Drafting.tried]
      by_cases hclosed : o.finalized = true
      · refine ⟨_, o, .rebuild hclosed, ?_⟩
        rw [Draft.build, draft_finalized, if_pos hclosed]
        rfl
      · refine ⟨_, { o with finalized := true }, .build (by simpa using hclosed), ?_⟩
        rw [Draft.build, draft_finalized, if_neg hclosed]
        rfl

theorem runs_draft (hstart : start.layout.Filled start.values) (o : Overlay) (as : List Act) :
    ∃ o', Runs start o as (Drafting.acts as (o.draft start)).1 o' ∧
      (Drafting.acts as (o.draft start)).2 = o'.draft start := by
  induction as generalizing o with
  | nil => exact ⟨o, .nil o, rfl⟩
  | cons a as ih =>
      obtain ⟨outcome, o', hdoes, hrun⟩ := does_draft hstart o a
      obtain ⟨o'', hruns, hleft⟩ := ih o'
      refine ⟨o'', ?_, ?_⟩
      · cases outcome <;> simp only [Drafting.acts, hrun, result] <;> exact .cons hdoes hruns
      · cases outcome <;> simp only [Drafting.acts, hrun, result] <;> exact hleft

end Overlay

/-! ## How drafts begin -/

/-- A draft at its beginning, with what it starts from and what has been set on the way: nothing at
all, or the values of a template. -/
inductive Draft.Begun : Draft → List (String × Value) → Draft → Prop
  | newDraft {registry : Registry} {typeName : String} {key : Key} {l : Layout} {d : Draft} :
    registry.Reachable → registry.get? typeName = some l →
    registry.newDraft typeName key = .ok d → Draft.Begun (.empty l key) [] d
  | newDraftWith {registry : Registry} {typeName : String} {key : Key} {l : Layout}
    {settings : List (String × Value)} {d : Draft} : registry.Reachable →
    registry.get? typeName = some l → registry.newDraftWith typeName key settings = .ok d →
    Draft.Begun (.empty l key) settings d
  | newDrafts {registry : Registry} {typeName : String} {keys : List Key} {l : Layout}
    {ds : List Draft} {i : Nat} {key : Key} {d : Draft} : registry.Reachable →
    registry.get? typeName = some l → registry.newDrafts typeName keys = .ok ds →
    keys[i]? = some key → ds[i]? = some d → Draft.Begun (.empty l key) [] d
  | template {r : Record} {key : Key} {d : Draft} : r.Obtained → r.template key = .ok d →
    Draft.Begun ⟨r.layout, key, r.values, false⟩ [] d
  | templates {r : Record} {keys : List Key} {ds : List Draft} {i : Nat} {key : Key} {d : Draft} :
    r.Obtained → r.templates keys = .ok ds → keys[i]? = some key → ds[i]? = some d →
    Draft.Begun ⟨r.layout, key, r.values, false⟩ [] d
  | modify {r : Record} : r.Obtained → Draft.Begun ⟨r.layout, r.key, r.values, false⟩ [] r.modify

namespace Draft.Begun

variable {start d : Draft} {settings : List (String × Value)}

theorem filled (h : Begun start settings d) : start.layout.Filled start.values := by
  cases h with
  | newDraft hregistry hl _ => exact filled_empty (hregistry.sound.layouts hl).2 _
  | newDraftWith hregistry hl _ => exact filled_empty (hregistry.sound.layouts hl).2 _
  | newDrafts hregistry hl _ _ _ => exact filled_empty (hregistry.sound.layouts hl).2 _
  | template hr _ => exact hr.filled
  | templates hr _ _ _ => exact hr.filled
  | modify hr => exact hr.filled

theorem not_finalized (h : Begun start settings d) : start.finalized = false := by
  cases h <;> rfl

theorem setAll (h : Begun start settings d) : start.setAll settings = .ok d := by
  cases h with
  | newDraft _ hl h =>
      obtain rfl := Registry.newDraft_eq_empty hl h
      rfl
  | newDraftWith _ hl h =>
      obtain ⟨d₀, hd₀, hsettings⟩ := bind_eq_ok.mp h
      obtain rfl := Registry.newDraft_eq_empty hl hd₀
      exact hsettings
  | newDrafts _ hl h hkey hd =>
      obtain rfl := Registry.newDraft_eq_empty hl (getElem?_of_mapM h hkey hd)
      rfl
  | template _ h =>
      obtain rfl := Record.template_eq_ok h
      rfl
  | templates _ h hkey hd =>
      obtain rfl := Record.template_eq_ok (getElem?_of_mapM h hkey hd)
      rfl
  | modify _ => rfl

end Draft.Begun

/-! ## The whole life -/

/-- Whatever is tried with a draft after its beginning, the outcomes and the draft that is left are
those of the overlay over what it has started from, and the overlay leaves no choice. The layout and
the key stay, and an act that fails changes nothing. Building finishes the draft, and everything
that is well formed comes too late for a finished one. -/
theorem acts_overlay {start d : Draft} {settings : List (String × Value)}
    (h : Draft.Begun start settings d) (acts : List Draft.Act) :
    let before : List Draft.Act := settings.map fun s ↦ .set s.1 s.2
    let outcomes := settings.map (fun _ ↦ Except.ok none) ++ (Drafting.acts acts d).1
    let left := (Drafting.acts acts d).2
    (∃ o, Overlay.Runs start .blank (before ++ acts) outcomes o ∧ left = o.draft start ∧
      ∀ outcomes' o', Overlay.Runs start .blank (before ++ acts) outcomes' o' →
        outcomes' = outcomes ∧ o' = o) ∧
    left.layout = d.layout ∧ left.key = d.key ∧
    (∀ a e d', (Drafting.act a).run left = .error e d' → d' = left) ∧
    (left.finalized = true ↔ Draft.Act.build ∈ acts) ∧
    (left.finalized = true → ∀ a,
      (∀ setter v, a = .call setter v → ∃ field, Overlay.SetterOf field setter) →
      ∃ fault, (Drafting.act a).run left = .error (.illegalState fault) left) := by
  intro before outcomes left
  -- the settings are acts too: one run over what the draft starts from covers them and the rest
  have hblank : Overlay.blank.draft start = start :=
    Overlay.draft_blank h.filled.length_eq h.not_finalized
  have hruns : ∀ rest, ∃ o, Overlay.Runs start .blank (before ++ rest)
      (settings.map (fun _ ↦ .ok none) ++ (Drafting.acts rest d).1) o ∧
      (Drafting.acts rest d).2 = o.draft start := by
    intro rest
    have hrun := Overlay.runs_draft h.filled .blank (before ++ rest)
    rwa [hblank, Drafting.acts_settings h.setAll rest] at hrun
  obtain ⟨o, hrun, hleft⟩ := hruns acts
  -- with nothing tried it is the draft at its beginning
  obtain ⟨o₀, -, hbegun⟩ := hruns []
  have hended : left = o.draft start := hleft
  have hstarted : d = o₀.draft start := hbegun
  refine ⟨⟨o, hrun, hended, ?_⟩, ?_, ?_, fun a e d' ↦ Drafting.unchanged_of_error, ?_, ?_⟩
  · intro outcomes' o' hother
    exact hother.unique h.filled.sound hrun
  · rw [hended, hstarted, Overlay.draft_layout, Overlay.draft_layout]
  · rw [hended, hstarted, Overlay.draft_key, Overlay.draft_key]
  · have hmark : o.finalized = true ↔ _ := hrun.finalized_iff
    rw [hended]
    simpa [before, Overlay.blank] using hmark
  · intro hclosed a hnamed
    rw [hended] at hclosed ⊢
    obtain ⟨outcome, o', hdoes, hact⟩ := Overlay.does_draft h.filled o a
    obtain ⟨rfl, fault, rfl⟩ := hdoes.of_finalized hclosed hnamed
    exact ⟨fault, hact⟩

/-- A note begun with stars: its title is set twice, and all else is refused before it is built and
after. -/
theorem acts_overlay_note :
    let t : RecordType :=
      ⟨"Note", none, "id", .int, [⟨"getTitle", .text, false⟩, ⟨"getStars", .i32, false⟩]⟩
    let l : Layout := ⟨"Note", none, "id", .int, [("stars", .i32), ("title", .text)]⟩
    let d : Draft := ⟨l, .int 1, [.i32 5, .null .text], false⟩
    let acts : List Draft.Act :=
      [.set "title" (.text "a"), .call "setTitle" (.text "b"), .set "stars" (.text "many"),
        .set "id" (.i64 2), .set "size" (.i64 2), .call "getTitle" (.text "c"), .build,
        .set "title" (.text "d"), .call "settle" (.text "e"), .call "set" (.text "f"), .build]
    Layout.resolve t = .ok l ∧
      Draft.Begun (.empty l (.int 1)) [("stars", .i64 5)] d ∧
      (Drafting.acts acts d).1.map Except.isOk = [true, true, false, false, false, false, true,
        false, false, false, false] ∧
      (Drafting.acts acts d).2 = ⟨l, .int 1, [.i32 5, .text "b"], true⟩ ∧
      ∃ o : Overlay, (Drafting.acts acts d).2 = o.draft (.empty l (.int 1)) ∧
        Overlay.Runs (.empty l (.int 1)) .blank (.set "stars" (.i64 5) :: acts)
          (.ok none :: (Drafting.acts acts d).1) o := by
  intro t l d acts
  have hresolve : Layout.resolve ⟨"Note", none, "id", .int,
      [⟨"getTitle", .text, false⟩, ⟨"getStars", .i32, false⟩]⟩
      = .ok ⟨"Note", none, "id", .int, [("stars", .i32), ("title", .text)]⟩ := rfl
  have hregistry : (Registry.empty.register t).2.Reachable := .register t .empty
  have hregistered : (Registry.empty.register t).2.get? "Note" = some l :=
    Registry.get?_register_self (t := t) rfl hresolve
  have hstart : (Registry.empty.register t).2.newDraftWith "Note" (.int 1)
      [("stars", .i64 5)] = .ok d := by
    simp only [Registry.newDraftWith, Registry.newDraft, Registry.require, hregistered]
    rfl
  have hbegun : Draft.Begun (.empty l (.int 1)) [("stars", .i64 5)] d :=
    .newDraftWith hregistry hregistered hstart
  obtain ⟨⟨o, hruns, hleft, -⟩, -⟩ := acts_overlay hbegun acts
  exact ⟨hresolve, hbegun, by decide +kernel, by decide +kernel, o, hleft, hruns⟩

end RecordStore
