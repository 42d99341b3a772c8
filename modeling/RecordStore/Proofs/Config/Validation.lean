import RecordStore.Config.Shape
import RecordStore.Proofs.Layout

namespace RecordStore.Config

/-!
# Valid configurations

What a configuration must satisfy to pass its checks, as one property without their order.
-/

structure Valid (c : Config) : Prop where
  url : c.database.url ≠ ""
  type : Text.lowercase c.database.type ∈ ["sqlite", "sqlite3"]
  maxConnections : c.database.maxConnections ≠ 0
  maxInList : c.storage.maxInList ≠ 0
  names : (c.types.map RecordType.name).Nodup
  resolves : ∀ t ∈ c.types, ∃ l, Layout.resolve t = .ok l

theorem checkTypes_eq_ok_iff {seen : List String} {types : List RecordType} :
    checkTypes seen types = .ok () ↔ (∀ t ∈ types, t.name ∉ seen) ∧
      (types.map RecordType.name).Nodup ∧ ∀ t ∈ types, ∃ l, Layout.resolve t = .ok l := by
  induction types generalizing seen with
  | nil => simp [checkTypes]
  | cons t types ih =>
      rw [checkTypes, List.map_cons, List.nodup_cons, List.forall_mem_cons, List.forall_mem_cons]
      by_cases hseen : t.name ∈ seen
      · rw [if_pos hseen]
        exact iff_of_false nofun fun h ↦ h.1.1 hseen
      rw [if_neg hseen]
      cases hresolve : Layout.resolve t with
      | error fault => exact iff_of_false nofun fun h ↦ by simpa using h.2.2.1
      | ok l =>
          simp only [ih, List.mem_cons, not_or]
          constructor
          · rintro ⟨hrest, hnodup, hresolves⟩
            refine ⟨⟨hseen, fun t' ht' ↦ (hrest t' ht').2⟩, ⟨?_, hnodup⟩, ⟨l, rfl⟩, hresolves⟩
            intro hmem
            obtain ⟨t', ht', hname⟩ := List.mem_map.mp hmem
            exact (hrest t' ht').1 hname
          · rintro ⟨⟨-, hrest⟩, ⟨hnew, hnodup⟩, -, hresolves⟩
            refine ⟨fun t' ht' ↦ ⟨fun hname ↦ ?_, hrest t' ht'⟩, hnodup, hresolves⟩
            exact hnew (List.mem_map.mpr ⟨t', ht', hname⟩)

theorem validate_eq_ok_iff {c : Config} : c.validate = .ok () ↔ c.Valid := by
  unfold validate
  by_cases hurl : c.database.url = ""
  · rw [if_pos hurl]
    exact iff_of_false nofun fun h ↦ h.url hurl
  rw [if_neg hurl]
  by_cases htype : Text.lowercase c.database.type ∉ ["sqlite", "sqlite3"]
  · rw [if_pos htype]
    exact iff_of_false nofun fun h ↦ htype h.type
  rw [if_neg htype]
  by_cases hconnections : c.database.maxConnections = 0
  · rw [if_pos hconnections]
    exact iff_of_false nofun fun h ↦ h.maxConnections hconnections
  rw [if_neg hconnections]
  by_cases hlist : c.storage.maxInList = 0
  · rw [if_pos hlist]
    exact iff_of_false nofun fun h ↦ h.maxInList hlist
  rw [if_neg hlist, checkTypes_eq_ok_iff]
  constructor
  · rintro ⟨-, hnames, hresolves⟩
    exact ⟨hurl, not_not.mp htype, hconnections, hlist, hnames, hresolves⟩
  · intro h
    exact ⟨fun _ _ ↦ List.not_mem_nil, h.names, h.resolves⟩

theorem checked_eq_ok_iff {c c' : Config} : c.checked = .ok c' ↔ c = c' ∧ c.Valid := by
  rw [← validate_eq_ok_iff]
  unfold checked
  cases c.validate with
  | ok _ => simp
  | error fault => exact iff_of_false nofun fun h ↦ nomatch h.2

end RecordStore.Config
