import RecordStore.Proofs.Tables.Statements

namespace RecordStore

open Store (Takes)

/-!
# Records that are asked for by their keys

A list of keys is cut into chunks, and on keyed tables every chunk finds a stored record once if it
lists its key. Distinct keys therefore find every record once whatever the limit is. A key that is
repeated finds its record again in every further chunk that it falls into, so the limit shows in the
answer.
-/

theorem chunks_of_length_le {α : Type} {size : Nat} {xs : List α} (hne : xs ≠ [])
    (h : xs.length ≤ size) : chunks size xs = [xs] := by
  cases xs with
  | nil => exact absurd rfl hne
  | cons x rest =>
      have hrest : rest.length ≤ size - 1 := Nat.le_sub_one_of_lt h
      rw [chunks, List.take_of_length_le hrest, List.drop_of_length_le hrest, chunks]

namespace Contents

variable (m : Contents) (l : Layout)

theorem map_key_filterMap (keys : List Key) :
    (keys.filterMap (m.record? l)).map Record.key
      = keys.filter fun k ↦ (m l.table k).isSome := by
  induction keys with
  | nil => rfl
  | cons k keys ih =>
      cases hr : m.record? l k with
      | none =>
          have hk : m l.table k = none := Option.map_eq_none_iff.mp hr
          rw [List.filterMap_cons_none hr, List.filter_cons_of_neg (by simp [hk]), ih]
      | some r =>
          obtain ⟨-, hkey, hk⟩ := eq_of_record? hr
          rw [List.filterMap_cons_some hr, List.filter_cons_of_pos (by simp [hk]), List.map_cons,
            hkey, ih]

variable {m l} in
theorem mem_listed {slices : List (List Key)} {r : Record} :
    r ∈ (slices.flatMap fun slice ↦ slice.dedup.filterMap (m.record? l)) ↔
      r.key ∈ slices.flatten ∧ m.record? l r.key = some r := by
  simp only [List.mem_flatMap, List.mem_filterMap, List.mem_dedup, List.mem_flatten]
  constructor
  · rintro ⟨slice, hslice, k, hk, hr⟩
    obtain ⟨-, rfl, -⟩ := eq_of_record? hr
    exact ⟨⟨slice, hslice, hk⟩, hr⟩
  · rintro ⟨⟨slice, hslice, hk⟩, hr⟩
    exact ⟨slice, hslice, r.key, hk, hr⟩

/-- A stored key is found once for each chunk that lists it. -/
theorem count_listed (slices : List (List Key)) (k : Key) :
    ((slices.flatMap fun slice ↦ slice.dedup.filterMap (m.record? l)).map Record.key).count k
      = if (m l.table k).isSome then slices.countP (k ∈ ·) else 0 := by
  induction slices with
  | nil => simp
  | cons slice slices ih =>
      rw [List.flatMap_cons, List.map_append, List.count_append, ih, map_key_filterMap]
      by_cases hk : (m l.table k).isSome
      · have hslice := List.count_filter (p := fun k ↦ (m l.table k).isSome) (l := slice.dedup) hk
        rw [if_pos hk, if_pos hk, hslice, List.count_dedup, List.countP_cons, Nat.add_comm]
        simp only [decide_eq_true_eq]
      · have hnot : k ∉ slice.dedup.filter fun k ↦ (m l.table k).isSome := by
          simp [hk]
        rw [if_neg hk, if_neg hk, List.count_eq_zero_of_not_mem hnot]

end Contents

section

variable {d : Dialect} {arrangement : Arrangement} {s : TableState} {l : Layout} {typeName : String}
  {keys : List Key}

theorem Store.getSome_tables {store : Store} (hstore : store.registry.Reachable)
    (hserves : s.committed.Serves store.registry.get?) (hpending : s.pending = none)
    (htakes : Takes store.registry.get? l typeName keys) :
    (store.getSome typeName keys).Ensures (Surface.soundTables d arrangement) d s
      fun _ outcome s' ↦ s.Unchanged s' ∧ ∃ found, outcome = .ok found ∧
        found.Perm ((chunks store.options.maxInList keys).flatMap fun slice ↦
          slice.dedup.filterMap (s.committed.contents.record? l)) := by
  rw [getSome_eq]
  refine ensures_taking (fun l' htakes' ↦ ?_) fun hnone ↦ absurd htakes (hnone l)
  obtain rfl := htakes.unique htakes'
  split
  · next hempty =>
    subst hempty
    rw [Action.ensures_pure, chunks]
    exact ⟨⟨hpending, rfl⟩, [], rfl, .refl _⟩
  · rw [Action.ensures_during]
    have hl := (hstore.sound.layouts htakes.registered).2
    have hdb := hserves typeName l htakes.registered
    refine (fetchSome_chunks hl hdb hpending store keys).mono ?_
    rintro log outcome s' ⟨hunchanged, found, rfl, hperm⟩
    exact ⟨hunchanged, found, rfl, hperm⟩

/-- Every stored record whose key is asked for is found once for each chunk that lists the key, and
nothing else is found. So distinct keys, or keys that fit in one chunk, find the same records under
every limit. -/
theorem getSome_once_per_chunk (d : Dialect) (arrangement : Arrangement) {r : Registry}
    (hr : r.Reachable) {s : TableState} (hserves : s.committed.Serves r.get?)
    (hpending : s.pending = none) (htakes : Takes r.get? l typeName keys) (limit : Nat)
    (hasTrigger : Bool) :
    let o := (Store.getSome ⟨r, ⟨limit⟩, hasTrigger⟩ typeName keys).run.run
      (Surface.soundTables d arrangement) d r s
    o.state.committed = s.committed ∧ ∃ found, o.result = .ok found ∧
      (∀ x, x ∈ found ↔ x.key ∈ keys ∧ s.committed.contents.record? l x.key = some x) ∧
      (∀ k, (found.map Record.key).count k = if (s.committed.contents l.table k).isSome
        then (chunks limit keys).countP (k ∈ ·) else 0) ∧
      (keys.Nodup → found.Perm (keys.filterMap (s.committed.contents.record? l))) ∧
      (keys.length ≤ limit →
        found.Perm (keys.dedup.filterMap (s.committed.contents.record? l))) := by
  let store : Store := ⟨r, ⟨limit⟩, hasTrigger⟩
  have hstore : store.registry.Reachable := hr
  have hfound : (store.getSome typeName keys).Ensures (Surface.soundTables d arrangement) d s _ :=
    Store.getSome_tables hstore hserves hpending htakes
  obtain ⟨⟨log, -, -, hunchanged, found, hresult, hperm⟩, -⟩ :=
    hfound.run hr (Store.within_getSome hstore typeName keys)
  refine ⟨hunchanged.same, found, hresult, fun x ↦ ?_, fun k ↦ ?_, fun hkeys ↦ ?_, fun hlength ↦ ?_⟩
  · rw [hperm.mem_iff, Contents.mem_listed, flatten_chunks]
  · rw [(hperm.map _).count_eq]
    exact Contents.count_listed ..
  · rw [Store.flatMap_dedup_chunks hkeys] at hperm
    exact hperm
  · by_cases hempty : keys = []
    · subst hempty
      rw [chunks] at hperm
      exact hperm
    · rw [chunks_of_length_le hempty hlength, List.flatMap_singleton] at hperm
      exact hperm

end

/-- One note is put, and then its key is asked for twice, one key to a list. -/
theorem getSome_once_per_chunk_note :
    let t : RecordType := ⟨"Note", none, "id", .int, [⟨"getTitle", .text, false⟩]⟩
    let l : Layout := ⟨"Note", none, "id", .int, [("title", .text)]⟩
    let r := (Registry.empty.register t).2
    let note : Record := ⟨l, .int 1, [.text "a"]⟩
    let arrangement : Arrangement := ⟨fun _ rows ↦ rows, fun _ _ ↦ .refl _⟩
    let surface := Surface.soundTables .sqlite arrangement
    let s := ((Store.putAll ⟨r, ⟨1⟩, false⟩ [some note]).run.run surface .sqlite r
      ⟨Database.ofRegistry r, none, 0⟩).state
    r.Reachable ∧ s.committed.Serves r.get? ∧ s.pending = none ∧
      Takes r.get? l "Note" [.int 1, .int 1] ∧
      ∃ found, ((Store.getSome ⟨r, ⟨1⟩, false⟩ "Note" [.int 1, .int 1]).run.run surface .sqlite r
        s).result = .ok found ∧ (found.map Record.key).count (.int 1) = 2 := by
  intro t l r note arrangement surface s
  have hresolve : Layout.resolve t = .ok l := by decide +kernel
  have hr : r.Reachable := .register t .empty
  have hregistered : r.get? "Note" = some l := Registry.get?_register_self rfl hresolve
  have hserves : s.committed.Serves r.get? := by
    intro name l' hl'
    rcases Registry.get?_register_cases hl' with hempty | ⟨hl', -⟩
    · cases hempty
    · obtain rfl : l = l' := Except.ok.inj (hresolve.symm.trans hl')
      decide +kernel
  have hpending : s.pending = none := Option.isNone_iff_eq_none.mp (by decide +kernel)
  have htakes : Takes r.get? l "Note" [.int 1, .int 1] := ⟨hregistered, by decide⟩
  obtain ⟨-, found, hresult, -, hcount, -⟩ :=
    getSome_once_per_chunk .sqlite arrangement hr hserves hpending htakes 1 false
  refine ⟨hr, hserves, hpending, htakes, found, hresult, ?_⟩
  rw [hcount]
  decide +kernel

/-- The same question has two answers under two limits. -/
theorem getSome_repeated_key :
    let t : RecordType := ⟨"Note", none, "id", .int, [⟨"getTitle", .text, false⟩]⟩
    let l : Layout := ⟨"Note", none, "id", .int, [("title", .text)]⟩
    let r := (Registry.empty.register t).2
    let note : Record := ⟨l, .int 1, [.text "a"]⟩
    let surface := Surface.soundTables .sqlite ⟨fun _ rows ↦ rows, fun _ _ ↦ .refl _⟩
    let s := ((Store.putAll ⟨r, ⟨1⟩, false⟩ [some note]).run.run surface .sqlite r
      ⟨Database.ofRegistry r, none, 0⟩).state
    let listed (limit : Nat) := ((Store.getSome ⟨r, ⟨limit⟩, false⟩ "Note"
      [.int 1, .int 1]).run.run surface .sqlite r s).result.toOption
    listed 1 = some [note, note] ∧ listed 2 = some [note] ∧ ¬[note, note].Perm [note] := by
  refine ⟨by decide +kernel, by decide +kernel, fun hperm ↦ ?_⟩
  have hlength := hperm.length_eq
  simp at hlength

end RecordStore
