import RecordStore.Proofs.Layout
import RecordStore.Registry

namespace RecordStore

/-!
# Registries that registering and spelling lead to

A registered layout is resolved from a type of its name, and every statement book on the shelf
spells the statements of the layout that is registered under its name. So a text taken from a book
is the text that the layout itself gives, whatever has been asked for before.
-/

/-- The text of a statement without any book: a sized one needs at least one key. -/
def Layout.text (l : Layout) (d : Dialect) (s : Statement) (count : Nat) :
    Except ArgumentFault (Option String) :=
  if s.isSized = true ∧ count = 0 then .error (.noKeys s.name l.typeName)
  else .ok (l.sql? d s count)

theorem Layout.sql?_of_not_sized (l : Layout) (d : Dialect) {s : Statement}
    (h : s.isSized = false) (count : Nat) : l.sql? d s 0 = l.sql? d s count := by
  cases s <;> first | rfl | cases h

theorem Layout.sql?_of_sized (l : Layout) (d : Dialect) {s : Statement} (h : s.isSized = true)
    (count : Nat) : ∃ text, l.sql? d s count = some text := by
  cases s <;> first | exact ⟨_, rfl⟩ | cases h

/-- The text of a statement for a count in figures, without any book. -/
def Layout.requested (l : Layout) (d : Dialect) (s : Statement) (count : UInt64) :
    Except ArgumentFault (Option String) :=
  if s.isSized = true ∧ count = 0 then .error (.noKeys s.name l.typeName)
  else .ok (l.sql? d s (placesFor count))

namespace StatementBook

variable {b : StatementBook}

def Sound (b : StatementBook) : Prop :=
  ∀ s count text, b.entries.lookup (s, count) = some text → text = b.layout.sql? b.dialect s count

theorem sound_empty (l : Layout) (d : Dialect) : (empty l d).Sound := by
  intro s count text h
  simp [empty] at h

theorem look_fst (h : b.Sound) (s : Statement) (count : Nat) :
    (b.look s count).1 = b.layout.sql? b.dialect s count := by
  unfold look
  split
  · next text hfound => exact h s count text hfound
  · rfl

theorem look_snd (h : b.Sound) (s : Statement) (count : Nat) :
    (b.look s count).2.layout = b.layout ∧ (b.look s count).2.dialect = b.dialect ∧
      (b.look s count).2.Sound := by
  unfold look
  split
  · exact ⟨rfl, rfl, h⟩
  · dsimp only
    split
    · exact ⟨rfl, rfl, h⟩
    · refine ⟨rfl, rfl, ?_⟩
      intro s' count' text htext
      rw [List.lookup_cons] at htext
      split at htext
      · next hsame =>
        obtain ⟨rfl, rfl⟩ : s' = s ∧ count' = count := by simpa using hsame
        exact (Option.some.inj htext).symm
      · exact h s' count' text htext

theorem statement_fst (h : b.Sound) (s : Statement) (count : Nat) :
    (b.statement s count).1 = b.layout.text b.dialect s count := by
  cases hsized : s.isSized with
  | true =>
      obtain ⟨text, htext⟩ := b.layout.sql?_of_sized b.dialect hsized count
      by_cases hcount : count = 0
      · simp [statement, sized, Layout.text, hsized, hcount, Except.map]
      · simp [statement, sized, StatementBook.text, Layout.text, hsized, hcount, look_fst h, htext,
          Except.map]
  | false =>
      simp [statement, Layout.text, hsized, look_fst h, b.layout.sql?_of_not_sized _ hsized count]

theorem statement_snd (h : b.Sound) (s : Statement) (count : Nat) :
    (b.statement s count).2.layout = b.layout ∧ (b.statement s count).2.dialect = b.dialect ∧
      (b.statement s count).2.Sound := by
  unfold statement
  split
  · simp only [sized]
    split
    · exact ⟨rfl, rfl, h⟩
    · exact look_snd h s count
  · exact look_snd h s 0

theorem request_fst (h : b.Sound) (s : Statement) (count : UInt64) :
    (b.request s count).1 = b.layout.requested b.dialect s count := by
  have hzero : count = 0 ↔ count.toNat = 0 := UInt64.toNat_inj.symm
  unfold request
  split
  · next hplaces => rw [Layout.requested, if_neg fun hnone ↦ hplaces.2.1 hnone.2]
  · next hplaces =>
    have hsame : b.layout.sql? b.dialect s count.toNat
        = b.layout.sql? b.dialect s (Layout.placesFor count) := by
      cases hsized : s.isSized with
      | false =>
          have hnone := b.layout.sql?_of_not_sized b.dialect hsized
          exact (hnone _).symm.trans (hnone _)
      | true =>
          by_cases hcount : count = 0
          · subst hcount
            rfl
          · by_cases hfigures : Layout.placesFor count = count.toNat
            · rw [hfigures]
            · exact absurd ⟨hsized, hcount, hfigures⟩ hplaces
    simp only [statement_fst h, Layout.requested, Layout.text, hzero, hsame]

theorem request_snd (h : b.Sound) (s : Statement) (count : UInt64) :
    (b.request s count).2.layout = b.layout ∧ (b.request s count).2.dialect = b.dialect ∧
      (b.request s count).2.Sound := by
  unfold request
  split
  · exact ⟨rfl, rfl, h⟩
  · exact statement_snd h s count.toNat

end StatementBook

/-! ## Registries -/

namespace Registry

variable {r : Registry} {l : Layout}

/-- The registries that registering types and spelling their statements lead to. -/
inductive Reachable : Registry → Prop
  | empty : Reachable .empty
  | register {r : Registry} (t : RecordType) : Reachable r → Reachable (r.register t).2
  | statement {r : Registry} {l : Layout} (d : Dialect) (s : Statement) (count : Nat) :
    r.get? l.typeName = some l → Reachable r → Reachable (r.statement l d s count).2
  | request {r : Registry} {l : Layout} (d : Dialect) (s : Statement) (count : UInt64) :
    r.get? l.typeName = some l → Reachable r → Reachable (r.request l d s count).2

structure Sound (r : Registry) : Prop where
  layouts : ∀ {name : String} {l : Layout}, r.get? name = some l →
    l.typeName = name ∧ l.Sound
  books : ∀ {name : String} {d : Dialect} {b : StatementBook},
    r.books.lookup (name, d) = some b → b.dialect = d ∧ r.get? name = some b.layout ∧ b.Sound

theorem sound_empty : Sound .empty := by
  constructor <;> intro _ _ <;> simp [get?, Registry.empty]

theorem get?_of_layouts {r r' : Registry} (h : r'.layouts = r.layouts) : r'.get? = r.get? := by
  funext name
  rw [get?, h, get?]

theorem get?_register (r : Registry) (t : RecordType) {name : String} {l : Layout}
    (h : r.get? name = some l) : (r.register t).2.get? name = some l := by
  unfold register
  split
  · exact h
  · next hnew =>
    split
    · have hne : name ≠ t.name := by
        rintro rfl
        simp [hnew] at h
      simpa [get?, Ordered.lookup_insert_of_ne hne] using h
    · exact h

theorem get?_register_self {r : Registry} {t : RecordType} {l : Layout} (h : r.get? t.name = none)
    (hl : Layout.resolve t = .ok l) : (r.register t).2.get? t.name = some l := by
  unfold register
  rw [h, hl]
  exact Ordered.lookup_insert_self ..

theorem get?_register_cases {r : Registry} {t : RecordType} {name : String} {l : Layout}
    (h : (r.register t).2.get? name = some l) :
    r.get? name = some l ∨ Layout.resolve t = .ok l ∧ name = t.name := by
  unfold register at h
  split at h
  · exact .inl h
  · split at h
    · next l' hresolve =>
      by_cases hname : name = t.name
      · subst hname
        obtain rfl : l' = l := by simpa [get?, Ordered.lookup_insert_self] using h
        exact .inr ⟨hresolve, rfl⟩
      · rw [get?, Ordered.lookup_insert_of_ne hname] at h
        exact .inl h
    · exact .inl h

theorem sound_register (h : r.Sound) (t : RecordType) : (r.register t).2.Sound := by
  refine ⟨?_, ?_⟩
  · intro name l hl
    rcases get?_register_cases hl with hl | ⟨hresolve, rfl⟩
    · exact h.layouts hl
    · exact ⟨Layout.typeName_of_resolve hresolve, Layout.sound_of_resolve hresolve⟩
  · intro name d b hb
    have hbooks : (r.register t).2.books = r.books := by
      unfold register
      split
      · rfl
      · split <;> rfl
    rw [hbooks] at hb
    obtain ⟨hdialect, hlayout, hsound⟩ := h.books hb
    exact ⟨hdialect, get?_register r t hlayout, hsound⟩

/-! Taking a text from a book changes no other book. -/

theorem lookup_filter_ne {α β : Type} [BEq α] [LawfulBEq α] {name other : α} (h : name ≠ other)
    (entries : List (α × β)) :
    (entries.filter (·.1 != other)).lookup name = entries.lookup name := by
  induction entries with
  | nil => rfl
  | cons entry entries ih =>
      obtain ⟨name', b⟩ := entry
      by_cases hname : name' = other
      · subst hname
        have hne : (name == name') = false := by simpa using h
        simp [List.lookup_cons, hne, ih]
      · simp [List.lookup_cons, hname, ih]

theorem lookup_shelve (r : Registry) (typeName : String) (d : Dialect) (b : StatementBook)
    (name : String × Dialect) : (r.shelve typeName d b).books.lookup name
      = if name = (typeName, d) then some b else r.books.lookup name := by
  by_cases h : name = (typeName, d)
  · simp [shelve, h]
  · have hne : (name == (typeName, d)) = false := by simpa using h
    rw [if_neg h]
    simp only [shelve, List.lookup_cons, hne]
    exact lookup_filter_ne h r.books

theorem lookup_book_of_ne (r : Registry) (l : Layout) (d : Dialect) {name : String × Dialect}
    (h : name ≠ (l.typeName, d)) : (r.book l d).2.books.lookup name = r.books.lookup name := by
  unfold book
  split
  · rfl
  · have hne : (name == (l.typeName, d)) = false := by simpa using h
    simp [List.lookup_cons, hne]

theorem book_fst (h : r.Sound) (hl : r.get? l.typeName = some l) (d : Dialect) :
    (r.book l d).1.layout = l ∧ (r.book l d).1.dialect = d ∧ (r.book l d).1.Sound := by
  unfold book
  split
  · next b hb =>
    obtain ⟨hdialect, hlayout, hsound⟩ := h.books hb
    exact ⟨Option.some.inj (hlayout.symm.trans hl), hdialect, hsound⟩
  · exact ⟨rfl, rfl, StatementBook.sound_empty l d⟩

@[simp] theorem layouts_book (r : Registry) (l : Layout) (d : Dialect) :
    (r.book l d).2.layouts = r.layouts := by
  unfold book
  split <;> rfl

@[simp] theorem layouts_statement (r : Registry) (l : Layout) (d : Dialect) (s : Statement)
    (count : Nat) : (r.statement l d s count).2.layouts = r.layouts := by
  simp [statement, shelve]

theorem layouts_request (r : Registry) (l : Layout) (d : Dialect) (s : Statement)
    (count : UInt64) : (r.request l d s count).2.layouts = r.layouts := by
  simp [request, shelve]

@[simp] theorem get?_statement (r : Registry) (l : Layout) (d : Dialect) (s : Statement)
    (count : Nat) : (r.statement l d s count).2.get? = r.get? :=
  get?_of_layouts (layouts_statement ..)

/-- A text taken from the book of a registered layout is the text that the layout gives. -/
theorem statement_fst (h : r.Sound) (hl : r.get? l.typeName = some l) (d : Dialect)
    (s : Statement) (count : Nat) : (r.statement l d s count).1 = l.text d s count := by
  obtain ⟨hlayout, hdialect, hsound⟩ := book_fst h hl d
  have htext := StatementBook.statement_fst hsound s count
  rw [hlayout, hdialect] at htext
  exact htext

/-- A count in figures is answered in the same way. -/
theorem request_fst (h : r.Sound) (hl : r.get? l.typeName = some l) (d : Dialect)
    (s : Statement) (count : UInt64) : (r.request l d s count).1 = l.requested d s count := by
  obtain ⟨hlayout, hdialect, hsound⟩ := book_fst h hl d
  have htext := StatementBook.request_fst hsound s count
  rw [hlayout, hdialect] at htext
  exact htext

/-- The book of a registered layout may be put back with anything that it has come to spell. -/
theorem sound_shelve (h : r.Sound) (hl : r.get? l.typeName = some l) {d : Dialect}
    {b : StatementBook} (hlayout : b.layout = (r.book l d).1.layout)
    (hdialect : b.dialect = (r.book l d).1.dialect) (hsound : b.Sound) :
    ((r.book l d).2.shelve l.typeName d b).Sound := by
  obtain ⟨hlayout', hdialect', -⟩ := book_fst h hl d
  have hget : ((r.book l d).2.shelve l.typeName d b).get? = r.get? :=
    get?_of_layouts (layouts_book r l d)
  refine ⟨fun {name l'} hl' ↦ h.layouts (by rwa [hget] at hl'), ?_⟩
  intro name d' b' hb
  rw [hget]
  rw [lookup_shelve] at hb
  split at hb
  · next hsame =>
    obtain ⟨rfl, rfl⟩ : name = l.typeName ∧ d' = d := by simpa using hsame
    obtain rfl : b = b' := Option.some.inj hb
    exact ⟨hdialect.trans hdialect', by rw [hlayout, hlayout', hl], hsound⟩
  · next hother =>
    rw [lookup_book_of_ne r l d hother] at hb
    exact h.books hb

theorem sound_statement (h : r.Sound) (hl : r.get? l.typeName = some l) (d : Dialect)
    (s : Statement) (count : Nat) : (r.statement l d s count).2.Sound := by
  obtain ⟨-, -, hsound⟩ := book_fst h hl d
  obtain ⟨hlayout, hdialect, hsound'⟩ := StatementBook.statement_snd hsound s count
  exact sound_shelve h hl hlayout hdialect hsound'

theorem sound_request (h : r.Sound) (hl : r.get? l.typeName = some l) (d : Dialect)
    (s : Statement) (count : UInt64) : (r.request l d s count).2.Sound := by
  obtain ⟨-, -, hsound⟩ := book_fst h hl d
  obtain ⟨hlayout, hdialect, hsound'⟩ := StatementBook.request_snd hsound s count
  exact sound_shelve h hl hlayout hdialect hsound'

theorem Reachable.sound (h : r.Reachable) : r.Sound := by
  induction h with
  | empty => exact sound_empty
  | register t _ ih => exact sound_register ih t
  | statement d s count hl _ ih => exact sound_statement ih hl d s count
  | request d s count hl _ ih => exact sound_request ih hl d s count

end Registry

end RecordStore
