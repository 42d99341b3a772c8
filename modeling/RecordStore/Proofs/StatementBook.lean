import Mathlib.Data.List.Perm.Subperm
import RecordStore.Proofs.Registry
import RecordStore.Proofs.Sql.Template

namespace RecordStore

open Sql (Command)

/-!
# What a statement book remembers

A book is asked for statements one after another, and whatever it has been asked before, it answers
as a new book of its layout does. On the way it remembers texts of its layout under places of which
there are only so many, and so it never grows beyond their number.
-/

/-! ## Texts -/

theorem Sql.Command.render_ne_empty (d : Dialect) (c : Command) : c.render d ≠ "" := by
  -- every command begins with a keyword
  obtain ⟨letters, rest, hlexemes, hletters⟩ : ∃ letters rest,
      c.lexemes d = Sql.word letters :: rest ∧ letters.toList ≠ [] := by
    cases c with
    | select columns table filter => exact ⟨"SELECT", _, rfl, by decide⟩
    | count table => exact ⟨"SELECT", _, rfl, by decide⟩
    | insert table columns places => exact ⟨"INSERT", _, rfl, by decide⟩
    | update table columns key => exact ⟨"UPDATE", _, rfl, by decide⟩
    | delete table filter => exact ⟨"DELETE", _, rfl, by decide⟩
  intro hempty
  have hspelled : Sql.spell d (c.lexemes d) = [] := by
    simpa [render] using congrArg String.toList hempty
  rw [hlexemes, Sql.spell, List.flatMap_cons, List.append_eq_nil_iff] at hspelled
  exact hletters hspelled.1

namespace Layout

variable {l : Layout} {d : Dialect} {s : Statement} {count : Nat}

theorem sql?_eq_none_iff : l.sql? d s count = none ↔ s = .update ∧ l.fields = [] := by
  rw [sql?, Option.map_eq_none_iff, command?_eq_none_iff]

theorem sql?_ne_empty {text : String} (h : l.sql? d s count = some text) : text ≠ "" := by
  obtain ⟨c, -, rfl⟩ := Option.map_eq_some_iff.mp h
  exact c.render_ne_empty d

/-- Only an update can have no text, so any other text may be taken for granted. -/
theorem some_getD_sql? (h : s ≠ .update) :
    some ((l.sql? d s count).getD "") = l.sql? d s count := by
  cases hsql : l.sql? d s count with
  | none => exact absurd (sql?_eq_none_iff.mp hsql).1 h
  | some text => rfl

end Layout

namespace StatementBook

/-! ## Asking a book -/

/-- What a book can be asked for: a statement by its own operation, or any statement with a count
of keys. -/
inductive Ask
  | selectAll
  | selectSome (count : Nat)
  | selectKeys (count : Nat)
  | selectCount
  | insert
  | update
  | delete (count : Nat)
  | deleteAll
  | statement (s : Statement) (count : Nat)

namespace Ask

def name : Ask → Statement
  | selectAll => .selectAll
  | selectSome _ => .selectSome
  | selectKeys _ => .selectKeys
  | selectCount => .selectCount
  | insert => .insert
  | update => .update
  | delete _ => .delete
  | deleteAll => .deleteAll
  | statement s _ => s

/-- The count of keys that is asked for, which only matters to a sized statement. -/
def count : Ask → Nat
  | selectSome count | selectKeys count | delete count | statement _ count => count
  | _ => 0

end Ask

abbrev Answer := Except ArgumentFault (Option String)

variable {b : StatementBook}

def ask (b : StatementBook) : Ask → Answer × StatementBook
  | .selectAll =>
    let (text, b) := b.selectAll
    (.ok (some text), b)
  | .selectSome count =>
    let (found, b) := b.selectSome count
    (found.map some, b)
  | .selectKeys count =>
    let (found, b) := b.selectKeys count
    (found.map some, b)
  | .selectCount =>
    let (text, b) := b.selectCount
    (.ok (some text), b)
  | .insert =>
    let (text, b) := b.insert
    (.ok (some text), b)
  | .update =>
    let (found, b) := b.update
    (.ok found, b)
  | .delete count =>
    let (found, b) := b.delete count
    (found.map some, b)
  | .deleteAll =>
    let (text, b) := b.deleteAll
    (.ok (some text), b)
  | .statement s count => b.statement s count

def askAll (b : StatementBook) : List Ask → List Answer × StatementBook
  | [] => ([], b)
  | a :: asks =>
    let (answer, b) := b.ask a
    let (answers, b) := b.askAll asks
    (answer :: answers, b)

/-- An operation of its own leaves the book as asking for its statement does. -/
theorem ask_snd (b : StatementBook) (a : Ask) :
    (b.ask a).2 = (b.statement a.name a.count).2 := by
  cases a <;> rfl

theorem ask_fst (h : b.Sound) (a : Ask) :
    (b.ask a).1 = b.layout.text b.dialect a.name a.count := by
  -- a statement without keys has its text at once, as long as it is no update
  have htext {s : Statement} (hs : s ≠ .update) :
      (.ok (some (b.text s 0).1) : Answer) = .ok (b.layout.sql? b.dialect s 0) := by
    have hlook : (b.text s 0).1 = (b.layout.sql? b.dialect s 0).getD "" :=
      congrArg (·.getD "") (look_fst h s 0)
    rw [hlook, Layout.some_getD_sql? hs]
  cases a with
  | selectAll => exact htext nofun
  | selectCount => exact htext nofun
  | insert => exact htext nofun
  | deleteAll => exact htext nofun
  | update => exact congrArg Except.ok (look_fst h .update 0)
  | selectSome count => exact statement_fst h .selectSome count
  | selectKeys count => exact statement_fst h .selectKeys count
  | delete count => exact statement_fst h .delete count
  | statement s count => exact statement_fst h s count

/-! ## Places -/

/-- A statement of fixed size has one place in a book, and a sized one has a place for every count
of keys up to the greatest that is remembered. -/
def Place (s : Statement) (count : Nat) : Prop :=
  count ≤ maxRemembered ∧ (count = 0 ↔ s.isSized = false)

def places : List (Statement × Nat) :=
  Statement.all.flatMap fun s ↦
    if s.isSized then (List.range' 1 maxRemembered).map (s, ·) else [(s, 0)]

theorem length_places : places.length = 1505 := by
  simp [places, Statement.all, Statement.isSized, maxRemembered]

theorem mem_places {s : Statement} {count : Nat} (h : Place s count) : (s, count) ∈ places := by
  obtain ⟨hcount, hsized⟩ := h
  refine List.mem_flatMap.mpr ⟨s, s.mem_all, ?_⟩
  cases hs : s.isSized with
  | true =>
      have hpos : count ≠ 0 := fun hzero ↦ by simp [hsized.mp hzero] at hs
      rw [if_pos rfl]
      exact List.mem_map.mpr ⟨count, List.mem_range'_1.mpr ⟨by omega, by omega⟩, rfl⟩
  | false =>
      rw [hsized.mpr hs, if_neg Bool.false_ne_true]
      exact List.mem_singleton_self _

/-- A book remembers texts of its layout in the places that there are, none of them twice. -/
structure Remembers (b : StatementBook) : Prop where
  texts : ∀ {s count text}, ((s, count), text) ∈ b.entries →
    text = b.layout.sql? b.dialect s count
  placed : ∀ {s count text}, ((s, count), text) ∈ b.entries → Place s count
  distinct : (b.entries.map Prod.fst).Nodup

namespace Remembers

theorem empty (l : Layout) (d : Dialect) : (StatementBook.empty l d).Remembers :=
  ⟨fun h ↦ absurd h List.not_mem_nil, fun h ↦ absurd h List.not_mem_nil, List.nodup_nil⟩

theorem sound (h : b.Remembers) : b.Sound := by
  intro s count text hlookup
  obtain ⟨before, after, hentries, -⟩ := List.lookup_eq_some_iff.mp hlookup
  exact h.texts (by simp [hentries])

theorem length_le (h : b.Remembers) : b.entries.length ≤ places.length := by
  have hsub : b.entries.map Prod.fst ⊆ places := by
    intro place hplace
    obtain ⟨⟨⟨s, count⟩, text⟩, hentry, rfl⟩ := List.mem_map.mp hplace
    exact mem_places (h.placed hentry)
  simpa using (List.subperm_of_subset h.distinct hsub).length_le

/-- Looking in a place remembers its text, or nothing new. -/
theorem look (h : b.Remembers) {s : Statement} {count : Nat}
    (hsized : count = 0 ↔ s.isSized = false) : (b.look s count).2.Remembers := by
  unfold StatementBook.look
  split
  · exact h
  · next hnew =>
    dsimp only
    split
    · exact h
    · next hcount =>
      refine ⟨?_, ?_, ?_⟩
      · intro s' count' text hentry
        rcases List.mem_cons.mp hentry with hsame | hentry
        · cases hsame
          rfl
        · exact h.texts hentry
      · intro s' count' text hentry
        rcases List.mem_cons.mp hentry with hsame | hentry
        · cases hsame
          exact ⟨Nat.not_lt.mp hcount, hsized⟩
        · exact h.placed hentry
      · refine List.nodup_cons.mpr ⟨fun hmem ↦ ?_, h.distinct⟩
        obtain ⟨entry, hentry, hplace⟩ := List.mem_map.mp hmem
        have hother := List.lookup_eq_none_iff.mp hnew entry hentry
        rw [hplace] at hother
        simp at hother

theorem statement (h : b.Remembers) (s : Statement) (count : Nat) :
    (b.statement s count).2.Remembers := by
  unfold StatementBook.statement
  split
  · next hs =>
    simp only [sized]
    split
    · exact h
    · next hcount => exact h.look (iff_of_false hcount (by simp [hs]))
  · next hs => exact h.look (iff_of_true rfl (by simpa using hs))

theorem ask (h : b.Remembers) (a : Ask) : (b.ask a).2.Remembers := by
  rw [ask_snd]
  exact h.statement a.name a.count

end Remembers

/-! ## Asking again and again -/

theorem askAll_eq (h : b.Remembers) (asks : List Ask) :
    let o := b.askAll asks
    o.1 = asks.map (fun a ↦ b.layout.text b.dialect a.name a.count) ∧ o.2.Remembers ∧
      o.2.layout = b.layout ∧ o.2.dialect = b.dialect := by
  induction asks generalizing b with
  | nil => exact ⟨rfl, h, rfl, rfl⟩
  | cons a asks ih =>
      obtain ⟨hlayout, hdialect, -⟩ := statement_snd h.sound a.name a.count
      rw [← ask_snd] at hlayout hdialect
      obtain ⟨hanswers, hremembers, hlayout', hdialect'⟩ := ih (h.ask a)
      rw [hlayout, hdialect] at hanswers
      refine ⟨?_, hremembers, hlayout'.trans hlayout, hdialect'.trans hdialect⟩
      simp only [askAll, List.map_cons]
      rw [ask_fst h.sound a, hanswers]

/-- Whatever a book has been asked, it answers as a new book: a sized statement for no key is
refused, an update has no text exactly if there are no fields, and anything else has the text that
the layout gives it, which is never empty. An operation answers as its statement does, and a
statement of fixed size in the same way for every count. What the book has come to remember stands
in its places, so it is never more than these are. -/
theorem askAll_transparent (l : Layout) (d : Dialect) (asks : List Ask) :
    let b := ((empty l d).askAll asks).2
    ((empty l d).askAll asks).1 = asks.map (fun a ↦ ((empty l d).ask a).1) ∧
    (∀ a, (b.ask a).1 = ((empty l d).ask a).1 ∧
      (b.ask a).1 = (b.statement a.name a.count).1) ∧
    (∀ s count, s.isSized = true → count = 0 →
      Error.ofArgument (b.statement s count).1
        = .error (.illegalArgument (.noKeys s.name l.typeName))) ∧
    (∀ s count, s.isSized = true → count ≠ 0 →
      (b.statement s count).1 = .ok (l.sql? d s count) ∧ l.sql? d s count ≠ none) ∧
    (∀ s count, s.isSized = false → (b.statement s count).1 = .ok (l.sql? d s 0) ∧
      (l.sql? d s 0 = none ↔ s = .update ∧ l.fields = [])) ∧
    (∀ a text, (b.ask a).1 = .ok (some text) → text ≠ "") ∧
    (∀ s count text, ((s, count), text) ∈ b.entries → text = l.sql? d s count ∧
      count ≤ 500 ∧ (count = 0 ↔ s.isSized = false)) ∧
    (b.entries.map Prod.fst).Nodup ∧ b.entries.length ≤ 1505 := by
  intro b
  have hempty : (empty l d).Remembers := .empty l d
  obtain ⟨hanswers, hremembers, hlayout, hdialect⟩ := askAll_eq hempty asks
  change b.Remembers at hremembers
  have hlayout : b.layout = l := hlayout
  have hdialect : b.dialect = d := hdialect
  have hask (a : Ask) : (b.ask a).1 = l.text d a.name a.count := by
    rw [ask_fst hremembers.sound, hlayout, hdialect]
  have hstatement (s : Statement) (count : Nat) : (b.statement s count).1 = l.text d s count :=
    hask (.statement s count)
  have hfresh (a : Ask) : ((empty l d).ask a).1 = l.text d a.name a.count :=
    ask_fst hempty.sound a
  refine ⟨?_, fun a ↦ ⟨?_, ?_⟩, ?_, ?_, ?_, ?_, ?_, hremembers.distinct, ?_⟩
  · rw [hanswers]
    exact List.map_congr_left fun a _ ↦ (hfresh a).symm
  · rw [hask, hfresh]
  · rw [hask, hstatement]
  · intro s count hs hcount
    rw [hstatement, Layout.text, if_pos ⟨hs, hcount⟩]
    rfl
  · intro s count hs hcount
    obtain ⟨text, htext⟩ := l.sql?_of_sized d hs count
    rw [hstatement, Layout.text, if_neg fun h ↦ hcount h.2, htext]
    exact ⟨rfl, Option.some_ne_none text⟩
  · intro s count hs
    rw [hstatement, Layout.text, if_neg fun h ↦ by simp [hs] at h, l.sql?_of_not_sized d hs count]
    exact ⟨rfl, Layout.sql?_eq_none_iff⟩
  · intro a text htext
    rw [hask, Layout.text] at htext
    split at htext
    · cases htext
    · exact Layout.sql?_ne_empty (Except.ok.inj htext)
  · intro s count text hentry
    have htext := hremembers.texts hentry
    rw [hlayout, hdialect] at htext
    exact ⟨htext, hremembers.placed hentry⟩
  · exact length_places ▸ hremembers.length_le

/-- Tags without fields, asked for on both sides of the greatest count, twice over and for no key. -/
theorem askAll_transparent_tag :
    let l : Layout := ⟨"Tag", none, "label", .text, []⟩
    let asks : List Ask := [.statement .delete 501, .delete 500, .statement .delete 500, .update,
      .statement .update 7, .selectKeys 0]
    let b := ((empty l .sqlite).askAll asks).2
    b.entries.map Prod.fst = [(.update, 0), (.delete, 500)] ∧
    ((empty l .sqlite).askAll asks).1 = asks.map (fun a ↦ ((empty l .sqlite).ask a).1) ∧
    Statement.selectKeys.isSized = true ∧ Error.ofArgument (b.statement .selectKeys 0).1
      = .error (.illegalArgument (.noKeys "select_keys" "Tag")) ∧
    Statement.delete.isSized = true ∧
      (b.statement .delete 501).1 = .ok (l.sql? .sqlite .delete 501) ∧
    Statement.update.isSized = false ∧ (b.statement .update 7).1 = .ok none ∧
    b.entries.length ≤ 1505 := by
  intro l asks b
  obtain ⟨hfresh, -, hrefused, hsized, hfixed, -, -, -, hbound⟩ :=
    askAll_transparent l .sqlite asks
  obtain ⟨hupdate, hnone⟩ := hfixed .update 7 rfl
  have hentries : b.entries.map Prod.fst = [(.update, 0), (.delete, 500)] := by decide +kernel
  refine ⟨hentries, hfresh, rfl, hrefused .selectKeys 0 rfl rfl, rfl,
    (hsized .delete 501 rfl (by decide)).1, rfl, ?_, hbound⟩
  rw [hnone.mpr ⟨rfl, rfl⟩] at hupdate
  exact hupdate

end StatementBook

end RecordStore
