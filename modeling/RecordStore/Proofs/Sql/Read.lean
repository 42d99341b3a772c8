import RecordStore.Proofs.Sql.Scan

namespace RecordStore.Sql

/-!
# Reading what has been rendered

The text of a command is read back as that command, whatever the names in it. Each kind of list
(names, places, assignments) is read by induction on the list; what follows a list must not start
with a comma.
-/

variable {d : Dialect}

/-- What stands in a statement besides blanks. -/
def tokens (lexemes : List Lexeme) : List Token :=
  lexemes.filterMap Lexeme.token?

@[simp] theorem tokens_nil : tokens [] = [] := rfl

@[simp] theorem tokens_gap (lexemes : List Lexeme) : tokens (.gap :: lexemes) = tokens lexemes :=
  rfl

@[simp] theorem tokens_token (t : Token) (lexemes : List Lexeme) :
    tokens (.token t :: lexemes) = t :: tokens lexemes := rfl

@[simp] theorem tokens_append (xs ys : List Lexeme) :
    tokens (xs ++ ys) = tokens xs ++ tokens ys := by
  simp [tokens]

def withCommas : List (List Token) → List Token
  | [] => []
  | [item] => item
  | item :: rest => item ++ .mark ',' :: withCommas rest

@[simp] theorem tokens_commas (items : List (List Lexeme)) :
    tokens (commas items) = withCommas (items.map tokens) := by
  induction items with
  | nil => rfl
  | cons item rest ih =>
      cases rest with
      | nil => rfl
      | cons next rest =>
          simp only [commas, tokens_append, mark, tokens_token, tokens_gap, ih]
          rfl

/-- A list of tokens that does not go on with the mark `c`. -/
def Free (c : Char) (rest : List Token) : Prop :=
  rest.head? ≠ some (.mark c)

/-! ## Lists -/

theorem takeNames?_last (c : String) {rest : List Token} (h : Free ',' rest) :
    takeNames? (.name c :: rest) = some ([c], rest) := by
  rw [takeNames?]
  rintro later rfl
  exact h rfl

theorem takeNames?_nameLexemes (c : String) (columns : List String) (rest : List Token)
    (h : Free ',' rest) :
    takeNames? (tokens (nameLexemes (c :: columns)) ++ rest) = some (c :: columns, rest) := by
  simp only [nameLexemes, tokens_commas]
  induction columns generalizing c with
  | nil => exact takeNames?_last c h
  | cons next columns ih =>
      have hrest := ih next
      simp only [List.map_cons] at hrest ⊢
      simp only [withCommas, List.cons_append, List.nil_append, ident, tokens_token,
        tokens_nil] at hrest ⊢
      rw [takeNames?, hrest]
      rfl

theorem fits_placeIn (d : Dialect) (index : Nat) :
    ∃ i, Token.placeIn d index = .place i ∧ fits index i = true := by
  refine ⟨_, rfl, ?_⟩
  cases d <;> simp [fits, Dialect.numbersPlaces]

theorem takePlaces?_last {next : Nat} {i : Option Nat} (hi : fits next i = true)
    {rest : List Token} (h : Free ',' rest) :
    takePlaces? next (.place i :: rest) = some (next, rest) := by
  rw [takePlaces?]
  · simp [hi]
  · rintro later rfl
    exact h rfl

theorem takePlaces?_placeLexemes (first count : Nat) (rest : List Token) (h : Free ',' rest) :
    takePlaces? first (tokens (placeLexemes d first (count + 1)) ++ rest)
      = some (first + count, rest) := by
  simp only [placeLexemes, tokens_commas]
  induction count generalizing first with
  | zero =>
      obtain ⟨i, hi, hfits⟩ := fits_placeIn d first
      simpa [withCommas, place, hi] using takePlaces?_last hfits h
  | succ count ih =>
      obtain ⟨i, hi, hfits⟩ := fits_placeIn d first
      have hrest := ih (first + 1)
      simp only [List.range'_succ, List.map_cons] at hrest ⊢
      simp only [withCommas, List.cons_append, List.nil_append, place, tokens_token, tokens_nil,
        hi] at hrest ⊢
      rw [takePlaces?, if_pos hfits, hrest, Nat.add_right_comm, Nat.add_assoc]

theorem takeAssignments?_last (c : String) {next : Nat} {i : Option Nat} (hi : fits next i = true)
    {rest : List Token} (h : Free ',' rest) :
    takeAssignments? next (.name c :: .mark '=' :: .place i :: rest) = some ([c], rest) := by
  rw [takeAssignments?]
  · simp [hi]
  · rintro later rfl
    exact h rfl

theorem takeAssignments?_assignmentLexemes (first : Nat) (c : String) (columns : List String)
    (rest : List Token) (h : Free ',' rest) :
    takeAssignments? first (tokens (assignmentLexemes d first (c :: columns)) ++ rest)
      = some (c :: columns, rest) := by
  simp only [assignmentLexemes, tokens_commas]
  induction columns generalizing first c with
  | nil =>
      obtain ⟨i, hi, hfits⟩ := fits_placeIn d first
      simpa [withCommas, place, mark, ident, hi] using takeAssignments?_last c hfits h
  | cons next columns ih =>
      obtain ⟨i, hi, hfits⟩ := fits_placeIn d first
      have hrest := ih (first + 1) next
      simp only [List.zipIdx_cons, List.map_cons] at hrest ⊢
      simp only [withCommas, List.cons_append, List.nil_append, place, mark, ident, tokens_token,
        tokens_gap, tokens_nil, hi] at hrest ⊢
      rw [takeAssignments?, if_pos hfits, hrest]
      rfl

/-! ## Tables and filters -/

theorem takeTable?_tableLexemes (table : TableName) (rest : List Token) (h : Free '.' rest) :
    takeTable? (tokens (tableLexemes table) ++ rest) = some (table, rest) := by
  obtain ⟨schema, name⟩ := table
  cases schema with
  | none =>
      simp only [tableLexemes, ident, tokens_token, tokens_nil, List.cons_append, List.nil_append]
      rw [takeTable?]
      rintro table later rfl
      exact h rfl
  | some schema => rfl

def KeyFilter.Listed (filter : Option KeyFilter) : Prop :=
  ∀ f ∈ filter, f.count ≠ 0

theorem filterOf?_filterLexemes {filter : Option KeyFilter} (h : KeyFilter.Listed filter) :
    filterOf? (tokens (filterLexemes d filter)) = some filter := by
  cases filter with
  | none => rfl
  | some f =>
      obtain ⟨key, count⟩ := f
      obtain ⟨n, rfl⟩ := Nat.exists_eq_succ_of_ne_zero (h ⟨key, count⟩ rfl)
      have hplaces := takePlaces?_placeLexemes (d := d) 1 n [.mark ')'] (by simp [Free])
      simp only [filterLexemes, word, ident, mark, tokens_append, tokens_token, tokens_gap,
        tokens_nil, List.cons_append, List.nil_append, filterOf?]
      rw [hplaces, Nat.add_comm 1 n]
      rfl

theorem free_filterLexemes (c : Char) (filter : Option KeyFilter) :
    Free c (tokens (filterLexemes d filter)) := by
  cases filter <;> simp [Free, filterLexemes, word]

/-! ## Commands -/

/-- A command whose lists are not empty. -/
def Command.Listed : Command → Prop
  | .select columns _ filter => columns ≠ [] ∧ KeyFilter.Listed filter
  | .count _ => True
  | .insert _ columns places => columns ≠ [] ∧ places ≠ 0
  | .update _ columns _ => columns ≠ []
  | .delete _ filter => KeyFilter.Listed filter

theorem Command.ofTokens?_select {columns : List String} {table : TableName} {c : String}
    {names rest later : List Token}
    (hnames : takeNames? (.name c :: names) = some (columns, .word "FROM" :: rest))
    (htable : takeTable? rest = some (table, later)) :
    Command.ofTokens? (.word "SELECT" :: .name c :: names)
      = (filterOf? later).map (.select columns table) := by
  simp only [Command.ofTokens?, hnames, htable, Option.bind_eq_bind, Option.bind_some]

theorem tokens_nameLexemes_cons (c : String) (columns : List String) :
    ∃ names, tokens (nameLexemes (c :: columns)) = .name c :: names := by
  cases columns <;> simp [nameLexemes, ident, withCommas]

theorem Command.ofTokens?_lexemes {c : Command} (h : c.Listed) :
    Command.ofTokens? (tokens (c.lexemes d)) = some c := by
  cases c with
  | select columns table filter =>
      obtain ⟨hcolumns, hfilter⟩ := h
      obtain ⟨c, columns, rfl⟩ := List.exists_cons_of_ne_nil hcolumns
      obtain ⟨names, hnames⟩ := tokens_nameLexemes_cons c columns
      have hread := takeNames?_nameLexemes c columns
        (.word "FROM" :: (tokens (tableLexemes table) ++ tokens (filterLexemes d filter)))
        (by simp [Free])
      have htable := takeTable?_tableLexemes table _ (free_filterLexemes (d := d) '.' filter)
      simp only [Command.lexemes, word, tokens_append, tokens_token, tokens_gap, List.cons_append,
        List.nil_append, List.append_assoc]
      rw [hnames, List.cons_append] at hread ⊢
      rw [Command.ofTokens?_select hread htable, filterOf?_filterLexemes hfilter]
      rfl
  | count table =>
      have htable := takeTable?_tableLexemes table [] (by simp [Free])
      rw [List.append_nil] at htable
      simp only [Command.lexemes, word, mark, tokens_token, tokens_gap, List.cons_append,
        List.nil_append, Command.ofTokens?]
      rw [htable]
  | insert table columns places =>
      obtain ⟨hcolumns, hplaces⟩ := h
      obtain ⟨c, columns, rfl⟩ := List.exists_cons_of_ne_nil hcolumns
      obtain ⟨n, rfl⟩ := Nat.exists_eq_succ_of_ne_zero hplaces
      have hread := takePlaces?_placeLexemes (d := d) 1 n [.mark ')'] (by simp [Free])
      let values : List Token := .word "VALUES" :: .mark '('
        :: (tokens (placeLexemes d 1 (n + 1)) ++ [.mark ')'])
      have hnames := takeNames?_nameLexemes c columns (.mark ')' :: values) (by simp [Free])
      have htable := takeTable?_tableLexemes table
        (.mark '(' :: (tokens (nameLexemes (c :: columns)) ++ .mark ')' :: values))
        (by simp [Free])
      simp only [Command.lexemes, word, mark, tokens_append, tokens_token, tokens_gap, tokens_nil,
        List.cons_append, List.nil_append, List.append_assoc, Command.ofTokens?]
      simp only [values] at hnames htable
      simp only [htable, Option.bind_eq_bind, Option.bind_some, insertOf?, hnames, hread,
        Nat.succ_eq_add_one, Nat.add_comm 1 n]
  | update table columns key =>
      obtain ⟨c, columns, rfl⟩ := List.exists_cons_of_ne_nil h
      obtain ⟨i, hi, hfits⟩ := fits_placeIn d ((c :: columns).length + 1)
      let filter : List Token := [.word "WHERE", .name key, .mark '=', .place i]
      have hread := takeAssignments?_assignmentLexemes (d := d) 1 c columns filter
        (by simp [Free, filter])
      have htable := takeTable?_tableLexemes table
        (.word "SET" :: (tokens (assignmentLexemes d 1 (c :: columns)) ++ filter))
        (by simp [Free])
      simp only [Command.lexemes, word, mark, ident, place, tokens_append, tokens_token,
        tokens_gap, tokens_nil, List.cons_append, List.nil_append, List.append_assoc,
        Command.ofTokens?, hi]
      simp only [filter] at hread htable
      simp only [htable, Option.bind_eq_bind, Option.bind_some, updateOf?, hread, if_pos hfits]
  | delete table filter =>
      have htable := takeTable?_tableLexemes table _ (free_filterLexemes (d := d) '.' filter)
      simp only [Command.lexemes, word, tokens_append, tokens_token, tokens_gap, List.cons_append,
        List.nil_append, Command.ofTokens?]
      rw [htable]
      simp only [Option.bind_eq_bind, Option.bind_some, filterOf?_filterLexemes h, Option.map_some]

/-! ## Spelling -/

/-- Lexemes that are scanned back into their tokens. -/
structure Spelled (d : Dialect) (lexemes : List Lexeme) : Prop where
  plain : ∀ l ∈ lexemes, l.Plain d
  apart : lexemes.IsChain Lexeme.Apart

namespace Spelled

variable {xs ys lexemes : List Lexeme}

theorem nil : Spelled d [] :=
  ⟨by simp, .nil⟩

theorem append (hxs : Spelled d xs) (hys : Spelled d ys) (hstops : ∀ l ∈ ys.head?, l.Stops) :
    Spelled d (xs ++ ys) := by
  refine ⟨?_, ?_⟩
  · intro l hl
    rcases List.mem_append.mp hl with hl | hl
    · exact hxs.plain l hl
    · exact hys.plain l hl
  · exact List.isChain_append.mpr ⟨hxs.apart, hys.apart, fun _ _ l hl ↦ .inr (hstops l hl)⟩

theorem token {t : Token} (ht : t.Plain d) (h : Spelled d lexemes)
    (hstops : ∀ l ∈ lexemes.head?, l.Stops) : Spelled d (.token t :: lexemes) := by
  have hsingle : Spelled d [.token t] := ⟨List.forall_mem_singleton.mpr ht, .singleton _⟩
  exact hsingle.append h hstops

theorem stop {l : Lexeme} (hplain : l.Plain d) (hstops : l.Stops) (h : Spelled d lexemes) :
    Spelled d (l :: lexemes) := by
  refine ⟨?_, List.isChain_cons.mpr ⟨fun _ _ ↦ .inl hstops, h.apart⟩⟩
  intro l' hl'
  rcases List.mem_cons.mp hl' with rfl | hl'
  · exact hplain
  · exact h.plain l' hl'

theorem gap (h : Spelled d lexemes) : Spelled d (.gap :: lexemes) :=
  h.stop trivial trivial

theorem mark {c : Char} (hc : isMark c = true) (h : Spelled d lexemes) :
    Spelled d (Sql.mark c :: lexemes) :=
  h.stop hc trivial

theorem commas {items : List (List Lexeme)} (h : ∀ item ∈ items, Spelled d item) :
    Spelled d (Sql.commas items) := by
  induction items with
  | nil => exact nil
  | cons item rest ih =>
      have hitem : Spelled d item := h item List.mem_cons_self
      cases rest with
      | nil => exact hitem
      | cons next rest =>
          have hrest := ih fun i hi ↦ h i (List.mem_cons_of_mem item hi)
          exact hitem.append (hrest.gap.mark rfl) (by simp)

theorem nameLexemes (columns : List String) : Spelled d (Sql.nameLexemes columns) := by
  apply commas
  simp only [List.mem_map]
  rintro item ⟨c, -, rfl⟩
  exact nil.token trivial (by simp)

theorem placeLexemes (first count : Nat) : Spelled d (Sql.placeLexemes d first count) := by
  apply commas
  simp only [List.mem_map]
  rintro item ⟨i, -, rfl⟩
  exact nil.token (Token.plain_placeIn d i) (by simp)

theorem assignmentLexemes (first : Nat) (columns : List String) :
    Spelled d (Sql.assignmentLexemes d first columns) := by
  apply commas
  simp only [List.mem_map]
  rintro item ⟨⟨c, i⟩, -, rfl⟩
  have hplace := nil.token (Token.plain_placeIn d i) (by simp)
  exact (hplace.gap.mark rfl).gap.token trivial (by simp)

theorem tableLexemes (table : TableName) : Spelled d (Sql.tableLexemes table) := by
  obtain ⟨schema, name⟩ := table
  have hname : Spelled d [ident name] := nil.token trivial (by simp)
  cases schema with
  | none => exact hname
  | some schema => exact (hname.mark rfl).token trivial (by simp)

theorem word (h : Spelled d lexemes) (letters : String) (hne : letters ≠ "")
    (hletters : letters.toList.all isLetter = true) (hstops : ∀ l ∈ lexemes.head?, l.Stops) :
    Spelled d (Sql.word letters :: lexemes) :=
  h.token ⟨hne, List.all_eq_true.mp hletters⟩ hstops

theorem filterLexemes (filter : Option KeyFilter) : Spelled d (Sql.filterLexemes d filter) := by
  cases filter with
  | none => exact nil
  | some f =>
      have hplaces := (placeLexemes (d := d) 1 f.count).append (nil.mark (c := ')') rfl) (by simp)
      have hin := (hplaces.mark (c := '(') rfl).gap.word "IN" (by decide) rfl (by simp)
      have hkey : Spelled d (ident f.key :: .gap :: Sql.word "IN" :: _) :=
        hin.gap.token trivial (by simp)
      simpa [Sql.filterLexemes] using
        (hkey.gap.word "WHERE" (by decide) rfl (by simp)).gap

theorem select (columns : List String) (table : TableName) (filter : Option KeyFilter) :
    Spelled d ((Command.select columns table filter).lexemes d) := by
  have hfrom := (tableLexemes (d := d) table).append (filterLexemes filter)
    (by cases filter <;> simp [Sql.filterLexemes])
  have hnames := (nameLexemes (d := d) columns).append
    (hfrom.gap.word "FROM" (by decide) rfl (by simp)).gap (by simp)
  simpa [Command.lexemes] using
    hnames.gap.word "SELECT" (by decide) rfl (by simp)

theorem count (table : TableName) : Spelled d ((Command.count table).lexemes d) := by
  have hfrom := (tableLexemes (d := d) table).gap.word "FROM" (by decide) rfl (by simp)
  have hstar := ((hfrom.gap.mark (c := ')') rfl).mark (c := '*') rfl).mark (c := '(') rfl
  have hcount := hstar.word "COUNT" (by decide) rfl (by simp)
  simpa [Command.lexemes] using hcount.gap.word "SELECT" (by decide) rfl (by simp)

theorem insert (table : TableName) (columns : List String) (places : Nat) :
    Spelled d ((Command.insert table columns places).lexemes d) := by
  have hplaces := (placeLexemes (d := d) 1 places).append (nil.mark (c := ')') rfl) (by simp)
  have hvalues := (hplaces.mark (c := '(') rfl).gap.word "VALUES" (by decide) rfl
    (by simp)
  have hnames := (nameLexemes (d := d) columns).append (hvalues.gap.mark (c := ')') rfl) (by simp)
  have htable := (tableLexemes (d := d) table).append (hnames.mark (c := '(') rfl).gap (by simp)
  have hinto := htable.gap.word "INTO" (by decide) rfl (by simp)
  simpa [Command.lexemes] using hinto.gap.word "INSERT" (by decide) rfl (by simp)

theorem update (table : TableName) (columns : List String) (key : String) :
    Spelled d ((Command.update table columns key).lexemes d) := by
  have hplace := nil.token (Token.plain_placeIn d (columns.length + 1)) (by simp)
  have hkey : Spelled d (ident key :: _) :=
    (hplace.gap.mark (c := '=') rfl).gap.token trivial (by simp)
  have hwhere := (hkey.gap.word "WHERE" (by decide) rfl (by simp)).gap
  have hset := ((assignmentLexemes (d := d) 1 columns).append hwhere (by simp)).gap.word
    "SET" (by decide) rfl (by simp)
  have htable := (tableLexemes (d := d) table).append hset.gap (by simp)
  simpa [Command.lexemes, place] using
    htable.gap.word "UPDATE" (by decide) rfl (by simp)

theorem delete (table : TableName) (filter : Option KeyFilter) :
    Spelled d ((Command.delete table filter).lexemes d) := by
  have htable := (tableLexemes (d := d) table).append (filterLexemes filter)
    (by cases filter <;> simp [Sql.filterLexemes])
  have hfrom := htable.gap.word "FROM" (by decide) rfl (by simp)
  simpa [Command.lexemes] using hfrom.gap.word "DELETE" (by decide) rfl (by simp)

theorem command (c : Command) : Spelled d (c.lexemes d) := by
  cases c with
  | select columns table filter => exact select columns table filter
  | count table => exact count table
  | insert table columns places => exact insert table columns places
  | update table columns key => exact update table columns key
  | delete table filter => exact delete table filter

end Spelled

theorem Command.scan_render (c : Command) :
    scan d (c.render d).toList = some (tokens (c.lexemes d)) := by
  have h := Spelled.command (d := d) c
  rw [Command.render, String.toList_ofList]
  exact scan_spell h.plain h.apart

/-- The text of a command is read back as the command. -/
theorem Command.read?_render {c : Command} (h : c.Listed) :
    Command.read? d (c.render d) = some c := by
  simp only [Command.read?, Command.scan_render, Option.bind_eq_bind, Option.bind_some]
  exact Command.ofTokens?_lexemes h

end RecordStore.Sql
