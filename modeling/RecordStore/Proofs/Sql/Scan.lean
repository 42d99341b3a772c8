import Mathlib.Data.List.Chain
import RecordStore.Sql.Command

namespace RecordStore.Sql

/-!
# Scanning what has been spelled

Lexemes of which any two neighbours are kept apart by a blank or a mark are scanned back into their
tokens. The induction is on the lexemes; it carries the scanner's state, which is that of a token
whose end the scanner has not seen yet.
-/

variable {d : Dialect}

namespace Token

/-- A token that the scanner of the dialect knows. -/
def Plain (d : Dialect) : Token → Prop
  | word letters => letters ≠ "" ∧ ∀ c ∈ letters.toList, isLetter c = true
  | name _ => True
  | place index => index.isSome = d.numbersPlaces
  | mark c => isMark c = true

/-- The scanner's state after the characters of a token. A mark ends at once. -/
def pending (d : Dialect) : Token → Scanning
  | word letters => .word letters.toList.reverse
  | name identifier => .nameClosed identifier.toList.reverse
  | place index => .place ((place index).spell d).reverse
  | mark _ => .between

/-- What the scanner has given out after the characters of a token. -/
def given : Token → List Token
  | mark c => [mark c]
  | _ => []

/-- What the scanner still holds back after the characters of a token. -/
def heldBack : Token → List Token
  | mark _ => []
  | t => [t]

@[simp] theorem given_append_heldBack (t : Token) : t.given ++ t.heldBack = [t] := by
  cases t <;> rfl

theorem plain_placeIn (d : Dialect) (index : Nat) : (placeIn d index).Plain d := by
  cases d <;> rfl

end Token

namespace Lexeme

def Plain (d : Dialect) : Lexeme → Prop
  | token t => t.Plain d
  | gap => True

/-- Blanks and marks never go on, and nothing else goes on with one of them. -/
def Stops : Lexeme → Prop
  | gap => True
  | token (.mark _) => True
  | token _ => False

/-- Two neighbours that cannot be read as one. -/
def Apart (a b : Lexeme) : Prop :=
  a.Stops ∨ b.Stops

@[simp] theorem stops_gap : gap.Stops := trivial

@[simp] theorem stops_mark (c : Char) : (Sql.mark c).Stops := trivial

@[simp] theorem apart_gap_left (b : Lexeme) : Apart gap b := .inl trivial

@[simp] theorem apart_gap_right (a : Lexeme) : Apart a gap := .inr trivial

@[simp] theorem apart_mark_left (c : Char) (b : Lexeme) : Apart (Sql.mark c) b := .inl trivial

@[simp] theorem apart_mark_right (a : Lexeme) (c : Char) : Apart a (Sql.mark c) := .inr trivial

end Lexeme

/-! ## One character -/

theorem isLetter_bounds {c : Char} (h : isLetter c = true) : 65 ≤ c.toNat ∧ c.toNat ≤ 90 := by
  simp only [isLetter, Bool.and_eq_true, decide_eq_true_eq] at h
  exact h

theorem ne_of_isLetter {c c' : Char} (h : isLetter c = true)
    (hc' : c'.toNat < 65 ∨ 90 < c'.toNat) : c ≠ c' := by
  rintro rfl
  have := isLetter_bounds h
  omega

theorem isMark_cases {c : Char} (h : isMark c = true) :
    c = '(' ∨ c = ')' ∨ c = ',' ∨ c = '.' ∨ c = '=' ∨ c = '*' := by
  simpa [isMark] using h

theorem extend?_word {c : Char} (h : isLetter c = true) (done : List Char) :
    extend? d c (.word done) = some (.word (c :: done)) := by
  simp [extend?, h]

theorem start?_letter {c : Char} (h : isLetter c = true) :
    start? d c = some ([], .word [c]) := by
  have hblank : c ≠ ' ' := ne_of_isLetter h (by decide)
  have hopening : c ≠ d.quoting.opening := ne_of_isLetter h (by cases d <;> decide)
  have hhead : d.placeHead.head? ≠ some c := by
    cases d <;> simp only [Dialect.placeHead, List.head?_cons, ne_eq, Option.some.injEq] <;>
      exact (ne_of_isLetter h (by decide)).symm
  have hmark : isMark c = false := by
    apply Bool.eq_false_iff.mpr
    intro hm
    rcases isMark_cases hm with rfl | rfl | rfl | rfl | rfl | rfl <;> exact absurd h (by decide)
  simp [start?, hblank, hopening, hhead, hmark, h]

theorem start?_mark {c : Char} (h : isMark c = true) :
    start? d c = some ([.mark c], .between) := by
  rcases isMark_cases h with rfl | rfl | rfl | rfl | rfl | rfl <;> cases d <;> decide

theorem start?_opening (d : Dialect) : start? d d.quoting.opening = some ([], .name []) := by
  cases d <;> decide

theorem extend?_pending_blank (t : Token) : extend? d ' ' (t.pending d) = none := by
  cases t <;> cases d <;> rfl

theorem extend?_pending_mark (t : Token) {c : Char} (h : isMark c = true) :
    extend? d c (t.pending d) = none := by
  rcases isMark_cases h with rfl | rfl | rfl | rfl | rfl | rfl <;> cases t <;> cases d <;> rfl

/-! ## One token -/

theorem scanFrom_extend {c : Char} {state next : Scanning} (h : extend? d c state = some next)
    (rest : List Char) : scanFrom d state (c :: rest) = scanFrom d next rest := by
  simp [scanFrom, h]

theorem scanFrom_start {c : Char} {state next : Scanning} {done found : List Token}
    (hend : extend? d c state = none) (hdone : finish? d state = some done)
    (hstart : start? d c = some (found, next)) (rest : List Char) :
    scanFrom d state (c :: rest) = (scanFrom d next rest).map (done ++ found ++ ·) := by
  simp only [scanFrom, hend, hdone, hstart, Option.bind_eq_bind, Option.bind_some]
  cases scanFrom d next rest <;> simp

theorem scanFrom_letters {letters : List Char} (h : ∀ c ∈ letters, isLetter c = true)
    (done rest : List Char) :
    scanFrom d (.word done) (letters ++ rest)
      = scanFrom d (.word (letters.reverse ++ done)) rest := by
  induction letters generalizing done with
  | nil => rfl
  | cons c letters ih =>
      have hc : isLetter c = true := h c (by simp)
      rw [List.cons_append, scanFrom_extend (extend?_word hc done),
        ih fun c' hc' ↦ h c' (List.mem_cons_of_mem c hc')]
      simp

theorem scanFrom_double (identifier done rest : List Char) :
    scanFrom d (.name done) (d.quoting.double identifier ++ rest)
      = scanFrom d (.name (identifier.reverse ++ done)) rest := by
  induction identifier generalizing done with
  | nil => rfl
  | cons c identifier ih =>
      by_cases hc : c = d.quoting.closing
      · have hclosed : extend? d c (.name done) = some (.nameClosed done) := by simp [extend?, hc]
        have hagain : extend? d c (.nameClosed done) = some (.name (c :: done)) := by
          simp [extend?, hc]
        rw [hc, Quoting.double_cons_closing, ← hc, List.cons_append, List.cons_append,
          scanFrom_extend hclosed, scanFrom_extend hagain, ih]
        simp
      · have hinside : extend? d c (.name done) = some (.name (c :: done)) := by simp [extend?, hc]
        rw [Quoting.double_cons_of_ne _ hc, List.cons_append, scanFrom_extend hinside, ih]
        simp

theorem scanFrom_placeChars {chars : List Char}
    (h : ∀ c ∈ chars, isLetter c = true ∨ c.isDigit = true) (done rest : List Char) :
    scanFrom d (.place done) (chars ++ rest)
      = scanFrom d (.place (chars.reverse ++ done)) rest := by
  induction chars generalizing done with
  | nil => rfl
  | cons c chars ih =>
      have hc : extend? d c (.place done) = some (.place (c :: done)) := by
        simp only [extend?, Bool.or_eq_true, h c List.mem_cons_self, if_true]
      rw [List.cons_append, scanFrom_extend hc,
        ih fun c' hc' ↦ h c' (List.mem_cons_of_mem c hc')]
      simp

theorem spell_place (d : Dialect) (index : Option Nat) :
    ∃ c rest, (Token.place index).spell d = c :: rest ∧ start? d c = some ([], .place [c]) ∧
      ∀ c' ∈ rest, isLetter c' = true ∨ c'.isDigit = true := by
  have hdigits : ∀ c' ∈ (index.map (Nat.toDigits 10)).getD [],
      isLetter c' = true ∨ c'.isDigit = true := by
    intro c' hc'
    cases index with
    | none => simp at hc'
    | some i => exact .inr (Nat.isDigit_of_mem_toDigits (by decide) (by decide) hc')
  cases d with
  | mssql =>
      refine ⟨'@', 'P' :: (index.map (Nat.toDigits 10)).getD [], rfl, by decide, ?_⟩
      intro c' hc'
      rcases List.mem_cons.mp hc' with rfl | hc'
      · exact .inl (by decide)
      · exact hdigits c' hc'
  | mysql => exact ⟨'?', _, rfl, by decide, hdigits⟩
  | postgres => exact ⟨'$', _, rfl, by decide, hdigits⟩
  | sqlite => exact ⟨'?', _, rfl, by decide, hdigits⟩

theorem placeOf?_spell {index : Option Nat} (h : (Token.place index).Plain d) :
    placeOf? d ((Token.place index).spell d) = some (.place index) := by
  have hplain : index.isSome = d.numbersPlaces := h
  have hrest : d.placeHead.isPrefixOf? ((Token.place index).spell d)
      = some ((index.map (Nat.toDigits 10)).getD []) := by
    cases d <;> simp [Token.spell, Dialect.placeHead, List.isPrefixOf?]
  cases index with
  | none =>
      have hnumbers : d.numbersPlaces = false := by simpa using hplain.symm
      simp [placeOf?, hrest, hnumbers]
  | some i =>
      have hnumbers : d.numbersPlaces = true := by simpa using hplain.symm
      have hdigits : (Nat.toDigits 10 i).all Char.isDigit = true := by
        rw [List.all_eq_true]
        exact fun c hc ↦ Nat.isDigit_of_mem_toDigits (by decide) (by decide) hc
      simp [placeOf?, hrest, hnumbers, hdigits, Nat.toDigits_ne_nil]

theorem finish?_pending {t : Token} (h : t.Plain d) :
    finish? d (t.pending d) = some t.heldBack := by
  cases t with
  | word letters => simp [Token.pending, finish?, Token.heldBack]
  | name identifier => simp [Token.pending, finish?, Token.heldBack]
  | place index => simp [Token.pending, finish?, placeOf?_spell h, Token.heldBack]
  | mark c => rfl

/-- The scanner reads through a token, provided that the token before it has ended. -/
theorem scanFrom_token {t : Token} (h : t.Plain d) {state : Scanning} {done : List Token}
    (hend : ∀ c ∈ (t.spell d).head?, extend? d c state = none)
    (hdone : finish? d state = some done) (rest : List Char) :
    scanFrom d state (t.spell d ++ rest)
      = (scanFrom d (t.pending d) rest).map (done ++ t.given ++ ·) := by
  cases t with
  | word letters =>
      obtain ⟨hne, hletters⟩ := h
      cases hchars : letters.toList with
      | nil => exact absurd (String.toList_eq_nil_iff.mp hchars) hne
      | cons c chars =>
          rw [hchars] at hletters
          have hstart := scanFrom_start (hend c (by simp [Token.spell, hchars])) hdone
            (start?_letter (d := d) (hletters c (by simp)))
          simp only [Token.spell, hchars, List.cons_append, hstart, Token.given, Token.pending]
          rw [scanFrom_letters fun c' hc' ↦ hletters c' (List.mem_cons_of_mem c hc')]
          simp
  | name identifier =>
      have hstart := scanFrom_start (hend d.quoting.opening rfl) hdone (start?_opening d)
      have hclose : extend? d d.quoting.closing (.name identifier.toList.reverse)
          = some (.nameClosed identifier.toList.reverse) := by simp [extend?]
      simp only [Token.spell, Quoting.wrap, List.cons_append, List.append_assoc, hstart,
        scanFrom_double, List.append_nil, List.nil_append, scanFrom_extend hclose, Token.given,
        Token.pending]
  | place index =>
      obtain ⟨c, chars, hchars, hc, hrest⟩ := spell_place d index
      have hstart := scanFrom_start (hend c (by simp [hchars])) hdone hc
      simp only [Token.pending, hchars, List.cons_append, hstart, Token.given]
      rw [scanFrom_placeChars hrest]
      simp
  | mark c => exact scanFrom_start (hend c rfl) hdone (start?_mark h) rest

/-! ## Whole statements -/

theorem head?_spell_stops {l : Lexeme} (hplain : l.Plain d) (hstops : l.Stops) {t : Token} :
    ∀ c ∈ (l.spell d).head?, extend? d c (t.pending d) = none := by
  intro c hc
  match l, hstops with
  | .gap, _ =>
      obtain rfl : ' ' = c := by simpa [Lexeme.spell] using hc
      exact extend?_pending_blank t
  | .token (.mark m), _ =>
      obtain rfl : m = c := by simpa [Lexeme.spell, Token.spell] using hc
      exact extend?_pending_mark t hplain

/-- What the scanner holds after a lexeme is ended by any lexeme that is kept apart from it. -/
theorem extend?_pending_of_apart {t : Token} {l : Lexeme} (hplain : l.Plain d)
    (hapart : Lexeme.Apart (.token t) l) :
    ∀ c ∈ (l.spell d).head?, extend? d c (t.pending d) = none := by
  rcases hapart with ht | hl
  · intro c _
    match t, ht with
    | .mark _, _ => rfl
  · exact head?_spell_stops hplain hl

theorem scanFrom_spell {lexemes : List Lexeme} (hplain : ∀ l ∈ lexemes, l.Plain d)
    (hapart : lexemes.IsChain Lexeme.Apart) {state : Scanning} {done : List Token}
    (hend : ∀ l ∈ lexemes.head?, ∀ c ∈ (l.spell d).head?, extend? d c state = none)
    (hdone : finish? d state = some done) :
    scanFrom d state (spell d lexemes) = some (done ++ lexemes.filterMap Lexeme.token?) := by
  induction lexemes generalizing state done with
  | nil => simp [spell, scanFrom, hdone]
  | cons l lexemes ih =>
      have hplain' : ∀ l' ∈ lexemes, l'.Plain d :=
        fun l' hl' ↦ hplain l' (List.mem_cons_of_mem l hl')
      have hapart' : lexemes.IsChain Lexeme.Apart := hapart.tail
      have hspell : spell d (l :: lexemes) = l.spell d ++ spell d lexemes := rfl
      rw [hspell]
      cases l with
      | gap =>
          have hblank : start? d ' ' = some ([], .between) := rfl
          have hrest : scanFrom d .between (spell d lexemes)
              = some ([] ++ lexemes.filterMap Lexeme.token?) :=
            ih hplain' hapart' (fun _ _ _ _ ↦ rfl) rfl
          simp only [Lexeme.spell, List.singleton_append]
          rw [scanFrom_start (hend .gap rfl ' ' rfl) hdone hblank, hrest]
          simp [List.filterMap_cons, Lexeme.token?]
      | token t =>
          have ht : t.Plain d := hplain (.token t) List.mem_cons_self
          have hnext : ∀ l' ∈ lexemes.head?, ∀ c ∈ (l'.spell d).head?,
              extend? d c (t.pending d) = none := by
            intro l' hl'
            cases lexemes with
            | nil => simp at hl'
            | cons l'' lexemes =>
                obtain rfl : l'' = l' := by simpa using hl'
                exact extend?_pending_of_apart (hplain' l'' List.mem_cons_self)
                  (List.isChain_cons_cons.mp hapart).1
          have hrest := ih hplain' hapart' hnext (finish?_pending ht)
          simp only [Lexeme.spell]
          rw [scanFrom_token ht (hend (.token t) rfl) hdone, hrest]
          simp only [Option.map_some, List.filterMap_cons, Lexeme.token?, Option.some.injEq]
          rw [← List.append_assoc, List.append_assoc done, Token.given_append_heldBack]
          simp

/-- A spelled statement is scanned back into its tokens. -/
theorem scan_spell {lexemes : List Lexeme} (hplain : ∀ l ∈ lexemes, l.Plain d)
    (hapart : lexemes.IsChain Lexeme.Apart) :
    scan d (spell d lexemes) = some (lexemes.filterMap Lexeme.token?) := by
  have h : scanFrom d .between (spell d lexemes)
      = some ([] ++ lexemes.filterMap Lexeme.token?) :=
    scanFrom_spell hplain hapart (fun _ _ _ _ ↦ rfl) rfl
  simpa [scan] using h

end RecordStore.Sql
