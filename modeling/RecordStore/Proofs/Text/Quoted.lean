import RecordStore.Proofs.Number.ReadBack
import RecordStore.Text.Quoted

namespace RecordStore.Text

/-!
# Quoted texts are told apart

The escape of a character can be split off the front of whatever follows it, so a text is determined
by its quoted form. Inside of the quotes every quote stands behind a backslash, and so the opening
quote can be found from the closing one.
-/

/-- A place in a text is another one, or stands before or behind it. -/
theorem append_cons_cases {before before' behind behind' : List Char} {c c' : Char}
    (h : before ++ c :: behind = before' ++ c' :: behind') :
    (before = before' ∧ c = c' ∧ behind = behind') ∨
      (∃ between, before' = before ++ c :: between ∧ behind = between ++ c' :: behind') ∨
      ∃ between, before = before' ++ c' :: between ∧ behind' = between ++ c :: behind := by
  rcases List.append_eq_append_iff.mp h with ⟨gap, hbefore, hbehind⟩ | ⟨gap, hbefore, hbehind⟩
  · rcases List.cons_eq_append_iff.mp hbehind with ⟨rfl, hsame⟩ | ⟨between, rfl, hrest⟩
    · obtain ⟨rfl, rfl⟩ := List.cons.inj hsame
      exact .inl ⟨by rw [hbefore, List.append_nil], rfl, rfl⟩
    · exact .inr (.inl ⟨between, hbefore, hrest⟩)
  · rcases List.cons_eq_append_iff.mp hbehind with ⟨rfl, hsame⟩ | ⟨between, rfl, hrest⟩
    · obtain ⟨rfl, rfl⟩ := List.cons.inj hsame
      exact .inl ⟨by rw [hbefore, List.append_nil], rfl, rfl⟩
    · exact .inr (.inr ⟨between, hbefore, hrest⟩)

/-! ## Escapes -/

/-- The characters that have an escape with a letter, each with its letter. -/
def lettered : List (Char × Char) :=
  [('"', '"'), ('\\', '\\'), ('\n', 'n'), ('\r', 'r'), ('\t', 't'), ('\x00', '0')]

theorem mem_lettered_of_shortEscape? {c letter : Char} (h : shortEscape? c = some letter) :
    (c, letter) ∈ lettered := by
  unfold shortEscape? at h
  split at h <;> cases h <;> decide

theorem eq_of_mem_lettered {c d letter : Char} (hc : (c, letter) ∈ lettered)
    (hd : (d, letter) ∈ lettered) : c = d :=
  (by decide : ∀ p ∈ lettered, ∀ q ∈ lettered, p.2 = q.2 → p.1 = q.1) _ hc _ hd rfl

theorem ne_of_mem_lettered {c letter : Char} (h : (c, letter) ∈ lettered) : letter ≠ 'u' :=
  (by decide : ∀ p ∈ lettered, p.2 ≠ 'u') _ h

/-- How a character may be written between quotes. -/
inductive EscapedAs : Char → List Char → Prop
  | letter {c letter : Char} : (c, letter) ∈ lettered → EscapedAs c ['\\', letter]
  | plain {c : Char} : c ≠ '"' → c ≠ '\\' → EscapedAs c [c]
  | number (c : Char) : EscapedAs c ('\\' :: 'u' :: '{' :: (Nat.toDigits 16 c.toNat ++ ['}']))

theorem escapedAs_escape (c : Char) : EscapedAs c (escape c) := by
  unfold escape
  split
  · next letter hletter => exact .letter (mem_lettered_of_shortEscape? hletter)
  · next hnone =>
    split
    · refine .plain ?_ ?_
      all_goals
        rintro rfl
        cases hnone
    · exact .number c

theorem escape_ne_nil (c : Char) : escape c ≠ [] := by
  have h := escapedAs_escape c
  generalize escape c = written at h
  cases h <;> exact List.cons_ne_nil _ _

theorem toDigits_append_inj {m n : Nat} {rest rest' : List Char}
    (h : Nat.toDigits 16 m ++ '}' :: rest = Nat.toDigits 16 n ++ '}' :: rest') :
    m = n ∧ rest = rest' := by
  have hclosing (k : Nat) : '}' ∉ Nat.toDigits 16 k := by
    intro hmem
    obtain ⟨d, hd, hdigit⟩ := exists_of_mem_toDigits (by decide) hmem
    exact (by decide : ∀ d < 16, '}' ≠ Nat.digitChar d) d hd hdigit
  rcases append_cons_cases h with ⟨hdigits, -, hrest⟩ | ⟨between, hn, -⟩ | ⟨between, hm, -⟩
  · have hread := readHex?_toDigits m
    rw [hdigits, readHex?_toDigits] at hread
    exact ⟨(Option.some.inj hread).symm, hrest⟩
  · exact absurd (hn ▸ List.mem_append_right _ List.mem_cons_self) (hclosing n)
  · exact absurd (hm ▸ List.mem_append_right _ List.mem_cons_self) (hclosing m)

theorem EscapedAs.append_inj {c d : Char} {written written' rest rest' : List Char}
    (hc : EscapedAs c written) (hd : EscapedAs d written')
    (h : written ++ rest = written' ++ rest') : c = d ∧ rest = rest' := by
  cases hc with
  | letter hletter =>
      cases hd with
      | letter hletter' =>
          obtain ⟨-, rfl, hrest⟩ : '\\' = '\\' ∧ _ = _ ∧ rest = rest' := by simpa using h
          exact ⟨eq_of_mem_lettered hletter hletter', hrest⟩
      | plain _ hbackslash => exact absurd (List.cons.inj h).1.symm hbackslash
      | number =>
          exact absurd (List.cons.inj (List.cons.inj h).2).1 (ne_of_mem_lettered hletter)
  | plain _ hbackslash =>
      cases hd with
      | plain => exact List.cons.inj h
      | _ => exact absurd (List.cons.inj h).1 hbackslash
  | number =>
      cases hd with
      | letter hletter =>
          exact absurd (List.cons.inj (List.cons.inj h).2).1.symm (ne_of_mem_lettered hletter)
      | plain _ hbackslash => exact absurd (List.cons.inj h).1.symm hbackslash
      | number =>
          simp only [List.cons_append, List.append_assoc, List.nil_append, List.cons.injEq,
            true_and] at h
          obtain ⟨hnumber, hrest⟩ := toDigits_append_inj h
          exact ⟨Char.toNat_inj.mp hnumber, hrest⟩

/-- An escape is split off the front of whatever follows it. -/
theorem escape_append_inj {c d : Char} {rest rest' : List Char}
    (h : escape c ++ rest = escape d ++ rest') : c = d ∧ rest = rest' :=
  (escapedAs_escape c).append_inj (escapedAs_escape d) h

/-- A quote in an escape is the second character of the escape. -/
theorem eq_of_escape_eq_append {c : Char} {before behind : List Char}
    (h : escape c = before ++ '"' :: behind) : before = ['\\'] := by
  have hc := escapedAs_escape c
  rw [h] at hc
  generalize hwritten : before ++ '"' :: behind = written at hc
  cases hc with
  | letter hletter =>
      rcases before with _ | ⟨first, _ | ⟨second, before⟩⟩
      · cases (List.cons.inj hwritten).1
      · rw [(List.cons.inj hwritten).1]
      · cases before <;> simp at hwritten
  | plain hquote _ =>
      rcases before with _ | ⟨first, before⟩
      · exact absurd (List.cons.inj hwritten).1.symm hquote
      · cases before <;> simp at hwritten
  | number =>
      have hmem : '"' ∈ '\\' :: 'u' :: '{' :: (Nat.toDigits 16 c.toNat ++ ['}']) := by
        rw [← hwritten]
        exact List.mem_append_right _ List.mem_cons_self
      simp only [List.mem_cons, List.mem_append, List.not_mem_nil, or_false, Char.reduceEq,
        false_or] at hmem
      obtain ⟨d, hd, hdigit⟩ := exists_of_mem_toDigits (by decide) hmem
      exact absurd hdigit ((by decide : ∀ d < 16, '"' ≠ Nat.digitChar d) d hd)

/-! ## Texts -/

theorem flatMap_escape_injective : Function.Injective (List.flatMap escape) := by
  intro s t h
  induction s generalizing t with
  | nil =>
      cases t with
      | nil => rfl
      | cons d t => exact absurd (List.append_eq_nil_iff.mp h.symm).1 (escape_ne_nil d)
  | cons c s ih =>
      cases t with
      | nil => exact absurd (List.append_eq_nil_iff.mp h).1 (escape_ne_nil c)
      | cons d t =>
          rw [List.flatMap_cons, List.flatMap_cons] at h
          obtain ⟨rfl, hrest⟩ := escape_append_inj h
          rw [ih hrest]

/-- Every quote among escapes stands behind a backslash. -/
theorem getLast?_of_flatMap_escape {s before behind : List Char}
    (h : s.flatMap escape = before ++ '"' :: behind) : before.getLast? = some '\\' := by
  induction s generalizing before with
  | nil => cases before <;> cases h
  | cons c s ih =>
      rw [List.flatMap_cons] at h
      rcases List.append_eq_append_iff.mp h with ⟨gap, rfl, hrest⟩ | ⟨gap, hescape, hrest⟩
      · rw [List.getLast?_append, ih hrest, Option.some_or]
      · rcases List.cons_eq_append_iff.mp hrest with ⟨rfl, hfirst⟩ | ⟨inside, rfl, -⟩
        · -- behind the escape no quote comes first
          cases @ih [] hfirst
        · rw [eq_of_escape_eq_append hescape]
          rfl

theorem quotedChars_injective : Function.Injective quotedChars := by
  intro s t h
  exact flatMap_escape_injective (List.append_cancel_right (List.cons.inj h).2)

theorem getLast?_quotedChars (s : List Char) : (quotedChars s).getLast? = some '"' := by
  rw [quotedChars, ← List.cons_append, List.getLast?_concat]

/-- A quoted text is not the end of another one, behind anything but a quote or a backslash. -/
theorem quotedChars_ne_append {c : Char} (hquote : c ≠ '"') (hbackslash : c ≠ '\\')
    (s t before : List Char) : quotedChars s ≠ before ++ c :: quotedChars t := by
  intro h
  have hclosed : '"' :: s.flatMap escape ++ ['"']
      = before ++ c :: '"' :: t.flatMap escape ++ ['"'] := by
    simpa [quotedChars] using h
  have hinner := List.append_cancel_right hclosed
  cases before with
  | nil => exact hquote (List.cons.inj hinner).1.symm
  | cons first before =>
      have hescaped : s.flatMap escape = (before ++ [c]) ++ '"' :: t.flatMap escape := by
        rw [List.append_assoc]
        exact (List.cons.inj hinner).2
      have hlast := getLast?_of_flatMap_escape hescaped
      rw [List.getLast?_concat] at hlast
      exact hbackslash (Option.some.inj hlast)

end RecordStore.Text
