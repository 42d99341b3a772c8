import RecordStore.Proofs.Number.ReadBack
import RecordStore.Uuid

namespace RecordStore

/-!
# Identifiers that are read back

The hyphenated text of an identifier is read as that identifier. Its digits hold no hyphen, so
taking the hyphens out leaves the digits, and cutting these into the same groups gives the text
again.
-/

/-! ## Parts between separators -/

theorem filter_intercalate {c : Char} {parts : List (List Char)} (h : ∀ p ∈ parts, c ∉ p) :
    (List.intercalate [c] parts).filter (· != c) = parts.flatten := by
  induction parts with
  | nil => rfl
  | cons part rest ih =>
      obtain ⟨hpart, hrest⟩ := List.forall_mem_cons.mp h
      have hkept : part.filter (· != c) = part := by
        rw [List.filter_eq_self]
        intro c' hc'
        exact bne_iff_ne.mpr fun heq ↦ hpart (heq ▸ hc')
      cases rest with
      | nil => simp [hkept]
      | cons next rest =>
          rw [List.intercalate_cons_cons, List.filter_append, List.filter_append, ih hrest, hkept,
            List.filter_cons_of_neg (by simp), List.filter_nil, List.append_nil]
          rfl

theorem length_intercalate (c : Char) (parts : List (List Char)) :
    (List.intercalate [c] parts).length = parts.flatten.length + (parts.length - 1) := by
  induction parts with
  | nil => rfl
  | cons part rest ih =>
      cases rest with
      | nil => simp
      | cons next rest =>
          rw [List.intercalate_cons_cons, List.length_append, List.length_append, ih]
          simp only [List.flatten_cons, List.length_append, List.length_cons, List.length_nil]
          omega

namespace Uuid

theorem length_groups (lengths : List Nat) (s : List Char) :
    (groups lengths s).length = lengths.length := by
  induction lengths generalizing s with
  | nil => rfl
  | cons n rest ih => rw [groups, List.length_cons, List.length_cons, ih]

/-- Groups that reach to the end of a text make it up. -/
theorem flatten_groups {lengths : List Nat} {s : List Char} (h : s.length ≤ lengths.sum) :
    (groups lengths s).flatten = s := by
  induction lengths generalizing s with
  | nil => exact (List.eq_nil_of_length_eq_zero (Nat.le_zero.mp h)).symm
  | cons n rest ih =>
      have hrest : (s.drop n).length ≤ rest.sum := by
        rw [List.sum_cons] at h
        rw [List.length_drop]
        omega
      rw [groups, List.flatten_cons, ih hrest, List.take_append_drop]

theorem byteLength_of_single {s : List Char} (h : ∀ c ∈ s, c.utf8Size = 1) :
    byteLength s = s.length := by
  induction s with
  | nil => rfl
  | cons c s ih =>
      obtain ⟨hc, hrest⟩ := List.forall_mem_cons.mp h
      rw [List.length_cons, ← ih hrest, byteLength, List.foldr_cons, hc, Nat.add_comm]
      rfl

/-! ## The written form -/

section

variable (u : Uuid)

def digits : List Char :=
  hexDigits 32 u.value.toNat

theorem length_digits : u.digits.length = 32 :=
  length_hexDigits ..

theorem flatten_digits : (groups groupLengths u.digits).flatten = u.digits :=
  flatten_groups (Nat.le_of_eq u.length_digits)

theorem chars_eq : u.chars = List.intercalate ['-'] (groups groupLengths u.digits) := rfl

theorem not_mem_digits : '-' ∉ u.digits := by
  intro hmem
  obtain ⟨d, hd, hchar⟩ := exists_of_mem_hexDigits hmem
  exact (by decide : ∀ d < 16, '-' ≠ Nat.digitChar d) d hd hchar

theorem filter_chars : u.chars.filter (· != '-') = u.digits := by
  rw [chars_eq, filter_intercalate, flatten_digits]
  intro part hpart hmem
  have hdigit := List.mem_flatten_of_mem hpart hmem
  rw [flatten_digits] at hdigit
  exact u.not_mem_digits hdigit

theorem length_chars : u.chars.length = 36 := by
  rw [chars_eq, length_intercalate, flatten_digits, length_groups, length_digits]
  rfl

theorem mem_chars_cases {u : Uuid} {c : Char} (h : c ∈ u.chars) :
    c = '-' ∨ ∃ d < 16, c = Nat.digitChar d := by
  by_cases hyphen : c = '-'
  · exact .inl hyphen
  · have hmem : c ∈ u.digits := by
      rw [← u.filter_chars, List.mem_filter]
      exact ⟨h, bne_iff_ne.mpr hyphen⟩
    exact .inr (exists_of_mem_hexDigits hmem)

/-- Everything that is written takes one byte. -/
theorem byteLength_chars : byteLength u.chars = 36 := by
  rw [byteLength_of_single, length_chars]
  intro c hc
  rcases mem_chars_cases hc with rfl | ⟨d, hd, rfl⟩
  · rfl
  · exact (by decide : ∀ d < 16, (Nat.digitChar d).utf8Size = 1) d hd

theorem ofSimple?_digits : ofSimple? u.digits = some u := by
  have hlt : u.value.toNat < 16 ^ 32 := u.value.isLt
  rw [ofSimple?, if_pos u.length_digits, digits, readHex?_hexDigits, Nat.mod_eq_of_lt hlt,
    Option.map_some, BitVec.ofNat_toNat, BitVec.setWidth_eq]

/-- Every identifier is read back from its text. -/
theorem read_toText : Uuid.read u.toText = .ok u := by
  have hcore : core u.chars = u.chars := by
    rw [core, if_neg (by rw [byteLength_chars]; decide), if_neg (by rw [byteLength_chars]; decide)]
  have htext : ofText? u.chars = some u := by
    rw [ofText?, byteLength_chars, if_neg (by decide), if_pos (by decide), hcore, ofHyphenated?]
    simp only [filter_chars, ← chars_eq, if_true, ofSimple?_digits]
  rw [Uuid.read, toText, String.toList_ofList, htext]

end

theorem toText_injective : Function.Injective toText := by
  intro u v h
  have hread := u.read_toText
  rw [h, v.read_toText] at hread
  exact (Except.ok.inj hread).symm

end Uuid

end RecordStore
