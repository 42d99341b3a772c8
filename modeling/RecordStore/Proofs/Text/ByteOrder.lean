import Mathlib.Data.List.Basic

namespace RecordStore.Text

/-!
# The order of texts by their bytes

Texts are compared by code points, from the first on. Their UTF-8 forms, compared byte by byte,
stand in the same order.
-/

def utf8 (s : String) : List UInt8 :=
  s.toByteArray.data.toList

/-- In strictly ascending order of their bytes. -/
def InByteOrder (names : List String) : Prop :=
  names.Pairwise fun s t ↦ utf8 s < utf8 t

theorem utf8_eq_flatMap (s : String) : utf8 s = s.toList.flatMap String.utf8EncodeChar := by
  rw [utf8, ← String.utf8Encode_toList, List.utf8Encode, List.data_toByteArray]

theorem byte_cons_lt {m n : Nat} {rest rest' : List UInt8} (hn : n < 256) (hle : m ≤ n)
    (hrest : m = n → rest < rest') : UInt8.ofNat m :: rest < UInt8.ofNat n :: rest' := by
  rw [List.cons_lt_cons_iff]
  rcases Nat.lt_or_eq_of_le hle with hlt | rfl
  · left
    rw [UInt8.lt_iff_toNat_lt, UInt8.toNat_ofNat', UInt8.toNat_ofNat']
    omega
  · exact .inr ⟨rfl, hrest rfl⟩

/-- The forms of two characters differ first in a byte that is smaller for the smaller character. A
longer form has the greater first byte, and forms of one length are compared digit by digit. -/
theorem utf8EncodeChar_append_lt {c d : Char} (h : c < d) (rest rest' : List UInt8) :
    String.utf8EncodeChar c ++ rest < String.utf8EncodeChar d ++ rest' := by
  have hlt : c.val.toNat < d.val.toNat := h
  have hmax : d.val.toNat < 0x110000 := by
    have hvalid := d.valid
    grind
  unfold String.utf8EncodeChar
  generalize c.val.toNat = m at *
  generalize d.val.toNat = n at *
  dsimp only
  by_cases hone : m ≤ 0x7f
  · rw [if_pos hone]
    split_ifs
    all_goals exact byte_cons_lt (by omega) (by omega) fun heq ↦ absurd heq (by omega)
  rw [if_neg hone, if_neg (by omega : ¬n ≤ 0x7f)]
  by_cases htwo : m ≤ 0x7ff
  · rw [if_pos htwo]
    split_ifs
    · exact byte_cons_lt (by omega) (by omega) fun _ ↦
        byte_cons_lt (by omega) (by omega) fun heq ↦ absurd heq (by omega)
    all_goals exact byte_cons_lt (by omega) (by omega) fun heq ↦ absurd heq (by omega)
  rw [if_neg htwo, if_neg (by omega : ¬n ≤ 0x7ff)]
  by_cases hthree : m ≤ 0xffff
  · rw [if_pos hthree]
    split_ifs
    · exact byte_cons_lt (by omega) (by omega) fun _ ↦
        byte_cons_lt (by omega) (by omega) fun _ ↦
        byte_cons_lt (by omega) (by omega) fun heq ↦ absurd heq (by omega)
    · exact byte_cons_lt (by omega) (by omega) fun heq ↦ absurd heq (by omega)
  rw [if_neg hthree, if_neg (by omega : ¬n ≤ 0xffff)]
  exact byte_cons_lt (by omega) (by omega) fun _ ↦
    byte_cons_lt (by omega) (by omega) fun _ ↦
    byte_cons_lt (by omega) (by omega) fun _ ↦
    byte_cons_lt (by omega) (by omega) fun heq ↦ absurd heq (by omega)

theorem flatMap_utf8EncodeChar_lt {cs ds : List Char} (h : cs < ds) :
    cs.flatMap String.utf8EncodeChar < ds.flatMap String.utf8EncodeChar := by
  induction cs generalizing ds with
  | nil =>
      cases ds with
      | nil => exact absurd h (List.not_lt_nil [])
      | cons d ds =>
          have hpos : 0 < (String.utf8EncodeChar d).length := by
            rw [String.length_utf8EncodeChar]
            exact d.utf8Size_pos
          obtain ⟨b, bs, hd⟩ := List.exists_cons_of_length_pos hpos
          rw [List.flatMap_nil, List.flatMap_cons, hd]
          exact List.nil_lt_cons _ _
  | cons c cs ih =>
      cases ds with
      | nil => exact absurd h (List.not_lt_nil _)
      | cons d ds =>
          rw [List.flatMap_cons, List.flatMap_cons]
          rcases List.cons_lt_cons_iff.mp h with hlt | ⟨rfl, hlt⟩
          · exact utf8EncodeChar_append_lt hlt _ _
          · exact List.append_left_lt (ih hlt)

theorem utf8_lt_utf8 {s t : String} : utf8 s < utf8 t ↔ s < t := by
  have hmono {s t : String} (h : s < t) : utf8 s < utf8 t := by
    rw [utf8_eq_flatMap, utf8_eq_flatMap]
    exact flatMap_utf8EncodeChar_lt h
  refine ⟨fun h ↦ ?_, hmono⟩
  rcases Std.lt_trichotomy s t with hlt | rfl | hgt
  · exact hlt
  · exact absurd h (List.lt_irrefl _)
  · exact absurd h (List.lt_asymm (hmono hgt))

theorem inByteOrder_iff {names : List String} : InByteOrder names ↔ names.Pairwise (· < ·) := by
  simp only [InByteOrder, utf8_lt_utf8]

end RecordStore.Text
