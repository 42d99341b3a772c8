import RecordStore.Key.Basic
import RecordStore.Proofs.Coercion
import RecordStore.Proofs.Number.Exact
import RecordStore.Proofs.Told
import RecordStore.Sqlite.Affinity
import RecordStore.Sqlite.Decode

namespace RecordStore

/-!
# Values through cells

Every value becomes a cell, and a column converts the cell by its affinity. When the affinity is
that of the value's type, what is stored is decoded as what the cell tells of the value. That is the
value itself, but for leap seconds inside a minute and for doubles, whose zero loses its sign.
-/

/-! ## Identifiers -/

theorem foldl_bytes (width n : Nat) :
    ((List.range width).map fun i ↦ UInt8.ofNat (n / twoTo (8 * (width - 1 - i)))).foldl
      (fun n b ↦ 256 * n + b.toNat) 0 = n % twoTo (8 * width) := by
  induction width generalizing n with
  | zero =>
      rw [Nat.mul_zero, twoTo_zero, Nat.mod_one, List.range_zero, List.map_nil, List.foldl_nil]
  | succ width ih =>
      have hfront : ((List.range width).map fun i ↦
          UInt8.ofNat (n / twoTo (8 * (width + 1 - 1 - i))))
            = (List.range width).map fun i ↦
              UInt8.ofNat (n / 256 / twoTo (8 * (width - 1 - i))) := by
        refine List.map_congr_left fun i hi ↦ ?_
        have hlt : i < width := List.mem_range.mp hi
        have hplace : 8 * (width + 1 - 1 - i) = 8 + 8 * (width - 1 - i) := by omega
        rw [hplace, Nat.div_div_eq_div_mul, twoTo_add]
        rfl
      have hlast : width + 1 - 1 - width = 0 := by omega
      have hwidth : 8 * (width + 1) = 8 + 8 * width := by omega
      rw [List.range_succ, List.map_append, List.foldl_append, hfront, ih, List.map_singleton,
        List.foldl_cons, List.foldl_nil, hlast, Nat.mul_zero, twoTo_zero, Nat.div_one,
        UInt8.toNat_ofNat', hwidth, twoTo_add, Nat.mod_mul, Nat.add_comm]
      rfl

theorem Uuid.ofBytes?_bytes (u : Uuid) : Uuid.ofBytes? u.bytes = some u := by
  have hlength : u.bytes.length = 16 := by rw [bytes, List.length_map, List.length_range]
  have hlt : u.value.toNat < twoTo (8 * 16) := u.value.isLt
  have hfold := foldl_bytes 16 u.value.toNat
  rw [Nat.mod_eq_of_lt hlt] at hfold
  rw [ofBytes?, if_pos hlength, bytes, hfold, BitVec.ofNat_toNat, BitVec.setWidth_eq]

/-- Bytes are those of the number that they stand for. -/
theorem bytes_foldl (bytes : List UInt8) :
    let n := bytes.foldl (fun n b ↦ 256 * n + b.toNat) 0
    n < twoTo (8 * bytes.length) ∧ ((List.range bytes.length).map fun i ↦
      UInt8.ofNat (n / twoTo (8 * (bytes.length - 1 - i)))) = bytes := by
  induction bytes using List.reverseRecOn with
  | nil => exact ⟨Nat.one_pos, rfl⟩
  | append_singleton bytes b ih =>
      obtain ⟨hlt, hbytes⟩ := ih
      have hb : b.toNat < 256 := b.toNat_lt
      have hwidth : 8 * (bytes.length + 1) = 8 + 8 * bytes.length := by omega
      have height : twoTo 8 = 256 := rfl
      simp only [List.foldl_append, List.foldl_cons, List.foldl_nil, List.length_append,
        List.length_singleton]
      generalize bytes.foldl (fun n b ↦ 256 * n + b.toNat) 0 = n at hlt hbytes
      constructor
      · rw [hwidth, twoTo_add, height]
        generalize twoTo (8 * bytes.length) = bound at hlt
        omega
      · have hfront : ((List.range bytes.length).map fun i ↦
            UInt8.ofNat ((256 * n + b.toNat) / twoTo (8 * (bytes.length + 1 - 1 - i)))) = bytes := by
          refine Eq.trans (List.map_congr_left fun i hi ↦ ?_) hbytes
          have hi : i < bytes.length := List.mem_range.mp hi
          have hplace : 8 * (bytes.length + 1 - 1 - i) = 8 + 8 * (bytes.length - 1 - i) := by omega
          have hhead : (256 * n + b.toNat) / 256 = n := by omega
          rw [hplace, twoTo_add, height, ← Nat.div_div_eq_div_mul, hhead]
        have hlast : bytes.length + 1 - 1 - bytes.length = 0 := by omega
        have hbyte : UInt8.ofNat (256 * n + b.toNat) = b := by
          apply UInt8.toNat_inj.mp
          rw [UInt8.toNat_ofNat']
          omega
        rw [List.range_succ, List.map_append, hfront, List.map_singleton, hlast, Nat.mul_zero,
          twoTo_zero, Nat.div_one, hbyte]

theorem Uuid.bytes_of_ofBytes? {bytes : List UInt8} {u : Uuid} (h : ofBytes? bytes = some u) :
    u.bytes = bytes := by
  unfold ofBytes? at h
  split at h
  · next hlength =>
    obtain ⟨hlt, hbytes⟩ := bytes_foldl bytes
    rw [hlength] at hlt hbytes
    replace hlt : _ < 2 ^ 128 := hlt
    obtain rfl := Option.some.inj h
    rw [Uuid.bytes, BitVec.toNat_ofNat, Nat.mod_eq_of_lt hlt]
    exact hbytes
  · cases h

/-! ## Affinities of types -/

open Sqlite (Affinity Cell)

/-- The affinity of the storage class that values of a type are stored in. -/
def FieldType.affinity : FieldType → Affinity
  | bool | i32 | i64 => .numeric
  | f64 => .real
  | text | date | dateTime | time => .text
  | bytes | uuid => .blob

/-- There is no NaN among the cells. -/
def Value.isNaN : Value → Bool
  | f64 x => x.isNaN
  | _ => false

theorem Value.agrees_self {v : Value} (h : v.isNaN = false) : v.agrees v = true := by
  cases v with
  | f64 x => exact Double.sameNumber_self h
  | _ => simp [agrees]

theorem Value.isNaN_told (v : Value) : v.told.isNaN = v.isNaN := by
  cases v <;> rfl

namespace Sqlite

namespace Affinity

/-- A real that is settled as an integer becomes the same number again. -/
theorem toReal_real (x : Double) :
    ∃ y, toReal (.real x) = .real y ∧ (y = x ∨ x.sameNumber y = true) := by
  have htwo : twoTo 63 = 9223372036854775808 := rfl
  simp only [toReal, toNumber, settle]
  cases hwhole : x.toInt? with
  | none => exact ⟨x, rfl, .inl rfl⟩
  | some n =>
      dsimp only
      by_cases hbounds : -(twoTo 63 : Int) < n ∧ n < twoTo 63
      · have hround : (Int64.ofInt n).toInt = n :=
          Int64.toInt_ofInt_of_le (by rw [htwo] at hbounds; omega) (by rw [htwo] at hbounds; omega)
        rw [if_pos hbounds]
        dsimp only
        rw [hround]
        exact ⟨_, rfl, .inr (Double.sameNumber_ofInt hwhole)⟩
      · rw [if_neg hbounds]
        exact ⟨x, rfl, .inl rfl⟩

/-- Nothing but a double is converted by the affinity of its own type. -/
theorem apply_ofValue {v : Value} (h : ∀ x, v ≠ .f64 x) :
    v.fieldType.affinity.apply (Cell.ofValue v) = Cell.ofValue v := by
  cases v with
  | null t => exact apply_null _
  | f64 x => exact absurd rfl (h x)
  | _ => rfl

end Affinity

namespace Cell

theorem decode_eq {t : FieldType} {c : Cell} {found : StorageClass}
    (hfound : c.storageClass? = some found) (hallowed : found ∈ allowedClasses t) :
    c.decode t = c.decodeAllowed t := by
  rw [decode, hfound]
  exact if_pos hallowed

theorem narrow_toInt64 (n : Int32) : narrow n.toInt64 = .ok (.i32 n) := by
  rw [narrow, Value.narrow?_toInt64]

theorem decodeUuid_bytes (u : Uuid) : decodeUuid u.bytes = .ok (.uuid u) := by
  rw [decodeUuid, Uuid.ofBytes?_bytes]

theorem decodeDateTime_chars (dt : DateTime) :
    decodeDateTime (.text (String.ofList (dt.chars ' '))) = .ok (.dateTime dt.told) := by
  unfold decodeDateTime
  dsimp only [contentText]
  rw [DateTime.read?_chars]

/-- A cell that holds a value other than a double is decoded as what is told of the value. -/
theorem decode_ofValue {v : Value} (h : ∀ x, v ≠ .f64 x) :
    (ofValue v).decode v.fieldType = .ok v.told := by
  cases v with
  | null t => rfl
  | f64 x => exact absurd rfl (h x)
  | bool b =>
      refine (decode_eq (t := .bool) rfl (by decide)).trans ?_
      cases b <;> rfl
  | i32 n =>
      refine (decode_eq (t := .i32) rfl (by decide)).trans ?_
      exact narrow_toInt64 n
  | i64 n => rfl
  | text s => rfl
  | bytes b => rfl
  | uuid u =>
      refine (decode_eq (t := .uuid) rfl (by decide)).trans ?_
      exact decodeUuid_bytes u
  | date d =>
      refine (decode_eq (t := .date) rfl (by decide)).trans ?_
      simp only [ofValue, decodeAllowed, Date.read_chars, Value.told]
  | dateTime dt =>
      refine (decode_eq (t := .dateTime) rfl (by decide)).trans ?_
      exact decodeDateTime_chars dt
  | time t =>
      refine (decode_eq (t := .time) rfl (by decide)).trans ?_
      simp only [ofValue, decodeAllowed, Time.read?_chars, Value.told]

/-- What a column with the affinity of its type stores of a value is decoded as a value that agrees
with what is told of it. -/
theorem decode_apply {v : Value} (h : v.isNaN = false) :
    ∃ w, (v.fieldType.affinity.apply (ofValue v)).decode v.fieldType = .ok w ∧
      v.told.agrees w = true := by
  by_cases hdouble : ∃ x, v = .f64 x
  · obtain ⟨x, rfl⟩ := hdouble
    obtain ⟨y, hy, hsame⟩ := Affinity.toReal_real x
    have hcell : (Value.f64 x).fieldType.affinity.apply (ofValue (.f64 x)) = .real y := by
      have hofValue : ofValue (.f64 x) = .real x := if_neg (Bool.eq_false_iff.mp h)
      rw [hofValue]
      exact hy
    refine ⟨.f64 y, by rw [hcell]; rfl, ?_⟩
    rcases hsame with rfl | hsame
    · exact Value.agrees_self h
    · exact hsame
  · have hother : ∀ x, v ≠ .f64 x := fun x hx ↦ hdouble ⟨x, hx⟩
    rw [Affinity.apply_ofValue hother, decode_ofValue hother]
    exact ⟨v.told, rfl, Value.agrees_self (v.isNaN_told.trans h)⟩

/-! ## Cells of keys -/

theorem apply_key (k : Key) :
    k.keyType.fieldType.affinity.apply (ofValue k.toValue) = ofValue k.toValue := by
  cases k <;> rfl

theorem decode_key (k : Key) :
    (ofValue k.toValue).decode k.keyType.fieldType = .ok k.toValue := by
  cases k with
  | uuid u => exact decode_ofValue (v := .uuid u) nofun
  | _ => rfl

theorem key_matchesCell_self (k : Key) :
    (ofValue k.toValue).matchesCell (ofValue k.toValue) = true := by
  cases k <;> simp [matchesCell, precedes, Key.toValue, ofValue]

/-- A cell that is decoded at the type of a key and matches the cell of the key is that cell. -/
theorem eq_of_matchesCell {c : Cell} {k : Key} {v : Value}
    (hdecode : c.decode k.keyType.fieldType = .ok v)
    (hmatches : c.matchesCell (ofValue k.toValue) = true) : c = ofValue k.toValue := by
  simp only [matchesCell, Bool.and_eq_true, Bool.not_eq_true'] at hmatches
  obtain ⟨⟨⟨hnull, -⟩, hbelow⟩, habove⟩ := hmatches
  cases k with
  | int n =>
      cases c with
      | null => cases hnull
      | integer m =>
          have hle : m.toInt = n.toInt := by
            simp [precedes, Key.toValue, ofValue, rank, ratio] at hbelow habove
            omega
          rw [Int64.toInt_inj.mp hle]
          rfl
      | real x => cases hdecode
      | text s => cases hdecode
      | blob b => cases hdecode
  | text s =>
      cases c with
      | null => cases hnull
      | integer m => cases hdecode
      | real x => cases hdecode
      | text t =>
          simp only [precedes, Key.toValue, ofValue, decide_eq_false_iff_not] at hbelow habove
          rw [String.le_antisymm habove hbelow]
          rfl
      | blob b => cases hdecode
  | uuid u =>
      cases c with
      | null => cases hnull
      | integer m => cases hdecode
      | real x => cases hdecode
      | text t => cases hbelow
      | blob b =>
          simp only [precedes, Key.toValue, ofValue, decide_eq_false_iff_not] at hbelow habove
          rw [List.le_antisymm (List.not_lt.mp habove) (List.not_lt.mp hbelow)]
          rfl

/-- A cell that is decoded as a key is that of the key, unless a text is decoded as an
identifier. -/
theorem eq_of_decode {c : Cell} {k : Key} (hdecode : c.decode k.keyType.fieldType = .ok k.toValue)
    (hblob : k.keyType = .uuid → ∀ s, c ≠ .text s) : c = ofValue k.toValue := by
  cases k with
  | int n =>
      cases c with
      | integer m =>
          cases hdecode
          rfl
      | _ => cases hdecode
  | text s =>
      cases c with
      | text t =>
          cases hdecode
          rfl
      | _ => cases hdecode
  | uuid u =>
      cases c with
      | text t => exact absurd rfl (hblob rfl t)
      | blob b =>
          replace hdecode : decodeUuid b = .ok (.uuid u) := hdecode
          unfold decodeUuid at hdecode
          split at hdecode
          · next hu =>
            cases hdecode
            rw [← Uuid.bytes_of_ofBytes? hu]
            rfl
          · cases hdecode
      | _ => cases hdecode

theorem ofValue_key_injective {k k' : Key} (h : ofValue k.toValue = ofValue k'.toValue)
    (htype : k.keyType = k'.keyType) : k = k' := by
  have hdecode := decode_key k
  rw [h, htype, decode_key k'] at hdecode
  have hkeys := congrArg Key.ofValue? (Except.ok.inj hdecode)
  rw [Key.ofValue?_toValue, Key.ofValue?_toValue] at hkeys
  exact (Option.some.inj hkeys).symm

end Cell

/-! ## Comparing with keys -/

theorem Cell.rank_settle (x : Double) : (settle x).rank = 1 := by
  unfold settle
  split
  · split <;> rfl
  · rfl

theorem Cell.rank_numberOfText? {s : List Char} {c : Cell} (h : numberOfText? s = some c) :
    c.rank = 1 := by
  simp only [numberOfText?] at h
  split at h
  · generalize (if (takeSign (trimBlanks s)).1 = true then (_ : Int) else _) = n at h
    split at h <;>
    · obtain rfl := Option.some.inj h
      rfl
  · -- with a point behind the first digits and without one
    split at h <;>
    · split at h
      · cases h
      · obtain ⟨exponent, -, rfl⟩ := Option.map_eq_some_iff.mp h
        rfl

/-- A text is converted to a number or stays as it is. -/
theorem Affinity.toNumber_text (s : String) :
    toNumber (.text s) = .text s ∨ (toNumber (.text s)).rank = 1 := by
  unfold toNumber
  dsimp only
  split
  · exact .inr (Cell.rank_settle _)
  · next hnumber => exact .inr (Cell.rank_numberOfText? hnumber)
  · exact .inl rfl

/-- No text is made of anything else in a column for numbers. -/
theorem Affinity.eq_of_toNumber {c : Cell} {s : String} (h : toNumber c = .text s) :
    c = .text s := by
  cases c with
  | text t =>
      rcases toNumber_text t with hkept | hnumber
      · exact hkept.symm.trans h
      · rw [h] at hnumber
        cases hnumber
  | real x =>
      have hnumber := Cell.rank_settle x
      rw [show settle x = .text s from h] at hnumber
      cases hnumber
  | null | integer n | blob b => cases h

/-- A column for reals leaves what is no integer for a column for numbers. -/
theorem Affinity.toReal_eq {c other : Cell} (h : toReal c = other) (hreal : other.rank ≠ 1) :
    toNumber c = other := by
  unfold toReal at h
  split at h
  · subst h
    exact absurd rfl hreal
  · exact h

namespace Cell

variable {k k' : Key} {a : Affinity}

/-- A column that makes the cell of a key of some cell keeps the cell of that key. -/
theorem apply_key_of_eq {c : Cell} (h : a.apply c = ofValue k.toValue) :
    a.apply (ofValue k.toValue) = ofValue k.toValue := by
  cases k with
  | int n =>
      cases a with
      | text => cases c <;> cases h
      | real =>
          replace h : Affinity.toReal c = .integer n := h
          unfold Affinity.toReal at h
          split at h
          · cases h
          · next hinteger => exact absurd h (hinteger n)
      | numeric | blob => rfl
  | text s =>
      cases a with
      | numeric =>
          have hsame : Affinity.toNumber c = .text s := h
          rwa [Affinity.eq_of_toNumber hsame] at h
      | real =>
          have hsame : Affinity.toNumber c = .text s := Affinity.toReal_eq h nofun
          rwa [Affinity.eq_of_toNumber hsame] at h
      | text | blob => rfl
  | uuid u => exact a.apply_blob _

/-- What a column stores of a key it also compares with that key. -/
theorem forComparison_of_stored (h : a.apply (ofValue k.toValue) = ofValue k.toValue) :
    a.applyForComparison (ofValue k.toValue) = ofValue k.toValue := by
  cases a with
  | real =>
      replace h : Affinity.toReal (ofValue k.toValue) = ofValue k.toValue := h
      unfold Affinity.toReal at h
      split at h
      · cases k <;> cases h
      · exact h
  | text | numeric | blob => exact h

theorem eq_of_matchesCell_key (htype : k'.keyType = k.keyType)
    (h : (ofValue k.toValue).matchesCell (ofValue k'.toValue) = true) : k' = k := by
  have hdecode := decode_key k
  rw [← htype] at hdecode
  exact ofValue_key_injective (eq_of_matchesCell hdecode h).symm htype

theorem text_matchesCell_of_rank {c : Cell} (h : c.rank = 1) (s : String) :
    (text s).matchesCell c = false := by
  cases c with
  | null => rfl
  | integer n => rfl
  | real x => rfl
  | text t => cases h
  | blob b => cases h

/-- A column compares with the key itself, unless it makes a text of a number or a number of a
text. -/
theorem forComparison_cases (k : Key) (a : Affinity) :
    a.applyForComparison (ofValue k.toValue) = ofValue k.toValue ∨
      (∃ n, k = .int n ∧ a = .text) ∨
      ∃ s, k = .text s ∧ (a.applyForComparison (ofValue k.toValue)).rank = 1 := by
  cases k with
  | int n =>
      cases a with
      | text => exact .inr (.inl ⟨n, rfl, rfl⟩)
      | numeric | real | blob => exact .inl rfl
  | text s =>
      cases a with
      | text | blob => exact .inl rfl
      | numeric | real =>
          rcases Affinity.toNumber_text s with hkept | hnumber
          · exact .inl hkept
          · exact .inr (.inr ⟨s, rfl, hnumber⟩)
  | uuid u => exact .inl (by cases a <;> rfl)

/-- A column that stores a key as it is matches it with no other key, whatever it makes of that. -/
theorem matchesCell_forComparison (htype : k'.keyType = k.keyType)
    (h : a.apply (ofValue k.toValue) = ofValue k.toValue) :
    (ofValue k.toValue).matchesCell (a.applyForComparison (ofValue k'.toValue)) = true ↔
      k' = k := by
  constructor
  · intro hmatches
    rcases forComparison_cases k' a with hsame | ⟨n, rfl, rfl⟩ | ⟨s, rfl, hnumber⟩
    · rw [hsame] at hmatches
      exact eq_of_matchesCell_key htype hmatches
    · cases k with
      | int n' => cases h
      | text s | uuid u => cases htype
    · cases k with
      | text t =>
          have hnone := text_matchesCell_of_rank hnumber t
          rw [show text t = ofValue (Key.text t).toValue from rfl, hmatches] at hnone
          cases hnone
      | int n | uuid u => cases htype
  · rintro rfl
    rw [forComparison_of_stored h]
    exact key_matchesCell_self k'

end Cell

end Sqlite

end RecordStore
