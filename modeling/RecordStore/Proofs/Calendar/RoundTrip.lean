import RecordStore.Calendar.Reading

namespace RecordStore

/-!
# Dates and times that are read back

What is written of a date is read as that date. A time of day, alone or after a date, is read as what
its text tells: that is the time itself, unless it is in a leap second inside a minute. A number is
read up to the next character that is no digit, so every lemma on an item asks that the text after
it does not go on with a digit.
-/

open Calendar

/-! ## Padded numbers -/

section

variable {width n : Nat}

theorem isDigit_of_mem_padded {c : Char} (h : c ∈ padded width n) : c.isDigit = true := by
  rcases List.mem_append.mp h with hzero | hdigit
  · obtain ⟨-, rfl⟩ := List.mem_replicate.mp hzero
    rfl
  · exact Nat.isDigit_of_mem_toDigits (by decide) (by decide) hdigit

theorem ofDigitChars_padded : Nat.ofDigitChars 10 (padded width n) 0 = n := by
  rw [padded, padLeft, Nat.ofDigitChars_append, Nat.ofDigitChars_replicate_zero, Nat.mul_zero,
    Nat.ofDigitChars_toDigits (by decide) (by decide)]

theorem length_padded (hwidth : 0 < width) (h : n < tenTo width) :
    (padded width n).length = width := by
  have hlength := (Nat.length_toDigits_le_iff (b := 10) (by decide) hwidth).mpr h
  rw [padded, padLeft, List.length_append, List.length_replicate]
  omega

theorem tenTo_four : tenTo 4 = 10000 := rfl

theorem exists_padded (width n : Nat) :
    ∃ c rest, padded width n = c :: rest ∧ c.isDigit = true := by
  have hne : padded width n ≠ [] := by simp [padded, padLeft, Nat.toDigits_ne_nil]
  obtain ⟨c, rest, heq⟩ := List.exists_cons_of_ne_nil hne
  exact ⟨c, rest, heq, isDigit_of_mem_padded (heq ▸ List.mem_cons_self)⟩

theorem isBlank_of_isDigit {c : Char} (h : c.isDigit = true) : Text.isBlank c = false := by
  have hcode : 48 ≤ c.toNat ∧ c.toNat ≤ 57 := Char.isDigit_iff_toNat.mp h
  have hgap : ∀ range ∈ Text.blankRanges, range.2 < 48 ∨ 57 < range.1 := by decide
  refine Bool.eq_false_iff.mpr fun hblank ↦ ?_
  obtain ⟨range, hrange, hlow, hhigh⟩ := Text.within_eq_true_iff.mp hblank
  have hout := hgap range hrange
  omega

end

namespace Calendar

/-- A text that does not go on with a digit. -/
def Ends (s : List Char) : Prop :=
  ∀ c ∈ s.head?, c.isDigit = false

theorem ends_nil : Ends [] := nofun

theorem ends_cons {c : Char} {s : List Char} (h : c.isDigit = false) : Ends (c :: s) := by
  rintro _ ⟨⟩
  exact h

theorem takeWhile_of_ends {digits rest : List Char} (hdigits : ∀ c ∈ digits, c.isDigit = true)
    (hrest : Ends rest) : (digits ++ rest).takeWhile Char.isDigit = digits := by
  rw [List.takeWhile_append_of_pos hdigits]
  cases rest with
  | nil => rw [List.takeWhile_nil, List.append_nil]
  | cons c rest => rw [List.takeWhile_cons_of_neg (by simp [hrest c rfl]), List.append_nil]

variable {width n : Nat} {rest : List Char} {ps : Parts} {items : List Item}

theorem readNumber_padded {least most : Nat} (hrest : Ends rest)
    (hleast : least ≤ (padded width n).length) (hmost : (padded width n).length ≤ most) :
    readNumber least most (padded width n ++ rest) = .ok (n, rest) := by
  have hends : Ends (rest.take (most - (padded width n).length)) := by
    intro c hc
    cases rest with
    | nil => simp at hc
    | cons d rest =>
        cases hk : most - (padded width n).length with
        | zero => simp [hk] at hc
        | succ k =>
            rw [hk] at hc
            exact hrest c hc
  have hdigits : ((padded width n ++ rest).take most).takeWhile Char.isDigit = padded width n := by
    rw [List.take_append, List.take_of_length_le hmost]
    exact takeWhile_of_ends (fun _ ↦ isDigit_of_mem_padded) hends
  unfold readNumber
  simp only [hdigits]
  rw [if_neg (by rw [List.length_append]; omega), if_neg (by omega), List.drop_left,
    ofDigitChars_padded]

/-- No number starts with a character that is no digit. -/
theorem readNumber_of_not_isDigit {least : Nat} (most : Nat) {c : Char} (hc : c.isDigit = false)
    (hleast : 0 < least) (rest : List Char) :
    ∃ fault, readNumber least most (c :: rest) = .error fault := by
  have hdigits : ((c :: rest).take most).takeWhile Char.isDigit = [] := by
    cases most with
    | zero => rfl
    | succ most => rw [List.take_succ_cons, List.takeWhile_cons_of_neg (by simp [hc])]
  unfold readNumber
  simp only [hdigits]
  split
  · exact ⟨_, rfl⟩
  · exact ⟨.invalid, if_pos hleast⟩

theorem skipBlanks_padded : Text.skipBlanks (padded width n ++ rest) = padded width n ++ rest := by
  obtain ⟨c, digits, heq, hc⟩ := exists_padded width n
  rw [heq, List.cons_append, Text.skipBlanks,
    List.dropWhile_cons_of_neg (by simp [isBlank_of_isDigit hc])]

/-! ## Items -/

theorem readItems_of_item {item : Item} {s : List Char} {ps' : Parts}
    (h : readItem item ps s = .ok (ps', rest)) :
    readItems (item :: items) ps s = readItems items ps' rest := by
  rw [readItems, h]
  rfl

theorem readItems_of_refused {item : Item} {s : List Char} {fault : Fault}
    (h : readItem item ps s = .error fault) : readItems (item :: items) ps s = .error fault := by
  rw [readItems, h]
  rfl

theorem readItems_mark (c : Char) :
    readItems (mark c :: items) ps (c :: rest) = readItems items ps rest :=
  readItems_of_item (by simp [readItem, mark])

section

variable {p : Part} {s : List Char} {i : Int}

theorem readItems_loose (hread : readLoose p s = .ok (i, rest))
    (hbounds : p.bounds.1 ≤ i ∧ i ≤ p.bounds.2) :
    readItems (.loose p :: items) ps s = readItems items (ps.set p i) rest := by
  have hstore : store ps p i = .ok (ps.set p i) := if_pos hbounds
  exact readItems_of_item (by simp only [readItem, hread, bind, Except.bind, hstore]; rfl)

theorem readItems_full (hread : readFull p s = .ok (i, rest))
    (hbounds : p.bounds.1 ≤ i ∧ i ≤ p.bounds.2) :
    readItems (.full p :: items) ps s = readItems items (ps.set p i) rest := by
  have hstore : store ps p i = .ok (ps.set p i) := if_pos hbounds
  exact readItems_of_item (by simp only [readItem, hread, bind, Except.bind, hstore]; rfl)

end

theorem readLoose_padded {p : Part} (hrest : Ends rest)
    (hlength : (padded width n).length ≤ p.width) :
    readLoose p (padded width n ++ rest) = .ok ((n : Int), rest) := by
  obtain ⟨c, digits, heq, hc⟩ := exists_padded width n
  have hone : 1 ≤ (padded width n).length := by
    rw [heq, List.length_cons]
    omega
  unfold readLoose
  rw [skipBlanks_padded]
  split
  · next hsign =>
    rw [heq, List.cons_append] at hsign
    cases hsign
    cases hc
  · next hsign =>
    rw [heq, List.cons_append] at hsign
    cases hsign
    cases hc
  · rw [readNumber_padded hrest hone hlength]
    rfl

theorem readFull_padded {p : Part} (hrest : Ends rest)
    (hlength : (padded width n).length = p.width) :
    readFull p (padded width n ++ rest) = .ok ((n : Int), rest) := by
  rw [readFull, readNumber_padded hrest (Nat.le_of_eq hlength.symm) (Nat.le_of_eq hlength)]
  rfl

/-- Numbers of two digits are read alike whether they may be shorter or not. -/
theorem readItems_pair {item : Part → Item} (hitem : item = .loose ∨ item = .full) {p : Part}
    (hp : p.width = 2) (hlt : n < 100) (hbounds : p.bounds.1 ≤ n ∧ (n : Int) ≤ p.bounds.2)
    (hrest : Ends rest) :
    readItems (item p :: items) ps (padded 2 n ++ rest) = readItems items (ps.set p n) rest := by
  have hlength : (padded 2 n).length = p.width := hp.symm ▸ length_padded (by decide) hlt
  rcases hitem with rfl | rfl
  · exact readItems_loose (readLoose_padded hrest (Nat.le_of_eq hlength)) hbounds
  · exact readItems_full (readFull_padded hrest hlength) hbounds

/-- A year of four digits is written without a sign. -/
theorem yearText_eq {year : Int} (h : 0 ≤ year ∧ year ≤ 9999) :
    yearText year = padded 4 year.natAbs := by
  rw [yearText, if_neg (by omega), if_neg (by omega)]
  rfl

/-- Any other year is written with a sign in front of its digits. -/
theorem yearText_signed {year : Int} (h : ¬ (0 ≤ year ∧ year ≤ 9999)) :
    ∃ sign, yearText year = sign :: padded 4 year.natAbs ∧
      (sign = '-' ∧ year < 0 ∨ sign = '+' ∧ 0 ≤ year) := by
  by_cases hneg : year < 0
  · exact ⟨'-', by rw [yearText, if_pos hneg]; rfl, .inl ⟨rfl, hneg⟩⟩
  · exact ⟨'+', by rw [yearText, if_neg hneg, if_pos (by omega)]; rfl, .inr ⟨rfl, by omega⟩⟩

theorem readLoose_year {year : Int} (hrest : Ends rest) :
    readLoose .year (yearText year ++ rest) = .ok (year, rest) := by
  by_cases hplain : 0 ≤ year ∧ year ≤ 9999
  · have hlt : year.natAbs < tenTo 4 := by
      rw [tenTo_four]
      omega
    have hlength : (padded 4 year.natAbs).length = 4 := length_padded (by decide) hlt
    rw [yearText_eq hplain, readLoose_padded hrest (Nat.le_of_eq hlength),
      Int.natAbs_of_nonneg hplain.1]
  · obtain ⟨sign, htext, hsign⟩ := yearText_signed hplain
    have hread : readNumber 1 (padded 4 year.natAbs ++ rest).length
        (padded 4 year.natAbs ++ rest) = .ok (year.natAbs, rest) := by
      obtain ⟨c, digits, heq, -⟩ := exists_padded 4 year.natAbs
      refine readNumber_padded hrest ?_ ?_
      · rw [heq, List.length_cons]
        omega
      · rw [List.length_append]
        omega
    rw [htext, List.cons_append]
    rcases hsign with ⟨rfl, hneg⟩ | ⟨rfl, hpos⟩
    · have hskip : Text.skipBlanks ('-' :: (padded 4 year.natAbs ++ rest))
          = '-' :: (padded 4 year.natAbs ++ rest) := rfl
      have habs : -(year.natAbs : Int) = year := by omega
      simp only [readLoose, hskip, hread, bind, Except.bind, pure, Except.pure, habs]
    · have hskip : Text.skipBlanks ('+' :: (padded 4 year.natAbs ++ rest))
          = '+' :: (padded 4 year.natAbs ++ rest) := rfl
      simp only [readLoose, hskip, hread, bind, Except.bind, pure, Except.pure,
        Int.natAbs_of_nonneg hpos]

theorem readFraction_padded (hwidth : 0 < width ∧ width ≤ 9) (hn : n < tenTo width) :
    readFraction (padded width n) = .ok (n * tenTo (9 - width), []) := by
  have hlength : (padded width n).length = width := length_padded hwidth.1 hn
  have hnumber : readNumber 1 9 (padded width n) = .ok (n, []) := by
    rw [← List.append_nil (padded width n)]
    exact readNumber_padded ends_nil (by omega) (by omega)
  have hdigits : (padded width n).takeWhile Char.isDigit = padded width n := by
    have hall : ∀ c ∈ padded width n, c.isDigit = true := fun _ ↦ isDigit_of_mem_padded
    have htake := takeWhile_of_ends hall ends_nil
    rwa [List.append_nil] at htake
  simp only [readFraction, hnumber, bind, Except.bind, hdigits,
    List.take_of_length_le (Nat.le_trans (Nat.le_of_eq hlength) hwidth.2), ofDigitChars_padded,
    hlength, List.drop_of_length_le (Nat.le_of_eq hlength)]
  rfl

/-- Only the digits that are needed are written of a fraction, and all of it is read back. -/
theorem readItem_fraction {nanos : Nat} (hps : ps.nanosecond = 0) (hnanos : nanos < 1000000000) :
    readItem .fraction ps (fractionText nanos) = .ok ({ ps with nanosecond := nanos }, []) := by
  have hthree : tenTo 3 = 1000 := rfl
  have hsix : tenTo 6 = 1000000 := rfl
  have hnine : tenTo 9 = 1000000000 := rfl
  have hread (width n : Nat) (hwidth : 0 < width ∧ width ≤ 9) (hn : n < tenTo width)
      (hvalue : n * tenTo (9 - width) = nanos) :
      readItem .fraction ps ('.' :: padded width n)
        = .ok ({ ps with nanosecond := nanos }, []) := by
    simp only [readItem, readFraction_padded hwidth hn, hvalue, bind, Except.bind]
    rfl
  unfold fractionText
  split
  · next hzero =>
    subst hzero
    rw [readItem, ← hps]
    nofun
  split
  · exact hread 3 _ (by decide) (by omega) (by rw [hsix]; omega)
  split
  · exact hread 6 _ (by decide) (by omega) (by rw [hthree]; omega)
  · exact hread 9 _ (by decide) (by omega) (by rw [tenTo_zero]; omega)

theorem fractionText_cases (nanos : Nat) :
    fractionText nanos = [] ∨ ∃ width n, fractionText nanos = '.' :: padded width n := by
  unfold fractionText
  split
  · exact .inl rfl
  split
  · exact .inr ⟨_, _, rfl⟩
  split <;> exact .inr ⟨_, _, rfl⟩

theorem ends_fractionText (nanos : Nat) : Ends (fractionText nanos) := by
  rcases fractionText_cases nanos with h | ⟨width, n, h⟩
  · exact h ▸ ends_nil
  · exact h ▸ ends_cons rfl

end Calendar

/-! ## Dates -/

namespace Date

variable (d : Date) {rest : List Char} {ps : Parts} {items : List Item}

/-- What a date is written with after its year. -/
def restChars : List Char :=
  '-' :: padded 2 d.month ++ '-' :: padded 2 d.day

theorem chars_append : d.chars ++ rest = yearText d.year ++ (d.restChars ++ rest) := by
  simp [chars, restChars]

theorem day_lt : d.day ≤ 31 := by
  have hday := d.day_mem.2
  unfold daysInMonth at hday
  split at hday
  · split at hday <;> omega
  all_goals omega

variable {d} in
theorem readItems_rest {item : Part → Item} (hitem : item = .loose ∨ item = .full)
    (hrest : Ends rest) :
    readItems (mark '-' :: item .month :: mark '-' :: item .day :: items) ps (d.restChars ++ rest)
      = readItems items { ps with month := d.month, day := d.day } rest := by
  have hmonth := d.month_mem
  have hday := d.day_mem.1
  have hlast := d.day_lt
  rw [restChars, List.append_assoc, List.cons_append, List.cons_append, readItems_mark,
    readItems_pair hitem rfl (by omega) (by simp only [Part.bounds]; omega) (ends_cons rfl),
    readItems_mark, readItems_pair hitem rfl (by omega) (by simp only [Part.bounds]; omega) hrest]
  rfl

variable {d} in
theorem readItems_chars (hrest : Ends rest) :
    readItems (dateItems ++ items) ps (d.chars ++ rest)
      = readItems items { ps with year := d.year, month := d.month, day := d.day } rest := by
  have hyear := d.year_mem
  have hends : Ends (d.restChars ++ rest) := ends_cons rfl
  rw [chars_append]
  refine (readItems_loose (readLoose_year hends) (by simp only [Part.bounds]; omega)).trans ?_
  exact readItems_rest (.inl rfl) hrest

theorem of?_fields : Date.of? d.year d.month d.day = some d := by
  rw [of?, dif_pos d.year_mem, dif_pos d.month_mem, dif_pos d.day_mem]

/-- Every date is read back from its text. -/
theorem read_chars : Date.read (String.ofList d.chars) = .ok d := by
  rw [Date.read, String.toList_ofList, ← List.append_nil dateItems, ← List.append_nil d.chars,
    readItems_chars ends_nil]
  simp only [readItems, bind, Except.bind, Parts.date?, of?_fields]
  rfl

theorem chars_injective : Function.Injective chars := by
  intro d d' hchars
  have hread := d.read_chars
  rw [hchars, d'.read_chars] at hread
  exact (Except.ok.inj hread).symm

end Date

/-! ## Times of day -/

namespace Time

variable (t : Time) {rest : List Char} {ps : Parts} {items : List Item}

/-- The number that the second is written with; that of a leap second is 60. -/
def writtenSecond : Nat :=
  t.second + t.nanosecond / 1000000000

def wholeChars : List Char :=
  padded 2 t.hour ++ ':' :: padded 2 t.minute ++ ':' :: padded 2 t.writtenSecond

theorem chars_eq : t.chars = t.wholeChars ++ fractionText (t.nanosecond % 1000000000) := rfl

theorem skipBlanks_chars : Text.skipBlanks t.chars = t.chars := by
  rw [chars_eq, wholeChars, List.append_assoc, List.append_assoc, skipBlanks_padded]

/-- The time of day that the text of this one tells. A leap second inside a minute is written as the
second after it. -/
def told : Time :=
  if h : 1000000000 ≤ t.nanosecond ∧ t.second ≠ 59 then
    { t with
      second := t.second + 1
      nanosecond := t.nanosecond - 1000000000
      second_lt := by have hlt := t.second_lt; omega
      nanosecond_lt := by have hlt := t.nanosecond_lt; omega }
  else t

variable {t} in
theorem told_of_not (h : ¬ (1000000000 ≤ t.nanosecond ∧ t.second ≠ 59)) : t.told = t :=
  dif_neg h

variable {t} in
theorem told_eq_self_iff : t.told = t ↔ (1000000000 ≤ t.nanosecond → t.second = 59) := by
  constructor
  · intro h hleap
    by_cases hlast : t.second = 59
    · exact hlast
    · have hsecond := congrArg Time.second h
      rw [told, dif_pos ⟨hleap, hlast⟩] at hsecond
      exact absurd hsecond (Nat.succ_ne_self t.second)
  · intro h
    exact told_of_not fun hinside ↦ hinside.2 (h hinside.1)

theorem told_settled : ¬ (1000000000 ≤ t.told.nanosecond ∧ t.told.second ≠ 59) := by
  have hnano := t.nanosecond_lt
  unfold told
  split
  · dsimp only
    omega
  · next h => exact h

theorem told_parts : t.told.hour = t.hour ∧ t.told.minute = t.minute ∧
    t.told.writtenSecond = t.writtenSecond ∧
    t.told.nanosecond % 1000000000 = t.nanosecond % 1000000000 := by
  have hnano := t.nanosecond_lt
  unfold told writtenSecond
  split
  · dsimp only
    omega
  · exact ⟨rfl, rfl, rfl, rfl⟩

theorem chars_told : t.told.chars = t.chars := by
  obtain ⟨hhour, hminute, hsecond, hnano⟩ := t.told_parts
  rw [chars_eq, chars_eq, wholeChars, wholeChars, hhour, hminute, hsecond, hnano]

variable {t} in
theorem of?_fields (h : ¬ (1000000000 ≤ t.nanosecond ∧ t.second ≠ 59)) :
    Time.of? t.hour t.minute t.second t.nanosecond = some t := by
  rw [of?, dif_pos t.hour_lt, dif_pos t.minute_lt, dif_pos t.second_lt, dif_pos t.nanosecond_lt,
    if_neg h]

variable {t} in
theorem time?_of_settled (h : ¬ (1000000000 ≤ t.nanosecond ∧ t.second ≠ 59))
    (hparts : ps.hour = t.hour ∧ ps.minute = t.minute ∧ ps.second = t.writtenSecond ∧
      ps.nanosecond = t.nanosecond % 1000000000) : ps.time? = some t := by
  obtain ⟨hhour, hminute, hsecond, hnano⟩ := hparts
  rw [Parts.time?, hhour, hminute, hsecond, hnano, writtenSecond]
  have hlt := t.second_lt
  have hnanos := t.nanosecond_lt
  by_cases hleap : 1000000000 ≤ t.nanosecond
  · have hlast : t.second = 59 := by omega
    have hwhole : 1000000000 + t.nanosecond % 1000000000 = t.nanosecond := by omega
    rw [if_pos (by omega), hwhole, ← hlast]
    exact of?_fields h
  · have hwhole : t.second + t.nanosecond / 1000000000 = t.second := by omega
    rw [hwhole, if_neg (by omega), Nat.mod_eq_of_lt (by omega)]
    exact of?_fields h

variable {t} in
/-- The parts that are written of a time of day make up the time that its text tells. -/
theorem time?_parts (h : ps.hour = t.hour ∧ ps.minute = t.minute ∧ ps.second = t.writtenSecond ∧
    ps.nanosecond = t.nanosecond % 1000000000) : ps.time? = some t.told := by
  obtain ⟨hhour, hminute, hsecond, hnano⟩ := t.told_parts
  apply time?_of_settled t.told_settled
  rw [hhour, hminute, hsecond, hnano]
  exact h

variable {t} in
theorem readItems_whole {item : Part → Item} (hitem : item = .loose ∨ item = .full)
    (hrest : Ends rest) :
    readItems (item .hour :: mark ':' :: item .minute :: mark ':' :: item .second :: items) ps
        (t.wholeChars ++ rest)
      = readItems items { ps with hour := t.hour, minute := t.minute, second := t.writtenSecond }
          rest := by
  have hhour := t.hour_lt
  have hminute := t.minute_lt
  have hsecond : t.writtenSecond ≤ 60 := by
    have hlt := t.second_lt
    have hnano := t.nanosecond_lt
    rw [writtenSecond]
    omega
  rw [wholeChars, List.append_assoc, List.append_assoc, List.cons_append, List.cons_append,
    readItems_pair hitem rfl (by omega) (by simp only [Part.bounds]; omega) (ends_cons rfl),
    readItems_mark,
    readItems_pair hitem rfl (by omega) (by simp only [Part.bounds]; omega) (ends_cons rfl),
    readItems_mark, readItems_pair hitem rfl (by omega) (by simp only [Part.bounds]; omega) hrest]
  rfl

variable {t} in
theorem readItems_clock (hrest : Ends rest) :
    readItems (secondItems ++ items) ps (t.wholeChars ++ rest)
      = readItems items { ps with hour := t.hour, minute := t.minute, second := t.writtenSecond }
          rest :=
  readItems_whole (.inl rfl) hrest

variable {t} in
theorem readItems_chars (hps : ps.nanosecond = 0) :
    readItems (secondItems ++ [.fraction]) ps t.chars
      = .ok { ps with
          hour := t.hour, minute := t.minute, second := t.writtenSecond
          nanosecond := t.nanosecond % 1000000000 } := by
  have hnanos : t.nanosecond % 1000000000 < 1000000000 := Nat.mod_lt _ (by decide)
  rw [chars_eq, readItems_clock (ends_fractionText _)]
  refine (readItems_of_item (readItem_fraction ?_ hnanos)).trans rfl
  exact hps

/-- The form with the letter `f` for its fraction fits no text that is written. -/
theorem readItems_letter (ps : Parts) :
    ∃ fault, readItems (secondItems ++ [mark '.', mark 'f']) ps t.chars = .error fault := by
  rw [chars_eq]
  rcases fractionText_cases (t.nanosecond % 1000000000) with h | ⟨width, n, h⟩
  · refine ⟨.tooShort, ?_⟩
    rw [h, readItems_clock ends_nil]
    rfl
  · obtain ⟨c, digits, heq, hc⟩ := exists_padded width n
    refine ⟨.invalid, ?_⟩
    rw [h, readItems_clock (ends_cons rfl), readItems_mark, heq]
    have hletter : c ≠ 'f' := by
      rintro rfl
      cases hc
    exact readItems_of_refused (by simp [readItem, mark, hletter])

/-- What is read of the text of a time of day is the time that it tells. -/
theorem read?_chars : Time.read? (String.ofList t.chars) = some t.told := by
  obtain ⟨fault, hletter⟩ := t.readItems_letter .zero
  have hparts : Parts.time? ⟨0, 0, 0, t.hour, t.minute, t.writtenSecond,
      t.nanosecond % 1000000000⟩ = some t.told := time?_parts ⟨rfl, rfl, rfl, rfl⟩
  rw [read?, String.toList_ofList, firstFit?, timeForms, clockForms, List.findSome?_cons,
    hletter, List.findSome?_cons, readItems_chars rfl]
  simp only [Parts.zero, hparts]

/-- Two times of day have one text if it tells the same of both. -/
theorem chars_inj {t t' : Time} : t.chars = t'.chars ↔ t.told = t'.told := by
  constructor
  · intro hchars
    have hread := t.read?_chars
    rw [hchars, t'.read?_chars] at hread
    exact (Option.some.inj hread).symm
  · intro htold
    rw [← t.chars_told, htold, t'.chars_told]

end Time

/-! ## Both together -/

namespace DateTime

variable (dt : DateTime)

def told : DateTime :=
  { dt with time := dt.time.told }

theorem chars_told (between : Char) : dt.told.chars between = dt.chars between := by
  rw [chars, told, Time.chars_told, chars]

/-- The form that ends with a distance from universal time fits no text without one. -/
theorem readItems_full : ∃ fault, readItems fullItems .zero (dt.chars ' ') = .error fault := by
  have hends : Ends (dt.date.restChars ++ ' ' :: dt.time.chars) := ends_cons rfl
  rw [chars, Date.chars_append]
  by_cases hplain : 0 ≤ dt.date.year ∧ dt.date.year ≤ 9999
  · have hlt : dt.date.year.natAbs < tenTo 4 := by
      rw [tenTo_four]
      omega
    have hlength : (padded 4 dt.date.year.natAbs).length = 4 := length_padded (by decide) hlt
    have hnanos : dt.time.nanosecond % 1000000000 < 1000000000 := Nat.mod_lt _ (by decide)
    have hbounds : -2147483648 ≤ (dt.date.year.natAbs : Int) ∧
        (dt.date.year.natAbs : Int) ≤ 2147483647 := by omega
    have hblank (ps : Parts) : readItem (.among ['t', 'T', ' ']) ps (' ' :: dt.time.chars)
        = .ok (ps, dt.time.chars) := rfl
    refine ⟨.tooShort, ?_⟩
    rw [yearText_eq hplain]
    refine (Calendar.readItems_full (p := .year) (readFull_padded hends hlength) hbounds).trans ?_
    refine (Date.readItems_rest (.inr rfl) (ends_cons rfl)).trans ?_
    refine (readItems_of_item (hblank _)).trans ?_
    refine (Time.readItems_whole (.inr rfl) (ends_fractionText _)).trans ?_
    exact (readItems_of_item (readItem_fraction rfl hnanos)).trans rfl
  · obtain ⟨sign, htext, hsign⟩ := yearText_signed hplain
    have hnot : sign.isDigit = false := by
      rcases hsign with ⟨rfl, -⟩ | ⟨rfl, -⟩ <;> rfl
    obtain ⟨fault, hfault⟩ := readNumber_of_not_isDigit 4 hnot (Nat.succ_pos 3)
      (padded 4 dt.date.year.natAbs ++ (dt.date.restChars ++ ' ' :: dt.time.chars))
    refine ⟨fault, readItems_of_refused ?_⟩
    rw [htext, List.cons_append]
    simp only [readItem, readFull, Part.width, hfault, bind, Except.bind]

theorem readItems_blank :
    readItems (dateItems ++ .blanks :: (secondItems ++ [.fraction])) .zero (dt.chars ' ')
      = .ok ⟨dt.date.year, dt.date.month, dt.date.day, dt.time.hour, dt.time.minute,
          dt.time.writtenSecond, dt.time.nanosecond % 1000000000⟩ := by
  have hblank (ps : Parts) :
      readItem .blanks ps (' ' :: dt.time.chars) = .ok (ps, dt.time.chars) := by
    have hskip : Text.skipBlanks (' ' :: dt.time.chars) = Text.skipBlanks dt.time.chars := rfl
    rw [readItem, hskip, dt.time.skipBlanks_chars]
  rw [chars, Date.readItems_chars (ends_cons rfl), readItems_of_item (hblank _),
    Time.readItems_chars rfl]

theorem dateTime?_parts : Parts.dateTime? ⟨dt.date.year, dt.date.month, dt.date.day, dt.time.hour,
    dt.time.minute, dt.time.writtenSecond, dt.time.nanosecond % 1000000000⟩ = some dt.told := by
  rw [Parts.dateTime?, Parts.date?, dt.date.of?_fields,
    Time.time?_parts (t := dt.time) ⟨rfl, rfl, rfl, rfl⟩]
  rfl

/-- What is read of the text of a date with a time of day is what it tells. -/
theorem read?_chars : DateTime.read? (String.ofList (dt.chars ' ')) = some dt.told := by
  obtain ⟨fault, hfull⟩ := dt.readItems_full
  rw [read?, String.toList_ofList, firstFit?, dateTimeForms, clockForms, List.map_cons,
    List.cons_append, List.cons_append, List.findSome?_cons, hfull, List.findSome?_cons,
    dt.readItems_blank]
  simp only [dt.dateTime?_parts]

/-- A text with a mark in between, such as the letter `T`, tells the same parts. -/
theorem readItems_marked {between : Char} (h : between.isDigit = false) :
    readItems (dateItems ++ mark between :: (secondItems ++ [.fraction])) .zero (dt.chars between)
      = .ok ⟨dt.date.year, dt.date.month, dt.date.day, dt.time.hour, dt.time.minute,
          dt.time.writtenSecond, dt.time.nanosecond % 1000000000⟩ := by
  rw [chars, Date.readItems_chars (ends_cons h), readItems_mark, Time.readItems_chars rfl]

theorem chars_inj {between : Char} (h : between.isDigit = false) {dt dt' : DateTime} :
    dt.chars between = dt'.chars between ↔ dt.told = dt'.told := by
  constructor
  · intro hchars
    have hparts := dt.readItems_marked h
    rw [hchars, dt'.readItems_marked h] at hparts
    have hsome := dt.dateTime?_parts
    rw [← Except.ok.inj hparts, dt'.dateTime?_parts] at hsome
    exact (Option.some.inj hsome).symm
  · intro htold
    rw [← dt.chars_told, htold, dt'.chars_told]

end DateTime

end RecordStore
