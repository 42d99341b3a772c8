import RecordStore.Proofs.Failures
import RecordStore.Proofs.Text.Quoted
import RecordStore.Proofs.Uuid

namespace RecordStore

open Text (quotedChars)

/-!
# Subjects of errors are told apart

The message of a storage error ends with the keys that it is about. Read from the end, a key begins
behind the last bracket, blank or equals sign that is not part of a quoted text, so the keys of a
list are found one after another, whatever stands before the list. Two storage errors about
different keys never have the same message.
-/

/-! ## Single keys -/

/-- The characters of integers and identifiers. -/
def isBare (c : Char) : Bool :=
  c == '-' || (hexValue? c).isSome

/-- A character that no integer and no identifier contains, and that no quoted text has in front of
a quote. -/
def Delimits (c : Char) : Prop :=
  isBare c = false ∧ c ≠ '"' ∧ c ≠ '\\'

instance : DecidablePred Delimits :=
  fun c ↦ inferInstanceAs (Decidable (isBare c = false ∧ c ≠ '"' ∧ c ≠ '\\'))

/-- A text behind which a key may begin. -/
def EndsDelimited (s : List Char) : Prop :=
  ∃ init c, Delimits c ∧ s = init ++ [c]

theorem isBare_digitChar {d : Nat} (h : d < 16) : isBare (Nat.digitChar d) = true := by
  rw [isBare, hexValue?_digitChar h, Option.isSome_some, Bool.or_true]

theorem isBare_of_mem_integerChars {n : Int} {c : Char} (h : c ∈ integerChars n) :
    isBare c = true := by
  rcases List.mem_append.mp h with hsign | hdigit
  · split at hsign
    · rw [List.mem_singleton.mp hsign]
      rfl
    · cases hsign
  · obtain ⟨d, hd, rfl⟩ := exists_of_mem_toDigits (by decide) hdigit
    exact isBare_digitChar (Nat.lt_trans hd (by decide))

namespace Uuid

theorem isBare_of_mem_chars {u : Uuid} {c : Char} (h : c ∈ u.chars) : isBare c = true := by
  rcases mem_chars_cases h with rfl | ⟨d, hd, rfl⟩
  · rfl
  · exact isBare_digitChar hd

/-- An identifier has more hyphens than an integer has signs. -/
theorem chars_ne_integerChars (u : Uuid) (n : Int) : u.chars ≠ integerChars n := by
  intro h
  have hlength := congrArg List.length h
  have hdigits := congrArg List.length (congrArg (List.filter (· != '-')) h)
  have hkept : (Nat.toDigits 10 n.natAbs).filter (· != '-') = Nat.toDigits 10 n.natAbs := by
    rw [List.filter_eq_self]
    intro c hc
    have hdigit := Nat.isDigit_of_mem_toDigits (by decide) (by decide) hc
    rw [bne_iff_ne]
    rintro rfl
    cases hdigit
  rw [u.length_chars, integerChars, List.length_append] at hlength
  rw [u.filter_chars, u.length_digits, integerChars, List.filter_append, List.length_append,
    hkept] at hdigits
  have hsign : (if n < 0 then ['-'] else []).length ≤ 1 := by split <;> simp
  have hnone : (List.filter (· != '-') (if n < 0 then ['-'] else [])).length = 0 := by
    split <;> rfl
  omega

end Uuid

namespace Key

theorem toList_display_int (n : Int64) : (int n).display.toList = integerChars n.toInt :=
  String.toList_ofList

theorem toList_display_text (s : String) : (text s).display.toList = quotedChars s.toList :=
  Text.toList_quoted s

theorem toList_display_uuid (u : Uuid) : (uuid u).display.toList = u.chars :=
  String.toList_ofList

theorem exists_text {k : Key} (h : k.keyType = .text) : ∃ s, k = text s := by
  cases k with
  | text s => exact ⟨s, rfl⟩
  | _ => cases h

theorem getLast?_display_text (s : String) : (text s).display.toList.getLast? = some '"' := by
  rw [toList_display_text, Text.getLast?_quotedChars]

theorem isBare_of_mem_display {k : Key} (hk : k.keyType ≠ .text) {c : Char}
    (h : c ∈ k.display.toList) : isBare c = true := by
  cases k with
  | int n => exact isBare_of_mem_integerChars (toList_display_int n ▸ h)
  | text s => exact absurd rfl hk
  | uuid u => exact Uuid.isBare_of_mem_chars (toList_display_uuid u ▸ h)

theorem quote_mem_display_iff (k : Key) : '"' ∈ k.display.toList ↔ k.keyType = .text := by
  constructor
  · intro h
    by_contra hk
    cases isBare_of_mem_display hk h
  · intro hk
    obtain ⟨s, rfl⟩ := exists_text hk
    exact List.mem_of_getLast? (getLast?_display_text s)

theorem display_ne_nil (k : Key) : k.display.toList ≠ [] := by
  cases k with
  | int n =>
      rw [toList_display_int, integerChars]
      exact List.append_ne_nil_of_right_ne_nil _ Nat.toDigits_ne_nil
  | text s =>
      rw [toList_display_text]
      exact List.cons_ne_nil _ _
  | uuid u =>
      intro hnil
      have hlength := u.length_chars
      rw [← toList_display_uuid, hnil] at hlength
      cases hlength

/-- Whatever stands before it, a key ends with a quote or with a character of an integer or an
identifier. -/
theorem exists_getLast?_display (before : List Char) (k : Key) :
    ∃ last, (before ++ k.display.toList).getLast? = some last ∧
      (last = '"' ∨ isBare last = true) := by
  rw [List.getLast?_append_of_ne_nil _ k.display_ne_nil]
  by_cases hk : k.keyType = .text
  · obtain ⟨s, rfl⟩ := exists_text hk
    exact ⟨'"', getLast?_display_text s, .inl rfl⟩
  · have hlast := List.getLast?_eq_some_getLast k.display_ne_nil
    exact ⟨_, hlast, .inr (isBare_of_mem_display hk (List.getLast_mem _))⟩

theorem display_injective : Function.Injective display := by
  intro k k' h
  have htext : k.keyType = .text ↔ k'.keyType = .text := by
    rw [← quote_mem_display_iff, ← quote_mem_display_iff, h]
  have hchars := congrArg String.toList h
  cases k <;> cases k' <;>
    simp only [toList_display_int, toList_display_text, toList_display_uuid] at hchars
  case int.int n n' =>
    have hread := readInteger_integerChars n
    rw [hchars, readInteger_integerChars] at hread
    rw [Except.ok.inj hread]
  case int.uuid n u => exact absurd hchars.symm (u.chars_ne_integerChars n.toInt)
  case text.text s s' => rw [String.toList_inj.mp (Text.quotedChars_injective hchars)]
  case uuid.int u n => exact absurd hchars (u.chars_ne_integerChars n.toInt)
  case uuid.uuid u u' => rw [Uuid.toText_injective h]
  case int.text | uuid.text => cases htext.mpr rfl
  case text.int | text.uuid => cases htext.mp rfl

section

variable {c : Char} {k k' : Key}

/-- Behind a delimiter no key is the end of another one. -/
theorem display_ne_append (hc : Delimits c) (k k' : Key) (before : List Char) :
    k.display.toList ≠ before ++ c :: k'.display.toList := by
  obtain ⟨hbare, hquote, hbackslash⟩ := hc
  intro h
  by_cases hk : k.keyType = .text
  · obtain ⟨s, rfl⟩ := exists_text hk
    by_cases hk' : k'.keyType = .text
    · obtain ⟨s', rfl⟩ := exists_text hk'
      rw [toList_display_text, toList_display_text] at h
      exact Text.quotedChars_ne_append hquote hbackslash _ _ _ h
    · -- an integer or an identifier does not end with a quote
      have hlast := getLast?_display_text s
      rw [h, List.getLast?_append_of_ne_nil _ (List.cons_ne_nil _ _)] at hlast
      rcases List.mem_cons.mp (List.mem_of_getLast? hlast) with heq | hmem
      · exact hquote heq.symm
      · cases isBare_of_mem_display hk' hmem
  · have hmem : c ∈ k.display.toList := h ▸ List.mem_append_right _ List.mem_cons_self
    rw [isBare_of_mem_display hk hmem] at hbare
    cases hbare

/-- A key is read off the end of a text that has a delimiter in front of it. -/
theorem append_display_inj {front front' : List Char} (hfront : EndsDelimited front)
    (hfront' : EndsDelimited front')
    (h : front ++ k.display.toList = front' ++ k'.display.toList) : front = front' ∧ k = k' := by
  obtain ⟨init, c, hc, rfl⟩ := hfront
  obtain ⟨init', c', hc', rfl⟩ := hfront'
  rw [List.append_assoc, List.append_assoc, List.singleton_append, List.singleton_append] at h
  rcases Text.append_cons_cases h with ⟨rfl, rfl, hkeys⟩ | ⟨gap, -, hkeys⟩ | ⟨gap, -, hkeys⟩
  · exact ⟨rfl, display_injective (String.toList_inj.mp hkeys)⟩
  · exact absurd hkeys (display_ne_append hc' k k' gap)
  · exact absurd hkeys (display_ne_append hc k' k gap)

end

/-! ## Lists of keys -/

/-- The beginning of the text of a list in which more keys follow. -/
def leadChars (keys : List Key) : List Char :=
  '[' :: keys.flatMap fun k ↦ k.display.toList ++ [',', ' ']

theorem leadChars_concat (keys : List Key) (k : Key) :
    leadChars (keys ++ [k]) = leadChars keys ++ (k.display.toList ++ [',', ' ']) := by
  simp [leadChars]

theorem getLast?_append_leadChars_nil (before : List Char) :
    (before ++ leadChars []).getLast? = some '[' :=
  List.getLast?_concat

theorem getLast?_append_leadChars_concat (before : List Char) (keys : List Key) (k : Key) :
    (before ++ leadChars (keys ++ [k])).getLast? = some ' ' := by
  rw [leadChars_concat, ← List.append_assoc, ← List.append_assoc, List.getLast?_append]
  rfl

theorem endsDelimited_leadChars (before : List Char) (keys : List Key) :
    EndsDelimited (before ++ leadChars keys) := by
  rcases List.eq_nil_or_concat' keys with rfl | ⟨init, k, rfl⟩
  · exact ⟨before, '[', by decide, rfl⟩
  · have hlast := getLast?_append_leadChars_concat before init k
    obtain ⟨front, hfront⟩ := List.getLast?_eq_some_iff.mp hlast
    exact ⟨front, ' ', by decide, hfront⟩

section

variable {before before' : List Char} {keys keys' : List Key}

/-- The last key is read off the end of what it is followed by. -/
theorem append_leadChars_display_inj {k k' : Key} {closing : List Char}
    (h : before ++ (leadChars keys ++ (k.display.toList ++ closing))
      = before' ++ (leadChars keys' ++ (k'.display.toList ++ closing))) :
    before ++ leadChars keys = before' ++ leadChars keys' ∧ k = k' := by
  simp only [← List.append_assoc] at h
  exact append_display_inj (endsDelimited_leadChars before keys)
    (endsDelimited_leadChars before' keys') (List.append_cancel_right h)

/-- The keys are read off one by one, the last one first, and then comes the bracket. -/
theorem append_leadChars_inj (h : before ++ leadChars keys = before' ++ leadChars keys') :
    before = before' ∧ keys = keys' := by
  induction keys using List.reverseRecOn generalizing keys' with
  | nil =>
      rcases List.eq_nil_or_concat' keys' with rfl | ⟨init', k', rfl⟩
      · exact ⟨List.append_cancel_right h, rfl⟩
      · have hlast := getLast?_append_leadChars_nil before
        rw [h, getLast?_append_leadChars_concat] at hlast
        cases hlast
  | append_singleton init k ih =>
      rcases List.eq_nil_or_concat' keys' with rfl | ⟨init', k', rfl⟩
      · have hlast := getLast?_append_leadChars_nil before'
        rw [← h, getLast?_append_leadChars_concat] at hlast
        cases hlast
      · rw [leadChars_concat, leadChars_concat] at h
        obtain ⟨hinit, rfl⟩ := append_leadChars_display_inj h
        obtain ⟨hbefore, rfl⟩ := ih hinit
        exact ⟨hbefore, rfl⟩

end

theorem toList_listText (keys : List Key) : (listText keys).toList
    = '[' :: ([',', ' '].intercalate (keys.map fun k ↦ k.display.toList) ++ [']']) := by
  rw [listText, String.toList_append, String.toList_append, String.toList_intercalate,
    List.map_map]
  rfl

theorem toList_listText_nil : (listText []).toList = ['[', ']'] := rfl

theorem intercalate_map_concat {α : Type} (separator : List Char) (f : α → List Char) (xs : List α)
    (x : α) : separator.intercalate ((xs ++ [x]).map f)
      = (xs.flatMap fun y ↦ f y ++ separator) ++ f x := by
  induction xs with
  | nil => simp
  | cons y ys ih =>
      rw [List.cons_append, List.map_cons, List.intercalate_cons_of_ne_nil (by simp), ih]
      simp

theorem toList_listText_concat (keys : List Key) (k : Key) :
    (listText (keys ++ [k])).toList = leadChars keys ++ (k.display.toList ++ [']']) := by
  rw [toList_listText, intercalate_map_concat, List.append_assoc]
  rfl

section

variable {before before' : List Char} {keys keys' : List Key}

/-- A bracket that is closed at once is no end of a key. -/
theorem append_listText_nil_ne (k : Key) : before ++ (listText []).toList
    ≠ before' ++ (listText (keys ++ [k])).toList := by
  intro h
  have hclosed : before ++ ['['] ++ [']']
      = before' ++ leadChars keys ++ k.display.toList ++ [']'] := by
    rw [toList_listText_nil, toList_listText_concat] at h
    simpa using h
  have hbracket := List.append_cancel_right hclosed
  obtain ⟨last, hlast, hkind⟩ := exists_getLast?_display (before' ++ leadChars keys) k
  rw [← hbracket, List.getLast?_concat] at hlast
  obtain rfl := Option.some.inj hlast
  exact absurd hkind (by decide)

/-- The text of a list is found at the end of whatever it ends. -/
theorem append_listText_inj
    (h : before ++ (listText keys).toList = before' ++ (listText keys').toList) :
    before = before' ∧ keys = keys' := by
  rcases List.eq_nil_or_concat' keys with rfl | ⟨init, k, rfl⟩ <;>
    rcases List.eq_nil_or_concat' keys' with rfl | ⟨init', k', rfl⟩
  · exact ⟨List.append_cancel_right h, rfl⟩
  · exact absurd h (append_listText_nil_ne k')
  · exact absurd h.symm (append_listText_nil_ne k)
  · rw [toList_listText_concat, toList_listText_concat] at h
    obtain ⟨hinit, rfl⟩ := append_leadChars_display_inj h
    obtain ⟨hbefore, rfl⟩ := append_leadChars_inj hinit
    exact ⟨hbefore, rfl⟩

end

theorem listText_inj {keys keys' : List Key} : listText keys = listText keys' ↔ keys = keys' := by
  refine ⟨fun h ↦ ?_, fun h ↦ by rw [h]⟩
  exact (append_listText_inj (congrArg ([] ++ String.toList ·) h)).2

end Key

/-! ## Subjects -/

namespace Subject

/-- A subject made of one key or of a list of keys. -/
def NamesKeys : Subject → Prop
  | one _ | ids _ | records _ => True
  | whole | stated _ => False

theorem toList_text_one (k : Key) :
    (one k).text.toList = " and \x7bid=".toList ++ (k.display.toList ++ ['}']) := by
  simp [text]

theorem toList_text_ids (keys : List Key) :
    (ids keys).text.toList = " and \x7bids=".toList ++ ((Key.listText keys).toList ++ ['}']) := by
  simp [text]

theorem toList_text_records (keys : List Key) : (records keys).text.toList
    = " and \x7bobjects=".toList ++ ((Key.listText keys).toList ++ ['}']) := by
  simp [text]

section

variable {before before' front front' : List Char} {k k' : Key} {keys keys' : List Key}

theorem append_one_ne_append_list :
    before ++ (front ++ (k.display.toList ++ ['}']))
      ≠ before' ++ (front' ++ ((Key.listText keys).toList ++ ['}'])) := by
  intro h
  simp only [← List.append_assoc] at h
  have hends := congrArg List.getLast? (List.append_cancel_right h)
  obtain ⟨last, hlast, hkind⟩ := Key.exists_getLast?_display (before ++ front) k
  rw [hlast, Key.toList_listText, ← List.cons_append, ← List.append_assoc,
    List.getLast?_concat] at hends
  obtain rfl := Option.some.inj hends
  exact absurd hkind (by decide)

theorem append_list_inj (h : before ++ (front ++ ((Key.listText keys).toList ++ ['}']))
      = before' ++ (front' ++ ((Key.listText keys').toList ++ ['}']))) :
    before ++ front = before' ++ front' ∧ keys = keys' := by
  simp only [← List.append_assoc] at h
  exact Key.append_listText_inj (List.append_cancel_right h)

theorem append_ids_ne_append_records :
    before ++ " and \x7bids=".toList ≠ before' ++ " and \x7bobjects=".toList := by
  intro h
  have hends := congrArg (fun t ↦ t.reverse.take 3) h
  simp at hends

end

/-- The keys that a subject names are found at the end of whatever its text ends. -/
theorem eq_of_append_text {before before' : List Char} {s s' : Subject} (hs : s.NamesKeys)
    (hs' : s'.NamesKeys) (h : before ++ s.text.toList = before' ++ s'.text.toList) : s = s' := by
  cases s with
  | one k =>
      cases s' with
      | one k' =>
          have hfront (before : List Char) : EndsDelimited (before ++ " and \x7bid=".toList) :=
            ⟨before ++ " and \x7bid".toList, '=', by decide, by simp⟩
          rw [toList_text_one, toList_text_one] at h
          simp only [← List.append_assoc] at h
          obtain ⟨-, rfl⟩ := Key.append_display_inj (hfront before) (hfront before')
            (List.append_cancel_right h)
          rfl
      | ids keys' =>
          rw [toList_text_one, toList_text_ids] at h
          exact absurd h append_one_ne_append_list
      | records keys' =>
          rw [toList_text_one, toList_text_records] at h
          exact absurd h append_one_ne_append_list
      | _ => cases hs'
  | ids keys =>
      cases s' with
      | one k' =>
          rw [toList_text_one, toList_text_ids] at h
          exact absurd h.symm append_one_ne_append_list
      | ids keys' =>
          rw [toList_text_ids, toList_text_ids] at h
          rw [(append_list_inj h).2]
      | records keys' =>
          rw [toList_text_ids, toList_text_records] at h
          exact absurd (append_list_inj h).1 append_ids_ne_append_records
      | _ => cases hs'
  | records keys =>
      cases s' with
      | one k' =>
          rw [toList_text_one, toList_text_records] at h
          exact absurd h.symm append_one_ne_append_list
      | ids keys' =>
          rw [toList_text_records, toList_text_ids] at h
          exact absurd (append_list_inj h).1.symm append_ids_ne_append_records
      | records keys' =>
          rw [toList_text_records, toList_text_records] at h
          rw [(append_list_inj h).2]
      | _ => cases hs'
  | _ => cases hs

end Subject

/-! ## Storage errors -/

theorem Error.toList_message_storage (operation typeName : String) (subject : Subject)
    (source : Error) : (storage operation typeName subject source).message.toList
      = ("Database error when calling ObjectStorage::" ++ operation ++ "(...) with \x7btype="
          ++ typeName ++ "\x7d").toList ++ subject.text.toList := by
  rw [← String.toList_append]
  rfl

/-- Storage errors with one message have one subject. -/
theorem Error.subject_eq_of_message {operation operation' typeName typeName' : String}
    {subject subject' : Subject} {source source' : Error} (hs : subject.NamesKeys)
    (hs' : subject'.NamesKeys) (h : (storage operation typeName subject source).message
      = (storage operation' typeName' subject' source').message) : subject = subject' := by
  have hchars := congrArg String.toList h
  rw [toList_message_storage, toList_message_storage] at hchars
  exact Subject.eq_of_append_text hs hs' hchars

/-- The operation of a store fails with this error, a storage error, on some surface. -/
def Operation.FailsInStorage (op : Operation) (e : Error) : Prop :=
  ∃ (σ : Type) (surface : Surface σ) (d : Dialect) (store : Store) (s : σ),
    store.registry.Reachable ∧
      ((store.operate op).run.run surface d store.registry s).result = .error e ∧
      e.source?.isSome

theorem Operation.FailsInStorage.eq_storage {op : Operation} {e : Error}
    (h : op.FailsInStorage e) :
    ∃ typeName source, e = .storage op.method typeName op.subject source := by
  obtain ⟨σ, surface, d, store, s, hstore, hresult, hsource⟩ := h
  obtain ⟨⟨log, -, -, hending⟩, -, -⟩ :=
    (Store.classified_operate surface d s hstore op).run hstore (Store.within_operate hstore op)
  have hclassified : op.Classified store.registry.get? log
    ((store.operate op).run.run surface d store.registry s).result := hending
  rw [hresult] at hclassified
  cases hclassified with
  | refused fault _ => cases hsource
  | failed _ _ _ _ => exact ⟨_, _, rfl⟩

/-- Lists of keys have the same text only if they are the same list. So storage errors about
different keys never have the same message, whatever their operations, types and sources are, and
neither have the failures of operations that were asked for different keys. -/
theorem listText_unambiguous :
    (∀ keys keys' : List Key, Key.listText keys = Key.listText keys' ↔ keys = keys') ∧
    (∀ subject subject' : Subject, subject.NamesKeys → subject'.NamesKeys → subject ≠ subject' →
      ∀ (operation operation' typeName typeName' : String) (source source' : Error),
        (Error.storage operation typeName subject source).message
          ≠ (Error.storage operation' typeName' subject' source').message) ∧
    ∀ (op op' : Operation) (e e' : Error), op.FailsInStorage e → op'.FailsInStorage e' →
      op.subject.NamesKeys → op'.subject.NamesKeys → op.subject ≠ op'.subject →
        e.message ≠ e'.message := by
  refine ⟨fun keys keys' ↦ Key.listText_inj, ?_, ?_⟩
  · intro subject subject' hs hs' hne operation operation' typeName typeName' source source' h
    exact hne (Error.subject_eq_of_message hs hs' h)
  · intro op op' e e' hfails hfails' hs hs' hne h
    obtain ⟨typeName, source, rfl⟩ := hfails.eq_storage
    obtain ⟨typeName', source', rfl⟩ := hfails'.eq_storage
    exact hne (Error.subject_eq_of_message hs hs' h)

/-- One key that looks like two, in lists, in errors under a type name that goes on like a subject,
and in the failures of two batches. -/
theorem listText_unambiguous_delimiters :
    let l : Layout := ⟨"Note", none, "id", .text, [("title", .text)]⟩
    let keys : List Key := [.text "a\", \"b"]
    let keys' : List Key := [.text "a", .text "b"]
    let batch (keys : List Key) : Operation := .putAll (keys.map fun k ↦ some ⟨l, k, [.text ""]⟩)
    (Subject.ids keys).NamesKeys ∧ (Subject.records keys').NamesKeys ∧
      Subject.ids keys ≠ .records keys' ∧ Key.listText keys ≠ Key.listText keys' ∧
      (Error.storage "get_some" "Note\x7d and \x7bids=[" (.ids keys) .yaml).message
        ≠ (Error.storage "put_all" "Note" (.records keys') .yaml).message ∧
      ∃ e e', (batch keys).FailsInStorage e ∧ (batch keys').FailsInStorage e' ∧
        (batch keys).subject ≠ (batch keys').subject ∧ e.message ≠ e'.message := by
  intro l keys keys' batch
  let t : RecordType := ⟨"Note", none, "id", .text, [⟨"getTitle", .text, false⟩]⟩
  let store : Store := ⟨(Registry.empty.register t).2, ⟨500⟩, false⟩
  let result (op : Operation) : Except Error Reply :=
    ((store.operate op).run.run .script .sqlite store.registry [⟨some "lost", [], 0⟩]).result
  have hfails {op : Operation} (h : ((failureOf (result op)).bind Error.source?).isSome) :
      ∃ e, op.FailsInStorage e := by
    obtain ⟨source, hsome⟩ := Option.isSome_iff_exists.mp h
    obtain ⟨e, hfailure, hsource⟩ := Option.bind_eq_some_iff.mp hsome
    exact ⟨e, _, .script, .sqlite, store, _, .register t .empty, failureOf_eq_some.mp hfailure,
      Option.isSome_of_eq_some hsource⟩
  obtain ⟨hlists, hsubjects, hfailures⟩ := listText_unambiguous
  obtain ⟨e, he⟩ := @hfails (batch keys) (by decide +kernel)
  obtain ⟨e', he'⟩ := @hfails (batch keys') (by decide +kernel)
  have hnamed : (Subject.ids keys).NamesKeys := trivial
  have hnamed' : (Subject.records keys').NamesKeys := trivial
  have hne : Subject.ids keys ≠ .records keys' := by decide
  have hbatches : (batch keys).subject ≠ (batch keys').subject := by decide
  refine ⟨hnamed, hnamed', hne, ?_, ?_, e, e', he, he', hbatches, ?_⟩
  · intro h
    exact absurd ((hlists keys keys').mp h) (by decide)
  · exact hsubjects _ _ hnamed hnamed' hne _ _ _ _ _ _
  · exact hfailures _ _ _ _ he he' trivial trivial hbatches

end RecordStore
