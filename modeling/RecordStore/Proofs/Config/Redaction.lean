import Mathlib.Data.List.Basic
import Mathlib.Data.List.TakeWhile
import RecordStore.Config.Basic

namespace RecordStore

open Text (cutAt? quoted)

/-!
# Addresses shown without their password

The address of a database is cut at the first `://`, the first slash behind it and the last `@`
between the two, and what stands between the first colon and that `@` is replaced. The password is
one of the texts that these cuts are looked for in. It stays out of what is shown as long as it has
no slash; one with a slash is shown from its first slash on.
-/

namespace Text

/-- What stands behind the last occurrence of a character, or everything if there is none. -/
def behindLast (c : Char) (s : List Char) : List Char :=
  (s.reverse.takeWhile (· != c)).reverse

section

variable {c : Char}

@[simp] theorem behindLast_append_cons (c : Char) (s tail : List Char) :
    behindLast c (s ++ c :: tail) = behindLast c tail := by
  have hreverse : (s ++ c :: tail).reverse = tail.reverse ++ c :: s.reverse := by simp
  unfold behindLast
  rw [hreverse, List.takeWhile_append]
  split
  · next hlength =>
    have hall : tail.reverse.takeWhile (· != c) = tail.reverse :=
      (List.takeWhile_prefix _).eq_of_length hlength
    simp [hall]
  · rfl

theorem behindLast_of_not_mem {s : List Char} (h : c ∉ s) : behindLast c s = s := by
  have hall : s.reverse.takeWhile (· != c) = s.reverse := by
    rw [List.takeWhile_eq_self_iff]
    intro x hx
    simpa using fun heq : x = c ↦ h (heq ▸ List.mem_reverse.mp hx)
  rw [behindLast, hall, List.reverse_reverse]

theorem not_mem_behindLast (c : Char) (s : List Char) : c ∉ behindLast c s := by
  intro h
  have hmem := List.mem_takeWhile_imp (List.mem_reverse.mp h)
  simp at hmem

theorem exists_append_behindLast {s : List Char} (h : c ∈ s) :
    ∃ before, s = before ++ c :: behindLast c s := by
  obtain ⟨tail, before, hreverse, htail⟩ :=
    List.eq_append_cons_of_mem (List.mem_reverse.mpr h)
  have hs : s = before.reverse ++ c :: tail.reverse := by
    rw [← List.reverse_reverse s, hreverse]
    simp
  refine ⟨before.reverse, ?_⟩
  rw [hs, behindLast_append_cons, behindLast_of_not_mem (by simpa using htail)]

theorem length_behindLast_le (c : Char) (s : List Char) : (behindLast c s).length ≤ s.length := by
  rw [behindLast, List.length_reverse]
  exact (List.takeWhile_prefix _).length_le.trans_eq List.length_reverse

end

section

variable {s : List Char} {c : Char}

theorem takeWhile_ne_append (h : c ∉ s) (t : List Char) :
    (s ++ t).takeWhile (· != c) = s ++ t.takeWhile (· != c) :=
  List.takeWhile_append_of_pos fun x hx ↦ by simpa using fun heq : x = c ↦ h (heq ▸ hx)

theorem dropWhile_ne_append (h : c ∉ s) (t : List Char) :
    (s ++ t).dropWhile (· != c) = t.dropWhile (· != c) :=
  List.dropWhile_append_of_pos fun x hx ↦ by simpa using fun heq : x = c ↦ h (heq ▸ hx)

end

/-- No occurrence of `://` begins in front of the one that ends a scheme: it cannot overlap with
it. -/
theorem not_prefix_of_scheme {c : Char} {scheme : List Char}
    (h : ¬ "://".toList <:+: c :: scheme) (rest : List Char) :
    ¬ "://".toList <+: c :: (scheme ++ "://".toList ++ rest) := by
  intro hprefix
  match scheme, h, hprefix with
  | [], _, hprefix => simp at hprefix
  | [a], _, hprefix => simp at hprefix
  | a :: b :: scheme, h, hprefix =>
      simp only [String.reduceToList, List.cons_append, List.cons_prefix_cons] at hprefix
      obtain ⟨rfl, rfl, rfl, -⟩ := hprefix
      exact h ⟨[], scheme, rfl⟩

theorem cutAt?_scheme {scheme : List Char} (h : ¬ "://".toList <:+: scheme) (rest : List Char) :
    cutAt? "://".toList (scheme ++ "://".toList ++ rest) = some (scheme, rest) := by
  induction scheme with
  | nil => rfl
  | cons c scheme ih =>
      have hnone : "://".toList.isPrefixOf? (c :: (scheme ++ "://".toList ++ rest)) = none := by
        rw [Option.eq_none_iff_forall_ne_some]
        intro after hafter
        have happend := List.append_eq_of_isPrefixOf?_eq_some hafter
        exact not_prefix_of_scheme h rest ⟨after, happend⟩
      have hrest : ¬ "://".toList <:+: scheme := fun hinfix ↦ h (List.infix_cons hinfix)
      rw [List.cons_append, List.cons_append, cutAt?, hnone, ih hrest]
      rfl

end Text

namespace DatabaseSettings

/-! ## The authority -/

theorem redactAuthority_of_not_mem {s : List Char} (h : '@' ∉ s) : redactAuthority s = s := by
  rw [redactAuthority, if_neg fun hboth ↦ h hboth.1]

theorem redactAuthority_of_mem {credentials host : List Char} (hhost : '@' ∉ host) :
    redactAuthority (credentials ++ '@' :: host) = if ':' ∈ credentials
      then credentials.takeWhile (· != ':') ++ ":***@".toList ++ host
      else credentials ++ '@' :: host := by
  have hlast : ((credentials ++ '@' :: host).reverse.takeWhile (· != '@')).reverse = host := by
    change Text.behindLast '@' (credentials ++ '@' :: host) = host
    rw [Text.behindLast_append_cons, Text.behindLast_of_not_mem hhost]
  have htake : (credentials ++ '@' :: host).take
      ((credentials ++ '@' :: host).length - host.length - 1) = credentials := by
    have hlength : (credentials ++ '@' :: host).length - host.length - 1 = credentials.length := by
      simp only [List.length_append, List.length_cons]
      omega
    rw [hlength, List.take_left]
  simp only [redactAuthority, hlast, htake, List.mem_append, List.mem_cons, true_or, or_true,
    true_and]

/-- Behind the colon of a user, the password ends at the last `@` of the authority. -/
theorem redactAuthority_user {user : List Char} (huser : ':' ∉ user) (tail : List Char) :
    redactAuthority (user ++ ':' :: tail) = if '@' ∈ tail
      then user ++ ":***@".toList ++ Text.behindLast '@' tail
      else user ++ ':' :: tail := by
  split
  · next hat =>
    obtain ⟨before, htail⟩ := Text.exists_append_behindLast hat
    have hauthority : user ++ ':' :: tail
        = (user ++ ':' :: before) ++ '@' :: Text.behindLast '@' tail := by
      rw [List.append_assoc, List.cons_append, ← htail]
    have hname : (user ++ ':' :: before).takeWhile (· != ':') = user := by
      simp [Text.takeWhile_ne_append huser]
    rw [hauthority, redactAuthority_of_mem (Text.not_mem_behindLast '@' tail), if_pos (by simp),
      hname]
  · next hat =>
    by_cases huser' : '@' ∈ user
    · -- the last `@` belongs to the user, in front of the first colon
      obtain ⟨before, hbefore⟩ := Text.exists_append_behindLast huser'
      have hauthority : user ++ ':' :: tail
          = before ++ '@' :: (Text.behindLast '@' user ++ ':' :: tail) :=
        (congrArg (· ++ ':' :: tail) hbefore).trans (List.append_assoc ..)
      have hcolon : ':' ∉ before := fun h ↦ huser (hbefore ▸ List.mem_append_left _ h)
      have hhost : '@' ∉ Text.behindLast '@' user ++ ':' :: tail := by
        simp [Text.not_mem_behindLast, hat]
      rw [hauthority, redactAuthority_of_mem hhost, if_neg hcolon]
    · exact redactAuthority_of_not_mem (by simp [huser', hat])

/-! ## The address -/

/-- What is shown of a text behind a colon: of its part in front of the first slash only what
follows the last `@`. -/
def shownBehind (rest : List Char) : List Char :=
  Text.behindLast '@' (rest.takeWhile (· != '/')) ++ rest.dropWhile (· != '/')

theorem length_shownBehind_le (rest : List Char) : (shownBehind rest).length ≤ rest.length := by
  have hlength := Text.length_behindLast_le '@' (rest.takeWhile (· != '/'))
  have hparts := congrArg List.length (List.takeWhile_append_dropWhile (p := (· != '/')) (l := rest))
  simp only [shownBehind, List.length_append] at hparts ⊢
  omega

theorem redact_user {scheme user : List Char} (hscheme : ¬ "://".toList <:+: scheme)
    (hcolon : ':' ∉ user) (hslash : '/' ∉ user) (tail : List Char) :
    redact (scheme ++ "://".toList ++ (user ++ ':' :: tail))
      = if '@' ∈ tail.takeWhile (· != '/')
        then scheme ++ "://".toList ++ (user ++ ":***@".toList ++ shownBehind tail)
        else scheme ++ "://".toList ++ (user ++ ':' :: tail) := by
  have hfront : (user ++ ':' :: tail).takeWhile (· != '/')
      = user ++ ':' :: tail.takeWhile (· != '/') := by
    rw [Text.takeWhile_ne_append hslash, List.takeWhile_cons_of_pos (by decide)]
  have hback : (user ++ ':' :: tail).dropWhile (· != '/') = tail.dropWhile (· != '/') := by
    rw [Text.dropWhile_ne_append hslash, List.dropWhile_cons_of_pos (by decide)]
  rw [redact, Text.cutAt?_scheme hscheme]
  simp only [hfront, hback, redactAuthority_user hcolon]
  split
  · simp [shownBehind]
  · simp

/-- The address that a user enters with a password. -/
def address (scheme user password rest : String) : String :=
  scheme ++ "://" ++ user ++ ":" ++ password ++ "@" ++ rest

theorem toList_address (scheme user password rest : String) :
    (address scheme user password rest).toList = scheme.toList ++ "://".toList
      ++ (user.toList ++ ':' :: (password.toList ++ '@' :: rest.toList)) := by
  simp [address]

/-- The address with `***` for the password. A further `@` in front of the first slash of the rest
counts as part of the password. -/
def hiddenAddress (scheme user rest : String) : String :=
  address scheme user "***" (String.ofList (shownBehind rest.toList))

/-- What is shown of an address whose password has a slash, cut there. -/
def slashedAddress (scheme user before after rest : String) : String :=
  scheme ++ "://" ++ user ++ ":"
    ++ (if '@' ∈ before.toList
      then "***@" ++ String.ofList (Text.behindLast '@' before.toList) else before)
    ++ "/" ++ after ++ "@" ++ rest

/-- The rest alone is not shorter than what is shown of it, so there is no room for the slash behind
`***@`. -/
theorem slashedAddress_ne_hiddenAddress (scheme user before after rest : String) :
    slashedAddress scheme user before after rest ≠ hiddenAddress scheme user rest := by
  intro h
  have hle := length_shownBehind_le rest.toList
  have hlist := congrArg String.toList h
  unfold slashedAddress at hlist
  split at hlist
  · simp only [hiddenAddress, address, String.toList_append, String.toList_ofList,
      List.append_assoc, List.append_cancel_left_eq] at hlist
    have hlength := congrArg List.length hlist
    simp at hlength
    omega
  · simp only [hiddenAddress, address, String.toList_append, String.toList_ofList,
      List.append_assoc, List.append_cancel_left_eq] at hlist
    generalize before.toList = chars at hlist
    have hlength := congrArg List.length hlist
    match chars, hlist, hlength with
    | [], hlist, _ => simp at hlist
    | [_], hlist, _ => simp at hlist
    | [_, _], hlist, _ => simp at hlist
    | _ :: _ :: _ :: chars, _, hlength =>
        simp at hlength
        omega

/-- Everything that is shown of the settings, with some address. -/
def inspectWith (c : DatabaseSettings) (url : String) : Text.Inspected :=
  .fields "DatabaseConfig" [("type", .ofText (quoted c.type)), ("url", .ofText (quoted url)),
    ("max_connections", .leaf (integerChars c.maxConnections))]

section

variable (c : DatabaseSettings) {scheme user : String}
  (hscheme : ¬ "://".toList <:+: scheme.toList) (hcolon : ':' ∉ user.toList)
  (hslash : '/' ∉ user.toList) (rest : String)

include hscheme hcolon hslash

/-- A password without a slash lies in front of the last `@` of the authority. -/
theorem redactedUrl_of_not_mem {password : String} (hpassword : '/' ∉ password.toList) :
    { c with url := address scheme user password rest }.redactedUrl
      = hiddenAddress scheme user rest := by
  have hfront : (password.toList ++ '@' :: rest.toList).takeWhile (· != '/')
      = password.toList ++ '@' :: rest.toList.takeWhile (· != '/') := by
    rw [Text.takeWhile_ne_append hpassword, List.takeWhile_cons_of_pos (by decide)]
  have hshown : shownBehind (password.toList ++ '@' :: rest.toList)
      = shownBehind rest.toList := by
    rw [shownBehind, hfront, Text.behindLast_append_cons, Text.dropWhile_ne_append hpassword,
      List.dropWhile_cons_of_pos (by decide), shownBehind]
  rw [redactedUrl, toList_address, redact_user hscheme hcolon hslash, hfront, if_pos (by simp),
    hshown]
  exact String.toList_injective (by simp [hiddenAddress, address])

/-- With a slash in the password the authority ends there. -/
theorem redactedUrl_of_slash {before : String} (hbefore : '/' ∉ before.toList) (after : String) :
    { c with url := address scheme user (before ++ "/" ++ after) rest }.redactedUrl
      = slashedAddress scheme user before after rest := by
  have htail : (before ++ "/" ++ after).toList ++ '@' :: rest.toList
      = before.toList ++ '/' :: (after.toList ++ '@' :: rest.toList) := by simp
  have hfront : (before.toList ++ '/' :: (after.toList ++ '@' :: rest.toList)).takeWhile (· != '/')
      = before.toList := by
    rw [Text.takeWhile_ne_append hbefore, List.takeWhile_cons_of_neg (by decide), List.append_nil]
  have hback : (before.toList ++ '/' :: (after.toList ++ '@' :: rest.toList)).dropWhile (· != '/')
      = '/' :: (after.toList ++ '@' :: rest.toList) := by
    rw [Text.dropWhile_ne_append hbefore, List.dropWhile_cons_of_neg (by decide)]
  rw [redactedUrl, toList_address, htail, redact_user hscheme hcolon hslash, shownBehind, hfront,
    hback]
  refine String.toList_injective ?_
  unfold slashedAddress
  split <;> simp

end

end DatabaseSettings

open DatabaseSettings

/-- The password of an address is shown as `***` exactly if it has no slash, and then it makes no
difference to the address or the settings that are shown. Otherwise it is shown from its first slash
on. -/
theorem password_hidden_iff (c : DatabaseSettings) {scheme user : String}
    (hscheme : ¬ "://".toList <:+: scheme.toList) (hcolon : ':' ∉ user.toList)
    (hslash : '/' ∉ user.toList) (rest : String) :
    let entered (password : String) : DatabaseSettings :=
      { c with url := address scheme user password rest }
    (∀ password, (entered password).redactedUrl = hiddenAddress scheme user rest ↔
      '/' ∉ password.toList) ∧
    (∀ password, '/' ∉ password.toList →
      (entered password).inspect = c.inspectWith (hiddenAddress scheme user rest)) ∧
    (∀ p q, '/' ∉ p.toList → '/' ∉ q.toList →
      (entered p).redactedUrl = (entered q).redactedUrl ∧
        (entered p).inspect = (entered q).inspect) ∧
    ∀ before after, '/' ∉ before.toList → (entered (before ++ "/" ++ after)).redactedUrl
      = slashedAddress scheme user before after rest := by
  intro entered
  have hhidden {password : String} (h : '/' ∉ password.toList) :
      (entered password).redactedUrl = hiddenAddress scheme user rest :=
    redactedUrl_of_not_mem c hscheme hcolon hslash rest h
  have hslashed {before : String} (h : '/' ∉ before.toList) (after : String) :
      (entered (before ++ "/" ++ after)).redactedUrl
        = slashedAddress scheme user before after rest :=
    redactedUrl_of_slash c hscheme hcolon hslash rest h after
  have hinspect {password : String} (h : '/' ∉ password.toList) :
      (entered password).inspect = c.inspectWith (hiddenAddress scheme user rest) := by
    rw [inspect, hhidden h, inspectWith]
  refine ⟨fun password ↦ ⟨fun h hmem ↦ ?_, hhidden⟩, fun _ ↦ hinspect, fun p q hp hq ↦ ?_,
    fun before after hbefore ↦ hslashed hbefore after⟩
  · obtain ⟨before, after, hpassword, hbefore⟩ := List.eq_append_cons_of_mem hmem
    have hparts : password = String.ofList before ++ "/" ++ String.ofList after :=
      String.toList_injective (by simp [hpassword])
    rw [hparts, hslashed (by simpa using hbefore)] at h
    exact slashedAddress_ne_hiddenAddress _ _ _ _ _ h
  · exact ⟨(hhidden hp).trans (hhidden hq).symm, (hinspect hp).trans (hinspect hq).symm⟩

/-- A password with the characters that end a user and a password. -/
theorem password_hidden_iff_delimited :
    let c : DatabaseSettings := ⟨"sqlite", "", 5⟩
    ¬ "://".toList <:+: "sqlite".toList ∧ ':' ∉ "a@pp".toList ∧ '/' ∉ "a@pp".toList ∧
      '/' ∉ "p@ss:w".toList ∧
      { c with url := "sqlite://a@pp:p@ss:w@x@db:1/people" }.redactedUrl
        = "sqlite://a@pp:***@db:1/people" := by
  have hscheme : ¬ "://".toList <:+: "sqlite".toList := by decide
  have hcolon : ':' ∉ "a@pp".toList := by decide
  have hslash : '/' ∉ "a@pp".toList := by decide
  have hpassword : '/' ∉ "p@ss:w".toList := by decide
  intro c
  obtain ⟨hhidden, -⟩ := password_hidden_iff c hscheme hcolon hslash "x@db:1/people"
  exact ⟨hscheme, hcolon, hslash, hpassword, ((hhidden "p@ss:w").mpr hpassword).trans (by decide)⟩

/-- Two passwords with a slash, both shown as they are. -/
theorem slashed_passwords_shown :
    ∃ (c : DatabaseSettings) (scheme user rest p q : String),
      ¬ "://".toList <:+: scheme.toList ∧ ':' ∉ user.toList ∧ '/' ∉ user.toList ∧
      { c with url := address scheme user p rest }.redactedUrl
        ≠ { c with url := address scheme user q rest }.redactedUrl := by
  refine ⟨⟨"sqlite", "", 5⟩, "sqlite", "app", "db", "pa/ss", "pa/st", ?_⟩
  decide

end RecordStore
