import RecordStore.Error

namespace RecordStore

/-!
# Identifiers

Names of schemas, tables and columns. An identifier is not empty, holds no NUL, and has at most
`maxIdentifierLength` bytes.
-/

namespace Identifier

def nul : Char := Char.ofNat 0

def check (name : String) : Except ArgumentFault Unit :=
  if name.isEmpty then .error .emptyIdentifier
  else if name.toList.contains nul then .error (.nulInIdentifier name)
  else if maxIdentifierLength < name.utf8ByteSize then .error (.longIdentifier name)
  else .ok ()

structure Valid (name : String) : Prop where
  nonempty : name ≠ ""
  no_nul : nul ∉ name.toList
  short : name.utf8ByteSize ≤ maxIdentifierLength

theorem check_eq_ok_iff {name : String} : check name = .ok () ↔ Valid name := by
  unfold check
  split
  · next h =>
    simp only [String.isEmpty_iff] at h
    exact ⟨fun h ↦ (nomatch h), fun v ↦ absurd h v.nonempty⟩
  · next h =>
    simp only [String.isEmpty_iff] at h
    split
    · next hn =>
      refine ⟨fun h ↦ (nomatch h), fun v ↦ absurd ?_ v.no_nul⟩
      simpa using hn
    · next hn =>
      split
      · next hl => exact ⟨fun h ↦ (nomatch h), fun v ↦ absurd v.short (Nat.not_le.2 hl)⟩
      · next hl => exact ⟨fun _ ↦ ⟨h, by simpa using hn, Nat.not_lt.1 hl⟩, fun _ ↦ rfl⟩

end Identifier

end RecordStore
