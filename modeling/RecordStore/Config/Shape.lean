import RecordStore.Config.Basic
import RecordStore.Error
import RecordStore.Number.Power
import RecordStore.Schema

namespace RecordStore

/-!
# The shape of a configuration

How a configuration is put together from the building blocks of a format, with the values of the
members that may be absent.
-/

section

variable {V ε : Type} (f : Format V ε)

def FieldType.read : V → Except ε FieldType :=
  f.variant (FieldType.all.map fun t ↦ (t.name, t))

def KeyType.readName : V → Except ε KeyType :=
  f.variant (KeyType.all.map fun t ↦ (t.name, t))

def Accessor.read : V → Except ε Accessor :=
  f.record "Accessor"
    [Format.member "name" false f.text fun s a ↦ { a with name := s },
      Format.member "returns" false (FieldType.read f) fun t a ↦ { a with returns := t },
      Format.member "static" true f.bool fun b a ↦ { a with isStatic := b }]
    ⟨"", .bool, false⟩

/-- The column and the type of a key. -/
def DeclaredType.readKey : V → Except ε (String × KeyType) :=
  f.record "KeyDeclaration"
    [Format.member "column" true f.text fun s k ↦ (s, k.2),
      Format.member "type" true (KeyType.readName f) fun t k ↦ (k.1, t)]
    (RecordType.defaultKeyColumn, .int)

def DeclaredType.read : V → Except ε DeclaredType :=
  f.record "TypeDeclaration"
    [Format.member "name" false f.text fun s t ↦ { t with name := s },
      Format.member "schema" true (f.option f.text) fun s t ↦ { t with schema := s },
      Format.member "key" true (DeclaredType.readKey f) fun k t ↦
        { t with keyColumn := k.1, keyType := k.2 },
      Format.member "accessors" true (f.list (Accessor.read f)) fun a t ↦ { t with accessors := a },
      Format.member "fields" true (f.members (FieldType.read f)) fun m t ↦ { t with fields := m }]
    .empty

def RecordType.read (v : V) : Except ε RecordType :=
  (DeclaredType.read f v).map DeclaredType.toRecordType

def DatabaseSettings.read : V → Except ε DatabaseSettings :=
  f.record "DatabaseConfig"
    [Format.member "type" true f.text fun s c ↦ { c with type := s },
      Format.member "url" false f.text fun s c ↦ { c with url := s },
      Format.member "max_connections" true (f.bounded (twoTo 32) "u32") fun n c ↦
        { c with maxConnections := n }]
    ⟨DatabaseSettings.defaultType, "", DatabaseSettings.defaultConnections⟩

def StorageSettings.read : V → Except ε StorageSettings :=
  f.record "StorageConfig"
    [Format.member "max_in_list" true (f.bounded (twoTo 64) "usize") fun n c ↦ { c with maxInList := n }]
    .default

def Config.read : V → Except ε Config :=
  f.record "Config"
    [Format.member "database" false (DatabaseSettings.read f) fun d c ↦ { c with database := d },
      Format.member "storage" true (StorageSettings.read f) fun s c ↦ { c with storage := s },
      Format.member "types" true (f.list (RecordType.read f)) fun ts c ↦ { c with types := ts }]
    ⟨⟨DatabaseSettings.defaultType, "", DatabaseSettings.defaultConnections⟩, .default, []⟩

end

def Config.checked (c : Config) : Except Error Config :=
  match c.validate with
  | .ok () => .ok c
  | .error fault => .error (.config fault)

end RecordStore
