import RecordStore.Config.Shape
import RecordStore.Json.Decode

namespace RecordStore

/-!
# Configurations as JSON

`toJson` writes a configuration with its types spelled out by accessors; `Config.ofJson` reads one,
with types in the form in which they are declared.
-/

def Accessor.toJson (a : Accessor) : Json :=
  .ofMembers [("name", .text a.name), ("returns", .text a.returns.name),
    ("static", .bool a.isStatic)]

def RecordType.toJson (t : RecordType) : Json :=
  .ofMembers [("name", .text t.name), ("schema", .ofOption .text t.schema),
    ("key_column", .text t.keyColumn), ("key_type", .text t.keyType.name),
    ("accessors", .array (t.accessors.map Accessor.toJson))]

def DatabaseSettings.toJson (c : DatabaseSettings) : Json :=
  .ofMembers [("type", .text c.type), ("url", .text c.url),
    ("max_connections", .int c.maxConnections)]

def StorageSettings.toJson (c : StorageSettings) : Json :=
  .ofMembers [("max_in_list", .int c.maxInList)]

def Config.toJson (c : Config) : Json :=
  .ofMembers [("database", c.database.toJson), ("storage", c.storage.toJson),
    ("types", .array (c.types.map RecordType.toJson))]

namespace Config

def ofJson (v : Json) : Except Error Config :=
  match Config.read Json.format v with
  | .ok c => c.checked
  | .error fault => .error (.json fault)

end Config

end RecordStore
