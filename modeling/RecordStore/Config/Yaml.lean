import RecordStore.Config.Shape
import RecordStore.Yaml.Decode

namespace RecordStore.Config

/-!
# Configurations as YAML
-/

def ofYaml (text : String) : Except Error Config :=
  match Yaml.Document.read? text with
  | none => .error .yaml
  | some d =>
    match Config.read d.format d.root with
    | .ok c => c.checked
    | .error () => .error .yaml

end RecordStore.Config
