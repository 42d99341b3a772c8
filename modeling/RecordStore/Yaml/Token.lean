namespace RecordStore.Yaml

/-!
# Tokens

What a text is made of once its indentation has been worked out: blocks have a token where they
begin and one where they end.
-/

inductive ScalarStyle
  | plain
  | singleQuoted
  | doubleQuoted
  | literal
  | folded
deriving DecidableEq

inductive Token
  | versionDirective (major minor : Nat)
  | tagDirective (handle head : String)
  | documentStart
  | documentEnd
  | blockSequenceStart
  | blockMappingStart
  | blockEnd
  | flowSequenceStart
  | flowSequenceEnd
  | flowMappingStart
  | flowMappingEnd
  | blockEntry
  | flowEntry
  | key
  | value
  | alias (name : String)
  | anchor (name : String)
  | tag (handle tail : String)
  | scalar (style : ScalarStyle) (text : String)
deriving DecidableEq

end RecordStore.Yaml
