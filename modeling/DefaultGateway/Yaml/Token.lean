/-!
The tokens of a YAML stream.
-/

namespace DefaultGateway.Yaml

inductive Style
  | plain
  | singleQuoted
  | doubleQuoted
  | literal
  | folded
  deriving DecidableEq, Repr

/-- The text of a tag, whose characters may be written byte by byte: not every tag is a text. -/
abbrev TagText := List UInt8

/-- What the tags of the standard types begin with. -/
def standardStem : TagText := "tag:yaml.org,2002:".toUTF8.toList

inductive Token
  | version (major minor : Nat)
  | tagHandle (handle : List Char) (stem : TagText)
  | documentStart
  | documentEnd
  | blockSequenceStart
  | blockMappingStart
  | blockEnd
  | flowSequenceStart
  | flowSequenceEnd
  | flowMappingStart
  | flowMappingEnd
  | blockEntry
  | flowEntry
  | key
  | value
  | alias (name : List Char)
  | anchor (name : List Char)
  | tag (handle : List Char) (suffix : TagText)
  | scalar (text : List Char) (style : Style)
  deriving DecidableEq, Repr

end DefaultGateway.Yaml
