import FormatConformance.Yaml.Basic

/-! Tokens of YAML, and the sorts of characters that tell them apart. -/

namespace FormatConformance.Yaml

inductive Token where
  | documentStart
  | documentEnd
  | blockSequence
  | blockMapping
  | blockEnd
  | blockEntry
  | flowSequence
  | flowSequenceEnd
  | flowMapping
  | flowMappingEnd
  | flowEntry
  | key
  | value
  | alias (name : Text)
  | anchor (name : Text)
  | tag (tag : Tag)
  | scalar (content : Text) (plain : Bool)
  deriving DecidableEq, Repr

def isSpace (c : Char) : Bool := c == ' ' || c == '\t'

def isBreak (c : Char) : Bool := c == '\n' || c == '\r'

def endsWord (t : Text) : Bool :=
  match t with
  | [] => true
  | c :: _ => isSpace c || isBreak c

def isFlowSign (c : Char) : Bool := [',', '[', ']', '\x7b', '\x7d'].contains c

def isNameSign (c : Char) : Bool := c.isAlphanum || c == '_' || c == '-'

end FormatConformance.Yaml
