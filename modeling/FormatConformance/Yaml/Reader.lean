import FormatConformance.Yaml.Tokens

/-! Reading YAML: tokens are put together to nodes. An alias stands for no node at all, so that what
follows takes its place. -/

namespace FormatConformance.Yaml

structure ReaderState where
  tokens : List Token
  anchors : List Text := []

abbrev Reader := StateT ReaderState Option

namespace Reader

def peek : Reader (Option Token) := return (← get).tokens.head?

def skip : Reader Unit := modify fun s => { s with tokens := s.tokens.drop 1 }

def refuse {α : Type} : Reader α := fun _ => none

def take (t : Token) : Reader Bool := do
  if (← peek) == some t then
    skip
    return true
  return false

def takeAnchor : Reader Bool := do
  match ← peek with
  | some (.anchor name) =>
    skip
    modify fun s => { s with anchors := name :: s.anchors }
    return true
  | _ => return false

def takeTag : Reader (Option Tag) := do
  match ← peek with
  | some (.tag tag) =>
    skip
    return some tag
  | _ => return none

def properties : Reader (Option Tag × Bool) := do
  if ← takeAnchor then return (← takeTag, true)
  match ← takeTag with
  | some tag =>
    let _ ← takeAnchor
    return (some tag, true)
  | none => return (none, false)

def isVacant : Option Token → Bool
  | none => false
  | some t => t == .key || t == .value || t == .blockEnd

mutual

/-- Reads a node, which is none for an alias. Block collections are read only where blocks may
stand, and entries without a collection around them only where a mapping admits them. -/
def node : Nat → Bool → Bool → Reader (List Yaml)
  | 0, _, _ => refuse
  | fuel + 1, block, indentless => do
    match ← peek with
    | some (.alias name) =>
      skip
      if (← get).anchors.contains name then return [] else refuse
    | _ =>
      let (tag, propertied) ← properties
      return [← content fuel block indentless tag propertied]

def content : Nat → Bool → Bool → Option Tag → Bool → Reader Yaml
  | 0, _, _, _, _ => refuse
  | fuel + 1, block, indentless, tag, propertied => do
    let absent : Reader Yaml := if propertied then return ofTagged tag [] else refuse
    match ← peek with
    | some (.scalar t plain) =>
      skip
      if plain then return ofTagged tag t else return .text t
    | some .blockEntry =>
      if indentless then return .ofItems (← entries fuel false) else absent
    | some .flowSequence =>
      skip
      return .ofItems (← flowItems fuel true)
    | some .flowMapping =>
      skip
      return .ofNodes (← flowPairs fuel true)
    | some .blockSequence =>
      if block then
        skip
        return .ofItems (← entries fuel true)
      else absent
    | some .blockMapping =>
      if block then
        skip
        return .ofNodes (← pairs fuel)
      else absent
    | _ => absent

def entries : Nat → Bool → Reader (List Yaml)
  | 0, _ => refuse
  | fuel + 1, indented => do
    if ← take .blockEntry then
      let next ← peek
      let vacant := next == some .blockEntry || next == some .blockEnd ||
        (!indented && (next == some .key || next == some .value))
      let item ← if vacant then pure [Yaml.null] else node fuel true false
      return item ++ (← entries fuel indented)
    if !indented then return []
    if ← take .blockEnd then return []
    refuse

def pairs : Nat → Reader (List Yaml)
  | 0 => refuse
  | fuel + 1 => do
    match ← peek with
    | some .blockEnd =>
      skip
      return []
    | some .key | some .value =>
      let key ←
        if ← take .key then
          if isVacant (← peek) then pure [Yaml.null] else node fuel true true
        else pure [Yaml.null]
      let value ←
        if ← take .value then
          if isVacant (← peek) then pure [Yaml.null] else node fuel true true
        else pure [Yaml.null]
      return key ++ value ++ (← pairs fuel)
    | _ => refuse

def flowValue : Nat → Token → Reader (List Yaml)
  | 0, _ => refuse
  | fuel + 1, closing => do
    if ← take .value then
      let next ← peek
      if next == some .flowEntry || next == some closing then return [.null]
      node fuel false false
    else return [.null]

/-- The items of a flow sequence; pairs are mappings of their own. A sign that stands where the key
of a pair is expected is passed over. -/
def flowItems : Nat → Bool → Reader (List Yaml)
  | 0, _ => refuse
  | fuel + 1, first => do
    if ← take .flowSequenceEnd then return []
    if !first then
      if !(← take .flowEntry) then refuse
      if ← take .flowSequenceEnd then return []
    let item ←
      if ← take .key then
        let next ← peek
        let key ←
          if next == some .value || next == some .flowEntry || next == some .flowSequenceEnd then do
            skip
            pure [Yaml.null]
          else node fuel false false
        pure [Yaml.ofNodes (key ++ (← flowValue fuel .flowSequenceEnd))]
      else node fuel false false
    return item ++ (← flowItems fuel false)

def flowPairs : Nat → Bool → Reader (List Yaml)
  | 0, _ => refuse
  | fuel + 1, first => do
    if ← take .flowMappingEnd then return []
    if !first then
      if !(← take .flowEntry) then refuse
      if ← take .flowMappingEnd then return []
    let next ← peek
    let pair ←
      if next == some .key then do
        skip
        let next ← peek
        let key ← if next == some .value || next == some .flowEntry ||
            next == some .flowMappingEnd then pure [Yaml.null] else node fuel false false
        pure (key ++ (← flowValue fuel .flowMappingEnd))
      else if next == some .value then do
        pure ([Yaml.null] ++ (← flowValue fuel .flowMappingEnd))
      else pure ((← node fuel false false) ++ [Yaml.null])
    return pair ++ (← flowPairs fuel false)

end

def skipEnds : Reader Unit :=
  modify fun s => { s with tokens := s.tokens.dropWhile (· == .documentEnd) }

def documents (fuel : Nat) : Nat → Bool → Reader (List Yaml)
  | 0, _ => refuse
  | count + 1, implicit => do
    if !implicit then skipEnds
    if (← peek).isNone then return []
    let marked ← take .documentStart
    if !marked && !implicit then refuse
    modify fun s => { s with anchors := [] }
    let next ← peek
    let vacant := marked &&
      (next.isNone || next == some .documentStart || next == some .documentEnd)
    let value ← if vacant then pure [Yaml.null] else node fuel true false
    let _ ← take .documentEnd
    return value.headD .misfit :: (← documents fuel count false)

end Reader

def read? (t : Text) : Option Yaml := do
  let tokens ← tokens? t
  let fuel := 4 * tokens.length + 8
  let (documents, _) ← (Reader.documents fuel fuel true).run { tokens }
  match documents with
  | [value] => return value
  | _ => none

end FormatConformance.Yaml
