import FormatConformance.Yaml.Scalar
import FormatConformance.Yaml.Tag

/-! The tokens of a text: at each place the next characters tell which token starts there. -/

namespace FormatConformance.Yaml

namespace Scanner

def readName (s : Scanner) : Option (Text × Scanner) :=
  let name := s.rest.takeWhile isNameSign
  let behind := s.rest.drop name.length
  if name.isEmpty then none
  else if endsWord behind ||
    behind.head?.any fun c => ['?', ':', ',', ']', '\x7d', '%', '@', '\x60'].contains c then
    some (name, s.advanceBy name.length)
  else none

def deepestFlow : Nat := 255

def openFlow (s : Scanner) (t : Token) : Option Scanner := do
  let s ← s.saveKey
  guard (s.keys.length ≤ deepestFlow)
  return ({ s with keys := none :: s.keys, keyAllowed := true }.advance).push t

def closeFlow (s : Scanner) (t : Token) : Option Scanner := do
  let s ← s.dropKey
  let s := if s.inFlow then { s with keys := s.keys.drop 1 } else s
  return ((s.allowKey false).advance).push t

def marker (s : Scanner) : Option Scanner := do
  let s ← (s.unroll 0).dropKey
  let t := if s.rest.head? == some '-' then Token.documentStart else .documentEnd
  return ((s.allowKey false).advanceBy 3).push t

def entry (s : Scanner) : Option Scanner := do
  guard (!s.inFlow && s.keyAllowed)
  let s ← (s.roll s.column s.tokens.length .blockSequence).dropKey
  return ((s.allowKey true).advance).push .blockEntry

def complexKey (s : Scanner) : Option Scanner := do
  guard (s.inFlow || s.keyAllowed)
  let s ← (s.roll s.column s.tokens.length .blockMapping).dropKey
  return ((s.allowKey (!s.inFlow)).advance).push .key

def colon (s : Scanner) : Option Scanner := do
  match s.keys with
  | some key :: keys =>
    let s := { s with
      tokens := s.tokens.insertIdx key.position .key
      keys := none :: keys
      keyAllowed := false }
    return ((s.roll key.column key.position .blockMapping).advance).push .value
  | _ =>
    guard (s.inFlow || s.keyAllowed)
    let s := s.roll s.column s.tokens.length .blockMapping
    return ((s.allowKey (!s.inFlow)).advance).push .value

def plain (s : Scanner) : Option Scanner := do
  let s := (← s.saveKey).allowKey false
  let (content, s) ← s.readPlain s.margin (s.rest.length + 1) [] (.blanks [])
  return s.push (.scalar content true)

def quoted (s : Scanner) (quote : Char) : Option Scanner := do
  let s := (← s.saveKey).allowKey false
  let (content, s) ← s.advance.readQuoted quote (s.rest.length + 1) [] (.blanks [])
  return { s.push (.scalar content false) with adjacent := some s.index }

def block (s : Scanner) (literal : Bool) : Option Scanner := do
  let s := (← s.saveKey).allowKey true
  let (content, s) ← s.readBlock literal
  return s.push (.scalar content false)

def named (s : Scanner) (make : Text → Token) : Option Scanner := do
  let s := (← s.saveKey).allowKey false
  let (name, s) ← s.advance.readName
  return s.push (make name)

def tagged (s : Scanner) : Option Scanner := do
  let s := (← s.saveKey).allowKey false
  let (tag, behind) ← tag? s.rest
  guard (endsWord behind)
  return (s.advanceBy (s.rest.length - behind.length)).push (.tag tag)

def token (s : Scanner) (c : Char) (behind : Text) : Option Scanner :=
  if s.column == 0 && c == '%' then none
  else if s.atMarker then s.marker
  else if c == '[' then s.openFlow .flowSequence
  else if c == '\x7b' then s.openFlow .flowMapping
  else if c == ']' then s.closeFlow .flowSequenceEnd
  else if c == '\x7d' then s.closeFlow .flowMappingEnd
  else if c == ',' then do return (((← s.dropKey).allowKey true).advance).push .flowEntry
  else if c == '-' && endsWord behind then s.entry
  else if c == '?' && endsWord behind then s.complexKey
  else if c == ':' && (endsWord behind || (s.inFlow &&
    (behind.head?.any isFlowSign || s.adjacent == some s.index))) then s.colon
  else if c == '*' then s.named .alias
  else if c == '&' then s.named .anchor
  else if c == '!' then s.tagged
  else if (c == '|' || c == '>') && !s.inFlow then s.block (c == '|')
  else if c == '\'' || c == '"' then s.quoted c
  else if c == '%' || c == '@' || c == '\x60' then none
  else s.plain

def run : Nat → Scanner → Option (List Token)
  | 0, _ => none
  | fuel + 1, s => do
    let s ← (s.skipBlanks (s.rest.length + 1)).dropStaleKeys
    match s.rest with
    | [] => return (← (s.unroll 0).dropKey).tokens
    | c :: behind => run fuel (← (s.unroll (s.column + 1)).token c behind)

end Scanner

/-- The tokens of a text, if it is well formed so far. A null character ends the text. -/
def tokens? (t : Text) : Option (List Token) :=
  Scanner.run (2 * t.length + 2) { rest := t.takeWhile fun c => c.toNat ≠ 0 }

end FormatConformance.Yaml
