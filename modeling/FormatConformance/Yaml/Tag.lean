import FormatConformance.Yaml.Scanner

/-! Names of tags: a suffix behind one or two signs or behind a name between signs, or an address
between angle brackets. Octets may be written as pairs of digits. -/

namespace FormatConformance.Yaml

def isAddressSign (c : Char) : Bool := isNameSign c || ";/?:@&=+$,.!~*'()[]%".toList.contains c

def octet? : Text → Option (Nat × Text)
  | '%' :: a :: b :: rest =>
    if isHexDigit a && isHexDigit b then some (digitsValue 16 [a, b], rest) else none
  | _ => none

/-- The character that escaped octets stand for. Two of them are read as one number of four digits;
more than two would exceed all characters. -/
def escaped? (t : Text) : Option (Char × Text) := do
  let (first, rest) ← octet? t
  if first < 0x80 then return (Char.ofNat first, rest)
  guard (0xC0 ≤ first && first < 0xE0)
  let (second, rest) ← octet? rest
  let value := 0x100 * first + second
  guard (0x80 ≤ second && second < 0xC0 && (Nat.isValidChar value : Bool))
  return (Char.ofNat value, rest)

def address? : Nat → Text → Option (Text × Text)
  | 0, _ => none
  | _, [] => some ([], [])
  | fuel + 1, c :: rest => do
    if c == '%' then
      let (c, rest) ← escaped? (c :: rest)
      let (name, rest) ← address? fuel rest
      return (c :: name, rest)
    if isAddressSign c then
      let (name, rest) ← address? fuel rest
      return (c :: name, rest)
    return ([], c :: rest)

def tag? (t : Text) : Option (Tag × Text) := do
  let fuel := t.length + 1
  match t with
  | '!' :: '<' :: rest =>
    let (suffix, rest) ← address? fuel rest
    guard (!suffix.isEmpty && rest.head? == some '>')
    return (⟨false, suffix⟩, rest.drop 1)
  | '!' :: rest =>
    let name := rest.takeWhile isNameSign
    match rest.drop name.length with
    | '!' :: rest =>
      let (suffix, rest) ← address? fuel rest
      guard (!suffix.isEmpty)
      return (⟨name.isEmpty, suffix⟩, rest)
    | rest =>
      let (suffix, rest) ← address? fuel rest
      let suffix := name ++ suffix
      return (⟨false, if suffix.isEmpty then ['!'] else suffix⟩, rest)
  | _ => none

end FormatConformance.Yaml
