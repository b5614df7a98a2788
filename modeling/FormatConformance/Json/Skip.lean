import FormatConformance.Json.Reader

/-! Taking a value without reading it. Nesting is not limited and numbers are not computed; what is
skipped need only look like a value. -/

namespace FormatConformance.Json.Reader

def skipString : Nat → Reader Unit
  | 0 => blame .unfinishedString
  | fuel + 1 => do
    match ← peek with
    | none => blame .unfinishedString
    | some byte =>
      if byte < 32 then blame .controlCharacter
      advance
      if byte == code '"' then pure ()
      else if byte == code '\\' then do
        match ← next with
        | none => blame .unfinishedString
        | some letter =>
          if letter == code 'u' then
            let _ ← hexUnit
          else if (simpleEscape letter).isNone then blame .invalidEscape
        skipString fuel
      else skipString fuel

def skipExponent : Reader Unit := do
  advance
  let sign ← peek
  if sign == some (code '+') || sign == some (code '-') then advance
  match ← next with
  | some byte => if isDigit byte then pure () else blame .invalidNumber
  | none => blame .invalidNumber
  let _ ← takeWhile isDigit

def skipNumber : Reader Unit := do
  match ← next with
  | none => blame .invalidNumber
  | some first =>
    if !isDigit first then blame .invalidNumber
    if first == code '0' then
      if (← peek).any isDigit then blameNext .invalidNumber
    else
      let _ ← takeWhile isDigit
  let ahead ← peek
  if ahead == some (code '.') then
    advance
    let digits ← takeWhile isDigit
    if digits.isEmpty then blameNext .invalidNumber
    if isExponentMark (← peek) then skipExponent
  else if isExponentMark ahead then skipExponent

def skipKey : Reader Unit := do
  match ← skipSpace with
  | none => blameNext .unfinishedObject
  | some byte => if byte == code '"' then advance else blameNext .keyNotString
  skipString (← budget)
  colon

/-- Takes closing brackets until one is followed by a further item, and tells in which containers
that item lies; `comma` tells whether a comma may come next. -/
def skipClosing : Nat → Bool → List Bool → Reader (List Bool)
  | 0, _, _ => blame .unfinishedValue
  | _, _, [] => return []
  | fuel + 1, comma, inObject :: outer => do
    match ← skipSpace with
    | none => blameNext (if inObject then .unfinishedObject else .unfinishedList)
    | some byte =>
      if comma && byte == code ',' then do
        advance
        return inObject :: outer
      else if byte == code (if inObject then '\x7d' else ']') then do
        advance
        skipClosing fuel true outer
      else if comma then blameNext (if inObject then .expectedObjectEnd else .expectedListEnd)
      else return inObject :: outer

def skipValues : Nat → List Bool → Reader Unit
  | 0, _ => blame .unfinishedValue
  | fuel + 1, containers => do
    match ← skipSpace with
    | none => blameNext .unfinishedValue
    | some byte =>
      let opened := byte == code '[' || byte == code '\x7b'
      if byte == code 'n' then advance; keyword "ull"
      else if byte == code 't' then advance; keyword "rue"
      else if byte == code 'f' then advance; keyword "alse"
      else if byte == code '-' then advance; skipNumber
      else if isDigit byte then skipNumber
      else if byte == code '"' then advance; skipString (← budget)
      else if opened then advance
      else blameNext .expectedValue
      let inside := if opened then (byte == code '\x7b') :: containers else containers
      match ← skipClosing (← budget) (!opened) inside with
      | [] => pure ()
      | inObject :: outer =>
        if inObject then skipKey
        skipValues fuel (inObject :: outer)

def skipValue : Reader Unit := do skipValues (← budget) []

end FormatConformance.Json.Reader
