import FormatConformance.Json.Basic
import FormatConformance.Json.Fault
import FormatConformance.Text.Utf8

/-!
Reading JSON text byte by byte. A reader takes bytes from the front of its input and counts them,
so that a fault knows where it was noticed: at the bytes taken so far, or one further where the
byte ahead is the one to blame.
-/

namespace FormatConformance.Json

structure Input where
  rest : List UInt8
  taken : Nat

abbrev Reader := StateT Input (Except Fault)

namespace Reader

def code (c : Char) : UInt8 := c.toUInt8

def peek : Reader (Option UInt8) := return (← get).rest.head?

def advance : Reader Unit :=
  modify fun input => match input.rest with
    | [] => input
    | _ :: rest => ⟨rest, input.taken + 1⟩

def next : Reader (Option UInt8) := do
  let byte ← peek
  advance
  return byte

def blame {α : Type} (complaint : Complaint) : Reader α :=
  fun input => .error ⟨complaint, input.taken⟩

def blameNext {α : Type} (complaint : Complaint) : Reader α :=
  fun input => .error ⟨complaint, if input.rest.isEmpty then input.taken else input.taken + 1⟩

def blameAt {α : Type} (number : Nat) (complaint : Complaint) : Reader α :=
  fun _ => .error ⟨complaint, number⟩

def takeWhile (test : UInt8 → Bool) : Reader (List UInt8) := do
  let input ← get
  let run := input.rest.takeWhile test
  set (Input.mk (input.rest.drop run.length) (input.taken + run.length))
  return run

def isSpace (byte : UInt8) : Bool := byte == 32 || byte == 10 || byte == 9 || byte == 13

def skipSpace : Reader (Option UInt8) := do
  let _ ← takeWhile isSpace
  peek

def budget : Reader Nat := return (← get).rest.length + 2

def keyword (text : String) : Reader Unit :=
  text.toList.forM fun c => do
    match ← next with
    | none => blame .unfinishedValue
    | some byte => if byte == code c then pure () else blame .expectedKeyword

def isDigit (byte : UInt8) : Bool := 48 ≤ byte && byte ≤ 57

def digitValue (byte : UInt8) : Nat := byte.toNat - 48

/-- Appends digits to a significand until one would take it past 64 bits; the second component
counts the digits appended. -/
def absorb (significand : Nat) : List UInt8 → Nat × Nat
  | [] => (significand, 0)
  | byte :: rest =>
    let larger := significand * 10 + digitValue byte
    if larger < Nat.pow 2 64 then
      let (result, count) := absorb larger rest
      (result, count + 1)
    else (significand, 0)

def powerOfTen (n : Nat) : Float := Float.ofScientific 1 false n

def scale : Nat → Float → Int → Option Float
  | 0, x, _ => some x
  | steps + 1, x, exponent =>
    if exponent.natAbs ≤ 308 then
      if exponent < 0 then some (x / powerOfTen exponent.natAbs)
      else
        let y := x * powerOfTen exponent.natAbs
        if y.isInf then none else some y
    else if x == 0 then some x
    else if 0 ≤ exponent then none
    else scale steps (x / powerOfTen 308) (exponent + 308)

/-- The double of a decimal. Two divisions by `10 ^ 308` already leave nothing of any
significand. -/
def double (negative : Bool) (significand : Nat) (exponent : Int) : Reader Json :=
  let scaled := scale 4 (UInt64.ofNat significand).toFloat exponent
  match scaled.bind fun x => Double.ofFloat? (if negative then -x else x) with
  | none => blame .numberOutOfRange
  | some x => return .float x

def exponentPart (negative : Bool) (significand : Nat) (exponent : Int) : Reader Json := do
  advance
  let sign ← peek
  if sign == some (code '+') || sign == some (code '-') then advance
  let raised := sign != some (code '-')
  match ← next with
  | none => blame .unfinishedValue
  | some first =>
    if !isDigit first then blame .invalidNumber
    let start ← get
    let digits ← takeWhile isDigit
    match overflowAt (digitValue first) 0 digits with
    | some count =>
      if significand != 0 && raised then
        set (Input.mk (start.rest.drop count) (start.taken + count))
        blame .numberOutOfRange
      return .float (.zero negative)
    | none =>
      let written : Int := digits.foldl (fun n byte => n * 10 + digitValue byte) (digitValue first)
      double negative significand (if raised then exponent + written else exponent - written)
where
  overflowAt (value taken : Nat) : List UInt8 → Option Nat
    | [] => none
    | byte :: rest =>
      let larger := value * 10 + digitValue byte
      if larger < Nat.pow 2 31 then overflowAt larger (taken + 1) rest else some (taken + 1)

def isExponentMark (byte : Option UInt8) : Bool :=
  byte == some (code 'e') || byte == some (code 'E')

def fractionPart (negative : Bool) (significand : Nat) (exponent : Int) : Reader Json := do
  advance
  let digits ← takeWhile isDigit
  if digits.isEmpty then
    match ← peek with
    | none => blameNext .unfinishedValue
    | some _ => blameNext .invalidNumber
  let (longer, count) := absorb significand digits
  if isExponentMark (← peek) then exponentPart negative longer (exponent - count)
  else double negative longer (exponent - count)

def number (negative : Bool) : Reader Json := do
  match ← next with
  | none => blame .unfinishedValue
  | some first =>
    if !isDigit first then blame .invalidNumber
    let digits ← if first == code '0' then do
        match ← peek with
        | some byte => if isDigit byte then blameNext .invalidNumber else pure []
        | none => pure []
      else takeWhile isDigit
    let (significand, count) := absorb (digitValue first) digits
    let dropped := digits.length - count
    let ahead ← peek
    if ahead == some (code '.') then fractionPart negative significand dropped
    else if isExponentMark ahead then exponentPart negative significand dropped
    else if dropped != 0 then double negative significand dropped
    else if !negative then return .int significand
    else if significand == 0 || Nat.pow 2 63 < significand then double true significand 0
    else return .int (-(significand : Int))

def hexValue (byte : UInt8) : Option Nat :=
  if 48 ≤ byte && byte ≤ 57 then some (byte.toNat - 48)
  else if 65 ≤ byte && byte ≤ 70 then some (byte.toNat - 55)
  else if 97 ≤ byte && byte ≤ 102 then some (byte.toNat - 87)
  else none

def hexUnit : Reader Nat := do
  let input ← get
  let digits := input.rest.take 4
  if digits.length < 4 then
    set (Input.mk [] (input.taken + input.rest.length))
    blame .unfinishedString
  set (Input.mk (input.rest.drop 4) (input.taken + 4))
  match digits.mapM hexValue with
  | some values => return values.foldl (fun n v => n * 16 + v) 0
  | none => blame .invalidEscape

def surrogateByte (c : Char) : Reader Unit := do
  match ← peek with
  | none => blame .unfinishedString
  | some byte =>
    advance
    if byte == code c then pure () else blame .unfinishedSurrogate

def unicodeEscape : Reader Char := do
  let unit ← hexUnit
  if 0xDC00 ≤ unit && unit ≤ 0xDFFF then blame .loneSurrogate
  if unit < 0xD800 || 0xDBFF < unit then return Char.ofNat unit
  surrogateByte '\\'
  surrogateByte 'u'
  let second ← hexUnit
  if second < 0xDC00 || 0xDFFF < second then blame .loneSurrogate
  return Char.ofNat (0x10000 + (unit - 0xD800) * 0x400 + (second - 0xDC00))

def simpleEscape (byte : UInt8) : Option Char :=
  if byte == code '"' then some '"'
  else if byte == code '\\' then some '\\'
  else if byte == code '/' then some '/'
  else if byte == code 'b' then some '\x08'
  else if byte == code 'f' then some '\x0c'
  else if byte == code 'n' then some '\n'
  else if byte == code 'r' then some '\r'
  else if byte == code 't' then some '\t'
  else none

def escaped : Reader Char := do
  match ← next with
  | none => blame .unfinishedString
  | some byte =>
    if byte == code 'u' then unicodeEscape
    else match simpleEscape byte with
      | some c => return c
      | none => blame .invalidEscape

def stringBytes : Nat → List UInt8 → Reader (List UInt8)
  | 0, _ => blame .unfinishedString
  | fuel + 1, done => do
    match ← next with
    | none => blame .unfinishedString
    | some byte =>
      if byte == code '"' then return done.reverse
      else if byte == code '\\' then do
        let c ← escaped
        stringBytes fuel ((String.singleton c).toUTF8.toList.reverse ++ done)
      else if byte < 32 then blame .controlCharacter
      else stringBytes fuel (byte :: done)

/-- A string after its opening quote. Bytes that are no text are blamed when all is read, at the
place where the first of them would stand if each escape were as long as what it stands for. -/
def string : Reader String := do
  let bytes ← stringBytes (← budget) []
  match String.fromUTF8? (ByteArray.mk bytes.toArray) with
  | some text => return text
  | none =>
    let sound := Text.validLength 0 (bytes.map UInt8.toNat)
    blameAt ((← get).taken - (bytes.length - sound)) .invalidCodePoint

def nextItem (first : Bool) : Reader Bool := do
  match ← skipSpace with
  | none => blameNext .unfinishedList
  | some byte =>
    if byte == code ']' then return false
    if first then return true
    if byte != code ',' then blameNext .expectedListEnd
    advance
    match ← skipSpace with
    | none => blameNext .unfinishedValue
    | some byte => if byte == code ']' then blameNext .trailingComma else return true

def nextKey (first : Bool) : Reader Bool := do
  match ← skipSpace with
  | none => blameNext .unfinishedObject
  | some byte =>
    if byte == code '\x7d' then return false
    if !first then
      if byte != code ',' then blameNext .expectedObjectEnd
      advance
    match ← skipSpace with
    | none => blameNext .unfinishedValue
    | some byte =>
      if byte == code '"' then return true
      else if byte == code '\x7d' then blameNext .trailingComma
      else blameNext .keyNotString

def colon : Reader Unit := do
  match ← skipSpace with
  | none => blameNext .unfinishedObject
  | some byte => if byte == code ':' then advance else blameNext .expectedColon

def closeList : Reader Unit := do
  match ← skipSpace with
  | none => blameNext .unfinishedList
  | some byte =>
    if byte == code ']' then advance
    else if byte == code ',' then do
      advance
      match ← skipSpace with
      | some byte =>
        if byte == code ']' then blameNext .trailingComma else blameNext .trailingCharacters
      | none => blameNext .trailingCharacters
    else blameNext .trailingCharacters

def closeObject : Reader Unit := do
  match ← skipSpace with
  | none => blameNext .unfinishedObject
  | some byte =>
    if byte == code '\x7d' then advance
    else if byte == code ',' then blameNext .trailingComma
    else blameNext .trailingCharacters

def items (value : Reader Json) : Nat → List Json → Reader (List Json)
  | 0, _ => blame .unfinishedList
  | fuel + 1, done => do
    if ← nextItem done.isEmpty then
      let item ← value
      items value fuel (item :: done)
    else return done.reverse

def fields (value : Reader Json) : Nat → List (String × Json) → Reader (List (String × Json))
  | 0, _ => blame .unfinishedObject
  | fuel + 1, done => do
    if ← nextKey done.isEmpty then
      advance
      let key ← string
      colon
      let item ← value
      fields value fuel ((key, item) :: done)
    else return done.reverse

def valueWith (inner : Option (Reader Json)) : Reader Json := do
  match ← skipSpace with
  | none => blameNext .unfinishedValue
  | some byte =>
    if byte == code 'n' then do
      advance; keyword "ull"; return .null
    else if byte == code 't' then do
      advance; keyword "rue"; return .bool true
    else if byte == code 'f' then do
      advance; keyword "alse"; return .bool false
    else if byte == code '-' then do
      advance; number true
    else if isDigit byte then number false
    else if byte == code '"' then do
      advance; return .string (← string)
    else if byte == code '[' then
      match inner with
      | none => blameNext .tooDeep
      | some value => do
        advance
        let list ← items value (← budget) []
        closeList
        return .array list
    else if byte == code '\x7b' then
      match inner with
      | none => blameNext .tooDeep
      | some value => do
        advance
        let list ← fields value (← budget) []
        closeObject
        return .object (Fields.ofPairs list)
    else blameNext .expectedValue

def value : Nat → Reader Json
  | 0 => valueWith none
  | depth + 1 => valueWith (some (value depth))

def depthLimit : Nat := 127

def atEnd : Reader Unit := do
  match ← skipSpace with
  | none => pure ()
  | some _ => blameNext .trailingCharacters

def document {α : Type} (reader : Reader α) : Reader α := do
  let result ← reader
  atEnd
  return result

def run {α : Type} (reader : Reader α) (source : List UInt8) : Except Error α :=
  match reader ⟨source, 0⟩ with
  | .ok (result, _) => .ok result
  | .error fault => .error (Error.ofFault source fault)

end Reader

def readBytes (source : List UInt8) : Except Error Json :=
  (Reader.document (Reader.value Reader.depthLimit)).run source

def read (source : String) : Except Error Json := readBytes source.toUTF8.toList

end FormatConformance.Json
