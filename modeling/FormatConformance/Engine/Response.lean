import FormatConformance.Engine.Basic
import FormatConformance.Json.Shape
import FormatConformance.Json.Skip

/-!
Answers of engines that are programs. An answer to a formatting request is an object with the
fields `formatted` and `cursorOffset`, or a list of their values; what does not fit is located
where reading stopped.
-/

namespace FormatConformance.Response

open Json Json.Reader

structure Parts where
  formatted : Option String := none
  cursor : Option (Option Int) := none

def ahead (byte : UInt8) : Reader Json :=
  if byte == code '[' then return .array []
  else if byte == code '\x7b' then return .object []
  else valueWith none

def wrongAhead {α : Type} (byte : UInt8) (expected : String) : Reader α := do
  let value ← ahead byte
  blame (.data (value.wrongKind expected))

def start : Reader UInt8 := do
  match ← skipSpace with
  | some byte => return byte
  | none => blameNext .unfinishedValue

def formatted : Reader String := do
  let byte ← start
  if byte == code '"' then
    advance
    string
  else wrongAhead byte "a string"

def cursor : Reader (Option Int) := do
  match ← skipSpace with
  | none => blameNext .unfinishedValue
  | some byte =>
    if byte == code 'n' then
      advance
      keyword "ull"
      return none
    else if byte == code '-' || isDigit byte then
      match ← valueWith none with
      | .int n =>
        if n < Int.pow 2 63 then return some n else blame (.data (outOfRange n "i64"))
      | value => blame (.data (value.wrongKind "i64"))
    else wrongAhead byte "i64"

def badFields {α : Type} (message : String) : Reader α := do
  let byte ← skipSpace
  if byte == some (code '\x7d') then advance
  blame (.data message)

def fields : Nat → Bool → Parts → Reader Parts
  | 0, _, _ => blame .unfinishedObject
  | fuel + 1, first, parts => do
    if ← nextKey first then
      advance
      match ← string with
      | "formatted" =>
        if parts.formatted.isSome then badFields "duplicate field `formatted`"
        colon
        let text ← formatted
        fields fuel false { parts with formatted := some text }
      | "cursorOffset" =>
        if parts.cursor.isSome then badFields "duplicate field `cursorOffset`"
        colon
        let offset ← cursor
        fields fuel false { parts with cursor := some offset }
      | _ =>
        colon
        skipValue
        fields fuel false parts
    else return parts

def object : Reader Parts := do
  advance
  let parts ← fields (← budget) true {}
  if parts.formatted.isNone then badFields "missing field `formatted`"
  closeObject
  return parts

def list : Reader Parts := do
  advance
  if !(← nextItem true) then
    closeList
    blame (.data "invalid length 0, expected struct FormatResponse with 2 elements")
  let text ← formatted
  let offset ← if ← nextItem false then cursor else pure none
  closeList
  return ⟨some text, some offset⟩

def parts : Reader Parts := do
  let byte ← start
  if byte == code '[' then list
  else if byte == code '\x7b' then object
  else wrongAhead byte "struct FormatResponse"

/-- A cursor offset below zero is none. -/
def toFormatted (p : Parts) : Formatted :=
  ⟨(p.formatted.getD "").toList, p.cursor.join.bind fun n =>
    if 0 ≤ n then some n.toNat else none⟩

def readFormatted (source : List UInt8) : Except Json.Error Formatted :=
  ((document parts).run source).map toFormatted

end FormatConformance.Response
