/-!
What can be wrong with JSON text or with the data in it. A fault found while reading text carries
the number of bytes read when it was noticed, from which its line and column follow.
-/

namespace FormatConformance.Json

inductive Complaint where
  | unfinishedList
  | unfinishedObject
  | unfinishedString
  | unfinishedValue
  | expectedColon
  | expectedListEnd
  | expectedObjectEnd
  | expectedKeyword
  | expectedValue
  | invalidEscape
  | invalidNumber
  | numberOutOfRange
  | invalidCodePoint
  | controlCharacter
  | keyNotString
  | loneSurrogate
  | unfinishedSurrogate
  | trailingComma
  | trailingCharacters
  | tooDeep
  | data (message : String)
  deriving DecidableEq, Repr

inductive Category where
  | malformed
  | unfinished
  | data
  deriving DecidableEq, Repr

namespace Complaint

def message : Complaint → String
  | unfinishedList => "EOF while parsing a list"
  | unfinishedObject => "EOF while parsing an object"
  | unfinishedString => "EOF while parsing a string"
  | unfinishedValue => "EOF while parsing a value"
  | expectedColon => "expected `:`"
  | expectedListEnd => "expected `,` or `]`"
  | expectedObjectEnd => "expected `,` or `\x7d`"
  | expectedKeyword => "expected ident"
  | expectedValue => "expected value"
  | invalidEscape => "invalid escape"
  | invalidNumber => "invalid number"
  | numberOutOfRange => "number out of range"
  | invalidCodePoint => "invalid unicode code point"
  | controlCharacter => "control character (\\u0000-\\u001F) found while parsing a string"
  | keyNotString => "key must be a string"
  | loneSurrogate => "lone leading surrogate in hex escape"
  | unfinishedSurrogate => "unexpected end of hex escape"
  | trailingComma => "trailing comma"
  | trailingCharacters => "trailing characters"
  | tooDeep => "recursion limit exceeded"
  | data message => message

def category : Complaint → Category
  | unfinishedList | unfinishedObject | unfinishedString | unfinishedValue => .unfinished
  | data _ => .data
  | _ => .malformed

end Complaint

structure Fault where
  complaint : Complaint
  index : Nat
  deriving DecidableEq, Repr

def position (read : List UInt8) : Nat × Nat :=
  let step := fun (place : Nat × Nat) (byte : UInt8) =>
    if byte = 10 then (place.1 + 1, 0) else (place.1, place.2 + 1)
  read.foldl step (1, 0)

/-- What is wrong with a value that was to be read: a fault of its text with the place, or a
fault of the data alone. -/
inductive Error where
  | text (complaint : Complaint) (line column : Nat)
  | data (message : String)
  deriving DecidableEq, Repr

namespace Error

def ofFault (source : List UInt8) (fault : Fault) : Error :=
  let (line, column) := position (source.take fault.index)
  text fault.complaint line column

def message : Error → String
  | text complaint line column =>
    complaint.message ++ " at line " ++ toString line ++ " column " ++ toString column
  | data message => message

def category : Error → Category
  | text complaint _ _ => complaint.category
  | data _ => .data

end Error

end FormatConformance.Json
