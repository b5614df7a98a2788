import FormatConformance.Text.Basic

/-! Texts as bytes. Bytes that are no text are read with a replacement character for each of the
longest runs that could have started a character. -/

namespace FormatConformance.Text

def toBytes (t : Text) : List UInt8 := (asString t).toUTF8.toList

def ofBytes? (bytes : List UInt8) : Option Text :=
  (String.fromUTF8? (ByteArray.mk bytes.toArray)).map String.toList

def replacement : Char := '\ufffd'

def following (first : Nat) : Option (Nat × Nat × Nat) :=
  if 0xC2 ≤ first && first ≤ 0xDF then some (0x80, 0xBF, 1)
  else if first = 0xE0 then some (0xA0, 0xBF, 2)
  else if first = 0xED then some (0x80, 0x9F, 2)
  else if 0xE1 ≤ first && first ≤ 0xEF then some (0x80, 0xBF, 2)
  else if first = 0xF0 then some (0x90, 0xBF, 3)
  else if 0xF1 ≤ first && first ≤ 0xF3 then some (0x80, 0xBF, 3)
  else if first = 0xF4 then some (0x80, 0x8F, 3)
  else none

def continuation : Nat → List Nat → List Nat
  | count + 1, byte :: rest =>
    if 0x80 ≤ byte && byte ≤ 0xBF then byte :: continuation count rest else []
  | _, _ => []

def decodeFront (first : Nat) (rest : List Nat) : Char × Nat :=
  if first < 0x80 then (Char.ofNat first, 0)
  else match following first, rest with
    | some (low, high, count), second :: further =>
      if low ≤ second && second ≤ high then
        let more := continuation (count - 1) further
        if more.length + 1 = count then
          let lead := if count = 1 then first - 0xC0 else if count = 2 then first - 0xE0
            else first - 0xF0
          (Char.ofNat ((second :: more).foldl (fun n byte => n * 64 + (byte - 0x80)) lead), count)
        else (replacement, more.length + 1)
      else (replacement, 0)
    | _, _ => (replacement, 0)

def decodeFrom : Nat → List Nat → Text
  | _, [] => []
  | skip + 1, _ :: rest => decodeFrom skip rest
  | 0, first :: rest =>
    let (c, count) := decodeFront first rest
    c :: decodeFrom count rest

def ofBytes (bytes : List UInt8) : Text := decodeFrom 0 (bytes.map UInt8.toNat)

def startsChar (first : Nat) (rest : List Nat) : Bool :=
  first < 0x80 || match following first, rest with
    | some (low, high, count), second :: further =>
      low ≤ second && second ≤ high && (continuation (count - 1) further).length + 1 == count
    | _, _ => false

/-- The number of bytes before the first one that belongs to no character, where the first `skip`
bytes belong to one. -/
def validLength : Nat → List Nat → Nat
  | _, [] => 0
  | skip + 1, _ :: rest => validLength skip rest + 1
  | 0, first :: rest =>
    if startsChar first rest then validLength (decodeFront first rest).2 rest + 1 else 0

end FormatConformance.Text
