import FormatConformance.Text.Utf8

/-! Bytes seen as text: a byte text has a character for each byte, the one with the number of the
byte. Shells and their tools work on bytes, so that what they hold are byte texts. -/

namespace FormatConformance.Text

def ofByteValues (bytes : List UInt8) : Text := bytes.map fun byte => Char.ofNat byte.toNat

def byteValues (t : Text) : List UInt8 := t.map fun c => UInt8.ofNat c.toNat

def spellBytes (t : Text) : Text := ofByteValues (toBytes t)

def ofWord (s : String) : Text := spellBytes s.toList

end FormatConformance.Text
