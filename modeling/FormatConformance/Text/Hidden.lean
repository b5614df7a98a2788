import FormatConformance.Text.Unassigned

/-! Characters that do not show, and the quoted form of a text that spells them out. -/

namespace FormatConformance.Text

def isHidden (c : Char) : Bool :=
  c ≠ ' ' && !isVoicingMark c && (within glyphless c || within ignorable c || attaches c)

def quotedChar (c : Char) : Text :=
  if c = '"' then ['\\', '"']
  else if c = '\\' then ['\\', '\\']
  else if c = '\n' then ['\\', 'n']
  else if c = '\r' then ['\\', 'r']
  else if c = '\t' then ['\\', 't']
  else if c.toNat = 0 then ['\\', '0']
  else if isHidden c then
    ['\\', 'u', '\x7b'] ++ Nat.toDigits 16 c.toNat ++ ['\x7d']
  else [c]

def quoted (t : Text) : Text := '"' :: t.flatMap quotedChar ++ ['"']

end FormatConformance.Text
