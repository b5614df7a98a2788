import FormatConformance.Text.Basic

/-! White space of running text, as the Unicode property `White_Space` has it, and the trimming and
word splitting that rest on it. -/

namespace FormatConformance.Text

def isBlank (c : Char) : Bool :=
  let n := c.toNat
  (9 ≤ n && n ≤ 13) || n == 0x20 || n == 0x85 || n == 0xA0 || n == 0x1680 ||
    (0x2000 ≤ n && n ≤ 0x200A) || n == 0x2028 || n == 0x2029 || n == 0x202F || n == 0x205F ||
    n == 0x3000

def trimStart (t : Text) : Text := t.dropWhile isBlank

def trimEnd (t : Text) : Text := (t.reverse.dropWhile isBlank).reverse

def trim (t : Text) : Text := trimEnd (trimStart t)

def wordsFrom : Text → Text → List Text
  | [], [] => []
  | [], current => [current.reverse]
  | c :: rest, current =>
    if isBlank c then
      if current.isEmpty then wordsFrom rest [] else current.reverse :: wordsFrom rest []
    else wordsFrom rest (c :: current)

def words (t : Text) : List Text := wordsFrom t []

end FormatConformance.Text
