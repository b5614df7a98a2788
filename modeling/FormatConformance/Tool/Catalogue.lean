import FormatConformance.Tool.Edit
import FormatConformance.Tool.Select

/-! The tools by their names. -/

namespace FormatConformance.Tool

def succeed (success : Bool) : Tool := fun _ => .finish (.succeeded success)

def catalogue : List (String × Tool) :=
  [("basename", baseName), ("cat", copy), ("cut", cut), ("dirname", directoryName),
    ("egrep", select true), ("expr", evaluate), ("false", succeed false), ("grep", select false),
    ("fgrep", fun args => select false (['-', 'F'] :: args)), ("head", first), ("rev", reversed),
    ("sed", edit), ("seq", sequence), ("sleep", succeed true), ("sort", sort),
    ("tac", backwards), ("tail", last), ("tr", exchange), ("true", succeed true),
    ("uniq", unique), ("wc", count)]

end FormatConformance.Tool
