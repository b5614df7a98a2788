/-! Texts as lists of characters. Everything that is formatted, compared or recorded is a text;
names, titles and messages are strings. -/

namespace FormatConformance

abbrev Text := List Char

namespace Text

def asString (t : Text) : String := String.ofList t

theorem asString_injective {s t : Text} (h : asString s = asString t) : s = t := by
  simpa [asString] using congrArg String.toList h

end Text

end FormatConformance
