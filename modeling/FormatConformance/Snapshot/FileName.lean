import FormatConformance.Text.Basic

/-! File names of snapshots: a key with everything unsafe reduced to single underscores. -/

namespace FormatConformance.FileName

def isSafe (c : Char) : Bool := c.isAlphanum || c == '-' || c == '.'

/-- Writes an underscore for each run of unsafe characters; `after` tells that one was written
last. -/
def reduce : Bool → Text → Text
  | _, [] => []
  | after, c :: rest =>
    if isSafe c then c :: reduce false rest
    else if after then reduce true rest
    else '_' :: reduce true rest

def dropUnderscores (t : Text) : Text := t.dropWhile (· == '_')

def trimUnderscores (t : Text) : Text := (dropUnderscores (dropUnderscores t).reverse).reverse

def ofKey (key : String) : String := Text.asString (trimUnderscores (reduce false key.toList))

end FormatConformance.FileName
