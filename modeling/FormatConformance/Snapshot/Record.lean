import FormatConformance.Engine.Pass
import FormatConformance.Text.Search

/-! Records: the text in which a pass is kept, with its options, its input and its output between
lines of equals signs. -/

namespace FormatConformance.Record

def width : Nat := 80

def maxRuler : Nat := 1000

def separator (title : String) : Text :=
  let left := (width - title.length) / 2
  let right := width - (title.length + left)
  List.replicate left '=' ++ title.toList ++ List.replicate right '='

def unrecorded : List String := ["parser", "filepath", "cursorOffset", "rangeStart", "rangeEnd"]

/-- The options of a record. `ending` is the terminator of the input; it stands in place of one that
the engine has to detect. -/
def optionFields (options : Options) (ending : LineEnding) : Fields Json :=
  let kept := (Fields.ofPairs options.fields).filter fun field => !unrecorded.contains field.1
  if options.keepsEndOfLine then
    Fields.insert "endOfLine" (.string ending.optionName) kept
  else kept

def parsersLine (requested : List (Option Grammar)) : Text :=
  let names := (requested.filterMap id).map fun grammar => '"' :: grammar.name.toList ++ ['"']
  "parsers: [".toList ++ [',', ' '].intercalate names ++ [']']

def optionLine (field : String × Json) : Text :=
  field.1.toList ++ ':' :: ' ' :: field.2.compactChars

def rulerLines (options : Options) : List Text :=
  match options.printWidth? with
  | some n => if n ≤ maxRuler then [List.replicate n ' ' ++ "| printWidth".toList] else []
  | none => []

def inputShown (pass : Pass) : Text :=
  LineEnding.spellOut (pass.options.offsets.restore pass.input)

def lines (pass : Pass) (requested : List (Option Grammar)) (options : Options) : List Text :=
  separator "options" :: parsersLine requested ::
    (optionFields options (LineEnding.guess pass.input)).map optionLine ++ rulerLines options ++
    [separator "input", inputShown pass, separator "output", pass.spelledOutput, separator ""]

def ofPass (pass : Pass) (requested : List (Option Grammar)) (options : Options) : Text :=
  ['\n'].intercalate (lines pass requested options)

end FormatConformance.Record
