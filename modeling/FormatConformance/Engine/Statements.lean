import FormatConformance.Engine.Basic
import FormatConformance.Path
import FormatConformance.Text.Blank
import FormatConformance.Text.LineEnding
import FormatConformance.Text.Search

/-!
A small engine for statements. Statements end at semicolons and are printed one a line, as their
words with single blanks between them. Words with `!!` are errors, and words that start with `@`
are understood under some grammars only.
-/

namespace FormatConformance.Statements

def undecorated : List Grammar := [.flow, .espree, .meriyah, .acorn]

def grammar (options : Options) : Except Rejection Grammar :=
  let inferred := do
    let path ← options.filepath
    let extension ← Path.extension? path
    let language ← Language.ofExtension? extension
    return Grammar.inferredFor language
  match options.parser.or inferred with
  | some grammar => .ok grammar
  | none => .error ⟨"No parser and no file path specified, couldn't infer a parser."⟩

def checkWord (grammar : Grammar) (word : Text) : Except Rejection Unit :=
  if Text.occurs ['!', '!'] word then .error ⟨"SyntaxError: Unexpected token `!!`"⟩
  else if word.head? == some '@' && undecorated.contains grammar then
    .error ⟨"SyntaxError: Decorators are not supported by " ++ grammar.name⟩
  else .ok ()

def statements (text : Text) (grammar : Grammar) : Except Rejection (List (List Text)) := do
  let unmarked := match text with
    | c :: rest => if c = byteOrderMark then rest else text
    | [] => []
  let found := ((unmarked.splitOn ';').map Text.words).filter fun words => !words.isEmpty
  found.flatten.forM (checkWord grammar)
  return found

def terminator (text : Text) (options : Options) : Text :=
  match options.endOfLine? with
  | some "auto" => (LineEnding.guess text).chars
  | some "crlf" => LineEnding.crlf.chars
  | some "cr" => LineEnding.cr.chars
  | _ => LineEnding.lf.chars

def isContent (c : Char) : Bool := !Text.isBlank c && c != ';'

def behind (output : Text) (number : Nat) : Nat :=
  match (output.zipIdx.filter fun (c, _) => isContent c)[number - 1]? with
  | some (_, index) => index + 1
  | none => output.length

/-- The cursor stays behind the content character that it was behind. -/
def moveCursor (input : Text) (offset : Nat) (output : Text) : Nat :=
  let before := (input.take offset).countP isContent
  if before = 0 then 0 else behind output before

def format (text : Text) (options : Options) : Except Rejection Formatted := do
  let grammar ← grammar options
  let found ← statements text grammar
  let mark := if text.head? == some byteOrderMark then [byteOrderMark] else []
  let close := if options.dropsSemicolons then [] else [';']
  let printed := mark ++ found.flatMap fun words =>
    [' '].intercalate words ++ close ++ terminator text options
  return ⟨printed, options.offsets.cursor.map fun offset => moveCursor text offset printed⟩

def parse (text : Text) (options : Options) : Except Rejection Json := do
  let found ← statements text (← grammar options)
  return .array (found.map fun words => .array (words.map fun word => .string (Text.asString word)))

def engine : Engine := ⟨format, parse⟩

end FormatConformance.Statements
