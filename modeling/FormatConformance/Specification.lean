import FormatConformance.Options
import FormatConformance.Json.Reader
import FormatConformance.Json.Shape

/-!
Specifications: what a fixture directory declares about its runs, and how such a declaration is
read from JSON. The fields of an object are read in the order of their keys, and the first one that
does not fit is the one complained about.
-/

namespace FormatConformance

structure Snippet where
  name : Option String := none
  code : String
  output : Option String := none
  deriving DecidableEq, Repr

structure Declaration where
  parsers : List Grammar := []
  options : Options := {}
  snippets : List Snippet := []

namespace Grammar

def ofJson (value : Json) : Except String Grammar := do
  let name ← value.asString
  match ofName? name with
  | some grammar => .ok grammar
  | none => .error (unknownName name)

end Grammar

namespace FailureScope

def ofJson? : Json → Option FailureScope
  | .bool fails => some (.all fails)
  | .array items => (items.mapM Json.string?).map .named
  | _ => none

end FailureScope

namespace ExpectedFailures

/-- Reads the scopes of all grammars, an unknown one making the whole no reading. -/
def scopes? (fields : Fields Json) : Option (List (Grammar × FailureScope)) :=
  if fields.all fun field => (Grammar.ofName? field.1).isSome then
    (Grammar.all.filter fun g => (fields.lookup g.name).isSome).mapM fun g => do
      let value ← fields.lookup g.name
      let scope ← FailureScope.ofJson? value
      return (g, scope)
  else none

def ofJson (value : Json) : Except String ExpectedFailures :=
  let reading := match value with
    | .bool fails => some (all fails)
    | .object fields => (scopes? fields).map perGrammar
    | _ => none
  match reading with
  | some errors => .ok errors
  | none => .error (Json.matchesNone "ErrorExpectation")

end ExpectedFailures

namespace Options

def readField (options : Options) : String × Json → Except String Options
  | ("parser", value) => do
    return { options with parser := ← Json.orNull Grammar.ofJson value }
  | ("errors", value) => do
    return { options with errors := ← Json.orNull ExpectedFailures.ofJson value }
  | ("cursorOffset", value) => do
    let n ← Json.orNull Json.asOffset value
    return { options with offsets := { options.offsets with cursor := n } }
  | ("rangeStart", value) => do
    let n ← Json.orNull Json.asOffset value
    return { options with offsets := { options.offsets with rangeStart := n } }
  | ("rangeEnd", value) => do
    let n ← Json.orNull Json.asOffset value
    return { options with offsets := { options.offsets with rangeEnd := n } }
  | ("filepath", value) => do
    return { options with filepath := ← Json.orNull Json.asPath value }
  | (key, value) => .ok (options.put key value)

def ofJson : Json → Except String Options
  | .object fields => fields.foldlM readField {}
  | value => .error (value.wrongKind "struct OptionSet")

end Options

namespace Snippet

def ofFields? (fields : Fields Json) : Option Snippet := do
  let name ← textOrNull? "name"
  let code ← (fields.lookup "code").bind Json.string?
  let output ← textOrNull? "output"
  return { name, code, output }
where
  textOrNull? (key : String) : Option (Option String) :=
    match fields.lookup key with
    | none | some .null => some none
    | some value => value.string?.map some

def ofJson (value : Json) : Except String Snippet :=
  let reading := match value with
    | .string code => some ⟨none, code, none⟩
    | .object fields => ofFields? fields
    | _ => none
  match reading with
  | some snippet => .ok snippet
  | none => .error (Json.matchesNone "Snippet")

end Snippet

namespace Declaration

def readParsers (value : Json) : Except String (List Grammar) := do
  (← value.asList).mapM Grammar.ofJson

def readSnippets (value : Json) : Except String (List Snippet) := do
  (← value.asList).mapM Snippet.ofJson

def readField (run : Declaration) : String × Json → Except String Declaration
  | ("parsers", value) => return { run with parsers := ← readParsers value }
  | ("options", value) => return { run with options := ← Options.ofJson value }
  | ("snippets", value) => return { run with snippets := ← readSnippets value }
  | (key, _) =>
    .error ("unknown field `" ++ key ++ "`, expected one of `parsers`, `options`, `snippets`")

/-- A run may also be written as a list of its parts, the last ones being left out at will. -/
def readParts (items : List Json) : Except String Declaration := do
  let run ← (["parsers", "options", "snippets"].zip items).foldlM readField {}
  if 3 < items.length then
    .error ("invalid length " ++ toString items.length ++ ", expected fewer elements in array")
  else return run

def ofJson : Json → Except String Declaration
  | .object fields => fields.foldlM readField {}
  | .array items => readParts items
  | value => .error (value.wrongKind "struct RunSpec")

end Declaration

abbrev Specification := List Declaration

namespace Specification

def ofJson : Json → Except String Specification
  | .array runs => runs.mapM Declaration.ofJson
  | run => return [← Declaration.ofJson run]

def read (source : String) : Except Json.Error Specification := do
  let value ← Json.read source
  (ofJson value).mapError .data

end Specification

end FormatConformance
