import FormatConformance.Grammar
import FormatConformance.Marker
import FormatConformance.Json.Printer

/-!
The options of a formatting call. The harness itself reads the grammar, the expected failures, the
offsets and the path; every other option passes through to the engine under its key.

The path among the options is a Unicode string, so every set of options has a JSON form. A path
that is not Unicode would have none.
-/

namespace FormatConformance

inductive FailureScope where
  | all (fails : Bool)
  | named (fixtures : List String)
  deriving DecidableEq, Repr

def FailureScope.covers (fixture : String) : FailureScope → Bool
  | all fails => fails
  | named fixtures => fixtures.contains fixture

/-- The formatting attempts that are expected to fail. The scopes of single grammars stand in the
order of the grammars. -/
inductive ExpectedFailures where
  | all (fails : Bool)
  | perGrammar (scopes : List (Grammar × FailureScope))
  deriving DecidableEq, Repr

namespace ExpectedFailures

/-- Whether the attempt to format the fixture under the grammar is expected to fail. An attempt
whose grammar is left to the engine is covered by no single scope. -/
def covers (fixture : String) (grammar : Option Grammar) : ExpectedFailures → Bool
  | all fails => fails
  | perGrammar scopes =>
    match grammar.bind fun g => scopes.lookup g with
    | some scope => scope.covers fixture
    | none => false

def toJson : ExpectedFailures → Json
  | all fails => .bool fails
  | perGrammar scopes => .object (scopes.map fun (grammar, scope) =>
      (grammar.name, match scope with
        | .all fails => .bool fails
        | .named fixtures => .array (fixtures.map .string)))

end ExpectedFailures

structure Options where
  parser : Option Grammar := none
  errors : Option ExpectedFailures := none
  offsets : Offsets := {}
  filepath : Option String := none
  rest : Fields Json := []

namespace Options

def get? (options : Options) (key : String) : Option Json := options.rest.lookup key

def put (options : Options) (key : String) (value : Json) : Options :=
  { options with rest := Fields.insert key value options.rest }

def withParser (options : Options) (grammar : Option Grammar) : Options :=
  { options with parser := grammar }

/-- Takes over the offsets that are there and keeps its own ones in place of the others. -/
def withOffsets (options : Options) (found : Offsets) : Options :=
  { options with offsets :=
      { cursor := found.cursor.or options.offsets.cursor
        rangeStart := found.rangeStart.or options.offsets.rangeStart
        rangeEnd := found.rangeEnd.or options.offsets.rangeEnd } }

def endOfLine? (options : Options) : Option String := (options.get? "endOfLine").bind Json.string?

def keepsEndOfLine (options : Options) : Bool := options.endOfLine? == some "auto"

def requiresPragma (options : Options) : Bool :=
  (options.get? "requirePragma").bind Json.bool? == some true

def dropsSemicolons (options : Options) : Bool :=
  (options.get? "semi").bind Json.bool? == some false

def defaultPrintWidth : Nat := 80

def printWidth? (options : Options) : Option Nat := (options.get? "printWidth").bind Json.nat?

def hasReversedRange (options : Options) : Bool :=
  match options.offsets.rangeStart, options.offsets.rangeEnd with
  | some start, some stop => stop ≤ start
  | _, _ => false

def expectsFailure (options : Options) (fixture : String) : Bool :=
  match options.errors with
  | some errors => errors.covers fixture options.parser
  | none => false

def reservedKeys : List String :=
  ["parser", "errors", "cursorOffset", "rangeStart", "rangeEnd", "filepath"]

/-- The fields sent to the engine: the options read here, then the others by key. -/
def fields (options : Options) : List (String × Json) :=
  (options.parser.map fun g => ("parser", Json.string g.name)).toList ++
    (options.offsets.cursor.map fun n => ("cursorOffset", Json.int n)).toList ++
    (options.offsets.rangeStart.map fun n => ("rangeStart", Json.int n)).toList ++
    (options.offsets.rangeEnd.map fun n => ("rangeEnd", Json.int n)).toList ++
    (options.filepath.map fun path => ("filepath", Json.string path)).toList ++ options.rest

def text (options : Options) : String := Json.compact (.object options.fields)

def toJson (options : Options) : Json := .object (Fields.ofPairs options.fields)

def title (options : Options) : String := if options.fields.isEmpty then "" else options.text

theorem get_offsets_withOffsets (options : Options) (found : Offsets) (m : Marker) :
    (options.withOffsets found).offsets.get m = (found.get m).or (options.offsets.get m) := by
  cases m <;> rfl

end Options

end FormatConformance
