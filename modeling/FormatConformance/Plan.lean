import FormatConformance.Exceptions
import FormatConformance.Fixture

/-!
Test plans. A run asks for grammars; `Plan.build` adds the companions that have to agree with them,
and `Plan.entries` turns a fixture into one entry for each grammar. `checkReaders` makes sure that
the grammars asked for can read the fixtures at all.
-/

namespace FormatConformance

inductive Area where
  | errors
  | inference
  | typescriptOnly
  | generalPurpose
  | other
  deriving DecidableEq, Repr

namespace Area

def errorsDirectory : String := "misc/errors"

def inferenceDirectory : String := "misc/parser-inference"

def typescriptOnlyDirectory : String := "misc/typescript-only"

def generalPurposeDirectory : String := "js"

def ofDirectory (relative : String) : Area :=
  if Path.startsWith relative errorsDirectory then errors
  else if Path.startsWith relative inferenceDirectory then inference
  else if Path.startsWith relative typescriptOnlyDirectory then typescriptOnly
  else if Path.startsWith relative generalPurposeDirectory then generalPurpose
  else other

end Area

inductive Role where
  | primary
  | crossCheck
  deriving DecidableEq, Repr

structure Entry where
  title : String
  grammar : Option Grammar
  role : Role
  deriving DecidableEq, Repr

structure Plan where
  area : Area
  requested : List (Option Grammar)
  grammars : List (Option Grammar)
  options : Options
  directory : String

namespace Plan

def join (grammars : List (Option Grammar)) (grammar : Grammar) : List (Option Grammar) :=
  if grammars.contains (some grammar) then grammars else grammars ++ [some grammar]

/-- The companions that may join, in their order and with repetitions. -/
def candidates (area : Area) (directory : String) (exceptions : Exceptions)
    (requested : List Grammar) : List Grammar :=
  match area with
  | .errors => []
  | _ =>
    (if area = .typescriptOnly then [] else requested.filterMap Grammar.untyped) ++
    (if area = .generalPurpose then
      (requested.flatMap Grammar.alternates).filter fun g => !exceptions.isDisabled g directory
    else []) ++
    requested.filterMap Grammar.reshaped

def build (directory : String) (requested : List Grammar) (options : Options)
    (exceptions : Exceptions) : Plan :=
  let area := Area.ofDirectory directory
  let errors := if area = .errors then options.errors.or (some (.all true)) else options.errors
  let parsers := if area = .inference then [none] else requested.map some
  { area
    requested := parsers
    grammars := (candidates area directory exceptions (parsers.filterMap id)).foldl join parsers
    options := { options with errors }
    directory }

def primary (plan : Plan) : Option Grammar := plan.requested.head?.join

def relativePath (plan : Plan) (fixture : Fixture) : Option String :=
  fixture.path.map fun _ => Path.join plan.directory fixture.name

def optionsFor (plan : Plan) (fixture : Fixture) : Options :=
  let sized := match plan.options.get? "printWidth" with
    | some _ => plan.options
    | none => plan.options.put "printWidth" (.int Options.defaultPrintWidth)
  { sized with filepath := fixture.path, parser := plan.primary }

def primaryTitle : String := "format"

def crossCheckTitle (grammar : Option Grammar) : String :=
  "[" ++ Grammar.label grammar ++ "] format"

def admits (exceptions : Exceptions) (relative : Option String) (grammar : Option Grammar) :
    Bool :=
  match grammar, relative with
  | some g, some path => !exceptions.isDisabled g path
  | _, _ => true

/-- The entries of a fixture. Where the primary grammar is expected to fail, each entry stands for
itself, that of the primary grammar included. -/
def entries (plan : Plan) (relative : Option String) (primaryFails : Bool)
    (exceptions : Exceptions) : List Entry :=
  (plan.grammars.filter (admits exceptions relative)).map fun grammar =>
    if primaryFails || grammar ≠ plan.primary then ⟨crossCheckTitle grammar, grammar, .crossCheck⟩
    else ⟨primaryTitle, grammar, .primary⟩

end Plan

inductive ReaderError where
  | noParsers (directory : String)
  | unreadable (fixture directory : String) (requested : List Grammar)
  deriving DecidableEq, Repr

def Fixture.language? (fixture : Fixture) : Option Language := do
  Language.ofExtension? (← Path.extension? (← fixture.path))

/-- Whether some grammar reads the fixture. Fixtures of no known language are taken on trust. -/
def Fixture.readBy (requested : List Grammar) (fixture : Fixture) : Bool :=
  match fixture.language? with
  | some language => requested.any fun grammar => grammar.reads language
  | none => true

def checkReaders (directory : String) (area : Area) (fixtures : List Fixture)
    (requested : List Grammar) : Except ReaderError Unit :=
  if area = .inference then .ok ()
  else if requested.isEmpty then .error (.noParsers directory)
  else match fixtures.find? fun fixture => !fixture.readBy requested with
    | some fixture => .error (.unreadable fixture.name directory requested)
    | none => .ok ()

end FormatConformance
