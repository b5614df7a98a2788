import FormatConformance.Plan
import FormatConformance.Settings

/-!
Setup of a fixture directory. All declared runs are prepared before anything is formatted: the
specification is read, then for each run in turn the fixtures are loaded and, if the settings ask
for it, the grammars are checked.
-/

namespace FormatConformance

inductive SetupError where
  | file (error : FileError)
  | specification (path : String) (error : Json.Error)
  | readers (error : ReaderError)
  deriving DecidableEq, Repr

namespace SetupError

def message : SetupError → String
  | file error => error.message
  | specification path _ => "invalid spec file " ++ path
  | readers (.noParsers directory) => "No parsers were specified for " ++ directory
  | readers (.unreadable fixture directory requested) =>
    "fixture `" ++ fixture ++ "` in " ++ directory ++ " cannot be parsed by any of [" ++
      ", ".intercalate (requested.map Grammar.name) ++ "]"

def code : SetupError → String
  | file _ => "fmtspec::io"
  | specification _ _ => "fmtspec::spec_file"
  | readers (.noParsers _) => "fmtspec::no_parsers"
  | readers (.unreadable _ _ _) => "fmtspec::unsupported_fixture"

def advice : SetupError → Option String
  | readers (.unreadable _ _ _) =>
    some "move the fixture to a directory for its language, or add a parser that reads it"
  | _ => none

def sources : SetupError → List String
  | specification _ error => [error.message]
  | _ => []

end SetupError

structure PreparedRun where
  plan : Plan
  fixtures : List Fixture

def readSpecification (tree : FileTree) (dir : String) : Except SetupError Specification := do
  let path := Path.join dir specificationFile
  let source ← (tree.readText path).mapError .file
  (Specification.read source).mapError (.specification path)

/-- The directory relative to the root of the fixtures, or as it is outside of it. -/
def Settings.relative (settings : Settings) (dir : String) : String :=
  (Path.relativeTo? dir settings.root).getD dir

def prepare (exceptions : Exceptions) (settings : Settings) (tree : FileTree) (dir : String)
    (run : Declaration) : Except SetupError PreparedRun := do
  let plan := Plan.build (settings.relative dir) run.parsers run.options exceptions
  let fixtures ← (loadFixtures tree dir run.snippets).mapError .file
  if settings.checkReaders then
    (checkReaders dir plan.area fixtures run.parsers).mapError .readers
  return { plan, fixtures }

def prepareDirectory (exceptions : Exceptions) (settings : Settings) (tree : FileTree)
    (dir : String) : Except SetupError (List PreparedRun) := do
  let runs ← readSpecification tree dir
  runs.mapM (prepare exceptions settings tree dir)

end FormatConformance
