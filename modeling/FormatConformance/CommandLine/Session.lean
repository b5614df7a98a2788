import FormatConformance.CommandLine.Arguments
import FormatConformance.Harness.Render
import FormatConformance.Snapshot.Directory
import FormatConformance.Workplace

/-!
Sessions: the run of the directories that a command line names, one after the other, until one of
them cannot be set up. On the command line, baselines are kept in each directory below
`__snapshots__`; a session runs over any other stores as well.
-/

namespace FormatConformance.CommandLine

inductive Ending where
  | stopped (stop : Stop)
  | noRoot (trouble : FileTrouble)
  | noStandaloneEngine
  | noDirectory (trouble : FileTrouble)
  | notSetUp (error : SetupError)
  | finished (failures entries : Nat)
  deriving DecidableEq, Repr

namespace Ending

/-- The exit status: two for faulty arguments, one for every other failure. -/
def status : Ending → Nat
  | stopped (.answer _) => 0
  | stopped (.fault _) => 2
  | finished failures _ => if failures = 0 then 0 else 1
  | _ => 1

def message : Ending → String
  | stopped (.answer .help) =>
    "Usage: [OPTIONS] --engine ENGINE DIRS...\n\nOptions: --root, --engine, " ++
      "--standalone-engine, --standalone, --full, --check-parsers, --accept, -d, -h, -V"
  | stopped (.answer .version) => "0.1.0"
  | stopped (.fault fault) => "error: " ++ fault.message
  | noRoot trouble | noDirectory trouble => trouble.message
  | noStandaloneEngine => "--standalone needs --standalone-engine"
  | notSetUp error => error.message
  | finished failures entries =>
    if failures = 0 then "All entries passed"
    else toString failures ++ " of " ++ toString entries ++ " entries failed"

end Ending

structure Session where
  files : FileTree
  reports : List Report
  ending : Ending

namespace Session

def ofReports (files : FileTree) (reports : List Report) : Session :=
  ⟨files, reports,
    .finished (reports.flatMap Report.failures).length reports.flatten.length⟩

def shown (s : Session) : List Report := s.reports.filter fun report => !report.isSuccess

end Session

abbrev Launcher := Workplace → String → Engine

/-- The stores of directories with absolute paths, which all keep their baselines in one tree. -/
abbrev Stores := String → SnapshotStore FileTree

/-- Makes the stores of a session, for which all texts are to be accepted or not. -/
abbrev Keeper := Workplace → Environment → Bool → Stores

def snapshotDirectoryName : String := "__snapshots__"

def keepSnapshots : Keeper := fun place environment accepting =>
  let policy := SnapshotPolicy.ofWorkplace? place environment accepting
  fun dir => SnapshotDirectory.store ⟨Path.names dir ++ [snapshotDirectoryName], policy⟩

namespace Request

def settings (r : Request) (root : String) : Settings where
  root
  deep := r.deep
  checkReaders := r.checkReaders
  build := if r.standalone then .standaloneBuild else .localBuild

def program? (r : Request) : Option String :=
  if r.standalone then r.standaloneEngine else some r.engine

def harness (stores : Stores) (engine : Engine) (settings : Settings) (dir : String) :
    Harness FileTree where
  engine
  store := stores dir
  exceptions := .known
  settings

def runDirectories (stores : Stores) (engine : Engine) (settings : Settings) :
    List String → Workplace → List Report → Logged Session
  | [], place, reports => return .ofReports place.tree reports
  | dir :: rest, place, reports =>
    match place.canonical dir with
    | .error trouble => return ⟨place.tree, reports, .noDirectory trouble⟩
    | .ok dir => do
      match ← (harness stores engine settings dir).runDirectory place.tree dir place.tree with
      | (.error error, files) => return ⟨files, reports, .notSetUp error⟩
      | (.ok report, files) =>
        runDirectories stores engine settings rest (place.withTree files) (reports ++ [report])

def run (r : Request) (launch : Launcher) (keep : Keeper) (place : Workplace)
    (environment : Environment) : Logged Session :=
  match place.canonical r.root with
  | .error trouble => return ⟨place.tree, [], .noRoot trouble⟩
  | .ok root =>
    match r.program? with
    | none => return ⟨place.tree, [], .noStandaloneEngine⟩
    | some program =>
      runDirectories (keep place environment r.accepting) (launch place program)
        (r.settings root) r.directories place []

end Request

def session (launch : Launcher) (keep : Keeper) (place : Workplace) (environment : Environment)
    (args : List String) : Logged Session :=
  match Request.read args environment with
  | .error stop => return ⟨place.tree, [], .stopped stop⟩
  | .ok request => request.run launch keep place environment

def run (launch : Launcher) (place : Workplace) (environment : Environment) (args : List String) :
    Session :=
  (session launch keepSnapshots place environment args).value

end FormatConformance.CommandLine
