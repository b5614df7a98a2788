import FormatConformance.Harness.Examine
import FormatConformance.Snapshot.Key
import FormatConformance.Snapshot.Store

/-!
Runs of fixture directories. What the examination leaves to be compared is handed to the store of
baselines entry by entry, each under the next key of its titles.
-/

namespace FormatConformance

structure Outcome where
  fixture : String
  title : String
  grammar : Option Grammar
  result : Except Failure Unit

abbrev Report := List Outcome

namespace Report

def failures (report : Report) : List (Outcome × Failure) :=
  report.filterMap fun outcome => match outcome.result with
    | .error failure => some (outcome, failure)
    | .ok _ => none

def isSuccess (report : Report) : Bool := report.failures.isEmpty

def find? (report : Report) (fixture title : String) : Option Outcome :=
  List.find? (fun outcome => outcome.fixture == fixture && outcome.title == title) report

end Report

structure Ledger (σ : Type) where
  counter : KeyCounter
  state : σ

variable {σ : Type}

def Ledger.compare (ledger : Ledger σ) (fixture entry : String)
    (assert : String → σ → Except SnapshotMismatch Unit × σ) : Except Failure Unit × Ledger σ :=
  let (key, counter) := ledger.counter.next fixture entry
  let (result, state) := assert key ledger.state
  (result.mapError .snapshot, ⟨counter, state⟩)

namespace Examiner

/-- Turns what was found into a result, with the help of the store where a text is left to be
compared. -/
def settle (store : SnapshotStore σ) (ledger : Ledger σ) (e : Examined) :
    Except Failure Unit × Ledger σ :=
  match e.finding with
  | .passed => (.ok (), ledger)
  | .failed failure => (.error failure, ledger)
  | .rejected message =>
    ledger.compare e.title e.entry.title fun key => store.assertError key message
  | .recorded record =>
    ledger.compare e.title e.entry.title fun key => store.assertRecord key record

def settleAll (store : SnapshotStore σ) (ledger : Ledger σ) : List Examined → Report × Ledger σ
  | [] => ([], ledger)
  | e :: rest =>
    let (result, ledger) := settle store ledger e
    let (report, ledger) := settleAll store ledger rest
    (⟨e.title, e.entry.title, e.entry.grammar, result⟩ :: report, ledger)

def execute (x : Examiner) (store : SnapshotStore σ) (runs : List PreparedRun) (state : σ) :
    Logged (Report × σ) :=
  (Logged.gather (runs.map x.examineRun)).map fun examined =>
    let (report, ledger) := settleAll store ⟨[], state⟩ examined
    (report, ledger.state)

end Examiner

structure Harness (σ : Type) where
  engine : Engine
  store : SnapshotStore σ
  exceptions : Exceptions
  settings : Settings

namespace Harness

def examiner (h : Harness σ) : Examiner := ⟨h.engine, h.exceptions, h.settings.deep⟩

/-- Carries out what was prepared; a fault of the setup leaves the store as it was. -/
def runPrepared (h : Harness σ) (prepared : Except SetupError (List PreparedRun)) (state : σ) :
    Logged (Except SetupError Report × σ) :=
  match prepared with
  | .error error => return (.error error, state)
  | .ok runs => (h.examiner.execute h.store runs state).map fun (report, state) =>
      (.ok report, state)

def runDirectory (h : Harness σ) (tree : FileTree) (dir : String) (state : σ) :
    Logged (Except SetupError Report × σ) :=
  h.runPrepared (prepareDirectory h.exceptions h.settings tree dir) state

def runDeclaration (h : Harness σ) (tree : FileTree) (dir : String) (run : Declaration)
    (state : σ) : Logged (Except SetupError Report × σ) :=
  h.runPrepared ((prepare h.exceptions h.settings tree dir run).map ([·])) state

end Harness

end FormatConformance
