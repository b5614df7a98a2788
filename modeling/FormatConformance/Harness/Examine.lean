import FormatConformance.Check.Deep
import FormatConformance.Harness.Setup
import FormatConformance.Snapshot.Record

/-!
Examination of entries. Everything an entry is checked for that does not touch the stored baselines
depends on the engine alone: `examineEntry` ends with a verdict, or with a text that is still to be
compared with the baseline of its key.
-/

namespace FormatConformance

/-- What became of the primary grammar's pass, which the entries of a fixture share. -/
inductive Primary where
  | formatted (pass : Pass)
  | expectedFailure
  | failed (cause : Rejection)

structure Trial where
  plan : Plan
  fixture : Fixture
  title : String
  options : Options
  primary : Primary

inductive Finding where
  | passed
  | failed (failure : Failure)
  | rejected (message : Text)
  | recorded (record : Text)

structure Examiner where
  engine : Engine
  exceptions : Exceptions
  deep : Bool

namespace Trial

def expectsFailure (t : Trial) (grammar : Option Grammar) : Bool :=
  (t.options.withParser grammar).expectsFailure t.fixture.name

def relative (t : Trial) : Option String := t.plan.relativePath t.fixture

end Trial

namespace Finding

def ofCheck (result : Except Failure Finding) : Finding :=
  match result with
  | .ok finding => finding
  | .error failure => failed failure

end Finding

namespace Examiner

/-- Checks a pass: its terminators, then the output if one is expected, and else, in deep runs,
everything else. -/
def verify (x : Examiner) (t : Trial) (entry : Entry) (pass : Pass) (expected : Option Text)
    (options : Options) : Check Finding := do
  Subject.require pass.checkEndOfLine
  match expected with
  | some text =>
    Subject.require (pass.checkOutput text (Grammar.label entry.grammar))
    return .passed
  | none =>
    if !x.deep then return .passed
    let subject : Subject := ⟨x.engine, t.fixture.code, options, pass⟩
    subject.checkDeeply (t.relative.any fun path => x.exceptions.isUnstable path options)
      (t.relative.any fun path => x.exceptions.isTreeUnstable path options)
    return .recorded (Record.ofPass pass t.plan.requested options)

def checkRejection (x : Examiner) (t : Trial) (entry : Entry) (options : Options) :
    Logged Finding := do
  match ← Pass.run x.engine t.fixture.code options with
  | .ok _ => return .failed (.unexpectedSuccess (Grammar.label entry.grammar))
  | .error cause => return .rejected cause.message.toList

def checkAgreement (x : Examiner) (t : Trial) (entry : Entry) (options : Options)
    (expected : Option Text) : Logged Finding := do
  match ← Pass.run x.engine t.fixture.code options with
  | .error cause => return .failed (.unexpectedError (Grammar.label entry.grammar) cause)
  | .ok pass => return .ofCheck (← x.verify t entry pass expected options)

def crossCheck (x : Examiner) (t : Trial) (entry : Entry) : Logged Finding :=
  let options := t.options.withParser entry.grammar
  if t.expectsFailure entry.grammar then x.checkRejection t entry options
  else match t.primary with
    | .formatted pass => x.checkAgreement t entry options (some pass.outputWithCursor)
    | .expectedFailure => x.checkAgreement t entry options none
    | .failed cause => return .failed (.primaryUnavailable cause)

def examineEntry (x : Examiner) (t : Trial) (entry : Entry) : Logged Finding :=
  match entry.role, t.primary with
  | .primary, .formatted pass => do
    return .ofCheck (← x.verify t entry pass t.fixture.output t.options)
  | .primary, .failed cause =>
    return .failed (.unexpectedError (Grammar.label entry.grammar) cause)
  | _, _ => x.crossCheck t entry

def primaryPass (x : Examiner) (fixture : Fixture) (options : Options) : Logged Primary :=
  if options.expectsFailure fixture.name then return .expectedFailure
  else do
    match ← Pass.run x.engine fixture.code options with
    | .ok pass => return .formatted pass
    | .error cause => return .failed cause

def trial (x : Examiner) (plan : Plan) (fixture : Fixture) : Logged Trial := do
  let options := plan.optionsFor fixture
  let primary ← x.primaryPass fixture options
  let shown := plan.options.title
  let title := if shown = "" then fixture.name else fixture.name ++ " - " ++ shown
  return { plan, fixture, title, options, primary }

structure Examined where
  title : String
  entry : Entry
  finding : Finding

def examine (x : Examiner) (t : Trial) (entry : Entry) : Logged (List Examined) :=
  (x.examineEntry t entry).map fun finding => [⟨t.title, entry, finding⟩]

def entriesOf (x : Examiner) (t : Trial) : List Entry :=
  t.plan.entries t.relative (t.options.expectsFailure t.fixture.name) x.exceptions

def examineFixture (x : Examiner) (plan : Plan) (fixture : Fixture) : Logged (List Examined) := do
  let t ← x.trial plan fixture
  Logged.gather ((x.entriesOf t).map (x.examine t))

def examineRun (x : Examiner) (run : PreparedRun) : Logged (List Examined) :=
  Logged.gather (run.fixtures.map (x.examineFixture run.plan))

end Examiner

end FormatConformance
