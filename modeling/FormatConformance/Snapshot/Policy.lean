import FormatConformance.Snapshot.Preferences

/-!
How baselines in files are kept up to date: what becomes of a text without an equal baseline, and
what counts as equal. The environment decides, and where it does not, the preferences of the
workspace.
-/

namespace FormatConformance

inductive SnapshotUpdate where
  | never
  | pending
  | unseen
  | always
  | force
  deriving DecidableEq, Repr

structure SnapshotPolicy where
  update : SnapshotUpdate := .never
  lenient : Bool := false
  exact : Bool := false
  deriving DecidableEq, Repr

namespace SnapshotPolicy

def updateVariable : String := "INSTA_UPDATE"

def lenientVariable : String := "INSTA_FORCE_PASS"

def exactVariable : String := "INSTA_REQUIRE_FULL_MATCH"

def outputVariable : String := "INSTA_OUTPUT"

def forceVariables : List String := ["INSTA_FORCE_UPDATE_SNAPSHOTS", "INSTA_FORCE_UPDATE"]

def workspaceVariable : String := "INSTA_WORKSPACE_ROOT"

def unattendedVariable : String := "CI"

def serviceVariable : String := "TF_BUILD"

def allVariables : List String :=
  [updateVariable, lenientVariable, exactVariable, outputVariable, workspaceVariable,
    unattendedVariable, serviceVariable] ++ forceVariables

/-- The value of a variable; an empty one is as good as none. -/
def given? (environment : List (String × String)) (name : String) : Option String :=
  (environment.lookup name).filter (· ≠ "")

def isUnattended (environment : List (String × String)) : Bool :=
  match environment.lookup unattendedVariable with
  | some value => !(["false", "0", ""].contains value)
  | none => (environment.lookup serviceVariable).isSome

def askedFor (environment : List (String × String)) (preferences : SnapshotPreferences) : String :=
  if forceVariables.any fun name => environment.lookup name == some "1" then "force"
  else match given? environment updateVariable, preferences.update with
    | some value, _ => value
    | none, some value => Text.asString value
    | none, none => if preferences.forced then "force" else "auto"

def update? (environment : List (String × String)) (name : String) : Option SnapshotUpdate :=
  match name with
  | "auto" => some (if isUnattended environment then .never else .pending)
  | "no" => some .never
  | "new" => some .pending
  | "unseen" => some .unseen
  | "always" | "1" => some .always
  | "force" => some .force
  | _ => none

def switch? (environment : List (String × String)) (name : String) (preferred : Bool) :
    Option Bool :=
  match given? environment name with
  | none => some preferred
  | some "0" => some false
  | some "1" => some true
  | some _ => none

def isOutput (value : String) : Bool := ["diff", "summary", "minimal", "none"].contains value

def ofEnvironment? (environment : List (String × String)) (preferences : SnapshotPreferences) :
    Option SnapshotPolicy := do
  let update ← update? environment (askedFor environment preferences)
  let lenient ← switch? environment lenientVariable preferences.lenient
  let exact ← switch? environment exactVariable preferences.exact
  let output := given? environment outputVariable <|> preferences.output.map Text.asString
  guard (output.all isOutput)
  return { update, lenient, exact }

/-- The policy at a workplace. Where all texts are to be accepted, the environment has no say in
that. -/
def ofWorkplace? (place : Workplace) (environment : List (String × String)) (accepting : Bool) :
    Option SnapshotPolicy := do
  let environment :=
    if accepting then (updateVariable, "always") :: environment else environment
  let directory := (environment.lookup workspaceVariable).getD "."
  ofEnvironment? environment (← SnapshotPreferences.ofWorkspace? place directory)

end SnapshotPolicy

end FormatConformance
